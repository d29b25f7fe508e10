import NetNatsue.Manager.Runs

/-! Connection attempts and the polls of `ConnectInBackground` that make and report them. -/
namespace NetNatsue

/-- A poll that returns `block` as false: the caller stops calling. -/
def Event.reports : Event → Bool
  | .polled _ _ block => !block
  | _ => false

/-- A poll is waited for if it is made while connected or while an attempt is in progress. -/
def Event.Waited : Event → Prop
  | .polled found online _ => online = true ∨ found = .connecting ∨ found = .awaitHandshake
  | _ => True

instance : DecidablePred Event.Waited
  | .polled found online _ =>
    inferInstanceAs (Decidable (online = true ∨ found = .connecting ∨ found = .awaitHandshake))
  | .connecting _ _ | .issued _ | .started _ _ | .wrote _ _ | .response _ _ | .handshake _ _
  | .packet _ _ _ | .ended | .spooled _ _ _ | .posted _ _ _ _ | .collected _ | .yielded _ _
  | .registered _ | .added _ _ | .removed _ => isTrue trivial

/-- What happens up to the first report, and the report itself. -/
def untilReported : List Event → List Event
  | [] => []
  | e :: events => if e.reports then [e] else e :: untilReported events

/-- Attempts are made by polls, and by those only that are not waited for. -/
inductive Paired : List Event → Prop
  | nil : Paired []
  | other (e : Event) (events : List Event) (hother : ∀ host port, e ≠ .connecting host port)
    (hwaited : e.Waited) (h : Paired events) : Paired (e :: events)
  | attempt (host : Bytes) (port : Int32) (found : ConnectPhase) (block : Bool)
    (events : List Event) (hmade : ¬ (Event.polled found false block).Waited) (h : Paired events) :
    Paired (.connecting host port :: .polled found false block :: events)

theorem Paired.append {a b : List Event} (ha : Paired a) (hb : Paired b) : Paired (a ++ b) := by
  induction ha with
  | nil => exact hb
  | other e events hother hwaited _ ih => exact .other e _ hother hwaited ih
  | attempt host port found block events hmade _ ih =>
    exact .attempt host port found block _ hmade ih

/-- An attempt is followed by its own poll. -/
theorem Paired.behind {events : List Event} (h : Paired events) (before rest : List Event)
    (host : Bytes) (port : Int32) (heq : events = before ++ .connecting host port :: rest) :
    ∃ found block after, rest = .polled found false block :: after ∧ Paired after := by
  induction h generalizing before with
  | nil => simp at heq
  | other e events hother hwaited h ih =>
    cases before with
    | nil => exact absurd (List.cons.inj heq).1 (hother host port)
    | cons e' before => exact ih before (List.cons.inj heq).2
  | attempt host' port' found block events hmade h ih =>
    match before, heq with
    | [], heq => exact ⟨found, block, events, (List.cons.inj heq).2.symm, h⟩
    | [_], heq => exact absurd (List.cons.inj (List.cons.inj heq).2).1 (by simp)
    | _ :: _ :: before, heq => exact ih before (List.cons.inj (List.cons.inj heq).2).2

/-- No attempt is made before the report exactly if every poll up to it is waited for. -/
theorem Paired.untilReported_iff {events : List Event} (h : Paired events) :
    (∀ host port, .connecting host port ∉ untilReported events) ↔
      ∀ e ∈ untilReported events, e.Waited := by
  induction h with
  | nil => simp [untilReported]
  | other e events hother hwaited h ih =>
    simp only [untilReported]
    split_ifs
    · simp only [List.mem_singleton, forall_eq, hwaited, iff_true]
      exact fun host port heq => hother host port heq.symm
    · have hhead : ∀ host port, .connecting host port ≠ e := fun host port heq =>
        hother host port heq.symm
      simp only [List.mem_cons, hhead, false_or, ih, forall_eq_or_imp, hwaited, true_and]
  | attempt host port found block events hmade h ih =>
    have hattempt : .connecting host port ∈
        untilReported (.connecting host port :: .polled found false block :: events) := by
      simp [untilReported, Event.reports]
    have hpoll : .polled found false block ∈
        untilReported (.connecting host port :: .polled found false block :: events) := by
      cases block <;> simp [untilReported, Event.reports]
    constructor
    · intro hnone
      exact absurd hattempt (hnone host port)
    · intro hall
      exact absurd (hall _ hpoll) hmade

namespace DSNetManager

theorem paired_still (events : List Event) (h : ∀ e ∈ events, Event.Still e) : Paired events := by
  induction events with
  | nil => exact .nil
  | cons e events ih =>
    have hstill := h e List.mem_cons_self
    refine .other e events ?_ ?_ (ih fun e' he' => h e' (List.mem_cons_of_mem _ he'))
    · rintro host port rfl
      exact hstill
    · cases e <;> trivial

theorem Adds.paired {m : DSNetManager} {events : List Event} (h : Adds m events) :
    Paired events := by
  cases h with
  | still _ hstill => exact paired_still events hstill
  | attempt host port block hidle hidle' =>
    exact .attempt host port _ block [] (by simp [Event.Waited, hidle, hidle']) .nil
  | poll found online block hwaited => exact .other _ [] (by simp) hwaited .nil
  | post path offset packet => exact .other _ [] (by simp) trivial .nil

theorem paired_step (m n : DSNetManager) (h : Step m n) (hpaired : Paired m.trace) :
    Paired n.trace := by
  obtain ⟨events, htrace, hadds⟩ := h.adds
  rw [htrace]
  exact hpaired.append hadds.paired

end DSNetManager

/-- **One attempt for each connect.** In every run, behind a poll that starts an attempt and
returns `block` as true, no other attempt is started up to the first poll that returns it as
false exactly if each of those polls is made while connected or while an attempt is in progress. -/
theorem one_attempt_iff (os : SocketOS) (clock : Stream' UInt32) (disk : Disk) (ops : List Op)
    (before after : List Event) (host : Bytes) (port : Int32) (found : ConnectPhase)
    (h : (ran os clock disk ops).trace =
      before ++ .connecting host port :: .polled found false true :: after) :
    (∀ host' port', .connecting host' port' ∉ untilReported after) ↔
      ∀ e ∈ untilReported after, e.Waited := by
  have hpaired : Paired (ran os clock disk ops).trace :=
    (reached_ran os clock disk ops).keeps (fun m => Paired m.trace) .nil DSNetManager.paired_step
  obtain ⟨found', block, after', hrest, hafter⟩ := hpaired.behind before _ host port h
  obtain ⟨_, rfl⟩ := List.cons.inj hrest
  exact hafter.untilReported_iff

/-- An attempt that succeeds in the next poll. -/
theorem one_attempt_iff_login :
    let events := (ran (.scripted [[.data loginResponse]] [.took 54]) (.const 0) .blank
      [.connectInBackground [], .connectInBackground []]).trace
    (∀ host port, .connecting host port ∉ untilReported (events.drop 2)) ↔
      ∀ e ∈ untilReported (events.drop 2), e.Waited :=
  one_attempt_iff (.scripted [[.data loginResponse]] [.took 54]) (.const 0) .blank
    [.connectInBackground [], .connectInBackground []] [] _ defaultHost defaultPort .idle
    (by decide +kernel)

/-- The server hangs up in a tick. The next poll starts over, and asks to be called again. -/
theorem two_attempts :
    let events := (ran (.scripted [[.data []]] [.took 54]) (.const 0) .blank
      [.connectInBackground [], .tick, .connectInBackground []]).trace
    events.take 2 = [.connecting defaultHost defaultPort, .polled .idle false true] ∧
      .connecting defaultHost defaultPort ∈ untilReported (events.drop 2) ∧
      events.getLast? = some (.polled .failed false true) := by
  decide +kernel

end NetNatsue
