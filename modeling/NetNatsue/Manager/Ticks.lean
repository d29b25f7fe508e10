import NetNatsue.Manager.Deadlines
import NetNatsue.Manager.Discipline
import NetNatsue.Manager.Rests
import NetNatsue.Manager.SpoolNames

/-! What the ticks of the engine achieve over a run. Queued messages are sent one a tick and in
order, and the outbox is not left alone for long. -/
namespace NetNatsue

/-- The messages a call queues. -/
def Op.queues : Op → List QueuedMessage
  | .queueMessage message => [message]
  | _ => []

/-- The messages whose `Send` a call makes. -/
def Op.sends (m : DSNetManager) : Op → List QueuedMessage
  | .tick => m.pump.myQueuedMessages.take 1
  | _ => []

def Op.ticks : Op → ℕ
  | .tick => 1
  | _ => 0

/-- The messages sent in a run of calls that return. -/
def sent : List Op → DSNetManager → List QueuedMessage
  | [], _ => []
  | op :: ops, m => op.sends m ++ sent ops (op.run m).2

namespace DSNetManager
section
variable {m n k : DSNetManager}

theorem Heeded.queued (h : Heeded m n) : n.myQueuedMessages = m.myQueuedMessages := by
  rcases h.rests_or_spools with hrests | ⟨k, sender, payload, hrests, rfl⟩ <;>
    exact congrArg (fun b => b.2.2.2.1) hrests.kept

theorem Heeds.queued (h : Heeds m n) : n.myQueuedMessages = m.myQueuedMessages := by
  induction h with
  | refl => rfl
  | tail _ hheeded ih => exact hheeded.queued.trans ih

theorem pump_queued (m : DSNetManager) : m.pump.myQueuedMessages = m.myQueuedMessages :=
  (heeds_pump m).queued

theorem Deed.queued {op : Op} (h : Deed op m n) (htick : op ≠ .tick) (hqueue : op.queues = []) :
    n.myQueuedMessages = m.myQueuedMessages := by
  cases h with
  | books _ _ _ hbooks => exact congrArg World.queued hbooks.world
  | heeded _ _ _ hheeded => exact hheeded.queued
  | say _ _ packet => exact congrArg Affairs.queued (spares_socketWrite m packet).affairs
  | attempt _ users =>
    obtain ⟨_, _, _, _, hkept⟩ := attemptFor_belongings m users
    exact congrArg (fun b => b.2.2.2.1) hkept
  | hangUp => rfl
  | configure _ _ hop =>
    cases op with
    | queueMessage message => cases hqueue
    | overrideHost | setClientMode | setUser | setServerList | setOutboxDirectory | setInboxDirectory
    | environment => rfl
    | _ => cases hop
  | unqueue => exact absurd rfl htick
  | handOut | list | setAside | discard => rfl

/-- A call sends from the front of the queue, and queues behind it. -/
theorem queued_run (m : DSNetManager) (op : Op) :
    m.myQueuedMessages ++ op.queues = op.sends m ++ (op.run m).2.myQueuedMessages := by
  by_cases htick : op = .tick
  · subst htick
    change m.myQueuedMessages ++ [] =
      m.pump.myQueuedMessages.take 1 ++ (m.pump.processQueuedMessages fun _ n => n).myQueuedMessages
    rw [List.append_nil, ← pump_queued m]
    unfold processQueuedMessages
    cases hqueue : m.pump.myQueuedMessages with
    | nil => exact hqueue.symm
    | cons message messages => rfl
  · have hsends : op.sends m = [] := by
      cases op with
      | tick => exact absurd rfl htick
      | _ => rfl
    rw [hsends, List.nil_append]
    by_cases hqueue : op.queues = []
    · rw [hqueue, List.append_nil]
      exact ((op.deeds_run m).keeps (fun n => n.myQueuedMessages = m.myQueuedMessages)
        (fun _ _ hdeed hn => (hdeed.queued htick hqueue).trans hn) rfl).symm
    · cases op with
      | queueMessage message => rfl
      | _ => exact absurd rfl hqueue

/-- A tick sends one message, if there is one to send. -/
theorem sends_length (m : DSNetManager) (op : Op) :
    (op.sends m).length = min op.ticks m.myQueuedMessages.length := by
  cases op with
  | tick => simp only [Op.sends, Op.ticks, List.length_take, pump_queued]
  | _ => exact (Nat.zero_min _).symm

/-- What `ProcessQueuedMessages` calls `Send` for is what a tick sends. -/
theorem processQueuedMessages_sends (m : DSNetManager) (send : QueuedMessage → DSNetManager →
    DSNetManager) :
    m.pump.processQueuedMessages send =
      (Op.tick.sends m).foldl (fun n message => send message n) (Op.tick.run m).2 := by
  simp only [Op.sends, Op.run, processQueuedMessages]
  cases m.pump.myQueuedMessages with
  | nil => rfl
  | cons message messages => rfl

end
end DSNetManager

open DSNetManager

theorem returned_front {front back : List Op} {m : DSNetManager}
    (h : (runOps (front ++ back) m).1 = true) :
    (runOps front m).1 = true := by
  rw [runOps_append] at h
  split_ifs at h with hfront
  exact hfront

theorem sent_append (front back : List Op) (m : DSNetManager) (h : (runOps front m).1 = true) :
    sent (front ++ back) m = sent front m ++ sent back (runOps front m).2 := by
  induction front generalizing m with
  | nil => rfl
  | cons op front ih =>
    simp only [runOps] at h ⊢
    split_ifs at h ⊢ with hreturned
    rw [List.cons_append, sent, sent, ih _ h, List.append_assoc]

/-- **Queued messages are sent once, in order, and soon.** The messages that were in the queue or
have been queued in a run of calls are those that have been sent, one a tick, and behind them those
that are still in the queue; a message is sent by the tick that has its number in the queue, online
or not; and the `Send` that `SendOrdinaryMessages` calls at a tick is that of the message the tick
sends. -/
theorem queue_in_order (ops : List Op) (m : DSNetManager) (hreturned : (runOps ops m).1 = true) :
    m.myQueuedMessages ++ ops.flatMap Op.queues = sent ops m ++ (runOps ops m).2.myQueuedMessages ∧
      (sent ops m).length ≤ (ops.map Op.ticks).sum ∧
      m.myQueuedMessages.take (ops.map Op.ticks).sum <+: sent ops m ∧
      ∀ front back, ops = front ++ .tick :: back → ∀ n, n = (runOps front m).2 →
        sent ops m = sent front m ++ (Op.tick.sends n ++ sent back (Op.tick.run n).2) ∧
          ∀ send, n.sendOrdinaryMessages send =
            ((Op.tick.sends n).foldl (fun k message => send message k)
              (Op.tick.run n).2).scanIfOnline := by
  have hrun : m.myQueuedMessages ++ ops.flatMap Op.queues = sent ops m ++
    (runOps ops m).2.myQueuedMessages ∧
      (sent ops m).length ≤ (ops.map Op.ticks).sum ∧
      min (ops.map Op.ticks).sum m.myQueuedMessages.length ≤ (sent ops m).length := by
    induction ops generalizing m with
    | nil => exact ⟨List.append_nil _, le_rfl, Nat.zero_min _ ▸ le_rfl⟩
    | cons op ops ih =>
      have hop := queued_run m op
      have hsends := sends_length m op
      have hlengths := congrArg List.length hop
      simp only [runOps] at hreturned ⊢
      split_ifs at hreturned ⊢ with hfirst
      obtain ⟨hall, hmost, hleast⟩ := ih _ hreturned
      simp only [List.length_append] at hlengths
      refine ⟨?_, ?_, ?_⟩
      · rw [List.flatMap_cons, ← List.append_assoc, hop, List.append_assoc, hall, sent,
          List.append_assoc]
      · simp only [sent, List.length_append, List.map_cons, List.sum_cons]
        omega
      · simp only [sent, List.length_append, List.map_cons, List.sum_cons]
        omega
  obtain ⟨hall, hmost, hleast⟩ := hrun
  have hfront : m.myQueuedMessages.take (ops.map Op.ticks).sum <+: m.myQueuedMessages ++
      ops.flatMap Op.queues :=
    (List.take_prefix _ _).trans (List.prefix_append _ _)
  have hsent : sent ops m <+: m.myQueuedMessages ++ ops.flatMap Op.queues := by
    rw [hall]
    exact List.prefix_append _ _
  refine ⟨hall, hmost, List.prefix_of_prefix_length_le hfront hsent (by rwa [List.length_take]), ?_⟩
  rintro front back rfl n rfl
  refine ⟨sent_append front (.tick :: back) m (returned_front hreturned), fun send => ?_⟩
  rw [sendOrdinaryMessages, processQueuedMessages_sends]

/-- A client that is not connected, and two messages. -/
def queued : DSNetManager := { fresh with myQueuedMessages := [⟨ascii "a"⟩, ⟨ascii "b"⟩] }

theorem queue_in_order_queued :
    [⟨ascii "a"⟩, ⟨ascii "b"⟩] <+: sent [.tick, .queueMessage ⟨ascii "c"⟩, .tick] queued :=
  (queue_in_order [.tick, .queueMessage ⟨ascii "c"⟩, .tick] queued (by decide +kernel)).2.2.1

/-- A login is accepted. -/
def Event.Admits : Event → Prop
  | .handshake .awaitHandshake frame => letsIn frame = true
  | _ => False

/-- A login is accepted in the call. -/
def Op.Admits (m : DSNetManager) (op : Op) : Prop :=
  ∃ events, (op.run m).2.trace = m.trace ++ events ∧ ∃ e ∈ events, e.Admits

/-- The call gives cause to look into the outbox: it sets the directory, hands a name out for a new
file, or leads to a login. -/
def Op.Stirs (m : DSNetManager) (op : Op) : Prop :=
  match op with
  | .setOutboxDirectory _ => True
  | .returnUniqueOutboxFilename user =>
    ∃ path, (m.returnUniqueOutboxFilename user).1 = some path ∧ path ≠ []
  | op => op.Admits m

namespace DSNetManager

/-- The next look into the outbox is due when it was, and there is cause for one exactly if there
was before or a login has been accepted. -/
structure Marks (m n : DSNetManager) : Prop where
  next : n.myNextOutboxScan = m.myNextOutboxScan
  dirty : ∃ events, n.trace = m.trace ++ events ∧
    (n.myOutboxDirty = true ↔ m.myOutboxDirty = true ∨ ∃ e ∈ events, e.Admits)

section
variable {m n k : DSNetManager}

theorem marks_of_events (events : List Event) (htrace : n.trace = m.trace ++ events)
    (hevents : ∀ e ∈ events, ¬ e.Admits) (hdirty : n.myOutboxDirty = m.myOutboxDirty)
    (hnext : n.myNextOutboxScan = m.myNextOutboxScan) : Marks m n := by
  refine ⟨hnext, events, htrace, ?_⟩
  rw [hdirty]
  exact (or_iff_left fun ⟨e, he, hadmits⟩ => hevents e he hadmits).symm

theorem marks_of_eq (htrace : n.trace = m.trace) (hdirty : n.myOutboxDirty = m.myOutboxDirty)
    (hnext : n.myNextOutboxScan = m.myNextOutboxScan) : Marks m n :=
  marks_of_events [] (by rw [htrace, List.append_nil]) (by simp) hdirty hnext

theorem Marks.trans (h : Marks m n) (h' : Marks n k) : Marks m k := by
  obtain ⟨events, htrace, hdirty⟩ := h.dirty
  obtain ⟨more, hmore, hdirty'⟩ := h'.dirty
  refine ⟨h'.next.trans h.next, events ++ more, by rw [hmore, htrace, List.append_assoc], ?_⟩
  simp only [hdirty', hdirty, List.mem_append, or_and_right, exists_or, or_assoc]

theorem Spares.marks (h : Spares m n) : Marks m n := by
  obtain ⟨events, htrace, hevents⟩ := h.trace
  refine marks_of_events events htrace (fun e he hadmits => ?_) (congrArg Affairs.dirty h.affairs)
    (congrArg Affairs.nextScan h.affairs)
  have hwake := hevents e he
  cases e <;> first | exact hwake | exact hadmits

theorem Shown.not_admits {frame : Bytes} {e : Event} (h : Shown m frame e) : ¬ e.Admits := by
  cases h with
  | response | packet => exact id
  | stray hphase =>
    intro hadmits
    cases hm : m.myConnectPhase <;> simp [hm, Event.Admits] at hadmits hphase

theorem Met.marks {frame : Bytes} (h : Met m frame n) : Marks m n := by
  cases h.aftermath with
  | spared _ e hshown hspares =>
    have hemit : Marks m (m.emit e) :=
      marks_of_events [e] rfl (by simpa using hshown.not_admits) rfl rfl
    exact hemit.trans hspares.marks
  | spooled =>
    exact marks_of_events [_, _] (List.append_assoc _ _ _) (by simp [Event.Admits]) rfl rfl
  | refused _ hphase hcode hspares =>
    have hemit : Marks m (m.emit (.handshake m.myConnectPhase frame)) := by
      refine marks_of_events [_] rfl (fun e he hadmits => ?_) rfl rfl
      rw [List.mem_singleton.mp he, hphase] at hadmits
      exact (letsIn_iff frame).mp hadmits hcode
    exact hemit.trans hspares.marks
  | accepted k server user hphase hcode hspares =>
    obtain ⟨events, htrace, _⟩ := hspares.trace
    have hadmits : (Event.handshake m.myConnectPhase frame).Admits := by
      rw [hphase]
      exact (letsIn_iff frame).mpr hcode
    refine ⟨congrArg Affairs.nextScan hspares.affairs, .handshake m.myConnectPhase frame :: events,
      htrace.trans (List.append_assoc m.trace [_] events), iff_of_true rfl
        (Or.inr ⟨_, ?_, hadmits⟩)⟩
    exact List.mem_cons_self

theorem Heeded.marks (h : Heeded m n) : Marks m n := by
  cases h with
  | heard k totalSize _ _ hmet => exact hmet.marks.trans (marks_of_eq rfl rfl rfl)
  | dropped _ frame _ hmet => exact hmet.marks
  | lost => exact (spares_connectionLost m).marks
  | handshake => exact (spares_sendHandshake m).marks
  | _ => exact marks_of_eq rfl rfl rfl

theorem marks_attemptFor (m : DSNetManager) (users : List Bytes) :
    Marks m (m.attemptFor users) := by
  obtain ⟨rotation, host, port, id, name, hchoice⟩ :=
    ({ m with myUsersForWWR := users } : DSNetManager).chooseServer_frame
  unfold attemptFor startConnecting
  rw [hchoice]
  simp only
  split_ifs <;> exact marks_of_events [.connecting host port] rfl (by simp [Event.Admits]) rfl rfl

/-- Only a scan calms down. -/
theorem Deed.marks {op : Op} (h : Deed op m n) (hscan : op ≠ .scan)
    (houtbox : ∀ dir, op ≠ .setOutboxDirectory dir)
    (hname : ∀ user, op ≠ .returnUniqueOutboxFilename user) :
    Marks m n := by
  cases h with
  | books _ _ _ hbooks =>
    obtain ⟨events, htrace, hevents⟩ := hbooks.trace
    refine marks_of_events events htrace (fun e he hadmits => ?_)
      (congrArg World.dirty hbooks.world) (congrArg World.nextScan hbooks.world)
    have hinner := hevents e he
    cases e <;> first | exact hinner | exact hadmits
  | heeded _ _ _ hheeded => exact hheeded.marks
  | say _ _ packet => exact (spares_socketWrite m packet).marks
  | attempt _ users => exact marks_attemptFor m users
  | configure _ _ hop =>
    cases op with
    | setOutboxDirectory dir => exact absurd rfl (houtbox dir)
    | overrideHost | setClientMode | setUser | setServerList | setInboxDirectory | queueMessage | environment =>
      exact marks_of_eq rfl rfl rfl
    | _ => cases hop
  | handOut user => exact absurd rfl (hname user)
  | list | setAside | discard => exact absurd rfl hscan
  | hangUp => exact marks_of_events [.ended] rfl (by simp [Event.Admits]) rfl rfl
  | unqueue => exact marks_of_eq rfl rfl rfl

theorem marks_run (op : Op) (m : DSNetManager) (hscan : op ≠ .scan)
    (houtbox : ∀ dir, op ≠ .setOutboxDirectory dir)
    (hname : ∀ user, op ≠ .returnUniqueOutboxFilename user) :
    Marks m (op.run m).2 :=
  (op.deeds_run m).keeps (Marks m) (fun _ _ hdeed hn => hn.trans (hdeed.marks hscan houtbox hname))
    (marks_of_eq rfl rfl rfl)

theorem Marks.admits_iff {op : Op} (h : Marks m (op.run m).2) :
    (op.run m).2.myOutboxDirty = true ↔ m.myOutboxDirty = true ∨ op.Admits m := by
  obtain ⟨events, htrace, hdirty⟩ := h.dirty
  rw [hdirty]
  refine or_congr_right ⟨fun hadmits => ⟨events, htrace, hadmits⟩, ?_⟩
  rintro ⟨more, hmore, hadmits⟩
  rwa [List.append_cancel_left (htrace.symm.trans hmore)]

/-- A name is handed out with a mark that there will be a file. -/
theorem returnUniqueOutboxFilename_dirty (m : DSNetManager) (user : Bytes) :
    (m.returnUniqueOutboxFilename user).2.myNextOutboxScan = m.myNextOutboxScan ∧
      ((m.returnUniqueOutboxFilename user).2.myOutboxDirty = true ↔ m.myOutboxDirty = true ∨
        ∃ path, (m.returnUniqueOutboxFilename user).1 = some path ∧ path ≠ []) := by
  simp only [returnUniqueOutboxFilename]
  split_ifs with _ hoff
  · exact ⟨rfl, by simp⟩
  · cases hfree : freeSpoolPath m.disk.time.2 m.myOutboxDirectory
      (BabelUIN.fromString user).2 serialCount
      m.disk.time.1 with
    | none => exact ⟨rfl, by simp⟩
    | some path =>
      obtain ⟨serial, hname⟩ := freeSpoolPath_name hfree
      have hsome : path ≠ [] := by
        rw [hname]
        exact List.append_ne_nil_of_left_ne_nil hoff _
      exact ⟨rfl, iff_of_true rfl (Or.inr ⟨path, rfl, hsome⟩)⟩
  · exact ⟨rfl, by simp⟩

theorem spares_postDirectMessage (m : DSNetManager) (user data : Bytes) (size : Int32) :
    Spares m (m.postDirectMessage user data size).2 := by
  have hwrite := spares_socketWrite m (m.messagePacket user data size)
  simp only [postDirectMessage]
  split_ifs
  · exact spares_of_eq rfl rfl rfl
  · exact hwrite
  · exact hwrite.trans (spares_connectionLost _)
  · exact spares_of_eq rfl rfl rfl

theorem marks_sendOutboxFile (m : DSNetManager) (path : Bytes) :
    Marks m (m.sendOutboxFile path).2 := by
  simp only [sendOutboxFile]
  split_ifs
  · exact marks_of_eq rfl rfl rfl
  · cases (m.disk.readWholeFile path).1 with
    | none => exact marks_of_eq rfl rfl rfl
    | some contents =>
      have hread : Marks m { m with disk := (m.disk.readWholeFile path).2 } :=
        marks_of_eq rfl rfl rfl
      refine hread.trans ?_
      generalize ({ m with disk := (m.disk.readWholeFile path).2 } : DSNetManager) = n
      have hposted :=
        (spares_postDirectMessage n (userFromSpoolName (baseName path)) (prayPayload contents)
        (sizeInt (prayPayload contents))).marks
      simp only [postFile]
      generalize n.postDirectMessage _ _ _ = r at *
      split_ifs
      · exact hposted.trans (marks_of_events [.posted _ _ _ _] rfl (by simp [Event.Admits]) rfl rfl)
      · exact hposted

theorem marks_sendOutboxFiles (names : List Bytes) (m : DSNetManager) :
    Marks m (sendOutboxFiles names m) := by
  induction names generalizing m with
  | nil => exact marks_of_eq rfl rfl rfl
  | cons name names ih =>
    have hfile := marks_sendOutboxFile m (m.myOutboxDirectory ++ name)
    simp only [sendOutboxFiles]
    split_ifs
    · exact hfile.trans (ih _)
    · exact hfile
    · exact marks_of_eq rfl rfl rfl

theorem scan_reads (h : m.Scans) :
    m.scanIfOnline.myNextOutboxScan = deadlineIn m.clock.head outboxRescanMs := by
  rw [scanIfOnline_scans h]
  exact (marks_sendOutboxFiles _ _).next

theorem scan_passes (h : ¬ m.Scans) : Marks m m.scanIfOnline := by
  rcases scanIfOnline_passes h with hscan | hscan <;> rw [hscan] <;> exact marks_of_eq rfl rfl rfl

/-- **There is cause to look into the outbox** behind a call that does not look itself, exactly if
there was before or the call gives it; and the next look is due when it was. -/
theorem marked_run (op : Op) (m : DSNetManager) (hpasses : op = .scan → ¬ m.Scans) :
    (op.run m).2.myNextOutboxScan = m.myNextOutboxScan ∧
      ((op.run m).2.myOutboxDirty = true ↔ m.myOutboxDirty = true ∨ op.Stirs m) := by
  cases op with
  | setOutboxDirectory dir => exact ⟨rfl, iff_of_true rfl (Or.inr trivial)⟩
  | returnUniqueOutboxFilename user => exact returnUniqueOutboxFilename_dirty m user
  | scan =>
    have hmarks : Marks m (Op.scan.run m).2 := scan_passes (hpasses rfl)
    exact ⟨hmarks.next, hmarks.admits_iff⟩
  | _ =>
    refine ⟨(marks_run _ m ?_ ?_ ?_).next, (marks_run _ m ?_ ?_ ?_).admits_iff⟩ <;> simp

end
end DSNetManager

/-- A run whose calls return: since the latest scan that read the outbox, nothing has stirred. -/
structure Rested (os : SocketOS) (clock : Stream' UInt32) (disk : Disk) (front back : List Op) :
    Prop where
  scans : (ran os clock disk front).Scans
  next : (ran os clock disk (front ++ .scan :: back)).myNextOutboxScan =
    deadlineIn (ran os clock disk front).clock.head outboxRescanMs
  still : ∀ mid op rest, back = mid ++ op :: rest → ¬ op.Stirs
    (ran os clock disk (front ++ .scan :: mid))

theorem ran_snoc (os : SocketOS) (clock : Stream' UInt32) (disk : Disk) (ops : List Op) (op : Op)
    (h : (runOps ops (construct os clock disk)).1 = true) :
    ran os clock disk (ops ++ [op]) = (op.run (ran os clock disk ops)).2 := by
  rw [ran, runOps_append, if_pos h]
  simp only [runOps]
  split_ifs <;> rfl

theorem rested_ran (os : SocketOS) (clock : Stream' UInt32) (disk : Disk) (ops : List Op)
    (hreturned : (runOps ops (construct os clock disk)).1 = true)
    (hcalm : (ran os clock disk ops).myOutboxDirty = false) :
    ∃ front back, ops = front ++ .scan :: back ∧ Rested os clock disk front back := by
  induction ops using List.reverseRecOn with
  | nil => cases hcalm
  | append_singleton ops op ih =>
    have hbefore := returned_front hreturned
    have hstep := ran_snoc os clock disk ops op hbefore
    rw [hstep] at hcalm
    by_cases hlooks : op = .scan ∧ (ran os clock disk ops).Scans
    · obtain ⟨rfl, hscans⟩ := hlooks
      refine ⟨ops, [], rfl, hscans, ?_, fun mid other rest hnone => ?_⟩
      · rw [hstep]
        exact scan_reads hscans
      · exact absurd hnone.symm (by simp)
    · -- a call that keeps the calm only makes the rest longer
      obtain ⟨hnext, hmarked⟩ :=
        marked_run op (ran os clock disk ops) fun hscan hscans => hlooks ⟨hscan, hscans⟩
      obtain ⟨hquiet, hcause⟩ : (ran os clock disk ops).myOutboxDirty = false ∧
          ¬ op.Stirs (ran os clock disk ops) := by
        rw [← Bool.not_eq_true, hmarked, not_or, Bool.not_eq_true] at hcalm
        exact hcalm
      obtain ⟨front, back, rfl, hrested⟩ := ih hbefore hquiet
      refine ⟨front, back ++ [op], by rw [List.append_assoc, List.cons_append], hrested.scans,
        ?_, ?_⟩
      · rw [← List.cons_append, ← List.append_assoc, hstep, hnext]
        exact hrested.next
      · intro mid other rest hsplit hstirs
        rcases List.eq_nil_or_concat rest with rfl | ⟨rest, last, rfl⟩
        · obtain ⟨rfl, hop⟩ := List.append_inj' hsplit rfl
          obtain rfl := List.singleton_inj.mp hop
          exact hcause hstirs
        · rw [List.concat_eq_append, ← List.cons_append, ← List.append_assoc] at hsplit
          exact hrested.still mid other rest (List.append_inj' hsplit rfl).1 hstirs

/-- **The outbox is not left alone for long.** Where a client that is online and has an outbox would
let a scan pass without a look into it, an earlier scan of the run has looked into it less than five
seconds ago, if the clock has not gone half way round since, and no call has given cause to look
again. -/
theorem outbox_rescanned (os : SocketOS) (clock : Stream' UInt32) (disk : Disk) (ops : List Op)
    (m : DSNetManager) (hrun : m = ran os clock disk ops)
    (hreturned : (runOps ops (construct os clock disk)).1 = true) (honline : m.Online)
    (houtbox : m.myOutboxDirectory ≠ []) (hpasses : ¬ m.Scans) :
    ∃ front back, ops = front ++ .scan :: back ∧ (ran os clock disk front).Scans ∧
      (∀ mid op rest, back = mid ++ op :: rest →
        ¬ op.Stirs (ran os clock disk (front ++ .scan :: mid))) ∧
      ∀ elapsed < 2147483648,
        m.clock.head = (ran os clock disk front).clock.head + UInt32.ofNat elapsed →
        elapsed < 5000 := by
  subst hrun
  have hcalm : (ran os clock disk ops).myOutboxDirty = false :=
    Bool.eq_false_of_not_eq_true fun hdirty => hpasses ⟨honline, houtbox, Or.inl hdirty⟩
  obtain ⟨front, back, rfl, hrested⟩ := rested_ran os clock disk ops hreturned hcalm
  refine ⟨front, back, rfl, hrested.scans, hrested.still, fun elapsed hfit helapsed => ?_⟩
  by_contra hlong
  refine hpasses ⟨honline, houtbox, Or.inr ?_⟩
  rw [hrested.next, helapsed, timeAfter_deadlineIn _ _ elapsed hfit (by decide)]
  exact not_lt.mp hlong

/-- A login, and a first look into the outbox. -/
def looked : List Op := [.connectInBackground [], .tick, .setOutboxDirectory (ascii "out"), .scan]

theorem outbox_rescanned_looked :
    let os := SocketOS.scripted [[.data loginResponse]] [.took 200]
    ∃ front back, looked = front ++ .scan :: back ∧ (ran os (.const 0) .blank front).Scans ∧
      (∀ mid op rest, back = mid ++ op :: rest →
        ¬ op.Stirs (ran os (.const 0) .blank (front ++ .scan :: mid))) ∧
      ∀ elapsed < 2147483648, (ran os (.const 0) .blank looked).clock.head =
        (ran os (.const 0) .blank front).clock.head + UInt32.ofNat elapsed → elapsed < 5000 :=
  outbox_rescanned (.scripted [[.data loginResponse]] [.took 200]) (.const 0) .blank looked _ rfl
    (by decide +kernel) (by decide +kernel) (by decide +kernel) (by decide +kernel)

end NetNatsue
