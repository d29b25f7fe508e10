import NetNatsue.Manager.Deeds

/-! What most deeds leave alone: the files and their directories, the queue, and the deadline of an
attempt. -/
namespace NetNatsue

namespace DSNetManager

/-- The files, where they go, the queue, and the time an attempt may take. -/
def belongings (m : DSNetManager) :=
  (m.disk.files, m.myInboxDirectory, m.myOutboxDirectory, m.myQueuedMessages, m.myConnectDeadline)

/-- These are as they were, and what is on record stays there. -/
structure Rests (m n : DSNetManager) : Prop where
  kept : n.belongings = m.belongings
  trace : ∃ events, n.trace = m.trace ++ events

section
variable {m n k : DSNetManager}

theorem rests_of_eq (hkept : n.belongings = m.belongings) (htrace : n.trace = m.trace) :
    Rests m n :=
  ⟨hkept, [], by rw [htrace, List.append_nil]⟩

theorem Rests.trans (h : Rests m n) (h' : Rests n k) : Rests m k := by
  obtain ⟨events, htrace⟩ := h.trace
  obtain ⟨more, hmore⟩ := h'.trace
  exact ⟨h'.kept.trans h.kept, events ++ more, by rw [hmore, htrace, List.append_assoc]⟩

theorem rests_emit (m : DSNetManager) (e : Event) : Rests m (m.emit e) := ⟨rfl, [e], rfl⟩

theorem Books.rests (h : Books m n) : Rests m n := by
  obtain ⟨events, htrace, _⟩ := h.trace
  exact ⟨congrArg (fun w : World => (w.files, w.inbox, w.outbox, w.queued, w.deadline)) h.world,
    events, htrace⟩

theorem Spares.rests (h : Spares m n) : Rests m n := by
  obtain ⟨events, htrace, _⟩ := h.trace
  refine ⟨?_, events, htrace⟩
  exact congrArg (fun a : Affairs => (a.disk.files, a.inbox, a.outbox, a.queued,
    a.deadline)) h.affairs

/-- A new attempt is announced, and given its time. -/
theorem attemptFor_belongings (m : DSNetManager) (users : List Bytes) :
    ∃ host port deadline, (m.attemptFor users).trace = m.trace ++ [.connecting host port] ∧
      (m.attemptFor users).belongings =
        (m.disk.files, m.myInboxDirectory, m.myOutboxDirectory, m.myQueuedMessages, deadline) := by
  obtain ⟨rotation, host, port, id, name, hchoice⟩ :=
    ({ m with myUsersForWWR := users } : DSNetManager).chooseServer_frame
  unfold attemptFor startConnecting
  rw [hchoice]
  cases hok : m.mySocket.beginConnect.1 with
  | true =>
    simp only [beginConnect, emit, hok, not_true_eq_false, ↓reduceIte]
    exact ⟨host, port, deadlineIn m.clock.head connectTimeoutMs, rfl, rfl⟩
  | false =>
    simp only [beginConnect, emit, hok, Bool.false_eq_true, not_false_eq_true, ↓reduceIte]
    exact ⟨host, port, m.myConnectDeadline, rfl, rfl⟩

/-- Of all frames only a PRAY file concerns the disk. -/
theorem Met.rests_or_spools {frame : Bytes} (h : Met m frame n) :
    Rests m n ∨ ∃ k sender payload, Rests m k ∧ n = k.spoolPrayFile sender payload := by
  cases h.aftermath with
  | spared _ e _ hspares => exact Or.inl ((rests_emit m e).trans hspares.rests)
  | spooled sender payload => exact Or.inr ⟨_, sender, payload, rests_emit m _, rfl⟩
  | refused _ _ _ hspares => exact Or.inl ((rests_emit m _).trans hspares.rests)
  | accepted k server user _ _ hspares =>
    have hadmitted : Rests m ((m.emit (.handshake m.myConnectPhase frame)).admitted server user
      (updatedServers frame (sizeInt frame))) := (rests_emit m _).trans (rests_of_eq rfl rfl)
    exact Or.inl ((hadmitted.trans hspares.rests).trans (rests_of_eq rfl rfl))

theorem Heeded.rests_or_spools (h : Heeded m n) :
    Rests m n ∨ ∃ k sender payload, Rests m k ∧ n = k.spoolPrayFile sender payload := by
  cases h with
  | clock => exact Or.inl (rests_of_eq rfl rfl)
  | socket => exact Or.inl (rests_of_eq rfl rfl)
  | heard k totalSize _ _ hmet =>
    rcases hmet.rests_or_spools with hrests | ⟨before, sender, payload, hrests, rfl⟩
    · exact Or.inl (hrests.trans (rests_of_eq rfl rfl))
    · exact Or.inr ⟨before.consume totalSize, sender, payload,
        hrests.trans (rests_of_eq rfl rfl), rfl⟩
  | dropped _ frame _ hmet => exact hmet.rests_or_spools
  | lost => exact Or.inl (spares_connectionLost m).rests
  | fail => exact Or.inl (rests_of_eq rfl rfl)
  | handshake => exact Or.inl (spares_sendHandshake m).rests

end
end DSNetManager
end NetNatsue
