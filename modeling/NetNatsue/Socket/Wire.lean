import NetNatsue.Foundations.Accounts
import NetNatsue.Socket.Counters
import NetNatsue.Socket.Handles
import NetNatsue.Socket.Session

/-! The account of what was written on each connection, through all that the socket does. Only a
write and the begin of another connection change more than where the border between sent and unsent
lies; and these two read nothing. -/
namespace NetNatsue.NetNatsueSocket

/-- The output is sent, kept or lost, and nothing is added to it. -/
abbrev Coasts (s t : NetNatsueSocket) : Prop := Outgoing.Coasts s.outgoing t.outgoing

theorem coasts_of_eq {s t : NetNatsueSocket} (h : t.outgoing = s.outgoing) : s.Coasts t := by
  rw [Coasts, h]
  exact Outgoing.coasts_refl _

theorem coasts_close (s : NetNatsueSocket) : s.Coasts s.close := Outgoing.coasts_giveUp s.outgoing _

theorem coasts_closeWith (s : NetNatsueSocket) (errno : Int32) : s.Coasts (s.closeWith errno) :=
  Outgoing.coasts_giveUp s.outgoing _

theorem coasts_flushLoop (n : ℕ) (s : NetNatsueSocket) (h : s.myState = .connected) :
    s.Coasts (flushLoop n s).2 := by
  induction n generalizing s with
  | zero => exact coasts_of_eq rfl
  | succ n ih =>
    simp only [flushLoop]
    by_cases hempty : s.myOutput = []
    · rw [if_pos hempty]
      exact coasts_of_eq rfl
    · rw [if_neg hempty]
      cases s.os.sends.head with
      | took count =>
        have htake : s.Coasts (s.popSend.tookBytes (max 1 (min count s.myOutput.length))) :=
          Outgoing.coasts_take s.outgoing _ (by simp [outgoing, h])
        exact htake.trans (ih _ h)
      | failed errno =>
        simp only
        split_ifs
        · exact coasts_of_eq rfl
        · exact coasts_closeWith s.popSend errno

theorem coasts_flushOutput (s : NetNatsueSocket) : s.Coasts s.flushOutput.2 := by
  unfold flushOutput
  split_ifs with h
  · exact coasts_of_eq rfl
  · exact coasts_flushLoop _ s (not_not.mp h)

theorem coasts_readLoop (answers : List RecvAnswer) (s : NetNatsueSocket) :
    s.Coasts (readLoop answers s).2 := by
  induction answers generalizing s with
  | nil => exact coasts_of_eq rfl
  | cons answer answers ih =>
    cases answer with
    | data bytes =>
      simp only [readLoop]
      split_ifs
      · exact coasts_close s
      · exact ih (s.gotBytes bytes)
    | failed errno =>
      simp only [readLoop]
      split_ifs
      · exact coasts_of_eq rfl
      · exact coasts_closeWith s errno

theorem coasts_readInput (s : NetNatsueSocket) : s.Coasts s.readInput.2 := by
  unfold readInput
  split_ifs
  · exact coasts_of_eq rfl
  · exact coasts_readLoop _ s.popRecv

theorem coasts_pumpConnect (s : NetNatsueSocket) : s.Coasts s.pumpConnect := by
  unfold pumpConnect
  by_cases h : s.myState = .connecting
  · rw [if_neg (not_not_intro h)]
    cases s.os.selects.head with
    | failed errno => exact coasts_closeWith s errno
    | notReady => exact coasts_of_eq rfl
    | ready socketError inErrorSet inWriteSet errno =>
      simp only
      split_ifs
      · exact coasts_closeWith s _
      · exact coasts_closeWith s _
      · exact coasts_of_eq (by simp [outgoing, popSelect, h])
      · exact coasts_of_eq rfl
  · rw [if_pos h]
    exact coasts_of_eq rfl

theorem coasts_pump (s : NetNatsueSocket) : s.Coasts s.pump.2 := by
  unfold pump
  split_ifs
  · exact coasts_pumpConnect s
  · exact coasts_of_eq rfl
  · simp only
    split_ifs
    · exact (coasts_flushOutput s).trans (coasts_readInput _)
    · exact coasts_flushOutput s

theorem coasts_consumeInput (s : NetNatsueSocket) (bytes : Int32) :
    s.Coasts (s.consumeInput bytes) := by
  unfold consumeInput
  split_ifs <;> exact coasts_of_eq rfl

/-- What a pump does to the socket by itself. -/
inductive Turned : NetNatsueSocket → NetNatsueSocket → Prop
  | close (s : NetNatsueSocket) : Turned s s.close
  | pumpConnect (s : NetNatsueSocket) : Turned s s.pumpConnect
  | pump (s : NetNatsueSocket) : Turned s s.pump.2

section
variable {s t : NetNatsueSocket}

theorem Turned.used (h : s.Turned t) : s.Used t := by
  cases h with
  | close => exact .close s
  | pumpConnect => exact .pumpConnect s
  | pump => exact .pump s

theorem Turned.drifts (h : s.Turned t) : s.Drifts t := h.used.drifts

theorem Turned.coasts (h : s.Turned t) : s.Coasts t := by
  cases h with
  | close => exact coasts_close s
  | pumpConnect => exact coasts_pumpConnect s
  | pump => exact coasts_pump s

theorem Turned.arrives (h : s.Turned t) : s.Arrives t := by
  cases h with
  | close => exact arrives_same rfl rfl
  | pumpConnect => exact (pumpConnect_queue s).1
  | pump => exact (pump_queue s).1

theorem Turned.counted (h : s.Turned t) (hs : s.Counted) : t.Counted := by
  cases h with
  | close => exact hs.close
  | pumpConnect => exact hs.pumpConnect
  | pump => exact hs.pump

end

section
variable {s : NetNatsueSocket} {ledger : ℕ → Bytes}

/-- A write is on the account at once, whether it succeeds or not. -/
theorem accounts_write (h : Outgoing.Accounts s.outgoing ledger)
    (hconnected : s.myState = .connected)
    (data : Bytes) (size : Int32) (hsize : ¬ size < 0) {later : ℕ → Bytes}
    (hcurrent : later s.os.connection = ledger s.os.connection ++ data.take size.toInt.toNat)
    (hothers : ∀ line, line ≠ s.os.connection → later line = ledger line) :
    Outgoing.Accounts (s.write data size).2.outgoing later := by
  have hlive : s.outgoing.live = true := by simp [outgoing, hconnected]
  have hput := h.put hlive (data.take size.toInt.toNat) hcurrent hothers
  have hrefuse : ¬ (s.myState ≠ .connected ∨ size < 0) := by
    rintro (hdown | hneg)
    · exact hdown hconnected
    · exact hsize hneg
  unfold write
  rw [if_neg hrefuse]
  by_cases hzero : size = 0
  · rw [if_pos hzero]
    have hnone : data.take size.toInt.toNat = [] := by simp [hzero]
    rw [hnone, List.append_nil] at hput
    exact hput
  · rw [if_neg hzero]
    exact hput.coasts (coasts_flushOutput (s.queue (data.take size.toInt.toNat)))

/-- The next connection starts with nothing on its account. -/
theorem accounts_beginConnect (h : Outgoing.Accounts s.outgoing ledger) :
    Outgoing.Accounts s.beginConnect.2.outgoing ledger := by
  have hclose : Outgoing.Accounts s.close.outgoing ledger := h.coasts (coasts_close s)
  have hrenew := hclose.renew
  unfold beginConnect
  simp only
  cases s.close.os.connects.head with
  | unresolved errno => exact hclose
  | noSocket errno => exact hclose
  | notNonBlocking handle errno => exact hrenew.coasts (Outgoing.coasts_giveUp _ _)
  | connected handle => exact hrenew
  | failed handle errno =>
    simp only
    split_ifs
    · exact hrenew
    · exact hrenew.coasts (Outgoing.coasts_giveUp _ _)

/-- A connection that is begun has brought nothing yet. -/
theorem beginConnect_blank (hs : s.Counted) (hok : s.beginConnect.1 = true) :
    s.beginConnect.2.myInput = [] ∧ s.beginConnect.2.os.received
      s.beginConnect.2.os.connection = [] := by
  have hnew := hs.received.later _ (Nat.lt_succ_self s.os.connection)
  unfold beginConnect at hok ⊢
  simp only at hok ⊢
  cases hanswer : s.close.os.connects.head with
  | unresolved | noSocket | notNonBlocking => simp [hanswer] at hok
  | connected handle => exact ⟨rfl, hnew⟩
  | failed handle errno =>
    simp only [hanswer] at hok ⊢
    split_ifs at hok ⊢
    exact ⟨rfl, hnew⟩

end

/-- A write reads nothing. -/
theorem write_reads (s : NetNatsueSocket) (data : Bytes) (size : Int32) :
    (s.write data size).2.myInput = s.myInput ∧
      (s.write data size).2.os.received (s.write data size).2.os.connection =
        s.os.received s.os.connection := by
  have hinput : (s.write data size).2.myInput = s.myInput :=
    congrArg (fun r => r.2.myInput) (s.write_withInput s.myInput data size)
  obtain ⟨⟨bytes, hmore, hreceived⟩, _⟩ := s.write_queue data size
  rw [hinput] at hmore
  rw [List.self_eq_append_right.mp hmore, List.append_nil] at hreceived
  exact ⟨hinput, hreceived⟩

end NetNatsue.NetNatsueSocket
