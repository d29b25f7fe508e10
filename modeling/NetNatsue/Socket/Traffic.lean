import NetNatsue.Foundations.Outgoing
import NetNatsue.Socket.Socket

/-! The output side of the socket as a succession of lines to the server. -/
namespace NetNatsue.NetNatsueSocket

/-- The connection is open, or being opened. -/
abbrev Live (s : NetNatsueSocket) : Prop := s.myState = .connected ∨ s.myState = .connecting

/-- Each connection is a line; the output buffer waits on the current one. -/
def outgoing (s : NetNatsueSocket) : Outgoing.Lines UInt8 :=
  { current := s.os.connection, live := s.Live, taken := s.os.accepted, waiting := s.myOutput
    ended := s.os.closings }

/-- What an operation on the socket can do to its output. -/
abbrev Moves (s t : NetNatsueSocket) : Prop := Outgoing.Moves s.outgoing t.outgoing

theorem moves_close (s : NetNatsueSocket) : s.Moves s.close := by
  apply Relation.ReflTransGen.single
  exact .giveUp s.outgoing

theorem moves_closeWith (s : NetNatsueSocket) (errno : Int32) : s.Moves (s.closeWith errno) := by
  apply Relation.ReflTransGen.single
  exact .giveUp s.outgoing

theorem moves_tookBytes (s : NetNatsueSocket) (h : s.myState = .connected) (sent : ℕ) :
    s.Moves (s.tookBytes sent) := by
  apply Relation.ReflTransGen.single
  exact .take s.outgoing sent (by simp [outgoing, h])

theorem moves_flushLoop (n : ℕ) (s : NetNatsueSocket) (h : s.myState = .connected) :
    s.Moves (flushLoop n s).2 := by
  induction n generalizing s with
  | zero => exact .refl
  | succ n ih =>
    simp only [flushLoop]
    by_cases hempty : s.myOutput = []
    · rw [if_pos hempty]
    · rw [if_neg hempty]
      cases s.os.sends.head with
      | took count => exact (moves_tookBytes s.popSend h _).trans (ih _ h)
      | failed errno =>
        simp only
        split_ifs
        · exact .refl
        · exact moves_closeWith s.popSend errno

theorem moves_flushOutput (s : NetNatsueSocket) : s.Moves s.flushOutput.2 := by
  unfold flushOutput
  split_ifs with h
  · exact .refl
  · exact moves_flushLoop _ s (by simpa using h)

theorem moves_write (s : NetNatsueSocket) (data : Bytes) (size : Int32) :
    s.Moves (s.write data size).2 := by
  unfold write
  split_ifs
  · exact .refl
  · exact .refl
  · have hput : s.Moves (s.queue (data.take size.toInt.toNat)) := by
      apply Relation.ReflTransGen.single
      exact .put s.outgoing _
    exact hput.trans (moves_flushOutput _)

theorem moves_readLoop (answers : List RecvAnswer) (s : NetNatsueSocket) :
    s.Moves (readLoop answers s).2 := by
  induction answers generalizing s with
  | nil => exact .refl
  | cons answer answers ih =>
    cases answer with
    | data bytes =>
      simp only [readLoop]
      split_ifs
      · exact moves_close s
      · exact ih (s.gotBytes bytes)
    | failed errno =>
      simp only [readLoop]
      split_ifs
      · exact .refl
      · exact moves_closeWith s errno

theorem moves_readInput (s : NetNatsueSocket) : s.Moves s.readInput.2 := by
  unfold readInput
  split_ifs
  · exact .refl
  · exact moves_readLoop _ s.popRecv

theorem moves_pumpConnect (s : NetNatsueSocket) : s.Moves s.pumpConnect := by
  unfold pumpConnect
  by_cases h : s.myState = .connecting
  · rw [if_neg (by simpa using h)]
    cases s.os.selects.head with
    | failed errno => exact moves_closeWith s errno
    | notReady => exact .refl
    | ready socketError inErrorSet inWriteSet errno =>
      simp only
      split_ifs
      · exact moves_closeWith s _
      · exact moves_closeWith s _
      · -- a connection that is being opened is live already
        have hsame : ({ s.popSelect with myState := .connected } : NetNatsueSocket).outgoing =
            s.outgoing := by simp [outgoing, popSelect, h]
        rw [Moves, hsame]
      · exact .refl
  · rw [if_pos h]

theorem moves_beginConnect (s : NetNatsueSocket) : s.Moves s.beginConnect.2 := by
  have hclose : Outgoing.Moves s.outgoing s.close.outgoing := moves_close s
  have hrenew : Outgoing.Moves s.close.outgoing
      { s.close.outgoing with current := s.os.connection + 1, live := true, waiting := [] } :=
    .single (.renew s.close.outgoing (by simp [outgoing]))
  have hfail := hrenew.tail (.giveUp _)
  unfold beginConnect
  simp only
  cases s.close.os.connects.head with
  | unresolved errno => exact hclose
  | noSocket errno => exact hclose
  | notNonBlocking handle errno => exact hclose.trans hfail
  | connected handle => exact hclose.trans hrenew
  | failed handle errno =>
    simp only
    split_ifs
    · exact hclose.trans hrenew
    · exact hclose.trans hfail

/-- Connections are counted up; a connection that is begun is a new one. -/
theorem beginConnect_connection (s : NetNatsueSocket) :
    s.os.connection ≤ s.beginConnect.2.os.connection ∧
      (s.beginConnect.1 = true → s.os.connection < s.beginConnect.2.os.connection) := by
  unfold beginConnect
  simp only
  cases s.close.os.connects.head with
  | unresolved errno => exact ⟨le_rfl, fun h => by cases h⟩
  | noSocket errno => exact ⟨le_rfl, fun h => by cases h⟩
  | notNonBlocking handle errno => exact ⟨Nat.le_succ _, fun _ => Nat.lt_succ_self _⟩
  | connected handle => exact ⟨Nat.le_succ _, fun _ => Nat.lt_succ_self _⟩
  | failed handle errno =>
    simp only
    split_ifs
    · exact ⟨Nat.le_succ _, fun _ => Nat.lt_succ_self _⟩
    · exact ⟨Nat.le_succ _, fun _ => Nat.lt_succ_self _⟩

theorem moves_consumeInput (s : NetNatsueSocket) (bytes : Int32) :
    s.Moves (s.consumeInput bytes) := by
  unfold consumeInput
  split_ifs <;> exact .refl

theorem tookBytes_line (s : NetNatsueSocket) (sent : ℕ) : (s.tookBytes sent).line = s.line := by
  simp [line, tookBytes, List.append_assoc, List.take_append_drop]

/-- Sending that does not fail only moves the border between sent and unsent. -/
theorem flushLoop_line (n : ℕ) (s : NetNatsueSocket) (h : (flushLoop n s).1 = true) :
    (flushLoop n s).2.line = s.line ∧ (flushLoop n s).2.os.connection = s.os.connection ∧
      (flushLoop n s).2.myState = s.myState := by
  induction n generalizing s with
  | zero => exact ⟨rfl, rfl, rfl⟩
  | succ n ih =>
    simp only [flushLoop] at h ⊢
    by_cases hempty : s.myOutput = []
    · rw [if_pos hempty]
      exact ⟨rfl, rfl, rfl⟩
    · rw [if_neg hempty] at h ⊢
      cases hanswer : s.os.sends.head with
      | took count =>
        simp only [hanswer] at h
        obtain ⟨hline, hsame⟩ := ih _ h
        rw [tookBytes_line] at hline
        exact ⟨hline, hsame⟩
      | failed errno =>
        simp only [hanswer] at h ⊢
        split_ifs at h ⊢
        exact ⟨rfl, rfl, rfl⟩

/-- What is written lies on the line where it ended before. -/
theorem write_lies (s : NetNatsueSocket) (data : Bytes) (hfit : data.length < 4294967296)
    (h : (s.write data (sizeInt data)).1 = true) :
    (s.write data (sizeInt data)).2.os.connection = s.os.connection ∧
      (s.write data (sizeInt data)).2.myState = .connected ∧
      Outgoing.Lies (s.write data (sizeInt data)).2.line s.line.length data := by
  have hlie := Outgoing.lies_end s.line data
  have hshort : ¬ sizeInt data < 0 → data.length < 2147483648 := by
    intro hnonneg
    by_contra hlong
    rw [Word32.lt_iff, sizeInt, Word32.toInt_ofNat_negative _ (by omega) hfit,
      Word32.toInt_zero] at hnonneg
    omega
  unfold write at h ⊢
  split_ifs at h ⊢ with hrefuse hzero
  all_goals have hconnected : s.myState = .connected := by tauto
  · -- nothing to write
    have hlength := sizeInt_toInt data (hshort (by tauto))
    rw [hzero, Word32.toInt_zero] at hlength
    have hnil : data = [] := List.eq_nil_of_length_eq_zero (by omega)
    subst hnil
    exact ⟨rfl, hconnected, by simp [Outgoing.Lies]⟩
  · have hlength := sizeInt_toInt data (hshort (by tauto))
    have hall : data.take (sizeInt data).toInt.toNat = data := List.take_of_length_le (by omega)
    rw [hall] at h ⊢
    unfold flushOutput at h ⊢
    rw [if_neg (by simpa [queue] using hconnected)] at h ⊢
    obtain ⟨hline, hconnection, hstate⟩ := flushLoop_line _ _ h
    have hqueue : (s.queue data).line = s.line ++ data := by simp [line, queue]
    rw [hline, hqueue]
    exact ⟨hconnection, hstate.trans hconnected, hlie⟩

/-- What an operation can do to the socket without opening a connection. -/
structure Drifts (s t : NetNatsueSocket) : Prop where
  moves : s.Moves t
  connection : t.os.connection = s.os.connection
  connected : t.myState = .connected → s.Live
  connecting : t.myState = .connecting → s.myState = .connecting

theorem drifts_refl (s : NetNatsueSocket) : s.Drifts s := ⟨.refl, rfl, Or.inl, id⟩

theorem Drifts.trans {s t u : NetNatsueSocket} (h : s.Drifts t) (h' : t.Drifts u) : s.Drifts u where
  moves := h.moves.trans h'.moves
  connection := h'.connection.trans h.connection
  connected hu := (h'.connected hu).elim h.connected (fun ht => Or.inr (h.connecting ht))
  connecting hu := h.connecting (h'.connecting hu)

/-- The connection stays what it is, or is given up. -/
theorem drifts_of_kept {s t : NetNatsueSocket} (hmoves : s.Moves t)
    (hconnection : t.os.connection = s.os.connection)
    (h : t.myState = s.myState ∨ t.myState = .closed ∨ t.myState = .failed) : s.Drifts t := by
  refine ⟨hmoves, hconnection, fun ht => ?_, fun ht => ?_⟩ <;> rw [ht] at h
  · exact Or.inl (by simpa [eq_comm] using h)
  · simpa [eq_comm] using h

theorem drifts_close (s : NetNatsueSocket) : s.Drifts s.close :=
  drifts_of_kept (moves_close s) rfl (Or.inr (Or.inl rfl))

theorem drifts_consumeInput (s : NetNatsueSocket) (bytes : Int32) :
    s.Drifts (s.consumeInput bytes) := by
  refine drifts_of_kept (moves_consumeInput s bytes) ?_ (Or.inl ?_) <;>
  · unfold consumeInput
    split_ifs <;> rfl

theorem flushLoop_kept (n : ℕ) (s : NetNatsueSocket) :
    (flushLoop n s).2.os.connection = s.os.connection ∧
      ((flushLoop n s).2.myState = s.myState ∨ (flushLoop n s).2.myState = .closed) := by
  induction n generalizing s with
  | zero => exact ⟨rfl, Or.inl rfl⟩
  | succ n ih =>
    simp only [flushLoop]
    by_cases hempty : s.myOutput = []
    · rw [if_pos hempty]
      exact ⟨rfl, Or.inl rfl⟩
    · rw [if_neg hempty]
      cases s.os.sends.head with
      | took count => exact ih _
      | failed errno =>
        simp only
        split_ifs
        · exact ⟨rfl, Or.inl rfl⟩
        · exact ⟨rfl, Or.inr rfl⟩

theorem flushOutput_kept (s : NetNatsueSocket) :
    s.flushOutput.2.os.connection = s.os.connection ∧
      (s.flushOutput.2.myState = s.myState ∨ s.flushOutput.2.myState = .closed) := by
  unfold flushOutput
  split_ifs
  · exact ⟨rfl, Or.inl rfl⟩
  · exact flushLoop_kept _ s

theorem write_kept (s : NetNatsueSocket) (data : Bytes) (size : Int32) :
    (s.write data size).2.os.connection = s.os.connection ∧
      ((s.write data size).2.myState = s.myState ∨ (s.write data size).2.myState = .closed) := by
  unfold write
  split_ifs
  · exact ⟨rfl, Or.inl rfl⟩
  · exact ⟨rfl, Or.inl rfl⟩
  · exact flushOutput_kept (s.queue (data.take size.toInt.toNat))

theorem flushLoop_failed (n : ℕ) (s : NetNatsueSocket) (h : (flushLoop n s).1 = false) :
    (flushLoop n s).2.myState = .closed := by
  induction n generalizing s with
  | zero => cases h
  | succ n ih =>
    simp only [flushLoop] at h ⊢
    by_cases hempty : s.myOutput = []
    · rw [if_pos hempty] at h
      cases h
    · rw [if_neg hempty] at h ⊢
      cases hanswer : s.os.sends.head with
      | took count =>
        simp only [hanswer] at h
        exact ih _ h
      | failed errno =>
        simp only [hanswer] at h ⊢
        split_ifs at h ⊢
        rfl

/-- Sending that fails leaves something unsent. -/
theorem flushLoop_unsent (n : ℕ) (s : NetNatsueSocket) (h : (flushLoop n s).1 = false) :
    ((flushLoop n s).2.os.accepted s.os.connection).length < s.line.length := by
  induction n generalizing s with
  | zero => cases h
  | succ n ih =>
    simp only [flushLoop] at h ⊢
    by_cases hempty : s.myOutput = []
    · rw [if_pos hempty] at h
      cases h
    · rw [if_neg hempty] at h ⊢
      cases hanswer : s.os.sends.head with
      | took count =>
        simp only [hanswer] at h
        have hrest := ih _ h
        rw [tookBytes_line] at hrest
        exact hrest
      | failed errno =>
        simp only [hanswer] at h ⊢
        split_ifs at h ⊢
        change (s.os.accepted s.os.connection).length < s.line.length
        have hpos := List.length_pos_of_ne_nil hempty
        rw [line, List.length_append]
        omega

/-- A write that fails has not sent everything. -/
theorem write_unsent (s : NetNatsueSocket) (data : Bytes) (size : Int32) (hsome : data ≠ [])
    (h : (s.write data size).1 = false) :
    ((s.write data size).2.os.accepted s.os.connection).length < s.line.length + data.length := by
  have hpos := List.length_pos_of_ne_nil hsome
  unfold write at h ⊢
  split_ifs at h ⊢ with hrefuse
  · change (s.os.accepted s.os.connection).length < s.line.length + data.length
    rw [line, List.length_append]
    omega
  · have hconnected : (s.queue (data.take size.toInt.toNat)).myState = .connected := by
      by_contra hother
      exact hrefuse (Or.inl hother)
    unfold flushOutput at h ⊢
    rw [if_neg (not_not_intro hconnected)] at h ⊢
    refine (flushLoop_unsent _ _ h).trans_le ?_
    have hqueue : (s.queue (data.take size.toInt.toNat)).line = s.line ++
        data.take size.toInt.toNat := by
      simp [line, queue]
    rw [hqueue, List.length_append]
    have htake := List.length_take_le size.toInt.toNat data
    rw [List.length_take] at htake ⊢
    omega

/-- A write of something with a size fails only for want of a connection. -/
theorem write_failed (s : NetNatsueSocket) (data : Bytes) (size : Int32) (hsize : 0 ≤ size.toInt)
    (h : (s.write data size).1 = false) : (s.write data size).2.myState ≠ .connected := by
  have hnonneg : ¬ size < 0 := by
    rw [Word32.lt_iff, Word32.toInt_zero]
    omega
  unfold write at h ⊢
  split_ifs at h ⊢ with hrefuse
  · exact hrefuse.resolve_right hnonneg
  · unfold flushOutput at h ⊢
    have hconnected : (s.queue (data.take size.toInt.toNat)).myState = .connected := by
      by_contra hother
      exact hrefuse (Or.inl hother)
    rw [if_neg (not_not_intro hconnected)] at h ⊢
    rw [flushLoop_failed _ _ h]
    decide

theorem drifts_write (s : NetNatsueSocket) (data : Bytes) (size : Int32) :
    s.Drifts (s.write data size).2 := by
  obtain ⟨hconnection, hstate⟩ := write_kept s data size
  exact drifts_of_kept (moves_write s data size) hconnection (hstate.imp id Or.inl)

theorem readLoop_kept (answers : List RecvAnswer) (s : NetNatsueSocket) :
    (readLoop answers s).2.os.connection = s.os.connection ∧
      ((readLoop answers s).2.myState = s.myState ∨ (readLoop answers s).2.myState = .closed) := by
  induction answers generalizing s with
  | nil => exact ⟨rfl, Or.inl rfl⟩
  | cons answer answers ih =>
    cases answer with
    | data bytes =>
      simp only [readLoop]
      split_ifs
      · exact ⟨rfl, Or.inr rfl⟩
      · exact ih (s.gotBytes bytes)
    | failed errno =>
      simp only [readLoop]
      split_ifs
      · exact ⟨rfl, Or.inl rfl⟩
      · exact ⟨rfl, Or.inr rfl⟩

theorem drifts_readInput (s : NetNatsueSocket) : s.Drifts s.readInput.2 := by
  have hkept : s.readInput.2.os.connection = s.os.connection ∧
      (s.readInput.2.myState = s.myState ∨ s.readInput.2.myState = .closed) := by
    unfold readInput
    split_ifs
    · exact ⟨rfl, Or.inl rfl⟩
    · exact readLoop_kept _ s.popRecv
  exact drifts_of_kept (moves_readInput s) hkept.1 (hkept.2.imp id Or.inl)

theorem drifts_pumpConnect (s : NetNatsueSocket) : s.Drifts s.pumpConnect := by
  have hmoves := moves_pumpConnect s
  unfold pumpConnect at hmoves ⊢
  split_ifs at hmoves ⊢ with h
  · exact drifts_refl s
  · have hconnecting : s.myState = .connecting := by simpa using h
    refine ⟨hmoves, ?_, fun _ => Or.inr hconnecting, fun _ => hconnecting⟩
    cases s.os.selects.head with
    | failed errno => rfl
    | notReady => rfl
    | ready socketError inErrorSet inWriteSet errno =>
      simp only
      split_ifs <;> rfl

theorem drifts_pump (s : NetNatsueSocket) : s.Drifts s.pump.2 := by
  unfold pump
  split_ifs
  · exact drifts_pumpConnect s
  · exact drifts_refl s
  · have hflush : s.Drifts s.flushOutput.2 := drifts_of_kept (moves_flushOutput s)
      (flushOutput_kept s).1 ((flushOutput_kept s).2.imp id Or.inl)
    simp only
    split_ifs
    · exact hflush.trans (drifts_readInput _)
    · exact hflush

end NetNatsue.NetNatsueSocket
