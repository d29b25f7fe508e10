import NetNatsue.Socket.Traffic

/-! The answers of the system that end a connection. -/
namespace NetNatsue

/-- `send()` or `recv()` failed, and not merely for now. -/
def Hard (errno : Int32) : Prop := ¬ (errno = nnEWouldBlock ∨ errno = nnEIntr)

/-- `send()` takes fewer than `n` bytes and then fails for good. -/
def SocketOS.FailsWithin (os : SocketOS) (n : ℕ) : Prop :=
  ∃ (counts : List ℕ) (errno : Int32), os.sends.take counts.length = counts.map .took ∧
    os.sends.get counts.length = .failed errno ∧ Hard errno ∧ (counts.map (max 1)).sum < n

/-- Among the answers of `recv()` that come before it would block is the end of the stream, or a
failure for good. -/
def HangsUp (answers : List RecvAnswer) : Prop :=
  ∃ (front : List Bytes) (bad : RecvAnswer) (rest : List RecvAnswer),
    answers = front.map .data ++ bad :: rest ∧
      (bad = .data [] ∨ ∃ errno, bad = .failed errno ∧ Hard errno)

section
variable (os : SocketOS) (n : ℕ)

theorem not_failsWithin_zero : ¬ os.FailsWithin 0 := by
  rintro ⟨counts, errno, _, _, _, hsum⟩
  omega

theorem failsWithin_took (count : ℕ) (h : os.sends.head = .took count) (hpos : 0 < n) :
    os.FailsWithin n ↔
      { os with sends := os.sends.tail }.FailsWithin (n - max 1 (min count n)) := by
  constructor
  · rintro ⟨counts, errno, htake, hfail, hhard, hsum⟩
    cases counts with
    | nil =>
      change os.sends.head = _ at hfail
      rw [h] at hfail
      cases hfail
    | cons first counts =>
      rw [List.length_cons, Stream'.take_succ, h, List.map_cons, List.cons.injEq,
        SendAnswer.took.injEq] at htake
      obtain ⟨rfl, htake⟩ := htake
      rw [List.map_cons, List.sum_cons] at hsum
      exact ⟨counts, errno, htake, hfail, hhard, by omega⟩
  · rintro ⟨counts, errno, htake, hfail, hhard, hsum⟩
    refine ⟨count :: counts, errno, ?_, hfail, hhard, ?_⟩
    · rw [List.length_cons, Stream'.take_succ, h, htake, List.map_cons]
    · rw [List.map_cons, List.sum_cons]
      omega

theorem failsWithin_failed (errno : Int32) (h : os.sends.head = .failed errno) (hpos : 0 < n) :
    os.FailsWithin n ↔ Hard errno := by
  constructor
  · rintro ⟨counts, later, htake, hfail, hhard, _⟩
    cases counts with
    | nil =>
      change os.sends.head = _ at hfail
      rw [h, SendAnswer.failed.injEq] at hfail
      rwa [hfail]
    | cons first counts =>
      rw [List.length_cons, Stream'.take_succ, h, List.map_cons, List.cons.injEq] at htake
      cases htake.1
  · exact fun hhard => ⟨[], errno, rfl, h, hhard, hpos⟩

end

theorem not_hangsUp_nil : ¬ HangsUp [] := by
  rintro ⟨front, bad, rest, hsplit, _⟩
  simp at hsplit

theorem hangsUp_data (bytes : Bytes) (answers : List RecvAnswer) :
    HangsUp (.data bytes :: answers) ↔ bytes = [] ∨ HangsUp answers := by
  constructor
  · rintro ⟨front, bad, rest, hsplit, hbad⟩
    cases front with
    | nil =>
      rw [List.map_nil, List.nil_append, List.cons.injEq] at hsplit
      obtain ⟨rfl, rfl⟩ := hsplit
      rcases hbad with hend | ⟨errno, hend, _⟩
      · exact Or.inl (RecvAnswer.data.inj hend)
      · cases hend
    | cons first front =>
      rw [List.map_cons, List.cons_append, List.cons.injEq] at hsplit
      exact Or.inr ⟨front, bad, rest, hsplit.2, hbad⟩
  · rintro (rfl | ⟨front, bad, rest, hsplit, hbad⟩)
    · exact ⟨[], .data [], answers, rfl, Or.inl rfl⟩
    · exact ⟨bytes :: front, bad, rest, by rw [hsplit, List.map_cons, List.cons_append], hbad⟩

theorem hangsUp_failed (errno : Int32) (answers : List RecvAnswer) :
    HangsUp (.failed errno :: answers) ↔ Hard errno := by
  constructor
  · rintro ⟨front, bad, rest, hsplit, hbad⟩
    cases front with
    | nil =>
      rw [List.map_nil, List.nil_append, List.cons.injEq] at hsplit
      obtain ⟨rfl, rfl⟩ := hsplit
      rcases hbad with hend | ⟨_, hend, hhard⟩
      · cases hend
      · rwa [RecvAnswer.failed.inj hend]
    | cons first front =>
      rw [List.map_cons, List.cons_append, List.cons.injEq] at hsplit
      cases hsplit.1
  · exact fun hhard => ⟨[], .failed errno, answers, rfl, Or.inr ⟨errno, rfl, hhard⟩⟩

namespace NetNatsueSocket

theorem flushLoop_fails_iff (n : ℕ) (s : NetNatsueSocket) (hn : s.myOutput.length ≤ n) :
    (flushLoop n s).1 = false ↔ s.os.FailsWithin s.myOutput.length := by
  induction n generalizing s with
  | zero =>
    rw [Nat.le_zero.mp hn]
    exact iff_of_false (by simp [flushLoop]) (not_failsWithin_zero s.os)
  | succ n ih =>
    simp only [flushLoop]
    by_cases hempty : s.myOutput = []
    · rw [if_pos hempty, hempty]
      exact iff_of_false (by simp) (not_failsWithin_zero s.os)
    · have hpos := List.length_pos_of_ne_nil hempty
      rw [if_neg hempty]
      cases hanswer : s.os.sends.head with
      | took count =>
        have hleft : (s.popSend.tookBytes (max 1 (min count s.myOutput.length))).myOutput.length =
            s.myOutput.length - max 1 (min count s.myOutput.length) := List.length_drop
        rw [failsWithin_took s.os _ count hanswer hpos, ih _ (by omega), hleft]
        exact Iff.rfl
      | failed errno =>
        simp only
        rw [failsWithin_failed s.os _ errno hanswer hpos, Hard]
        split_ifs with hsoft
        · exact iff_of_false (by simp) (not_not_intro hsoft)
        · exact iff_of_true rfl hsoft

theorem flushOutput_ok_iff (s : NetNatsueSocket) (h : s.myState = .connected) :
    s.flushOutput.1 = true ↔ ¬ s.os.FailsWithin s.myOutput.length := by
  rw [← flushLoop_fails_iff _ s le_rfl, Bool.not_eq_false, flushOutput, if_neg (not_not_intro h)]

/-- A packet can be written unless the system fails before it has taken it. -/
theorem write_ok_iff (s : NetNatsueSocket) (data : Bytes) (h : s.myState = .connected)
    (hsome : data ≠ []) (hfit : data.length < 2147483648) :
    (s.write data (sizeInt data)).1 = true ↔ ¬ s.os.FailsWithin (s.myOutput.length +
      data.length) := by
  have hsize := sizeInt_toInt data hfit
  have hpos := List.length_pos_of_ne_nil hsome
  have hneg : ¬ (s.myState ≠ .connected ∨ sizeInt data < 0) := by
    rw [Word32.lt_iff, Word32.toInt_zero, hsize]
    simp [h]
  have hzero : sizeInt data ≠ 0 := by
    intro hzero
    rw [hzero, Word32.toInt_zero] at hsize
    omega
  have hall : data.take (sizeInt data).toInt.toNat = data := List.take_of_length_le (by omega)
  unfold write
  rw [if_neg hneg, if_neg hzero, hall, flushOutput_ok_iff (s.queue data) h]
  rw [queue, List.length_append]

theorem readLoop_ok_iff (answers : List RecvAnswer) (s : NetNatsueSocket) :
    (readLoop answers s).1 = true ↔ ¬ HangsUp answers := by
  induction answers generalizing s with
  | nil => exact iff_of_true rfl not_hangsUp_nil
  | cons answer answers ih =>
    cases answer with
    | data bytes =>
      rw [hangsUp_data, not_or, ← ih (s.gotBytes bytes), readLoop]
      split_ifs with hend <;> simp [hend]
    | failed errno =>
      rw [hangsUp_failed, Hard, readLoop]
      split_ifs with hsoft <;> simp [hsoft]

theorem flushLoop_recvs (n : ℕ) (s : NetNatsueSocket) :
    (flushLoop n s).2.os.recvs = s.os.recvs := by
  induction n generalizing s with
  | zero => rfl
  | succ n ih =>
    simp only [flushLoop]
    split_ifs
    · rfl
    · cases s.os.sends.head with
      | took count => exact ih _
      | failed errno =>
        simp only
        split_ifs <;> rfl

/-- A pump finds the connection alive unless sending what is queued fails or the server hangs up. -/
theorem pump_ok_iff (s : NetNatsueSocket) (h : s.myState = .connected) :
    s.pump.1 = true ↔ ¬ s.os.FailsWithin s.myOutput.length ∧ ¬ HangsUp s.os.recvs.head := by
  rw [← flushOutput_ok_iff s h, ← readLoop_ok_iff s.os.recvs.head s.flushOutput.2.popRecv]
  have hflush : s.flushOutput = flushLoop s.myOutput.length s := by
    rw [flushOutput, if_neg (not_not_intro h)]
  unfold pump
  rw [if_neg (by simp [h]), if_neg (not_not_intro h)]
  cases hok : s.flushOutput.1 with
  | false => simp [hok]
  | true =>
    have hstate : s.flushOutput.2.myState = .connected := by
      rw [hflush] at hok ⊢
      exact (flushLoop_line _ s hok).2.2.trans h
    have hrecvs : s.flushOutput.2.os.recvs = s.os.recvs := by rw [hflush, flushLoop_recvs]
    simp only [hok, not_true_eq_false, ↓reduceIte, true_and]
    rw [readInput, if_neg (not_not_intro hstate), hrecvs]

end NetNatsueSocket
end NetNatsue
