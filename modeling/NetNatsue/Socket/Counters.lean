import Mathlib.Algebra.BigOperators.Group.Finset.Basic
import NetNatsue.Socket.Traffic

/-! The counters of the socket, beside the record of what its connections took and gave. -/
namespace NetNatsue

open scoped BigOperators

/-- The number of bytes on record for the connections opened so far. -/
def total (record : ℕ → Bytes) (connection : ℕ) : ℕ :=
  ∑ c ∈ Finset.range (connection + 1), (record c).length

/-- The counter holds the number of bytes on record, as an `int`, and no later connection has
any. -/
structure Tally (counter : Int32) (record : ℕ → Bytes) (connection : ℕ) : Prop where
  counts : counter = Int32.ofNat (total record connection)
  later : ∀ c, connection < c → record c = []

section
variable {counter : Int32} {record : ℕ → Bytes} {connection : ℕ}

/-- More bytes on the current connection. -/
theorem Tally.grow (h : Tally counter record connection) (more : Bytes) :
    Tally (counter + Int32.ofNat more.length)
      (Function.update record connection (record connection ++ more)) connection where
  counts := by
    have hearlier : ∑ c ∈ Finset.range connection,
        (Function.update record connection (record connection ++ more) c).length =
          ∑ c ∈ Finset.range connection, (record c).length := by
      apply Finset.sum_congr rfl
      intro c hc
      rw [Function.update_of_ne (Finset.mem_range.mp hc).ne]
    rw [h.counts, ← Int32.ofNat_add, total, total, Finset.sum_range_succ,
      Finset.sum_range_succ, hearlier, Function.update_self, List.length_append, Nat.add_assoc]
  later c hc := by
    rw [Function.update_of_ne hc.ne']
    exact h.later c hc

/-- The next connection starts with nothing on record. -/
theorem Tally.next (h : Tally counter record connection) :
    Tally counter record (connection + 1) where
  counts := by
    rw [h.counts, total, total, Finset.sum_range_succ _ (connection + 1),
      h.later _ connection.lt_succ_self]
    rfl
  later c hc := h.later c (by omega)

end

namespace NetNatsueSocket

/-- The bytes `send()` has taken since the socket was made. -/
def totalSent (s : NetNatsueSocket) : ℕ := total s.os.accepted s.os.connection

/-- The bytes `recv()` has given since the socket was made. -/
def totalReceived (s : NetNatsueSocket) : ℕ := total s.os.received s.os.connection

/-- The counters hold the totals. -/
structure Counted (s : NetNatsueSocket) : Prop where
  sent : Tally s.myBytesSent s.os.accepted s.os.connection
  received : Tally s.myBytesReceived s.os.received s.os.connection

section
variable {s : NetNatsueSocket}

theorem Counted.close (h : s.Counted) : s.close.Counted := ⟨h.sent, h.received⟩

theorem Counted.closeWith (h : s.Counted) (errno : Int32) : (s.closeWith errno).Counted :=
  ⟨h.sent, h.received⟩

theorem Counted.opened (h : s.Counted) (handle : ℕ) : (s.opened handle).Counted :=
  ⟨h.sent.next, h.received.next⟩

theorem Counted.tookBytes (h : s.Counted) (sent : ℕ) (hsent : sent ≤ s.myOutput.length) :
    (s.tookBytes sent).Counted := by
  have hgrow := h.sent.grow (s.myOutput.take sent)
  rw [List.length_take_of_le hsent] at hgrow
  exact ⟨hgrow, h.received⟩

theorem Counted.gotBytes (h : s.Counted) (bytes : Bytes) : (s.gotBytes bytes).Counted :=
  ⟨h.sent, h.received.grow bytes⟩

theorem Counted.flushLoop (h : s.Counted) (n : ℕ) : (flushLoop n s).2.Counted := by
  induction n generalizing s with
  | zero => exact h
  | succ n ih =>
    simp only [NetNatsueSocket.flushLoop]
    by_cases hempty : s.myOutput = []
    · rw [if_pos hempty]
      exact h
    · have hpos := List.length_pos_of_ne_nil hempty
      have hpop : s.popSend.Counted := ⟨h.sent, h.received⟩
      rw [if_neg hempty]
      cases s.os.sends.head with
      | took count => exact ih (hpop.tookBytes _ (max_le hpos (min_le_right _ _)))
      | failed errno =>
        simp only
        split_ifs
        · exact hpop
        · exact hpop.closeWith errno

theorem Counted.flushOutput (h : s.Counted) : s.flushOutput.2.Counted := by
  unfold NetNatsueSocket.flushOutput
  split_ifs
  · exact h
  · exact h.flushLoop _

theorem Counted.write (h : s.Counted) (data : Bytes) (size : Int32) :
    (s.write data size).2.Counted := by
  have hqueue : (s.queue (data.take size.toInt.toNat)).Counted := ⟨h.sent, h.received⟩
  unfold NetNatsueSocket.write
  split_ifs
  · exact h
  · exact h
  · exact hqueue.flushOutput

theorem Counted.readLoop (h : s.Counted) (answers : List RecvAnswer) :
    (readLoop answers s).2.Counted := by
  induction answers generalizing s with
  | nil => exact h
  | cons answer answers ih =>
    cases answer with
    | data bytes =>
      simp only [NetNatsueSocket.readLoop]
      split_ifs
      · exact h.close
      · exact ih (h.gotBytes bytes)
    | failed errno =>
      simp only [NetNatsueSocket.readLoop]
      split_ifs
      · exact h
      · exact h.closeWith errno

theorem Counted.readInput (h : s.Counted) : s.readInput.2.Counted := by
  have hpop : s.popRecv.Counted := ⟨h.sent, h.received⟩
  unfold NetNatsueSocket.readInput
  split_ifs
  · exact h
  · exact hpop.readLoop _

theorem Counted.pumpConnect (h : s.Counted) : s.pumpConnect.Counted := by
  unfold NetNatsueSocket.pumpConnect
  split_ifs
  · exact h
  · cases s.os.selects.head with
    | ready socketError inErrorSet inWriteSet errno =>
      simp only
      split_ifs <;> exact ⟨h.sent, h.received⟩
    | _ => exact ⟨h.sent, h.received⟩

theorem Counted.pump (h : s.Counted) : s.pump.2.Counted := by
  unfold NetNatsueSocket.pump
  split_ifs
  · exact h.pumpConnect
  · exact h
  · simp only
    split_ifs
    · exact h.flushOutput.readInput
    · exact h.flushOutput

theorem Counted.consumeInput (h : s.Counted) (bytes : Int32) : (s.consumeInput bytes).Counted := by
  unfold NetNatsueSocket.consumeInput
  split_ifs <;> exact ⟨h.sent, h.received⟩

theorem Counted.beginConnect (h : s.Counted) : s.beginConnect.2.Counted := by
  have hclosed : s.close.popConnect.Counted := ⟨h.sent, h.received⟩
  have hnext := hclosed.opened
  unfold NetNatsueSocket.beginConnect
  simp only
  cases s.close.os.connects.head with
  | unresolved errno => exact ⟨h.sent, h.received⟩
  | noSocket errno => exact ⟨h.sent, h.received⟩
  | notNonBlocking handle errno => exact ⟨(hnext handle).sent, (hnext handle).received⟩
  | connected handle => exact ⟨(hnext handle).sent, (hnext handle).received⟩
  | failed handle errno =>
    simp only
    split_ifs <;> exact ⟨(hnext handle).sent, (hnext handle).received⟩

end

/-- Nothing is counted of a connection that was never opened. -/
theorem counted_unused (s : NetNatsueSocket) (hsent : s.myBytesSent = 0)
    (hreceived : s.myBytesReceived = 0)
    (haccepted : s.os.accepted = fun _ => []) (hgiven : s.os.received = fun _ => []) :
    s.Counted := by
  have hnone : ∀ connection, total (fun _ => []) connection = 0 :=
    fun connection => Finset.sum_eq_zero fun _ _ => rfl
  constructor
  · rw [hsent, haccepted]
    exact ⟨by rw [hnone]; rfl, fun _ _ => rfl⟩
  · rw [hreceived, hgiven]
    exact ⟨by rw [hnone]; rfl, fun _ _ => rfl⟩

end NetNatsueSocket
end NetNatsue
