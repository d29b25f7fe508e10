import NetNatsue.Socket.Traffic

/-! The socket as a queue of bytes in each direction, over all that happens on one connection. -/
namespace NetNatsue

namespace NetNatsueSocket

/-- Some bytes arrive, or none. -/
def Arrives (s t : NetNatsueSocket) : Prop :=
  ∃ bytes, t.myInput = s.myInput ++ bytes ∧
    t.os.received t.os.connection = s.os.received s.os.connection ++ bytes

/-- If the connection is still up, nothing was put on the line and nothing lost. -/
def Holds (s t : NetNatsueSocket) : Prop := t.Live → s.Live ∧ t.line = s.line

section
variable {s t u : NetNatsueSocket}

theorem Arrives.trans (h : s.Arrives t) (h' : t.Arrives u) : s.Arrives u := by
  obtain ⟨bytes, hinput, hreceived⟩ := h
  obtain ⟨more, hmore, hmore'⟩ := h'
  exact ⟨bytes ++ more, by rw [hmore, hinput, List.append_assoc],
    by rw [hmore', hreceived, List.append_assoc]⟩

theorem Holds.trans (h : s.Holds t) (h' : t.Holds u) : s.Holds u := by
  intro hlive
  obtain ⟨hlive', hline'⟩ := h' hlive
  obtain ⟨hlive, hline⟩ := h hlive'
  exact ⟨hlive, hline'.trans hline⟩

theorem arrives_same (hinput : t.myInput = s.myInput)
    (hreceived : t.os.received t.os.connection = s.os.received s.os.connection) : s.Arrives t :=
  ⟨[], by rw [hinput, List.append_nil], by rw [hreceived, List.append_nil]⟩

theorem holds_down (h : ¬ t.Live) : s.Holds t := fun hlive => absurd hlive h

end

theorem not_live_close (s : NetNatsueSocket) : ¬ s.close.Live := by simp [Live]

theorem not_live_closeWith (s : NetNatsueSocket) (errno : Int32) : ¬ (s.closeWith errno).Live := by
  simp [Live, closeWith]

theorem flushLoop_queue (n : ℕ) (s : NetNatsueSocket) :
    s.Arrives (flushLoop n s).2 ∧ s.Holds (flushLoop n s).2 := by
  induction n generalizing s with
  | zero => exact ⟨arrives_same rfl rfl, fun hlive => ⟨hlive, rfl⟩⟩
  | succ n ih =>
    simp only [flushLoop]
    by_cases hempty : s.myOutput = []
    · rw [if_pos hempty]
      exact ⟨arrives_same rfl rfl, fun hlive => ⟨hlive, rfl⟩⟩
    · rw [if_neg hempty]
      cases s.os.sends.head with
      | took count =>
        obtain ⟨harrives, hholds⟩ := ih (s.popSend.tookBytes (max 1 (min count s.myOutput.length)))
        have htook : s.Arrives (s.popSend.tookBytes (max 1 (min count s.myOutput.length))) :=
          arrives_same rfl rfl
        refine ⟨htook.trans harrives, fun hlive => ?_⟩
        obtain ⟨hlive', hline⟩ := hholds hlive
        exact ⟨hlive', hline.trans (tookBytes_line s.popSend _)⟩
      | failed errno =>
        simp only
        split_ifs
        · exact ⟨arrives_same rfl rfl, fun hlive => ⟨hlive, rfl⟩⟩
        · exact ⟨arrives_same rfl rfl, holds_down (not_live_closeWith s.popSend errno)⟩

theorem flushOutput_queue (s : NetNatsueSocket) :
    s.Arrives s.flushOutput.2 ∧ s.Holds s.flushOutput.2 := by
  unfold flushOutput
  split_ifs
  · exact ⟨arrives_same rfl rfl, fun hlive => ⟨hlive, rfl⟩⟩
  · exact flushLoop_queue _ s

theorem readLoop_queue (answers : List RecvAnswer) (s : NetNatsueSocket) :
    s.Arrives (readLoop answers s).2 ∧ s.Holds (readLoop answers s).2 := by
  induction answers generalizing s with
  | nil => exact ⟨arrives_same rfl rfl, fun hlive => ⟨hlive, rfl⟩⟩
  | cons answer answers ih =>
    cases answer with
    | data bytes =>
      simp only [readLoop]
      split_ifs
      · exact ⟨arrives_same rfl rfl, holds_down (not_live_close s)⟩
      · obtain ⟨harrives, hholds⟩ := ih (s.gotBytes bytes)
        have hgot : s.Arrives (s.gotBytes bytes) := ⟨bytes, rfl, by simp [gotBytes]⟩
        exact ⟨hgot.trans harrives, hholds⟩
    | failed errno =>
      simp only [readLoop]
      split_ifs
      · exact ⟨arrives_same rfl rfl, fun hlive => ⟨hlive, rfl⟩⟩
      · exact ⟨arrives_same rfl rfl, holds_down (not_live_closeWith s errno)⟩

theorem readInput_queue (s : NetNatsueSocket) :
    s.Arrives s.readInput.2 ∧ s.Holds s.readInput.2 := by
  unfold readInput
  split_ifs
  · exact ⟨arrives_same rfl rfl, fun hlive => ⟨hlive, rfl⟩⟩
  · exact readLoop_queue _ s.popRecv

theorem pumpConnect_queue (s : NetNatsueSocket) :
    s.Arrives s.pumpConnect ∧ s.Holds s.pumpConnect := by
  have hsame : ∀ t : NetNatsueSocket, ¬ t.Live → t.myInput = s.myInput →
      t.os.received t.os.connection = s.os.received s.os.connection → s.Arrives t ∧ s.Holds t :=
    fun t hdown hinput hreceived => ⟨arrives_same hinput hreceived, holds_down hdown⟩
  unfold pumpConnect
  by_cases h : s.myState = .connecting
  · rw [if_neg (by simpa using h)]
    cases s.os.selects.head with
    | failed errno => exact hsame _ (by simp [Live]) rfl rfl
    | notReady => exact ⟨arrives_same rfl rfl, fun hlive => ⟨hlive, rfl⟩⟩
    | ready socketError inErrorSet inWriteSet errno =>
      simp only
      split_ifs
      · exact hsame _ (by simp [Live]) rfl rfl
      · exact hsame _ (by simp [Live]) rfl rfl
      · exact ⟨arrives_same rfl rfl, fun _ => ⟨Or.inr h, rfl⟩⟩
      · exact ⟨arrives_same rfl rfl, fun hlive => ⟨hlive, rfl⟩⟩
  · rw [if_pos h]
    exact ⟨arrives_same rfl rfl, fun hlive => ⟨hlive, rfl⟩⟩

theorem pump_queue (s : NetNatsueSocket) : s.Arrives s.pump.2 ∧ s.Holds s.pump.2 := by
  unfold pump
  split_ifs
  · exact pumpConnect_queue s
  · exact ⟨arrives_same rfl rfl, fun hlive => ⟨hlive, rfl⟩⟩
  · obtain ⟨harrives, hholds⟩ := flushOutput_queue s
    obtain ⟨harrives', hholds'⟩ := readInput_queue s.flushOutput.2
    simp only
    split_ifs
    · exact ⟨harrives.trans harrives', hholds.trans hholds'⟩
    · exact ⟨harrives, hholds⟩

/-- A write that succeeds puts its data on the line; one that fails puts nothing there, or the line
is lost. -/
theorem write_queue (s : NetNatsueSocket) (data : Bytes) (size : Int32) :
    s.Arrives (s.write data size).2 ∧ ((s.write data size).2.Live → (s.write data size).2.line =
      if (s.write data size).1 then s.line ++ data.take size.toInt.toNat else s.line) ∧
      ((s.write data size).2.Live → s.Live) := by
  by_cases hrefuse : s.myState ≠ .connected ∨ size < 0
  · have hwrite : s.write data size = (false, s) := if_pos hrefuse
    rw [hwrite]
    exact ⟨arrives_same rfl rfl, fun _ => rfl, id⟩
  · by_cases hzero : size = 0
    · have hwrite : s.write data size = (true, s) := (if_neg hrefuse).trans (if_pos hzero)
      rw [hwrite]
      exact ⟨arrives_same rfl rfl, fun _ => by simp [hzero], id⟩
    · have hwrite : s.write data size = (s.queue (data.take size.toInt.toNat)).flushOutput :=
        (if_neg hrefuse).trans (if_neg hzero)
      have hconnected : s.myState = .connected := not_not.mp (not_or.mp hrefuse).1
      obtain ⟨harrives, hholds⟩ := flushOutput_queue (s.queue (data.take size.toInt.toNat))
      have hqueued : s.Arrives (s.queue (data.take size.toInt.toNat)) := arrives_same rfl rfl
      refine ⟨by rw [hwrite]; exact hqueued.trans harrives, fun hlive => ?_, fun _ => Or.inl hconnected⟩
      rw [hwrite] at hlive ⊢
      cases hok : (s.queue (data.take size.toInt.toNat)).flushOutput.1 with
      | true =>
        rw [(hholds hlive).2, if_pos rfl]
        exact (List.append_assoc _ _ _).symm
      | false =>
        have hflush : (s.queue (data.take size.toInt.toNat)).flushOutput =
            flushLoop (s.queue (data.take size.toInt.toNat)).myOutput.length
              (s.queue (data.take size.toInt.toNat)) := if_neg (not_not_intro hconnected)
        rw [hflush] at hok hlive
        have hclosed := flushLoop_failed _ _ hok
        rw [Live, hclosed] at hlive
        simp at hlive

/-- Consuming no more than the buffer says it holds takes the bytes off its front, as long as the
buffer is not emptied while its length does not fit 32 bits. -/
theorem consumeInput_queue (s : NetNatsueSocket) (bytes : Int32) (hmost : bytes ≤ s.inputSize)
    (hfit : bytes < s.inputSize ∨ s.myInput.length < 4294967296) :
    s.myInput.take bytes.toInt.toNat ++ (s.consumeInput bytes).myInput = s.myInput := by
  unfold consumeInput
  rw [Word32.le_iff] at hmost
  split_ifs with hnone hall
  · rw [Word32.le_iff, Word32.toInt_zero] at hnone
    rw [Int.toNat_of_nonpos hnone]
    rfl
  · rw [Word32.le_iff, Word32.toInt_zero] at hnone
    rw [ge_iff_le, Word32.le_iff] at hall
    have hlength : s.myInput.length < 4294967296 := by
      refine hfit.resolve_left fun hlt => ?_
      rw [Word32.lt_iff] at hlt
      omega
    have hshort : s.myInput.length < 2147483648 := by
      by_contra hlong
      have hnegative := Word32.toInt_ofNat_negative s.myInput.length (by omega) hlength
      rw [inputSize, sizeInt] at hmost
      omega
    have hsize := sizeInt_toInt s.myInput hshort
    rw [inputSize, hsize] at hall
    rw [List.take_of_length_le (by omega), List.append_nil]
  · exact List.take_append_drop _ _

end NetNatsueSocket

/-- What can happen on a connection. The operating system's answers are the socket's own supply. -/
inductive SocketOp
  | write (data : Bytes) (size : Int32)
  | pump
  | pumpConnect
  | readInput
  | consumeInput (bytes : Int32)
  | close

/-- A connection, with the data of its successful writes and the bytes consumed from it so far. -/
structure Session where
  socket : NetNatsueSocket
  written : Bytes := []
  consumed : Bytes := []

namespace Session

def step (t : Session) : SocketOp → Session
  | .write data size =>
    let r := t.socket.write data size
    { t with
      socket := r.2
      written := if r.1 then t.written ++ data.take size.toInt.toNat else t.written }
  | .pump => { t with socket := t.socket.pump.2 }
  | .pumpConnect => { t with socket := t.socket.pumpConnect }
  | .readInput => { t with socket := t.socket.readInput.2 }
  | .consumeInput bytes =>
    { t with
      socket := t.socket.consumeInput bytes
      consumed := t.consumed ++ t.socket.myInput.take bytes.toInt.toNat }
  | .close => { t with socket := t.socket.close }

def run : List SocketOp → Session → Session
  | [], t => t
  | op :: ops, t => run ops (t.step op)

/-- A connection begun by the given socket, when nothing is on record yet. -/
def begun (s : NetNatsueSocket) : Bool × Session :=
  let r := { s with os := s.os.unused }.beginConnect
  (r.1, { socket := r.2 })

/-- The call consumes at most what `InputSize` says, and does not empty a buffer whose length does
not fit 32 bits. -/
def Careful (t : Session) : SocketOp → Prop
  | .consumeInput bytes => bytes ≤ t.socket.inputSize ∧
    (bytes < t.socket.inputSize ∨ t.socket.myInput.length < 4294967296)
  | _ => True

/-- All calls are careful. -/
def AllCareful : List SocketOp → Session → Prop
  | [], _ => True
  | op :: ops, t => t.Careful op ∧ AllCareful ops (t.step op)

/-- Nothing is lost, doubled or moved on the way. -/
structure Faithful (t : Session) : Prop where
  output : t.socket.Live → t.socket.line = t.written
  input : t.consumed ++ t.socket.myInput = t.socket.os.received t.socket.os.connection

theorem Faithful.moved {t : Session} (ht : t.Faithful) {s : NetNatsueSocket}
    (harrives : t.socket.Arrives s) (hholds : t.socket.Holds s) :
    Faithful { t with socket := s } := by
  obtain ⟨bytes, hinput, hreceived⟩ := harrives
  constructor
  · intro hlive
    obtain ⟨hlive', hline⟩ := hholds hlive
    exact hline.trans (ht.output hlive')
  · change t.consumed ++ s.myInput = s.os.received s.os.connection
    rw [hinput, hreceived, ← ht.input, List.append_assoc]

theorem Faithful.step {t : Session} (ht : t.Faithful) (op : SocketOp) (hcareful : t.Careful op) :
    (t.step op).Faithful := by
  cases op with
  | write data size =>
    obtain ⟨⟨bytes, hinput, hreceived⟩, hline, hlive'⟩ := t.socket.write_queue data size
    constructor
    · intro hlive
      change (t.socket.write data size).2.line = _
      rw [hline hlive, ht.output (hlive' hlive)]
      rfl
    · change t.consumed ++ (t.socket.write data size).2.myInput = _
      rw [hinput, ← List.append_assoc, ht.input]
      exact hreceived.symm
  | pump => exact ht.moved t.socket.pump_queue.1 t.socket.pump_queue.2
  | pumpConnect => exact ht.moved t.socket.pumpConnect_queue.1 t.socket.pumpConnect_queue.2
  | readInput => exact ht.moved t.socket.readInput_queue.1 t.socket.readInput_queue.2
  | consumeInput bytes =>
    have hqueue := t.socket.consumeInput_queue bytes hcareful.1 hcareful.2
    have hsame : (t.socket.consumeInput bytes).os = t.socket.os ∧
        (t.socket.consumeInput bytes).myOutput = t.socket.myOutput ∧
        (t.socket.consumeInput bytes).myState = t.socket.myState := by
      unfold NetNatsueSocket.consumeInput
      split_ifs <;> exact ⟨rfl, rfl, rfl⟩
    obtain ⟨hos, houtput, hstate⟩ := hsame
    constructor
    · intro hlive
      change (t.socket.consumeInput bytes).line = t.written
      rw [NetNatsueSocket.line, hos, houtput]
      refine ht.output ?_
      change (t.socket.consumeInput bytes).Live at hlive
      rwa [NetNatsueSocket.Live, hstate] at hlive
    · change t.consumed ++ t.socket.myInput.take bytes.toInt.toNat ++
        (t.socket.consumeInput bytes).myInput =
        (t.socket.consumeInput bytes).os.received (t.socket.consumeInput bytes).os.connection
      rw [List.append_assoc, hqueue, hos, ht.input]
  | close =>
    exact ht.moved (NetNatsueSocket.arrives_same rfl rfl)
      (NetNatsueSocket.holds_down t.socket.not_live_close)

theorem Faithful.run {t : Session} (ht : t.Faithful) (ops : List SocketOp)
    (hcareful : AllCareful ops t) :
    (run ops t).Faithful := by
  induction ops generalizing t with
  | nil => exact ht
  | cons op ops ih => exact ih (ht.step op hcareful.1) hcareful.2

/-- A connection that is begun has nothing on its way. -/
theorem faithful_begun (s : NetNatsueSocket) (hbegun : (begun s).1 = true) :
    (begun s).2.Faithful := by
  unfold begun at hbegun ⊢
  simp only [NetNatsueSocket.beginConnect] at hbegun ⊢
  cases hanswer : ({ s with os := s.os.unused } : NetNatsueSocket).close.os.connects.head with
  | connected handle =>
    simp only [hanswer] at hbegun ⊢
    exact ⟨fun _ => rfl, rfl⟩
  | failed handle errno =>
    simp only [hanswer] at hbegun ⊢
    split_ifs at hbegun ⊢
    exact ⟨fun _ => rfl, rfl⟩
  | _ => simp [hanswer] at hbegun

/-- **The socket is a faithful queue in both directions.** As long as the connection is up, what has
been sent and what waits is the data of the successful writes; what has been consumed and what waits
is always what has been received; and the input survives the connection. -/
theorem socket_faithful (s : NetNatsueSocket) (ops : List SocketOp) (t : Session)
    (hbegun : (begun s).1 = true) (hcareful : AllCareful ops (begun s).2)
    (hrun : t = run ops (begun s).2) :
    (t.socket.Live → t.socket.os.accepted t.socket.os.connection ++ t.socket.myOutput = t.written) ∧
    t.consumed ++ t.socket.myInput = t.socket.os.received t.socket.os.connection ∧
    t.socket.close.myInput = t.socket.myInput := by
  obtain ⟨houtput, hinput⟩ : t.Faithful := hrun ▸ (faithful_begun s hbegun).run ops hcareful
  exact ⟨houtput, hinput, rfl⟩

/-- Three bytes written and sent one by one, two received, one of them consumed. -/
theorem socket_faithful_short :
    let s : NetNatsueSocket :=
      { os := .scripted [[.data (ascii "ab"), .failed nnEIntr]] [.took 1, .failed nnEWouldBlock, .took 1] }
    let t := run [.write (ascii "xyz") 3, .pump, .consumeInput 1] (begun s).2
    (t.socket.Live → t.socket.os.accepted t.socket.os.connection ++ t.socket.myOutput = t.written) ∧
    t.consumed ++ t.socket.myInput = t.socket.os.received t.socket.os.connection ∧
    t.socket.close.myInput = t.socket.myInput :=
  socket_faithful _ [.write (ascii "xyz") 3, .pump, .consumeInput 1] _ rfl
    ⟨trivial, trivial, ⟨by decide +kernel, Or.inl (by decide +kernel)⟩, trivial⟩ rfl

/-- As much as one `recv()` can give. -/
def fullChunk : Bytes := List.replicate 4096 0

theorem fullChunk_length : fullChunk.length = 4096 := List.length_replicate

/-- A socket whose first read finds so many full chunks. -/
def flooded (chunks : ℕ) : NetNatsueSocket :=
  { os := { SocketOS.idle with recvs := .const (List.replicate chunks (.data fullChunk)) } }

theorem readLoop_chunks (chunks : ℕ) (s : NetNatsueSocket) :
    (NetNatsueSocket.readLoop (List.replicate chunks (.data fullChunk)) s).2.myInput.length =
      s.myInput.length + chunks*4096 := by
  induction chunks generalizing s with
  | zero => simp [NetNatsueSocket.readLoop]
  | succ chunks ih =>
    have hchunk : fullChunk ≠ [] := List.ne_nil_of_length_pos (by rw [fullChunk_length]; decide)
    rw [List.replicate_succ, NetNatsueSocket.readLoop, if_neg hchunk, ih]
    simp only [NetNatsueSocket.gotBytes, List.length_append, fullChunk_length]
    omega

theorem flooded_input (chunks : ℕ) :
    ((begun (flooded chunks)).2.step .pump).socket.myInput.length = chunks*4096 := by
  have hpump : ((begun (flooded chunks)).2.step .pump).socket =
      (NetNatsueSocket.readLoop (List.replicate chunks (.data fullChunk))
        (begun (flooded chunks)).2.socket.popRecv).2 := rfl
  have hempty : (begun (flooded chunks)).2.socket.popRecv.myInput = [] := rfl
  rw [hpump, readLoop_chunks, hempty, List.length_nil, Nat.zero_add]

/-- Consuming all that `InputSize` admits to can lose bytes. -/
theorem overfull_lost (t : Session) (ht : t.Faithful) (hnone : t.consumed = [])
    (hlength : t.socket.myInput.length = 4294971392) :
    4096 ≤ t.socket.inputSize ∧
      (t.step (.consumeInput 4096)).consumed ++ (t.step (.consumeInput 4096)).socket.myInput ≠
        (t.step (.consumeInput 4096)).socket.os.received
          (t.step (.consumeInput 4096)).socket.os.connection := by
  have hsize : t.socket.inputSize = 4096 := by
    rw [NetNatsueSocket.inputSize, sizeInt, hlength]
    rfl
  have hcleared : t.socket.consumeInput 4096 = { t.socket with myInput := [] } := by
    rw [NetNatsueSocket.consumeInput, hsize]
    rfl
  refine ⟨hsize ▸ Int32.le_refl _, fun hsame => ?_⟩
  change t.consumed ++ t.socket.myInput.take 4096 ++ (t.socket.consumeInput 4096).myInput =
    (t.socket.consumeInput 4096).os.received (t.socket.consumeInput 4096).os.connection at hsame
  rw [hcleared] at hsame
  change t.consumed ++ t.socket.myInput.take 4096 ++ [] =
    t.socket.os.received t.socket.os.connection at hsame
  rw [← ht.input, hnone] at hsame
  have hlengths := congrArg List.length hsame
  simp only [List.nil_append, List.append_nil, List.length_take, hlength] at hlengths
  omega

theorem flooded_lost (chunks : ℕ) (h : chunks*4096 = 4294971392) :
    (begun (flooded chunks)).1 = true ∧
    4096 ≤ (run [.pump] (begun (flooded chunks)).2).socket.inputSize ∧
    (run [.pump, .consumeInput 4096] (begun (flooded chunks)).2).consumed ++
        (run [.pump, .consumeInput 4096] (begun (flooded chunks)).2).socket.myInput ≠
      (run [.pump, .consumeInput 4096] (begun (flooded chunks)).2).socket.os.received
        (run [.pump, .consumeInput 4096] (begun (flooded chunks)).2).socket.os.connection :=
  ⟨rfl, overfull_lost _ ((faithful_begun (flooded chunks) rfl).step .pump trivial) rfl
    ((flooded_input chunks).trans h)⟩

/-- A buffer of 2^32 and some more bytes says that it holds only the latter, and consuming these
empties it. -/
theorem socket_overfull :
    (begun (flooded 1048577)).1 = true ∧
    4096 ≤ (run [.pump] (begun (flooded 1048577)).2).socket.inputSize ∧
    (run [.pump, .consumeInput 4096] (begun (flooded 1048577)).2).consumed ++
        (run [.pump, .consumeInput 4096] (begun (flooded 1048577)).2).socket.myInput ≠
      (run [.pump, .consumeInput 4096] (begun (flooded 1048577)).2).socket.os.received
        (run [.pump, .consumeInput 4096] (begun (flooded 1048577)).2).socket.os.connection :=
  flooded_lost 1048577 (by norm_num)

end Session
end NetNatsue
