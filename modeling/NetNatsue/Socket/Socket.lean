import Mathlib.Data.Stream.Init
import Mathlib.Logic.Function.Basic
import NetNatsue.Protocol.Bytes

/-! The buffered non-blocking socket. The operating system is a supply of answers to the
calls the socket makes, together with a record of what it has taken and given. -/
namespace NetNatsue

/-- `EWOULDBLOCK`, `EINPROGRESS` and `EINTR` of the Linux build. -/
def nnEWouldBlock : Int32 := 11
def nnEInProgress : Int32 := 115
def nnEIntr : Int32 := 4

/-- How far an attempt to open a connection gets, and the error it stops with. A handle is
the number `socket()` returned. -/
inductive ConnectAnswer
  | unresolved (errno : Int32)
  | noSocket (errno : Int32)
  | notNonBlocking (handle : ℕ) (errno : Int32)
  | connected (handle : ℕ)
  | failed (handle : ℕ) (errno : Int32)

/-- The answer of `select()` and `SO_ERROR` for a pending connection. -/
inductive SelectAnswer
  | failed (errno : Int32)
  | notReady
  | ready (socketError : Int32) (inErrorSet inWriteSet : Bool) (errno : Int32)

/-- The answer of `send()`: a number of bytes, which lies between 1 and what was offered,
or an error. -/
inductive SendAnswer
  | took (count : ℕ)
  | failed (errno : Int32)

/-- The answer of `recv()`: some bytes, none for an orderly shutdown, or an error. -/
inductive RecvAnswer
  | data (bytes : Bytes)
  | failed (errno : Int32)

/-- `recvs` holds for each time the input is read the answers given in turn; behind the
last of them `recv()` would block. The remaining fields record what happened: which handles
are open, how many connections have been opened, and the bytes each of them took and gave. -/
structure SocketOS where
  connects : Stream' ConnectAnswer
  selects : Stream' SelectAnswer
  sends : Stream' SendAnswer
  recvs : Stream' (List RecvAnswer)
  openHandles : List ℕ := []
  connection : ℕ := 0
  accepted : ℕ → Bytes := fun _ => []
  received : ℕ → Bytes := fun _ => []
  closings : List (ℕ × ℕ) := []

/-- The same answers, with nothing on record yet. -/
def SocketOS.unused (os : SocketOS) : SocketOS :=
  { connects := os.connects, selects := os.selects, sends := os.sends, recvs := os.recvs }

/-- An operating system that connects at once, takes every byte and never delivers one. -/
def SocketOS.idle : SocketOS :=
  { connects := .const (.connected 3), selects := .const .notReady, sends := .const (.took 65536)
    recvs := .const [] }

/-- An operating system that connects at once and gives the listed answers; afterwards it
delivers nothing and takes nothing. -/
def SocketOS.scripted (recvs : List (List RecvAnswer)) (sends : List SendAnswer) : SocketOS :=
  { SocketOS.idle with
    recvs := recvs ++ₛ Stream'.const []
    sends := sends ++ₛ Stream'.const (.failed nnEWouldBlock) }

inductive SocketState
  | closed
  | resolving
  | connecting
  | connected
  | failed
  deriving DecidableEq, Repr

/-- `myHandle` is `none` for `NN_INVALID_SOCKET`. -/
structure NetNatsueSocket where
  myHandle : Option ℕ := none
  myState : SocketState := .closed
  myInput : Bytes := []
  myOutput : Bytes := []
  myBytesSent : Int32 := 0
  myBytesReceived : Int32 := 0
  myLastSystemError : Int32 := 0
  os : SocketOS

namespace NetNatsueSocket

/-- The input buffer survives; output that was not sent does not. -/
def close (s : NetNatsueSocket) : NetNatsueSocket :=
  { s with
    myHandle := none
    myState := .closed
    myOutput := []
    os := { s.os with
      openHandles := match s.myHandle with
        | some handle => s.os.openHandles.erase handle
        | none => s.os.openHandles
      closings :=
        (s.os.connection, (s.os.accepted s.os.connection).length) :: s.os.closings } }

/-- Record the error of a failed call and give the connection up. -/
def closeWith (s : NetNatsueSocket) (errno : Int32) : NetNatsueSocket :=
  ({ s with myLastSystemError := errno }).close

/-- Keep the handle `socket()` returned. -/
def opened (s : NetNatsueSocket) (handle : ℕ) : NetNatsueSocket :=
  { s with
    myHandle := some handle
    os := { s.os with
      openHandles := handle :: s.os.openHandles, connection := s.os.connection + 1 } }

/-- The next answer of the system call is used up. -/
def popConnect (s : NetNatsueSocket) : NetNatsueSocket :=
  { s with os := { s.os with connects := s.os.connects.tail } }

def popSelect (s : NetNatsueSocket) : NetNatsueSocket :=
  { s with os := { s.os with selects := s.os.selects.tail } }

def popSend (s : NetNatsueSocket) : NetNatsueSocket :=
  { s with os := { s.os with sends := s.os.sends.tail } }

def popRecv (s : NetNatsueSocket) : NetNatsueSocket :=
  { s with os := { s.os with recvs := s.os.recvs.tail } }

def beginConnect (s : NetNatsueSocket) : Bool × NetNatsueSocket :=
  let s := s.close
  let answer := s.os.connects.head
  let s := s.popConnect
  match answer with
  | .unresolved errno => (false, { s with myState := .failed, myLastSystemError := errno })
  | .noSocket errno => (false, { s with myState := .failed, myLastSystemError := errno })
  | .notNonBlocking handle errno =>
    (false, { (s.opened handle).closeWith errno with myState := .failed })
  | .connected handle =>
    (true, { s.opened handle with myInput := [], myOutput := [], myState := .connected })
  | .failed handle errno =>
    let s := { s.opened handle with myInput := [], myOutput := [] }
    if errno = nnEInProgress ∨ errno = nnEWouldBlock then (true, { s with myState := .connecting })
    else (false, { s.closeWith errno with myState := .failed })

def pumpConnect (s : NetNatsueSocket) : NetNatsueSocket :=
  if s.myState ≠ .connecting then s
  else
    let answer := s.os.selects.head
    let s := s.popSelect
    match answer with
    | .failed errno => { s.closeWith errno with myState := .failed }
    | .notReady => s
    | .ready socketError inErrorSet inWriteSet errno =>
      if inErrorSet ∨ socketError ≠ 0 then
        { s.closeWith (if socketError ≠ 0 then socketError else errno) with myState := .failed }
      else if inWriteSet then { s with myState := .connected }
      else s

/-- `send()` took `sent` bytes off the front of the output buffer. -/
def tookBytes (s : NetNatsueSocket) (sent : ℕ) : NetNatsueSocket :=
  { s with
    myBytesSent := s.myBytesSent + Int32.ofNat sent
    myOutput := s.myOutput.drop sent
    os := { s.os with
      accepted := Function.update s.os.accepted s.os.connection
        (s.os.accepted s.os.connection ++ s.myOutput.take sent) } }

/-- The loop of `FlushOutput`. Every round but the last sends at least one byte, so the
length of the output buffer bounds the rounds. -/
def flushLoop : ℕ → NetNatsueSocket → Bool × NetNatsueSocket
  | 0, s => (true, s)
  | n+1, s =>
    if s.myOutput = [] then (true, s)
    else
      match s.os.sends.head with
      | .took count => flushLoop n (s.popSend.tookBytes (max 1 (min count s.myOutput.length)))
      | .failed errno =>
        if errno = nnEWouldBlock ∨ errno = nnEIntr then (true, s.popSend)
        else (false, s.popSend.closeWith errno)

def flushOutput (s : NetNatsueSocket) : Bool × NetNatsueSocket :=
  if s.myState ≠ .connected then (false, s)
  else flushLoop s.myOutput.length s

/-- Append to the output buffer. -/
def queue (s : NetNatsueSocket) (data : Bytes) : NetNatsueSocket :=
  { s with myOutput := s.myOutput ++ data }

/-- Queue data for sending; `size` is the length of `data` as an `int`. -/
def write (s : NetNatsueSocket) (data : Bytes) (size : Int32) : Bool × NetNatsueSocket :=
  if s.myState ≠ .connected ∨ size < 0 then (false, s)
  else if size = 0 then (true, s)
  else flushOutput (s.queue (data.take size.toInt.toNat))

/-- `recv()` gave some bytes. -/
def gotBytes (s : NetNatsueSocket) (bytes : Bytes) : NetNatsueSocket :=
  { s with
    myBytesReceived := s.myBytesReceived + Int32.ofNat bytes.length
    myInput := s.myInput ++ bytes
    os := { s.os with
      received := Function.update s.os.received s.os.connection
        (s.os.received s.os.connection ++ bytes) } }

/-- The loop of `ReadInput`, over the answers `recv()` gives. -/
def readLoop : List RecvAnswer → NetNatsueSocket → Bool × NetNatsueSocket
  | [], s => (true, s)
  | .data bytes :: answers, s =>
    if bytes = [] then (false, s.close) else readLoop answers (s.gotBytes bytes)
  | .failed errno :: _, s =>
    if errno = nnEWouldBlock ∨ errno = nnEIntr then (true, s) else (false, s.closeWith errno)

def readInput (s : NetNatsueSocket) : Bool × NetNatsueSocket :=
  if s.myState ≠ .connected then (false, s)
  else readLoop s.os.recvs.head s.popRecv

def pump (s : NetNatsueSocket) : Bool × NetNatsueSocket :=
  if s.myState = .connecting then
    let s := s.pumpConnect
    (s.myState = .connecting ∨ s.myState = .connected, s)
  else if s.myState ≠ .connected then (false, s)
  else
    let (ok, s) := s.flushOutput
    if ¬ ok then (false, s)
    else s.readInput

/-- Everything sent and still to be sent on the current connection. -/
def line (s : NetNatsueSocket) : Bytes := s.os.accepted s.os.connection ++ s.myOutput

/-- `(int)myInput.size()`. -/
def inputSize (s : NetNatsueSocket) : Int32 := sizeInt s.myInput

def consumeInput (s : NetNatsueSocket) (bytes : Int32) : NetNatsueSocket :=
  if bytes ≤ 0 then s
  else if bytes ≥ s.inputSize then { s with myInput := [] }
  else { s with myInput := s.myInput.drop bytes.toInt.toNat }

/-- The same socket with another input buffer. -/
def withInput (s : NetNatsueSocket) (input : Bytes) : NetNatsueSocket := { s with myInput := input }

/-- Bytes arrive behind what is in the input buffer already. -/
def receive (s : NetNatsueSocket) (bytes : Bytes) : NetNatsueSocket :=
  s.withInput (s.myInput ++ bytes)

section
variable (s : NetNatsueSocket) (input : Bytes)

@[simp] theorem close_state : s.close.myState = .closed := rfl
@[simp] theorem close_input : s.close.myInput = s.myInput := rfl
@[simp] theorem close_output : s.close.myOutput = [] := rfl
@[simp] theorem withInput_state : (s.withInput input).myState = s.myState := rfl
@[simp] theorem withInput_input : (s.withInput input).myInput = input := rfl
@[simp] theorem withInput_output : (s.withInput input).myOutput = s.myOutput := rfl
@[simp] theorem withInput_os : (s.withInput input).os = s.os := rfl
@[simp] theorem withInput_self : s.withInput s.myInput = s := rfl

theorem withInput_popSend : (s.withInput input).popSend = s.popSend.withInput input := rfl

theorem withInput_closeWith (errno : Int32) :
    (s.withInput input).closeWith errno = (s.closeWith errno).withInput input := rfl

theorem withInput_tookBytes (sent : ℕ) :
    (s.withInput input).tookBytes sent = (s.tookBytes sent).withInput input := rfl

end

theorem flushLoop_withInput (input : Bytes) (n : ℕ) (s : NetNatsueSocket) :
    flushLoop n (s.withInput input) = ((flushLoop n s).1, (flushLoop n s).2.withInput input) := by
  induction n generalizing s with
  | zero => rfl
  | succ n ih =>
    by_cases hempty : s.myOutput = []
    · simp only [flushLoop, withInput_output, hempty, ↓reduceIte]
    · simp only [flushLoop, withInput_output, withInput_os, hempty, ↓reduceIte, withInput_popSend,
        withInput_tookBytes, withInput_closeWith, ih]
      cases s.os.sends.head with
      | took count => rfl
      | failed errno => by_cases hblock : errno = nnEWouldBlock ∨ errno = nnEIntr <;> simp [hblock]

theorem flushOutput_withInput (s : NetNatsueSocket) (input : Bytes) :
    (s.withInput input).flushOutput = (s.flushOutput.1, s.flushOutput.2.withInput input) := by
  by_cases hstate : s.myState = .connected
  · simpa [flushOutput, hstate] using flushLoop_withInput input s.myOutput.length s
  · simp [flushOutput, hstate]

theorem write_withInput (s : NetNatsueSocket) (input data : Bytes) (size : Int32) :
    (s.withInput input).write data size =
      ((s.write data size).1, (s.write data size).2.withInput input) := by
  by_cases hrefuse : s.myState ≠ .connected ∨ size < 0
  · simp only [write, withInput_state, hrefuse, ↓reduceIte]
  · by_cases hzero : size = 0
    · simp only [write, withInput_state, hrefuse, ↓reduceIte]
      simp only [hzero, ↓reduceIte]
    · simp only [write, withInput_state, hrefuse, hzero, ↓reduceIte]
      exact flushOutput_withInput (s.queue (data.take size.toInt.toNat)) input

/-- No `send()` fails for good. -/
def SendsSucceed (os : SocketOS) : Prop :=
  ∀ n errno, os.sends.get n = .failed errno → errno = nnEWouldBlock ∨ errno = nnEIntr

/-- A connection on which writing cannot fail. -/
structure Sound (s : NetNatsueSocket) : Prop where
  connected : s.myState = .connected
  sends : SendsSucceed s.os

theorem Sound.popSend {s : NetNatsueSocket} (h : s.Sound) : s.popSend.Sound :=
  ⟨h.connected, fun n errno hn => h.sends (n+1) errno hn⟩

theorem Sound.flushLoop {s : NetNatsueSocket} (h : s.Sound) (n : ℕ) :
    (flushLoop n s).1 = true ∧ (flushLoop n s).2.Sound := by
  induction n generalizing s with
  | zero => exact ⟨rfl, h⟩
  | succ n ih =>
    simp only [NetNatsueSocket.flushLoop]
    by_cases hempty : s.myOutput = []
    · rw [if_pos hempty]
      exact ⟨rfl, h⟩
    · rw [if_neg hempty]
      cases hanswer : s.os.sends.head with
      | took count => exact ih ⟨h.popSend.connected, h.popSend.sends⟩
      | failed errno =>
        simp only
        rw [if_pos (h.sends 0 errno hanswer)]
        exact ⟨rfl, h.popSend⟩

/-- Every packet that has a length can be written. -/
theorem Sound.write {s : NetNatsueSocket} (h : s.Sound) (data : Bytes) (size : Int32)
    (hsize : 0 ≤ size.toInt) : (s.write data size).1 = true ∧ (s.write data size).2.Sound := by
  have hneg : ¬ (s.myState ≠ .connected ∨ size < 0) := by
    rw [Word32.lt_iff, Word32.toInt_zero]
    simp only [h.connected, ne_eq, not_true_eq_false, false_or]
    omega
  unfold NetNatsueSocket.write
  rw [if_neg hneg]
  by_cases hzero : size = 0
  · rw [if_pos hzero]
    exact ⟨rfl, h⟩
  · rw [if_neg hzero]
    unfold flushOutput
    rw [if_neg (by simpa [queue] using h.connected)]
    have hqueued : (s.queue (data.take size.toInt.toNat)).Sound := ⟨h.connected, h.sends⟩
    exact hqueued.flushLoop _

/-- A successful consumption takes exactly the given bytes off the front. -/
theorem consumeInput_exact (s : NetNatsueSocket) (bytes : Int32) (hpos : 0 < bytes.toInt)
    (hle : bytes.toInt ≤ s.myInput.length) (hfit : s.myInput.length < 2147483648) :
    s.consumeInput bytes = { s with myInput := s.myInput.drop bytes.toInt.toNat } := by
  have hsize := sizeInt_toInt s.myInput hfit
  unfold consumeInput
  have hneg : ¬ bytes ≤ 0 := by
    rw [Word32.le_iff, Word32.toInt_zero]
    omega
  rw [if_neg hneg]
  by_cases hall : bytes ≥ s.inputSize
  · rw [if_pos hall]
    rw [ge_iff_le, Word32.le_iff, inputSize, hsize] at hall
    rw [List.drop_eq_nil_of_le (by omega)]
  · rw [if_neg hall]

end NetNatsueSocket
end NetNatsue
