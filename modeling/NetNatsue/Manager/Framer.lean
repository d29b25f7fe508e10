import NetNatsue.Foundations.Feed
import NetNatsue.Manager.Dispatch

/-! The framer: cutting the input buffer into packets and handing them to their handlers. -/
namespace NetNatsue

/-- What the front of the input buffer is: not all there yet, beyond recovery, or a packet
of the given total size. -/
inductive Cut
  | wait
  | lost
  | frame (totalSize : Int32)
  deriving DecidableEq

/-- The length of a packet that answers no transaction, by its type. -/
def unsolicitedSize (input : Bytes) (inputSize : Int32) (header : PacketHeader) : Cut :=
  match ServerPacket.ofType header.type with
  | some .message => .frame (32 + header.furtherData)
  | some .userOnline => .frame (32 + header.furtherData)
  | some .userOffline => .frame (32 + header.furtherData)
  | some .handshakeResponse =>
    if inputSize < 48 then .wait
    else
      let additional := getInt input 44
      if additional < 0 ∨ additional > maxFurtherData then .lost
      else .frame (48 + additional)
  | some .clientCommand => .frame 36
  | some .virtualConnect => .frame 44
  | some .virtualCircuit => .frame (44 + header.furtherData)
  | some .onlineChange => .frame 32
  | some .virtualCircuitClose => .frame 32
  | some .migrate => .frame 32
  | none => .lost

/-- What a transaction becomes when a frame answers it. -/
def Transaction.answer (transaction : Transaction) (frame : Bytes) : Transaction :=
  transaction.handleResponse (PacketHeader.read frame) (frame.drop packetHeaderSize)
    (sizeInt frame - 32)

/-- The transaction a packet answers. -/
def answeredBy (transactions : Int32 → Option Transaction) (ticket : Int32) : Option Transaction :=
  if ticket ≠ 0 then transactions ticket else none

/-- Only the requestor knows how long its response is. -/
def claimedSize (transactions : Int32 → Option Transaction) (input : Bytes) (inputSize : Int32)
    (header : PacketHeader) : Cut :=
  match answeredBy transactions header.ticket with
  | some transaction => .frame (32 + transaction.fixedExtra.val + header.furtherData)
  | none => unsolicitedSize input inputSize header

def cut (transactions : Int32 → Option Transaction) (input : Bytes) : Cut :=
  let inputSize := sizeInt input
  if inputSize < 32 then .wait
  else
    let header := PacketHeader.read input
    if header.furtherData < 0 ∨ header.furtherData > maxFurtherData then .lost
    else
      match claimedSize transactions input inputSize header with
      | .frame totalSize => if inputSize < totalSize then .wait else .frame totalSize
      | .lost => .lost
      | .wait => .wait

namespace DSNetManager

def consume (m : DSNetManager) (totalSize : Int32) : DSNetManager :=
  { m with mySocket := m.mySocket.consumeInput totalSize }

theorem consume_state (m : DSNetManager) (totalSize : Int32) :
    (m.consume totalSize).mySocket.myState = m.mySocket.myState := by
  simp only [consume, NetNatsueSocket.consumeInput]
  split_ifs <;> rfl

/-- Record the answer to a transaction, and forget it when nobody waits for it any more. -/
def respond (m : DSNetManager) (ticket : Int32) (transaction : Transaction) : DSNetManager :=
  { m with
    myTransactions := Function.update m.myTransactions ticket
      (if transaction.kind = .abandoned then none else some transaction) }

/-- Hand the packet at `input` to its handler, without consuming it yet. -/
def handleFrame (m : DSNetManager) (input : Bytes) (totalSize : Int32) : Bool × DSNetManager :=
  let header := PacketHeader.read input
  let frame := input.take totalSize.toInt.toNat
  match answeredBy m.myTransactions header.ticket with
  | some transaction =>
    (true, (m.emit (.response header.ticket frame)).respond header.ticket
      (transaction.handleResponse header (input.drop packetHeaderSize) (totalSize - 32)))
  | none =>
    if ServerPacket.ofType header.type = some .handshakeResponse then
      (true, (m.emit (.handshake m.myConnectPhase frame)).handleHandshakeResponse header
        input totalSize)
    else
      (m.emit (.packet m.myConnectPhase header frame)).handlePacket header
        (input.drop packetHeaderSize) (totalSize - 32)

section
variable (m : DSNetManager) (raw : Bytes) (totalSize : Int32)

theorem handleFrame_response (transaction : Transaction)
    (h : answeredBy m.myTransactions (PacketHeader.read raw).ticket = some transaction) :
    m.handleFrame raw totalSize =
      (true, (m.emit (.response (PacketHeader.read raw).ticket
        (raw.take totalSize.toInt.toNat))).respond
        (PacketHeader.read raw).ticket
        (transaction.handleResponse (PacketHeader.read raw) (raw.drop packetHeaderSize)
          (totalSize - 32))) := by
  simp only [handleFrame, h]

theorem handleFrame_handshake
    (h : answeredBy m.myTransactions (PacketHeader.read raw).ticket = none)
    (htype : ServerPacket.ofType (PacketHeader.read raw).type = some .handshakeResponse) :
    m.handleFrame raw totalSize =
      (true, (m.emit (.handshake m.myConnectPhase
        (raw.take totalSize.toInt.toNat))).handleHandshakeResponse
        (PacketHeader.read raw) raw totalSize) := by
  simp only [handleFrame, h, htype, ↓reduceIte]

theorem handleFrame_packet
    (h : answeredBy m.myTransactions (PacketHeader.read raw).ticket = none)
    (htype : ServerPacket.ofType (PacketHeader.read raw).type ≠ some .handshakeResponse) :
    m.handleFrame raw totalSize =
      (m.emit (.packet m.myConnectPhase (PacketHeader.read raw)
        (raw.take totalSize.toInt.toNat))).handlePacket
        (PacketHeader.read raw) (raw.drop packetHeaderSize) (totalSize - 32) := by
  simp only [handleFrame, h, htype, ↓reduceIte]

end

/-- One round of the loop of `ProcessInput`. -/
def processInputBody (m : DSNetManager) : Loop.Next DSNetManager :=
  match cut m.myTransactions m.mySocket.myInput with
  | .wait => .leave m
  | .lost => .leave m.connectionLost
  | .frame totalSize =>
    let r := m.handleFrame m.mySocket.myInput totalSize
    if ¬ r.1 then .leave r.2 else .again (r.2.consume totalSize)

def inputLength (m : DSNetManager) : ℕ := m.mySocket.myInput.length

/-- Every round that is followed by another one consumes input. -/
def processInput (m : DSNetManager) : DSNetManager := Loop.run processInputBody inputLength m

end DSNetManager
end NetNatsue
