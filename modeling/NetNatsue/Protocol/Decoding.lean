import NetNatsue.Foundations.Codec
import NetNatsue.Protocol.Packets

/-! What a server can tell from the bytes this client sends. The builders of packets are a code that
is read from left to right: the header says where the packet ends. -/
namespace NetNatsue
open Codec

/-- Bytes behind a pointer, as many as an `int` can count. -/
abbrev Block := {bytes : Bytes // bytes.length < 2147483648}

/-- A call of one of the packet builders. -/
inductive Build
  | handshake (user : BabelUIN) (ticket : Int32) (nickname password : Bytes) (magic : Int32)
  | wwrModify (add : Bool) (server target : BabelUIN)
  | getClientInfo (server target : BabelUIN) (ticket : Int32)
  | getConnectionDetail (server target : BabelUIN) (ticket : Int32)
  | getStatus (server : BabelUIN) (ticket : Int32)
  | fetchRandomUser (server user : BabelUIN) (ticket : Int32)
  | feedHistory (server user : BabelUIN) (ticket : Int32) (blob : Block)
  | message (server user target : BabelUIN) (payload : Block)
  | virtualConnectAccept (server initiator : BabelUIN) (initiatorVSN localVSN : Int32)
  deriving DecidableEq

namespace Build

def packet : Build → Bytes
  | handshake user ticket nickname password magic =>
    buildHandshake user ticket nickname password magic
  | wwrModify add server target => buildWWRModify add server target
  | getClientInfo server target ticket => buildGetClientInfo server target ticket
  | getConnectionDetail server target ticket => buildGetConnectionDetail server target ticket
  | getStatus server ticket => buildGetStatus server ticket
  | fetchRandomUser server user ticket => buildFetchRandomUser server user ticket
  | feedHistory server user ticket blob =>
    buildFeedHistory server user ticket blob.1 (sizeInt blob.1)
  | message server user target payload =>
    buildMessage server user target payload.1 (sizeInt payload.1)
  | virtualConnectAccept server initiator initiatorVSN localVSN =>
    buildVirtualConnectAccept server initiator initiatorVSN localVSN

/-- A virtual socket number of 16 bits. -/
def vsnOf (half : BitVec 16) : Int32 := Int32.ofBitVec (half.setWidth 32)

/-- The call as its packet carries it: of a virtual socket number the lower 16 bits. -/
def carried : Build → Build
  | virtualConnectAccept server initiator initiatorVSN localVSN =>
    virtualConnectAccept server initiator (vsnOf (Word32.lowerHalf initiatorVSN))
      (vsnOf (Word32.lowerHalf localVSN))
  | call => call

end Build

def readInt : Reader UInt8 Int32 := do
  let bytes ← block 4
  return getInt bytes 0

/-- As many bytes as an `int` says. -/
def readBlock (size : Int32) : Reader UInt8 Block := do
  let bytes ← block size.toInt.toNat
  if h : bytes.length < 2147483648 then return ⟨bytes, h⟩ else failure

def readHeader : Reader UInt8 PacketHeader := do
  let type ← readInt
  let fieldA ← readInt
  let fieldB ← readInt
  let fieldC ← readInt
  let fieldD ← readInt
  let ticket ← readInt
  let furtherData ← readInt
  let fieldE ← readInt
  return ⟨type, fieldA, fieldB, fieldC, fieldD, ticket, furtherData, fieldE⟩

/-- A string with its terminator, of a length that counts the terminator. -/
def readTerminated (size : Int32) : Reader UInt8 Bytes := do
  let bytes ← block size.toInt.toNat
  return bytes.dropLast

/-- What follows the header of a handshake. -/
def readHandshake (header : PacketHeader) : Reader UInt8 Build := do
  let _ ← readInt
  let _ ← readInt
  let magic ← readInt
  let nicknameSize ← readInt
  let passwordSize ← readInt
  let nickname ← readTerminated nicknameSize
  let password ← readTerminated passwordSize
  return .handshake ⟨header.fieldC, header.fieldD⟩ header.ticket nickname password magic

/-- What follows the header of a message: the target, the packed header and the payload. -/
def readMessage (header : PacketHeader) : Reader UInt8 Build := do
  let uid ← readInt
  let hid ← readInt
  let _ ← block 24
  let payload ← readBlock (header.furtherData - 24)
  return .message ⟨header.fieldA, header.fieldB⟩ ⟨header.fieldC, header.fieldD⟩ ⟨uid, hid⟩ payload

def readFeedHistory (header : PacketHeader) : Reader UInt8 Build := do
  let blob ← readBlock header.furtherData
  return .feedHistory ⟨header.fieldA, header.fieldB⟩ ⟨header.fieldC, header.fieldD⟩
    header.ticket blob

def readVirtualConnectAccept (header : PacketHeader) : Reader UInt8 Build := do
  let _ ← readInt
  return .virtualConnectAccept ⟨header.fieldA, header.fieldB⟩ ⟨header.fieldC, header.fieldD⟩
    (Build.vsnOf (Word32.upperHalf header.fieldE)) (Build.vsnOf (Word32.lowerHalf header.fieldE))

/-- The type in the header tells the builder. -/
def readBody (header : PacketHeader) : Reader UInt8 Build :=
  let server : BabelUIN := ⟨header.fieldA, header.fieldB⟩
  let user : BabelUIN := ⟨header.fieldC, header.fieldD⟩
  if header.type = packetHandshake then readHandshake header
  else if header.type = packetAddWWREntry then return .wwrModify true server user
  else if header.type = packetRemoveWWREntry then return .wwrModify false server user
  else if header.type = packetGetClientInfo then return .getClientInfo server user header.ticket
  else if header.type = packetGetConnectionDetail then
    return .getConnectionDetail server user header.ticket
  else if header.type = packetGetStatus then return .getStatus server header.ticket
  else if header.type = packetDSFetchRandomUser then
    return .fetchRandomUser server user header.ticket
  else if header.type = packetDSFeedHistory then readFeedHistory header
  else if header.type = packetMessage then readMessage header
  else if header.type = packetClientCommand then readVirtualConnectAccept header
  else failure

def readPacket : Reader UInt8 Build := do
  let header ← readHeader
  readBody header

theorem reads_int (value : Int32) : Reads readInt (putInt value) value := by
  have hread := (reads_block (putInt value) rfl).done (fun bytes => getInt bytes 0)
  have hvalue := getInt_putInt value []
  rw [List.append_nil] at hvalue
  rwa [hvalue] at hread

theorem reads_readBlock (bytes : Block) : Reads (readBlock (sizeInt bytes.1)) bytes.1 bytes := by
  have hsize : bytes.1.length = (sizeInt bytes.1).toInt.toNat := by
    rw [sizeInt_toInt bytes.1 bytes.2, Int.toNat_natCast]
  exact (reads_block bytes.1 hsize).yields (dif_pos bytes.2)

/-- A string that the size field counts together with its terminator. -/
theorem reads_terminated (text : Bytes) (h : text.length + 1 < 2147483648) :
    Reads (readTerminated (Int32.ofNat (text.length + 1))) (text ++ [0]) text := by
  have hsize : (text ++ [0]).length = (Int32.ofNat (text.length + 1)).toInt.toNat := by
    rw [Word32.toInt_ofNat_exact _ h, Int.toNat_natCast, List.length_append, List.length_singleton]
  exact (reads_block (text ++ [0]) hsize).yields (by rw [List.dropLast_concat])

theorem reads_header (header : PacketHeader) : Reads readHeader header.write header := by
  simp only [PacketHeader.write, List.append_assoc]
  exact (reads_int _).bind ((reads_int _).bind ((reads_int _).bind ((reads_int _).bind
    ((reads_int _).bind ((reads_int _).bind ((reads_int _).bind ((reads_int _).done _)))))))

/-- The header is read first, and then what it announces. -/
theorem reads_packet {header : PacketHeader} {body : Bytes} {call : Build}
    (h : Reads (readBody header) body call) : Reads readPacket (header.write ++ body) call :=
  (reads_header header).bind h

/-- A packet that is all header. -/
theorem reads_short {header : PacketHeader} {call : Build} (h : readBody header = pure call) :
    Reads readPacket header.write call :=
  (reads_header header).yields h

theorem reads_handshake (user : BabelUIN) (ticket : Int32) (nickname password : Bytes)
    (magic : Int32) (h : (buildHandshake user ticket nickname password magic).length < 2147483648) :
    Reads readPacket (buildHandshake user ticket nickname password magic)
      (.handshake user ticket nickname password magic) := by
  simp only [buildHandshake, List.length_append, PacketHeader.write_length, putInt_length,
    List.length_singleton, packetHeaderSize] at h
  have hnickname := reads_terminated nickname (by omega)
  have hpassword := reads_terminated password (by omega)
  have hbody : Reads (readHandshake
    { type := packetHandshake, fieldC := user.uid, fieldD := user.hid, ticket })
      (putInt handshakeClientVersion ++ (putInt handshakeProductCode ++ (putInt magic ++
        (putInt (Int32.ofNat (nickname.length + 1)) ++
          (putInt (Int32.ofNat (password.length + 1)) ++
          ((nickname ++ [0]) ++ (password ++ [0])))))))
      (.handshake user ticket nickname password magic) :=
    (reads_int _).bind ((reads_int _).bind
      ((reads_int _).bind ((reads_int _).bind ((reads_int _).bind
      (hnickname.bind (hpassword.done _))))))
  have hpacket : Reads readPacket
      (PacketHeader.write
        { type := packetHandshake, fieldC := user.uid, fieldD := user.hid, ticket } ++ _) _ :=
    reads_packet hbody
  simpa only [buildHandshake, List.append_assoc] using hpacket

theorem reads_feedHistory (server user : BabelUIN) (ticket : Int32) (blob : Block) :
    Reads readPacket (buildFeedHistory server user ticket blob.1 (sizeInt blob.1))
      (.feedHistory server user ticket blob) := by
  have hall : blob.1.take (sizeInt blob.1).toInt.toNat = blob.1 := by
    rw [sizeInt_toInt blob.1 blob.2, Int.toNat_natCast, List.take_length]
  rw [buildFeedHistory, hall]
  exact reads_packet ((reads_readBlock blob).done _)

theorem reads_message (server user target : BabelUIN) (payload : Block) :
    Reads readPacket (buildMessage server user target payload.1 (sizeInt payload.1))
      (.message server user target payload) := by
  have hall : payload.1.take (sizeInt payload.1).toInt.toNat = payload.1 := by
    rw [sizeInt_toInt payload.1 payload.2, Int.toNat_natCast, List.take_length]
  have hsize : (24 : Int32) + sizeInt payload.1 - 24 = sizeInt payload.1 := by
    rw [Int32.add_comm, Int32.add_sub_cancel]
  have hpayload := reads_readBlock payload
  rw [← hsize] at hpayload
  have hpacked : Reads (block 24) (putInt (24 + sizeInt payload.1) ++ putInt user.hid ++
    putInt user.uid
      ++ putInt (sizeInt payload.1) ++ putInt 0 ++ putInt 1) _ := reads_block _ rfl
  have hbody : Reads (readMessage
        { type := packetMessage, fieldA := server.uid, fieldB := server.hid, fieldC := user.uid
          fieldD := user.hid, furtherData := 24 + sizeInt payload.1 })
      (putInt target.uid ++ (putInt target.hid ++
        ((putInt (24 + sizeInt payload.1) ++ putInt user.hid ++ putInt user.uid ++
          putInt (sizeInt payload.1)
          ++ putInt 0 ++ putInt 1) ++ payload.1)))
      (.message server user target payload) :=
    (reads_int _).bind ((reads_int _).bind (hpacked.bind (hpayload.done _)))
  have hpacket : Reads readPacket (PacketHeader.write
      { type := packetMessage, fieldA := server.uid, fieldB := server.hid, fieldC := user.uid
        fieldD := user.hid, furtherData := 24 + sizeInt payload.1 } ++ _) _ := reads_packet hbody
  simpa only [buildMessage, hall, List.append_assoc] using hpacket

theorem reads_virtualConnectAccept (server initiator : BabelUIN) (initiatorVSN localVSN : Int32) :
    Reads readPacket (buildVirtualConnectAccept server initiator initiatorVSN localVSN)
      (.virtualConnectAccept server initiator (Build.vsnOf (Word32.lowerHalf initiatorVSN))
        (Build.vsnOf (Word32.lowerHalf localVSN))) := by
  have hbody : Reads (readVirtualConnectAccept
        { type := packetClientCommand, fieldA := server.uid, fieldB := server.hid, fieldC := initiator.uid
          fieldD := initiator.hid
          fieldE := ((initiatorVSN &&& 0xFFFF) <<< 16) ||| (localVSN &&& 0xFFFF) })
      (putInt clientCommandVirtualConnectAccept) _ := (reads_int _).done _
  simp only [Word32.upperHalf_packed, Word32.lowerHalf_packed] at hbody
  exact reads_packet hbody

theorem Build.reads (call : Build) (h : call.packet.length < 2147483648) :
    Reads readPacket call.packet call.carried := by
  cases call with
  | handshake user ticket nickname password magic =>
    exact reads_handshake user ticket nickname password magic h
  | wwrModify add server target =>
    cases add
    · exact reads_short rfl
    · exact reads_short rfl
  | getClientInfo server target ticket => exact reads_short rfl
  | getConnectionDetail server target ticket => exact reads_short rfl
  | getStatus server ticket => exact reads_short rfl
  | fetchRandomUser server user ticket => exact reads_short rfl
  | feedHistory server user ticket blob => exact reads_feedHistory server user ticket blob
  | message server user target payload => exact reads_message server user target payload
  | virtualConnectAccept server initiator initiatorVSN localVSN =>
    exact reads_virtualConnectAccept server initiator initiatorVSN localVSN

theorem Build.packet_ne_nil (call : Build) : call.packet ≠ [] := by
  intro hnil
  have hreads := call.reads (by rw [hnil]; decide)
  rw [hnil] at hreads
  -- there is no header in an empty stream
  have hnone : readPacket [] = none := rfl
  exact absurd (hnone.symm.trans (hreads [])) (by simp)

/-- **The outgoing stream is uniquely decodable.** Two sequences of packets, each packet shorter
than 2^31 bytes, that are the same bytes come from the same calls of the same builders, with the
arguments that packets carry equal. -/
theorem packets_decodable (calls calls' : List Build)
    (hfit : ∀ call ∈ calls, call.packet.length < 2147483648)
    (hfit' : ∀ call ∈ calls', call.packet.length < 2147483648)
    (h : calls.flatMap Build.packet = calls'.flatMap Build.packet) :
    calls.map Build.carried = calls'.map Build.carried :=
  flatMap_decodable (fun call => call.packet.length < 2147483648) Build.reads
    (fun call _ => call.packet_ne_nil) calls calls' hfit hfit' h

/-- Virtual socket numbers are told apart by their lower 16 bits only. -/
theorem packets_decodable_wrapped :
    [Build.getStatus ⟨1, 1⟩ 7, .virtualConnectAccept ⟨1, 1⟩ ⟨5, 1⟩ 65537 2].map Build.carried =
      [Build.getStatus ⟨1, 1⟩ 7, .virtualConnectAccept ⟨1, 1⟩ ⟨5, 1⟩ 1 2].map Build.carried :=
  packets_decodable _ _ (by decide +kernel) (by decide +kernel) (by decide +kernel)

end NetNatsue
