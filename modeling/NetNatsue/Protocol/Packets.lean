import NetNatsue.Protocol.Identity

/-! Packet headers and the packets this client builds. -/
namespace NetNatsue

/-- The packets a server sends that the framer knows by type. -/
inductive ServerPacket
  | message
  | handshakeResponse
  | userOnline
  | userOffline
  | clientCommand
  | onlineChange
  | virtualConnect
  | virtualCircuit
  | virtualCircuitClose
  | migrate
  deriving DecidableEq, Repr

/-- The server writes the type as a single byte. -/
def ServerPacket.ofType (type : Int32) : Option ServerPacket :=
  let type := type &&& 0xFF
  if type = 0x09 then some .message
  else if type = 0x0A then some .handshakeResponse
  else if type = 0x0D then some .userOnline
  else if type = 0x0E then some .userOffline
  else if type = 0x14 then some .clientCommand
  else if type = 0x1D then some .onlineChange
  else if type = 0x1E then some .virtualConnect
  else if type = 0x1F then some .virtualCircuit
  else if type = 0x20 then some .virtualCircuitClose
  else if type = 0x2A then some .migrate
  else none

def packetMessage : Int32 := 0x09
def packetGetClientInfo : Int32 := 0x0F
def packetAddWWREntry : Int32 := 0x10
def packetRemoveWWREntry : Int32 := 0x11
def packetGetConnectionDetail : Int32 := 0x13
def packetClientCommand : Int32 := 0x14
def packetGetStatus : Int32 := 0x18
def packetHandshake : Int32 := 0x25
def packetDSFetchRandomUser : Int32 := 0x0221
def packetDSFeedHistory : Int32 := 0x0321

def packetHeaderSize : ℕ := 32
def clientCommandVirtualConnectAccept : Int32 := 0x0E
def handshakeClientVersion : Int32 := 1
def handshakeProductCode : Int32 := 2
def handshakeMagicModern : Int32 := 20240219

structure PacketHeader where
  type : Int32 := 0
  fieldA : Int32 := 0
  fieldB : Int32 := 0
  fieldC : Int32 := 0
  fieldD : Int32 := 0
  ticket : Int32 := 0
  furtherData : Int32 := 0
  fieldE : Int32 := 0
  deriving DecidableEq, Repr

namespace PacketHeader

def read (data : Bytes) : PacketHeader :=
  { type := getInt data 0
    fieldA := getInt data 4
    fieldB := getInt data 8
    fieldC := getInt data 12
    fieldD := getInt data 16
    ticket := getInt data 20
    furtherData := getInt data 24
    fieldE := getInt data 28 }

def write (h : PacketHeader) : Bytes :=
  putInt h.type ++ putInt h.fieldA ++ putInt h.fieldB ++ putInt h.fieldC ++ putInt h.fieldD
    ++ putInt h.ticket ++ putInt h.furtherData ++ putInt h.fieldE

@[simp] theorem write_length (h : PacketHeader) : h.write.length = packetHeaderSize := by
  simp [write, packetHeaderSize]

/-- What was written is read. -/
@[simp] theorem read_write (h : PacketHeader) (rest : Bytes) : read (h.write ++ rest) = h := by
  simp only [read, write, List.append_assoc]
  simp (disch := decide) only [getInt_skip, getInt_putInt, Nat.reduceSub]

@[simp] theorem read_write_alone (h : PacketHeader) : read h.write = h := by
  have hread := read_write h []
  rwa [List.append_nil] at hread

/-- The header is determined by the first 32 bytes. -/
theorem read_append (a b : Bytes) (h : packetHeaderSize ≤ a.length) : read (a ++ b) = read a := by
  unfold packetHeaderSize at h
  simp only [read, getInt_append a b _ (show 0+4 ≤ a.length by omega),
    getInt_append a b _ (show 4+4 ≤ a.length by omega),
    getInt_append a b _ (show 8+4 ≤ a.length by omega),
    getInt_append a b _ (show 12+4 ≤ a.length by omega),
    getInt_append a b _ (show 16+4 ≤ a.length by omega),
    getInt_append a b _ (show 20+4 ≤ a.length by omega),
    getInt_append a b _ (show 24+4 ≤ a.length by omega),
    getInt_append a b _ (show 28+4 ≤ a.length by omega)]

end PacketHeader

def buildHandshake (user : BabelUIN) (ticket : Int32) (nickname password : Bytes)
    (magic : Int32) : Bytes :=
  let header : PacketHeader :=
    { type := packetHandshake, fieldC := user.uid, fieldD := user.hid, ticket := ticket }
  header.write ++ putInt handshakeClientVersion ++ putInt handshakeProductCode ++ putInt magic
    ++ putInt (Int32.ofNat (nickname.length + 1)) ++ putInt (Int32.ofNat (password.length + 1))
    ++ nickname ++ [0] ++ password ++ [0]

def buildWWRModify (add : Bool) (server target : BabelUIN) : Bytes :=
  let header : PacketHeader :=
    { type := if add then packetAddWWREntry else packetRemoveWWREntry
      fieldA := server.uid, fieldB := server.hid, fieldC := target.uid, fieldD := target.hid }
  header.write

/-- What a packet does to the register of the server: adding or removing, and whom. -/
def wwrModified (data : Bytes) : Option (Bool × BabelUIN) :=
  let header := PacketHeader.read data
  if header.type = packetAddWWREntry then some (true, ⟨header.fieldC, header.fieldD⟩)
  else if header.type = packetRemoveWWREntry then some (false, ⟨header.fieldC, header.fieldD⟩)
  else none

@[simp] theorem wwrModified_build (add : Bool) (server target : BabelUIN) :
    wwrModified (buildWWRModify add server target) = some (add, target) := by
  cases add <;> simp [wwrModified, buildWWRModify, packetAddWWREntry, packetRemoveWWREntry]

@[simp] theorem buildWWRModify_length (add : Bool) (server target : BabelUIN) :
    (buildWWRModify add server target).length = 32 := by
  simp [buildWWRModify, packetHeaderSize]

def buildGetClientInfo (server target : BabelUIN) (ticket : Int32) : Bytes :=
  let header : PacketHeader :=
    { type := packetGetClientInfo, fieldA := server.uid, fieldB := server.hid
      fieldC := target.uid, fieldD := target.hid, ticket := ticket }
  header.write

def buildGetConnectionDetail (server target : BabelUIN) (ticket : Int32) : Bytes :=
  let header : PacketHeader :=
    { type := packetGetConnectionDetail, fieldA := server.uid, fieldB := server.hid
      fieldC := target.uid, fieldD := target.hid, ticket := ticket }
  header.write

def buildGetStatus (server : BabelUIN) (ticket : Int32) : Bytes :=
  let header : PacketHeader :=
    { type := packetGetStatus, fieldA := server.uid, fieldB := server.hid, ticket := ticket }
  header.write

def buildFetchRandomUser (server user : BabelUIN) (ticket : Int32) : Bytes :=
  let header : PacketHeader :=
    { type := packetDSFetchRandomUser, fieldA := server.uid, fieldB := server.hid
      fieldC := user.uid, fieldD := user.hid, ticket := ticket
      fieldE := 3 }
  header.write

def buildFeedHistory (server user : BabelUIN) (ticket : Int32) (blob : Bytes)
    (blobSize : Int32) : Bytes :=
  let header : PacketHeader :=
    { type := packetDSFeedHistory, fieldA := server.uid, fieldB := server.hid
      fieldC := user.uid, fieldD := user.hid, ticket := ticket, furtherData := blobSize }
  header.write ++ blob.take blobSize.toInt.toNat

theorem buildFeedHistory_length (server user : BabelUIN) (ticket : Int32) (blob : Bytes)
    (blobSize : Int32) :
    (buildFeedHistory server user ticket blob blobSize).length < 4294967296 := by
  have hupper := Word32.toInt_upper blobSize
  have htake : (blob.take blobSize.toInt.toNat).length ≤ blobSize.toInt.toNat :=
    List.length_take_le _ _
  simp only [buildFeedHistory, List.length_append, PacketHeader.write_length, packetHeaderSize]
  omega

/-- The payload inside a Packed Babel Message inside a message packet for `target`. -/
def buildMessage (server user target : BabelUIN) (payload : Bytes) (payloadSize : Int32) : Bytes :=
  let packedHeaderSize : Int32 := 24
  let packedSize := packedHeaderSize + payloadSize
  let header : PacketHeader :=
    { type := packetMessage, fieldA := server.uid, fieldB := server.hid
      fieldC := user.uid, fieldD := user.hid, furtherData := packedSize }
  header.write ++ putInt target.uid ++ putInt target.hid
    -- the packed header, with the HID before the UID
    ++ putInt packedSize ++ putInt user.hid ++ putInt user.uid ++ putInt payloadSize
    ++ putInt 0 ++ putInt 1
    ++ payload.take payloadSize.toInt.toNat

theorem buildMessage_length (server user target : BabelUIN) (payload : Bytes)
    (payloadSize : Int32) :
    64 ≤ (buildMessage server user target payload payloadSize).length ∧
      (buildMessage server user target payload payloadSize).length < 4294967296 := by
  have hupper := Word32.toInt_upper payloadSize
  have htake : (payload.take payloadSize.toInt.toNat).length ≤ payloadSize.toInt.toNat :=
    List.length_take_le _ _
  simp only [buildMessage, List.length_append, PacketHeader.write_length, packetHeaderSize,
    putInt_length]
  omega

/-- The Packed Babel Message of a message packet is what follows the header and the target. -/
theorem buildMessage_packed (server user target : BabelUIN) (payload : Bytes)
    (hfit : payload.length < 2147483648) :
    (buildMessage server user target payload (sizeInt payload)).drop 40 =
      putInt (24 + sizeInt payload) ++ putInt user.hid ++ putInt user.uid ++
        putInt (sizeInt payload)
        ++ putInt 0 ++ putInt 1 ++ payload := by
  have hall : payload.take (sizeInt payload).toInt.toNat = payload := by
    rw [sizeInt_toInt payload hfit, Int.toNat_natCast, List.take_length]
  simp only [buildMessage, hall, List.append_assoc]
  rfl

def buildVirtualConnectAccept (server initiator : BabelUIN) (initiatorVSN localVSN : Int32) :
    Bytes :=
  let header : PacketHeader :=
    { type := packetClientCommand, fieldA := server.uid, fieldB := server.hid
      fieldC := initiator.uid, fieldD := initiator.hid
      fieldE := ((initiatorVSN &&& 0xFFFF) <<< 16) ||| (localVSN &&& 0xFFFF) }
  header.write ++ putInt clientCommandVirtualConnectAccept

@[simp] theorem buildVirtualConnectAccept_length (server initiator : BabelUIN)
    (initiatorVSN localVSN : Int32) :
    (buildVirtualConnectAccept server initiator initiatorVSN localVSN).length = 36 := by
  simp [buildVirtualConnectAccept, packetHeaderSize]

end NetNatsue
