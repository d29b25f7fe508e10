import NetNatsue.Manager.Register

/-! The handlers of received packets. -/
namespace NetNatsue

def mapHandshakeError (code : Int32) : Error :=
  if code = 0 then .offline
  else if code = 1 then .alreadyLoggedIn
  else if code = 3 ∨ code = 6 then .badUser
  else if code = 7 ∨ code = 13 ∨ code = 15 then .offline
  else if code = 12 then .tooManyUsers
  else if code = 14 then .needsUpdate
  else if code = 16 then .unknown
  else .internal

/-- Characters up to a zero byte or the end, and the offset behind them. -/
def readZeroTerminated (raw : Bytes) (rawSize : ℕ) : ℕ → ℕ → Bytes × ℕ
  | 0, offset => ([], offset)
  | n+1, offset =>
    if offset < rawSize ∧ byteAt raw offset ≠ 0 then
      let rest := readZeroTerminated raw rawSize n (offset+1)
      (byteAt raw offset :: rest.1, rest.2)
    else ([], offset)

/-- The server list of a handshake response: at most `count` entries from `offset` on. -/
def parseServers (raw : Bytes) (rawSize : ℕ) : ℕ → ℕ → List CBabelServerInfo
  | 0, _ => []
  | count+1, offset =>
    if offset + 8 > rawSize then []
    else
      let port := getInt raw offset
      let id := getInt raw (offset+4)
      let address := readZeroTerminated raw rawSize rawSize (offset+8)
      let name := readZeroTerminated raw rawSize rawSize (address.2+1)
      let offset := name.2+1
      if offset > rawSize then []
      else
        { myHost := address.1, myFriendlyName := name.1, myPort := port, myID := id }
          :: parseServers raw rawSize count offset

/-- The list a login response carries, empty if it carries none. -/
def updatedServers (raw : Bytes) (rawSize : Int32) : List CBabelServerInfo :=
  if rawSize ≥ 60 then
    let flagA := getInt raw 48
    let flagB := getInt raw 52
    let count := getInt raw 56
    if flagA = 1 ∧ flagB = 1 ∧ count > 0 ∧ count < 1000 then
      parseServers raw rawSize.toInt.toNat count.toInt.toNat 60
    else []
  else []

namespace Transaction

def handleResponse (transaction : Transaction) (header : PacketHeader) (body : Bytes)
    (bodySize : Int32) : Transaction :=
  let transaction := { transaction with done := true, success := false }
  match transaction.kind with
  | .clientInfo =>
    -- zero further data means the user does not exist
    if header.furtherData > 0 ∧ bodySize ≥ header.furtherData then
      match parseShortUserData (body.drop transaction.fixedExtra.val.toInt.toNat)
          header.furtherData with
      | some userData =>
        { transaction with
          success := true, resultUIN := userData.uin, resultString := userData.nickName }
      | none => transaction
    else transaction
  | .connectionDetail =>
    { transaction with
      success := (header.fieldA ≠ 0 ∧ header.fieldB ≠ 0) ∨ header.fieldE ≠ 0 }
  | .status =>
    if bodySize ≥ 16 then
      { transaction with
        success := true
        resultInts := #v[getInt body 0, getInt body 4, getInt body 8, getInt body 12] }
    else transaction
  | .randomUser =>
    if header.fieldE = 1 then
      { transaction with success := true, resultUIN := ⟨header.fieldC, header.fieldD⟩ }
    else transaction
  | .feedHistory => { transaction with success := true }
  | .abandoned => transaction

end Transaction

namespace DSNetManager

def disconnect (m : DSNetManager) : DSNetManager :=
  ({ m with
    mySocket := m.mySocket.close
    myConnectPhase := .idle
    myTransactions := fun _ => none }.markEveryoneOffline).emit .ended

def connectionLost (m : DSNetManager) : DSNetManager :=
  ({ m with
    myLastError := .offline
    myRawError := -m.mySocket.myLastSystemError
    mySocket := m.mySocket.close
    myConnectPhase := .idle
    myTransactions := fun _ => none }.markEveryoneOffline).emit .ended

def spoolPrayFile (m : DSNetManager) (sender : BabelUIN) (payload : Bytes) : DSNetManager :=
  { m with disk := m.disk.spool m.myInboxDirectory sender payload }.emit
    (.spooled m.myInboxDirectory sender payload)

def handleMessage (m : DSNetManager) (body : Bytes) (bodySize : Int32) : DSNetManager :=
  match parsePackedBabelMessage body bodySize with
  | none => m
  | some message =>
    if message.messageType = mesgPrayFile then m.spoolPrayFile message.sender message.payload
    else
      { m with
        myIncomingMessages := m.myIncomingMessages ++
          [{ user := message.sender.toString, type := message.messageType
             payload := message.payload }] }

def handleUserData (m : DSNetManager) (online : Bool) (body : Bytes) (bodySize : Int32) :
    DSNetManager :=
  match parseShortUserData body bodySize with
  | none => m
  | some userData => m.updatePresence userData.uin online userData.nickName

/-- Accept a virtual circuit; `false` when the reply could not be written. -/
def handleVirtualConnect (m : DSNetManager) (header : PacketHeader) : Bool × DSNetManager :=
  let v := m.nextVSN
  let accept := buildVirtualConnectAccept m.myServerUIN ⟨header.fieldC, header.fieldD⟩
    header.fieldE v.1
  let r := v.2.socketWrite accept
  if ¬ r.1 then (false, r.2.connectionLost) else (true, r.2)

/-- `false` when the connection was dropped while handling. -/
def handlePacket (m : DSNetManager) (header : PacketHeader) (body : Bytes) (bodySize : Int32) :
    Bool × DSNetManager :=
  match ServerPacket.ofType header.type with
  | some .message => (true, m.handleMessage body bodySize)
  | some .userOnline => (true, m.handleUserData true body bodySize)
  | some .userOffline => (true, m.handleUserData false body bodySize)
  | some .onlineChange =>
    (true, m.updatePresence ⟨header.fieldC, header.fieldD⟩ (header.fieldE ≠ 0) [])
  | some .virtualConnect => m.handleVirtualConnect header
  | some .clientCommand => (true, m)
  | some .virtualCircuit => (true, m)
  | some .virtualCircuitClose => (true, m)
  | some .migrate => (true, m)
  | some .handshakeResponse => (true, m)
  | none => (true, m)

/-- What packets other than circuit requests leave alone. -/
structure Undisturbed (m n : DSNetManager) : Prop where
  socket : n.mySocket = m.mySocket
  phase : n.myConnectPhase = m.myConnectPhase
  transactions : n.myTransactions = m.myTransactions
  inbox : n.myInboxDirectory = m.myInboxDirectory
  trace : ∃ files, n.trace = m.trace ++ files ∧
    ∀ e ∈ files, ∃ sender payload, e = Event.spooled m.myInboxDirectory sender payload

section
variable (m : DSNetManager)

theorem undisturbed_refl : Undisturbed m m :=
  ⟨rfl, rfl, rfl, rfl, [], by simp, by simp⟩

theorem undisturbed_updatePresence (uin : BabelUIN) (online : Bool) (nickName : Bytes) :
    Undisturbed m (m.updatePresence uin online nickName) := by
  obtain ⟨changed, adds, hframe⟩ := m.updatePresence_frame uin online nickName
  rw [hframe]
  exact ⟨rfl, rfl, rfl, rfl, [], by simp, by simp⟩

theorem undisturbed_handleUserData (online : Bool) (body : Bytes) (bodySize : Int32) :
    Undisturbed m (m.handleUserData online body bodySize) := by
  unfold handleUserData
  cases parseShortUserData body bodySize with
  | none => exact undisturbed_refl m
  | some userData => exact undisturbed_updatePresence m _ online _

theorem undisturbed_handleMessage (body : Bytes) (bodySize : Int32) :
    Undisturbed m (m.handleMessage body bodySize) := by
  unfold handleMessage
  cases parsePackedBabelMessage body bodySize with
  | none => exact undisturbed_refl m
  | some message =>
    simp only
    split_ifs
    · exact ⟨rfl, rfl, rfl, rfl, [.spooled m.myInboxDirectory message.sender message.payload], rfl,
        by simp⟩
    · exact ⟨rfl, rfl, rfl, rfl, [], by simp, by simp⟩

/-- Every packet but a circuit request is handled without the socket. -/
theorem handlePacket_undisturbed (header : PacketHeader) (body : Bytes) (bodySize : Int32)
    (h : ServerPacket.ofType header.type ≠ some .virtualConnect) :
    (m.handlePacket header body bodySize).1 = true ∧
      Undisturbed m (m.handlePacket header body bodySize).2 := by
  unfold handlePacket
  cases hpacket : ServerPacket.ofType header.type with
  | none => exact ⟨rfl, undisturbed_refl m⟩
  | some packet =>
    cases packet
    case message => exact ⟨rfl, undisturbed_handleMessage m body bodySize⟩
    case userOnline => exact ⟨rfl, undisturbed_handleUserData m true body bodySize⟩
    case userOffline => exact ⟨rfl, undisturbed_handleUserData m false body bodySize⟩
    case onlineChange => exact ⟨rfl, undisturbed_updatePresence m _ _ _⟩
    case virtualConnect => exact absurd hpacket h
    all_goals exact ⟨rfl, undisturbed_refl m⟩

end

def refuseLogin (m : DSNetManager) (errorCode : Int32) : DSNetManager :=
  { m with
    myLastError := mapHandshakeError errorCode
    myRawError := errorCode
    mySocket := m.mySocket.close
    myConnectPhase := .failed }

def acceptLogin (m : DSNetManager) (serverUIN userUIN : BabelUIN)
    (servers : List CBabelServerInfo) :
    DSNetManager :=
  let t := m.nowMs
  let m := { t.2 with
    myServerUIN := serverUIN
    myUserUIN := userUIN
    myConnectedAtMs := t.1
    myLastError := .ok
    myRawError := 0
    myConnectPhase := .online
    myServers := if servers = [] then t.2.myServers else servers
    myServerRotation := if servers = [] then t.2.myServerRotation else 0 }
  let m := sendWWRRegistrations m.myUsersForWWR m
  { m with myUsersForWWR := [], myOutboxDirty := true }

/-- What the acceptance of a login begins with. -/
def admitted (m : DSNetManager) (serverUIN userUIN : BabelUIN) (servers : List CBabelServerInfo) :
    DSNetManager :=
  { m.nowMs.2 with
    myServerUIN := serverUIN
    myUserUIN := userUIN
    myConnectedAtMs := m.nowMs.1
    myLastError := .ok
    myRawError := 0
    myConnectPhase := .online
    myServers := if servers = [] then m.nowMs.2.myServers else servers
    myServerRotation := if servers = [] then m.nowMs.2.myServerRotation else 0 }

theorem acceptLogin_admitted (m : DSNetManager) (serverUIN userUIN : BabelUIN)
    (servers : List CBabelServerInfo) :
    m.acceptLogin serverUIN userUIN servers =
      { sendWWRRegistrations m.myUsersForWWR (m.admitted serverUIN userUIN servers) with
        myUsersForWWR := [], myOutboxDirty := true } := rfl

/-- The error byte is the second byte of the response. -/
def handshakeErrorCode (raw : Bytes) : Int32 := Int32.ofNat (byteAt raw 1).toNat

def handleHandshakeResponse (m : DSNetManager) (header : PacketHeader) (raw : Bytes)
    (rawSize : Int32) : DSNetManager :=
  if m.myConnectPhase ≠ .awaitHandshake then m
  else
    let errorCode := handshakeErrorCode raw
    let serverUIN : BabelUIN := ⟨header.fieldA, header.fieldB⟩
    let userUIN : BabelUIN := ⟨header.fieldC, header.fieldD⟩
    if errorCode ≠ 0 ∨ serverUIN.uid = 0 then m.refuseLogin errorCode
    else m.acceptLogin serverUIN userUIN (updatedServers raw rawSize)

end DSNetManager
end NetNatsue
