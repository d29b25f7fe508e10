import NetNatsue.Manager.Framer

/-! Connecting, logging in, and the pump that moves bytes and packets. -/
namespace NetNatsue.DSNetManager

/-- Choose the server to talk to. The rotation is converted to the unsigned type of the
length before the remainder is taken. -/
def chooseServer (m : DSNetManager) : DSNetManager :=
  if m.ourOverrideHost ≠ [] then
    { m with
      myConnectedHost := m.ourOverrideHost
      myConnectedPort := if m.ourOverridePort ≠ 0 then m.ourOverridePort else defaultPort
      myConnectedID := 0
      myConnectedFriendlyName := ascii "Override" }
  else if m.myServers ≠ [] then
    let server :=
      m.myServers.getD ((m.myServerRotation.toInt % 2^64).toNat % m.myServers.length) {}
    { m with
      myServerRotation := m.myServerRotation + 1
      myConnectedHost := server.myHost
      myConnectedPort := if server.myPort ≠ 0 then server.myPort else defaultPort
      myConnectedID := server.myID
      myConnectedFriendlyName := server.myFriendlyName }
  else
    { m with
      myConnectedHost := defaultHost
      myConnectedPort := defaultPort
      myConnectedID := defaultID
      myConnectedFriendlyName := defaultFriendlyName }

/-- The choice concerns nothing but the rotation and what is known of the server. -/
theorem chooseServer_frame (m : DSNetManager) : ∃ rotation host port id name, m.chooseServer =
    { m with
      myServerRotation := rotation
      myConnectedHost := host
      myConnectedPort := port
      myConnectedID := id
      myConnectedFriendlyName := name } := by
  simp only [chooseServer]
  split_ifs <;> exact ⟨_, _, _, _, _, rfl⟩

def enter (m : DSNetManager) (phase : ConnectPhase) : DSNetManager :=
  { m with myConnectPhase := phase }

/-- Give up a connection attempt. -/
def failWith (m : DSNetManager) (rawError : Int32) : DSNetManager :=
  { m with myLastError := .offline, myRawError := rawError }.enter .failed

def setDeadline (m : DSNetManager) : DSNetManager :=
  let t := m.nowMs
  { t.2 with myConnectDeadline := deadlineIn t.1 connectTimeoutMs }

def beginConnect (m : DSNetManager) : Bool × DSNetManager :=
  (m.mySocket.beginConnect.1, { m with mySocket := m.mySocket.beginConnect.2 })

def startConnecting (m : DSNetManager) : DSNetManager :=
  let m := m.chooseServer
  let r := (m.emit (.connecting m.myConnectedHost m.myConnectedPort)).beginConnect
  if ¬ r.1 then r.2.failWith (-r.2.mySocket.myLastSystemError)
  else (r.2.enter .connecting).setDeadline

def pumpConnectSocket (m : DSNetManager) : DSNetManager :=
  { m with mySocket := m.mySocket.pumpConnect }

/-- A client that has logged in before quotes the user id it was given. -/
def handshakePacket (m : DSNetManager) (ticket : Int32) : Bytes :=
  buildHandshake m.myUserUIN ticket m.myNickname m.myPassword
    (if m.ourClientMode = .original then 0 else handshakeMagicModern)

/-- Log straight in. -/
def sendHandshake (m : DSNetManager) : DSNetManager :=
  let t := m.nextTicket
  let r := t.2.socketWrite (m.handshakePacket t.1)
  if ¬ r.1 then r.2.failWith (-r.2.mySocket.myLastSystemError) else r.2.enter .awaitHandshake

/-- `PumpConnectPhase` while connecting. -/
def pumpConnecting (m : DSNetManager) : DSNetManager :=
  let m := m.pumpConnectSocket
  if m.mySocket.myState = .connected then m.sendHandshake
  else if m.mySocket.myState ≠ .connecting then m.failWith (-m.mySocket.myLastSystemError)
  else m

/-- `PumpConnectPhase` while awaiting the handshake response. What arrived is processed even
if the server then hung up: a refusal is sent just before the disconnection. -/
def pumpAwaiting (m : DSNetManager) : DSNetManager :=
  let r := m.socketPump
  let m := r.2.processInput
  if m.myConnectPhase = .awaitHandshake ∧ ¬ r.1 then m.failWith (-m.mySocket.myLastSystemError)
  else m

def closeSocket (m : DSNetManager) : DSNetManager := { m with mySocket := m.mySocket.close }

/-- Give up if it is all taking too long. -/
def pumpTimeout (m : DSNetManager) : DSNetManager :=
  if m.myConnectPhase = .connecting ∨ m.myConnectPhase = .awaitHandshake then
    let t := m.nowMs
    if timeAfter t.1 t.2.myConnectDeadline then t.2.closeSocket.failWith 0 else t.2
  else m

/-- Where the source returns early the phase is `failed`, and the parts that follow do
nothing. -/
def pumpConnectPhase (m : DSNetManager) : DSNetManager :=
  let m := if m.myConnectPhase = .connecting then m.pumpConnecting else m
  let m := if m.myConnectPhase = .awaitHandshake then m.pumpAwaiting else m
  m.pumpTimeout

def pumpOnline (m : DSNetManager) : DSNetManager :=
  let r := m.socketPump
  -- everything that arrived before a disconnection is handled first
  let m := r.2.processInput
  if ¬ r.1 ∧ m.myConnectPhase = .online then m.connectionLost else m

def pump (m : DSNetManager) : DSNetManager :=
  if m.myConnectPhase = .connecting ∨ m.myConnectPhase = .awaitHandshake then m.pumpConnectPhase
  else if m.myConnectPhase ≠ .online then m
  else m.pumpOnline

/-- The caller is to call again while this is so. -/
def blocking (m : DSNetManager) : Bool :=
  m.myConnectPhase = .connecting ∨ m.myConnectPhase = .awaitHandshake

/-- The value of `block`, and the state. -/
def connectInBackground (m : DSNetManager) (usersForWWR : List Bytes) : Bool × DSNetManager :=
  if m.Online then (false, m.emit (.polled m.myConnectPhase true false))
  else
    let n :=
      if m.myConnectPhase = .idle ∨ m.myConnectPhase = .failed ∨ m.myConnectPhase = .online then
        { m with myUsersForWWR := usersForWWR }.startConnecting
      else m.pumpConnectPhase
    (n.blocking, n.emit (.polled m.myConnectPhase false n.blocking))

/-- The last event of a poll tells what it returns. -/
theorem connectInBackground_polled (m : DSNetManager) (users : List Bytes) :
    (m.connectInBackground users).2.trace.getLast? =
      some (.polled m.myConnectPhase (decide m.Online) (m.connectInBackground users).1) := by
  unfold connectInBackground
  by_cases honline : m.Online
  · rw [if_pos honline, decide_eq_true honline, emit_trace, List.getLast?_concat]
  · rw [if_neg honline, decide_eq_false honline, emit_trace, List.getLast?_concat]

/-- `Connect`, for as many polls as the fuel allows; no answer when it runs out. -/
def connect : ℕ → DSNetManager → Option Bool × DSNetManager
  | 0, m => (none, m)
  | fuel+1, m =>
    let r := m.connectInBackground []
    if ¬ r.1 then (some r.2.Online, r.2) else connect fuel r.2

def overrideHost (m : DSNetManager) (host : Bytes) (port : Int32) : DSNetManager :=
  { m with ourOverrideHost := host, ourOverridePort := port }

def setClientMode (m : DSNetManager) (mode : ClientMode) : DSNetManager :=
  { m with ourClientMode := mode }

def setUser (m : DSNetManager) (nickname password : Bytes) : DSNetManager :=
  { m with myNickname := nickname, myPassword := password }

def setServerList (m : DSNetManager) (servers : List CBabelServerInfo) : DSNetManager :=
  { m with myServers := servers, myServerRotation := 0 }

end NetNatsue.DSNetManager
