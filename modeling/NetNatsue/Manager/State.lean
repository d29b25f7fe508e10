import Mathlib.Data.Finset.Basic
import NetNatsue.Manager.Disk
import NetNatsue.Protocol.Parsers
import NetNatsue.Socket.Socket

/-! The state of the network manager, and the primitives every part of it uses. -/
namespace NetNatsue

def connectTimeoutMs : UInt32 := 30000
def queryTimeoutMs : UInt32 := 10000
def wwrAddTimeoutMs : UInt32 := 4000
def userOnlineTimeoutMs : UInt32 := 5000
def historyTimeoutMs : UInt32 := 8000
def outboxRescanMs : UInt32 := 5000
def maxFurtherData : Int32 := 33554432

def defaultHost : Bytes := ascii "heart.creatures.net"
def defaultPort : Int32 := 49152
def defaultID : Int32 := 1
def defaultFriendlyName : Bytes := ascii "Heart"

/-- `NetMessages::MESG_PRAY_FILE`: the payload is a file for the inbox. -/
def mesgPrayFile : Int32 := 0

structure CBabelServerInfo where
  myHost : Bytes := []
  myFriendlyName : Bytes := []
  myPort : Int32 := 0
  myID : Int32 := 0
  deriving DecidableEq, Repr

inductive Error
  | unknown
  | ok
  | offline
  | badUser
  | alreadyLoggedIn
  | tooManyUsers
  | internal
  | needsUpdate
  deriving DecidableEq, Repr

inductive ClientMode
  | modern
  | original
  deriving DecidableEq, Repr

inductive ConnectPhase
  | idle
  | connecting
  | awaitHandshake
  | online
  | failed
  deriving DecidableEq, Repr

inductive TransactionKind
  | clientInfo
  | connectionDetail
  | status
  | randomUser
  | feedHistory
  | abandoned
  deriving DecidableEq, Repr

/-- Response bytes between the header and the further data: a status response has sixteen,
every other kind none. -/
abbrev FixedExtra := {n : Int32 // n = 0 ∨ n = 16}

def noExtra : FixedExtra := ⟨0, Or.inl rfl⟩
def statusExtra : FixedExtra := ⟨16, Or.inr rfl⟩

/-- A request whose response is still to come, or has come and waits to be collected. -/
structure Transaction where
  kind : TransactionKind := .abandoned
  fixedExtra : FixedExtra := noExtra
  done : Bool := false
  success : Bool := false
  resultUIN : BabelUIN := {}
  resultString : Bytes := []
  resultInts : Vector Int32 4 := #v[0, 0, 0, 0]
  deriving DecidableEq

structure Presence where
  online : Bool := false
  nickName : Bytes := []
  deriving DecidableEq, Repr

structure IncomingMessage where
  user : Bytes
  type : Int32
  payload : Bytes
  deriving DecidableEq, Repr

/-- `ticket` is 0 when idle. -/
structure PendingQuery where
  ticket : Int32 := 0
  deadline : UInt32 := 0
  deriving DecidableEq, Repr

/-- A queued message; what its `Send` does is engine code. -/
structure QueuedMessage where
  myDebugText : Bytes
  deriving DecidableEq, Repr

/-- What an observer of the manager sees happen. Frames are recorded when they are handed
to their handler, with the phase they are met in, and packets when `Write` reports success,
with the connection they are for. -/
inductive Event
  | connecting (host : Bytes) (port : Int32)
  | polled (found : ConnectPhase) (online block : Bool)
  | issued (ticket : Int32)
  | started (ticket : Int32) (kind : TransactionKind)
  | wrote (connection : ℕ) (packet : Bytes)
  | response (ticket : Int32) (frame : Bytes)
  | handshake (phase : ConnectPhase) (frame : Bytes)
  | packet (phase : ConnectPhase) (header : PacketHeader) (frame : Bytes)
  | ended
  | spooled (inbox : Bytes) (sender : BabelUIN) (payload : Bytes)
  | posted (path : Bytes) (connection offset : ℕ) (packet : Bytes)
  | collected (messages : List IncomingMessage)
  | yielded (user : Bytes) (online : Bool)
  | registered (user : Bytes)
  | added (user : Bytes) (block : Bool)
  | removed (user : Bytes)
  deriving DecidableEq

/-- The class members under their own names, then the world outside: the millisecond clock,
the disk, and the trace of what has happened. Maps are functions to options. `waiting` holds
the transaction that the `WaitForTransaction` in progress, if there is one, waits for. -/
structure DSNetManager where
  ourOverrideHost : Bytes := []
  ourOverridePort : Int32 := 0
  ourClientMode : ClientMode := .modern
  mySocket : NetNatsueSocket
  myConnectPhase : ConnectPhase := .idle
  myConnectDeadline : UInt32 := 0
  myServerRotation : Int32 := 0
  myNickname : Bytes := []
  myPassword : Bytes := []
  myUserUIN : BabelUIN := {}
  myServerUIN : BabelUIN := {}
  myConnectedAtMs : UInt32 := 0
  myLastError : Error := .unknown
  myRawError : Int32 := 0
  myServers : List CBabelServerInfo := []
  myConnectedHost : Bytes := []
  myConnectedPort : Int32 := 0
  myConnectedID : Int32 := 0
  myConnectedFriendlyName : Bytes := []
  myNextTicketNumber : Int32 := 0
  myNextVSN : Int32 := 0
  myTransactions : Int32 → Option Transaction := fun _ => none
  myPresence : Bytes → Option Presence := fun _ => none
  myWWRMembers : Finset Bytes := ∅
  myChangedUsers : List Bytes := []
  myPendingWWRAdds : Bytes → Option UInt32 := fun _ => none
  myUsersForWWR : List Bytes := []
  myPendingUserFetches : Bytes → Option PendingQuery := fun _ => none
  myRandomUserQuery : PendingQuery := {}
  myStatusQuery : PendingQuery := {}
  myIncomingMessages : List IncomingMessage := []
  myQueuedMessages : List QueuedMessage := []
  myOutboxDirectory : Bytes := []
  myInboxDirectory : Bytes := []
  myOutboxDirty : Bool := true
  myNextOutboxScan : UInt32 := 0
  waiting : Option (TransactionKind × Int32) := none
  clock : Stream' UInt32
  disk : Disk
  trace : List Event := []

/-- Wrap-around safe "has deadline passed". -/
def timeAfter (now deadline : UInt32) : Bool := (now - deadline).toInt32 ≥ 0

/-- The time a wait that starts now ends. -/
@[irreducible] def deadlineIn (now timeoutMs : UInt32) : UInt32 := now + timeoutMs

/-- Tickets are never zero. -/
@[irreducible] def ticketAfter (ticket : Int32) : Int32 :=
  if ticket + 1 = 0 then ticket + 1 + 1 else ticket + 1

namespace DSNetManager

def construct (os : SocketOS) (clock : Stream' UInt32) (disk : Disk) : DSNetManager :=
  { mySocket := { os := os.unused }, clock := clock, disk := disk }

/-- A freshly constructed manager in an uneventful world. -/
def fresh : DSNetManager := construct .idle (.const 0) .blank

/-- The same manager, logged in. -/
def freshOnline : DSNetManager :=
  { fresh with
    myConnectPhase := .online
    mySocket := { os := .idle, myHandle := some 3, myState := .connected } }

def emit (m : DSNetManager) (e : Event) : DSNetManager := { m with trace := m.trace ++ [e] }

@[simp] theorem emit_trace (m : DSNetManager) (e : Event) : (m.emit e).trace = m.trace ++ [e] := rfl

def nowMs (m : DSNetManager) : UInt32 × DSNetManager :=
  (m.clock.head, { m with clock := m.clock.tail })

def nextTicket (m : DSNetManager) : Int32 × DSNetManager :=
  let ticket := ticketAfter m.myNextTicketNumber
  (ticket, { m with myNextTicketNumber := ticket }.emit (.issued ticket))

/-- Zero is not a valid virtual socket number. -/
def nextVSN (m : DSNetManager) : Int32 × DSNetManager :=
  let vsn := (m.myNextVSN + 1) &&& 0xFFFF
  let vsn := if vsn = 0 then 1 else vsn
  (vsn, { m with myNextVSN := vsn })

abbrev Online (m : DSNetManager) : Prop :=
  m.myConnectPhase = .online ∧ m.mySocket.myState = .connected

/-- `mySocket.Write` of a whole packet. -/
def socketWrite (m : DSNetManager) (packet : Bytes) : Bool × DSNetManager :=
  let r := m.mySocket.write packet (sizeInt packet)
  let m := { m with mySocket := r.2 }
  (r.1, if r.1 then m.emit (.wrote m.mySocket.os.connection packet) else m)

def socketPump (m : DSNetManager) : Bool × DSNetManager :=
  (m.mySocket.pump.1, { m with mySocket := m.mySocket.pump.2 })

/-- The same manager with another input buffer, on another disk. -/
def withWorld (m : DSNetManager) (input : Bytes) (d : Disk) : DSNetManager :=
  { m with mySocket := m.mySocket.withInput input, disk := d }

/-- The same manager on another disk. -/
def onDisk (m : DSNetManager) (d : Disk) : DSNetManager := { m with disk := d }

/-- Bytes arrive in the input buffer. -/
def receive (m : DSNetManager) (bytes : Bytes) : DSNetManager :=
  { m with mySocket := m.mySocket.receive bytes }

end DSNetManager
end NetNatsue
