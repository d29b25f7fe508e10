import NetNatsue.Manager.Chunking
import NetNatsue.Manager.Mail
import NetNatsue.Socket.Traffic

/-! The steps a manager is made to take. Whatever the calls, their order and the answers of
the server and the operating system, a manager changes by these steps only; an invariant of
every run is one that each step keeps. -/
namespace NetNatsue

/-- What a packet tells of the presence of a user: who it is, the state and the nickname. -/
def presenceTold (header : PacketHeader) (frame : Bytes) : Option (BabelUIN × Bool × Bytes) :=
  let userData := parseShortUserData (frame.drop packetHeaderSize) (sizeInt frame - 32)
  match ServerPacket.ofType header.type with
  | some .userOnline => userData.map (fun d => (d.uin, true, d.nickName))
  | some .userOffline => userData.map (fun d => (d.uin, false, d.nickName))
  | some .onlineChange => some (⟨header.fieldC, header.fieldD⟩, header.fieldE ≠ 0, [])
  | _ => none

/-- Events that no invariant depends on. -/
def Event.Plain : Event → Prop
  | .wrote _ _ | .handshake _ _ | .packet _ _ _ | .spooled _ _ _ | .collected _ => True
  | _ => False

/-- Where a command keeps the transaction whose answer it will collect. -/
inductive Slot
  | fetch (user : Bytes)
  | random
  | status
  | wait (kind : TransactionKind)
  deriving DecidableEq

def Slot.kind : Slot → TransactionKind
  | .fetch _ => .clientInfo
  | .random => .randomUser
  | .status => .status
  | .wait kind => kind

def Slot.fixedExtra : Slot → FixedExtra
  | .status => statusExtra
  | _ => noExtra

namespace DSNetManager

/-- The ticket a slot holds. -/
def pending (m : DSNetManager) : Slot → Option Int32
  | .fetch user => (m.myPendingUserFetches user).map PendingQuery.ticket
  | .random => if m.myRandomUserQuery.ticket = 0 then none else some m.myRandomUserQuery.ticket
  | .status => if m.myStatusQuery.ticket = 0 then none else some m.myStatusQuery.ticket
  | .wait kind => m.waiting.bind (fun w => if w.1 = kind then some w.2 else none)

def hold (m : DSNetManager) (slot : Slot) (query : PendingQuery) : DSNetManager :=
  match slot with
  | .fetch user => m.setFetch user (some query)
  | .random => m.setRandom query
  | .status => m.setStatus query
  | .wait kind => m.setWaiting (some (kind, query.ticket))

def release (m : DSNetManager) : Slot → DSNetManager
  | .fetch user => m.setFetch user none
  | .random => m.setRandom {}
  | .status => m.setStatus {}
  | .wait _ => m.setWaiting none

/-- The states agree on everything the invariants are about. -/
structure Quiet (m n : DSNetManager) : Prop where
  socket : n.mySocket = m.mySocket
  phase : n.myConnectPhase = m.myConnectPhase
  nextTicket : n.myNextTicketNumber = m.myNextTicketNumber
  transactions : n.myTransactions = m.myTransactions
  presence : n.myPresence = m.myPresence
  members : n.myWWRMembers = m.myWWRMembers
  changed : n.myChangedUsers = m.myChangedUsers
  adds : n.myPendingWWRAdds = m.myPendingWWRAdds
  fetches : n.myPendingUserFetches = m.myPendingUserFetches
  random : n.myRandomUserQuery = m.myRandomUserQuery
  status : n.myStatusQuery = m.myStatusQuery
  waiting : n.waiting = m.waiting
  trace : n.trace = m.trace

/-- The fields that `Quiet` compares. -/
def quietFields (m : DSNetManager) :=
  (m.mySocket, m.myConnectPhase, m.myNextTicketNumber, m.myTransactions, m.myPresence,
    m.myWWRMembers,
    m.myChangedUsers, m.myPendingWWRAdds, m.myPendingUserFetches, m.myRandomUserQuery,
    m.myStatusQuery, m.waiting, m.trace)

theorem quiet_of_fields {m n : DSNetManager} (h : n.quietFields = m.quietFields) : Quiet m n := by
  simp only [quietFields, Prod.mk.injEq] at h
  obtain ⟨hsocket, hphase, hticket, htransactions, hpresence, hmembers, hchanged, hadds,
    hfetches, hrandom, hstatus, hwaiting, htrace⟩ := h
  exact ⟨hsocket, hphase, hticket, htransactions, hpresence, hmembers, hchanged, hadds,
    hfetches, hrandom, hstatus, hwaiting, htrace⟩

theorem Quiet.emit {m n : DSNetManager} (h : Quiet m n) (e : Event) : Quiet (m.emit e) (n.emit e) :=
  ⟨h.socket, h.phase, h.nextTicket, h.transactions, h.presence, h.members, h.changed, h.adds,
    h.fetches, h.random, h.status, h.waiting, congrArg (· ++ [e]) h.trace⟩

/-- The states differ at most in their settings, the outbox and the world outside. -/
structure Aside (m n : DSNetManager) : Prop extends Quiet m n where
  users : n.myUsersForWWR = m.myUsersForWWR
  deadline : n.myConnectDeadline = m.myConnectDeadline
  connectedAt : n.myConnectedAtMs = m.myConnectedAtMs
  lastError : n.myLastError = m.myLastError
  rawError : n.myRawError = m.myRawError
  serverUIN : n.myServerUIN = m.myServerUIN
  userUIN : n.myUserUIN = m.myUserUIN
  nextVSN : n.myNextVSN = m.myNextVSN
  messages : n.myIncomingMessages = m.myIncomingMessages

/-- The fields that `Aside` compares besides. -/
def asideFields (m : DSNetManager) :=
  (m.myUsersForWWR, m.myConnectDeadline, m.myConnectedAtMs, m.myLastError, m.myRawError,
    m.myServerUIN, m.myUserUIN, m.myNextVSN, m.myIncomingMessages)

theorem aside_of_fields {m n : DSNetManager} (hquiet : n.quietFields = m.quietFields)
    (h : n.asideFields = m.asideFields) : Aside m n := by
  simp only [asideFields, Prod.mk.injEq] at h
  obtain ⟨husers, hdeadline, hconnectedAt, hlastError, hrawError, hserverUIN, huserUIN, hnextVSN,
    hmessages⟩ := h
  exact ⟨quiet_of_fields hquiet, husers, hdeadline, hconnectedAt, hlastError, hrawError,
    hserverUIN, huserUIN, hnextVSN, hmessages⟩

/-- The steps a pump can make. -/
inductive Heard : DSNetManager → DSNetManager → Prop
  | quiet (m n : DSNetManager) (h : Quiet m n) : Heard m n
  | socket (m : DSNetManager) (s : NetNatsueSocket) (h : m.mySocket.Moves s) :
    Heard m { m with mySocket := s }
  | note (m : DSNetManager) (e : Event) (h : e.Plain) : Heard m (m.emit e)
  | fall (m : DSNetManager) (phase : ConnectPhase) (h : m.myConnectPhase ≠ .online)
    (hphase : phase ≠ .online) : Heard m (m.enter phase)
  | login (m : DSNetManager) (h : m.myConnectPhase = .awaitHandshake) : Heard m (m.enter .online)
  | hangUp (m : DSNetManager) : Heard m m.disconnect
  | presence (m : DSNetManager) (header : PacketHeader) (frame : Bytes) (uin : BabelUIN)
    (online : Bool) (nickName : Bytes) (h : presenceTold header frame = some (uin,
    online, nickName)) :
    Heard m ((m.emit (.packet m.myConnectPhase header frame)).updatePresence uin online nickName)
  | watch (m : DSNetManager) (user : Bytes) : Heard m (m.watch user)
  | register (m : DSNetManager) (user : Bytes) (h : user ∈ m.myWWRMembers) :
    Heard m (m.emit (.registered user))
  | issue (m : DSNetManager) : Heard m m.nextTicket.2
  | respond (m : DSNetManager) (ticket : Int32) (frame : Bytes) (transaction : Transaction)
    (hticket : (PacketHeader.read frame).ticket = ticket)
    (h : m.myTransactions ticket = some transaction) :
    Heard m ((m.emit (.response ticket frame)).respond ticket (transaction.answer frame))

/-- The steps of all calls together. -/
inductive Step : DSNetManager → DSNetManager → Prop
  | heard (m n : DSNetManager) (h : Heard m n) : Step m n
  | attempt (m : DSNetManager) (s : NetNatsueSocket) (phase : ConnectPhase) (host : Bytes)
    (port : Int32) (hoffline : ¬ m.Online) (hidle : m.myConnectPhase ≠ .connecting)
    (hidle' : m.myConnectPhase ≠ .awaitHandshake) (hs : m.mySocket.Moves s)
    (hphase : phase = .connecting ∨ phase = .failed) :
    Step m (({ m with mySocket := s, myConnectPhase := phase }.emit (.connecting host port)).emit
      (.polled m.myConnectPhase false (decide (phase = ConnectPhase.connecting))))
  | poll (m : DSNetManager) (found : ConnectPhase) (online block : Bool)
    (h : online = true ∨ found = .connecting ∨ found = .awaitHandshake) :
    Step m (m.emit (.polled found online block))
  | post (m : DSNetManager) (path : Bytes) (offset : ℕ) (packet : Bytes) (hsome : packet ≠ [])
    (hlive : m.mySocket.Live) (h : Outgoing.Lies m.mySocket.line offset packet) :
    Step m (m.emit (.posted path m.mySocket.os.connection offset packet))
  | added (m : DSNetManager) (user : Bytes) (block : Bool) (h : user ∈ m.myWWRMembers) :
    Step m (m.emit (.added user block))
  | expect (m : DSNetManager) (user : Bytes) (deadline : UInt32) (h : m.myConnectPhase = .online) :
    Step m (m.setWWRAdd user deadline)
  | endAdd (m : DSNetManager) (user : Bytes) : Step m (m.endWWRAdd user)
  | forget (m : DSNetManager) (user : Bytes) : Step m (m.forgetUser user)
  | yield (m : DSNetManager) : Step m m.nextChangedUserWWR.2
  | nickName (m : DSNetManager) (user name : Bytes) : Step m (m.rememberNickName user name)
  | refuse (m : DSNetManager) (kind : TransactionKind) (fixedExtra : FixedExtra)
    (h : m.myConnectPhase = .online) :
    Step m ((m.startTransaction kind fixedExtra).2.abandonTransaction
      (m.startTransaction kind fixedExtra).1)
  | ask (m : DSNetManager) (slot : Slot) (deadline : UInt32) (packet : Bytes)
    (h : m.myConnectPhase = .online) :
    Step m (((m.startTransaction slot.kind slot.fixedExtra).2.emit
      (.wrote m.mySocket.os.connection packet)).hold slot
        { ticket := (m.startTransaction slot.kind slot.fixedExtra).1, deadline := deadline })
  | finish (m : DSNetManager) (slot : Slot) (ticket : Int32) (h : m.pending slot = some ticket) :
    Step m ((m.setTransaction ticket none).release slot)
  | expire (m : DSNetManager) (slot : Slot) (ticket : Int32) (h : m.pending slot = some ticket) :
    Step m ((m.abandonTransaction ticket).release slot)
  | release (m : DSNetManager) (slot : Slot) : Step m (m.release slot)

/-- The states differ in their queries only, and perhaps in their traces. -/
structure OnlyQueries (m n : DSNetManager) : Prop where
  socket : n.mySocket = m.mySocket
  phase : n.myConnectPhase = m.myConnectPhase
  presence : n.myPresence = m.myPresence
  members : n.myWWRMembers = m.myWWRMembers
  changed : n.myChangedUsers = m.myChangedUsers
  adds : n.myPendingWWRAdds = m.myPendingWWRAdds

/-- The fields that `OnlyQueries` compares. -/
def otherFields (m : DSNetManager) :=
  (m.mySocket, m.myConnectPhase, m.myPresence, m.myWWRMembers, m.myChangedUsers, m.myPendingWWRAdds)

theorem onlyQueries_of_fields {m n : DSNetManager} (h : n.otherFields = m.otherFields) :
    OnlyQueries m n := by
  simp only [otherFields, Prod.mk.injEq] at h
  obtain ⟨hsocket, hphase, hpresence, hmembers, hchanged, hadds⟩ := h
  exact ⟨hsocket, hphase, hpresence, hmembers, hchanged, hadds⟩

theorem OnlyQueries.trans {m n k : DSNetManager} (h : OnlyQueries m n) (h' : OnlyQueries n k) :
    OnlyQueries m k :=
  ⟨h'.socket.trans h.socket, h'.phase.trans h.phase, h'.presence.trans h.presence,
    h'.members.trans h.members, h'.changed.trans h.changed, h'.adds.trans h.adds⟩

theorem onlyQueries_emit (m : DSNetManager) (e : Event) : OnlyQueries m (m.emit e) :=
  onlyQueries_of_fields rfl

theorem onlyQueries_startTransaction (m : DSNetManager) (kind : TransactionKind)
    (fixedExtra : FixedExtra) : OnlyQueries m (m.startTransaction kind fixedExtra).2 :=
  onlyQueries_of_fields rfl

theorem onlyQueries_setTransaction (m : DSNetManager) (ticket : Int32)
    (transaction : Option Transaction) : OnlyQueries m (m.setTransaction ticket transaction) :=
  onlyQueries_of_fields rfl

theorem onlyQueries_abandonTransaction (m : DSNetManager) (ticket : Int32) :
    OnlyQueries m (m.abandonTransaction ticket) :=
  onlyQueries_of_fields (abandonTransaction_kept otherFields (fun _ _ _ => rfl) m ticket)

theorem onlyQueries_hold (m : DSNetManager) (slot : Slot) (query : PendingQuery) :
    OnlyQueries m (m.hold slot query) := by
  cases slot <;> exact onlyQueries_of_fields rfl

theorem onlyQueries_release (m : DSNetManager) (slot : Slot) : OnlyQueries m (m.release slot) := by
  cases slot <;> exact onlyQueries_of_fields rfl

@[simp] theorem startTransaction_trace (m : DSNetManager) (kind : TransactionKind)
    (fixedExtra : FixedExtra) :
    (m.startTransaction kind fixedExtra).2.trace =
      m.trace ++ [Event.issued (ticketAfter m.myNextTicketNumber),
        .started (ticketAfter m.myNextTicketNumber) kind] := by
  simp [startTransaction, nextTicket, setTransaction, emit]

@[simp] theorem abandonTransaction_trace (m : DSNetManager) (ticket : Int32) :
    (m.abandonTransaction ticket).trace = m.trace :=
  abandonTransaction_kept (·.trace) (fun _ _ _ => rfl) m ticket

@[simp] theorem setTransaction_trace (m : DSNetManager) (ticket : Int32)
    (transaction : Option Transaction) :
    (m.setTransaction ticket transaction).trace = m.trace := rfl

@[simp] theorem hold_trace (m : DSNetManager) (slot : Slot) (query : PendingQuery) :
    (m.hold slot query).trace = m.trace := by
  cases slot <;> rfl

@[simp] theorem release_trace (m : DSNetManager) (slot : Slot) :
    (m.release slot).trace = m.trace := by
  cases slot <;> rfl

theorem rememberNickName_frame (m : DSNetManager) (user nickName : Bytes) :
    ∃ presence, m.rememberNickName user nickName = { m with myPresence := presence } := by
  unfold rememberNickName
  cases m.myPresence user with
  | none => exact ⟨_, rfl⟩
  | some presence =>
    simp only
    split_ifs <;> exact ⟨_, rfl⟩

theorem nextChangedUserWWR_frame (m : DSNetManager) :
    (m.myChangedUsers = [] ∧ m.nextChangedUserWWR.2 = m) ∨
    ∃ user users online, m.myChangedUsers = user :: users ∧
      m.nextChangedUserWWR.2 = { m with myChangedUsers := users }.emit (.yielded user online) := by
  unfold nextChangedUserWWR
  cases h : m.myChangedUsers with
  | nil => exact Or.inl ⟨rfl, rfl⟩
  | cons user users => exact Or.inr ⟨user, users, _, rfl, rfl⟩

abbrev Hears : DSNetManager → DSNetManager → Prop := Relation.ReflTransGen Heard
abbrev Steps : DSNetManager → DSNetManager → Prop := Relation.ReflTransGen Step

theorem Hears.steps {m n : DSNetManager} (h : Hears m n) : Steps m n :=
  Relation.ReflTransGen.mono (fun m n hm => Step.heard m n hm) m n h

theorem hears_quiet {m n : DSNetManager} (h : Quiet m n) : Hears m n := .single (.quiet m n h)

theorem steps_quiet {m n : DSNetManager} (h : Quiet m n) : Steps m n :=
  .single (.heard m n (.quiet m n h))

theorem hears_nowMs (m : DSNetManager) : Hears m m.nowMs.2 := hears_quiet (quiet_of_fields rfl)

theorem hears_nextVSN (m : DSNetManager) : Hears m m.nextVSN.2 := hears_quiet (quiet_of_fields rfl)

theorem hears_onDisk (m : DSNetManager) (d : Disk) : Hears m (m.onDisk d) :=
  hears_quiet (quiet_of_fields rfl)

theorem hears_socketWrite (m : DSNetManager) (packet : Bytes) :
    Hears m (m.socketWrite packet).2 := by
  have hsocket : Hears m { m with mySocket := (m.mySocket.write packet (sizeInt packet)).2 } :=
    .single (.socket m _ (m.mySocket.moves_write packet _))
  simp only [socketWrite]
  split_ifs
  · exact hsocket.tail (.note _ _ trivial)
  · exact hsocket

theorem hears_disconnect (m : DSNetManager) : Hears m m.disconnect := .single (.hangUp m)

theorem hears_connectionLost (m : DSNetManager) : Hears m m.connectionLost := by
  have herror : Hears m
      { m with myLastError := .offline, myRawError := -m.mySocket.myLastSystemError } :=
    hears_quiet (quiet_of_fields rfl)
  exact herror.tail (.hangUp _)

theorem hears_sendWWRRegistrations (users : List Bytes) (m : DSNetManager) :
    Hears m (sendWWRRegistrations users m) := by
  induction users generalizing m with
  | nil => exact .refl
  | cons user users ih =>
    have hwatch : Hears m ((m.watch user).emit (.registered user)) :=
      (Relation.ReflTransGen.single (.watch m user)).tail
        (.register _ user (by simp [watch]))
    simp only [sendWWRRegistrations]
    split_ifs
    · exact (hwatch.trans (hears_socketWrite _ _)).trans (ih _)
    · exact hwatch.trans (hears_socketWrite _ _)
    · exact ih m

theorem hears_handleMessage (m : DSNetManager) (body : Bytes) (bodySize : Int32) :
    Hears m (m.handleMessage body bodySize) := by
  unfold handleMessage
  cases parsePackedBabelMessage body bodySize with
  | none => exact .refl
  | some message =>
    simp only
    split_ifs
    · exact (hears_onDisk m _).tail (.note _ _ trivial)
    · exact hears_quiet (quiet_of_fields rfl)

theorem hears_handleVirtualConnect (m : DSNetManager) (header : PacketHeader) :
    Hears m (m.handleVirtualConnect header).2 := by
  have hreply := (hears_nextVSN m).trans (hears_socketWrite m.nextVSN.2
    (buildVirtualConnectAccept m.myServerUIN ⟨header.fieldC, header.fieldD⟩
      header.fieldE m.nextVSN.1))
  simp only [handleVirtualConnect]
  split_ifs
  · exact hreply
  · exact hreply.trans (hears_connectionLost _)

theorem hears_refuseLogin (m : DSNetManager) (code : Int32)
    (h : m.myConnectPhase = .awaitHandshake) :
    Hears m (m.refuseLogin code) := by
  have herror : Hears m { m with myLastError := mapHandshakeError code, myRawError := code } :=
    hears_quiet (quiet_of_fields rfl)
  have hclose := herror.tail (.socket _ _ (NetNatsueSocket.moves_close _))
  exact hclose.tail (.fall _ .failed (by simp [h]) (by decide))

theorem hears_acceptLogin (m : DSNetManager) (serverUIN userUIN : BabelUIN)
    (servers : List CBabelServerInfo) (h : m.myConnectPhase = .awaitHandshake) :
    Hears m (m.acceptLogin serverUIN userUIN servers) := by
  have hlogin : Hears m (m.enter .online) := .single (.login m h)
  have hknown : Hears m (m.admitted serverUIN userUIN servers) :=
    hlogin.trans (hears_quiet (quiet_of_fields rfl))
  have hregistered := hknown.trans (hears_sendWWRRegistrations m.myUsersForWWR _)
  exact hregistered.trans (hears_quiet (quiet_of_fields rfl))

/-- Only commands touch the pending queries. -/
theorem Hears.pending_eq {m n : DSNetManager} (h : Hears m n) :
    n.myPendingUserFetches = m.myPendingUserFetches ∧ n.myRandomUserQuery = m.myRandomUserQuery ∧
      n.myStatusQuery = m.myStatusQuery ∧ n.waiting = m.waiting := by
  induction h with
  | refl => exact ⟨rfl, rfl, rfl, rfl⟩
  | tail _ hstep ih =>
    cases hstep with
    | quiet n hquiet =>
      rw [hquiet.fetches, hquiet.random, hquiet.status, hquiet.waiting]
      exact ih
    | presence header frame uin online nickName =>
      obtain ⟨changed, adds, h⟩ := updatePresence_frame _ uin online nickName
      rw [h]
      exact ih
    | _ => exact ih

theorem Hears.slot_eq {m n : DSNetManager} (h : Hears m n) (slot : Slot) :
    n.pending slot = m.pending slot := by
  obtain ⟨hfetches, hrandom, hstatus, hwaiting⟩ := h.pending_eq
  cases slot <;> simp only [pending, hfetches, hrandom, hstatus, hwaiting]

/-- Neither part of a connection attempt nor the posting of a file. -/
def Event.Still : Event → Prop
  | .connecting _ _ | .polled _ _ _ | .posted _ _ _ _ => False
  | _ => True

/-- The events one step can add. -/
inductive Adds (m : DSNetManager) : List Event → Prop
  | still (events : List Event) (h : ∀ e ∈ events, Event.Still e) : Adds m events
  | attempt (host : Bytes) (port : Int32) (block : Bool) (hidle : m.myConnectPhase ≠ .connecting)
    (hidle' : m.myConnectPhase ≠ .awaitHandshake) :
    Adds m [.connecting host port, .polled m.myConnectPhase false block]
  | poll (found : ConnectPhase) (online block : Bool)
    (h : online = true ∨ found = .connecting ∨ found = .awaitHandshake) :
    Adds m [.polled found online block]
  | post (path : Bytes) (offset : ℕ) (packet : Bytes) (hsome : packet ≠ [])
    (hlive : m.mySocket.Live) (h : Outgoing.Lies m.mySocket.line offset packet) :
    Adds m [.posted path m.mySocket.os.connection offset packet]

theorem Heard.adds {m n : DSNetManager} (h : Heard m n) :
    ∃ events, n.trace = m.trace ++ events ∧ ∀ e ∈ events, Event.Still e := by
  cases h with
  | quiet n hquiet => exact ⟨[], by simp [hquiet.trace], by simp⟩
  | note e hplain =>
    refine ⟨[e], rfl, ?_⟩
    cases e <;> simp_all [Event.Plain, Event.Still]
  | hangUp => exact ⟨[.ended], rfl, by simp [Event.Still]⟩
  | presence header frame uin online nickName =>
    obtain ⟨changed, adds, hframe⟩ := updatePresence_frame
      (m.emit (.packet m.myConnectPhase header frame)) uin online nickName
    rw [hframe]
    exact ⟨[.packet m.myConnectPhase header frame], rfl, by simp [Event.Still]⟩
  | register user => exact ⟨[.registered user], rfl, by simp [Event.Still]⟩
  | issue => exact ⟨[.issued _], rfl, by simp [Event.Still]⟩
  | respond ticket frame transaction =>
    exact ⟨[.response ticket frame], rfl, by simp [Event.Still]⟩
  | _ => exact ⟨[], (List.append_nil _).symm, by simp⟩

theorem Step.adds {m n : DSNetManager} (h : Step m n) :
    ∃ events, n.trace = m.trace ++ events ∧ Adds m events := by
  cases h with
  | heard n hheard =>
    obtain ⟨events, htrace, hstill⟩ := hheard.adds
    exact ⟨events, htrace, .still events hstill⟩
  | attempt s phase host port hoffline hidle hidle' =>
    exact ⟨[.connecting host port, .polled m.myConnectPhase false (decide (phase = .connecting))],
      by simp, .attempt host port _ hidle hidle'⟩
  | poll found online block hwaited => exact ⟨_, rfl, .poll found online block hwaited⟩
  | post path offset packet hsome hlive hlies =>
    exact ⟨_, rfl, .post path offset packet hsome hlive hlies⟩
  | added user block => exact ⟨[.added user block], rfl, .still _ (by simp [Event.Still])⟩
  | forget user => exact ⟨[.removed user], rfl, .still _ (by simp [Event.Still])⟩
  | yield =>
    rcases nextChangedUserWWR_frame m with ⟨_, hframe⟩ | ⟨user, users, online, _, hframe⟩
    · exact ⟨[], by simp [hframe], .still _ (by simp)⟩
    · exact ⟨[.yielded user online], by simp [hframe], .still _ (by simp [Event.Still])⟩
  | nickName user name =>
    obtain ⟨presence, hframe⟩ := rememberNickName_frame m user name
    exact ⟨[], by simp [hframe], .still _ (by simp)⟩
  | refuse kind fixedExtra =>
    exact ⟨[.issued (ticketAfter m.myNextTicketNumber),
      .started (ticketAfter m.myNextTicketNumber) kind], by simp, .still _ (by simp [Event.Still])⟩
  | ask slot deadline packet =>
    exact ⟨[.issued (ticketAfter m.myNextTicketNumber),
      .started (ticketAfter m.myNextTicketNumber) slot.kind,
      .wrote m.mySocket.os.connection packet], by simp, .still _ (by simp [Event.Still])⟩
  | _ => exact ⟨[], by simp [setWWRAdd, endWWRAdd], .still _ (by simp)⟩

/-- Nobody is forgotten by listening. -/
theorem Hears.members_subset {m n : DSNetManager} (h : Hears m n) :
    m.myWWRMembers ⊆ n.myWWRMembers := by
  induction h with
  | refl => exact subset_rfl
  | tail _ hstep ih =>
    cases hstep with
    | quiet n hquiet =>
      rw [hquiet.members]
      exact ih
    | presence header frame uin online nickName =>
      obtain ⟨changed, adds, h⟩ := updatePresence_frame _ uin online nickName
      rw [h]
      exact ih
    | watch user => exact ih.trans (Finset.subset_insert _ _)
    | _ => exact ih

end DSNetManager
end NetNatsue
