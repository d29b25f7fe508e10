import NetNatsue.Foundations.Monitor
import NetNatsue.Manager.Deeds

/-! What is said on the line, and when. A connection is opened with one handshake; behind it only
circuit requests are answered until the server has let the client in, and from then on everything
carries the ids of that login. -/
namespace NetNatsue

/-- The response lets the client in. -/
def letsIn (frame : Bytes) : Bool :=
  DSNetManager.handshakeErrorCode frame = 0 ∧ (PacketHeader.read frame).fieldA ≠ 0

/-- What an observer of the line keeps in mind: the ids the last login gave, whether it still holds,
and the connection the last handshake was written on. -/
structure Dialogue where
  server : BabelUIN := {}
  user : BabelUIN := {}
  loggedIn : Bool := false
  greeted : Option ℕ := none
  deriving DecidableEq

namespace Dialogue

def hear (d : Dialogue) : Event → Dialogue
  | .connecting _ _ | .ended => { d with loggedIn := false }
  | .wrote connection packet =>
    if (PacketHeader.read packet).type = packetHandshake then
      { d with greeted := some connection } else d
  | .handshake .awaitHandshake frame =>
    if letsIn frame then
      { d with
        server := ⟨(PacketHeader.read frame).fieldA, (PacketHeader.read frame).fieldB⟩
        user := ⟨(PacketHeader.read frame).fieldC, (PacketHeader.read frame).fieldD⟩
        loggedIn := true }
    else d
  | _ => d

/-- A handshake opens a connection that is newer than the last one, and quotes the user id of the
last login. -/
def Greets (d : Dialogue) (connection : ℕ) (packet : Bytes) : Prop :=
  (∃ ticket nickname password magic,
    packet = buildHandshake d.user ticket nickname password magic) ∧
    ∀ earlier, d.greeted = some earlier → earlier < connection

/-- What follows on the connection. -/
def Replies (d : Dialogue) (connection : ℕ) (packet : Bytes) : Prop :=
  d.greeted = some connection ∧
    (d.loggedIn = true ∧ Says d.server d.user packet ∨
      ∃ initiator initiatorVSN localVSN,
        packet = buildVirtualConnectAccept d.server initiator initiatorVSN localVSN)

def permits (d : Dialogue) : Event → Prop
  | .wrote connection packet => d.Greets connection packet ∨ d.Replies connection packet
  | _ => True

/-- What is remembered fits the state of the manager. -/
structure Fits (d : Dialogue) (m : DSNetManager) : Prop where
  server : m.myServerUIN = d.server
  user : m.myUserUIN = d.user
  loggedIn : m.myConnectPhase = .online → d.loggedIn = true
  greeted : m.myConnectPhase = .awaitHandshake ∨ m.myConnectPhase = .online →
    d.greeted = some m.mySocket.os.connection
  dialled : m.myConnectPhase = .connecting → ∀ earlier, d.greeted = some earlier →
    earlier < m.mySocket.os.connection
  past : ∀ earlier, d.greeted = some earlier → earlier ≤ m.mySocket.os.connection

end Dialogue

def dialogue : Monitor Dialogue Event := { step := Dialogue.hear, allows := Dialogue.permits }

theorem buildHandshake_type (user : BabelUIN) (ticket : Int32) (nickname password : Bytes)
    (magic : Int32) :
    (PacketHeader.read (buildHandshake user ticket nickname password magic)).type =
    packetHandshake := by
  simp only [buildHandshake, List.append_assoc, PacketHeader.read_write]

theorem Says.type {server user : BabelUIN} {packet : Bytes} (h : Says server user packet) :
    (PacketHeader.read packet).type ≠ packetHandshake := by
  cases h with
  | modify add target => cases add <;> simp [buildWWRModify] <;> decide
  | clientInfo => simp only [buildGetClientInfo, PacketHeader.read_write_alone]; decide
  | connectionDetail => simp only [buildGetConnectionDetail, PacketHeader.read_write_alone]; decide
  | status => simp only [buildGetStatus, PacketHeader.read_write_alone]; decide
  | randomUser => simp only [buildFetchRandomUser, PacketHeader.read_write_alone]; decide
  | history => simp only [buildFeedHistory, PacketHeader.read_write]; decide
  | message => simp only [buildMessage, List.append_assoc, PacketHeader.read_write]; decide

theorem buildVirtualConnectAccept_type (server initiator : BabelUIN)
    (initiatorVSN localVSN : Int32) :
    (PacketHeader.read (buildVirtualConnectAccept server initiator initiatorVSN localVSN)).type ≠
      packetHandshake := by
  simp only [buildVirtualConnectAccept, PacketHeader.read_write]
  decide

namespace Dialogue

variable {d : Dialogue}

theorem Replies.hear {connection : ℕ} {packet : Bytes} (h : d.Replies connection packet) :
    d.hear (.wrote connection packet) = d := by
  have htype : (PacketHeader.read packet).type ≠ packetHandshake := by
    rcases h.2 with ⟨_, hasked⟩ | ⟨initiator, theirs, ours, rfl⟩
    · exact hasked.type
    · exact buildVirtualConnectAccept_type _ _ _ _
  exact if_neg htype

/-- What the observer of the line passes over. -/
theorem inner_idle {e : Event} (h : e.Inner) : d.permits e ∧ d.hear e = d := by
  cases e with
  | connecting | wrote | response | handshake | packet | ended | spooled => exact h.elim
  | _ => exact ⟨trivial, rfl⟩

theorem Fits.of_eq {m n : DSNetManager} (h : d.Fits m) (hserver : n.myServerUIN = m.myServerUIN)
    (huser : n.myUserUIN = m.myUserUIN) (hphase : n.myConnectPhase = m.myConnectPhase)
    (hconnection : n.mySocket.os.connection = m.mySocket.os.connection) : d.Fits n := by
  refine ⟨hserver.trans h.server, huser.trans h.user, ?_, ?_, ?_, ?_⟩ <;>
    simp only [hphase, hconnection]
  · exact h.loggedIn
  · exact h.greeted
  · exact h.dialled
  · exact h.past

/-- A client that is down remembers the ids of its last login. -/
theorem Fits.down {m n : DSNetManager} (h : d.Fits m) (hserver : n.myServerUIN = m.myServerUIN)
    (huser : n.myUserUIN = m.myUserUIN) (hphase : n.myConnectPhase = .idle ∨
      n.myConnectPhase = .failed)
    (hconnection : m.mySocket.os.connection ≤ n.mySocket.os.connection) : d.Fits n := by
  refine ⟨hserver.trans h.server, huser.trans h.user, ?_, ?_, ?_, ?_⟩
  · intro honline
    rcases hphase with hphase | hphase <;> rw [hphase] at honline <;> cases honline
  · intro hup
    rcases hphase with hphase | hphase <;> rw [hphase] at hup <;> simp at hup
  · intro hconnecting
    rcases hphase with hphase | hphase <;> rw [hphase] at hconnecting <;> cases hconnecting
  · exact fun earlier hearlier => (h.past earlier hearlier).trans hconnection

/-- The login is over. -/
theorem Fits.ended {m : DSNetManager} (h : d.Fits m) (hphase : m.myConnectPhase ≠ .online) :
    { d with loggedIn := false }.Fits m :=
  ⟨h.server, h.user, fun honline => absurd honline hphase, h.greeted, h.dialled, h.past⟩

end Dialogue

namespace DSNetManager

/-- From one state to the other, the line is used as it should be. -/
abbrev Speaks (m n : DSNetManager) : Prop := dialogue.Advances trace Dialogue.Fits m n

section
variable {m n : DSNetManager}

theorem Books.speaks (h : Books m n) : Speaks m n := by
  obtain ⟨events, htrace, hevents⟩ := h.trace
  refine Monitor.advances_idle events htrace (fun _ e he => Dialogue.inner_idle (hevents e he))
    fun _ hd => ?_
  exact hd.of_eq (congrArg World.serverUIN h.world) (congrArg World.userUIN h.world)
    (congrArg World.phase h.world) (congrArg (fun w => w.socket.os.connection) h.world)

/-- The connection is at an end. -/
theorem speaks_ended (hevents : n.trace = m.trace ++ [.ended])
    (hserver : n.myServerUIN = m.myServerUIN)
    (huser : n.myUserUIN = m.myUserUIN) (hphase : n.myConnectPhase = .idle)
    (hconnection : n.mySocket.os.connection = m.mySocket.os.connection) : Speaks m n :=
  Monitor.advances_event .ended hevents fun _ hd => ⟨trivial,
    (hd.down hserver huser (Or.inl hphase) hconnection.ge).ended (by rw [hphase]; decide)⟩

theorem speaks_connectionLost (m : DSNetManager) : Speaks m m.connectionLost :=
  speaks_ended rfl rfl rfl rfl rfl

/-- What a client that is logged in may say. -/
theorem replies_loggedIn {d : Dialogue} (hd : d.Fits m) (hphase : m.myConnectPhase = .online)
    {packet : Bytes}
    (h : Says m.myServerUIN m.myUserUIN packet) : d.Replies m.mySocket.os.connection packet := by
  rw [hd.server, hd.user] at h
  exact ⟨hd.greeted (Or.inr hphase), Or.inl ⟨hd.loggedIn hphase, h⟩⟩

/-- A circuit request that is met may be answered. -/
theorem replies_circuit {d : Dialogue} (hd : d.Fits m) (hlistens : m.Listens)
    (hconnected : m.mySocket.myState = .connected) (initiator : BabelUIN) (theirs ours : Int32) :
    d.Replies m.mySocket.os.connection (buildVirtualConnectAccept m.myServerUIN initiator
      theirs ours) := by
  refine ⟨hd.greeted ?_, Or.inr ⟨_, _, _, by rw [hd.server]⟩⟩
  rcases hlistens with hphase | hphase | hdown
  · exact Or.inl hphase
  · exact Or.inr hphase
  · exact absurd hconnected hdown

/-- A packet that may follow on the connection. -/
theorem speaks_write (m : DSNetManager) (packet : Bytes)
    (h : ∀ d : Dialogue, d.Fits m → m.mySocket.myState = .connected →
      d.Replies m.mySocket.os.connection packet) : Speaks m (m.socketWrite packet).2 := by
  have hconnection := (m.mySocket.drifts_write packet (sizeInt packet)).connection
  cases hok : (m.socketWrite packet).1 with
  | true =>
    have hconnected : m.mySocket.myState = .connected := by
      by_contra hdown
      simp only [socketWrite, NetNatsueSocket.write] at hok
      rw [if_pos (Or.inl hdown)] at hok
      cases hok
    rw [socketWrite_ok m packet hok, hconnection]
    refine Monitor.advances_event (.wrote m.mySocket.os.connection packet) rfl fun d hd => ?_
    have hreply := h d hd hconnected
    have hheard : dialogue.step d (.wrote m.mySocket.os.connection packet) = d := hreply.hear
    rw [hheard]
    exact ⟨Or.inr hreply, hd.of_eq rfl rfl rfl hconnection⟩
  | false =>
    rw [socketWrite_failed m packet hok]
    exact Monitor.advances_still rfl fun _ hd => hd.of_eq rfl rfl rfl hconnection

theorem speaks_say (m : DSNetManager) (packet : Bytes) (hphase : m.myConnectPhase = .online)
    (h : Says m.myServerUIN m.myUserUIN packet) : Speaks m (m.socketWrite packet).2 :=
  speaks_write m packet fun _ hd _ => replies_loggedIn hd hphase h

/-- A failed attempt leaves the client down. -/
theorem speaks_failWith (m : DSNetManager) (rawError : Int32) : Speaks m (m.failWith rawError) :=
  Monitor.advances_still rfl fun _ hd => hd.down rfl rfl (Or.inr rfl) le_rfl

theorem greets_handshake {d : Dialogue} (hd : d.Fits n) (hphase : n.myConnectPhase = .connecting)
    (huser : n.myUserUIN = m.myUserUIN) (ticket : Int32) :
    d.Greets n.mySocket.os.connection (m.handshakePacket ticket) := by
  rw [handshakePacket, ← huser, hd.user]
  exact ⟨⟨_, _, _, _, rfl⟩, hd.dialled hphase⟩

/-- The handshake is written, or the attempt has failed. -/
theorem speaks_greet (m : DSNetManager) (packet : Bytes)
    (hgreets : ∀ d : Dialogue, d.Fits m → d.Greets m.mySocket.os.connection packet) :
    Speaks m (if ¬ (m.socketWrite packet).1 then
      (m.socketWrite packet).2.failWith (-(m.socketWrite packet).2.mySocket.myLastSystemError)
      else (m.socketWrite packet).2.enter .awaitHandshake) := by
  have hconnection := (m.mySocket.drifts_write packet (sizeInt packet)).connection
  cases hok : (m.socketWrite packet).1 with
  | true =>
    simp only [not_true_eq_false, ↓reduceIte]
    rw [socketWrite_ok m packet hok, hconnection]
    refine Monitor.advances_event (.wrote m.mySocket.os.connection packet) rfl fun d hd => ?_
    have hgreet := hgreets d hd
    have hheard : d.hear (.wrote m.mySocket.os.connection packet) =
        { d with greeted := some m.mySocket.os.connection } := by
      obtain ⟨⟨ticket, nickname, password, magic, rfl⟩, _⟩ := hgreet
      exact if_pos (buildHandshake_type _ _ _ _ _)
    refine ⟨Or.inl hgreet, ?_⟩
    change Dialogue.Fits (d.hear (.wrote m.mySocket.os.connection packet)) _
    rw [hheard]
    refine ⟨hd.server, hd.user, fun honline => ?_, fun _ => ?_, fun hconnecting => ?_,
      fun earlier hearlier => ?_⟩
    · simp [enter] at honline
    · exact congrArg some hconnection.symm
    · simp [enter] at hconnecting
    · cases hearlier
      exact hconnection.ge
  | false =>
    simp only [Bool.false_eq_true, not_false_eq_true, ↓reduceIte]
    rw [socketWrite_failed m packet hok]
    exact Monitor.advances_still rfl fun _ hd => hd.down rfl rfl (Or.inr rfl) hconnection.ge

theorem speaks_nextTicket (m : DSNetManager) : Speaks m m.nextTicket.2 :=
  Monitor.advances_event (.issued _) rfl fun _ hd => ⟨trivial, hd.of_eq rfl rfl rfl rfl⟩

theorem speaks_sendHandshake (m : DSNetManager) (h : m.myConnectPhase = .connecting) :
    Speaks m m.sendHandshake :=
  (speaks_nextTicket m).trans (speaks_greet m.nextTicket.2 _ fun _ hd =>
    greets_handshake hd h rfl _)

theorem speaks_circuit (m : DSNetManager) (header : PacketHeader) (h : m.Listens) :
    Speaks m (m.handleVirtualConnect header).2 := by
  have hnumber : Speaks m m.nextVSN.2 :=
    Monitor.advances_still rfl fun _ hd => hd.of_eq rfl rfl rfl rfl
  refine hnumber.trans ?_
  have hlistens : m.nextVSN.2.Listens := h
  have hserver : m.nextVSN.2.myServerUIN = m.myServerUIN := rfl
  simp only [handleVirtualConnect, ← hserver]
  generalize m.nextVSN.2 = n at *
  have hwrite : Speaks n (n.socketWrite (buildVirtualConnectAccept n.myServerUIN
      ⟨header.fieldC, header.fieldD⟩ header.fieldE m.nextVSN.1)).2 :=
    speaks_write n _ fun _ hd hconnected => replies_circuit hd hlistens hconnected _ _ _
  split_ifs
  · exact hwrite
  · exact hwrite.trans (speaks_connectionLost _)

theorem letsIn_iff (frame : Bytes) :
    letsIn frame = true ↔ ¬ (handshakeErrorCode frame ≠ 0 ∨
      (PacketHeader.read frame).fieldA = 0) := by
  simp [letsIn]

theorem speaks_registered (m : DSNetManager) (user : Bytes) :
    Speaks m ((m.watch user).emit (.registered user)) :=
  Monitor.advances_event (.registered user) rfl fun _ hd => ⟨trivial, hd.of_eq rfl rfl rfl rfl⟩

theorem speaks_registrations (users : List Bytes) (m : DSNetManager)
    (h : m.myConnectPhase = .online) :
    Speaks m (sendWWRRegistrations users m) := by
  refine (sendWWRRegistrations_keeps (fun n => Speaks m n ∧ n.myConnectPhase = .online) users m
    ⟨Monitor.advances_refl m, h⟩ ?_ ?_).1
  · rintro n user ⟨hn, hphase⟩
    exact ⟨hn.trans (speaks_registered n user), hphase⟩
  · rintro n target ⟨hn, hphase⟩
    exact ⟨hn.trans (speaks_say n _ hphase (.modify true target)),
      (socketWrite_phase n _).trans hphase⟩

/-- The login itself. -/
theorem speaks_admitted (m : DSNetManager) (frame : Bytes) (h : m.myConnectPhase = .awaitHandshake)
    (hcode : letsIn frame = true) (servers : List CBabelServerInfo) :
    Speaks m ((m.emit (.handshake m.myConnectPhase frame)).admitted
      ⟨(PacketHeader.read frame).fieldA, (PacketHeader.read frame).fieldB⟩
      ⟨(PacketHeader.read frame).fieldC, (PacketHeader.read frame).fieldD⟩ servers) := by
  rw [h]
  refine Monitor.advances_event (.handshake .awaitHandshake frame) rfl fun d hd => ⟨trivial, ?_⟩
  have hin : d.hear (.handshake .awaitHandshake frame) =
      { d with
        server := ⟨(PacketHeader.read frame).fieldA, (PacketHeader.read frame).fieldB⟩
        user := ⟨(PacketHeader.read frame).fieldC, (PacketHeader.read frame).fieldD⟩
        loggedIn := true } := if_pos hcode
  change Dialogue.Fits (d.hear (.handshake .awaitHandshake frame)) _
  rw [hin]
  refine ⟨rfl, rfl, fun _ => rfl, fun _ => hd.greeted (Or.inl h), fun hconnecting => ?_, hd.past⟩
  cases hconnecting

/-- The login and the registrations that follow at once. -/
theorem speaks_accepted (m : DSNetManager) (frame : Bytes) (h : m.myConnectPhase = .awaitHandshake)
    (hcode : letsIn frame = true) :
    Speaks m ((m.emit (.handshake m.myConnectPhase frame)).acceptLogin
      ⟨(PacketHeader.read frame).fieldA, (PacketHeader.read frame).fieldB⟩
      ⟨(PacketHeader.read frame).fieldC, (PacketHeader.read frame).fieldD⟩
      (updatedServers frame (sizeInt frame))) := by
  have hadmitted := speaks_admitted m frame h hcode (updatedServers frame (sizeInt frame))
  rw [acceptLogin_admitted]
  refine (hadmitted.trans (speaks_registrations m.myUsersForWWR _ rfl)).trans ?_
  exact Monitor.advances_still rfl fun _ hd => hd.of_eq rfl rfl rfl rfl

theorem Met.speaks {frame : Bytes} (h : Met m frame n) (hlistens : m.Listens) : Speaks m n := by
  have hpacket : ∀ e, e = Event.packet m.myConnectPhase (PacketHeader.read frame) frame →
      Speaks m (m.emit e) := by
    rintro e rfl
    exact Monitor.advances_event _ rfl fun _ hd => ⟨trivial, hd.of_eq rfl rfl rfl rfl⟩
  cases h with
  | response transaction =>
    exact Monitor.advances_event (.response _ frame) rfl fun _ hd => ⟨trivial,
      hd.of_eq rfl rfl rfl rfl⟩
  | stray hphase =>
    refine Monitor.advances_event _ rfl fun d hd => ⟨trivial, ?_⟩
    have hheard : d.hear (.handshake m.myConnectPhase frame) = d := by
      cases hat : m.myConnectPhase with
      | awaitHandshake => exact absurd hat hphase
      | _ => rfl
    change Dialogue.Fits (d.hear (.handshake m.myConnectPhase frame)) _
    rw [hheard]
    exact hd.of_eq rfl rfl rfl rfl
  | refused hphase hcode =>
    refine Monitor.advances_event (.handshake .awaitHandshake frame)
      (by rw [← hphase]; rfl) fun d hd =>
      ⟨trivial, ?_⟩
    have hsame : d.hear (.handshake .awaitHandshake frame) = d := by
      refine if_neg ?_
      rw [letsIn_iff]
      exact not_not_intro hcode
    change Dialogue.Fits (d.hear (.handshake .awaitHandshake frame)) _
    rw [hsame]
    exact hd.down rfl rfl (Or.inr rfl) le_rfl
  | accepted hphase hcode => exact speaks_accepted m frame hphase ((letsIn_iff frame).mpr hcode)
  | message =>
    refine (hpacket _ rfl).trans ?_
    generalize m.emit _ = k
    unfold handleMessage
    cases parsePackedBabelMessage (frame.drop packetHeaderSize) (sizeInt frame - 32) with
    | none => exact Monitor.advances_still rfl fun _ hd => hd
    | some message =>
      simp only
      split_ifs
      · exact Monitor.advances_event (.spooled _ _ _) rfl fun _ hd => ⟨trivial,
          hd.of_eq rfl rfl rfl rfl⟩
      · exact Monitor.advances_still rfl fun _ hd => hd.of_eq rfl rfl rfl rfl
  | presence uin online nickName =>
    refine (hpacket _ rfl).trans ?_
    generalize m.emit _ = k
    obtain ⟨changed, adds, hframe⟩ := k.updatePresence_frame uin online nickName
    rw [hframe]
    exact Monitor.advances_still rfl fun _ hd => hd.of_eq rfl rfl rfl rfl
  | circuit => exact (hpacket _ rfl).trans (speaks_circuit _ _ hlistens)
  | ignored => exact hpacket _ rfl

theorem speaks_consume (m : DSNetManager) (totalSize : Int32) : Speaks m (m.consume totalSize) :=
  Monitor.advances_still rfl fun _ hd =>
    hd.of_eq rfl rfl rfl (m.mySocket.drifts_consumeInput totalSize).connection

theorem Heeded.speaks (h : Heeded m n) : Speaks m n := by
  cases h with
  | clock => exact Monitor.advances_still rfl fun _ hd => hd.of_eq rfl rfl rfl rfl
  | socket s hturned =>
    exact Monitor.advances_still rfl fun _ hd => hd.of_eq rfl rfl rfl hturned.drifts.connection
  | heard k totalSize _ hlistens hmet =>
    exact (hmet.speaks hlistens).trans (speaks_consume k totalSize)
  | dropped _ frame hlistens hmet => exact hmet.speaks hlistens
  | lost => exact speaks_connectionLost m
  | fail rawError => exact speaks_failWith m rawError
  | handshake hphase => exact speaks_sendHandshake m hphase

theorem speaks_attemptFor (m : DSNetManager) (users : List Bytes) :
    Speaks m (m.attemptFor users) := by
  obtain ⟨rotation, host, port, id, name, hchoice⟩ :=
    ({ m with myUsersForWWR := users } : DSNetManager).chooseServer_frame
  obtain ⟨hpast, hnew⟩ := m.mySocket.beginConnect_connection
  unfold attemptFor startConnecting
  rw [hchoice]
  cases hok : m.mySocket.beginConnect.1 with
  | true =>
    simp only [beginConnect, emit, hok, not_true_eq_false, ↓reduceIte]
    refine Monitor.advances_event (.connecting host port) rfl fun _ hd => ⟨trivial, ?_⟩
    refine ⟨hd.server, hd.user, fun honline => ?_, fun hup => ?_, fun _ earlier hearlier => ?_, ?_⟩
    · cases honline
    · rcases hup with hup | hup <;> cases hup
    · exact (hd.past earlier hearlier).trans_lt (hnew hok)
    · exact fun earlier hearlier => (hd.past earlier hearlier).trans hpast
  | false =>
    simp only [beginConnect, emit, hok, Bool.false_eq_true, not_false_eq_true, ↓reduceIte]
    refine Monitor.advances_event (.connecting host port) rfl fun _ hd => ⟨trivial, ?_⟩
    refine Dialogue.Fits.ended (hd.down ?_ ?_ (Or.inr ?_) ?_) ?_
    · rfl
    · rfl
    · rfl
    · exact hpast
    · simp [failWith, enter]

theorem speaks_configure (op : Op) (m : DSNetManager) (h : op.configures = true) :
    Speaks m (op.run m).2 := by
  cases op <;> simp only [Op.configures, Bool.false_eq_true] at h <;>
    exact Monitor.advances_still rfl fun _ hd => hd.of_eq rfl rfl rfl rfl

theorem Deed.speaks {op : Op} (h : Deed op m n) : Speaks m n := by
  cases h with
  | books _ _ _ hbooks => exact hbooks.speaks
  | heeded _ _ _ hheeded => exact hheeded.speaks
  | say _ _ packet honline hasked => exact speaks_say m packet honline.1 hasked
  | attempt _ users => exact speaks_attemptFor m users
  | hangUp => exact speaks_ended rfl rfl rfl rfl rfl
  | configure _ _ hop => exact speaks_configure op m hop
  | unqueue | handOut | list | setAside | discard =>
    exact Monitor.advances_still rfl fun _ hd => hd.of_eq rfl rfl rfl rfl

end

theorem fits_construct (os : SocketOS) (clock : Stream' UInt32) (disk : Disk) :
    ({} : Dialogue).Fits (construct os clock disk) := by
  refine ⟨rfl, rfl, fun h => ?_, fun h => ?_, fun h => ?_, fun _ h => ?_⟩
  · cases h
  · rcases h with h | h <;> cases h
  · cases h
  · cases h

end DSNetManager

open DSNetManager

theorem watched_ran (os : SocketOS) (clock : Stream' UInt32) (disk : Disk) (ops : List Op) :
    dialogue.Obeys {} (ran os clock disk ops).trace ∧
      (dialogue.after {} (ran os clock disk ops).trace).Fits (ran os clock disk ops) := by
  have hspeaks : Speaks (construct os clock disk) (ran os clock disk ops) :=
    runOps_keeps ops _ _ (Monitor.advances_refl _) fun _ _ _ _ hdeed hm => hm.trans hdeed.speaks
  obtain ⟨events, htrace, hobeys, hfits⟩ := hspeaks {} (fits_construct os clock disk)
  rw [htrace]
  exact ⟨hobeys, hfits⟩

/-- **Everything is said in its turn.** In every run, whatever is written on a connection is its one
handshake, an answer to a circuit request behind it, or what a client says that is logged in on that
very connection, under the ids of that login; and these are the ids the manager has. -/
theorem speaks_in_turn (os : SocketOS) (clock : Stream' UInt32) (disk : Disk) (ops : List Op) :
    dialogue.Obeys {} (ran os clock disk ops).trace ∧
      (dialogue.after {} (ran os clock disk ops).trace).server =
      (ran os clock disk ops).myServerUIN ∧
      (dialogue.after {} (ran os clock disk ops).trace).user = (ran os clock disk ops).myUserUIN :=
  have h := watched_ran os clock disk ops
  ⟨h.1, h.2.server.symm, h.2.user.symm⟩

/-- What was written on a connection, packet by packet. -/
def writtenOn (connection : ℕ) (events : List Event) : List Bytes :=
  events.filterMap fun
    | .wrote line packet => if line = connection then some packet else none
    | _ => none

/-- Nothing, or one handshake and then other packets. -/
def OpensWithHandshake (packets : List Bytes) : Prop :=
  packets = [] ∨ ∃ user ticket nickname password magic rest,
    packets = buildHandshake user ticket nickname password magic :: rest ∧
      ∀ packet ∈ rest, (PacketHeader.read packet).type ≠ packetHandshake

theorem OpensWithHandshake.append {packets : List Bytes} (h : OpensWithHandshake packets)
    (hsome : packets ≠ []) (packet : Bytes)
    (htype : (PacketHeader.read packet).type ≠ packetHandshake) :
    OpensWithHandshake (packets ++ [packet]) := by
  obtain hnone | ⟨user, ticket, nickname, password, magic, rest, rfl, hrest⟩ := h
  · exact absurd hnone hsome
  · refine Or.inr ⟨user, ticket, nickname, password, magic, rest ++ [packet], rfl,
      fun other hother => ?_⟩
    rcases List.mem_append.mp hother with hother | hother
    · exact hrest other hother
    · rwa [List.mem_singleton.mp hother]

/-- What the observer of the line knows of the packets themselves. -/
structure Dialogue.Recalls (d : Dialogue) (events : List Event) : Prop where
  opens : ∀ connection, OpensWithHandshake (writtenOn connection events)
  latest : ∀ connection, writtenOn connection events ≠ [] →
    ∃ greeted, d.greeted = some greeted ∧ connection ≤ greeted
  greeted : ∀ connection, d.greeted = some connection → writtenOn connection events ≠ []

theorem writtenOn_silent (connection : ℕ) (events more : List Event)
    (h : ∀ e ∈ more, ∀ line packet, e ≠ .wrote line packet) :
    writtenOn connection (events ++ more) = writtenOn connection events := by
  have hnone : writtenOn connection more = [] := by
    refine List.filterMap_eq_nil_iff.mpr fun e he => ?_
    cases e with
    | wrote line packet => exact absurd rfl (h _ he line packet)
    | _ => rfl
  rw [writtenOn, List.filterMap_append]
  change writtenOn connection events ++ writtenOn connection more = _
  rw [hnone, List.append_nil]

/-- An event of another kind. -/
theorem Dialogue.Recalls.other {d : Dialogue} {events : List Event} {e : Event}
    (h : d.Recalls events) (hwrote : ∀ connection packet, e ≠ .wrote connection packet) :
    (d.hear e).Recalls (events ++ [e]) := by
  have hsame : ∀ connection, writtenOn connection (events ++ [e]) =
      writtenOn connection events := by
    intro connection
    refine writtenOn_silent connection events [e] fun other hother => ?_
    rw [List.mem_singleton.mp hother]
    exact hwrote
  have hgreeted : (d.hear e).greeted = d.greeted := by
    cases e with
    | wrote line packet => exact absurd rfl (hwrote line packet)
    | handshake phase frame =>
      cases phase with
      | awaitHandshake => simp only [hear]; split_ifs <;> rfl
      | _ => rfl
    | _ => rfl
  refine ⟨fun connection => ?_, fun connection => ?_, fun connection => ?_⟩
  · rw [hsame]
    exact h.opens connection
  · rw [hsame, hgreeted]
    exact h.latest connection
  · rw [hsame, hgreeted]
    exact h.greeted connection

theorem writtenOn_wrote (line : ℕ) (packet : Bytes) (events : List Event) (connection : ℕ) :
    writtenOn connection (events ++ [.wrote line packet]) =
      writtenOn connection events ++ if line = connection then [packet] else [] := by
  rw [writtenOn, List.filterMap_append]
  by_cases hline : line = connection <;> simp [hline, writtenOn]

theorem Dialogue.Recalls.greets {d : Dialogue} {events : List Event} {line : ℕ} {packet : Bytes}
    (h : d.Recalls events) (hgreets : d.Greets line packet) :
    (d.hear (.wrote line packet)).Recalls (events ++ [.wrote line packet]) := by
  obtain ⟨⟨ticket, nickname, password, magic, rfl⟩, hnew⟩ := hgreets
  have hheard : (d.hear (.wrote line (buildHandshake d.user ticket nickname password
    magic))).greeted =
      some line := by rw [hear, if_pos (buildHandshake_type _ _ _ _ _)]
  have hsilent : writtenOn line events = [] := by
    by_contra hsome
    obtain ⟨earlier, hearlier, hle⟩ := h.latest line hsome
    exact absurd (hnew earlier hearlier) (by omega)
  refine ⟨fun connection => ?_, fun connection hsome => ⟨line, hheard, ?_⟩,
    fun connection hconnection => ?_⟩
  · rw [writtenOn_wrote]
    split_ifs with hline
    · rw [← hline, hsilent]
      exact Or.inr ⟨_, _, _, _, _, [], rfl, by simp⟩
    · rw [List.append_nil]
      exact h.opens connection
  · rw [writtenOn_wrote] at hsome
    split_ifs at hsome with hline
    · exact hline.ge
    · rw [List.append_nil] at hsome
      obtain ⟨earlier, hearlier, hle⟩ := h.latest connection hsome
      exact hle.trans (hnew earlier hearlier).le
  · rw [hheard] at hconnection
    cases hconnection
    simp [writtenOn_wrote]

theorem Dialogue.Recalls.replies {d : Dialogue} {events : List Event} {line : ℕ} {packet : Bytes}
    (h : d.Recalls events) (hreplies : d.Replies line packet) :
    (d.hear (.wrote line packet)).Recalls (events ++ [.wrote line packet]) := by
  have htype : (PacketHeader.read packet).type ≠ packetHandshake := by
    rcases hreplies.2 with ⟨_, hasked⟩ | ⟨initiator, theirs, ours, rfl⟩
    · exact hasked.type
    · exact buildVirtualConnectAccept_type _ _ _ _
  rw [hreplies.hear]
  refine ⟨fun connection => ?_, fun connection hsome => ?_, fun connection hconnection => ?_⟩
  · rw [writtenOn_wrote]
    split_ifs with hline
    · subst hline
      exact (h.opens line).append (h.greeted line hreplies.1) packet htype
    · rw [List.append_nil]
      exact h.opens connection
  · rw [writtenOn_wrote] at hsome
    split_ifs at hsome with hline
    · exact ⟨line, hreplies.1, hline.ge⟩
    · rw [List.append_nil] at hsome
      exact h.latest connection hsome
  · rw [writtenOn_wrote]
    exact fun hnone => h.greeted connection hconnection (List.append_eq_nil_iff.mp hnone).1

theorem recalls_of_obeys (events : List Event) (h : dialogue.Obeys {} events) :
    (dialogue.after {} events).Recalls events := by
  induction events using List.reverseRecOn with
  | nil =>
    exact ⟨fun _ => Or.inl rfl, fun _ hsome => absurd rfl hsome,
      fun _ hgreeted => by cases hgreeted⟩
  | append_singleton events e ih =>
    obtain ⟨hbefore, hallowed, _⟩ := (dialogue.obeys_append {} events [e]).mp h
    have hrecalls := ih hbefore
    rw [dialogue.after_append]
    change ((dialogue.after {} events).hear e).Recalls (events ++ [e])
    by_cases hwrote : ∃ connection packet, e = .wrote connection packet
    · obtain ⟨connection, packet, rfl⟩ := hwrote
      rcases hallowed with hgreets | hreplies
      · exact hrecalls.greets hgreets
      · exact hrecalls.replies hreplies
    · exact hrecalls.other fun connection packet he => hwrote ⟨connection, packet, he⟩

/-- **Every connection opens with its one handshake.** -/
theorem opened_by_handshake (os : SocketOS) (clock : Stream' UInt32) (disk : Disk) (ops : List Op)
    (connection : ℕ) : OpensWithHandshake (writtenOn connection (ran os clock disk ops).trace) :=
  (recalls_of_obeys _ (watched_ran os clock disk ops).1).opens connection

end NetNatsue
