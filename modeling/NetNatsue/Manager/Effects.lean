import NetNatsue.Manager.Runs

/-! What the acts do to the register of watched users, to what is known of other users, and to
messages and circuits. Most acts keep apart from all of these. -/
namespace NetNatsue

/-- Events that are about neither other users nor messages nor circuits. -/
def Event.Apart (connection : ℕ) : Event → Prop
  | .wrote line data => line = connection ∧
      (PacketHeader.read data).type ≠ packetAddWWREntry ∧
      (PacketHeader.read data).type ≠ packetRemoveWWREntry ∧
      (PacketHeader.read data).type ≠ packetClientCommand
  | .packet _ header frame => ServerPacket.ofType header.type ≠ some .message ∧
      ServerPacket.ofType header.type ≠ some .virtualConnect ∧ presenceTold header frame = none
  | .ended | .spooled _ _ _ | .collected _ | .yielded _ _ | .registered _ | .removed _ => False
  | _ => True

theorem TransactionKind.requestType_apart (kind : TransactionKind) :
    kind.requestType ≠ packetAddWWREntry ∧ kind.requestType ≠ packetRemoveWWREntry ∧
      kind.requestType ≠ packetClientCommand := by
  cases kind <;> decide

namespace DSNetManager

/-- The states agree on the register, on who is online, and on messages and circuits. -/
structure Apart (m n : DSNetManager) : Prop where
  drift : m.mySocket.Drifts n.mySocket
  users : n.myUsersForWWR = m.myUsersForWWR
  serverUIN : n.myServerUIN = m.myServerUIN
  online : ∀ user, (n.myPresence user).map Presence.online = (m.myPresence user).map Presence.online
  members : n.myWWRMembers = m.myWWRMembers
  changed : n.myChangedUsers = m.myChangedUsers
  expected : ∀ user, (n.myPendingWWRAdds user).isSome = true →
    (m.myPendingWWRAdds user).isSome = true
  nextVSN : n.myNextVSN = m.myNextVSN
  messages : n.myIncomingMessages = m.myIncomingMessages
  trace : ∃ events, n.trace = m.trace ++ events ∧ ∀ e ∈ events, e.Apart m.mySocket.os.connection

/-- The fields that `Apart` compares. -/
def apartFields (m : DSNetManager) :=
  (m.mySocket, m.myUsersForWWR, m.myServerUIN, m.myPresence, m.myWWRMembers, m.myChangedUsers,
    m.myPendingWWRAdds, m.myNextVSN, m.myIncomingMessages, m.trace)

theorem apart_of_fields {m n : DSNetManager} (h : n.apartFields = m.apartFields) : Apart m n := by
  simp only [apartFields, Prod.mk.injEq] at h
  obtain ⟨hsocket, husers, hserverUIN, hpresence, hmembers, hchanged, hadds, hnextVSN,
    hmessages, htrace⟩ := h
  refine ⟨?_, husers, hserverUIN, fun user => ?_, hmembers, hchanged,
    fun user hexpected => ?_, hnextVSN, hmessages, [], ?_, by simp⟩
  · rw [hsocket]
    exact m.mySocket.drifts_refl
  · rw [hpresence]
  · rwa [← hadds]
  · rw [htrace, List.append_nil]

theorem apart_refl (m : DSNetManager) : Apart m m := apart_of_fields rfl

theorem Apart.trans {m n k : DSNetManager} (h : Apart m n) (h' : Apart n k) : Apart m k where
  drift := h.drift.trans h'.drift
  users := h'.users.trans h.users
  serverUIN := h'.serverUIN.trans h.serverUIN
  online user := (h'.online user).trans (h.online user)
  members := h'.members.trans h.members
  changed := h'.changed.trans h.changed
  expected user huser := h.expected user (h'.expected user huser)
  nextVSN := h'.nextVSN.trans h.nextVSN
  messages := h'.messages.trans h.messages
  trace := by
    obtain ⟨events, htrace, hevents⟩ := h.trace
    obtain ⟨more, hmore, hmore'⟩ := h'.trace
    rw [h.drift.connection] at hmore'
    refine ⟨events ++ more, by rw [hmore, htrace, List.append_assoc], fun e he => ?_⟩
    rcases List.mem_append.mp he with he | he
    · exact hevents e he
    · exact hmore' e he

theorem apart_emit (m : DSNetManager) (e : Event) (h : e.Apart m.mySocket.os.connection) :
    Apart m (m.emit e) :=
  ⟨m.mySocket.drifts_refl, rfl, rfl, fun _ => rfl, rfl, rfl, fun _ => id, rfl, rfl, [e],
    rfl, by simpa using h⟩

theorem apart_socket (m : DSNetManager) (s : NetNatsueSocket) (h : m.mySocket.Drifts s) :
    Apart m { m with mySocket := s } :=
  ⟨h, rfl, rfl, fun _ => rfl, rfl, rfl, fun _ => id, rfl, rfl, [],
    (List.append_nil _).symm, by simp⟩

theorem Aside.apart {m n : DSNetManager} (h : Aside m n) : Apart m n :=
  ⟨by rw [h.socket]; exact m.mySocket.drifts_refl, h.users, h.serverUIN,
    fun user => by rw [h.presence], h.members, h.changed, fun user => by rw [h.adds]; exact id, h.nextVSN, h.messages, [],
    by rw [h.trace, List.append_nil], by simp⟩

theorem apart_clock (m : DSNetManager) (clock : Stream' UInt32) :
    Apart m { m with clock := clock } :=
  apart_of_fields rfl

theorem apart_nowMs (m : DSNetManager) : Apart m m.nowMs.2 := apart_clock m m.clock.tail

theorem apart_nextTicket (m : DSNetManager) : Apart m m.nextTicket.2 :=
  ⟨m.mySocket.drifts_refl, rfl, rfl, fun _ => rfl, rfl, rfl, fun _ => id, rfl, rfl,
    [.issued _], rfl, by simp [Event.Apart]⟩

/-- A packet is written that is neither a registration nor a reply. -/
theorem apart_socketWrite (m : DSNetManager) (packet : Bytes)
    (hadd : (PacketHeader.read packet).type ≠ packetAddWWREntry)
    (hremove : (PacketHeader.read packet).type ≠ packetRemoveWWREntry)
    (haccept : (PacketHeader.read packet).type ≠ packetClientCommand) :
    Apart m (m.socketWrite packet).2 := by
  have hdrift := m.mySocket.drifts_write packet (sizeInt packet)
  have hsocket := apart_socket m _ hdrift
  cases hok : (m.socketWrite packet).1 with
  | true =>
    rw [socketWrite_ok m packet hok]
    exact hsocket.trans (apart_emit _ _ ⟨rfl, hadd, hremove, haccept⟩)
  | false =>
    rw [socketWrite_failed m packet hok]
    exact hsocket

theorem apart_setTransaction (m : DSNetManager) (ticket : Int32)
    (transaction : Option Transaction) :
    Apart m (m.setTransaction ticket transaction) :=
  apart_of_fields rfl

theorem apart_startTransaction (m : DSNetManager) (kind : TransactionKind)
    (fixedExtra : FixedExtra) :
    Apart m (m.startTransaction kind fixedExtra).2 :=
  (apart_nextTicket m).trans ((apart_setTransaction m.nextTicket.2 _ _).trans
    (apart_emit _ _ trivial))

theorem apart_abandonTransaction (m : DSNetManager) (ticket : Int32) :
    Apart m (m.abandonTransaction ticket) := by
  unfold abandonTransaction
  cases m.myTransactions ticket with
  | none => exact apart_refl m
  | some transaction => exact apart_setTransaction m ticket _

theorem apart_hold (m : DSNetManager) (slot : Slot) (query : PendingQuery) :
    Apart m (m.hold slot query) := by
  cases slot <;> exact apart_of_fields rfl

theorem apart_release (m : DSNetManager) (slot : Slot) : Apart m (m.release slot) := by
  cases slot <;> exact apart_of_fields rfl

theorem apart_requested (m : DSNetManager) (slot : Slot) (clock : Stream' UInt32) (packet : Bytes)
    (htype : (PacketHeader.read packet).type = slot.kind.requestType) :
    Apart m (m.requested slot clock packet).2 := by
  have hstart := (apart_startTransaction m slot.kind slot.fixedExtra).trans (apart_clock _ clock)
  obtain ⟨hadd, hremove, haccept⟩ := slot.kind.requestType_apart
  rw [← htype] at hadd hremove haccept
  exact hstart.trans (apart_socketWrite _ packet hadd hremove haccept)

theorem Queried.apart {op : Op} {m n : DSNetManager} (h : Queried op m n) : Apart m n := by
  cases h with
  | ask slot clock deadline packet _ _ _ htype =>
    exact (apart_requested m slot clock packet htype).trans (apart_hold _ slot _)
  | refuse slot clock packet _ htype =>
    exact (apart_requested m slot clock packet htype).trans (apart_abandonTransaction _ _)
  | finish slot ticket => exact (apart_setTransaction m ticket none).trans (apart_release _ slot)
  | expire slot ticket => exact (apart_abandonTransaction m ticket).trans (apart_release _ slot)
  | drop slot => exact apart_release m slot

theorem Queried.phase {op : Op} {m n : DSNetManager} (h : Queried op m n) :
    n.myConnectPhase = m.myConnectPhase := by
  have hrequested : ∀ slot clock packet,
      (m.requested slot clock packet).2.myConnectPhase = m.myConnectPhase := by
    intro slot clock packet
    exact socketWrite_phase _ packet
  cases h with
  | ask slot => exact (onlyQueries_hold _ slot _).phase.trans (hrequested _ _ _)
  | refuse slot => exact (onlyQueries_abandonTransaction _ _).phase.trans (hrequested _ _ _)
  | finish slot ticket =>
    exact ((onlyQueries_setTransaction m ticket none).trans (onlyQueries_release _ slot)).phase
  | expire slot ticket =>
    exact ((onlyQueries_abandonTransaction m ticket).trans (onlyQueries_release _ slot)).phase
  | drop slot => exact (onlyQueries_release m slot).phase

/-- Users of a list are added to the register and perhaps told to the server. -/
structure Registers (users : List Bytes) (m n : DSNetManager) : Prop where
  drift : m.mySocket.Drifts n.mySocket
  phase : n.myConnectPhase = m.myConnectPhase
  captured : n.myUsersForWWR = m.myUsersForWWR
  serverUIN : n.myServerUIN = m.myServerUIN
  presence : n.myPresence = m.myPresence
  changed : n.myChangedUsers = m.myChangedUsers
  nextVSN : n.myNextVSN = m.myNextVSN
  messages : n.myIncomingMessages = m.myIncomingMessages
  grown : m.myWWRMembers ⊆ n.myWWRMembers
  listed : ∀ user ∈ n.myWWRMembers, user ∈ m.myWWRMembers ∨
    user ∈ users ∧ (BabelUIN.fromString user).1 = true
  expected : ∀ user, (n.myPendingWWRAdds user).isSome = true →
    (m.myPendingWWRAdds user).isSome = true ∨ user ∈ n.myWWRMembers
  trace : ∃ events, n.trace = m.trace ++ events ∧ ∀ e ∈ events,
    (∃ user, e = .registered user) ∨ ∃ user ∈ users, (BabelUIN.fromString user).1 = true ∧
      e = .wrote m.mySocket.os.connection
        (buildWWRModify true m.myServerUIN (BabelUIN.fromString user).2)

section
variable {users : List Bytes} {m n k : DSNetManager}

theorem registers_refl (users : List Bytes) (m : DSNetManager) : Registers users m m :=
  ⟨m.mySocket.drifts_refl, rfl, rfl, rfl, rfl, rfl, rfl, rfl, subset_rfl, fun _ => Or.inl,
    fun _ => Or.inl, [], (List.append_nil _).symm, by simp⟩

theorem Registers.trans (h : Registers users m n) (h' : Registers users n k) :
    Registers users m k where
  drift := h.drift.trans h'.drift
  phase := h'.phase.trans h.phase
  captured := h'.captured.trans h.captured
  serverUIN := h'.serverUIN.trans h.serverUIN
  presence := h'.presence.trans h.presence
  changed := h'.changed.trans h.changed
  nextVSN := h'.nextVSN.trans h.nextVSN
  messages := h'.messages.trans h.messages
  grown := h.grown.trans h'.grown
  listed user huser := (h'.listed user huser).elim (h.listed user) Or.inr
  expected user huser := (h'.expected user huser).elim
    (fun huser => (h.expected user huser).imp id (fun hmember => h'.grown hmember)) Or.inr
  trace := by
    obtain ⟨events, htrace, hevents⟩ := h.trace
    obtain ⟨more, hmore, hmore'⟩ := h'.trace
    rw [h.drift.connection, h.serverUIN] at hmore'
    refine ⟨events ++ more, by rw [hmore, htrace, List.append_assoc], fun e he => ?_⟩
    rcases List.mem_append.mp he with he | he
    · exact hevents e he
    · exact hmore' e he

theorem registers_watch (m : DSNetManager) (user : Bytes) (h : user ∈ users)
    (hvalid : (BabelUIN.fromString user).1 = true) : Registers users m (m.watch user) := by
  refine ⟨m.mySocket.drifts_refl, rfl, rfl, rfl, rfl, rfl, rfl, rfl, Finset.subset_insert _ _, ?_,
    fun _ => Or.inl, [], (List.append_nil _).symm, by simp⟩
  intro other hother
  rcases Finset.mem_insert.mp hother with rfl | hother
  · exact Or.inr ⟨h, hvalid⟩
  · exact Or.inl hother

theorem registers_note (m : DSNetManager) (user : Bytes) :
    Registers users m (m.emit (.registered user)) :=
  ⟨m.mySocket.drifts_refl, rfl, rfl, rfl, rfl, rfl, rfl, rfl, subset_rfl, fun _ => Or.inl,
    fun _ => Or.inl, [_], rfl, by simp⟩

theorem registers_socketWrite (m : DSNetManager) (user packet : Bytes) (h : user ∈ users)
    (hvalid : (BabelUIN.fromString user).1 = true)
    (hpacket : packet = buildWWRModify true m.myServerUIN (BabelUIN.fromString user).2) :
    Registers users m (m.socketWrite packet).2 := by
  have hdrift := m.mySocket.drifts_write packet (sizeInt packet)
  cases hok : (m.socketWrite packet).1 with
  | true =>
    rw [socketWrite_ok m packet hok, hdrift.connection]
    refine ⟨hdrift, rfl, rfl, rfl, rfl, rfl, rfl, rfl, subset_rfl, fun _ => Or.inl, fun _ => Or.inl,
      [.wrote m.mySocket.os.connection packet], rfl, ?_⟩
    intro e he
    exact Or.inr ⟨user, h, hvalid, by simpa [hpacket] using he⟩
  | false =>
    rw [socketWrite_failed m packet hok]
    exact ⟨hdrift, rfl, rfl, rfl, rfl, rfl, rfl, rfl, subset_rfl, fun _ => Or.inl,
      fun _ => Or.inl, [], (List.append_nil _).symm, by simp⟩

/-- The registrations at login do nothing else. -/
theorem registers_sendWWRRegistrations (listed : List Bytes) (m : DSNetManager)
    (h : listed ⊆ users) :
    Registers users m (sendWWRRegistrations listed m) := by
  induction listed generalizing m with
  | nil => exact registers_refl users m
  | cons user listed ih =>
    have huser : user ∈ users := h List.mem_cons_self
    have hlisted : listed ⊆ users := fun _ hmem => h (List.mem_cons_of_mem _ hmem)
    simp only [sendWWRRegistrations]
    split_ifs with hvalid
    · have hwatch := (registers_watch m user huser hvalid).trans (registers_note _ user)
      exact (hwatch.trans (registers_socketWrite _ user _ huser hvalid rfl)).trans (ih _ hlisted)
    · have hwatch := (registers_watch m user huser hvalid).trans (registers_note _ user)
      exact hwatch.trans (registers_socketWrite _ user _ huser hvalid rfl)
    · exact ih m hlisted

theorem registers_expect (m : DSNetManager) (user : Bytes) (deadline : UInt32)
    (h : user ∈ m.myWWRMembers) : Registers users m (m.nowMs.2.setWWRAdd user deadline) := by
  refine ⟨m.mySocket.drifts_refl, rfl, rfl, rfl, rfl, rfl, rfl, rfl, subset_rfl,
    fun _ => Or.inl, ?_, [], (List.append_nil _).symm, by simp⟩
  intro other hother
  by_cases hsame : other = user
  · exact Or.inr (hsame ▸ h)
  · exact Or.inl (by simpa [setWWRAdd, nowMs, hsame] using hother)

/-- The first call of `AddToWWR`. -/
theorem registers_enrol (m : DSNetManager) (user : Bytes)
    (hvalid : (BabelUIN.fromString user).1 = true) :
    Registers [user] m ((m.watch user).startAdd user (BabelUIN.fromString user).2).2 := by
  have huser : user ∈ [user] := List.mem_singleton_self user
  have hwatch := registers_watch m user huser hvalid
  have hsend := registers_socketWrite (m.watch user) user _ huser hvalid rfl
  have hmember := hsend.grown (Finset.mem_insert_self user m.myWWRMembers)
  simp only [startAdd]
  split_ifs
  · exact hwatch.trans hsend
  · exact (hwatch.trans hsend).trans (registers_expect _ user _ hmember)
  · exact hwatch.trans hsend

end

/-- The users registered at login are the ones the attempt was started with. -/
theorem registers_acceptLogin (m : DSNetManager) (serverUIN userUIN : BabelUIN)
    (servers : List CBabelServerInfo) :
    Registers m.myUsersForWWR (m.admitted serverUIN userUIN servers)
      (sendWWRRegistrations m.myUsersForWWR (m.admitted serverUIN userUIN servers)) :=
  registers_sendWWRRegistrations _ _ (List.Subset.refl _)

/-- What an act can do to the things the claims of this part are about. -/
inductive Effect : Op → DSNetManager → DSNetManager → Prop
  | apart (op : Op) (m n : DSNetManager) (h : Apart m n)
    (hphase : n.myConnectPhase = m.myConnectPhase) :
    Effect op m n
  | attempting (op : Op) (m n : DSNetManager) (h : Apart m n)
    (hbefore : m.myConnectPhase = .connecting ∨ m.myConnectPhase = .awaitHandshake)
    (hafter : n.myConnectPhase = .failed ∨
      n.myConnectPhase = .awaitHandshake ∧ n.mySocket.myState ≠ .connecting) : Effect op m n
  | accepted (op : Op) (m : DSNetManager) (frame : Bytes) (h : m.myConnectPhase = .awaitHandshake) :
    Effect op m ((m.emit (.handshake m.myConnectPhase frame)).acceptLogin
      ⟨(PacketHeader.read frame).fieldA, (PacketHeader.read frame).fieldB⟩
      ⟨(PacketHeader.read frame).fieldC, (PacketHeader.read frame).fieldD⟩
      (updatedServers frame (sizeInt frame)))
  | message (op : Op) (m : DSNetManager) (frame : Bytes)
    (h : ServerPacket.ofType (PacketHeader.read frame).type = some .message) :
    Effect op m ((m.emit (.packet m.myConnectPhase (PacketHeader.read frame) frame)).handleMessage
      (frame.drop packetHeaderSize) (sizeInt frame - 32))
  | presence (op : Op) (m : DSNetManager) (frame : Bytes) (uin : BabelUIN) (online : Bool)
    (nickName : Bytes) (h : presenceTold (PacketHeader.read frame) frame = some (uin,
    online, nickName)) :
    Effect op m ((m.emit (.packet m.myConnectPhase (PacketHeader.read frame) frame)).updatePresence
      uin online nickName)
  | circuit (op : Op) (m : DSNetManager) (frame : Bytes)
    (h : ServerPacket.ofType (PacketHeader.read frame).type = some .virtualConnect) :
    Effect op m ((m.emit (.packet m.myConnectPhase (PacketHeader.read frame)
      frame)).handleVirtualConnect
      (PacketHeader.read frame)).2
  | lost (op : Op) (m : DSNetManager) : Effect op m m.connectionLost
  | hangUp (m : DSNetManager) : Effect .disconnect m m.disconnect
  | attempt (m : DSNetManager) (users : List Bytes) (hoffline : ¬ m.Online) :
    Effect (.connectInBackground users) m
      ((m.attemptFor users).emit (.polled m.myConnectPhase false (m.attemptFor users).blocking))
  | watch (m : DSNetManager) (user : Bytes) (hvalid : (BabelUIN.fromString user).1 = true)
    (h : m.Online → (m.myPendingWWRAdds user).isSome = true) :
    Effect (.addToWWR user) m (m.watch user)
  | enrol (m : DSNetManager) (user : Bytes) (hvalid : (BabelUIN.fromString user).1 = true)
    (honline : m.Online) :
    Effect (.addToWWR user) m ((m.watch user).startAdd user (BabelUIN.fromString user).2).2
  | remove (m : DSNetManager) (user : Bytes) : Effect (.removeFromWWR user) m (m.removeFromWWR user)
  | yield (m : DSNetManager) : Effect .nextChangedUserWWR m m.nextChangedUserWWR.2
  | collect (m : DSNetManager) : Effect .getMessages m m.collect.2

theorem apart_enter (m : DSNetManager) (phase : ConnectPhase) : Apart m (m.enter phase) :=
  apart_of_fields rfl

theorem apart_endWWRAdd (m : DSNetManager) (user : Bytes) : Apart m (m.endWWRAdd user) := by
  refine ⟨m.mySocket.drifts_refl, rfl, rfl, fun _ => rfl, rfl, rfl, ?_, rfl, rfl, [],
    (List.append_nil _).symm, by simp⟩
  intro other hother
  by_cases hsame : other = user
  · simp [endWWRAdd, hsame] at hother
  · simpa [endWWRAdd, hsame] using hother

theorem apart_failWith (m : DSNetManager) (rawError : Int32) : Apart m (m.failWith rawError) :=
  apart_of_fields rfl

theorem apart_rememberNickName (m : DSNetManager) (user name : Bytes) :
    Apart m (m.rememberNickName user name) := by
  have honline : ∀ other, ((m.rememberNickName user name).myPresence other).map Presence.online =
      (m.myPresence other).map Presence.online := by
    intro other
    unfold rememberNickName
    cases hknown : m.myPresence user with
    | none => rfl
    | some presence =>
      simp only
      split_ifs
      · rfl
      · by_cases hother : other = user
        · subst hother
          simp [hknown]
        · simp [hother]
  obtain ⟨presence, hframe⟩ := rememberNickName_frame m user name
  rw [hframe] at honline ⊢
  exact ⟨m.mySocket.drifts_refl, rfl, rfl, honline, rfl, rfl, fun _ => id, rfl, rfl, [],
    (List.append_nil _).symm, by simp⟩

theorem effect_sendHandshake (op : Op) (m : DSNetManager) (h : m.myConnectPhase = .connecting)
    (hconnected : m.mySocket.myState = .connected) : Effect op m m.sendHandshake := by
  have htype : (PacketHeader.read (m.handshakePacket m.nextTicket.1)).type = packetHandshake := by
    simp only [handshakePacket, buildHandshake, List.append_assoc, PacketHeader.read_write]
  have hwrite : Apart m (m.nextTicket.2.socketWrite (m.handshakePacket m.nextTicket.1)).2 :=
    (apart_nextTicket m).trans (apart_socketWrite _ _ (by rw [htype]; decide)
      (by rw [htype]; decide) (by rw [htype]; decide))
  unfold sendHandshake
  simp only
  split_ifs
  · refine .attempting op m _ (hwrite.trans (apart_enter _ _)) (Or.inl h) (Or.inr ⟨rfl, ?_⟩)
    intro hconnecting
    have hbefore := hwrite.drift.connecting hconnecting
    simp [hconnected] at hbefore
  · exact .attempting op m _ (hwrite.trans (apart_failWith _ _)) (Or.inl h) (Or.inl rfl)

theorem Met.effect (op : Op) {m n : DSNetManager} {frame : Bytes} (h : Met m frame n) :
    Effect op m n := by
  cases h with
  | response transaction =>
    refine .apart op m _ ?_ rfl
    exact ⟨m.mySocket.drifts_refl, rfl, rfl, fun _ => rfl, rfl, rfl, fun _ => id, rfl, rfl,
      [.response _ frame], rfl, by simp [Event.Apart]⟩
  | stray => exact .apart op m _ (apart_emit m _ trivial) rfl
  | refused hphase =>
    refine .attempting op m _ ?_ (Or.inr hphase) (Or.inl rfl)
    exact ⟨NetNatsueSocket.drifts_close _, rfl, rfl, fun _ => rfl, rfl, rfl, fun _ => id, rfl, rfl,
      [.handshake _ frame], rfl, by simp [Event.Apart]⟩
  | accepted hphase => exact .accepted op m frame hphase
  | message htype => exact .message op m frame htype
  | presence uin online nickName htold => exact .presence op m frame uin online nickName htold
  | circuit htype => exact .circuit op m frame htype
  | ignored hmessage hcircuit htold =>
    exact .apart op m _ (apart_emit m _ ⟨hmessage, hcircuit, htold⟩) rfl

theorem Pumped.effect (op : Op) {m n : DSNetManager} (h : Pumped m n) : Effect op m n := by
  cases h with
  | clock => exact .apart op m _ (apart_nowMs m) rfl
  | socket s hdrift => exact .apart op m _ (apart_socket m s hdrift) rfl
  | frame _ frame hmet => exact hmet.effect op
  | lost => exact .lost op m
  | fail rawError hphase => exact .attempting op m _ (apart_failWith m rawError) hphase (Or.inl rfl)
  | handshake hphase hconnected => exact effect_sendHandshake op m hphase hconnected

/-- **Every act has one of these effects.** -/
theorem Act.effect {op : Op} {m n : DSNetManager} (h : Act op m n) : Effect op m n := by
  cases h with
  | pumped _ _ _ hpumped => exact hpumped.effect op
  | aside _ _ _ haside => exact .apart op m n haside.apart haside.phase
  | attempt _ users hoffline => exact .attempt m users hoffline
  | poll _ users => exact .apart _ m _ (apart_emit m _ trivial) rfl
  | hangUp => exact .hangUp m
  | watch _ user hvalid hpending => exact .watch m user hvalid hpending
  | enrol _ user hvalid honline => exact .enrol m user hvalid honline
  | endAdd _ user => exact .apart _ m _ (apart_endWWRAdd m user) rfl
  | added _ user block => exact .apart _ m _ (apart_emit m _ trivial) rfl
  | remove _ user => exact .remove m user
  | yield => exact .yield m
  | collect => exact .collect m
  | queried _ _ _ hqueried => exact .apart op m n hqueried.apart hqueried.phase
  | nickName _ _ user name =>
    refine .apart op m _ (apart_rememberNickName m user name) ?_
    obtain ⟨presence, hframe⟩ := rememberNickName_frame m user name
    rw [hframe]
  | send _ _ packet htype =>
    refine .apart op m _ (apart_socketWrite m packet ?_ ?_ ?_) (socketWrite_phase m packet) <;>
    · rw [htype]
      decide
  | post _ _ path packet disk htype =>
    have hphase : ∀ (n : DSNetManager) e, ((n.onDisk disk).emit e).myConnectPhase =
        n.myConnectPhase :=
      fun _ _ => rfl
    refine .apart op m _ ?_ ((hphase _ _).trans (socketWrite_phase m packet))
    have hwrite : Apart m (m.socketWrite packet).2 := by
      apply apart_socketWrite <;>
      · rw [htype]
        decide
    exact hwrite.trans ((aside_onDisk _ disk).apart.trans (apart_emit _ _ trivial))

end DSNetManager
end NetNatsue
