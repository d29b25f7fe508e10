import NetNatsue.Manager.Known

/-! Commands that ask the server once and are then polled for the answer. -/
namespace NetNatsue

/-- The commands whose first call asks and whose later calls poll. -/
inductive Query
  | fetchUserData (user : Bytes)
  | dsFetchRandomUser
  | getStatus
  deriving DecidableEq

/-- Where the command remembers that it has asked. -/
def Query.slot : Query → Slot
  | fetchUserData user => .fetch user
  | dsFetchRandomUser => .random
  | getStatus => .status

/-- The user asked about has a valid id. -/
def Query.Valid : Query → Prop
  | fetchUserData user => (BabelUIN.fromString user).1 = true
  | _ => True

/-- The packet is a request of this command, `FetchUserData` for this user. -/
def Query.IsRequest (packet : Bytes) : Query → Prop
  | fetchUserData user => (PacketHeader.read packet).type = packetGetClientInfo ∧
      (⟨(PacketHeader.read packet).fieldC, (PacketHeader.read packet).fieldD⟩ : BabelUIN) =
        (BabelUIN.fromString user).2
  | dsFetchRandomUser => (PacketHeader.read packet).type = packetDSFetchRandomUser
  | getStatus => (PacketHeader.read packet).type = packetGetStatus

/-- The event notes that a request of the command was written on the connection. -/
def Query.AskedBy (query : Query) (connection : ℕ) : Event → Prop
  | .wrote line packet => line = connection ∧ query.IsRequest packet
  | _ => False

instance (query : Query) (packet : Bytes) : Decidable (query.IsRequest packet) :=
  match query with
  | .fetchUserData _ => inferInstanceAs (Decidable (_ ∧ _))
  | .dsFetchRandomUser => inferInstanceAs (Decidable (_ = _))
  | .getStatus => inferInstanceAs (Decidable (_ = _))

instance (query : Query) (connection : ℕ) : DecidablePred (query.AskedBy connection) := fun e =>
  match e with
  | .wrote line packet => inferInstanceAs (Decidable (line = connection ∧ query.IsRequest packet))
  | .connecting _ _ | .polled _ _ _ | .issued _ | .started _ _ | .response _ _ | .handshake _ _
  | .packet _ _ _ | .ended | .spooled _ _ _ | .posted _ _ _ _ | .collected _ | .yielded _ _
  | .registered _ | .added _ _ | .removed _ => .isFalse id

namespace DSNetManager

/-- A call of the command: whether to call again, and the state. -/
def query (m : DSNetManager) : Query → Bool × DSNetManager
  | .fetchUserData user => ((m.fetchUserData user).1.2, (m.fetchUserData user).2)
  | .dsFetchRandomUser => (m.dsFetchRandomUser.1.2, m.dsFetchRandomUser.2)
  | .getStatus => (m.getStatus.1.2, m.getStatus.2)

/-- The request the command writes when it asks. -/
def queryRequest (m : DSNetManager) : Query → Bytes
  | .fetchUserData user =>
    buildGetClientInfo m.myServerUIN (BabelUIN.fromString user).2 (ticketAfter m.myNextTicketNumber)
  | .dsFetchRandomUser =>
    buildFetchRandomUser m.myServerUIN m.myUserUIN (ticketAfter m.myNextTicketNumber)
  | .getStatus => buildGetStatus m.myServerUIN (ticketAfter m.myNextTicketNumber)

theorem queryRequest_isRequest (m : DSNetManager) (query : Query) :
    query.IsRequest (m.queryRequest query) := by
  cases query with
  | fetchUserData user => simp [Query.IsRequest, queryRequest, buildGetClientInfo]
  | dsFetchRandomUser => simp [Query.IsRequest, queryRequest, buildFetchRandomUser]
  | getStatus => simp [Query.IsRequest, queryRequest, buildGetStatus]

theorem queryRequest_length (m : DSNetManager) (query : Query) :
    (m.queryRequest query).length < 4294967296 := by
  cases query <;>
    simp [queryRequest, buildGetClientInfo, buildFetchRandomUser, buildGetStatus, packetHeaderSize]

/-- The event notes no request of any command. -/
def Unasked (e : Event) : Prop := ∀ (query : Query) (connection : ℕ), ¬ query.AskedBy connection e

/-- Nothing is asked on the way. -/
def AsksNothing (m n : DSNetManager) : Prop :=
  ∃ events, n.trace = m.trace ++ events ∧ ∀ e ∈ events, Unasked e

section
variable {m n k : DSNetManager}

theorem asksNothing_of_trace (h : n.trace = m.trace) : AsksNothing m n :=
  ⟨[], by rw [h, List.append_nil], by simp⟩

theorem asksNothing_of_event (e : Event) (h : n.trace = m.trace ++ [e]) (he : Unasked e) :
    AsksNothing m n := ⟨[e], h, by simpa using he⟩

theorem AsksNothing.trans (h : AsksNothing m n) (h' : AsksNothing n k) : AsksNothing m k := by
  obtain ⟨events, htrace, hevents⟩ := h
  obtain ⟨more, hmore, hmore'⟩ := h'
  refine ⟨events ++ more, by rw [hmore, htrace, List.append_assoc], fun e he => ?_⟩
  exact (List.mem_append.mp he).elim (hevents e) (hmore' e)

theorem AsksNothing.since (h : AsksNothing m n) (query : Query) (connection : ℕ) :
    ¬ ∃ e ∈ since m n, query.AskedBy connection e := by
  obtain ⟨events, htrace, hevents⟩ := h
  rw [DSNetManager.since, htrace, List.drop_left]
  rintro ⟨e, he, hasked⟩
  exact hevents e he query connection hasked

end

/-- A packet of another type is no request. -/
theorem unasked_wrote (connection : ℕ) (packet : Bytes)
    (h : (PacketHeader.read packet).type ∈ [packetHandshake, packetAddWWREntry,
      packetClientCommand]) :
    Unasked (.wrote connection packet) := by
  intro query line hasked
  obtain ⟨_, hrequest⟩ := hasked
  cases query with
  | fetchUserData user =>
    rw [hrequest.1] at h
    revert h
    decide
  | dsFetchRandomUser =>
    rw [show (PacketHeader.read packet).type = _ from hrequest] at h
    revert h
    decide
  | getStatus =>
    rw [show (PacketHeader.read packet).type = _ from hrequest] at h
    revert h
    decide

theorem asksNothing_socketWrite (m : DSNetManager) (packet : Bytes)
    (h : (PacketHeader.read packet).type ∈ [packetHandshake, packetAddWWREntry,
      packetClientCommand]) :
    AsksNothing m (m.socketWrite packet).2 := by
  cases hok : (m.socketWrite packet).1 with
  | true =>
    rw [socketWrite_ok m packet hok]
    exact asksNothing_of_event _ rfl (unasked_wrote _ packet h)
  | false =>
    rw [socketWrite_failed m packet hok]
    exact asksNothing_of_trace rfl

theorem asksNothing_connectionLost (m : DSNetManager) : AsksNothing m m.connectionLost :=
  asksNothing_of_event .ended rfl fun _ _ => id

theorem asksNothing_handleVirtualConnect (m : DSNetManager) (header : PacketHeader) :
    AsksNothing m (m.handleVirtualConnect header).2 := by
  have hvsn : AsksNothing m m.nextVSN.2 := asksNothing_of_trace rfl
  have hreply := hvsn.trans (asksNothing_socketWrite m.nextVSN.2
    (buildVirtualConnectAccept m.myServerUIN ⟨header.fieldC, header.fieldD⟩
      header.fieldE m.nextVSN.1)
    (by simp [buildVirtualConnectAccept]))
  simp only [handleVirtualConnect]
  split_ifs
  · exact hreply
  · exact hreply.trans (asksNothing_connectionLost _)

theorem asksNothing_acceptLogin (m : DSNetManager) (serverUIN userUIN : BabelUIN)
    (servers : List CBabelServerInfo) :
    AsksNothing m (m.acceptLogin serverUIN userUIN servers) := by
  obtain ⟨events, htrace, hevents⟩ := (registers_acceptLogin m serverUIN userUIN servers).trace
  rw [acceptLogin_admitted]
  refine ⟨events, htrace, fun e he => ?_⟩
  rcases hevents e he with ⟨user, rfl⟩ | ⟨user, _, _, rfl⟩
  · exact fun _ _ => id
  · exact unasked_wrote _ _ (by simp [buildWWRModify])

theorem asksNothing_handleMessage (m : DSNetManager) (body : Bytes) (bodySize : Int32) :
    AsksNothing m (m.handleMessage body bodySize) := by
  unfold handleMessage
  cases parsePackedBabelMessage body bodySize with
  | none => exact asksNothing_of_trace rfl
  | some message =>
    simp only
    split_ifs
    · exact asksNothing_of_event _ rfl fun _ _ => id
    · exact asksNothing_of_trace rfl

theorem Met.asksNothing {m n : DSNetManager} {frame : Bytes} (h : Met m frame n) :
    AsksNothing m n := by
  have hhandshake : AsksNothing m (m.emit (.handshake m.myConnectPhase frame)) :=
    asksNothing_of_event _ rfl fun _ _ => id
  have hpacket : AsksNothing m
      (m.emit (.packet m.myConnectPhase (PacketHeader.read frame) frame)) :=
    asksNothing_of_event _ rfl fun _ _ => id
  cases h with
  | response transaction => exact asksNothing_of_event (.response _ frame) rfl fun _ _ => id
  | stray => exact hhandshake
  | refused => exact hhandshake.trans (asksNothing_of_trace rfl)
  | accepted => exact hhandshake.trans (asksNothing_acceptLogin _ _ _ _)
  | message => exact hpacket.trans (asksNothing_handleMessage _ _ _)
  | presence uin online nickName =>
    obtain ⟨changed, adds, hframe⟩ := updatePresence_frame
      (m.emit (.packet m.myConnectPhase (PacketHeader.read frame) frame)) uin online nickName
    rw [hframe]
    exact hpacket.trans (asksNothing_of_trace rfl)
  | circuit => exact hpacket.trans (asksNothing_handleVirtualConnect _ _)
  | ignored => exact hpacket

theorem asksNothing_sendHandshake (m : DSNetManager) : AsksNothing m m.sendHandshake := by
  have hissue : AsksNothing m m.nextTicket.2 := asksNothing_of_event (.issued _) rfl fun _ _ => id
  have hwrite :=
    hissue.trans (asksNothing_socketWrite m.nextTicket.2 (m.handshakePacket m.nextTicket.1)
    (by simp only [handshakePacket, buildHandshake, List.append_assoc, PacketHeader.read_write]
        exact List.mem_cons_self))
  unfold sendHandshake
  simp only
  split_ifs
  · exact hwrite.trans (asksNothing_of_trace rfl)
  · exact hwrite.trans (asksNothing_of_trace rfl)

theorem Pumped.asksNothing {m n : DSNetManager} (h : Pumped m n) : AsksNothing m n := by
  cases h with
  | clock => exact asksNothing_of_trace rfl
  | socket s => exact asksNothing_of_trace rfl
  | frame _ frame hmet => exact hmet.asksNothing
  | lost => exact asksNothing_connectionLost m
  | fail rawError => exact asksNothing_of_trace rfl
  | handshake => exact asksNothing_sendHandshake m

theorem Pumps.asksNothing {m n : DSNetManager} (h : Pumps m n) : AsksNothing m n := by
  induction h with
  | refl => exact asksNothing_of_trace rfl
  | tail _ hpumped ih => exact ih.trans hpumped.asksNothing

theorem pollQuery_trace (m : DSNetManager) (query : PendingQuery) :
    (m.pollQuery query).2.trace = m.trace :=
  pollQuery_kept (·.trace) (fun _ _ _ => rfl) (fun _ => rfl) m query

theorem pollFetch_trace (m : DSNetManager) (user : Bytes) (query : PendingQuery) :
    (m.pollFetch user query).2.trace = m.trace := by
  have hpoll := pollQuery_trace m query
  unfold pollFetch
  cases hanswer : (m.pollQuery query).1 with
  | waiting =>
    simp only [hanswer]
    exact hpoll
  | timedOut =>
    simp only [hanswer]
    exact hpoll
  | finished result =>
    simp only [hanswer]
    split_ifs
    · obtain ⟨presence, hframe⟩ :=
        rememberNickName_frame ((m.pollQuery query).2.setFetch user none) user
        result.resultString
      rw [hframe]
      exact hpoll
    · exact hpoll

theorem pollRandom_trace (m : DSNetManager) : m.pollRandom.2.trace = m.trace := by
  have hpoll := pollQuery_trace m m.myRandomUserQuery
  unfold pollRandom
  cases hanswer : (m.pollQuery m.myRandomUserQuery).1 with
  | _ =>
    simp only [hanswer]
    exact hpoll

theorem pollStatus_trace (m : DSNetManager) : m.pollStatus.2.trace = m.trace := by
  have hpoll := pollQuery_trace m m.myStatusQuery
  unfold pollStatus
  cases hanswer : (m.pollQuery m.myStatusQuery).1 with
  | _ =>
    simp only [hanswer]
    exact hpoll

theorem cancelStatus_trace (m : DSNetManager) : m.cancelStatus.trace = m.trace := by
  unfold cancelStatus
  split_ifs
  · exact abandonTransaction_trace m _
  · rfl

/-- A call that finds a record polls it. -/
theorem asksNothing_query (m : DSNetManager) (query : Query) (h : m.pending query.slot ≠ none) :
    AsksNothing m (m.query query).2 := by
  have hpump := (pumps_pump m).asksNothing
  cases query with
  | fetchUserData user =>
    simp only [DSNetManager.query, fetchUserData]
    split_ifs
    · cases hrecord : m.myPendingUserFetches user with
      | none => simp [Query.slot, pending, hrecord] at h
      | some query => exact hpump.trans (asksNothing_of_trace (pollFetch_trace m.pump user query))
    · exact asksNothing_of_trace rfl
  | dsFetchRandomUser =>
    have hrecord : m.myRandomUserQuery.ticket ≠ 0 :=
      fun hzero => h (by simp [Query.slot, pending, hzero])
    simp only [DSNetManager.query, dsFetchRandomUser]
    rw [if_neg hrecord]
    exact hpump.trans (asksNothing_of_trace (pollRandom_trace m.pump))
  | getStatus =>
    have hrecord : m.myStatusQuery.ticket ≠ 0 :=
      fun hzero => h (by simp [Query.slot, pending, hzero])
    simp only [DSNetManager.query, getStatus]
    split_ifs
    · exact hpump.trans (asksNothing_of_trace (pollStatus_trace m.pump))
    · exact asksNothing_of_trace (cancelStatus_trace m)

theorem requested_trace (m : DSNetManager) (slot : Slot) (clock : Stream' UInt32) (packet : Bytes)
    (hfit : packet.length < 4294967296) (hok : (m.requested slot clock packet).1 = true) :
    (m.requested slot clock packet).2.trace =
      m.trace ++ [Event.issued (ticketAfter m.myNextTicketNumber),
        .started (ticketAfter m.myNextTicketNumber) slot.kind,
          .wrote m.mySocket.os.connection packet] := by
  have hconnection := (m.mySocket.write_lies packet hfit hok).1
  have hstarted := startTransaction_trace m slot.kind slot.fixedExtra
  unfold requested at hok ⊢
  rw [socketWrite_ok _ packet hok, emit_trace, startTransaction_socket, hconnection, hstarted,
    List.append_assoc]
  rfl

/-- A request that can be written is asked, and remembered. -/
theorem startQuery_asks (m : DSNetManager) (slot : Slot) (request : Int32 → Bytes)
    (hfit : (request (ticketAfter m.myNextTicketNumber)).length < 4294967296)
    (hok : (m.mySocket.write (request (ticketAfter m.myNextTicketNumber))
      (sizeInt (request (ticketAfter m.myNextTicketNumber)))).1 = true) :
    ∃ query n, m.startQuery slot.kind slot.fixedExtra request = (some query, n) ∧
      n.trace = m.trace ++ [Event.issued (ticketAfter m.myNextTicketNumber),
        .started (ticketAfter m.myNextTicketNumber) slot.kind,
        .wrote m.mySocket.os.connection (request (ticketAfter m.myNextTicketNumber))] := by
  have hwritten : (m.requested slot m.clock.tail (request (ticketAfter m.myNextTicketNumber))).1 =
    true := hok
  rw [startQuery_requested, if_neg (not_not_intro hwritten)]
  exact ⟨_, _, rfl, requested_trace m slot _ _ hfit hwritten⟩

/-- A call that finds no record asks. -/
theorem query_asks (m : DSNetManager) (query : Query) (hvalid : query.Valid) (honline : m.Online)
    (hok : (m.mySocket.write (m.queryRequest query) (sizeInt (m.queryRequest query))).1 = true)
    (h : m.pending query.slot = none) :
    (m.query query).1 = true ∧ ∃ e ∈ since m (m.query query).2, query.AskedBy
    m.mySocket.os.connection e := by
  have hwritten : ∀ n : DSNetManager, n.trace = m.trace ++
      [Event.issued (ticketAfter m.myNextTicketNumber), .started (ticketAfter m.myNextTicketNumber)
        query.slot.kind, .wrote m.mySocket.os.connection (m.queryRequest query)] →
      ∃ e ∈ since m n, query.AskedBy m.mySocket.os.connection e := by
    intro n htrace
    refine ⟨.wrote m.mySocket.os.connection (m.queryRequest query), ?_, rfl,
      m.queryRequest_isRequest query⟩
    rw [since, htrace, List.drop_left]
    simp
  have hfit := m.queryRequest_length query
  cases query with
  | fetchUserData user =>
    have hid : (BabelUIN.fromString user).1 = true := hvalid
    have hrecord : m.myPendingUserFetches user = none := by simpa [Query.slot, pending] using h
    obtain ⟨record, n, hstart, htrace⟩ := startQuery_asks m (.fetch user)
      (buildGetClientInfo m.myServerUIN (BabelUIN.fromString user).2) hfit hok
    simp only [Slot.kind, Slot.fixedExtra] at hstart
    simp only [DSNetManager.query, fetchUserData]
    rw [if_neg (not_not_intro hid), hrecord]
    simp only [startFetch]
    rw [if_neg (not_not_intro honline), hstart]
    exact ⟨rfl, hwritten _ htrace⟩
  | dsFetchRandomUser =>
    have hrecord : m.myRandomUserQuery.ticket = 0 := by
      by_contra hsome
      simp [Query.slot, pending, hsome] at h
    obtain ⟨record, n, hstart, htrace⟩ := startQuery_asks m .random
      (buildFetchRandomUser m.myServerUIN m.myUserUIN) hfit hok
    simp only [Slot.kind, Slot.fixedExtra] at hstart
    simp only [DSNetManager.query, dsFetchRandomUser]
    rw [if_pos hrecord]
    simp only [startRandom]
    rw [if_neg (not_not_intro honline), hstart]
    exact ⟨rfl, hwritten _ htrace⟩
  | getStatus =>
    have hrecord : m.myStatusQuery.ticket = 0 := by
      by_contra hsome
      simp [Query.slot, pending, hsome] at h
    obtain ⟨record, n, hstart, htrace⟩ :=
      startQuery_asks m .status (buildGetStatus m.myServerUIN) hfit hok
    simp only [Slot.kind, Slot.fixedExtra] at hstart
    simp only [DSNetManager.query, getStatus]
    rw [if_neg (not_not_intro honline), if_pos hrecord]
    simp only [startStatus]
    rw [hstart]
    exact ⟨rfl, hwritten _ htrace⟩

end DSNetManager

open DSNetManager

/-- **A query is asked exactly when no record of it is left.** In every state of every run in which
the manager is online and the request can be written, whatever was asked on this connection or an
earlier one. -/
theorem query_asked_iff (os : SocketOS) (clock : Stream' UInt32) (disk : Disk) (ops : List Op)
    (query : Query) (hvalid : query.Valid) (honline : (ran os clock disk ops).Online)
    (hok : ((ran os clock disk ops).mySocket.write ((ran os clock disk ops).queryRequest query)
      (sizeInt ((ran os clock disk ops).queryRequest query))).1 = true) :
    (((ran os clock disk ops).query query).1 = true ∧
        ∃ e ∈ since (ran os clock disk ops) ((ran os clock disk ops).query query).2,
          query.AskedBy (ran os clock disk ops).mySocket.os.connection e) ↔
      (ran os clock disk ops).pending query.slot = none := by
  generalize ran os clock disk ops = m at *
  constructor
  · rintro ⟨_, hasked⟩
    by_contra hrecord
    exact (m.asksNothing_query query hrecord).since query _ hasked
  · exact m.query_asks query hvalid honline hok

/-- A client on its second connection that has made the given calls on its first. -/
def reconnected (ops : List Op) : DSNetManager :=
  ran (.scripted [[.data loginResponse], [.data loginResponse]] (List.replicate 8 (.took 54)))
    (.const 0) .blank
    ([.connectInBackground [], .connectInBackground []] ++ ops ++
      [.disconnect, .connectInBackground [], .connectInBackground []])

theorem query_asked_iff_reconnected :
    ((reconnected []).query .dsFetchRandomUser).1 = true ∧
      ∃ e ∈ since (reconnected []) ((reconnected []).query .dsFetchRandomUser).2,
        Query.dsFetchRandomUser.AskedBy (reconnected []).mySocket.os.connection e :=
  (query_asked_iff _ _ _ _ .dsFetchRandomUser trivial (by decide +kernel) (by decide +kernel)).mpr
    (by decide +kernel)

/-- What was asked on the first connection and not polled to its end keeps the second from
asking. -/
theorem query_not_asked :
    let m := reconnected [.fetchUserData (ascii "7+1"), .dsFetchRandomUser, .getStatus]
    ∀ query ∈ [Query.fetchUserData (ascii "7+1"), .dsFetchRandomUser, .getStatus],
      m.Online ∧ (∀ e ∈ m.trace, ¬ query.AskedBy m.mySocket.os.connection e) ∧
        (m.mySocket.write (m.queryRequest query) (sizeInt (m.queryRequest query))).1 = true ∧
        (m.query query).1 = false ∧ since m (m.query query).2 = [] := by
  decide +kernel

end NetNatsue
