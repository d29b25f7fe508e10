import NetNatsue.Manager.Calls

/-! What the calls are made of. Every call is a number of pieces, each of them one thing its code
does and told in full, so that whatever is said of calls is said of these. -/
namespace NetNatsue

/-- What a client that is logged in writes of itself, with the ids the login gave to the server and
to the client. Replies to circuit requests are not among these. -/
inductive Says (server user : BabelUIN) : Bytes → Prop
  | modify (add : Bool) (target : BabelUIN) : Says server user (buildWWRModify add server target)
  | clientInfo (target : BabelUIN) (ticket : Int32) :
    Says server user (buildGetClientInfo server target ticket)
  | connectionDetail (target : BabelUIN) (ticket : Int32) :
    Says server user (buildGetConnectionDetail server target ticket)
  | status (ticket : Int32) : Says server user (buildGetStatus server ticket)
  | randomUser (ticket : Int32) : Says server user (buildFetchRandomUser server user ticket)
  | history (ticket : Int32) (blob : Bytes) (size : Int32) :
    Says server user (buildFeedHistory server user ticket blob size)
  | message (target : BabelUIN) (payload : Bytes) (size : Int32) :
    Says server user (buildMessage server user target payload size)

/-- The name of an outbox file, as the scan lists it. -/
def WarpName (name : Bytes) : Prop := ∃ stem, stem ≠ [] ∧ name = stem ++ ascii ".warp"

namespace DSNetManager

/-- Start the transaction of a slot and write its request. -/
def requested (m : DSNetManager) (slot : Slot) (clock : Stream' UInt32) (packet : Bytes) :
    Bool × DSNetManager :=
  ({ (m.startTransaction slot.kind slot.fixedExtra).2
    with clock := clock } : DSNetManager).socketWrite
    packet

/-- Start a connection attempt that is to register the given users. -/
def attemptFor (m : DSNetManager) (users : List Bytes) : DSNetManager :=
  { m with myUsersForWWR := users }.startConnecting

end DSNetManager

/-- The type of the request a transaction is the answer to. -/
def TransactionKind.requestType : TransactionKind → Int32
  | .clientInfo => packetGetClientInfo
  | .connectionDetail => packetGetConnectionDetail
  | .status => packetGetStatus
  | .randomUser => packetDSFetchRandomUser
  | .feedHistory => packetDSFeedHistory
  | .abandoned => 0

/-- What is recorded of a query is the business of its own calls. -/
def Op.owns (op : Op) : Slot → Prop
  | .fetch user => op = .fetchUserData user
  | .random => op = .dsFetchRandomUser
  | .status => op = .getStatus
  | .wait _ => True

namespace DSNetManager

/-- The pieces of a call. -/
inductive Piece : Op → DSNetManager → DSNetManager → Prop
  | heeded (op : Op) (m n : DSNetManager) (h : Heeded m n) : Piece op m n
  | glance (op : Op) (m : DSNetManager) (d : Disk) (h : d.files = m.disk.files) :
    Piece op m (m.onDisk d)
  | configure (op : Op) (m : DSNetManager) (h : op.configures = true) : Piece op m (op.run m).2
  | attempt (m : DSNetManager) (users : List Bytes) (hoffline : ¬ m.Online)
    (hphase : m.myConnectPhase = .idle ∨ m.myConnectPhase = .failed ∨ m.myConnectPhase = .online) :
    Piece (.connectInBackground users) m
      ((m.attemptFor users).emit (.polled m.myConnectPhase false (m.attemptFor users).blocking))
  | poll (m : DSNetManager) (users : List Bytes) (found : ConnectPhase) (online block : Bool)
    (h : online = true ∨ found = .connecting ∨ found = .awaitHandshake) :
    Piece (.connectInBackground users) m (m.emit (.polled found online block))
  | hangUp (m : DSNetManager) : Piece .disconnect m m.disconnect
  | watch (m : DSNetManager) (user : Bytes) (hvalid : (BabelUIN.fromString user).1 = true)
    (h : m.Online → (m.myPendingWWRAdds user).isSome = true) :
    Piece (.addToWWR user) m (m.watch user)
  | enrol (m : DSNetManager) (user : Bytes) (hvalid : (BabelUIN.fromString user).1 = true)
    (honline : m.Online) (hnone : m.myPendingWWRAdds user = none) :
    Piece (.addToWWR user) m ((m.watch user).startAdd user (BabelUIN.fromString user).2).2
  | endAdd (m : DSNetManager) (user : Bytes) : Piece (.addToWWR user) m (m.endWWRAdd user)
  | added (m : DSNetManager) (user : Bytes) (block : Bool) (h : user ∈ m.myWWRMembers) :
    Piece (.addToWWR user) m (m.emit (.added user block))
  | remove (m : DSNetManager) (user : Bytes) : Piece (.removeFromWWR user) m (m.removeFromWWR user)
  | yield (m : DSNetManager) : Piece .nextChangedUserWWR m m.nextChangedUserWWR.2
  | collect (m : DSNetManager) : Piece .getMessages m m.collect.2
  | ask (op : Op) (m : DSNetManager) (slot : Slot) (clock : Stream' UInt32) (deadline : UInt32)
    (packet : Bytes) (honline : m.Online) (hfree : m.pending slot = none)
    (hpolls : ∀ kind, slot ≠ .wait kind) (hsaid : Says m.myServerUIN m.myUserUIN packet)
    (htype : (PacketHeader.read packet).type = slot.kind.requestType)
    (hok : (m.requested slot clock packet).1 = true) (howns : op.owns slot) :
    Piece op m ((m.requested slot clock packet).2.hold slot
      { ticket := ticketAfter m.myNextTicketNumber, deadline := deadline })
  | refuse (op : Op) (m : DSNetManager) (slot : Slot) (clock : Stream' UInt32) (packet : Bytes)
    (honline : m.Online) (hsaid : Says m.myServerUIN m.myUserUIN packet)
    (htype : (PacketHeader.read packet).type = slot.kind.requestType)
    (hok : (m.requested slot clock packet).1 = false) :
    Piece op m ((m.requested slot clock packet).2.abandonTransaction
      (ticketAfter m.myNextTicketNumber))
  | finish (op : Op) (m : DSNetManager) (slot : Slot) (ticket : Int32) (transaction : Transaction)
    (h : m.pending slot = some ticket) (hentry : m.myTransactions ticket = some transaction)
    (hdone : transaction.done = true) (howns : op.owns slot) :
    Piece op m ((m.setTransaction ticket none).release slot)
  | expire (op : Op) (m : DSNetManager) (slot : Slot) (ticket : Int32)
    (h : m.pending slot = some ticket) (howns : op.owns slot) :
    Piece op m ((m.abandonTransaction ticket).release slot)
  | drop (op : Op) (m : DSNetManager) (slot : Slot)
    (h : ∀ ticket, m.pending slot = some ticket → m.myTransactions ticket = none)
    (howns : op.owns slot) : Piece op m (m.release slot)
  | nickName (op : Op) (m : DSNetManager) (user name : Bytes) :
    Piece op m (m.rememberNickName user name)
  | send (op : Op) (m : DSNetManager) (user data : Bytes) (size : Int32) (honline : m.Online) :
    Piece op m (m.socketWrite (m.messagePacket user data size)).2
  | unqueue (m : DSNetManager) (message : QueuedMessage) (messages : List QueuedMessage)
    (h : m.myQueuedMessages = message :: messages) :
    Piece .tick m { m with myQueuedMessages := messages }
  | handOut (user : Bytes) (m : DSNetManager) (d : Disk) (h : d.files = m.disk.files) :
    Piece (.returnUniqueOutboxFilename user) m { m with disk := d, myOutboxDirty := true }
  | list (m : DSNetManager) (d : Disk) (next : UInt32) (h : d.files = m.disk.files) :
    Piece .scan m { m with disk := d, myOutboxDirty := false, myNextOutboxScan := next }
  | setAside (m : DSNetManager) (name : Bytes) (hsome : m.myOutboxDirectory ≠ [])
    (h : WarpName name) :
    Piece .scan m (m.setAside (m.myOutboxDirectory ++ name))
  | post (m n : DSNetManager) (name user data packet : Bytes) (size : Int32)
    (hsome : m.myOutboxDirectory ≠ [])
    (h : WarpName name) (honline : m.Online) (hpacket : packet = m.messagePacket user data size)
    (hwritten : m.socketWrite packet = (true, n)) :
    Piece .scan m ((n.onDisk (n.disk.remove (m.myOutboxDirectory ++ name))).emit
      (.posted (m.myOutboxDirectory ++ name) m.mySocket.os.connection
        m.mySocket.line.length packet))

abbrev Pieces (op : Op) : DSNetManager → DSNetManager → Prop := Relation.ReflTransGen (Piece op)

/-- A command that waits has written its request. -/
inductive Awaits (op : Op) (m : DSNetManager) : DSNetManager → Prop
  | ask (kind : TransactionKind) (packet : Bytes) (hop : op.waits = true) (honline : m.Online)
    (hsaid : Says m.myServerUIN m.myUserUIN packet)
    (htype : (PacketHeader.read packet).type = kind.requestType)
    (hok : (m.requested (.wait kind) m.clock packet).1 = true) :
    Awaits op m ((m.requested (.wait kind) m.clock packet).2.hold (.wait kind)
      { ticket := ticketAfter m.myNextTicketNumber, deadline := 0 })

/-- A call is made of pieces, behind a request if it waits for the answer. -/
def Made (op : Op) (m n : DSNetManager) : Prop := Pieces op m n ∨ ∃ k, Awaits op m k ∧ Pieces op k n

theorem Heeds.pieces {m n : DSNetManager} (h : Heeds m n) (op : Op) : Pieces op m n :=
  Relation.ReflTransGen.mono (fun m n hm => Piece.heeded op m n hm) m n h

theorem pieces_pump (op : Op) (m : DSNetManager) : Pieces op m m.pump := (heeds_pump m).pieces op

theorem pieces_nowMs (op : Op) (m : DSNetManager) : Pieces op m m.nowMs.2 :=
  .single (.heeded op m _ (.clock m))

theorem piece_lost (op : Op) (m : DSNetManager) : Piece op m m.connectionLost :=
  .heeded op m _ (.lost m)

theorem pump_pending (m : DSNetManager) (slot : Slot) : m.pump.pending slot = m.pending slot :=
  (hears_pump m).slot_eq slot

theorem pieces_connectInBackground (m : DSNetManager) (users : List Bytes) :
    Pieces (.connectInBackground users) m (m.connectInBackground users).2 := by
  unfold connectInBackground
  split_ifs with honline hidle
  · exact .single (.poll m users _ _ _ (Or.inl rfl))
  · exact .single (.attempt m users honline hidle)
  · refine ((heeds_pumpConnectPhase m).pieces _).tail (.poll _ users _ _ _ (Or.inr ?_))
    cases hphase : m.myConnectPhase <;> simp [hphase] at hidle ⊢

theorem startQuery_requested (m : DSNetManager) (slot : Slot) (request : Int32 → Bytes) :
    m.startQuery slot.kind slot.fixedExtra request =
      if ¬ (m.requested slot m.clock.tail (request (ticketAfter m.myNextTicketNumber))).1 then
        (none, (m.requested slot m.clock.tail
          (request (ticketAfter m.myNextTicketNumber))).2.abandonTransaction
            (ticketAfter m.myNextTicketNumber))
      else
        (some
          { ticket := ticketAfter m.myNextTicketNumber
            deadline := deadlineIn m.clock.head queryTimeoutMs },
          (m.requested slot m.clock.tail (request (ticketAfter m.myNextTicketNumber))).2) := rfl

/-- A request is written, or refused by the socket. -/
theorem pieces_startQuery (op : Op) (m : DSNetManager) (slot : Slot) (request : Int32 → Bytes)
    (honline : m.Online) (hfree : m.pending slot = none) (hpolls : ∀ kind, slot ≠ .wait kind)
    (hsaid : ∀ ticket, Says m.myServerUIN m.myUserUIN (request ticket))
    (htype : ∀ ticket, (PacketHeader.read (request ticket)).type = slot.kind.requestType)
    (howns : op.owns slot) :
    ((m.startQuery slot.kind slot.fixedExtra request).1 = none ∧
      Pieces op m (m.startQuery slot.kind slot.fixedExtra request).2) ∨
    ∃ query, (m.startQuery slot.kind slot.fixedExtra request).1 = some query ∧
      Pieces op m ((m.startQuery slot.kind slot.fixedExtra request).2.hold slot query) := by
  rw [startQuery_requested]
  by_cases hok : (m.requested slot m.clock.tail (request (ticketAfter m.myNextTicketNumber))).1
  · rw [if_neg (not_not_intro hok)]
    exact Or.inr ⟨_, rfl, .single
      (.ask op m slot _ _ _ honline hfree hpolls (hsaid _) (htype _) hok howns)⟩
  · rw [if_pos hok]
    exact Or.inl ⟨rfl, .single
      (.refuse op m slot _ _ honline (hsaid _) (htype _) (Bool.eq_false_iff.mpr hok))⟩

/-- A poll that does not keep waiting empties the slot. -/
theorem pieces_pollQuery (op : Op) (m : DSNetManager) (slot : Slot) (query : PendingQuery)
    (h : m.pending slot = some query.ticket) (howns : op.owns slot) :
    match (m.pollQuery query).1 with
    | .waiting => Pieces op m (m.pollQuery query).2
    | _ => Pieces op m ((m.pollQuery query).2.release slot) := by
  have hnow : Pieces op m m.nowMs.2 := pieces_nowMs op m
  cases hentry : m.myTransactions query.ticket with
  | none =>
    simp only [pollQuery, pollTransaction_dropped m _ hentry]
    refine .single (.drop op m slot (fun ticket hticket => ?_) howns)
    rw [h] at hticket
    injection hticket with hticket
    rwa [← hticket]
  | some transaction =>
    cases hdone : transaction.done with
    | true =>
      simp only [pollQuery, pollTransaction_done m _ _ hentry hdone]
      exact .single (.finish op m slot _ transaction h hentry hdone howns)
    | false =>
      simp only [pollQuery, pollTransaction_pending m _ _ hentry hdone]
      by_cases hlate : timeAfter m.nowMs.1 query.deadline
      · simp only [hlate, ↓reduceIte]
        exact hnow.tail (.expire op m.nowMs.2 slot _ h howns)
      · simp only [hlate, ↓reduceIte, Bool.false_eq_true]
        exact hnow

theorem requested_pending (m : DSNetManager) (slot : Slot) (clock : Stream' UInt32) (packet : Bytes)
    (other : Slot) : (m.requested slot clock packet).2.pending other = m.pending other := by
  have hstart : ({ (m.startTransaction slot.kind slot.fixedExtra).2
    with clock := clock } : DSNetManager).pending
      other = m.pending other := by
    cases other <;> simp only [pending] <;> rfl
  rw [← hstart]
  exact (hears_socketWrite _ packet).slot_eq other

theorem abandonTransaction_pending (m : DSNetManager) (ticket : Int32) (slot : Slot) :
    (m.abandonTransaction ticket).pending slot = m.pending slot :=
  abandonTransaction_kept (·.pending slot) (fun _ _ _ => by cases slot <;> rfl) m ticket

theorem requested_waiting (m : DSNetManager) (slot : Slot) (clock : Stream' UInt32)
    (packet : Bytes) :
    (m.requested slot clock packet).2.waiting = m.waiting := by
  simp only [requested, socketWrite]
  split_ifs <;> rfl

theorem abandonTransaction_waiting (m : DSNetManager) (ticket : Int32) :
    (m.abandonTransaction ticket).waiting = m.waiting :=
  abandonTransaction_kept (·.waiting) (fun _ _ _ => rfl) m ticket

theorem startQuery_pending (m : DSNetManager) (slot : Slot) (request : Int32 → Bytes)
    (other : Slot) :
    (m.startQuery slot.kind slot.fixedExtra request).2.pending other = m.pending other := by
  rw [startQuery_requested]
  split_ifs
  · exact requested_pending m slot _ _ other
  · rw [abandonTransaction_pending, requested_pending]

theorem pieces_startFetch (m : DSNetManager) (user : Bytes) (uin : BabelUIN)
    (hfree : m.myPendingUserFetches user = none) :
    Pieces (.fetchUserData user) m (m.startFetch user uin).2 := by
  unfold startFetch
  split_ifs with honline
  · rcases pieces_startQuery (.fetchUserData user) m (.fetch user)
        (buildGetClientInfo m.myServerUIN uin) honline (by simp [pending, hfree])
        (fun _ => Slot.noConfusion) (fun _ => .clientInfo _ _)
        (fun _ => by simp [buildGetClientInfo, Slot.kind, TransactionKind.requestType]) rfl with
      ⟨hnone, hpieces⟩ | ⟨query, hsome, hpieces⟩
    · simp only [Slot.kind, Slot.fixedExtra] at hnone hpieces
      simp only [hnone]
      exact hpieces
    · simp only [Slot.kind, Slot.fixedExtra, hold] at hsome hpieces
      simp only [hsome]
      exact hpieces
  · exact .refl

theorem pieces_pollFetch (m : DSNetManager) (user : Bytes) (query : PendingQuery)
    (h : m.myPendingUserFetches user = some query) :
    Pieces (.fetchUserData user) m (m.pollFetch user query).2 := by
  have hpoll :=
    pieces_pollQuery (.fetchUserData user) m (.fetch user) query (by simp [pending, h]) rfl
  unfold pollFetch
  cases hanswer : (m.pollQuery query).1 with
  | waiting =>
    simp only [hanswer] at hpoll ⊢
    exact hpoll
  | timedOut =>
    simp only [hanswer] at hpoll ⊢
    exact hpoll
  | finished result =>
    simp only [hanswer] at hpoll ⊢
    split_ifs
    · exact hpoll.tail (.nickName _ _ user result.resultString)
    · exact hpoll

theorem pieces_fetchUserData (m : DSNetManager) (user : Bytes) :
    Pieces (.fetchUserData user) m (m.fetchUserData user).2 := by
  unfold fetchUserData
  simp only
  split_ifs
  · cases hquery : m.myPendingUserFetches user with
    | none => exact pieces_startFetch m user _ hquery
    | some query =>
      refine (pieces_pump _ m).trans (pieces_pollFetch m.pump user query ?_)
      rw [(hears_pump m).pending_eq.1, hquery]
  · exact .refl

/-- Emptying a slot that holds nothing. -/
theorem pieces_release (op : Op) (m : DSNetManager) (slot : Slot) (h : m.pending slot = none)
    (howns : op.owns slot) : Pieces op m (m.release slot) :=
  .single (.drop op m slot (fun ticket hticket => by rw [h] at hticket; cases hticket) howns)

theorem pieces_startRandom (m : DSNetManager) (hfree : m.myRandomUserQuery.ticket = 0) :
    Pieces .dsFetchRandomUser m m.startRandom.2 := by
  unfold startRandom
  split_ifs with honline
  · have hidle : m.pending .random = none := by simp [pending, hfree]
    rcases pieces_startQuery .dsFetchRandomUser m .random
        (buildFetchRandomUser m.myServerUIN m.myUserUIN) honline hidle (fun _ => Slot.noConfusion)
        (fun _ => .randomUser _)
        (fun _ => by simp [buildFetchRandomUser, Slot.kind, TransactionKind.requestType]) rfl with
      ⟨hnone, hpieces⟩ | ⟨query, hsome, hpieces⟩
    · have hpending : (m.startQuery .randomUser noExtra
          (buildFetchRandomUser m.myServerUIN m.myUserUIN)).2.pending .random = none :=
        (startQuery_pending m .random _ .random).trans hidle
      simp only [Slot.kind, Slot.fixedExtra] at hnone hpieces
      simp only [hnone]
      exact hpieces.trans (pieces_release _ _ .random hpending rfl)
    · simp only [Slot.kind, Slot.fixedExtra, hold] at hsome hpieces
      simp only [hsome]
      exact hpieces
  · exact .refl

theorem pieces_pollRandom (m : DSNetManager) (h : m.myRandomUserQuery.ticket ≠ 0) :
    Pieces .dsFetchRandomUser m m.pollRandom.2 := by
  have hpoll :=
    pieces_pollQuery .dsFetchRandomUser m .random m.myRandomUserQuery (by simp [pending, h]) rfl
  unfold pollRandom
  cases hanswer : (m.pollQuery m.myRandomUserQuery).1 with
  | waiting =>
    simp only [hanswer] at hpoll ⊢
    exact hpoll
  | timedOut =>
    simp only [hanswer] at hpoll ⊢
    exact hpoll
  | finished result =>
    simp only [hanswer] at hpoll ⊢
    exact hpoll

theorem pieces_dsFetchRandomUser (m : DSNetManager) :
    Pieces .dsFetchRandomUser m m.dsFetchRandomUser.2 := by
  unfold dsFetchRandomUser
  split_ifs with hidle
  · exact pieces_startRandom m hidle
  · refine (pieces_pump _ m).trans (pieces_pollRandom m.pump ?_)
    rwa [(hears_pump m).pending_eq.2.1]

theorem pieces_startStatus (m : DSNetManager) (honline : m.Online)
    (hfree : m.myStatusQuery.ticket = 0) : Pieces .getStatus m m.startStatus.2 := by
  have hidle : m.pending .status = none := by simp [pending, hfree]
  unfold startStatus
  rcases pieces_startQuery .getStatus m .status (buildGetStatus m.myServerUIN) honline hidle
      (fun _ => Slot.noConfusion) (fun _ => .status _)
      (fun _ => by simp [buildGetStatus, Slot.kind, TransactionKind.requestType]) rfl with
    ⟨hnone, hpieces⟩ | ⟨query, hsome, hpieces⟩
  · have hpending : (m.startQuery .status statusExtra (buildGetStatus m.myServerUIN)).2.pending
        .status = none := (startQuery_pending m .status _ .status).trans hidle
    simp only [Slot.kind, Slot.fixedExtra] at hnone hpieces
    simp only [hnone]
    exact hpieces.trans (pieces_release _ _ .status hpending rfl)
  · simp only [Slot.kind, Slot.fixedExtra, hold] at hsome hpieces
    simp only [hsome]
    exact hpieces

theorem pieces_pollStatus (m : DSNetManager) (h : m.myStatusQuery.ticket ≠ 0) :
    Pieces .getStatus m m.pollStatus.2 := by
  have hpoll := pieces_pollQuery .getStatus m .status m.myStatusQuery (by simp [pending, h]) rfl
  unfold pollStatus
  cases hanswer : (m.pollQuery m.myStatusQuery).1 with
  | waiting =>
    simp only [hanswer] at hpoll ⊢
    exact hpoll
  | timedOut =>
    simp only [hanswer] at hpoll ⊢
    exact hpoll.trans (pieces_nowMs _ _)
  | finished result =>
    simp only [hanswer] at hpoll ⊢
    exact hpoll.trans (pieces_nowMs _ _)

theorem pieces_cancelStatus (m : DSNetManager) : Pieces .getStatus m m.cancelStatus := by
  unfold cancelStatus
  split_ifs with hpending
  · exact .single (.expire _ m .status _ (by simp [pending, hpending]) rfl)
  · exact .refl

theorem pieces_getStatus (m : DSNetManager) : Pieces .getStatus m m.getStatus.2 := by
  unfold getStatus
  split_ifs with honline hidle
  · exact pieces_startStatus m honline hidle
  · refine (pieces_pump _ m).trans (pieces_pollStatus m.pump ?_)
    rwa [(hears_pump m).pending_eq.2.2.1]
  · exact pieces_cancelStatus m

theorem pieces_waitLoop (op : Op) (kind : TransactionKind) (ticket : Int32)
    (deadline : UInt32) (fuel : ℕ)
    (m : DSNetManager) (honline : m.Online) (h : m.waiting = some (kind, ticket)) :
    Pieces op m (waitLoop ticket deadline fuel m).2 := by
  induction fuel generalizing m with
  | zero => exact .refl
  | succ fuel ih =>
    have hpump := pieces_pump op m
    have hwaiting : m.pump.waiting = some (kind, ticket) := by
      rw [(hears_pump m).pending_eq.2.2.2, h]
    have hslot : m.pump.pending (.wait kind) = some ticket := by simp [pending, hwaiting]
    have hnow : Pieces op m m.pump.nowMs.2 := hpump.trans (pieces_nowMs op m.pump)
    cases hentry : m.pump.myTransactions ticket with
    | none =>
      simp only [waitLoop, pollTransaction_dropped _ _ hentry]
      refine hpump.tail (.drop op m.pump (.wait kind) (fun other hother => ?_) trivial)
      rw [hslot] at hother
      injection hother with hother
      rwa [← hother]
    | some transaction =>
      cases hdone : transaction.done with
      | true =>
        simp only [waitLoop, pollTransaction_done _ _ _ hentry hdone]
        exact hpump.tail
          (.finish op m.pump (.wait kind) ticket transaction hslot hentry hdone trivial)
      | false =>
        -- an entry that is still there means that the connection is, too
        have honline' : m.pump.Online := by
          rcases pump_online m honline with honline' | hnone
          · exact honline'
          · rw [hnone] at hentry
            cases hentry
        simp only [waitLoop, pollTransaction_pending _ _ _ hentry hdone]
        rw [if_neg (not_not_intro honline')]
        split_ifs
        · exact hnow.tail (.expire op m.pump.nowMs.2 (.wait kind) ticket hslot trivial)
        · exact hnow.trans (ih m.pump.nowMs.2 honline' hwaiting)

theorem waitLoop_idle (ticket : Int32) (deadline : UInt32) (fuel : ℕ) (m : DSNetManager)
    (h : (waitLoop ticket deadline fuel m).1.isSome = true) :
    (waitLoop ticket deadline fuel m).2.waiting = none := by
  induction fuel generalizing m with
  | zero => cases h
  | succ fuel ih =>
    simp only [waitLoop] at h ⊢
    cases hanswer : (m.pump.pollTransaction ticket).1 with
    | some result => rfl
    | none =>
      simp only [hanswer] at h ⊢
      split_ifs at h ⊢
      · rfl
      · exact ih _ h
      · rfl

/-- A client that writes stays online when the packet fits. -/
theorem online_socketWrite (m : DSNetManager) (packet : Bytes) (hfit : packet.length < 4294967296)
    (honline : m.Online) (hok : (m.socketWrite packet).1 = true) :
    (m.socketWrite packet).2.Online := by
  simp only [socketWrite] at hok ⊢
  rw [if_pos hok]
  exact ⟨honline.1, (m.mySocket.write_lies packet hfit hok).2.1⟩

theorem pieces_waitForTransaction (op : Op) (m : DSNetManager) (fuel : ℕ) (kind : TransactionKind)
    (ticket : Int32) (timeoutMs : UInt32) (honline : m.Online) :
    Pieces op (m.setWaiting (some (kind, ticket))) (m.waitForTransaction fuel kind ticket
      timeoutMs).2 :=
  (pieces_nowMs op _).trans (pieces_waitLoop op kind ticket _ fuel _ honline rfl)

/-- A command that waits asks first, or is refused by the socket. -/
theorem made_waitingQuery (op : Op) (m : DSNetManager) (fuel : ℕ) (kind : TransactionKind)
    (timeoutMs : UInt32) (packet : Bytes) (hop : op.waits = true) (honline : m.Online)
    (hsaid : Says m.myServerUIN m.myUserUIN packet)
    (htype : (PacketHeader.read packet).type = kind.requestType)
    (hfit : packet.length < 4294967296) :
    (((m.startTransaction kind noExtra).2.socketWrite packet).1 = true →
      Made op m (((m.startTransaction kind noExtra).2.socketWrite packet).2.waitForTransaction fuel
        kind
        (m.startTransaction kind noExtra).1 timeoutMs).2) ∧
    (((m.startTransaction kind noExtra).2.socketWrite packet).1 = false →
      Piece op m (((m.startTransaction kind noExtra).2.socketWrite packet).2.abandonTransaction
        (m.startTransaction kind noExtra).1)) := by
  constructor
  · intro hok
    have hwritten := online_socketWrite (m.startTransaction kind noExtra).2 packet hfit honline hok
    exact Or.inr ⟨_, .ask kind packet hop honline hsaid htype hok,
      pieces_waitForTransaction op _ fuel kind _ timeoutMs hwritten⟩
  · intro hfailed
    exact .refuse op m (.wait kind) m.clock packet honline hsaid htype hfailed

theorem made_isUserOnline (op : Op) (hop : op.waits = true) (m : DSNetManager) (fuel : ℕ)
    (user : Bytes) :
    Made op m (m.isUserOnline fuel user).2 := by
  unfold isUserOnline
  simp only
  split_ifs with _ honline
  · exact Or.inl .refl
  · cases m.myPresence user with
    | some presence => exact Or.inl .refl
    | none =>
      obtain ⟨hask, hrefuse⟩ := made_waitingQuery op m fuel .connectionDetail userOnlineTimeoutMs
        (buildGetConnectionDetail m.myServerUIN (BabelUIN.fromString user).2
          (m.startTransaction .connectionDetail noExtra).1) hop honline (.connectionDetail _ _)
        (by simp [buildGetConnectionDetail, TransactionKind.requestType])
        (by simp [buildGetConnectionDetail, packetHeaderSize])
      simp only [askUserOnline]
      split_ifs with hok
      · exact hask hok
      · exact Or.inl (.single (hrefuse (Bool.eq_false_iff.mpr hok)))
  · exact Or.inl .refl
  · exact Or.inl .refl

theorem made_dsFeedHistory (op : Op) (hop : op.waits = true) (m : DSNetManager) (fuel : ℕ)
    (data : Option Bytes) (size : Int32) : Made op m (m.dsFeedHistory fuel data size).2 := by
  unfold dsFeedHistory
  cases data with
  | none => exact Or.inl .refl
  | some bytes =>
    simp only
    by_cases hrefused : ¬ m.Online ∨ size ≤ 0
    · rw [if_pos hrefused]
      exact Or.inl .refl
    · rw [if_neg hrefused]
      have honline : m.Online := by tauto
      obtain ⟨hask, hrefuse⟩ := made_waitingQuery op m fuel .feedHistory historyTimeoutMs
        (buildFeedHistory m.myServerUIN m.myUserUIN (m.startTransaction .feedHistory noExtra).1
          bytes size) hop
        honline (.history _ _ _) (by simp [buildFeedHistory, TransactionKind.requestType])
        (buildFeedHistory_length _ _ _ _ _)
      split_ifs with hok
      · exact hask hok
      · exact Or.inl (.tail (.single (hrefuse (Bool.eq_false_iff.mpr hok))) (piece_lost op _))

theorem pieces_pollAdd (m : DSNetManager) (user : Bytes) :
    Pieces (.addToWWR user) m (m.pollAdd user).2 := by
  have hnow := pieces_nowMs (.addToWWR user) m
  unfold pollAdd
  cases m.myPendingWWRAdds user with
  | none => exact .refl
  | some deadline =>
    simp only
    split_ifs
    · exact hnow.tail (.endAdd _ user)
    · exact hnow

theorem addUser_members (m : DSNetManager) (user : Bytes) (uin : BabelUIN) :
    m.myWWRMembers ⊆ (m.addUser user uin).2.myWWRMembers := by
  have hwrite := (hears_socketWrite m (buildWWRModify true m.myServerUIN uin)).members_subset
  unfold addUser
  split_ifs
  · cases m.myPendingWWRAdds user with
    | none =>
      simp only [startAdd]
      split_ifs <;> exact hwrite
    | some deadline =>
      have hpump := (hears_pump m).members_subset
      simp only [pollAdd]
      cases m.pump.myPendingWWRAdds user with
      | none => exact hpump
      | some deadline =>
        simp only
        split_ifs <;> exact hpump
  · exact subset_rfl

/-- The user is enrolled at once, or watched before anything else happens. -/
theorem pieces_addUser (m : DSNetManager) (user : Bytes)
    (hvalid : (BabelUIN.fromString user).1 = true) :
    Pieces (.addToWWR user) m ((m.watch user).addUser user (BabelUIN.fromString user).2).2 := by
  unfold addUser
  split_ifs with honline
  · cases hpending : (m.watch user).myPendingWWRAdds user with
    | none => exact .single (.enrol m user hvalid honline hpending)
    | some deadline =>
      have hwatch : Pieces (.addToWWR user) m (m.watch user) :=
        .single (.watch m user hvalid fun _ => by
          rw [show m.myPendingWWRAdds user = some deadline from hpending]
          rfl)
      exact (hwatch.trans (pieces_pump _ _)).trans (pieces_pollAdd _ user)
  · exact .single (.watch m user hvalid fun h => absurd h honline)

theorem pieces_addToWWR (m : DSNetManager) (user : Bytes) :
    Pieces (.addToWWR user) m (m.addToWWR user).2 := by
  simp only [addToWWR]
  split_ifs with hvalid
  · have hmember : user ∈ (m.watch user).myWWRMembers := Finset.mem_insert_self _ _
    exact (pieces_addUser m user hvalid).tail (.added _ user _ (addUser_members _ user _ hmember))
  · exact .refl

theorem pieces_postDirectMessage (op : Op) (m : DSNetManager) (user data : Bytes) (size : Int32) :
    Pieces op m (m.postDirectMessage user data size).2 := by
  simp only [postDirectMessage]
  split_ifs with _ hrefused
  · exact .refl
  · have honline : m.Online := by tauto
    exact .single (.send op m user data size honline)
  · have honline : m.Online := by tauto
    exact .tail (.single (.send op m user data size honline)) (piece_lost op _)
  · exact .refl

theorem pieces_getMessages (m : DSNetManager) : Pieces .getMessages m m.getMessages.2 :=
  (pieces_pump _ m).tail (.collect m.pump)

theorem pieces_tick (m : DSNetManager) :
    Pieces .tick m (m.pump.processQueuedMessages fun _ n => n) := by
  have hpump := pieces_pump .tick m
  unfold processQueuedMessages
  cases hqueue : m.pump.myQueuedMessages with
  | nil => exact hpump
  | cons message messages => exact hpump.tail (.unqueue _ message messages hqueue)

theorem pieces_returnUniqueOutboxFilename (m : DSNetManager) (user : Bytes) :
    Pieces (.returnUniqueOutboxFilename user) m (m.returnUniqueOutboxFilename user).2 := by
  simp only [returnUniqueOutboxFilename]
  split_ifs
  · exact .refl
  · cases freeSpoolPath m.disk.time.2 m.myOutboxDirectory (BabelUIN.fromString user).2 serialCount
      m.disk.time.1 with
    | none => exact .single (.glance _ m m.disk.time.2 rfl)
    | some path => exact .single (.handOut user m m.disk.time.2 rfl)
  · exact .refl

theorem warpName_listed (d : Disk) (name : Bytes)
    (h : name ∈ (d.listFilesWithExtension (ascii ".warp")).1) :
    WarpName name := by
  simp only [Disk.listFilesWithExtension, List.mem_filter, decide_eq_true_eq] at h
  obtain ⟨_, hlong, hend⟩ := h
  refine ⟨name.take (name.length - (ascii ".warp").length), ?_, ?_⟩
  · apply List.ne_nil_of_length_pos
    rw [List.length_take]
    omega
  · have hsplit := List.take_append_drop (name.length - (ascii ".warp").length) name
    rw [hend] at hsplit
    exact hsplit.symm

/-- A message that is posted has been written, and nothing else. -/
theorem postDirectMessage_posted (m : DSNetManager) (user data : Bytes) (size : Int32)
    (h : (m.postDirectMessage user data size).1 = true) :
    m.Online ∧ m.socketWrite (m.messagePacket user data size) =
      (true, (m.postDirectMessage user data size).2) := by
  simp only [postDirectMessage] at h ⊢
  split_ifs at h ⊢ with _ hrefused hok
  exact ⟨by tauto, Prod.ext hok rfl⟩

theorem socketWrite_outbox (m : DSNetManager) (packet : Bytes) :
    (m.socketWrite packet).2.myOutboxDirectory = m.myOutboxDirectory := by
  simp only [socketWrite]
  split_ifs <;> rfl

theorem pieces_postFile (m : DSNetManager) (name target payload : Bytes)
    (hsome : m.myOutboxDirectory ≠ []) (hname : WarpName name) :
    Pieces .scan m (m.postFile (m.myOutboxDirectory ++ name) target payload).2 ∧
      ((m.postFile (m.myOutboxDirectory ++ name) target payload).1 = true →
        (m.postFile (m.myOutboxDirectory ++ name) target payload).2.myOutboxDirectory =
        m.myOutboxDirectory) := by
  have hpost := postDirectMessage_posted m target payload (sizeInt payload)
  have hpieces := pieces_postDirectMessage .scan m target payload (sizeInt payload)
  have houtbox := socketWrite_outbox m (m.messagePacket target payload (sizeInt payload))
  simp only [postFile]
  split_ifs with hok
  · obtain ⟨honline, hwritten⟩ := hpost hok
    rw [hwritten] at houtbox
    exact ⟨.single (.post m _ name target payload _ _ hsome hname honline rfl hwritten),
      fun _ => houtbox⟩
  · exact ⟨hpieces, fun h => absurd h hok⟩

theorem pieces_sendOutboxFile (m : DSNetManager) (name : Bytes) (hsome : m.myOutboxDirectory ≠ [])
    (hname : WarpName name) :
    Pieces .scan m (m.sendOutboxFile (m.myOutboxDirectory ++ name)).2 ∧
      ((m.sendOutboxFile (m.myOutboxDirectory ++ name)).1 = true →
        (m.sendOutboxFile (m.myOutboxDirectory ++ name)).2.myOutboxDirectory =
        m.myOutboxDirectory) := by
  have hread : Pieces .scan m
      { m with disk := (m.disk.readWholeFile (m.myOutboxDirectory ++ name)).2 } :=
    .single (.glance _ m _ rfl)
  simp only [sendOutboxFile]
  split_ifs
  · exact ⟨.single (.setAside m name hsome hname), fun _ => rfl⟩
  · cases (m.disk.readWholeFile (m.myOutboxDirectory ++ name)).1 with
    | none => exact ⟨hread, fun _ => rfl⟩
    | some contents =>
      obtain ⟨hpieces, houtbox⟩ := pieces_postFile
        { m with disk := (m.disk.readWholeFile (m.myOutboxDirectory ++ name)).2 } name
          _ _ hsome hname
      exact ⟨hread.trans hpieces, houtbox⟩

theorem pieces_sendOutboxFiles (names : List Bytes) (m : DSNetManager)
    (hsome : m.myOutboxDirectory ≠ [])
    (hnames : ∀ name ∈ names, WarpName name) : Pieces .scan m (sendOutboxFiles names m) := by
  induction names generalizing m with
  | nil => exact .refl
  | cons name names ih =>
    obtain ⟨hfile, houtbox⟩ := pieces_sendOutboxFile m name hsome (hnames name List.mem_cons_self)
    simp only [sendOutboxFiles]
    split_ifs with _ hgone
    · exact hfile.trans (ih _ (by rwa [houtbox hgone]) fun other hother =>
        hnames other (List.mem_cons_of_mem _ hother))
    · exact hfile
    · exact .refl

theorem pieces_scanIfOnline (m : DSNetManager) : Pieces .scan m m.scanIfOnline := by
  have hnow := pieces_nowMs .scan m
  by_cases hscans : m.Scans
  · have hlist :=
      hnow.tail (.list m.nowMs.2 (m.nowMs.2.disk.listFilesWithExtension (ascii ".warp")).2
      (deadlineIn m.clock.head outboxRescanMs) rfl)
    rw [scanIfOnline_scans hscans]
    exact hlist.trans (pieces_sendOutboxFiles _ _ hscans.2.1 (warpName_listed m.nowMs.2.disk))
  · rcases scanIfOnline_passes hscans with hscan | hscan <;> rw [hscan]
    exact hnow

end DSNetManager

open DSNetManager

/-- **Every call is made of pieces.** -/
theorem Op.made_run (m : DSNetManager) (op : Op) : Made op m (op.run m).2 := by
  cases op with
  | connectInBackground users => exact Or.inl (pieces_connectInBackground m users)
  | disconnect => exact Or.inl (.single (.hangUp m))
  | tick => exact Or.inl (pieces_tick m)
  | scan => exact Or.inl (pieces_scanIfOnline m)
  | isUserOnline fuel user => exact made_isUserOnline _ rfl m fuel user
  | addToWWR user => exact Or.inl (pieces_addToWWR m user)
  | removeFromWWR user => exact Or.inl (.single (.remove m user))
  | nextChangedUserWWR => exact Or.inl (.single (.yield m))
  | fetchUserData user => exact Or.inl (pieces_fetchUserData m user)
  | dsFetchRandomUser => exact Or.inl (pieces_dsFetchRandomUser m)
  | getStatus => exact Or.inl (pieces_getStatus m)
  | postDirectMessage user data size => exact Or.inl (pieces_postDirectMessage _ m user data size)
  | getMessages => exact Or.inl (pieces_getMessages m)
  | returnUniqueOutboxFilename user => exact Or.inl (pieces_returnUniqueOutboxFilename m user)
  | dsFeedHistory fuel data size => exact made_dsFeedHistory _ rfl m fuel data size
  | _ => exact Or.inl (.single (.configure _ m rfl))

end NetNatsue
