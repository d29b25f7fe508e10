import NetNatsue.Manager.Enrolment

/-! Messages on their way to the engine, and circuits on their way to being accepted. -/
namespace NetNatsue

/-- The message a received packet brings. -/
def Event.brings : Event → Option PackedMessage
  | .packet _ header frame =>
    if ServerPacket.ofType header.type = some .message then
      parsePackedBabelMessage (frame.drop packetHeaderSize) (sizeInt frame - 32)
    else none
  | _ => none

/-- The circuit a received packet asks for. -/
def Event.calls : Event → Option PacketHeader
  | .packet _ header _ =>
    if ServerPacket.ofType header.type = some .virtualConnect then some header else none
  | _ => none

/-- A packet that accepts a circuit. -/
def Event.accepts : Event → Option Bytes
  | .wrote _ data => if (PacketHeader.read data).type = packetClientCommand then some data else none
  | _ => none

def Event.spools : Event → Option (BabelUIN × Bytes)
  | .spooled _ sender payload => some (sender, payload)
  | _ => none

def Event.collects : Event → List IncomingMessage
  | .collected messages => messages
  | _ => []

/-- Events that are about neither messages nor circuits. -/
structure Event.Mute (e : Event) : Prop where
  brings : e.brings = none
  calls : e.calls = none
  accepts : e.accepts = none
  spools : e.spools = none
  collects : e.collects = []

theorem mute_packet (phase : ConnectPhase) (header : PacketHeader) (frame : Bytes)
    (hmessage : ServerPacket.ofType header.type ≠ some .message)
    (hcircuit : ServerPacket.ofType header.type ≠ some .virtualConnect) :
    (Event.packet phase header frame).Mute :=
  ⟨if_neg hmessage, if_neg hcircuit, rfl, rfl, rfl⟩

theorem mute_wrote (line : ℕ) (data : Bytes)
    (h : (PacketHeader.read data).type ≠ packetClientCommand) :
    (Event.wrote line data).Mute :=
  ⟨rfl, rfl, if_neg h, rfl, rfl⟩

theorem Event.Apart.mute {e : Event} {connection : ℕ} (h : e.Apart connection) : e.Mute := by
  cases e with
  | wrote line data => exact mute_wrote line data h.2.2.2
  | packet phase header frame => exact mute_packet phase header frame h.1 h.2.1
  | ended | spooled | collected | yielded | registered | removed => exact h.elim
  | _ => exact ⟨rfl, rfl, rfl, rfl, rfl⟩

namespace DSNetManager

/-- No message comes or goes, and no circuit is asked for or accepted. -/
structure Mute (m n : DSNetManager) : Prop where
  messages : n.myIncomingMessages = m.myIncomingMessages
  nextVSN : n.myNextVSN = m.myNextVSN
  trace : ∃ events, n.trace = m.trace ++ events ∧ ∀ e ∈ events, e.Mute

section
variable {m n k : DSNetManager}

theorem Mute.trans (h : Mute m n) (h' : Mute n k) : Mute m k where
  messages := h'.messages.trans h.messages
  nextVSN := h'.nextVSN.trans h.nextVSN
  trace := by
    obtain ⟨events, htrace, hevents⟩ := h.trace
    obtain ⟨more, hmore, hmore'⟩ := h'.trace
    refine ⟨events ++ more, by rw [hmore, htrace, List.append_assoc], fun e he => ?_⟩
    exact (List.mem_append.mp he).elim (hevents e) (hmore' e)

theorem Apart.mute (h : Apart m n) : Mute m n := by
  obtain ⟨events, htrace, hevents⟩ := h.trace
  exact ⟨h.messages, h.nextVSN, events, htrace, fun e he => (hevents e he).mute⟩

theorem buildWWRModify_type (add : Bool) (server target : BabelUIN) :
    (PacketHeader.read (buildWWRModify add server target)).type ≠ packetClientCommand := by
  cases add <;> simp [buildWWRModify] <;> decide

theorem Registers.mute {users : List Bytes} (h : Registers users m n) : Mute m n := by
  obtain ⟨events, htrace, hevents⟩ := h.trace
  refine ⟨h.messages, h.nextVSN, events, htrace, fun e he => ?_⟩
  rcases hevents e he with ⟨user, rfl⟩ | ⟨user, _, _, rfl⟩
  · exact ⟨rfl, rfl, rfl, rfl, rfl⟩
  · exact mute_wrote _ _ (buildWWRModify_type true _ _)

theorem mute_emit (m : DSNetManager) (e : Event) (h : e.Mute) : Mute m (m.emit e) :=
  ⟨rfl, rfl, [e], rfl, by simpa using h⟩

theorem mute_disconnect (m : DSNetManager) : Mute m m.disconnect :=
  ⟨rfl, rfl, [.ended], rfl, by simpa using ⟨rfl, rfl, rfl, rfl, rfl⟩⟩

theorem mute_connectionLost (m : DSNetManager) : Mute m m.connectionLost :=
  ⟨rfl, rfl, [.ended], rfl, by simpa using ⟨rfl, rfl, rfl, rfl, rfl⟩⟩

theorem mute_acceptLogin (m : DSNetManager) (serverUIN userUIN : BabelUIN)
    (servers : List CBabelServerInfo) : Mute m (m.acceptLogin serverUIN userUIN servers) := by
  obtain ⟨hmessages, hvsn, events, htrace, hevents⟩ :=
    (registers_acceptLogin m serverUIN userUIN servers).mute
  exact ⟨hmessages, hvsn, events, htrace, hevents⟩

theorem presenceTold_type {header : PacketHeader} {frame : Bytes} {told : BabelUIN × Bool × Bytes}
    (h : presenceTold header frame = some told) :
    ServerPacket.ofType header.type ≠ some .message ∧
      ServerPacket.ofType header.type ≠ some .virtualConnect := by
  constructor <;>
  · intro htype
    simp [presenceTold, htype] at h

theorem mute_removeFromWWR (m : DSNetManager) (user : Bytes) : Mute m (m.removeFromWWR user) := by
  have hforget : Mute m (m.forgetUser user) :=
    ⟨rfl, rfl, [.removed user], rfl, by simpa using ⟨rfl, rfl, rfl, rfl, rfl⟩⟩
  unfold removeFromWWR
  simp only
  split_ifs
  · have hwrite : ∀ packet, (PacketHeader.read packet).type ≠ packetClientCommand →
        Mute (m.forgetUser user) ((m.forgetUser user).socketWrite packet).2 := by
      intro packet hpacket
      cases hok : ((m.forgetUser user).socketWrite packet).1 with
      | true =>
        rw [socketWrite_ok _ packet hok]
        exact ⟨rfl, rfl, [_], rfl, by simpa using mute_wrote _ packet hpacket⟩
      | false =>
        rw [socketWrite_failed _ packet hok]
        exact ⟨rfl, rfl, [], (List.append_nil _).symm, by simp⟩
    exact hforget.trans (hwrite _ (buildWWRModify_type false _ _))
  · exact hforget
  · exact hforget

end

/-- **The principle for what arrives**: a property that survives mute acts, messages, circuits and
the calls that collect the messages survives every act. -/
theorem Act.keeps_arrivals {op : Op} (p : DSNetManager → Prop) (hmute : ∀ m n, Mute m n → p m → p n)
    (hmessage : ∀ (m : DSNetManager) frame,
      ServerPacket.ofType (PacketHeader.read frame).type = some .message → p m →
      p ((m.emit (.packet m.myConnectPhase (PacketHeader.read frame) frame)).handleMessage
        (frame.drop packetHeaderSize) (sizeInt frame - 32)))
    (hcircuit : ∀ (m : DSNetManager) frame,
      ServerPacket.ofType (PacketHeader.read frame).type = some .virtualConnect → p m →
      p ((m.emit (.packet m.myConnectPhase (PacketHeader.read frame) frame)).handleVirtualConnect
        (PacketHeader.read frame)).2)
    (hcollect : op = .getMessages → ∀ m : DSNetManager, p m → p m.collect.2)
    {m n : DSNetManager} (h : Act op m n) (hm : p m) : p n := by
  have hsilent : ∀ (m : DSNetManager) (e : Event), e.Mute → p m → p (m.emit e) :=
    fun m e he hm => hmute m _ (mute_emit m e he) hm
  cases h.effect with
  | apart _ _ _ hapart => exact hmute m n hapart.mute hm
  | attempting _ _ _ hapart => exact hmute m n hapart.mute hm
  | accepted _ _ frame =>
    exact hmute _ _ (mute_acceptLogin _ _ _ _) (hsilent m _ ⟨rfl, rfl, rfl, rfl, rfl⟩ hm)
  | message _ _ frame htype => exact hmessage m frame htype hm
  | presence _ _ frame uin state nickName htold =>
    obtain ⟨hmessage', hcircuit'⟩ := presenceTold_type htold
    obtain ⟨changed, adds, hframe⟩ := updatePresence_frame
      (m.emit (.packet m.myConnectPhase (PacketHeader.read frame) frame)) uin state nickName
    rw [hframe]
    exact hmute m _ ⟨rfl, rfl, [_], rfl, by simpa using mute_packet _ _ _ hmessage' hcircuit'⟩ hm
  | circuit _ _ frame htype => exact hcircuit m frame htype hm
  | lost => exact hmute m _ (mute_connectionLost m) hm
  | hangUp => exact hmute m _ (mute_disconnect m) hm
  | attempt _ users =>
    have hattempt : Mute m (m.attemptFor users) := by
      obtain ⟨_, _, _, _, _, hframe⟩ := chooseServer_frame { m with myUsersForWWR := users }
      simp only [attemptFor, startConnecting, hframe]
      split_ifs <;> exact ⟨rfl, rfl, [_], rfl, by simpa using ⟨rfl, rfl, rfl, rfl, rfl⟩⟩
    exact hsilent _ _ ⟨rfl, rfl, rfl, rfl, rfl⟩ (hmute m _ hattempt hm)
  | watch _ user => exact hmute m _ ⟨rfl, rfl, [], (List.append_nil _).symm, by simp⟩ hm
  | enrol _ user hvalid => exact hmute m _ (registers_enrol m user hvalid).mute hm
  | remove _ user => exact hmute m _ (mute_removeFromWWR m user) hm
  | yield =>
    rcases nextChangedUserWWR_frame m with ⟨_, hframe⟩ | ⟨user, users, state, _, hframe⟩
    · rw [hframe]
      exact hm
    · rw [hframe]
      exact hmute m _ ⟨rfl, rfl, [_], rfl, by simpa using ⟨rfl, rfl, rfl, rfl, rfl⟩⟩ hm
  | collect => exact hcollect rfl m hm

end DSNetManager

/-- The three vectors `GetMessages` appends to. -/
structure MessageVectors where
  users : List Bytes := []
  types : List Int32 := []
  messages : List Bytes := []
  deriving DecidableEq

/-- The loop of `GetMessages`. -/
def MessageVectors.handOver : List IncomingMessage → MessageVectors → MessageVectors
  | [], v => v
  | message :: messages, v =>
    handOver messages
      { users := v.users ++ [message.user]
        types := v.types ++ [message.type]
        messages := v.messages ++ [message.payload] }

theorem MessageVectors.handOver_eq (messages : List IncomingMessage) (v : MessageVectors) :
    v.handOver messages =
      { users := v.users ++ messages.map IncomingMessage.user
        types := v.types ++ messages.map IncomingMessage.type
        messages := v.messages ++ messages.map IncomingMessage.payload } := by
  induction messages generalizing v with
  | nil => simp [handOver]
  | cons message messages ih => simp [handOver, ih]

theorem MessageVectors.handOver_append (messages more : List IncomingMessage) (v : MessageVectors) :
    v.handOver (messages ++ more) = (v.handOver messages).handOver more := by
  simp [handOver_eq]

/-- The messages a call returns. -/
def Op.returned (m : DSNetManager) : Op → List IncomingMessage
  | .getMessages => m.getMessages.1
  | _ => []

/-- The vectors behind a run, with all that its calls of `GetMessages` have put into them. -/
def handedOver : List Op → DSNetManager → MessageVectors → MessageVectors
  | [], _, v => v
  | op :: ops, m, v =>
    if (op.run m).1 then handedOver ops (op.run m).2 (v.handOver (op.returned m))
    else v.handOver (op.returned m)

/-- A message for the engine. -/
def PackedMessage.forEngine (message : PackedMessage) : Option IncomingMessage :=
  if message.messageType = mesgPrayFile then none
  else
    some { user := message.sender.toString, type := message.messageType, payload := message.payload }

/-- A message for the inbox. -/
def PackedMessage.forInbox (message : PackedMessage) : Option (BabelUIN × Bytes) :=
  if message.messageType = mesgPrayFile then some (message.sender, message.payload) else none

/-- The messages for the engine among the packets received, in order of arrival. -/
def engineMessages (events : List Event) : List IncomingMessage :=
  events.filterMap (fun e => e.brings.bind PackedMessage.forEngine)

/-- The files for the inbox among the packets received, in order of arrival. -/
def inboxFiles (events : List Event) : List (BabelUIN × Bytes) :=
  events.filterMap (fun e => e.brings.bind PackedMessage.forInbox)

theorem engineMessages_append (events more : List Event) :
    engineMessages (events ++ more) = engineMessages events ++ engineMessages more :=
  List.filterMap_append

theorem inboxFiles_append (events more : List Event) :
    inboxFiles (events ++ more) = inboxFiles events ++ inboxFiles more :=
  List.filterMap_append

theorem engineMessages_single (e : Event) :
    engineMessages [e] = (e.brings.bind PackedMessage.forEngine).toList := by
  cases h : e.brings.bind PackedMessage.forEngine <;> simp [engineMessages, h]

theorem inboxFiles_single (e : Event) :
    inboxFiles [e] = (e.brings.bind PackedMessage.forInbox).toList := by
  cases h : e.brings.bind PackedMessage.forInbox <;> simp [inboxFiles, h]

namespace DSNetManager

/-- A message goes to the engine or to the inbox, or nowhere if it does not parse. -/
theorem handleMessage_parsed (m : DSNetManager) (body : Bytes) (bodySize : Int32) :
    (m.handleMessage body bodySize).myNextVSN = m.myNextVSN ∧
      (m.handleMessage body bodySize).myIncomingMessages = m.myIncomingMessages ++
        ((parsePackedBabelMessage body bodySize).bind PackedMessage.forEngine).toList ∧
      (m.handleMessage body bodySize).trace = m.trace ++
        ((parsePackedBabelMessage body bodySize).bind PackedMessage.forInbox).toList.map
          (fun file => .spooled m.myInboxDirectory file.1 file.2) := by
  unfold handleMessage
  cases parsePackedBabelMessage body bodySize with
  | none => simp
  | some message =>
    by_cases hpray : message.messageType = mesgPrayFile
    · simp only [hpray, PackedMessage.forEngine, PackedMessage.forInbox,
        Option.bind_some, ↓reduceIte]
      exact ⟨rfl, (List.append_nil _).symm, rfl⟩
    · simp only [hpray, PackedMessage.forEngine, PackedMessage.forInbox,
        Option.bind_some, ↓reduceIte]
      exact ⟨trivial, rfl, (List.append_nil _).symm⟩

/-- A reply to a circuit request is written, or the connection is dropped. -/
theorem handleVirtualConnect_replied (m : DSNetManager) (header : PacketHeader) :
    (m.handleVirtualConnect header).2.myIncomingMessages = m.myIncomingMessages ∧
    (m.handleVirtualConnect header).2.myNextVSN = m.nextVSN.1 ∧
    ((∃ line, (m.handleVirtualConnect header).2.trace = m.trace ++ [.wrote line
        (buildVirtualConnectAccept m.myServerUIN ⟨header.fieldC, header.fieldD⟩ header.fieldE
          m.nextVSN.1)]) ∨
      (m.handleVirtualConnect header).2.trace = m.trace ++ [.ended]) := by
  simp only [handleVirtualConnect]
  generalize buildVirtualConnectAccept m.myServerUIN ⟨header.fieldC, header.fieldD⟩ header.fieldE
    m.nextVSN.1 = packet
  cases hok : (m.nextVSN.2.socketWrite packet).1 with
  | true =>
    rw [if_neg (by simp), socketWrite_ok _ packet hok]
    exact ⟨rfl, rfl, Or.inl ⟨_, rfl⟩⟩
  | false =>
    rw [if_pos (by simp), socketWrite_failed _ packet hok]
    exact ⟨rfl, rfl, Or.inr rfl⟩

/-- Spooling files is all that the events of spooled files tell of. -/
theorem files_spooled (inbox : Bytes) (files : List (BabelUIN × Bytes)) :
    (files.map (fun file => Event.spooled inbox file.1 file.2)).flatMap Event.collects = [] ∧
      (files.map (fun file => Event.spooled inbox file.1 file.2)).filterMap Event.spools = files ∧
      engineMessages (files.map (fun file => .spooled inbox file.1 file.2)) = [] ∧
      inboxFiles (files.map (fun file => .spooled inbox file.1 file.2)) = [] := by
  induction files with
  | nil => exact ⟨rfl, rfl, rfl, rfl⟩
  | cons file files ih =>
    obtain ⟨hcollects, hspools, hengine, hinbox⟩ := ih
    exact ⟨hcollects, congrArg (file :: ·) hspools, hengine, hinbox⟩

/-- No message is lost, doubled or moved. -/
structure Delivers (m : DSNetManager) : Prop where
  engine : m.trace.flatMap Event.collects ++ m.myIncomingMessages = engineMessages m.trace
  inbox : m.trace.filterMap Event.spools = inboxFiles m.trace

theorem Delivers.unaffected {m n : DSNetManager} (hm : m.Delivers) (events : List Event)
    (hmessages : n.myIncomingMessages = m.myIncomingMessages) (htrace : n.trace = m.trace ++ events)
    (hbrings : ∀ e ∈ events, e.brings = none) (hspools : ∀ e ∈ events, e.spools = none)
    (hcollects : ∀ e ∈ events, e.collects = []) : n.Delivers := by
  have hengine : engineMessages events = [] :=
    List.filterMap_eq_nil_iff.mpr fun e he => by rw [hbrings e he, Option.bind_none]
  have hinbox : inboxFiles events = [] :=
    List.filterMap_eq_nil_iff.mpr fun e he => by rw [hbrings e he, Option.bind_none]
  constructor
  · rw [htrace, hmessages, List.flatMap_append, List.flatMap_eq_nil_iff.mpr hcollects,
      List.append_nil, engineMessages_append, hengine, List.append_nil, hm.engine]
  · rw [htrace, List.filterMap_append, List.filterMap_eq_nil_iff.mpr hspools,
      inboxFiles_append, hinbox, hm.inbox]

theorem Delivers.mute {m n : DSNetManager} (hm : m.Delivers) (h : Mute m n) : n.Delivers := by
  obtain ⟨events, htrace, hevents⟩ := h.trace
  exact hm.unaffected events h.messages htrace (fun e he => (hevents e he).brings)
    (fun e he => (hevents e he).spools) (fun e he => (hevents e he).collects)

/-- A packet arrives, and its message goes where it belongs. -/
theorem Delivers.brought {m n : DSNetManager} (hm : m.Delivers) (e : Event) (inbox : Bytes)
    (hspools : e.spools = none) (hcollects : e.collects = [])
    (hmessages : n.myIncomingMessages =
      m.myIncomingMessages ++ (e.brings.bind PackedMessage.forEngine).toList)
    (htrace : n.trace = m.trace ++ ([e] ++ (e.brings.bind PackedMessage.forInbox).toList.map
      (fun file => .spooled inbox file.1 file.2))) : n.Delivers := by
  obtain ⟨hnone, hall, hengine, hinbox⟩ :=
    files_spooled inbox (e.brings.bind PackedMessage.forInbox).toList
  constructor
  · rw [htrace, hmessages, List.flatMap_append, List.flatMap_append, hnone, List.flatMap_singleton,
      hcollects, List.append_nil, List.append_nil, ← List.append_assoc, hm.engine,
        engineMessages_append,
      engineMessages_append, hengine, List.append_nil, engineMessages_single]
  · rw [htrace, List.filterMap_append, List.filterMap_append, hall,
      List.filterMap_cons_none hspools,
      List.filterMap_nil, List.nil_append, hm.inbox, inboxFiles_append, inboxFiles_append, hinbox,
      List.append_nil, inboxFiles_single]

theorem Delivers.message {m : DSNetManager} (hm : m.Delivers) (frame : Bytes)
    (h : ServerPacket.ofType (PacketHeader.read frame).type = some .message) :
    ((m.emit (.packet m.myConnectPhase (PacketHeader.read frame) frame)).handleMessage
      (frame.drop packetHeaderSize) (sizeInt frame - 32)).Delivers := by
  have hbrings : (Event.packet m.myConnectPhase (PacketHeader.read frame) frame).brings =
      parsePackedBabelMessage (frame.drop packetHeaderSize) (sizeInt frame - 32) := if_pos h
  obtain ⟨_, hmessages, htrace⟩ := handleMessage_parsed
    (m.emit (.packet m.myConnectPhase (PacketHeader.read frame) frame))
    (frame.drop packetHeaderSize) (sizeInt frame - 32)
  rw [← hbrings] at hmessages htrace
  rw [emit_trace, List.append_assoc] at htrace
  exact hm.brought _ m.myInboxDirectory rfl rfl hmessages htrace

theorem Delivers.circuit {m : DSNetManager} (hm : m.Delivers) (frame : Bytes)
    (h : ServerPacket.ofType (PacketHeader.read frame).type = some .virtualConnect) :
    ((m.emit (.packet m.myConnectPhase (PacketHeader.read frame) frame)).handleVirtualConnect
      (PacketHeader.read frame)).2.Delivers := by
  have hbrings : (Event.packet m.myConnectPhase (PacketHeader.read frame) frame).brings = none :=
    if_neg (by rw [h]; decide)
  obtain ⟨hmessages, _, hreply⟩ := handleVirtualConnect_replied
    (m.emit (.packet m.myConnectPhase (PacketHeader.read frame) frame)) (PacketHeader.read frame)
  rcases hreply with ⟨line, htrace⟩ | htrace
  · rw [emit_trace, List.append_assoc] at htrace
    exact hm.unaffected _ hmessages htrace (by simpa using ⟨hbrings, rfl⟩) (by simp [Event.spools])
      (by simp [Event.collects])
  · rw [emit_trace, List.append_assoc] at htrace
    exact hm.unaffected _ hmessages htrace (by simpa using ⟨hbrings, rfl⟩) (by simp [Event.spools])
      (by simp [Event.collects])

theorem Delivers.collect {m : DSNetManager} (hm : m.Delivers) : m.collect.2.Delivers := by
  constructor
  · simp only [DSNetManager.collect, emit, List.flatMap_append, engineMessages_append, ← hm.engine]
    simp [Event.collects, engineMessages, Event.brings]
  · simp only [DSNetManager.collect, emit, List.filterMap_append, inboxFiles_append, hm.inbox]
    simp [Event.spools, inboxFiles, Event.brings]

theorem delivers_construct (os : SocketOS) (clock : Stream' UInt32) (disk : Disk) :
    (construct os clock disk).Delivers := ⟨rfl, rfl⟩

theorem Delivers.act {op : Op} {m n : DSNetManager} (hm : m.Delivers) (h : Act op m n) :
    n.Delivers :=
  h.keeps_arrivals Delivers (fun _ _ hmute hm => hm.mute hmute)
    (fun _ frame htype hm => hm.message frame htype)
    (fun _ frame htype hm => hm.circuit frame htype) (fun _ _ hm => hm.collect) hm

/-- Only `GetMessages` collects. -/
theorem Acts.collects {op : Op} {m n : DSNetManager} (h : Acts op m n) (hop : op ≠ .getMessages) :
    n.trace.flatMap Event.collects = m.trace.flatMap Event.collects := by
  induction h with
  | refl => rfl
  | tail _ hact ih =>
    refine hact.keeps_arrivals (fun k => k.trace.flatMap Event.collects = m.trace.flatMap
      Event.collects)
      ?_ ?_ ?_ (fun hcollect => absurd hcollect hop) ih
    · intro k l hmute hk
      obtain ⟨events, htrace, hevents⟩ := hmute.trace
      rw [htrace, List.flatMap_append, List.flatMap_eq_nil_iff.mpr fun e he =>
        (hevents e he).collects, List.append_nil, hk]
    · intro k frame _ hk
      obtain ⟨_, _, htrace⟩ := handleMessage_parsed
        (k.emit (.packet k.myConnectPhase (PacketHeader.read frame) frame))
        (frame.drop packetHeaderSize) (sizeInt frame - 32)
      rw [htrace, List.flatMap_append, (files_spooled _ _).1, List.append_nil, emit_trace,
        List.flatMap_append, hk]
      exact List.append_nil _
    · intro k frame _ hk
      obtain ⟨_, _, ⟨line, htrace⟩ | htrace⟩ := handleVirtualConnect_replied
        (k.emit (.packet k.myConnectPhase (PacketHeader.read frame) frame))
          (PacketHeader.read frame)
      · rw [htrace, emit_trace, List.append_assoc, List.flatMap_append, hk]
        exact List.append_nil _
      · rw [htrace, emit_trace, List.append_assoc, List.flatMap_append, hk]
        exact List.append_nil _

/-- What a call returns is what its events tell of. -/
theorem run_collects (m : DSNetManager) (op : Op) (hidle : m.waiting = none) :
    (op.run m).2.trace.flatMap Event.collects = m.trace.flatMap Event.collects ++
    op.returned m := by
  by_cases hop : op = .getMessages
  · subst hop
    have hpump := (acts_pump .disconnect m).collects Op.noConfusion
    simp only [Op.run, Op.returned, getMessages, collect, emit_trace, List.flatMap_append, hpump]
    simp [Event.collects]
  · have hnone : op.returned m = [] := by
      cases op with
      | getMessages => exact absurd rfl hop
      | _ => rfl
    rw [hnone, List.append_nil]
    exact (op.acts_run m hidle).1.collects hop

/-- What is handed over in a run is what is on record as collected. -/
theorem handedOver_collects (ops : List Op) (m : DSNetManager) (hidle : m.waiting = none)
    (v : MessageVectors) :
    ∃ messages, handedOver ops m v = v.handOver messages ∧
      (runOps ops m).2.trace.flatMap Event.collects = m.trace.flatMap Event.collects ++
      messages := by
  induction ops generalizing m v with
  | nil => exact ⟨[], rfl, (List.append_nil _).symm⟩
  | cons op ops ih =>
    have hcollects := run_collects m op hidle
    simp only [handedOver, runOps]
    split_ifs with hreturned
    · obtain ⟨messages, hvectors, htrace⟩ :=
        ih (op.run m).2 ((op.acts_run m hidle).2 hreturned) (v.handOver (op.returned m))
      refine ⟨op.returned m ++ messages, ?_, ?_⟩
      · rw [hvectors, MessageVectors.handOver_append]
      · rw [htrace, hcollects, List.append_assoc]
    · exact ⟨op.returned m, rfl, hcollects⟩

end DSNetManager

open DSNetManager

/-- **Messages are delivered exactly once and in order**: what all calls of `GetMessages` put into
the three vectors, and then what still waits, are the users, types and payloads of the messages
received for the engine; and the files received are the files handed to `SpoolPrayFile`. -/
theorem messages_delivered (os : SocketOS) (clock : Stream' UInt32) (disk : Disk) (ops : List Op)
    (m : DSNetManager) (hrun : m = ran os clock disk ops) (v : MessageVectors)
    (hvectors : v = handedOver ops (construct os clock disk) {}) :
    v.users ++ m.myIncomingMessages.map IncomingMessage.user =
      (engineMessages m.trace).map IncomingMessage.user ∧
    v.types ++ m.myIncomingMessages.map IncomingMessage.type =
      (engineMessages m.trace).map IncomingMessage.type ∧
    v.messages ++ m.myIncomingMessages.map IncomingMessage.payload =
      (engineMessages m.trace).map IncomingMessage.payload ∧
    m.trace.filterMap Event.spools = inboxFiles m.trace := by
  have hend : m.Delivers := hrun ▸
    ran_keeps os clock disk ops Delivers (delivers_construct os clock disk)
      fun _ _ _ hact hm => hm.act hact
  obtain ⟨messages, hhanded, htrace⟩ := handedOver_collects ops (construct os clock disk) rfl {}
  have hcollected : m.trace.flatMap Event.collects = messages := hrun ▸ htrace
  rw [hvectors, hhanded, MessageVectors.handOver_eq, ← hcollected]
  simp only [List.nil_append]
  rw [← List.map_append, ← List.map_append, ← List.map_append, hend.engine]
  exact ⟨rfl, rfl, rfl, hend.inbox⟩

/-- A short message from user 7 to a client that logs in and collects its messages. -/
def postman : SocketOS :=
  .scripted [[.data loginResponse],
    [.data (PacketHeader.write { type := packetMessage, furtherData := 41 } ++
    (buildMessage ⟨1, 1⟩ ⟨7, 1⟩ ⟨5, 1⟩ (putInt 12 ++ putInt 5 ++ putInt 0 ++ ascii "hello") 17).drop
      40)]] [.took 54]

theorem messages_delivered_hello :
    let v := handedOver [.connectInBackground [], .connectInBackground [], .getMessages]
      (construct postman (.const 0) .blank) {}
    v.users = [ascii "7+1"] ∧ v.types = [5] ∧ v.messages = [ascii "hello"] := by
  intro v
  obtain ⟨husers, htypes, hmessages, _⟩ := messages_delivered postman (.const 0) .blank
    [.connectInBackground [], .connectInBackground [], .getMessages] _ rfl v rfl
  have hnone : (ran postman (.const 0) .blank
      [.connectInBackground [], .connectInBackground [],
        .getMessages]).myIncomingMessages = [] := by
    decide +kernel
  rw [hnone, List.map_nil, List.append_nil] at husers htypes hmessages
  exact ⟨husers.trans (by decide +kernel), htypes.trans (by decide +kernel),
    hmessages.trans (by decide +kernel)⟩

end NetNatsue
