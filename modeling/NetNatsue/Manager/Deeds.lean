import NetNatsue.Manager.Effects

/-! What a call does to the world: to the line to the server, to the connection, to the disk and to
the queue of messages. All else that a call does is bookkeeping. -/
namespace NetNatsue

/-- Events that concern neither the line nor what arrives on it. -/
def Event.Inner : Event → Prop
  | .connecting _ _ | .wrote _ _ | .response _ _ | .handshake _ _ | .packet _ _ _ | .ended
  | .spooled _ _ _ => False
  | _ => True

/-- The members that the world depends on, or is part of. -/
structure World where
  socket : NetNatsueSocket
  phase : ConnectPhase
  deadline : UInt32
  rotation : Int32
  servers : List CBabelServerInfo
  overrideHost : Bytes
  overridePort : Int32
  mode : ClientMode
  nickname : Bytes
  password : Bytes
  serverUIN : BabelUIN
  userUIN : BabelUIN
  files : Bytes → Option Bytes
  inbox : Bytes
  outbox : Bytes
  dirty : Bool
  nextScan : UInt32
  queued : List QueuedMessage

namespace DSNetManager

def world (m : DSNetManager) : World :=
  { socket := m.mySocket, phase := m.myConnectPhase, deadline := m.myConnectDeadline
    rotation := m.myServerRotation, servers := m.myServers, overrideHost := m.ourOverrideHost
    overridePort := m.ourOverridePort, mode := m.ourClientMode, nickname := m.myNickname
    password := m.myPassword, serverUIN := m.myServerUIN, userUIN := m.myUserUIN
    files := m.disk.files, inbox := m.myInboxDirectory, outbox := m.myOutboxDirectory
    dirty := m.myOutboxDirty, nextScan := m.myNextOutboxScan, queued := m.myQueuedMessages }

/-- The world is as it was, and what is on record of it, too. -/
structure Books (m n : DSNetManager) : Prop where
  world : n.world = m.world
  trace : ∃ events, n.trace = m.trace ++ events ∧ ∀ e ∈ events, e.Inner

section
variable {m n k : DSNetManager}

theorem books_of_eq (hworld : n.world = m.world) (htrace : n.trace = m.trace) : Books m n :=
  ⟨hworld, [], by rw [htrace, List.append_nil], by simp⟩

theorem books_refl (m : DSNetManager) : Books m m := books_of_eq rfl rfl

theorem books_emit (m : DSNetManager) (e : Event) (h : e.Inner) : Books m (m.emit e) :=
  ⟨rfl, [e], rfl, by simpa using h⟩

theorem Books.trans (h : Books m n) (h' : Books n k) : Books m k := by
  obtain ⟨events, htrace, hevents⟩ := h.trace
  obtain ⟨more, hmore, hmore'⟩ := h'.trace
  refine ⟨h'.world.trans h.world,
    events ++ more, by rw [hmore, htrace, List.append_assoc], fun e he => ?_⟩
  exact (List.mem_append.mp he).elim (hevents e) (hmore' e)

end

section
variable (m : DSNetManager)

theorem books_onDisk (d : Disk) (h : d.files = m.disk.files) : Books m (m.onDisk d) :=
  books_of_eq (by simp only [world, onDisk, h]) rfl

theorem books_startTransaction (kind : TransactionKind) (fixedExtra : FixedExtra) :
    Books m (m.startTransaction kind fixedExtra).2 := by
  refine ⟨rfl, [.issued _, .started _ kind], startTransaction_trace m kind fixedExtra, ?_⟩
  simp [Event.Inner]

theorem books_abandonTransaction (ticket : Int32) : Books m (m.abandonTransaction ticket) :=
  books_of_eq (abandonTransaction_kept world (fun _ _ _ => rfl) m ticket)
    (abandonTransaction_kept trace (fun _ _ _ => rfl) m ticket)

theorem books_rememberNickName (user nickName : Bytes) :
    Books m (m.rememberNickName user nickName) := by
  obtain ⟨presence, hframe⟩ := rememberNickName_frame m user nickName
  rw [hframe]
  exact books_of_eq rfl rfl

theorem books_nextChangedUserWWR : Books m m.nextChangedUserWWR.2 := by
  rcases nextChangedUserWWR_frame m with ⟨_, hframe⟩ |
    ⟨user, users, online, _, hframe⟩ <;> rw [hframe]
  · exact books_refl m
  · exact ⟨rfl, [_], rfl, by simp [Event.Inner]⟩

end

/-- The things a call does to the world one after another, each exactly as it is done. -/
inductive Deed : Op → DSNetManager → DSNetManager → Prop
  | books (op : Op) (m n : DSNetManager) (h : Books m n) : Deed op m n
  | heeded (op : Op) (m n : DSNetManager) (h : Heeded m n) : Deed op m n
  | say (op : Op) (m : DSNetManager) (packet : Bytes) (honline : m.Online)
    (h : Says m.myServerUIN m.myUserUIN packet) : Deed op m (m.socketWrite packet).2
  | attempt (m : DSNetManager) (users : List Bytes) (hoffline : ¬ m.Online)
    (hphase : m.myConnectPhase = .idle ∨ m.myConnectPhase = .failed ∨ m.myConnectPhase = .online) :
    Deed (.connectInBackground users) m (m.attemptFor users)
  | hangUp (m : DSNetManager) : Deed .disconnect m m.disconnect
  | configure (op : Op) (m : DSNetManager) (h : op.configures = true) : Deed op m (op.run m).2
  | unqueue (m : DSNetManager) (message : QueuedMessage) (messages : List QueuedMessage)
    (h : m.myQueuedMessages = message :: messages) :
    Deed .tick m { m with myQueuedMessages := messages }
  | handOut (user : Bytes) (m : DSNetManager) (d : Disk) (h : d.files = m.disk.files) :
    Deed (.returnUniqueOutboxFilename user) m { m with disk := d, myOutboxDirty := true }
  | list (m : DSNetManager) (d : Disk) (next : UInt32) (h : d.files = m.disk.files) :
    Deed .scan m { m with disk := d, myOutboxDirty := false, myNextOutboxScan := next }
  | setAside (m : DSNetManager) (name : Bytes) (hsome : m.myOutboxDirectory ≠ [])
    (h : WarpName name) :
    Deed .scan m (m.setAside (m.myOutboxDirectory ++ name))
  | discard (m : DSNetManager) (name : Bytes) (hsome : m.myOutboxDirectory ≠ [])
    (h : WarpName name) :
    Deed .scan m (m.onDisk (m.disk.remove (m.myOutboxDirectory ++ name)))

abbrev Deeds (op : Op) : DSNetManager → DSNetManager → Prop := Relation.ReflTransGen (Deed op)

section
variable (op : Op) {m n : DSNetManager}

theorem Books.deeds (h : Books m n) : Deeds op m n := .single (.books op m n h)

/-- What may be said before some bookkeeping may be said behind it. -/
theorem Books.say (h : Books m n) (packet : Bytes) (honline : m.Online)
    (hasked : Says m.myServerUIN m.myUserUIN packet) : Deeds op m (n.socketWrite packet).2 := by
  have hphase : n.myConnectPhase = m.myConnectPhase := congrArg World.phase h.world
  have hsocket : n.mySocket = m.mySocket := congrArg World.socket h.world
  have hserver : n.myServerUIN = m.myServerUIN := congrArg World.serverUIN h.world
  have huser : n.myUserUIN = m.myUserUIN := congrArg World.userUIN h.world
  refine (h.deeds op).tail (.say op n packet ?_ ?_)
  · rwa [Online, hphase, hsocket]
  · rwa [hserver, huser]

end

/-- A request is bookkeeping and the packet that is said. -/
theorem deeds_requested (op : Op) (m : DSNetManager) (slot : Slot) (clock : Stream' UInt32)
    (packet : Bytes) (honline : m.Online) (hsaid : Says m.myServerUIN m.myUserUIN packet) :
    Deeds op m (m.requested slot clock packet).2 := by
  have hclock : Books (m.startTransaction slot.kind slot.fixedExtra).2
      { (m.startTransaction slot.kind slot.fixedExtra).2 with clock := clock } :=
        books_of_eq rfl rfl
  exact ((books_startTransaction m _ _).trans hclock).say op packet honline hsaid

theorem books_hold (m : DSNetManager) (slot : Slot) (query : PendingQuery) :
    Books m (m.hold slot query) := by
  cases slot <;> exact books_of_eq rfl rfl

theorem books_release (m : DSNetManager) (slot : Slot) : Books m (m.release slot) := by
  cases slot <;> exact books_of_eq rfl rfl

theorem deeds_startAdd (m : DSNetManager) (user : Bytes) (uin : BabelUIN) (honline : m.Online) :
    Deeds (.addToWWR user) m (m.startAdd user uin).2 := by
  have hwrite : Deeds (.addToWWR user) m
      (m.socketWrite (buildWWRModify true m.myServerUIN uin)).2 :=
    .single (.say _ m _ honline (.modify true uin))
  have hwait : ∀ (n : DSNetManager) deadline, Books n (n.nowMs.2.setWWRAdd user deadline) :=
    fun _ _ => books_of_eq rfl rfl
  simp only [startAdd]
  split_ifs
  · exact hwrite
  · exact hwrite.trans ((hwait _ _).deeds _)
  · exact hwrite

theorem deeds_removeFromWWR (m : DSNetManager) (user : Bytes) :
    Deeds (.removeFromWWR user) m (m.removeFromWWR user) := by
  have hforget : Books m (m.forgetUser user) := ⟨rfl, [_], rfl, by simp [Event.Inner]⟩
  simp only [removeFromWWR]
  split_ifs with _ honline
  · exact hforget.say _ _ honline (.modify false _)
  · exact hforget.deeds _
  · exact hforget.deeds _

/-- A file that is posted has its packet said and is removed then. -/
theorem deeds_post (m n : DSNetManager) (name packet : Bytes) (hsome : m.myOutboxDirectory ≠ [])
    (hname : WarpName name) (honline : m.Online) (hsaid : Says m.myServerUIN m.myUserUIN packet)
    (hwritten : m.socketWrite packet = (true, n)) :
    Deeds .scan m (n.onDisk (n.disk.remove (m.myOutboxDirectory ++ name))) := by
  have hsay : Deeds .scan m n := by
    have hsay := Deed.say .scan m packet honline hsaid
    rw [hwritten] at hsay
    exact .single hsay
  have houtbox : n.myOutboxDirectory = m.myOutboxDirectory := by
    have houtbox := socketWrite_outbox m packet
    rwa [hwritten] at houtbox
  rw [← houtbox] at hsome ⊢
  exact hsay.tail (.discard n name hsome hname)

theorem Piece.deeds {op : Op} {m n : DSNetManager} (h : Piece op m n) : Deeds op m n := by
  cases h with
  | heeded _ _ _ h => exact .single (.heeded op m n h)
  | glance _ _ d hfiles => exact (books_onDisk m d hfiles).deeds op
  | configure _ _ h => exact .single (.configure op m h)
  | attempt _ users hoffline hphase =>
    have hpolled := books_emit (m.attemptFor users)
      (.polled m.myConnectPhase false (m.attemptFor users).blocking) trivial
    exact .trans (.single (.attempt m users hoffline hphase)) (hpolled.deeds _)
  | poll _ users found online block _ =>
    exact (books_emit m (.polled found online block) trivial).deeds _
  | hangUp => exact .single (.hangUp m)
  | watch _ user _ _ => exact (books_of_eq rfl rfl : Books m (m.watch user)).deeds _
  | enrol _ user _ honline _ =>
    have hwatch : Books m (m.watch user) := books_of_eq rfl rfl
    exact (hwatch.deeds _).trans (deeds_startAdd (m.watch user) user _ honline)
  | endAdd _ user => exact (books_of_eq rfl rfl : Books m (m.endWWRAdd user)).deeds _
  | added _ user block _ => exact (books_emit m (.added user block) trivial).deeds _
  | remove _ user => exact deeds_removeFromWWR m user
  | yield => exact (books_nextChangedUserWWR m).deeds _
  | collect => exact (⟨rfl, [_], rfl, by simp [Event.Inner]⟩ : Books m m.collect.2).deeds _
  | ask _ _ slot clock deadline packet honline _ _ hsaid _ _ =>
    exact (deeds_requested op m slot clock packet honline hsaid).trans
      ((books_hold _ slot _).deeds op)
  | refuse _ _ slot clock packet honline hsaid _ _ =>
    exact (deeds_requested op m slot clock packet honline hsaid).trans
      ((books_abandonTransaction _ _).deeds op)
  | finish _ _ slot ticket _ _ _ _ =>
    have hended : Books m (m.setTransaction ticket none) := books_of_eq rfl rfl
    exact (hended.trans (books_release _ slot)).deeds op
  | expire _ _ slot ticket _ =>
    exact ((books_abandonTransaction m ticket).trans (books_release _ slot)).deeds op
  | drop _ _ slot _ => exact (books_release m slot).deeds op
  | nickName _ _ user name => exact (books_rememberNickName m user name).deeds op
  | send _ _ user data size honline => exact .single (.say op m _ honline (.message _ data size))
  | unqueue _ message messages h => exact .single (.unqueue m message messages h)
  | handOut user _ d hfiles => exact .single (.handOut user m d hfiles)
  | list _ d next hfiles => exact .single (.list m d next hfiles)
  | setAside _ name hsome hname => exact .single (.setAside m name hsome hname)
  | post _ k name user data packet size hsome hname honline hpacket hwritten =>
    have hpost :=
      deeds_post m k name packet hsome hname honline (hpacket ▸ .message _ data size) hwritten
    have hposted := books_emit (k.onDisk (k.disk.remove (m.myOutboxDirectory ++ name)))
      (.posted (m.myOutboxDirectory ++ name) m.mySocket.os.connection m.mySocket.line.length
        packet) trivial
    exact hpost.trans (hposted.deeds _)

theorem Pieces.deeds {op : Op} {m n : DSNetManager} (h : Pieces op m n) : Deeds op m n := by
  induction h with
  | refl => exact .refl
  | tail _ hpiece ih => exact ih.trans hpiece.deeds

theorem Made.deeds {op : Op} {m n : DSNetManager} (h : Made op m n) : Deeds op m n := by
  rcases h with h | ⟨k, ⟨kind, packet, _, honline, hsaid, _, _⟩, h⟩
  · exact h.deeds
  · exact ((deeds_requested op m (.wait kind) _ packet honline hsaid).trans
      ((books_hold _ (.wait kind) _).deeds op)).trans h.deeds

end DSNetManager

open DSNetManager

/-- **Every call is a number of deeds.** -/
theorem Op.deeds_run (m : DSNetManager) (op : Op) : Deeds op m (op.run m).2 := (op.made_run m).deeds

namespace DSNetManager

theorem Deeds.keeps {op : Op} {m n : DSNetManager} (h : Deeds op m n) (p : DSNetManager → Prop)
    (hdeed : ∀ m n, Deed op m n → p m → p n) (hm : p m) : p n := by
  induction h with
  | refl => exact hm
  | tail _ hstep ih => exact hdeed _ _ hstep ih

end DSNetManager

/-- **An invariant of the deeds** of some calls holds behind every run of them. -/
theorem runOps_keeps (ops : List Op) (p : DSNetManager → Prop) (m : DSNetManager) (h : p m)
    (hdeed : ∀ op ∈ ops, ∀ m n, Deed op m n → p m → p n) : p (runOps ops m).2 := by
  induction ops generalizing m with
  | nil => exact h
  | cons op ops ih =>
    have hafter : p (op.run m).2 := (op.deeds_run m).keeps p (hdeed op List.mem_cons_self) h
    simp only [runOps]
    split_ifs
    · exact ih _ hafter fun other hother => hdeed other (List.mem_cons_of_mem _ hother)
    · exact hafter

end NetNatsue
