import NetNatsue.Manager.Pieces

/-! The acts of a call: what its pieces do to the queries, to the register and to the messages. What
they do to anything else is told no further. -/
namespace NetNatsue
namespace DSNetManager

/-- What a call does for a query: ask it, take its answer, or give it up. -/
inductive Queried (op : Op) (m : DSNetManager) : DSNetManager → Prop
  | ask (slot : Slot) (clock : Stream' UInt32) (deadline : UInt32)
    (packet : Bytes) (h : m.myConnectPhase = .online) (hfree : m.pending slot = none)
    (hwait : ∀ kind, slot = .wait kind → op.waits = true ∧ m.waiting = none)
    (htype : (PacketHeader.read packet).type = slot.kind.requestType)
    (hok : (m.requested slot clock packet).1 = true) (howns : op.owns slot) :
    Queried op m ((m.requested slot clock packet).2.hold slot
      { ticket := ticketAfter m.myNextTicketNumber, deadline := deadline })
  | refuse (slot : Slot) (clock : Stream' UInt32) (packet : Bytes)
    (h : m.myConnectPhase = .online)
    (htype : (PacketHeader.read packet).type = slot.kind.requestType)
    (hok : (m.requested slot clock packet).1 = false) :
    Queried op m ((m.requested slot clock packet).2.abandonTransaction
      (ticketAfter m.myNextTicketNumber))
  | finish (slot : Slot) (ticket : Int32) (transaction : Transaction)
    (h : m.pending slot = some ticket) (hentry : m.myTransactions ticket = some transaction)
    (hdone : transaction.done = true) (howns : op.owns slot) :
    Queried op m ((m.setTransaction ticket none).release slot)
  | expire (slot : Slot) (ticket : Int32) (h : m.pending slot = some ticket)
    (howns : op.owns slot) : Queried op m ((m.abandonTransaction ticket).release slot)
  | drop (slot : Slot)
    (h : ∀ ticket, m.pending slot = some ticket → m.myTransactions ticket = none)
    (howns : op.owns slot) : Queried op m (m.release slot)

/-- The things a call does one after another. -/
inductive Act : Op → DSNetManager → DSNetManager → Prop
  | pumped (op : Op) (m n : DSNetManager) (h : Pumped m n) : Act op m n
  | aside (op : Op) (m n : DSNetManager) (h : Aside m n) : Act op m n
  | attempt (m : DSNetManager) (users : List Bytes) (hoffline : ¬ m.Online)
    (hphase : m.myConnectPhase = .idle ∨ m.myConnectPhase = .failed ∨ m.myConnectPhase = .online) :
    Act (.connectInBackground users) m
      ((m.attemptFor users).emit (.polled m.myConnectPhase false (m.attemptFor users).blocking))
  | poll (m : DSNetManager) (users : List Bytes) (found : ConnectPhase) (online block : Bool)
    (h : online = true ∨ found = .connecting ∨ found = .awaitHandshake) :
    Act (.connectInBackground users) m (m.emit (.polled found online block))
  | hangUp (m : DSNetManager) : Act .disconnect m m.disconnect
  | watch (m : DSNetManager) (user : Bytes) (hvalid : (BabelUIN.fromString user).1 = true)
    (h : m.Online → (m.myPendingWWRAdds user).isSome = true) : Act (.addToWWR user) m (m.watch user)
  | enrol (m : DSNetManager) (user : Bytes) (hvalid : (BabelUIN.fromString user).1 = true)
    (honline : m.Online) (hnone : m.myPendingWWRAdds user = none) :
    Act (.addToWWR user) m ((m.watch user).startAdd user (BabelUIN.fromString user).2).2
  | endAdd (m : DSNetManager) (user : Bytes) : Act (.addToWWR user) m (m.endWWRAdd user)
  | added (m : DSNetManager) (user : Bytes) (block : Bool) (h : user ∈ m.myWWRMembers) :
    Act (.addToWWR user) m (m.emit (.added user block))
  | remove (m : DSNetManager) (user : Bytes) : Act (.removeFromWWR user) m (m.removeFromWWR user)
  | yield (m : DSNetManager) : Act .nextChangedUserWWR m m.nextChangedUserWWR.2
  | collect (m : DSNetManager) : Act .getMessages m m.collect.2
  | queried (op : Op) (m n : DSNetManager) (h : Queried op m n) : Act op m n
  | nickName (op : Op) (m : DSNetManager) (user name : Bytes) :
    Act op m (m.rememberNickName user name)
  | send (op : Op) (m : DSNetManager) (packet : Bytes)
    (htype : (PacketHeader.read packet).type = packetMessage) : Act op m (m.socketWrite packet).2
  | post (op : Op) (m : DSNetManager) (path packet : Bytes) (disk : Disk)
    (htype : (PacketHeader.read packet).type = packetMessage) (hsome : packet ≠ [])
    (hfit : packet.length < 4294967296) (hok : (m.socketWrite packet).1 = true) :
    Act op m (((m.socketWrite packet).2.onDisk disk).emit
      (.posted path m.mySocket.os.connection m.mySocket.line.length packet))

abbrev Acts (op : Op) : DSNetManager → DSNetManager → Prop := Relation.ReflTransGen (Act op)

theorem Pumps.acts {m n : DSNetManager} (h : Pumps m n) (op : Op) : Acts op m n :=
  Relation.ReflTransGen.mono (fun m n hm => Act.pumped op m n hm) m n h

theorem acts_pump (op : Op) (m : DSNetManager) : Acts op m m.pump := (pumps_pump m).acts op

theorem acts_aside (op : Op) {m n : DSNetManager} (h : Aside m n) : Acts op m n :=
  .single (.aside op m n h)

theorem aside_onDisk (m : DSNetManager) (d : Disk) : Aside m (m.onDisk d) :=
  aside_of_fields rfl rfl

theorem messagePacket_type (m : DSNetManager) (user data : Bytes) (size : Int32) :
    (PacketHeader.read (m.messagePacket user data size)).type = packetMessage := by
  simp only [messagePacket, buildMessage, List.append_assoc, PacketHeader.read_write]

theorem Piece.acts {op : Op} {m n : DSNetManager} (h : Piece op m n) : Acts op m n := by
  cases h with
  | heeded _ _ _ h => exact h.pumps.acts op
  | glance _ _ d _ => exact acts_aside op (aside_onDisk m d)
  | configure _ _ h => cases op <;> first | exact acts_aside _ (aside_of_fields rfl rfl) | cases h
  | attempt _ users hoffline hphase => exact .single (.attempt m users hoffline hphase)
  | poll _ users found online block h => exact .single (.poll m users found online block h)
  | hangUp => exact .single (.hangUp m)
  | watch _ user hvalid h => exact .single (.watch m user hvalid h)
  | enrol _ user hvalid honline hnone => exact .single (.enrol m user hvalid honline hnone)
  | endAdd _ user => exact .single (.endAdd m user)
  | added _ user block h => exact .single (.added m user block h)
  | remove _ user => exact .single (.remove m user)
  | yield => exact .single (.yield m)
  | collect => exact .single (.collect m)
  | ask _ _ slot clock deadline packet honline hfree hpolls _ htype hok howns =>
    exact .single (.queried op m _ (.ask slot clock deadline packet honline.1 hfree
      (fun kind hkind => absurd hkind (hpolls kind)) htype hok howns))
  | refuse _ _ slot clock packet honline _ htype hok =>
    exact .single (.queried op m _ (.refuse slot clock packet honline.1 htype hok))
  | finish _ _ slot ticket transaction h hentry hdone howns =>
    exact .single (.queried op m _ (.finish slot ticket transaction h hentry hdone howns))
  | expire _ _ slot ticket h howns =>
    exact .single (.queried op m _ (.expire slot ticket h howns))
  | drop _ _ slot h howns => exact .single (.queried op m _ (.drop slot h howns))
  | nickName _ _ user name => exact .single (.nickName op m user name)
  | send _ _ user data size _ => exact .single (.send op m _ (messagePacket_type m user data size))
  | unqueue => exact acts_aside _ (aside_of_fields rfl rfl)
  | handOut => exact acts_aside _ (aside_of_fields rfl rfl)
  | list => exact acts_aside _ (aside_of_fields rfl rfl)
  | setAside => exact acts_aside _ (aside_of_fields rfl rfl)
  | post _ k name user data packet size _ _ _ hpacket hwritten =>
    obtain ⟨hlong, hfit⟩ :=
      buildMessage_length m.myServerUIN m.myUserUIN (BabelUIN.fromString user).2 data size
    have hsome : packet ≠ [] := by
      rw [hpacket]
      exact List.ne_nil_of_length_pos (by rw [messagePacket]; omega)
    have hpost := Act.post .scan m (m.myOutboxDirectory ++ name) packet
      (k.disk.remove (m.myOutboxDirectory ++ name)) (hpacket ▸ messagePacket_type m user
        data size) hsome
      (hpacket ▸ hfit) (by rw [hwritten])
    rw [hwritten] at hpost
    exact .single hpost

theorem Pieces.acts {op : Op} {m n : DSNetManager} (h : Pieces op m n) : Acts op m n := by
  induction h with
  | refl => exact .refl
  | tail _ hpiece ih => exact ih.trans hpiece.acts

/-- A command that waits asks when nothing is waited for. -/
theorem Made.acts {op : Op} {m n : DSNetManager} (h : Made op m n) (hidle : m.waiting = none) :
    Acts op m n := by
  rcases h with h | ⟨k, ⟨kind, packet, hop, honline, hsaid, htype, hok⟩, h⟩
  · exact h.acts
  · exact .head (.queried op m _ (.ask (.wait kind) m.clock 0 packet honline.1
      (by simp [pending, hidle]) (fun _ _ => ⟨hop, hidle⟩) htype hok trivial)) h.acts

theorem waitForTransaction_idle (m : DSNetManager) (fuel : ℕ) (kind : TransactionKind)
    (ticket : Int32)
    (timeoutMs : UInt32) (h : (m.waitForTransaction fuel kind ticket timeoutMs).1.isSome = true) :
    (m.waitForTransaction fuel kind ticket timeoutMs).2.waiting = none :=
  waitLoop_idle ticket _ fuel _ h

/-- When `IsUserOnline` has returned, nothing waits. -/
theorem isUserOnline_idle (m : DSNetManager) (fuel : ℕ) (user : Bytes) (hidle : m.waiting = none)
    (h : (m.isUserOnline fuel user).1.isSome = true) :
    (m.isUserOnline fuel user).2.waiting = none := by
  unfold isUserOnline at h ⊢
  simp only at h ⊢
  split_ifs at h ⊢
  · exact hidle
  · cases hknown : m.myPresence user with
    | some presence => exact hidle
    | none =>
      simp only [hknown, askUserOnline] at h ⊢
      split_ifs at h ⊢
      · rw [Option.isSome_map] at h
        exact waitForTransaction_idle _ fuel _ _ _ h
      · refine (abandonTransaction_waiting _ _).trans ?_
        exact (requested_waiting m (.wait .connectionDetail) m.clock _).trans hidle
  · exact hidle
  · exact hidle

theorem dsFeedHistory_idle (m : DSNetManager) (fuel : ℕ) (data : Option Bytes) (size : Int32)
    (hidle : m.waiting = none) (h : (m.dsFeedHistory fuel data size).1.isSome = true) :
    (m.dsFeedHistory fuel data size).2.waiting = none := by
  unfold dsFeedHistory at h ⊢
  cases data with
  | none => exact hidle
  | some bytes =>
    simp only at h ⊢
    split_ifs at h ⊢
    · exact hidle
    · rw [Option.isSome_map] at h
      exact waitForTransaction_idle _ fuel _ _ _ h
    · refine (abandonTransaction_waiting _ _).trans ?_
      exact (requested_waiting m (.wait .feedHistory) m.clock _).trans hidle

end DSNetManager
end NetNatsue
