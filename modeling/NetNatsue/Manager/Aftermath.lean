import NetNatsue.Manager.Meeting

/-! What a frame that is met leaves alone. -/
namespace NetNatsue

/-- What may be on record of the handling of a frame, behind the frame itself. -/
def Event.Wake : Event → Prop
  | .wrote _ _ | .registered _ | .issued _ | .ended => True
  | _ => False

/-- The members that a login changes, a scan, or a call that sets them: the time, where to connect,
and the files. -/
structure Affairs where
  clock : Stream' UInt32
  deadline : UInt32
  overrideHost : Bytes
  overridePort : Int32
  servers : List CBabelServerInfo
  rotation : Int32
  disk : Disk
  inbox : Bytes
  outbox : Bytes
  dirty : Bool
  nextScan : UInt32
  queued : List QueuedMessage

namespace DSNetManager

def affairs (m : DSNetManager) : Affairs :=
  { clock := m.clock, deadline := m.myConnectDeadline, overrideHost := m.ourOverrideHost
    overridePort := m.ourOverridePort, servers := m.myServers, rotation := m.myServerRotation
    disk := m.disk, inbox := m.myInboxDirectory, outbox := m.myOutboxDirectory
    dirty := m.myOutboxDirty, nextScan := m.myNextOutboxScan, queued := m.myQueuedMessages }

/-- The affairs are as they were, nothing has been read from the line or taken from the buffer, and
no frame is on record. -/
structure Spares (m n : DSNetManager) : Prop where
  affairs : n.affairs = m.affairs
  uses : m.mySocket.Uses n.mySocket
  input : n.mySocket.myInput = m.mySocket.myInput
  received : n.mySocket.os.received n.mySocket.os.connection =
    m.mySocket.os.received m.mySocket.os.connection
  counted : m.mySocket.Counted → n.mySocket.Counted
  trace : ∃ events, n.trace = m.trace ++ events ∧ ∀ e ∈ events, e.Wake

section
variable {m n k : DSNetManager}

theorem Spares.trans (h : Spares m n) (h' : Spares n k) : Spares m k where
  affairs := h'.affairs.trans h.affairs
  uses := h.uses.trans h'.uses
  input := h'.input.trans h.input
  received := h'.received.trans h.received
  counted hm := h'.counted (h.counted hm)
  trace := by
    obtain ⟨events, htrace, hevents⟩ := h.trace
    obtain ⟨more, hmore, hmore'⟩ := h'.trace
    refine ⟨events ++ more, by rw [hmore, htrace, List.append_assoc], fun e he => ?_⟩
    exact (List.mem_append.mp he).elim (hevents e) (hmore' e)

/-- The socket is left alone. -/
theorem spares_of_socket (events : List Event) (htrace : n.trace = m.trace ++ events)
    (hevents : ∀ e ∈ events, e.Wake) (haffairs : n.affairs = m.affairs)
    (hsocket : n.mySocket = m.mySocket) :
    Spares m n := by
  refine ⟨haffairs, ?_, ?_, ?_, ?_, events, htrace, hevents⟩ <;> rw [hsocket]
  · exact id

theorem spares_of_eq (htrace : n.trace = m.trace) (haffairs : n.affairs = m.affairs)
    (hsocket : n.mySocket = m.mySocket) : Spares m n :=
  spares_of_socket [] (by rw [htrace, List.append_nil]) (by simp) haffairs hsocket

/-- The connection is given up. -/
theorem spares_close (events : List Event) (htrace : n.trace = m.trace ++ events)
    (hevents : ∀ e ∈ events, e.Wake) (haffairs : n.affairs = m.affairs)
    (hsocket : n.mySocket = m.mySocket.close) : Spares m n := by
  refine ⟨haffairs, ?_, ?_, ?_, ?_, events, htrace, hevents⟩ <;> rw [hsocket]
  · exact .single (.close _)
  · rfl
  · rfl
  · exact fun hcounted => hcounted.close

end

section
variable (m : DSNetManager)

theorem spares_connectionLost : Spares m m.connectionLost :=
  spares_close [.ended] rfl (List.forall_mem_singleton.mpr trivial) rfl rfl

theorem spares_socketWrite (packet : Bytes) : Spares m (m.socketWrite packet).2 := by
  obtain ⟨hinput, hreceived⟩ := m.mySocket.write_reads packet (sizeInt packet)
  have haffairs : (m.socketWrite packet).2.affairs = m.affairs := by
    simp only [socketWrite]
    split_ifs <;> rfl
  have htrace : ∃ events, (m.socketWrite packet).2.trace = m.trace ++ events ∧
      ∀ e ∈ events, e.Wake := by
    cases hok : (m.socketWrite packet).1 with
    | true =>
      rw [socketWrite_ok m packet hok]
      exact ⟨[_], rfl, List.forall_mem_singleton.mpr trivial⟩
    | false =>
      rw [socketWrite_failed m packet hok]
      exact ⟨[], (List.append_nil _).symm, by simp⟩
  refine ⟨haffairs, ?_, ?_, ?_, ?_, htrace⟩ <;> rw [socketWrite_socket]
  · exact .single (.write _ _ _)
  · exact hinput
  · exact hreceived
  · exact fun hcounted => hcounted.write packet _

theorem spares_failWith (rawError : Int32) : Spares m (m.failWith rawError) :=
  spares_of_eq rfl rfl rfl

theorem spares_sendHandshake : Spares m m.sendHandshake := by
  have hticket : Spares m m.nextTicket.2 :=
    spares_of_socket [.issued _] rfl (List.forall_mem_singleton.mpr trivial) rfl rfl
  have hwrite :=
    hticket.trans (spares_socketWrite m.nextTicket.2 (m.handshakePacket m.nextTicket.1))
  simp only [sendHandshake]
  split_ifs
  · exact hwrite.trans (spares_of_eq rfl rfl rfl)
  · exact hwrite.trans (spares_failWith _ _)

theorem spares_registrations (users : List Bytes) : Spares m (sendWWRRegistrations users m) := by
  refine sendWWRRegistrations_keeps (Spares m) users m (spares_of_eq rfl rfl rfl) ?_ ?_
  · rintro n user hn
    exact hn.trans
      (spares_of_socket [.registered user] rfl (List.forall_mem_singleton.mpr trivial) rfl rfl)
  · rintro n target hn
    exact hn.trans (spares_socketWrite n _)

theorem spares_circuit (header : PacketHeader) :
    Spares m (m.handleVirtualConnect header).2 ∧
      ((m.handleVirtualConnect header).2.myConnectPhase = m.myConnectPhase ∨
        (m.handleVirtualConnect header).2.myConnectPhase = .idle ∧
          ¬ (m.handleVirtualConnect header).2.mySocket.Live) := by
  have hnumber : Spares m m.nextVSN.2 := spares_of_eq rfl rfl rfl
  have hwrite := fun packet => hnumber.trans (spares_socketWrite m.nextVSN.2 packet)
  simp only [handleVirtualConnect]
  split_ifs
  · exact ⟨hwrite _, Or.inl (socketWrite_phase _ _)⟩
  · exact ⟨(hwrite _).trans (spares_connectionLost _),
      Or.inr ⟨rfl, NetNatsueSocket.down_of (Or.inl rfl)⟩⟩

end

/-- What is on record of a frame that decides about no login. -/
inductive Shown (m : DSNetManager) (frame : Bytes) : Event → Prop
  | response : Shown m frame (.response (PacketHeader.read frame).ticket frame)
  | stray (h : m.myConnectPhase ≠ .awaitHandshake) :
    Shown m frame (.handshake m.myConnectPhase frame)
  | packet : Shown m frame (.packet m.myConnectPhase (PacketHeader.read frame) frame)

/-- What is left behind a frame. A PRAY file is spooled, a login is refused or accepted, and any
other frame spares the affairs. -/
inductive Aftermath (m : DSNetManager) (frame : Bytes) : DSNetManager → Prop
  | spared (n : DSNetManager) (e : Event) (hshown : Shown m frame e) (h : Spares (m.emit e) n)
    (hphase : n.myConnectPhase = m.myConnectPhase ∨ n.myConnectPhase = .idle ∧ ¬ n.mySocket.Live) :
    Aftermath m frame n
  | spooled (sender : BabelUIN) (payload : Bytes) :
    Aftermath m frame ((m.emit (.packet m.myConnectPhase (PacketHeader.read frame)
      frame)).spoolPrayFile
      sender payload)
  | refused (n : DSNetManager) (hphase : m.myConnectPhase = .awaitHandshake)
    (hcode : handshakeErrorCode frame ≠ 0 ∨ (PacketHeader.read frame).fieldA = 0)
    (h : Spares (m.emit (.handshake m.myConnectPhase frame)) n)
    (hfailed : n.myConnectPhase = .failed) (hdown : ¬ n.mySocket.Live) : Aftermath m frame n
  | accepted (n : DSNetManager) (server user : BabelUIN)
    (hphase : m.myConnectPhase = .awaitHandshake)
    (hcode : ¬ (handshakeErrorCode frame ≠ 0 ∨ (PacketHeader.read frame).fieldA = 0))
    (h : Spares ((m.emit (.handshake m.myConnectPhase frame)).admitted server user
      (updatedServers frame (sizeInt frame))) n)
    (honline : n.myConnectPhase = .online) :
    Aftermath m frame { n with myUsersForWWR := [], myOutboxDirty := true }

/-- **Every frame leaves one of these behind.** -/
theorem Met.aftermath {m n : DSNetManager} {frame : Bytes} (h : Met m frame n) :
    Aftermath m frame n := by
  have hsame : ∀ (e : Event) (k : DSNetManager), Shown m frame e → k.trace = (m.emit e).trace →
      k.affairs = m.affairs → k.mySocket = m.mySocket → k.myConnectPhase = m.myConnectPhase →
      Aftermath m frame k :=
    fun e k hshown htrace haffairs hsocket hphase =>
      .spared k e hshown (spares_of_eq htrace haffairs hsocket) (Or.inl hphase)
  cases h with
  | response => exact hsame _ _ .response rfl rfl rfl rfl
  | stray hphase => exact hsame _ _ (.stray hphase) rfl rfl rfl rfl
  | refused hphase hcode =>
    exact .refused _ hphase hcode (spares_close [] (List.append_nil _).symm (by simp) rfl rfl) rfl
      (NetNatsueSocket.down_of (Or.inl rfl))
  | accepted hphase hcode =>
    have honline := acceptLogin_phase (m.emit (.handshake m.myConnectPhase frame))
      ⟨(PacketHeader.read frame).fieldA, (PacketHeader.read frame).fieldB⟩
      ⟨(PacketHeader.read frame).fieldC, (PacketHeader.read frame).fieldD⟩
      (updatedServers frame (sizeInt frame))
    rw [acceptLogin_admitted] at honline ⊢
    exact .accepted _ _ _ hphase hcode (spares_registrations _ _) honline
  | message =>
    simp only [handleMessage]
    cases parsePackedBabelMessage (frame.drop packetHeaderSize) (sizeInt frame - 32) with
    | none => exact hsame _ _ .packet rfl rfl rfl rfl
    | some message =>
      simp only
      split_ifs
      · exact .spooled message.sender message.payload
      · exact hsame _ _ .packet rfl rfl rfl rfl
  | presence uin online nickName =>
    obtain ⟨changed, adds, hframe⟩ := (m.emit (.packet m.myConnectPhase (PacketHeader.read frame)
      frame)).updatePresence_frame uin online nickName
    rw [hframe]
    exact hsame _ _ .packet rfl rfl rfl rfl
  | circuit =>
    obtain ⟨hspares, hphase⟩ := spares_circuit
      (m.emit (.packet m.myConnectPhase (PacketHeader.read frame) frame)) (PacketHeader.read frame)
    exact .spared _ _ .packet hspares hphase
  | ignored => exact hsame _ _ .packet rfl rfl rfl rfl

/-- No frame brings up a socket that is down. -/
theorem Met.down {m n : DSNetManager} {frame : Bytes} (h : Met m frame n)
    (hdown : ¬ m.mySocket.Live) :
    ¬ n.mySocket.Live := by
  cases h.aftermath with
  | spared _ _ _ hspares => exact hspares.uses.drifts.down hdown
  | spooled => exact hdown
  | refused _ _ _ hspares => exact hspares.uses.drifts.down hdown
  | accepted k _ _ _ _ hspares => exact hspares.uses.drifts.down hdown

end DSNetManager
end NetNatsue
