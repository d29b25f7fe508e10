import NetNatsue.Manager.InStep
import NetNatsue.Manager.Steps
import NetNatsue.Socket.Wire

/-! The ways a frame can be met. Every claim about what arrives goes by these cases. -/
namespace NetNatsue.DSNetManager

/-- What the handling of one frame does. -/
inductive Met (m : DSNetManager) (frame : Bytes) : DSNetManager → Prop
  | response (transaction : Transaction)
    (h : answeredBy m.myTransactions (PacketHeader.read frame).ticket = some transaction) :
    Met m frame ((m.emit (.response (PacketHeader.read frame).ticket frame)).respond
      (PacketHeader.read frame).ticket (transaction.answer frame))
  | stray (h : m.myConnectPhase ≠ .awaitHandshake) :
    Met m frame (m.emit (.handshake m.myConnectPhase frame))
  | refused (h : m.myConnectPhase = .awaitHandshake)
    (hcode : handshakeErrorCode frame ≠ 0 ∨ (PacketHeader.read frame).fieldA = 0) :
    Met m frame ((m.emit (.handshake m.myConnectPhase frame)).refuseLogin
      (handshakeErrorCode frame))
  | accepted (h : m.myConnectPhase = .awaitHandshake)
    (hcode : ¬ (handshakeErrorCode frame ≠ 0 ∨ (PacketHeader.read frame).fieldA = 0)) :
    Met m frame ((m.emit (.handshake m.myConnectPhase frame)).acceptLogin
      ⟨(PacketHeader.read frame).fieldA, (PacketHeader.read frame).fieldB⟩
      ⟨(PacketHeader.read frame).fieldC, (PacketHeader.read frame).fieldD⟩
      (updatedServers frame (sizeInt frame)))
  | message (h : ServerPacket.ofType (PacketHeader.read frame).type = some .message) :
    Met m frame ((m.emit (.packet m.myConnectPhase (PacketHeader.read frame) frame)).handleMessage
      (frame.drop packetHeaderSize) (sizeInt frame - 32))
  | presence (uin : BabelUIN) (online : Bool) (nickName : Bytes)
    (h : presenceTold (PacketHeader.read frame) frame = some (uin, online, nickName)) :
    Met m frame ((m.emit (.packet m.myConnectPhase (PacketHeader.read frame) frame)).updatePresence
      uin online nickName)
  | circuit (h : ServerPacket.ofType (PacketHeader.read frame).type = some .virtualConnect) :
    Met m frame ((m.emit (.packet m.myConnectPhase (PacketHeader.read frame)
      frame)).handleVirtualConnect
      (PacketHeader.read frame)).2
  | ignored (hmessage : ServerPacket.ofType (PacketHeader.read frame).type ≠ some .message)
    (hcircuit : ServerPacket.ofType (PacketHeader.read frame).type ≠ some .virtualConnect)
    (htold : presenceTold (PacketHeader.read frame) frame = none) :
    Met m frame (m.emit (.packet m.myConnectPhase (PacketHeader.read frame) frame))

/-- What follows a frame in the buffer does not matter to its handler. -/
theorem handleFrame_front (m : DSNetManager) (input : Bytes) (totalSize : Int32)
    (h : cut m.myTransactions input = .frame totalSize) :
    m.handleFrame input totalSize =
      m.handleFrame (input.take totalSize.toInt.toNat)
        (sizeInt (input.take totalSize.toInt.toNat)) := by
  obtain ⟨hread, hsize, hdrop, hlength⟩ := cut_frame_split _ _ _ h
  obtain ⟨hlo, hhi, _⟩ := cut_frame_length _ _ _ h
  have hframe : (input.take totalSize.toInt.toNat).length = totalSize.toInt.toNat := by
    rw [List.length_take]
    omega
  have htake : (input.take totalSize.toInt.toNat).take totalSize.toInt.toNat =
      input.take totalSize.toInt.toNat := by rw [List.take_take, min_self]
  rw [hsize]
  cases hanswer : answeredBy m.myTransactions (PacketHeader.read input).ticket with
  | some transaction =>
    obtain ⟨_, hresult⟩ := handleResponse_frame _ _ _ _ h hanswer
    rw [Transaction.answer, hsize, hread] at hresult
    rw [handleFrame_response m input totalSize transaction hanswer,
      handleFrame_response m (input.take totalSize.toInt.toNat) totalSize transaction
        (by rw [hread]; exact hanswer), htake, hread, hresult]
  | none =>
    have hanswer' : answeredBy m.myTransactions
        (PacketHeader.read (input.take totalSize.toInt.toNat)).ticket = none := by
          rw [hread, hanswer]
    by_cases htype : ServerPacket.ofType (PacketHeader.read input).type = some .handshakeResponse
    · have hbehind :=
        fun n : DSNetManager => handleHandshakeResponse_append n (PacketHeader.read input)
        (input.take totalSize.toInt.toNat) (input.drop totalSize.toInt.toNat) totalSize (by omega)
        (by omega)
      rw [List.take_append_drop] at hbehind
      rw [handleFrame_handshake m input totalSize hanswer htype,
        handleFrame_handshake m (input.take totalSize.toInt.toNat) totalSize hanswer'
          (by rw [hread]; exact htype), htake, hread, hbehind]
    · rw [handleFrame_packet m input totalSize hanswer htype,
        handleFrame_packet m (input.take totalSize.toInt.toNat) totalSize hanswer'
          (by rw [hread]; exact htype), htake, hread, hdrop, handlePacket_append _ _ _
            _ _ hlength.le]

theorem handleHandshakeResponse_refused (m : DSNetManager) (header : PacketHeader) (raw : Bytes)
    (rawSize : Int32) (h : m.myConnectPhase = .awaitHandshake)
    (hcode : handshakeErrorCode raw ≠ 0 ∨ header.fieldA = 0) :
    m.handleHandshakeResponse header raw rawSize = m.refuseLogin (handshakeErrorCode raw) := by
  unfold handleHandshakeResponse
  rw [if_neg (not_not_intro h)]
  exact if_pos hcode

theorem handleHandshakeResponse_accepted (m : DSNetManager) (header : PacketHeader) (raw : Bytes)
    (rawSize : Int32) (h : m.myConnectPhase = .awaitHandshake)
    (hcode : ¬ (handshakeErrorCode raw ≠ 0 ∨ header.fieldA = 0)) :
    m.handleHandshakeResponse header raw rawSize =
      m.acceptLogin ⟨header.fieldA, header.fieldB⟩ ⟨header.fieldC, header.fieldD⟩
        (updatedServers raw rawSize) := by
  unfold handleHandshakeResponse
  rw [if_neg (not_not_intro h)]
  exact if_neg hcode

theorem met_userData (m : DSNetManager) (frame : Bytes) (online : Bool)
    (hmessage : ServerPacket.ofType (PacketHeader.read frame).type ≠ some .message)
    (hcircuit : ServerPacket.ofType (PacketHeader.read frame).type ≠ some .virtualConnect)
    (htold : presenceTold (PacketHeader.read frame) frame =
      (parseShortUserData (frame.drop packetHeaderSize) (sizeInt frame - 32)).map
        (fun d => (d.uin, online, d.nickName))) :
    Met m frame ((m.emit (.packet m.myConnectPhase (PacketHeader.read frame) frame)).handleUserData
      online (frame.drop packetHeaderSize) (sizeInt frame - 32)) := by
  unfold handleUserData
  cases hparse : parseShortUserData (frame.drop packetHeaderSize) (sizeInt frame - 32) with
  | none =>
    rw [hparse] at htold
    exact .ignored hmessage hcircuit htold
  | some userData =>
    rw [hparse] at htold
    exact .presence _ _ _ htold

/-- Every packet is met in one of these ways. -/
theorem met_handlePacket (m : DSNetManager) (frame : Bytes) :
    Met m frame ((m.emit (.packet m.myConnectPhase (PacketHeader.read frame) frame)).handlePacket
      (PacketHeader.read frame) (frame.drop packetHeaderSize) (sizeInt frame - 32)).2 := by
  unfold handlePacket
  cases hpacket : ServerPacket.ofType (PacketHeader.read frame).type with
  | none => exact .ignored (by simp [hpacket]) (by simp [hpacket]) (by simp [presenceTold, hpacket])
  | some packet =>
    cases packet
    case message => exact .message hpacket
    case userOnline =>
      exact met_userData m frame true (by simp [hpacket]) (by simp [hpacket])
        (by simp only [presenceTold, hpacket])
    case userOffline =>
      exact met_userData m frame false (by simp [hpacket]) (by simp [hpacket])
        (by simp only [presenceTold, hpacket])
    case onlineChange => exact .presence _ _ _ (by simp only [presenceTold, hpacket])
    case virtualConnect => exact .circuit hpacket
    all_goals exact .ignored (by simp [hpacket]) (by simp [hpacket]) (by simp [presenceTold, hpacket])

/-- Every frame is met in one of these ways. -/
theorem met_deliver (m : DSNetManager) (frame : Bytes) (h : (sizeInt frame).toInt = frame.length) :
    Met m frame (m.deliver frame) := by
  have hall : frame.take (sizeInt frame).toInt.toNat = frame := by
    rw [h, Int.toNat_natCast, List.take_length]
  unfold deliver
  cases hclaim : answeredBy m.myTransactions (PacketHeader.read frame).ticket with
  | some transaction =>
    rw [handleFrame_response m frame _ transaction hclaim, hall]
    exact .response transaction hclaim
  | none =>
    by_cases htype : ServerPacket.ofType (PacketHeader.read frame).type = some .handshakeResponse
    · rw [handleFrame_handshake m frame _ hclaim htype, hall]
      by_cases hphase : m.myConnectPhase = .awaitHandshake
      · by_cases hcode : handshakeErrorCode frame ≠ 0 ∨ (PacketHeader.read frame).fieldA = 0
        · rw [handleHandshakeResponse_refused (m.emit _) _ _ _ hphase hcode]
          exact .refused hphase hcode
        · rw [handleHandshakeResponse_accepted (m.emit _) _ _ _ hphase hcode]
          exact .accepted hphase hcode
      · rw [handleHandshakeResponse_stray (m.emit _) _ _ _ hphase]
        exact .stray hphase
    · rw [handleFrame_packet m frame _ hclaim htype, hall]
      exact met_handlePacket m frame

/-- The frame at the front of the buffer. -/
theorem met_handleFrame (m : DSNetManager) (totalSize : Int32)
    (h : cut m.myTransactions m.mySocket.myInput = .frame totalSize) :
    Met m (m.mySocket.myInput.take totalSize.toInt.toNat)
      (m.handleFrame m.mySocket.myInput totalSize).2 := by
  obtain ⟨_, hsize, _, _⟩ := cut_frame_split _ _ _ h
  obtain ⟨hlo, hhi, _⟩ := cut_frame_length _ _ _ h
  rw [handleFrame_front m _ totalSize h]
  apply met_deliver
  rw [hsize, List.length_take]
  omega

end NetNatsue.DSNetManager
