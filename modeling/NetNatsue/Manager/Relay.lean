import NetNatsue.Manager.HangUp
import NetNatsue.Manager.Spooling

/-! A message on its way from one client through the server to another. -/
namespace NetNatsue

/-- What the server makes of a message packet: a header of its own, and the Packed Babel Message. -/
def relayed (header : PacketHeader) (packet : Bytes) : Bytes := header.write ++ packet.drop 40

/-- The header of a relayed message with so many bytes of payload. -/
structure RelayHeader (header : PacketHeader) (payloadSize : ℕ) : Prop where
  type : header.type = packetMessage
  ticket : header.ticket = 0
  furtherData : header.furtherData.toInt = 24 + payloadSize

theorem relayed_read (header : PacketHeader) (packet : Bytes) :
    PacketHeader.read (relayed header packet) = header := PacketHeader.read_write _ _

section
variable (header : PacketHeader) (server sender target : BabelUIN) (payload : Bytes)

theorem relayed_length (hfit : payload.length < 2147483648) :
    (relayed header (buildMessage server sender target payload (sizeInt payload))).length =
      56 + payload.length := by
  rw [relayed, buildMessage_packed server sender target payload hfit]
  simp only [List.length_append, PacketHeader.write_length, packetHeaderSize, putInt_length]
  omega

theorem relayed_frame (hheader : RelayHeader header payload.length)
    (hfit : 24 + payload.length ≤ 33554432) (transactions : Int32 → Option Transaction) :
    ServerFrame transactions
      (relayed header (buildMessage server sender target payload (sizeInt payload))) := by
  have hread := relayed_read header (buildMessage server sender target payload (sizeInt payload))
  have hlength := relayed_length header server sender target payload (by omega)
  refine .unsolicited .message ?_ ?_ ?_ ?_ (fun h => by cases h) ?_
  · rw [hread, hheader.type]
    rfl
  · rw [hread, hheader.ticket]
    rfl
  · rw [hread, hheader.furtherData]
    omega
  · rw [hread, hheader.furtherData]
    omega
  · rw [unsolicitedLength, hread, hheader.furtherData, hlength]
    omega

/-- A relayed message is handed to its handler as it was packed. -/
theorem handleFrame_relayed (m : DSNetManager) (packet : Bytes)
    (hpacket : packet =
      relayed header (buildMessage server sender target payload (sizeInt payload)))
    (hlo : 0 ≤ sender.hid.toInt) (hhi : sender.hid.toInt ≤ 65535) (hlong : 12 ≤ payload.length)
    (hfit : 24 + payload.length ≤ 33554432) (hheader : RelayHeader header payload.length) :
    m.handleFrame packet (sizeInt packet) =
      (true,
        if getInt payload 4 = mesgPrayFile then
          (m.emit (.packet m.myConnectPhase header packet)).spoolPrayFile sender (payload.drop 12)
        else
          ({ m with
            myIncomingMessages := m.myIncomingMessages ++
              [{ user := sender.toString, type := getInt payload 4, payload := payload.drop 12 }] } :
            DSNetManager).emit (.packet m.myConnectPhase header packet)) := by
  have hread : PacketHeader.read packet = header := hpacket ▸ relayed_read header _
  have hlength : packet.length = 56 + payload.length :=
    hpacket ▸ relayed_length header server sender target payload (by omega)
  have hsize := sizeInt_toInt packet (by omega)
  have h32 : (32 : Int32).toInt = 32 := rfl
  have hbody := Word32.toInt_sub_exact (sizeInt packet) 32 (by omega) (by omega)
  have hparse := parsePackedBabelMessage_built server sender target payload (sizeInt packet - 32)
    hlo hhi hlong (by omega)
  have hdrop : packet.drop packetHeaderSize =
      (buildMessage server sender target payload (sizeInt payload)).drop 40 :=
    hpacket ▸ List.drop_left' (PacketHeader.write_length header)
  have hall : packet.take (sizeInt packet).toInt.toNat = packet := by
    rw [hsize, Int.toNat_natCast, List.take_length]
  have htype : ServerPacket.ofType header.type = some .message := by
    rw [hheader.type]
    rfl
  rw [DSNetManager.handleFrame_packet m _ _ (by rw [hread, hheader.ticket]; rfl)
    (by rw [hread, htype]; decide), hread, hall, hdrop]
  simp only [DSNetManager.handlePacket, htype, DSNetManager.handleMessage, hparse]
  split_ifs <;> rfl

end

namespace DSNetManager

/-- **A message makes it from client to client.** The receiver takes exactly the relayed packet, and
what it spools or hands to the engine is the payload behind its header, with the id of the sender
and the type in the payload. What it spools is a new file of the inbox, named after the sender. -/
theorem message_round_trip (m : DSNetManager) (header : PacketHeader)
    (server sender target : BabelUIN) (payload packet : Bytes) (hempty : m.mySocket.myInput = [])
    (hpacket : packet =
      relayed header (buildMessage server sender target payload (sizeInt payload)))
    (hlo : 0 ≤ sender.hid.toInt) (hhi : sender.hid.toInt ≤ 65535) (hlong : 12 ≤ payload.length)
    (hfit : 24 + payload.length ≤ 33554432) (hheader : RelayHeader header payload.length) :
    (getInt payload 4 = mesgPrayFile → (m.receive packet).processInput =
      (m.emit (.packet m.myConnectPhase header packet)).spoolPrayFile sender (payload.drop 12)) ∧
    (getInt payload 4 = mesgPrayFile → m.myInboxDirectory ≠ [] → ∀ names : Finset Bytes,
      m.Ready m.myInboxDirectory names → names.card < 4294967296 → ∃ serial,
        m.disk.Gains (m.receive packet).processInput.disk m.myInboxDirectory
          (m.myInboxDirectory ++ spoolName serial sender) (payload.drop 12)) ∧
    (getInt payload 4 ≠ mesgPrayFile → (m.receive packet).processInput =
      ({ m with
        myIncomingMessages := m.myIncomingMessages ++
          [{ user := sender.toString, type := getInt payload 4, payload := payload.drop 12 }] } :
        DSNetManager).emit (.packet m.myConnectPhase header packet)) ∧
    ∀ rest : Bytes, packet.length + rest.length < 2147483648 →
      (m.receive (packet ++ rest)).processInput =
        ((m.receive packet).processInput.receive rest).processInput := by
  have hframe : ServerFrame m.myTransactions packet :=
    hpacket ▸ relayed_frame header server sender target payload hheader hfit m.myTransactions
  have hhandled :=
    handleFrame_relayed header server sender target payload m packet hpacket hlo hhi hlong
    hfit hheader
  have hok : (m.handleFrame packet (sizeInt packet)).1 = true := by rw [hhandled]
  obtain ⟨hdecided, hround⟩ := processInputBody_packet m packet hempty hframe hok
  have hempty' : (m.deliver packet).mySocket.myInput = [] := (deliver_input m packet).trans hempty
  have hinput : (m.receive packet).mySocket.myInput = packet := by
    simp [receive, NetNatsueSocket.receive, hempty]
  have hprocess : (m.receive packet).processInput = m.deliver packet := by
    rw [processInput, Loop.run_again processInput_descends hround, ← processInput,
      processInput_empty _ hempty']
  have hspooled : getInt payload 4 = mesgPrayFile → (m.receive packet).processInput =
      (m.emit (.packet m.myConnectPhase header packet)).spoolPrayFile sender (payload.drop 12) :=
        fun hpray => by
    rw [hprocess, deliver, hhandled, if_pos hpray]
  refine ⟨hspooled, fun hpray hinbox names hready hfew => ?_, fun hengine => ?_,
    fun rest hroom => ?_⟩
  · have hready' : (m.emit (.packet m.myConnectPhase header packet)).Ready
        m.myInboxDirectory names :=
      ⟨rfl, hready.succeeds, hready.holds⟩
    obtain ⟨⟨path, hpath, hgains⟩, _⟩ := hready'.spool hinbox hfew (sender, payload.drop 12)
    rw [Disk.spoolPath, if_neg hinbox] at hpath
    obtain ⟨serial, rfl⟩ := freeSpoolPath_name hpath
    rw [hspooled hpray]
    exact ⟨serial, hgains⟩
  · rw [hprocess, deliver, hhandled, if_neg hengine]
  · have hlater :=
      processInputBody_receive (m.receive packet) rest hdecided (by rw [hinput]; exact hroom)
    rw [hround, receive_append] at hlater
    rw [processInput, Loop.run_again processInput_descends hlater, ← processInput, hprocess]

/-- A short message from user 7+1 to an online client. -/
theorem message_round_trip_hello :
    let payload := putInt 12 ++ putInt 5 ++ putInt 0 ++ ascii "hello"
    let header : PacketHeader := { type := packetMessage, furtherData := 41 }
    let packet := relayed header (buildMessage ⟨1, 1⟩ ⟨7, 1⟩ ⟨5, 1⟩ payload (sizeInt payload))
    (freshOnline.receive packet).processInput.myIncomingMessages =
      [{ user := ascii "7+1", type := 5, payload := ascii "hello" }] := by
  intro payload header packet
  have hround := (message_round_trip freshOnline header ⟨1, 1⟩ ⟨7, 1⟩ ⟨5, 1⟩ payload packet rfl rfl
    (by decide) (by decide) (by decide) (by decide) ⟨rfl, rfl, by decide⟩).2.2.1 (by decide)
  rw [hround]
  decide

end DSNetManager
end NetNatsue
