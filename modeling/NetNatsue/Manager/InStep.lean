import NetNatsue.Manager.Chunking

/-! The framer stays in step with the server: whole packets are taken one by one. -/
namespace NetNatsue

/-- The length a server gives an unsolicited packet of each type. -/
def unsolicitedLength (packet : ServerPacket) (bytes : Bytes) : ℤ :=
  match packet with
  | .message | .userOnline | .userOffline => 32 + (PacketHeader.read bytes).furtherData.toInt
  | .handshakeResponse => 48 + (getInt bytes 44).toInt
  | .clientCommand => 36
  | .virtualConnect => 44
  | .virtualCircuit => 44 + (PacketHeader.read bytes).furtherData.toInt
  | .onlineChange | .virtualCircuitClose | .migrate => 32

/-- A packet as a server sends it to a client with the given open transactions. -/
inductive ServerFrame (transactions : Int32 → Option Transaction) (bytes : Bytes) : Prop
  | unsolicited (packet : ServerPacket)
      (htype : ServerPacket.ofType (PacketHeader.read bytes).type = some packet)
      (hunclaimed : answeredBy transactions (PacketHeader.read bytes).ticket = none)
      (hfurther : 0 ≤ (PacketHeader.read bytes).furtherData.toInt)
      (hfurther' : (PacketHeader.read bytes).furtherData.toInt ≤ 33554432)
      (hadditional : packet = .handshakeResponse →
        0 ≤ (getInt bytes 44).toInt ∧ (getInt bytes 44).toInt ≤ 33554432)
      (hlength : bytes.length = unsolicitedLength packet bytes)
  | response (transaction : Transaction)
      (hclaimed : answeredBy transactions (PacketHeader.read bytes).ticket = some transaction)
      (hopen : transaction.done = false ∨ transaction.kind = .abandoned)
      (hfurther : 0 ≤ (PacketHeader.read bytes).furtherData.toInt)
      (hfurther' : (PacketHeader.read bytes).furtherData.toInt ≤ 33554432)
      (hlength : bytes.length =
        32 + transaction.fixedExtra.val.toInt + (PacketHeader.read bytes).furtherData.toInt)

theorem furtherData_accepted (d : Int32) (hlo : 0 ≤ d.toInt) (hhi : d.toInt ≤ 33554432) :
    ¬ (d < 0 ∨ d > maxFurtherData) := by
  have hmax : maxFurtherData.toInt = 33554432 := rfl
  simp only [not_or, gt_iff_lt, Word32.lt_iff, Word32.toInt_zero]
  omega

/-- A word is known by its value. -/
theorem frame_sizeInt (bytes : Bytes) (n : Int32) (hfit : bytes.length < 2147483648)
    (h : (bytes.length : ℤ) = n.toInt) : n = sizeInt bytes := by
  apply Int32.toInt_inj.mp
  rw [sizeInt_toInt bytes hfit, h]

/-- The framer gives an unsolicited packet the length the server gave it. -/
theorem unsolicitedSize_exact (packet : ServerPacket) (bytes : Bytes)
    (htype : ServerPacket.ofType (PacketHeader.read bytes).type = some packet)
    (hfurther : 0 ≤ (PacketHeader.read bytes).furtherData.toInt)
    (hfurther' : (PacketHeader.read bytes).furtherData.toInt ≤ 33554432)
    (hadditional : packet = .handshakeResponse →
      0 ≤ (getInt bytes 44).toInt ∧ (getInt bytes 44).toInt ≤ 33554432)
    (hlength : bytes.length = unsolicitedLength packet bytes) :
    32 ≤ bytes.length ∧ bytes.length < 2147483648 ∧
      unsolicitedSize bytes (sizeInt bytes) (PacketHeader.read bytes) = .frame (sizeInt bytes) := by
  have hplain := toInt_add_checked 32 _ (by decide) (by decide) hfurther hfurther'
  have hcircuit := toInt_add_checked 44 _ (by decide) (by decide) hfurther hfurther'
  have h32 : (32 : Int32).toInt = 32 := rfl
  have h36 : (36 : Int32).toInt = 36 := rfl
  have h44 : (44 : Int32).toInt = 44 := rfl
  have h48 : (48 : Int32).toInt = 48 := rfl
  simp only [unsolicitedSize, htype]
  cases packet
  case handshakeResponse =>
    obtain ⟨ha, ha'⟩ := hadditional rfl
    have hsum := toInt_add_checked 48 _ (by decide) (by decide) ha ha'
    simp only [unsolicitedLength] at hlength
    have hfit : bytes.length < 2147483648 := by omega
    have hlong : ¬ sizeInt bytes < 48 := by
      rw [sizeInt_lt_iff _ _ hfit]
      omega
    simp only [hlong, furtherData_accepted _ ha ha', ↓reduceIte]
    exact ⟨by omega, hfit, congrArg Cut.frame (frame_sizeInt _ _ hfit (by omega))⟩
  all_goals
    simp only [unsolicitedLength] at hlength
    have hfit : bytes.length < 2147483648 := by omega
    exact ⟨by omega, hfit, congrArg Cut.frame (frame_sizeInt _ _ hfit (by omega))⟩

/-- A whole packet alone in the buffer is cut as it was sent. -/
theorem ServerFrame.cut_eq {transactions : Int32 → Option Transaction} {bytes : Bytes}
    (h : ServerFrame transactions bytes) :
    32 ≤ bytes.length ∧ bytes.length < 2147483648 ∧
      cut transactions bytes = .frame (sizeInt bytes) := by
  have hclaim : 32 ≤ bytes.length ∧ bytes.length < 2147483648 ∧
      ¬ ((PacketHeader.read bytes).furtherData < 0 ∨
        (PacketHeader.read bytes).furtherData > maxFurtherData) ∧
      claimedSize transactions bytes (sizeInt bytes) (PacketHeader.read bytes) =
        .frame (sizeInt bytes) := by
    cases h with
    | unsolicited packet htype hunclaimed hfurther hfurther' hadditional hlength =>
      obtain ⟨hlo, hhi, hsize⟩ :=
        unsolicitedSize_exact packet bytes htype hfurther hfurther' hadditional hlength
      refine ⟨hlo, hhi, furtherData_accepted _ hfurther hfurther', ?_⟩
      simp only [claimedSize, hunclaimed]
      exact hsize
    | response transaction hclaimed _ hfurther hfurther' hlength =>
      obtain ⟨he, he', hextra⟩ := extra_toInt transaction.fixedExtra
      have hsum := toInt_add_checked (32 + transaction.fixedExtra.val) _ (by omega) (by omega)
        hfurther hfurther'
      refine ⟨by omega, by omega, furtherData_accepted _ hfurther hfurther', ?_⟩
      simp only [claimedSize, hclaimed]
      exact congrArg Cut.frame (frame_sizeInt _ _ (by omega) (by omega))
  obtain ⟨hlo, hhi, hberserk, hsize⟩ := hclaim
  have h32 : (32 : Int32).toInt = 32 := rfl
  have hlong : ¬ sizeInt bytes < 32 := by
    rw [sizeInt_lt_iff _ _ hhi]
    omega
  have hself : ¬ sizeInt bytes < sizeInt bytes := by
    rw [Word32.lt_iff]
    omega
  refine ⟨hlo, hhi, ?_⟩
  simp only [cut, hlong, hberserk, hsize, hself, ↓reduceIte]

namespace DSNetManager

/-- Handle one whole packet. -/
def deliver (m : DSNetManager) (packet : Bytes) : DSNetManager :=
  (m.handleFrame packet (sizeInt packet)).2

/-- Every packet is one its server could send when the ones before it have been handled. -/
def InStep : DSNetManager → List Bytes → Prop
  | _, [] => True
  | m, packet :: packets =>
    ServerFrame m.myTransactions packet ∧ InStep (m.deliver packet) packets

theorem deliver_input (m : DSNetManager) (packet : Bytes) :
    (m.deliver packet).mySocket.myInput = m.mySocket.myInput := handleFrame_input m packet _

theorem consume_all (m : DSNetManager) (packet : Bytes) (hempty : m.mySocket.myInput = [])
    (hsome : 0 < packet.length) (hfit : packet.length < 2147483648) :
    (m.receive packet).consume (sizeInt packet) = m := by
  have hsize := sizeInt_toInt packet hfit
  have hinput : (m.mySocket.receive packet).myInput = packet := by
    simp [NetNatsueSocket.receive, hempty]
  have hall := NetNatsueSocket.consumeInput_exact (m.mySocket.receive packet) (sizeInt packet)
    (by omega) (by rw [hinput]; omega) (by rw [hinput]; exact hfit)
  have hdrop : packet.drop (sizeInt packet).toInt.toNat = [] := List.drop_eq_nil_of_le (by omega)
  simp only [consume, receive, hall, hinput, hdrop]
  simp only [NetNatsueSocket.receive, NetNatsueSocket.withInput, ← hempty]

/-- The loop takes a whole packet in one round. -/
theorem processInputBody_packet (m : DSNetManager) (packet : Bytes)
    (hempty : m.mySocket.myInput = []) (h : ServerFrame m.myTransactions packet)
    (hok : (m.handleFrame packet (sizeInt packet)).1 = true) :
    ¬ (m.receive packet).Waiting ∧
      (m.receive packet).processInputBody = .again (m.deliver packet) := by
  obtain ⟨hlo, hhi, hcut⟩ := h.cut_eq
  have hinput : (m.receive packet).mySocket.myInput = packet := by
    simp [receive, NetNatsueSocket.receive, hempty]
  have hcut' : cut (m.receive packet).myTransactions (m.receive packet).mySocket.myInput =
      .frame (sizeInt packet) := by
    rw [hinput]
    exact hcut
  constructor
  · rw [Waiting, hcut']
    exact Cut.noConfusion
  · rw [processInputBody_frame _ _ hcut', hinput, handleFrame_receive]
    simp only [hok, not_true_eq_false, ↓reduceIte]
    rw [consume_all _ packet ((handleFrame_input m packet _).trans hempty) (by omega) hhi]
    rfl

theorem socketWrite_sound (m : DSNetManager) (packet : Bytes) (h : m.mySocket.Sound)
    (hfit : packet.length < 2147483648) :
    (m.socketWrite packet).1 = true ∧ (m.socketWrite packet).2.mySocket.Sound := by
  obtain ⟨hok, hsound⟩ := h.write packet (sizeInt packet) (by rw [sizeInt_toInt _ hfit]; omega)
  simp only [socketWrite, hok, ↓reduceIte, true_and]
  exact hsound

theorem handleVirtualConnect_sound (m : DSNetManager) (header : PacketHeader)
    (h : m.mySocket.Sound) :
    (m.handleVirtualConnect header).1 = true ∧
    (m.handleVirtualConnect header).2.mySocket.Sound := by
  obtain ⟨hok, hsound⟩ := socketWrite_sound m.nextVSN.2 (buildVirtualConnectAccept m.myServerUIN
    ⟨header.fieldC, header.fieldD⟩ header.fieldE m.nextVSN.1) h (by simp)
  simp only [handleVirtualConnect, hok, not_true_eq_false, ↓reduceIte, true_and]
  exact hsound

/-- A sound connection answers every circuit request and stays sound. -/
theorem handleFrame_sound (m : DSNetManager) (raw : Bytes) (totalSize : Int32)
    (hphase : m.myConnectPhase ≠ .awaitHandshake) (h : m.mySocket.Sound) :
    (m.handleFrame raw totalSize).1 = true ∧ (m.handleFrame raw totalSize).2.mySocket.Sound := by
  cases hanswer : answeredBy m.myTransactions (PacketHeader.read raw).ticket with
  | some transaction =>
    rw [handleFrame_response m raw totalSize transaction hanswer]
    exact ⟨rfl, h⟩
  | none =>
    by_cases htype : ServerPacket.ofType (PacketHeader.read raw).type = some .handshakeResponse
    · rw [handleFrame_handshake m raw totalSize hanswer htype,
        handleHandshakeResponse_stray (m.emit _) _ _ _ hphase]
      exact ⟨rfl, h⟩
    · rw [handleFrame_packet m raw totalSize hanswer htype]
      by_cases hcircuit : ServerPacket.ofType (PacketHeader.read raw).type = some .virtualConnect
      · simp only [handlePacket, hcircuit]
        exact handleVirtualConnect_sound (m.emit _) _ h
      · refine ⟨?_, ?_⟩
        · by_contra hgone
          exact hcircuit (handlePacket_gone _ _ _ _ (by simpa using hgone)).2
        · rw [(handlePacket_undisturbed _ _ _ _ hcircuit).2.socket]
          exact h

/-- **In step with the server.** While writes succeed, the packets of a server are handled one
by one in order, none is left over and the connection stays up. -/
theorem processInput_packets (m : DSNetManager) (packets : List Bytes)
    (honline : m.myConnectPhase = .online) (hempty : m.mySocket.myInput = [])
    (hsound : m.mySocket.Sound) (hserver : m.InStep packets)
    (hfit : packets.flatten.length < 2147483648) :
    (m.receive packets.flatten).processInput = packets.foldl deliver m ∧
      (packets.foldl deliver m).mySocket.myInput = [] ∧ (packets.foldl deliver m).Online := by
  induction packets generalizing m with
  | nil =>
    have hwait : m.Waiting := by
      rw [Waiting, hempty]
      rfl
    rw [List.flatten_nil, receive_nil, processInput,
      Loop.run_leave processInput_descends (processInputBody_wait m hwait)]
    exact ⟨rfl, hempty, honline, hsound.connected⟩
  | cons packet packets ih =>
    obtain ⟨hframe, hrest⟩ := hserver
    have hphase : m.myConnectPhase ≠ .awaitHandshake := by
      rw [honline]
      decide
    obtain ⟨hok, hsound'⟩ := handleFrame_sound m packet (sizeInt packet) hphase hsound
    obtain ⟨hdecided, hround⟩ := processInputBody_packet m packet hempty hframe hok
    have hkept := handleFrame_kept m packet (sizeInt packet) hphase hok
    simp only [List.flatten_cons, List.length_append] at hfit
    have hrun := processInput_stable.run_front m (m.deliver packet) packet packets.flatten hdecided
      hround (by simp only [inputLength, hempty, List.length_nil, List.length_append]; omega)
    have hih := ih (m.deliver packet) (hkept.trans honline) ((deliver_input m packet).trans hempty)
      hsound' hrest (by omega)
    rw [List.flatten_cons, processInput, hrun]
    exact hih

theorem freshOnline_sound : freshOnline.mySocket.Sound :=
  ⟨rfl, fun n errno h => by cases h⟩

theorem keepalive_frame (transactions : Int32 → Option Transaction) :
    ServerFrame transactions keepalive :=
  .unsolicited .virtualCircuitClose (by decide) rfl (by decide) (by decide)
    (fun h => nomatch h) (by decide)

theorem userComesOnline_frame (transactions : Int32 → Option Transaction) :
    ServerFrame transactions userComesOnline :=
  .unsolicited .onlineChange (by decide) rfl (by decide) (by decide)
    (fun h => nomatch h) (by decide)

theorem circuitRequest_frame (transactions : Int32 → Option Transaction) :
    ServerFrame transactions circuitRequest :=
  .unsolicited .virtualConnect (by decide) rfl (by decide) (by decide)
    (fun h => nomatch h) (by decide)

/-- A circuit request, which is answered, and a keepalive packet. -/
theorem processInput_packets_circuit :
    (freshOnline.receive [circuitRequest, keepalive].flatten).processInput =
      [circuitRequest, keepalive].foldl deliver freshOnline ∧
    ([circuitRequest, keepalive].foldl deliver freshOnline).mySocket.myInput = [] ∧
    ([circuitRequest, keepalive].foldl deliver freshOnline).Online :=
  processInput_packets freshOnline _ rfl rfl freshOnline_sound
    ⟨circuitRequest_frame _, keepalive_frame _, trivial⟩ (by decide)

theorem inStep_keepalives (m : DSNetManager) (n : ℕ) : m.InStep (List.replicate n keepalive) := by
  induction n generalizing m with
  | zero => trivial
  | succ n ih => exact ⟨keepalive_frame _, ih _⟩

theorem keepalives_length (n : ℕ) : (List.replicate n keepalive).flatten.length = 32*n := by
  induction n with
  | zero => rfl
  | succ n ih =>
    rw [List.replicate_succ, List.flatten_cons, List.length_append, ih]
    have hlength : keepalive.length = 32 := by decide
    omega

theorem processInput_keepalives (n : ℕ) (h : 67108864 ≤ n) (h' : n < 134217728) :
    (freshOnline.receive
      (List.replicate n keepalive).flatten).processInput.mySocket.myInput.length =
      32*n := by
  have hlength : (freshOnline.receive
    (List.replicate n keepalive).flatten).mySocket.myInput.length =
      32*n := keepalives_length n
  rw [processInput_overfull _ (by omega) (by omega), hlength]

/-- 2^26 keepalive packets at once are not handled at all. -/
theorem processInput_packets_overfull :
    freshOnline.Online ∧ freshOnline.mySocket.Sound ∧
      freshOnline.InStep (List.replicate 67108864 keepalive) ∧
      (freshOnline.receive
        (List.replicate 67108864 keepalive).flatten).processInput.mySocket.myInput
        ≠ [] := by
  refine ⟨⟨rfl, rfl⟩, freshOnline_sound, inStep_keepalives _ _, fun hempty => ?_⟩
  have hlength := processInput_keepalives 67108864 le_rfl (by omega)
  rw [hempty] at hlength
  cases hlength

end DSNetManager
end NetNatsue
