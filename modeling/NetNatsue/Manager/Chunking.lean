import NetNatsue.Manager.Stability

/-! Cutting the received stream into chunks: the loop of the framer as a fed loop, and what
an observer sees of it. -/
namespace NetNatsue.DSNetManager

theorem socketWrite_phase (m : DSNetManager) (packet : Bytes) :
    (m.socketWrite packet).2.myConnectPhase = m.myConnectPhase := by
  simp only [socketWrite]
  split_ifs <;> rfl

theorem socketWrite_ok (m : DSNetManager) (packet : Bytes) (h : (m.socketWrite packet).1 = true) :
    (m.socketWrite packet).2 =
      { m with mySocket := (m.mySocket.write packet (sizeInt packet)).2 }.emit
        (.wrote (m.mySocket.write packet (sizeInt packet)).2.os.connection packet) := by
  simp only [socketWrite] at h ⊢
  rw [if_pos h]

theorem socketWrite_failed (m : DSNetManager) (packet : Bytes)
    (h : (m.socketWrite packet).1 = false) :
    (m.socketWrite packet).2 =
      { m with mySocket := (m.mySocket.write packet (sizeInt packet)).2 } := by
  simp only [socketWrite] at h ⊢
  rw [h]
  rfl

theorem socketWrite_socket (m : DSNetManager) (packet : Bytes) :
    (m.socketWrite packet).2.mySocket = (m.mySocket.write packet (sizeInt packet)).2 := by
  simp only [socketWrite]
  split_ifs <;> rfl

theorem acceptLogin_phase (m : DSNetManager) (serverUIN userUIN : BabelUIN)
    (servers : List CBabelServerInfo) :
    (m.acceptLogin serverUIN userUIN servers).myConnectPhase = .online := by
  rw [acceptLogin_admitted]
  exact sendWWRRegistrations_kept (·.myConnectPhase) (fun _ _ => rfl) socketWrite_phase
    m.myUsersForWWR
    (m.admitted serverUIN userUIN servers)

theorem handlePacket_kept (m : DSNetManager) (header : PacketHeader) (body : Bytes)
    (bodySize : Int32) (h : (m.handlePacket header body bodySize).1 = true) :
    (m.handlePacket header body bodySize).2.myConnectPhase = m.myConnectPhase := by
  by_cases hcircuit : ServerPacket.ofType header.type = some .virtualConnect
  · simp only [handlePacket, hcircuit, handleVirtualConnect] at h ⊢
    split_ifs at h ⊢
    exact socketWrite_phase _ _
  · exact (handlePacket_undisturbed m header body bodySize hcircuit).2.phase

/-- Only an unanswerable circuit request drops the connection. -/
theorem handlePacket_gone (m : DSNetManager) (header : PacketHeader) (body : Bytes)
    (bodySize : Int32) (h : (m.handlePacket header body bodySize).1 = false) :
    (m.handlePacket header body bodySize).2.myConnectPhase = .idle ∧
      ServerPacket.ofType header.type = some .virtualConnect := by
  by_cases hcircuit : ServerPacket.ofType header.type = some .virtualConnect
  · simp only [handlePacket, hcircuit, handleVirtualConnect] at h ⊢
    split_ifs at h ⊢
    exact ⟨rfl, trivial⟩
  · rw [(handlePacket_undisturbed m header body bodySize hcircuit).1] at h
    cases h

/-- While online a handshake response is a stray one. -/
theorem handleHandshakeResponse_stray (m : DSNetManager) (header : PacketHeader) (raw : Bytes)
    (rawSize : Int32) (h : m.myConnectPhase ≠ .awaitHandshake) :
    m.handleHandshakeResponse header raw rawSize = m := by
  unfold handleHandshakeResponse
  rw [if_pos h]

theorem handleFrame_kept (m : DSNetManager) (raw : Bytes) (totalSize : Int32)
    (hphase : m.myConnectPhase ≠ .awaitHandshake) (h : (m.handleFrame raw totalSize).1 = true) :
    (m.handleFrame raw totalSize).2.myConnectPhase = m.myConnectPhase := by
  cases hanswer : answeredBy m.myTransactions (PacketHeader.read raw).ticket with
  | some transaction =>
    rw [handleFrame_response m raw totalSize transaction hanswer]
    rfl
  | none =>
    by_cases htype : ServerPacket.ofType (PacketHeader.read raw).type = some .handshakeResponse
    · rw [handleFrame_handshake m raw totalSize hanswer htype]
      change ((m.emit _).handleHandshakeResponse _ _ _).myConnectPhase = _
      rw [handleHandshakeResponse_stray (m.emit _) _ _ _ hphase]
      rfl
    · rw [handleFrame_packet m raw totalSize hanswer htype] at h ⊢
      exact handlePacket_kept _ _ _ _ h

theorem handleFrame_gone (m : DSNetManager) (raw : Bytes) (totalSize : Int32)
    (h : (m.handleFrame raw totalSize).1 = false) :
    (m.handleFrame raw totalSize).2.myConnectPhase = .idle ∧
      answeredBy m.myTransactions (PacketHeader.read raw).ticket = none ∧
      ServerPacket.ofType (PacketHeader.read raw).type = some .virtualConnect := by
  cases hanswer : answeredBy m.myTransactions (PacketHeader.read raw).ticket with
  | some transaction =>
    rw [handleFrame_response m raw totalSize transaction hanswer] at h
    cases h
  | none =>
    by_cases htype : ServerPacket.ofType (PacketHeader.read raw).type = some .handshakeResponse
    · rw [handleFrame_handshake m raw totalSize hanswer htype] at h
      cases h
    · rw [handleFrame_packet m raw totalSize hanswer htype] at h ⊢
      obtain ⟨hidle, hcircuit⟩ := handlePacket_gone _ _ _ _ h
      exact ⟨hidle, rfl, hcircuit⟩

/-- A round that goes on has consumed at least one byte, however long the buffer is. -/
theorem consume_shrinks (m : DSNetManager) (totalSize : Int32) (hpos : 0 < totalSize.toInt)
    (hsome : m.mySocket.myInput ≠ []) : (m.consume totalSize).inputLength < m.inputLength := by
  have hlength : 0 < m.mySocket.myInput.length := List.length_pos_of_ne_nil hsome
  have hneg : ¬ totalSize ≤ 0 := by
    rw [Word32.le_iff, Word32.toInt_zero]
    omega
  simp only [consume, inputLength, NetNatsueSocket.consumeInput, hneg, ↓reduceIte]
  split_ifs
  · exact hlength
  · simp only [List.length_drop]
    omega

theorem cut_frame_nonempty (transactions : Int32 → Option Transaction) (input : Bytes)
    (totalSize : Int32) (h : cut transactions input = .frame totalSize) :
    0 < totalSize.toInt ∧ input ≠ [] := by
  obtain ⟨hlo, _, _, hshort⟩ := cut_frame transactions input totalSize h
  refine ⟨by omega, ?_⟩
  rintro rfl
  exact hshort (by decide)

abbrev Waiting (m : DSNetManager) : Prop := cut m.myTransactions m.mySocket.myInput = .wait

theorem processInputBody_wait (m : DSNetManager) (h : m.Waiting) :
    m.processInputBody = .leave m := by
  simp only [processInputBody, h]

theorem processInputBody_lost (m : DSNetManager)
    (h : cut m.myTransactions m.mySocket.myInput = .lost) :
    m.processInputBody = .leave m.connectionLost := by
  simp only [processInputBody, h]

/-- The ways a round can go on. -/
theorem processInputBody_again (m n : DSNetManager) (h : m.processInputBody = .again n) :
    ∃ totalSize, cut m.myTransactions m.mySocket.myInput = .frame totalSize ∧
      (m.handleFrame m.mySocket.myInput totalSize).1 = true ∧
      n = (m.handleFrame m.mySocket.myInput totalSize).2.consume totalSize := by
  cases hcut : cut m.myTransactions m.mySocket.myInput with
  | wait => rw [processInputBody_wait m hcut] at h; cases h
  | lost => rw [processInputBody_lost m hcut] at h; cases h
  | frame totalSize =>
    rw [processInputBody_frame m totalSize hcut] at h
    split_ifs at h with hgone
    injection h with h
    exact ⟨totalSize, rfl, by simpa using hgone, h.symm⟩

/-- The ways a round can leave the loop. -/
theorem processInputBody_leave (m n : DSNetManager) (h : m.processInputBody = .leave n) :
    (m.Waiting ∧ n = m) ∨
    (cut m.myTransactions m.mySocket.myInput = .lost ∧ n = m.connectionLost) ∨
    (∃ totalSize, cut m.myTransactions m.mySocket.myInput = .frame totalSize ∧
      (m.handleFrame m.mySocket.myInput totalSize).1 = false ∧
      n = (m.handleFrame m.mySocket.myInput totalSize).2) := by
  cases hcut : cut m.myTransactions m.mySocket.myInput with
  | wait =>
    rw [processInputBody_wait m hcut] at h
    injection h with h
    exact Or.inl ⟨hcut, h.symm⟩
  | lost =>
    rw [processInputBody_lost m hcut] at h
    injection h with h
    exact Or.inr (Or.inl ⟨rfl, h.symm⟩)
  | frame totalSize =>
    rw [processInputBody_frame m totalSize hcut] at h
    split_ifs at h with hgone
    injection h with h
    exact Or.inr (Or.inr ⟨totalSize, rfl, by simpa using hgone, h.symm⟩)

theorem processInput_descends : Loop.Descends processInputBody inputLength := by
  intro m n h
  obtain ⟨totalSize, hcut, _, rfl⟩ := processInputBody_again m n h
  obtain ⟨hpos, hsome⟩ := cut_frame_nonempty _ _ _ hcut
  have hinput := handleFrame_input m m.mySocket.myInput totalSize
  have hshrink := consume_shrinks (m.handleFrame m.mySocket.myInput totalSize).2 totalSize hpos
    (by rw [hinput]; exact hsome)
  simp only [inputLength] at hshrink ⊢
  rwa [hinput] at hshrink

theorem receive_append (m : DSNetManager) (a b : Bytes) :
    (m.receive a).receive b = m.receive (a ++ b) := by
  simp only [receive, NetNatsueSocket.receive, NetNatsueSocket.withInput, List.append_assoc]

theorem receive_nil (m : DSNetManager) : m.receive [] = m := by
  simp only [receive, NetNatsueSocket.receive, NetNatsueSocket.withInput, List.append_nil]

/-- The framer waits for a packet that is not all there, and otherwise decides by what is
there; as long as the length of the buffer fits an `int`. -/
theorem processInput_stable :
    Feed.Stable processInputBody receive inputLength 2147483648
      (fun m => m.myConnectPhase = .online) Waiting where
  receive_nil := receive_nil
  receive_append := receive_append
  size_receive m c := by
    simp [inputLength, receive, NetNatsueSocket.receive, NetNatsueSocket.withInput]
  receive_up m c := Iff.rfl
  shrinks := processInput_descends
  keeps m n h := by
    rcases processInputBody_leave m n h with ⟨_, rfl⟩ | ⟨_, rfl⟩ | ⟨totalSize, _, _, rfl⟩
    · exact le_rfl
    · exact le_rfl
    · rw [inputLength, handleFrame_input]
      exact le_rfl
  stays_up m n hup h := by
    obtain ⟨totalSize, _, hok, rfl⟩ := processInputBody_again m n h
    exact (handleFrame_kept m _ totalSize (by rw [hup]; decide) hok).trans hup
  waits := processInputBody_wait
  leaves_down m n hdecided h := by
    rcases processInputBody_leave m n h with ⟨hwait, _⟩ | ⟨_, rfl⟩ | ⟨totalSize, _, hgone, rfl⟩
    · exact absurd hwait hdecided
    · simp [connectionLost, emit, markEveryoneOffline]
    · rw [(handleFrame_gone m _ totalSize hgone).1]
      decide
  decides m c hdecided hfit := processInputBody_receive m c hdecided hfit

/-- The states differ in nothing but the disk. -/
def SameButDisk (m n : DSNetManager) : Prop := ∃ d, n = m.onDisk d

/-- The disk does not steer the framer. -/
theorem processInput_blind :
    Feed.Blind processInputBody receive inputLength (fun m => m.myConnectPhase = .online)
      SameButDisk where
  trans m n k := by
    rintro ⟨d, rfl⟩ ⟨e, rfl⟩
    exact ⟨e, rfl⟩
  size_eq m n := by
    rintro ⟨d, rfl⟩
    rfl
  up_iff m n := by
    rintro ⟨d, rfl⟩
    exact Iff.rfl
  receive m n c := by
    rintro ⟨d, rfl⟩
    exact ⟨d, rfl⟩
  leaves m n m' := by
    rintro ⟨d, rfl⟩ h
    rcases processInputBody_leave m m' h with ⟨hwait, rfl⟩ | ⟨hlost, rfl⟩ |
      ⟨totalSize, hcut, hgone, rfl⟩
    · exact ⟨m'.onDisk d, processInputBody_wait (m'.onDisk d) hwait, d, rfl⟩
    · exact ⟨(m.onDisk d).connectionLost, processInputBody_lost (m.onDisk d) hlost, d, rfl⟩
    · obtain ⟨f, hf⟩ := handleFrame_onDisk m m.mySocket.myInput totalSize
      refine ⟨(m.handleFrame m.mySocket.myInput totalSize).2.onDisk (f d), ?_, f d, rfl⟩
      have hbody := processInputBody_frame (m.onDisk d) totalSize hcut
      rw [show (m.onDisk d).mySocket.myInput = m.mySocket.myInput from rfl, hf d] at hbody
      rw [hbody, if_pos (by simp [hgone])]
  agains m n m' := by
    rintro ⟨d, rfl⟩ h
    obtain ⟨totalSize, hcut, hok, rfl⟩ := processInputBody_again m m' h
    obtain ⟨f, hf⟩ := handleFrame_onDisk m m.mySocket.myInput totalSize
    refine ⟨((m.handleFrame m.mySocket.myInput totalSize).2.consume totalSize).onDisk (f d), ?_,
      f d, rfl⟩
    have hbody := processInputBody_frame (m.onDisk d) totalSize hcut
    rw [show (m.onDisk d).mySocket.myInput = m.mySocket.myInput from rfl, hf d] at hbody
    rw [hbody, if_neg (by simp [hok])]
    rfl

def Event.spooledFile : Event → Option (BabelUIN × Bytes)
  | .spooled _ sender payload => some (sender, payload)
  | _ => none

def Event.writtenPacket : Event → Option Bytes
  | .wrote _ packet => some packet
  | _ => none

/-- What the packets of a server can change. -/
structure Observation where
  phase : ConnectPhase
  lastError : Error
  rawError : Int32
  transactions : Int32 → Option Transaction
  presence : Bytes → Option Presence
  pendingWWRAdds : Bytes → Option UInt32
  changedUsers : List Bytes
  incomingMessages : List IncomingMessage
  spooledFiles : List (BabelUIN × Bytes)
  nextVSN : Int32
  writtenPackets : List Bytes

def observe (m : DSNetManager) : Observation :=
  { phase := m.myConnectPhase
    lastError := m.myLastError
    rawError := m.myRawError
    transactions := m.myTransactions
    presence := m.myPresence
    pendingWWRAdds := m.myPendingWWRAdds
    changedUsers := m.myChangedUsers
    incomingMessages := m.myIncomingMessages
    spooledFiles := m.trace.filterMap Event.spooledFile
    nextVSN := m.myNextVSN
    writtenPackets := m.trace.filterMap Event.writtenPacket }

theorem observe_sameButDisk (m n : DSNetManager) (h : SameButDisk m n) : observe m = observe n := by
  obtain ⟨d, rfl⟩ := h
  rfl

/-- The chunks arrive one by one, each meeting the disk (and the time of day) of its moment,
and `ProcessInput` runs after each. Nothing is read once the connection is dropped. -/
def processChunks (m : DSNetManager) (chunks : List (Disk × Bytes)) : DSNetManager :=
  Feed.feed processInputBody receive inputLength (fun m => m.myConnectPhase = .online)
    (fun d m => m.onDisk d) m chunks

theorem processChunks_cons (m : DSNetManager) (d : Disk) (c : Bytes)
    (chunks : List (Disk × Bytes)) :
    m.processChunks ((d, c) :: chunks) =
      if m.myConnectPhase = .online then ((m.onDisk d).receive c).processInput.processChunks chunks
      else m := rfl

theorem processChunks_down (m : DSNetManager) (hdown : m.myConnectPhase ≠ .online)
    (chunks : List (Disk × Bytes)) : m.processChunks chunks = m := Feed.feed_down m hdown chunks

/-- **Chunking does not matter** while the buffered bytes can be counted by an `int`. -/
theorem observe_processChunks (m : DSNetManager) (honline : m.myConnectPhase = .online)
    (first : Disk × Bytes) (chunks : List (Disk × Bytes))
    (hfit : m.mySocket.myInput.length +
      (((first :: chunks).map Prod.snd).flatten).length < 2147483648) :
    observe (m.processChunks (first :: chunks)) =
      observe (m.receive ((first :: chunks).map Prod.snd).flatten).processInput := by
  have hdisturb : ∀ (d : Disk) (n : DSNetManager), SameButDisk (n.onDisk d) n :=
    fun d n => ⟨n.disk, rfl⟩
  have h := processInput_stable.feed_flatten processInput_blind hdisturb first.1 first.2 chunks m m
    ⟨m.disk, rfl⟩ honline (by simpa [inputLength] using hfit)
  simp only [List.map_cons, List.flatten_cons]
  rcases h with ⟨_, hsame⟩ | ⟨_, rest, hsame⟩
  · exact observe_sameButDisk _ _ hsame
  · have hobserve := observe_sameButDisk _ _ hsame
    exact hobserve

/-- The server's keepalive packet. -/
def keepalive : Bytes := PacketHeader.write { type := 0x20 }

/-- User 7+1 comes online. -/
def userComesOnline : Bytes :=
  PacketHeader.write { type := 0x1D, fieldC := 7, fieldD := 1, fieldE := 1 }

/-- A request for a circuit. -/
def circuitRequest : Bytes :=
  PacketHeader.write { type := 0x1E, fieldE := 7 } ++ List.replicate 12 0

/-- A keepalive packet in two chunks. -/
theorem observe_processChunks_keepalive :
    observe (freshOnline.processChunks [(.blank, keepalive.take 7), (.blank, keepalive.drop 7)]) =
      observe (freshOnline.receive
        ([(Disk.blank, keepalive.take 7), (Disk.blank, keepalive.drop 7)].map
          Prod.snd).flatten).processInput :=
  observe_processChunks freshOnline rfl _ _ (by decide)

/-- A buffer of 2 GiB or more, but less than 4, is taken for one of negative length. -/
theorem cut_overfull (transactions : Int32 → Option Transaction) (input : Bytes)
    (h : 2147483648 ≤ input.length) (h' : input.length < 4294967296) :
    cut transactions input = .wait := by
  have hsize : sizeInt input < 32 := by
    rw [Word32.lt_iff, sizeInt, Word32.toInt_ofNat_negative _ h h']
    have h32 : (32 : Int32).toInt = 32 := rfl
    omega
  simp only [cut, hsize, ↓reduceIte]

theorem processInput_overfull (m : DSNetManager) (h : 2147483648 ≤ m.mySocket.myInput.length)
    (h' : m.mySocket.myInput.length < 4294967296) : m.processInput = m :=
  Loop.run_leave processInput_descends (processInputBody_wait m (cut_overfull _ _ h h'))

/-- 32 zero bytes drop the connection, whatever follows. -/
theorem processChunks_zeros (chunks : List (Disk × Bytes)) :
    (observe (freshOnline.processChunks ((.blank, List.replicate 32 0) :: chunks))).phase =
    .idle := by
  have honline : freshOnline.myConnectPhase = .online := rfl
  have hlost : ((freshOnline.onDisk .blank).receive (List.replicate 32 0)).processInputBody =
      .leave ((freshOnline.onDisk .blank).receive (List.replicate 32 0)).connectionLost :=
    processInputBody_lost _ (by decide)
  rw [processChunks_cons, if_pos honline, processInput, Loop.run_leave processInput_descends hlost,
    processChunks_down _ (by decide)]
  rfl

theorem observe_processChunks_long (rest : Bytes) (h : rest.length = 2147483616) :
    observe (freshOnline.processChunks [(.blank, List.replicate 32 0), (.blank, rest)]) ≠
      observe (freshOnline.receive
        ([(Disk.blank, List.replicate 32 0), (Disk.blank, rest)].map
          Prod.snd).flatten).processInput := by
  simp only [List.map_cons, List.map_nil, List.flatten_cons, List.flatten_nil, List.append_nil]
  have hlength : (freshOnline.receive (List.replicate 32 0 ++ rest)).mySocket.myInput.length =
      2147483648 := by
    change (List.replicate 32 (0 : UInt8) ++ rest).length = _
    rw [List.length_append, List.length_replicate, h]
  intro heq
  have hphase := congrArg Observation.phase heq
  rw [processChunks_zeros, processInput_overfull _ (by omega) (by omega)] at hphase
  cases hphase

/-- Zero bytes drop the connection when 32 of them arrive first, and wait for ever when 2 GiB
of them arrive at once. -/
theorem observe_processChunks_overfull :
    observe (freshOnline.processChunks
      [(.blank, List.replicate 32 0), (.blank, List.replicate 2147483616 0)]) ≠
      observe (freshOnline.receive
        ([(Disk.blank, List.replicate 32 0), (Disk.blank, List.replicate 2147483616 0)].map
          Prod.snd).flatten).processInput :=
  observe_processChunks_long _ List.length_replicate

end NetNatsue.DSNetManager
