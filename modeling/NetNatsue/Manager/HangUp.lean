import NetNatsue.Manager.InStep
import NetNatsue.Manager.Pump

/-! The server hangs up: what a pump makes of the packets that came before. -/
namespace NetNatsue

/-- A frame was handed to its handler. -/
def Event.isFrame : Event → Bool
  | .response _ _ | .handshake _ _ | .packet _ _ _ => true
  | _ => false

def framesMet (events : List Event) : ℕ := events.countP Event.isFrame

theorem framesMet_append (a b : List Event) : framesMet (a ++ b) = framesMet a + framesMet b :=
  List.countP_append

namespace NetNatsueSocket

theorem flushLoop_dead (n : ℕ) (s : NetNatsueSocket) (h : (flushLoop n s).1 = false) :
    (flushLoop n s).2.myState ≠ .connected := by
  induction n generalizing s with
  | zero => cases h
  | succ n ih =>
    simp only [flushLoop] at h ⊢
    by_cases hempty : s.myOutput = []
    · simp [hempty] at h
    · rw [if_neg hempty] at h ⊢
      cases hanswer : s.os.sends.head with
      | took count =>
        simp only [hanswer] at h
        exact ih _ h
      | failed errno =>
        simp only [hanswer] at h ⊢
        split_ifs at h ⊢
        simp [closeWith]

theorem readLoop_dead (answers : List RecvAnswer) (s : NetNatsueSocket)
    (h : (readLoop answers s).1 = false) : (readLoop answers s).2.myState ≠ .connected := by
  induction answers generalizing s with
  | nil => cases h
  | cons answer answers ih =>
    cases answer with
    | data bytes =>
      simp only [readLoop] at h ⊢
      split_ifs at h ⊢
      · simp
      · exact ih _ h
    | failed errno =>
      simp only [readLoop] at h ⊢
      split_ifs at h ⊢
      simp [closeWith]

/-- A socket that reports its end is no longer connected. -/
theorem pump_dead (s : NetNatsueSocket) (h : s.pump.1 = false) : s.pump.2.myState ≠ .connected := by
  unfold pump at h ⊢
  split_ifs at h ⊢ with hconnecting hdown
  · simp only [decide_eq_false_iff_not, not_or] at h
    exact h.2
  · exact hdown
  · have hconnected : s.myState = .connected := by simpa using hdown
    simp only at h ⊢
    split_ifs at h ⊢ with hflushed
    · unfold readInput at h ⊢
      split_ifs at h ⊢ with hstate
      · exact hstate
      · exact readLoop_dead _ _ h
    · have hloop : s.flushOutput = flushLoop s.myOutput.length s := by
        simp [flushOutput, hconnected]
      rw [hloop] at hflushed ⊢
      exact flushLoop_dead _ s (by simpa using hflushed)

end NetNatsueSocket

namespace DSNetManager

/-- A circuit request, which the client is to answer. -/
def IsCircuit (m : DSNetManager) (packet : Bytes) : Prop :=
  answeredBy m.myTransactions (PacketHeader.read packet).ticket = none ∧
    ServerPacket.ofType (PacketHeader.read packet).type = some .virtualConnect

/-- No packet comes behind a circuit request. -/
def CircuitLast : DSNetManager → List Bytes → Prop
  | _, [] => True
  | m, packet :: packets =>
    (m.IsCircuit packet → packets = []) ∧ CircuitLast (m.deliver packet) packets

/-- The same manager with nothing in its input buffer. -/
def emptied (m : DSNetManager) : DSNetManager := { m with mySocket := m.mySocket.withInput [] }

/-- A manager that still thinks it is online finds out. -/
def declareLost (m : DSNetManager) : DSNetManager :=
  if m.myConnectPhase = .online then m.connectionLost else m

section
variable (m : DSNetManager) (raw : Bytes) (totalSize : Int32)

theorem handleFrame_plain (h : ¬ m.IsCircuit raw) : (m.handleFrame raw totalSize).1 = true := by
  by_contra hgone
  exact h (handleFrame_gone m raw totalSize (by simpa using hgone)).2

theorem handleVirtualConnect_dead (header : PacketHeader) (h : m.mySocket.myState ≠ .connected) :
    (m.handleVirtualConnect header).1 = false := by
  have hrefused : ∀ packet, (m.nextVSN.2.socketWrite packet).1 = false := by
    intro packet
    have hclosed : m.nextVSN.2.mySocket.myState ≠ .connected := h
    simp [socketWrite, NetNatsueSocket.write, hclosed]
  simp only [handleVirtualConnect, hrefused, Bool.false_eq_true, not_false_eq_true, ↓reduceIte]

theorem handleFrame_circuit (hclosed : m.mySocket.myState ≠ .connected) (h : m.IsCircuit raw) :
    (m.handleFrame raw totalSize).1 = false := by
  obtain ⟨hanswer, htype⟩ := h
  have hstray : ServerPacket.ofType (PacketHeader.read raw).type ≠ some .handshakeResponse := by
    rw [htype]
    decide
  rw [handleFrame_packet m raw totalSize hanswer hstray]
  simp only [handlePacket, htype]
  exact handleVirtualConnect_dead (m.emit _) _ hclosed

theorem handleFrame_socket (hphase : m.myConnectPhase ≠ .awaitHandshake) (h : ¬ m.IsCircuit raw) :
    (m.handleFrame raw totalSize).2.mySocket = m.mySocket := by
  cases hanswer : answeredBy m.myTransactions (PacketHeader.read raw).ticket with
  | some transaction =>
    rw [handleFrame_response m raw totalSize transaction hanswer]
    rfl
  | none =>
    by_cases htype : ServerPacket.ofType (PacketHeader.read raw).type = some .handshakeResponse
    · rw [handleFrame_handshake m raw totalSize hanswer htype,
        handleHandshakeResponse_stray (m.emit _) _ _ _ hphase]
      rfl
    · rw [handleFrame_packet m raw totalSize hanswer htype,
        (handlePacket_undisturbed _ _ _ _ (fun hcircuit => h ⟨hanswer, hcircuit⟩)).2.socket]
      rfl

theorem handlePacket_met (header : PacketHeader) (body : Bytes) (bodySize : Int32) :
    framesMet (m.handlePacket header body bodySize).2.trace = framesMet m.trace := by
  by_cases hcircuit : ServerPacket.ofType header.type = some .virtualConnect
  · have hwrite : ∀ packet, framesMet (m.nextVSN.2.socketWrite packet).2.trace =
        framesMet m.trace := by
      intro packet
      simp only [socketWrite]
      split_ifs
      · exact framesMet_append _ _
      · rfl
    simp only [handlePacket, hcircuit, handleVirtualConnect]
    split_ifs
    · exact hwrite _
    · exact (framesMet_append _ _).trans (hwrite _)
  · obtain ⟨files, htrace, hfiles⟩ :=
      (handlePacket_undisturbed m header body bodySize hcircuit).2.trace
    have hnone : framesMet files = 0 := by
      refine List.countP_eq_zero.mpr fun e he => ?_
      obtain ⟨sender, payload, rfl⟩ := hfiles e he
      exact Bool.false_ne_true
    rw [htrace, framesMet_append, hnone, Nat.add_zero]

/-- Each frame is met once. -/
theorem handleFrame_met (hphase : m.myConnectPhase ≠ .awaitHandshake) :
    framesMet (m.handleFrame raw totalSize).2.trace = framesMet m.trace + 1 := by
  cases hanswer : answeredBy m.myTransactions (PacketHeader.read raw).ticket with
  | some transaction =>
    rw [handleFrame_response m raw totalSize transaction hanswer]
    exact framesMet_append _ _
  | none =>
    by_cases htype : ServerPacket.ofType (PacketHeader.read raw).type = some .handshakeResponse
    · rw [handleFrame_handshake m raw totalSize hanswer htype,
        handleHandshakeResponse_stray (m.emit _) _ _ _ hphase]
      exact framesMet_append _ _
    · rw [handleFrame_packet m raw totalSize hanswer htype, handlePacket_met]
      exact framesMet_append _ _

end

/-- The socket is closed, its input is used up, and the manager has not noticed. -/
structure Dead (m : DSNetManager) : Prop where
  online : m.myConnectPhase = .online
  closed : m.mySocket.myState ≠ .connected
  empty : m.mySocket.myInput = []

theorem Dead.not_awaiting {m : DSNetManager} (h : m.Dead) : m.myConnectPhase ≠ .awaitHandshake := by
  rw [h.online]
  decide

theorem Dead.deliver {m : DSNetManager} (h : m.Dead) (packet : Bytes)
    (hplain : ¬ m.IsCircuit packet) :
    (m.deliver packet).Dead where
  online := (handleFrame_kept m packet _ h.not_awaiting (handleFrame_plain m packet _ hplain)).trans
    h.online
  closed := by
    rw [DSNetManager.deliver, handleFrame_socket m packet _ h.not_awaiting hplain]
    exact h.closed
  empty := (deliver_input m packet).trans h.empty

theorem deliver_not_awaiting (m : DSNetManager) (packet : Bytes)
    (h : m.myConnectPhase ≠ .awaitHandshake) :
    (m.deliver packet).myConnectPhase ≠ .awaitHandshake := by
  cases hok : (m.handleFrame packet (sizeInt packet)).1 with
  | true =>
    rw [deliver, handleFrame_kept m packet _ h hok]
    exact h
  | false =>
    rw [deliver, (handleFrame_gone m packet _ hok).1]
    decide

/-- Handled one by one, every packet is met. -/
theorem foldl_deliver_met (packets : List Bytes) (m : DSNetManager)
    (h : m.myConnectPhase ≠ .awaitHandshake) :
    framesMet (packets.foldl deliver m).trace = framesMet m.trace + packets.length := by
  induction packets generalizing m with
  | nil => rfl
  | cons packet packets ih =>
    rw [List.foldl_cons, ih _ (deliver_not_awaiting m packet h), deliver,
      handleFrame_met m packet _ h, List.length_cons]
    omega

/-- A size is claimed only once there is as much of a packet as it takes to tell. -/
theorem claimedSize_front (transactions : Int32 → Option Transaction) (packet rest : Bytes)
    (size totalSize : Int32) (header : PacketHeader) (hfit : packet.length < 2147483648)
    (h : claimedSize transactions packet (sizeInt packet) header = .frame totalSize) :
    claimedSize transactions (packet ++ rest) size header = .wait ∧ size < totalSize ∨
      claimedSize transactions (packet ++ rest) size header = .frame totalSize := by
  unfold claimedSize at h ⊢
  cases hanswer : answeredBy transactions header.ticket with
  | some transaction =>
    simp only [hanswer] at h
    exact Or.inr h
  | none =>
    simp only [hanswer] at h
    simp only
    unfold unsolicitedSize at h ⊢
    cases hpacket : ServerPacket.ofType header.type with
    | none => simp [hpacket] at h
    | some packetType =>
      simp only [hpacket] at h ⊢
      cases packetType
      case handshakeResponse =>
        simp only at h ⊢
        split_ifs at h with hshort hbad
        have h48 : (48 : Int32).toInt = 48 := rfl
        rw [sizeInt_lt_iff packet 48 hfit] at hshort
        obtain ⟨hadditional, hadditional'⟩ := furtherData_exact _ hbad
        have hsum := toInt_add_checked 48 _ (by decide) (by decide) hadditional hadditional'
        injection h with htotal
        subst htotal
        by_cases hpart : size < 48
        · refine Or.inl ⟨if_pos hpart, ?_⟩
          rw [Word32.lt_iff] at hpart ⊢
          omega
        · rw [if_neg hpart, getInt_append packet rest 44 (by omega), if_neg hbad]
          exact Or.inr rfl
      all_goals exact Or.inr h

/-- However much follows a packet, the framer cuts it off as it was sent, or waits if the
length of the buffer comes out too short. -/
theorem cut_front (transactions : Int32 → Option Transaction) (packet rest : Bytes)
    (hlong : 32 ≤ packet.length) (hfit : packet.length < 2147483648)
    (h : cut transactions packet = .frame (sizeInt packet)) :
    cut transactions (packet ++ rest) =
      if sizeInt (packet ++ rest) < sizeInt packet then .wait else .frame (sizeInt packet) := by
  have hread := PacketHeader.read_append packet rest hlong
  have hheader : ∀ size : Int32, size < 32 → size < sizeInt packet := by
    intro size hsize
    have h32 : (32 : Int32).toInt = 32 := rfl
    rw [Word32.lt_iff] at hsize ⊢
    rw [sizeInt_toInt packet hfit]
    omega
  unfold cut at h ⊢
  simp only [hread] at h ⊢
  split_ifs at h with hshort hbad
  cases hsize : claimedSize transactions packet (sizeInt packet) (PacketHeader.read packet) with
  | wait => simp [hsize] at h
  | lost => simp [hsize] at h
  | frame totalSize =>
    simp only [hsize] at h
    split_ifs at h with hall
    injection h with htotal
    by_cases hshort' : sizeInt (packet ++ rest) < 32
    · rw [if_pos hshort', if_pos (hheader _ hshort')]
    · rw [if_neg hshort', if_neg hbad]
      rcases claimedSize_front transactions packet rest (sizeInt (packet ++ rest))
        totalSize _ hfit hsize
        with ⟨hclaim, hpart⟩ | hclaim
      · rw [htotal] at hpart
        rw [hclaim, if_pos hpart]
      · rw [hclaim, htotal]

theorem receive_input (m : DSNetManager) (hempty : m.mySocket.myInput = []) (bytes : Bytes) :
    (m.receive bytes).mySocket.myInput = bytes := by
  simp [receive, NetNatsueSocket.receive, hempty]

/-- A packet at the front of the buffer, and the round that takes it. -/
theorem Dead.round {m : DSNetManager} (h : m.Dead) (packet rest : Bytes)
    (hframe : ServerFrame m.myTransactions packet)
    (hcut : cut m.myTransactions (packet ++ rest) = .frame (sizeInt packet)) :
    (m.receive (packet ++ rest)).processInputBody =
      if (m.handleFrame packet (sizeInt packet)).1 = false then
        .leave ((m.deliver packet).receive (packet ++ rest))
      else .again (((m.deliver packet).receive (packet ++ rest)).consume (sizeInt packet)) := by
  have hinput := receive_input m h.empty (packet ++ rest)
  have hcut' : cut (m.receive (packet ++ rest)).myTransactions
      (m.receive (packet ++ rest)).mySocket.myInput = .frame (sizeInt packet) := by
    rw [hinput]
    exact hcut
  rw [processInputBody_frame _ _ hcut', hinput, handleFrame_receive,
    handleFrame_append m packet rest _ hframe.cut_eq.2.2]
  simp only [Bool.not_eq_true]
  rfl

/-- Consuming a packet leaves what follows it, or nothing when the buffer is too long for its
length to be told. -/
theorem consume_front (m : DSNetManager) (packet rest : Bytes) (hempty : m.mySocket.myInput = [])
    (hsome : 0 < packet.length) (hfit : packet.length < 2147483648) :
    (m.receive (packet ++ rest)).consume (sizeInt packet) = m.receive rest ∨
      (m.receive (packet ++ rest)).consume (sizeInt packet) = m ∧
        2147483648 ≤ (packet ++ rest).length := by
  have hsize := sizeInt_toInt packet hfit
  have hneg : ¬ sizeInt packet ≤ 0 := by
    rw [Word32.le_iff, Word32.toInt_zero]
    omega
  have hinput : (m.mySocket.receive (packet ++ rest)).myInput = packet ++ rest :=
    receive_input m hempty _
  simp only [consume, receive, NetNatsueSocket.consumeInput, hneg, ↓reduceIte,
    NetNatsueSocket.inputSize, hinput]
  split_ifs with hall
  · have hcleared : ({ m with mySocket :=
        { m.mySocket.receive (packet ++ rest) with myInput := [] } } : DSNetManager) = m := by
      rw [← hempty]
      rfl
    by_cases htotal : (packet ++ rest).length < 2147483648
    · rw [ge_iff_le, Word32.le_iff, sizeInt_toInt _ htotal, hsize, List.length_append] at hall
      have hrest : rest = [] := List.eq_nil_of_length_eq_zero (by omega)
      left
      rw [hcleared, hrest]
      exact (receive_nil m).symm
    · exact Or.inr ⟨hcleared, by omega⟩
  · left
    rw [hsize, Int.toNat_natCast, List.drop_left]
    simp only [NetNatsueSocket.receive, NetNatsueSocket.withInput, hempty, List.nil_append]

theorem processInput_empty (m : DSNetManager) (hempty : m.mySocket.myInput = []) :
    m.processInput = m := by
  have hwait : m.Waiting := by
    rw [Waiting, hempty]
    rfl
  exact Loop.run_leave processInput_descends (processInputBody_wait m hwait)

theorem emptied_receive (m : DSNetManager) (hempty : m.mySocket.myInput = []) (bytes : Bytes) :
    (m.receive bytes).emptied = m := by
  have hsame : (m.receive bytes).emptied = { m with mySocket := m.mySocket.withInput [] } := rfl
  rw [hsame, ← hempty]
  rfl

/-- With no circuit request but perhaps at the end, the loop does what handling the packets one
by one does. -/
theorem Dead.processInput {m : DSNetManager} (h : m.Dead) (packets : List Bytes)
    (hserver : m.InStep packets) (hfit : packets.flatten.length < 2147483648)
    (hcircuit : m.CircuitLast packets) :
    (m.receive packets.flatten).processInput.emptied = packets.foldl DSNetManager.deliver m := by
  induction packets generalizing m with
  | nil =>
    rw [List.flatten_nil, receive_nil, processInput_empty m h.empty]
    exact emptied_receive m h.empty []
  | cons packet packets ih =>
    obtain ⟨hframe, hrest⟩ := hserver
    obtain ⟨hlong, hshort, hcut⟩ := hframe.cut_eq
    rw [List.flatten_cons] at hfit ⊢
    rw [List.length_append] at hfit
    have hcut' : cut m.myTransactions (packet ++ packets.flatten) = .frame (sizeInt packet) := by
      rw [cut_append _ _ _ hfit (by rw [hcut]; exact Cut.noConfusion), hcut]
    have hround := h.round packet packets.flatten hframe hcut'
    by_cases hdead : m.IsCircuit packet
    · rw [if_pos (handleFrame_circuit m packet _ h.closed hdead)] at hround
      obtain rfl := hcircuit.1 hdead
      rw [DSNetManager.processInput, Loop.run_leave processInput_descends hround]
      exact emptied_receive _ ((deliver_input m packet).trans h.empty) _
    · rw [if_neg (by simp [handleFrame_plain m packet _ hdead])] at hround
      have hnext := h.deliver packet hdead
      rcases consume_front _ packet packets.flatten hnext.empty (by omega) hshort with hconsume |
        ⟨_, hover⟩
      · rw [DSNetManager.processInput, Loop.run_again processInput_descends hround, hconsume]
        exact ih hnext hrest (by omega) hcircuit.2
      · rw [List.length_append] at hover
        omega

/-- The loop meets no more packets than there are, and all of them only if their length can be
told and no circuit request stands before another packet. -/
theorem Dead.processInput_met {m : DSNetManager} (h : m.Dead) (packets : List Bytes)
    (hserver : m.InStep packets) :
    framesMet (m.receive packets.flatten).processInput.trace ≤ framesMet m.trace + packets.length ∧
    (framesMet (m.receive packets.flatten).processInput.trace = framesMet m.trace + packets.length →
      packets.flatten.length < 2147483648 ∧ m.CircuitLast packets) := by
  induction packets generalizing m with
  | nil =>
    rw [List.flatten_nil, receive_nil, processInput_empty m h.empty]
    exact ⟨Nat.le_refl _, fun _ => ⟨by simp, trivial⟩⟩
  | cons packet packets ih =>
    obtain ⟨hframe, hrest⟩ := hserver
    obtain ⟨hlong, hshort, hcut⟩ := hframe.cut_eq
    have hmet : framesMet (m.deliver packet).trace = framesMet m.trace + 1 :=
      handleFrame_met m packet _ h.not_awaiting
    rw [List.flatten_cons, List.length_cons]
    have hcut' := cut_front m.myTransactions packet packets.flatten hlong hshort hcut
    split_ifs at hcut' with hpart
    · -- the buffer is too long, and the loop waits for ever
      have hwait : (m.receive (packet ++ packets.flatten)).Waiting := by
        rw [Waiting, receive_input m h.empty]
        exact hcut'
      rw [DSNetManager.processInput, Loop.run_leave processInput_descends
        (processInputBody_wait _ hwait)]
      have hsame : framesMet (m.receive (packet ++ packets.flatten)).trace = framesMet m.trace :=
        rfl
      exact ⟨by omega, fun heq => by omega⟩
    · have hround := h.round packet packets.flatten hframe hcut'
      by_cases hdead : m.IsCircuit packet
      · rw [if_pos (handleFrame_circuit m packet _ h.closed hdead)] at hround
        rw [DSNetManager.processInput, Loop.run_leave processInput_descends hround]
        have hsame : framesMet ((m.deliver packet).receive (packet ++ packets.flatten)).trace =
            framesMet (m.deliver packet).trace := rfl
        refine ⟨by omega, fun heq => ?_⟩
        obtain rfl : packets = [] := List.eq_nil_of_length_eq_zero (by omega)
        exact ⟨by simpa using hshort, fun _ => rfl, trivial⟩
      · rw [if_neg (by simp [handleFrame_plain m packet _ hdead])] at hround
        have hnext := h.deliver packet hdead
        rw [DSNetManager.processInput, Loop.run_again processInput_descends hround]
        rcases consume_front _ packet packets.flatten hnext.empty (by omega) hshort with hconsume |
          ⟨hconsume, hover⟩
        · rw [hconsume]
          obtain ⟨hle, hall⟩ := ih hnext hrest
          rw [hmet] at hle hall
          refine ⟨by rw [← DSNetManager.processInput]; omega, fun heq => ?_⟩
          obtain ⟨hfit, hcircuit⟩ := hall (by rw [DSNetManager.processInput]; omega)
          refine ⟨?_, fun hcircuit => absurd hcircuit hdead, hcircuit⟩
          by_contra hlarge
          obtain ⟨_, _, hall, _⟩ := cut_frame _ _ _ hcut'
          have hsize := sizeInt_toInt packet hshort
          rw [Word32.lt_iff] at hall
          have hwrapped := Word32.toInt_ofNat_wrapped (packet ++ packets.flatten).length
            (by omega) (by change 0 ≤ (sizeInt (packet ++ packets.flatten)).toInt; omega)
          change (sizeInt (packet ++ packets.flatten)).toInt + _ ≤ _ at hwrapped
          rw [List.length_append] at hwrapped
          omega
        · rw [hconsume, ← DSNetManager.processInput, processInput_empty _ hnext.empty]
          refine ⟨by omega, fun heq => ?_⟩
          obtain rfl : packets = [] := List.eq_nil_of_length_eq_zero (by omega)
          simp at hover
          omega

theorem emptied_receive_input (m : DSNetManager) : m.emptied.receive m.mySocket.myInput = m := rfl

theorem emptied_declareLost (m : DSNetManager) : m.declareLost.emptied = m.emptied.declareLost := by
  have hphase : m.emptied.myConnectPhase = m.myConnectPhase := rfl
  simp only [declareLost, hphase]
  split_ifs <;> rfl

theorem declareLost_met (m : DSNetManager) : framesMet m.declareLost.trace = framesMet m.trace := by
  unfold declareLost
  split_ifs
  · exact framesMet_append _ _
  · rfl

theorem pump_dead (m : DSNetManager) (honline : m.myConnectPhase = .online)
    (hdead : m.socketPump.1 = false) : m.pump = m.socketPump.2.processInput.declareLost := by
  simp only [pump, pumpOnline, honline, hdead, declareLost, reduceCtorEq, or_self, ne_eq,
    not_true_eq_false, Bool.false_eq_true, not_false_eq_true, true_and, ↓reduceIte]

/-- **Everything received before a hang-up** is handled in order before the connection is declared
lost exactly if the bytes can be counted by an `int` and no circuit request stands before
another packet. -/
theorem pump_hangUp_iff (m : DSNetManager) (packets : List Bytes)
    (honline : m.myConnectPhase = .online) (hdead : m.socketPump.1 = false)
    (hread : m.socketPump.2.mySocket.myInput = packets.flatten)
    (hserver : m.socketPump.2.emptied.InStep packets) :
    m.pump.emptied = (packets.foldl deliver m.socketPump.2.emptied).declareLost ↔
      packets.flatten.length < 2147483648 ∧ m.socketPump.2.emptied.CircuitLast packets := by
  have hend : m.socketPump.2.emptied.Dead := ⟨honline, m.mySocket.pump_dead hdead, rfl⟩
  have hsame := emptied_receive_input m.socketPump.2
  rw [hread] at hsame
  rw [pump_dead m honline hdead, emptied_declareLost]
  constructor
  · intro heffect
    have hmet := congrArg (fun n => framesMet n.trace) heffect
    simp only [declareLost_met, foldl_deliver_met packets _ hend.not_awaiting] at hmet
    refine (hend.processInput_met packets hserver).2 ?_
    rw [hsame]
    exact hmet
  · rintro ⟨hfit, hcircuit⟩
    have heffect := hend.processInput packets hserver hfit hcircuit
    rw [hsame] at heffect
    rw [heffect]

/-- A manager whose server sends the given bytes and hangs up. -/
def lastWords (bytes : Bytes) : DSNetManager :=
  { fresh with
    myConnectPhase := .online
    mySocket :=
      { os := { SocketOS.idle with recvs := .const [.data bytes, .data []] }
        myHandle := some 3
        myState := .connected } }

/-- The last news are that a user comes online. -/
theorem pump_hangUp_iff_news :
    (lastWords userComesOnline).pump.emptied =
        ([userComesOnline].foldl deliver
          (lastWords userComesOnline).socketPump.2.emptied).declareLost ↔
      [userComesOnline].flatten.length < 2147483648 ∧
        (lastWords userComesOnline).socketPump.2.emptied.CircuitLast [userComesOnline] :=
  pump_hangUp_iff _ _ rfl (by decide +kernel) (by decide +kernel)
    ⟨userComesOnline_frame _, trivial⟩

/-- Behind a request for a circuit the news are lost. -/
theorem pump_hangUp_circuit :
    let m := lastWords (circuitRequest ++ userComesOnline)
    m.socketPump.1 = false ∧ m.socketPump.2.emptied.InStep [circuitRequest, userComesOnline] ∧
      m.pump.emptied ≠
        ([circuitRequest, userComesOnline].foldl deliver m.socketPump.2.emptied).declareLost := by
  refine ⟨by decide +kernel, ⟨circuitRequest_frame _, userComesOnline_frame _, trivial⟩, fun heffect => ?_⟩
  have hpresence := congrArg (fun n => (n.myPresence (ascii "7+1")).isSome) heffect
  revert hpresence
  decide +kernel

end DSNetManager
end NetNatsue
