import NetNatsue.Manager.Refusal
import NetNatsue.Manager.Effects

/-! What a connection attempt comes to, and the error code it leaves. -/
namespace NetNatsue

/-- Bytes that do not make a dead connection be noticed: responses and packets other than circuit
requests, up to where the framer waits. -/
inductive Endures : (Int32 → Option Transaction) → Bytes → Prop
  | wait (transactions : Int32 → Option Transaction) (input : Bytes)
    (h : cut transactions input = .wait) : Endures transactions input
  | response (transactions : Int32 → Option Transaction) (input : Bytes) (totalSize : Int32)
    (transaction : Transaction) (h : cut transactions input = .frame totalSize)
    (hanswer : answeredBy transactions (PacketHeader.read input).ticket = some transaction)
    (hrest : Endures
      (Function.update transactions (PacketHeader.read input).ticket
        (if (transaction.answer (input.take totalSize.toInt.toNat)).kind = .abandoned then none
          else some (transaction.answer (input.take totalSize.toInt.toNat))))
      (consumed input totalSize)) : Endures transactions input
  | packet (transactions : Int32 → Option Transaction) (input : Bytes) (totalSize : Int32)
    (h : cut transactions input = .frame totalSize)
    (hanswer : answeredBy transactions (PacketHeader.read input).ticket = none)
    (hplain : ServerPacket.ofType (PacketHeader.read input).type ≠ some .virtualConnect)
    (hrest : Endures transactions (consumed input totalSize)) : Endures transactions input

section
variable {transactions : Int32 → Option Transaction} {input : Bytes} {totalSize : Int32}

theorem not_endures_lost (hcut : cut transactions input = .lost) :
    ¬ Endures transactions input := by
  intro h
  cases h with
  | wait _ _ h => rw [hcut] at h; cases h
  | response _ _ _ _ h => rw [hcut] at h; cases h
  | packet _ _ _ h => rw [hcut] at h; cases h

theorem endures_response (transaction : Transaction)
    (hcut : cut transactions input = .frame totalSize)
    (hanswer : answeredBy transactions (PacketHeader.read input).ticket = some transaction) :
    Endures transactions input ↔ Endures
      (Function.update transactions (PacketHeader.read input).ticket
        (if (transaction.answer (input.take totalSize.toInt.toNat)).kind = .abandoned then none
          else some (transaction.answer (input.take totalSize.toInt.toNat))))
      (consumed input totalSize) := by
  constructor
  · intro h
    cases h with
    | wait _ _ h => rw [hcut] at h; cases h
    | response _ _ _ _ h hclaimed hrest =>
      rw [hcut] at h
      rw [hanswer] at hclaimed
      cases h
      cases hclaimed
      exact hrest
    | packet _ _ _ h hclaimed => rw [hanswer] at hclaimed; cases hclaimed
  · exact .response _ _ totalSize transaction hcut hanswer

theorem endures_packet (hcut : cut transactions input = .frame totalSize)
    (hanswer : answeredBy transactions (PacketHeader.read input).ticket = none) :
    Endures transactions input ↔ ServerPacket.ofType (PacketHeader.read input).type ≠ some
      .virtualConnect ∧
      Endures transactions (consumed input totalSize) := by
  constructor
  · intro h
    cases h with
    | wait _ _ h => rw [hcut] at h; cases h
    | response _ _ _ _ h hclaimed => rw [hanswer] at hclaimed; cases hclaimed
    | packet _ _ _ h _ hplain hrest =>
      rw [hcut] at h
      cases h
      exact ⟨hplain, hrest⟩
  · exact fun h => .packet _ _ totalSize hcut hanswer h.1 h.2

end

theorem mapHandshakeError_ne_ok (code : Int32) : mapHandshakeError code ≠ .ok := by
  unfold mapHandshakeError
  split_ifs <;> decide

namespace DSNetManager

/-- The phase and the error code are what they were. -/
structure Stays (m n : DSNetManager) : Prop where
  phase : n.myConnectPhase = m.myConnectPhase
  lastError : n.myLastError = m.myLastError

/-- The phase, the error code and the time of the login are what they were. -/
structure SameSession (m n : DSNetManager) : Prop extends Stays m n where
  connectedAt : n.myConnectedAtMs = m.myConnectedAtMs

section
variable {m n k : DSNetManager}

theorem session_of_eq (hphase : n.myConnectPhase = m.myConnectPhase)
    (herror : n.myLastError = m.myLastError) (htime : n.myConnectedAtMs = m.myConnectedAtMs) :
    SameSession m n := ⟨⟨hphase, herror⟩, htime⟩

theorem SameSession.trans (h : SameSession m n) (h' : SameSession n k) : SameSession m k :=
  session_of_eq (h'.phase.trans h.phase) (h'.lastError.trans h.lastError)
    (h'.connectedAt.trans h.connectedAt)

theorem Aside.session (h : Aside m n) : SameSession m n :=
  session_of_eq h.phase h.lastError h.connectedAt

end

section
variable (m : DSNetManager)

theorem session_refl : SameSession m m := session_of_eq rfl rfl rfl

theorem session_emit (e : Event) : SameSession m (m.emit e) := session_of_eq rfl rfl rfl

theorem session_socketWrite (packet : Bytes) : SameSession m (m.socketWrite packet).2 := by
  simp only [socketWrite]
  split_ifs <;> exact session_of_eq rfl rfl rfl

theorem session_abandonTransaction (ticket : Int32) : SameSession m (m.abandonTransaction ticket) :=
  session_of_eq (abandonTransaction_kept (·.myConnectPhase) (fun _ _ _ => rfl) m ticket)
    (abandonTransaction_kept (·.myLastError) (fun _ _ _ => rfl) m ticket)
    (abandonTransaction_kept (·.myConnectedAtMs) (fun _ _ _ => rfl) m ticket)

theorem session_hold (slot : Slot) (query : PendingQuery) : SameSession m (m.hold slot query) := by
  cases slot <;> exact session_of_eq rfl rfl rfl

theorem session_release (slot : Slot) : SameSession m (m.release slot) := by
  cases slot <;> exact session_of_eq rfl rfl rfl

theorem session_requested (slot : Slot) (clock : Stream' UInt32) (packet : Bytes) :
    SameSession m (m.requested slot clock packet).2 := by
  have hstart : SameSession m { (m.startTransaction slot.kind slot.fixedExtra).2
      with clock := clock } :=
    session_of_eq rfl rfl rfl
  exact hstart.trans (session_socketWrite _ packet)

theorem session_startAdd (user : Bytes) (uin : BabelUIN) :
    SameSession m (m.startAdd user uin).2 := by
  have hwrite := session_socketWrite m (buildWWRModify true m.myServerUIN uin)
  have hwait : ∀ (n : DSNetManager) deadline, SameSession n (n.nowMs.2.setWWRAdd user deadline) :=
    fun _ _ => session_of_eq rfl rfl rfl
  simp only [startAdd]
  split_ifs
  · exact hwrite
  · exact hwrite.trans (hwait _ _)
  · exact hwrite

theorem session_removeFromWWR (user : Bytes) : SameSession m (m.removeFromWWR user) := by
  have hforget : SameSession m (m.forgetUser user) := session_of_eq rfl rfl rfl
  simp only [removeFromWWR]
  split_ifs
  · exact hforget.trans (session_socketWrite _ _)
  · exact hforget
  · exact hforget

theorem session_updatePresence (uin : BabelUIN) (online : Bool) (nickName : Bytes) :
    SameSession m (m.updatePresence uin online nickName) := by
  obtain ⟨changed, adds, hframe⟩ := m.updatePresence_frame uin online nickName
  rw [hframe]
  exact session_of_eq rfl rfl rfl

theorem session_handleMessage (body : Bytes) (bodySize : Int32) :
    SameSession m (m.handleMessage body bodySize) := by
  unfold handleMessage
  cases parsePackedBabelMessage body bodySize with
  | none => exact session_refl m
  | some message =>
    simp only
    split_ifs <;> exact session_of_eq rfl rfl rfl

theorem sendWWRRegistrations_lastError (users : List Bytes) (m : DSNetManager) :
    (sendWWRRegistrations users m).myLastError = m.myLastError :=
  sendWWRRegistrations_kept myLastError (fun _ _ => rfl)
    (fun n packet => (session_socketWrite n packet).lastError) users m

theorem acceptLogin_lastError (serverUIN userUIN : BabelUIN) (servers : List CBabelServerInfo) :
    (m.acceptLogin serverUIN userUIN servers).myLastError = .ok := by
  rw [acceptLogin_admitted]
  exact sendWWRRegistrations_lastError _ _

end

/-- The error code fits the phase. -/
structure Told (m : DSNetManager) : Prop where
  online : m.myConnectPhase = .online → m.myLastError = .ok
  ended : m.myConnectPhase = .idle ∨ m.myConnectPhase = .failed → m.myLastError ≠ .ok

section
variable {m n : DSNetManager}

theorem Told.stays (hm : m.Told) (h : Stays m n) : n.Told := by
  refine ⟨fun hphase => ?_, fun hphase => ?_⟩
  · rw [h.lastError]
    exact hm.online (h.phase.symm.trans hphase)
  · rw [h.lastError]
    rw [h.phase] at hphase
    exact hm.ended hphase

theorem told_blocking (h : m.blocking = true) : m.Told := by
  cases hphase : m.myConnectPhase <;> simp only [blocking, hphase, decide_eq_true_eq, reduceCtorEq,
    or_self] at h <;> exact ⟨by simp [hphase], by simp [hphase]⟩

theorem told_ended (hphase : m.myConnectPhase ≠ .online) (herror : m.myLastError ≠ .ok) : m.Told :=
  ⟨fun h => absurd h hphase, fun _ => herror⟩

theorem told_connectionLost (m : DSNetManager) : m.connectionLost.Told :=
  told_ended (by simp [connectionLost, emit, markEveryoneOffline])
    (by simp [connectionLost, emit, markEveryoneOffline])

theorem told_failWith (m : DSNetManager) (rawError : Int32) : (m.failWith rawError).Told :=
  told_ended (by simp [failWith, enter]) (by simp [failWith, enter])

theorem Met.outcome {frame : Bytes} (h : Met m frame n) : Stays m n ∨ n.Told := by
  have hpacket := session_emit m (.packet m.myConnectPhase (PacketHeader.read frame) frame)
  cases h with
  | response => exact Or.inl ⟨rfl, rfl⟩
  | stray => exact Or.inl ⟨rfl, rfl⟩
  | refused => exact Or.inr (told_ended (by simp [refuseLogin]) (mapHandshakeError_ne_ok _))
  | accepted =>
    refine Or.inr ⟨fun _ => acceptLogin_lastError _ _ _ _, fun hphase => ?_⟩
    rw [acceptLogin_phase] at hphase
    simp at hphase
  | message => exact Or.inl (hpacket.trans (session_handleMessage _ _ _)).toStays
  | presence uin online nickName =>
    exact Or.inl (hpacket.trans (session_updatePresence _ uin online nickName)).toStays
  | circuit =>
    simp only [handleVirtualConnect]
    split_ifs
    · have hnumber : SameSession m (m.emit (.packet m.myConnectPhase (PacketHeader.read frame)
        frame)).nextVSN.2 := session_of_eq rfl rfl rfl
      exact Or.inl (hnumber.trans (session_socketWrite _ _)).toStays
    · exact Or.inr (told_connectionLost _)
  | ignored => exact Or.inl ⟨rfl, rfl⟩

theorem Pumped.outcome (h : Pumped m n) : Stays m n ∨ n.Told := by
  cases h with
  | clock => exact Or.inl ⟨rfl, rfl⟩
  | socket => exact Or.inl ⟨rfl, rfl⟩
  | frame _ frame hmet => exact hmet.outcome
  | lost => exact Or.inr (told_connectionLost m)
  | fail rawError => exact Or.inr (told_failWith m rawError)
  | handshake =>
    simp only [sendHandshake]
    split_ifs
    · exact Or.inr (told_blocking (by simp [blocking, enter]))
    · exact Or.inr (told_failWith _ _)

theorem told_startConnecting (m : DSNetManager) : m.startConnecting.Told := by
  simp only [startConnecting]
  split_ifs
  · exact told_blocking (by simp [blocking, enter, setDeadline, nowMs])
  · exact told_failWith _ _

theorem Queried.session {op : Op} (h : Queried op m n) : SameSession m n := by
  cases h with
  | ask slot clock deadline packet =>
    exact (session_requested m slot clock packet).trans (session_hold _ slot _)
  | refuse slot clock packet =>
    exact (session_requested m slot clock packet).trans (session_abandonTransaction _ _)
  | finish slot ticket =>
    have hset : SameSession m (m.setTransaction ticket none) := session_of_eq rfl rfl rfl
    exact hset.trans (session_release _ slot)
  | expire slot ticket => exact (session_abandonTransaction m ticket).trans (session_release _ slot)
  | drop slot => exact session_release m slot

/-- An act leaves the session as it is, unless it is a part of a pump, or connects or hangs up. -/
theorem Act.session {op : Op} (h : Act op m n) :
    SameSession m n ∨ Pumped m n ∨ (∃ users e, n = (m.attemptFor users).emit e) ∨
      op = .disconnect ∧ n = m.disconnect := by
  cases h with
  | pumped _ _ _ hpumped => exact Or.inr (Or.inl hpumped)
  | aside _ _ _ haside => exact Or.inl haside.session
  | attempt _ users => exact Or.inr (Or.inr (Or.inl ⟨users, _, rfl⟩))
  | hangUp => exact Or.inr (Or.inr (Or.inr ⟨rfl, rfl⟩))
  | enrol _ user =>
    have hwatch : SameSession m (m.watch user) := session_of_eq rfl rfl rfl
    exact Or.inl (hwatch.trans (session_startAdd _ _ _))
  | remove _ user => exact Or.inl (session_removeFromWWR m user)
  | yield =>
    rcases nextChangedUserWWR_frame m with ⟨_, hframe⟩ | ⟨user, users, state, _, hframe⟩
    · rw [hframe]
      exact Or.inl (session_refl m)
    · rw [hframe]
      exact Or.inl (session_of_eq rfl rfl rfl)
  | queried _ _ _ hqueried => exact Or.inl hqueried.session
  | nickName _ _ user name =>
    obtain ⟨presence, hframe⟩ := rememberNickName_frame m user name
    rw [hframe]
    exact Or.inl (session_of_eq rfl rfl rfl)
  | send _ _ packet => exact Or.inl (session_socketWrite m packet)
  | post _ _ path packet disk =>
    have hposted : ∀ (n : DSNetManager) e, SameSession n ((n.onDisk disk).emit e) :=
      fun _ _ => session_of_eq rfl rfl rfl
    exact Or.inl ((session_socketWrite m packet).trans (hposted _ _))
  | _ => exact Or.inl (session_of_eq rfl rfl rfl)

/-- Every act but a hang-up by the engine leaves a code that fits, if there was one. -/
theorem Act.outcome {op : Op} (h : Act op m n) :
    Stays m n ∨ n.Told ∨ op = .disconnect ∧ n.myConnectPhase = .idle := by
  rcases h.session with hsame | hpumped | ⟨users, e, rfl⟩ | ⟨hop, rfl⟩
  · exact Or.inl hsame.toStays
  · exact hpumped.outcome.imp id Or.inl
  · exact Or.inr (Or.inl ((told_startConnecting _).stays ⟨rfl, rfl⟩))
  · exact Or.inr (Or.inr ⟨hop, rfl⟩)

end

/-- Online in phase, but the socket is down. -/
structure Adrift (m : DSNetManager) : Prop where
  online : m.myConnectPhase = .online
  down : m.mySocket.myState ≠ .connected

/-- The socket is up if the phase is online. -/
def Afloat (m : DSNetManager) : Prop := m.myConnectPhase = .online → m.mySocket.myState = .connected

section
variable {m n : DSNetManager}

theorem adrift_iff (m : DSNetManager) : m.Adrift ↔ ¬ m.Afloat := by
  simp only [Afloat, Classical.not_imp]
  exact ⟨fun h => ⟨h.online, h.down⟩, fun h => ⟨h.1, h.2⟩⟩

theorem Adrift.not_awaiting (h : n.Adrift) : n.myConnectPhase ≠ .awaitHandshake := by
  rw [h.online]
  decide

/-- A round over a dead connection that is followed by another. -/
theorem Adrift.round (h : n.Adrift) (totalSize : Int32)
    (hcut : cut n.myTransactions n.mySocket.myInput = .frame totalSize)
    (hplain : ¬ n.IsCircuit n.mySocket.myInput) :
    n.processInputBody = .again ((n.handleFrame n.mySocket.myInput totalSize).2.consume totalSize) ∧
      ((n.handleFrame n.mySocket.myInput totalSize).2.consume totalSize).Adrift ∧
      ((n.handleFrame n.mySocket.myInput totalSize).2.consume totalSize).mySocket.myInput =
        consumed n.mySocket.myInput totalSize := by
  have hok := handleFrame_plain n n.mySocket.myInput totalSize hplain
  have hsocket := handleFrame_socket n n.mySocket.myInput totalSize h.not_awaiting hplain
  refine ⟨?_, ⟨?_, ?_⟩, ?_⟩
  · rw [processInputBody_frame n totalSize hcut, if_neg (not_not_intro hok)]
  · exact (handleFrame_kept n _ totalSize h.not_awaiting hok).trans h.online
  · rw [consume_state, hsocket]
    exact h.down
  · rw [consume_input, hsocket]

theorem handleFrame_transactions (m : DSNetManager) (totalSize : Int32)
    (hphase : m.myConnectPhase ≠ .awaitHandshake) (hplain : ¬ m.IsCircuit m.mySocket.myInput)
    (hanswer : answeredBy m.myTransactions (PacketHeader.read m.mySocket.myInput).ticket = none) :
    (m.handleFrame m.mySocket.myInput totalSize).2.myTransactions = m.myTransactions := by
  by_cases htype : ServerPacket.ofType (PacketHeader.read m.mySocket.myInput).type =
      some .handshakeResponse
  · rw [handleFrame_handshake m _ totalSize hanswer htype,
      handleHandshakeResponse_stray (m.emit _) _ _ _ hphase]
    rfl
  · rw [handleFrame_packet m _ totalSize hanswer htype]
    have hsame := (handlePacket_undisturbed (m.emit (.packet m.myConnectPhase
      (PacketHeader.read m.mySocket.myInput) (m.mySocket.myInput.take totalSize.toInt.toNat))) _
      (m.mySocket.myInput.drop packetHeaderSize) (totalSize - 32)
      (fun hcircuit => hplain ⟨hanswer, hcircuit⟩)).2
    exact hsame.transactions

/-- The loop leaves a dead connection unnoticed exactly if what is buffered endures it. -/
theorem Adrift.processInput_iff (h : n.Adrift) :
    n.processInput.Adrift ↔ Endures n.myTransactions n.mySocket.myInput := by
  induction hlength : n.inputLength using Nat.strong_induction_on generalizing n with
  | _ length ih =>
    subst hlength
    cases hcut : cut n.myTransactions n.mySocket.myInput with
    | wait =>
      rw [processInput, Loop.run_leave processInput_descends (processInputBody_wait n hcut)]
      exact ⟨fun _ => .wait _ _ hcut, fun _ => h⟩
    | lost =>
      rw [processInput, Loop.run_leave processInput_descends (processInputBody_lost n hcut)]
      refine iff_of_false (fun hadrift => ?_) (not_endures_lost hcut)
      have honline := hadrift.online
      simp [connectionLost, emit, markEveryoneOffline] at honline
    | frame totalSize =>
      by_cases hcircuit : n.IsCircuit n.mySocket.myInput
      · have hgone := handleFrame_circuit n n.mySocket.myInput totalSize h.down hcircuit
        have hleave : n.processInputBody =
            .leave (n.handleFrame n.mySocket.myInput totalSize).2 := by
          rw [processInputBody_frame n totalSize hcut, if_pos (by simp [hgone])]
        rw [processInput, Loop.run_leave processInput_descends hleave,
          endures_packet hcut hcircuit.1]
        refine iff_of_false (fun hadrift => ?_) (fun hendures => hendures.1 hcircuit.2)
        have honline := hadrift.online
        rw [(handleFrame_gone n _ totalSize hgone).1] at honline
        cases honline
      · obtain ⟨hround, hadrift, hinput⟩ := h.round totalSize hcut hcircuit
        rw [processInput, Loop.run_again processInput_descends hround, ← processInput,
          ih _ (processInput_descends n _ hround) hadrift rfl, hinput]
        cases hanswer : answeredBy n.myTransactions
          (PacketHeader.read n.mySocket.myInput).ticket with
        | some transaction =>
          have hresult := (handleResponse_frame _ _ _ _ hcut hanswer).2
          rw [handleFrame_response n _ totalSize transaction hanswer, hresult,
            endures_response transaction hcut hanswer]
          rfl
        | none =>
          have hplain : ServerPacket.ofType (PacketHeader.read n.mySocket.myInput).type ≠
              some .virtualConnect := fun htype => hcircuit ⟨hanswer, htype⟩
          have htransactions := handleFrame_transactions n totalSize h.not_awaiting hcircuit hanswer
          change Endures (n.handleFrame n.mySocket.myInput totalSize).2.myTransactions _ ↔ _
          rw [htransactions, endures_packet hcut hanswer]
          exact ⟨fun hrest => ⟨hplain, hrest⟩, And.right⟩

/-- A round that accepts a login over a connection which is dead once the users are registered, and
nothing behind the response makes that noticed. -/
structure Strands (m : DSNetManager) : Prop where
  awaiting : m.myConnectPhase = .awaitHandshake
  adrift : m.processInputBody.state.Adrift
  endures : Endures m.processInputBody.state.myTransactions
    m.processInputBody.state.mySocket.myInput

theorem handleVirtualConnect_up (m : DSNetManager) (header : PacketHeader)
    (h : (m.handleVirtualConnect header).1 = true) :
    (m.handleVirtualConnect header).2.mySocket.myState = .connected := by
  have hlength := buildVirtualConnectAccept_length m.myServerUIN ⟨header.fieldC, header.fieldD⟩
    header.fieldE m.nextVSN.1
  simp only [handleVirtualConnect] at h ⊢
  generalize buildVirtualConnectAccept m.myServerUIN ⟨header.fieldC, header.fieldD⟩ header.fieldE
    m.nextVSN.1 = packet at *
  by_cases hok : (m.nextVSN.2.socketWrite packet).1
  · rw [if_neg (not_not_intro hok), socketWrite_ok _ packet hok]
    exact (NetNatsueSocket.write_lies _ packet (by omega) hok).2.1
  · rw [if_pos hok] at h
    cases h

/-- Frames handled once the login is over leave the socket up if the phase stays online. -/
theorem Afloat.handleFrame (h : n.Afloat) (totalSize : Int32)
    (hphase : n.myConnectPhase ≠ .awaitHandshake)
    (hok : (n.handleFrame n.mySocket.myInput totalSize).1 = true) :
    (n.handleFrame n.mySocket.myInput totalSize).2.Afloat := by
  intro honline
  rw [handleFrame_kept n _ totalSize hphase hok] at honline
  by_cases hcircuit : n.IsCircuit n.mySocket.myInput
  · obtain ⟨hanswer, htype⟩ := hcircuit
    have hstray : ServerPacket.ofType (PacketHeader.read n.mySocket.myInput).type ≠
        some .handshakeResponse := by
      rw [htype]
      decide
    rw [handleFrame_packet n _ totalSize hanswer hstray] at hok ⊢
    simp only [handlePacket, htype] at hok ⊢
    exact handleVirtualConnect_up _ _ hok
  · rw [handleFrame_socket n _ totalSize hphase hcircuit]
    exact h honline

theorem round_left (hround : n.processInputBody = .leave m) : m = n ∨ m.myConnectPhase = .idle := by
  rcases processInputBody_leave n m hround with ⟨_, rfl⟩ | ⟨_, rfl⟩ | ⟨totalSize, _, hgone, rfl⟩
  · exact Or.inl rfl
  · exact Or.inr rfl
  · exact Or.inr (handleFrame_gone n _ totalSize hgone).1

theorem Afloat.left (h : n.Afloat) (hround : n.processInputBody = .leave m) : m.Afloat := by
  rcases round_left hround with rfl | hidle
  · exact h
  · intro honline
    rw [hidle] at honline
    cases honline

/-- No login is accepted in the last round of the loop. -/
theorem not_strands_last (hround : n.processInputBody = .leave m) : ¬ n.Strands ∧ ¬ m.Strands := by
  have hlast : n.myConnectPhase = .awaitHandshake → m.myConnectPhase ≠ .online := by
    intro hawaiting honline
    rcases round_left hround with rfl | hidle
    · rw [hawaiting] at honline
      cases honline
    · rw [hidle] at honline
      cases honline
  have hn : ¬ n.Strands := by
    intro hstrands
    have honline := hstrands.adrift.online
    rw [hround] at honline
    exact hlast hstrands.awaiting honline
  refine ⟨hn, ?_⟩
  rcases round_left hround with rfl | hidle
  · exact hn
  · intro hstrands
    have hawaiting := hstrands.awaiting
    rw [hidle] at hawaiting
    cases hawaiting

theorem round_later (hphase : n.myConnectPhase ≠ .awaitHandshake)
    (hround : n.processInputBody = .again m) : m.myConnectPhase ≠ .awaitHandshake := by
  obtain ⟨totalSize, _, hok, rfl⟩ := processInputBody_again n m hround
  have hkept := handleFrame_kept n _ totalSize hphase hok
  rwa [← hkept] at hphase

theorem Afloat.again (h : n.Afloat) (hphase : n.myConnectPhase ≠ .awaitHandshake)
    (hround : n.processInputBody = .again m) : m.Afloat := by
  obtain ⟨totalSize, _, hok, rfl⟩ := processInputBody_again n m hround
  intro honline
  rw [consume_state]
  exact h.handleFrame totalSize hphase hok honline

/-- Once the login is over no round strands it. -/
theorem not_strands_later (hphase : n.myConnectPhase ≠ .awaitHandshake) (rounds : ℕ) :
    ¬ (Loop.iterate processInputBody rounds n).Strands := by
  intro hstrands
  refine Loop.iterate_keeps (fun m => m.myConnectPhase ≠ .awaitHandshake) (fun m hm => ?_)
    rounds n hphase
    hstrands.awaiting
  cases hround : m.processInputBody with
  | leave k =>
    rcases round_left hround with rfl | hidle
    · exact hm
    · simp [Loop.Next.state, hidle]
  | again k => exact round_later hm hround

/-- The loop leaves a dead connection unnoticed exactly if one of its rounds strands a login. -/
theorem processInput_adrift_iff (h : n.Afloat) :
    n.processInput.Adrift ↔ ∃ rounds, (Loop.iterate processInputBody rounds n).Strands := by
  induction hlength : n.inputLength using Nat.strong_induction_on generalizing n with
  | _ length ih =>
    subst hlength
    cases hround : n.processInputBody with
    | leave m =>
      rw [processInput, Loop.run_leave processInput_descends hround]
      refine iff_of_false (fun hadrift => (adrift_iff m).mp hadrift (h.left hround)) ?_
      rintro ⟨rounds, hstrands⟩
      cases rounds with
      | zero => exact (not_strands_last hround).1 hstrands
      | succ rounds =>
        rw [Loop.iterate, hround] at hstrands
        exact (not_strands_last hround).2 hstrands
    | again m =>
      rw [processInput, Loop.run_again processInput_descends hround, ← processInput]
      -- whether a later round strands a login, or this one
      have hsplit : (∃ rounds, (Loop.iterate processInputBody rounds n).Strands) ↔
          n.Strands ∨ ∃ rounds, (Loop.iterate processInputBody rounds m).Strands := by
        constructor
        · rintro ⟨rounds, hstrands⟩
          cases rounds with
          | zero => exact Or.inl hstrands
          | succ rounds =>
            rw [Loop.iterate_again hround] at hstrands
            exact Or.inr ⟨rounds, hstrands⟩
        · rintro (hstrands | ⟨rounds, hstrands⟩)
          · exact ⟨0, hstrands⟩
          · exact ⟨rounds+1, by rw [Loop.iterate_again hround]; exact hstrands⟩
      rw [hsplit]
      by_cases hadrift : m.Adrift
      · have hawaiting : n.myConnectPhase = .awaitHandshake := by
          by_contra hphase
          exact (adrift_iff m).mp hadrift (h.again hphase hround)
        have hlater : ¬ ∃ rounds, (Loop.iterate processInputBody rounds m).Strands := by
          rintro ⟨rounds, hstrands⟩
          exact not_strands_later hadrift.not_awaiting rounds hstrands
        rw [hadrift.processInput_iff, or_iff_left hlater]
        constructor
        · intro hendures
          exact ⟨hawaiting, by rw [hround]; exact hadrift, by rw [hround]; exact hendures⟩
        · intro hstrands
          have hendures := hstrands.endures
          rwa [hround] at hendures
      · have hafloat : m.Afloat := not_not.mp fun hdown => hadrift ((adrift_iff m).mpr hdown)
        have hnow : ¬ n.Strands := by
          intro hstrands
          have hdown := hstrands.adrift
          rw [hround] at hdown
          exact hadrift hdown
        rw [ih _ (processInput_descends n m hround) hafloat rfl, or_iff_right hnow]

end

/-- The manager when `PumpConnectPhase` comes to the handshake. -/
def connected (m : DSNetManager) : DSNetManager :=
  if m.myConnectPhase = .connecting then m.pumpConnecting else m

/-- The call that is made now accepts a login over a dead connection, and nothing that has arrived
behind the response makes that noticed. -/
def LoginStranded (m : DSNetManager) : Prop :=
  m.connected.myConnectPhase = .awaitHandshake ∧
    ∃ rounds, (Loop.iterate processInputBody rounds m.connected.socketPump.2).Strands

/-- Online without an error, or with one and not online. -/
def OutcomeAgrees (m : DSNetManager) : Prop :=
  m.Online ∧ m.myLastError = .ok ∨ ¬ m.Online ∧ m.myLastError ≠ .ok

instance (m : DSNetManager) : Decidable m.OutcomeAgrees :=
  inferInstanceAs (Decidable (m.Online ∧ m.myLastError = .ok ∨ ¬ m.Online ∧ m.myLastError ≠ .ok))

/-- Online means that there was no error. -/
def Coded (m : DSNetManager) : Prop := m.myConnectPhase = .online → m.myLastError = .ok

section
variable {m : DSNetManager}

theorem pumpTimeout_adrift_iff (m : DSNetManager) : m.pumpTimeout.Adrift ↔ m.Adrift := by
  by_cases hphase : m.myConnectPhase = .connecting ∨ m.myConnectPhase = .awaitHandshake
  · have hbefore : ¬ m.Adrift := by
      intro hadrift
      rcases hphase with hphase | hphase <;> simp [hadrift.online] at hphase
    refine iff_of_false (fun hadrift => ?_) hbefore
    have honline := hadrift.online
    simp only [pumpTimeout, hphase, ↓reduceIte] at honline
    split_ifs at honline
    · cases honline
    · exact hbefore ⟨honline,
        by rcases hphase with hphase | hphase <;> simp [nowMs, hphase] at honline⟩
  · simp only [pumpTimeout, hphase, ↓reduceIte]

theorem pumpAwaiting_adrift_iff (m : DSNetManager) :
    m.pumpAwaiting.Adrift ↔ m.socketPump.2.processInput.Adrift := by
  simp only [pumpAwaiting]
  split_ifs with hlost
  · refine iff_of_false (fun hadrift => ?_) (fun hadrift => hadrift.not_awaiting hlost.1)
    have honline := hadrift.online
    cases honline
  · rfl

theorem pumpConnecting_phase (m : DSNetManager) (h : m.myConnectPhase = .connecting) :
    m.pumpConnecting.myConnectPhase ≠ .online := by
  simp only [pumpConnecting, sendHandshake]
  split_ifs
  · simp [enter]
  · simp [failWith, enter]
  · simp [failWith, enter]
  · simp [pumpConnectSocket, h]

theorem pumpConnectPhase_adrift_iff (h : m.blocking = true) :
    m.pumpConnectPhase.Adrift ↔ m.LoginStranded := by
  have hphase : m.connected.myConnectPhase ≠ .online := by
    unfold connected
    split_ifs with hconnecting
    · exact pumpConnecting_phase m hconnecting
    · intro honline
      simp [blocking, honline] at h
  have hpump : m.pumpConnectPhase = (if m.connected.myConnectPhase = .awaitHandshake then
      m.connected.pumpAwaiting else m.connected).pumpTimeout := rfl
  rw [hpump, pumpTimeout_adrift_iff, LoginStranded]
  by_cases hawaiting : m.connected.myConnectPhase = .awaitHandshake
  · have hafloat : m.connected.socketPump.2.Afloat := fun honline => absurd honline hphase
    rw [if_pos hawaiting, pumpAwaiting_adrift_iff, processInput_adrift_iff hafloat,
      and_iff_right hawaiting]
  · rw [if_neg hawaiting]
    exact iff_of_false (fun hadrift => hphase hadrift.online)
      (fun hstranded => hawaiting hstranded.1)

theorem Told.outcomeAgrees_iff (h : m.Told) (hdone : m.blocking = false) :
    OutcomeAgrees m ↔ ¬ m.Adrift := by
  cases hphase : m.myConnectPhase with
  | connecting => simp [blocking, hphase] at hdone
  | awaitHandshake => simp [blocking, hphase] at hdone
  | online =>
    have herror := h.online hphase
    rw [adrift_iff, not_not]
    simp [OutcomeAgrees, Afloat, Online, herror, hphase]
  | idle =>
    have herror := h.ended (Or.inl hphase)
    refine iff_of_true (Or.inr ⟨fun honline => ?_, herror⟩) (fun hadrift => ?_)
    · exact absurd honline.1 (by simp [hphase])
    · exact absurd hadrift.online (by simp [hphase])
  | failed =>
    have herror := h.ended (Or.inr hphase)
    refine iff_of_true (Or.inr ⟨fun honline => ?_, herror⟩) (fun hadrift => ?_)
    · exact absurd honline.1 (by simp [hphase])
    · exact absurd hadrift.online (by simp [hphase])

theorem coded_act {op : Op} {n : DSNetManager} (hm : m.Coded) (h : Act op m n) : n.Coded := by
  intro honline
  rcases h.outcome with hstays | htold | ⟨_, hidle⟩
  · rw [hstays.lastError]
    exact hm (hstays.phase.symm.trans honline)
  · exact htold.online honline
  · rw [hidle] at honline
    cases honline

theorem told_pumpConnectPhase (h : m.blocking = true) : m.pumpConnectPhase.Told := by
  refine ((pumps_pumpConnectPhase m).acts (.connectInBackground [])).keeps Told
    (fun m n hact hm => ?_) (told_blocking h)
  rcases hact.outcome with hstays | htold | ⟨hop, _⟩
  · exact hm.stays hstays
  · exact htold
  · cases hop

/-- What a call of `ConnectInBackground` comes to when it is not to be called again. -/
theorem connectInBackground_agrees_iff (hm : m.Coded) (users : List Bytes)
    (hdone : (m.connectInBackground users).1 = false) :
    OutcomeAgrees (m.connectInBackground users).2 ↔ ¬ m.LoginStranded := by
  simp only [connectInBackground] at hdone ⊢
  split_ifs at hdone ⊢ with honline hidle
  · have hstranded : ¬ m.LoginStranded := by
      intro hstranded
      have hphase := hstranded.1
      simp [connected, honline.1] at hphase
    exact iff_of_true (Or.inl ⟨honline, hm honline.1⟩) hstranded
  · have hstranded : ¬ m.LoginStranded := by
      intro hstranded
      have hphase := hstranded.1
      rcases hidle with hidle | hidle | hidle <;> simp [connected, hidle] at hphase
    have hphase : ({ m with myUsersForWWR := users } :
      DSNetManager).startConnecting.myConnectPhase ≠
        .online := by
      simp only [startConnecting]
      split_ifs <;> simp [enter, setDeadline, failWith, nowMs]
    have htold := (told_startConnecting { m with myUsersForWWR := users }).outcomeAgrees_iff hdone
    exact iff_of_true (htold.mpr fun hadrift => hphase hadrift.online) hstranded
  · have hblocking : m.blocking = true := by
      cases hphase : m.myConnectPhase <;> simp [hphase] at hidle <;> simp [blocking, hphase]
    have htold := told_pumpConnectPhase hblocking
    rw [← pumpConnectPhase_adrift_iff hblocking]
    generalize m.pumpConnectPhase = n at htold hdone
    exact htold.outcomeAgrees_iff hdone

end

/-- The state after so many polls of `Connect`. -/
def polled : ℕ → DSNetManager → DSNetManager
  | 0, m => m
  | polls+1, m => polled polls (m.connectInBackground []).2

/-- `Connect` comes to what its last poll comes to. -/
theorem connect_lastPoll (fuel : ℕ) (m : DSNetManager) (hm : m.Coded)
    (hdone : (m.connect fuel).1.isSome = true) :
    ∃ polls, (m.polled polls).Coded ∧ ((m.polled polls).connectInBackground []).1 = false ∧
      (m.connect fuel).2 = ((m.polled polls).connectInBackground []).2 := by
  induction fuel generalizing m with
  | zero => cases hdone
  | succ fuel ih =>
    simp only [connect] at hdone ⊢
    split_ifs at hdone ⊢ with hblock
    · obtain ⟨polls, hlast⟩ := ih _ ((pieces_connectInBackground m []).acts.keeps Coded
        (fun m n hact hm => coded_act hm hact) hm) hdone
      exact ⟨polls+1, hlast⟩
    · have hlast : (m.connectInBackground []).1 = false := by simpa using hblock
      exact ⟨0, hm, hlast, rfl⟩

end DSNetManager

open DSNetManager

/-- **Outcome and error code agree** when `ConnectInBackground` or `Connect` is done, exactly unless
the last call strands a login. -/
theorem connect_outcome_iff (os : SocketOS) (clock : Stream' UInt32) (disk : Disk) (ops : List Op) :
    (∀ users, ((ran os clock disk ops).connectInBackground users).1 = false →
      (OutcomeAgrees ((ran os clock disk ops).connectInBackground users).2 ↔
        ¬ (ran os clock disk ops).LoginStranded)) ∧
    ∀ fuel, ((ran os clock disk ops).connect fuel).1.isSome = true →
      ∃ polls, ((ran os clock disk ops).connect fuel).2 =
          (((ran os clock disk ops).polled polls).connectInBackground []).2 ∧
        (OutcomeAgrees ((ran os clock disk ops).connect fuel).2 ↔
          ¬ ((ran os clock disk ops).polled polls).LoginStranded) := by
  have hcoded : (ran os clock disk ops).Coded :=
    ran_keeps os clock disk ops Coded (fun h => by cases h) fun _ _ _ hact hm => coded_act hm hact
  generalize ran os clock disk ops = m at *
  refine ⟨fun users hdone => connectInBackground_agrees_iff hcoded users hdone,
    fun fuel hdone => ?_⟩
  obtain ⟨polls, hcoded', hdone', hlast⟩ := connect_lastPoll fuel m hcoded hdone
  exact ⟨polls, hlast, by rw [hlast]; exact connectInBackground_agrees_iff hcoded' [] hdone'⟩

/-- A login over a connection that holds. -/
theorem connect_outcome_iff_login :
    let m :=
      ran (.scripted [[.data loginResponse]] [.took 54]) (.const 0) .blank [.connectInBackground []]
    OutcomeAgrees (m.connectInBackground []).2 ↔ ¬ m.LoginStranded :=
  (connect_outcome_iff _ _ _ _).1 [] (by decide +kernel)

/-- The server lets the client in and hangs up: done, no error, and not online. -/
theorem connect_outcome_stranded :
    let m := ran (.scripted [[.data loginResponse, .data []]] [.took 54]) (.const 0) .blank
      [.connectInBackground []]
    (m.connectInBackground []).1 = false ∧ ¬ (m.connectInBackground []).2.Online ∧
      (m.connectInBackground []).2.myLastError = .ok ∧
      ¬ OutcomeAgrees (m.connectInBackground []).2 := by
  decide +kernel

end NetNatsue
