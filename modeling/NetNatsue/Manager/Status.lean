import NetNatsue.Manager.LettingGo
import NetNatsue.Manager.Outcome
import NetNatsue.Socket.Losses

/-! What `GetStatus` answers when it stops blocking. -/
namespace NetNatsue.DSNetManager

/-- The round at hand gives the connection up: there is a length that cannot be framed, or a circuit
request that cannot be answered. -/
def Breaks (m : DSNetManager) : Prop :=
  cut m.myTransactions m.mySocket.myInput = .lost ∨
    (∃ totalSize, cut m.myTransactions m.mySocket.myInput = .frame totalSize) ∧
      m.IsCircuit m.mySocket.myInput ∧ m.mySocket.os.FailsWithin (m.mySocket.myOutput.length + 36)

section
variable {m n : DSNetManager}

theorem handleVirtualConnect_ok_iff (h : m.Online) (header : PacketHeader) :
    (m.handleVirtualConnect header).1 = true ↔
      ¬ m.mySocket.os.FailsWithin (m.mySocket.myOutput.length + 36) := by
  have hwrite : ∀ packet : Bytes, packet.length = 36 → ((m.nextVSN.2.socketWrite packet).1 = true ↔
      ¬ m.mySocket.os.FailsWithin (m.mySocket.myOutput.length + 36)) := by
    intro packet hlength
    have hsome : packet ≠ [] := by
      rintro rfl
      cases hlength
    rw [← hlength]
    exact NetNatsueSocket.write_ok_iff m.mySocket packet h.2 hsome (by omega)
  rw [← hwrite _ (buildVirtualConnectAccept_length m.myServerUIN ⟨header.fieldC, header.fieldD⟩
    header.fieldE m.nextVSN.1)]
  simp only [handleVirtualConnect]
  split_ifs with hok <;> simp [hok]

theorem handleFrame_circuit_ok_iff (h : m.Online) (raw : Bytes) (totalSize : Int32)
    (hcircuit : m.IsCircuit raw) : (m.handleFrame raw totalSize).1 = true ↔
      ¬ m.mySocket.os.FailsWithin (m.mySocket.myOutput.length + 36) := by
  obtain ⟨hanswer, htype⟩ := hcircuit
  have hstray : ServerPacket.ofType (PacketHeader.read raw).type ≠ some .handshakeResponse := by
    rw [htype]
    decide
  rw [handleFrame_packet m raw totalSize hanswer hstray, handlePacket, htype]
  exact handleVirtualConnect_ok_iff (m := m.emit _) h _

/-- A round that is followed by another keeps the connection. -/
theorem online_again (h : n.Online) (hround : n.processInputBody = .again m) :
    m.Online ∧ ¬ n.Breaks := by
  have hphase : n.myConnectPhase ≠ .awaitHandshake := by simp [h.1]
  have hafloat : m.Afloat := Afloat.again (fun _ => h.2) hphase hround
  obtain ⟨totalSize, hcut, hok, rfl⟩ := processInputBody_again n m hround
  have honline := (handleFrame_kept n n.mySocket.myInput totalSize hphase hok).trans h.1
  refine ⟨⟨honline, hafloat honline⟩, ?_⟩
  rintro (hlost | ⟨_, hcircuit, hfails⟩)
  · rw [hcut] at hlost
    cases hlost
  · exact (handleFrame_circuit_ok_iff h _ totalSize hcircuit).mp hok hfails

/-- The last round gives the connection up, or does nothing. -/
theorem online_leave (h : n.Online) (hround : n.processInputBody = .leave m) :
    ¬ n.Breaks ∧ m = n ∨ n.Breaks ∧ ¬ m.Online := by
  rcases processInputBody_leave n m hround with ⟨hwait, rfl⟩ | ⟨hlost, rfl⟩ |
    ⟨totalSize, hcut, hgone, rfl⟩
  · refine Or.inl ⟨?_, rfl⟩
    rintro (hlost | ⟨⟨totalSize, hcut⟩, _⟩)
    · rw [hwait] at hlost
      cases hlost
    · rw [hwait] at hcut
      cases hcut
  · exact Or.inr ⟨Or.inl hlost, fun honline => by cases honline.1⟩
  · obtain ⟨hidle, hcircuit⟩ := handleFrame_gone n _ totalSize hgone
    refine Or.inr ⟨Or.inr ⟨⟨totalSize, hcut⟩, hcircuit, ?_⟩, ?_⟩
    · by_contra hsends
      rw [(handleFrame_circuit_ok_iff h _ totalSize hcircuit).mpr hsends] at hgone
      cases hgone
    · intro honline
      rw [honline.1] at hidle
      cases hidle

/-- The input loop keeps the connection unless one of its rounds gives it up. -/
theorem processInput_online_iff (h : n.Online) :
    n.processInput.Online ↔ ∀ rounds, ¬ (Loop.iterate processInputBody rounds n).Breaks := by
  induction hlength : n.inputLength using Nat.strong_induction_on generalizing n with
  | _ length ih =>
    subst hlength
    cases hround : n.processInputBody with
    | leave m =>
      rw [processInput, Loop.run_leave processInput_descends hround]
      rcases online_leave h hround with ⟨hkept, rfl⟩ | ⟨hbreaks, hoffline⟩
      · refine iff_of_true h fun rounds => ?_
        rwa [Loop.iterate_leave hround]
      · exact iff_of_false hoffline fun hkept => hkept 0 hbreaks
    | again m =>
      obtain ⟨honline, hkept⟩ := online_again h hround
      rw [processInput, Loop.run_again processInput_descends hround, ← processInput,
        ih _ (processInput_descends n m hround) honline rfl]
      constructor
      · intro hlater rounds
        cases rounds with
        | zero => exact hkept
        | succ rounds =>
          rw [Loop.iterate_again hround]
          exact hlater rounds
      · intro hall rounds
        rw [← Loop.iterate_again hround]
        exact hall (rounds + 1)

end

/-- Nothing that a pump meets ends the connection: no failure to send what is queued, no hanging up
of the server, and no round of the input loop. -/
structure Upheld (m : DSNetManager) : Prop where
  sends : ¬ m.mySocket.os.FailsWithin m.mySocket.myOutput.length
  reads : ¬ HangsUp m.mySocket.os.recvs.head
  rounds : ∀ rounds, ¬ (Loop.iterate processInputBody rounds m.socketPump.2).Breaks

theorem pump_online_iff (m : DSNetManager) (h : m.Online) : m.pump.Online ↔ m.Upheld := by
  have hpump : m.pump = m.pumpOnline := by simp [pump, h.1]
  have hok := NetNatsueSocket.pump_ok_iff m.mySocket h.2
  have hstart : m.socketPump.1 = true → m.socketPump.2.Online :=
    fun halive => ⟨h.1, pump_alive m.mySocket h.2 halive⟩
  rw [hpump, pumpOnline]
  cases halive : m.socketPump.1 with
  | true =>
    have hloop := processInput_online_iff (hstart halive)
    obtain ⟨hsends, hreads⟩ := hok.mp halive
    simp only [not_true_eq_false, false_and, ↓reduceIte]
    rw [hloop]
    exact ⟨fun hrounds => ⟨hsends, hreads, hrounds⟩, Upheld.rounds⟩
  | false =>
    have hdown : ¬ m.Upheld := by
      intro hupheld
      have hup := hok.mpr ⟨hupheld.sends, hupheld.reads⟩
      rw [socketPump] at halive
      simp [hup] at halive
    simp only [Bool.false_eq_true, not_false_eq_true, true_and]
    refine iff_of_false ?_ hdown
    split_ifs with hphase
    · exact fun honline => by cases honline.1
    · exact fun honline => hphase honline.1

/-- The caller's four variables behind the call. -/
def statusOutputs (m : DSNetManager) (before : Status) : Status := m.getStatus.1.1.getD before

/-- The call has answered: all four numbers are assigned, all are -1 if it leaves the manager
offline, and none is left over from before. -/
structure StatusAnswered (m : DSNetManager) : Prop where
  assigned : m.getStatus.1.1.isSome = true
  offline : ¬ m.getStatus.2.Online → ∀ before, m.statusOutputs before = .offline
  online : m.getStatus.2.Online → ∀ before before', m.statusOutputs before = m.statusOutputs before'

/-- A call that does not block answers. -/
def StatusAnswers (m : DSNetManager) : Prop := m.getStatus.1.2 = false → m.StatusAnswered

/-- Online, the first call can send its request, and the pump of a later one keeps the
connection. -/
def StatusHeld (m : DSNetManager) : Prop :=
  m.Online →
    if m.myStatusQuery.ticket = 0 then ¬ m.mySocket.os.FailsWithin (m.mySocket.myOutput.length + 32)
    else m.Upheld

section
variable (m : DSNetManager)

theorem getStatus_offline (h : ¬ m.Online) :
    m.getStatus = ((some .offline, false), m.cancelStatus) := by
  rw [getStatus, if_pos h]

theorem getStatus_start (h : m.Online) (hidle : m.myStatusQuery.ticket = 0) :
    m.getStatus = m.startStatus := by
  rw [getStatus, if_neg (not_not_intro h), if_pos hidle]

theorem getStatus_poll (h : m.Online) (hasked : m.myStatusQuery.ticket ≠ 0) :
    m.getStatus = m.pump.pollStatus := by
  rw [getStatus, if_neg (not_not_intro h), if_neg hasked]

/-- A poll that ends the query assigns the numbers. -/
theorem pollStatus_assigned (h : m.pollStatus.1.2 = false) : m.pollStatus.1.1.isSome = true := by
  unfold pollStatus at h ⊢
  cases hanswer : (m.pollQuery m.myStatusQuery).1 with
  | waiting => simp [hanswer] at h
  | finished result => simp [hanswer]
  | timedOut => simp [hanswer]

/-- Behind a pump that dropped the connection the query is over, and no users are counted. -/
theorem pollStatus_dropped (h : ∀ ticket, m.myTransactions ticket = none) :
    m.pollStatus.1.2 = false ∧ ∃ status, m.pollStatus.1.1 = some status ∧
    status.usersOnline = 0 := by
  have hanswer : m.pollQuery m.myStatusQuery = (.finished {}, m) := by
    rw [pollQuery, pollTransaction_dropped m _ (h _)]
  rw [pollStatus, hanswer]
  exact ⟨rfl, _, rfl, rfl⟩

/-- The first call answers nothing, and blocks if its request can be sent. -/
theorem startStatus_blocks_iff (h : m.Online) :
    m.startStatus.1.1 = none ∧
      (m.startStatus.1.2 = true ↔ ¬ m.mySocket.os.FailsWithin
        (m.mySocket.myOutput.length + 32)) := by
  have hlength : ∀ ticket, (buildGetStatus m.myServerUIN ticket).length = 32 :=
    fun ticket => PacketHeader.write_length _
  have hwrite : ∀ n : DSNetManager, n.mySocket = m.mySocket → ∀ ticket,
      ((n.socketWrite (buildGetStatus m.myServerUIN ticket)).1 = true ↔
        ¬ m.mySocket.os.FailsWithin (m.mySocket.myOutput.length + 32)) := by
    intro n hsocket ticket
    have hsome : buildGetStatus m.myServerUIN ticket ≠ [] := by
      intro hnil
      have hzero := hlength ticket
      rw [hnil] at hzero
      cases hzero
    rw [← hlength ticket, ← NetNatsueSocket.write_ok_iff m.mySocket _ h.2 hsome
      (by rw [hlength]; decide), ← hsocket]
    exact Iff.rfl
  have hsent := hwrite (m.startTransaction .status statusExtra).2.nowMs.2
    (startTransaction_socket m .status statusExtra)
    (m.startTransaction .status statusExtra).1
  unfold startStatus startQuery
  simp only
  split_ifs with hok
  · exact ⟨rfl, iff_of_true rfl (hsent.mp hok)⟩
  · exact ⟨rfl, iff_of_false (by simp) (fun hsends => hok (hsent.mpr hsends))⟩

/-- **`GetStatus` answers when it stops blocking**, exactly if the connection holds through the
call. -/
theorem status_answers_iff : m.StatusAnswers ↔ m.StatusHeld := by
  by_cases honline : m.Online
  · by_cases hidle : m.myStatusQuery.ticket = 0
    · obtain ⟨hnone, hblocks⟩ := startStatus_blocks_iff m honline
      have hheld : m.StatusHeld ↔ m.startStatus.1.2 = true := by
        rw [StatusHeld, if_pos hidle, hblocks]
        exact ⟨fun h => h honline, fun h _ => h⟩
      rw [hheld, StatusAnswers, getStatus_start m honline hidle]
      constructor
      · intro hanswers
        by_contra hrefused
        have hassigned := (hanswers (by simpa using hrefused)).assigned
        rw [getStatus_start m honline hidle, hnone] at hassigned
        cases hassigned
      · intro hsent hstops
        rw [hsent] at hstops
        cases hstops
    · have hheld : m.StatusHeld ↔ m.pump.Online := by
        rw [StatusHeld, if_neg hidle, pump_online_iff m honline]
        exact ⟨fun h => h honline, fun h _ => h⟩
      have hstill := still_pollStatus m.pump
      rw [hheld, StatusAnswers, getStatus_poll m honline hidle]
      constructor
      · intro hanswers
        rcases pump_online m honline with hup | hnone
        · exact hup
        · obtain ⟨hstops, status, hstatus, husers⟩ := pollStatus_dropped m.pump hnone
          by_contra hdown
          have hoffline := (hanswers hstops).offline (by
            rw [getStatus_poll m honline hidle, Online, hstill.phase, hstill.socket]
            exact hdown) status
          rw [statusOutputs, getStatus_poll m honline hidle, hstatus] at hoffline
          rw [show status = Status.offline from hoffline] at husers
          cases husers
      · intro hup hstops
        have hassigned := pollStatus_assigned m.pump hstops
        refine ⟨by rwa [getStatus_poll m honline hidle], fun hdown => ?_, fun _ before before' => ?_⟩
        · rw [getStatus_poll m honline hidle, Online, hstill.phase, hstill.socket] at hdown
          exact absurd hup hdown
        · obtain ⟨status, hstatus⟩ := Option.isSome_iff_exists.mp hassigned
          rw [statusOutputs, statusOutputs, getStatus_poll m honline hidle, hstatus]
          rfl
  · refine iff_of_true (fun _ => ?_) (fun h => absurd h honline)
    have hstatus := getStatus_offline m honline
    have hstill := still_cancelStatus m
    refine ⟨by rw [hstatus]; rfl, fun _ before => by
      rw [statusOutputs, hstatus]; rfl, fun hup => ?_⟩
    rw [hstatus, Online, hstill.phase, hstill.socket] at hup
    exact absurd hup honline

end

/-- The request cannot be sent: the call is done, and nothing is assigned. -/
theorem not_status_answers :
    ¬ StatusAnswers (ran (.scripted [[.data loginResponse]] [.took 54, .failed 104])
      (.const 0) .blank
      [.connectInBackground [], .connectInBackground []]) := by
  intro hanswers
  have hassigned := (hanswers (by decide +kernel)).assigned
  revert hassigned
  decide +kernel

end NetNatsue.DSNetManager
