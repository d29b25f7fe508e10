import NetNatsue.Foundations.Patience
import NetNatsue.Manager.Answers
import NetNatsue.Manager.Deadlines
import NetNatsue.Manager.Rests

/-! What the deadlines are for: nobody waits for ever. The calls that wait in a loop of their own
come back when the clock has passed their deadline, and an attempt to connect is given up at its
own. -/
namespace NetNatsue
namespace DSNetManager

/-- If an attempt is still under way behind this, it was before, and has the same time. -/
def Lasts (m n : DSNetManager) : Prop :=
  n.blocking = true → m.blocking = true ∧ n.clock = m.clock ∧ n.myConnectDeadline =
    m.myConnectDeadline

section
variable {m n k : DSNetManager}

theorem lasts_refl (m : DSNetManager) : Lasts m m := fun h => ⟨h, rfl, rfl⟩

theorem Lasts.trans (h : Lasts m n) (h' : Lasts n k) : Lasts m k := by
  intro hk
  obtain ⟨hn, hclock', hdeadline'⟩ := h' hk
  obtain ⟨hm, hclock, hdeadline⟩ := h hn
  exact ⟨hm, hclock'.trans hclock, hdeadline'.trans hdeadline⟩

theorem lasts_of_eq (hphase : n.myConnectPhase = m.myConnectPhase) (hclock : n.clock = m.clock)
    (hdeadline : n.myConnectDeadline = m.myConnectDeadline) : Lasts m n := by
  intro h
  rw [blocking, hphase] at h
  exact ⟨h, hclock, hdeadline⟩

theorem lasts_over (h : n.blocking = false) : Lasts m n :=
  fun hn => absurd (h.symm.trans hn) (by decide)

theorem Spares.lasts (h : Spares m n) (hphase : n.myConnectPhase = m.myConnectPhase) : Lasts m n :=
  lasts_of_eq hphase (congrArg Affairs.clock h.affairs) (congrArg Affairs.deadline h.affairs)

/-- A frame that ends an attempt does not begin another. -/
theorem Met.lasts {frame : Bytes} (h : Met m frame n) : Lasts m n := by
  cases h.aftermath with
  | spared _ e _ hspares hphase =>
    rcases hphase with hphase | hidle
    · exact (lasts_of_eq rfl rfl rfl : Lasts m (m.emit e)).trans (hspares.lasts hphase)
    · exact lasts_over (by rw [blocking, hidle.1]; rfl)
  | spooled => exact lasts_of_eq rfl rfl rfl
  | refused _ _ _ _ hfailed => exact lasts_over (by rw [blocking, hfailed]; rfl)
  | accepted k _ _ _ _ _ honline =>
    refine lasts_over ?_
    change k.blocking = false
    rw [blocking, honline]
    rfl

theorem lasts_processInput (m : DSNetManager) : Lasts m m.processInput := by
  refine Loop.iterate_keeps (Lasts m) (fun n hn => hn.trans ?_) _ m (lasts_refl m)
  cases hcut : cut n.myTransactions n.mySocket.myInput with
  | wait =>
    rw [processInputBody_wait n hcut]
    exact lasts_refl n
  | lost =>
    rw [processInputBody_lost n hcut]
    exact lasts_over rfl
  | frame totalSize =>
    have hmet := (met_handleFrame n totalSize hcut).lasts
    rw [processInputBody_frame n totalSize hcut]
    split_ifs
    · exact hmet.trans (lasts_of_eq rfl rfl rfl)
    · exact hmet

theorem lasts_sendHandshake (m : DSNetManager) (h : m.blocking = true) : Lasts m m.sendHandshake :=
  fun _ => ⟨h, congrArg Affairs.clock (spares_sendHandshake m).affairs,
    congrArg Affairs.deadline (spares_sendHandshake m).affairs⟩

theorem lasts_pumpConnecting (m : DSNetManager) (h : m.blocking = true) :
    Lasts m m.pumpConnecting := by
  have hsocket : Lasts m m.pumpConnectSocket := lasts_of_eq rfl rfl rfl
  simp only [pumpConnecting]
  split_ifs
  · exact hsocket.trans (lasts_sendHandshake m.pumpConnectSocket h)
  · exact lasts_over rfl
  · exact hsocket

theorem lasts_pumpAwaiting (m : DSNetManager) : Lasts m m.pumpAwaiting := by
  have hinput : Lasts m m.socketPump.2.processInput :=
    Lasts.trans (lasts_of_eq rfl rfl rfl) (lasts_processInput m.socketPump.2)
  simp only [pumpAwaiting]
  split_ifs
  · exact lasts_over rfl
  · exact hinput

/-- The part of a pump before the deadline is looked at. -/
def pumpAttempt (m : DSNetManager) : DSNetManager :=
  let m := if m.myConnectPhase = .connecting then m.pumpConnecting else m
  if m.myConnectPhase = .awaitHandshake then m.pumpAwaiting else m

theorem pumpConnectPhase_eq (m : DSNetManager) : m.pumpConnectPhase = m.pumpAttempt.pumpTimeout :=
  rfl

theorem lasts_pumpAttempt (m : DSNetManager) (h : m.blocking = true) : Lasts m m.pumpAttempt := by
  have hconnecting : Lasts m (if m.myConnectPhase = .connecting then m.pumpConnecting else m) := by
    split_ifs
    · exact lasts_pumpConnecting m h
    · exact lasts_refl m
  have hawaiting : ∀ n : DSNetManager,
      Lasts n (if n.myConnectPhase = .awaitHandshake then n.pumpAwaiting else n) := by
    intro n
    split_ifs
    · exact lasts_pumpAwaiting n
    · exact lasts_refl n
  exact hconnecting.trans (hawaiting _)

theorem blocking_iff (m : DSNetManager) :
    m.blocking = true ↔ m.myConnectPhase = .connecting ∨ m.myConnectPhase = .awaitHandshake := by
  rw [blocking, decide_eq_true_iff]

/-- The deadline is looked at once, and decides alone. -/
theorem pumpTimeout_blocking (m : DSNetManager) (h : m.blocking = true) :
    m.pumpTimeout = if timeAfter m.clock.head m.myConnectDeadline then
      m.nowMs.2.closeSocket.failWith 0
      else m.nowMs.2 := by
  rw [pumpTimeout, if_pos ((blocking_iff m).mp h)]
  rfl

/-- A poll behind which the attempt goes on has read the clock once, and in time. -/
theorem pumpConnectPhase_blocking (m : DSNetManager) (h : m.blocking = true)
    (hafter : m.pumpConnectPhase.blocking = true) :
    timeAfter m.clock.head m.myConnectDeadline = false ∧ m.pumpConnectPhase.clock = m.clock.tail ∧
      m.pumpConnectPhase.myConnectDeadline = m.myConnectDeadline := by
  have hlasts := lasts_pumpAttempt m h
  rw [pumpConnectPhase_eq] at hafter ⊢
  generalize m.pumpAttempt = n at *
  by_cases hn : n.blocking = true
  · obtain ⟨_, hclock, hdeadline⟩ := hlasts hn
    rw [pumpTimeout_blocking n hn] at hafter ⊢
    rw [hclock, hdeadline] at hafter ⊢
    split_ifs at hafter ⊢ with hlate
    · cases hafter
    · exact ⟨by simpa using hlate, congrArg Stream'.tail hclock, hdeadline⟩
  · rw [pumpTimeout, if_neg (mt (blocking_iff n).mpr hn)] at hafter
    exact absurd hafter hn

end

/-- A poll while an attempt is under way pumps. -/
theorem connectInBackground_pumps (m : DSNetManager) (users : List Bytes) (h : m.blocking = true) :
    m.connectInBackground users = (m.pumpConnectPhase.blocking,
      m.pumpConnectPhase.emit (.polled m.myConnectPhase false m.pumpConnectPhase.blocking)) := by
  have hphase := (blocking_iff m).mp h
  have honline : ¬ m.Online := fun honline => by
    rcases hphase with hphase | hphase <;> exact absurd (hphase.symm.trans honline.1) (by decide)
  have hbusy : ¬ (m.myConnectPhase = .idle ∨ m.myConnectPhase = .failed ∨
      m.myConnectPhase = .online) := by
    rcases hphase with hphase | hphase <;> rw [hphase] <;> decide
  rw [connectInBackground, if_neg honline, if_neg hbusy]

/-- Any other poll that is to be repeated has begun an attempt, and set its deadline. -/
theorem connectInBackground_begins (m : DSNetManager) (users : List Bytes) (h : m.blocking = false)
    (hblock : (m.connectInBackground users).1 = true) :
    (m.connectInBackground users).2.blocking = true ∧ (m.connectInBackground users).2.clock =
    m.clock.tail ∧
      (m.connectInBackground users).2.myConnectDeadline =
      deadlineIn m.clock.head connectTimeoutMs := by
  unfold connectInBackground at hblock ⊢
  by_cases honline : m.Online
  · rw [if_pos honline] at hblock
    cases hblock
  · have hphase : m.myConnectPhase = .idle ∨ m.myConnectPhase = .failed ∨
        m.myConnectPhase = .online := by
      rw [blocking, decide_eq_false_iff_not] at h
      cases hat : m.myConnectPhase <;> simp [hat] at h ⊢
    rw [if_neg honline, if_pos hphase] at hblock ⊢
    simp only at hblock ⊢
    obtain ⟨rotation, host, port, id, name, hchoice⟩ :=
      ({ m with myUsersForWWR := users } : DSNetManager).chooseServer_frame
    unfold startConnecting at hblock ⊢
    rw [hchoice] at hblock ⊢
    cases hok : m.mySocket.beginConnect.1 with
    | true =>
      simp only [beginConnect, emit, hok, not_true_eq_false, ↓reduceIte]
      exact ⟨rfl, rfl, rfl⟩
    | false =>
      simp only [beginConnect, emit, hok, Bool.false_eq_true, not_false_eq_true,
        ↓reduceIte] at hblock
      cases hblock

/-- One round of `Connect`. -/
def connectRound (m : DSNetManager) : Option Bool × DSNetManager :=
  let r := m.connectInBackground []
  (if ¬ r.1 then some (decide r.2.Online) else none, r.2)

theorem connect_polls (fuel : ℕ) (m : DSNetManager) :
    connect fuel m = Patience.polls connectRound fuel m := by
  induction fuel generalizing m with
  | zero => rfl
  | succ fuel ih =>
    cases hblock : (m.connectInBackground []).1 with
    | true =>
      have hround : m.connectRound.1 = none := by simp [connectRound, hblock]
      rw [Patience.polls_none hround, connect, hblock]
      exact ih _
    | false =>
      have hround : m.connectRound.1 = some (decide (m.connectInBackground []).2.Online) := by
        simp [connectRound, hblock]
      rw [Patience.polls_some hround, connect, hblock]
      rfl

theorem patient_connectRound (deadline : UInt32) :
    Patience.Patient connectRound clock (fun now => timeAfter now deadline = true)
      (fun m => m.blocking = true ∧ m.myConnectDeadline = deadline) := by
  have hround : ∀ m : DSNetManager, m.blocking = true → m.connectRound.1 = none →
      m.pumpConnectPhase.blocking = true ∧
        m.connectRound.2 = m.pumpConnectPhase.emit (.polled m.myConnectPhase false
          m.pumpConnectPhase.blocking) := by
    intro m hm hagain
    simp only [connectRound, connectInBackground_pumps m [] hm] at hagain ⊢
    exact ⟨by simpa using hagain, trivial⟩
  refine ⟨?_, ?_, ?_⟩
  · rintro m ⟨hm, rfl⟩ hagain
    obtain ⟨hafter, hstate⟩ := hround m hm hagain
    rw [hstate]
    exact ⟨hafter, (pumpConnectPhase_blocking m hm hafter).2.2⟩
  · rintro m ⟨hm, rfl⟩ hagain
    rw [(pumpConnectPhase_blocking m hm (hround m hm hagain).1).1]
    decide
  · rintro m ⟨hm, rfl⟩ hagain
    obtain ⟨hafter, hstate⟩ := hround m hm hagain
    rw [hstate]
    exact (pumpConnectPhase_blocking m hm hafter).2.1

/-- The reading of the clock, counted from the first after the start of the attempt, that is late:
for an attempt that is under way its deadline is set, a new one sets its own. -/
def ConnectDue (m : DSNetManager) (k : ℕ) : Prop :=
  if m.blocking = true then timeAfter (m.clock.get k) m.myConnectDeadline = true
  else timeAfter (m.clock.get (k+1)) (deadlineIn (m.clock.get 0) connectTimeoutMs) = true

/-- **`Connect` comes back.** Whatever the server does, or does not do, `Connect` returns in the
round in which the clock is late at the latest. -/
theorem connect_returns (m : DSNetManager) (k : ℕ) (h : m.ConnectDue k) :
    ∃ answer n, ∀ fuel, k + 2 ≤ fuel → connect fuel m = (some answer, n) := by
  by_cases hm : m.blocking = true
  · rw [ConnectDue, if_pos hm] at h
    obtain ⟨answer, n, hdone⟩ := (patient_connectRound m.myConnectDeadline).returns m ⟨hm, rfl⟩ k h
    refine ⟨answer, n, fun fuel hfuel => ?_⟩
    rw [connect_polls]
    exact hdone fuel (by omega)
  · rw [ConnectDue, if_neg hm] at h
    cases hround : m.connectRound.1 with
    | some answer =>
      refine ⟨answer, m.connectRound.2, fun fuel hfuel => ?_⟩
      obtain ⟨fuel, rfl⟩ : ∃ n, fuel = n + 1 := ⟨fuel - 1, by omega⟩
      rw [connect_polls, Patience.polls_some hround]
    | none =>
      have hblock : (m.connectInBackground []).1 = true := by
        simpa [connectRound] using hround
      obtain ⟨hafter, hclock, hdeadline⟩ :=
        connectInBackground_begins m [] (by simpa using hm) hblock
      have hlate : timeAfter (m.connectRound.2.clock.get k)
        (deadlineIn (m.clock.get 0) connectTimeoutMs) =
          true := by
        have hstate : m.connectRound.2.clock = m.clock.tail := hclock
        rw [hstate]
        exact h
      obtain ⟨answer, n, hdone⟩ :=
        (patient_connectRound _).returns m.connectRound.2 ⟨hafter, hdeadline⟩ k hlate
      refine ⟨answer, n, fun fuel hfuel => ?_⟩
      obtain ⟨fuel, rfl⟩ : ∃ n, fuel = n + 1 := ⟨fuel - 1, by omega⟩
      rw [connect_polls, Patience.polls_none hround]
      exact hdone fuel (by omega)

/-- A client of a server that never answers, as its clock is about to wrap. -/
def unanswered : DSNetManager :=
  construct .idle (Stream'.cons 4294967295 (Stream'.const 29999)) .blank

theorem connect_returns_unanswered :
    ∃ answer n, ∀ fuel, 2 ≤ fuel → connect fuel unanswered = (some answer, n) :=
  connect_returns unanswered 0 (by
    rw [ConnectDue, if_neg (by decide +kernel)]
    decide +kernel)

/-- One round of `WaitForTransaction`. -/
def waitRound (ticket : Int32) (deadline : UInt32) (m : DSNetManager) :
    Option (Bool × Transaction) × DSNetManager :=
  let p := m.pump.pollTransaction ticket
  match p.1 with
  | some result => (some (result.done, result), p.2.setWaiting none)
  | none =>
    if ¬ p.2.Online then (some (false, Transaction.fresh), p.2.setWaiting none)
    else if timeAfter p.2.nowMs.1 deadline then
      (some (false, Transaction.fresh), (p.2.nowMs.2.abandonTransaction ticket).setWaiting none)
    else (none, p.2.nowMs.2)

theorem waitLoop_polls (ticket : Int32) (deadline : UInt32) (fuel : ℕ) (m : DSNetManager) :
    waitLoop ticket deadline fuel m = Patience.polls (waitRound ticket deadline) fuel m := by
  induction fuel generalizing m with
  | zero => rfl
  | succ fuel ih =>
    simp only [waitLoop, Patience.polls, waitRound]
    cases (m.pump.pollTransaction ticket).1 with
    | some result => rfl
    | none =>
      simp only
      split_ifs
      · rfl
      · exact ih _
      · rfl

theorem patient_waitRound (ticket : Int32) (deadline : UInt32) :
    Patience.Patient (waitRound ticket deadline) clock (fun now => timeAfter now deadline = true)
      (fun m => m.myConnectPhase = .online) := by
  have hround : ∀ m : DSNetManager, m.myConnectPhase = .online →
    (waitRound ticket deadline m).1 = none →
      timeAfter m.clock.head deadline = false ∧ (waitRound ticket deadline m).2.clock =
        m.clock.tail ∧
        (waitRound ticket deadline m).2.myConnectPhase = .online := by
    intro m hm hagain
    have hclock : (m.pump.pollTransaction ticket).2.clock = m.clock :=
      (pollTransaction_kept clock (fun _ _ _ => rfl) m.pump ticket).trans (pump_clock hm)
    simp only [waitRound] at hagain ⊢
    generalize m.pump.pollTransaction ticket = p at *
    obtain ⟨answer, n⟩ := p
    cases answer with
    | some result => cases hagain
    | none =>
      simp only at hagain hclock ⊢
      by_cases honline : n.Online
      · rw [if_neg (not_not_intro honline)] at hagain ⊢
        by_cases hlate : timeAfter n.nowMs.1 deadline = true
        · rw [if_pos hlate] at hagain
          cases hagain
        · rw [if_neg hlate]
          rw [Bool.not_eq_true, nowMs, hclock] at hlate
          exact ⟨hlate, congrArg Stream'.tail hclock, honline.1⟩
      · rw [if_pos honline] at hagain
        cases hagain
  refine ⟨fun m hm hagain => (hround m hm hagain).2.2, fun m hm hagain => ?_,
    fun m hm hagain => (hround m hm hagain).2.1⟩
  rw [(hround m hm hagain).1]
  decide

theorem waitForTransaction_returns (m : DSNetManager) (kind : TransactionKind) (ticket : Int32)
    (timeoutMs : UInt32) (k : ℕ) (honline : m.myConnectPhase = .online)
    (hlate : timeAfter (m.clock.get (k+1)) (deadlineIn (m.clock.get 0) timeoutMs) = true) :
    ∃ answer n, ∀ fuel, k + 1 ≤ fuel → m.waitForTransaction fuel kind ticket timeoutMs =
      (some answer, n) := by
  have hphase : (m.setWaiting (some (kind, ticket))).nowMs.2.myConnectPhase = .online := honline
  obtain ⟨answer, n, hdone⟩ :=
    (patient_waitRound ticket (deadlineIn (m.clock.get 0) timeoutMs)).returns
    (m.setWaiting (some (kind, ticket))).nowMs.2 hphase k hlate
  refine ⟨answer, n, fun fuel hfuel => ?_⟩
  have hloop : m.waitForTransaction fuel kind ticket timeoutMs = waitLoop ticket
      (deadlineIn (m.clock.get 0) timeoutMs) fuel (m.setWaiting (some (kind, ticket))).nowMs.2 :=
        rfl
  rw [hloop, waitLoop_polls]
  exact hdone fuel hfuel

/-- What a request that has been written waits with. -/
theorem requested_returns (m : DSNetManager) (kind : TransactionKind) (packet : Bytes)
    (timeoutMs : UInt32) (k : ℕ) (honline : m.Online)
    (hlate : timeAfter (m.clock.get (k+1)) (deadlineIn (m.clock.get 0) timeoutMs) = true) :
    ∃ answer n, ∀ fuel, k + 1 ≤ fuel →
      ((m.startTransaction kind noExtra).2.socketWrite packet).2.waitForTransaction fuel kind
        (m.startTransaction kind noExtra).1 timeoutMs = (some answer, n) := by
  refine waitForTransaction_returns _ kind _ timeoutMs k ?_ ?_
  · exact (socketWrite_phase _ packet).trans honline.1
  · rw [socketWrite_clock]
    exact hlate

/-- Behind a pump the connection is up, or nothing is owed any more. -/
theorem pump_up_or_cleared {m : DSNetManager} (honline : m.myConnectPhase = .online) :
    m.pump.myConnectPhase = .online ∨ ∀ ticket, m.pump.myTransactions ticket = none := by
  refine pump_keeps honline (fun n => n.myConnectPhase = .online ∨ ∀ ticket, n.myTransactions
    ticket = none)
    (Or.inl honline) (fun n s hn => hn) (fun n _ => Or.inr fun _ => rfl) ?_
  intro n k frame hphase hmet hn
  cases hmet with
  | response transaction hanswer =>
    refine hn.imp id fun hnone => ?_
    have hentry : n.myTransactions (PacketHeader.read frame).ticket = some transaction :=
      (Option.ite_none_right_eq_some.mp hanswer).2
    rw [hnone] at hentry
    cases hentry
  | stray | ignored => exact hn
  | refused hawaiting | accepted hawaiting => exact absurd hawaiting hphase
  | message =>
    simp only [handleMessage]
    cases parsePackedBabelMessage (frame.drop packetHeaderSize) (sizeInt frame - 32) with
    | none => exact hn
    | some message =>
      simp only
      split_ifs <;> exact hn
  | presence uin online nickName =>
    obtain ⟨changed, adds, hframe⟩ := updatePresence_frame
      (n.emit (.packet n.myConnectPhase (PacketHeader.read frame) frame)) uin online nickName
    rw [hframe]
    exact hn
  | circuit =>
    simp only [handleVirtualConnect]
    generalize hnumber :
      (n.emit (.packet n.myConnectPhase (PacketHeader.read frame) frame)).nextVSN.2 = k
    have hk : k.myConnectPhase = .online ∨ ∀ ticket, k.myTransactions ticket = none := by
      rw [← hnumber]
      exact hn
    split_ifs with hok
    · rw [socketWrite_ok k _ hok]
      exact hk
    · exact Or.inr fun _ => rfl

/-- A query that goes on is still in the table, and the clock has been read in time. -/
theorem pollQuery_waiting (m : DSNetManager) (query : PendingQuery)
    (h : (m.pollQuery query).1 = .waiting) :
    m.myTransactions query.ticket ≠ none ∧ timeAfter m.clock.head query.deadline = false ∧
      (m.pollQuery query).2 = m.nowMs.2 := by
  cases hpoll : (m.pollTransaction query.ticket).1 with
  | some result =>
    rw [pollQuery, hpoll] at h
    cases h
  | none =>
    have hsame := pollTransaction_none m query.ticket hpoll
    simp only [pollQuery, hsame] at h ⊢
    split_ifs at h ⊢ with hlate
    · refine ⟨fun hnone => ?_, Bool.eq_false_of_not_eq_true hlate, rfl⟩
      rw [pollTransaction_dropped m query.ticket hnone] at hpoll
      cases hpoll

/-- One round of `DSFetchRandomUser` without `block`. -/
def randomRound (m : DSNetManager) : Option Bytes × DSNetManager :=
  let r := m.dsFetchRandomUser
  (if ¬ r.1.2 then some r.1.1 else none, r.2)

theorem dsFetchRandomUserNow_polls (fuel : ℕ) (m : DSNetManager) :
    dsFetchRandomUserNow fuel m = Patience.polls randomRound fuel m := by
  induction fuel generalizing m with
  | zero => rfl
  | succ fuel ih =>
    cases hblock : m.dsFetchRandomUser.1.2 with
    | true =>
      have hround : m.randomRound.1 = none := by simp [randomRound, hblock]
      rw [Patience.polls_none hround, dsFetchRandomUserNow, hblock]
      exact ih _
    | false =>
      have hround : m.randomRound.1 = some m.dsFetchRandomUser.1.1 := by simp [randomRound, hblock]
      rw [Patience.polls_some hround, dsFetchRandomUserNow, hblock]
      rfl

theorem patient_randomRound (deadline : UInt32) :
    Patience.Patient randomRound clock (fun now => timeAfter now deadline = true)
      (fun m => m.myConnectPhase = .online ∧ m.myRandomUserQuery.ticket ≠ 0 ∧
        m.myRandomUserQuery.deadline = deadline) := by
  have hround : ∀ m : DSNetManager, m.myConnectPhase = .online → m.myRandomUserQuery.ticket ≠ 0 →
      m.randomRound.1 = none → m.pump.myConnectPhase = .online ∧
        timeAfter m.clock.head m.myRandomUserQuery.deadline = false ∧
          m.randomRound.2 = m.pump.nowMs.2 := by
    intro m honline hheld hagain
    have hrecord : m.pump.myRandomUserQuery = m.myRandomUserQuery := (recordsKept_pump m).random
    have hblock : m.pump.pollRandom.1.2 = true := by
      simpa [randomRound, dsFetchRandomUser, if_neg hheld] using hagain
    have hstate : m.randomRound.2 = m.pump.pollRandom.2 := by
      simp [randomRound, dsFetchRandomUser, if_neg hheld]
    rw [hstate]
    unfold pollRandom at hblock ⊢
    simp only [hrecord] at hblock ⊢
    cases hpoll : (m.pump.pollQuery m.myRandomUserQuery).1 with
    | finished result =>
      rw [hpoll] at hblock
      cases hblock
    | timedOut =>
      rw [hpoll] at hblock
      cases hblock
    | waiting =>
      obtain ⟨howed, hintime, hnow⟩ := pollQuery_waiting _ _ hpoll
      rw [pump_clock honline] at hintime
      exact ⟨(pump_up_or_cleared honline).resolve_right fun hnone => howed (hnone _), hintime, hnow⟩
  refine ⟨?_, ?_, ?_⟩
  · rintro m ⟨honline, hheld, rfl⟩ hagain
    obtain ⟨hup, _, hstate⟩ := hround m honline hheld hagain
    have hrecord : m.randomRound.2.myRandomUserQuery = m.myRandomUserQuery := by
      rw [hstate]
      exact (recordsKept_pump m).random
    rw [hrecord, hstate]
    exact ⟨hup, hheld, rfl⟩
  · rintro m ⟨honline, hheld, rfl⟩ hagain
    rw [(hround m honline hheld hagain).2.1]
    decide
  · rintro m ⟨honline, hheld, rfl⟩ hagain
    rw [(hround m honline hheld hagain).2.2]
    exact congrArg Stream'.tail (pump_clock honline)

/-- The reading of the clock, counted from the first after the query was begun, that is late. -/
def RandomDue (m : DSNetManager) (k : ℕ) : Prop :=
  if m.myRandomUserQuery.ticket ≠ 0 then
    timeAfter (m.clock.get k) m.myRandomUserQuery.deadline = true
  else timeAfter (m.clock.get (k+1)) (deadlineIn (m.clock.get 0) queryTimeoutMs) = true

/-- A query that was sent has left the connection up, and read the clock once. -/
theorem startQuery_went (m : DSNetManager) (kind : TransactionKind) (fixedExtra : FixedExtra)
    (request : Int32 → Bytes) (record : PendingQuery)
    (h : (m.startQuery kind fixedExtra request).1 = some record) :
    (m.startQuery kind fixedExtra request).2.myConnectPhase = m.myConnectPhase ∧
      (m.startQuery kind fixedExtra request).2.clock = m.clock.tail := by
  have hphase : (m.startTransaction kind fixedExtra).2.myConnectPhase = m.myConnectPhase := rfl
  have hclock : (m.startTransaction kind fixedExtra).2.clock = m.clock := rfl
  simp only [startQuery] at h ⊢
  generalize (m.startTransaction kind fixedExtra).2 = n at *
  split_ifs at h ⊢
  rw [socketWrite_phase, socketWrite_clock]
  exact ⟨hphase, congrArg Stream'.tail hclock⟩

/-- A query that is begun is held, with its deadline. -/
theorem startRandom_held (m : DSNetManager) (h : m.startRandom.1.2 = true) :
    m.startRandom.2.myConnectPhase = m.myConnectPhase ∧ m.startRandom.2.clock = m.clock.tail ∧
      m.startRandom.2.myRandomUserQuery.ticket ≠ 0 ∧
        m.startRandom.2.myRandomUserQuery.deadline = deadlineIn m.clock.head queryTimeoutMs := by
  unfold startRandom at h ⊢
  split_ifs at h ⊢
  have hwent :=
    m.startQuery_went .randomUser noExtra (buildFetchRandomUser m.myServerUIN m.myUserUIN)
  have hrecords :=
    m.startQuery_record .randomUser noExtra (buildFetchRandomUser m.myServerUIN m.myUserUIN)
  generalize m.startQuery .randomUser noExtra (buildFetchRandomUser m.myServerUIN
    m.myUserUIN) = r at *
  obtain ⟨asked, n⟩ := r
  cases asked with
  | none => cases h
  | some record =>
    have hrecord := hrecords record rfl
    subst hrecord
    exact ⟨(hwent _ rfl).1, (hwent _ rfl).2, ticketAfter_ne_zero _, rfl⟩

theorem random_returns (m : DSNetManager) (k : ℕ) (honline : m.Online) (h : m.RandomDue k) :
    ∃ answer n, ∀ fuel, k + 2 ≤ fuel → dsFetchRandomUserNow fuel m = (some answer, n) := by
  by_cases hheld : m.myRandomUserQuery.ticket ≠ 0
  · rw [RandomDue, if_pos hheld] at h
    obtain ⟨answer, n, hdone⟩ := (patient_randomRound m.myRandomUserQuery.deadline).returns m
      ⟨honline.1, hheld, rfl⟩ k h
    refine ⟨answer, n, fun fuel hfuel => ?_⟩
    rw [dsFetchRandomUserNow_polls]
    exact hdone fuel (by omega)
  · rw [RandomDue, if_neg hheld] at h
    cases hround : m.randomRound.1 with
    | some answer =>
      refine ⟨answer, m.randomRound.2, fun fuel hfuel => ?_⟩
      obtain ⟨fuel, rfl⟩ : ∃ n, fuel = n + 1 := ⟨fuel - 1, by omega⟩
      rw [dsFetchRandomUserNow_polls, Patience.polls_some hround]
    | none =>
      have hstart : m.dsFetchRandomUser = m.startRandom := by
        rw [dsFetchRandomUser, if_pos (not_not.mp hheld)]
      have hblock : m.startRandom.1.2 = true := by simpa [randomRound, hstart] using hround
      obtain ⟨hphase, hclock, hticket, hdeadline⟩ := startRandom_held m hblock
      have hstate : m.randomRound.2 = m.startRandom.2 := by simp [randomRound, hstart]
      have hlate : timeAfter (m.startRandom.2.clock.get k)
          (deadlineIn (m.clock.get 0) queryTimeoutMs) = true := by
        rw [hclock]
        exact h
      obtain ⟨answer, n, hdone⟩ := (patient_randomRound _).returns m.startRandom.2
        ⟨hphase.trans honline.1, hticket, hdeadline⟩ k hlate
      refine ⟨answer, n, fun fuel hfuel => ?_⟩
      obtain ⟨fuel, rfl⟩ : ∃ n, fuel = n + 1 := ⟨fuel - 1, by omega⟩
      rw [dsFetchRandomUserNow_polls, Patience.polls_none hround, hstate]
      exact hdone fuel (by omega)

/-- `IsUserOnline` comes back. -/
theorem isUserOnline_returns (m : DSNetManager) (k : ℕ) (user : Bytes)
    (hlate : timeAfter (m.clock.get (k+1)) (deadlineIn (m.clock.get 0)
      userOnlineTimeoutMs) = true) :
    ∃ answer n, ∀ fuel, k + 1 ≤ fuel → m.isUserOnline fuel user = (some answer, n) := by
  unfold isUserOnline
  simp only
  split_ifs with _ honline
  · exact ⟨_, _, fun _ _ => rfl⟩
  · cases m.myPresence user with
    | some presence => exact ⟨_, _, fun _ _ => rfl⟩
    | none =>
      obtain ⟨answer, n, hdone⟩ :=
        requested_returns m .connectionDetail (buildGetConnectionDetail m.myServerUIN
        (BabelUIN.fromString user).2 (m.startTransaction .connectionDetail noExtra).1)
          userOnlineTimeoutMs k
        honline hlate
      simp only [askUserOnline]
      split_ifs
      · exact ⟨_, _, fun fuel hfuel => by rw [hdone fuel hfuel]; rfl⟩
      · exact ⟨_, _, fun _ _ => rfl⟩
  · exact ⟨_, _, fun _ _ => rfl⟩
  · exact ⟨_, _, fun _ _ => rfl⟩

/-- `DSFeedHistory` comes back. -/
theorem dsFeedHistory_returns (m : DSNetManager) (k : ℕ) (data : Option Bytes) (size : Int32)
    (hlate : timeAfter (m.clock.get (k+1)) (deadlineIn (m.clock.get 0) historyTimeoutMs) = true) :
    ∃ answer n, ∀ fuel, k + 1 ≤ fuel → m.dsFeedHistory fuel data size = (some answer, n) := by
  unfold dsFeedHistory
  cases data with
  | none => exact ⟨_, _, fun _ _ => rfl⟩
  | some bytes =>
    simp only
    by_cases hrefused : ¬ m.Online ∨ size ≤ 0
    · simp only [if_pos hrefused]
      exact ⟨_, _, fun _ _ => rfl⟩
    · have honline : m.Online := by tauto
      obtain ⟨answer, n, hdone⟩ :=
        requested_returns m .feedHistory (buildFeedHistory m.myServerUIN m.myUserUIN
        (m.startTransaction .feedHistory noExtra).1 bytes size) historyTimeoutMs k honline hlate
      simp only [if_neg hrefused]
      split_ifs
      · exact ⟨_, _, fun fuel hfuel => by rw [hdone fuel hfuel]; rfl⟩
      · exact ⟨_, _, fun _ _ => rfl⟩

/-- **The calls that wait for an answer come back**, in the round in which the clock is late at the
latest; the third when it is called online. -/
theorem waits_return (m : DSNetManager) (k : ℕ) :
    (∀ user, timeAfter (m.clock.get (k+1)) (deadlineIn (m.clock.get 0) userOnlineTimeoutMs) = true →
      ∃ answer n, ∀ fuel, k + 1 ≤ fuel → m.isUserOnline fuel user = (some answer, n)) ∧
    (∀ data size,
      timeAfter (m.clock.get (k+1)) (deadlineIn (m.clock.get 0) historyTimeoutMs) = true →
      ∃ answer n, ∀ fuel, k + 1 ≤ fuel → m.dsFeedHistory fuel data size = (some answer, n)) ∧
    (m.Online → m.RandomDue k →
      ∃ answer n, ∀ fuel, k + 2 ≤ fuel → dsFetchRandomUserNow fuel m = (some answer, n)) :=
  ⟨m.isUserOnline_returns k, m.dsFeedHistory_returns k, m.random_returns k⟩

theorem waits_return_unanswered : ∃ answer n, ∀ fuel, 1 ≤ fuel →
    ({ freshOnline with clock := unanswered.clock } : DSNetManager).isUserOnline fuel
    (ascii "7+1") =
      (some answer, n) :=
  (waits_return { freshOnline with clock := unanswered.clock } 0).1 _ (by decide +kernel)

/-- As long as no new attempt is announced, the deadline is the same. -/
def Timed (m n : DSNetManager) : Prop :=
  ∃ events, n.trace = m.trace ++ events ∧
    ((∀ host port, Event.connecting host port ∉ events) → n.myConnectDeadline = m.myConnectDeadline)

section
variable {m n k : DSNetManager}

theorem timed_refl (m : DSNetManager) : Timed m m := ⟨[], (List.append_nil _).symm, fun _ => rfl⟩

theorem Timed.trans (h : Timed m n) (h' : Timed n k) : Timed m k := by
  obtain ⟨events, htrace, hsame⟩ := h
  obtain ⟨more, hmore, hsame'⟩ := h'
  refine ⟨events ++ more, by rw [hmore, htrace, List.append_assoc], fun hnone => ?_⟩
  have hfirst : ∀ host port, Event.connecting host port ∉ events :=
    fun host port hin => hnone host port (List.mem_append_left _ hin)
  have hlater : ∀ host port, Event.connecting host port ∉ more :=
    fun host port hin => hnone host port (List.mem_append_right _ hin)
  exact (hsame' hlater).trans (hsame hfirst)

theorem Rests.timed (h : Rests m n) : Timed m n := by
  obtain ⟨events, htrace⟩ := h.trace
  exact ⟨events, htrace, fun _ => congrArg (fun b => b.2.2.2.2) h.kept⟩

theorem Deed.timed {op : Op} (h : Deed op m n) : Timed m n := by
  cases h with
  | books _ _ _ hbooks => exact hbooks.rests.timed
  | heeded _ _ _ hheeded =>
    rcases hheeded.rests_or_spools with hrests | ⟨k, sender, payload, hrests, rfl⟩
    · exact hrests.timed
    · exact hrests.timed.trans ⟨[_], rfl, fun _ => rfl⟩
  | say _ _ packet => exact (spares_socketWrite m packet).rests.timed
  | attempt _ users =>
    obtain ⟨host, port, deadline, htrace, _⟩ := attemptFor_belongings m users
    exact ⟨_, htrace, fun hnone => absurd (List.mem_singleton_self _) (hnone host port)⟩
  | hangUp => exact ⟨[.ended], rfl, fun _ => rfl⟩
  | configure _ _ hop =>
    refine ⟨[], ?_, fun _ => ?_⟩ <;> cases op <;> simp only [Op.configures,
      Bool.false_eq_true] at hop
    all_goals first | exact (List.append_nil _).symm | rfl
  | unqueue | handOut | list | setAside | discard =>
    exact ⟨[], (List.append_nil _).symm, fun _ => rfl⟩

end

theorem runOps_timed (ops : List Op) (m : DSNetManager) : Timed m (runOps ops m).2 :=
  runOps_keeps ops (Timed m) m (timed_refl m) fun _ _ _ _ hdeed hm => hm.trans hdeed.timed

/-- **An attempt is given up at its deadline.** Whatever has been called since it began, as long as
no other one has been begun: a poll 30 seconds after its start or later ends it, whatever the server
does, and as a failure where it was still under way; and a poll before that does not. The clock may
wrap in between. -/
theorem attempt_given_up (m : DSNetManager) (users more : List Bytes) (ops : List Op)
    (n : DSNetManager) (events : List Event) (elapsed : ℕ) (hbegins : m.blocking = false)
    (hbegun : (m.connectInBackground users).1 = true)
    (hrun : (runOps ops (m.connectInBackground users).2).2 = n)
    (hevents : n.trace = (m.connectInBackground users).2.trace ++ events)
    (hother : ∀ host port, Event.connecting host port ∉ events) (hblocking : n.blocking = true)
    (helapsed : elapsed < 2147483648)
    (hclock : n.clock.head = m.clock.head + UInt32.ofNat elapsed) :
    (30000 ≤ elapsed → (n.connectInBackground more).1 = false ∧
      (n.pumpAttempt.blocking = true → (n.connectInBackground more).2.myConnectPhase = .failed ∧
        (n.connectInBackground more).2.myLastError = .offline ∧
        (n.connectInBackground more).2.myRawError = 0 ∧
        (n.connectInBackground more).2.mySocket = n.pumpAttempt.mySocket.close)) ∧
    (elapsed < 30000 → (n.connectInBackground more).1 = n.pumpAttempt.blocking) := by
  obtain ⟨_, _, hset⟩ := connectInBackground_begins m users hbegins hbegun
  have hdeadline : n.myConnectDeadline = deadlineIn m.clock.head connectTimeoutMs := by
    obtain ⟨events', htrace, hsame⟩ := runOps_timed ops (m.connectInBackground users).2
    rw [hrun] at htrace hsame
    have hevents' : events' = events := List.append_cancel_left (htrace.symm.trans hevents)
    exact (hsame (hevents' ▸ hother)).trans hset
  have hdue : timeAfter n.clock.head n.myConnectDeadline = true ↔ 30000 ≤ elapsed := by
    rw [hclock, hdeadline]
    exact timeAfter_deadlineIn m.clock.head connectTimeoutMs elapsed helapsed (by decide)
  have hlasts := lasts_pumpAttempt n hblocking
  rw [connectInBackground_pumps n more hblocking, pumpConnectPhase_eq]
  generalize n.pumpAttempt = k at *
  by_cases hk : k.blocking = true
  · obtain ⟨_, hkclock, hkdeadline⟩ := hlasts hk
    rw [pumpTimeout_blocking k hk, hkclock, hkdeadline]
    refine ⟨fun hlate => ?_, fun hearly => ?_⟩
    · rw [if_pos (hdue.mpr hlate)]
      exact ⟨rfl, fun _ => ⟨rfl, rfl, rfl, rfl⟩⟩
    · rw [if_neg (mt hdue.mp (by omega))]
      rfl
  · rw [pumpTimeout, if_neg (mt (blocking_iff k).mpr hk)]
    exact ⟨fun _ => ⟨by simpa using hk, fun h => absurd h hk⟩, fun _ => rfl⟩

theorem attempt_given_up_unanswered :
    ((unanswered.connectInBackground []).2.connectInBackground []).1 = false :=
  ((attempt_given_up unanswered [] [] [] _ [] 30000 (by decide +kernel) (by decide +kernel) rfl
    (List.append_nil _).symm (by simp) (by decide +kernel) (by decide)
      (by decide +kernel)).1 le_rfl).1

end DSNetManager
end NetNatsue
