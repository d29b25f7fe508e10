import NetNatsue.Manager.Spelling
import NetNatsue.Manager.Status
import NetNatsue.Socket.Counters

/-! The figures `GetStatus` reports: the time since the login, and the bytes moved since the socket
was made. -/
namespace NetNatsue
namespace DSNetManager

/-- A login response is accepted. -/
def LogsIn (m n : DSNetManager) : Prop :=
  m.myConnectPhase = .awaitHandshake ∧ ∃ frame serverUIN userUIN servers,
    n = (m.emit (.handshake m.myConnectPhase frame)).acceptLogin serverUIN userUIN servers

/-- The phase and the time of the login are what they were. -/
structure Abides (m n : DSNetManager) : Prop where
  phase : n.myConnectPhase = m.myConnectPhase
  connectedAt : n.myConnectedAtMs = m.myConnectedAtMs

section
variable {m n k : DSNetManager}

theorem Abides.trans (h : Abides m n) (h' : Abides n k) : Abides m k :=
  ⟨h'.phase.trans h.phase, h'.connectedAt.trans h.connectedAt⟩

theorem SameSession.abides (h : SameSession m n) : Abides m n := ⟨h.phase, h.connectedAt⟩

theorem LogsIn.outcome (h : LogsIn m n) :
    n.myConnectPhase = .online ∧ n.myConnectedAtMs = m.clock.head := by
  obtain ⟨_, frame, serverUIN, userUIN, servers, rfl⟩ := h
  have hwatch : ∀ (n : DSNetManager) user, ((n.watch user).emit (.registered user)).myConnectPhase =
      n.myConnectPhase := fun _ _ => rfl
  have hphase := sendWWRRegistrations_kept (·.myConnectPhase) hwatch socketWrite_phase
  have htime := sendWWRRegistrations_kept (·.myConnectedAtMs) (fun _ _ => rfl) fun n packet => by
    simp only [socketWrite]
    split_ifs <;> rfl
  exact ⟨hphase _ _, htime _ _⟩

end

section
variable (m : DSNetManager)

theorem pollQuery_connectedAt (query : PendingQuery) :
    (m.pollQuery query).2.myConnectedAtMs = m.myConnectedAtMs :=
  pollQuery_kept (·.myConnectedAtMs) (fun _ _ _ => rfl) (fun _ => rfl) m query

end

section
variable {m n : DSNetManager}

/-- A frame leaves the session as it is, ends it, or decides about the login that is awaited. -/
theorem Met.abides {frame : Bytes} (h : Met m frame n) :
    Abides m n ∨ n.myConnectPhase = .idle ∨
      m.myConnectPhase = .awaitHandshake ∧ (n.myConnectPhase = .failed ∨ LogsIn m n) := by
  have hpacket := session_emit m (.packet m.myConnectPhase (PacketHeader.read frame) frame)
  cases h with
  | response transaction => exact Or.inl ⟨rfl, rfl⟩
  | stray => exact Or.inl ⟨rfl, rfl⟩
  | refused hphase => exact Or.inr (Or.inr ⟨hphase, Or.inl rfl⟩)
  | accepted hphase => exact Or.inr (Or.inr ⟨hphase, Or.inr ⟨hphase, _, _, _, _, rfl⟩⟩)
  | message => exact Or.inl (hpacket.trans (session_handleMessage _ _ _)).abides
  | presence uin online nickName =>
    exact Or.inl (hpacket.trans (session_updatePresence _ _ _ _)).abides
  | circuit =>
    simp only [handleVirtualConnect]
    split_ifs
    · have hnumber : SameSession m (m.emit (.packet m.myConnectPhase (PacketHeader.read frame)
        frame)).nextVSN.2 := session_of_eq rfl rfl rfl
      exact Or.inl (hnumber.trans (session_socketWrite _ _)).abides
    · exact Or.inr (Or.inl rfl)
  | ignored => exact Or.inl ⟨rfl, rfl⟩

theorem Pumped.abides (h : Pumped m n) :
    Abides m n ∨ n.myConnectPhase ≠ .online ∨ LogsIn m n := by
  cases h with
  | clock => exact Or.inl ⟨rfl, rfl⟩
  | socket => exact Or.inl ⟨rfl, rfl⟩
  | frame _ frame hmet =>
    rcases hmet.abides with hsame | hidle | ⟨_, hfailed | hlogin⟩
    · exact Or.inl hsame
    · exact Or.inr (Or.inl (by simp [hidle]))
    · exact Or.inr (Or.inl (by simp [hfailed]))
    · exact Or.inr (Or.inr hlogin)
  | lost => exact Or.inr (Or.inl (by simp [connectionLost, emit, markEveryoneOffline]))
  | fail => exact Or.inr (Or.inl (by simp [failWith, enter]))
  | handshake =>
    refine Or.inr (Or.inl ?_)
    simp only [sendHandshake]
    split_ifs <;> simp [failWith, enter]

/-- An act leaves the session as it is, ends it, or begins one. -/
theorem Act.abides {op : Op} (h : Act op m n) :
    Abides m n ∨ n.myConnectPhase ≠ .online ∨ LogsIn m n := by
  rcases h.session with hsame | hpumped | ⟨users, e, rfl⟩ | ⟨_, rfl⟩
  · exact Or.inl hsame.abides
  · exact hpumped.abides
  · have hphase := (startConnecting_outcome (m := { m with myUsersForWWR := users })).2
    refine Or.inr (Or.inl ?_)
    change (startConnecting { m with myUsersForWWR := users }).myConnectPhase ≠ .online
    rw [hphase]
    split_ifs <;> decide
  · exact Or.inr (Or.inl (by simp [disconnect, emit, markEveryoneOffline]))

/-- The login accepted in `m` began the session: since then the phase has been online. -/
def Began (m n : DSNetManager) : Prop :=
  ∃ l, LogsIn m l ∧
    Relation.ReflTransGen (fun k n => (∃ op, Act op k n) ∧ n.myConnectPhase = .online) l n

/-- The time of the login is kept for the session. -/
theorem Began.connectedAt (h : Began m n) :
    n.myConnectPhase = .online ∧ n.myConnectedAtMs = m.clock.head := by
  obtain ⟨l, hlogin, hsince⟩ := h
  induction hsince with
  | refl => exact hlogin.outcome
  | tail _ hact ih =>
    obtain ⟨⟨op, hact⟩, honline⟩ := hact
    refine ⟨honline, ?_⟩
    rcases hact.abides with hsame | hover | ⟨hawaiting, _⟩
    · exact hsame.connectedAt.trans ih.2
    · exact absurd honline hover
    · rw [ih.1] at hawaiting
      cases hawaiting

/-- Whoever is online has logged in. -/
theorem Lived.began {os : SocketOS} {clock : Stream' UInt32} {disk : Disk}
    (h : Lived os clock disk n)
    (honline : n.myConnectPhase = .online) : ∃ m, Lived os clock disk m ∧ Began m n := by
  induction h with
  | refl => cases honline
  | @tail m n hm hact ih =>
    obtain ⟨op, _, hact⟩ := hact
    have hbefore : m.myConnectPhase = .online → ∃ k, Lived os clock disk k ∧ Began k n := by
      intro hphase
      obtain ⟨k, hk, l, hlogin, hsince⟩ := ih hphase
      exact ⟨k, hk, l, hlogin, hsince.tail ⟨⟨op, hact⟩, honline⟩⟩
    rcases hact.abides with hsame | hover | hlogin
    · exact hbefore (hsame.phase.symm.trans honline)
    · exact absurd honline hover
    · exact ⟨m, hm, n, hlogin, .refl⟩

/-- A pump that leaves the manager online keeps the time of the login. -/
theorem pump_connectedAt (honline : m.myConnectPhase = .online)
    (hpump : m.pump.myConnectPhase = .online) :
    m.pump.myConnectedAtMs = m.myConnectedAtMs := by
  have hkept : Abides m m.pump ∨ m.pump.myConnectPhase = .idle := by
    apply pump_keeps honline (fun n => Abides m n ∨ n.myConnectPhase = .idle)
      (Or.inl (session_refl m).abides)
    · exact fun n s hn => hn.imp (fun h => ⟨h.phase, h.connectedAt⟩) id
    · exact fun n _ => Or.inr rfl
    · intro n k frame hphase hmet hn
      rcases hmet.abides with hsame | hidle | ⟨hawaiting, _⟩
      · exact hn.imp (fun h => h.trans hsame) (fun hidle => hsame.phase.trans hidle)
      · exact Or.inr hidle
      · exact absurd hawaiting hphase
  rcases hkept with hsame | hidle
  · exact hsame.connectedAt
  · rw [hidle] at hpump
    cases hpump

end

/-- The reading of the clock that `GetStatus` reports by. -/
def reportTime (m : DSNetManager) : UInt32 := (m.pump.pollQuery m.pump.myStatusQuery).2.clock.head

end DSNetManager

/-- The figures are the milliseconds since the login and the numbers of bytes sent and received. -/
structure Status.Figures (status : Status) (elapsed sent received : ℕ) : Prop where
  timeOnline : status.timeOnline.toInt = elapsed
  bytesSent : status.bytesSent.toInt = sent
  bytesReceived : status.bytesReceived.toInt = received

namespace DSNetManager

/-- What `GetStatus` reports when it completes while online. -/
theorem getStatus_reports (m : DSNetManager) (status : Status)
    (h : m.getStatus.1 = (some status, false)) (honline : m.getStatus.2.Online) :
    m.myConnectPhase = .online ∧ m.pump.myConnectPhase = .online ∧
      m.getStatus.2.mySocket = m.pump.mySocket ∧
      status.timeOnline = (m.reportTime - m.pump.myConnectedAtMs).toInt32 ∧
      status.bytesSent = m.pump.mySocket.myBytesSent ∧
      status.bytesReceived = m.pump.mySocket.myBytesReceived := by
  by_cases hup : m.Online
  · by_cases hidle : m.myStatusQuery.ticket = 0
    · rw [getStatus_start m hup hidle] at h
      have hnone := (startStatus_blocks_iff m hup).1
      rw [h] at hnone
      cases hnone
    · rw [getStatus_poll m hup hidle] at h honline ⊢
      have hstill := still_pollStatus m.pump
      refine ⟨hup.1, hstill.phase.symm.trans honline.1, hstill.socket, ?_⟩
      have hpoll := still_pollQuery m.pump m.pump.myStatusQuery
      have htime := pollQuery_connectedAt m.pump m.pump.myStatusQuery
      have hreport : ∀ users,
          status = (((m.pump.pollQuery m.pump.myStatusQuery).2.setStatus {}).report users).1 →
          status.timeOnline = (m.reportTime - m.pump.myConnectedAtMs).toInt32 ∧
            status.bytesSent = m.pump.mySocket.myBytesSent ∧
            status.bytesReceived = m.pump.mySocket.myBytesReceived := by
        rintro users rfl
        rw [← htime, ← hpoll.socket]
        exact ⟨rfl, rfl, rfl⟩
      unfold pollStatus at h
      cases hanswer : (m.pump.pollQuery m.pump.myStatusQuery).1 with
      | waiting => simp [hanswer] at h
      | finished result =>
        simp only [hanswer, Prod.mk.injEq, Option.some.injEq, and_true] at h
        exact hreport _ h.symm
      | timedOut =>
        simp only [hanswer, Prod.mk.injEq, Option.some.injEq, and_true] at h
        exact hreport _ h.symm
  · rw [getStatus_offline m hup] at honline
    have hstill := still_cancelStatus m
    rw [Online, hstill.phase, hstill.socket] at honline
    exact absurd honline hup

end DSNetManager

theorem NetNatsueSocket.Used.counted {s t : NetNatsueSocket} (h : s.Used t) (hs : s.Counted) :
    t.Counted := by
  cases h with
  | close => exact hs.close
  | write data size => exact hs.write data size
  | pumpConnect => exact hs.pumpConnect
  | pump => exact hs.pump
  | consumeInput bytes => exact hs.consumeInput bytes

open DSNetManager

theorem counted_ran (os : SocketOS) (clock : Stream' UInt32) (disk : Disk) (ops : List Op) :
    (ran os clock disk ops).mySocket.Counted :=
  socket_runOps NetNatsueSocket.Used.counted NetNatsueSocket.Counted.beginConnect ops _
    (NetNatsueSocket.counted_unused _ rfl rfl rfl rfl)

/-- **The figures are true of any session** that lasts less than 2^31 milliseconds and over a socket
that has sent and received less than 2^31 bytes, and of no other. -/
theorem figures_iff (os : SocketOS) (clock : Stream' UInt32) (disk : Disk) (ops : List Op)
    (n : DSNetManager) (hrun : n = ran os clock disk ops) (status : Status)
    (hstatus : n.getStatus.1 = (some status, false)) (honline : n.getStatus.2.Online) :
    (∃ m, Lived os clock disk m ∧ Began m n) ∧
    ∀ m loginMs nowMs, Began m n → m.clock.head = UInt32.ofNat loginMs →
      n.reportTime = UInt32.ofNat nowMs → loginMs ≤ nowMs →
      (status.Figures (nowMs - loginMs) n.getStatus.2.mySocket.totalSent
        n.getStatus.2.mySocket.totalReceived ↔
        nowMs - loginMs < 2147483648 ∧ n.getStatus.2.mySocket.totalSent < 2147483648 ∧
          n.getStatus.2.mySocket.totalReceived < 2147483648) := by
  have hlived : Lived os clock disk n := hrun ▸ lived_ran os clock disk ops
  have hcounted : n.getStatus.2.mySocket.Counted :=
    socket_run NetNatsueSocket.Used.counted NetNatsueSocket.Counted.beginConnect .getStatus
      (hrun ▸ counted_ran os clock disk ops)
  obtain ⟨hphase, hpump, hsocket, htime, hsent, hreceived⟩ :=
    getStatus_reports n status hstatus honline
  refine ⟨hlived.began hphase, fun m loginMs nowMs hbegan hlogin hnow hle => ?_⟩
  have helapsed : status.timeOnline = Int32.ofNat (nowMs - loginMs) := by
    rw [htime, pump_connectedAt hphase hpump, hbegan.connectedAt.2, hlogin, hnow,
      ← UInt32.ofNat_sub hle, UInt32.toInt32_ofNat']
  rw [← hsocket, hcounted.sent.counts] at hsent
  rw [← hsocket, hcounted.received.counts] at hreceived
  constructor
  · rintro ⟨hms, hout, hin⟩
    rw [helapsed, Word32.toInt_ofNat_iff] at hms
    rw [hsent] at hout
    rw [hreceived] at hin
    exact ⟨hms, (Word32.toInt_ofNat_iff _).mp hout, (Word32.toInt_ofNat_iff _).mp hin⟩
  · rintro ⟨hms, hout, hin⟩
    refine ⟨?_, ?_, ?_⟩
    · rw [helapsed, Word32.toInt_ofNat_iff]
      exact hms
    · rw [hsent]
      exact (Word32.toInt_ofNat_iff _).mpr hout
    · rw [hreceived]
      exact (Word32.toInt_ofNat_iff _).mpr hin

/-- A client that logs in at time 0, then asks for its status at the first of two times, and at the
second has waited long enough. -/
def asking (asked waited : UInt32) : DSNetManager :=
  ran (.scripted [[.data loginResponse]] [.took 54, .took 32]) ([0, 0, asked] ++ₛ Stream'.const
    waited) .blank
    [.connectInBackground [], .connectInBackground [], .getStatus]

theorem figures_iff_ten_seconds : ∃ m, Began m (asking 0 10000) ∧
    ({ timeOnline := 10000, usersOnline := 0, bytesReceived := 48, bytesSent := 86 } :
      Status).Figures 10000
      (asking 0 10000).getStatus.2.mySocket.totalSent
      (asking 0 10000).getStatus.2.mySocket.totalReceived := by
  obtain ⟨⟨m, _, hbegan⟩, htrue⟩ := figures_iff _ _ _ _ _ rfl
    { timeOnline := 10000, usersOnline := 0, bytesReceived := 48, bytesSent := 86 }
    (by decide +kernel : (asking 0 10000).getStatus.1 = _) (by decide +kernel)
  refine ⟨m, hbegan, (htrue m 0 10000 hbegan ?_ (by decide +kernel) (by omega)).mpr
    (by decide +kernel)⟩
  rw [← hbegan.connectedAt.2]
  decide +kernel

/-- One millisecond less than 2^32 after the login the time online is reported as -1. -/
theorem not_figures : ¬ ∀ (os : SocketOS) (clock : Stream' UInt32) (disk : Disk) (ops : List Op)
    (status : Status) (m : DSNetManager) (loginMs nowMs : ℕ),
    (ran os clock disk ops).getStatus.1 = (some status, false) →
    (ran os clock disk ops).getStatus.2.Online →
    Began m (ran os clock disk ops) → m.clock.head = UInt32.ofNat loginMs →
    (ran os clock disk ops).reportTime = UInt32.ofNat nowMs → loginMs ≤ nowMs →
    status.Figures (nowMs - loginMs) (ran os clock disk ops).getStatus.2.mySocket.totalSent
      (ran os clock disk ops).getStatus.2.mySocket.totalReceived := by
  intro hall
  obtain ⟨m, _, hbegan⟩ : ∃ m, Lived _ _ _ m ∧ Began m (asking 4294947296 4294967295) :=
    (lived_ran _ _ _ _).began (by decide +kernel)
  have hlogin : m.clock.head = UInt32.ofNat 0 := by
    rw [← hbegan.connectedAt.2]
    decide +kernel
  have hfigures :=
    hall _ _ _ _ { timeOnline := -1, usersOnline := 0, bytesReceived := 48, bytesSent := 86 }
    m 0 4294967295 (by decide +kernel) (by decide +kernel) hbegan hlogin
      (by decide +kernel) (by omega)
  exact absurd hfigures.timeOnline (by decide)

end NetNatsue
