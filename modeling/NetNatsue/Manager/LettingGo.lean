import NetNatsue.Manager.Turns

/-! The connection is let go of when the phase falls, in every run of calls. -/
namespace NetNatsue
namespace DSNetManager

section
variable (m : DSNetManager)

theorem still_abandonTransaction (ticket : Int32) : Still m (m.abandonTransaction ticket) :=
  ⟨(onlyQueries_abandonTransaction m ticket).socket,
    (onlyQueries_abandonTransaction m ticket).phase⟩

theorem still_pollQuery (query : PendingQuery) : Still m (m.pollQuery query).2 :=
  ⟨pollQuery_kept (·.mySocket) (fun _ _ _ => rfl) (fun _ => rfl) m query,
    pollQuery_kept (·.myConnectPhase) (fun _ _ _ => rfl) (fun _ => rfl) m query⟩

theorem still_setFetch (user : Bytes) (query : Option PendingQuery) :
    Still m (m.setFetch user query) := ⟨rfl, rfl⟩

theorem still_setRandom (query : PendingQuery) : Still m (m.setRandom query) := ⟨rfl, rfl⟩

theorem still_setStatus (query : PendingQuery) : Still m (m.setStatus query) := ⟨rfl, rfl⟩

theorem still_rememberNickName (user nickName : Bytes) :
    Still m (m.rememberNickName user nickName) := by
  obtain ⟨presence, hframe⟩ := rememberNickName_frame m user nickName
  rw [hframe]
  exact ⟨rfl, rfl⟩

theorem still_pollFetch (user : Bytes) (query : PendingQuery) :
    Still m (m.pollFetch user query).2 := by
  have hpoll := still_pollQuery m query
  unfold pollFetch
  simp only
  cases (m.pollQuery query).1 with
  | waiting => exact hpoll
  | timedOut => exact hpoll.trans (still_setFetch _ user none)
  | finished result =>
    have hdone := hpoll.trans (still_setFetch _ user none)
    simp only
    split_ifs
    · exact hdone.trans (still_rememberNickName _ user _)
    · exact hdone

theorem still_pollRandom : Still m m.pollRandom.2 := by
  have hpoll := still_pollQuery m m.myRandomUserQuery
  unfold pollRandom
  simp only
  cases (m.pollQuery m.myRandomUserQuery).1 with
  | waiting => exact hpoll
  | timedOut | finished result => exact hpoll.trans (still_setRandom _ {})

theorem still_pollStatus : Still m m.pollStatus.2 := by
  have hpoll := still_pollQuery m m.myStatusQuery
  have hreport : ∀ (n : DSNetManager) users, Still n (n.report users).2 := fun _ _ => ⟨rfl, rfl⟩
  unfold pollStatus
  simp only
  cases (m.pollQuery m.myStatusQuery).1 with
  | waiting => exact hpoll
  | timedOut | finished result =>
    simp only
    exact (hpoll.trans (still_setStatus _ {})).trans (hreport _ _)

theorem still_cancelStatus : Still m m.cancelStatus := by
  unfold cancelStatus
  split_ifs
  · exact (still_abandonTransaction m _).trans ⟨rfl, rfl⟩
  · exact still_refl m

end

end DSNetManager

open DSNetManager

/-- The calls that pump a manager that is connecting. -/
def Op.Pumps (m : DSNetManager) : Op → Prop
  | .connectInBackground _ | .tick | .getMessages => True
  | .fetchUserData user =>
    (BabelUIN.fromString user).1 = true ∧ (m.myPendingUserFetches user).isSome = true
  | .dsFetchRandomUser => m.myRandomUserQuery.ticket ≠ 0
  | _ => False

/-- The call makes an attempt to connect. -/
def Op.Attempts (m : DSNetManager) : Op → Prop
  | .connectInBackground _ => ¬ m.Online ∧
    (m.myConnectPhase = .idle ∨ m.myConnectPhase = .failed ∨ m.myConnectPhase = .online)
  | _ => False

section
variable {m : DSNetManager}

/-- A manager that is connecting is pumped by these and not touched otherwise. -/
theorem pumps_run {op : Op} (hop : op.Pumps m) (h : m.myConnectPhase = .connecting) :
    Still m.pump (op.run m).2 := by
  cases op with
  | connectInBackground users =>
    change Still _ (m.connectInBackground users).2
    rw [connectInBackground, if_neg (by simp [h]), if_neg (by simp [h]), pump, if_pos (Or.inl h)]
    exact ⟨rfl, rfl⟩
  | tick =>
    change Still _ (m.pump.processQueuedMessages fun _ n => n)
    unfold processQueuedMessages
    cases m.pump.myQueuedMessages with
    | nil => exact still_refl _
    | cons message messages => exact ⟨rfl, rfl⟩
  | getMessages => exact ⟨rfl, rfl⟩
  | fetchUserData user =>
    obtain ⟨hvalid, hsome⟩ := hop
    obtain ⟨query, hquery⟩ := Option.isSome_iff_exists.mp hsome
    change Still _ (m.fetchUserData user).2
    simp only [fetchUserData, hvalid, hquery, not_true_eq_false, if_false]
    exact still_pollFetch _ _ _
  | dsFetchRandomUser =>
    change Still _ m.dsFetchRandomUser.2
    rw [dsFetchRandomUser, if_neg hop]
    exact still_pollRandom _
  | _ => exact hop.elim

/-- The calls that do not pump a manager that is connecting leave the socket and the phase alone,
unless they hang up. -/
theorem idles_run {op : Op} (h : m.myConnectPhase = .connecting) (hop : ¬ op.Pumps m)
    (hhangUp : op ≠ .disconnect) : Still m (op.run m).2 := by
  have hoffline : ¬ m.Online := fun honline => ConnectPhase.noConfusion (h.symm.trans honline.1)
  cases op with
  | connectInBackground users => exact absurd trivial hop
  | tick => exact absurd trivial hop
  | getMessages => exact absurd trivial hop
  | disconnect => exact absurd rfl hhangUp
  | scan =>
    change Still m m.scanIfOnline
    rw [scanIfOnline, if_neg hoffline]
    exact still_refl m
  | isUserOnline fuel user =>
    change Still m (m.isUserOnline fuel user).2
    simp only [isUserOnline]
    rw [if_pos hoffline]
    split_ifs <;> exact still_refl m
  | addToWWR user =>
    change Still m (m.addToWWR user).2
    simp only [addToWWR, addUser]
    split_ifs with _ honline
    · exact absurd honline hoffline
    · exact ⟨rfl, rfl⟩
    · exact still_refl m
  | removeFromWWR user =>
    change Still m (m.removeFromWWR user)
    simp only [removeFromWWR]
    split_ifs with _ honline
    · exact absurd honline hoffline
    · exact ⟨rfl, rfl⟩
    · exact ⟨rfl, rfl⟩
  | nextChangedUserWWR =>
    change Still m m.nextChangedUserWWR.2
    rcases nextChangedUserWWR_frame m with ⟨_, hframe⟩ |
      ⟨user, users, online, _, hframe⟩ <;> rw [hframe]
    · exact still_refl m
    · exact ⟨rfl, rfl⟩
  | fetchUserData user =>
    change Still m (m.fetchUserData user).2
    simp only [fetchUserData]
    split_ifs with hvalid
    · cases hquery : m.myPendingUserFetches user with
      | none =>
        rw [startFetch, if_pos hoffline]
        exact still_refl m
      | some query => exact absurd ⟨hvalid, by rw [hquery]; rfl⟩ hop
    · exact still_refl m
  | dsFetchRandomUser =>
    change Still m m.dsFetchRandomUser.2
    rw [dsFetchRandomUser, if_pos (not_not.mp hop), startRandom, if_pos hoffline]
    exact still_refl m
  | getStatus =>
    change Still m m.getStatus.2
    rw [getStatus, if_pos hoffline]
    exact still_cancelStatus m
  | postDirectMessage user data size =>
    change Still m (m.postDirectMessage user data size).2
    simp only [postDirectMessage, hoffline, not_false_eq_true, true_or, if_true]
    split_ifs <;> exact still_refl m
  | returnUniqueOutboxFilename user =>
    change Still m (m.returnUniqueOutboxFilename user).2
    simp only [returnUniqueOutboxFilename]
    split_ifs
    · exact still_refl m
    · cases freeSpoolPath m.disk.time.2 m.myOutboxDirectory (BabelUIN.fromString user).2 serialCount
        m.disk.time.1 <;> exact ⟨rfl, rfl⟩
    · exact still_refl m
  | dsFeedHistory fuel data size =>
    change Still m (m.dsFeedHistory fuel data size).2
    cases data <;> simp only [dsFeedHistory, hoffline, not_false_eq_true, true_or, if_true] <;>
      exact still_refl m
  | _ => exact ⟨rfl, rfl⟩

end

theorem Op.turns_run (m : DSNetManager) (op : Op) (hop : ¬ op.Attempts m) :
    Turns (op.Pumps m ∧ m.Oversized) m (op.run m).2 := by
  by_cases hconnects : ∃ users, op = .connectInBackground users
  · obtain ⟨users, rfl⟩ := hconnects
    change Turns _ m (m.connectInBackground users).2
    unfold DSNetManager.connectInBackground
    split_ifs with honline hidle
    · exact turns_emit m _
    · exact absurd ⟨honline, hidle⟩ hop
    · exact (turns_pumpConnectPhase m (fun hbig => ⟨trivial, hbig⟩)).trans (turns_emit _ _)
  · by_cases hconnecting : m.myConnectPhase = .connecting
    · by_cases hpumps : op.Pumps m
      · exact (turns_pump m (fun hbig => ⟨hpumps, hbig⟩)).trans (pumps_run hpumps hconnecting).turns
      · by_cases hhangUp : op = .disconnect
        · subst hhangUp
          exact turns_disconnect m
        · exact (idles_run hconnecting hpumps hhangUp).turns
    · exact (op.deeds_run m).turns (fun users h => hconnects ⟨users, h⟩) hconnecting

namespace DSNetManager

/-- The call does not come to write a handshake whose size is negative as an `int`. -/
def HandshakeFits (m : DSNetManager) (op : Op) : Prop := ¬ (op.Pumps m ∧ m.Oversized)

section
variable {m : DSNetManager}

theorem startConnecting_outcome : m.startConnecting.mySocket = m.mySocket.beginConnect.2 ∧
    m.startConnecting.myConnectPhase =
      if m.mySocket.beginConnect.1 then .connecting else .failed := by
  have hserver := (quiet_chooseServer m).socket
  have hbegin : (m.chooseServer.emit (.connecting m.chooseServer.myConnectedHost
      m.chooseServer.myConnectedPort)).beginConnect.1 = m.mySocket.beginConnect.1 := by
    rw [← hserver]
    rfl
  rw [← hserver] at hbegin ⊢
  simp only [startConnecting, hbegin]
  split_ifs <;> exact ⟨rfl, rfl⟩

/-- An attempt that fails lets go at once. -/
theorem startConnecting_coupled : m.startConnecting.Coupled := by
  rw [Coupled, startConnecting_outcome.1, startConnecting_outcome.2]
  intro hphase
  apply NetNatsueSocket.beginConnect_down
  cases hbegun : m.mySocket.beginConnect.1 with
  | false => rfl
  | true =>
    rw [hbegun, if_pos rfl] at hphase
    rcases hphase with hphase | hphase <;> cases hphase

theorem attempts_run {op : Op} (h : op.Attempts m) :
    ∃ users, Still ({ m with myUsersForWWR := users } : DSNetManager).startConnecting
      (op.run m).2 := by
  cases op with
  | connectInBackground users =>
    obtain ⟨hoffline, hidle⟩ := h
    refine ⟨users, ?_⟩
    change Still _ (m.connectInBackground users).2
    rw [connectInBackground, if_neg hoffline, if_pos hidle]
    exact ⟨rfl, rfl⟩
  | _ => exact h.elim

/-- What the operations on the socket and the beginning of a connection keep, the calls keep. -/
theorem socket_run {q : NetNatsueSocket → Prop} (hused : ∀ {s t}, s.Used t → q s → q t)
    (hbegin : ∀ {s}, q s → q s.beginConnect.2) (op : Op) (h : q m.mySocket) :
    q (op.run m).2.mySocket := by
  by_cases hattempts : op.Attempts m
  · obtain ⟨users, hstill⟩ := attempts_run hattempts
    rw [hstill.socket, startConnecting_outcome.1]
    exact hbegin h
  · exact (op.turns_run m hattempts).keeps hused h

theorem tidy_run (op : Op) (h : m.mySocket.Tidy) : (op.run m).2.mySocket.Tidy :=
  socket_run NetNatsueSocket.Used.tidy NetNatsueSocket.Tidy.beginConnect op h

theorem coupled_run (op : Op) (h : m.Coupled) (hfits : HandshakeFits m op) :
    (op.run m).2.Coupled := by
  by_cases hattempts : op.Attempts m
  · obtain ⟨users, hstill⟩ := attempts_run hattempts
    rw [Coupled, hstill.socket, hstill.phase]
    exact startConnecting_coupled
  · exact (op.turns_run m hattempts).coupled hfits h

theorem write_negative (s : NetNatsueSocket) (data : Bytes) (size : Int32) (h : size.toInt < 0) :
    s.write data size = (false, s) := by
  have hneg : size < 0 := by rwa [Word32.lt_iff, Word32.toInt_zero]
  rw [NetNatsueSocket.write, if_pos (Or.inr hneg)]

/-- A handshake whose size is negative fails the phase and nothing else. -/
theorem sendHandshake_oversized (h : m.handshakeSize.toInt < 0) :
    m.sendHandshake.myConnectPhase = .failed ∧ m.sendHandshake.mySocket = m.mySocket := by
  have hwrite : m.nextTicket.2.socketWrite (m.handshakePacket m.nextTicket.1) = (false,
      m.nextTicket.2) := by
    simp only [socketWrite, handshakePacket_size]
    rw [write_negative _ _ _ h]
    rfl
  simp only [sendHandshake, hwrite, Bool.false_eq_true, not_false_eq_true, if_true]
  exact ⟨rfl, rfl⟩

theorem pump_oversized (h : m.Oversized) :
    m.pump.myConnectPhase = .failed ∧ m.pump.mySocket.myState = .connected := by
  obtain ⟨hphase, hconnected, hsize⟩ := h
  obtain ⟨hfailed, hsocket⟩ := sendHandshake_oversized (m := m.pumpConnectSocket) hsize
  have hconnecting : m.pumpConnecting = m.pumpConnectSocket.sendHandshake := by
    rw [pumpConnecting]
    exact if_pos hconnected
  have hpump : m.pump = m.pumpConnectSocket.sendHandshake := by
    rw [pump, if_pos (Or.inl hphase), pumpConnectPhase]
    simp only [hphase, if_true, hconnecting]
    rw [if_neg (by rw [hfailed]; decide), pumpTimeout, if_neg (by rw [hfailed]; decide)]
  rw [hpump, hsocket]
  exact ⟨hfailed, hconnected⟩

theorem coupled_run_iff (op : Op) (h : m.Coupled) :
    (op.run m).2.Coupled ↔ HandshakeFits m op := by
  refine ⟨fun hcoupled hbig => ?_, coupled_run op h⟩
  obtain ⟨hfailed, hconnected⟩ := pump_oversized hbig.2
  have hstill := pumps_run hbig.1 hbig.2.1
  refine hcoupled (Or.inr (hstill.phase.trans hfailed)) (Or.inl ?_)
  rw [hstill.socket]
  exact hconnected

end

/-- Idle or failed, the manager has let go of the connection. -/
def LetGo (m : DSNetManager) : Prop :=
  m.myConnectPhase = .idle ∨ m.myConnectPhase = .failed →
    (m.mySocket.myState = .closed ∨ m.mySocket.myState = .failed) ∧ m.mySocket.myHandle = none ∧
      m.mySocket.myOutput = []

/-- An attempt to connect begins by closing the handle of the last one. With that no handle is
open, and behind the attempt none but its own. -/
def OpensAlone (m : DSNetManager) : Prop :=
  m.mySocket.close.os.openHandles = [] ∧
    m.mySocket.beginConnect.2.os.openHandles = m.mySocket.beginConnect.2.myHandle.toList

theorem letGo_iff {m : DSNetManager} (h : m.mySocket.Tidy) : m.LetGo ↔ m.Coupled := by
  constructor
  · rintro hletGo hphase (hstate | hstate) <;>
    · have hdown := (hletGo hphase).1
      simp [hstate] at hdown
  · intro hcoupled hphase
    have hdown := hcoupled hphase
    refine ⟨?_, h.handle hdown, h.output hdown⟩
    have hresolved := h.resolved
    obtain ⟨hconnected, hconnecting⟩ := not_or.mp hdown
    cases hstate : m.mySocket.myState <;> simp_all

theorem opensAlone {m : DSNetManager} (h : m.mySocket.Tidy) : m.OpensAlone :=
  ⟨NetNatsueSocket.close_openHandles h.openHandles, h.beginConnect.openHandles⟩

theorem runOps_single (op : Op) (m : DSNetManager) : (runOps [op] m).2 = (op.run m).2 := by
  simp only [runOps]
  split_ifs <;> rfl

end DSNetManager

/-- **Invariants that calls keep exactly on a condition** hold in every state of a run exactly if
every call meets the condition. -/
theorem Meets.prefixes_iff {C : DSNetManager → Op → Prop} {p : DSNetManager → Prop}
    (hcall : ∀ op m, p m → (p (op.run m).2 ↔ C m op)) (ops : List Op)
    (m : DSNetManager) (hm : p m) :
    (∀ front, front <+: ops → p (runOps front m).2) ↔ Meets C ops m := by
  induction ops generalizing m with
  | nil =>
    refine ⟨fun _ => trivial, fun _ front hfront => ?_⟩
    rw [List.prefix_nil.mp hfront]
    exact hm
  | cons op ops ih =>
    constructor
    · intro hall
      have hafter : p (op.run m).2 := by
        rw [← runOps_single]
        exact hall [op] (List.prefix_append [op] ops)
      refine ⟨(hcall op m hm).mp hafter, fun hreturned => (ih _ hafter).mp fun front hfront => ?_⟩
      have hlater := hall (op :: front) (List.cons_prefix_cons.mpr ⟨rfl, hfront⟩)
      simp only [runOps, hreturned, if_true] at hlater
      exact hlater
    · rintro ⟨hmet, hlater⟩ front hfront
      have hafter := (hcall op m hm).mpr hmet
      cases front with
      | nil => exact hm
      | cons op' front =>
        obtain ⟨rfl, hrest⟩ := List.cons_prefix_cons.mp hfront
        simp only [runOps]
        split_ifs with hreturned
        · exact (ih _ hafter).mpr (hlater hreturned) front hrest
        · exact hafter

theorem tidy_construct (os : SocketOS) (clock : Stream' UInt32) (disk : Disk) :
    (construct os clock disk).mySocket.Tidy :=
  NetNatsueSocket.tidy_down (Or.inl rfl) rfl rfl rfl

theorem socket_runOps {q : NetNatsueSocket → Prop} (hused : ∀ {s t}, s.Used t → q s → q t)
    (hbegin : ∀ {s}, q s → q s.beginConnect.2) (ops : List Op) (m : DSNetManager)
    (h : q m.mySocket) :
    q (runOps ops m).2.mySocket := by
  induction ops generalizing m with
  | nil => exact h
  | cons op ops ih =>
    simp only [runOps]
    split_ifs
    · exact ih _ (socket_run hused hbegin op h)
    · exact socket_run hused hbegin op h

theorem tidy_runOps (ops : List Op) (m : DSNetManager) (h : m.mySocket.Tidy) :
    (runOps ops m).2.mySocket.Tidy :=
  socket_runOps NetNatsueSocket.Used.tidy NetNatsueSocket.Tidy.beginConnect ops m h

/-- **No connection is left half open**: in every state of a run the manager has let go of its
connection if it is idle or failed, and would open the next one alone, exactly if no call comes to
write a handshake whose size is negative. -/
theorem letGo_ran_iff (os : SocketOS) (clock : Stream' UInt32) (disk : Disk) (ops : List Op) :
    (∀ front, front <+: ops → (ran os clock disk front).LetGo ∧
      (ran os clock disk front).OpensAlone) ↔
      Meets HandshakeFits ops (construct os clock disk) := by
  have hcoupled : (construct os clock disk).Coupled := fun _ => NetNatsueSocket.down_of (Or.inl rfl)
  have htidy := fun front => tidy_runOps front _ (tidy_construct os clock disk)
  rw [← Meets.prefixes_iff (p := Coupled) (fun op m hm => coupled_run_iff op hm) ops _ hcoupled]
  refine forall₂_congr fun front _ => ?_
  exact (and_iff_left (opensAlone (htidy front))).trans (letGo_iff (htidy front))

/-- A nickname so long that the size of the handshake is 2^31. -/
theorem not_letGo : ¬ ∀ (os : SocketOS) (clock : Stream' UInt32) (disk : Disk) (ops : List Op),
    (ran os clock disk ops).LetGo ∧ (ran os clock disk ops).OpensAlone := by
  obtain ⟨nickname, hlength⟩ : ∃ x : Bytes, x.length = 2147483594 :=
    ⟨List.replicate 2147483594 0, List.length_replicate⟩
  obtain ⟨m, hm⟩ : ∃ m, m = ran .idle (.const 0) .blank [.setUser nickname [],
      .connectInBackground []] :=
    ⟨_, rfl⟩
  have hbig : m.Oversized := by
    refine ⟨by rw [hm]; rfl, by rw [hm]; rfl, ?_⟩
    have hnickname : m.myNickname = nickname := by rw [hm]; rfl
    have hpassword : m.myPassword = [] := by rw [hm]; rfl
    rw [handshakeSize, hnickname, hpassword, hlength]
    decide
  have hcoupled : m.Coupled := fun hdown => by simp [hbig.1] at hdown
  intro hall
  have hletGo := (hall .idle (.const 0) .blank
    [.setUser nickname [], .connectInBackground [], .connectInBackground []]).1
  have hlast : ran .idle (.const 0) .blank [.setUser nickname [], .connectInBackground [],
      .connectInBackground []] = ((Op.connectInBackground []).run m).2 := by rw [hm]; rfl
  rw [hlast] at hletGo
  have htidy : m.mySocket.Tidy := by
    rw [hm]
    exact tidy_runOps _ _ (tidy_construct _ _ _)
  have hfits := (coupled_run_iff _ hcoupled).mp ((letGo_iff (tidy_run _ htidy)).mp hletGo)
  exact hfits ⟨trivial, hbig⟩

end NetNatsue
