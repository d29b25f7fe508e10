import NetNatsue.Manager.Acts

/-! Runs of calls, as acts and as steps. -/
namespace NetNatsue
namespace DSNetManager

section
variable (m : DSNetManager)

theorem emit_waiting (e : Event) : (m.emit e).waiting = m.waiting := rfl

theorem onDisk_waiting (d : Disk) : (m.onDisk d).waiting = m.waiting := rfl

theorem nowMs_waiting : m.nowMs.2.waiting = m.waiting := rfl

theorem setWWRAdd_waiting (user : Bytes) (deadline : UInt32) :
    (m.setWWRAdd user deadline).waiting = m.waiting := rfl

end

theorem socketWrite_waiting (m : DSNetManager) (packet : Bytes) :
    (m.socketWrite packet).2.waiting = m.waiting := by
  simp only [socketWrite]
  split_ifs <;> rfl

theorem quiet_chooseServer (m : DSNetManager) : Quiet m m.chooseServer := by
  obtain ⟨_, _, _, _, _, hframe⟩ := m.chooseServer_frame
  rw [hframe]
  exact quiet_of_fields rfl

theorem startConnecting_waiting (m : DSNetManager) : m.startConnecting.waiting = m.waiting := by
  rw [← (quiet_chooseServer m).waiting]
  unfold startConnecting
  generalize m.chooseServer = n
  simp only
  split_ifs <;> rfl

theorem release_idle (m : DSNetManager) (slot : Slot) (h : m.waiting = none) :
    (m.release slot).waiting = none := by
  cases slot with
  | wait kind => rfl
  | _ => exact h

theorem Queried.waiting_kept {op : Op} {m n : DSNetManager} (h : Queried op m n)
    (hop : op.waits = false) (hidle : m.waiting = none) : n.waiting = none := by
  cases h with
  | ask slot clock deadline packet _ _ hwait =>
    have hrequested := (requested_waiting m slot clock packet).trans hidle
    cases slot with
    | wait kind => simp [hop] at hwait
    | _ => exact hrequested
  | refuse slot clock packet =>
    rw [abandonTransaction_waiting, requested_waiting, hidle]
  | finish slot ticket => exact release_idle _ slot hidle
  | expire slot ticket =>
    exact release_idle _ slot ((abandonTransaction_waiting m ticket).trans hidle)
  | drop slot => exact release_idle m slot hidle

/-- Outside the two calls that wait nothing waits. -/
theorem Act.waiting_kept {op : Op} {m n : DSNetManager} (h : Act op m n) (hop : op.waits = false)
    (hidle : m.waiting = none) : n.waiting = none := by
  cases h with
  | pumped _ _ _ hpumped => rw [hpumped.hears.pending_eq.2.2.2, hidle]
  | aside _ _ _ haside => rw [haside.waiting, hidle]
  | attempt _ users => exact (startConnecting_waiting { m with myUsersForWWR := users }).trans hidle
  | enrol _ user =>
    have hsame : ∀ uin, ((m.watch user).startAdd user uin).2.waiting = m.waiting := by
      intro uin
      have hwrite : ((m.watch user).socketWrite
          (buildWWRModify true (m.watch user).myServerUIN uin)).2.waiting = m.waiting :=
        socketWrite_waiting (m.watch user) _
      simp only [startAdd]
      split_ifs
      · exact hwrite
      · rw [setWWRAdd_waiting, nowMs_waiting, hwrite]
      · exact hwrite
    exact (hsame _).trans hidle
  | remove _ user =>
    have hsame : (m.removeFromWWR user).waiting = m.waiting := by
      simp only [removeFromWWR]
      split_ifs
      · exact socketWrite_waiting (m.forgetUser user) _
      · rfl
      · rfl
    exact hsame.trans hidle
  | yield =>
    rcases nextChangedUserWWR_frame m with ⟨_, hframe⟩ | ⟨user, users, state, _, hframe⟩ <;>
      rw [hframe] <;> exact hidle
  | queried _ _ _ hqueried => exact hqueried.waiting_kept hop hidle
  | nickName _ _ user name =>
    obtain ⟨presence, hframe⟩ := rememberNickName_frame m user name
    rw [hframe]
    exact hidle
  | send _ _ packet => exact (socketWrite_waiting m packet).trans hidle
  | post _ _ path packet =>
    rw [emit_waiting, onDisk_waiting, socketWrite_waiting, hidle]
  | _ => exact hidle

theorem Acts.waiting_kept {op : Op} {m n : DSNetManager} (h : Acts op m n) (hop : op.waits = false)
    (hidle : m.waiting = none) : n.waiting = none := by
  induction h with
  | refl => exact hidle
  | tail _ hact ih => exact hact.waiting_kept hop ih

end DSNetManager

open DSNetManager

/-- Every call is a number of acts, and when it has returned nothing waits. -/
theorem Op.acts_run (m : DSNetManager) (op : Op) (hidle : m.waiting = none) :
    Acts op m (op.run m).2 ∧ ((op.run m).1 = true → (op.run m).2.waiting = none) := by
  have hacts : Acts op m (op.run m).2 := (op.made_run m).acts hidle
  refine ⟨hacts, fun hreturned => ?_⟩
  cases op with
  | isUserOnline fuel user => exact isUserOnline_idle m fuel user hidle hreturned
  | dsFeedHistory fuel data size => exact dsFeedHistory_idle m fuel data size hidle hreturned
  | _ => exact hacts.waiting_kept rfl hidle

namespace DSNetManager

theorem quiet_setDeadline (m : DSNetManager) : Quiet m m.setDeadline := by
  have hset : ∀ clock deadline, Quiet m { m with clock := clock, myConnectDeadline := deadline } :=
    fun _ _ => quiet_of_fields rfl
  exact hset m.clock.tail (deadlineIn m.clock.head connectTimeoutMs)

/-- An attempt is made in one step, between two quiet ones. -/
theorem steps_startConnecting (m : DSNetManager) (hoffline : ¬ m.Online)
    (hidle : m.myConnectPhase ≠ .connecting) (hidle' : m.myConnectPhase ≠ .awaitHandshake) :
    Steps m (m.startConnecting.emit
      (.polled m.myConnectPhase false m.startConnecting.blocking)) := by
  obtain ⟨n, hn⟩ : ∃ n, n = m.chooseServer := ⟨_, rfl⟩
  have hquiet : Quiet m n := hn ▸ quiet_chooseServer m
  have hchoose : Steps m n := (hears_quiet hquiet).steps
  have hattempt : ∀ phase : ConnectPhase, phase = .connecting ∨ phase = .failed → Step n
      (({ n with mySocket := n.mySocket.beginConnect.2, myConnectPhase := phase }.emit
        (.connecting n.myConnectedHost n.myConnectedPort)).emit
        (.polled n.myConnectPhase false (decide (phase = ConnectPhase.connecting)))) := by
    intro phase hphase
    refine .attempt n _ phase _ _ ?_ ?_ ?_ (NetNatsueSocket.moves_beginConnect _) hphase
    · rwa [Online, hquiet.phase, hquiet.socket]
    · rwa [hquiet.phase]
    · rwa [hquiet.phase]
  rw [hquiet.phase] at hattempt
  unfold startConnecting
  rw [← hn]
  simp only
  by_cases hbegun : ((n.emit (.connecting n.myConnectedHost n.myConnectedPort)).beginConnect).1
  · simp only [hbegun, not_true_eq_false, ↓reduceIte]
    have hend := hchoose.tail (hattempt .connecting (Or.inl rfl))
    exact hend.trans (steps_quiet ((quiet_setDeadline _).emit _))
  · simp only [hbegun, not_false_eq_true, ↓reduceIte, Bool.false_eq_true]
    have hend := hchoose.tail (hattempt .failed (Or.inr rfl))
    refine hend.trans (steps_quiet ?_)
    exact quiet_of_fields rfl

/-- The write of a request, seen before the transaction it belongs to is started. -/
theorem steps_requested (m : DSNetManager) (clock : Stream' UInt32) (packet : Bytes) :
    Steps m
      { m with mySocket := (m.mySocket.write packet (sizeInt packet)).2, clock := clock } := by
  have hsocket : Hears m { m with mySocket := (m.mySocket.write packet (sizeInt packet)).2 } :=
    .single (.socket m _ (m.mySocket.moves_write packet _))
  refine hsocket.steps.trans (steps_quiet ?_)
  exact quiet_of_fields rfl

section
variable (m : DSNetManager) (kind : TransactionKind) (fixedExtra : FixedExtra)

theorem startTransaction_with (s : NetNatsueSocket) (clock : Stream' UInt32) :
    ({ m with mySocket := s, clock := clock } : DSNetManager).startTransaction kind fixedExtra =
      ((m.startTransaction kind fixedExtra).1,
        { (m.startTransaction kind fixedExtra).2 with mySocket := s, clock := clock }) := rfl

theorem startTransaction_socket : (m.startTransaction kind fixedExtra).2.mySocket = m.mySocket :=
  rfl

end

/-- A request that was written is asked in one step. -/
theorem steps_asked (m : DSNetManager) (slot : Slot) (clock : Stream' UInt32) (deadline : UInt32)
    (packet : Bytes) (hphase : m.myConnectPhase = .online)
    (hok : (m.requested slot clock packet).1 = true) :
    Steps m ((m.requested slot clock packet).2.hold slot
      { ticket := ticketAfter m.myNextTicketNumber, deadline := deadline }) := by
  have hask := (steps_requested m clock packet).tail (.ask _ slot deadline packet hphase)
  rw [startTransaction_with] at hask
  rw [requested, socketWrite_ok _ _ hok]
  exact hask

theorem Queried.steps {op : Op} {m n : DSNetManager} (h : Queried op m n) : Steps m n := by
  cases h with
  | ask slot clock deadline packet hphase _ _ _ hok =>
    exact steps_asked m slot clock deadline packet hphase hok
  | refuse slot clock packet hphase _ hfailed =>
    have hrefuse :=
      (steps_requested m clock packet).tail (.refuse _ slot.kind slot.fixedExtra hphase)
    rw [startTransaction_with] at hrefuse
    rw [requested, socketWrite_failed _ _ hfailed]
    exact hrefuse
  | finish slot ticket _ hslot => exact .single (.finish m slot ticket hslot)
  | expire slot ticket hslot => exact .single (.expire m slot ticket hslot)
  | drop slot => exact .single (.release m slot)

theorem steps_startAdd (m : DSNetManager) (user : Bytes) (uin : BabelUIN)
    (h : m.myConnectPhase = .online) : Steps m (m.startAdd user uin).2 := by
  have hwrite := (hears_socketWrite m (buildWWRModify true m.myServerUIN uin)).steps
  have hnow := hwrite.trans (hears_nowMs _).steps
  simp only [startAdd]
  split_ifs
  · exact hwrite
  · refine hnow.tail (.expect _ user _ ?_)
    exact (socketWrite_phase m _).trans h
  · exact hwrite

theorem steps_removeFromWWR (m : DSNetManager) (user : Bytes) : Steps m (m.removeFromWWR user) := by
  have hforget : Steps m (m.forgetUser user) := .single (.forget m user)
  simp only [removeFromWWR]
  split_ifs
  · exact hforget.trans (hears_socketWrite _ _).steps
  · exact hforget
  · exact hforget

/-- A packet that was written lies on the line of its connection, and its file is gone. -/
theorem steps_posted (m : DSNetManager) (path packet : Bytes) (d : Disk) (hsome : packet ≠ [])
    (hfit : packet.length < 4294967296) (hwrite : (m.socketWrite packet).1 = true) :
    Steps m (((m.socketWrite packet).2.onDisk d).emit
      (.posted path m.mySocket.os.connection m.mySocket.line.length packet)) := by
  obtain ⟨hconnection, hstate, hlies⟩ := m.mySocket.write_lies packet hfit (by
    simpa only [socketWrite] using hwrite)
  have hwritten := (hears_socketWrite m packet).trans (hears_onDisk _ d)
  rw [socketWrite_ok m packet hwrite] at hwritten ⊢
  rw [← hconnection]
  exact (Hears.steps hwritten).tail (.post _ path _ packet hsome (Or.inl hstate) hlies)

theorem Act.steps {op : Op} {m n : DSNetManager} (h : Act op m n) : Steps m n := by
  cases h with
  | pumped _ _ _ hpumped => exact hpumped.hears.steps
  | aside _ _ _ haside => exact steps_quiet haside.toQuiet
  | attempt _ users hoffline hphase =>
    have husers : Steps m { m with myUsersForWWR := users } :=
      steps_quiet (quiet_of_fields rfl)
    refine husers.trans (steps_startConnecting _ hoffline ?_ ?_)
    · change m.myConnectPhase ≠ _
      rcases hphase with h | h | h <;> simp [h]
    · change m.myConnectPhase ≠ _
      rcases hphase with h | h | h <;> simp [h]
  | poll _ users found state block hwaited => exact .single (.poll m found state block hwaited)
  | hangUp => exact (hears_disconnect m).steps
  | watch _ user => exact .single (.heard _ _ (.watch m user))
  | enrol _ user _ honline =>
    have hwatch : Steps m (m.watch user) := .single (.heard _ _ (.watch m user))
    exact hwatch.trans (steps_startAdd _ user _ honline.1)
  | endAdd _ user => exact .single (.endAdd m user)
  | added _ user block hmember => exact .single (.added m user block hmember)
  | remove _ user => exact steps_removeFromWWR m user
  | yield => exact .single (.yield m)
  | collect =>
    have hempty : Hears m { m with myIncomingMessages := [] } :=
      hears_quiet (quiet_of_fields rfl)
    exact Hears.steps (hempty.tail (.note _ _ trivial))
  | queried _ _ _ hqueried => exact hqueried.steps
  | nickName _ _ user name => exact .single (.nickName m user name)
  | send _ _ packet => exact (hears_socketWrite m packet).steps
  | post _ _ path packet disk _ hsome hfit hok =>
    exact steps_posted m path packet disk hsome hfit hok

theorem Acts.steps {op : Op} {m n : DSNetManager} (h : Acts op m n) : Steps m n := by
  induction h with
  | refl => exact .refl
  | tail _ hact ih => exact ih.trans hact.steps

end DSNetManager

/-- The state some calls leave, made in the given order on a new manager. -/
def ran (os : SocketOS) (clock : Stream' UInt32) (disk : Disk) (ops : List Op) : DSNetManager :=
  (runOps ops (construct os clock disk)).2

/-- The response that lets a client in as user 5+1. -/
def loginResponse : Bytes :=
  PacketHeader.write { type := 0x0A, fieldA := 1, fieldB := 1, fieldC := 5, fieldD := 1 } ++
    List.replicate 16 0

/-- A state the manager can be in, during calls or between them. -/
def Reached (os : SocketOS) (clock : Stream' UInt32) (disk : Disk) (m : DSNetManager) : Prop :=
  Steps (construct os clock disk) m

/-- A run of calls is a number of steps, and when all calls have returned nothing waits. -/
theorem steps_runOps (ops : List Op) (m : DSNetManager) (hidle : m.waiting = none) :
    Steps m (runOps ops m).2 ∧ ((runOps ops m).1 = true → (runOps ops m).2.waiting = none) := by
  induction ops generalizing m with
  | nil => exact ⟨.refl, fun _ => hidle⟩
  | cons op ops ih =>
    obtain ⟨hacts, hreturned⟩ := op.acts_run m hidle
    simp only [runOps]
    split_ifs with hok
    · obtain ⟨hsteps, hwaiting⟩ := ih _ (hreturned hok)
      exact ⟨hacts.steps.trans hsteps, hwaiting⟩
    · exact ⟨hacts.steps, fun h => by cases h⟩

theorem reached_ran (os : SocketOS) (clock : Stream' UInt32) (disk : Disk) (ops : List Op) :
    Reached os clock disk (ran os clock disk ops) := (steps_runOps ops _ rfl).1

/-- Every call of a run meets the condition in the state it is made in. -/
def Meets (C : DSNetManager → Op → Prop) : List Op → DSNetManager → Prop
  | [], _ => True
  | op :: ops, m => C m op ∧ ((op.run m).1 = true → Meets C ops (op.run m).2)

instance Meets.decidable (C : DSNetManager → Op → Prop) [∀ m op, Decidable (C m op)] :
    ∀ ops m, Decidable (Meets C ops m)
  | [], _ => .isTrue trivial
  | op :: ops, m =>
    have := Meets.decidable C ops (op.run m).2
    inferInstanceAs (Decidable (C m op ∧ ((op.run m).1 = true → Meets C ops (op.run m).2)))

/-- **An invariant of the calls** that meet a condition holds behind every run whose calls meet
it. -/
theorem Meets.keeps {C : DSNetManager → Op → Prop} {ops : List Op} {m : DSNetManager}
    (hmeets : Meets C ops m) (hidle : m.waiting = none) (p : DSNetManager → Prop) (h : p m)
    (hcall : ∀ op m, C m op → m.waiting = none → Acts op m (op.run m).2 → p m → p (op.run m).2) :
    p (runOps ops m).2 := by
  induction ops generalizing m with
  | nil => exact h
  | cons op ops ih =>
    obtain ⟨hmet, hlater⟩ := hmeets
    obtain ⟨hacts, hreturned⟩ := op.acts_run m hidle
    have hafter := hcall op m hmet hidle hacts h
    simp only [runOps]
    split_ifs with hok
    · exact ih (hlater hok) (hreturned hok) hafter
    · exact hafter

theorem DSNetManager.Acts.keeps {op : Op} {m n : DSNetManager} (h : Acts op m n)
    (p : DSNetManager → Prop) (hact : ∀ m n, Act op m n → p m → p n) (hm : p m) : p n := by
  induction h with
  | refl => exact hm
  | tail _ hstep ih => exact hact _ _ hstep ih

/-- **An invariant of the acts** holds behind every run. -/
theorem ran_keeps (os : SocketOS) (clock : Stream' UInt32) (disk : Disk) (ops : List Op)
    (p : DSNetManager → Prop) (h : p (construct os clock disk))
    (hact : ∀ op m n, Act op m n → p m → p n) : p (ran os clock disk ops) := by
  have hmeets : ∀ ops m, Meets (fun _ _ => True) ops m := by
    intro ops
    induction ops with
    | nil => exact fun _ => trivial
    | cons op ops ih => exact fun m => ⟨trivial, fun _ => ih _⟩
  exact (hmeets ops _).keeps rfl p h fun op m _ _ hacts hm => hacts.keeps p (hact op) hm

/-- **An invariant of the steps** holds of every state that is reached. -/
theorem Reached.keeps {os : SocketOS} {clock : Stream' UInt32} {disk : Disk} {m : DSNetManager}
    (hm : Reached os clock disk m) (p : DSNetManager → Prop) (h : p (construct os clock disk))
    (hstep : ∀ m n, Step m n → p m → p n) : p m := by
  induction hm with
  | refl => exact h
  | tail _ hm ih => exact hstep _ _ hm ih

end NetNatsue

