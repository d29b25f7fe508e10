import NetNatsue.Manager.Asking

/-! The records of the polled queries: only the calls of a query touch its own. -/
namespace NetNatsue

/-- The call of a query. -/
def Query.op : Query → Op
  | fetchUserData user => .fetchUserData user
  | dsFetchRandomUser => .dsFetchRandomUser
  | getStatus => .getStatus

theorem Query.owns_iff (query : Query) (op : Op) : op.owns query.slot ↔ op = query.op := by
  cases query <;> rfl

namespace DSNetManager

/-- The states agree on the records of the polled queries. -/
structure RecordsKept (m n : DSNetManager) : Prop where
  fetches : n.myPendingUserFetches = m.myPendingUserFetches
  random : n.myRandomUserQuery = m.myRandomUserQuery
  status : n.myStatusQuery = m.myStatusQuery

section
variable {m n k : DSNetManager}

theorem RecordsKept.trans (h : RecordsKept m n) (h' : RecordsKept n k) : RecordsKept m k :=
  ⟨h'.fetches.trans h.fetches, h'.random.trans h.random, h'.status.trans h.status⟩

theorem RecordsKept.pending_eq (h : RecordsKept m n) (query : Query) :
    n.pending query.slot = m.pending query.slot := by
  cases query with
  | fetchUserData user => simp only [Query.slot, pending, h.fetches]
  | dsFetchRandomUser => simp only [Query.slot, pending, h.random]
  | getStatus => simp only [Query.slot, pending, h.status]

theorem Hears.recordsKept (h : Hears m n) : RecordsKept m n :=
  ⟨h.pending_eq.1, h.pending_eq.2.1, h.pending_eq.2.2.1⟩

end

theorem recordsKept_emit (m : DSNetManager) (e : Event) : RecordsKept m (m.emit e) :=
  ⟨rfl, rfl, rfl⟩

theorem recordsKept_nowMs (m : DSNetManager) : RecordsKept m m.nowMs.2 := ⟨rfl, rfl, rfl⟩

theorem recordsKept_onDisk (m : DSNetManager) (d : Disk) : RecordsKept m (m.onDisk d) :=
  ⟨rfl, rfl, rfl⟩

theorem recordsKept_pump (m : DSNetManager) : RecordsKept m m.pump := (hears_pump m).recordsKept

theorem recordsKept_socketWrite (m : DSNetManager) (packet : Bytes) :
    RecordsKept m (m.socketWrite packet).2 := (hears_socketWrite m packet).recordsKept

theorem recordsKept_abandonTransaction (m : DSNetManager) (ticket : Int32) :
    RecordsKept m (m.abandonTransaction ticket) :=
  ⟨abandonTransaction_kept (·.myPendingUserFetches) (fun _ _ _ => rfl) m ticket,
    abandonTransaction_kept (·.myRandomUserQuery) (fun _ _ _ => rfl) m ticket,
    abandonTransaction_kept (·.myStatusQuery) (fun _ _ _ => rfl) m ticket⟩

theorem recordsKept_startConnecting (m : DSNetManager) : RecordsKept m m.startConnecting := by
  obtain ⟨_, _, _, _, _, hframe⟩ := m.chooseServer_frame
  simp only [startConnecting, hframe]
  split_ifs <;> exact ⟨rfl, rfl, rfl⟩

theorem recordsKept_startAdd (m : DSNetManager) (user : Bytes) (uin : BabelUIN) :
    RecordsKept m (m.startAdd user uin).2 := by
  have hwrite := recordsKept_socketWrite m (buildWWRModify true m.myServerUIN uin)
  have hadd : ∀ (n : DSNetManager) deadline, RecordsKept n (n.setWWRAdd user deadline) :=
    fun _ _ => ⟨rfl, rfl, rfl⟩
  simp only [startAdd]
  split_ifs
  · exact hwrite
  · exact (hwrite.trans (recordsKept_nowMs _)).trans (hadd _ _)
  · exact hwrite

theorem recordsKept_removeFromWWR (m : DSNetManager) (user : Bytes) :
    RecordsKept m (m.removeFromWWR user) := by
  have hforget : RecordsKept m (m.forgetUser user) := ⟨rfl, rfl, rfl⟩
  simp only [removeFromWWR]
  split_ifs
  · exact hforget.trans (recordsKept_socketWrite _ _)
  · exact hforget
  · exact hforget

section
variable (m : DSNetManager) (slot : Slot) (query : Query) (h : slot ≠ query.slot)
include h

/-- What is recorded in one slot says nothing of a query that has another. -/
theorem hold_other (record : PendingQuery) :
    (m.hold slot record).pending query.slot = m.pending query.slot := by
  cases slot <;> cases query
  case fetch.fetchUserData user other =>
    have hother : other ≠ user := fun heq => h (heq ▸ rfl)
    simp [Query.slot, hold, setFetch, pending, hother]
  case random.dsFetchRandomUser => exact absurd rfl h
  case status.getStatus => exact absurd rfl h
  all_goals rfl

theorem release_other : (m.release slot).pending query.slot = m.pending query.slot := by
  cases slot <;> cases query
  case fetch.fetchUserData user other =>
    have hother : other ≠ user := fun heq => h (heq ▸ rfl)
    simp [Query.slot, release, setFetch, pending, hother]
  case random.dsFetchRandomUser => exact absurd rfl h
  case status.getStatus => exact absurd rfl h
  all_goals rfl

end

section
variable {op : Op} {m n : DSNetManager} (query : Query) (hop : op ≠ query.op)
include hop

theorem Queried.pending_eq (h : Queried op m n) : n.pending query.slot = m.pending query.slot := by
  have hother : ∀ {slot}, op.owns slot → slot ≠ query.slot :=
    fun howns heq => hop ((query.owns_iff op).mp (heq ▸ howns))
  cases h with
  | ask slot clock deadline packet _ _ _ _ _ howns =>
    rw [hold_other _ slot query (hother howns), requested_pending]
  | refuse slot clock packet =>
    rw [abandonTransaction_pending, requested_pending]
  | finish slot ticket _ _ _ _ howns =>
    have hkept : RecordsKept m (m.setTransaction ticket none) := ⟨rfl, rfl, rfl⟩
    exact (release_other _ slot query (hother howns)).trans (hkept.pending_eq query)
  | expire slot ticket _ howns =>
    exact (release_other _ slot query (hother howns)).trans (abandonTransaction_pending m ticket _)
  | drop slot _ howns => exact release_other m slot query (hother howns)

theorem Act.pending_eq (h : Act op m n) : n.pending query.slot = m.pending query.slot := by
  have hsame : RecordsKept m n → n.pending query.slot = m.pending query.slot :=
    fun hkept => hkept.pending_eq query
  cases h with
  | pumped _ _ _ hpumped => exact hsame hpumped.hears.recordsKept
  | aside _ _ _ haside => exact hsame ⟨haside.fetches, haside.random, haside.status⟩
  | attempt _ users =>
    have husers : RecordsKept m { m with myUsersForWWR := users } := ⟨rfl, rfl, rfl⟩
    exact hsame ((husers.trans (recordsKept_startConnecting _)).trans (recordsKept_emit _ _))
  | hangUp => exact hsame (hears_disconnect m).recordsKept
  | enrol _ user =>
    have hwatch : RecordsKept m (m.watch user) := ⟨rfl, rfl, rfl⟩
    exact hsame (hwatch.trans (recordsKept_startAdd _ _ _))
  | remove _ user => exact hsame (recordsKept_removeFromWWR m user)
  | yield =>
    rcases nextChangedUserWWR_frame m with ⟨_, hframe⟩ | ⟨_, _, _, _, hframe⟩
    · rw [hframe]
    · exact hsame (hframe ▸ ⟨rfl, rfl, rfl⟩)
  | queried _ _ _ hqueried => exact hqueried.pending_eq query hop
  | nickName _ _ user name =>
    obtain ⟨presence, hframe⟩ := rememberNickName_frame m user name
    exact hsame (hframe ▸ ⟨rfl, rfl, rfl⟩)
  | send _ _ packet => exact hsame (recordsKept_socketWrite m packet)
  | post _ _ path packet disk =>
    exact hsame (((recordsKept_socketWrite m packet).trans (recordsKept_onDisk _ disk)).trans
      (recordsKept_emit _ _))
  | poll | watch | endAdd | added | collect => exact hsame ⟨rfl, rfl, rfl⟩

theorem Acts.pending_eq (h : Acts op m n) : n.pending query.slot = m.pending query.slot := by
  induction h with
  | refl => rfl
  | tail _ hact ih => exact (hact.pending_eq query hop).trans ih

theorem Awaits.pending_eq (h : Awaits op m n) : n.pending query.slot = m.pending query.slot := by
  cases h with
  | ask kind packet =>
    have hother : Slot.wait kind ≠ query.slot := by cases query <;> exact Slot.noConfusion
    rw [hold_other _ _ query hother, requested_pending]

end

end DSNetManager
end NetNatsue
