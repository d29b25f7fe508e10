import NetNatsue.Manager.Spelling
import NetNatsue.Manager.Records
import NetNatsue.Manager.Tickets

/-! The deadlines of the commands that are called again until they give up. -/
namespace NetNatsue

/-- The deadline is read with the wrap of the clock: it has passed from the moment it is due until
2^31 milliseconds later. -/
theorem timeAfter_deadlineIn (start timeoutMs : UInt32) (elapsed : ℕ)
    (helapsed : elapsed < 2147483648) (htimeout : timeoutMs.toNat < 2147483648) :
    timeAfter (start + UInt32.ofNat elapsed) (deadlineIn start timeoutMs) = true ↔
      timeoutMs.toNat ≤ elapsed := by
  have hdiff : start + UInt32.ofNat elapsed - (start + timeoutMs) =
      UInt32.ofNat (elapsed + 4294967296 - timeoutMs.toNat) := by
    have htwo : UInt32.ofNat 4294967296 = 0 := by decide
    rw [UInt32.ofNat_sub (by omega), UInt32.ofNat_add, htwo, UInt32.ofNat_toNat, UInt32.add_zero]
    grind
  rw [timeAfter, deadlineIn, hdiff, UInt32.toInt32_ofNat', decide_eq_true_iff, ge_iff_le,
    Word32.le_iff, Word32.toInt_zero]
  by_cases hdue : timeoutMs.toNat ≤ elapsed
  · have hwrap : elapsed + 4294967296 - timeoutMs.toNat = (elapsed - timeoutMs.toNat) +
        4294967296 := by
      omega
    have hdrop : Int32.ofNat ((elapsed - timeoutMs.toNat) + 4294967296) =
        Int32.ofNat (elapsed - timeoutMs.toNat) := by
      have htwo : Int32.ofNat 4294967296 = 0 := by decide
      rw [Int32.ofNat_add, htwo, Int32.add_zero]
    rw [hwrap, hdrop, Word32.toInt_ofNat_exact _ (by omega)]
    exact iff_of_true (by omega) hdue
  · rw [Word32.toInt_ofNat_negative _ (by omega) (by omega)]
    exact iff_of_false (by omega) hdue

/-- A command that is called again until it stops blocking. -/
inductive Wait
  | query (query : Query)
  | addToWWR (user : Bytes)
  deriving DecidableEq

def Wait.timeoutMs : Wait → UInt32
  | query _ => queryTimeoutMs
  | addToWWR _ => wwrAddTimeoutMs

namespace DSNetManager

/-- A call of the command: whether to call again, and the state. -/
def await (m : DSNetManager) : Wait → Bool × DSNetManager
  | .query query => m.query query
  | .addToWWR user => m.addToWWR user

/-- What the command has on record. A wait for a presence update has no ticket. -/
def recordOf (m : DSNetManager) : Wait → Option PendingQuery
  | .query (.fetchUserData user) => m.myPendingUserFetches user
  | .query .dsFetchRandomUser =>
    if m.myRandomUserQuery.ticket = 0 then none else some m.myRandomUserQuery
  | .query .getStatus => if m.myStatusQuery.ticket = 0 then none else some m.myStatusQuery
  | .addToWWR user => (m.myPendingWWRAdds user).map fun deadline => { deadline := deadline }

/-- The wait goes on: it is on record, and the transaction of a query has not been answered. -/
structure Open (w : Wait) (m : DSNetManager) : Prop where
  recorded : (m.recordOf w).isSome = true
  unanswered : ∀ query record, w = .query query → m.recordOf w = some record →
    ∃ transaction, m.myTransactions record.ticket = some transaction ∧ transaction.done = false

/-- All the while the wait goes on. -/
abbrev StaysOpen (w : Wait) : DSNetManager → DSNetManager → Prop :=
  Relation.ReflTransGen fun m n => (∃ op, Act op m n) ∧ n.Open w

section
variable {m n k : DSNetManager}

theorem recordOf_of_eq (hrecords : RecordsKept m n)
    (hadds : n.myPendingWWRAdds = m.myPendingWWRAdds) (w : Wait) : n.recordOf w = m.recordOf w := by
  rcases w with query | user
  · cases query <;> simp only [recordOf, hrecords.fetches, hrecords.random, hrecords.status]
  · simp only [recordOf, hadds]

/-- Nothing is newly waited for: every record is what it was, or gone. -/
def Wanes (m n : DSNetManager) : Prop := ∀ w, n.recordOf w = m.recordOf w ∨ n.recordOf w = none

theorem Wanes.trans (h : Wanes m n) (h' : Wanes n k) : Wanes m k := by
  intro w
  rcases h' w with hsame | hnone
  · rw [hsame]
    exact h w
  · exact Or.inr hnone

theorem wanes_of_eq (hrecords : RecordsKept m n) (hadds : n.myPendingWWRAdds = m.myPendingWWRAdds) :
    Wanes m n := fun w => Or.inl (recordOf_of_eq hrecords hadds w)

/-- The waits for presence updates can end. -/
theorem wanes_of_adds (hrecords : RecordsKept m n)
    (hadds : ∀ user, n.myPendingWWRAdds user = m.myPendingWWRAdds user ∨ n.myPendingWWRAdds
      user = none) :
    Wanes m n := by
  rintro (query | user)
  · left
    cases query <;> simp only [recordOf, hrecords.fetches, hrecords.random, hrecords.status]
  · rcases hadds user with hsame | hnone
    · exact Or.inl (by simp only [recordOf, hsame])
    · exact Or.inr (by simp only [recordOf, hnone, Option.map_none])

theorem Heard.wanes (h : Heard m n) : Wanes m n := by
  have hrecords : RecordsKept m n := Hears.recordsKept (.single h)
  cases h with
  | quiet _ hquiet => exact wanes_of_eq hrecords hquiet.adds
  | hangUp => exact wanes_of_adds hrecords fun _ => Or.inr rfl
  | presence header frame uin online nickName =>
    refine wanes_of_adds hrecords fun user => ?_
    rw [updatePresence_adds]
    split_ifs
    · exact Or.inr rfl
    · exact Or.inl rfl
  | _ => exact wanes_of_eq hrecords rfl

theorem Hears.wanes (h : Hears m n) : Wanes m n := by
  induction h with
  | refl => exact fun _ => Or.inl rfl
  | tail _ hheard ih => exact ih.trans hheard.wanes

end

section
variable (m : DSNetManager)

theorem socketWrite_adds (packet : Bytes) :
    (m.socketWrite packet).2.myPendingWWRAdds = m.myPendingWWRAdds := by
  simp only [socketWrite]
  split_ifs <;> rfl

theorem startConnecting_adds : m.startConnecting.myPendingWWRAdds = m.myPendingWWRAdds := by
  rw [← (quiet_chooseServer m).adds]
  unfold startConnecting
  generalize m.chooseServer = n
  simp only
  split_ifs <;> rfl

theorem wanes_removeFromWWR (user : Bytes) : Wanes m (m.removeFromWWR user) := by
  refine wanes_of_adds (recordsKept_removeFromWWR m user) fun other => ?_
  have hforget : (m.forgetUser user).myPendingWWRAdds other = m.myPendingWWRAdds other ∨
      (m.forgetUser user).myPendingWWRAdds other = none := by
    by_cases hother : other = user
    · exact Or.inr (by simp [forgetUser, emit, hother])
    · exact Or.inl (by simp [forgetUser, emit, hother])
  simp only [removeFromWWR]
  split_ifs
  · rw [socketWrite_adds]
    exact hforget
  · exact hforget
  · exact hforget

/-- What a query holds or lets go of is its own record. -/
theorem hold_recordOf (slot : Slot) (record : PendingQuery) (w : Wait)
    (h : ∀ query, w = .query query → query.slot ≠ slot) :
    (m.hold slot record).recordOf w = m.recordOf w := by
  rcases w with query | user
  · have hother := h query rfl
    cases slot with
    | fetch user =>
      cases query with
      | fetchUserData other =>
        have huser : other ≠ user := fun heq => hother (congrArg Slot.fetch heq)
        simp [recordOf, hold, setFetch, huser]
      | _ => rfl
    | random =>
      cases query with
      | dsFetchRandomUser => exact absurd rfl hother
      | _ => rfl
    | status =>
      cases query with
      | getStatus => exact absurd rfl hother
      | _ => rfl
    | wait kind => cases query <;> rfl
  · cases slot <;> rfl

theorem wanes_release (slot : Slot) : Wanes m (m.release slot) := by
  rintro (query | user)
  · cases slot with
    | fetch user =>
      cases query with
      | fetchUserData other =>
        by_cases huser : other = user
        · exact Or.inr (by simp [recordOf, release, setFetch, huser])
        · exact Or.inl (by simp [recordOf, release, setFetch, huser])
      | _ => exact Or.inl rfl
    | random =>
      cases query with
      | dsFetchRandomUser => exact Or.inr rfl
      | _ => exact Or.inl rfl
    | status =>
      cases query with
      | getStatus => exact Or.inr rfl
      | _ => exact Or.inl rfl
    | wait kind => cases query <;> exact Or.inl rfl
  · cases slot <;> exact Or.inl rfl

theorem pending_recordOf (query : Query) (h : m.pending query.slot = none) :
    m.recordOf (.query query) = none := by
  cases query with
  | fetchUserData user => exact Option.map_eq_none_iff.mp h
  | dsFetchRandomUser => simpa [pending, Query.slot, recordOf] using h
  | getStatus => simpa [pending, Query.slot, recordOf] using h

end

section
variable {m n : DSNetManager}

theorem wanes_abandonTransaction (m : DSNetManager) (ticket : Int32) :
    Wanes m (m.abandonTransaction ticket) :=
  wanes_of_eq (recordsKept_abandonTransaction m ticket) (onlyQueries_abandonTransaction
    m ticket).adds

theorem wanes_requested (m : DSNetManager) (slot : Slot) (clock : Stream' UInt32) (packet : Bytes) :
    Wanes m (m.requested slot clock packet).2 := by
  have hstart : Wanes m (m.startTransaction slot.kind slot.fixedExtra).2 :=
    wanes_of_eq ⟨rfl, rfl, rfl⟩ rfl
  have hread : Wanes (m.startTransaction slot.kind slot.fixedExtra).2
      { (m.startTransaction slot.kind slot.fixedExtra).2 with clock := clock } := by
    generalize (m.startTransaction slot.kind slot.fixedExtra).2 = k
    exact wanes_of_eq ⟨rfl, rfl, rfl⟩ rfl
  exact (hstart.trans hread).trans (Hears.wanes (hears_socketWrite _ packet))

theorem wanes_attemptFor (m : DSNetManager) (users : List Bytes) :
    Wanes m (m.attemptFor users) := by
  have husers : RecordsKept m { m with myUsersForWWR := users } := ⟨rfl, rfl, rfl⟩
  exact wanes_of_eq (husers.trans (recordsKept_startConnecting _)) (startConnecting_adds _)

/-- A wait for a presence update begins where there was none. -/
theorem startAdd_recordOf (m : DSNetManager) (user : Bytes) (uin : BabelUIN) (w : Wait)
    (hnone : m.myPendingWWRAdds user = none) :
    (m.startAdd user uin).2.recordOf w = m.recordOf w ∨ m.recordOf w = none := by
  have hwrite : ∀ w, (m.socketWrite (buildWWRModify true m.myServerUIN uin)).2.recordOf
      w = m.recordOf w :=
    recordOf_of_eq (recordsKept_socketWrite m _) (socketWrite_adds m _)
  simp only [startAdd]
  split_ifs
  · exact Or.inl (hwrite w)
  · generalize (m.socketWrite (buildWWRModify true m.myServerUIN uin)).2 = k at hwrite
    rcases w with query | other
    · exact Or.inl ((by cases query <;> rfl : _ = k.recordOf (.query query)).trans (hwrite _))
    · by_cases hother : other = user
      · exact Or.inr (by simp only [DSNetManager.recordOf, hother, hnone, Option.map_none])
      · have hkept : (k.nowMs.2.setWWRAdd user (deadlineIn k.nowMs.1 wwrAddTimeoutMs)).recordOf
            (.addToWWR other) = k.recordOf (.addToWWR other) := by
          simp only [DSNetManager.recordOf, setWWRAdd, Function.update_of_ne hother]
          rfl
        exact Or.inl (hkept.trans (hwrite _))
  · exact Or.inl (hwrite w)

theorem Queried.recordOf {op : Op} (h : Queried op m n) (w : Wait) :
    n.recordOf w = m.recordOf w ∨ n.recordOf w = none ∨ m.recordOf w = none := by
  cases h with
  | ask slot clock deadline packet _ hfree =>
    by_cases hown : ∃ query, w = .query query ∧ query.slot = slot
    · obtain ⟨query, rfl, rfl⟩ := hown
      exact Or.inr (Or.inr (pending_recordOf m query hfree))
    · rw [hold_recordOf _ slot _ w fun query hw hslot => hown ⟨query, hw, hslot⟩]
      exact (wanes_requested m slot clock packet w).imp id Or.inl
  | refuse slot clock packet =>
    have hkept := (wanes_requested m slot clock packet).trans (wanes_abandonTransaction _
      (ticketAfter m.myNextTicketNumber))
    exact (hkept w).imp id Or.inl
  | finish slot ticket =>
    have hset : Wanes m (m.setTransaction ticket none) := wanes_of_eq ⟨rfl, rfl, rfl⟩ rfl
    exact (hset.trans (wanes_release _ slot) w).imp id Or.inl
  | expire slot ticket =>
    exact ((wanes_abandonTransaction m ticket).trans (wanes_release _ slot) w).imp id Or.inl
  | drop slot => exact (wanes_release m slot w).imp id Or.inl

/-- An act leaves a record as it is, takes it away, or makes it where there was none. -/
theorem Act.recordOf {op : Op} (h : Act op m n) (w : Wait) :
    n.recordOf w = m.recordOf w ∨ n.recordOf w = none ∨ m.recordOf w = none := by
  have hwanes : ∀ {k}, Wanes m k → k.recordOf w = m.recordOf w ∨ k.recordOf w = none ∨
      m.recordOf w = none :=
    fun hkept => (hkept w).imp id Or.inl
  have hsame : ∀ {k l : DSNetManager}, RecordsKept k l → l.myPendingWWRAdds =
      k.myPendingWWRAdds → Wanes k l :=
    wanes_of_eq
  cases h with
  | pumped _ _ _ hpumped => exact hwanes hpumped.hears.wanes
  | aside _ _ _ haside => exact hwanes (Hears.wanes (hears_quiet haside.toQuiet))
  | attempt _ users => exact hwanes ((wanes_attemptFor m users).trans (hsame ⟨rfl, rfl, rfl⟩ rfl))
  | hangUp => exact hwanes (Hears.wanes (hears_disconnect m))
  | enrol _ user _ _ hnone =>
    exact (startAdd_recordOf (m.watch user) user _ w hnone).imp id Or.inr
  | endAdd _ user =>
    refine hwanes (wanes_of_adds ⟨rfl, rfl, rfl⟩ fun other => ?_)
    by_cases hother : other = user
    · exact Or.inr (by simp [endWWRAdd, hother])
    · exact Or.inl (by simp [endWWRAdd, hother])
  | remove _ user => exact hwanes (wanes_removeFromWWR m user)
  | yield =>
    rcases nextChangedUserWWR_frame m with ⟨_, hframe⟩ | ⟨_, _, _, _, hframe⟩ <;> rw [hframe]
    · exact Or.inl rfl
    · exact hwanes (hsame ⟨rfl, rfl, rfl⟩ rfl)
  | queried _ _ _ hqueried => exact hqueried.recordOf w
  | nickName _ _ user name =>
    obtain ⟨presence, hframe⟩ := rememberNickName_frame m user name
    rw [hframe]
    exact hwanes (hsame ⟨rfl, rfl, rfl⟩ rfl)
  | send _ _ packet => exact hwanes (Hears.wanes (hears_socketWrite m packet))
  | post _ _ path packet disk =>
    have hwritten := Hears.wanes (hears_socketWrite m packet)
    generalize (m.socketWrite packet).2 = k at hwritten
    exact hwanes (hwritten.trans (hsame ⟨rfl, rfl, rfl⟩ rfl))
  | _ => exact hwanes (hsame ⟨rfl, rfl, rfl⟩ rfl)

/-- While a wait goes on its record is the one it began with. -/
theorem StaysOpen.recordOf {w : Wait} (h : StaysOpen w m n) (hm : (m.recordOf w).isSome = true) :
    n.recordOf w = m.recordOf w := by
  have hboth : (n.recordOf w).isSome = true ∧ n.recordOf w = m.recordOf w := by
    induction h with
    | refl => exact ⟨hm, rfl⟩
    | tail _ hact ih =>
      obtain ⟨⟨op, hact⟩, hopen⟩ := hact
      refine ⟨hopen.recorded, ?_⟩
      rcases hact.recordOf w with hsame | hnone | hnone
      · exact hsame.trans ih.2
      · have hsome := hopen.recorded
        rw [hnone] at hsome
        cases hsome
      · have hsome := ih.1
        rw [hnone] at hsome
        cases hsome
  exact hboth.2

theorem socketWrite_clock (m : DSNetManager) (packet : Bytes) :
    (m.socketWrite packet).2.clock = m.clock := by
  simp only [socketWrite]
  split_ifs <;> rfl

/-- A pump while online does not read the clock. -/
theorem pump_clock (honline : m.myConnectPhase = .online) : m.pump.clock = m.clock := by
  apply pump_keeps honline (fun n => n.clock = m.clock) rfl
  · exact fun n s hn => hn
  · exact fun n hn => hn
  · intro n k frame hphase hmet hn
    rw [← hn]
    cases hmet with
    | refused hawaiting => exact absurd hawaiting hphase
    | accepted hawaiting => exact absurd hawaiting hphase
    | message =>
      simp only [handleMessage]
      cases parsePackedBabelMessage (frame.drop packetHeaderSize) (sizeInt frame - 32) with
      | none => rfl
      | some message =>
        simp only
        split_ifs <;> rfl
    | presence uin online nickName =>
      obtain ⟨changed, adds, hframe⟩ := updatePresence_frame
        (n.emit (.packet n.myConnectPhase (PacketHeader.read frame) frame)) uin online nickName
      rw [hframe]
      rfl
    | circuit =>
      simp only [handleVirtualConnect]
      split_ifs
      · exact socketWrite_clock _ _
      · exact socketWrite_clock _ _
    | _ => rfl

end

section
variable (m : DSNetManager)

/-- A query that is asked is given its deadline by the reading of the clock. -/
theorem startQuery_record (kind : TransactionKind) (fixedExtra : FixedExtra)
    (request : Int32 → Bytes)
    (record : PendingQuery) (h : (m.startQuery kind fixedExtra request).1 = some record) :
    record =
      { ticket := ticketAfter m.myNextTicketNumber
        deadline := deadlineIn m.clock.head queryTimeoutMs } := by
  simp only [startQuery] at h
  split_ifs at h
  exact (Option.some.inj h).symm

theorem startFetch_record (user : Bytes) (uin : BabelUIN) (h : (m.startFetch user uin).1.2 = true) :
    ∃ ticket, (m.startFetch user uin).2.recordOf (.query (.fetchUserData user)) =
      some { ticket := ticket, deadline := deadlineIn m.clock.head queryTimeoutMs } := by
  unfold startFetch at h ⊢
  split_ifs at h ⊢
  cases hasked : (m.startQuery .clientInfo noExtra (buildGetClientInfo m.myServerUIN uin)).1 with
  | none => simp [hasked] at h
  | some record =>
    have hrecord := m.startQuery_record _ _ _ record hasked
    simp only [hasked]
    exact ⟨_, (Function.update_self _ _ _).trans (congrArg some hrecord)⟩

/-- A query that was sent fills the slot it is held in. -/
theorem startQuery_held (kind : TransactionKind) (fixedExtra : FixedExtra) (request : Int32 → Bytes)
    (record : PendingQuery) (h : (m.startQuery kind fixedExtra request).1 = some record) :
    ∃ ticket, (if record.ticket = 0 then none else some record) =
      some { ticket := ticket, deadline := deadlineIn m.clock.head queryTimeoutMs } := by
  have hrecord := m.startQuery_record _ _ _ record h
  have hticket : record.ticket ≠ 0 := by
    rw [hrecord]
    exact ticketAfter_ne_zero _
  rw [if_neg hticket]
  exact ⟨_, congrArg some hrecord⟩

theorem startRandom_record (h : m.startRandom.1.2 = true) :
    ∃ ticket, m.startRandom.2.recordOf (.query .dsFetchRandomUser) =
      some { ticket := ticket, deadline := deadlineIn m.clock.head queryTimeoutMs } := by
  unfold startRandom at h ⊢
  split_ifs at h ⊢
  cases hasked : (m.startQuery .randomUser noExtra (buildFetchRandomUser m.myServerUIN
    m.myUserUIN)).1 with
  | none => simp [hasked] at h
  | some record =>
    simp only [hasked]
    exact m.startQuery_held _ _ _ record hasked

theorem startStatus_record (h : m.startStatus.1.2 = true) :
    ∃ ticket, m.startStatus.2.recordOf (.query .getStatus) =
      some { ticket := ticket, deadline := deadlineIn m.clock.head queryTimeoutMs } := by
  unfold startStatus at h ⊢
  cases hasked : (m.startQuery .status statusExtra (buildGetStatus m.myServerUIN)).1 with
  | none => simp [hasked] at h
  | some record =>
    simp only [hasked]
    exact m.startQuery_held _ _ _ record hasked

theorem startAdd_record (user : Bytes) (uin : BabelUIN) (h : (m.startAdd user uin).1 = true) :
    (m.startAdd user uin).2.recordOf (.addToWWR user) =
      some { deadline := deadlineIn m.clock.head wwrAddTimeoutMs } := by
  simp only [startAdd] at h ⊢
  split_ifs at h ⊢
  simp only [recordOf, setWWRAdd, nowMs, socketWrite_clock, Function.update_self, Option.map_some]

/-- The user of the command has a valid id. -/
def Wait.Valid : Wait → Prop
  | .query query => query.Valid
  | .addToWWR user => (BabelUIN.fromString user).1 = true

/-- A first call that blocks leaves a record with the deadline. -/
theorem await_starts (w : Wait) (hnone : m.recordOf w = none) (hblock : (m.await w).1 = true) :
    Wait.Valid w ∧ ∃ ticket, (m.await w).2.recordOf w =
      some { ticket := ticket, deadline := deadlineIn m.clock.head w.timeoutMs } := by
  rcases w with query | user
  · cases query with
    | fetchUserData user =>
      simp only [await, query, fetchUserData] at hblock ⊢
      split_ifs at hblock ⊢ with hvalid
      simp only [recordOf] at hnone
      simp only [hnone] at hblock ⊢
      exact ⟨hvalid, m.startFetch_record user _ hblock⟩
    | dsFetchRandomUser =>
      have hidle : m.myRandomUserQuery.ticket = 0 := by simpa [recordOf] using hnone
      simp only [await, query, dsFetchRandomUser, hidle, if_true] at hblock ⊢
      exact ⟨trivial, m.startRandom_record hblock⟩
    | getStatus =>
      have hidle : m.myStatusQuery.ticket = 0 := by simpa [recordOf] using hnone
      simp only [await, query, getStatus, hidle, if_true] at hblock ⊢
      split_ifs at hblock ⊢
      exact ⟨trivial, m.startStatus_record hblock⟩
  · have hadds : (m.watch user).myPendingWWRAdds user = none := Option.map_eq_none_iff.mp hnone
    simp only [await, addToWWR, addUser, hadds] at hblock ⊢
    split_ifs at hblock ⊢ with hvalid
    exact ⟨hvalid, 0, (m.watch user).startAdd_record user _ hblock⟩

end

/-- The state behind the pump of a later call. -/
def pumpedFor (m : DSNetManager) : Wait → DSNetManager
  | .query _ => m.pump
  | .addToWWR user => (m.watch user).pump

section
variable (m : DSNetManager)

/-- An unanswered query waits until its deadline, and gives its transaction up there. -/
theorem pollQuery_open (record : PendingQuery) (transaction : Transaction)
    (hentry : m.myTransactions record.ticket = some transaction)
    (hdone : transaction.done = false) :
    m.pollQuery record =
      if timeAfter m.clock.head record.deadline then
        (.timedOut, m.nowMs.2.setTransaction record.ticket
          (some { transaction with kind := .abandoned }))
      else (.waiting, m.nowMs.2) := by
  have habandon : m.nowMs.2.abandonTransaction record.ticket =
      m.nowMs.2.setTransaction record.ticket (some { transaction with kind := .abandoned }) := by
    have hentry' : m.nowMs.2.myTransactions record.ticket = some transaction := hentry
    simp only [abandonTransaction, hentry', hdone, Bool.false_eq_true, if_false]
  simp only [pollQuery, pollTransaction_pending m record.ticket transaction hentry hdone, habandon]
  rfl

/-- The wait goes on, with the record it had. -/
structure GoesOn (w : Wait) (record : PendingQuery) (r : Bool × DSNetManager) : Prop where
  blocks : r.1 = true
  recorded : r.2.recordOf w = some record

/-- The wait is given up: the record is gone, and the transaction of a query is abandoned, with the
framing it had. -/
structure GivesUp (w : Wait) (record : PendingQuery) (r : Bool × DSNetManager) : Prop where
  stops : r.1 = false
  removed : r.2.recordOf w = none
  abandoned : ∀ query transaction, w = .query query →
    (m.pumpedFor w).myTransactions record.ticket = some transaction →
    r.2.myTransactions record.ticket = some { transaction with kind := .abandoned }

theorem await_query (query : Query) (record : PendingQuery) (hvalid : query.Valid)
    (honline : m.Online)
    (hrecord : m.recordOf (.query query) = some record) (hopen : m.pump.Open (.query query)) :
    if timeAfter m.clock.head record.deadline then
      m.GivesUp (.query query) record (m.query query)
    else GoesOn (.query query) record (m.query query) := by
  have hkept := recordsKept_pump m
  have hrecord' : m.pump.recordOf (.query query) = some record := by
    rw [← hrecord]
    cases query <;> simp only [recordOf, hkept.fetches, hkept.random, hkept.status]
  obtain ⟨transaction, hentry, hdone⟩ := hopen.unanswered query record rfl hrecord'
  have hpoll := m.pump.pollQuery_open record transaction hentry hdone
  rw [pump_clock honline.1] at hpoll
  have habandoned : ∀ k : DSNetManager, k.myTransactions record.ticket = some
    { transaction with kind := .abandoned } →
      ∀ query' transaction', Wait.query query = .query query' →
      (m.pumpedFor (.query query)).myTransactions record.ticket = some transaction' →
      k.myTransactions record.ticket = some { transaction' with kind := .abandoned } := by
    intro k hk _ transaction' _ hentry'
    have hsame : m.pump.myTransactions record.ticket = some transaction' := hentry'
    rw [hentry] at hsame
    cases hsame
    exact hk
  have hself : ∀ k : DSNetManager, (k.setTransaction record.ticket
      (some { transaction with kind := .abandoned })).myTransactions record.ticket =
        some { transaction with kind := .abandoned } := fun k => Function.update_self _ _ _
  cases query with
  | fetchUserData user =>
    have hcall : m.fetchUserData user = m.pump.pollFetch user record := by
      have hheld : m.myPendingUserFetches user = some record := hrecord
      have hparsed : (BabelUIN.fromString user).1 = true := hvalid
      simp only [fetchUserData, hheld, hparsed, not_true_eq_false, if_false]
    simp only [query, hcall, pollFetch, hpoll]
    split_ifs with hdue
    · exact ⟨rfl, Function.update_self _ _ _, habandoned _ (hself _)⟩
    · exact ⟨rfl, hrecord'⟩
  | dsFetchRandomUser =>
    obtain ⟨hticket, hheld⟩ := Option.ite_none_left_eq_some.mp hrecord
    obtain ⟨hticket', hheld'⟩ := Option.ite_none_left_eq_some.mp hrecord'
    have hcall : m.dsFetchRandomUser = m.pump.pollRandom := by
      rw [dsFetchRandomUser, if_neg hticket]
    simp only [query, hcall, pollRandom, Option.some.inj hheld', hpoll]
    split_ifs with hdue
    · exact ⟨rfl, rfl, habandoned _ (hself _)⟩
    · exact ⟨rfl, hrecord'⟩
  | getStatus =>
    obtain ⟨hticket, hheld⟩ := Option.ite_none_left_eq_some.mp hrecord
    obtain ⟨hticket', hheld'⟩ := Option.ite_none_left_eq_some.mp hrecord'
    have hcall : m.getStatus = m.pump.pollStatus := by
      rw [getStatus, if_neg (not_not_intro honline), if_neg hticket]
    simp only [query, hcall, pollStatus, Option.some.inj hheld', hpoll]
    split_ifs with hdue
    · exact ⟨rfl, rfl, habandoned _ (hself _)⟩
    · exact ⟨rfl, hrecord'⟩

theorem await_add (user : Bytes) (record : PendingQuery)
    (hvalid : (BabelUIN.fromString user).1 = true)
    (honline : m.Online) (hrecord : m.recordOf (.addToWWR user) = some record)
    (hopen : (m.watch user).pump.Open (.addToWWR user)) :
    if timeAfter m.clock.head record.deadline then
      m.GivesUp (.addToWWR user) record (m.addToWWR user)
    else GoesOn (.addToWWR user) record (m.addToWWR user) := by
  obtain ⟨deadline, hheld, rfl⟩ := Option.map_eq_some_iff.mp hrecord
  have hheld' : (m.watch user).pump.myPendingWWRAdds user = some deadline := by
    rcases Hears.wanes (hears_pump (m.watch user)) (.addToWWR user) with hsame | hnone
    · have hrecord' := hsame.trans hrecord
      obtain ⟨deadline', hheld', hdeadline⟩ := Option.map_eq_some_iff.mp hrecord'
      rw [hheld', (PendingQuery.mk.inj hdeadline).2]
    · have hsome := hopen.recorded
      rw [hnone] at hsome
      cases hsome
  have hclock : (m.watch user).pump.clock = m.clock := pump_clock (m := m.watch user) honline.1
  have hwatch : (m.watch user).myPendingWWRAdds user = some deadline := hheld
  have hup : (m.watch user).Online := honline
  simp only [addToWWR, addUser, hwatch, pollAdd, hheld', nowMs, hclock]
  rw [if_neg (not_not_intro hvalid), if_neg (not_not_intro hup)]
  split_ifs with hdue
  · refine ⟨rfl, ?_, fun query transaction hw => by cases hw⟩
    simp only [recordOf, emit, endWWRAdd, Function.update_self, Option.map_none]
  · refine ⟨rfl, ?_⟩
    simp only [recordOf, emit, hheld', Option.map_some]

/-- A call that finds the wait still going on gives up exactly if the deadline has passed. -/
theorem await_open (w : Wait) (record : PendingQuery) (hvalid : Wait.Valid w) (honline : m.Online)
    (hrecord : m.recordOf w = some record) (hopen : (m.pumpedFor w).Open w) :
    if timeAfter m.clock.head record.deadline then m.GivesUp w record (m.await w)
    else GoesOn w record (m.await w) := by
  rcases w with query | user
  · exact m.await_query query record hvalid honline hrecord hopen
  · exact m.await_add user record hvalid honline hrecord hopen

end

/-- **The commands that block give up at their deadline and not before**, wherever the clock stands
when they begin and whether or not it wraps until they are called again. -/
theorem gives_up_at_deadline (w : Wait) (m n : DSNetManager) (elapsed : ℕ)
    (hnone : m.recordOf w = none)
    (hblock : (m.await w).1 = true) (hopen : StaysOpen w (m.await w).2 n) (honline : n.Online)
    (hpumped : (n.pumpedFor w).Open w) (helapsed : elapsed < 2147483648)
    (hclock : n.clock.head = m.clock.head + UInt32.ofNat elapsed) :
    ∃ record, (m.await w).2.recordOf w = some record ∧
      (elapsed < w.timeoutMs.toNat → GoesOn w record (n.await w)) ∧
      (w.timeoutMs.toNat ≤ elapsed → n.GivesUp w record (n.await w)) := by
  obtain ⟨hvalid, ticket, hrecord⟩ := m.await_starts w hnone hblock
  refine ⟨_, hrecord, ?_⟩
  have hheld : n.recordOf w = some
      { ticket := ticket, deadline := deadlineIn m.clock.head w.timeoutMs } := by
    rw [hopen.recordOf (by rw [hrecord]; rfl), hrecord]
  have htimeout : w.timeoutMs.toNat < 2147483648 := by
    cases w with
    | query query => exact (by decide : queryTimeoutMs.toNat < 2147483648)
    | addToWWR user => exact (by decide : wwrAddTimeoutMs.toNat < 2147483648)
  have hcall := n.await_open w _ hvalid honline hheld hpumped
  have hdue := timeAfter_deadlineIn m.clock.head w.timeoutMs elapsed helapsed htimeout
  rw [← hclock] at hdue
  constructor
  · intro hearly
    rwa [if_neg fun hpassed => absurd (hdue.mp hpassed) (by omega)] at hcall
  · intro hlate
    rwa [if_pos (hdue.mpr hlate)] at hcall

/-- A client that asks for its status 5 seconds before the clock wraps. -/
def lateClient : DSNetManager := { freshOnline with clock := [4294962296] ++ₛ Stream'.const 5000 }

theorem gives_up_at_deadline_wrapped : ∃ record, GivesUp (lateClient.await (.query .getStatus)).2
    (.query .getStatus) record ((lateClient.await (.query .getStatus)).2.await
      (.query .getStatus)) := by
  have hopen : ((lateClient.await (.query .getStatus)).2.pumpedFor (.query .getStatus)).Open
      (.query .getStatus) := by
    refine ⟨by decide +kernel, fun query record hquery hrecord => ?_⟩
    cases hquery
    have hheld : ((lateClient.await (.query .getStatus)).2.pumpedFor (.query .getStatus)).recordOf
        (.query .getStatus) = some { ticket := 1, deadline := 5000 } := by decide +kernel
    rw [hheld] at hrecord
    cases hrecord
    exact ⟨{ kind := .status, fixedExtra := statusExtra }, by decide +kernel, rfl⟩
  obtain ⟨record, _, _, hlate⟩ := gives_up_at_deadline (.query .getStatus) lateClient _ 10000
    (by decide +kernel) (by decide +kernel) .refl (by decide +kernel) hopen (by decide)
      (by decide +kernel)
  exact ⟨record, hlate (by decide)⟩

end DSNetManager
end NetNatsue
