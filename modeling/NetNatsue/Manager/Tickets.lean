import NetNatsue.Foundations.Ledger
import NetNatsue.Manager.Known

/-! Tickets, the table of transactions and the queries that hold tickets, over whole runs. -/
namespace NetNatsue

/-- What an event writes in the ledger of questions and answers. -/
def Event.ledger : Event → Option (Ledger.Entry Int32 Bytes)
  | .started ticket _ => some (.asked ticket)
  | .response ticket frame => some (.answered ticket frame)
  | .ended => some .closed
  | _ => none

/-- The questions and answers of a trace. -/
def ledger (events : List Event) : List (Ledger.Entry Int32 Bytes) := events.filterMap Event.ledger

/-- The ticket an event issues. -/
def Event.ticket : Event → Option Int32
  | .issued ticket => some ticket
  | _ => none

/-- The tickets issued, in order. -/
def tickets (events : List Event) : List Int32 := events.filterMap Event.ticket

theorem ledger_append (a b : List Event) : ledger (a ++ b) = ledger a ++ ledger b :=
  List.filterMap_append

theorem tickets_append (a b : List Event) : tickets (a ++ b) = tickets a ++ tickets b :=
  List.filterMap_append

theorem ended_of_closed {events : List Event} (h : .closed ∈ ledger events) : .ended ∈ events := by
  obtain ⟨e, he, hledger⟩ := List.mem_filterMap.mp h
  cases e with
  | ended => exact he
  | _ => cases hledger

theorem response_of_answered {events : List Event} {ticket : Int32} {frame : Bytes}
    (h : .answered ticket frame ∈ ledger events) : .response ticket frame ∈ events := by
  obtain ⟨e, he, hledger⟩ := List.mem_filterMap.mp h
  cases e with
  | response other answer =>
    cases hledger
    exact he
  | _ => cases hledger

theorem ledger_silent (a b : List Event) (h : ∀ e ∈ b, e.ledger = none) :
    ledger (a ++ b) = ledger a := by
  rw [ledger_append, ledger, ledger, List.filterMap_eq_nil_iff.mpr h, List.append_nil]

theorem tickets_silent (a b : List Event) (h : ∀ e ∈ b, e.ticket = none) :
    tickets (a ++ b) = tickets a := by
  rw [tickets_append, tickets, tickets, List.filterMap_eq_nil_iff.mpr h, List.append_nil]

theorem ticketAfter_ne_zero (ticket : Int32) : ticketAfter ticket ≠ 0 := by
  rw [ticketAfter]
  split_ifs with hzero
  · rw [hzero]
    decide
  · exact hzero

/-- A ticket behind fewer than 2^31-1 others is the next number. -/
theorem ticketAfter_toInt (ticket : Int32) (hlo : 0 ≤ ticket.toInt)
    (hhi : ticket.toInt < 2147483647) :
    (ticketAfter ticket).toInt = ticket.toInt + 1 := by
  have hone : (1 : Int32).toInt = 1 := rfl
  have hnext := Word32.toInt_add_exact ticket 1 (by omega) (by omega)
  have hnonzero : ticket + 1 ≠ 0 := by
    intro hzero
    rw [hzero, hone] at hnext
    simp at hnext
    omega
  unfold ticketAfter
  rw [if_neg hnonzero, hnext, hone]

namespace Transaction

theorem handleResponse_kept (transaction : Transaction) (header : PacketHeader) (body : Bytes)
    (bodySize : Int32) : (transaction.handleResponse header body bodySize).kind = transaction.kind ∧
      (transaction.handleResponse header body bodySize).done = true := by
  unfold handleResponse
  cases transaction.kind with
  | clientInfo =>
    simp only
    split_ifs
    · cases parseShortUserData (body.drop transaction.fixedExtra.val.toInt.toNat)
        header.furtherData <;>
        exact ⟨rfl, rfl⟩
    · exact ⟨rfl, rfl⟩
  | status =>
    simp only
    split_ifs <;> exact ⟨rfl, rfl⟩
  | randomUser =>
    simp only
    split_ifs <;> exact ⟨rfl, rfl⟩
  | _ => exact ⟨rfl, rfl⟩

@[simp] theorem answer_kind (transaction : Transaction) (frame : Bytes) :
    (transaction.answer frame).kind = transaction.kind := (handleResponse_kept _ _ _ _).1

@[simp] theorem answer_done (transaction : Transaction) (frame : Bytes) :
    (transaction.answer frame).done = true := (handleResponse_kept _ _ _ _).2

end Transaction

namespace Slot

/-- The transaction the query of a slot starts. -/
def asked (slot : Slot) : Transaction :=
  { Transaction.fresh with kind := slot.kind, fixedExtra := slot.fixedExtra }

/-- The transaction before and after its answer has come. -/
def entry (slot : Slot) : Option Bytes → Transaction
  | none => slot.asked
  | some frame => slot.asked.answer frame

@[simp] theorem entry_kind (slot : Slot) (answer : Option Bytes) :
    (slot.entry answer).kind = slot.kind := by
  cases answer with
  | none => rfl
  | some frame => exact Transaction.answer_kind slot.asked frame

end Slot

namespace DSNetManager

/-- What a step does to the ticket counter, the table, the queries and the part of the trace that is
about them. -/
inductive TicketStep (m n : DSNetManager) : Prop
  | idle (events : List Event) (htrace : n.trace = m.trace ++ events)
    (hledger : ∀ e ∈ events, e.ledger = none) (htickets : ∀ e ∈ events, e.ticket = none)
    (hcounter : n.myNextTicketNumber = m.myNextTicketNumber)
    (htable : n.myTransactions = m.myTransactions)
    (hpending : ∀ slot ticket, n.pending slot = some ticket → m.pending slot = some ticket)
  | issue (htrace : n.trace = m.trace ++ [.issued (ticketAfter m.myNextTicketNumber)])
    (hcounter : n.myNextTicketNumber = ticketAfter m.myNextTicketNumber)
    (htable : n.myTransactions = m.myTransactions)
    (hpending : ∀ slot, n.pending slot = m.pending slot)
  | close (htrace : n.trace = m.trace ++ [.ended])
    (hcounter : n.myNextTicketNumber = m.myNextTicketNumber)
    (htable : ∀ ticket, n.myTransactions ticket = none)
    (hpending : ∀ slot, n.pending slot = m.pending slot)
  | answer (ticket : Int32) (frame : Bytes) (transaction : Transaction)
    (h : m.myTransactions ticket = some transaction)
    (htrace : n.trace = m.trace ++ [.response ticket frame])
    (hcounter : n.myNextTicketNumber = m.myNextTicketNumber)
    (htable : n.myTransactions = Function.update m.myTransactions ticket
      (if transaction.kind = .abandoned then none else some (transaction.answer frame)))
    (hpending : ∀ slot, n.pending slot = m.pending slot)
  | settle (slot : Slot) (ticket : Int32) (left : Option Transaction)
    (h : m.pending slot = some ticket) (hleft : left.isSome = true →
    (m.myTransactions ticket).isSome = true)
    (htrace : n.trace = m.trace) (hcounter : n.myNextTicketNumber = m.myNextTicketNumber)
    (htable : n.myTransactions = Function.update m.myTransactions ticket left)
    (hpending : ∀ other held, n.pending other = some held → other ≠ slot ∧
    m.pending other = some held)
  | refuse (kind : TransactionKind) (left : Option Transaction)
    (htrace : n.trace = m.trace ++ [.issued (ticketAfter m.myNextTicketNumber),
      .started (ticketAfter m.myNextTicketNumber) kind])
    (hcounter : n.myNextTicketNumber = ticketAfter m.myNextTicketNumber)
    (htable : n.myTransactions = Function.update m.myTransactions
    (ticketAfter m.myNextTicketNumber) left) (hpending : ∀ slot, n.pending slot = m.pending slot)
  | ask (slot : Slot) (connection : ℕ) (packet : Bytes)
    (htrace : n.trace = m.trace ++ [.issued (ticketAfter m.myNextTicketNumber),
      .started (ticketAfter m.myNextTicketNumber) slot.kind, .wrote connection packet])
    (hcounter : n.myNextTicketNumber = ticketAfter m.myNextTicketNumber)
    (htable : n.myTransactions =
      Function.update m.myTransactions (ticketAfter m.myNextTicketNumber) (some slot.asked))
    (hpending : ∀ other held, n.pending other = some held →
      other = slot ∧ held = ticketAfter m.myNextTicketNumber ∨ other ≠ slot ∧
        m.pending other = some held)

theorem pending_of_eq {m n : DSNetManager}
    (hfetches : n.myPendingUserFetches = m.myPendingUserFetches)
    (hrandom : n.myRandomUserQuery = m.myRandomUserQuery)
    (hstatus : n.myStatusQuery = m.myStatusQuery)
    (hwaiting : n.waiting = m.waiting) (slot : Slot) : n.pending slot = m.pending slot := by
  cases slot <;> simp only [pending, hfetches, hrandom, hstatus, hwaiting]

theorem startTransaction_pending (m : DSNetManager) (kind : TransactionKind)
    (fixedExtra : FixedExtra)
    (slot : Slot) : (m.startTransaction kind fixedExtra).2.pending slot = m.pending slot :=
  pending_of_eq rfl rfl rfl rfl slot

/-- The counter and the table are not kept in a slot. -/
theorem hold_tables (m : DSNetManager) (slot : Slot) (query : PendingQuery) :
    (m.hold slot query).myNextTicketNumber = m.myNextTicketNumber ∧
      (m.hold slot query).myTransactions = m.myTransactions := by
  cases slot <;> exact ⟨rfl, rfl⟩

theorem release_tables (m : DSNetManager) (slot : Slot) :
    (m.release slot).myNextTicketNumber = m.myNextTicketNumber ∧
      (m.release slot).myTransactions = m.myTransactions := by
  cases slot <;> exact ⟨rfl, rfl⟩

/-- A released slot holds nothing, and no slot holds more than before. -/
theorem release_pending (m : DSNetManager) (slot other : Slot) (ticket : Int32)
    (h : (m.release slot).pending other = some ticket) :
    other ≠ slot ∧ m.pending other = some ticket := by
  cases slot with
  | fetch user =>
    cases other with
    | fetch user' =>
      by_cases huser : user' = user
      · simp [release, setFetch, pending, huser] at h
      · have hslot : Slot.fetch user' ≠ Slot.fetch user := fun heq => huser (Slot.fetch.inj heq)
        exact ⟨hslot, by simpa [release, setFetch, pending, huser] using h⟩
    | _ => exact ⟨Slot.noConfusion, h⟩
  | random =>
    cases other with
    | random => simp [release, setRandom, pending] at h
    | _ => exact ⟨Slot.noConfusion, h⟩
  | status =>
    cases other with
    | status => simp [release, setStatus, pending] at h
    | _ => exact ⟨Slot.noConfusion, h⟩
  | wait kind =>
    cases other with
    | wait kind' => simp [release, setWaiting, pending] at h
    | _ => exact ⟨Slot.noConfusion, h⟩

/-- A slot that is given a query holds its ticket, and no other slot holds more than before. -/
theorem hold_pending (m : DSNetManager) (slot other : Slot) (query : PendingQuery) (ticket : Int32)
    (h : (m.hold slot query).pending other = some ticket) :
    other = slot ∧ ticket = query.ticket ∨ other ≠ slot ∧ m.pending other = some ticket := by
  cases slot with
  | fetch user =>
    cases other with
    | fetch user' =>
      by_cases huser : user' = user
      · exact Or.inl ⟨by rw [huser], by simpa [hold, setFetch, pending, huser, eq_comm] using h⟩
      · have hslot : Slot.fetch user' ≠ Slot.fetch user := fun heq => huser (Slot.fetch.inj heq)
        exact Or.inr ⟨hslot, by simpa [hold, setFetch, pending, huser] using h⟩
    | _ => exact Or.inr ⟨Slot.noConfusion, h⟩
  | random =>
    cases other with
    | random =>
      have hheld : (if query.ticket = 0 then none else some query.ticket) = some ticket := h
      exact Or.inl ⟨rfl, (Option.some.inj (Option.ite_none_left_eq_some.mp hheld).2).symm⟩
    | _ => exact Or.inr ⟨Slot.noConfusion, h⟩
  | status =>
    cases other with
    | status =>
      have hheld : (if query.ticket = 0 then none else some query.ticket) = some ticket := h
      exact Or.inl ⟨rfl, (Option.some.inj (Option.ite_none_left_eq_some.mp hheld).2).symm⟩
    | _ => exact Or.inr ⟨Slot.noConfusion, h⟩
  | wait kind =>
    cases other with
    | wait kind' =>
      by_cases hkind : kind = kind'
      · exact Or.inl ⟨by rw [hkind], by simpa [hold, setWaiting, pending, hkind, eq_comm] using h⟩
      · simp [hold, setWaiting, pending, hkind] at h
    | _ => exact Or.inr ⟨Slot.noConfusion, h⟩

/-- What giving a transaction up leaves of it in the table. -/
theorem abandonTransaction_frame (m : DSNetManager) (ticket : Int32) :
    ∃ left, m.abandonTransaction ticket = m.setTransaction ticket left ∧
      (left.isSome = true → (m.myTransactions ticket).isSome = true) := by
  unfold abandonTransaction
  cases hentry : m.myTransactions ticket with
  | none =>
    have hsame := Function.update_eq_self ticket m.myTransactions
    rw [hentry] at hsame
    refine ⟨none, ?_, fun h => by cases h⟩
    rw [setTransaction, hsame]
  | some transaction => exact ⟨_, rfl, fun _ => rfl⟩

theorem Heard.ticketStep {m n : DSNetManager} (h : Heard m n) : TicketStep m n := by
  cases h with
  | quiet n hquiet =>
    refine .idle [] (by rw [hquiet.trace, List.append_nil]) (by simp) (by simp) hquiet.nextTicket
      hquiet.transactions fun slot ticket hheld => ?_
    rwa [← pending_of_eq hquiet.fetches hquiet.random hquiet.status hquiet.waiting]
  | note e hplain =>
    refine .idle [e] rfl ?_ ?_ rfl rfl fun _ _ => id
    · cases e <;> simp_all [Event.Plain, Event.ledger]
    · cases e <;> simp_all [Event.Plain, Event.ticket]
  | hangUp => exact .close rfl rfl (fun _ => rfl) fun slot => pending_of_eq rfl rfl rfl rfl slot
  | presence header frame uin online nickName =>
    obtain ⟨changed, adds, hframe⟩ := updatePresence_frame
      (m.emit (.packet m.myConnectPhase header frame)) uin online nickName
    rw [hframe]
    exact .idle [.packet m.myConnectPhase header frame] rfl (by simp [Event.ledger])
      (by simp [Event.ticket])
      rfl rfl fun _ _ => id
  | register user =>
    exact .idle [.registered user] rfl (by simp [Event.ledger]) (by simp [Event.ticket]) rfl rfl
      fun _ _ => id
  | issue => exact .issue rfl rfl rfl fun slot => pending_of_eq rfl rfl rfl rfl slot
  | respond ticket frame transaction _ hentry =>
    have htable : ((m.emit (.response ticket frame)).respond ticket
      (transaction.answer frame)).myTransactions =
        Function.update m.myTransactions ticket
          (if (transaction.answer frame).kind = .abandoned then
            none else some (transaction.answer frame)) := rfl
    rw [Transaction.answer_kind] at htable
    exact .answer ticket frame transaction hentry rfl rfl htable fun slot => pending_of_eq rfl
      rfl rfl rfl slot
  | _ => exact .idle [] (List.append_nil _).symm (by simp) (by simp) rfl rfl fun _ _ => id

/-- **Every step is one of these.** -/
theorem Step.ticketStep {m n : DSNetManager} (h : Step m n) : TicketStep m n := by
  cases h with
  | heard n hheard => exact hheard.ticketStep
  | attempt s phase host port =>
    exact .idle [.connecting host port, .polled m.myConnectPhase false
      (decide (phase = .connecting))]
      (by simp) (by simp [Event.ledger]) (by simp [Event.ticket]) rfl rfl fun _ _ => id
  | poll found online block =>
    exact .idle [.polled found online block] rfl (by simp [Event.ledger])
      (by simp [Event.ticket]) rfl rfl
      fun _ _ => id
  | post path offset packet =>
    exact .idle [.posted path m.mySocket.os.connection offset packet] rfl (by simp [Event.ledger])
      (by simp [Event.ticket]) rfl rfl fun _ _ => id
  | added user block =>
    exact .idle [.added user block] rfl (by simp [Event.ledger]) (by simp [Event.ticket]) rfl rfl
      fun _ _ => id
  | forget user =>
    exact .idle [.removed user] rfl (by simp [Event.ledger]) (by simp [Event.ticket]) rfl
      rfl fun _ _ => id
  | yield =>
    rcases nextChangedUserWWR_frame m with ⟨_, hframe⟩ |
      ⟨user, users, online, _, hframe⟩ <;> rw [hframe]
    · exact .idle [] (List.append_nil _).symm (by simp) (by simp) rfl rfl fun _ _ => id
    · exact .idle [.yielded user online] rfl (by simp [Event.ledger])
        (by simp [Event.ticket]) rfl rfl
        fun _ _ => id
  | nickName user name =>
    obtain ⟨presence, hframe⟩ := rememberNickName_frame m user name
    rw [hframe]
    exact .idle [] (List.append_nil _).symm (by simp) (by simp) rfl rfl fun _ _ => id
  | refuse kind fixedExtra =>
    obtain ⟨left, hframe, _⟩ := abandonTransaction_frame (m.startTransaction kind fixedExtra).2
      (m.startTransaction kind fixedExtra).1
    have htrace := startTransaction_trace m kind fixedExtra
    have hstarted := startTransaction_pending m kind fixedExtra
    have htable : Function.update (m.startTransaction kind fixedExtra).2.myTransactions
        (m.startTransaction kind fixedExtra).1 left =
          Function.update m.myTransactions (ticketAfter m.myNextTicketNumber) left :=
      Function.update_idem _ _ _
    rw [hframe]
    exact .refuse kind left htrace rfl htable hstarted
  | ask slot deadline packet =>
    have hstarted := startTransaction_pending m slot.kind slot.fixedExtra
    obtain ⟨hcounter, htable⟩ := hold_tables ((m.startTransaction slot.kind slot.fixedExtra).2.emit
      (.wrote m.mySocket.os.connection packet)) slot
        { ticket := (m.startTransaction slot.kind slot.fixedExtra).1, deadline := deadline }
    refine .ask slot m.mySocket.os.connection packet (by simp) hcounter htable
      fun other held hheld => ?_
    rw [← hstarted other]
    exact hold_pending _ slot other _ held hheld
  | finish slot ticket hslot =>
    obtain ⟨hcounter, htable⟩ := release_tables (m.setTransaction ticket none) slot
    refine .settle slot ticket none hslot (fun h => by cases h) (release_trace _ slot)
      hcounter htable ?_
    exact fun other held hheld => release_pending (m.setTransaction ticket none) slot
      other held hheld
  | expire slot ticket hslot =>
    obtain ⟨left, hframe, hleft⟩ := abandonTransaction_frame m ticket
    rw [hframe]
    obtain ⟨hcounter, htable⟩ := release_tables (m.setTransaction ticket left) slot
    refine .settle slot ticket left hslot hleft (release_trace _ slot) hcounter htable ?_
    exact fun other held hheld => release_pending (m.setTransaction ticket left) slot
      other held hheld
  | release slot =>
    obtain ⟨hcounter, htable⟩ := release_tables m slot
    exact .idle [] (by rw [release_trace, List.append_nil]) (by simp) (by simp) hcounter htable
      fun other held hheld => (release_pending m slot other held hheld).2
  | _ => exact .idle [] (List.append_nil _).symm (by simp) (by simp) rfl rfl fun _ _ => id

/-- So few tickets have been issued that none is used twice. -/
abbrev Few (m : DSNetManager) : Prop := (tickets m.trace).length < 2147483647

/-- No ticket has been answered twice. -/
abbrev Once (m : DSNetManager) : Prop := (Ledger.answers (ledger m.trace)).Nodup

/-- The tickets are numbered, the table holds open questions only, and of each pending query exactly
what its own ticket has come to. -/
structure Tracked (m : DSNetManager) : Prop where
  counter : m.myNextTicketNumber.toInt = (tickets m.trace).length
  sound : Ledger.Sound (ledger m.trace)
  numbered : ∀ ticket ∈ Ledger.questions (ledger m.trace), ticket.toInt ≤ m.myNextTicketNumber.toInt
  entries : ∀ ticket, (m.myTransactions ticket).isSome = true →
    (Ledger.fate ticket (ledger m.trace)).isSome = true
  started : ∀ slot ticket, m.pending slot = some ticket → .started ticket slot.kind ∈ m.trace
  apart : ∀ slot other ticket, m.pending slot = some ticket → m.pending other = some
    ticket → other = slot
  found : ∀ slot ticket, m.pending slot = some ticket → slot.kind ≠ .abandoned →
    m.myTransactions ticket = (Ledger.fate ticket (ledger m.trace)).map slot.entry

theorem tracked_construct (os : SocketOS) (clock : Stream' UInt32) (disk : Disk) :
    (construct os clock disk).Tracked := by
  have hfree : ∀ slot ticket, (construct os clock disk).pending slot ≠ some ticket := by
    intro slot ticket
    cases slot <;> simp [pending, construct]
  exact ⟨rfl, .nil, fun ticket h => (by cases h), fun ticket h => (by cases h),
    fun slot ticket h => absurd h (hfree slot ticket), fun slot _ ticket h => absurd h
    (hfree slot ticket), fun slot ticket h => absurd h (hfree slot ticket)⟩

section
variable {m n : DSNetManager}

theorem Tracked.asked (h : m.Tracked) {slot : Slot} {ticket : Int32}
    (hheld : m.pending slot = some ticket) :
    ticket ∈ Ledger.questions (ledger m.trace) :=
  Ledger.mem_questions.mpr (List.mem_filterMap.mpr ⟨_, h.started slot ticket hheld, rfl⟩)

/-- The next ticket is new: no question has it, no entry and no query. -/
theorem Tracked.new (h : m.Tracked) (hfew : m.Few) :
    (ticketAfter m.myNextTicketNumber).toInt = m.myNextTicketNumber.toInt + 1 ∧
      ticketAfter m.myNextTicketNumber ∉ Ledger.questions (ledger m.trace) ∧
      m.myTransactions (ticketAfter m.myNextTicketNumber) = none ∧
      ∀ slot, m.pending slot ≠ some (ticketAfter m.myNextTicketNumber) := by
  have hcounter := h.counter
  have hnext := ticketAfter_toInt m.myNextTicketNumber (by omega) (by unfold Few at hfew; omega)
  have hnew : ticketAfter m.myNextTicketNumber ∉ Ledger.questions (ledger m.trace) := by
    intro hasked
    have hold := h.numbered _ hasked
    omega
  refine ⟨hnext, hnew, ?_, fun slot hheld => hnew (h.asked hheld)⟩
  by_contra hentry
  exact hnew ((Ledger.fate_written _ _).1 (h.entries _ (Option.isSome_iff_ne_none.mpr hentry)))

/-- Nothing is asked or answered. -/
theorem Tracked.idle (h : m.Tracked)
    (hcounter : n.myNextTicketNumber.toInt = (tickets n.trace).length)
    (hgrown : m.myNextTicketNumber.toInt ≤ n.myNextTicketNumber.toInt) (events : List Event)
    (htrace : n.trace = m.trace ++ events) (hledger : ∀ e ∈ events, e.ledger = none)
    (htable : n.myTransactions = m.myTransactions)
    (hpending : ∀ slot ticket, n.pending slot = some ticket → m.pending slot = some ticket) :
    n.Tracked := by
  have hsame : ledger n.trace = ledger m.trace := by
    rw [htrace, ledger_silent m.trace events hledger]
  refine ⟨hcounter, by rw [hsame]; exact h.sound, ?_, ?_, ?_, ?_, ?_⟩
  · intro ticket hticket
    rw [hsame] at hticket
    exact (h.numbered ticket hticket).trans hgrown
  · rw [htable, hsame]
    exact h.entries
  · intro slot ticket hheld
    rw [htrace]
    exact List.mem_append_left _ (h.started slot ticket (hpending slot ticket hheld))
  · exact fun slot other ticket hheld hother => h.apart slot other ticket (hpending _ _ hheld)
      (hpending _ _ hother)
  · rw [htable, hsame]
    exact fun slot ticket hheld => h.found slot ticket (hpending slot ticket hheld)

/-- All questions are closed with the connection. -/
theorem Tracked.close (h : m.Tracked) (htrace : n.trace = m.trace ++ [.ended])
    (hcounter : n.myNextTicketNumber = m.myNextTicketNumber)
    (htable : ∀ ticket, n.myTransactions ticket = none)
    (hpending : ∀ slot, n.pending slot = m.pending slot) : n.Tracked := by
  have hledger : ledger n.trace = ledger m.trace ++ [.closed] := by
    rw [htrace, ledger_append]
    rfl
  have hquestions : Ledger.questions (ledger n.trace) = Ledger.questions (ledger m.trace) := by
    rw [hledger, Ledger.questions_append]
    exact List.append_nil _
  have hfate : ∀ ticket, Ledger.fate ticket (ledger n.trace) = none := by
    intro ticket
    rw [hledger, Ledger.fate_append]
    rfl
  refine ⟨?_, by rw [hledger]; exact .close _ h.sound, ?_, ?_, ?_, ?_, ?_⟩
  · rw [hcounter, htrace, tickets_silent m.trace _ (by simp [Event.ticket])]
    exact h.counter
  · rw [hquestions, hcounter]
    exact h.numbered
  · intro ticket hentry
    simp [htable] at hentry
  · intro slot ticket hheld
    rw [hpending] at hheld
    rw [htrace]
    exact List.mem_append_left _ (h.started slot ticket hheld)
  · intro slot other ticket hheld hother
    rw [hpending] at hheld hother
    exact h.apart slot other ticket hheld hother
  · intro slot ticket _ _
    rw [htable, hfate]
    rfl

/-- An answer is recorded under its own ticket. -/
theorem Tracked.answer (h : m.Tracked) (honce : n.Once) (ticket : Int32) (frame : Bytes)
    (transaction : Transaction) (hentry : m.myTransactions ticket = some transaction)
    (htrace : n.trace = m.trace ++ [.response ticket frame])
    (hcounter : n.myNextTicketNumber = m.myNextTicketNumber)
    (htable : n.myTransactions = Function.update m.myTransactions ticket
      (if transaction.kind = .abandoned then none else some (transaction.answer frame)))
    (hpending : ∀ slot, n.pending slot = m.pending slot) : n.Tracked := by
  have hledger : ledger n.trace = ledger m.trace ++ [.answered ticket frame] := by
    rw [htrace, ledger_append]
    rfl
  have hquestions : Ledger.questions (ledger n.trace) = Ledger.questions (ledger m.trace) := by
    rw [hledger, Ledger.questions_append]
    exact List.append_nil _
  have hopen := h.entries ticket (by rw [hentry]; rfl)
  have hself : Ledger.fate ticket (ledger n.trace) = some (some frame) := by
    obtain ⟨answer, hanswer⟩ := Option.isSome_iff_exists.mp hopen
    simp [hledger, Ledger.fate_append, Ledger.noteFate, hanswer]
  have hother : ∀ other, other ≠ ticket →
      Ledger.fate other (ledger n.trace) = Ledger.fate other (ledger m.trace) := by
    intro other hne
    rw [hledger, Ledger.fate_append]
    exact if_neg (Ne.symm hne)
  refine ⟨?_, by rw [hledger]; exact .answer _ ticket frame h.sound hopen, ?_, ?_, ?_, ?_, ?_⟩
  · rw [hcounter, htrace, tickets_silent m.trace _ (by simp [Event.ticket])]
    exact h.counter
  · rw [hquestions, hcounter]
    exact h.numbered
  · intro other hsome
    by_cases hne : other = ticket
    · rw [hne, hself]
      rfl
    · rw [htable, Function.update_of_ne hne] at hsome
      rw [hother other hne]
      exact h.entries other hsome
  · intro slot held hheld
    rw [hpending] at hheld
    rw [htrace]
    exact List.mem_append_left _ (h.started slot held hheld)
  · intro slot other held hheld hother
    rw [hpending] at hheld hother
    exact h.apart slot other held hheld hother
  · intro slot held hheld hkind
    rw [hpending] at hheld
    have hfound := h.found slot held hheld hkind
    by_cases hne : held = ticket
    · -- the only answer comes to a question that has none yet
      subst hne
      obtain ⟨answer, hanswer⟩ := Option.isSome_iff_exists.mp hopen
      have hunanswered : answer = none := by
        by_contra hsome
        obtain ⟨first, rfl⟩ := Option.ne_none_iff_exists'.mp hsome
        have hfirst := Ledger.mem_answers.mpr ⟨first, (Ledger.fate_written _ _).2 first hanswer⟩
        rw [Once, hledger, Ledger.answers_append] at honce
        exact (List.nodup_append.mp honce).2.2 held hfirst held List.mem_cons_self rfl
      rw [hentry, hanswer, hunanswered, Option.map_some, Option.some.injEq] at hfound
      have hkept : ¬ transaction.kind = .abandoned := by
        rw [hfound, Slot.entry_kind]
        exact hkind
      rw [htable, Function.update_self, if_neg hkept, hself, hfound]
      rfl
    · rw [htable, Function.update_of_ne hne, hother held hne, hfound]

/-- A query takes its answer or is given up. -/
theorem Tracked.settle (h : m.Tracked) (slot : Slot) (ticket : Int32) (left : Option Transaction)
    (hslot : m.pending slot = some ticket)
    (hleft : left.isSome = true → (m.myTransactions ticket).isSome = true)
    (htrace : n.trace = m.trace) (hcounter : n.myNextTicketNumber = m.myNextTicketNumber)
    (htable : n.myTransactions = Function.update m.myTransactions ticket left)
    (hpending : ∀ other held, n.pending other = some held → other ≠ slot ∧
      m.pending other = some held) :
    n.Tracked := by
  refine ⟨by rw [hcounter, htrace]; exact h.counter, by rw [htrace]; exact h.sound,
    by rw [hcounter, htrace]; exact h.numbered, ?_, ?_, ?_, ?_⟩
  · intro other hsome
    rw [htrace]
    by_cases hne : other = ticket
    · rw [htable, hne, Function.update_self] at hsome
      rw [hne]
      exact h.entries ticket (hleft hsome)
    · rw [htable, Function.update_of_ne hne] at hsome
      exact h.entries other hsome
  · intro other held hheld
    rw [htrace]
    exact h.started other held (hpending other held hheld).2
  · intro other another held hheld hanother
    exact h.apart other another held (hpending other held hheld).2
      (hpending another held hanother).2
  · intro other held hheld hkind
    obtain ⟨hother, hheld⟩ := hpending other held hheld
    have hne : held ≠ ticket := by
      rintro rfl
      exact hother (h.apart slot other held hslot hheld)
    rw [htable, Function.update_of_ne hne, htrace]
    exact h.found other held hheld hkind

/-- A question is asked under a new ticket, which at most one query then holds. -/
theorem Tracked.start (h : m.Tracked) (hfew : m.Few) (kind : TransactionKind)
    (left : Option Transaction) (events : List Event) (hledger : ∀ e ∈ events, e.ledger = none)
    (htickets : ∀ e ∈ events, e.ticket = none)
    (htrace : n.trace = m.trace ++ (.issued (ticketAfter m.myNextTicketNumber) ::
      .started (ticketAfter m.myNextTicketNumber) kind :: events))
    (hcounter : n.myNextTicketNumber = ticketAfter m.myNextTicketNumber)
    (htable : n.myTransactions = Function.update m.myTransactions
      (ticketAfter m.myNextTicketNumber) left)
    (hpending : ∀ slot held, n.pending slot = some held → m.pending slot = some held ∨
      held = ticketAfter m.myNextTicketNumber ∧ slot.kind = kind ∧ left = some slot.asked ∧
        ∀ other, n.pending other = some held → other = slot) : n.Tracked := by
  obtain ⟨hnext, hnew, _, hfree⟩ := h.new hfew
  have hwritten : ledger n.trace = ledger m.trace ++
      [.asked (ticketAfter m.myNextTicketNumber)] := by
    have hsplit : n.trace = (m.trace ++ [.issued (ticketAfter m.myNextTicketNumber),
        .started (ticketAfter m.myNextTicketNumber) kind]) ++ events := by simp [htrace]
    rw [hsplit, ledger_silent _ events hledger, ledger_append]
    rfl
  have hissued : tickets n.trace = tickets m.trace ++ [ticketAfter m.myNextTicketNumber] := by
    have hsplit : n.trace = (m.trace ++ [.issued (ticketAfter m.myNextTicketNumber),
        .started (ticketAfter m.myNextTicketNumber) kind]) ++ events := by simp [htrace]
    rw [hsplit, tickets_silent _ events htickets, tickets_append]
    rfl
  have hself : Ledger.fate (ticketAfter m.myNextTicketNumber) (ledger n.trace) = some none := by
    rw [hwritten, Ledger.fate_append]
    exact if_pos rfl
  have hother : ∀ other, other ≠ ticketAfter m.myNextTicketNumber →
      Ledger.fate other (ledger n.trace) = Ledger.fate other (ledger m.trace) := by
    intro other hne
    rw [hwritten, Ledger.fate_append]
    exact if_neg (Ne.symm hne)
  refine ⟨?_, by rw [hwritten]; exact .ask _ _ h.sound hnew, ?_, ?_, ?_, ?_, ?_⟩
  · rw [hcounter, hnext, h.counter, hissued, List.length_append]
    simp
  · intro ticket hticket
    rw [hwritten, Ledger.questions_append, List.mem_append] at hticket
    rw [hcounter, hnext]
    rcases hticket with hold | hnewest
    · have := h.numbered ticket hold
      omega
    · obtain rfl := List.mem_singleton.mp hnewest
      exact hnext.le
  · intro ticket hsome
    by_cases hne : ticket = ticketAfter m.myNextTicketNumber
    · rw [hne, hself]
      rfl
    · rw [htable, Function.update_of_ne hne] at hsome
      rw [hother ticket hne]
      exact h.entries ticket hsome
  · intro slot held hheld
    rw [htrace]
    rcases hpending slot held hheld with hold | ⟨rfl, rfl, _⟩
    · exact List.mem_append_left _ (h.started slot held hold)
    · exact List.mem_append_right _ (List.mem_cons_of_mem _ List.mem_cons_self)
  · intro slot other held hheld hanother
    rcases hpending slot held hheld with hold | ⟨_, _, _, honly⟩
    · rcases hpending other held hanother with hold' | ⟨rfl, _⟩
      · exact h.apart slot other held hold hold'
      · exact absurd hold (hfree slot)
    · exact honly other hanother
  · intro slot held hheld hkind
    rcases hpending slot held hheld with hold | ⟨rfl, _, hasked, _⟩
    · have hne : held ≠ ticketAfter m.myNextTicketNumber := by
        rintro rfl
        exact hfree slot hold
      rw [htable, Function.update_of_ne hne, hother held hne]
      exact h.found slot held hold hkind
    · rw [htable, Function.update_self, hself, hasked]
      rfl

end

theorem TicketStep.tracked {m n : DSNetManager} (h : TicketStep m n) (hm : m.Tracked) (hfew : m.Few)
    (honce : n.Once) :
    n.Tracked := by
  cases h with
  | idle events htrace hledger htickets hcounter htable hpending =>
    refine hm.idle ?_ (by rw [hcounter]) events htrace hledger htable hpending
    rw [hcounter, htrace, tickets_silent m.trace events htickets]
    exact hm.counter
  | issue htrace hcounter htable hpending =>
    have hnext := (hm.new hfew).1
    refine hm.idle ?_ (by rw [hcounter]; omega) _ htrace (by simp [Event.ledger]) htable
      fun slot ticket hheld => by rwa [← hpending slot]
    rw [hcounter, hnext, hm.counter, htrace, tickets_append, List.length_append]
    rfl
  | close htrace hcounter htable hpending => exact hm.close htrace hcounter htable hpending
  | answer ticket frame transaction hentry htrace hcounter htable hpending =>
    exact hm.answer honce ticket frame transaction hentry htrace hcounter htable hpending
  | settle slot ticket left hslot hleft htrace hcounter htable hpending =>
    exact hm.settle slot ticket left hslot hleft htrace hcounter htable hpending
  | refuse kind left htrace hcounter htable hpending =>
    exact hm.start hfew kind left [] (by simp) (by simp) htrace hcounter htable
      fun slot held hheld => Or.inl (by rwa [← hpending slot])
  | ask slot connection packet htrace hcounter htable hpending =>
    refine hm.start hfew slot.kind (some slot.asked) [_] (by simp [Event.ledger])
      (by simp [Event.ticket])
      htrace hcounter htable fun other held hheld => ?_
    rcases hpending other held hheld with ⟨rfl, rfl⟩ | ⟨_, hold⟩
    · refine Or.inr ⟨rfl, rfl, rfl, fun another hanother => ?_⟩
      rcases hpending another _ hanother with ⟨hsame, _⟩ | ⟨_, hold⟩
      · exact hsame
      · exact absurd hold ((hm.new hfew).2.2.2 another)
    · exact Or.inl hold

/-- What holds of a run so far held of it before. -/
theorem Steps.few_once {m n : DSNetManager} (h : Steps m n) (hfew : n.Few) (honce : n.Once) :
    m.Few ∧ m.Once := by
  have htrace := h.since
  constructor
  · rw [Few, htrace, tickets_append, List.length_append] at hfew
    unfold Few
    omega
  · rw [Once, htrace, ledger_append, Ledger.answers_append] at honce
    exact List.Nodup.of_append_left honce

end DSNetManager

open DSNetManager

theorem Reached.tracked {os : SocketOS} {clock : Stream' UInt32} {disk : Disk} {m : DSNetManager}
    (h : Reached os clock disk m) (hfew : m.Few) (honce : m.Once) : m.Tracked := by
  have hkept : m.Few → m.Once → m.Tracked := by
    refine h.keeps (fun m => m.Few → m.Once → m.Tracked) (fun _ _ => tracked_construct os
      clock disk) ?_
    intro m n hstep ih hfew honce
    obtain ⟨hfew', honce'⟩ := Steps.few_once (.single hstep) hfew honce
    exact hstep.ticketStep.tracked (ih hfew' honce') hfew' honce
  exact hkept hfew honce

end NetNatsue
