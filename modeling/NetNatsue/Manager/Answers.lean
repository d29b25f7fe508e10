import NetNatsue.Manager.Records
import NetNatsue.Manager.Tickets

/-! What the calls make of the answers to their queries. -/
namespace NetNatsue

/-- What a poll finds, from what has become of its ticket. -/
def Slot.found (slot : Slot) : Option (Option Bytes) → Option Transaction
  | none => some .fresh
  | some none => none
  | some (some frame) => some (slot.asked.answer frame)

/-- What a poll can find: nothing yet, nothing any more because the connection has ended since the
question was asked, or what the answer under this very ticket says. -/
inductive Slot.Finds (slot : Slot) (ticket : Int32) (events : List Event) :
    Option Transaction → Prop
  | nothing : Finds slot ticket events none
  | dropped (before after : List Event) (h : events = before ++ .started ticket slot.kind :: after)
    (hended : .ended ∈ after) : Finds slot ticket events (some .fresh)
  | answer (frame : Bytes) (h : .response ticket frame ∈ events) :
    Finds slot ticket events (some (slot.asked.answer frame))

namespace DSNetManager

theorem pollTransaction_none (m : DSNetManager) (ticket : Int32)
    (h : (m.pollTransaction ticket).1 = none) :
    m.pollTransaction ticket = (none, m) := by
  unfold pollTransaction at h ⊢
  cases hentry : m.myTransactions ticket with
  | none => simp [hentry] at h
  | some transaction =>
    simp only [hentry] at h ⊢
    split_ifs at h ⊢
    rfl

/-- A poll goes by the table only. -/
theorem pollTransaction_found (m : DSNetManager) (ticket : Int32) :
    (m.pollTransaction ticket).1 = match m.myTransactions ticket with
      | none => some .fresh
      | some transaction => if transaction.done then some transaction else none := by
  unfold pollTransaction
  cases m.myTransactions ticket with
  | none => rfl
  | some transaction =>
    simp only
    cases transaction.done <;> rfl

section
variable (m : DSNetManager) (query : Query) (ticket : Int32) (hvalid : query.Valid)
  (honline : query = .getStatus → m.Online) (hheld : m.pending query.slot = some ticket)
include hvalid honline hheld

end

section
variable {m : DSNetManager} {slot : Slot} {ticket : Int32} (h : m.Tracked)
  (hheld : m.pending slot = some ticket) (hkind : slot.kind ≠ .abandoned)
include h hheld hkind

theorem Tracked.poll :
    (m.pollTransaction ticket).1 = slot.found (Ledger.fate ticket (ledger m.trace)) := by
  have hfound := h.found slot ticket hheld hkind
  cases hfate : Ledger.fate ticket (ledger m.trace) with
  | none =>
    rw [hfate] at hfound
    rw [pollTransaction_dropped m ticket hfound]
    rfl
  | some answer =>
    rw [hfate] at hfound
    cases answer with
    | none =>
      rw [pollTransaction_pending m ticket slot.asked hfound rfl]
      rfl
    | some frame =>
      rw [pollTransaction_done m ticket (slot.asked.answer frame) hfound
        (Transaction.answer_done _ _)]
      rfl

/-- A poll finds nothing but what its own ticket has come to. -/
theorem Tracked.finds : slot.Finds ticket m.trace (m.pollTransaction ticket).1 := by
  rw [h.poll hheld hkind]
  cases hfate : Ledger.fate ticket (ledger m.trace) with
  | none =>
    obtain ⟨before, after, hsplit⟩ := List.append_of_mem (h.started slot ticket hheld)
    refine .dropped before after hsplit ?_
    by_contra hnever
    have hopen :=
      Ledger.fate_open ticket (ledger before) (ledger after) fun h => hnever (ended_of_closed h)
    have hledger : ledger m.trace = ledger before ++ .asked ticket :: ledger after := by
      rw [hsplit, ledger_append]
      rfl
    rw [← hledger, hfate] at hopen
    cases hopen
  | some answer =>
    cases answer with
    | none => exact .nothing
    | some frame =>
      exact .answer frame (response_of_answered ((Ledger.fate_written _ _).2 frame hfate))

/-- The answer that has come on this connection is what a poll finds. -/
theorem Tracked.finds_answer (honce : m.Once) {before after : List Event} {frame : Bytes}
    (hsplit : m.trace = before ++ .response ticket frame :: after) (hended : .ended ∉ after) :
    (m.pollTransaction ticket).1 = some (slot.asked.answer frame) := by
  have hledger : ledger m.trace = ledger before ++ .answered ticket frame :: ledger after := by
    rw [hsplit, ledger_append]
    rfl
  rw [h.poll hheld hkind, h.sound.fate_answered honce hledger fun h => hended (ended_of_closed h)]
  rfl

end

end DSNetManager

open DSNetManager

/-- What holds of a query that has a ticket: the ticket is its own, and what its next poll tells is
what the ticket has come to; the answer, if it has come and the connection has not ended since. -/
structure Slot.Answered (slot : Slot) (m : DSNetManager) (ticket : Int32)
    (tells : Option Transaction → Prop) : Prop where
  started : .started ticket slot.kind ∈ m.trace
  own : ∀ other, m.pending other = some ticket → other = slot
  told : ∃ found, slot.Finds ticket m.pump.trace found ∧ tells found
  answered : ∀ before frame after, m.pump.trace = before ++ .response ticket frame :: after →
    .ended ∉ after → tells (some (slot.asked.answer frame))

theorem Reached.answered {os : SocketOS} {clock : Stream' UInt32} {disk : Disk} {m : DSNetManager}
    (h : Reached os clock disk m) (hfew : m.pump.Few) (honce : m.pump.Once) {slot : Slot}
    {ticket : Int32} (hheld : m.pending slot = some ticket) (hkind : slot.kind ≠ .abandoned)
    (tells : Option Transaction → Prop) (htells : tells (m.pump.pollTransaction ticket).1) :
    slot.Answered m ticket tells := by
  have hpump : Steps m m.pump := (hears_pump m).steps
  obtain ⟨hfew', honce'⟩ := hpump.few_once hfew honce
  have htracked := h.tracked hfew' honce'
  have htracked' := Reached.tracked (Relation.ReflTransGen.trans h hpump) hfew honce
  have hheld' : m.pump.pending slot = some ticket := (pump_pending m slot).trans hheld
  refine ⟨htracked.started slot ticket hheld, fun other hother => htracked.apart slot other
    ticket hheld hother,
    ⟨_, htracked'.finds hheld' hkind, htells⟩, fun before frame after hsplit hended => ?_⟩
  rwa [htracked'.finds_answer hheld' hkind honce hsplit hended] at htells

/-- The commands that ask the server and wait for the answer. -/
inductive WaitingQuery
  | isUserOnline (user : Bytes)
  | dsFeedHistory (data : Bytes) (size : Int32)

namespace WaitingQuery

def kind : WaitingQuery → TransactionKind
  | isUserOnline _ => .connectionDetail
  | dsFeedHistory _ _ => .feedHistory

def request (m : DSNetManager) : WaitingQuery → Bytes
  | isUserOnline user => buildGetConnectionDetail m.myServerUIN (BabelUIN.fromString user).2
      (ticketAfter m.myNextTicketNumber)
  | dsFeedHistory data size => buildFeedHistory m.myServerUIN m.myUserUIN
      (ticketAfter m.myNextTicketNumber) data size

/-- What the command returns, if it returns within the fuel, and the state. -/
def call (m : DSNetManager) (fuel : ℕ) : WaitingQuery → Option Bool × DSNetManager
  | isUserOnline user => m.isUserOnline fuel user
  | dsFeedHistory data size => m.dsFeedHistory fuel (some data) size

/-- Whether the request was written, and the state behind it. -/
def asked (m : DSNetManager) (query : WaitingQuery) : Bool × DSNetManager :=
  m.requested (.wait query.kind) m.clock (query.request m)

/-- The state in which the command begins to wait. -/
def waited (m : DSNetManager) (query : WaitingQuery) : DSNetManager :=
  ((query.asked m).2.setWaiting (some (query.kind, ticketAfter m.myNextTicketNumber))).nowMs.2

section
variable (query : WaitingQuery) (m : DSNetManager) (hok : (query.asked m).1 = true)
include hok

end

end WaitingQuery

/-- What a command that waited returns, from what has become of its ticket: yes if an answer under
this very ticket says so, no otherwise; and if the answer has come and the connection has not ended
since, what it says. -/
structure Slot.Concluded (slot : Slot) (ticket : Int32) (events : List Event)
    (answer : Option Bool) : Prop where
  told : ∀ value, answer = some value →
    ∃ found, slot.Finds ticket events found ∧ value = found.any fun result => result.done &&
      result.success
  answered : ∀ before frame after, events = before ++ .response ticket frame :: after →
    .ended ∉ after →
    answer = some (slot.asked.answer frame).success

section
variable {os : SocketOS} {clock : Stream' UInt32} {disk : Disk} {kind : TransactionKind}
  {ticket : Int32} (hkind : kind ≠ .abandoned)
include hkind

/-- As long as a poll finds no answer, none is on record. -/
theorem Reached.unanswered {m : DSNetManager} (h : Reached os clock disk m)
    (hheld : m.waiting = some (kind, ticket)) (hopen : (m.pollTransaction ticket).1 = none)
    (hfew : m.Few) (honce : m.Once) {before after : List Event} {frame : Bytes}
    (hsplit : m.trace = before ++ .response ticket frame :: after) : .ended ∈ after := by
  have hslot : m.pending (.wait kind) = some ticket := by simp [pending, hheld]
  by_contra hnever
  have hfound := (h.tracked hfew honce).finds_answer hslot hkind honce hsplit hnever
  rw [hopen] at hfound
  cases hfound

/-- A wait concludes from what its own ticket has come to. -/
theorem Reached.waits {m : DSNetManager} (h : Reached os clock disk m)
    (hheld : m.waiting = some (kind, ticket)) (hopen : (m.pollTransaction ticket).1 = none)
    (deadline : UInt32) (fuel : ℕ) (hfew : (waitLoop ticket deadline fuel m).2.Few)
    (honce : (waitLoop ticket deadline fuel m).2.Once) :
    (Slot.wait kind).Concluded ticket (waitLoop ticket deadline fuel m).2.trace
      ((waitLoop ticket deadline fuel m).1.map fun answer => answer.1 && answer.2.success) := by
  induction fuel generalizing m with
  | zero =>
    refine ⟨fun value hvalue => ?_, fun before frame after hsplit hended => ?_⟩
    · cases hvalue
    · exact absurd (h.unanswered hkind hheld hopen hfew honce hsplit) hended
  | succ fuel ih =>
    have hreached : Reached os clock disk m.pump :=
      Relation.ReflTransGen.trans h (hears_pump m).steps
    have hheld' : m.pump.waiting = some (kind, ticket) :=
      (hears_pump m).pending_eq.2.2.2.trans hheld
    have hslot : m.pump.pending (.wait kind) = some ticket := by simp [pending, hheld']
    cases hfound : (m.pump.pollTransaction ticket).1 with
    | some result =>
      have htrace : ((m.pump.pollTransaction ticket).2.setWaiting none).trace = m.pump.trace :=
        pollTransaction_kept (·.trace) (fun _ _ _ => rfl) m.pump ticket
      simp only [waitLoop, hfound] at hfew honce ⊢
      rw [Few, htrace] at hfew
      rw [Once, htrace] at honce
      rw [htrace]
      have htracked := hreached.tracked hfew honce
      refine ⟨fun value hvalue => ⟨some result, ?_, ?_⟩, fun before frame after hsplit hended => ?_⟩
      · rw [← hfound]
        exact htracked.finds hslot hkind
      · exact (Option.some.inj hvalue).symm
      · have hanswer := htracked.finds_answer hslot hkind honce hsplit hended
        rw [hfound, Option.some.injEq] at hanswer
        simp [hanswer]
    | none =>
      -- what a round that goes no further returns
      have hno : m.pump.Few → m.pump.Once →
          (Slot.wait kind).Concluded ticket m.pump.trace (some false) := by
        intro hfew honce
        refine ⟨fun value hvalue => ⟨none, .nothing, (Option.some.inj hvalue).symm⟩, ?_⟩
        intro before frame after hsplit hended
        exact absurd (hreached.unanswered hkind hheld' hfound hfew honce hsplit) hended
      simp only [waitLoop, pollTransaction_none m.pump ticket hfound] at hfew honce ⊢
      split_ifs at hfew honce ⊢
      · have htrace : ((m.pump.nowMs.2.abandonTransaction ticket).setWaiting none).trace =
            m.pump.trace :=
          abandonTransaction_trace m.pump.nowMs.2 ticket
        rw [Few, htrace] at hfew
        rw [Once, htrace] at honce
        rw [htrace]
        exact hno hfew honce
      · have hstill : (m.pump.nowMs.2.pollTransaction ticket).1 = none :=
          (pollTransaction_found m.pump.nowMs.2 ticket).trans
            ((pollTransaction_found m.pump ticket).symm.trans hfound)
        exact ih (Relation.ReflTransGen.trans hreached (hears_nowMs _).steps) hheld'
          hstill hfew honce
      · exact hno hfew honce

end

/-- What holds of a command that has asked and waited: what it was asked under is a ticket of its
own, what it returns is what the ticket has come to, and once it has returned nobody has the ticket
again. -/
structure WaitingQuery.Concluded (query : WaitingQuery) (m : DSNetManager) (fuel : ℕ) : Prop where
  asked : ∃ events, (query.call m fuel).2.trace =
    m.trace ++ [.issued (ticketAfter m.myNextTicketNumber),
      .started (ticketAfter m.myNextTicketNumber) query.kind,
      .wrote m.mySocket.os.connection (query.request m)] ++ events
  own : (Slot.wait query.kind).Concluded (ticketAfter m.myNextTicketNumber)
    (query.call m fuel).2.trace
    (query.call m fuel).1
  once : (query.call m fuel).1.isSome = true → ∀ n, Steps (query.call m fuel).2 n → n.Few → n.Once →
    ∀ slot, n.pending slot ≠ some (ticketAfter m.myNextTicketNumber)

end NetNatsue
