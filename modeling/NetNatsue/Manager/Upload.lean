import NetNatsue.Compat.HistoryTransferOut
import NetNatsue.Manager.Tickets

/-! The upload of a creature's history. It is reported as done only if the server has answered the
very request that carried it. -/
namespace NetNatsue
open HistoryTransferOut History

/-- What an upload puts on the line. -/
structure Conveys (m : DSNetManager) (ticket : Int32) (history : History) (packet : Bytes) :
    Prop where
  type : (PacketHeader.read packet).type = packetDSFeedHistory
  server : ⟨(PacketHeader.read packet).fieldA, (PacketHeader.read packet).fieldB⟩ = m.myServerUIN
  user : ⟨(PacketHeader.read packet).fieldC, (PacketHeader.read packet).fieldD⟩ = m.myUserUIN
  ticket : (PacketHeader.read packet).ticket = ticket
  size : (PacketHeader.read packet).furtherData.toInt = (packet.drop packetHeaderSize).length
  body : readHistory.run (packet.drop packetHeaderSize) = some (history, [])

theorem conveys_buildFeedHistory (m : DSNetManager) (ticket : Int32) (history : History)
    (hshort : history.Short) (hfit : history.blob.length < 2147483648) :
    Conveys m ticket history
      (buildFeedHistory m.myServerUIN m.myUserUIN ticket history.blob (sizeInt history.blob)) := by
  have hsize := sizeInt_toInt history.blob hfit
  have htake : history.blob.take (sizeInt history.blob).toInt.toNat = history.blob := by
    rw [hsize, Int.toNat_natCast, List.take_length]
  have hread := reads_history history hshort (counted_of_blob history hfit) []
  rw [List.append_nil] at hread
  unfold buildFeedHistory
  rw [htake]
  constructor
  · rw [PacketHeader.read_write]
  · rw [PacketHeader.read_write]
  · rw [PacketHeader.read_write]
  · rw [PacketHeader.read_write]
  · rw [PacketHeader.read_write, List.drop_left' (PacketHeader.write_length _)]
    exact hsize
  · rw [List.drop_left' (PacketHeader.write_length _)]
    exact hread

namespace DSNetManager

/-- Every entry of the table is as it was, or has been answered since. -/
def AnsweredSince (m n : DSNetManager) : Prop :=
  ∃ events, n.trace = m.trace ++ events ∧ ∀ ticket transaction, n.myTransactions ticket =
    some transaction →
    m.myTransactions ticket = some transaction ∨ ∃ frame, .response ticket frame ∈ events

section
variable {m n k : DSNetManager}

theorem answeredSince_of_eq (events : List Event) (htrace : n.trace = m.trace ++ events)
    (htable : n.myTransactions = m.myTransactions) : AnsweredSince m n :=
  ⟨events, htrace, fun _ _ h => Or.inl (htable ▸ h)⟩

theorem AnsweredSince.trans (h : AnsweredSince m n) (h' : AnsweredSince n k) :
    AnsweredSince m k := by
  obtain ⟨events, htrace, hevents⟩ := h
  obtain ⟨more, hmore, hmore'⟩ := h'
  refine ⟨events ++ more,
    by rw [hmore, htrace, List.append_assoc], fun ticket transaction hentry => ?_⟩
  rcases hmore' ticket transaction hentry with hentry | ⟨frame, hframe⟩
  · rcases hevents ticket transaction hentry with hentry | ⟨frame, hframe⟩
    · exact Or.inl hentry
    · exact Or.inr ⟨frame, List.mem_append_left _ hframe⟩
  · exact Or.inr ⟨frame, List.mem_append_right _ hframe⟩

theorem Heard.answeredSince (h : Heard m n) : AnsweredSince m n := by
  cases h with
  | quiet n hquiet =>
    exact answeredSince_of_eq [] (by rw [hquiet.trace, List.append_nil]) hquiet.transactions
  | note e => exact answeredSince_of_eq [e] rfl rfl
  | hangUp => exact ⟨[.ended], rfl, fun _ _ hentry => by cases hentry⟩
  | presence header frame uin online nickName =>
    obtain ⟨changed, adds, hframe⟩ := updatePresence_frame
      (m.emit (.packet m.myConnectPhase header frame)) uin online nickName
    rw [hframe]
    exact answeredSince_of_eq [.packet m.myConnectPhase header frame] rfl rfl
  | register user => exact answeredSince_of_eq [.registered user] rfl rfl
  | issue => exact answeredSince_of_eq [.issued (ticketAfter m.myNextTicketNumber)] rfl rfl
  | respond ticket frame transaction _ hentry =>
    refine ⟨[.response ticket frame], rfl, fun other found hfound => ?_⟩
    by_cases hother : other = ticket
    · subst hother
      exact Or.inr ⟨frame, List.mem_singleton_self _⟩
    · simp only [DSNetManager.respond, Function.update_of_ne hother] at hfound
      exact Or.inl hfound
  | _ => exact answeredSince_of_eq [] (List.append_nil _).symm rfl

theorem Hears.answeredSince (h : Hears m n) : AnsweredSince m n := by
  induction h with
  | refl => exact answeredSince_of_eq [] (List.append_nil _).symm rfl
  | tail _ hheard ih => exact ih.trans hheard.answeredSince

/-- A wait that ends with an answer has seen it arrive. -/
theorem waitLoop_answered (ticket : Int32) (deadline : UInt32) (fuel : ℕ) (m : DSNetManager)
    (hpending : ∀ transaction, m.myTransactions ticket = some transaction →
      transaction.done = false)
    (result : Transaction) (h : (waitLoop ticket deadline fuel m).1 = some (true, result)) :
    ∃ before frame after,
      (waitLoop ticket deadline fuel m).2.trace = m.trace ++ before ++ .response ticket
      frame :: after := by
  induction fuel generalizing m with
  | zero => cases h
  | succ fuel ih =>
    obtain ⟨events, htrace, hevents⟩ := (hears_pump m).answeredSince
    simp only [waitLoop] at h ⊢
    cases hentry : m.pump.myTransactions ticket with
    | none =>
      rw [pollTransaction_dropped m.pump ticket hentry] at h
      cases h
    | some transaction =>
      cases hdone : transaction.done with
      | true =>
        have hfresh : m.myTransactions ticket ≠ some transaction := fun hold => by
          rw [hpending transaction hold] at hdone
          cases hdone
        obtain ⟨frame, hframe⟩ := (hevents ticket transaction hentry).resolve_left hfresh
        obtain ⟨before, after, rfl⟩ := List.append_of_mem hframe
        rw [pollTransaction_done m.pump ticket transaction hentry hdone]
        exact ⟨before, frame, after, htrace.trans (List.append_assoc _ _ _).symm⟩
      | false =>
        rw [pollTransaction_pending m.pump ticket transaction hentry hdone] at h ⊢
        simp only at h ⊢
        split_ifs at h ⊢ with honline hlate
        · cases h
        · have hstill : ∀ found, m.pump.nowMs.2.myTransactions ticket = some found →
              found.done = false := by
            intro found hfound
            rw [nowMs, hentry, Option.some.injEq] at hfound
            rwa [← hfound]
          obtain ⟨before, frame, after, hloop⟩ := ih _ hstill h
          refine ⟨events ++ before, frame, after, ?_⟩
          rw [hloop, nowMs, htrace]
          simp only [List.append_assoc]
        · cases h

end

/-- An upload that is reported as done has been written and answered. -/
theorem dsFeedHistory_answered (m : DSNetManager) (fuel : ℕ) (blob : Bytes) (size : Int32)
    (h : (m.dsFeedHistory fuel (some blob) size).1 = some true) :
    ∃ before answer after, (m.dsFeedHistory fuel (some blob) size).2.trace =
      m.trace ++ [.issued (ticketAfter m.myNextTicketNumber),
        .started (ticketAfter m.myNextTicketNumber) .feedHistory,
        .wrote m.mySocket.os.connection (buildFeedHistory m.myServerUIN m.myUserUIN
          (ticketAfter m.myNextTicketNumber) blob size)] ++
        before ++ .response (ticketAfter m.myNextTicketNumber) answer :: after := by
  have hstart := startTransaction_trace m .feedHistory noExtra
  have hentry : (m.startTransaction .feedHistory noExtra).2.myTransactions
    (ticketAfter m.myNextTicketNumber) =
      some { kind := .feedHistory } := Function.update_self _ _ _
  have hconnection : (m.startTransaction .feedHistory noExtra).2.mySocket = m.mySocket := rfl
  have hticket : (m.startTransaction .feedHistory noExtra).1 = ticketAfter m.myNextTicketNumber :=
    rfl
  simp only [dsFeedHistory] at h ⊢
  rw [hticket] at h ⊢
  generalize ticketAfter m.myNextTicketNumber = ticket at *
  generalize buildFeedHistory m.myServerUIN m.myUserUIN ticket blob size = packet at *
  generalize (m.startTransaction .feedHistory noExtra).2 = n at *
  by_cases hrefused : ¬ m.Online ∨ size ≤ 0
  · rw [if_pos hrefused] at h
    cases h
  · rw [if_neg hrefused] at h ⊢
    cases hok : (n.socketWrite packet).1 with
    | false =>
      rw [hok] at h
      cases h
    | true =>
      have hline := (m.mySocket.drifts_write packet (sizeInt packet)).connection
      rw [hok] at h
      rw [if_neg (not_not_intro rfl)] at h ⊢
      obtain ⟨⟨done, result⟩, hwaited, hsuccess⟩ := Option.map_eq_some_iff.mp h
      have hanswered : done = true := (Bool.and_eq_true_iff.mp hsuccess).1
      subst hanswered
      have hpending : ∀ transaction, (n.socketWrite packet).2.myTransactions ticket =
        some transaction →
          transaction.done = false := by
        intro transaction hfound
        rw [socketWrite_ok n packet hok] at hfound
        have hsame : some transaction = some { kind := .feedHistory } := hfound.symm.trans hentry
        rw [Option.some.inj hsame]
      obtain ⟨before, answer, after, hloop⟩ := waitLoop_answered ticket _ fuel
        (((n.socketWrite packet).2.setWaiting (some (.feedHistory, ticket))).nowMs.2) hpending
          result hwaited
      refine ⟨before, answer, after, hloop.trans ?_⟩
      have hwritten : (n.socketWrite packet).2.trace = n.trace ++
          [.wrote m.mySocket.os.connection packet] := by
        rw [socketWrite_ok n packet hok, hconnection, hline]
        rfl
      change (n.socketWrite packet).2.trace ++ before ++ _ = _
      rw [hwritten, hstart]
      simp only [List.append_assoc, List.cons_append, List.nil_append]

end DSNetManager

open DSNetManager

/-- **A history reported as uploaded has arrived.** If `DSFeedHistory` says that the upload of a
blob was done, the request it wrote carries exactly the history that was put into the blob, and
behind it the server has answered that request. -/
theorem history_uploaded (m : DSNetManager) (fuel : ℕ) (writes : List Write)
    (hmoniker : (told writes).moniker ≠ []) (hshort : (told writes).Short)
    (hfit : (told writes).blob.length < 2147483648)
    (hdone : (m.dsFeedHistory fuel (written writes).getAddress.1
      (written writes).getAddress.2.getLength.1).1 = some true) :
    ∃ ticket packet before answer after, Conveys m ticket (told writes) packet ∧
      (m.dsFeedHistory fuel (written writes).getAddress.1
        (written writes).getAddress.2.getLength.1).2.trace =
        m.trace ++ [.issued ticket, .started ticket .feedHistory,
          .wrote m.mySocket.os.connection packet] ++
          before ++ .response ticket answer :: after := by
  rw [getLength_getAddress, getAddress_written writes hmoniker,
    getLength_written writes hmoniker] at hdone ⊢
  obtain ⟨before, answer, after, htrace⟩ := dsFeedHistory_answered m fuel _ _ hdone
  exact ⟨_, _, before, answer, after, conveys_buildFeedHistory m _ _ hshort hfit, htrace⟩

/-- A client whose server answers its next request. -/
def confirmed : DSNetManager :=
  { freshOnline with
    mySocket := { freshOnline.mySocket with
      os :=
        .scripted [[.data (PacketHeader.write { type := packetDSFeedHistory, ticket := 1 })]]
          [.took 65536] } }

theorem history_uploaded_confirmed :
    ∃ ticket packet before answer after, Conveys confirmed ticket
      (told [.moniker [1, 2], .name [3]]) packet ∧
      (confirmed.dsFeedHistory 1 (written [.moniker [1, 2], .name [3]]).getAddress.1
        (written [.moniker [1, 2], .name [3]]).getAddress.2.getLength.1).2.trace =
        confirmed.trace ++ [.issued ticket, .started ticket .feedHistory,
          .wrote confirmed.mySocket.os.connection packet] ++ before ++ .response ticket
            answer :: after :=
  history_uploaded confirmed 1 [.moniker [1, 2], .name [3]] (by decide)
    ⟨by decide, by decide, by decide, by decide⟩ (by decide +kernel) (by decide +kernel)

end NetNatsue
