import NetNatsue.Manager.HangUp

/-! A refused login, and what the bytes behind the refusal can still do. -/
namespace NetNatsue

/-- A file that was put into an inbox. -/
def Event.storedFile : Event → Option (Bytes × BabelUIN × Bytes)
  | .spooled inbox sender payload => if inbox = [] then none else some (inbox, sender, payload)
  | _ => none

def storedFiles (events : List Event) : List (Bytes × BabelUIN × Bytes) :=
  events.filterMap Event.storedFile

theorem storedFiles_append (a b : List Event) :
    storedFiles (a ++ b) = storedFiles a ++ storedFiles b := List.filterMap_append

/-- A presence packet says nothing new. -/
def Known (presence : Bytes → Option Presence) (uin : BabelUIN) (online : Bool) (nickName : Bytes) :
    Prop :=
  some
    { online := online
      nickName := if nickName = [] then ((presence uin.toString).getD {}).nickName else nickName } =
    presence uin.toString

/-- An unsolicited packet that changes nothing that counts when nobody is logged in. -/
def Benign (presence : Bytes → Option Presence) (inbox : Bytes) (header : PacketHeader)
    (body : Bytes) (bodySize : Int32) : Prop :=
  match ServerPacket.ofType header.type with
  | some .message => ∀ message, parsePackedBabelMessage body bodySize = some message →
    message.messageType = mesgPrayFile ∧ inbox = []
  | some .userOnline => ∀ userData, parseShortUserData body bodySize = some userData →
    Known presence userData.uin true userData.nickName
  | some .userOffline => ∀ userData, parseShortUserData body bodySize = some userData →
    Known presence userData.uin false userData.nickName
  | some .onlineChange => Known presence ⟨header.fieldC, header.fieldD⟩ (header.fieldE ≠ 0) []
  | some .virtualConnect => False
  | _ => True

/-- What `ConsumeInput` leaves of the input buffer. -/
def consumed (input : Bytes) (totalSize : Int32) : Bytes :=
  if totalSize ≤ 0 then input
  else if totalSize ≥ sizeInt input then []
  else input.drop totalSize.toInt.toNat

/-- Bytes that the framer cuts into responses and benign packets, up to where it waits. -/
inductive Harmless (presence : Bytes → Option Presence) (inbox : Bytes) :
    (Int32 → Option Transaction) → Bytes → Prop
  | wait (transactions : Int32 → Option Transaction) (input : Bytes)
    (h : cut transactions input = .wait) : Harmless presence inbox transactions input
  | response (transactions : Int32 → Option Transaction) (input : Bytes) (totalSize : Int32)
    (transaction : Transaction) (h : cut transactions input = .frame totalSize)
    (hanswer : answeredBy transactions (PacketHeader.read input).ticket = some transaction)
    (hrest : Harmless presence inbox
      (Function.update transactions (PacketHeader.read input).ticket
        (if (transaction.answer (input.take totalSize.toInt.toNat)).kind = .abandoned then none
          else some (transaction.answer (input.take totalSize.toInt.toNat))))
      (consumed input totalSize)) : Harmless presence inbox transactions input
  | packet (transactions : Int32 → Option Transaction) (input : Bytes) (totalSize : Int32)
    (h : cut transactions input = .frame totalSize)
    (hanswer : answeredBy transactions (PacketHeader.read input).ticket = none)
    (hbenign : Benign presence inbox (PacketHeader.read input) (input.drop packetHeaderSize)
      (totalSize - 32))
    (hrest : Harmless presence inbox transactions (consumed input totalSize)) :
    Harmless presence inbox transactions input

namespace DSNetManager

/-- The refusal with the given code stands, and nothing else has changed since `m`. -/
structure Refused (m : DSNetManager) (code : Int32) (n : DSNetManager) : Prop where
  phase : n.myConnectPhase = .failed
  lastError : n.myLastError = mapHandshakeError code
  rawError : n.myRawError = code
  presence : n.myPresence = m.myPresence
  messages : n.myIncomingMessages = m.myIncomingMessages
  files : storedFiles n.trace = storedFiles m.trace

/-- The socket is closed, and the inbox is where it was. -/
structure Shut (m n : DSNetManager) : Prop where
  closed : n.mySocket.myState ≠ .connected
  inbox : n.myInboxDirectory = m.myInboxDirectory

section
variable {m n : DSNetManager} {code : Int32}

/-- Only the presence map counts of what a presence packet changes. -/
theorem Refused.updatePresence_iff (h : Refused m code n) (uin : BabelUIN) (online : Bool)
    (nickName : Bytes) :
    Refused m code (n.updatePresence uin online nickName) ↔
      Known m.myPresence uin online nickName := by
  obtain ⟨changed, adds, hframe⟩ := n.updatePresence_frame uin online nickName
  have hknown : Known m.myPresence uin online nickName ↔
      (n.recordPresence uin.toString online nickName).myPresence = n.myPresence := by
    rw [recordPresence, Function.update_eq_self_iff, presenceOf, h.presence]
    rfl
  rw [hknown, hframe]
  constructor
  · intro hrefused
    rw [h.presence, ← hrefused.presence]
  · intro hsame
    exact ⟨h.phase, h.lastError, h.rawError, hsame.trans h.presence, h.messages, h.files⟩

theorem Refused.handleUserData_iff (h : Refused m code n) (online : Bool) (body : Bytes)
    (bodySize : Int32) :
    Refused m code (n.handleUserData online body bodySize) ↔
      ∀ userData, parseShortUserData body bodySize = some userData →
        Known m.myPresence userData.uin online userData.nickName := by
  unfold handleUserData
  cases parseShortUserData body bodySize with
  | none => simp [h]
  | some userData => simpa using h.updatePresence_iff userData.uin online userData.nickName

theorem Refused.handleMessage_iff (h : Refused m code n) (hshut : Shut m n) (body : Bytes)
    (bodySize : Int32) :
    Refused m code (n.handleMessage body bodySize) ↔
      ∀ message, parsePackedBabelMessage body bodySize = some message →
        message.messageType = mesgPrayFile ∧ m.myInboxDirectory = [] := by
  unfold handleMessage
  cases parsePackedBabelMessage body bodySize with
  | none => simp [h]
  | some message =>
    simp only [Option.some.injEq, forall_eq']
    split_ifs with hpray
    · have hfiles : storedFiles (n.spoolPrayFile message.sender message.payload).trace =
          storedFiles m.trace ++ storedFiles
            [.spooled m.myInboxDirectory message.sender message.payload] := by
        rw [← h.files, ← hshut.inbox, ← storedFiles_append]
        rfl
      simp only [hpray, true_and]
      constructor
      · intro hrefused
        by_contra hinbox
        rw [hrefused.files] at hfiles
        simp [storedFiles, Event.storedFile, hinbox] at hfiles
      · intro hinbox
        refine ⟨h.phase, h.lastError, h.rawError, h.presence, h.messages, ?_⟩
        rw [hfiles]
        simp [storedFiles, Event.storedFile, hinbox]
    · simp only [hpray, false_and, iff_false]
      intro hrefused
      have hmessages := hrefused.messages
      rw [← h.messages] at hmessages
      simp at hmessages

/-- A packet behind a refusal leaves it standing exactly if it is benign. -/
theorem Refused.handlePacket_iff (h : Refused m code n) (hshut : Shut m n) (header : PacketHeader)
    (body : Bytes) (bodySize : Int32) :
    Refused m code (n.handlePacket header body bodySize).2 ↔
      Benign m.myPresence m.myInboxDirectory header body bodySize := by
  unfold handlePacket Benign
  cases ServerPacket.ofType header.type with
  | none => simpa using h
  | some packet =>
    cases packet
    case message => exact h.handleMessage_iff hshut body bodySize
    case userOnline => exact h.handleUserData_iff true body bodySize
    case userOffline => exact h.handleUserData_iff false body bodySize
    case onlineChange => exact h.updatePresence_iff _ _ _
    case virtualConnect =>
      have hgone : (n.handleVirtualConnect header).2.myConnectPhase = .idle := by
        have hdead := handleVirtualConnect_dead n header hshut.closed
        simp only [handleVirtualConnect] at hdead ⊢
        split_ifs at hdead ⊢
        rfl
      simp only [iff_false]
      intro hrefused
      rw [hrefused.phase] at hgone
      cases hgone
    all_goals simpa using h

theorem Shut.undisturbed {k : DSNetManager} (h : Shut m n) (hsame : Undisturbed n k) : Shut m k :=
  ⟨by rw [hsame.socket]; exact h.closed, hsame.inbox.trans h.inbox⟩

theorem Refused.emit (h : Refused m code n) (e : Event) (he : e.storedFile = none) :
    Refused m code (n.emit e) := by
  refine ⟨h.phase, h.lastError, h.rawError, h.presence, h.messages, ?_⟩
  rw [emit_trace, storedFiles_append, h.files]
  simp [storedFiles, he]

theorem Refused.consume (h : Refused m code n) (totalSize : Int32) :
    Refused m code (n.consume totalSize) :=
  ⟨h.phase, h.lastError, h.rawError, h.presence, h.messages, h.files⟩

theorem Shut.consume (h : Shut m n) (totalSize : Int32) : Shut m (n.consume totalSize) := by
  refine ⟨?_, h.inbox⟩
  simp only [DSNetManager.consume, NetNatsueSocket.consumeInput]
  split_ifs <;> exact h.closed

theorem consume_input (n : DSNetManager) (totalSize : Int32) :
    (n.consume totalSize).mySocket.myInput = consumed n.mySocket.myInput totalSize := by
  simp only [consume, NetNatsueSocket.consumeInput, NetNatsueSocket.inputSize, consumed]
  by_cases hnone : totalSize ≤ 0
  · simp only [hnone, ↓reduceIte]
  · by_cases hall : totalSize ≥ sizeInt n.mySocket.myInput <;> simp only [hnone, hall, ↓reduceIte]

/-- A round that hands a response to its transaction. -/
theorem Refused.round_response (h : Refused m code n) (hshut : Shut m n) (totalSize : Int32)
    (hcut : cut n.myTransactions n.mySocket.myInput = .frame totalSize) (transaction : Transaction)
    (hanswer : answeredBy n.myTransactions (PacketHeader.read n.mySocket.myInput).ticket =
      some transaction) :
    ∃ n', n.processInputBody = .again n' ∧ Refused m code n' ∧ Shut m n' ∧
      n'.mySocket.myInput = consumed n.mySocket.myInput totalSize ∧
      n'.myTransactions =
        Function.update n.myTransactions (PacketHeader.read n.mySocket.myInput).ticket
          (if (transaction.answer (n.mySocket.myInput.take totalSize.toInt.toNat)).kind = .abandoned
            then none
            else some (transaction.answer (n.mySocket.myInput.take totalSize.toInt.toNat))) := by
  have hresult := (handleResponse_frame _ _ _ _ hcut hanswer).2
  have hnoted := h.emit (.response (PacketHeader.read n.mySocket.myInput).ticket
    (n.mySocket.myInput.take totalSize.toInt.toNat)) rfl
  have hresponded : Refused m code ((n.emit (.response (PacketHeader.read n.mySocket.myInput).ticket
      (n.mySocket.myInput.take totalSize.toInt.toNat))).respond
        (PacketHeader.read n.mySocket.myInput).ticket
        (transaction.answer (n.mySocket.myInput.take totalSize.toInt.toNat))) :=
    ⟨hnoted.phase, hnoted.lastError, hnoted.rawError, hnoted.presence,
      hnoted.messages, hnoted.files⟩
  have hshut' : Shut m ((n.emit (.response (PacketHeader.read n.mySocket.myInput).ticket
      (n.mySocket.myInput.take totalSize.toInt.toNat))).respond
        (PacketHeader.read n.mySocket.myInput).ticket
        (transaction.answer (n.mySocket.myInput.take totalSize.toInt.toNat))) :=
    ⟨hshut.closed, hshut.inbox⟩
  have hround := processInputBody_frame n totalSize hcut
  rw [handleFrame_response n _ totalSize transaction hanswer, hresult] at hround
  exact ⟨_, hround, hresponded.consume totalSize, hshut'.consume totalSize,
    consume_input _ totalSize, rfl⟩

/-- A round that hands an unsolicited packet to its handler. -/
theorem Refused.round_packet (h : Refused m code n) (hshut : Shut m n) (totalSize : Int32)
    (hcut : cut n.myTransactions n.mySocket.myInput = .frame totalSize)
    (hanswer : answeredBy n.myTransactions (PacketHeader.read n.mySocket.myInput).ticket = none) :
    (¬ Benign m.myPresence m.myInboxDirectory (PacketHeader.read n.mySocket.myInput)
        (n.mySocket.myInput.drop packetHeaderSize) (totalSize - 32) →
      ¬ Refused m code n.processInputBody.state) ∧
    (Benign m.myPresence m.myInboxDirectory (PacketHeader.read n.mySocket.myInput)
        (n.mySocket.myInput.drop packetHeaderSize) (totalSize - 32) →
      ∃ n', n.processInputBody = .again n' ∧ Refused m code n' ∧ Shut m n' ∧
        n'.mySocket.myInput = consumed n.mySocket.myInput totalSize ∧
        n'.myTransactions = n.myTransactions) := by
  have hround := processInputBody_frame n totalSize hcut
  by_cases htype : ServerPacket.ofType (PacketHeader.read n.mySocket.myInput).type =
      some .handshakeResponse
  · -- a stray one
    have hphase : n.myConnectPhase ≠ .awaitHandshake := by
      rw [h.phase]
      decide
    rw [handleFrame_handshake n _ totalSize hanswer htype,
      handleHandshakeResponse_stray (n.emit _) _ _ _ hphase] at hround
    constructor
    · intro hharmful
      simp [Benign, htype] at hharmful
    · intro _
      have hshut' : Shut m (n.emit (.handshake n.myConnectPhase
        (n.mySocket.myInput.take totalSize.toInt.toNat))) := ⟨hshut.closed, hshut.inbox⟩
      exact ⟨_, hround, (h.emit _ rfl).consume totalSize, hshut'.consume totalSize,
        consume_input _ totalSize, rfl⟩
  · rw [handleFrame_packet n _ totalSize hanswer htype] at hround
    have hnoted := h.emit (.packet n.myConnectPhase (PacketHeader.read n.mySocket.myInput)
      (n.mySocket.myInput.take totalSize.toInt.toNat)) rfl
    have hshut' : Shut m (n.emit (.packet n.myConnectPhase (PacketHeader.read n.mySocket.myInput)
      (n.mySocket.myInput.take totalSize.toInt.toNat))) := ⟨hshut.closed, hshut.inbox⟩
    have hiff := hnoted.handlePacket_iff hshut' (PacketHeader.read n.mySocket.myInput)
      (n.mySocket.myInput.drop packetHeaderSize) (totalSize - 32)
    constructor
    · intro hharmful hrefused
      refine hharmful (hiff.mp ?_)
      rw [hround] at hrefused
      split_ifs at hrefused <;>
        exact ⟨hrefused.phase, hrefused.lastError, hrefused.rawError, hrefused.presence,
          hrefused.messages, hrefused.files⟩
    · intro hbenign
      have hplain : ServerPacket.ofType (PacketHeader.read n.mySocket.myInput).type ≠
          some .virtualConnect := by
        intro hcircuit
        simp [Benign, hcircuit] at hbenign
      obtain ⟨hok, hsame⟩ := handlePacket_undisturbed (n.emit (.packet n.myConnectPhase
        (PacketHeader.read n.mySocket.myInput) (n.mySocket.myInput.take totalSize.toInt.toNat))) _
        (n.mySocket.myInput.drop packetHeaderSize) (totalSize - 32) hplain
      rw [if_neg (not_not_intro hok)] at hround
      refine ⟨_, hround, (hiff.mpr hbenign).consume totalSize,
        (hshut'.undisturbed hsame).consume totalSize, ?_, hsame.transactions⟩
      rw [consume_input, hsame.socket]
      rfl

/-- What follows the refusal lets it stand for good exactly if it is harmless. -/
theorem Refused.harmless_iff (h : Refused m code n) (hshut : Shut m n) :
    Harmless m.myPresence m.myInboxDirectory n.myTransactions n.mySocket.myInput ↔
      ∀ rounds, Refused m code (Loop.iterate processInputBody rounds n) := by
  induction hlength : n.inputLength using Nat.strong_induction_on generalizing n with
  | _ length ih =>
    subst hlength
    -- a round that goes on leaves less to look at
    have hagain : ∀ n', n.processInputBody = .again n' → Refused m code n' → Shut m n' →
        (Harmless m.myPresence m.myInboxDirectory n'.myTransactions n'.mySocket.myInput ↔
          ∀ rounds, Refused m code (Loop.iterate processInputBody rounds n)) := by
      intro n' hround hrefused hshut'
      rw [ih _ (processInput_descends n n' hround) hrefused hshut' rfl]
      constructor
      · intro hall rounds
        cases rounds with
        | zero => exact h
        | succ rounds =>
          rw [Loop.iterate_again hround]
          exact hall rounds
      · intro hall rounds
        have hlater := hall (rounds+1)
        rwa [Loop.iterate_again hround] at hlater
    cases hcut : cut n.myTransactions n.mySocket.myInput with
    | wait =>
      constructor
      · intro _ rounds
        rw [Loop.iterate_leave (processInputBody_wait n hcut)]
        exact h
      · exact fun _ => .wait _ _ hcut
    | lost =>
      constructor
      · intro hharmless
        cases hharmless <;> simp_all
      · intro hall
        have hlost := hall 1
        rw [Loop.iterate_one, processInputBody_lost n hcut] at hlost
        exact absurd hlost.phase ConnectPhase.noConfusion
    | frame totalSize =>
      cases hanswer : answeredBy n.myTransactions (PacketHeader.read n.mySocket.myInput).ticket with
      | some transaction =>
        obtain ⟨n', hround, hrefused, hshut', hinput, htransactions⟩ :=
          h.round_response hshut totalSize hcut transaction hanswer
        rw [← hagain n' hround hrefused hshut', hinput, htransactions]
        constructor
        · intro hharmless
          cases hharmless <;> simp_all
        · exact fun hrest => .response _ _ totalSize transaction hcut hanswer hrest
      | none =>
        obtain ⟨hharmful, hpacket⟩ := h.round_packet hshut totalSize hcut hanswer
        by_cases hbenign : Benign m.myPresence m.myInboxDirectory
            (PacketHeader.read n.mySocket.myInput) (n.mySocket.myInput.drop packetHeaderSize)
            (totalSize - 32)
        · obtain ⟨n', hround, hrefused, hshut', hinput, htransactions⟩ := hpacket hbenign
          rw [← hagain n' hround hrefused hshut', hinput, htransactions]
          constructor
          · intro hharmless
            cases hharmless <;> simp_all
          · exact fun hrest => .packet _ _ totalSize hcut hanswer hbenign hrest
        · constructor
          · intro hharmless
            cases hharmless <;> simp_all
          · intro hall
            have hfirst := hall 1
            rw [Loop.iterate_one] at hfirst
            exact absurd hfirst (hharmful hbenign)

end

/-- A handshake response that refuses the login. -/
structure LoginRefusal (refusal : Bytes) : Prop where
  frame : ServerFrame (fun _ => none) refusal
  type : ServerPacket.ofType (PacketHeader.read refusal).type = some .handshakeResponse
  refuses : handshakeErrorCode refusal ≠ 0 ∨ (PacketHeader.read refusal).fieldA = 0

/-- The refusal stands once the rounds over what arrived have begun, and after all of them. -/
def RefusalFinal (m : DSNetManager) (code : Int32) : Prop :=
  Refused m code m.pumpConnectPhase ∧
    ∀ rounds, Refused m code (Loop.iterate processInputBody (rounds+1) m.socketPump.2)

theorem LoginRefusal.unclaimed {refusal : Bytes} (h : LoginRefusal refusal)
    (transactions : Int32 → Option Transaction)
    (hanswer : answeredBy transactions (PacketHeader.read refusal).ticket = none) :
    ServerFrame transactions refusal := by
  cases h.frame with
  | unsolicited packet htype _ hfurther hfurther' hadditional hlength =>
    exact .unsolicited packet htype hanswer hfurther hfurther' hadditional hlength
  | response transaction hclaimed _ _ _ _ =>
    simp [answeredBy] at hclaimed

section
variable {m : DSNetManager} {refusal trailing : Bytes}

/-- The round that takes the refusal. -/
theorem round_refusal (hphase : m.myConnectPhase = .awaitHandshake)
    (hrefusal : LoginRefusal refusal)
    (hinput : m.mySocket.myInput = refusal ++ trailing)
    (hanswer : answeredBy m.myTransactions (PacketHeader.read refusal).ticket = none)
    (hcut : cut m.myTransactions (refusal ++ trailing) = .frame (sizeInt refusal)) :
    m.processInputBody =
      .again (((m.emit (.handshake .awaitHandshake refusal)).refuseLogin
        (handshakeErrorCode refusal)).consume (sizeInt refusal)) := by
  have hframe := hrefusal.unclaimed m.myTransactions hanswer
  have hall : refusal.take (sizeInt refusal).toInt.toNat = refusal := by
    rw [sizeInt_toInt refusal hframe.cut_eq.2.1]
    simp
  rw [processInputBody_frame m _ (by rw [hinput]; exact hcut), hinput,
    handleFrame_append m refusal trailing _ hframe.cut_eq.2.2,
    handleFrame_handshake m refusal _ hanswer hrefusal.type, hall, hphase]
  have hphase' : (m.emit (.handshake .awaitHandshake refusal)).myConnectPhase = .awaitHandshake :=
    hphase
  simp only [handleHandshakeResponse, hphase', hrefusal.refuses, ne_eq,
    not_true_eq_false, ↓reduceIte]

/-- A refusal that is taken for the answer to a query refuses nothing. -/
theorem round_claimed (hphase : m.myConnectPhase = .awaitHandshake) (transaction : Transaction)
    (hanswer : answeredBy m.myTransactions (PacketHeader.read m.mySocket.myInput).ticket =
      some transaction) : m.processInputBody.state.myConnectPhase ≠ .failed := by
  cases hcut : cut m.myTransactions m.mySocket.myInput with
  | wait =>
    rw [processInputBody_wait m hcut, Loop.Next.state, hphase]
    decide
  | lost =>
    rw [processInputBody_lost m hcut]
    exact ConnectPhase.noConfusion
  | frame totalSize =>
    rw [processInputBody_frame m totalSize hcut, handleFrame_response m _ totalSize
      transaction hanswer, if_neg (not_not_intro rfl)]
    change m.myConnectPhase ≠ .failed
    rw [hphase]
    decide

/-- **A login refusal is final** exactly if no query claims its ticket, the length of the buffer
does not come out too short, and what lies behind it is harmless. -/
theorem refusal_final_iff (hphase : m.myConnectPhase = .awaitHandshake)
    (hrefusal : LoginRefusal refusal)
    (hread : m.socketPump.2.mySocket.myInput = refusal ++ trailing) :
    RefusalFinal m (handshakeErrorCode refusal) ↔
      answeredBy m.myTransactions (PacketHeader.read refusal).ticket = none ∧
      ¬ sizeInt (refusal ++ trailing) < sizeInt refusal ∧
      Harmless m.myPresence m.myInboxDirectory m.myTransactions
        (consumed (refusal ++ trailing) (sizeInt refusal)) := by
  have hphase' : m.socketPump.2.myConnectPhase = .awaitHandshake := hphase
  have hlong : 32 ≤ refusal.length := hrefusal.frame.cut_eq.1
  have hheader := PacketHeader.read_append refusal trailing hlong
  have hstands : Refused m (handshakeErrorCode refusal)
      (((m.socketPump.2.emit (.handshake .awaitHandshake refusal)).refuseLogin
        (handshakeErrorCode refusal)).consume (sizeInt refusal)) := by
    refine ⟨rfl, rfl, rfl, rfl, rfl, ?_⟩
    change storedFiles (m.trace ++ [.handshake .awaitHandshake refusal]) = _
    rw [storedFiles_append]
    simp [storedFiles, Event.storedFile]
  have hclosed : Shut m (((m.socketPump.2.emit (.handshake .awaitHandshake refusal)).refuseLogin
      (handshakeErrorCode refusal)).consume (sizeInt refusal)) := by
    have hshut : Shut m ((m.socketPump.2.emit (.handshake .awaitHandshake refusal)).refuseLogin
        (handshakeErrorCode refusal)) := ⟨by simp [refuseLogin, NetNatsueSocket.close], rfl⟩
    exact hshut.consume _
  have hrest := hstands.harmless_iff hclosed
  rw [consume_input] at hrest
  constructor
  · rintro ⟨_, hall⟩
    have hfirst := hall 0
    rw [Nat.zero_add, Loop.iterate_one] at hfirst
    have hanswer : answeredBy m.myTransactions (PacketHeader.read refusal).ticket = none := by
      by_contra hclaimed
      obtain ⟨transaction, hclaimed⟩ := Option.ne_none_iff_exists'.mp hclaimed
      refine round_claimed hphase' transaction ?_ hfirst.phase
      rw [hread, hheader]
      exact hclaimed
    have hframe := hrefusal.unclaimed m.myTransactions hanswer
    have hcut :=
      cut_front m.myTransactions refusal trailing hlong hframe.cut_eq.2.1 hframe.cut_eq.2.2
    have hwhole : ¬ sizeInt (refusal ++ trailing) < sizeInt refusal := by
      intro hpart
      rw [if_pos hpart] at hcut
      rw [processInputBody_wait m.socketPump.2 (by rw [Waiting, hread]; exact hcut)] at hfirst
      have hfailed := hfirst.phase
      rw [Loop.Next.state, hphase'] at hfailed
      cases hfailed
    rw [if_neg hwhole] at hcut
    refine ⟨hanswer, hwhole, ?_⟩
    have hround := round_refusal hphase' hrefusal hread hanswer hcut
    have hharmless := hrest.mpr fun rounds => by
      rw [← Loop.iterate_again hround]
      exact hall rounds
    rw [← hread]
    exact hharmless
  · rintro ⟨hanswer, hwhole, hharmless⟩
    have hframe := hrefusal.unclaimed m.myTransactions hanswer
    have hcut :=
      cut_front m.myTransactions refusal trailing hlong hframe.cut_eq.2.1 hframe.cut_eq.2.2
    rw [if_neg hwhole] at hcut
    have hround := round_refusal hphase' hrefusal hread hanswer hcut
    have hall : ∀ rounds, Refused m (handshakeErrorCode refusal)
        (Loop.iterate processInputBody (rounds+1) m.socketPump.2) := by
      intro rounds
      rw [Loop.iterate_again hround]
      rw [← hread] at hharmless
      exact hrest.mp hharmless rounds
    refine ⟨?_, hall⟩
    have hdone : Refused m (handshakeErrorCode refusal) m.socketPump.2.processInput :=
      hall m.socketPump.2.inputLength
    have hpump : m.pumpConnectPhase = m.socketPump.2.processInput := by
      simp only [pumpConnectPhase, pumpAwaiting, pumpTimeout, hphase, hdone.phase, reduceCtorEq,
        false_and, or_self, ↓reduceIte]
    rw [hpump]
    exact hdone

end

/-- A manager awaiting the answer to its login; the server sends the given bytes and hangs up. -/
def awaitingAnswer (bytes : Bytes) : DSNetManager :=
  { fresh with
    myConnectPhase := .awaitHandshake
    mySocket :=
      { os := { SocketOS.idle with recvs := .const [.data bytes, .data []] }
        myHandle := some 3
        myState := .connected } }

/-- The password was wrong. -/
def wrongPassword : Bytes := PacketHeader.write { type := 0x030A } ++ List.replicate 16 0

theorem wrongPassword_refusal : LoginRefusal wrongPassword where
  frame :=
    .unsolicited .handshakeResponse (by decide) rfl (by decide) (by decide) (fun _ => by decide)
    (by decide)
  type := by decide
  refuses := Or.inl (by decide)

theorem refusal_final_iff_alone :
    RefusalFinal (awaitingAnswer wrongPassword) (handshakeErrorCode wrongPassword) ↔
      answeredBy (awaitingAnswer wrongPassword).myTransactions
        (PacketHeader.read wrongPassword).ticket = none ∧
      ¬ sizeInt (wrongPassword ++ []) < sizeInt wrongPassword ∧
      Harmless (awaitingAnswer wrongPassword).myPresence
        (awaitingAnswer wrongPassword).myInboxDirectory
        (awaitingAnswer wrongPassword).myTransactions
        (consumed (wrongPassword ++ []) (sizeInt wrongPassword)) :=
  refusal_final_iff rfl wrongPassword_refusal (by decide +kernel)

/-- News behind the refusal still change who is online. -/
theorem refusal_not_final :
    LoginRefusal wrongPassword ∧
      (awaitingAnswer (wrongPassword ++ userComesOnline)).myConnectPhase = .awaitHandshake ∧
      (awaitingAnswer (wrongPassword ++ userComesOnline)).socketPump.2.mySocket.myInput =
        wrongPassword ++ userComesOnline ∧
      (awaitingAnswer (wrongPassword ++ userComesOnline)).pumpConnectPhase.myPresence
      (ascii "7+1") ≠
        (awaitingAnswer (wrongPassword ++ userComesOnline)).myPresence (ascii "7+1") ∧
      ¬ RefusalFinal (awaitingAnswer (wrongPassword ++ userComesOnline))
        (handshakeErrorCode wrongPassword) := by
  have hchanged : (awaitingAnswer (wrongPassword ++ userComesOnline)).pumpConnectPhase.myPresence
      (ascii "7+1") ≠ (awaitingAnswer (wrongPassword ++ userComesOnline)).myPresence
        (ascii "7+1") := by
    decide +kernel
  refine ⟨wrongPassword_refusal, rfl, by decide +kernel, hchanged, fun hfinal => hchanged ?_⟩
  rw [hfinal.1.presence]

end DSNetManager
end NetNatsue
