import Mathlib.Data.List.Chain
import NetNatsue.Manager.Arrivals

/-! Circuit requests and the packets that accept them. -/
namespace NetNatsue

/-- The circuit requests received, in order. -/
def requests (events : List Event) : List PacketHeader := events.filterMap Event.calls

/-- The accepting packets written, in order. -/
def replies (events : List Event) : List Bytes := events.filterMap Event.accepts

/-- A request whose reply cannot be written is followed by the end of the connection. -/
def Event.Answered (e next : Event) : Prop := e.calls.isSome = true → next ≠ .ended

instance : DecidableRel Event.Answered := fun e next =>
  inferInstanceAs (Decidable (e.calls.isSome = true → next ≠ .ended))

/-- The number of the last of so many circuits: 1 to 65535, and again. -/
def circuitNumber : ℕ → ℕ
  | 0 => 0
  | count+1 => count % 65535 + 1

theorem circuitNumber_lt (count : ℕ) : circuitNumber count < 65536 := by
  cases count with
  | zero => decide
  | succ count =>
    have hmod := Nat.mod_lt count (show 0 < 65535 by decide)
    simp only [circuitNumber]
    omega

/-- So many circuits in a row have different numbers. -/
theorem circuitNumber_ne {i j : ℕ} (h : i < j) (hj : j < i + 65535) :
    circuitNumber (i+1) ≠ circuitNumber (j+1) := by
  simp only [circuitNumber]
  omega

namespace DSNetManager

theorem nextVSN_number (m : DSNetManager) (count : ℕ)
    (h : m.myNextVSN = Int32.ofNat (circuitNumber count)) :
    m.nextVSN.1 = Int32.ofNat (circuitNumber (count+1)) := by
  have hnext : m.nextVSN.1 = if Int32.ofNat ((circuitNumber count + 1) % 65536) = 0 then 1
      else Int32.ofNat ((circuitNumber count + 1) % 65536) := by
    simp only [nextVSN, h, Word32.mask_ofNat_add_one]
  have hstep : circuitNumber count = 65535 ∧ circuitNumber (count+1) = 1 ∨
      circuitNumber count < 65535 ∧ circuitNumber (count+1) = circuitNumber count + 1 := by
    cases count with
    | zero => exact Or.inr ⟨by decide, rfl⟩
    | succ count =>
      simp only [circuitNumber]
      omega
  rcases hstep with ⟨hlast, hone⟩ | ⟨hbelow, hone⟩
  · rw [hnext, hlast, hone]
    rfl
  · have hnonzero : Int32.ofNat (circuitNumber count + 1) ≠ 0 := by
      intro hzero
      have hint := Word32.toInt_ofNat_exact (circuitNumber count + 1) (by omega)
      rw [hzero] at hint
      simp at hint
      omega
    rw [hnext, Nat.mod_eq_of_lt (by omega), if_neg hnonzero, hone]

/-- Every request so far has its reply, with the number that was due. -/
structure Replies (m : DSNetManager) : Prop where
  number : m.myNextVSN = Int32.ofNat (circuitNumber (requests m.trace).length)
  length : (replies m.trace).length = (requests m.trace).length
  reply : ∀ i request, (requests m.trace)[i]? = some request → ∃ server,
    (replies m.trace)[i]? = some (buildVirtualConnectAccept server ⟨request.fieldC, request.fieldD⟩
      request.fieldE (Int32.ofNat (circuitNumber (i+1))))

theorem Replies.unaffected {m n : DSNetManager} (hm : m.Replies) (events : List Event)
    (hvsn : n.myNextVSN = m.myNextVSN) (htrace : n.trace = m.trace ++ events)
    (hcalls : ∀ e ∈ events, e.calls = none) (haccepts : ∀ e ∈ events, e.accepts = none) :
    n.Replies := by
  have hrequests : requests n.trace = requests m.trace := by
    rw [htrace, requests, List.filterMap_append, List.filterMap_eq_nil_iff.mpr hcalls,
      List.append_nil]
    rfl
  have hreplies : replies n.trace = replies m.trace := by
    rw [htrace, replies, List.filterMap_append, List.filterMap_eq_nil_iff.mpr haccepts,
      List.append_nil]
    rfl
  exact ⟨by rw [hvsn, hrequests, hm.number], by rw [hreplies, hrequests, hm.length],
    by rw [hreplies, hrequests]; exact hm.reply⟩

/-- A request arrives and its reply is written. -/
theorem Replies.answered {m n : DSNetManager} (hm : m.Replies) (request : PacketHeader)
    (server : BabelUIN) (events : List Event) (htrace : n.trace = m.trace ++ events)
    (hcalls : requests events = [request])
    (haccepts : replies events = [buildVirtualConnectAccept server ⟨request.fieldC, request.fieldD⟩
      request.fieldE m.nextVSN.1]) (hvsn : n.myNextVSN = m.nextVSN.1) : n.Replies := by
  have hrequests : requests n.trace = requests m.trace ++ [request] := by
    rw [htrace, ← hcalls]
    exact List.filterMap_append
  have hnumber := m.nextVSN_number _ hm.number
  rw [hnumber] at haccepts hvsn
  have hreplies : replies n.trace = replies m.trace ++ [buildVirtualConnectAccept server
      ⟨request.fieldC, request.fieldD⟩ request.fieldE
      (Int32.ofNat (circuitNumber ((requests m.trace).length + 1)))] := by
    rw [htrace, ← haccepts]
    exact List.filterMap_append
  refine ⟨?_, ?_, ?_⟩
  · rw [hrequests, List.length_append]
    exact hvsn
  · rw [hrequests, hreplies, List.length_append, List.length_append, hm.length]
    rfl
  · intro i other hother
    rw [hrequests] at hother
    rw [hreplies]
    rcases Nat.lt_trichotomy i (requests m.trace).length with hlt | rfl | hgt
    · rw [List.getElem?_append_left hlt] at hother
      rw [List.getElem?_append_left (hm.length ▸ hlt)]
      exact hm.reply i other hother
    · rw [List.getElem?_concat_length, Option.some.injEq] at hother
      subst hother
      rw [← hm.length, List.getElem?_concat_length]
      exact ⟨server, rfl⟩
    · rw [List.getElem?_eq_none (by rw [List.length_append]; exact hgt)] at hother
      cases hother

/-- What is said of the circuits while no reply has failed. -/
def AnswersCircuits (m : DSNetManager) : Prop := m.trace.IsChain Event.Answered → m.Replies

theorem AnswersCircuits.unaffected {m n : DSNetManager} (hm : m.AnswersCircuits)
    (events : List Event) (hvsn : n.myNextVSN = m.myNextVSN) (htrace : n.trace = m.trace ++ events)
    (hcalls : ∀ e ∈ events, e.calls = none) (haccepts : ∀ e ∈ events, e.accepts = none) :
    n.AnswersCircuits := by
  intro hchain
  rw [htrace] at hchain
  exact (hm hchain.left_of_append).unaffected events hvsn htrace hcalls haccepts

theorem AnswersCircuits.mute {m n : DSNetManager} (hm : m.AnswersCircuits) (h : Mute m n) :
    n.AnswersCircuits := by
  obtain ⟨events, htrace, hevents⟩ := h.trace
  exact hm.unaffected events h.nextVSN htrace (fun e he => (hevents e he).calls)
    (fun e he => (hevents e he).accepts)

theorem AnswersCircuits.message {m : DSNetManager} (hm : m.AnswersCircuits) (frame : Bytes)
    (h : ServerPacket.ofType (PacketHeader.read frame).type = some .message) :
    ((m.emit (.packet m.myConnectPhase (PacketHeader.read frame) frame)).handleMessage
      (frame.drop packetHeaderSize) (sizeInt frame - 32)).AnswersCircuits := by
  have hcalls : (Event.packet m.myConnectPhase (PacketHeader.read frame) frame).calls = none :=
    if_neg (by rw [h]; decide)
  obtain ⟨hvsn, _, htrace⟩ := handleMessage_parsed
    (m.emit (.packet m.myConnectPhase (PacketHeader.read frame) frame))
    (frame.drop packetHeaderSize) (sizeInt frame - 32)
  rw [emit_trace, List.append_assoc] at htrace
  refine hm.unaffected _ hvsn htrace (fun e he => ?_) (fun e he => ?_)
  · rcases List.mem_append.mp he with he | he
    · rw [List.mem_singleton.mp he, hcalls]
    · obtain ⟨file, _, rfl⟩ := List.mem_map.mp he
      rfl
  · rcases List.mem_append.mp he with he | he
    · rw [List.mem_singleton.mp he]
      rfl
    · obtain ⟨file, _, rfl⟩ := List.mem_map.mp he
      rfl

theorem buildVirtualConnectAccept_read (server initiator : BabelUIN)
    (initiatorVSN localVSN : Int32) :
    PacketHeader.read (buildVirtualConnectAccept server initiator initiatorVSN localVSN) =
      { type := packetClientCommand, fieldA := server.uid, fieldB := server.hid
        fieldC := initiator.uid, fieldD := initiator.hid
        fieldE := ((initiatorVSN &&& 0xFFFF) <<< 16) ||| (localVSN &&& 0xFFFF) } :=
  PacketHeader.read_write _ _

theorem AnswersCircuits.circuit {m : DSNetManager} (hm : m.AnswersCircuits) (frame : Bytes)
    (h : ServerPacket.ofType (PacketHeader.read frame).type = some .virtualConnect) :
    ((m.emit (.packet m.myConnectPhase (PacketHeader.read frame) frame)).handleVirtualConnect
      (PacketHeader.read frame)).2.AnswersCircuits := by
  have hcalls : (Event.packet m.myConnectPhase (PacketHeader.read frame) frame).calls =
      some (PacketHeader.read frame) := if_pos h
  intro hchain
  obtain ⟨_, hvsn, ⟨line, htrace⟩ | htrace⟩ := handleVirtualConnect_replied
    (m.emit (.packet m.myConnectPhase (PacketHeader.read frame) frame)) (PacketHeader.read frame)
  · rw [emit_trace, List.append_assoc] at htrace
    rw [htrace] at hchain
    refine (hm hchain.left_of_append).answered (PacketHeader.read frame) m.myServerUIN _
      htrace ?_ ?_ hvsn
    · exact (List.filterMap_cons_some hcalls).trans rfl
    · refine (List.filterMap_cons_none rfl).trans (List.filterMap_cons_some ?_)
      exact if_pos (by rw [buildVirtualConnectAccept_read])
  · -- the reply has failed
    rw [emit_trace, List.append_assoc] at htrace
    rw [htrace] at hchain
    have hanswered := (List.isChain_cons_cons.mp hchain.right_of_append).1
    exact absurd rfl (hanswered (by rw [hcalls]; rfl))

theorem AnswersCircuits.act {op : Op} {m n : DSNetManager} (hm : m.AnswersCircuits)
    (h : Act op m n) :
    n.AnswersCircuits :=
  h.keeps_arrivals AnswersCircuits (fun _ _ hmute hm => hm.mute hmute)
    (fun _ frame htype hm => hm.message frame htype)
      (fun _ frame htype hm => hm.circuit frame htype)
    (fun _ m hm => hm.unaffected [.collected m.myIncomingMessages] rfl rfl (by simp [Event.calls])
      (by simp [Event.accepts])) hm

end DSNetManager

/-- A reply to a request: to its initiator, with the initiator's number above and one of our own,
not zero, below. -/
structure Accepts (request : PacketHeader) (reply : Bytes) : Prop where
  built : ∃ server localVSN, reply = buildVirtualConnectAccept server ⟨request.fieldC,
    request.fieldD⟩
    request.fieldE localVSN
  initiator : (PacketHeader.read reply).fieldC = request.fieldC ∧
    (PacketHeader.read reply).fieldD = request.fieldD
  initiatorVSN : Word32.upperHalf (PacketHeader.read reply).fieldE = Word32.lowerHalf request.fieldE
  localVSN : Word32.lowerHalf (PacketHeader.read reply).fieldE ≠ 0

open DSNetManager

theorem accepts_build (request : PacketHeader) (server : BabelUIN) (count : ℕ) :
    Accepts request (buildVirtualConnectAccept server ⟨request.fieldC, request.fieldD⟩
      request.fieldE
      (Int32.ofNat (circuitNumber (count+1)))) := by
  refine ⟨⟨_, _, rfl⟩, ?_, ?_, ?_⟩
  · rw [buildVirtualConnectAccept_read]
    exact ⟨rfl, rfl⟩
  · simp only [buildVirtualConnectAccept_read, Word32.upperHalf_packed]
  · intro hzero
    simp only [buildVirtualConnectAccept_read, Word32.lowerHalf_packed] at hzero
    have hnumber := Word32.lowerHalf_ofNat _ (circuitNumber_lt (count+1))
    rw [hzero] at hnumber
    exact absurd hnumber.symm (Nat.succ_ne_zero _)

/-- **Every circuit request is answered** once and in order, as long as no reply fails, and any
65535 replies in a row have different numbers of our own. -/
theorem circuits_answered (os : SocketOS) (clock : Stream' UInt32) (disk : Disk) (ops : List Op)
    (hwritten : (ran os clock disk ops).trace.IsChain Event.Answered) :
    List.Forall₂ Accepts (requests (ran os clock disk ops).trace)
      (replies (ran os clock disk ops).trace) ∧
    ∀ (i j : ℕ) (a b : Bytes), i < j → j < i + 65535 →
      (replies (ran os clock disk ops).trace)[i]? = some a →
      (replies (ran os clock disk ops).trace)[j]? = some b →
      Word32.lowerHalf (PacketHeader.read a).fieldE ≠
        Word32.lowerHalf (PacketHeader.read b).fieldE := by
  obtain ⟨_, hlength, hreply⟩ :=
    ran_keeps os clock disk ops AnswersCircuits (fun _ => ⟨rfl, rfl, by simp [requests, construct]⟩)
      (fun _ _ _ hact hm => hm.act hact) hwritten
  generalize (ran os clock disk ops).trace = events at *
  have hbuilt : ∀ (i : ℕ) (reply : Bytes), (replies events)[i]? = some reply →
      ∃ request server, (requests events)[i]? = some request ∧
        reply = buildVirtualConnectAccept server ⟨request.fieldC, request.fieldD⟩ request.fieldE
          (Int32.ofNat (circuitNumber (i+1))) := by
    intro i reply hsome
    have hi : i < (requests events).length := hlength ▸ (List.getElem?_eq_some_iff.mp hsome).1
    obtain ⟨server, hserver⟩ := hreply i _ (List.getElem?_eq_getElem hi)
    rw [hsome, Option.some.injEq] at hserver
    exact ⟨_, server, List.getElem?_eq_getElem hi, hserver⟩
  refine ⟨List.forall₂_iff_get.mpr ⟨hlength.symm, fun i hi hi' => ?_⟩, ?_⟩
  · obtain ⟨request, server, hrequest, hbuild⟩ := hbuilt i _ (List.getElem?_eq_getElem hi')
    rw [List.getElem?_eq_getElem hi, Option.some.injEq] at hrequest
    rw [List.get_eq_getElem, List.get_eq_getElem, hrequest, hbuild]
    exact accepts_build request server i
  · intro i j a b hlt hnear ha hb
    obtain ⟨_, _, _, rfl⟩ := hbuilt i a ha
    obtain ⟨_, _, _, rfl⟩ := hbuilt j b hb
    simp only [buildVirtualConnectAccept_read, Word32.lowerHalf_packed]
    intro hsame
    have hnumbers := congrArg BitVec.toNat hsame
    rw [Word32.lowerHalf_ofNat _ (circuitNumber_lt _),
      Word32.lowerHalf_ofNat _ (circuitNumber_lt _)]
      at hnumbers
    exact circuitNumber_ne hlt hnear hnumbers

/-- Two requests on one connection. -/
theorem circuits_answered_twice :
    let m := ran (.scripted [[.data loginResponse], [.data circuitRequest, .data circuitRequest]]
      [.took 54, .took 36, .took 36]) (.const 0) .blank
      [.connectInBackground [], .connectInBackground [], .tick]
    (replies m.trace).length = 2 ∧ List.Forall₂ Accepts (requests m.trace) (replies m.trace) ∧
    ∀ (i j : ℕ) (a b : Bytes), i < j → j < i + 65535 → (replies m.trace)[i]? = some a →
      (replies m.trace)[j]? = some b →
      Word32.lowerHalf (PacketHeader.read a).fieldE ≠ Word32.lowerHalf
        (PacketHeader.read b).fieldE :=
  ⟨by decide +kernel, circuits_answered _ _ _ _ (by decide +kernel)⟩

end NetNatsue
