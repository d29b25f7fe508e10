import NetNatsue.Manager.LettingGo
import NetNatsue.Manager.Outcome
import NetNatsue.Socket.Losses

/-! What may be left over between two ticks: of the input less than one packet, of the output only
what the system put off. -/
namespace NetNatsue

namespace NetNatsueSocket

/-- `send()` has last said that it takes nothing for now. -/
def PutOff (answers : Stream' SendAnswer) (s : NetNatsueSocket) : Prop :=
  ∃ asked errno, s.os.sends = answers.drop (asked+1) ∧ answers.get asked = .failed
    errno ∧ ¬ Hard errno

/-- The answers of `send()` are used in order, and nothing waits to be sent but behind one that put
it off. -/
structure Prompt (answers : Stream' SendAnswer) (s : NetNatsueSocket) : Prop where
  sends : ∃ asked, s.os.sends = answers.drop asked
  waits : s.myOutput ≠ [] → s.PutOff answers

section
variable {answers : Stream' SendAnswer} {s t : NetNatsueSocket}

theorem Prompt.of_eq (h : s.Prompt answers) (hsends : t.os.sends = s.os.sends)
    (houtput : t.myOutput = s.myOutput ∨ t.myOutput = []) : t.Prompt answers where
  sends := by
    rw [hsends]
    exact h.sends
  waits hsome := by
    rcases houtput with houtput | houtput
    · rw [houtput] at hsome
      rw [PutOff, hsends]
      exact h.waits hsome
    · exact absurd houtput hsome

theorem Prompt.close (h : s.Prompt answers) : s.close.Prompt answers := h.of_eq rfl (Or.inr rfl)

/-- Flushing goes on until nothing is left, or the system takes no more. -/
theorem prompt_flushLoop (n : ℕ) (s : NetNatsueSocket)
    (hsends : ∃ asked, s.os.sends = answers.drop asked)
    (hn : s.myOutput.length ≤ n) : (flushLoop n s).2.Prompt answers := by
  induction n generalizing s with
  | zero =>
    have hempty : s.myOutput = [] := List.eq_nil_of_length_eq_zero (by omega)
    exact ⟨hsends, fun hsome => absurd hempty hsome⟩
  | succ n ih =>
    obtain ⟨asked, hasked⟩ := hsends
    have hpop : s.popSend.os.sends = answers.drop (asked+1) := by
      rw [← Stream'.tail_drop']
      exact congrArg Stream'.tail hasked
    simp only [flushLoop]
    by_cases hempty : s.myOutput = []
    · rw [if_pos hempty]
      exact ⟨⟨asked, hasked⟩, fun hsome => absurd hempty hsome⟩
    · rw [if_neg hempty]
      have hpos := List.length_pos_of_ne_nil hempty
      cases hanswer : s.os.sends.head with
      | took count =>
        refine ih _ ⟨asked+1, hpop⟩ ?_
        simp only [tookBytes, popSend, List.length_drop]
        omega
      | failed errno =>
        simp only
        split_ifs with hsoft
        · refine ⟨⟨asked+1, hpop⟩, fun _ => ⟨asked, errno, hpop, ?_, not_not_intro hsoft⟩⟩
          rw [← hanswer, hasked, Stream'.head_drop]
        · exact ⟨⟨asked+1, hpop⟩, fun hsome => absurd rfl hsome⟩

theorem Prompt.flushOutput (h : s.Prompt answers) : s.flushOutput.2.Prompt answers := by
  unfold NetNatsueSocket.flushOutput
  split_ifs
  · exact h
  · exact prompt_flushLoop _ s h.sends le_rfl

theorem Prompt.write (h : s.Prompt answers) (data : Bytes) (size : Int32) :
    (s.write data size).2.Prompt answers := by
  unfold NetNatsueSocket.write
  by_cases hrefused : s.myState ≠ .connected ∨ size < 0
  · rw [if_pos hrefused]
    exact h
  · rw [if_neg hrefused]
    split_ifs
    · exact h
    · have hstate : s.myState = .connected := by tauto
      unfold NetNatsueSocket.flushOutput
      rw [if_neg (not_not_intro (show (s.queue _).myState = .connected from hstate))]
      exact prompt_flushLoop _ (s.queue _) h.sends le_rfl

theorem Prompt.readLoop (h : s.Prompt answers) (given : List RecvAnswer) :
    (readLoop given s).2.Prompt answers := by
  induction given generalizing s with
  | nil => exact h
  | cons answer given ih =>
    cases answer with
    | data bytes =>
      simp only [NetNatsueSocket.readLoop]
      split_ifs
      · exact h.close
      · exact ih (h.of_eq rfl (Or.inl rfl))
    | failed errno =>
      simp only [NetNatsueSocket.readLoop]
      split_ifs
      · exact h
      · exact h.of_eq rfl (Or.inr rfl)

theorem Prompt.readInput (h : s.Prompt answers) : s.readInput.2.Prompt answers := by
  have hpop : s.popRecv.Prompt answers := h.of_eq rfl (Or.inl rfl)
  unfold NetNatsueSocket.readInput
  split_ifs
  · exact h
  · exact hpop.readLoop _

theorem Prompt.pumpConnect (h : s.Prompt answers) : s.pumpConnect.Prompt answers := by
  unfold NetNatsueSocket.pumpConnect
  split_ifs
  · exact h
  · cases s.os.selects.head with
    | failed errno => exact h.of_eq rfl (Or.inr rfl)
    | notReady => exact h.of_eq rfl (Or.inl rfl)
    | ready socketError inErrorSet inWriteSet errno =>
      simp only
      split_ifs
      · exact h.of_eq rfl (Or.inr rfl)
      · exact h.of_eq rfl (Or.inr rfl)
      · exact h.of_eq rfl (Or.inl rfl)
      · exact h.of_eq rfl (Or.inl rfl)

theorem Prompt.pump (h : s.Prompt answers) : s.pump.2.Prompt answers := by
  unfold NetNatsueSocket.pump
  split_ifs
  · exact h.pumpConnect
  · exact h
  · simp only
    split_ifs
    · exact h.flushOutput.readInput
    · exact h.flushOutput

theorem Prompt.consumeInput (h : s.Prompt answers) (bytes : Int32) :
    (s.consumeInput bytes).Prompt answers := by
  unfold NetNatsueSocket.consumeInput
  split_ifs <;> exact h.of_eq rfl (Or.inl rfl)

theorem Prompt.beginConnect (h : s.Prompt answers) : s.beginConnect.2.Prompt answers := by
  unfold NetNatsueSocket.beginConnect
  simp only
  cases s.close.os.connects.head with
  | failed handle errno =>
    simp only
    split_ifs <;> exact h.of_eq rfl (Or.inr rfl)
  | _ => exact h.of_eq rfl (Or.inr rfl)

theorem Used.prompt (h : s.Used t) (hs : s.Prompt answers) : t.Prompt answers := by
  cases h with
  | close => exact hs.close
  | write data size => exact hs.write data size
  | pumpConnect => exact hs.pumpConnect
  | pump => exact hs.pump
  | consumeInput bytes => exact hs.consumeInput bytes

end
end NetNatsueSocket

/-- Only a handshake response makes the framer wait before it knows the length. -/
theorem unsolicitedSize_wait (input : Bytes) (inputSize : Int32) (header : PacketHeader)
    (h : unsolicitedSize input inputSize header = .wait) : inputSize < 48 := by
  unfold unsolicitedSize at h
  split at h <;> try cases h
  simp only at h
  split_ifs at h with hshort
  exact hshort

/-- What the framer waits with is shorter than the longest packet. -/
theorem cut_wait (transactions : Int32 → Option Transaction) (input : Bytes)
    (h : cut transactions input = .wait) :
    (sizeInt input).toInt < 33554480 := by
  have h32 : (32 : Int32).toInt = 32 := rfl
  have h48 : (48 : Int32).toInt = 48 := rfl
  unfold cut at h
  simp only at h
  by_cases hshort : sizeInt input < 32
  · rw [Word32.lt_iff] at hshort
    omega
  · by_cases hberserk : (PacketHeader.read input).furtherData < 0 ∨
        (PacketHeader.read input).furtherData > maxFurtherData
    · simp [hshort, hberserk] at h
    · obtain ⟨hd, hd'⟩ := furtherData_exact _ hberserk
      rw [if_neg hshort, if_neg hberserk] at h
      unfold claimedSize at h
      cases hanswer : answeredBy transactions (PacketHeader.read input).ticket with
      | some transaction =>
        obtain ⟨_, hextra, hfixed⟩ := extra_toInt transaction.fixedExtra
        have htotal :=
          toInt_add_checked (32 + transaction.fixedExtra.val) _ (by omega) (by omega) hd hd'
        simp only [hanswer] at h
        split_ifs at h with hpart
        rw [Word32.lt_iff] at hpart
        omega
      | none =>
        simp only [hanswer] at h
        cases hclaim : unsolicitedSize input (sizeInt input) (PacketHeader.read input) with
        | wait =>
          have hshort := unsolicitedSize_wait _ _ _ hclaim
          rw [Word32.lt_iff] at hshort
          omega
        | lost => simp [hclaim] at h
        | frame totalSize =>
          have hbounds := unsolicitedSize_frame _ _ _ _ hd hd' hclaim
          simp only [hclaim] at h
          split_ifs at h with hpart
          rw [Word32.lt_iff] at hpart
          omega

namespace DSNetManager

/-- A connection that is up behind `ProcessInput` waits for more. -/
theorem processInput_waits (m : DSNetManager) (h : m.processInput.myConnectPhase = .online) :
    m.processInput.Waiting :=
  processInput_stable.run_waits m h

theorem pumpAwaiting_waits (m : DSNetManager) (h : m.pumpAwaiting.myConnectPhase = .online) :
    m.pumpAwaiting.Waiting := by
  unfold pumpAwaiting at h ⊢
  simp only at h ⊢
  split_ifs at h ⊢
  · cases h
  · exact processInput_waits _ h

/-- A connection that is up is not timed. -/
theorem pumpTimeout_online (m : DSNetManager) (h : m.pumpTimeout.myConnectPhase = .online) :
    m.pumpTimeout = m := by
  unfold pumpTimeout at h ⊢
  split_ifs at h ⊢ with hphase
  · simp only at h
    split_ifs at h
    · cases h
    · change m.myConnectPhase = .online at h
      simp [h] at hphase
  · rfl

theorem pumpConnectPhase_waits (m : DSNetManager) (hm : m.myConnectPhase ≠ .online)
    (h : m.pumpConnectPhase.myConnectPhase = .online) : m.pumpConnectPhase.Waiting := by
  have hconnected : m.connected.myConnectPhase ≠ .online := by
    unfold connected
    split_ifs with hconnecting
    · exact pumpConnecting_phase m hconnecting
    · exact hm
  have hpump : m.pumpConnectPhase = (if m.connected.myConnectPhase = .awaitHandshake then
      m.connected.pumpAwaiting else m.connected).pumpTimeout := rfl
  rw [hpump] at h ⊢
  have htimed := pumpTimeout_online _ h
  rw [htimed] at h ⊢
  split_ifs at h ⊢
  · exact pumpAwaiting_waits _ h
  · exact absurd h hconnected

/-- **The pump leaves no whole packet behind.** -/
theorem pump_waits (m : DSNetManager) (h : m.pump.myConnectPhase = .online) : m.pump.Waiting := by
  unfold pump at h ⊢
  split_ifs at h ⊢ with hconnecting honline
  · exact pumpConnectPhase_waits m (by rintro hphase; simp [hphase] at hconnecting) h
  · exact absurd h honline
  · unfold pumpOnline at h ⊢
    simp only at h ⊢
    split_ifs at h ⊢
    · cases h
    · exact processInput_waits _ h

theorem tick_waits (m : DSNetManager) (h : (Op.tick.run m).2.myConnectPhase = .online) :
    (Op.tick.run m).2.Waiting := by
  change (m.pump.processQueuedMessages fun _ n => n).myConnectPhase = .online at h
  change (m.pump.processQueuedMessages fun _ n => n).Waiting
  unfold processQueuedMessages at h ⊢
  cases hqueue : m.pump.myQueuedMessages with
  | nil =>
    rw [hqueue] at h
    exact pump_waits m h
  | cons message messages =>
    rw [hqueue] at h
    exact pump_waits m h

theorem prompt_runOps {answers : Stream' SendAnswer} (ops : List Op) (m : DSNetManager)
    (h : m.mySocket.Prompt answers) : (runOps ops m).2.mySocket.Prompt answers :=
  socket_runOps NetNatsueSocket.Used.prompt NetNatsueSocket.Prompt.beginConnect ops m h

end DSNetManager

open DSNetManager

/-- **Nothing lies idle.** In every run, a tick behind which the client is online has handled every
packet that is there, so that less than one is left, and has sent everything but what the system did
not take when it was last asked. -/
theorem nothing_lies_idle (os : SocketOS) (clock : Stream' UInt32) (disk : Disk) (ops : List Op)
    (m n : DSNetManager) (hrun : m = ran os clock disk ops) (htick : n = (Op.tick.run m).2)
    (honline : n.Online) :
    n.Waiting ∧ (n.mySocket.myInput.length < 2147483648 → n.mySocket.myInput.length < 33554480) ∧
      (n.mySocket.myOutput ≠ [] → n.mySocket.PutOff os.sends) := by
  subst hrun htick
  have hwaits := tick_waits _ honline.1
  have hstart : (construct os clock disk).mySocket.Prompt os.sends :=
    ⟨⟨0, rfl⟩, fun hsome => absurd rfl hsome⟩
  have hran : (ran os clock disk ops).mySocket.Prompt os.sends := prompt_runOps ops _ hstart
  refine ⟨hwaits, fun hfit => ?_, ?_⟩
  · have hbound := cut_wait _ _ hwaits
    rw [sizeInt_toInt _ hfit] at hbound
    exact_mod_cast hbound
  · exact (socket_run NetNatsueSocket.Used.prompt NetNatsueSocket.Prompt.beginConnect
      .tick hran).waits

/-- The login response, a delivery ping and the first bytes of another packet come at once; the
system takes the handshake and nothing behind it. -/
def pinged : SocketOS :=
  .scripted [[.data (loginResponse ++ PacketHeader.write
    { type := 0x1E, fieldA := 9, fieldB := 1 } ++
    List.replicate 12 0 ++ [9, 0, 0])]] [.took 200]

theorem nothing_lies_idle_pinged :
    let n := (Op.tick.run (ran pinged (.const 0) .blank [.connectInBackground []])).2
    n.Waiting ∧ n.mySocket.myInput = [9, 0, 0] ∧ n.mySocket.PutOff pinged.sends := by
  intro n
  have hidle := nothing_lies_idle pinged (.const 0) .blank [.connectInBackground []] _ n rfl rfl
    (by decide +kernel)
  exact ⟨hidle.1, by decide +kernel, hidle.2.2 (by decide +kernel)⟩

end NetNatsue
