import NetNatsue.Socket.Traffic

/-! The handles of the socket: only its own is open, and only while it is live. -/
namespace NetNatsue.NetNatsueSocket

/-- A socket that is not live has no handle and nothing to send, and no handle but its own is
open. -/
structure Tidy (s : NetNatsueSocket) : Prop where
  resolved : s.myState ≠ .resolving
  handle : ¬ s.Live → s.myHandle = none
  output : ¬ s.Live → s.myOutput = []
  openHandles : s.os.openHandles = s.myHandle.toList

section
variable {s t : NetNatsueSocket}

theorem close_openHandles (h : s.os.openHandles = s.myHandle.toList) :
    s.close.os.openHandles = [] := by
  simp only [close, h]
  cases s.myHandle with
  | none => rfl
  | some handle => simp

theorem down_of (h : s.myState = .closed ∨ s.myState = .failed) : ¬ s.Live := by
  rcases h with h | h <;> simp [h]

/-- A socket that is down stays down unless it begins a connection. -/
theorem Drifts.down (h : s.Drifts t) (hs : ¬ s.Live) : ¬ t.Live := by
  rintro (hstate | hstate)
  · exact hs (h.connected hstate)
  · exact hs (Or.inr (h.connecting hstate))

theorem tidy_down (hstate : s.myState = .closed ∨ s.myState = .failed) (hhandle : s.myHandle = none)
    (houtput : s.myOutput = []) (hopen : s.os.openHandles = []) : s.Tidy where
  resolved := by rcases hstate with h | h <;> simp [h]
  handle _ := hhandle
  output _ := houtput
  openHandles := by rw [hopen, hhandle, Option.toList_none]

theorem tidy_close (h : s.os.openHandles = s.myHandle.toList) : s.close.Tidy :=
  tidy_down (Or.inl rfl) rfl rfl (close_openHandles h)

theorem tidy_failed (h : s.os.openHandles = s.myHandle.toList) (errno : Int32) :
    ({ s.closeWith errno with myState := .failed } : NetNatsueSocket).Tidy :=
  tidy_down (Or.inr rfl) rfl rfl (close_openHandles (s := { s with myLastSystemError := errno }) h)

/-- As long as the socket is live its buffers do not matter. -/
theorem tidy_live (hlive : t.Live) (h : t.os.openHandles = t.myHandle.toList) : t.Tidy where
  resolved := by rcases hlive with hstate | hstate <;> simp [hstate]
  handle hdown := absurd hlive hdown
  output hdown := absurd hlive hdown
  openHandles := h

theorem tidy_flushLoop (n : ℕ) (s : NetNatsueSocket) (hstate : s.myState = .connected)
    (h : s.os.openHandles = s.myHandle.toList) : (flushLoop n s).2.Tidy := by
  induction n generalizing s with
  | zero => exact tidy_live (Or.inl hstate) h
  | succ n ih =>
    simp only [flushLoop]
    by_cases hempty : s.myOutput = []
    · rw [if_pos hempty]
      exact tidy_live (Or.inl hstate) h
    · rw [if_neg hempty]
      cases s.os.sends.head with
      | took count => exact ih _ hstate h
      | failed errno =>
        simp only
        split_ifs
        · exact tidy_live (Or.inl hstate) h
        · exact tidy_close (s := { s.popSend with myLastSystemError := errno }) h

theorem Tidy.flushOutput (h : s.Tidy) : s.flushOutput.2.Tidy := by
  unfold NetNatsueSocket.flushOutput
  split_ifs with hstate
  · exact h
  · exact tidy_flushLoop _ s (not_not.mp hstate) h.openHandles

theorem Tidy.write (h : s.Tidy) (data : Bytes) (size : Int32) : (s.write data size).2.Tidy := by
  unfold NetNatsueSocket.write
  split_ifs with hrefuse
  · exact h
  · exact h
  · have hstate : (s.queue (data.take size.toInt.toNat)).myState = .connected := by
      by_contra hother
      exact hrefuse (Or.inl hother)
    exact (tidy_live (Or.inl hstate) h.openHandles).flushOutput

theorem tidy_readLoop (answers : List RecvAnswer) (s : NetNatsueSocket)
    (hstate : s.myState = .connected)
    (h : s.os.openHandles = s.myHandle.toList) : (readLoop answers s).2.Tidy := by
  induction answers generalizing s with
  | nil => exact tidy_live (Or.inl hstate) h
  | cons answer answers ih =>
    cases answer with
    | data bytes =>
      simp only [readLoop]
      split_ifs
      · exact tidy_close h
      · exact ih (s.gotBytes bytes) hstate h
    | failed errno =>
      simp only [readLoop]
      split_ifs
      · exact tidy_live (Or.inl hstate) h
      · exact tidy_close (s := { s with myLastSystemError := errno }) h

theorem Tidy.readInput (h : s.Tidy) : s.readInput.2.Tidy := by
  unfold NetNatsueSocket.readInput
  split_ifs with hstate
  · exact h
  · exact tidy_readLoop _ s.popRecv (not_not.mp hstate) h.openHandles

theorem Tidy.pumpConnect (h : s.Tidy) : s.pumpConnect.Tidy := by
  unfold NetNatsueSocket.pumpConnect
  split_ifs with hstate
  · exact h
  · have hconnecting : s.myState = .connecting := not_not.mp hstate
    cases s.os.selects.head with
    | failed errno => exact tidy_failed (s := s.popSelect) h.openHandles errno
    | notReady => exact tidy_live (Or.inr hconnecting) h.openHandles
    | ready socketError inErrorSet inWriteSet errno =>
      simp only
      split_ifs
      · exact tidy_failed (s := s.popSelect) h.openHandles _
      · exact tidy_failed (s := s.popSelect) h.openHandles _
      · exact tidy_live (Or.inl rfl) h.openHandles
      · exact tidy_live (Or.inr hconnecting) h.openHandles

theorem Tidy.pump (h : s.Tidy) : s.pump.2.Tidy := by
  unfold NetNatsueSocket.pump
  split_ifs
  · exact h.pumpConnect
  · exact h
  · simp only
    split_ifs
    · exact h.flushOutput.readInput
    · exact h.flushOutput

theorem Tidy.consumeInput (h : s.Tidy) (bytes : Int32) : (s.consumeInput bytes).Tidy := by
  unfold NetNatsueSocket.consumeInput
  split_ifs <;> exact ⟨h.resolved, h.handle, h.output, h.openHandles⟩

/-- A connection is begun with no handle open. -/
theorem Tidy.beginConnect (h : s.Tidy) : s.beginConnect.2.Tidy := by
  have hclosed := close_openHandles h.openHandles
  have hown : ∀ handle, (s.close.popConnect.opened handle).os.openHandles =
      (s.close.popConnect.opened handle).myHandle.toList :=
    fun handle => congrArg (List.cons handle) hclosed
  unfold NetNatsueSocket.beginConnect
  simp only
  cases s.close.os.connects.head with
  | unresolved errno => exact tidy_down (Or.inr rfl) rfl rfl hclosed
  | noSocket errno => exact tidy_down (Or.inr rfl) rfl rfl hclosed
  | notNonBlocking handle errno => exact tidy_failed (hown handle) errno
  | connected handle => exact tidy_live (Or.inl rfl) (hown handle)
  | failed handle errno =>
    simp only
    split_ifs
    · exact tidy_live (Or.inr rfl) (hown handle)
    · exact tidy_failed (s := { s.close.popConnect.opened handle
        with myInput := [], myOutput := [] })
        (hown handle) errno

/-- An attempt that fails leaves no live connection. -/
theorem beginConnect_down (h : s.beginConnect.1 = false) : ¬ s.beginConnect.2.Live := by
  unfold NetNatsueSocket.beginConnect at h ⊢
  simp only at h ⊢
  cases hanswer : s.close.os.connects.head with
  | unresolved errno => exact down_of (Or.inr rfl)
  | noSocket errno => exact down_of (Or.inr rfl)
  | notNonBlocking handle errno => exact down_of (Or.inr rfl)
  | connected handle =>
    rw [hanswer] at h
    cases h
  | failed handle errno =>
    simp only [hanswer] at h ⊢
    split_ifs at h ⊢
    exact down_of (Or.inr rfl)

theorem readLoop_failed (answers : List RecvAnswer) (s : NetNatsueSocket)
    (h : (readLoop answers s).1 = false) : (readLoop answers s).2.myState = .closed := by
  induction answers generalizing s with
  | nil => cases h
  | cons answer answers ih =>
    cases answer with
    | data bytes =>
      simp only [readLoop] at h ⊢
      split_ifs at h ⊢
      · rfl
      · exact ih (s.gotBytes bytes) h
    | failed errno =>
      simp only [readLoop] at h ⊢
      split_ifs at h ⊢
      rfl

/-- A pump that fails leaves no live connection. -/
theorem pump_down (h : s.pump.1 = false) : ¬ s.pump.2.Live := by
  unfold NetNatsueSocket.pump at h ⊢
  split_ifs at h ⊢ with hconnecting hconnected
  · simp only [decide_eq_false_iff_not] at h
    exact fun hlive => h hlive.symm
  · exact not_or.mpr ⟨hconnected, hconnecting⟩
  · have hstart : s.flushOutput = flushLoop s.myOutput.length s := by
      rw [flushOutput, if_neg hconnected]
    simp only at h ⊢
    split_ifs at h ⊢ with hflush
    · rw [hstart] at h hflush ⊢
      have hstate := (flushLoop_line _ s hflush).2.2.trans (not_not.mp hconnected)
      rw [NetNatsueSocket.readInput, if_neg (not_not_intro hstate)] at h ⊢
      exact down_of (Or.inl (readLoop_failed _ _ h))
    · rw [hstart] at hflush ⊢
      exact down_of (Or.inl (flushLoop_failed _ s (by simpa using hflush)))

end

/-- An operation on the socket that opens no connection. -/
inductive Used : NetNatsueSocket → NetNatsueSocket → Prop
  | close (s : NetNatsueSocket) : Used s s.close
  | write (s : NetNatsueSocket) (data : Bytes) (size : Int32) : Used s (s.write data size).2
  | pumpConnect (s : NetNatsueSocket) : Used s s.pumpConnect
  | pump (s : NetNatsueSocket) : Used s s.pump.2
  | consumeInput (s : NetNatsueSocket) (bytes : Int32) : Used s (s.consumeInput bytes)

theorem Used.drifts {s t : NetNatsueSocket} (h : s.Used t) : s.Drifts t := by
  cases h with
  | close => exact drifts_close s
  | write data size => exact drifts_write s data size
  | pumpConnect => exact drifts_pumpConnect s
  | pump => exact drifts_pump s
  | consumeInput bytes => exact drifts_consumeInput s bytes

theorem Used.tidy {s t : NetNatsueSocket} (h : s.Used t) (hs : s.Tidy) : t.Tidy := by
  cases h with
  | close => exact tidy_close hs.openHandles
  | write data size => exact hs.write data size
  | pumpConnect => exact hs.pumpConnect
  | pump => exact hs.pump
  | consumeInput bytes => exact hs.consumeInput bytes

abbrev Uses : NetNatsueSocket → NetNatsueSocket → Prop := Relation.ReflTransGen Used

theorem Uses.drifts {s t : NetNatsueSocket} (h : s.Uses t) : s.Drifts t := by
  induction h with
  | refl => exact drifts_refl s
  | tail _ hused ih => exact ih.trans hused.drifts

end NetNatsue.NetNatsueSocket
