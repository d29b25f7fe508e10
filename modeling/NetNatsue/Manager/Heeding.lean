import NetNatsue.Manager.Aftermath

/-! What a pump does, frame by frame. A pump reads the clock, moves the socket, handles the
frames that have arrived, and begins or gives up a login or a connection; it does nothing
else. Where a frame is met a login is awaited, the client is online, or the socket is down. -/
namespace NetNatsue.DSNetManager

/-- Frames are met in these states only. -/
def Listens (m : DSNetManager) : Prop :=
  m.myConnectPhase = .awaitHandshake ∨ m.myConnectPhase = .online ∨ m.mySocket.myState ≠ .connected

/-- The things a pump does one after another, as far as the connection can tell them apart. -/
inductive Heeded : DSNetManager → DSNetManager → Prop
  | clock (m : DSNetManager) : Heeded m m.nowMs.2
  | socket (m : DSNetManager) (s : NetNatsueSocket) (h : m.mySocket.Turned s) :
    Heeded m { m with mySocket := s }
  | heard (m n : DSNetManager) (totalSize : Int32)
    (hcut : cut m.myTransactions m.mySocket.myInput = .frame totalSize) (hlistens : m.Listens)
    (h : Met m (m.mySocket.myInput.take totalSize.toInt.toNat) n) : Heeded m (n.consume totalSize)
  | dropped (m n : DSNetManager) (frame : Bytes) (hlistens : m.Listens) (h : Met m frame n)
    (hgone : n.myConnectPhase = .idle) : Heeded m n
  | lost (m : DSNetManager) : Heeded m m.connectionLost
  | fail (m : DSNetManager) (rawError : Int32)
    (h : m.myConnectPhase = .connecting ∨ m.myConnectPhase = .awaitHandshake)
    (hdown : ¬ m.mySocket.Live) : Heeded m (m.failWith rawError)
  | handshake (m : DSNetManager) (h : m.myConnectPhase = .connecting)
    (hconnected : m.mySocket.myState = .connected) : Heeded m m.sendHandshake

abbrev Heeds : DSNetManager → DSNetManager → Prop := Relation.ReflTransGen Heeded

theorem connectionLost_listens (m : DSNetManager) : m.connectionLost.Listens := by
  refine Or.inr (Or.inr ?_)
  simp [connectionLost, emit, markEveryoneOffline]

theorem Listens.of_eq {m n : DSNetManager} (h : m.Listens)
    (hphase : n.myConnectPhase = m.myConnectPhase)
    (hstate : n.mySocket.myState = m.mySocket.myState) : n.Listens := by
  rwa [Listens, hphase, hstate]

theorem Met.listens {m n : DSNetManager} {frame : Bytes} (h : Met m frame n) (hm : m.Listens) :
    n.Listens := by
  cases h with
  | response => exact hm.of_eq rfl rfl
  | stray => exact hm.of_eq rfl rfl
  | refused => exact Or.inr (Or.inr (by simp [refuseLogin]))
  | accepted => exact Or.inr (Or.inl (acceptLogin_phase _ _ _ _))
  | message =>
    have hplain :=
      undisturbed_handleMessage (m.emit (.packet m.myConnectPhase (PacketHeader.read frame) frame))
      (frame.drop packetHeaderSize) (sizeInt frame - 32)
    exact hm.of_eq hplain.phase (congrArg NetNatsueSocket.myState hplain.socket)
  | presence uin online nickName =>
    have hplain :=
      undisturbed_updatePresence (m.emit (.packet m.myConnectPhase (PacketHeader.read frame) frame))
      uin online nickName
    exact hm.of_eq hplain.phase (congrArg NetNatsueSocket.myState hplain.socket)
  | circuit =>
    simp only [handleVirtualConnect]
    split_ifs with hok
    · generalize buildVirtualConnectAccept _ _ _ _ = packet at *
      rcases hm with hphase | hphase | hdown
      · exact Or.inl ((socketWrite_phase _ packet).trans hphase)
      · exact Or.inr (Or.inl ((socketWrite_phase _ packet).trans hphase))
      · have hrefused : (m.mySocket.write packet (sizeInt packet)).1 = false := by
          unfold NetNatsueSocket.write
          rw [if_pos (Or.inl hdown)]
        rw [socketWrite] at hok
        exact absurd (hok.symm.trans hrefused) (by decide)
    · exact connectionLost_listens _
  | ignored => exact hm.of_eq rfl rfl

theorem heeds_processInputBody (m : DSNetManager) (h : m.Listens) :
    Heeds m m.processInputBody.state ∧ m.processInputBody.state.Listens := by
  cases hcut : cut m.myTransactions m.mySocket.myInput with
  | wait =>
    rw [processInputBody_wait m hcut]
    exact ⟨.refl, h⟩
  | lost =>
    rw [processInputBody_lost m hcut]
    exact ⟨.single (.lost m), connectionLost_listens m⟩
  | frame totalSize =>
    have hmet := met_handleFrame m totalSize hcut
    have hlistens := hmet.listens h
    rw [processInputBody_frame m totalSize hcut]
    split_ifs with hkept
    · exact ⟨.single (.heard m _ totalSize hcut h hmet),
        hlistens.of_eq rfl (consume_state _ totalSize)⟩
    · have hgone := (handleFrame_gone m m.mySocket.myInput totalSize (by simpa using hkept)).1
      exact ⟨.single (.dropped m _ _ h hmet hgone), hlistens⟩

theorem Heeded.down {m n : DSNetManager} (h : Heeded m n) (hdown : ¬ m.mySocket.Live) :
    ¬ n.mySocket.Live := by
  cases h with
  | clock => exact hdown
  | socket s hturned => exact hturned.drifts.down hdown
  | heard k totalSize _ _ hmet =>
    exact (k.mySocket.drifts_consumeInput totalSize).down (hmet.down hdown)
  | dropped _ _ _ hmet => exact hmet.down hdown
  | lost => exact (spares_connectionLost m).uses.drifts.down hdown
  | fail rawError => exact (spares_failWith m rawError).uses.drifts.down hdown
  | handshake => exact (spares_sendHandshake m).uses.drifts.down hdown

theorem Heeds.down {m n : DSNetManager} (h : Heeds m n) (hdown : ¬ m.mySocket.Live) :
    ¬ n.mySocket.Live := by
  induction h with
  | refl => exact hdown
  | tail _ hheeded ih => exact hheeded.down ih

theorem heeds_processInput (m : DSNetManager) (h : m.Listens) : Heeds m m.processInput := by
  refine (Loop.iterate_keeps (fun n => Heeds m n ∧ n.Listens) ?_ _ m ⟨.refl, h⟩).1
  rintro n ⟨hn, hlistens⟩
  obtain ⟨hround, hafter⟩ := heeds_processInputBody n hlistens
  exact ⟨hn.trans hround, hafter⟩

theorem heeds_socketPump (m : DSNetManager) : Heeds m m.socketPump.2 :=
  .single (.socket m _ (.pump m.mySocket))

theorem heeds_pumpConnecting (m : DSNetManager) (h : m.myConnectPhase = .connecting) :
    Heeds m m.pumpConnecting := by
  have hsocket : Heeds m m.pumpConnectSocket := .single (.socket m _ (.pumpConnect m.mySocket))
  have hphase : m.pumpConnectSocket.myConnectPhase = .connecting := h
  simp only [pumpConnecting]
  split_ifs with hconnected hconnecting
  · exact hsocket.tail (.handshake _ hphase hconnected)
  · exact hsocket.tail (.fail _ _ (Or.inl hphase) (not_or.mpr ⟨hconnected, hconnecting⟩))
  · exact hsocket

theorem heeds_pumpAwaiting (m : DSNetManager) (h : m.myConnectPhase = .awaitHandshake) :
    Heeds m m.pumpAwaiting := by
  have hphase : m.socketPump.2.myConnectPhase = .awaitHandshake := h
  have hread := heeds_processInput m.socketPump.2 (Or.inl hphase)
  have hinput := (heeds_socketPump m).trans hread
  simp only [pumpAwaiting]
  split_ifs with hlost
  · have hdown : ¬ m.socketPump.2.mySocket.Live :=
      NetNatsueSocket.pump_down (Bool.not_eq_true _ ▸ hlost.2)
    exact hinput.tail (.fail _ _ (Or.inr hlost.1) (hread.down hdown))
  · exact hinput

theorem heeds_pumpTimeout (m : DSNetManager) : Heeds m m.pumpTimeout := by
  have hnow : Heeds m m.nowMs.2 := .single (.clock m)
  simp only [pumpTimeout]
  split_ifs with hphase
  · have hclose : Heeds m m.nowMs.2.closeSocket :=
      hnow.tail (.socket _ _ (.close _))
    exact hclose.tail (.fail _ 0 hphase (NetNatsueSocket.down_of (Or.inl rfl)))
  · exact hnow
  · exact .refl

theorem heeds_pumpConnectPhase (m : DSNetManager) : Heeds m m.pumpConnectPhase := by
  have hconnecting : Heeds m (if m.myConnectPhase = .connecting then m.pumpConnecting else m) := by
    split_ifs with h
    · exact heeds_pumpConnecting m h
    · exact .refl
  have hawaiting : ∀ n : DSNetManager,
      Heeds n (if n.myConnectPhase = .awaitHandshake then n.pumpAwaiting else n) := by
    intro n
    split_ifs with h
    · exact heeds_pumpAwaiting n h
    · exact .refl
  exact (hconnecting.trans (hawaiting _)).trans (heeds_pumpTimeout _)

/-- A pump is made of these. -/
theorem heeds_pump (m : DSNetManager) : Heeds m m.pump := by
  unfold pump
  split_ifs with _ honline
  · exact heeds_pumpConnectPhase m
  · exact .refl
  · have hphase : m.socketPump.2.myConnectPhase = .online := not_not.mp honline
    have hinput :=
      (heeds_socketPump m).trans (heeds_processInput m.socketPump.2 (Or.inr (Or.inl hphase)))
    simp only [pumpOnline]
    split_ifs
    · exact hinput.tail (.lost _)
    · exact hinput

end NetNatsue.DSNetManager
