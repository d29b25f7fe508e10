import NetNatsue.Manager.Deeds

/-! What the calls do to the socket and the phase. -/
namespace NetNatsue
namespace DSNetManager

/-- The size of the handshake, as an `int`. -/
def handshakeSize (m : DSNetManager) : Int32 :=
  Int32.ofNat (54 + m.myNickname.length + m.myPassword.length)

/-- The connection comes up, and the size of the handshake is negative. -/
def Oversized (m : DSNetManager) : Prop :=
  m.myConnectPhase = .connecting ∧ m.mySocket.pumpConnect.myState = .connected ∧
    m.handshakeSize.toInt < 0

/-- The states agree on the socket and the phase. -/
structure Still (m n : DSNetManager) : Prop where
  socket : n.mySocket = m.mySocket
  phase : n.myConnectPhase = m.myConnectPhase

/-- One turn of the socket or the phase. The phase falls with the connection, unless `p`. -/
inductive Turn (p : Prop) : DSNetManager → DSNetManager → Prop
  | still (m n : DSNetManager) (h : Still m n) : Turn p m n
  | use (m : DSNetManager) (s : NetNatsueSocket) (h : m.mySocket.Used s) :
    Turn p m { m with mySocket := s }
  | rise (m : DSNetManager) (phase : ConnectPhase) (h : phase = .awaitHandshake ∨ phase = .online) :
    Turn p m (m.enter phase)
  | fall (m : DSNetManager) (phase : ConnectPhase) (hphase : phase = .idle ∨ phase = .failed)
    (h : ¬ m.mySocket.Live ∨ p) : Turn p m (m.enter phase)

abbrev Turns (p : Prop) : DSNetManager → DSNetManager → Prop := Relation.ReflTransGen (Turn p)

section
variable {p : Prop} {m n : DSNetManager}

theorem still_refl (m : DSNetManager) : Still m m := ⟨rfl, rfl⟩

theorem Still.trans {k : DSNetManager} (h : Still m n) (h' : Still n k) : Still m k :=
  ⟨h'.socket.trans h.socket, h'.phase.trans h.phase⟩

theorem Still.turns (h : Still m n) : Turns p m n := .single (.still m n h)

theorem turns_still (hsocket : n.mySocket = m.mySocket)
    (hphase : n.myConnectPhase = m.myConnectPhase) :
    Turns p m n := .single (.still m n ⟨hsocket, hphase⟩)

/-- What the operations on the socket keep, the turns keep. -/
theorem Turns.keeps {q : NetNatsueSocket → Prop} (hused : ∀ {s t}, s.Used t → q s → q t)
    (h : Turns p m n) (hm : q m.mySocket) : q n.mySocket := by
  induction h with
  | refl => exact hm
  | tail _ hturn ih =>
    cases hturn with
    | still n hstill =>
      rw [hstill.socket]
      exact ih
    | use s h => exact hused h ih
    | rise | fall => exact ih

/-- No turn begins an attempt to connect. -/
theorem Turns.settled (h : Turns p m n) (hm : m.myConnectPhase ≠ .connecting) :
    n.myConnectPhase ≠ .connecting := by
  induction h with
  | refl => exact hm
  | tail _ hturn ih =>
    cases hturn with
    | still n hstill =>
      rw [hstill.phase]
      exact ih
    | use => exact ih
    | rise phase hphase => rcases hphase with rfl | rfl <;> simp [enter]
    | fall phase hphase => rcases hphase with rfl | rfl <;> simp [enter]

/-- The phase has not fallen while the connection is live. -/
def Coupled (m : DSNetManager) : Prop :=
  m.myConnectPhase = .idle ∨ m.myConnectPhase = .failed → ¬ m.mySocket.Live

theorem Turns.coupled (h : Turns p m n) (hp : ¬ p) (hm : m.Coupled) : n.Coupled := by
  induction h with
  | refl => exact hm
  | tail _ hturn ih =>
    cases hturn with
    | still n hstill =>
      rw [Coupled, hstill.socket, hstill.phase]
      exact ih
    | use s hused => exact fun hdown => hused.drifts.down (ih hdown)
    | rise phase hphase => rcases hphase with rfl | rfl <;> simp [Coupled, enter]
    | fall phase _ hfall => exact fun _ => hfall.resolve_right hp

end

section
variable {p : Prop} (m : DSNetManager)

theorem turns_emit (e : Event) : Turns p m (m.emit e) := turns_still rfl rfl

theorem turns_nowMs : Turns p m m.nowMs.2 := turns_still rfl rfl

theorem turns_socketWrite (packet : Bytes) : Turns p m (m.socketWrite packet).2 := by
  have hwrite : Turns p m { m with mySocket := (m.mySocket.write packet (sizeInt packet)).2 } :=
    .single (.use m _ (.write _ _ _))
  simp only [socketWrite]
  split_ifs
  · exact hwrite.trans (turns_emit _ _)
  · exact hwrite

/-- The phase falls once the socket is closed. -/
theorem turns_closed (phase : ConnectPhase) (hphase : phase = .idle ∨ phase = .failed) :
    Turns p m (m.closeSocket.enter phase) := by
  have hclose : Turns p m m.closeSocket := .single (.use m _ (.close _))
  exact hclose.tail (.fall _ phase hphase (Or.inl (NetNatsueSocket.down_of (Or.inl rfl))))

theorem turns_disconnect : Turns p m m.disconnect :=
  (turns_closed m .idle (Or.inl rfl)).trans (turns_still rfl rfl)

theorem turns_connectionLost : Turns p m m.connectionLost :=
  (turns_closed m .idle (Or.inl rfl)).trans (turns_still rfl rfl)

theorem turns_failWith (rawError : Int32) (h : ¬ m.mySocket.Live ∨ p) :
    Turns p m (m.failWith rawError) := by
  have herror : Turns p m { m with myLastError := .offline, myRawError := rawError } :=
    turns_still rfl rfl
  exact herror.tail (.fall _ .failed (Or.inr rfl) h)

theorem handshakePacket_length (ticket : Int32) :
    (m.handshakePacket ticket).length = 54 + m.myNickname.length + m.myPassword.length := by
  simp only [handshakePacket, buildHandshake, List.length_append, PacketHeader.write_length,
    packetHeaderSize, putInt_length, List.length_singleton]
  omega

theorem handshakePacket_size (ticket : Int32) :
    sizeInt (m.handshakePacket ticket) = m.handshakeSize := by
  rw [sizeInt, handshakePacket_length, handshakeSize]

/-- The write of a handshake that has a size fails only with the connection. -/
theorem sendHandshake_down (hconnected : m.mySocket.myState = .connected) (ticket : Int32)
    (h : (m.nextTicket.2.socketWrite (m.handshakePacket ticket)).1 = false) :
    ¬ (m.nextTicket.2.socketWrite (m.handshakePacket ticket)).2.mySocket.Live ∨
      m.handshakeSize.toInt < 0 := by
  by_cases hsize : m.handshakeSize.toInt < 0
  · exact Or.inr hsize
  · left
    rw [socketWrite_socket]
    have hwrite : (m.mySocket.write (m.handshakePacket ticket)
      (sizeInt (m.handshakePacket ticket))).1 =
        false := by
      simp only [socketWrite] at h
      exact h
    have hdown := m.mySocket.write_failed _ _ (by rw [handshakePacket_size]; omega) hwrite
    have hkept := (m.mySocket.write_kept (m.handshakePacket ticket)
      (sizeInt (m.handshakePacket ticket))).2
    rw [hconnected] at hkept
    exact NetNatsueSocket.down_of (Or.inl (hkept.resolve_left hdown))

theorem turns_sendHandshake (hconnected : m.mySocket.myState = .connected)
    (hp : m.handshakeSize.toInt < 0 → p) : Turns p m m.sendHandshake := by
  have hissue : Turns p m m.nextTicket.2 := turns_still rfl rfl
  have hwrite := hissue.trans (turns_socketWrite m.nextTicket.2 (m.handshakePacket m.nextTicket.1))
  simp only [sendHandshake]
  split_ifs with hok
  · exact hwrite.tail (.rise _ .awaitHandshake (Or.inl rfl))
  · have hdown := sendHandshake_down m hconnected m.nextTicket.1 (by simpa using hok)
    exact hwrite.trans (turns_failWith _ _ (hdown.imp id hp))

theorem turns_pumpConnecting (h : m.myConnectPhase = .connecting) (hp : m.Oversized → p) :
    Turns p m m.pumpConnecting := by
  have hpump : Turns p m m.pumpConnectSocket := .single (.use m _ (.pumpConnect _))
  simp only [pumpConnecting]
  split_ifs with hconnected hconnecting
  · exact hpump.trans (turns_sendHandshake _ hconnected (fun hsize => hp ⟨h, hconnected, hsize⟩))
  · refine hpump.trans (turns_failWith _ _ (Or.inl ?_))
    exact not_or.mpr ⟨hconnected, hconnecting⟩
  · exact hpump

end

section
variable {p : Prop} {m n : DSNetManager}

theorem turns_uses {s : NetNatsueSocket} (h : m.mySocket.Uses s) :
    Turns p m { m with mySocket := s } := by
  induction h with
  | refl => exact .refl
  | tail _ hused ih => exact ih.tail (.use _ _ hused)

theorem Spares.turns (h : Spares m n) (hphase : n.myConnectPhase = m.myConnectPhase) :
    Turns p m n :=
  (turns_uses h.uses).trans (turns_still rfl hphase)

/-- The phase has fallen with the connection. -/
theorem Spares.fallen (h : Spares m n) (hdown : ¬ n.mySocket.Live)
    (hphase : n.myConnectPhase = .idle ∨ n.myConnectPhase = .failed) : Turns p m n :=
  ((turns_uses h.uses).tail (.fall _ n.myConnectPhase hphase (Or.inl hdown))).trans
    (turns_still rfl rfl)

theorem Met.turns {frame : Bytes} (h : Met m frame n) : Turns p m n := by
  cases h.aftermath with
  | spared _ e _ hspares hphase =>
    rcases hphase with hphase | ⟨hidle, hdown⟩
    · exact (turns_emit m e).trans (hspares.turns hphase)
    · exact (turns_emit m e).trans (hspares.fallen hdown (Or.inl hidle))
  | spooled => exact turns_still rfl rfl
  | refused _ _ _ hspares hfailed hdown =>
    exact (turns_emit m _).trans (hspares.fallen hdown (Or.inr hfailed))
  | accepted k server user _ _ hspares honline =>
    have hrise : Turns p m (m.enter .online) := .single (.rise m .online (Or.inr rfl))
    have hadmitted := hrise.trans (turns_still rfl rfl : Turns p (m.enter .online)
      ((m.emit (.handshake m.myConnectPhase frame)).admitted server user
        (updatedServers frame (sizeInt frame))))
    exact (hadmitted.trans (hspares.turns honline)).trans (turns_still rfl rfl)

/-- Behind the first attempt to write the handshake, the phase falls with the connection. -/
theorem Heeded.turns (h : Heeded m n) (hm : m.myConnectPhase ≠ .connecting) : Turns p m n := by
  cases h with
  | clock => exact turns_nowMs m
  | socket s hturned => exact .single (.use m s hturned.used)
  | heard k totalSize _ _ hmet => exact hmet.turns.tail (.use k _ (.consumeInput _ totalSize))
  | dropped _ _ _ hmet => exact hmet.turns
  | lost => exact turns_connectionLost m
  | fail rawError _ hdown => exact turns_failWith m rawError (Or.inl hdown)
  | handshake hphase => exact absurd hphase hm

theorem Heeds.turns (h : Heeds m n) (hm : m.myConnectPhase ≠ .connecting) : Turns p m n := by
  induction h with
  | refl => exact .refl
  | tail _ hheeded ih => exact ih.trans (hheeded.turns (Turns.settled ih hm))

theorem turns_pumpTimeout (m : DSNetManager) : Turns p m m.pumpTimeout := by
  simp only [pumpTimeout]
  split_ifs
  · have hclose := (turns_nowMs (p := p) m).tail (.use _ _ (.close _))
    exact hclose.trans (turns_failWith _ 0 (Or.inl (NetNatsueSocket.down_of (Or.inl rfl))))
  · exact turns_nowMs m
  · exact .refl

theorem turns_pumpConnectPhase (m : DSNetManager) (hp : m.Oversized → p) :
    Turns p m m.pumpConnectPhase := by
  have hconnecting : Turns p m (if m.myConnectPhase = .connecting then
      m.pumpConnecting else m) := by
    split_ifs with h
    · exact turns_pumpConnecting m h hp
    · exact .refl
  have hawaiting : ∀ n : DSNetManager,
      Turns p n (if n.myConnectPhase = .awaitHandshake then n.pumpAwaiting else n) := by
    intro n
    split_ifs with h
    · exact (heeds_pumpAwaiting n h).turns (by simp [h])
    · exact .refl
  exact (hconnecting.trans (hawaiting _)).trans (turns_pumpTimeout _)

theorem turns_pump (m : DSNetManager) (hp : m.Oversized → p) : Turns p m m.pump := by
  by_cases hconnecting : m.myConnectPhase = .connecting
  · rw [pump, if_pos (Or.inl hconnecting)]
    exact turns_pumpConnectPhase m hp
  · exact (heeds_pump m).turns hconnecting

theorem Deed.turns {op : Op} (h : Deed op m n) (hop : ∀ users, op ≠ .connectInBackground users)
    (hm : m.myConnectPhase ≠ .connecting) : Turns p m n := by
  cases h with
  | books _ _ _ hbooks =>
    exact turns_still (congrArg World.socket hbooks.world) (congrArg World.phase hbooks.world)
  | heeded _ _ _ hheeded => exact hheeded.turns hm
  | say _ _ packet => exact turns_socketWrite m packet
  | attempt _ users => exact absurd rfl (hop users)
  | hangUp => exact turns_disconnect m
  | configure _ _ hconfigures =>
    cases op <;> first | exact turns_still rfl rfl | cases hconfigures
  | unqueue | handOut | list | setAside | discard => exact turns_still rfl rfl

theorem Deeds.turns {op : Op} (h : Deeds op m n) (hop : ∀ users, op ≠ .connectInBackground users)
    (hm : m.myConnectPhase ≠ .connecting) : Turns p m n := by
  induction h with
  | refl => exact .refl
  | tail _ hdeed ih => exact ih.trans (hdeed.turns hop (Turns.settled ih hm))

end

end DSNetManager
end NetNatsue
