import NetNatsue.Manager.Heeding

/-! What a pump does to the client, and what a pump that finds it online leaves. -/
namespace NetNatsue.DSNetManager

theorem Met.hears {m n : DSNetManager} {frame : Bytes} (h : Met m frame n) : Hears m n := by
  have hhandshake : Hears m (m.emit (.handshake m.myConnectPhase frame)) :=
    .single (.note m _ trivial)
  have hpacket : Hears m (m.emit (.packet m.myConnectPhase (PacketHeader.read frame) frame)) :=
    .single (.note m _ trivial)
  cases h with
  | response transaction hclaim =>
    have hentry : m.myTransactions (PacketHeader.read frame).ticket = some transaction := by
      unfold answeredBy at hclaim
      split_ifs at hclaim
      exact hclaim
    exact .single (.respond m _ frame transaction rfl hentry)
  | stray => exact hhandshake
  | refused hphase => exact hhandshake.trans (hears_refuseLogin (m.emit _) _ hphase)
  | accepted hphase => exact hhandshake.trans (hears_acceptLogin (m.emit _) _ _ _ hphase)
  | message => exact hpacket.trans (hears_handleMessage _ _ _)
  | presence uin online nickName htold =>
    exact .single (.presence m _ frame uin online nickName htold)
  | circuit => exact hpacket.trans (hears_handleVirtualConnect _ _)
  | ignored => exact hpacket

/-- The things a pump does one after another, by what they do to the client. -/
inductive Pumped : DSNetManager → DSNetManager → Prop
  | clock (m : DSNetManager) : Pumped m m.nowMs.2
  | socket (m : DSNetManager) (s : NetNatsueSocket) (h : m.mySocket.Drifts s) :
    Pumped m { m with mySocket := s }
  | frame (m n : DSNetManager) (frame : Bytes) (h : Met m frame n) : Pumped m n
  | lost (m : DSNetManager) : Pumped m m.connectionLost
  | fail (m : DSNetManager) (rawError : Int32)
    (h : m.myConnectPhase = .connecting ∨ m.myConnectPhase = .awaitHandshake) :
    Pumped m (m.failWith rawError)
  | handshake (m : DSNetManager) (h : m.myConnectPhase = .connecting)
    (hconnected : m.mySocket.myState = .connected) : Pumped m m.sendHandshake

abbrev Pumps : DSNetManager → DSNetManager → Prop := Relation.ReflTransGen Pumped

theorem Heeded.pumps {m n : DSNetManager} (h : Heeded m n) : Pumps m n := by
  cases h with
  | clock => exact .single (.clock m)
  | socket s hturned => exact .single (.socket m s hturned.drifts)
  | heard k totalSize _ _ hmet =>
    exact (Relation.ReflTransGen.single (.frame m k _ hmet)).tail
      (.socket k _ (k.mySocket.drifts_consumeInput totalSize))
  | dropped _ frame _ hmet => exact .single (.frame m n frame hmet)
  | lost => exact .single (.lost m)
  | fail rawError hphase _ => exact .single (.fail m rawError hphase)
  | handshake hphase hconnected => exact .single (.handshake m hphase hconnected)

theorem Heeds.pumps {m n : DSNetManager} (h : Heeds m n) : Pumps m n := by
  induction h with
  | refl => exact .refl
  | tail _ hheeded ih => exact ih.trans hheeded.pumps

theorem pumps_pumpConnectPhase (m : DSNetManager) : Pumps m m.pumpConnectPhase :=
  (heeds_pumpConnectPhase m).pumps

theorem pumps_pump (m : DSNetManager) : Pumps m m.pump := (heeds_pump m).pumps

/-- Online, with a connected socket if it is to be up. -/
structure Held (up : Bool) (m : DSNetManager) : Prop where
  online : m.myConnectPhase = .online
  connected : up = true → m.mySocket.myState = .connected

/-- The connection was dropped, and with it all transactions. -/
structure Cleared (m : DSNetManager) : Prop where
  idle : m.myConnectPhase = .idle
  transactions : ∀ ticket, m.myTransactions ticket = none

theorem cleared_connectionLost (m : DSNetManager) : m.connectionLost.Cleared := ⟨rfl, fun _ => rfl⟩

section
variable {m n : DSNetManager} {up : Bool}

theorem Undisturbed.held (h : Undisturbed m n) (hm : Held up m ∨ m.Cleared) :
    Held up n ∨ n.Cleared := by
  rcases hm with ⟨honline, hconnected⟩ | ⟨hidle, hnone⟩
  · exact Or.inl ⟨h.phase.trans honline, by rw [h.socket]; exact hconnected⟩
  · exact Or.inr ⟨h.phase.trans hidle, by rw [h.transactions]; exact hnone⟩

theorem handleVirtualConnect_held (header : PacketHeader) (h : Held up m ∨ m.Cleared) :
    Held up (m.handleVirtualConnect header).2 ∨ (m.handleVirtualConnect header).2.Cleared := by
  have hwritten : ∀ packet : Bytes, packet.length = 36 → (m.nextVSN.2.socketWrite packet).1 = true →
      Held up (m.nextVSN.2.socketWrite packet).2 ∨ (m.nextVSN.2.socketWrite packet).2.Cleared := by
    intro packet hlength hwrite
    simp only [socketWrite] at hwrite ⊢
    rw [if_pos hwrite]
    obtain ⟨_, hconnected, _⟩ :=
      NetNatsueSocket.write_lies m.nextVSN.2.mySocket packet (by omega) hwrite
    rcases h with ⟨honline, _⟩ | ⟨hidle, hnone⟩
    · exact Or.inl ⟨honline, fun _ => hconnected⟩
    · exact Or.inr ⟨hidle, hnone⟩
  simp only [handleVirtualConnect]
  split_ifs with hok
  · exact hwritten _ (buildVirtualConnectAccept_length _ _ _ _) hok
  · exact Or.inr (cleared_connectionLost _)

theorem Met.held {frame : Bytes} (h : Met m frame n) (hm : Held up m ∨ m.Cleared) :
    Held up n ∨ n.Cleared := by
  have hawaiting : m.myConnectPhase ≠ .awaitHandshake := by
    rcases hm with hm | hm
    · simp [hm.online]
    · simp [hm.idle]
  cases h with
  | response transaction hclaim =>
    rcases hm with ⟨honline, hconnected⟩ | ⟨_, hnone⟩
    · exact Or.inl ⟨honline, hconnected⟩
    · simp [answeredBy, hnone] at hclaim
  | stray => exact hm.imp (fun h => ⟨h.online, h.connected⟩) (fun h => ⟨h.idle, h.transactions⟩)
  | refused hphase => exact absurd hphase hawaiting
  | accepted hphase => exact absurd hphase hawaiting
  | message =>
    exact (undisturbed_handleMessage (m.emit _) _ _).held
      (hm.imp (fun h => ⟨h.online, h.connected⟩) (fun h => ⟨h.idle, h.transactions⟩))
  | presence =>
    exact (undisturbed_updatePresence (m.emit _) _ _ _).held
      (hm.imp (fun h => ⟨h.online, h.connected⟩) (fun h => ⟨h.idle, h.transactions⟩))
  | circuit =>
    exact handleVirtualConnect_held (m := m.emit _) _
      (hm.imp (fun h => ⟨h.online, h.connected⟩) (fun h => ⟨h.idle, h.transactions⟩))
  | ignored => exact hm.imp (fun h => ⟨h.online, h.connected⟩) (fun h => ⟨h.idle, h.transactions⟩)

theorem consume_held (totalSize : Int32) (h : Held up m ∨ m.Cleared) :
    Held up (m.consume totalSize) ∨ (m.consume totalSize).Cleared := by
  have hstate : (m.mySocket.consumeInput totalSize).myState = m.mySocket.myState := by
    unfold NetNatsueSocket.consumeInput
    split_ifs <;> rfl
  refine h.imp (fun h => ⟨h.online, fun hup => ?_⟩) (fun h => ⟨h.idle, h.transactions⟩)
  exact hstate.trans (h.connected hup)

theorem processInputBody_held (m : DSNetManager) (h : Held up m ∨ m.Cleared) :
    Held up m.processInputBody.state ∨ m.processInputBody.state.Cleared := by
  cases hcut : cut m.myTransactions m.mySocket.myInput with
  | wait =>
    rw [processInputBody_wait m hcut]
    exact h
  | lost =>
    rw [processInputBody_lost m hcut]
    exact Or.inr (cleared_connectionLost m)
  | frame totalSize =>
    have hframe := (met_handleFrame m totalSize hcut).held h
    rw [processInputBody_frame m totalSize hcut]
    split_ifs
    · exact consume_held totalSize hframe
    · exact hframe

end

theorem pump_alive (s : NetNatsueSocket) (h : s.myState = .connected) (halive : s.pump.1 = true) :
    s.pump.2.myState = .connected := by
  have hread : ∀ (answers : List RecvAnswer) (s : NetNatsueSocket), s.myState = .connected →
      (NetNatsueSocket.readLoop answers s).1 = true →
      (NetNatsueSocket.readLoop answers s).2.myState = .connected := by
    intro answers
    induction answers with
    | nil => exact fun s hs _ => hs
    | cons answer answers ih =>
      intro s hs hok
      cases answer with
      | data bytes =>
        simp only [NetNatsueSocket.readLoop] at hok ⊢
        split_ifs at hok ⊢
        exact ih _ hs hok
      | failed errno =>
        simp only [NetNatsueSocket.readLoop] at hok ⊢
        split_ifs at hok ⊢
        exact hs
  have hflush : s.flushOutput = NetNatsueSocket.flushLoop s.myOutput.length s := by
    simp [NetNatsueSocket.flushOutput, h]
  simp only [NetNatsueSocket.pump, h, hflush, reduceCtorEq, ne_eq, not_true_eq_false,
    ↓reduceIte] at halive ⊢
  split_ifs at halive ⊢ with hok
  have hconnected := (NetNatsueSocket.flushLoop_line _ s (by simpa using hok)).2.2.trans h
  simp only [NetNatsueSocket.readInput, hconnected, ne_eq, not_true_eq_false,
    ↓reduceIte] at halive ⊢
  exact hread _ _ hconnected halive

/-- After a pump the manager is still online, or every transaction has been dropped. -/
theorem pump_online (m : DSNetManager) (h : m.Online) :
    m.pump.Online ∨ ∀ ticket, m.pump.myTransactions ticket = none := by
  have hpump : m.pump = m.pumpOnline := by simp [pump, h.1]
  have hstart : Held m.socketPump.1 m.socketPump.2 := ⟨h.1, pump_alive m.mySocket h.2⟩
  have hend : Held m.socketPump.1 m.socketPump.2.processInput ∨
      m.socketPump.2.processInput.Cleared :=
    Loop.iterate_keeps (fun n => Held m.socketPump.1 n ∨ n.Cleared)
      (fun n => processInputBody_held n) _ _
      (Or.inl hstart)
  rw [hpump]
  simp only [pumpOnline]
  rcases hend with ⟨honline, hconnected⟩ | hcleared
  · split_ifs with hdead
    · exact Or.inr (cleared_connectionLost _).transactions
    · have halive : m.socketPump.1 = true := by
        by_contra hdown
        exact hdead ⟨hdown, honline⟩
      exact Or.inl ⟨honline, hconnected halive⟩
  · rw [if_neg (by simp [hcleared.idle])]
    exact Or.inr hcleared.transactions

/-- Once the login is over no frame brings it back. -/
theorem Met.settled {m n : DSNetManager} {frame : Bytes} (h : Met m frame n)
    (hphase : m.myConnectPhase ≠ .awaitHandshake) : n.myConnectPhase ≠ .awaitHandshake := by
  cases h with
  | response => exact hphase
  | stray => exact hphase
  | refused hawaiting => exact absurd hawaiting hphase
  | accepted hawaiting => exact absurd hawaiting hphase
  | message =>
    rw [(undisturbed_handleMessage (m.emit _) _ _).phase]
    exact hphase
  | presence =>
    rw [(undisturbed_updatePresence (m.emit _) _ _ _).phase]
    exact hphase
  | circuit =>
    simp only [handleVirtualConnect]
    split_ifs
    · rw [socketWrite_phase]
      exact hphase
    · simp [connectionLost, emit, markEveryoneOffline]
  | ignored => exact hphase

/-- **What the things a pump does while online keep, the pump keeps.** -/
theorem pump_keeps {m : DSNetManager} (honline : m.myConnectPhase = .online)
    (p : DSNetManager → Prop)
    (h : p m) (hsocket : ∀ n s, p n → p { n with mySocket := s }) (hlost : ∀ n, p n →
      p n.connectionLost)
    (hmet : ∀ n k frame, n.myConnectPhase ≠ .awaitHandshake → Met n frame k → p n → p k) :
    p m.pump := by
  have hround : ∀ n : DSNetManager, n.myConnectPhase ≠ .awaitHandshake ∧ p n →
      n.processInputBody.state.myConnectPhase ≠ .awaitHandshake ∧ p n.processInputBody.state := by
    rintro n ⟨hphase, hn⟩
    cases hcut : cut n.myTransactions n.mySocket.myInput with
    | wait =>
      rw [processInputBody_wait n hcut]
      exact ⟨hphase, hn⟩
    | lost =>
      rw [processInputBody_lost n hcut]
      exact ⟨by simp [Loop.Next.state, connectionLost, emit, markEveryoneOffline], hlost n hn⟩
    | frame totalSize =>
      have hframe := met_handleFrame n totalSize hcut
      have hkept := hmet _ _ _ hphase hframe hn
      rw [processInputBody_frame n totalSize hcut]
      split_ifs
      · exact ⟨hframe.settled hphase, hsocket _ _ hkept⟩
      · exact ⟨hframe.settled hphase, hkept⟩
  have hstart : m.socketPump.2.myConnectPhase ≠ .awaitHandshake := by
    change m.myConnectPhase ≠ .awaitHandshake
    simp [honline]
  have hend : p m.socketPump.2.processInput :=
    (Loop.iterate_keeps (fun n => n.myConnectPhase ≠ .awaitHandshake ∧ p n) hround _ _
      ⟨hstart, hsocket m _ h⟩).2
  have hpump : m.pump = m.pumpOnline := by simp [pump, honline]
  rw [hpump, pumpOnline]
  split_ifs
  · exact hlost _ hend
  · exact hend

theorem hears_failWith (m : DSNetManager) (rawError : Int32) (h : m.myConnectPhase ≠ .online) :
    Hears m (m.failWith rawError) := by
  have herror : Hears m { m with myLastError := .offline, myRawError := rawError } :=
    hears_quiet (quiet_of_fields rfl)
  exact herror.tail (.fall _ .failed h (by decide))

theorem hears_sendHandshake (m : DSNetManager) (h : m.myConnectPhase = .connecting) :
    Hears m m.sendHandshake := by
  have hwrite :=
    (Relation.ReflTransGen.single (Heard.issue m)).trans (hears_socketWrite m.nextTicket.2
    (m.handshakePacket m.nextTicket.1))
  have hphase : ∀ packet, (m.nextTicket.2.socketWrite packet).2.myConnectPhase ≠ .online := by
    intro packet
    rw [socketWrite_phase]
    exact (by simp [h] : m.myConnectPhase ≠ .online)
  unfold sendHandshake
  simp only
  split_ifs
  · exact hwrite.trans (.single (.fall _ .awaitHandshake (hphase _) (by decide)))
  · exact hwrite.trans (hears_failWith _ _ (hphase _))

theorem Pumped.hears {m n : DSNetManager} (h : Pumped m n) : Hears m n := by
  cases h with
  | clock => exact hears_nowMs m
  | socket s hdrift => exact .single (.socket m s hdrift.moves)
  | frame _ frame hmet => exact hmet.hears
  | lost => exact hears_connectionLost m
  | fail rawError hphase =>
    exact hears_failWith m rawError (by rcases hphase with h | h <;> simp [h])
  | handshake hphase => exact hears_sendHandshake m hphase

theorem Pumps.hears {m n : DSNetManager} (h : Pumps m n) : Hears m n := by
  induction h with
  | refl => exact .refl
  | tail _ hstep ih => exact ih.trans hstep.hears

theorem hears_socketPump (m : DSNetManager) : Hears m m.socketPump.2 :=
  (heeds_socketPump m).pumps.hears

theorem hears_pump (m : DSNetManager) : Hears m m.pump := (pumps_pump m).hears

end NetNatsue.DSNetManager
