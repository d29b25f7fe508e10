import NetNatsue.Manager.Discipline

/-! What each connection has carried. The bytes that the operating system took are accounted for by
the packets that were written, in the order of their writing and each as far as its length goes; the
one packet that a connection may break off in the middle of had its turn, too. -/
namespace NetNatsue

/-- What of the packets is handed to the socket, one after the other: each as long as its length as
an `int` says. -/
def stream (packets : List Bytes) : Bytes :=
  (packets.map fun packet => packet.take (sizeInt packet).toInt.toNat).flatten

theorem stream_append (packets more : List Bytes) :
    stream (packets ++ more) = stream packets ++ stream more := by
  rw [stream, List.map_append, List.flatten_append, stream, stream]

namespace DSNetManager

/-- The packet had its turn when its write failed, and it was the last on its connection. -/
structure CutShort (m : DSNetManager) (connection : ℕ) (packet : Bytes) : Prop where
  ended : Outgoing.Over m.mySocket.outgoing connection
  permitted : ∃ past, past <+: m.trace ∧ (dialogue.after {} past).permits (.wrote connection packet)

/-- What was written is the account of each connection, together with the packet it broke off in. -/
structure Accounted (m : DSNetManager) (cut : ℕ → Option Bytes) : Prop where
  accounts : Outgoing.Accounts m.mySocket.outgoing
    fun connection => stream (writtenOn connection m.trace ++ (cut connection).toList)
  cuts : ∀ connection packet, cut connection = some packet → CutShort m connection packet

/-- What is on record fits the state of the manager. -/
structure Wired (m : DSNetManager) : Prop where
  fits : (dialogue.after {} m.trace).Fits m
  accounted : ∃ cut, Accounted m cut

section
variable {m n : DSNetManager}

theorem Speaks.fits (h : Speaks m n) (hm : (dialogue.after {} m.trace).Fits m) :
    m.trace <+: n.trace ∧ (dialogue.after {} n.trace).Fits n := by
  obtain ⟨events, htrace, _, hfits⟩ := h _ hm
  refine ⟨⟨events, htrace.symm⟩, ?_⟩
  rwa [htrace, dialogue.after_append]

theorem CutShort.later {connection : ℕ} {packet : Bytes} (h : CutShort m connection packet)
    (htrace : m.trace <+: n.trace) (hover : Outgoing.Over n.mySocket.outgoing connection) :
    CutShort n connection packet := by
  obtain ⟨past, hpast, hpermits⟩ := h.permitted
  exact ⟨hover, past, hpast.trans htrace, hpermits⟩

/-- Nothing is written. -/
theorem Wired.still (h : Wired m) (hspeaks : Speaks m n) (events : List Event)
    (htrace : n.trace = m.trace ++ events) (hsilent : ∀ e ∈ events, ∀ line
      packet, e ≠ .wrote line packet)
    (hcoasts : m.mySocket.Coasts n.mySocket) : Wired n := by
  obtain ⟨hlater, hfits⟩ := hspeaks.fits h.fits
  obtain ⟨cut, haccounts, hcuts⟩ := h.accounted
  refine ⟨hfits, cut, ?_, fun connection packet hcut => ?_⟩
  · have hsame : ∀ connection, writtenOn connection n.trace = writtenOn connection m.trace := by
      intro connection
      rw [htrace, writtenOn_silent connection m.trace events hsilent]
    simp only [hsame]
    exact haccounts.coasts hcoasts
  · have hcut := hcuts connection packet hcut
    exact hcut.later hlater (hcut.ended.coasts hcoasts)

/-- The calls and frames that leave the socket alone. -/
theorem Wired.quiet (h : Wired m) (hspeaks : Speaks m n) (events : List Event)
    (htrace : n.trace = m.trace ++ events) (hsilent : ∀ e ∈ events, ∀ line
      packet, e ≠ .wrote line packet)
    (hsocket : n.mySocket = m.mySocket) : Wired n :=
  h.still hspeaks events htrace hsilent (by rw [hsocket]; exact NetNatsueSocket.coasts_of_eq rfl)

/-- A connection that is up has not broken off. -/
theorem Accounted.whole {cut : ℕ → Option Bytes} (h : Accounted m cut) (hlive : m.mySocket.Live) :
    cut m.mySocket.os.connection = none := by
  by_contra hsome
  obtain ⟨packet, hpacket⟩ := Option.ne_none_iff_exists'.mp hsome
  have hdown := (h.cuts _ _ hpacket).ended.2 rfl
  simp [NetNatsueSocket.outgoing, hlive] at hdown

theorem Accounted.wrote {cut : ℕ → Option Bytes} (h : Accounted m cut) (packet : Bytes)
    (hlater : m.trace <+: n.trace) (hconnected : m.mySocket.myState = .connected)
    (hsize : ¬ sizeInt packet < 0)
    (hwrite : n.mySocket = (m.mySocket.write packet (sizeInt packet)).2)
    (htrace : n.trace = m.trace ++ [.wrote m.mySocket.os.connection packet]) : Accounted n cut := by
  have hwritten : ∀ connection, writtenOn connection n.trace = writtenOn connection m.trace ++
      if m.mySocket.os.connection = connection then [packet] else [] := by
    intro connection
    rw [htrace]
    exact writtenOn_wrote _ packet m.trace connection
  refine ⟨?_, fun connection broken hcut => ?_⟩
  · rw [hwrite]
    refine NetNatsueSocket.accounts_write h.accounts hconnected packet _ hsize ?_
      fun line hline => ?_
    · rw [hwritten, if_pos rfl, h.whole (Or.inl hconnected), stream_append, stream_append,
        stream_append]
      simp [stream]
    · rw [hwritten, if_neg (Ne.symm hline), List.append_nil]
  · have hcut := h.cuts connection broken hcut
    refine hcut.later hlater ?_
    rw [hwrite]
    exact (hcut.ended.moves (m.mySocket.drifts_write packet (sizeInt packet)).moves).1

/-- The connection breaks off in the packet. -/
theorem Accounted.brokeOff {cut : ℕ → Option Bytes} (h : Accounted m cut) (packet : Bytes)
    (htrace : n.trace = m.trace) (hconnected : m.mySocket.myState = .connected)
    (hsize : ¬ sizeInt packet < 0)
    (hwrite : n.mySocket = (m.mySocket.write packet (sizeInt packet)).2)
    (hfailed : (m.mySocket.write packet (sizeInt packet)).1 = false)
    (hpermits : (dialogue.after {} m.trace).permits (.wrote m.mySocket.os.connection packet)) :
    Accounted n (Function.update cut m.mySocket.os.connection (some packet)) := by
  have hdrift := m.mySocket.drifts_write packet (sizeInt packet)
  have hdown : ¬ (m.mySocket.write packet (sizeInt packet)).2.Live := by
    have hnonneg : 0 ≤ (sizeInt packet).toInt := by
      rw [Word32.lt_iff, Word32.toInt_zero] at hsize
      omega
    rintro (hup | hup)
    · exact NetNatsueSocket.write_failed _ _ _ hnonneg hfailed hup
    · have hbefore := hdrift.connecting hup
      rw [hconnected] at hbefore
      cases hbefore
  refine ⟨?_, fun connection broken hcut => ?_⟩
  · rw [hwrite, htrace]
    refine NetNatsueSocket.accounts_write h.accounts hconnected packet _ hsize ?_
      fun line hline => ?_
    · rw [Function.update_self, h.whole (Or.inl hconnected), stream_append, stream_append]
      simp [stream]
    · rw [Function.update_of_ne hline]
  · by_cases hconnection : connection = m.mySocket.os.connection
    · subst hconnection
      rw [Function.update_self] at hcut
      cases hcut
      refine ⟨?_, m.trace, htrace ▸ List.prefix_refl _, hpermits⟩
      rw [hwrite]
      exact ⟨hdrift.connection.ge, fun _ => by simpa [NetNatsueSocket.outgoing] using hdown⟩
    · rw [Function.update_of_ne hconnection] at hcut
      have hcut := h.cuts connection broken hcut
      refine hcut.later (htrace ▸ List.prefix_refl _) ?_
      rw [hwrite]
      exact (hcut.ended.moves hdrift.moves).1

/-- A packet is written that has its turn. -/
theorem Wired.write (h : Wired m) (packet : Bytes) (hspeaks : Speaks m n)
    (hsocket : n.mySocket = (m.socketWrite packet).2.mySocket)
    (htrace : n.trace = (m.socketWrite packet).2.trace)
    (hpermits : m.mySocket.myState = .connected →
      (dialogue.after {} m.trace).permits (.wrote m.mySocket.os.connection packet)) : Wired n := by
  obtain ⟨hlater, hfits⟩ := hspeaks.fits h.fits
  rw [socketWrite_socket] at hsocket
  obtain ⟨cut, haccounted⟩ := h.accounted
  by_cases hrefuse : m.mySocket.myState ≠ .connected ∨ sizeInt packet < 0
  · have hrefused : m.mySocket.write packet (sizeInt packet) = (false, m.mySocket) := if_pos hrefuse
    rw [socketWrite_failed m packet (congrArg Prod.fst hrefused)] at htrace
    rw [hrefused] at hsocket
    exact h.quiet hspeaks [] (htrace.trans (List.append_nil _).symm) (by simp) hsocket
  · obtain ⟨hconnected, hsize⟩ := not_or.mp hrefuse
    replace hconnected := not_not.mp hconnected
    cases hok : (m.socketWrite packet).1 with
    | true =>
      rw [socketWrite_ok m packet hok, (m.mySocket.drifts_write packet (sizeInt packet)).connection]
        at htrace
      exact ⟨hfits, cut, haccounted.wrote packet hlater hconnected hsize hsocket htrace⟩
    | false =>
      rw [socketWrite_failed m packet hok] at htrace
      exact ⟨hfits, _, haccounted.brokeOff packet htrace hconnected hsize hsocket hok
        (hpermits hconnected)⟩

theorem wired_registrations (users : List Bytes) (m : DSNetManager)
    (hphase : m.myConnectPhase = .online) (h : Wired m) : Wired (sendWWRRegistrations users m) := by
  refine (sendWWRRegistrations_keeps (fun n => Wired n ∧ n.myConnectPhase = .online) users m
    ⟨h, hphase⟩ ?_ ?_).1
  · rintro n user ⟨hn, hphase⟩
    exact ⟨hn.quiet (speaks_registered n user) [.registered user] rfl (by simp) rfl, hphase⟩
  · rintro n target ⟨hn, hphase⟩
    refine ⟨hn.write _ (speaks_say n _ hphase (.modify true target)) rfl rfl fun _ => ?_, ?_⟩
    · exact Or.inr (replies_loggedIn hn.fits hphase (.modify true target))
    · exact (socketWrite_phase n _).trans hphase

theorem Wired.connectionLost (h : Wired m) : Wired m.connectionLost :=
  h.still (speaks_connectionLost m) [.ended] rfl (by simp) m.mySocket.coasts_close

theorem wired_circuit (h : Wired m) (header : PacketHeader) (hlistens : m.Listens) :
    Wired (m.handleVirtualConnect header).2 := by
  have hnumber : Wired m.nextVSN.2 :=
    h.quiet (Monitor.advances_still rfl fun _ hd => hd.of_eq rfl rfl rfl rfl) []
      (List.append_nil _).symm (by simp) rfl
  have hlistens : m.nextVSN.2.Listens := hlistens
  have hserver : m.nextVSN.2.myServerUIN = m.myServerUIN := rfl
  simp only [handleVirtualConnect, ← hserver]
  generalize m.nextVSN.2 = n at *
  have hwrite :=
    hnumber.write (buildVirtualConnectAccept n.myServerUIN ⟨header.fieldC, header.fieldD⟩
    header.fieldE m.nextVSN.1)
    (speaks_write n _ fun _ hd hconnected => replies_circuit hd hlistens hconnected _ _ _) rfl rfl
    fun hconnected => Or.inr (replies_circuit hnumber.fits hlistens hconnected _ _ _)
  split_ifs
  · exact hwrite
  · exact hwrite.connectionLost

theorem Met.wired {frame : Bytes} (h : Met m frame n) (hlistens : m.Listens) (hm : Wired m) :
    Wired n := by
  have hspeaks := h.speaks hlistens
  have hpacket : Wired (m.emit (.packet m.myConnectPhase (PacketHeader.read frame) frame)) := by
    refine hm.quiet ?_ [.packet m.myConnectPhase (PacketHeader.read frame) frame] rfl (by simp) rfl
    exact Monitor.advances_event _ rfl fun _ hd => ⟨trivial, hd.of_eq rfl rfl rfl rfl⟩
  cases h with
  | response transaction => exact hm.quiet hspeaks [_] rfl (by simp) rfl
  | stray => exact hm.quiet hspeaks [_] rfl (by simp) rfl
  | refused => exact hm.still hspeaks [_] rfl (by simp) m.mySocket.coasts_close
  | accepted hphase hcode =>
    have hadmitted := speaks_admitted m frame hphase ((letsIn_iff frame).mpr hcode)
      (updatedServers frame (sizeInt frame))
    have hin := hm.quiet hadmitted [_] rfl (by simp) rfl
    have hregistered := wired_registrations m.myUsersForWWR _ rfl hin
    rw [acceptLogin_admitted]
    exact hregistered.quiet (Monitor.advances_still rfl fun _ hd => hd.of_eq rfl rfl rfl rfl) []
      (List.append_nil _).symm (by simp) rfl
  | message =>
    clear hspeaks
    generalize m.emit _ = k at *
    unfold handleMessage
    cases parsePackedBabelMessage (frame.drop packetHeaderSize) (sizeInt frame - 32) with
    | none => exact hpacket
    | some message =>
      simp only
      split_ifs
      · refine hpacket.quiet ?_ [.spooled _ _ _] rfl (by simp) rfl
        exact Monitor.advances_event (.spooled _ _ _) rfl fun _ hd => ⟨trivial,
          hd.of_eq rfl rfl rfl rfl⟩
      · exact hpacket.quiet (Monitor.advances_still rfl fun _ hd => hd.of_eq rfl rfl rfl rfl) []
          (List.append_nil _).symm (by simp) rfl
  | presence uin online nickName =>
    obtain ⟨changed, adds, hframe⟩ := DSNetManager.updatePresence_frame
      (m.emit (.packet m.myConnectPhase (PacketHeader.read frame) frame)) uin online nickName
    refine hm.quiet hspeaks [.packet m.myConnectPhase (PacketHeader.read frame)
      frame] ?_ (by simp) ?_
    · rw [hframe]
      rfl
    · rw [hframe]
      rfl
  | circuit => exact wired_circuit hpacket _ hlistens
  | ignored => exact hpacket

theorem wired_sendHandshake (h : Wired m) (hphase : m.myConnectPhase = .connecting) :
    Wired m.sendHandshake := by
  have hticket : Wired m.nextTicket.2 := h.quiet (speaks_nextTicket m) [.issued _] rfl (by simp) rfl
  have hgreets : ∀ d : Dialogue, d.Fits m.nextTicket.2 →
      d.Greets m.nextTicket.2.mySocket.os.connection (m.handshakePacket m.nextTicket.1) :=
    fun _ hd => greets_handshake hd hphase rfl _
  refine hticket.write (m.handshakePacket m.nextTicket.1) (speaks_greet _ _ hgreets) ?_ ?_
    fun _ => Or.inl (hgreets _ hticket.fits)
  · simp only [sendHandshake]
    split_ifs <;> rfl
  · simp only [sendHandshake]
    split_ifs <;> rfl

theorem Heeded.wired (h : Heeded m n) (hm : Wired m) : Wired n := by
  have hspeaks := h.speaks
  cases h with
  | clock => exact hm.quiet hspeaks [] (List.append_nil _).symm (by simp) rfl
  | socket s hturned => exact hm.still hspeaks [] (List.append_nil _).symm (by simp) hturned.coasts
  | heard k totalSize _ hlistens hmet =>
    exact (hmet.wired hlistens hm).still (speaks_consume k totalSize) []
      (List.append_nil _).symm (by simp) (k.mySocket.coasts_consumeInput totalSize)
  | dropped _ frame hlistens hmet => exact hmet.wired hlistens hm
  | lost => exact hm.connectionLost
  | fail rawError => exact hm.quiet hspeaks [] (List.append_nil _).symm (by simp) rfl
  | handshake hphase => exact wired_sendHandshake hm hphase

theorem attemptFor_dials (m : DSNetManager) (users : List Bytes) :
    (m.attemptFor users).mySocket = m.mySocket.beginConnect.2 ∧
      (m.mySocket.beginConnect.1 = false → (m.attemptFor users).myConnectPhase = .failed) ∧
      ∃ host port, (m.attemptFor users).trace = m.trace ++ [.connecting host port] := by
  obtain ⟨_, host, port, _, _, hframe⟩ := chooseServer_frame { m with myUsersForWWR := users }
  simp only [attemptFor, startConnecting, hframe]
  split_ifs with hbegun
  · exact ⟨rfl, fun hrefused => absurd (hbegun.symm.trans hrefused) (by decide), host, port, rfl⟩
  · exact ⟨rfl, fun _ => rfl, host, port, rfl⟩

/-- The next connection begins with nothing written on it. -/
theorem wired_attemptFor (h : Wired m) (users : List Bytes) : Wired (m.attemptFor users) := by
  obtain ⟨hlater, hfits⟩ := (speaks_attemptFor m users).fits h.fits
  obtain ⟨cut, haccounts, hcuts⟩ := h.accounted
  obtain ⟨hsocket, _, host, port, htrace⟩ := attemptFor_dials m users
  refine ⟨hfits, cut, ?_, fun connection packet hcut => ?_⟩
  · have hsame : ∀ connection, writtenOn connection (m.attemptFor users).trace =
        writtenOn connection m.trace := by
      intro connection
      rw [htrace, writtenOn_silent connection m.trace [.connecting host port] (by simp)]
    simp only [hsame]
    rw [hsocket]
    exact NetNatsueSocket.accounts_beginConnect haccounts
  · have hcut := hcuts connection packet hcut
    refine hcut.later hlater ?_
    rw [hsocket]
    exact (hcut.ended.moves m.mySocket.moves_beginConnect).1

theorem Deed.wired {op : Op} (h : Deed op m n) (hm : Wired m) : Wired n := by
  have hspeaks := h.speaks
  cases h with
  | books _ _ _ hbooks =>
    obtain ⟨events, htrace, hevents⟩ := hbooks.trace
    refine hm.quiet hspeaks events htrace (fun e he line packet hwrote => ?_)
      (congrArg World.socket hbooks.world)
    exact (hwrote ▸ hevents e he : Event.Inner (.wrote line packet))
  | heeded _ _ _ hheeded => exact hheeded.wired hm
  | say _ _ packet honline hasked =>
    exact hm.write packet hspeaks rfl rfl fun _ => Or.inr
      (replies_loggedIn hm.fits honline.1 hasked)
  | attempt _ users => exact wired_attemptFor hm users
  | hangUp => exact hm.still hspeaks [.ended] rfl (by simp) m.mySocket.coasts_close
  | configure _ _ hop =>
    cases op <;> simp only [Op.configures, Bool.false_eq_true] at hop <;>
      exact hm.quiet hspeaks [] (List.append_nil _).symm (by simp) rfl
  | unqueue | handOut | list | setAside | discard =>
    exact hm.quiet hspeaks [] (List.append_nil _).symm (by simp) rfl

end

theorem wired_construct (os : SocketOS) (clock : Stream' UInt32) (disk : Disk) :
    Wired (construct os clock disk) := by
  refine ⟨fits_construct os clock disk, fun _ => none, ?_, fun _ _ hcut => by cases hcut⟩
  exact ⟨List.prefix_refl _, fun _ => rfl, fun _ _ => List.prefix_refl _, fun _ _ => rfl⟩

end DSNetManager

open DSNetManager

/-- **What was written is what arrives.** In every run, what the operating system has taken on a
connection is a first part of the packets written on it, in their order and without a gap, and of at
most one more, in which the connection broke off and which had its turn like the others. On a
connection that is up nothing is broken off, and the rest waits in the output buffer. -/
theorem wire_in_order (os : SocketOS) (clock : Stream' UInt32) (disk : Disk) (ops : List Op)
    (connection : ℕ) :
    ∃ cut : Option Bytes,
      (ran os clock disk ops).mySocket.os.accepted connection <+:
        stream (writtenOn connection (ran os clock disk ops).trace ++ cut.toList) ∧
      (∀ packet, cut = some packet → ∃ past, past <+: (ran os clock disk ops).trace ∧
        (dialogue.after {} past).permits (.wrote connection packet)) ∧
      (connection = (ran os clock disk ops).mySocket.os.connection →
        (ran os clock disk ops).mySocket.Live →
        cut = none ∧ (ran os clock disk ops).mySocket.line =
          stream (writtenOn connection (ran os clock disk ops).trace)) := by
  have hwired : Wired (ran os clock disk ops) :=
    runOps_keeps ops _ _ (wired_construct os clock disk) fun _ _ _ _ hdeed hm => hdeed.wired hm
  generalize ran os clock disk ops = m at *
  obtain ⟨_, cut, haccounted⟩ := hwired
  refine ⟨cut connection, haccounted.accounts.taken connection, fun packet hcut => ?_, ?_⟩
  · exact (haccounted.cuts connection packet hcut).permitted
  · rintro rfl hlive
    have hwhole := haccounted.whole hlive
    have hline := haccounted.accounts.live (by simpa [NetNatsueSocket.outgoing] using hlive)
    change m.mySocket.line = stream (writtenOn m.mySocket.os.connection m.trace ++
      (cut m.mySocket.os.connection).toList) at hline
    rw [hwhole, Option.toList_none, List.append_nil] at hline
    exact ⟨hwhole, hline⟩

end NetNatsue
