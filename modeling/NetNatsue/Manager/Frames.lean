import NetNatsue.Manager.Backlog
import NetNatsue.Manager.Wire

/-! What each connection has brought. The frames that the handlers have met on a connection and what
is left in the input buffer are together the bytes that it received, so that none is dropped, none
is met twice and none is met out of its turn. -/
namespace NetNatsue

/-- The frames met since the last attempt to connect, laid end to end. -/
def framing : Monitor Bytes Event where
  step s
    | .connecting _ _ => []
    | .response _ frame | .handshake _ frame | .packet _ _ frame => s ++ frame
    | _ => s
  allows _ _ := True

/-- Neither an attempt nor a frame. -/
def Event.Unframed (e : Event) : Prop := ∀ s, framing.step s e = s

namespace DSNetManager

/-- An attempt to connect is under way, or has led to a login. -/
def Up (m : DSNetManager) : Prop := m.myConnectPhase ≠ .idle ∧ m.myConnectPhase ≠ .failed

instance (m : DSNetManager) : Decidable m.Up := inferInstanceAs (Decidable (_ ∧ _))

/-- As long as a client is up, the frames it met and what waits in the buffer are what it received.
Of a connection that has given 2^32 bytes nothing is said. -/
structure Partition (framed : Bytes) (m : DSNetManager) : Prop where
  counted : m.mySocket.Counted
  whole : m.Up → (m.mySocket.os.received m.mySocket.os.connection).length < 4294967296 →
    framed ++ m.mySocket.myInput = m.mySocket.os.received m.mySocket.os.connection

abbrev Frames (m n : DSNetManager) : Prop := framing.Advances trace Partition m n

/-- Nothing is read and nothing is consumed, and no frame is met. -/
structure Untouched (m n : DSNetManager) : Prop where
  input : n.mySocket.myInput = m.mySocket.myInput
  received : n.mySocket.os.received n.mySocket.os.connection =
    m.mySocket.os.received m.mySocket.os.connection
  counted : m.mySocket.Counted → n.mySocket.Counted
  up : n.Up → m.Up
  trace : ∃ events, n.trace = m.trace ++ events ∧ ∀ e ∈ events, e.Unframed

section
variable {m n k : DSNetManager}

theorem Untouched.trans (h : Untouched m n) (h' : Untouched n k) : Untouched m k where
  input := h'.input.trans h.input
  received := h'.received.trans h.received
  counted hm := h'.counted (h.counted hm)
  up hk := h.up (h'.up hk)
  trace := by
    obtain ⟨events, htrace, hevents⟩ := h.trace
    obtain ⟨more, hmore, hmore'⟩ := h'.trace
    refine ⟨events ++ more, by rw [hmore, htrace, List.append_assoc], fun e he => ?_⟩
    exact (List.mem_append.mp he).elim (hevents e) (hmore' e)

/-- The socket is left alone. -/
theorem untouched_of_socket (events : List Event) (htrace : n.trace = m.trace ++ events)
    (hevents : ∀ e ∈ events, e.Unframed) (hsocket : n.mySocket = m.mySocket) (hup : n.Up → m.Up) :
    Untouched m n := by
  refine ⟨?_, ?_, ?_, hup, events, htrace, hevents⟩ <;> rw [hsocket]
  exact id

theorem untouched_of_eq (htrace : n.trace = m.trace) (hsocket : n.mySocket = m.mySocket)
    (hup : n.Up → m.Up) : Untouched m n :=
  untouched_of_socket [] (by rw [htrace, List.append_nil]) (by simp) hsocket hup

theorem Spares.untouched (h : Spares m n) (hup : n.Up → m.Up) : Untouched m n := by
  obtain ⟨events, htrace, hevents⟩ := h.trace
  refine ⟨h.input, h.received, h.counted, hup, events, htrace, fun e he s => ?_⟩
  have hwake := hevents e he
  cases e <;> first | rfl | cases hwake

theorem Untouched.frames (h : Untouched m n) : Frames m n := by
  obtain ⟨events, htrace, hevents⟩ := h.trace
  refine Monitor.advances_idle events htrace (fun s e he => ⟨trivial, hevents e he s⟩)
    fun s hs => ?_
  refine ⟨h.counted hs.counted, fun hup hfit => ?_⟩
  rw [h.received] at hfit ⊢
  rw [h.input]
  exact hs.whole (h.up hup) hfit

theorem Shown.framed {frame : Bytes} {e : Event} (h : Shown m frame e) (s : Bytes) :
    framing.step s e = s ++ frame := by
  cases h <;> rfl

/-- A frame that is met is on record, and behind it nothing is read. -/
theorem Met.untouched {frame : Bytes} (h : Met m frame n) :
    ∃ e, (∀ s, framing.step s e = s ++ frame) ∧ Untouched (m.emit e) n := by
  cases h.aftermath with
  | spared _ e hshown hspares hphase =>
    refine ⟨e, hshown.framed, hspares.untouched fun hup => ?_⟩
    rcases hphase with hphase | hidle
    · rwa [Up, hphase] at hup
    · exact absurd hidle.1 hup.1
  | spooled =>
    exact ⟨.packet _ _ frame, fun _ => rfl,
      untouched_of_socket [.spooled _ _ _] rfl (by simp [Event.Unframed, framing]) rfl id⟩
  | refused _ _ _ hspares hfailed =>
    exact ⟨.handshake _ frame, fun _ => rfl, hspares.untouched fun hup => absurd hfailed hup.2⟩
  | accepted k server user hphase _ hspares =>
    have hadmitted : Untouched (m.emit (.handshake m.myConnectPhase frame))
        ((m.emit (.handshake m.myConnectPhase frame)).admitted server user
          (updatedServers frame (sizeInt frame))) :=
      untouched_of_eq rfl rfl fun _ => by simp [Up, emit, hphase]
    have hregistered := hspares.untouched fun _ => ⟨by simp [admitted], by simp [admitted]⟩
    exact ⟨.handshake _ frame, fun _ => rfl,
      (hadmitted.trans hregistered).trans (untouched_of_eq rfl rfl id)⟩

/-- The frame leaves the buffer as it came on record. -/
theorem frames_heard (totalSize : Int32)
    (hcut : cut m.myTransactions m.mySocket.myInput = .frame totalSize)
    (h : Met m (m.mySocket.myInput.take totalSize.toInt.toNat) n) :
    Frames m (n.consume totalSize) := by
  obtain ⟨e, hframe, huntouched⟩ := h.untouched
  obtain ⟨events, htrace, hevents⟩ := huntouched.trace
  have hsame : (n.consume totalSize).mySocket.os = n.mySocket.os := by
    simp only [consume, NetNatsueSocket.consumeInput]
    split_ifs <;> rfl
  intro s hs
  refine ⟨e :: events, ?_, ?_, ?_, fun hup hfit => ?_⟩
  · change n.trace = _
    rw [htrace]
    exact List.append_assoc m.trace [e] events
  · exact ⟨trivial, (framing.obeys_idle _ events fun e he => ⟨trivial, hevents e he _⟩).1⟩
  · exact (huntouched.counted hs.counted).consumeInput totalSize
  · have hafter : framing.after s (e :: events) =
        s ++ m.mySocket.myInput.take totalSize.toInt.toNat := by
      have hidle :=
        (framing.obeys_idle (framing.step s e) events fun e he => ⟨trivial, hevents e he _⟩).2
      rw [← hframe s]
      exact hidle
    have hreceived : n.mySocket.os.received n.mySocket.os.connection =
        m.mySocket.os.received m.mySocket.os.connection := huntouched.received
    rw [hsame, hreceived] at hfit ⊢
    have hwhole := hs.whole (huntouched.up hup) hfit
    obtain ⟨_, _, hall, _⟩ := cut_frame m.myTransactions m.mySocket.myInput totalSize hcut
    have hinput : n.mySocket.myInput = m.mySocket.myInput := huntouched.input
    have hmost : totalSize ≤ n.mySocket.inputSize := by
      rw [NetNatsueSocket.inputSize, hinput]
      exact Int32.not_lt.mp hall
    have hlength := congrArg List.length hwhole
    rw [List.length_append] at hlength
    have hconsume := n.mySocket.consumeInput_queue totalSize hmost (Or.inr (by rw [hinput]; omega))
    rw [hinput] at hconsume
    rw [hafter, List.append_assoc]
    change s ++ (m.mySocket.myInput.take totalSize.toInt.toNat ++
      (n.mySocket.consumeInput totalSize).myInput) = _
    rw [hconsume]
    exact hwhole

/-- Nothing is said of a client that is down. -/
theorem frames_down (events : List Event) (htrace : n.trace = m.trace ++ events)
    (hcounted : m.mySocket.Counted → n.mySocket.Counted) (hdown : ¬ n.Up) : Frames m n := by
  intro s hs
  refine ⟨events, htrace, (framing.obeys_iff s events).mpr fun _ _ _ _ => trivial, ?_⟩
  exact ⟨hcounted hs.counted, fun hup => absurd hup hdown⟩

theorem Heeded.frames (h : Heeded m n) : Frames m n := by
  cases h with
  | clock => exact Untouched.frames (untouched_of_eq rfl rfl id)
  | socket s hturned =>
    obtain ⟨bytes, hinput, hreceived⟩ := hturned.arrives
    refine Monitor.advances_still rfl fun framed hm => ⟨hturned.counted hm.counted,
      fun hup hfit => ?_⟩
    change framed ++ s.myInput = s.os.received s.os.connection
    change (s.os.received s.os.connection).length < 4294967296 at hfit
    rw [hreceived, List.length_append] at hfit
    rw [hreceived, hinput, ← hm.whole hup (by omega), List.append_assoc]
  | heard k totalSize hcut _ hmet => exact frames_heard totalSize hcut hmet
  | dropped _ frame _ hmet hgone =>
    obtain ⟨e, _, huntouched⟩ := hmet.untouched
    obtain ⟨events, htrace, _⟩ := huntouched.trace
    refine frames_down (e :: events) (htrace.trans (List.append_assoc m.trace [e] events))
      huntouched.counted ?_
    exact fun hup => hup.1 hgone
  | lost => exact ((spares_connectionLost m).untouched fun hup => absurd rfl hup.1).frames
  | fail rawError => exact frames_down [] (List.append_nil _).symm id fun hup => hup.2 rfl
  | handshake hphase =>
    refine ((spares_sendHandshake m).untouched fun _ => ?_).frames
    simp [Up, hphase]

theorem frames_attemptFor (m : DSNetManager) (users : List Bytes) :
    Frames m (m.attemptFor users) := by
  obtain ⟨hsocket, hfailed, host, port, htrace⟩ := attemptFor_dials m users
  refine Monitor.advances_event (.connecting host port) htrace fun s hs => ⟨trivial, ?_⟩
  rw [show framing.step s (.connecting host port) = [] from rfl]
  refine ⟨hsocket ▸ hs.counted.beginConnect, fun hup _ => ?_⟩
  have hok : m.mySocket.beginConnect.1 = true := by
    by_contra hrefused
    exact hup.2 (hfailed (Bool.not_eq_true _ ▸ hrefused))
  obtain ⟨hinput, hreceived⟩ := NetNatsueSocket.beginConnect_blank hs.counted hok
  rw [hsocket, hinput, hreceived]
  rfl

theorem Deed.frames {op : Op} (h : Deed op m n) : Frames m n := by
  cases h with
  | books _ _ _ hbooks =>
    obtain ⟨events, htrace, hevents⟩ := hbooks.trace
    have hphase : n.myConnectPhase = m.myConnectPhase := congrArg World.phase hbooks.world
    refine (untouched_of_socket events htrace (fun e he s => ?_)
      (congrArg World.socket hbooks.world) ?_).frames
    · have hinner := hevents e he
      cases e with
      | connecting | response | handshake | packet => exact hinner.elim
      | _ => rfl
    · rw [Up, hphase]
      exact id
  | heeded _ _ _ hheeded => exact hheeded.frames
  | say _ _ packet =>
    refine ((spares_socketWrite m packet).untouched fun hup => ?_).frames
    rwa [Up, socketWrite_phase] at hup
  | attempt _ users => exact frames_attemptFor m users
  | hangUp => exact frames_down [.ended] rfl (fun hcounted => hcounted.close) fun hup => hup.1 rfl
  | configure _ _ hop =>
    cases op <;> simp only [Op.configures, Bool.false_eq_true] at hop <;>
      exact Untouched.frames (untouched_of_eq rfl rfl id)
  | unqueue | handOut | list | setAside | discard =>
    exact Untouched.frames (untouched_of_eq rfl rfl id)

end

end DSNetManager

open DSNetManager

/-- **Every byte is met once and in its turn.** In every run that leaves the client up, on a
connection that has brought less than 2^32 bytes, the frames that were met since it was begun and
what waits in the input buffer are, one behind the other, exactly what the connection has
brought. -/
theorem frames_in_order (os : SocketOS) (clock : Stream' UInt32) (disk : Disk) (ops : List Op)
    (hup : (ran os clock disk ops).Up)
    (hfit : ((ran os clock disk ops).mySocket.os.received
      (ran os clock disk ops).mySocket.os.connection).length < 4294967296) :
    framing.after [] (ran os clock disk ops).trace ++ (ran os clock disk ops).mySocket.myInput =
      (ran os clock disk ops).mySocket.os.received
      (ran os clock disk ops).mySocket.os.connection := by
  have hframes : Frames (construct os clock disk) (ran os clock disk ops) :=
    runOps_keeps ops _ _ (Monitor.advances_refl _) fun _ _ _ _ hdeed hm => hm.trans hdeed.frames
  have hstart : Partition [] (construct os clock disk) :=
    ⟨NetNatsueSocket.counted_unused _ rfl rfl rfl rfl, fun hup => absurd rfl hup.1⟩
  obtain ⟨events, htrace, _, hwhole⟩ := hframes [] hstart
  rw [htrace]
  exact hwhole.whole hup hfit

/-- The login response and the ping have been met, and three bytes wait. -/
theorem frames_in_order_pinged :
    framing.after [] (ran pinged (.const 0) .blank [.connectInBackground [], .tick]).trace ++
        (ran pinged (.const 0) .blank [.connectInBackground [], .tick]).mySocket.myInput =
      (ran pinged (.const 0) .blank [.connectInBackground [], .tick]).mySocket.os.received
        (ran pinged (.const 0) .blank [.connectInBackground [], .tick]).mySocket.os.connection ∧
    (ran pinged (.const 0) .blank [.connectInBackground [], .tick]).mySocket.myInput = [9, 0, 0] :=
  ⟨frames_in_order pinged (.const 0) .blank [.connectInBackground [], .tick] (by decide +kernel)
    (by decide +kernel), by decide +kernel⟩

end NetNatsue
