import NetNatsue.Manager.Runs

/-! The files of the outbox on their way to the server. -/
namespace NetNatsue

namespace DSNetManager

theorem Heard.moves {m n : DSNetManager} (h : Heard m n) : m.mySocket.Moves n.mySocket := by
  cases h with
  | quiet n hquiet => rw [hquiet.socket]
  | socket s hmoves => exact hmoves
  | hangUp => exact NetNatsueSocket.moves_close _
  | presence header frame uin online nickName =>
    obtain ⟨changed, adds, hframe⟩ := updatePresence_frame
      (m.emit (.packet m.myConnectPhase header frame)) uin online nickName
    rw [hframe]
    exact .refl
  | _ => exact .refl

/-- Every step leaves the output of the socket alone or does what a socket does. -/
theorem Step.moves {m n : DSNetManager} (h : Step m n) : m.mySocket.Moves n.mySocket := by
  cases h with
  | heard n hheard => exact hheard.moves
  | attempt s phase host port hoffline hidle hidle' hs hphase => exact hs
  | yield =>
    rcases nextChangedUserWWR_frame m with ⟨_, hframe⟩ | ⟨user, users, online, _, hframe⟩
    · rw [hframe]
    · rw [hframe]
      exact .refl
  | nickName user name =>
    obtain ⟨presence, hframe⟩ := rememberNickName_frame m user name
    rw [hframe]
  | refuse kind fixedExtra =>
    rw [((onlyQueries_startTransaction m kind fixedExtra).trans
      (onlyQueries_abandonTransaction _ _)).socket]
  | ask slot deadline packet =>
    rw [(((onlyQueries_startTransaction m slot.kind slot.fixedExtra).trans
      (onlyQueries_emit _ _)).trans
      (onlyQueries_hold _ slot _)).socket]
  | finish slot ticket =>
    rw [((onlyQueries_setTransaction m ticket none).trans (onlyQueries_release _ slot)).socket]
  | expire slot ticket =>
    rw [((onlyQueries_abandonTransaction m ticket).trans (onlyQueries_release _ slot)).socket]
  | release slot => rw [(onlyQueries_release m slot).socket]
  | _ => exact .refl

/-- Every posted packet is kept by the line it was put on. -/
def Posted (m : DSNetManager) : Prop :=
  Outgoing.Orderly m.mySocket.outgoing ∧
    ∀ path connection offset packet, Event.posted path connection offset packet ∈ m.trace →
      packet ≠ [] ∧ Outgoing.Keeps m.mySocket.outgoing connection offset packet

theorem posted_step (m n : DSNetManager) (h : Step m n) (hposted : m.Posted) : n.Posted := by
  obtain ⟨horderly, hkeeps⟩ := hposted
  refine ⟨horderly.moves h.moves, fun path connection offset packet hmem => ?_⟩
  have hold : Event.posted path connection offset packet ∈ m.trace → packet ≠ [] ∧
      Outgoing.Keeps n.mySocket.outgoing connection offset packet := by
    intro hmem
    obtain ⟨hsome, hkept⟩ := hkeeps path connection offset packet hmem
    exact ⟨hsome, hkept.moves horderly hsome h.moves⟩
  obtain ⟨events, htrace, hadds⟩ := h.adds
  rw [htrace, List.mem_append] at hmem
  rcases hmem with hmem | hmem
  · exact hold hmem
  · cases hadds with
    | still _ hstill => exact absurd (hstill _ hmem) (by simp [Event.Still])
    | attempt host port block => simp at hmem
    | poll found online block => simp at hmem
    | post path' offset' packet' hsome hlive hlies =>
      simp only [List.mem_singleton, Event.posted.injEq] at hmem
      obtain ⟨rfl, rfl, rfl, rfl⟩ := hmem
      have hkept : Outgoing.Keeps m.mySocket.outgoing m.mySocket.os.connection offset packet :=
        horderly.keeps (by simpa [NetNatsueSocket.outgoing] using hlive) hlies
      exact ⟨hsome, hkept.moves horderly hsome h.moves⟩

theorem posted_construct (os : SocketOS) (clock : Stream' UInt32) (disk : Disk) :
    (construct os clock disk).Posted := by
  refine ⟨fun e he => ?_, fun path connection offset packet hmem => ?_⟩
  · simp [construct, NetNatsueSocket.outgoing, SocketOS.unused] at he
  · simp [construct] at hmem

end DSNetManager

open DSNetManager

/-- The packet has been taken by the operating system, or what is left of it waits on the live
connection. -/
def NetNatsueSocket.Whole (s : NetNatsueSocket) (connection offset : ℕ) (packet : Bytes) : Prop :=
  Outgoing.Lies (s.os.accepted connection) offset packet ∨
    connection = s.os.connection ∧ s.Live ∧ Outgoing.Lies s.line offset packet

instance (s : NetNatsueSocket) (connection offset : ℕ) (packet : Bytes) :
    Decidable (s.Whole connection offset packet) :=
  inferInstanceAs (Decidable (_ ∨ _ ∧ _ ∧ _))

theorem NetNatsueSocket.whole_iff (s : NetNatsueSocket) (connection offset : ℕ) (packet : Bytes) :
    s.Whole connection offset packet ↔
      Outgoing.Lies (s.outgoing.taken connection) offset packet ∨
        connection = s.outgoing.current ∧ s.outgoing.live = true ∧
          Outgoing.Lies (s.outgoing.taken connection ++ s.outgoing.waiting) offset packet := by
  simp only [Whole, outgoing, decide_eq_true_eq]
  refine or_congr_right (and_congr_right fun hcurrent => ?_)
  rw [hcurrent]
  rfl

/-- **Files on their way.** In every run, the packet of a file that was taken out of the outbox
is whole exactly if the socket was at no time closed on the connection it was posted on before
`send()` had taken the packet to its end. -/
theorem posted_whole_iff (os : SocketOS) (clock : Stream' UInt32) (disk : Disk) (ops : List Op)
    (path : Bytes) (connection offset : ℕ) (packet : Bytes)
    (h : .posted path connection offset packet ∈ (ran os clock disk ops).trace) :
    (ran os clock disk ops).mySocket.Whole connection offset packet ↔
      ∀ taken, (connection, taken) ∈ (ran os clock disk ops).mySocket.os.closings →
        offset + packet.length ≤ taken := by
  obtain ⟨horderly, hkeeps⟩ := (reached_ran os clock disk ops).keeps Posted
    (posted_construct os clock disk) posted_step
  obtain ⟨hsome, hkept⟩ := hkeeps path connection offset packet h
  exact (NetNatsueSocket.whole_iff _ connection offset packet).trans
    (hkept.whole_iff horderly hsome)

/-- One file for user 7+1. -/
def outboxDisk : Disk :=
  { Disk.blank with
    files := fun path => if path = ascii "out/1T-7+1.warp" then some [1, 2, 3] else none
    listings := Stream'.cons [ascii "1T-7+1.warp"] (.const []) }

/-- The packet user 5+1 sends that file in. -/
def filePacket : Bytes := buildMessage ⟨1, 1⟩ ⟨5, 1⟩ ⟨7, 1⟩ (prayPayload [1, 2, 3]) 15

/-- Log in and scan the outbox. -/
def logInAndScan : List Op :=
  [.setOutboxDirectory (ascii "out"), .connectInBackground [], .connectInBackground [], .scan]

/-- A file whose packet is taken at once, before the client disconnects. -/
theorem posted_whole_iff_taken :
    let n := ran (.scripted [[.data loginResponse]] [.took 54, .took 79]) (.const 0) outboxDisk
      (logInAndScan ++ [.disconnect])
    n.mySocket.Whole 1 54 filePacket ↔
      ∀ taken, (1, taken) ∈ n.mySocket.os.closings → 54 + filePacket.length ≤ taken :=
  posted_whole_iff _ _ _ _ (ascii "out/1T-7+1.warp") 1 54 filePacket (by decide +kernel)

/-- The same with a `send()` that would block. -/
theorem posted_not_whole :
    let n := ran (.scripted [[.data loginResponse]] [.took 54]) (.const 0) outboxDisk
      (logInAndScan ++ [.disconnect])
    .posted (ascii "out/1T-7+1.warp") 1 54 filePacket ∈ n.trace ∧
      n.disk.fileExists (ascii "out/1T-7+1.warp") = false ∧ ¬ n.mySocket.Whole 1 54 filePacket := by
  decide +kernel

end NetNatsue
