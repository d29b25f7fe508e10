import NetNatsue.Manager.Runs

/-! The users who are watched, and the changes that are queued for `NextChangedUserWWR`. -/
namespace NetNatsue

/-- A watch is established by a registration at login or by the call of `AddToWWR` that ends its
wait, and lasts until `RemoveFromWWR`. -/
def noteWatch (user : Bytes) (watching : Bool) : Event → Bool
  | .registered other => if other = user then true else watching
  | .added other block => if other = user ∧ block = false then true else watching
  | .removed other => if other = user then false else watching
  | _ => watching

/-- Whether a watch is established and not since removed. -/
def watched (user : Bytes) (events : List Event) : Bool := events.foldl (noteWatch user) false

theorem watched_append (user : Bytes) (a b : List Event) :
    watched user (a ++ b) = b.foldl (noteWatch user) (watched user a) := by
  simp [watched, List.foldl_append]

/-- The events that end the life of a queued change. -/
def Event.Settles (user : Bytes) : Event → Prop
  | .yielded other _ => other = user
  | .removed other => other = user
  | .ended => True
  | _ => False

namespace DSNetManager

/-- Whoever is watched is a member of the register. -/
def Enrolled (m : DSNetManager) : Prop :=
  ∀ user, watched user m.trace = true → user ∈ m.myWWRMembers

theorem enrolled_heard (m n : DSNetManager) (h : Heard m n) (henrolled : m.Enrolled) :
    n.Enrolled := by
  intro user hwatched
  cases h with
  | quiet n hquiet =>
    rw [hquiet.trace] at hwatched
    rw [hquiet.members]
    exact henrolled user hwatched
  | note e hplain =>
    rw [emit_trace, watched_append] at hwatched
    cases e <;> first | exact henrolled user hwatched | exact hplain.elim
  | hangUp =>
    have hbefore : watched user (m.trace ++ [.ended]) = true := hwatched
    rw [watched_append] at hbefore
    exact henrolled user hbefore
  | presence header frame uin online nickName =>
    obtain ⟨changed, adds, hframe⟩ := updatePresence_frame
      (m.emit (.packet m.myConnectPhase header frame)) uin online nickName
    rw [hframe] at hwatched ⊢
    simp only [emit_trace, watched_append] at hwatched
    exact henrolled user hwatched
  | watch other => exact Finset.mem_insert_of_mem (henrolled user hwatched)
  | register other hmember =>
    simp only [emit_trace, watched_append, List.foldl_cons, List.foldl_nil, noteWatch] at hwatched
    split_ifs at hwatched with hother
    · rw [← hother]
      exact hmember
    · exact henrolled user hwatched
  | issue =>
    have hbefore : watched user (m.trace ++ [.issued m.nextTicket.1]) = true := hwatched
    rw [watched_append] at hbefore
    exact henrolled user hbefore
  | respond ticket frame transaction =>
    have hbefore : watched user (m.trace ++ [.response ticket frame]) = true := hwatched
    rw [watched_append] at hbefore
    exact henrolled user hbefore
  | _ => exact henrolled user hwatched

theorem enrolled_step (m n : DSNetManager) (h : Step m n) (henrolled : m.Enrolled) :
    n.Enrolled := by
  intro user hwatched
  cases h with
  | heard n hheard => exact enrolled_heard m n hheard henrolled user hwatched
  | attempt | poll | post =>
    simp only [emit_trace, watched_append] at hwatched
    exact henrolled user hwatched
  | added other block hmember =>
    simp only [emit_trace, watched_append, List.foldl_cons, List.foldl_nil, noteWatch] at hwatched
    split_ifs at hwatched with hother
    · rw [← hother.1]
      exact hmember
    · exact henrolled user hwatched
  | forget other =>
    simp only [forgetUser, emit_trace, watched_append, List.foldl_cons, List.foldl_nil,
      noteWatch] at hwatched
    split_ifs at hwatched with hother
    exact Finset.mem_erase.mpr ⟨fun hsame => hother hsame.symm, henrolled user hwatched⟩
  | yield =>
    rcases nextChangedUserWWR_frame m with ⟨_, hframe⟩ | ⟨other, users, online, _, hframe⟩
    · rw [hframe] at hwatched ⊢
      exact henrolled user hwatched
    · rw [hframe] at hwatched ⊢
      simp only [emit_trace, watched_append] at hwatched
      exact henrolled user hwatched
  | nickName other name =>
    obtain ⟨presence, hframe⟩ := rememberNickName_frame m other name
    rw [hframe] at hwatched ⊢
    exact henrolled user hwatched
  | refuse kind fixedExtra =>
    rw [((onlyQueries_startTransaction m kind fixedExtra).trans
      (onlyQueries_abandonTransaction _ _)).members]
    simp only [abandonTransaction_trace, startTransaction_trace, watched_append] at hwatched
    exact henrolled user hwatched
  | ask slot deadline packet =>
    rw [(((onlyQueries_startTransaction m slot.kind slot.fixedExtra).trans
      (onlyQueries_emit _ _)).trans
      (onlyQueries_hold _ slot _)).members]
    simp only [hold_trace, emit_trace, startTransaction_trace, watched_append] at hwatched
    exact henrolled user hwatched
  | finish slot ticket =>
    rw [((onlyQueries_setTransaction m ticket none).trans (onlyQueries_release _ slot)).members]
    rw [release_trace, setTransaction_trace] at hwatched
    exact henrolled user hwatched
  | expire slot ticket =>
    rw [((onlyQueries_abandonTransaction m ticket).trans (onlyQueries_release _ slot)).members]
    rw [release_trace, abandonTransaction_trace] at hwatched
    exact henrolled user hwatched
  | release slot =>
    rw [(onlyQueries_release m slot).members]
    rw [release_trace] at hwatched
    exact henrolled user hwatched
  | _ => exact henrolled user hwatched

theorem sendWWRRegistrations_presence (users : List Bytes) (m : DSNetManager) :
    (sendWWRRegistrations users m).myPresence = m.myPresence := by
  have hwrite : ∀ (n : DSNetManager) packet, (n.socketWrite packet).2.myPresence =
      n.myPresence := by
    intro n packet
    simp only [socketWrite]
    split_ifs <;> rfl
  exact sendWWRRegistrations_kept myPresence (fun _ _ => rfl) hwrite users m

theorem handleHandshakeResponse_presence (m : DSNetManager) (header : PacketHeader) (raw : Bytes)
    (rawSize : Int32) : (m.handleHandshakeResponse header raw rawSize).myPresence =
    m.myPresence := by
  simp only [handleHandshakeResponse]
  split_ifs
  · rfl
  · rfl
  · exact sendWWRRegistrations_presence _ _

/-- A change of a member that no wait of `AddToWWR` will report is queued. -/
theorem updatePresence_queued (m : DSNetManager) (uin : BabelUIN) (online : Bool)
    (nickName user : Bytes)
    (hmember : user ∈ m.myWWRMembers) (hadds : m.myPendingWWRAdds user = none)
    (hflip : ((m.updatePresence uin online nickName).presenceOf user).online ≠
      (m.presenceOf user).online) :
    user ∈ (m.updatePresence uin online nickName).myChangedUsers := by
  have hrecorded : (m.updatePresence uin online nickName).myPresence =
      (m.recordPresence uin.toString online nickName).myPresence := by
    obtain ⟨changed, adds, hframe⟩ := m.updatePresence_frame uin online nickName
    rw [hframe]
  have hkey : user = uin.toString := by
    by_contra hother
    simp [presenceOf, hrecorded, recordPresence, hother] at hflip
  subst hkey
  have hchanged : (m.presenceOf uin.toString).online ≠ online := by
    simpa [presenceOf, hrecorded, recordPresence, eq_comm] using hflip
  exact updatePresence_flip m uin online nickName hmember hadds hchanged.symm

theorem handlePacket_queued (m : DSNetManager) (header : PacketHeader) (body : Bytes)
    (bodySize : Int32) (user : Bytes) (hmember : user ∈ m.myWWRMembers)
    (hadds : m.myPendingWWRAdds user = none) (hok : (m.handlePacket header body bodySize).1 = true)
    (hflip : ((m.handlePacket header body bodySize).2.presenceOf user).online ≠
      (m.presenceOf user).online) :
    user ∈ (m.handlePacket header body bodySize).2.myChangedUsers := by
  unfold handlePacket at hok hflip ⊢
  cases hpacket : ServerPacket.ofType header.type with
  | none => simp [hpacket] at hflip
  | some packet =>
    have huser : ∀ online,
        ((m.handleUserData online body bodySize).presenceOf user).online ≠
          (m.presenceOf user).online →
        user ∈ (m.handleUserData online body bodySize).myChangedUsers := by
      intro online hflip
      unfold handleUserData at hflip ⊢
      cases hparse : parseShortUserData body bodySize with
      | none => simp [hparse] at hflip
      | some userData =>
        simp only [hparse] at hflip
        exact updatePresence_queued m _ online _ user hmember hadds hflip
    simp only [hpacket] at hok hflip ⊢
    cases packet
    case message =>
      have hsame : (m.handleMessage body bodySize).myPresence = m.myPresence := by
        simp only [handleMessage]
        cases parsePackedBabelMessage body bodySize with
        | none => rfl
        | some message =>
          simp only
          split_ifs <;> rfl
      simp [presenceOf, hsame] at hflip
    case userOnline => exact huser true hflip
    case userOffline => exact huser false hflip
    case onlineChange => exact updatePresence_queued m _ _ _ user hmember hadds hflip
    case virtualConnect =>
      simp only [handleVirtualConnect] at hok hflip
      split_ifs at hok hflip with hwrite
      have hsame : ∀ packet, (m.nextVSN.2.socketWrite packet).2.myPresence = m.myPresence := by
        intro packet
        simp only [socketWrite]
        split_ifs <;> rfl
      simp [presenceOf, hsame] at hflip
    all_goals exact absurd rfl hflip

/-- A round of the input loop that flips the recorded state of a user queues the change. -/
theorem processInputBody_queued (m n : DSNetManager) (h : m.processInputBody = .again n)
    (user : Bytes) (hmember : user ∈ m.myWWRMembers) (hadds : m.myPendingWWRAdds user = none)
    (hflip : (n.presenceOf user).online ≠ (m.presenceOf user).online) :
    user ∈ n.myChangedUsers := by
  obtain ⟨totalSize, hcut, hok, rfl⟩ := processInputBody_again m n h
  have hflip' : ((m.handleFrame m.mySocket.myInput totalSize).2.presenceOf user).online ≠
      (m.presenceOf user).online := hflip
  change user ∈ (m.handleFrame m.mySocket.myInput totalSize).2.myChangedUsers
  cases hanswer : answeredBy m.myTransactions (PacketHeader.read m.mySocket.myInput).ticket with
  | some transaction =>
    rw [handleFrame_response m _ totalSize transaction hanswer] at hflip'
    exact absurd rfl hflip'
  | none =>
    by_cases htype : ServerPacket.ofType (PacketHeader.read m.mySocket.myInput).type =
        some .handshakeResponse
    · rw [handleFrame_handshake m _ totalSize hanswer htype, presenceOf,
        handleHandshakeResponse_presence] at hflip'
      exact absurd rfl hflip'
    · rw [handleFrame_packet m _ totalSize hanswer htype] at hok hflip' ⊢
      exact handlePacket_queued (m.emit _) _ _ _ user hmember hadds hok hflip'

theorem updatePresence_keeps_queue (m : DSNetManager) (uin : BabelUIN) (online : Bool)
    (nickName user : Bytes) (h : user ∈ m.myChangedUsers) :
    user ∈ (m.updatePresence uin online nickName).myChangedUsers := by
  simp only [updatePresence, queueChange]
  split_ifs
  · exact h
  · exact h
  · exact List.mem_append_left _ h
  · exact h

/-- A step keeps a queued change, or adds an event that settles it to the trace. -/
theorem changed_step (m n : DSNetManager) (h : Step m n) (user : Bytes)
    (hqueued : user ∈ m.myChangedUsers) :
    ∃ events, n.trace = m.trace ++ events ∧
      (user ∈ n.myChangedUsers ∨ ∃ e ∈ events, Event.Settles user e) := by
  obtain ⟨events, htrace, _⟩ := h.adds
  cases h with
  | heard n hheard =>
    cases hheard with
    | quiet n hquiet => exact ⟨events, htrace, Or.inl (by rwa [hquiet.changed])⟩
    | hangUp => exact ⟨[.ended], rfl, Or.inr ⟨.ended, List.mem_singleton_self _, trivial⟩⟩
    | presence header frame uin online nickName =>
      exact ⟨events, htrace, Or.inl (updatePresence_keeps_queue _ uin online nickName user hqueued)⟩
    | _ => exact ⟨events, htrace, Or.inl hqueued⟩
  | yield =>
    rcases nextChangedUserWWR_frame m with ⟨_, hframe⟩ | ⟨other, users, online, hqueue, hframe⟩
    · exact ⟨events, htrace, Or.inl (by rwa [hframe])⟩
    · rw [hqueue] at hqueued
      refine ⟨[.yielded other online], by rw [hframe]; rfl, ?_⟩
      rcases List.mem_cons.mp hqueued with rfl | hlater
      · exact Or.inr ⟨_, List.mem_singleton_self _, rfl⟩
      · exact Or.inl (by rwa [hframe])
  | nickName other name =>
    obtain ⟨presence, hframe⟩ := rememberNickName_frame m other name
    exact ⟨events, htrace, Or.inl (by rwa [hframe])⟩
  | refuse kind fixedExtra =>
    refine ⟨events, htrace, Or.inl ?_⟩
    rwa [((onlyQueries_startTransaction m kind fixedExtra).trans
      (onlyQueries_abandonTransaction _ _)).changed]
  | ask slot deadline packet =>
    refine ⟨events, htrace, Or.inl ?_⟩
    rwa [(((onlyQueries_startTransaction m slot.kind slot.fixedExtra).trans
      (onlyQueries_emit _ _)).trans
      (onlyQueries_hold _ slot _)).changed]
  | finish slot ticket =>
    refine ⟨events, htrace, Or.inl ?_⟩
    rwa [((onlyQueries_setTransaction m ticket none).trans (onlyQueries_release _ slot)).changed]
  | expire slot ticket =>
    refine ⟨events, htrace, Or.inl ?_⟩
    rwa [((onlyQueries_abandonTransaction m ticket).trans (onlyQueries_release _ slot)).changed]
  | release slot =>
    refine ⟨events, htrace, Or.inl ?_⟩
    rwa [(onlyQueries_release m slot).changed]
  | _ => exact ⟨events, htrace, Or.inl hqueued⟩

theorem changed_steps (m n : DSNetManager) (h : Steps m n) (user : Bytes)
    (hqueued : user ∈ m.myChangedUsers) :
    ∃ events, n.trace = m.trace ++ events ∧
      (user ∈ n.myChangedUsers ∨ ∃ e ∈ events, Event.Settles user e) := by
  induction h with
  | refl => exact ⟨[], by simp, Or.inl hqueued⟩
  | tail _ hstep ih =>
    obtain ⟨events, htrace, hkept⟩ := ih
    rcases hkept with hkept | ⟨e, he, hsettles⟩
    · obtain ⟨more, hmore, hkept⟩ := changed_step _ _ hstep user hkept
      refine ⟨events ++ more, by rw [hmore, htrace, List.append_assoc], ?_⟩
      rcases hkept with hkept | ⟨e, he, hsettles⟩
      · exact Or.inl hkept
      · exact Or.inr ⟨e, List.mem_append_right _ he, hsettles⟩
    · obtain ⟨more, hmore, _⟩ := hstep.adds
      refine ⟨events ++ more, by rw [hmore, htrace, List.append_assoc], ?_⟩
      exact Or.inr ⟨e, List.mem_append_left _ he, hsettles⟩

end DSNetManager

/-- **No presence change is swallowed** while no wait of `AddToWWR` for the user is pending. In
every state that is reached, a round of the input loop that flips the recorded state of a user
whose watch is established queues the user, who stays queued until `NextChangedUserWWR` returns
the user, `RemoveFromWWR` is called for the user, or the connection ends. -/
theorem change_queued (os : SocketOS) (clock : Stream' UInt32) (disk : Disk) (m n : DSNetManager)
    (hm : Reached os clock disk m) (hround : m.processInputBody = .again n) (user : Bytes)
    (hwatched : watched user m.trace = true) (hadds : m.myPendingWWRAdds user = none)
    (hflip : (n.presenceOf user).online ≠ (m.presenceOf user).online) :
    user ∈ n.myChangedUsers ∧
      ∀ later events, DSNetManager.Steps n later → later.trace = n.trace ++ events →
        (∀ e ∈ events, ¬ Event.Settles user e) → user ∈ later.myChangedUsers := by
  have henrolled : m.Enrolled := hm.keeps DSNetManager.Enrolled
    (fun user hwatched => by simp [watched, DSNetManager.construct] at hwatched)
    DSNetManager.enrolled_step
  have hqueued := DSNetManager.processInputBody_queued m n hround user
    (henrolled user hwatched) hadds hflip
  refine ⟨hqueued, fun later events hlater htrace hunsettled => ?_⟩
  obtain ⟨events', htrace', hkept⟩ := DSNetManager.changed_steps n later hlater user hqueued
  have hsame : events' = events := List.append_cancel_left (htrace'.symm.trans htrace)
  rcases hkept with hkept | ⟨e, he, hsettles⟩
  · exact hkept
  · rw [hsame] at he
    exact absurd hsettles (hunsettled e he)

/-- A client that watches user 7+1 from its login on, that makes some more calls, and has just
read that the user comes online. -/
def aboutToHear (ops : List Op) : DSNetManager :=
  (ran (.scripted [[.data loginResponse], [.data DSNetManager.userComesOnline]] [.took 54,
    .took 32, .took 32])
    (.const 0) .blank (.connectInBackground [ascii "7+1"] :: .connectInBackground [] ::
      ops)).socketPump.2

theorem reached_aboutToHear (ops : List Op) :
    Reached (.scripted [[.data loginResponse], [.data DSNetManager.userComesOnline]] [.took 54,
      .took 32, .took 32])
      (.const 0) .blank (aboutToHear ops) :=
  Relation.ReflTransGen.trans (reached_ran _ _ _ _) (DSNetManager.hears_socketPump _).steps

theorem change_queued_login :
    ascii "7+1" ∈ (aboutToHear []).processInputBody.state.myChangedUsers ∧
      ∀ later events, DSNetManager.Steps (aboutToHear []).processInputBody.state later →
        later.trace = (aboutToHear []).processInputBody.state.trace ++ events →
        (∀ e ∈ events, ¬ Event.Settles (ascii "7+1") e) → ascii "7+1" ∈ later.myChangedUsers :=
  change_queued _ _ _ _ _ (reached_aboutToHear []) (Loop.Next.eq_again (by decide +kernel))
    (ascii "7+1") (by decide +kernel) (by decide +kernel) (by decide +kernel)

/-- The wait of another `AddToWWR` for the same user swallows the change. -/
theorem change_swallowed :
    Reached (.scripted [[.data loginResponse], [.data DSNetManager.userComesOnline]] [.took 54,
      .took 32, .took 32])
      (.const 0) .blank (aboutToHear [.addToWWR (ascii "7+1")]) ∧
    watched (ascii "7+1") (aboutToHear [.addToWWR (ascii "7+1")]).trace = true ∧
    (aboutToHear [.addToWWR (ascii "7+1")]).processInputBody.goesOn = true ∧
    ((aboutToHear [.addToWWR (ascii "7+1")]).presenceOf (ascii "7+1")).online = false ∧
    ((aboutToHear [.addToWWR (ascii "7+1")]).processInputBody.state.presenceOf
      (ascii "7+1")).online = true ∧
    ascii "7+1" ∉ (aboutToHear [.addToWWR (ascii "7+1")]).processInputBody.state.myChangedUsers :=
  ⟨reached_aboutToHear _, by decide +kernel⟩

end NetNatsue
