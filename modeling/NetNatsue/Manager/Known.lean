import NetNatsue.Manager.Effects

/-! What is known of other users, and how far it can be believed. -/
namespace NetNatsue

/-- The state the last packet about a user told. -/
def noteTold (user : Bytes) (told : Option Bool) : Event → Option Bool
  | .packet _ header frame =>
    match presenceTold header frame with
    | some (uin, online, _) => if uin.toString = user then some online else told
    | none => told
  | _ => told

def lastTold (user : Bytes) (events : List Event) : Option Bool := events.foldl (noteTold user) none

/-- What is remembered of a user: the state told last, until the user is removed; everyone told of
is offline when a connection has ended. -/
def noteState (user : Bytes) (state : Option Bool) : Event → Option Bool
  | .removed other => if other = user then none else state
  | .ended => state.map (fun _ => false)
  | e => noteTold user state e

def knownState (user : Bytes) (events : List Event) : Option Bool :=
  events.foldl (noteState user) none

/-- Events that change nothing in what is known of anyone. -/
def Event.Silent : Event → Prop
  | .packet _ header frame => presenceTold header frame = none
  | .removed _ | .ended => False
  | _ => True

theorem Event.Apart.silent {e : Event} {connection : ℕ} (h : e.Apart connection) : e.Silent := by
  cases e with
  | packet phase header frame => exact h.2.2
  | removed | ended => exact h.elim
  | _ => trivial

theorem noteTold_silent (user : Bytes) (told : Option Bool) (e : Event) (h : e.Silent) :
    noteTold user told e = told := by
  cases e with
  | packet phase header frame =>
    have hnone : presenceTold header frame = none := h
    simp only [noteTold, hnone]
  | _ => rfl

theorem noteState_silent (user : Bytes) (state : Option Bool) (e : Event) (h : e.Silent) :
    noteState user state e = state := by
  cases e with
  | packet phase header frame => exact noteTold_silent user state (.packet phase header frame) h
  | removed | ended => exact h.elim
  | _ => rfl

theorem foldl_silent (note : Option Bool → Event → Option Bool)
    (hnote : ∀ state e, Event.Silent e → note state e = state) (events : List Event)
    (h : ∀ e ∈ events, e.Silent) (state : Option Bool) : events.foldl note state = state := by
  induction events with
  | nil => rfl
  | cons e events ih =>
    rw [List.foldl_cons, hnote state e (h e List.mem_cons_self)]
    exact ih fun e he => h e (List.mem_cons_of_mem _ he)

theorem lastTold_append (user : Bytes) (a b : List Event) :
    lastTold user (a ++ b) = b.foldl (noteTold user) (lastTold user a) := List.foldl_append

theorem knownState_append (user : Bytes) (a b : List Event) :
    knownState user (a ++ b) = b.foldl (noteState user) (knownState user a) := List.foldl_append

/-- The user a call removes from the register. -/
def Op.removes : Op → Option Bytes
  | .removeFromWWR user => some user
  | _ => none

namespace DSNetManager

/-- Nobody's state changes, nobody is removed and no change is queued. -/
structure Steady (m n : DSNetManager) : Prop where
  online : ∀ user, (n.myPresence user).map Presence.online = (m.myPresence user).map Presence.online
  members : m.myWWRMembers ⊆ n.myWWRMembers
  changed : n.myChangedUsers ⊆ m.myChangedUsers
  trace : ∃ events, n.trace = m.trace ++ events ∧ ∀ e ∈ events, e.Silent

section
variable {m n k : DSNetManager}

theorem Steady.trans (h : Steady m n) (h' : Steady n k) : Steady m k where
  online user := (h'.online user).trans (h.online user)
  members := h.members.trans h'.members
  changed := fun _ hmem => h.changed (h'.changed hmem)
  trace := by
    obtain ⟨events, htrace, hevents⟩ := h.trace
    obtain ⟨more, hmore, hmore'⟩ := h'.trace
    refine ⟨events ++ more, by rw [hmore, htrace, List.append_assoc], fun e he => ?_⟩
    exact (List.mem_append.mp he).elim (hevents e) (hmore' e)

theorem Steady.lastTold_eq (h : Steady m n) (user : Bytes) :
    lastTold user n.trace = lastTold user m.trace := by
  obtain ⟨events, htrace, hevents⟩ := h.trace
  rw [htrace, lastTold_append]
  exact foldl_silent _ (noteTold_silent user) events hevents _

theorem Steady.knownState_eq (h : Steady m n) (user : Bytes) :
    knownState user n.trace = knownState user m.trace := by
  obtain ⟨events, htrace, hevents⟩ := h.trace
  rw [htrace, knownState_append]
  exact foldl_silent _ (noteState_silent user) events hevents _

theorem Apart.steady (h : Apart m n) : Steady m n := by
  obtain ⟨events, htrace, hevents⟩ := h.trace
  exact ⟨h.online, h.members.ge, by rw [h.changed]; exact List.Subset.refl _, events, htrace,
    fun e he => (hevents e he).silent⟩

theorem Registers.steady {users : List Bytes} (h : Registers users m n) : Steady m n := by
  obtain ⟨events, htrace, hevents⟩ := h.trace
  refine ⟨fun user => by rw [h.presence], h.grown, by
    rw [h.changed]; exact List.Subset.refl _, events,
    htrace, fun e he => ?_⟩
  rcases hevents e he with ⟨user, rfl⟩ | ⟨user, _, _, rfl⟩ <;> trivial

end

/-- A step on the way that agrees on presence, members and queue. -/
theorem steady_of_eq {m n : DSNetManager} (events : List Event)
    (htrace : n.trace = m.trace ++ events)
    (hevents : ∀ e ∈ events, e.Silent) (hpresence : n.myPresence = m.myPresence)
    (hmembers : n.myWWRMembers = m.myWWRMembers) (hchanged : n.myChangedUsers = m.myChangedUsers) :
    Steady m n :=
  ⟨fun user => by rw [hpresence], hmembers.ge, by rw [hchanged]; exact List.Subset.refl _, events,
    htrace, hevents⟩

theorem steady_socketWrite (m : DSNetManager) (packet : Bytes) :
    Steady m (m.socketWrite packet).2 := by
  cases hok : (m.socketWrite packet).1 with
  | true =>
    rw [socketWrite_ok m packet hok]
    exact steady_of_eq [_] rfl (by simp [Event.Silent]) rfl rfl rfl
  | false =>
    rw [socketWrite_failed m packet hok]
    exact steady_of_eq [] (List.append_nil _).symm (by simp) rfl rfl rfl

theorem steady_acceptLogin (m : DSNetManager) (serverUIN userUIN : BabelUIN)
    (servers : List CBabelServerInfo) : Steady m (m.acceptLogin serverUIN userUIN servers) := by
  have hadmit : Steady m (m.admitted serverUIN userUIN servers) :=
    steady_of_eq [] (List.append_nil _).symm (by simp) rfl rfl rfl
  have hregister := hadmit.trans (registers_acceptLogin m serverUIN userUIN servers).steady
  rw [acceptLogin_admitted]
  exact hregister.trans (steady_of_eq [] (List.append_nil _).symm (by simp) rfl rfl rfl)

theorem steady_handleMessage (m : DSNetManager) (body : Bytes) (bodySize : Int32) :
    Steady m (m.handleMessage body bodySize) := by
  unfold handleMessage
  cases parsePackedBabelMessage body bodySize with
  | none => exact steady_of_eq [] (List.append_nil _).symm (by simp) rfl rfl rfl
  | some message =>
    simp only
    split_ifs
    · exact steady_of_eq [_] rfl (by simp [Event.Silent]) rfl rfl rfl
    · exact steady_of_eq [] (List.append_nil _).symm (by simp) rfl rfl rfl

theorem steady_attemptFor (m : DSNetManager) (users : List Bytes) :
    Steady m (m.attemptFor users) := by
  obtain ⟨_, _, _, _, _, hframe⟩ := chooseServer_frame { m with myUsersForWWR := users }
  simp only [attemptFor, startConnecting, hframe]
  split_ifs <;> exact steady_of_eq [_] rfl (by simp [Event.Silent]) rfl rfl rfl

theorem steady_yield (m : DSNetManager) : Steady m m.nextChangedUserWWR.2 := by
  rcases nextChangedUserWWR_frame m with ⟨_, hframe⟩ | ⟨user, users, state, hqueue, hframe⟩
  · rw [hframe]
    exact steady_of_eq [] (List.append_nil _).symm (by simp) rfl rfl rfl
  · rw [hframe]
    refine ⟨fun _ => rfl, subset_rfl, ?_, [.yielded user state], rfl, by simp [Event.Silent]⟩
    rw [hqueue]
    exact List.subset_cons_self user users

/-- Before it ends, a lost connection is one that was ended. -/
theorem connectionLost_eq (m : DSNetManager) :
    m.connectionLost =
      { m with myLastError := .offline, myRawError := -m.mySocket.myLastSystemError }.disconnect :=
      rfl

theorem presenceTold_of_type {header : PacketHeader} {frame : Bytes} {packet : ServerPacket}
    (h : ServerPacket.ofType header.type = some packet)
    (hpacket : packet = .message ∨ packet = .virtualConnect) :
    presenceTold header frame = none := by
  rcases hpacket with rfl | rfl <;> simp [presenceTold, h]

/-- **The principle for what is known**: a property that survives steady acts, packets that tell
of someone, the end of a connection and the removal of a user, survives every act. -/
theorem Act.keeps_known {op : Op} (p : DSNetManager → Prop)
    (hsteady : ∀ m n, Steady m n → p m → p n)
    (htold : ∀ (m : DSNetManager) frame uin online nickName,
      presenceTold (PacketHeader.read frame) frame = some (uin, online, nickName) → p m →
      p ((m.emit (.packet m.myConnectPhase (PacketHeader.read frame) frame)).updatePresence uin
        online
        nickName))
    (hended : ∀ m : DSNetManager, p m → p m.disconnect)
    (hforget : ∀ (m : DSNetManager) user, op = .removeFromWWR user → p m → p (m.forgetUser user))
    {m n : DSNetManager} (h : Act op m n) (hm : p m) : p n := by
  have hlost : ∀ m : DSNetManager, p m → p m.connectionLost := by
    intro m hm
    rw [connectionLost_eq]
    exact hended _ (hsteady m _ (steady_of_eq [] (List.append_nil _).symm (by simp) rfl rfl rfl) hm)
  have hpacket : ∀ (m : DSNetManager) frame, presenceTold (PacketHeader.read frame) frame = none →
      Steady m (m.emit (.packet m.myConnectPhase (PacketHeader.read frame) frame)) := by
    intro m frame hnone
    exact steady_of_eq [_] rfl (by simpa [Event.Silent] using hnone) rfl rfl rfl
  cases h.effect with
  | apart _ _ _ hapart => exact hsteady m n hapart.steady hm
  | attempting _ _ _ hapart => exact hsteady m n hapart.steady hm
  | accepted _ _ frame =>
    have hemit : Steady m (m.emit (.handshake m.myConnectPhase frame)) :=
      steady_of_eq [_] rfl (by simp [Event.Silent]) rfl rfl rfl
    exact hsteady m _ (hemit.trans (steady_acceptLogin _ _ _ _)) hm
  | message _ _ frame htype =>
    exact hsteady m _ ((hpacket m frame (presenceTold_of_type htype (Or.inl rfl))).trans
      (steady_handleMessage _ _ _)) hm
  | presence _ _ frame uin state nickName htold' => exact htold m frame uin state nickName htold' hm
  | circuit _ _ frame htype =>
    have hvsn : ∀ m : DSNetManager, Steady m m.nextVSN.2 := fun m =>
      steady_of_eq [] (List.append_nil _).symm (by simp) rfl rfl rfl
    have hreply :=
      ((hpacket m frame (presenceTold_of_type htype (Or.inr rfl))).trans (hvsn _)).trans
      (steady_socketWrite _ (buildVirtualConnectAccept m.myServerUIN
        ⟨(PacketHeader.read frame).fieldC, (PacketHeader.read frame).fieldD⟩
        (PacketHeader.read frame).fieldE m.nextVSN.1))
    unfold handleVirtualConnect
    simp only
    split_ifs
    · exact hsteady m _ hreply hm
    · exact hlost _ (hsteady m _ hreply hm)
  | lost => exact hlost m hm
  | hangUp => exact hended m hm
  | attempt _ users =>
    refine hsteady m _ ((steady_attemptFor m users).trans ?_) hm
    exact steady_of_eq [_] rfl (by simp [Event.Silent]) rfl rfl rfl
  | watch _ user hvalid =>
    exact hsteady m _ (registers_watch m user (List.mem_singleton_self user) hvalid).steady hm
  | enrol _ user hvalid => exact hsteady m _ (registers_enrol m user hvalid).steady hm
  | remove _ user =>
    have hforgotten := hforget m user rfl hm
    unfold removeFromWWR
    simp only
    split_ifs
    · exact hsteady _ _ (steady_socketWrite _ _) hforgotten
    · exact hforgotten
    · exact hforgotten
  | yield => exact hsteady m _ (steady_yield m) hm
  | collect => exact hsteady m _ (steady_of_eq [_] rfl (by simp [Event.Silent]) rfl rfl rfl) hm

/-- The presence of a user is what the trace says is known. -/
def Known (m : DSNetManager) : Prop :=
  ∀ user, (m.myPresence user).map Presence.online = knownState user m.trace

theorem known_steady (m n : DSNetManager) (h : Steady m n) (hm : m.Known) : n.Known :=
  fun user => by rw [h.online, h.knownState_eq, hm user]

theorem recordPresence_online (m : DSNetManager) (key user : Bytes) (online : Bool)
    (nickName : Bytes) :
    ((m.recordPresence key online nickName).myPresence user).map Presence.online =
      if key = user then some online else (m.myPresence user).map Presence.online := by
  by_cases hkey : key = user
  · simp [recordPresence, hkey]
  · simp [recordPresence, Function.update_of_ne (Ne.symm hkey), hkey]

/-- A packet that tells of a user is all that anyone learns. -/
theorem known_told (m : DSNetManager) (frame : Bytes) (uin : BabelUIN) (online : Bool)
    (nickName : Bytes)
    (htold : presenceTold (PacketHeader.read frame) frame = some (uin, online, nickName))
    (hm : m.Known) :
    ((m.emit (.packet m.myConnectPhase (PacketHeader.read frame) frame)).updatePresence uin online
      nickName).Known := by
  intro user
  obtain ⟨changed, adds, hframe⟩ := updatePresence_frame
    (m.emit (.packet m.myConnectPhase (PacketHeader.read frame) frame)) uin online nickName
  rw [hframe]
  change ((m.recordPresence uin.toString online nickName).myPresence user).map Presence.online = _
  rw [recordPresence_online, emit_trace, knownState_append, hm user]
  simp [noteState, noteTold, htold]

theorem known_disconnect (m : DSNetManager) (hm : m.Known) : m.disconnect.Known := by
  intro user
  have htrace : m.disconnect.trace = m.trace ++ [Event.ended] := rfl
  have hpresence : m.disconnect.myPresence user =
      (m.myPresence user).map (fun presence => { presence with online := false }) := rfl
  rw [htrace, knownState_append, hpresence, List.foldl_cons, List.foldl_nil, noteState, ← hm user]
  cases m.myPresence user <;> rfl

theorem known_forgetUser (m : DSNetManager) (user : Bytes) (hm : m.Known) :
    (m.forgetUser user).Known := by
  intro other
  have htrace : (m.forgetUser user).trace = m.trace ++ [Event.removed user] := rfl
  have hpresence : (m.forgetUser user).myPresence = Function.update m.myPresence user none := rfl
  rw [htrace, knownState_append, hpresence, List.foldl_cons, List.foldl_nil, noteState, ← hm other]
  by_cases hother : user = other
  · simp [hother]
  · simp [hother, Function.update_of_ne (Ne.symm hother)]

theorem known_act {op : Op} {m n : DSNetManager} (h : Act op m n) (hm : m.Known) : n.Known :=
  h.keeps_known Known known_steady known_told known_disconnect
    (fun m user _ => known_forgetUser m user) hm

theorem known_construct (os : SocketOS) (clock : Stream' UInt32) (disk : Disk) :
    (construct os clock disk).Known := fun _ => rfl

/-- Whoever is queued is a member, and what is known of the user is what was told last. -/
def Truthful (m : DSNetManager) : Prop :=
  ∀ user ∈ m.myChangedUsers, user ∈ m.myWWRMembers ∧
    ∃ online, knownState user m.trace = some online ∧ lastTold user m.trace = some online

theorem truthful_steady (m n : DSNetManager) (h : Steady m n) (hm : m.Truthful) : n.Truthful := by
  intro user hqueued
  obtain ⟨hmember, online, hknown, htold⟩ := hm user (h.changed hqueued)
  exact ⟨h.members hmember, online, by rw [h.knownState_eq, hknown], by rw [h.lastTold_eq, htold]⟩

theorem truthful_told (m : DSNetManager) (frame : Bytes) (uin : BabelUIN) (online : Bool)
    (nickName : Bytes)
    (htold : presenceTold (PacketHeader.read frame) frame = some (uin, online, nickName))
    (hm : m.Truthful) :
    ((m.emit (.packet m.myConnectPhase (PacketHeader.read frame) frame)).updatePresence uin online
      nickName).Truthful := by
  intro user hqueued
  have hold : user ∈ m.myChangedUsers ∨ user = uin.toString ∧ user ∈ m.myWWRMembers := by
    simp only [updatePresence, queueChange] at hqueued
    split_ifs at hqueued with _ hchanged
    · exact Or.inl hqueued
    · exact Or.inl hqueued
    · rcases List.mem_append.mp hqueued with hqueued | hqueued
      · exact Or.inl hqueued
      · rw [List.mem_singleton.mp hqueued]
        exact Or.inr ⟨rfl, hchanged.2⟩
    · exact Or.inl hqueued
  obtain ⟨changed, adds, hframe⟩ := updatePresence_frame
    (m.emit (.packet m.myConnectPhase (PacketHeader.read frame) frame)) uin online nickName
  rw [hframe]
  change user ∈ m.myWWRMembers ∧ ∃ state,
    knownState user (m.trace ++ [Event.packet m.myConnectPhase (PacketHeader.read frame) frame]) =
      some state ∧
      lastTold user (m.trace ++ [Event.packet m.myConnectPhase (PacketHeader.read frame) frame]) =
        some state
  rw [knownState_append, lastTold_append]
  simp only [List.foldl_cons, List.foldl_nil, noteState, noteTold, htold]
  by_cases hkey : uin.toString = user
  · refine ⟨?_, online, if_pos hkey, if_pos hkey⟩
    rcases hold with hold | ⟨_, hmember⟩
    · exact (hm user hold).1
    · exact hmember
  · rw [if_neg hkey, if_neg hkey]
    exact hm user (hold.resolve_right fun h => hkey h.1.symm)

theorem truthful_disconnect (m : DSNetManager) : m.disconnect.Truthful :=
  fun user hqueued => absurd hqueued (List.not_mem_nil (a := user))

/-- The removal of somebody who is not queued. -/
theorem truthful_forgetUser (m : DSNetManager) (user : Bytes) (hunqueued : user ∉ m.myChangedUsers)
    (hm : m.Truthful) : (m.forgetUser user).Truthful := by
  intro other hqueued
  obtain ⟨hmember, online, hknown, htold⟩ := hm other hqueued
  have hother : user ≠ other := fun h => hunqueued (h ▸ hqueued)
  have htrace : (m.forgetUser user).trace = m.trace ++ [Event.removed user] := rfl
  refine ⟨Finset.mem_erase.mpr ⟨hother.symm, hmember⟩, online, ?_, ?_⟩
  · rw [htrace, knownState_append, List.foldl_cons, List.foldl_nil, noteState,
      if_neg hother, hknown]
  · rw [htrace, lastTold_append]
    exact htold

/-- Nobody is removed while a change of theirs is queued. -/
def RemovesUnqueued (m : DSNetManager) (op : Op) : Prop :=
  ∀ user ∈ op.removes, user ∉ m.myChangedUsers

instance (m : DSNetManager) (op : Op) : Decidable (RemovesUnqueued m op) :=
  inferInstanceAs (Decidable (∀ user ∈ op.removes, user ∉ m.myChangedUsers))

theorem truthful_run (op : Op) (m : DSNetManager) (hcareful : RemovesUnqueued m op)
    (hacts : Acts op m (op.run m).2) (hm : m.Truthful) : (op.run m).2.Truthful := by
  by_cases hremove : ∃ user, op = .removeFromWWR user
  · obtain ⟨user, rfl⟩ := hremove
    have hforgotten := truthful_forgetUser m user (hcareful user rfl) hm
    simp only [Op.run, removeFromWWR]
    split_ifs
    · exact truthful_steady _ _ (steady_socketWrite _ _) hforgotten
    · exact hforgotten
    · exact hforgotten
  · refine hacts.keeps Truthful (fun m n hact hm => ?_) hm
    exact hact.keeps_known Truthful truthful_steady truthful_told (fun m _ => truthful_disconnect m)
      (fun m user hop => absurd ⟨user, hop⟩ hremove) hm

end DSNetManager

open DSNetManager

/-- **Changes that are reported are true** in every run in which nobody is removed while a change
of theirs is queued. -/
theorem reported_changes_true (os : SocketOS) (clock : Stream' UInt32) (disk : Disk) (ops : List Op)
    (hcareful : Meets RemovesUnqueued ops (construct os clock disk)) (user : Bytes) (online : Bool)
    (h : (ran os clock disk ops).nextChangedUserWWR.1 = some (user, online)) :
    user ∈ (ran os clock disk ops).myWWRMembers ∧
      lastTold user (ran os clock disk ops).trace = some online := by
  have hknown := ran_keeps os clock disk ops DSNetManager.Known (known_construct os clock disk)
    (fun _ _ _ hact => known_act hact)
  have htruthful : (ran os clock disk ops).Truthful :=
    hcareful.keeps rfl Truthful (fun user hqueued => absurd hqueued (List.not_mem_nil (a := user)))
      (fun op m hop _ hacts => truthful_run op m hop hacts)
  have hreported : user ∈ (ran os clock disk ops).myChangedUsers ∧
      online = (((ran os clock disk ops).myPresence user).map Presence.online).getD false := by
    unfold nextChangedUserWWR at h
    cases hqueue : (ran os clock disk ops).myChangedUsers with
    | nil => simp [hqueue] at h
    | cons first users =>
      simp only [hqueue, Option.some.injEq, Prod.mk.injEq] at h
      obtain ⟨rfl, rfl⟩ := h
      refine ⟨List.mem_cons_self, ?_⟩
      cases (ran os clock disk ops).myPresence first <;> rfl
  obtain ⟨hmember, state, hstate, htold⟩ := htruthful user hreported.1
  rw [hknown user, hstate] at hreported
  exact ⟨hmember, by rw [htold, hreported.2]; rfl⟩

/-- A client that watches user 7+1 from its login on, and has been told that the user is online. -/
def toldOnline (ops : List Op) : DSNetManager :=
  ran (.scripted [[.data loginResponse], [.data userComesOnline]] [.took 54, .took 32, .took 32])
    (.const 0) .blank
    ([.connectInBackground [ascii "7+1"], .connectInBackground [], .tick] ++ ops)

theorem reported_changes_true_login :
    ascii "7+1" ∈ (toldOnline []).myWWRMembers ∧ lastTold (ascii "7+1")
      (toldOnline []).trace = some true :=
  reported_changes_true _ _ _ _ (by decide +kernel) (ascii "7+1") true (by decide +kernel)

/-- A user who is removed while queued is reported all the same, as offline. -/
theorem removed_user_reported :
    let m := toldOnline [.removeFromWWR (ascii "7+1")]
    m.nextChangedUserWWR.1 = some (ascii "7+1", false) ∧ ascii "7+1" ∉ m.myWWRMembers ∧
      lastTold (ascii "7+1") m.trace = some true := by
  decide +kernel

/-- The type of the packet an event notes to be written. -/
def Event.writtenType : Event → Option Int32
  | .wrote _ data => some (PacketHeader.read data).type
  | _ => none

namespace DSNetManager

/-- What a call has added to the trace. -/
def since (m n : DSNetManager) : List Event := n.trace.drop m.trace.length

/-- The request `IsUserOnline` writes when nothing is known of the user. -/
def connectionRequest (m : DSNetManager) (user : Bytes) : Bytes :=
  buildGetConnectionDetail m.myServerUIN (BabelUIN.fromString user).2
    (ticketAfter m.myNextTicketNumber)

theorem Steps.since {m n : DSNetManager} (h : Steps m n) : n.trace = m.trace ++ since m n := by
  have hgrown : ∃ events, n.trace = m.trace ++ events := by
    induction h with
    | refl => exact ⟨[], (List.append_nil _).symm⟩
    | tail _ hstep ih =>
      obtain ⟨events, htrace⟩ := ih
      obtain ⟨more, hmore, _⟩ := hstep.adds
      exact ⟨events ++ more, by rw [hmore, htrace, List.append_assoc]⟩
  obtain ⟨events, htrace⟩ := hgrown
  rw [DSNetManager.since, htrace, List.drop_left]

section
variable (m : DSNetManager) (fuel : ℕ) (user : Bytes) (honline : m.Online)
  (hvalid : (BabelUIN.fromString user).1 = true)
    (hother : (BabelUIN.fromString user).2 ≠ m.myUserUIN)
include honline hvalid hother

theorem isUserOnline_known (presence : Presence) (h : m.myPresence user = some presence) :
    m.isUserOnline fuel user = (some presence.online, m) := by
  simp only [isUserOnline]
  rw [if_neg (not_not_intro hvalid), if_neg (not_not_intro honline), if_neg hother, h]

theorem isUserOnline_unknown (h : m.myPresence user = none) :
    m.isUserOnline fuel user = m.askUserOnline fuel (BabelUIN.fromString user).2 := by
  simp only [isUserOnline]
  rw [if_neg (not_not_intro hvalid), if_neg (not_not_intro honline), if_neg hother, h]

end

/-- A wait only adds to the trace. -/
theorem waitForTransaction_trace (m : DSNetManager) (fuel : ℕ) (kind : TransactionKind)
    (ticket : Int32) (timeoutMs : UInt32) (honline : m.Online) :
    ∃ events, (m.waitForTransaction fuel kind ticket timeoutMs).2.trace = m.trace ++ events := by
  have hwait : Steps (m.setWaiting (some (kind, ticket)))
      (m.waitForTransaction fuel kind ticket timeoutMs).2 :=
    (pieces_waitForTransaction .disconnect m fuel kind ticket timeoutMs honline).acts.steps
  exact ⟨_, hwait.since⟩

theorem socketWrite_trace (m : DSNetManager) (packet : Bytes)
    (hok : (m.socketWrite packet).1 = true) :
    (m.socketWrite packet).2.trace =
      m.trace ++ [.wrote (m.mySocket.write packet (sizeInt packet)).2.os.connection packet] := by
  rw [socketWrite_ok m packet hok, emit_trace]

section
variable (m : DSNetManager) (fuel : ℕ) (user : Bytes)

/-- The packet of `IsUserOnline` carries the ticket that was started for it. -/
theorem connectionRequest_started : m.connectionRequest user =
    buildGetConnectionDetail m.myServerUIN (BabelUIN.fromString user).2
      (m.startTransaction .connectionDetail noExtra).1 := rfl

theorem askUserOnline_refused
    (h : ((m.startTransaction .connectionDetail noExtra).2.socketWrite
      (m.connectionRequest user)).1 = false) :
    (m.askUserOnline fuel (BabelUIN.fromString user).2).1 = some false := by
  rw [connectionRequest_started] at h
  unfold askUserOnline
  simp only
  rw [if_pos (by rw [Bool.not_eq_true]; exact h)]

theorem askUserOnline_sent
    (h : ((m.startTransaction .connectionDetail noExtra).2.socketWrite
      (m.connectionRequest user)).1 = true) :
    (m.askUserOnline fuel (BabelUIN.fromString user).2).2 =
      (((m.startTransaction .connectionDetail noExtra).2.socketWrite
        (m.connectionRequest user)).2.waitForTransaction fuel .connectionDetail
          (m.startTransaction .connectionDetail noExtra).1 userOnlineTimeoutMs).2 := by
  rw [connectionRequest_started] at h ⊢
  unfold askUserOnline
  simp only
  rw [if_neg (not_not_intro h)]

end

/-- When nothing is known of a user, the server is asked, or cannot be. -/
theorem askUserOnline_asks (m : DSNetManager) (fuel : ℕ) (user : Bytes) (honline : m.Online) :
    (∃ e ∈ since m (m.askUserOnline fuel (BabelUIN.fromString user).2).2,
      e.writtenType = some packetGetConnectionDetail) ∨
    (m.askUserOnline fuel (BabelUIN.fromString user).2).1 = some false ∧
      (m.mySocket.write (m.connectionRequest user) (sizeInt (m.connectionRequest user))).1 =
      false := by
  cases hok : ((m.startTransaction .connectionDetail noExtra).2.socketWrite
    (m.connectionRequest user)).1 with
  | false => exact Or.inr ⟨askUserOnline_refused m fuel user hok, hok⟩
  | true =>
    have htype : (PacketHeader.read (m.connectionRequest user)).type =
        packetGetConnectionDetail := by
      simp [connectionRequest, buildGetConnectionDetail]
    have hfit : (m.connectionRequest user).length < 4294967296 := by
      simp [connectionRequest, buildGetConnectionDetail, packetHeaderSize]
    rw [askUserOnline_sent m fuel user hok]
    generalize m.connectionRequest user = packet at *
    have hstart := startTransaction_trace m .connectionDetail noExtra
    have hstarted : (m.startTransaction .connectionDetail noExtra).2.Online := honline
    generalize (m.startTransaction .connectionDetail noExtra).1 = ticket at *
    generalize (m.startTransaction .connectionDetail noExtra).2 = n at *
    obtain ⟨events, hwait⟩ :=
      waitForTransaction_trace (n.socketWrite packet).2 fuel .connectionDetail ticket
      userOnlineTimeoutMs (online_socketWrite n packet hfit hstarted hok)
    refine Or.inl ⟨.wrote (n.mySocket.write packet (sizeInt packet)).2.os.connection packet, ?_,
      congrArg some htype⟩
    rw [DSNetManager.since, hwait, socketWrite_trace n packet hok, hstart, List.append_assoc,
      List.append_assoc, List.drop_left]
    simp

end DSNetManager

/-- **Answers from memory.** When `IsUserOnline` answers for another user without asking the
server, then either the server could not be asked and the answer is no, or a packet has told of
the user since the user was last removed: the answer is what the last such packet said, and no if
a connection has ended since. -/
theorem answer_remembered (os : SocketOS) (clock : Stream' UInt32) (disk : Disk) (ops : List Op)
    (m : DSNetManager) (hrun : m = ran os clock disk ops) (fuel : ℕ) (user : Bytes) (answer : Bool)
    (honline : m.Online)
    (hvalid : (BabelUIN.fromString user).1 = true)
    (hother : (BabelUIN.fromString user).2 ≠ m.myUserUIN)
    (hanswer : (m.isUserOnline fuel user).1 = some answer)
    (hsilent : ∀ e ∈ since m (m.isUserOnline fuel user).2,
      e.writtenType ≠ some packetGetConnectionDetail) :
    knownState user m.trace = some answer ∨
      answer = false ∧
        (m.mySocket.write (m.connectionRequest user) (sizeInt (m.connectionRequest user))).1 =
        false := by
  have hknown : m.Known := hrun ▸ ran_keeps os clock disk ops DSNetManager.Known
    (known_construct os clock disk) fun _ _ _ hact => known_act hact
  have hpresent := hknown user
  cases hpresence : m.myPresence user with
  | some presence =>
    rw [isUserOnline_known m fuel user honline hvalid hother presence hpresence,
      Option.some.injEq] at hanswer
    rw [hpresence, Option.map_some, hanswer] at hpresent
    exact Or.inl hpresent.symm
  | none =>
    rw [isUserOnline_unknown m fuel user honline hvalid hother hpresence] at hanswer hsilent
    rcases askUserOnline_asks m fuel user honline with ⟨e, he, hasks⟩ | ⟨hno, hunwritten⟩
    · exact absurd hasks (hsilent e he)
    · rw [hno, Option.some.injEq] at hanswer
      exact Or.inr ⟨hanswer.symm, hunwritten⟩

/-- A user who was told of while not watched. -/
theorem answer_remembered_unwatched :
    let m :=
      ran (.scripted [[.data loginResponse], [.data userComesOnline]] [.took 54]) (.const 0) .blank
      [.connectInBackground [], .connectInBackground [], .tick]
    knownState (ascii "7+1") m.trace = some true ∨
      true = false ∧ (m.mySocket.write (m.connectionRequest (ascii "7+1"))
        (sizeInt (m.connectionRequest (ascii "7+1")))).1 = false :=
  answer_remembered _ _ _ _ _ rfl 0 (ascii "7+1") true (by decide +kernel) (by decide +kernel)
    (by decide +kernel) (by decide +kernel) (by decide +kernel)

/-- A user told of without being watched is answered for, and so is a watched one of whom only an
earlier connection told. -/
theorem answer_not_current :
    (let m := ran (.scripted [[.data loginResponse], [.data userComesOnline]] [.took 54])
      (.const 0) .blank
        [.connectInBackground [], .connectInBackground [], .tick]
     m.Online ∧ (m.isUserOnline 0 (ascii "7+1")).1 = some true ∧
        since m (m.isUserOnline 0 (ascii "7+1")).2 = [] ∧ ascii "7+1" ∉ m.myWWRMembers) ∧
    let m := ran (.scripted [[.data loginResponse], [.data userComesOnline], [.data loginResponse]]
        [.took 54, .took 32, .took 54, .took 32]) (.const 0) .blank
        [.connectInBackground [ascii "7+1"], .connectInBackground [], .tick, .disconnect,
          .connectInBackground [ascii "7+1"], .connectInBackground []]
    m.Online ∧ (m.isUserOnline 0 (ascii "7+1")).1 = some false ∧
      since m (m.isUserOnline 0 (ascii "7+1")).2 = [] ∧ lastTold (ascii "7+1") m.trace =
        some true := by
  decide +kernel

end NetNatsue
