import NetNatsue.Manager.Runs

/-! What a new connection finds of the one before it. -/
namespace NetNatsue

/-- No attempt is started from a connection that died unnoticed, and nobody is reported online
while nobody is logged in. -/
def Event.Careful : Event → Prop
  | .polled found online _ => ¬ (found = .online ∧ online = false)
  | .packet phase header frame =>
    phase = .online ∨ (presenceTold header frame).map (fun told => told.2.1) ≠ some true
  | _ => True

instance : DecidablePred Event.Careful
  | .polled found online _ => inferInstanceAs (Decidable (¬ (found = .online ∧ online = false)))
  | .packet phase header frame =>
    inferInstanceAs (Decidable (phase = .online ∨
      (presenceTold header frame).map (fun told => told.2.1) ≠ some true))
  | .connecting _ _ | .issued _ | .started _ _ | .wrote _ _ | .response _ _ | .handshake _ _
  | .ended | .spooled _ _ _ | .posted _ _ _ _ | .collected _ | .yielded _ _
  | .registered _ | .added _ _ | .removed _ => isTrue trivial

namespace DSNetManager

/-- Nothing live is left of a connection. -/
structure Clean (m : DSNetManager) : Prop where
  transactions : ∀ ticket, m.myTransactions ticket = none
  adds : ∀ user, m.myPendingWWRAdds user = none
  changed : m.myChangedUsers = []
  offline : ∀ user, (m.presenceOf user).online = false

section
variable {m n : DSNetManager}

/-- The tables that are to be clean stay what they were. -/
theorem Clean.same (h : m.Clean) (htransactions : n.myTransactions = m.myTransactions)
    (hadds : n.myPendingWWRAdds = m.myPendingWWRAdds)
    (hchanged : n.myChangedUsers = m.myChangedUsers)
    (hpresence : n.myPresence = m.myPresence) : n.Clean where
  transactions ticket := by rw [htransactions, h.transactions]
  adds user := by rw [hadds, h.adds]
  changed := by rw [hchanged, h.changed]
  offline user := by rw [presenceOf, hpresence, ← presenceOf, h.offline]

theorem clean_disconnect (m : DSNetManager) : m.disconnect.Clean where
  transactions _ := rfl
  adds _ := rfl
  changed := rfl
  offline user := by
    simp only [disconnect, markEveryoneOffline, emit, presenceOf]
    cases m.myPresence user <;> rfl

theorem Clean.recordPresence (h : m.Clean) (key nickName : Bytes) :
    (m.recordPresence key false nickName).Clean where
  transactions := h.transactions
  adds := h.adds
  changed := h.changed
  offline user := by
    by_cases huser : user = key
    · simp [DSNetManager.recordPresence, presenceOf, huser]
    · have hoffline := h.offline user
      simpa [DSNetManager.recordPresence, presenceOf, huser] using hoffline

/-- News that a user is offline are no news where nobody is online. -/
theorem Clean.updatePresence (h : m.Clean) (uin : BabelUIN) (nickName : Bytes) :
    (m.updatePresence uin false nickName).Clean := by
  simp only [DSNetManager.updatePresence, h.adds, h.offline, Option.isSome_none, Bool.false_eq_true,
    ↓reduceIte, ne_eq, not_true_eq_false, false_and]
  exact h.recordPresence uin.toString nickName

theorem Clean.forgetUser (h : m.Clean) (user : Bytes) : (m.forgetUser user).Clean where
  transactions := h.transactions
  adds other := by
    by_cases hother : other = user
    · simp [DSNetManager.forgetUser, emit, hother]
    · simp [DSNetManager.forgetUser, emit, hother, h.adds]
  changed := h.changed
  offline other := by
    by_cases hother : other = user
    · simp [DSNetManager.forgetUser, emit, presenceOf, hother]
    · have hoffline := h.offline other
      simpa [DSNetManager.forgetUser, emit, presenceOf, hother] using hoffline

theorem Clean.rememberNickName (h : m.Clean) (user nickName : Bytes) :
    (m.rememberNickName user nickName).Clean := by
  unfold DSNetManager.rememberNickName
  cases hpresence : m.myPresence user with
  | none => exact h
  | some presence =>
    simp only
    split_ifs
    · exact h
    · refine ⟨h.transactions, h.adds, h.changed, fun other => ?_⟩
      by_cases hother : other = user
      · have hoffline := h.offline user
        simpa [presenceOf, hother, hpresence] using hoffline
      · have hoffline := h.offline other
        simpa [presenceOf, hother] using hoffline

theorem Clean.release (h : m.Clean) (slot : Slot) : (m.release slot).Clean :=
  have hqueries := onlyQueries_release m slot
  h.same (by cases slot <;> rfl) hqueries.adds hqueries.changed hqueries.presence

theorem Clean.setTransaction_none (h : m.Clean) (ticket : Int32) :
    (m.setTransaction ticket none).Clean := by
  refine ⟨fun other => ?_, h.adds, h.changed, h.offline⟩
  by_cases hother : other = ticket
  · simp [setTransaction, hother]
  · simp [setTransaction, hother, h.transactions]

theorem Clean.abandonTransaction (h : m.Clean) (ticket : Int32) :
    m.abandonTransaction ticket = m := by
  simp only [DSNetManager.abandonTransaction, h.transactions]

theorem Clean.endWWRAdd (h : m.Clean) (user : Bytes) : (m.endWWRAdd user).Clean where
  transactions := h.transactions
  adds other := by
    by_cases hother : other = user
    · simp [DSNetManager.endWWRAdd, hother]
    · simp [DSNetManager.endWWRAdd, hother, h.adds]
  changed := h.changed
  offline := h.offline

end

/-- Logged out, nothing live is left. -/
def Tidy (m : DSNetManager) : Prop := m.myConnectPhase ≠ .online → m.Clean

theorem tidy_heard (m n : DSNetManager) (h : Heard m n) (hcareful : ∀ e ∈ n.trace, e.Careful)
    (htidy : m.Tidy) : n.Tidy := by
  intro hdown
  cases h with
  | quiet n hquiet =>
    rw [hquiet.phase] at hdown
    exact (htidy hdown).same hquiet.transactions hquiet.adds hquiet.changed hquiet.presence
  | fall phase hphase => exact (htidy hphase).same rfl rfl rfl rfl
  | login => exact absurd rfl hdown
  | hangUp => exact clean_disconnect m
  | presence header frame uin online nickName htold =>
    obtain ⟨changed, adds, hframe⟩ := updatePresence_frame
      (m.emit (.packet m.myConnectPhase header frame)) uin online nickName
    rw [hframe] at hdown hcareful
    have hevent := hcareful (.packet m.myConnectPhase header frame) (by simp)
    simp only [Event.Careful, htold, Option.map_some] at hevent
    rcases hevent with honline | hoffline
    · exact absurd honline hdown
    · cases online
      · have hnoted : (m.emit (.packet m.myConnectPhase header frame)).Clean :=
          (htidy hdown).same rfl rfl rfl rfl
        exact hnoted.updatePresence uin nickName
      · exact absurd rfl hoffline
  | respond ticket frame transaction _ hentry =>
    rw [(htidy hdown).transactions ticket] at hentry
    cases hentry
  | _ => exact (htidy hdown).same rfl rfl rfl rfl

theorem tidy_step (m n : DSNetManager) (h : Step m n) (hcareful : ∀ e ∈ n.trace, e.Careful)
    (htidy : m.Tidy) : n.Tidy := by
  intro hdown
  cases h with
  | heard n hheard => exact tidy_heard m n hheard hcareful htidy hdown
  | attempt s phase host port =>
    have hevent := hcareful (.polled m.myConnectPhase false (decide (phase = .connecting)))
      (by simp)
    have hphase : m.myConnectPhase ≠ .online := by
      intro honline
      exact hevent ⟨honline, rfl⟩
    exact (htidy hphase).same rfl rfl rfl rfl
  | expect user deadline honline => exact absurd honline hdown
  | endAdd user => exact (htidy hdown).endWWRAdd user
  | forget user => exact (htidy hdown).forgetUser user
  | yield =>
    rcases nextChangedUserWWR_frame m with ⟨_, hframe⟩ | ⟨user, users, online, hqueue, hframe⟩
    · rw [hframe] at hdown ⊢
      exact htidy hdown
    · rw [hframe] at hdown
      rw [(htidy hdown).changed] at hqueue
      cases hqueue
  | nickName user name =>
    obtain ⟨presence, hframe⟩ := rememberNickName_frame m user name
    rw [hframe] at hdown
    exact (htidy hdown).rememberNickName user name
  | refuse kind fixedExtra honline =>
    rw [((onlyQueries_startTransaction m kind fixedExtra).trans
      (onlyQueries_abandonTransaction _ _)).phase] at hdown
    exact absurd honline hdown
  | ask slot deadline packet honline =>
    rw [(((onlyQueries_startTransaction m slot.kind slot.fixedExtra).trans
      (onlyQueries_emit _ _)).trans
      (onlyQueries_hold _ slot _)).phase] at hdown
    exact absurd honline hdown
  | finish slot ticket =>
    rw [(onlyQueries_release (m.setTransaction ticket none) slot).phase] at hdown
    exact ((htidy hdown).setTransaction_none ticket).release slot
  | expire slot ticket =>
    rw [((onlyQueries_abandonTransaction m ticket).trans (onlyQueries_release _ slot)).phase]
      at hdown
    rw [(htidy hdown).abandonTransaction ticket]
    exact (htidy hdown).release slot
  | release slot =>
    rw [(onlyQueries_release m slot).phase] at hdown
    exact (htidy hdown).release slot
  | _ => exact (htidy hdown).same rfl rfl rfl rfl

theorem tidy_steps (m n : DSNetManager) (h : Steps m n) (hcareful : ∀ e ∈ n.trace, e.Careful)
    (htidy : m.Tidy) : n.Tidy := by
  induction h with
  | refl => exact htidy
  | tail _ hstep ih =>
    obtain ⟨events, htrace, _⟩ := hstep.adds
    have hearlier := fun e he => hcareful e (by rw [htrace]; exact List.mem_append_left _ he)
    exact tidy_step _ _ hstep hcareful (ih hearlier)

theorem clean_construct (os : SocketOS) (clock : Stream' UInt32) (disk : Disk) :
    (construct os clock disk).Clean :=
  ⟨fun _ => rfl, fun _ => rfl, rfl, fun _ => rfl⟩

theorem startConnecting_begun (m : DSNetManager) (h : m.mySocket.beginConnect.1 = true) :
    m.startConnecting.myConnectPhase = .connecting := by
  have hsocket : ((m.chooseServer.emit (.connecting m.chooseServer.myConnectedHost
      m.chooseServer.myConnectedPort)).beginConnect).1 = true := by
    simp only [beginConnect, emit]
    rw [(quiet_chooseServer m).socket]
    exact h
  simp only [startConnecting, hsocket, not_true_eq_false, ↓reduceIte]
  rfl

/-- A poll that begins an attempt leaves it in progress. -/
theorem connectInBackground_begun (m : DSNetManager) (usersForWWR : List Bytes)
    (hoffline : ¬ m.Online) (hidle : m.blocking = false)
    (hbegun : m.mySocket.beginConnect.1 = true) :
    (m.connectInBackground usersForWWR).2.myConnectPhase = .connecting := by
  have hstart : m.myConnectPhase = .idle ∨ m.myConnectPhase = .failed ∨
      m.myConnectPhase = .online := by
    simp only [blocking, decide_eq_false_iff_not] at hidle
    cases hphase : m.myConnectPhase <;> simp [hphase] at hidle ⊢
  simp only [connectInBackground, hoffline, hstart, ↓reduceIte]
  exact startConnecting_begun { m with myUsersForWWR := usersForWWR } hbegun

end DSNetManager

open DSNetManager

/-- **A new connection inherits nothing live**: in every run in which no attempt is started from
a connection that died unnoticed and nobody is reported online while nobody is logged in, each
attempt that begins finds no transaction, no pending registration, no change to report and
nobody online. -/
theorem clean_start (os : SocketOS) (clock : Stream' UInt32) (disk : Disk) (ops : List Op)
    (usersForWWR : List Bytes) (hoffline : ¬ (ran os clock disk ops).Online)
    (hidle : (ran os clock disk ops).blocking = false)
    (hbegun : (ran os clock disk ops).mySocket.beginConnect.1 = true)
    (hcareful : ∀ e ∈ ((ran os clock disk ops).connectInBackground usersForWWR).2.trace,
      e.Careful) :
    ((ran os clock disk ops).connectInBackground usersForWWR).2.Clean := by
  have hrun : Steps (construct os clock disk)
      ((ran os clock disk ops).connectInBackground usersForWWR).2 :=
    Relation.ReflTransGen.trans (steps_runOps ops _ rfl).1
      (pieces_connectInBackground _ usersForWWR).acts.steps
  refine tidy_steps _ _ hrun hcareful (fun _ => clean_construct os clock disk) ?_
  rw [connectInBackground_begun _ usersForWWR hoffline hidle hbegun]
  decide

/-- A new attempt behind a connection that was ended. -/
theorem clean_start_disconnected :
    ((ran (.scripted [[.data loginResponse]] [.took 54]) (.const 0) .blank
      [.connectInBackground [], .connectInBackground [], .disconnect]).connectInBackground
      []).2.Clean :=
  clean_start _ _ _ _ _ (by decide +kernel) (by decide +kernel) (by decide +kernel)
    (by decide +kernel)

/-- A request that the socket cannot send kills the connection, and its transaction is still
there when the next attempt begins. -/
theorem unclean_start :
    let m := ran (.scripted [[.data loginResponse]] [.took 54, .failed 32]) (.const 0) .blank
      [.connectInBackground [], .connectInBackground [], .dsFetchRandomUser]
    ¬ m.Online ∧ m.blocking = false ∧ m.mySocket.beginConnect.1 = true ∧
      (m.connectInBackground []).2.myTransactions 2 ≠ none := by
  decide +kernel

end NetNatsue
