import Mathlib.Data.Finset.Image
import NetNatsue.Manager.Enrolment

/-! The register of the client and the one at the server. -/
namespace NetNatsue

/-- The register of the server of one connection, changed by the packets written on it. -/
def noteEntry (line : ℕ) (users : Finset BabelUIN) (e : Event) : Finset BabelUIN :=
  match e.entry with
  | some (connection, add, user) =>
    if connection ≠ line then users else if add then insert user users else users.erase user
  | none => users

/-- The users registered with the server on a connection. -/
def registered (line : ℕ) (events : List Event) : Finset BabelUIN := events.foldl (noteEntry line) ∅

/-- The users that written forms name. -/
def named (users : Finset Bytes) : Finset BabelUIN :=
  users.image (fun user => (BabelUIN.fromString user).2)

theorem registered_append (line : ℕ) (a b : List Event) :
    registered line (a ++ b) = b.foldl (noteEntry line) (registered line a) := List.foldl_append

theorem registered_level (line : ℕ) (a b : List Event) (h : ∀ e ∈ b, e.entry = none) :
    registered line (a ++ b) = registered line a := by
  rw [registered_append]
  induction b with
  | nil => rfl
  | cons e b ih =>
    have he : noteEntry line (registered line a) e = registered line a := by
      simp only [noteEntry, h e List.mem_cons_self]
    rw [List.foldl_cons, he]
    exact ih fun e he => h e (List.mem_cons_of_mem _ he)

/-- Nothing is registered on a connection nothing was written on. -/
theorem registered_unused (line : ℕ) (events : List Event)
    (h : ∀ connection data, .wrote connection data ∈ events → connection < line) :
    registered line events = ∅ := by
  induction events using List.reverseRecOn with
  | nil => rfl
  | append_singleton events e ih =>
    rw [registered_append, ih fun connection data hmem => h connection data
      (List.mem_append_left _ hmem), List.foldl_cons, List.foldl_nil, noteEntry]
    cases hentry : e.entry with
    | none => rfl
    | some entry =>
      obtain ⟨connection, add, user⟩ := entry
      have hline : connection < line := by
        cases e with
        | wrote connection' data =>
          simp only [Event.entry, Option.map_eq_some_iff, Prod.mk.injEq] at hentry
          obtain ⟨_, _, hsame, _⟩ := hentry
          exact hsame ▸ h connection' data (by simp)
        | _ => cases hentry
      exact if_pos hline.ne

theorem named_insert (user : Bytes) (users : Finset Bytes) :
    named (insert user users) = insert (BabelUIN.fromString user).2 (named users) :=
      Finset.image_insert _ _ _

/-- Without a user, and without other written forms of the user. -/
theorem named_erase (user : Bytes) (users : Finset Bytes)
    (h : ∀ other ∈ users, (BabelUIN.fromString other).2 = (BabelUIN.fromString user).2 →
      other = user) :
    named (users.erase user) = (named users).erase (BabelUIN.fromString user).2 := by
  ext uin
  simp only [named, Finset.mem_image, Finset.mem_erase]
  constructor
  · rintro ⟨other, ⟨hother, hmem⟩, rfl⟩
    exact ⟨fun hsame => hother (h other hmem hsame), other, hmem, rfl⟩
  · rintro ⟨huin, other, hmem, rfl⟩
    exact ⟨other, ⟨fun hsame => huin (by rw [hsame]), hmem⟩, rfl⟩

namespace DSNetManager

/-- What the agreement of the registers rests on. -/
structure Bookkept (m : DSNetManager) : Prop where
  lines : ∀ connection data, .wrote connection data ∈ m.trace →
    connection ≤ m.mySocket.os.connection
  unregistered : m.blocking = true → registered m.mySocket.os.connection m.trace = ∅
  settled : m.myConnectPhase = .awaitHandshake ∨ m.myConnectPhase = .online →
    m.mySocket.myState ≠ .connecting
  valid : ∀ user ∈ m.myWWRMembers, (BabelUIN.fromString user).1 = true
  expected : ∀ user, (m.myPendingWWRAdds user).isSome = true → user ∈ m.myWWRMembers

section
variable {m n : DSNetManager}

theorem Bookkept.level (h : Bookkept m) (hlevel : Level m n) : Bookkept n := by
  obtain ⟨events, htrace, hevents⟩ := hlevel.trace
  refine ⟨?_, ?_, ?_, ?_, ?_⟩
  · intro connection data hmem
    rw [htrace] at hmem
    rw [hlevel.drift.connection]
    rcases List.mem_append.mp hmem with hmem | hmem
    · exact h.lines connection data hmem
    · exact ((hevents _ hmem).2 connection data rfl).le
  · intro hn
    rw [htrace, hlevel.drift.connection, registered_level _ _ _ fun e he => (hevents e he).1]
    exact h.unregistered (hlevel.captured hn).1
  · intro hn hstate
    exact h.settled (hlevel.settled hn hstate) (hlevel.drift.connecting hstate)
  · rw [hlevel.members]
    exact h.valid
  · intro user huser
    rw [hlevel.members]
    exact h.expected user (hlevel.expected user huser)

/-- Registrations are made while online, or make no packet. -/
theorem Bookkept.registers {users : List Bytes} (h : Bookkept m) (hregisters : Registers users m n)
    (honline : m.blocking = false) : Bookkept n := by
  obtain ⟨events, htrace, hevents⟩ := hregisters.trace
  refine ⟨?_, ?_, ?_, ?_, ?_⟩
  · intro connection data hmem
    rw [htrace] at hmem
    rw [hregisters.drift.connection]
    rcases List.mem_append.mp hmem with hmem | hmem
    · exact h.lines connection data hmem
    · rcases hevents _ hmem with ⟨_, he⟩ | ⟨_, _, _, he⟩
      · cases he
      · injection he with hline
        exact hline.le
  · intro hn
    rw [blocking_of_phase hregisters.phase, honline] at hn
    cases hn
  · intro hn hstate
    rw [hregisters.phase] at hn
    exact h.settled hn (hregisters.drift.connecting hstate)
  · intro user huser
    exact (hregisters.listed user huser).elim (h.valid user) And.right
  · intro user huser
    exact (hregisters.expected user huser).elim
      (fun hold => hregisters.grown (h.expected user hold)) id

theorem Bookkept.watch (h : Bookkept m) (user : Bytes)
    (hvalid : (BabelUIN.fromString user).1 = true) :
    Bookkept (m.watch user) := by
  refine ⟨h.lines, h.unregistered, h.settled, ?_, ?_⟩
  · intro other hother
    rcases Finset.mem_insert.mp hother with rfl | hother
    · exact hvalid
    · exact h.valid other hother
  · exact fun other hother => Finset.mem_insert_of_mem (h.expected other hother)

theorem Bookkept.remove (h : Bookkept m) (user : Bytes) : Bookkept (m.removeFromWWR user) := by
  obtain ⟨hremoved, htrace⟩ := removeFromWWR_frame m user
  have hevents : ∃ events, (m.removeFromWWR user).trace = m.trace ++ events ∧
      (∀ connection data, .wrote connection data ∈ events → connection = m.mySocket.os.connection) ∧
      (registered m.mySocket.os.connection m.trace = ∅ →
        registered m.mySocket.os.connection (m.trace ++ events) = ∅) := by
    rcases htrace with ⟨htrace, _⟩ | htrace
    · refine ⟨_, htrace, by simp, fun hempty => ?_⟩
      rw [registered_level _ _ _ (by simp [Event.entry]), hempty]
    · refine ⟨_, htrace, by simp, fun hempty => ?_⟩
      rw [registered_append, hempty]
      simp [noteEntry, Event.entry]
  obtain ⟨events, htrace, hlines, hempty⟩ := hevents
  refine ⟨?_, ?_, ?_, ?_, ?_⟩
  · intro connection data hmem
    rw [htrace] at hmem
    rw [hremoved.drift.connection]
    exact (List.mem_append.mp hmem).elim (h.lines connection data) fun hmem => (hlines _ _ hmem).le
  · intro hn
    rw [blocking_of_phase hremoved.phase] at hn
    rw [htrace, hremoved.drift.connection]
    exact hempty (h.unregistered hn)
  · intro hn hstate
    rw [hremoved.phase] at hn
    exact h.settled hn (hremoved.drift.connecting hstate)
  · intro other hother
    rw [hremoved.members] at hother
    exact h.valid other (Finset.mem_of_mem_erase hother)
  · intro other hother
    rw [hremoved.adds] at hother
    by_cases hsame : other = user
    · simp [hsame] at hother
    · rw [hremoved.members]
      rw [Function.update_of_ne hsame] at hother
      exact Finset.mem_erase.mpr ⟨hsame, h.expected other hother⟩

/-- A new attempt uses a connection on which nothing was written. -/
theorem Bookkept.attempt (h : Bookkept m) {users : List Bytes} (hattempted : Attempted users m n) :
    Bookkept n := by
  obtain ⟨host, port, htrace⟩ := hattempted.trace
  have hlines : ∀ connection data, .wrote connection data ∈ n.trace →
      connection ≤ m.mySocket.os.connection := by
    intro connection data hmem
    rw [htrace] at hmem
    exact h.lines connection data (by simpa using hmem)
  refine ⟨fun connection data hmem => (hlines connection data hmem).trans
    hattempted.connection, ?_, ?_, ?_, ?_⟩
  · intro hn
    rcases hattempted.phase with ⟨_, hnew⟩ | hfailed
    · exact registered_unused _ _ fun connection data hmem =>
        (hlines connection data hmem).trans_lt hnew
    · simp [blocking, hfailed] at hn
  · intro hn
    rcases hattempted.phase with ⟨hphase, _⟩ | hphase <;> simp [hphase] at hn
  · rw [hattempted.members]
    exact h.valid
  · rw [hattempted.adds, hattempted.members]
    exact h.expected

theorem admitted_level (m : DSNetManager) (frame : Bytes) (serverUIN userUIN : BabelUIN)
    (servers : List CBabelServerInfo) :
    ((m.emit (.handshake m.myConnectPhase frame)).admitted serverUIN userUIN servers).trace =
      m.trace ++ [.handshake m.myConnectPhase frame] := rfl

/-- A login begins with nothing registered. -/
theorem Bookkept.admitted (h : Bookkept m) (hphase : m.myConnectPhase = .awaitHandshake)
    (frame : Bytes) (serverUIN userUIN : BabelUIN) (servers : List CBabelServerInfo) :
    Bookkept ((m.emit (.handshake m.myConnectPhase frame)).admitted serverUIN userUIN servers) := by
  refine ⟨?_, ?_, fun _ => h.settled (Or.inl hphase), h.valid, h.expected⟩
  · intro connection data hmem
    rw [admitted_level] at hmem
    exact h.lines connection data (by simpa using hmem)
  · exact fun hn => by simp [blocking, DSNetManager.admitted] at hn

/-- Every act keeps the books. -/
theorem Bookkept.shift {op : Op} (h : Bookkept m) (hshift : Shift op m n) : Bookkept n := by
  cases hshift with
  | level _ hlevel => exact h.level hlevel
  | accepted frame hphase =>
    have hregistered := (h.admitted hphase frame
      ⟨(PacketHeader.read frame).fieldA, (PacketHeader.read frame).fieldB⟩
      ⟨(PacketHeader.read frame).fieldC, (PacketHeader.read frame).fieldD⟩
      (updatedServers frame (sizeInt frame))).registers (registers_acceptLogin _ _ _ _)
        (by simp [blocking, DSNetManager.admitted])
    rw [acceptLogin_admitted]
    exact ⟨hregistered.lines, hregistered.unregistered, hregistered.settled, hregistered.valid,
      hregistered.expected⟩
  | attempt users =>
    exact (h.attempt (attempted_attemptFor m users)).level
      (level_emit _ _ ⟨rfl, fun _ _ h => by cases h⟩)
  | watch user _ hvalid => exact h.watch user hvalid
  | enrol user _ hvalid honline =>
    exact h.registers (registers_enrol m user hvalid) (by simp [blocking, honline.1])
  | remove user => exact h.remove user

theorem bookkept_construct (os : SocketOS) (clock : Stream' UInt32) (disk : Disk) :
    Bookkept (construct os clock disk) := by
  refine ⟨?_, ?_, ?_, ?_, ?_⟩ <;> simp [construct, blocking]

end

/-- While online, the users registered on the connection are the members. -/
def Agrees (m : DSNetManager) : Prop :=
  m.Online → named m.myWWRMembers = registered m.mySocket.os.connection m.trace

/-- Every member is among the users a login in progress is to register. -/
def Listed (m : DSNetManager) : Prop :=
  ∀ user ∈ m.myWWRMembers, ∃ other ∈ m.myUsersForWWR, Names user other

instance (m : DSNetManager) : Decidable m.Listed :=
  inferInstanceAs (Decidable (∀ user ∈ m.myWWRMembers, ∃ other ∈ m.myUsersForWWR, Names user other))

section
variable {m n : DSNetManager}

/-- A registration that is written while the connection lasts. -/
theorem socketWrite_registered (m : DSNetManager) (add : Bool) (server user : BabelUIN)
    (hend : (m.socketWrite (buildWWRModify add server user)).2.mySocket.myState = .connected) :
    (m.socketWrite (buildWWRModify add server user)).1 = true ∧
      (m.socketWrite (buildWWRModify add server user)).2.trace =
        m.trace ++ [.wrote m.mySocket.os.connection (buildWWRModify add server user)] := by
  have hsize : 0 ≤ (sizeInt (buildWWRModify add server user)).toInt := by
    rw [sizeInt, buildWWRModify_length]
    decide
  generalize buildWWRModify add server user = packet at *
  cases hok : (m.socketWrite packet).1 with
  | true =>
    rw [socketWrite_ok m packet hok, (m.mySocket.drifts_write packet (sizeInt packet)).connection]
    exact ⟨rfl, rfl⟩
  | false =>
    rw [socketWrite_failed m packet hok] at hend
    exact absurd hend (m.mySocket.write_failed packet _ hsize hok)

theorem registered_modify (line : ℕ) (events : List Event) (add : Bool) (server user : BabelUIN) :
    registered line (events ++ [.wrote line (buildWWRModify add server user)]) =
      if add then insert user (registered line events) else
        (registered line events).erase user := by
  rw [registered_append]
  simp [noteEntry, Event.entry]

/-- One registration at login. -/
def enlist (m : DSNetManager) (user : Bytes) : Bool × DSNetManager :=
  ((m.watch user).emit (.registered user)).socketWrite
    (buildWWRModify true m.myServerUIN (BabelUIN.fromString user).2)

theorem sendWWRRegistrations_cons (user : Bytes) (users : List Bytes) (m : DSNetManager) :
    sendWWRRegistrations (user :: users) m =
      if ¬ (BabelUIN.fromString user).1 then sendWWRRegistrations users m
      else if ¬ (m.enlist user).1 then (m.enlist user).2
      else sendWWRRegistrations users (m.enlist user).2 := rfl

theorem registers_enlist (m : DSNetManager) (user : Bytes)
    (hvalid : (BabelUIN.fromString user).1 = true) :
    Registers [user] m (m.enlist user).2 := by
  have huser : user ∈ [user] := List.mem_singleton_self user
  exact ((registers_watch m user huser hvalid).trans (registers_note _ user)).trans
    (registers_socketWrite _ user _ huser hvalid rfl)

theorem enlist_registered (m : DSNetManager) (user : Bytes)
    (hend : (m.enlist user).2.mySocket.myState = .connected) :
    (m.enlist user).1 = true ∧
      named (m.enlist user).2.myWWRMembers = insert (BabelUIN.fromString user).2
        (named m.myWWRMembers) ∧
      registered m.mySocket.os.connection (m.enlist user).2.trace =
        insert (BabelUIN.fromString user).2 (registered m.mySocket.os.connection m.trace) := by
  obtain ⟨hok, htrace⟩ := socketWrite_registered ((m.watch user).emit (.registered user)) true
    m.myServerUIN _ hend
  refine ⟨hok, ?_, ?_⟩
  · have hmembers : (m.enlist user).2.myWWRMembers = insert user m.myWWRMembers :=
      congrArg myWWRMembers (socketWrite_ok _ _ hok)
    rw [hmembers, named_insert]
  · have hnote : registered m.mySocket.os.connection (m.trace ++ [.registered user]) =
        registered m.mySocket.os.connection m.trace :=
      registered_level _ _ _ (by simp [Event.entry])
    rw [enlist, htrace]
    exact (registered_modify _ _ true _ _).trans (congrArg (insert _) hnote)

/-- If the connection outlasts the registrations at login, all listed users are members and
registered. -/
theorem sendWWRRegistrations_registered (users : List Bytes) (m : DSNetManager)
    (hsettled : m.mySocket.myState ≠ .connecting)
    (hend : (sendWWRRegistrations users m).mySocket.myState = .connected) (uin : BabelUIN) :
    (uin ∈ named (sendWWRRegistrations users m).myWWRMembers ↔ uin ∈ named m.myWWRMembers ∨
        ∃ user ∈ users, (BabelUIN.fromString user).1 = true ∧ (BabelUIN.fromString user).2 = uin) ∧
      (uin ∈ registered m.mySocket.os.connection (sendWWRRegistrations users m).trace ↔
        uin ∈ registered m.mySocket.os.connection m.trace ∨
          ∃ user ∈ users, (BabelUIN.fromString user).1 = true ∧
            (BabelUIN.fromString user).2 = uin) := by
  induction users generalizing m with
  | nil => simp [sendWWRRegistrations]
  | cons user users ih =>
    rw [sendWWRRegistrations_cons] at hend ⊢
    by_cases hvalid : (BabelUIN.fromString user).1 = true
    · rw [if_neg (not_not_intro hvalid)] at hend ⊢
      have hdrift := (registers_enlist m user hvalid).drift
      have hsettled' : (m.enlist user).2.mySocket.myState ≠ .connecting :=
        fun h => hsettled (hdrift.connecting h)
      -- the connection that is up at the end was up behind this registration
      have hup : (m.enlist user).2.mySocket.myState = .connected := by
        split_ifs at hend
        · have hlater := (registers_sendWWRRegistrations users (m.enlist user).2
            (List.Subset.refl _)).drift.connected hend
          exact hlater.resolve_right hsettled'
        · exact hend
      obtain ⟨hok, hmembers, hentries⟩ := enlist_registered m user hup
      rw [if_neg (not_not_intro hok)] at hend ⊢
      obtain ⟨hgrown, hwritten⟩ := ih (m.enlist user).2 hsettled' hend
      rw [hdrift.connection] at hwritten
      have hfirst : (∃ other ∈ user :: users, (BabelUIN.fromString other).1 = true ∧
          (BabelUIN.fromString other).2 = uin) ↔ uin = (BabelUIN.fromString user).2 ∨
            ∃ other ∈ users, (BabelUIN.fromString other).1 = true ∧
              (BabelUIN.fromString other).2 = uin := by
        rw [List.exists_mem_cons_iff]
        exact or_congr_left ⟨fun h => h.2.symm, fun h => ⟨hvalid, h.symm⟩⟩
      rw [hgrown, hwritten, hmembers, hentries, hfirst, Finset.mem_insert, Finset.mem_insert]
      exact ⟨or_assoc.trans or_left_comm, or_assoc.trans or_left_comm⟩
    · rw [if_pos hvalid] at hend ⊢
      simpa [hvalid] using ih m hsettled hend

theorem mem_named {users : Finset Bytes} {uin : BabelUIN} :
    uin ∈ named users ↔ ∃ user ∈ users, (BabelUIN.fromString user).2 = uin := Finset.mem_image

/-- A login that finds every member listed leaves the registers in agreement. -/
theorem agrees_acceptLogin (h : Bookkept m) (hphase : m.myConnectPhase = .awaitHandshake)
    (hlisted : m.Listed) (frame : Bytes) (serverUIN userUIN : BabelUIN)
    (servers : List CBabelServerInfo) :
    ((m.emit (.handshake m.myConnectPhase frame)).acceptLogin serverUIN userUIN
      servers).Agrees := by
  have hbegun := h.admitted hphase frame serverUIN userUIN servers
  have hdrift :=
    (registers_acceptLogin (m.emit (.handshake m.myConnectPhase frame)) serverUIN userUIN
    servers).drift
  rw [acceptLogin_admitted]
  rintro ⟨_, hend⟩
  change named (sendWWRRegistrations m.myUsersForWWR _).myWWRMembers =
    registered (sendWWRRegistrations m.myUsersForWWR _).mySocket.os.connection
      (sendWWRRegistrations m.myUsersForWWR _).trace
  change (sendWWRRegistrations m.myUsersForWWR _).mySocket.myState = _ at hend
  rw [show (m.emit (.handshake m.myConnectPhase frame)).myUsersForWWR = m.myUsersForWWR
    from rfl] at hdrift
  rw [hdrift.connection]
  have hempty : registered m.mySocket.os.connection
      (m.trace ++ [.handshake m.myConnectPhase frame]) = ∅ := by
    rw [registered_level _ _ _ (by simp [Event.entry])]
    exact h.unregistered (by simp [blocking, hphase])
  ext uin
  obtain ⟨hmembers, hentries⟩ := sendWWRRegistrations_registered m.myUsersForWWR _
    (hbegun.settled (Or.inr rfl)) hend uin
  change uin ∈ registered m.mySocket.os.connection _ ↔ uin ∈ registered m.mySocket.os.connection
    (m.trace ++ [.handshake m.myConnectPhase frame]) ∨ _ at hentries
  rw [hempty] at hentries
  change uin ∈ named _ ↔ uin ∈ registered m.mySocket.os.connection _
  rw [hmembers, hentries, mem_named]
  constructor
  · rintro (⟨user, hmember, rfl⟩ | hlisted')
    · obtain ⟨other, hother, hvalid, hsame⟩ := hlisted user hmember
      exact Or.inr ⟨other, hother, hvalid, hsame⟩
    · exact Or.inr hlisted'
  · rintro (hnone | hlisted')
    · exact absurd hnone (Finset.notMem_empty uin)
    · exact Or.inr hlisted'

theorem Bookkept.was_online (h : Bookkept m) (hphase : n.myConnectPhase = .online →
    m.myConnectPhase = .online)
    (hdrift : m.mySocket.Drifts n.mySocket) (hn : n.Online) : m.Online := by
  have honline := hphase hn.1
  exact ⟨honline, (hdrift.connected hn.2).resolve_right (h.settled (Or.inr honline))⟩

theorem Agrees.level (h : m.Agrees) (hkept : Bookkept m) (hlevel : Level m n) : n.Agrees := by
  intro hn
  obtain ⟨events, htrace, hevents⟩ := hlevel.trace
  rw [hlevel.members, hlevel.drift.connection, htrace, registered_level _ _ _ fun e he =>
    (hevents e he).1]
  exact h (hkept.was_online hlevel.online hlevel.drift hn)

/-- A user whose wait is pending is watched already. -/
theorem Agrees.watch (h : m.Agrees) (hkept : Bookkept m) (user : Bytes)
    (hpending : m.Online → (m.myPendingWWRAdds user).isSome = true) : (m.watch user).Agrees := by
  intro hn
  have hmember := hkept.expected user (hpending hn)
  have hsame : (m.watch user).myWWRMembers = m.myWWRMembers := Finset.insert_eq_of_mem hmember
  rw [hsame]
  exact h hn

theorem startAdd_written (m : DSNetManager) (user : Bytes) (uin : BabelUIN) :
    (m.startAdd user uin).2.mySocket = (m.socketWrite (buildWWRModify true m.myServerUIN
      uin)).2.mySocket ∧
      (m.startAdd user uin).2.trace = (m.socketWrite (buildWWRModify true m.myServerUIN
        uin)).2.trace ∧
      (m.startAdd user uin).2.myWWRMembers = m.myWWRMembers := by
  have hmembers : (m.socketWrite (buildWWRModify true m.myServerUIN uin)).2.myWWRMembers =
      m.myWWRMembers := by
    simp only [socketWrite]
    split_ifs <;> rfl
  rw [← hmembers]
  simp only [startAdd]
  -- the packet itself plays no part in what follows
  generalize m.socketWrite (buildWWRModify true m.myServerUIN uin) = written
  split_ifs
  · exact ⟨rfl, rfl, rfl⟩
  · exact ⟨rfl, rfl, rfl⟩
  · exact ⟨rfl, rfl, rfl⟩

theorem Agrees.enrol (h : m.Agrees) (user : Bytes) (honline : m.Online) :
    ((m.watch user).startAdd user (BabelUIN.fromString user).2).2.Agrees := by
  intro hn
  obtain ⟨hsocket, htrace, hmembers⟩ :=
    startAdd_written (m.watch user) user (BabelUIN.fromString user).2
  have hend := hn.2
  rw [hsocket] at hend
  have hdrift := (m.watch user).mySocket.drifts_write
    (buildWWRModify true m.myServerUIN (BabelUIN.fromString user).2)
    (sizeInt (buildWWRModify true m.myServerUIN (BabelUIN.fromString user).2))
  obtain ⟨_, hwritten⟩ := socketWrite_registered (m.watch user) true m.myServerUIN _ hend
  have hwatched : (m.watch user).myWWRMembers = insert user m.myWWRMembers := rfl
  have hserver : (m.watch user).myServerUIN = m.myServerUIN := rfl
  rw [hmembers, htrace, hsocket, hserver, socketWrite_socket, hdrift.connection, hwritten, hwatched,
    named_insert, h honline]
  exact (registered_modify _ _ true _ _).symm

/-- A removal that leaves no other written form of the user. -/
theorem Agrees.remove (h : m.Agrees) (hkept : Bookkept m) (user : Bytes)
    (hlone : (BabelUIN.fromString user).1 = true → m.Online →
      ∀ other ∈ m.myWWRMembers, Names user other → other = user) :
        (m.removeFromWWR user).Agrees := by
  intro hn
  obtain ⟨hremoved, htrace⟩ := removeFromWWR_frame m user
  have honline := hkept.was_online (by rw [hremoved.phase]; exact id) hremoved.drift hn
  rw [hremoved.members, hremoved.drift.connection]
  by_cases hvalid : (BabelUIN.fromString user).1 = true
  · have htrace' := htrace.resolve_left fun hleft => hleft.2 hvalid hn
    have hforget : registered m.mySocket.os.connection (m.trace ++ [Event.removed user]) =
        registered m.mySocket.os.connection m.trace := registered_level _ _ _
          (by simp [Event.entry])
    rw [named_erase user _ fun other hother hsame =>
        hlone hvalid honline other hother ⟨hkept.valid other hother, hsame⟩,
      htrace', h honline, ← hforget]
    have hmodify :=
      registered_modify m.mySocket.os.connection (m.trace ++ [Event.removed user]) false
      m.myServerUIN (BabelUIN.fromString user).2
    rw [List.append_assoc] at hmodify
    exact hmodify.symm
  · have habsent : user ∉ m.myWWRMembers := fun hmember => hvalid (hkept.valid user hmember)
    have hunwritten : (m.removeFromWWR user).trace = m.trace ++ [Event.removed user] := by
      simp only [removeFromWWR]
      rw [if_pos hvalid]
      rfl
    rw [Finset.erase_eq_of_notMem habsent, hunwritten,
      registered_level _ _ _ (by simp [Event.entry])]
    exact h honline

theorem Listed.level (h : m.blocking = true → m.Listed) (hlevel : Level m n)
    (hn : n.blocking = true) :
    n.Listed := by
  obtain ⟨hm, hcaptured⟩ := hlevel.captured hn
  intro user hmember
  rw [hlevel.members] at hmember
  rw [hcaptured]
  exact h hm user hmember

/-- What an act needs to keep the agreement, and keeps for the next one. -/
structure Agreeing (m : DSNetManager) : Prop where
  kept : Bookkept m
  agrees : m.Agrees
  listed : m.blocking = true → m.Listed

/-- Acts of calls that neither remove a user nor start an attempt, and add nobody during one. -/
theorem Agreeing.shift {op : Op} (h : Agreeing m) (hshift : Shift op m n)
    (hattempt : ∀ users, op ≠ .connectInBackground users)
    (hremove : ∀ user, op ≠ .removeFromWWR user)
    (hadd : ∀ user, op = .addToWWR user → m.blocking = false) : Agreeing n := by
  refine ⟨h.kept.shift hshift, ?_, ?_⟩
  · cases hshift with
    | level _ hlevel => exact h.agrees.level h.kept hlevel
    | accepted frame hphase =>
      exact agrees_acceptLogin h.kept hphase (h.listed (by simp [blocking, hphase])) frame _ _ _
    | attempt users hop => exact absurd hop (hattempt users)
    | watch user _ _ hpending => exact h.agrees.watch h.kept user hpending
    | enrol user _ _ honline => exact h.agrees.enrol user honline
    | remove user hop => exact absurd hop (hremove user)
  · intro hn
    cases hshift with
    | level _ hlevel => exact Listed.level h.listed hlevel hn
    | accepted frame hphase =>
      rw [blocking, acceptLogin_phase] at hn
      simp at hn
    | attempt users hop => exact absurd hop (hattempt users)
    | watch user hop =>
      have hm : m.blocking = true := hn
      rw [hadd user hop] at hm
      cases hm
    | enrol user hop hvalid honline =>
      rw [blocking_of_phase (registers_enrol m user hvalid).phase] at hn
      simp [blocking, honline.1] at hn
    | remove user hop => exact absurd hop (hremove user)

end

/-- Only an attempt puts a login in progress. -/
theorem Shift.idle {op : Op} {m n : DSNetManager} (h : Shift op m n)
    (hattempt : ∀ users, op ≠ .connectInBackground users) (hm : m.blocking = false) :
    n.blocking = false := by
  cases h with
  | level _ hlevel =>
    by_contra hn
    rw [(hlevel.captured (by simpa using hn)).1] at hm
    cases hm
  | accepted frame => rw [blocking, acceptLogin_phase]; decide
  | attempt users hop => exact absurd hop (hattempt users)
  | watch user => exact hm
  | enrol user _ hvalid => rwa [blocking_of_phase (registers_enrol m user hvalid).phase]
  | remove user => rwa [blocking_of_phase (removeFromWWR_frame m user).1.phase]

/-- A login that the call completes finds every member listed, and a user who is removed while
online is a member under no other written form. -/
def Orderly (m : DSNetManager) (op : Op) : Prop :=
  (m.myConnectPhase ≠ .online → (op.run m).2.myConnectPhase = .online → m.Listed) ∧
    ∀ user ∈ op.removes, (BabelUIN.fromString user).1 = true → m.Online →
      ∀ other ∈ m.myWWRMembers, Names user other → other = user

instance (m : DSNetManager) (op : Op) : Decidable (Orderly m op) :=
  inferInstanceAs (Decidable ((_ → _ → m.Listed) ∧ ∀ user ∈ op.removes, _ → _ →
    ∀ other ∈ m.myWWRMembers, Names user other → other = user))

theorem addToWWR_offline (m : DSNetManager) (user : Bytes) (hoffline : ¬ m.Online) :
    (m.addToWWR user).2.myConnectPhase = m.myConnectPhase := by
  simp only [addToWWR, addUser]
  rw [if_pos (show ¬ (m.watch user).Online from hoffline)]
  split_ifs <;> rfl

theorem agrees_run (op : Op) (m : DSNetManager) (horderly : Orderly m op)
    (hacts : Acts op m (op.run m).2)
    (hkept : Bookkept m) (hagrees : m.Agrees) : (op.run m).2.Agrees := by
  intro hn
  have hlisted : m.blocking = true → m.Listed := by
    intro hblocking
    refine horderly.1 (fun honline => ?_) hn.1
    simp [blocking, honline] at hblocking
  have hm : Agreeing m := ⟨hkept, hagrees, hlisted⟩
  by_cases hremove : ∃ user, op = .removeFromWWR user
  · obtain ⟨user, rfl⟩ := hremove
    exact hagrees.remove hkept user (horderly.2 user rfl) hn
  by_cases hconnect : ∃ users, op = .connectInBackground users
  · obtain ⟨users, rfl⟩ := hconnect
    simp only [Op.run] at hn ⊢
    by_cases honline : m.Online
    · simp only [connectInBackground] at hn ⊢
      rw [if_pos honline] at hn ⊢
      exact hagrees.level hkept (level_emit m _ ⟨rfl, fun _ _ h => by cases h⟩) hn
    · cases hblocking : m.blocking with
      | true =>
        rw [connectInBackground_blocking m users hblocking] at hn ⊢
        have hpumped : Agreeing m.pumpConnectPhase := (pumps_pumpConnectPhase m).keeps Agreeing
          (fun m n hpumped hm => hm.shift (hpumped.effect .tick).shift (by simp)
            (by simp) (by simp)) hm
        exact hpumped.agrees.level hpumped.kept (level_emit _ _ ⟨rfl, fun _ _ h => by cases h⟩) hn
      | false =>
        -- an attempt that has just begun is not online
        rw [connectInBackground_attempt m users honline hblocking] at hn
        have hphase : (m.attemptFor users).myConnectPhase = .online := hn.1
        rcases (attempted_attemptFor m users).phase with ⟨hbegun, _⟩ | hfailed
        · rw [hbegun] at hphase
          cases hphase
        · rw [hfailed] at hphase
          cases hphase
  · cases hblocking : m.blocking with
    | false =>
      have hend := hacts.keeps (fun n => Agreeing n ∧ n.blocking = false) (fun m n hact hm =>
        ⟨hm.1.shift hact.effect.shift (fun users hop => hconnect ⟨users, hop⟩)
            (fun user hop => hremove ⟨user, hop⟩) (fun _ _ => hm.2),
          hact.effect.shift.idle (fun users hop => hconnect ⟨users, hop⟩) hm.2⟩) ⟨hm, hblocking⟩
      exact hend.1.agrees hn
    | true =>
      have hoffline : ¬ m.Online := by
        rintro ⟨honline, _⟩
        simp [blocking, honline] at hblocking
      have hadd : ∀ user, op ≠ .addToWWR user := by
        rintro user rfl
        have hphase := hn.1
        rw [show (Op.run m (.addToWWR user)).2 = (m.addToWWR user).2 from rfl,
          addToWWR_offline m user hoffline] at hphase
        simp [blocking, hphase] at hblocking
      have hend := hacts.keeps Agreeing (fun m n hact hm => hm.shift hact.effect.shift
        (fun users hop => hconnect ⟨users, hop⟩) (fun user hop => hremove ⟨user, hop⟩)
        (fun user hop => absurd hop (hadd user))) hm
      exact hend.agrees hn

end DSNetManager

open DSNetManager

/-- **The registers agree** while online, in every run in which each login finds all members among
the users it is to register, and no user is removed who is a member under another written form. -/
theorem registers_agree (os : SocketOS) (clock : Stream' UInt32) (disk : Disk) (ops : List Op)
    (horderly : Meets Orderly ops (construct os clock disk))
    (honline : (ran os clock disk ops).Online) :
    named (ran os clock disk ops).myWWRMembers =
      registered (ran os clock disk ops).mySocket.os.connection (ran os clock disk ops).trace := by
  have hend : Bookkept (ran os clock disk ops) ∧ (ran os clock disk ops).Agrees :=
    horderly.keeps rfl (fun m => Bookkept m ∧ m.Agrees)
      ⟨bookkept_construct os clock disk, fun h => absurd h.1 (by simp [construct])⟩
      fun op m hop _ hacts hm => ⟨hacts.keeps Bookkept (fun _ _ hact hkept => hkept.shift
        hact.effect.shift)
        hm.1, agrees_run op m hop hacts hm.1 hm.2⟩
  exact hend.2 honline

/-- Two users, one listed for the login and one added later, and one of them removed. -/
theorem registers_agree_changed :
    let m :=
      ran (.scripted [[.data loginResponse]] [.took 54, .took 32, .took 32, .took 32]) (.const 0)
      .blank [.connectInBackground [ascii "7+1"], .connectInBackground [], .addToWWR (ascii "8+1"),
        .removeFromWWR (ascii "7+1")]
    named m.myWWRMembers = registered m.mySocket.os.connection m.trace :=
  registers_agree _ _ _ _ (by decide +kernel) (by decide +kernel)

/-- A user who is added before the attempt, or while it is in progress, is not registered. -/
theorem added_user_unregistered :
    let m := ran (.scripted [[.data loginResponse]] [.took 54]) (.const 0) .blank
      [.addToWWR (ascii "7+1"), .connectInBackground [], .addToWWR (ascii "8+1"),
        .connectInBackground []]
    m.Online ∧ m.myWWRMembers = {ascii "7+1", ascii "8+1"} ∧
      registered m.mySocket.os.connection m.trace = ∅ := by
  decide +kernel

end NetNatsue
