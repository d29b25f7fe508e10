import NetNatsue.Manager.Known

/-! The register at the server: who is added to it and removed from it, and how it agrees with
the register of the client. -/
namespace NetNatsue

/-- The entry of a server's register that an event changes: the connection, whether it is added, and
the user. -/
def Event.entry : Event → Option (ℕ × Bool × BabelUIN)
  | .wrote line data => (wwrModified data).map (fun entry => (line, entry))
  | _ => none

/-- The written forms name one user. -/
def Names (user other : Bytes) : Prop :=
  (BabelUIN.fromString other).1 = true ∧ (BabelUIN.fromString other).2 =
    (BabelUIN.fromString user).2

instance (user other : Bytes) : Decidable (Names user other) := inferInstanceAs (Decidable (_ ∧ _))

def Op.adds : Op → Option Bytes
  | .addToWWR user => some user
  | _ => none

/-- The users a call would register in an attempt. -/
def Op.lists : Op → List Bytes
  | .connectInBackground users => users
  | _ => []

/-- Events that change no register, and write on one connection only. -/
def Event.Level (connection : ℕ) (e : Event) : Prop :=
  e.entry = none ∧ ∀ line data, e = .wrote line data → line = connection

theorem wwrModified_other (data : Bytes) (hadd : (PacketHeader.read data).type ≠ packetAddWWREntry)
    (hremove : (PacketHeader.read data).type ≠ packetRemoveWWREntry) : wwrModified data = none := by
  simp only [wwrModified, hadd, hremove, ↓reduceIte]

theorem level_wrote (connection : ℕ) (data : Bytes)
    (hadd : (PacketHeader.read data).type ≠ packetAddWWREntry)
    (hremove : (PacketHeader.read data).type ≠ packetRemoveWWREntry) :
    (Event.wrote connection data).Level connection := by
  refine ⟨by rw [Event.entry, wwrModified_other data hadd hremove, Option.map_none], ?_⟩
  rintro line data' h
  injection h with hline
  exact hline.symm

theorem Event.Apart.level {e : Event} {connection : ℕ} (h : e.Apart connection) :
    e.Level connection := by
  cases e with
  | wrote line data =>
    obtain ⟨rfl, hadd, hremove, _⟩ := h
    exact level_wrote line data hadd hremove
  | _ => exact ⟨rfl, fun _ _ h => by cases h⟩

namespace DSNetManager

/-- Neither register changes, and no list of users to register is made. -/
structure Level (m n : DSNetManager) : Prop where
  drift : m.mySocket.Drifts n.mySocket
  members : n.myWWRMembers = m.myWWRMembers
  expected : ∀ user, (n.myPendingWWRAdds user).isSome = true →
    (m.myPendingWWRAdds user).isSome = true
  online : n.myConnectPhase = .online → m.myConnectPhase = .online
  captured : n.blocking = true → m.blocking = true ∧ n.myUsersForWWR = m.myUsersForWWR
  settled : n.myConnectPhase = .awaitHandshake ∨ n.myConnectPhase = .online →
    n.mySocket.myState = .connecting → m.myConnectPhase = .awaitHandshake ∨
      m.myConnectPhase = .online
  trace : ∃ events, n.trace = m.trace ++ events ∧ ∀ e ∈ events, e.Level m.mySocket.os.connection

section
variable {m n k : DSNetManager}

theorem Level.trans (h : Level m n) (h' : Level n k) : Level m k where
  drift := h.drift.trans h'.drift
  members := h'.members.trans h.members
  expected user huser := h.expected user (h'.expected user huser)
  online hk := h.online (h'.online hk)
  captured hk :=
    have hn := h'.captured hk
    have hm := h.captured hn.1
    ⟨hm.1, hn.2.trans hm.2⟩
  settled hk hstate := h.settled (h'.settled hk hstate) (h'.drift.connecting hstate)
  trace := by
    obtain ⟨events, htrace, hevents⟩ := h.trace
    obtain ⟨more, hmore, hmore'⟩ := h'.trace
    rw [h.drift.connection] at hmore'
    refine ⟨events ++ more, by rw [hmore, htrace, List.append_assoc], fun e he => ?_⟩
    exact (List.mem_append.mp he).elim (hevents e) (hmore' e)

theorem blocking_of_phase (h : n.myConnectPhase = m.myConnectPhase) : n.blocking = m.blocking := by
  simp only [blocking, h]

/-- The phase, the lists and the waits stay the same. -/
theorem level_of_eq (events : List Event) (htrace : n.trace = m.trace ++ events)
    (hevents : ∀ e ∈ events, e.Level m.mySocket.os.connection)
    (hdrift : m.mySocket.Drifts n.mySocket)
    (hphase : n.myConnectPhase = m.myConnectPhase) (hmembers : n.myWWRMembers = m.myWWRMembers)
    (hadds : n.myPendingWWRAdds = m.myPendingWWRAdds)
    (hcaptured : n.myUsersForWWR = m.myUsersForWWR) :
    Level m n where
  drift := hdrift
  members := hmembers
  expected user := by rw [hadds]; exact id
  online := by rw [hphase]; exact id
  captured hn := ⟨by rwa [← blocking_of_phase hphase], hcaptured⟩
  settled := by rw [hphase]; exact fun h _ => h
  trace := ⟨events, htrace, hevents⟩

theorem level_emit (m : DSNetManager) (e : Event) (h : e.Level m.mySocket.os.connection) :
    Level m (m.emit e) :=
  level_of_eq [e] rfl (by simpa using h) m.mySocket.drifts_refl rfl rfl rfl rfl

theorem level_socketWrite (m : DSNetManager) (packet : Bytes)
    (h : (Event.wrote m.mySocket.os.connection packet).Level m.mySocket.os.connection) :
    Level m (m.socketWrite packet).2 := by
  have hdrift := m.mySocket.drifts_write packet (sizeInt packet)
  cases hok : (m.socketWrite packet).1 with
  | true =>
    rw [socketWrite_ok m packet hok, hdrift.connection]
    exact level_of_eq [_] rfl (by simpa using h) hdrift rfl rfl rfl rfl
  | false =>
    rw [socketWrite_failed m packet hok]
    exact level_of_eq [] (List.append_nil _).symm (by simp) hdrift rfl rfl rfl rfl

theorem Apart.level (h : Apart m n) (hphase : n.myConnectPhase = m.myConnectPhase) : Level m n where
  drift := h.drift
  members := h.members
  expected := h.expected
  online := by rw [hphase]; exact id
  captured hn := ⟨by rwa [← blocking_of_phase hphase], h.users⟩
  settled := by rw [hphase]; exact fun h _ => h
  trace := by
    obtain ⟨events, htrace, hevents⟩ := h.trace
    exact ⟨events, htrace, fun e he => (hevents e he).level⟩

/-- The login goes on, or the attempt has failed. -/
theorem Apart.level_attempting (h : Apart m n)
    (hbefore : m.myConnectPhase = .connecting ∨ m.myConnectPhase = .awaitHandshake)
    (hafter : n.myConnectPhase = .failed ∨
      n.myConnectPhase = .awaitHandshake ∧ n.mySocket.myState ≠ .connecting) : Level m n where
  drift := h.drift
  members := h.members
  expected := h.expected
  online hn := by rcases hafter with hafter | hafter <;> simp [hn] at hafter
  captured _ := ⟨by simpa [blocking] using hbefore, h.users⟩
  settled hn hstate := by
    rcases hafter with hafter | hafter
    · simp [hafter] at hn
    · exact absurd hstate hafter.2
  trace := by
    obtain ⟨events, htrace, hevents⟩ := h.trace
    exact ⟨events, htrace, fun e he => (hevents e he).level⟩

theorem level_disconnect (m : DSNetManager) : Level m m.disconnect where
  drift := m.mySocket.drifts_close
  members := rfl
  expected user huser := by simp [disconnect, markEveryoneOffline, emit] at huser
  online h := by simp [disconnect, markEveryoneOffline, emit] at h
  captured h := by simp [blocking, disconnect, markEveryoneOffline, emit] at h
  settled h := by simp [disconnect, markEveryoneOffline, emit] at h
  trace := ⟨[.ended], rfl, by simp [Event.Level, Event.entry]⟩

theorem level_connectionLost (m : DSNetManager) : Level m m.connectionLost := by
  rw [connectionLost_eq]
  have herror : Level m
      { m with myLastError := .offline, myRawError := -m.mySocket.myLastSystemError } :=
    level_of_eq [] (List.append_nil _).symm (by simp) m.mySocket.drifts_refl rfl rfl rfl rfl
  exact herror.trans (level_disconnect _)

theorem level_packet (m : DSNetManager) (frame : Bytes) :
    Level m (m.emit (.packet m.myConnectPhase (PacketHeader.read frame) frame)) :=
  level_emit m _ ⟨rfl, fun _ _ h => by cases h⟩

theorem level_handleMessage (m : DSNetManager) (body : Bytes) (bodySize : Int32) :
    Level m (m.handleMessage body bodySize) := by
  have hrefl := m.mySocket.drifts_refl
  unfold handleMessage
  cases parsePackedBabelMessage body bodySize with
  | none => exact level_of_eq [] (List.append_nil _).symm (by simp) hrefl rfl rfl rfl rfl
  | some message =>
    simp only
    split_ifs
    · exact level_of_eq [_] rfl (by simp [Event.Level, Event.entry]) hrefl rfl rfl rfl rfl
    · exact level_of_eq [] (List.append_nil _).symm (by simp) hrefl rfl rfl rfl rfl

theorem level_updatePresence (m : DSNetManager) (uin : BabelUIN) (online : Bool)
    (nickName : Bytes) :
    Level m (m.updatePresence uin online nickName) := by
  have hadds : ∀ user, ((m.updatePresence uin online nickName).myPendingWWRAdds
    user).isSome = true →
      (m.myPendingWWRAdds user).isSome = true := by
    intro user huser
    simp only [updatePresence, queueChange] at huser
    split_ifs at huser
    · exact (apart_endWWRAdd (m.recordPresence uin.toString online nickName) uin.toString).expected
        user
        huser
    all_goals exact huser
  obtain ⟨changed, adds, hframe⟩ := updatePresence_frame m uin online nickName
  rw [hframe] at hadds ⊢
  exact ⟨m.mySocket.drifts_refl, rfl, hadds, id, fun hn => ⟨hn, rfl⟩, fun h _ => h, [],
    (List.append_nil _).symm, by simp⟩

theorem level_handleVirtualConnect (m : DSNetManager) (header : PacketHeader) :
    Level m (m.handleVirtualConnect header).2 := by
  have hvsn : Level m m.nextVSN.2 :=
    level_of_eq [] (List.append_nil _).symm (by simp) m.mySocket.drifts_refl rfl rfl rfl rfl
  have htype : ∀ vsn, (PacketHeader.read (buildVirtualConnectAccept m.myServerUIN
      ⟨header.fieldC, header.fieldD⟩ header.fieldE vsn)).type = packetClientCommand := by
    intro vsn
    simp [buildVirtualConnectAccept]
  have hreply := hvsn.trans (level_socketWrite m.nextVSN.2 _ (level_wrote _ _
    (by rw [htype m.nextVSN.1]; decide) (by rw [htype m.nextVSN.1]; decide)))
  unfold handleVirtualConnect
  simp only
  split_ifs
  · exact hreply
  · exact hreply.trans (level_connectionLost _)

theorem level_yield (m : DSNetManager) : Level m m.nextChangedUserWWR.2 := by
  rcases nextChangedUserWWR_frame m with ⟨_, hframe⟩ | ⟨user, users, state, _, hframe⟩
  · rw [hframe]
    exact level_of_eq [] (List.append_nil _).symm (by simp) m.mySocket.drifts_refl rfl rfl rfl rfl
  · rw [hframe]
    exact level_of_eq [_] rfl (by simp [Event.Level, Event.entry]) m.mySocket.drifts_refl
      rfl rfl rfl rfl

end

/-- What an act does to the registers. -/
inductive Shift (op : Op) (m : DSNetManager) : DSNetManager → Prop
  | level (n : DSNetManager) (h : Level m n) : Shift op m n
  | accepted (frame : Bytes) (h : m.myConnectPhase = .awaitHandshake) :
    Shift op m ((m.emit (.handshake m.myConnectPhase frame)).acceptLogin
      ⟨(PacketHeader.read frame).fieldA, (PacketHeader.read frame).fieldB⟩
      ⟨(PacketHeader.read frame).fieldC, (PacketHeader.read frame).fieldD⟩
      (updatedServers frame (sizeInt frame)))
  | attempt (users : List Bytes) (hop : op = .connectInBackground users) (hoffline : ¬ m.Online) :
    Shift op m ((m.attemptFor users).emit (.polled m.myConnectPhase false
      (m.attemptFor users).blocking))
  | watch (user : Bytes) (hop : op = .addToWWR user) (hvalid : (BabelUIN.fromString user).1 = true)
    (h : m.Online → (m.myPendingWWRAdds user).isSome = true) : Shift op m (m.watch user)
  | enrol (user : Bytes) (hop : op = .addToWWR user) (hvalid : (BabelUIN.fromString user).1 = true)
    (honline : m.Online) : Shift op m ((m.watch user).startAdd user (BabelUIN.fromString user).2).2
  | remove (user : Bytes) (hop : op = .removeFromWWR user) : Shift op m (m.removeFromWWR user)

theorem Effect.shift {op : Op} {m n : DSNetManager} (h : Effect op m n) : Shift op m n := by
  cases h with
  | apart _ _ _ hapart hphase => exact .level n (hapart.level hphase)
  | attempting _ _ _ hapart hbefore hafter =>
    exact .level n (hapart.level_attempting hbefore hafter)
  | accepted _ _ frame hphase => exact .accepted frame hphase
  | message _ _ frame => exact .level _ ((level_packet m frame).trans (level_handleMessage _ _ _))
  | presence _ _ frame uin state nickName =>
    exact .level _ ((level_packet m frame).trans (level_updatePresence _ uin state nickName))
  | circuit _ _ frame =>
    exact .level _ ((level_packet m frame).trans (level_handleVirtualConnect _ _))
  | lost => exact .level _ (level_connectionLost m)
  | hangUp => exact .level _ (level_disconnect m)
  | attempt _ users hoffline => exact .attempt users rfl hoffline
  | watch _ user hvalid hpending => exact .watch user rfl hvalid hpending
  | enrol _ user hvalid honline => exact .enrol user rfl hvalid honline
  | remove _ user => exact .remove user rfl
  | yield => exact .level _ (level_yield m)
  | collect =>
    exact .level _ (level_of_eq [_] rfl (by simp [Event.Level, Event.entry])
      m.mySocket.drifts_refl rfl rfl
      rfl rfl)

/-- The event registers the user with the server. -/
def Enrols (uin : BabelUIN) (e : Event) : Prop := ∃ line, e.entry = some (line, true, uin)

/-- The user is no member, will not be registered by a login in progress, and has not been
registered since the given events. -/
structure Gone (user : Bytes) (start : List Event) (m : DSNetManager) : Prop where
  member : user ∉ m.myWWRMembers
  captured : m.blocking = true → ∀ other ∈ m.myUsersForWWR, ¬ Names user other
  trace : ∃ events, m.trace = start ++ events ∧
    ∀ e ∈ events, ¬ Enrols (BabelUIN.fromString user).2 e

section
variable {user : Bytes} {start : List Event} {m n : DSNetManager}

/-- More events, none of which registers the user. -/
theorem Gone.grow (h : Gone user start m) (hmember : user ∉ n.myWWRMembers)
    (hcaptured : n.blocking = true → ∀ other ∈ n.myUsersForWWR, ¬ Names user other)
    (hmore : ∃ events, n.trace = m.trace ++ events ∧
      ∀ e ∈ events, ¬ Enrols (BabelUIN.fromString user).2 e) : Gone user start n := by
  obtain ⟨events, htrace, hevents⟩ := h.trace
  obtain ⟨more, htrace', hmore'⟩ := hmore
  refine ⟨hmember, hcaptured, events ++ more, by rw [htrace', htrace, List.append_assoc],
    fun e he => ?_⟩
  exact (List.mem_append.mp he).elim (hevents e) (hmore' e)

theorem not_enrols_of_entry {uin : BabelUIN} {e : Event} (h : e.entry = none) : ¬ Enrols uin e := by
  rintro ⟨line, hentry⟩
  rw [h] at hentry
  cases hentry

theorem Gone.level (h : Gone user start m) (hlevel : Level m n) : Gone user start n := by
  obtain ⟨events, htrace, hevents⟩ := hlevel.trace
  refine h.grow (by rw [hlevel.members]; exact h.member) (fun hn => ?_)
    ⟨events, htrace, fun e he => not_enrols_of_entry (hevents e he).1⟩
  obtain ⟨hm, hsame⟩ := hlevel.captured hn
  rw [hsame]
  exact h.captured hm

/-- Registering others. -/
theorem Gone.registers {users : List Bytes} (h : Gone user start m)
    (hregisters : Registers users m n)
    (hothers : ∀ other ∈ users, ¬ Names user other) : Gone user start n := by
  obtain ⟨events, htrace, hevents⟩ := hregisters.trace
  refine h.grow (fun hmember => ?_) (fun hn => ?_) ⟨events, htrace, fun e he => ?_⟩
  · rcases hregisters.listed user hmember with hold | ⟨hlisted, hvalid⟩
    · exact h.member hold
    · exact hothers user hlisted ⟨hvalid, rfl⟩
  · rw [blocking_of_phase hregisters.phase] at hn
    rw [hregisters.captured]
    exact h.captured hn
  · rcases hevents e he with ⟨other, rfl⟩ | ⟨other, hlisted, hvalid, rfl⟩
    · exact not_enrols_of_entry rfl
    · rintro ⟨line, hentry⟩
      simp only [Event.entry, wwrModified_build, Option.map_some, Option.some.injEq,
        Prod.mk.injEq] at hentry
      exact hothers other hlisted ⟨hvalid, hentry.2.2⟩

/-- What an attempt begins with. -/
structure Attempted (users : List Bytes) (m n : DSNetManager) : Prop where
  members : n.myWWRMembers = m.myWWRMembers
  captured : n.myUsersForWWR = users
  adds : n.myPendingWWRAdds = m.myPendingWWRAdds
  connection : m.mySocket.os.connection ≤ n.mySocket.os.connection
  phase : n.myConnectPhase = .connecting ∧ m.mySocket.os.connection < n.mySocket.os.connection ∨
    n.myConnectPhase = .failed
  trace : ∃ host port, n.trace = m.trace ++ [.connecting host port]

theorem attempted_attemptFor (m : DSNetManager) (users : List Bytes) :
    Attempted users m (m.attemptFor users) := by
  obtain ⟨hcounted, hnew⟩ := m.mySocket.beginConnect_connection
  obtain ⟨_, _, _, _, _, hframe⟩ := chooseServer_frame { m with myUsersForWWR := users }
  simp only [attemptFor, startConnecting, hframe]
  split_ifs with hbegun
  · exact ⟨rfl, rfl, rfl, hcounted, Or.inl ⟨rfl, hnew hbegun⟩, _, _, rfl⟩
  · exact ⟨rfl, rfl, rfl, hcounted, Or.inr rfl, _, _, rfl⟩

/-- An attempt that is to register others. -/
theorem Gone.attemptFor (h : Gone user start m) (users : List Bytes)
    (hothers : ∀ other ∈ users, ¬ Names user other) :
    Gone user start
      ((m.attemptFor users).emit (.polled m.myConnectPhase false
        (m.attemptFor users).blocking)) := by
  have hattempted := attempted_attemptFor m users
  obtain ⟨host, port, htrace⟩ := hattempted.trace
  refine h.grow ?_ (fun _ => ?_)
    ⟨[.connecting host port, .polled m.myConnectPhase false (m.attemptFor users).blocking], ?_,
      fun e he => ?_⟩
  · exact fun hmember => h.member (hattempted.members ▸ hmember)
  · intro other hlisted
    exact hothers other (hattempted.captured ▸ hlisted)
  · rw [emit_trace, htrace, List.append_assoc]
    rfl
  · simp only [List.mem_cons, List.not_mem_nil, or_false] at he
    rcases he with rfl | rfl <;> exact not_enrols_of_entry rfl

/-- What a removal leaves, next to the trace. -/
structure Removed (user : Bytes) (m n : DSNetManager) : Prop where
  drift : m.mySocket.Drifts n.mySocket
  phase : n.myConnectPhase = m.myConnectPhase
  captured : n.myUsersForWWR = m.myUsersForWWR
  members : n.myWWRMembers = m.myWWRMembers.erase user
  adds : n.myPendingWWRAdds = Function.update m.myPendingWWRAdds user none

/-- A removal forgets the user, and tells the server if it can. -/
theorem removeFromWWR_frame (m : DSNetManager) (user : Bytes) :
    Removed user m (m.removeFromWWR user) ∧
      ((m.removeFromWWR user).trace = m.trace ++ [.removed user] ∧
          ((BabelUIN.fromString user).1 = true → ¬ (m.removeFromWWR user).Online) ∨
        (m.removeFromWWR user).trace = m.trace ++ [.removed user, .wrote m.mySocket.os.connection
          (buildWWRModify false m.myServerUIN (BabelUIN.fromString user).2)]) := by
  have hrefl := m.mySocket.drifts_refl
  unfold removeFromWWR
  simp only
  split_ifs with hvalid honline
  · have hsize : 0 ≤ (sizeInt (buildWWRModify false m.myServerUIN
        (BabelUIN.fromString user).2)).toInt := by
      rw [sizeInt, buildWWRModify_length]
      decide
    rw [show (m.forgetUser user).myServerUIN = m.myServerUIN from rfl]
    generalize buildWWRModify false m.myServerUIN (BabelUIN.fromString user).2 = packet at *
    have hdrift := (m.forgetUser user).mySocket.drifts_write packet (sizeInt packet)
    cases hok : ((m.forgetUser user).socketWrite packet).1 with
    | true =>
      rw [socketWrite_ok _ packet hok, hdrift.connection]
      refine ⟨⟨hdrift, rfl, rfl, rfl, rfl⟩, Or.inr ?_⟩
      simp [forgetUser, emit]
    | false =>
      have hdown := (m.forgetUser user).mySocket.write_failed packet _ hsize hok
      rw [socketWrite_failed _ packet hok]
      exact ⟨⟨hdrift, rfl, rfl, rfl, rfl⟩, Or.inl ⟨rfl, fun _ honline => hdown honline.2⟩⟩
  · exact ⟨⟨hrefl, rfl, rfl, rfl, rfl⟩, Or.inl ⟨rfl, fun _ => honline⟩⟩
  · exact ⟨⟨hrefl, rfl, rfl, rfl, rfl⟩, Or.inl ⟨rfl, fun h => absurd h hvalid⟩⟩

theorem Gone.remove (h : Gone user start m) (other : Bytes) :
    Gone user start (m.removeFromWWR other) := by
  obtain ⟨hremoved, htrace⟩ := removeFromWWR_frame m other
  refine h.grow ?_ ?_ ?_
  · rw [hremoved.members]
    exact fun hmember => h.member (Finset.mem_of_mem_erase hmember)
  · rw [blocking_of_phase hremoved.phase, hremoved.captured]
    exact h.captured
  · rcases htrace with ⟨htrace, _⟩ | htrace
    · exact ⟨_, htrace, by simpa using not_enrols_of_entry rfl⟩
    · refine ⟨_, htrace, fun e he => ?_⟩
      simp only [List.mem_cons, List.not_mem_nil, or_false] at he
      rcases he with rfl | rfl
      · exact not_enrols_of_entry rfl
      · simp [Enrols, Event.entry]

/-- **What keeps a removed user removed**: every act but those of calls that add the user or begin
an attempt with the user. -/
theorem Gone.shift {op : Op} (h : Gone user start m) (hshift : Shift op m n)
    (hadd : ∀ other, op = .addToWWR other → ¬ Names user other)
    (hattempt : ∀ users, op = .connectInBackground users → ∀ other ∈ users, ¬ Names user other) :
    Gone user start n := by
  cases hshift with
  | level _ hlevel => exact h.level hlevel
  | accepted frame hphase =>
    have hothers := h.captured (by simp [blocking, hphase])
    have hadmitted : Gone user start ((m.emit (.handshake m.myConnectPhase frame)).admitted
        ⟨(PacketHeader.read frame).fieldA, (PacketHeader.read frame).fieldB⟩
        ⟨(PacketHeader.read frame).fieldC, (PacketHeader.read frame).fieldD⟩
        (updatedServers frame (sizeInt frame))) :=
      h.grow h.member (fun hn => by simp [blocking, admitted] at hn)
        ⟨[.handshake m.myConnectPhase frame], rfl, by simpa using not_enrols_of_entry rfl⟩
    have hregistered := hadmitted.registers (registers_acceptLogin _ _ _ _) hothers
    rw [acceptLogin_admitted]
    exact ⟨hregistered.member, fun _ other hlisted => absurd hlisted List.not_mem_nil,
      hregistered.trace⟩
  | attempt users hop => exact h.attemptFor users (hattempt users hop)
  | watch other hop hvalid =>
    exact h.registers (registers_watch m other (List.mem_singleton_self other) hvalid)
      (by simpa using hadd other hop)
  | enrol other hop hvalid =>
    exact h.registers (registers_enrol m other hvalid) (by simpa using hadd other hop)
  | remove other => exact h.remove other

end

/-- The call neither adds the user nor starts an attempt that is to register the user. -/
def Leaves (user : Bytes) (m : DSNetManager) (op : Op) : Prop :=
  (∀ other ∈ op.adds, ¬ Names user other) ∧
    (¬ m.Online → m.blocking = false → ∀ other ∈ op.lists, ¬ Names user other)

instance (user : Bytes) (m : DSNetManager) (op : Op) : Decidable (Leaves user m op) :=
  inferInstanceAs (Decidable (_ ∧ (_ → _ → _)))

/-- A connection attempt in progress is pumped, and the poll noted. -/
theorem connectInBackground_blocking (m : DSNetManager) (users : List Bytes)
    (h : m.blocking = true) :
    (m.connectInBackground users).2 = m.pumpConnectPhase.emit
      (.polled m.myConnectPhase false m.pumpConnectPhase.blocking) := by
  have hphase : m.myConnectPhase = .connecting ∨ m.myConnectPhase = .awaitHandshake := by
    simpa [blocking] using h
  have hoffline : ¬ m.Online := by
    rintro ⟨honline, _⟩
    simp [honline] at hphase
  have hbusy : ¬ (m.myConnectPhase = .idle ∨ m.myConnectPhase = .failed ∨
      m.myConnectPhase = .online) := by
    rcases hphase with hphase | hphase <;> simp [hphase]
  simp only [connectInBackground]
  rw [if_neg hoffline, if_neg hbusy]

theorem connectInBackground_attempt (m : DSNetManager) (users : List Bytes) (hoffline : ¬ m.Online)
    (h : m.blocking = false) :
    (m.connectInBackground users).2 =
      (m.attemptFor users).emit (.polled m.myConnectPhase false (m.attemptFor users).blocking) := by
  have hidle : m.myConnectPhase = .idle ∨ m.myConnectPhase = .failed ∨
      m.myConnectPhase = .online := by
    cases hphase : m.myConnectPhase <;> simp [blocking, hphase] at h ⊢
  simp only [connectInBackground]
  rw [if_neg hoffline, if_pos hidle]
  rfl

theorem Pumps.keeps {m n : DSNetManager} (h : Pumps m n) (p : DSNetManager → Prop)
    (hstep : ∀ m n, Pumped m n → p m → p n) (hm : p m) : p n := by
  induction h with
  | refl => exact hm
  | tail _ hpumped ih => exact hstep _ _ hpumped ih

theorem Gone.run {user : Bytes} {start : List Event} (op : Op) (m : DSNetManager)
    (hleaves : Leaves user m op) (hacts : Acts op m (op.run m).2) (h : Gone user start m) :
    Gone user start (op.run m).2 := by
  by_cases hconnect : ∃ users, op = .connectInBackground users
  · obtain ⟨users, rfl⟩ := hconnect
    simp only [Op.run]
    by_cases honline : m.Online
    · simp only [connectInBackground]
      rw [if_pos honline]
      exact h.level (level_emit m _ ⟨rfl, fun _ _ h => by cases h⟩)
    · cases hblocking : m.blocking with
      | true =>
        rw [connectInBackground_blocking m users hblocking]
        have hpumped : Gone user start m.pumpConnectPhase :=
          (pumps_pumpConnectPhase m).keeps (Gone user start)
            (fun m n hpumped hm => hm.shift (hpumped.effect .tick).shift (fun _ h => by cases h)
              (fun _ h => by cases h)) h
        exact hpumped.level (level_emit _ _ ⟨rfl, fun _ _ h => by cases h⟩)
      | false =>
        rw [connectInBackground_attempt m users honline hblocking]
        exact h.attemptFor users (hleaves.2 honline hblocking)
  · refine hacts.keeps (Gone user start) (fun m n hact hm => ?_) h
    exact hm.shift hact.effect.shift (fun other hop => hleaves.1 other (by rw [hop]; exact rfl))
      (fun users hop => absurd ⟨users, hop⟩ hconnect)

end DSNetManager

open DSNetManager

/-- **Removal sticks**, unless a login was in progress that is to register the user: from
`RemoveFromWWR` on, until a call adds the user again or starts an attempt with the user, the user is
no member and is not registered with the server. -/
theorem removal_sticks (os : SocketOS) (clock : Stream' UInt32) (disk : Disk)
    (before after : List Op)
    (user : Bytes) (hreturned : (runOps before (construct os clock disk)).1 = true)
    (hunlisted : (ran os clock disk before).blocking = true →
      ∀ other ∈ (ran os clock disk before).myUsersForWWR, ¬ Names user other)
    (hlater : Meets (Leaves user) after ((ran os clock disk before).removeFromWWR user)) :
    user ∉ (runOps after ((ran os clock disk before).removeFromWWR user)).2.myWWRMembers ∧
      ∀ e ∈ since ((ran os clock disk before).removeFromWWR user)
          (runOps after ((ran os clock disk before).removeFromWWR user)).2,
        ¬ Enrols (BabelUIN.fromString user).2 e := by
  have hidle : (ran os clock disk before).waiting = none := (steps_runOps before _ rfl).2 hreturned
  generalize ran os clock disk before = m at *
  have hidle' : (m.removeFromWWR user).waiting = none :=
    (Act.remove m user).waiting_kept rfl hidle
  have hremoved := (removeFromWWR_frame m user).1
  have hgone : Gone user (m.removeFromWWR user).trace (m.removeFromWWR user) :=
    ⟨by rw [hremoved.members]; exact Finset.notMem_erase user _,
      by rw [blocking_of_phase hremoved.phase, hremoved.captured]; exact hunlisted, [],
      (List.append_nil _).symm, by simp⟩
  have hlast := hlater.keeps hidle' (Gone user (m.removeFromWWR user).trace) hgone
    (fun op m hleaves _ hacts hm => Gone.run op m hleaves hacts hm)
  obtain ⟨events, htrace, hevents⟩ := hlast.trace
  refine ⟨hlast.member, fun e he => hevents e ?_⟩
  rwa [since, htrace, List.drop_left] at he

/-- A user removed once the login is complete. -/
theorem removal_sticks_online :
    let m :=
      ran (.scripted [[.data loginResponse]] [.took 54, .took 32, .took 32]) (.const 0) .blank
      [.connectInBackground [ascii "7+1"], .connectInBackground []]
    ascii "7+1" ∉ (runOps [.tick] (m.removeFromWWR (ascii "7+1"))).2.myWWRMembers ∧
      ∀ e ∈ since (m.removeFromWWR (ascii "7+1"))
        (runOps [.tick] (m.removeFromWWR (ascii "7+1"))).2,
        ¬ Enrols (BabelUIN.fromString (ascii "7+1")).2 e :=
  removal_sticks _ _ _ _ _ _ (by decide +kernel) (by decide +kernel) (by decide +kernel)

/-- A user who is removed while a login is in progress is registered by it. -/
theorem removed_user_registered :
    let m := ran (.scripted [[.data loginResponse]] [.took 54, .took 32]) (.const 0) .blank
      [.connectInBackground [ascii "7+1"]]
    let n := (runOps [.connectInBackground []] (m.removeFromWWR (ascii "7+1"))).2
    Meets (Leaves (ascii "7+1")) [.connectInBackground []] (m.removeFromWWR (ascii "7+1")) ∧
      ascii "7+1" ∈ n.myWWRMembers ∧ .wrote 1 (buildWWRModify true ⟨1, 1⟩ ⟨7, 1⟩) ∈
        since (m.removeFromWWR (ascii "7+1")) n := by
  decide +kernel

end NetNatsue
