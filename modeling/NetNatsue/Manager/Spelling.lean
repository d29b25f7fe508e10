import NetNatsue.Manager.Known
import NetNatsue.Manager.Pumping
import NetNatsue.Protocol.Numerals

/-! Users are looked up by the text a caller gives, and recorded under the text their numbers are
printed as. Nothing is recorded of a user whose id is spelled in another way. -/
namespace NetNatsue
open BabelUIN

namespace DSNetManager

/-- What the packet at the front of the buffer tells of a user, unless it answers a transaction. -/
def frontTold (m : DSNetManager) : Option (BabelUIN × Bool × Bytes) :=
  match cut m.myTransactions m.mySocket.myInput with
  | .frame totalSize =>
    let frame := m.mySocket.myInput.take totalSize.toInt.toNat
    match answeredBy m.myTransactions (PacketHeader.read frame).ticket with
    | some _ => none
    | none => presenceTold (PacketHeader.read frame) frame
  | _ => none

theorem handlePacket_told (m : DSNetManager) (frame : Bytes) {uin : BabelUIN} {online : Bool}
    {nickName : Bytes}
    (h : presenceTold (PacketHeader.read frame) frame = some (uin, online, nickName)) :
    m.handlePacket (PacketHeader.read frame) (frame.drop packetHeaderSize) (sizeInt frame - 32) =
      (true, m.updatePresence uin online nickName) := by
  have hdata : ∀ online', (parseShortUserData (frame.drop packetHeaderSize)
    (sizeInt frame - 32)).map
      (fun d => (d.uin, online', d.nickName)) = some (uin, online, nickName) →
      m.handleUserData online' (frame.drop packetHeaderSize) (sizeInt frame - 32) =
        m.updatePresence uin online nickName := by
    intro online' hmap
    obtain ⟨userData, hparse, htold⟩ := Option.map_eq_some_iff.mp hmap
    simp only [Prod.mk.injEq] at htold
    obtain ⟨rfl, rfl, rfl⟩ := htold
    simp only [handleUserData, hparse]
  simp only [presenceTold] at h
  cases hpacket : ServerPacket.ofType (PacketHeader.read frame).type with
  | none => simp [hpacket] at h
  | some packet =>
    rw [hpacket] at h
    cases packet
    case userOnline => simp only [handlePacket, hpacket, hdata true h]
    case userOffline => simp only [handlePacket, hpacket, hdata false h]
    case onlineChange =>
      simp only [Option.some.injEq, Prod.mk.injEq] at h
      obtain ⟨rfl, rfl, rfl⟩ := h
      simp only [handlePacket, hpacket]
    all_goals cases h

/-- The round of the input loop that handles such a packet. -/
theorem processInputBody_told {m : DSNetManager} {uin : BabelUIN} {online : Bool} {nickName : Bytes}
    (h : m.frontTold = some (uin, online, nickName)) : ∃ frame totalSize,
      presenceTold (PacketHeader.read frame) frame = some (uin, online, nickName) ∧
      m.processInputBody = .again
        (((m.emit (.packet m.myConnectPhase (PacketHeader.read frame) frame)).updatePresence
        uin online nickName).consume totalSize) := by
  unfold frontTold at h
  cases hcut : cut m.myTransactions m.mySocket.myInput with
  | wait => simp [hcut] at h
  | lost => simp [hcut] at h
  | frame totalSize =>
    simp only [hcut] at h
    cases hanswer : answeredBy m.myTransactions
        (PacketHeader.read (m.mySocket.myInput.take totalSize.toInt.toNat)).ticket with
    | some transaction => simp only [hanswer, reduceCtorEq] at h
    | none =>
      simp only [hanswer] at h
      obtain ⟨_, hsize, _, hlength⟩ := cut_frame_split _ _ _ hcut
      have hall : (m.mySocket.myInput.take totalSize.toInt.toNat).take totalSize.toInt.toNat =
          m.mySocket.myInput.take totalSize.toInt.toNat := by rw [List.take_take, min_self]
      have htype : ServerPacket.ofType
        (PacketHeader.read (m.mySocket.myInput.take totalSize.toInt.toNat)).type ≠
          some .handshakeResponse := fun htype => by
        simp only [presenceTold, htype, reduceCtorEq] at h
      have hhandled : m.handleFrame m.mySocket.myInput totalSize = (true,
        (m.emit (.packet m.myConnectPhase
          (PacketHeader.read (m.mySocket.myInput.take totalSize.toInt.toNat))
          (m.mySocket.myInput.take totalSize.toInt.toNat))).updatePresence uin online
            nickName) := by
        rw [handleFrame_front m _ totalSize hcut, handleFrame_packet m _ _ hanswer htype,
          handlePacket_told _ _ h, hsize, hall]
      refine ⟨_, totalSize, h, ?_⟩
      rw [processInputBody_frame m totalSize hcut, hhandled]
      rfl

/-- Nobody is newly recorded or forgotten, and only a user of whom nothing is recorded is newly
waited for. -/
structure Calm (m n : DSNetManager) : Prop where
  recorded : ∀ user, (n.myPresence user).isSome = (m.myPresence user).isSome
  expected : ∀ user, (n.myPendingWWRAdds user).isSome = true →
    (m.myPendingWWRAdds user).isSome = true ∨ m.myPresence user = none
  members : m.myWWRMembers ⊆ n.myWWRMembers

section
variable {m n k : DSNetManager}

theorem Calm.unrecorded (h : Calm m n) (user : Bytes) :
    n.myPresence user = none ↔ m.myPresence user = none := by
  rw [← Option.isNone_iff_eq_none, ← Option.isNone_iff_eq_none, ← Option.not_isSome,
    ← Option.not_isSome, h.recorded user]

theorem Calm.trans (h : Calm m n) (h' : Calm n k) : Calm m k where
  recorded user := (h'.recorded user).trans (h.recorded user)
  expected user huser := (h'.expected user huser).elim (h.expected user) fun hnone =>
    Or.inr ((h.unrecorded user).mp hnone)
  members := h.members.trans h'.members

/-- The register is left alone. -/
theorem calm_of_eq (hpresence : n.myPresence = m.myPresence)
    (hadds : n.myPendingWWRAdds = m.myPendingWWRAdds)
    (hmembers : m.myWWRMembers ⊆ n.myWWRMembers) : Calm m n :=
  ⟨fun user => by rw [hpresence], fun user => by rw [hadds]; exact Or.inl, hmembers⟩

theorem Apart.calm (h : Apart m n) : Calm m n where
  recorded user := by
    have honline := congrArg Option.isSome (h.online user)
    rwa [Option.isSome_map, Option.isSome_map] at honline
  expected user huser := Or.inl (h.expected user huser)
  members := h.members.ge

end

theorem calm_socketWrite (m : DSNetManager) (packet : Bytes) : Calm m (m.socketWrite packet).2 := by
  cases hok : (m.socketWrite packet).1 with
  | true =>
    rw [socketWrite_ok m packet hok]
    exact calm_of_eq rfl rfl subset_rfl
  | false =>
    rw [socketWrite_failed m packet hok]
    exact calm_of_eq rfl rfl subset_rfl

theorem calm_disconnect (m : DSNetManager) : Calm m m.disconnect :=
  ⟨fun _ => Option.isSome_map, fun _ huser => absurd huser Bool.false_ne_true, subset_rfl⟩

theorem calm_connectionLost (m : DSNetManager) : Calm m m.connectionLost :=
  ⟨fun _ => Option.isSome_map, fun _ huser => absurd huser Bool.false_ne_true, subset_rfl⟩

theorem calm_watch (m : DSNetManager) (user : Bytes) : Calm m (m.watch user) :=
  calm_of_eq rfl rfl (Finset.subset_insert _ _)

theorem calm_sendWWRRegistrations (users : List Bytes) (m : DSNetManager) :
    Calm m (sendWWRRegistrations users m) := by
  induction users generalizing m with
  | nil => exact calm_of_eq rfl rfl subset_rfl
  | cons user users ih =>
    have hwatch : Calm m ((m.watch user).emit (.registered user)) :=
      calm_of_eq rfl rfl (Finset.subset_insert _ _)
    simp only [sendWWRRegistrations]
    split_ifs
    · exact (hwatch.trans (calm_socketWrite _ _)).trans (ih _)
    · exact hwatch.trans (calm_socketWrite _ _)
    · exact ih m

theorem calm_acceptLogin (m : DSNetManager) (serverUIN userUIN : BabelUIN)
    (servers : List CBabelServerInfo) :
    Calm m (m.acceptLogin serverUIN userUIN servers) := by
  have hadmit : Calm m (m.admitted serverUIN userUIN servers) := calm_of_eq rfl rfl subset_rfl
  have hregister := hadmit.trans (calm_sendWWRRegistrations m.myUsersForWWR _)
  rw [acceptLogin_admitted]
  exact hregister.trans (calm_of_eq rfl rfl subset_rfl)

theorem calm_handleMessage (m : DSNetManager) (body : Bytes) (bodySize : Int32) :
    Calm m (m.handleMessage body bodySize) := by
  unfold handleMessage
  cases parsePackedBabelMessage body bodySize with
  | none => exact calm_of_eq rfl rfl subset_rfl
  | some message =>
    simp only
    split_ifs <;> exact calm_of_eq rfl rfl subset_rfl

theorem calm_handleVirtualConnect (m : DSNetManager) (header : PacketHeader) :
    Calm m (m.handleVirtualConnect header).2 := by
  have hvsn : Calm m m.nextVSN.2 := calm_of_eq rfl rfl subset_rfl
  have hreply := hvsn.trans (calm_socketWrite m.nextVSN.2
    (buildVirtualConnectAccept m.myServerUIN ⟨header.fieldC, header.fieldD⟩
      header.fieldE m.nextVSN.1))
  simp only [handleVirtualConnect]
  split_ifs
  · exact hreply
  · exact hreply.trans (calm_connectionLost _)

/-- Whoever is waited for by `AddToWWR` is not recorded yet. -/
theorem calm_startAdd (m : DSNetManager) (user : Bytes) (uin : BabelUIN) :
    Calm m (m.startAdd user uin).2 := by
  have hwrite := calm_socketWrite m (buildWWRModify true m.myServerUIN uin)
  simp only [startAdd]
  split_ifs with _ hknown
  · exact hwrite
  · refine hwrite.trans ⟨fun _ => rfl, fun other hother => ?_, subset_rfl⟩
    by_cases hsame : other = user
    · rw [hsame, hwrite.unrecorded user]
      exact Or.inr (by simpa using hknown)
    · exact Or.inl (by simpa [setWWRAdd, nowMs, hsame] using hother)
  · exact hwrite

theorem calm_attemptFor (m : DSNetManager) (users : List Bytes) : Calm m (m.attemptFor users) := by
  obtain ⟨_, _, _, _, _, hframe⟩ := chooseServer_frame { m with myUsersForWWR := users }
  simp only [attemptFor, startConnecting, hframe]
  split_ifs <;> exact calm_of_eq rfl rfl subset_rfl

/-- An act is calm, hears of somebody, or is a removal. -/
inductive Learns : Op → DSNetManager → DSNetManager → Prop
  | calm (op : Op) (m n : DSNetManager) (h : Calm m n) : Learns op m n
  | told (op : Op) (m : DSNetManager) (frame : Bytes) (uin : BabelUIN) (online : Bool)
    (nickName : Bytes) :
    Learns op m ((m.emit (.packet m.myConnectPhase (PacketHeader.read frame) frame)).updatePresence
      uin online
      nickName)
  | remove (m : DSNetManager) (user : Bytes) : Learns (.removeFromWWR user) m (m.removeFromWWR user)

theorem Act.learns {op : Op} {m n : DSNetManager} (h : Act op m n) : Learns op m n := by
  have hemit : ∀ (m : DSNetManager) (e : Event), Calm m (m.emit e) :=
    fun _ _ => calm_of_eq rfl rfl subset_rfl
  cases h.effect with
  | apart _ _ _ hapart => exact .calm op m n hapart.calm
  | attempting _ _ _ hapart => exact .calm op m n hapart.calm
  | accepted _ _ frame => exact .calm op m _ ((hemit m _).trans (calm_acceptLogin _ _ _ _))
  | message _ _ frame => exact .calm op m _ ((hemit m _).trans (calm_handleMessage _ _ _))
  | presence _ _ frame uin online nickName => exact .told op m frame uin online nickName
  | circuit _ _ frame => exact .calm op m _ ((hemit m _).trans (calm_handleVirtualConnect _ _))
  | lost => exact .calm op m _ (calm_connectionLost m)
  | hangUp => exact .calm _ m _ (calm_disconnect m)
  | attempt _ users => exact .calm _ m _ ((calm_attemptFor m users).trans (hemit _ _))
  | watch _ user => exact .calm _ m _ (calm_watch m user)
  | enrol _ user => exact .calm _ m _ ((calm_watch m user).trans (calm_startAdd _ user _))
  | remove _ user => exact .remove m user
  | yield =>
    refine .calm _ m _ ?_
    rcases nextChangedUserWWR_frame m with ⟨_, hframe⟩ | ⟨user, users, online, _, hframe⟩
    · rw [hframe]
      exact calm_of_eq rfl rfl subset_rfl
    · rw [hframe]
      exact calm_of_eq rfl rfl subset_rfl
  | collect => exact .calm _ m _ (calm_of_eq rfl rfl subset_rfl)

/-- Users are recorded under their printed names, and nobody who is recorded is waited for. -/
structure Spelled (m : DSNetManager) : Prop where
  printed : ∀ user, m.myPresence user ≠ none → ∃ uin : BabelUIN, user = uin.toString
  unexpected : ∀ user, m.myPresence user ≠ none → m.myPendingWWRAdds user = none

theorem spelled_construct (os : SocketOS) (clock : Stream' UInt32) (disk : Disk) :
    (construct os clock disk).Spelled := ⟨fun _ h => absurd rfl h, fun _ h => absurd rfl h⟩

theorem Spelled.calm {m n : DSNetManager} (hm : m.Spelled) (h : Calm m n) : n.Spelled := by
  have hrecorded : ∀ user, n.myPresence user ≠ none → m.myPresence user ≠ none := fun user hnone =>
    (h.unrecorded user).not.mp hnone
  refine ⟨fun user huser => hm.printed user (hrecorded user huser), fun user huser => ?_⟩
  by_contra hexpected
  rcases h.expected user (Option.isSome_iff_ne_none.mpr hexpected) with hbefore | hbefore
  · rw [hm.unexpected user (hrecorded user huser)] at hbefore
    exact absurd hbefore Bool.false_ne_true
  · exact hrecorded user huser hbefore

/-- The update of a record ends the wait for it. -/
theorem updatePresence_adds (m : DSNetManager) (uin : BabelUIN) (online : Bool)
    (nickName user : Bytes) :
    (m.updatePresence uin online nickName).myPendingWWRAdds user =
      if user = uin.toString then none else m.myPendingWWRAdds user := by
  cases hexpected : m.myPendingWWRAdds uin.toString with
  | some deadline =>
    simp only [updatePresence, hexpected, Option.isSome_some, if_true]
    exact Function.update_apply _ _ _ _
  | none =>
    have hkept : (m.updatePresence uin online nickName).myPendingWWRAdds = m.myPendingWWRAdds := by
      simp only [updatePresence, hexpected, Option.isSome_none, Bool.false_eq_true,
        if_false, queueChange]
      split_ifs <;> rfl
    rw [hkept]
    split_ifs with huser
    · rw [huser, hexpected]
    · rfl

theorem updatePresence_recorded (m : DSNetManager) (uin : BabelUIN) (online : Bool)
    (nickName user : Bytes) :
    ((m.updatePresence uin online nickName).myPresence user).map Presence.online =
      if user = uin.toString then some online else (m.myPresence user).map Presence.online := by
  obtain ⟨changed, adds, hframe⟩ := m.updatePresence_frame uin online nickName
  rw [hframe]
  change ((m.recordPresence uin.toString online nickName).myPresence user).map Presence.online = _
  rw [recordPresence_online]
  simp only [eq_comm]

theorem updatePresence_unrecorded (m : DSNetManager) (uin : BabelUIN) (online : Bool)
    (nickName user : Bytes) :
    (m.updatePresence uin online nickName).myPresence user ≠ none ↔
      user = uin.toString ∨ m.myPresence user ≠ none := by
  have hrecorded := updatePresence_recorded m uin online nickName user
  have hmap : ∀ presence : Option Presence, presence ≠ none ↔ presence.map Presence.online ≠ none :=
    fun presence =>
    (Option.map_eq_none_iff (f := Presence.online)).not.symm
  rw [hmap, hrecorded, hmap]
  split_ifs with huser <;> simp [huser]

theorem Spelled.told {m : DSNetManager} (hm : m.Spelled) (uin : BabelUIN) (online : Bool)
    (nickName : Bytes) :
    (m.updatePresence uin online nickName).Spelled := by
  refine ⟨fun user huser => ?_, fun user huser => ?_⟩
  · rcases (updatePresence_unrecorded m uin online nickName user).mp huser with rfl | huser
    · exact ⟨uin, rfl⟩
    · exact hm.printed user huser
  · rw [updatePresence_adds]
    split_ifs with hsame
    · rfl
    · rcases (updatePresence_unrecorded m uin online nickName user).mp huser with hkey | huser
      · exact absurd hkey hsame
      · exact hm.unexpected user huser

theorem forgetUser_presence (m : DSNetManager) {user other : Bytes} (h : other ≠ user) :
    (m.forgetUser user).myPresence other = m.myPresence other := Function.update_of_ne h _ _

theorem Spelled.forgetUser {m : DSNetManager} (hm : m.Spelled) (user : Bytes) :
    (m.forgetUser user).Spelled := by
  have hrecorded : ∀ other, (m.forgetUser user).myPresence other ≠ none →
      other ≠ user ∧ m.myPresence other ≠ none := by
    intro other hother
    by_cases hsame : other = user
    · exact absurd (by rw [hsame]; exact Function.update_self _ _ _) hother
    · exact ⟨hsame, by rwa [forgetUser_presence m hsame] at hother⟩
  refine ⟨fun other hother => hm.printed other (hrecorded other hother).2, fun other hother => ?_⟩
  obtain ⟨hsame, hbefore⟩ := hrecorded other hother
  exact (Function.update_of_ne hsame _ _).trans (hm.unexpected other hbefore)

theorem removeFromWWR_calm (m : DSNetManager) (user : Bytes) :
    Calm (m.forgetUser user) (m.removeFromWWR user) := by
  simp only [removeFromWWR]
  split_ifs
  · exact calm_socketWrite _ _
  · exact calm_of_eq rfl rfl subset_rfl
  · exact calm_of_eq rfl rfl subset_rfl

theorem Spelled.act {op : Op} {m n : DSNetManager} (hm : m.Spelled) (h : Act op m n) :
    n.Spelled := by
  cases h.learns with
  | calm _ _ _ hcalm => exact hm.calm hcalm
  | told _ _ frame uin online nickName =>
    have hemit : (m.emit (.packet m.myConnectPhase (PacketHeader.read frame) frame)).Spelled :=
      hm.calm (calm_of_eq rfl rfl subset_rfl)
    exact hemit.told uin online nickName
  | remove _ user => exact (hm.forgetUser user).calm (removeFromWWR_calm m user)

/-- Nobody but the removed user loses a place in the register or in the records. -/
theorem Act.keeps_user {op : Op} {m n : DSNetManager} {user : Bytes} (h : Act op m n)
    (hop : op ≠ .removeFromWWR user) : (user ∈ m.myWWRMembers → user ∈ n.myWWRMembers) ∧
      (m.myPresence user ≠ none → n.myPresence user ≠ none) := by
  cases h.learns with
  | calm _ _ _ hcalm =>
    exact ⟨fun hmember => hcalm.members hmember, fun huser => (hcalm.unrecorded user).not.mpr huser⟩
  | told _ _ frame uin online nickName =>
    refine ⟨fun hmember => ?_, fun huser =>
      (updatePresence_unrecorded _ uin online nickName user).mpr (Or.inr huser)⟩
    obtain ⟨changed, adds, hframe⟩ := updatePresence_frame
      (m.emit (.packet m.myConnectPhase (PacketHeader.read frame) frame)) uin online nickName
    rw [hframe]
    exact hmember
  | remove _ other =>
    have hother : user ≠ other := fun hsame => hop (by rw [hsame])
    have hcalm := removeFromWWR_calm m other
    refine ⟨fun hmember => hcalm.members (Finset.mem_erase.mpr ⟨hother, hmember⟩), fun huser =>
      (hcalm.unrecorded user).not.mpr ?_⟩
    rwa [forgetUser_presence m hother]

/-- The acts of some kinds of calls, one after another. -/
abbrev ActsOf (p : Op → Prop) : DSNetManager → DSNetManager → Prop :=
  Relation.ReflTransGen fun m n => ∃ op, p op ∧ Act op m n

theorem Acts.actsOf {p : Op → Prop} {op : Op} {m n : DSNetManager} (h : Acts op m n) (hop : p op) :
    ActsOf p m n := Relation.ReflTransGen.mono (fun _ _ hact => ⟨op, hop, hact⟩) m n h

theorem ActsOf.spelled {p : Op → Prop} {m n : DSNetManager} (h : ActsOf p m n) (hm : m.Spelled) :
    n.Spelled := by
  induction h with
  | refl => exact hm
  | tail _ hact ih =>
    obtain ⟨op, _, hact⟩ := hact
    exact ih.act hact

theorem ActsOf.keeps_user {m n : DSNetManager} {user : Bytes}
    (h : ActsOf (· ≠ .removeFromWWR user) m n) :
    (user ∈ m.myWWRMembers → user ∈ n.myWWRMembers) ∧
    (m.myPresence user ≠ none → n.myPresence user ≠ none) := by
  induction h with
  | refl => exact ⟨id, id⟩
  | tail _ hact ih =>
    obtain ⟨op, hop, hact⟩ := hact
    obtain ⟨hmember, huser⟩ := hact.keeps_user hop
    exact ⟨fun h => hmember (ih.1 h), fun h => huser (ih.2 h)⟩

/-- A state of a life: all kinds of calls, from the beginning. -/
def Lived (os : SocketOS) (clock : Stream' UInt32) (disk : Disk) (m : DSNetManager) : Prop :=
  ActsOf (fun _ => True) (construct os clock disk) m

/-- Some calls of `NextChangedUserWWR`. -/
def drained : ℕ → DSNetManager → DSNetManager
  | 0, m => m
  | calls+1, m => drained calls m.nextChangedUserWWR.2

/-- What a caller who watches a user is owed when a packet has told of the user: no more waiting,
an answer without asking, and a report of each later change. -/
structure Served (user : Bytes) (online : Bool) (m : DSNetManager) : Prop where
  ended : m.myPendingWWRAdds user = none
  answered : ∀ fuel, m.isUserOnline fuel user = (some online, m)
  reported : ∀ (n : DSNetManager) (state : Bool) (nickName : Bytes), ActsOf
    (· ≠ .removeFromWWR user) m n →
    n.frontTold = some ((fromString user).2, state, nickName) → state ≠ (n.presenceOf user).online →
    ∃ calls, (drained calls n.processInputBody.state).nextChangedUserWWR.1 = some (user, state)

/-- A queued user is yielded, with the state that is recorded. -/
theorem drained_yields (m : DSNetManager) (user : Bytes) (state : Bool)
    (hqueued : user ∈ m.myChangedUsers)
    (hstate : (m.myPresence user).map Presence.online = some state) :
    ∃ calls, (drained calls m).nextChangedUserWWR.1 = some (user, state) := by
  obtain ⟨users, hqueue⟩ : ∃ users, m.myChangedUsers = users := ⟨_, rfl⟩
  rw [hqueue] at hqueued
  induction users generalizing m with
  | nil => exact absurd hqueued (List.not_mem_nil (a := user))
  | cons first users ih =>
    by_cases hfirst : user = first
    · obtain ⟨presence, hpresence, honline⟩ := Option.map_eq_some_iff.mp hstate
      exact ⟨0, by simp only [drained, nextChangedUserWWR, hqueue, ← hfirst, hpresence, honline]⟩
    · have hnext : m.nextChangedUserWWR.2.myChangedUsers = users ∧
          m.nextChangedUserWWR.2.myPresence = m.myPresence := by
        simp only [nextChangedUserWWR, hqueue]
        exact ⟨rfl, rfl⟩
      obtain ⟨calls, hcalls⟩ := ih m.nextChangedUserWWR.2 (by rw [hnext.2, hstate])
        ((List.mem_cons.mp hqueued).resolve_left hfirst) hnext.1
      exact ⟨calls+1, hcalls⟩

/-- Asking leaves a trace. -/
theorem askUserOnline_ne (m : DSNetManager) (fuel : ℕ) (user : Bytes) (honline : m.Online) :
    (m.askUserOnline fuel (fromString user).2).2 ≠ m := by
  intro heq
  rcases askUserOnline_asks m fuel user honline with ⟨e, he, _⟩ | ⟨_, hunwritten⟩
  · rw [heq, since, List.drop_length] at he
    exact absurd he List.not_mem_nil
  · have hrefused : ((m.startTransaction .connectionDetail noExtra).2.socketWrite
      (m.connectionRequest user)).1 =
        false := hunwritten
    have htrace := congrArg DSNetManager.trace heq
    rw [connectionRequest_started] at hrefused
    unfold askUserOnline at htrace
    simp only at htrace
    rw [if_pos (by rw [Bool.not_eq_true]; exact hrefused), abandonTransaction_trace,
      socketWrite_failed _ _ hrefused]
      at htrace
    change (m.startTransaction .connectionDetail noExtra).2.trace = m.trace at htrace
    rw [startTransaction_trace] at htrace
    simp at htrace

/-- What a packet that tells of a user leaves behind. -/
structure HasTold (uin : BabelUIN) (online : Bool) (m n : DSNetManager) : Prop where
  ended : n.myPendingWWRAdds uin.toString = none
  recorded : (n.myPresence uin.toString).map Presence.online = some online
  others : ∀ user, user ≠ uin.toString → n.myPresence user = m.myPresence user
  members : n.myWWRMembers = m.myWWRMembers
  userUIN : n.myUserUIN = m.myUserUIN
  stays : m.Online → n.Online
  queued : uin.toString ∈ m.myWWRMembers → m.myPendingWWRAdds uin.toString = none →
    online ≠ (m.presenceOf uin.toString).online → uin.toString ∈ n.myChangedUsers

theorem processInputBody_hasTold {m : DSNetManager} {uin : BabelUIN} {online : Bool}
    {nickName : Bytes} (h : m.frontTold = some (uin, online, nickName)) :
    HasTold uin online m m.processInputBody.state := by
  obtain ⟨frame, totalSize, _, hround⟩ := processInputBody_told h
  rw [hround]
  obtain ⟨changed, adds, hframe⟩ := updatePresence_frame
    (m.emit (.packet m.myConnectPhase (PacketHeader.read frame) frame)) uin online nickName
  refine ⟨?_, ?_, fun user huser => ?_, ?_, ?_, fun honline => ⟨?_, ?_⟩,
    fun hmember hadds hflip => ?_⟩
  · exact (updatePresence_adds _ uin online nickName _).trans (if_pos rfl)
  · exact (updatePresence_recorded _ uin online nickName _).trans (if_pos rfl)
  · rw [hframe]
    exact Function.update_of_ne huser _ _
  · rw [hframe]
    rfl
  · rw [hframe]
    rfl
  · rw [hframe]
    exact honline.1
  · rw [Loop.Next.state, consume_state, hframe]
    exact honline.2
  · exact updatePresence_flip (m.emit _) uin online nickName hmember hadds hflip

/-- **Users as they are spelled.** Whoever has called `AddToWWR` for a user is served by the packets
that tell of the user if and only if the id is spelled as its numbers are printed. -/
theorem served_iff (os : SocketOS) (clock : Stream' UInt32) (disk : Disk) (m n : DSNetManager)
    (user : Bytes) (online : Bool) (nickName : Bytes) (hm : Lived os clock disk m)
    (hvalid : (fromString user).1 = true)
    (hadded : ActsOf (· ≠ .removeFromWWR user) (m.addToWWR user).2 n)
    (hother : (fromString user).2 ≠ n.myUserUIN) (honline : n.Online)
    (htold : n.frontTold = some ((fromString user).2, online, nickName)) :
    Served user online n.processInputBody.state ↔ user = (fromString user).2.toString := by
  have hcall : ActsOf (fun _ => True) m (m.addToWWR user).2 :=
    (pieces_addToWWR m user).acts.actsOf trivial
  have hspelled : n.Spelled :=
    hadded.spelled (hcall.spelled (hm.spelled (spelled_construct os clock disk)))
  have hfirst := processInputBody_hasTold htold
  have hother' : (fromString user).2 ≠ n.processInputBody.state.myUserUIN := by rwa [hfirst.userUIN]
  constructor
  · intro hserved
    by_contra hspelling
    have hnone : n.myPresence user = none := by
      by_contra hrecorded
      obtain ⟨uin, rfl⟩ := hspelled.printed user hrecorded
      rw [fromString_toString_accepted uin hvalid] at hspelling
      exact hspelling rfl
    have hunknown :=
      isUserOnline_unknown n.processInputBody.state 0 user (hfirst.stays honline) hvalid hother'
      (by rw [hfirst.others user hspelling, hnone])
    rw [hserved.answered 0] at hunknown
    exact askUserOnline_ne _ 0 user (hfirst.stays honline) (congrArg Prod.snd hunknown).symm
  · intro hprinted
    have hended := hfirst.ended
    have hrecorded := hfirst.recorded
    rw [← hprinted] at hended hrecorded
    refine ⟨hended, fun fuel => ?_, fun later state nickName' hlater htold' hflip => ?_⟩
    · obtain ⟨presence, hpresence, rfl⟩ := Option.map_eq_some_iff.mp hrecorded
      exact isUserOnline_known _ fuel user (hfirst.stays honline) hvalid hother' presence hpresence
    · have hround : ActsOf (· ≠ .removeFromWWR user) n n.processInputBody.state :=
        ((heeds_processInputBody n (Or.inr (Or.inl honline.1))).1.pumps.acts .disconnect).actsOf
          (fun h => by cases h)
      have hmember : user ∈ (m.addToWWR user).2.myWWRMembers := by
        simp only [addToWWR, hvalid, not_true_eq_false, if_false]
        exact addUser_members _ user _ (Finset.mem_insert_self _ _)
      have hknown : n.processInputBody.state.myPresence user ≠ none := fun hnone => by
        rw [hnone] at hrecorded
        cases hrecorded
      have hafter : ActsOf (· ≠ .removeFromWWR user) n later := hround.trans hlater
      have hmember' := hafter.keeps_user.1 (hadded.keeps_user.1 hmember)
      have hadds := (hafter.spelled hspelled).unexpected user (hlater.keeps_user.2 hknown)
      have hsecond := processInputBody_hasTold htold'
      have hqueued := hsecond.queued
      have hstate := hsecond.recorded
      rw [← hprinted] at hqueued hstate
      exact drained_yields _ user state (hqueued hmember' hadds hflip) hstate

theorem lived_ran (os : SocketOS) (clock : Stream' UInt32) (disk : Disk) (ops : List Op) :
    Lived os clock disk (ran os clock disk ops) :=
  ran_keeps os clock disk ops (Lived os clock disk) .refl fun op _ _ hact hm => hm.tail ⟨op,
    trivial, hact⟩

/-- A server that lets the client in and then tells that user 7+1 comes online. -/
def tellingServer : SocketOS :=
  .scripted [[.data loginResponse], [.data userComesOnline]] [.took 54, .took 32]

/-- The client, logged in. -/
def loggedIn : DSNetManager :=
  ran tellingServer (.const 0) .blank [.connectInBackground [], .connectInBackground []]

/-- The client, having called `AddToWWR` for a user and read what the server told. -/
def awaiting (user : Bytes) : DSNetManager := (loggedIn.addToWWR user).2.socketPump.2

theorem acts_awaiting (user : Bytes) :
    ActsOf (· ≠ .removeFromWWR user) (loggedIn.addToWWR user).2 (awaiting user) :=
  .single ⟨.disconnect, (fun h => by cases h),
    .pumped _ _ _ (.socket _ _ (NetNatsueSocket.drifts_pump _))⟩

theorem served_seven : Served (ascii "7+1") true (awaiting (ascii "7+1")).processInputBody.state :=
  (served_iff tellingServer (.const 0) .blank loggedIn _ (ascii "7+1") true [] (lived_ran _ _ _ _)
    (by decide) (acts_awaiting _) (by decide +kernel) (by decide +kernel)
      (by decide +kernel)).mpr (by decide)

/-- Whoever spells the user as 07+1 goes on waiting. -/
theorem not_served_zero :
    ¬ ∀ (os : SocketOS) (clock : Stream' UInt32) (disk : Disk) (m n : DSNetManager)
    (user : Bytes) (online : Bool) (nickName : Bytes), Lived os clock disk m → m.Online →
    (fromString user).1 = true → decimalValue (uidPart user) < 2147483648 →
    decimalValue (hidPart user) < 2147483648 → ActsOf (· ≠ .removeFromWWR user)
      (m.addToWWR user).2 n →
    (fromString user).2 ≠ n.myUserUIN → n.Online →
    n.frontTold = some ((fromString user).2, online, nickName) →
    Served user online n.processInputBody.state := by
  intro hall
  have hserved :=
    hall tellingServer (.const 0) .blank loggedIn (awaiting (ascii "07+1")) (ascii "07+1") true
    [] (lived_ran _ _ _ _) (by decide +kernel) (by decide) (by decide) (by decide) (acts_awaiting _)
    (by decide +kernel) (by decide +kernel) (by decide +kernel)
  exact absurd hserved.ended (by decide +kernel)

end DSNetManager
end NetNatsue
