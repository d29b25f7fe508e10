import NetNatsue.Manager.State

/-! Presence and the whose-wanted register: what is known of other users, who is watched,
and which changes are still to be reported. -/
namespace NetNatsue.DSNetManager

/-- What is recorded of a user, offline without a name if nothing is. -/
def presenceOf (m : DSNetManager) (key : Bytes) : Presence := (m.myPresence key).getD {}

def recordPresence (m : DSNetManager) (key : Bytes) (online : Bool) (nickName : Bytes) :
    DSNetManager :=
  { m with
    myPresence := Function.update m.myPresence key
      (some
        { online := online
          nickName := if nickName = [] then (m.presenceOf key).nickName else nickName }) }

/-- A pending NET: WHON for the user is over. -/
def endWWRAdd (m : DSNetManager) (key : Bytes) : DSNetManager :=
  { m with myPendingWWRAdds := Function.update m.myPendingWWRAdds key none }

/-- Queue a watched user for `NextChangedUserWWR`, once. -/
def queueChange (m : DSNetManager) (key : Bytes) : DSNetManager :=
  if key ∈ m.myChangedUsers then m else { m with myChangedUsers := m.myChangedUsers ++ [key] }

def updatePresence (m : DSNetManager) (uin : BabelUIN) (online : Bool) (nickName : Bytes) :
    DSNetManager :=
  let key := uin.toString
  let changed := (m.presenceOf key).online ≠ online
  -- a pending NET: WHON reports the state itself
  if (m.myPendingWWRAdds key).isSome then (m.recordPresence key online nickName).endWWRAdd key
  else if changed ∧ key ∈ m.myWWRMembers then (m.recordPresence key online nickName).queueChange key
  else m.recordPresence key online nickName

/-- Next to the record of the user, only the queue and the waits of `AddToWWR` can change. -/
theorem updatePresence_frame (m : DSNetManager) (uin : BabelUIN) (online : Bool)
    (nickName : Bytes) :
    ∃ changed adds, m.updatePresence uin online nickName =
      { m with
        myPresence := (m.recordPresence uin.toString online nickName).myPresence
        myChangedUsers := changed
        myPendingWWRAdds := adds } := by
  simp only [updatePresence, queueChange]
  split_ifs <;> exact ⟨_, _, rfl⟩

/-- A change of a member who is not waited for is queued. -/
theorem updatePresence_flip (m : DSNetManager) (uin : BabelUIN) (online : Bool) (nickName : Bytes)
    (hmember : uin.toString ∈ m.myWWRMembers) (hadds : m.myPendingWWRAdds uin.toString = none)
    (hflip : online ≠ (m.presenceOf uin.toString).online) :
    uin.toString ∈ (m.updatePresence uin online nickName).myChangedUsers := by
  have hchanged : (m.presenceOf uin.toString).online ≠ online ∧ uin.toString ∈ m.myWWRMembers :=
    ⟨hflip.symm, hmember⟩
  simp only [updatePresence, hadds, Option.isSome_none, Bool.false_eq_true, if_false,
    if_pos hchanged, queueChange]
  split_ifs with hqueued
  · exact hqueued
  · exact List.mem_append_right _ (List.mem_singleton_self _)

def markEveryoneOffline (m : DSNetManager) : DSNetManager :=
  { m with
    myPresence :=
      fun key => (m.myPresence key).map (fun presence => { presence with online := false })
    myChangedUsers := []
    myPendingWWRAdds := fun _ => none }

def watch (m : DSNetManager) (user : Bytes) : DSNetManager :=
  { m with myWWRMembers := insert user m.myWWRMembers }

/-- Users whose id does not parse are passed over; the first failed write ends the loop. -/
def sendWWRRegistrations : List Bytes → DSNetManager → DSNetManager
  | [], m => m
  | user :: users, m =>
    let parsed := BabelUIN.fromString user
    if ¬ parsed.1 then sendWWRRegistrations users m
    else
      let m := (m.watch user).emit (.registered user)
      let r := m.socketWrite (buildWWRModify true m.myServerUIN parsed.2)
      if ¬ r.1 then r.2 else sendWWRRegistrations users r.2

/-- What neither the register nor a write touches, the registrations leave alone. -/
theorem sendWWRRegistrations_kept {β : Type} (f : DSNetManager → β)
    (hwatch : ∀ m user, f ((m.watch user).emit (.registered user)) = f m)
    (hwrite : ∀ m packet, f (m.socketWrite packet).2 = f m) (users : List Bytes)
    (m : DSNetManager) :
    f (sendWWRRegistrations users m) = f m := by
  induction users generalizing m with
  | nil => rfl
  | cons user users ih =>
    simp only [sendWWRRegistrations]
    split_ifs
    · rw [ih, hwrite, hwatch]
    · rw [hwrite, hwatch]
    · exact ih m

/-- What an entry in the register and a registration on the line keep, all registrations keep. -/
theorem sendWWRRegistrations_keeps (p : DSNetManager → Prop) (users : List Bytes)
    (m : DSNetManager) (h : p m)
    (hwatch : ∀ n user, p n → p ((n.watch user).emit (.registered user)))
    (hwrite : ∀ n target, p n → p (n.socketWrite (buildWWRModify true n.myServerUIN target)).2) :
    p (sendWWRRegistrations users m) := by
  induction users generalizing m with
  | nil => exact h
  | cons user users ih =>
    have hentry := hwrite _ (BabelUIN.fromString user).2 (hwatch m user h)
    simp only [sendWWRRegistrations]
    split_ifs
    · exact ih _ hentry
    · exact hentry
    · exact ih m h

def forgetUser (m : DSNetManager) (user : Bytes) : DSNetManager :=
  { m with
    myWWRMembers := m.myWWRMembers.erase user
    myPendingWWRAdds := Function.update m.myPendingWWRAdds user none
    myPresence := Function.update m.myPresence user none }.emit (.removed user)

def removeFromWWR (m : DSNetManager) (user : Bytes) : DSNetManager :=
  let m := m.forgetUser user
  let parsed := BabelUIN.fromString user
  if ¬ parsed.1 then m
  else if ¬ m.Online then m
  else (m.socketWrite (buildWWRModify false m.myServerUIN parsed.2)).2

/-- The user and the state reported, if any. -/
def nextChangedUserWWR (m : DSNetManager) : Option (Bytes × Bool) × DSNetManager :=
  match m.myChangedUsers with
  | [] => (none, m)
  | user :: users =>
    let online := match m.myPresence user with
      | some presence => presence.online
      | none => false
    (some (user, online), { m with myChangedUsers := users }.emit (.yielded user online))

/-- What the call reports is on record, and nothing else is. -/
theorem nextChangedUserWWR_yielded (m : DSNetManager) :
    m.nextChangedUserWWR.2.trace =
      m.trace ++ m.nextChangedUserWWR.1.toList.map fun reported => .yielded reported.1
        reported.2 := by
  unfold nextChangedUserWWR
  cases m.myChangedUsers with
  | nil => exact (List.append_nil _).symm
  | cons user users => rfl

end NetNatsue.DSNetManager
