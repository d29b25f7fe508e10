import NetNatsue.Manager.Pumping

/-! Runs of calls. The engine makes calls in any order; a run follows them one by one. -/
namespace NetNatsue

/-- The calls that can change the manager. `SendOrdinaryMessages` is two of them: `tick`, up to
the point where it calls the `Send` of a queued message, and `scan`, the rest. The calls that
`Send` makes stand between the two. The two calls that wait for an answer have a bound on
their rounds. `environment` is no call: files come and go. -/
inductive Op
  | overrideHost (host : Bytes) (port : Int32)
  | setClientMode (mode : ClientMode)
  | setUser (nickname password : Bytes)
  | setServerList (servers : List CBabelServerInfo)
  | setOutboxDirectory (dir : Bytes)
  | setInboxDirectory (dir : Bytes)
  | connectInBackground (usersForWWR : List Bytes)
  | disconnect
  | tick
  | scan
  | isUserOnline (fuel : ℕ) (user : Bytes)
  | addToWWR (user : Bytes)
  | removeFromWWR (user : Bytes)
  | nextChangedUserWWR
  | fetchUserData (user : Bytes)
  | dsFetchRandomUser
  | getStatus
  | postDirectMessage (user data : Bytes) (size : Int32)
  | getMessages
  | returnUniqueOutboxFilename (user : Bytes)
  | queueMessage (message : QueuedMessage)
  | dsFeedHistory (fuel : ℕ) (data : Option Bytes) (size : Int32)
  | environment (disk : Disk)

open DSNetManager

/-- The calls that wait for their answer. -/
def Op.waits : Op → Bool
  | .isUserOnline _ _ | .dsFeedHistory _ _ _ => true
  | _ => false

/-- The calls that set something for later. -/
def Op.configures : Op → Bool
  | .overrideHost _ _ | .setClientMode _ | .setUser _ _ | .setServerList _ | .setOutboxDirectory _
  | .setInboxDirectory _ | .queueMessage _ | .environment _ => true
  | _ => false

/-- Whether the call returned, and the state. -/
def Op.run (m : DSNetManager) : Op → Bool × DSNetManager
  | .overrideHost host port => (true, m.overrideHost host port)
  | .setClientMode mode => (true, m.setClientMode mode)
  | .setUser nickname password => (true, m.setUser nickname password)
  | .setServerList servers => (true, m.setServerList servers)
  | .setOutboxDirectory dir => (true, m.setOutboxDirectory dir)
  | .setInboxDirectory dir => (true, m.setInboxDirectory dir)
  | .connectInBackground usersForWWR => (true, (m.connectInBackground usersForWWR).2)
  | .disconnect => (true, m.disconnect)
  | .tick => (true, m.pump.processQueuedMessages (fun _ n => n))
  | .scan => (true, m.scanIfOnline)
  | .isUserOnline fuel user => ((m.isUserOnline fuel user).1.isSome, (m.isUserOnline fuel user).2)
  | .addToWWR user => (true, (m.addToWWR user).2)
  | .removeFromWWR user => (true, m.removeFromWWR user)
  | .nextChangedUserWWR => (true, m.nextChangedUserWWR.2)
  | .fetchUserData user => (true, (m.fetchUserData user).2)
  | .dsFetchRandomUser => (true, m.dsFetchRandomUser.2)
  | .getStatus => (true, m.getStatus.2)
  | .postDirectMessage user data size => (true, (m.postDirectMessage user data size).2)
  | .getMessages => (true, m.getMessages.2)
  | .returnUniqueOutboxFilename user => (true, (m.returnUniqueOutboxFilename user).2)
  | .queueMessage message => (true, m.queueMessage message)
  | .dsFeedHistory fuel data size =>
    ((m.dsFeedHistory fuel data size).1.isSome, (m.dsFeedHistory fuel data size).2)
  | .environment disk => (true, m.onDisk disk)

/-- Calls one after another; a call that does not return is the last. -/
def runOps : List Op → DSNetManager → Bool × DSNetManager
  | [], m => (true, m)
  | op :: ops, m =>
    let r := op.run m
    if r.1 then runOps ops r.2 else (false, r.2)

theorem runOps_append (ops more : List Op) (m : DSNetManager) :
    runOps (ops ++ more) m =
      if (runOps ops m).1 then runOps more (runOps ops m).2 else (false, (runOps ops m).2) := by
  induction ops generalizing m with
  | nil => rfl
  | cons op ops ih =>
    simp only [List.cons_append, runOps]
    by_cases hreturned : (op.run m).1
    · simp only [hreturned, ↓reduceIte, ih]
    · simp only [hreturned, Bool.false_eq_true, ↓reduceIte]

namespace DSNetManager

/-- A tick whose queued message makes the given calls. -/
theorem sendOrdinaryMessages_runOps (m : DSNetManager) (ops : List Op)
    (hqueue : m.pump.myQueuedMessages = [] → ops = [])
    (hreturn : (runOps ops (m.pump.processQueuedMessages (fun _ n => n))).1 = true) :
    runOps (.tick :: ops ++ [.scan]) m =
      (true, m.sendOrdinaryMessages (fun _ n => (runOps ops n).2)) := by
  have hsend : m.pump.processQueuedMessages (fun _ n => (runOps ops n).2) =
      (runOps ops (m.pump.processQueuedMessages (fun _ n => n))).2 := by
    unfold processQueuedMessages
    cases hmessages : m.pump.myQueuedMessages with
    | nil =>
      rw [hqueue hmessages]
      rfl
    | cons message messages => rfl
  rw [List.cons_append, runOps]
  simp only [Op.run, ↓reduceIte]
  rw [runOps_append, if_pos hreturn, sendOrdinaryMessages, hsend]
  rfl

/-- The blocking `Connect` polls the way any caller does. -/
theorem connect_runOps (fuel : ℕ) (m : DSNetManager) :
    ∃ n, runOps (List.replicate n (.connectInBackground [])) m = (true, (m.connect fuel).2) := by
  induction fuel generalizing m with
  | zero => exact ⟨0, rfl⟩
  | succ fuel ih =>
    simp only [connect]
    split_ifs
    · obtain ⟨n, hn⟩ := ih (m.connectInBackground []).2
      exact ⟨n+1, hn⟩
    · exact ⟨1, rfl⟩

/-- So does `DSFetchRandomUser` without `block`. -/
theorem dsFetchRandomUserNow_runOps (fuel : ℕ) (m : DSNetManager) :
    ∃ n, runOps (List.replicate n .dsFetchRandomUser) m = (true,
      (dsFetchRandomUserNow fuel m).2) := by
  induction fuel generalizing m with
  | zero => exact ⟨0, rfl⟩
  | succ fuel ih =>
    simp only [dsFetchRandomUserNow]
    split_ifs
    · obtain ⟨n, hn⟩ := ih m.dsFetchRandomUser.2
      exact ⟨n+1, hn⟩
    · exact ⟨1, rfl⟩

end DSNetManager
end NetNatsue
