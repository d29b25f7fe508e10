import NetNatsue.Manager.Pump

/-! Requests to the server: the transaction table, the commands that poll for an answer, and
those that wait for it. -/
namespace NetNatsue

/-- What a poll of a pending query finds. -/
inductive QueryAnswer
  | waiting
  | finished (result : Transaction)
  | timedOut

/-- The four numbers `GetStatus` reports. -/
structure Status where
  timeOnline : Int32
  usersOnline : Int32
  bytesReceived : Int32
  bytesSent : Int32
  deriving DecidableEq, Repr

def Status.offline : Status :=
  { timeOnline := -1, usersOnline := -1, bytesReceived := -1, bytesSent := -1 }

namespace Transaction

/-- A transaction as its caller constructs it. -/
def fresh : Transaction := {}

/-- The nickname a transaction has brought, if it has. -/
def nickName (transaction : Transaction) : Bytes :=
  if transaction.done ∧ transaction.success then transaction.resultString else []

/-- The user a transaction has brought, if it has. -/
def user (transaction : Transaction) : Bytes :=
  if transaction.done ∧ transaction.success then transaction.resultUIN.toString else []

/-- The number of users a transaction has brought, if it has. -/
def usersOnline (transaction : Transaction) : Int32 :=
  if transaction.done ∧ transaction.success then transaction.resultInts[1] else 0

end Transaction

namespace DSNetManager

def setTransaction (m : DSNetManager) (ticket : Int32) (transaction : Option Transaction) :
    DSNetManager :=
  { m with myTransactions := Function.update m.myTransactions ticket transaction }

def startTransaction (m : DSNetManager) (kind : TransactionKind) (fixedExtra : FixedExtra) :
    Int32 × DSNetManager :=
  let t := m.nextTicket
  (t.1, (t.2.setTransaction t.1 (some { kind := kind, fixedExtra := fixedExtra })).emit
    (.started t.1 kind))

/-- An answer that is still owed will be framed by what is kept of the transaction. -/
def abandonTransaction (m : DSNetManager) (ticket : Int32) : DSNetManager :=
  match m.myTransactions ticket with
  | none => m
  | some transaction =>
    m.setTransaction ticket
      (if transaction.done then none else some { transaction with kind := .abandoned })

/-- `none` while the answer is still to come. When the connection was dropped the caller's
transaction stays as it was constructed, neither done nor successful. -/
def pollTransaction (m : DSNetManager) (ticket : Int32) : Option Transaction × DSNetManager :=
  match m.myTransactions ticket with
  | none => (some {}, m)
  | some transaction =>
    if ¬ transaction.done then (none, m) else (some transaction, m.setTransaction ticket none)

theorem pollTransaction_dropped (m : DSNetManager) (ticket : Int32)
    (h : m.myTransactions ticket = none) : m.pollTransaction ticket = (some {}, m) := by
  simp only [pollTransaction, h]

theorem pollTransaction_pending (m : DSNetManager) (ticket : Int32) (transaction : Transaction)
    (h : m.myTransactions ticket = some transaction) (hdone : transaction.done = false) :
    m.pollTransaction ticket = (none, m) := by
  simp [pollTransaction, h, hdone]

theorem pollTransaction_done (m : DSNetManager) (ticket : Int32) (transaction : Transaction)
    (h : m.myTransactions ticket = some transaction) (hdone : transaction.done = true) :
    m.pollTransaction ticket = (some transaction, m.setTransaction ticket none) := by
  simp [pollTransaction, h, hdone]

def setWaiting (m : DSNetManager) (transaction : Option (TransactionKind × Int32)) : DSNetManager :=
  { m with waiting := transaction }

/-- The rounds of `WaitForTransaction`, for as long as the fuel lasts. Waiting for the socket
to become readable only lets time pass. -/
def waitLoop (ticket : Int32) (deadline : UInt32) :
    ℕ → DSNetManager → Option (Bool × Transaction) × DSNetManager
  | 0, m => (none, m)
  | fuel+1, m =>
    let p := m.pump.pollTransaction ticket
    match p.1 with
    | some result => (some (result.done, result), p.2.setWaiting none)
    | none =>
      if ¬ p.2.Online then (some (false, {}), p.2.setWaiting none)
      else
        let t := p.2.nowMs
        if timeAfter t.1 deadline then
          (some (false, {}), (t.2.abandonTransaction ticket).setWaiting none)
        else waitLoop ticket deadline fuel t.2

/-- Whether the transaction completed, and its result; nothing when the fuel runs out. -/
def waitForTransaction (m : DSNetManager) (fuel : ℕ) (kind : TransactionKind) (ticket : Int32)
    (timeoutMs : UInt32) : Option (Bool × Transaction) × DSNetManager :=
  let t := (m.setWaiting (some (kind, ticket))).nowMs
  waitLoop ticket (deadlineIn t.1 timeoutMs) fuel t.2

/-- Ask the server for the connection of a user. -/
def askUserOnline (m : DSNetManager) (fuel : ℕ) (uin : BabelUIN) : Option Bool × DSNetManager :=
  let t := m.startTransaction .connectionDetail noExtra
  let r := t.2.socketWrite (buildGetConnectionDetail m.myServerUIN uin t.1)
  if ¬ r.1 then (some false, r.2.abandonTransaction t.1)
  else
    let w := r.2.waitForTransaction fuel .connectionDetail t.1 userOnlineTimeoutMs
    (w.1.map (fun answer => answer.1 && answer.2.success), w.2)

def isUserOnline (m : DSNetManager) (fuel : ℕ) (user : Bytes) : Option Bool × DSNetManager :=
  let parsed := BabelUIN.fromString user
  if ¬ parsed.1 then (some false, m)
  else if ¬ m.Online then (some false, m)
  else if parsed.2 = m.myUserUIN then (some true, m)
  else
    match m.myPresence user with
    | some presence => (some presence.online, m)
    | none => m.askUserOnline fuel parsed.2

def dsFeedHistory (m : DSNetManager) (fuel : ℕ) (data : Option Bytes) (size : Int32) :
    Option Bool × DSNetManager :=
  match data with
  | none => (some false, m)
  | some bytes =>
    if ¬ m.Online ∨ size ≤ 0 then (some false, m)
    else
      let t := m.startTransaction .feedHistory noExtra
      let r := t.2.socketWrite (buildFeedHistory m.myServerUIN m.myUserUIN t.1 bytes size)
      if ¬ r.1 then (some false, (r.2.abandonTransaction t.1).connectionLost)
      else
        let w := r.2.waitForTransaction fuel .feedHistory t.1 historyTimeoutMs
        (w.1.map (fun answer => answer.1 && answer.2.success), w.2)

/-- Start a transaction and send its request. -/
def startQuery (m : DSNetManager) (kind : TransactionKind) (fixedExtra : FixedExtra)
    (request : Int32 → Bytes) : Option PendingQuery × DSNetManager :=
  let t := m.startTransaction kind fixedExtra
  let now := t.2.nowMs
  let r := now.2.socketWrite (request t.1)
  if ¬ r.1 then (none, r.2.abandonTransaction t.1)
  else (some { ticket := t.1, deadline := deadlineIn now.1 queryTimeoutMs }, r.2)

/-- Look for the answer, and give up at the deadline. -/
def pollQuery (m : DSNetManager) (query : PendingQuery) : QueryAnswer × DSNetManager :=
  let p := m.pollTransaction query.ticket
  match p.1 with
  | some result => (.finished result, p.2)
  | none =>
    let t := p.2.nowMs
    if timeAfter t.1 query.deadline then (.timedOut, t.2.abandonTransaction query.ticket)
    else (.waiting, t.2)

section
variable {β : Type} (f : DSNetManager → β)
  (hset : ∀ m ticket transaction, f (setTransaction m ticket transaction) = f m)
include hset

/-- What does not depend on the table of transactions is left alone when one is given up. -/
theorem abandonTransaction_kept (m : DSNetManager) (ticket : Int32) :
    f (m.abandonTransaction ticket) = f m := by
  unfold abandonTransaction
  cases m.myTransactions ticket with
  | none => rfl
  | some transaction => exact hset m ticket _

theorem pollTransaction_kept (m : DSNetManager) (ticket : Int32) :
    f (m.pollTransaction ticket).2 = f m := by
  unfold pollTransaction
  cases m.myTransactions ticket with
  | none => rfl
  | some transaction =>
    simp only
    split_ifs
    · exact hset m ticket none
    · rfl

theorem pollQuery_kept (hnow : ∀ m, f (nowMs m).2 = f m) (m : DSNetManager) (query : PendingQuery) :
    f (m.pollQuery query).2 = f m := by
  have hpoll := pollTransaction_kept f hset m query.ticket
  unfold pollQuery
  cases hanswer : (m.pollTransaction query.ticket).1 with
  | some result =>
    simp only [hanswer]
    exact hpoll
  | none =>
    simp only [hanswer]
    split_ifs
    · rw [abandonTransaction_kept f hset, hnow, hpoll]
    · rw [hnow, hpoll]

end

def setFetch (m : DSNetManager) (user : Bytes) (query : Option PendingQuery) : DSNetManager :=
  { m with myPendingUserFetches := Function.update m.myPendingUserFetches user query }

def setRandom (m : DSNetManager) (query : PendingQuery) : DSNetManager :=
  { m with myRandomUserQuery := query }

def setStatus (m : DSNetManager) (query : PendingQuery) : DSNetManager :=
  { m with myStatusQuery := query }

/-- Remember a nickname for anyone watching the user. -/
def rememberNickName (m : DSNetManager) (user nickName : Bytes) : DSNetManager :=
  match m.myPresence user with
  | none => m
  | some presence =>
    if nickName = [] then m
    else
      { m with
        myPresence :=
          Function.update m.myPresence user (some { presence with nickName := nickName }) }

/-- The first call of `FetchUserData` for a user. -/
def startFetch (m : DSNetManager) (user : Bytes) (uin : BabelUIN) : (Bytes × Bool) × DSNetManager :=
  if ¬ m.Online then (([], false), m)
  else
    let r := m.startQuery .clientInfo noExtra (buildGetClientInfo m.myServerUIN uin)
    match r.1 with
    | none => (([], false), r.2)
    | some query => (([], true), r.2.setFetch user (some query))

/-- A later call, behind its `Pump`. -/
def pollFetch (m : DSNetManager) (user : Bytes) (query : PendingQuery) :
    (Bytes × Bool) × DSNetManager :=
  let p := m.pollQuery query
  match p.1 with
  | .finished result =>
    let m := p.2.setFetch user none
    if result.done ∧ result.success then
      ((result.resultString, false), m.rememberNickName user result.resultString)
    else (([], false), m)
  | .timedOut => (([], false), p.2.setFetch user none)
  | .waiting => (([], true), p.2)

/-- The nickname, and whether to call again. -/
def fetchUserData (m : DSNetManager) (user : Bytes) : (Bytes × Bool) × DSNetManager :=
  let parsed := BabelUIN.fromString user
  if ¬ parsed.1 then (([], false), m)
  else
    match m.myPendingUserFetches user with
    | none => m.startFetch user parsed.2
    | some query => m.pump.pollFetch user query

def startRandom (m : DSNetManager) : (Bytes × Bool) × DSNetManager :=
  if ¬ m.Online then (([], false), m)
  else
    let r := m.startQuery .randomUser noExtra (buildFetchRandomUser m.myServerUIN m.myUserUIN)
    match r.1 with
    | none => (([], false), r.2.setRandom {})
    | some query => (([], true), r.2.setRandom query)

def pollRandom (m : DSNetManager) : (Bytes × Bool) × DSNetManager :=
  let p := m.pollQuery m.myRandomUserQuery
  match p.1 with
  | .finished result =>
    ((if result.done ∧ result.success then result.resultUIN.toString else [], false),
      p.2.setRandom {})
  | .timedOut => (([], false), p.2.setRandom {})
  | .waiting => (([], true), p.2)

/-- The user, and whether to call again. -/
def dsFetchRandomUser (m : DSNetManager) : (Bytes × Bool) × DSNetManager :=
  if m.myRandomUserQuery.ticket = 0 then m.startRandom else m.pump.pollRandom

/-- `DSFetchRandomUser` without `block`, for as many polls as the fuel allows. -/
def dsFetchRandomUserNow : ℕ → DSNetManager → Option Bytes × DSNetManager
  | 0, m => (none, m)
  | fuel+1, m =>
    let r := m.dsFetchRandomUser
    if ¬ r.1.2 then (some r.1.1, r.2) else dsFetchRandomUserNow fuel r.2

/-- Time online and byte counts are things this end knows better than the server. -/
def report (m : DSNetManager) (usersOnline : Int32) : Status × DSNetManager :=
  let t := m.nowMs
  ({ timeOnline := (t.1 - m.myConnectedAtMs).toInt32
     usersOnline := usersOnline
     bytesReceived := m.mySocket.myBytesReceived
     bytesSent := m.mySocket.myBytesSent }, t.2)

/-- Drop a pending status query. -/
def cancelStatus (m : DSNetManager) : DSNetManager :=
  if m.myStatusQuery.ticket ≠ 0 then (m.abandonTransaction m.myStatusQuery.ticket).setStatus {}
  else m

def startStatus (m : DSNetManager) : (Option Status × Bool) × DSNetManager :=
  let r := m.startQuery .status statusExtra (buildGetStatus m.myServerUIN)
  match r.1 with
  | none => ((none, false), r.2.setStatus {})
  | some query => ((none, true), r.2.setStatus query)

def pollStatus (m : DSNetManager) : (Option Status × Bool) × DSNetManager :=
  let p := m.pollQuery m.myStatusQuery
  match p.1 with
  | .finished result =>
    let s :=
      (p.2.setStatus {}).report (if result.done ∧ result.success then result.resultInts[1] else 0)
    ((some s.1, false), s.2)
  | .timedOut =>
    let s := (p.2.setStatus {}).report 0
    ((some s.1, false), s.2)
  | .waiting => ((none, true), p.2)

/-- The numbers, if the call assigns them, and whether to call again. -/
def getStatus (m : DSNetManager) : (Option Status × Bool) × DSNetManager :=
  if ¬ m.Online then ((some .offline, false), m.cancelStatus)
  else if m.myStatusQuery.ticket = 0 then m.startStatus
  else m.pump.pollStatus

def setWWRAdd (m : DSNetManager) (user : Bytes) (deadline : UInt32) : DSNetManager :=
  { m with myPendingWWRAdds := Function.update m.myPendingWWRAdds user (some deadline) }

/-- The first call of `AddToWWR`: when the state of the user is known there is nothing to
wait for. -/
def startAdd (m : DSNetManager) (user : Bytes) (uin : BabelUIN) : Bool × DSNetManager :=
  let alreadyKnown := (m.myPresence user).isSome
  let r := m.socketWrite (buildWWRModify true m.myServerUIN uin)
  if ¬ r.1 then (false, r.2)
  else if alreadyKnown then (false, r.2)
  else
    let t := r.2.nowMs
    (true, t.2.setWWRAdd user (deadlineIn t.1 wwrAddTimeoutMs))

/-- A later call, behind its `Pump`. A server that never answers probably does not know the
user. -/
def pollAdd (m : DSNetManager) (user : Bytes) : Bool × DSNetManager :=
  match m.myPendingWWRAdds user with
  | none => (false, m)
  | some deadline =>
    let t := m.nowMs
    if timeAfter t.1 deadline then (false, t.2.endWWRAdd user) else (true, t.2)

/-- What `AddToWWR` does for a user whose id parses. -/
def addUser (m : DSNetManager) (user : Bytes) (uin : BabelUIN) : Bool × DSNetManager :=
  if ¬ m.Online then (false, m)
  else
    match m.myPendingWWRAdds user with
    | none => m.startAdd user uin
    | some _ => m.pump.pollAdd user

/-- Whether to call again. -/
def addToWWR (m : DSNetManager) (user : Bytes) : Bool × DSNetManager :=
  let parsed := BabelUIN.fromString user
  if ¬ parsed.1 then (false, m)
  else
    let r := (m.watch user).addUser user parsed.2
    (r.1, r.2.emit (.added user r.1))

/-- The last event of the call tells what it returns, if the id parses. -/
theorem addToWWR_added (m : DSNetManager) (user : Bytes)
    (hvalid : (BabelUIN.fromString user).1 = true) :
    (m.addToWWR user).2.trace.getLast? = some (.added user (m.addToWWR user).1) := by
  simp only [addToWWR, if_neg (not_not_intro hvalid), emit_trace, List.getLast?_concat]

end DSNetManager
end NetNatsue
