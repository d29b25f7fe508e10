import NetNatsue.Manager.Queries

/-! Messages, the inbox and the outbox, and the tick. -/
namespace NetNatsue.DSNetManager

/-- The packet of a direct message. -/
def messagePacket (m : DSNetManager) (user data : Bytes) (size : Int32) : Bytes :=
  buildMessage m.myServerUIN m.myUserUIN (BabelUIN.fromString user).2 data size

def postDirectMessage (m : DSNetManager) (user data : Bytes) (size : Int32) : Bool × DSNetManager :=
  if ¬ (BabelUIN.fromString user).1 then (false, m)
  else if ¬ m.Online ∨ size < 0 then (false, m)
  else
    let r := m.socketWrite (m.messagePacket user data size)
    if ¬ r.1 then (false, r.2.connectionLost) else (true, r.2)

/-- Hand over and forget the messages that came in. -/
def collect (m : DSNetManager) : List IncomingMessage × DSNetManager :=
  (m.myIncomingMessages,
    { m with myIncomingMessages := [] }.emit (.collected m.myIncomingMessages))

def getMessages (m : DSNetManager) : List IncomingMessage × DSNetManager := m.pump.collect

def setOutboxDirectory (m : DSNetManager) (dir : Bytes) : DSNetManager :=
  { m with myOutboxDirectory := ensureTrailingSeparator dir, myOutboxDirty := true }

def setInboxDirectory (m : DSNetManager) (dir : Bytes) : DSNetManager :=
  { m with myInboxDirectory := ensureTrailingSeparator dir }

/-- Empty for an id that does not parse or without an outbox; nothing when every serial is
taken and the search does not end. -/
def returnUniqueOutboxFilename (m : DSNetManager) (userID : Bytes) : Option Bytes × DSNetManager :=
  let target := BabelUIN.fromString userID
  if ¬ target.1 then (some [], m)
  else if m.myOutboxDirectory = [] then (some [], m)
  else
    let t := m.disk.time
    match freeSpoolPath t.2 m.myOutboxDirectory target.2 serialCount t.1 with
    | none => (none, { m with disk := t.2 })
    | some path => (some path, { m with disk := t.2, myOutboxDirty := true })

def findUserWhoSentFile (file : Bytes) : Bytes := userFromSpoolName (baseName file)

/-- A file that is not addressed is renamed out of the outbox scan. -/
def setAside (m : DSNetManager) (path : Bytes) : DSNetManager :=
  { m with disk := ((m.disk.remove (path ++ ascii ".bad")).rename path (path ++ ascii ".bad")).2 }

/-- A message header saying "PRAY file", and the file itself. -/
def prayPayload (contents : Bytes) : Bytes :=
  putInt 12 ++ putInt mesgPrayFile ++ putInt 0 ++ contents

/-- Post a file and remove it. The packet starts behind everything accepted and queued so
far on its connection. -/
def postFile (m : DSNetManager) (path target payload : Bytes) : Bool × DSNetManager :=
  let r := m.postDirectMessage target payload (sizeInt payload)
  if ¬ r.1 then r
  else
    (true, (r.2.onDisk (r.2.disk.remove path)).emit
      (.posted path m.mySocket.os.connection m.mySocket.line.length
        (m.messagePacket target payload (sizeInt payload))))

/-- `false` when the outbox scan is to stop. -/
def sendOutboxFile (m : DSNetManager) (path : Bytes) : Bool × DSNetManager :=
  let target := userFromSpoolName (baseName path)
  if target = [] then (true, m.setAside path)
  else
    let read := m.disk.readWholeFile path
    match read.1 with
    -- maybe still being written, try again later
    | none => (true, { m with disk := read.2 })
    | some contents => { m with disk := read.2 }.postFile path target (prayPayload contents)

/-- The files of one scan, while online. -/
def sendOutboxFiles : List Bytes → DSNetManager → DSNetManager
  | [], m => m
  | name :: names, m =>
    if ¬ m.Online then m
    else
      let r := m.sendOutboxFile (m.myOutboxDirectory ++ name)
      if ¬ r.1 then r.2 else sendOutboxFiles names r.2

def scanOutbox (m : DSNetManager) : DSNetManager :=
  if m.myOutboxDirectory = [] then m
  else
    let t := m.nowMs
    if ¬ m.myOutboxDirty ∧ ¬ timeAfter t.1 m.myNextOutboxScan then t.2
    else
      let names := t.2.disk.listFilesWithExtension (ascii ".warp")
      sendOutboxFiles names.1
        { t.2 with
          disk := names.2
          myOutboxDirty := false
          myNextOutboxScan := deadlineIn t.1 outboxRescanMs }

def queueMessage (m : DSNetManager) (message : QueuedMessage) : DSNetManager :=
  { m with myQueuedMessages := m.myQueuedMessages ++ [message] }

/-- `send` is what the message's own `Send`, engine code, does with the manager. -/
def processQueuedMessages (m : DSNetManager) (send : QueuedMessage → DSNetManager → DSNetManager) :
    DSNetManager :=
  match m.myQueuedMessages with
  | [] => m
  | message :: messages => send message { m with myQueuedMessages := messages }

/-- The end of a tick. -/
def scanIfOnline (m : DSNetManager) : DSNetManager := if m.Online then m.scanOutbox else m

/-- A scan now would read the outbox. -/
def Scans (m : DSNetManager) : Prop :=
  m.Online ∧ m.myOutboxDirectory ≠ [] ∧
    (m.myOutboxDirty = true ∨ timeAfter m.clock.head m.myNextOutboxScan = true)

instance (m : DSNetManager) : Decidable m.Scans := inferInstanceAs (Decidable (_ ∧ _ ∧ _))

/-- A scan that looks lists the files and sends them, and sets the time of the next look. -/
theorem scanIfOnline_scans {m : DSNetManager} (h : m.Scans) :
    m.scanIfOnline = sendOutboxFiles (m.nowMs.2.disk.listFilesWithExtension (ascii ".warp")).1
      { m.nowMs.2 with
        disk := (m.nowMs.2.disk.listFilesWithExtension (ascii ".warp")).2
        myOutboxDirty := false
        myNextOutboxScan := deadlineIn m.clock.head outboxRescanMs } := by
  obtain ⟨honline, houtbox, hdue⟩ := h
  have hnow : ¬ (¬ m.myOutboxDirty = true ∧ ¬ timeAfter m.nowMs.1 m.myNextOutboxScan = true) := by
    intro hneither
    exact hdue.elim hneither.1 hneither.2
  unfold scanIfOnline scanOutbox
  rw [if_pos honline, if_neg houtbox]
  simp only
  rw [if_neg hnow]
  rfl

/-- One that does not look does nothing, or reads the clock. -/
theorem scanIfOnline_passes {m : DSNetManager} (h : ¬ m.Scans) :
    m.scanIfOnline = m ∨ m.scanIfOnline = m.nowMs.2 := by
  unfold scanIfOnline scanOutbox
  by_cases honline : m.Online
  · rw [if_pos honline]
    by_cases houtbox : m.myOutboxDirectory = []
    · rw [if_pos houtbox]
      exact Or.inl rfl
    · have hnow : ¬ m.myOutboxDirty = true ∧ ¬ timeAfter m.nowMs.1 m.myNextOutboxScan = true :=
        ⟨fun hdirty => h ⟨honline, houtbox, Or.inl hdirty⟩, fun hlate => h ⟨honline, houtbox,
          Or.inr hlate⟩⟩
      rw [if_neg houtbox]
      simp only
      rw [if_pos hnow]
      exact Or.inr rfl
  · rw [if_neg honline]
    exact Or.inl rfl

def sendOrdinaryMessages (m : DSNetManager) (send : QueuedMessage → DSNetManager → DSNetManager) :
    DSNetManager :=
  (m.pump.processQueuedMessages send).scanIfOnline

end NetNatsue.DSNetManager
