import Mathlib.Data.Stream.Init
import Mathlib.Logic.Function.Basic
import Mathlib.Data.List.DropRight
import NetNatsue.Protocol.Identity

/-! The file system under the inbox and the outbox, and the names of spool files. -/
namespace NetNatsue

/-- Files by path. `outcomes` tells in turn whether the file operations that can fail
succeed, `listings` what `readdir()` yields, `seconds` what `time(NULL)` returns. -/
structure Disk where
  files : Bytes → Option Bytes
  outcomes : Stream' Bool
  listings : Stream' (List Bytes)
  seconds : Stream' UInt32

namespace Disk

/-- An empty disk on which everything succeeds, at the beginning of time. -/
def blank : Disk :=
  { files := fun _ => none, outcomes := .const true, listings := .const [], seconds := .const 0 }

def outcome (d : Disk) : Bool × Disk := (d.outcomes.head, { d with outcomes := d.outcomes.tail })

def time (d : Disk) : UInt32 × Disk := (d.seconds.head, { d with seconds := d.seconds.tail })

def put (d : Disk) (path : Bytes) (contents : Option Bytes) : Disk :=
  { d with files := Function.update d.files path contents }

def fileExists (d : Disk) (path : Bytes) : Bool := (d.files path).isSome

def readWholeFile (d : Disk) (path : Bytes) : Option Bytes × Disk :=
  let (ok, d) := d.outcome
  (if ok then d.files path else none, d)

def remove (d : Disk) (path : Bytes) : Disk :=
  let (ok, d) := d.outcome
  if ok then d.put path none else d

def rename (d : Disk) (source target : Bytes) : Bool × Disk :=
  let (ok, d) := d.outcome
  match d.files source with
  | none => (false, d)
  | some contents =>
    if ok then (true, (d.put target (some contents)).put source none) else (false, d)

/-- A write that fails leaves the temporary file empty before it is removed. -/
def writeWholeFileAtomic (d : Disk) (path contents : Bytes) : Bool × Disk :=
  let tempPath := path ++ ascii ".tmp"
  let (opened, d) := d.outcome
  if ¬ opened then (false, d)
  else
    let (written, d) := d.outcome
    if ¬ written then (false, (d.put tempPath (some [])).remove tempPath)
    else
      let d := (d.put tempPath (some contents)).remove path
      let (renamed, d) := d.rename tempPath path
      if ¬ renamed then (false, d.remove tempPath) else (true, d)

/-- Names of the files with the given extension, in the order of the directory. -/
def listFilesWithExtension (d : Disk) (extension : Bytes) : List Bytes × Disk :=
  (d.listings.head.filter (fun name =>
      name.length > extension.length ∧ name.drop (name.length - extension.length) = extension),
    { d with listings := d.listings.tail })

end Disk

def slash : UInt8 := 47
def backslash : UInt8 := 92
def dash : UInt8 := 45
def dot : UInt8 := 46

def ensureTrailingSeparator (directory : Bytes) : Bytes :=
  match directory.getLast? with
  | none => directory
  | some last => if last = slash ∨ last = backslash then directory else directory ++ [slash]

/-- Everything behind the last separator. -/
def baseName (path : Bytes) : Bytes :=
  path.rtakeWhile (fun c => c ≠ slash ∧ c ≠ backslash)

/-- The position of the last occurrence. -/
def rfind (name : Bytes) (c : UInt8) : Option ℕ :=
  (name.reverse.findIdx? (· = c)).map (fun i => name.length - 1 - i)

/-- The user id in a name of the form `<serial>T-<uid>+<hid>.<extension>`, empty if there
is none. -/
def userFromSpoolName (name : Bytes) : Bytes :=
  match rfind name dot, rfind name dash with
  | some lastDot, some lastDash =>
    if lastDash + 1 ≥ lastDot then []
    else
      let user := (name.drop (lastDash+1)).take (lastDot - lastDash - 1)
      if (BabelUIN.fromString user).1 then user else []
  | _, _ => []

/-- `"%uT-%d+%d.warp"`. -/
def spoolName (serial : UInt32) (user : BabelUIN) : Bytes :=
  formatUnsigned serial.toNat ++ ascii "T-" ++ formatInt user.uid ++ ascii "+" ++ formatInt user.hid
    ++ ascii ".warp"

/-- Search upwards from a serial for a name that is not taken; `none` when all the given
number of serials are. -/
def freeSpoolPath (d : Disk) (directory : Bytes) (user : BabelUIN) : ℕ → UInt32 → Option Bytes
  | 0, _ => none
  | n+1, serial =>
    let path := directory ++ spoolName serial user
    if ¬ d.fileExists path then some path else freeSpoolPath d directory user n (serial+1)

/-- The serial is a 32-bit number, so after that many steps the search starts over. -/
def serialCount : ℕ := 4294967296

/-- Store a received file under a free name, if there is an inbox. With every serial taken
the search for a name would not end. -/
def Disk.spool (d : Disk) (inbox : Bytes) (sender : BabelUIN) (payload : Bytes) : Disk :=
  if inbox = [] then d
  else
    let t := d.time
    match freeSpoolPath t.2 inbox sender serialCount t.1 with
    | none => t.2
    | some path => (t.2.writeWholeFileAtomic path payload).2

example : userFromSpoolName (spoolName 17 ⟨3, 1⟩) = ascii "3+1" := by decide

example : baseName (ascii "out\\a/b.warp") = ascii "b.warp" := by decide

end NetNatsue
