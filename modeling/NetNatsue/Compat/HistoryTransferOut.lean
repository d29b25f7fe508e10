import NetNatsue.Protocol.Decoding

/-! The history of a creature as the blob that the history feed of the server expects. -/
namespace NetNatsue
open Codec

/-- The numbers of the engine's `CreatureHistory` that are sent. -/
structure CreatureHistory where
  myGender : Int32
  myGenus : Int32
  myVariant : Int32
  myCrossoverMutationCount : Int32
  myCrossoverCrossCount : Int32
  deriving DecidableEq

/-- The fields of the engine's `LifeEvent` that are sent. -/
structure LifeEvent where
  myEventType : Int32
  myWorldTick : Int32
  myAgeInTicks : Int32
  myRealWorldTime : Int32
  myLifeStage : Int32
  myRelatedMoniker1 : Bytes
  myRelatedMoniker2 : Bytes
  myWorldName : Bytes
  myWorldUniqueIdentifier : Bytes
  myNetworkUser : Bytes
  deriving DecidableEq

structure HistoryTransferOut where
  myMoniker : Bytes := []
  myHaveCreatureState : Bool := false
  myGender : Int32 := 0
  myGenus : Int32 := 0
  myVariant : Int32 := 0
  myPointMutations : Int32 := 0
  myCrossoverPoints : Int32 := 0
  myLifeEventsToSend : List LifeEvent := []
  mySolidIndices : List Int32 := []
  myName : Bytes := []
  myUserTexts : List Bytes := []
  myUserTextIndices : List Int32 := []
  mySerialised : Bool := false
  myBuffer : Bytes := []

/-- The length and the bytes, without a terminator. -/
def putString (str : Bytes) : Bytes := putInt (sizeInt str) ++ str

/-- What is sent of a life event, the index behind its strings. -/
def putLifeEvent (event : LifeEvent) (solidIndex : Int32) : Bytes :=
  putInt event.myEventType ++ putInt event.myWorldTick ++ putInt event.myAgeInTicks
    ++ putInt event.myRealWorldTime ++ putInt event.myLifeStage
    ++ putString event.myRelatedMoniker1 ++ putString event.myRelatedMoniker2
    ++ putString event.myWorldName ++ putString event.myWorldUniqueIdentifier
    ++ putString event.myNetworkUser ++ putInt solidIndex

namespace HistoryTransferOut

def writeMoniker (h : HistoryTransferOut) (moniker : Bytes) : HistoryTransferOut :=
  { h with myMoniker := moniker }

def writeCreatureHistory (h : HistoryTransferOut) (history : CreatureHistory) :
    HistoryTransferOut :=
  { h with
    myHaveCreatureState := true
    myGender := history.myGender
    myGenus := history.myGenus
    myVariant := history.myVariant
    myPointMutations := history.myCrossoverMutationCount
    myCrossoverPoints := history.myCrossoverCrossCount }

def writeLifeEvent (h : HistoryTransferOut) (event : LifeEvent) (solidIndex : Int32) :
    HistoryTransferOut :=
  { h with
    myLifeEventsToSend := h.myLifeEventsToSend ++ [event]
    mySolidIndices := h.mySolidIndices ++ [solidIndex] }

def writeName (h : HistoryTransferOut) (name : Bytes) :
    HistoryTransferOut := { h with myName := name }

def writeUserText (h : HistoryTransferOut) (solidIndex : Int32) (userText : Bytes) :
    HistoryTransferOut :=
  { h with
    myUserTexts := h.myUserTexts ++ [userText]
    myUserTextIndices := h.myUserTextIndices ++ [solidIndex] }

/-- Only the first call writes the buffer. Each of the two loops walks two vectors of one length. -/
def serialise (h : HistoryTransferOut) : HistoryTransferOut :=
  if h.mySerialised then h
  else
    { h with
      mySerialised := true
      myBuffer :=
        putString h.myMoniker
          ++ [if h.myHaveCreatureState then 1 else 0]
          ++ (if h.myHaveCreatureState then
              putInt h.myGender ++ putInt h.myGenus ++ putInt h.myVariant ++
                putInt h.myPointMutations
                ++ putInt h.myCrossoverPoints
            else [])
          ++ putInt (Int32.ofNat h.myLifeEventsToSend.length)
          ++ (h.myLifeEventsToSend.zip h.mySolidIndices).flatMap (fun e => putLifeEvent e.1 e.2)
          ++ putString h.myName
          ++ putInt (Int32.ofNat h.myUserTexts.length)
          ++ (h.myUserTexts.zip h.myUserTextIndices).flatMap
            (fun t => putString t.1 ++ putInt t.2) }

/-- The blob, none without a moniker. -/
def getAddress (h : HistoryTransferOut) : Option Bytes × HistoryTransferOut :=
  if h.myMoniker = [] then (none, h) else (some h.serialise.myBuffer, h.serialise)

def getLength (h : HistoryTransferOut) : Int32 × HistoryTransferOut :=
  if h.myMoniker = [] then (0, h) else (sizeInt h.serialise.myBuffer, h.serialise)

/-- A call that adds content. -/
inductive Write
  | moniker (moniker : Bytes)
  | creatureHistory (history : CreatureHistory)
  | lifeEvent (event : LifeEvent) (solidIndex : Int32)
  | name (name : Bytes)
  | userText (solidIndex : Int32) (userText : Bytes)

def write (h : HistoryTransferOut) : Write → HistoryTransferOut
  | .moniker moniker => h.writeMoniker moniker
  | .creatureHistory history => h.writeCreatureHistory history
  | .lifeEvent event solidIndex => h.writeLifeEvent event solidIndex
  | .name name => h.writeName name
  | .userText solidIndex userText => h.writeUserText solidIndex userText

/-- What the writes leave in a new object. -/
def written (writes : List Write) : HistoryTransferOut := writes.foldl write {}

end HistoryTransferOut

/-- A history as its reader knows it. -/
structure History where
  moniker : Bytes := []
  creature : Option CreatureHistory := none
  events : List (LifeEvent × Int32) := []
  name : Bytes := []
  userTexts : List (Bytes × Int32) := []
  deriving DecidableEq

namespace History
open HistoryTransferOut

/-- Monikers, states and names replace one another, events and texts are added in order. -/
def note (history : History) : Write → History
  | .moniker moniker => { history with moniker := moniker }
  | .creatureHistory creature => { history with creature := some creature }
  | .lifeEvent event solidIndex =>
    { history with events := history.events ++ [(event, solidIndex)] }
  | .name name => { history with name := name }
  | .userText solidIndex userText =>
    { history with userTexts := history.userTexts ++ [(userText, solidIndex)] }

/-- The history that some writes tell. -/
def told (writes : List Write) : History := writes.foldl note {}

/-- The strings of a life event. -/
def strings (event : LifeEvent) : List Bytes :=
  [event.myRelatedMoniker1, event.myRelatedMoniker2, event.myWorldName,
    event.myWorldUniqueIdentifier, event.myNetworkUser]

/-- Every string is shorter than 2^31 bytes. -/
structure Short (history : History) : Prop where
  moniker : history.moniker.length < 2147483648
  events : ∀ event ∈ history.events, ∀ str ∈ strings event.1, str.length < 2147483648
  name : history.name.length < 2147483648
  userTexts : ∀ text ∈ history.userTexts, text.1.length < 2147483648

/-- The counts are `int`s. -/
structure Counted (history : History) : Prop where
  events : history.events.length < 2147483648
  userTexts : history.userTexts.length < 2147483648

/-- The object holds the history. -/
structure Held (h : HistoryTransferOut) (history : History) : Prop where
  fresh : h.mySerialised = false
  moniker : h.myMoniker = history.moniker
  creature : history.creature = if h.myHaveCreatureState then
    some ⟨h.myGender, h.myGenus, h.myVariant, h.myPointMutations, h.myCrossoverPoints⟩ else none
  eventIndices : h.mySolidIndices.length = h.myLifeEventsToSend.length
  events : h.myLifeEventsToSend.zip h.mySolidIndices = history.events
  name : h.myName = history.name
  textIndices : h.myUserTextIndices.length = h.myUserTexts.length
  userTexts : h.myUserTexts.zip h.myUserTextIndices = history.userTexts

theorem Held.write {h : HistoryTransferOut} {history : History}
    (hheld : Held h history) (w : Write) :
    Held (h.write w) (history.note w) := by
  cases w with
  | moniker moniker => exact { hheld with moniker := rfl }
  | creatureHistory creature => exact { hheld with creature := rfl }
  | lifeEvent event solidIndex =>
    refine { hheld with eventIndices := ?_, events := ?_ }
    · simp only [HistoryTransferOut.write, writeLifeEvent, List.length_append, hheld.eventIndices]
      rfl
    · simp only [HistoryTransferOut.write, writeLifeEvent, note]
      rw [List.zip_append hheld.eventIndices.symm, hheld.events]
      rfl
  | name name => exact { hheld with name := rfl }
  | userText solidIndex userText =>
    refine { hheld with textIndices := ?_, userTexts := ?_ }
    · simp only [HistoryTransferOut.write, writeUserText, List.length_append, hheld.textIndices]
      rfl
    · simp only [HistoryTransferOut.write, writeUserText, note]
      rw [List.zip_append hheld.textIndices.symm, hheld.userTexts]
      rfl

/-- The object is a refinement of the history: it holds what its writes have told. -/
theorem held_told (writes : List Write) : Held (written writes) (told writes) := by
  have hall : ∀ (h : HistoryTransferOut) (history : History), Held h history →
      Held (writes.foldl HistoryTransferOut.write h) (writes.foldl note history) := by
    induction writes with
    | nil => exact fun _ _ hheld => hheld
    | cons w writes ih => exact fun h history hheld => ih _ _ (hheld.write w)
  exact hall {} {} ⟨rfl, rfl, rfl, rfl, rfl, rfl, rfl, rfl⟩

end History

def readByte : Reader UInt8 UInt8 := do
  let bytes ← block 1
  return byteAt bytes 0

def readString : Reader UInt8 Bytes := do
  let size ← readInt
  if size < 0 then failure else block size.toInt.toNat

def readCreature : Reader UInt8 CreatureHistory := do
  let sex ← readInt
  let genus ← readInt
  let variant ← readInt
  let pointMutations ← readInt
  let crossoverPoints ← readInt
  return ⟨sex, genus, variant, pointMutations, crossoverPoints⟩

def readLifeEvent : Reader UInt8 (LifeEvent × Int32) := do
  let eventType ← readInt
  let worldTime ← readInt
  let ageTicks ← readInt
  let unixTime ← readInt
  let lifeStage ← readInt
  let moniker1 ← readString
  let moniker2 ← readString
  let worldName ← readString
  let worldID ← readString
  let userID ← readString
  let solidIndex ← readInt
  return (⟨eventType, worldTime, ageTicks, unixTime, lifeStage, moniker1, moniker2, worldName,
    worldID, userID⟩, solidIndex)

def readUserText : Reader UInt8 (Bytes × Int32) := do
  let userText ← readString
  let solidIndex ← readInt
  return (userText, solidIndex)

/-- The state of the creature, if there is one. -/
def readState (hasCreatureState : UInt8) : Reader UInt8 (Option CreatureHistory) :=
  if hasCreatureState = 0 then return none
  else do
    let creature ← readCreature
    return some creature

/-- The layout of the header file. -/
def readHistory : Reader UInt8 History := do
  let moniker ← readString
  let hasCreatureState ← readByte
  let creature ← readState hasCreatureState
  let eventCount ← readInt
  let events ← times readLifeEvent eventCount.toInt.toNat
  let name ← readString
  let userTextCount ← readInt
  let userTexts ← times readUserText userTextCount.toInt.toNat
  return ⟨moniker, creature, events, name, userTexts⟩

theorem reads_byte (value : UInt8) : Reads readByte [value] value :=
  (reads_block [value] rfl).yields rfl

theorem reads_string (str : Bytes) (h : str.length < 2147483648) :
    Reads readString (putString str) str := by
  have hlength := sizeInt_toInt str h
  have hnonneg : ¬ sizeInt str < 0 := by
    rw [Word32.lt_iff, hlength]
    exact not_lt.mpr (Int.natCast_nonneg _)
  refine (reads_int (sizeInt str)).bind ?_
  rw [if_neg hnonneg]
  exact reads_block str (by rw [hlength, Int.toNat_natCast])

theorem reads_lifeEvent (event : LifeEvent) (solidIndex : Int32)
    (h : ∀ str ∈ History.strings event, str.length < 2147483648) :
    Reads readLifeEvent (putLifeEvent event solidIndex) (event, solidIndex) := by
  have hstring : ∀ str ∈ History.strings event, Reads readString (putString str) str :=
    fun str hstr => reads_string str (h str hstr)
  simp only [History.strings, List.forall_mem_cons] at hstring
  obtain ⟨hmoniker1, hmoniker2, hworldName, hworldID, huserID, _⟩ := hstring
  simp only [putLifeEvent, List.append_assoc]
  exact (reads_int _).bind
    ((reads_int _).bind ((reads_int _).bind ((reads_int _).bind ((reads_int _).bind
    (hmoniker1.bind (hmoniker2.bind (hworldName.bind (hworldID.bind (huserID.bind
      ((reads_int solidIndex).done _))))))))))

theorem reads_userText (text : Bytes × Int32) (h : text.1.length < 2147483648) :
    Reads readUserText (putString text.1 ++ putInt text.2) text :=
  (reads_string text.1 h).bind ((reads_int text.2).done _)

namespace History
open HistoryTransferOut

/-- The state of the creature with its flag. -/
def stateBlob : Option CreatureHistory → Bytes
  | none => [0]
  | some creature =>
    [1] ++ (putInt creature.myGender ++ (putInt creature.myGenus ++ (putInt creature.myVariant
      ++ (putInt creature.myCrossoverMutationCount ++ putInt creature.myCrossoverCrossCount))))

/-- The blob of a history. -/
def blob (history : History) : Bytes :=
  putString history.moniker ++ (stateBlob history.creature ++
    (putInt (Int32.ofNat history.events.length) ++
      (history.events.flatMap (fun e => putLifeEvent e.1 e.2) ++
        (putString history.name ++ (putInt (Int32.ofNat history.userTexts.length) ++
          history.userTexts.flatMap (fun t => putString t.1 ++ putInt t.2))))))

/-- What is serialised is the blob of the history that is held. -/
theorem Held.buffer {h : HistoryTransferOut} {history : History} (hheld : Held h history) :
    h.serialise.myBuffer = history.blob := by
  have hevents : history.events.length = h.myLifeEventsToSend.length := by
    rw [← hheld.events, List.length_zip, hheld.eventIndices, min_self]
  have htexts : history.userTexts.length = h.myUserTexts.length := by
    rw [← hheld.userTexts, List.length_zip, hheld.textIndices, min_self]
  simp only [serialise, hheld.fresh, Bool.false_eq_true, if_false]
  rw [blob, hevents, htexts, hheld.creature, hheld.events, hheld.userTexts,
    hheld.moniker, hheld.name]
  cases h.myHaveCreatureState with
  | false => simp [stateBlob]
  | true => simp [stateBlob, List.append_assoc]

theorem reads_state (creature : Option CreatureHistory) {α : Type} (next : Option CreatureHistory →
    Reader UInt8 α)
    {back : Bytes} {a : α} (hnext : Reads (next creature) back a) :
    Reads (readByte >>= fun hasCreatureState => readState hasCreatureState >>= next)
      (stateBlob creature ++ back) a := by
  cases creature with
  | none => exact (reads_byte 0).bind ((reads_pure none).bind hnext)
  | some creature =>
    rw [stateBlob, List.append_assoc]
    have hcreature : Reads readCreature (putInt creature.myGender ++ (putInt creature.myGenus
        ++ (putInt creature.myVariant ++ (putInt creature.myCrossoverMutationCount
          ++ putInt creature.myCrossoverCrossCount)))) creature :=
      (reads_int _).bind ((reads_int _).bind
        ((reads_int _).bind ((reads_int _).bind ((reads_int _).done _))))
    exact (reads_byte 1).bind ((hcreature.done some).bind hnext)

/-- The blob is read as its history. -/
theorem reads_history (history : History) (hshort : history.Short) (hcounted : history.Counted) :
    Reads readHistory history.blob history := by
  have hcount : ∀ n : ℕ, n < 2147483648 → (Int32.ofNat n).toInt.toNat = n := fun n hn => by
    rw [Word32.toInt_ofNat_exact n hn, Int.toNat_natCast]
  have hevents : Reads (times readLifeEvent (Int32.ofNat history.events.length).toInt.toNat)
      (history.events.flatMap fun e => putLifeEvent e.1 e.2) (history.events.map id) := by
    rw [hcount _ hcounted.events]
    exact Reads.times fun event hevent => reads_lifeEvent event.1 event.2
      (hshort.events event hevent)
  have htexts : Reads (times readUserText (Int32.ofNat history.userTexts.length).toInt.toNat)
      (history.userTexts.flatMap fun t => putString t.1 ++ putInt t.2)
        (history.userTexts.map id) := by
    rw [hcount _ hcounted.userTexts]
    exact Reads.times fun text htext => reads_userText text (hshort.userTexts text htext)
  rw [List.map_id] at hevents htexts
  exact (reads_string history.moniker hshort.moniker).bind (reads_state history.creature _
    ((reads_int _).bind (hevents.bind ((reads_string history.name hshort.name).bind
      ((reads_int _).bind (htexts.done _))))))

/-- Each event and each text takes at least a byte. -/
theorem counted_of_blob (history : History) (h : history.blob.length < 2147483648) :
    history.Counted := by
  have hlength : ∀ {ι : Type} (encode : ι → Bytes) (items : List ι),
    (∀ item, 1 ≤ (encode item).length) →
      items.length ≤ (items.flatMap encode).length := by
    intro ι encode items hone
    induction items with
    | nil => exact Nat.zero_le _
    | cons item items ih =>
      rw [List.flatMap_cons, List.length_append, List.length_cons]
      have hitem := hone item
      omega
  have hevents :=
    hlength (fun e : LifeEvent × Int32 => putLifeEvent e.1 e.2) history.events fun e => by
    simp only [putLifeEvent, List.length_append, putInt_length]
    omega
  have htexts :=
    hlength (fun t : Bytes × Int32 => putString t.1 ++ putInt t.2) history.userTexts fun t => by
    simp only [List.length_append, putInt_length]
    omega
  simp only [blob, List.length_append] at h
  exact ⟨by omega, by omega⟩

end History

namespace HistoryTransferOut
open History

theorem getAddress_written (writes : List Write) (h : (told writes).moniker ≠ []) :
    (written writes).getAddress.1 = some (told writes).blob := by
  have hheld := held_told writes
  rw [getAddress, if_neg (by rwa [hheld.moniker]), hheld.buffer]

theorem getLength_written (writes : List Write) (h : (told writes).moniker ≠ []) :
    (written writes).getLength.1 = sizeInt (told writes).blob := by
  have hheld := held_told writes
  rw [getLength, if_neg (by rwa [hheld.moniker]), hheld.buffer]

/-- The blob is written once: the length is the same before and after. -/
theorem getLength_getAddress (h : HistoryTransferOut) :
    h.getAddress.2.getLength.1 = h.getLength.1 := by
  have hagain : h.serialise.serialise = h.serialise := by
    by_cases hserialised : h.mySerialised = true
    · have hkept : h.serialise = h := if_pos hserialised
      rw [hkept, hkept]
    · simp [serialise, hserialised]
  have hmoniker : h.serialise.myMoniker = h.myMoniker := by
    rw [serialise]
    split <;> rfl
  by_cases hempty : h.myMoniker = []
  · rw [getAddress, if_pos hempty]
  · rw [getAddress, if_neg hempty, getLength, getLength, if_neg hempty, hmoniker,
      if_neg hempty, hagain]

/-- **What was written can be read back.** The reader finds all of it in the blob and nothing else,
and takes exactly the blob from the stream. The length is an `int`: it is that of the blob if the
blob is shorter than 2^31 bytes. -/
theorem history_read_back (writes : List Write) (hmoniker : (told writes).moniker ≠ [])
    (hshort : (told writes).Short) : ∃ blob, (written writes).getAddress.1 = some blob ∧
      ((told writes).Counted → ∀ rest, readHistory.run (blob ++ rest) = some (told writes, rest)) ∧
      (blob.length < 2147483648 → (told writes).Counted) ∧
      ((written writes).getLength.1.toInt = blob.length ↔ blob.length < 2147483648) := by
  refine ⟨_, getAddress_written writes hmoniker, reads_history _ hshort, counted_of_blob _, ?_⟩
  rw [getLength_written writes hmoniker]
  constructor
  · intro hlength
    have hbound := Word32.toInt_upper (sizeInt (told writes).blob)
    omega
  · exact sizeInt_toInt _

/-- A history with every part, and the empty rest. -/
theorem history_read_back_filled :
    ∃ blob, (written [.moniker [1, 2], .creatureHistory ⟨1, 2, 3, 4, 5⟩,
    .lifeEvent ⟨1, 2, 3, 4, 5, [6], [], [7], [8], [9]⟩ 0, .name [10], .userText 0
      [11]]).getAddress.1 = some blob ∧
    (Counted (told [.moniker [1, 2], .creatureHistory ⟨1, 2, 3, 4, 5⟩,
      .lifeEvent ⟨1, 2, 3, 4, 5, [6], [], [7], [8], [9]⟩ 0, .name [10], .userText 0 [11]]) →
      ∀ rest, readHistory.run (blob ++ rest) = some
        (told [.moniker [1, 2], .creatureHistory ⟨1, 2, 3, 4, 5⟩,
        .lifeEvent ⟨1, 2, 3, 4, 5, [6], [], [7], [8], [9]⟩ 0, .name [10], .userText 0
          [11]], rest)) := by
  obtain ⟨blob, haddress, hread, _⟩ :=
    history_read_back [.moniker [1, 2], .creatureHistory ⟨1, 2, 3, 4, 5⟩,
    .lifeEvent ⟨1, 2, 3, 4, 5, [6], [], [7], [8], [9]⟩ 0, .name [10], .userText 0 [11]] (by decide)
    ⟨by decide, by decide, by decide, by decide⟩
  exact ⟨blob, haddress, hread⟩

/-- A moniker of 2^31 - 1 bytes is shorter than 2^31, the blob with its seventeen other bytes is
not. -/
theorem history_length_not_int : ¬ ∀ writes, (told writes).moniker ≠ [] → (told writes).Short →
    ∃ blob, (written writes).getAddress.1 = some blob ∧ (written writes).getLength.1.toInt =
      blob.length := by
  intro hall
  obtain ⟨moniker, hsize⟩ : ∃ moniker : Bytes, moniker.length = 2147483647 :=
    ⟨List.replicate 2147483647 0, List.length_replicate⟩
  have hmoniker : (told [.moniker moniker]).moniker ≠ [] := by
    intro hempty
    have hnil : moniker = [] := hempty
    rw [hnil] at hsize
    exact absurd hsize (by decide)
  have hshort : (told [.moniker moniker]).Short := by
    refine ⟨?_, nofun, Nat.zero_lt_succ _, nofun⟩
    change moniker.length < 2147483648
    omega
  obtain ⟨blob, haddress, hlength⟩ := hall _ hmoniker hshort
  rw [getAddress_written _ hmoniker] at haddress
  have hblob : blob.length = moniker.length + 17 := by
    rw [← Option.some.inj haddress]
    change (putString moniker ++
      ([0] ++ (putInt 0 ++ ([] ++ (putString [] ++ (putInt 0 ++ [])))))).length = _
    simp only [putString, List.length_append, putInt_length, List.length_cons, List.length_nil]
    omega
  have hbound := Word32.toInt_upper (written [.moniker moniker]).getLength.1
  omega

end HistoryTransferOut
end NetNatsue
