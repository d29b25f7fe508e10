import Mathlib.Data.Finset.Card
import NetNatsue.Manager.SpoolNames

/-! The inbox while files are spooled into it: the search for a free name ends, and nothing that is
already there is overwritten. -/
namespace NetNatsue

theorem spoolName_injective (u : BabelUIN) :
    Function.Injective fun serial => spoolName serial u := by
  intro serial serial' h
  simp only [spoolName, List.append_cancel_right_eq] at h
  exact UInt32.toNat_inj.mp (formatUnsigned_injective h)

/-- Serials that are fewer than 2^32 steps apart differ. -/
theorem serial_injective (serial : UInt32) {i j : ℕ} (hi : i < serialCount) (hj : j < serialCount)
    (h : serial + UInt32.ofNat i = serial + UInt32.ofNat j) : i = j := by
  have hnat := congrArg UInt32.toNat h
  unfold serialCount at hi hj
  simp only [UInt32.toNat_add, UInt32.toNat_ofNat'] at hnat
  omega

/-- A search without a result has seen a file for each serial. -/
theorem freeSpoolPath_none {d : Disk} {directory : Bytes} {u : BabelUIN} {n : ℕ} {serial : UInt32}
    (h : freeSpoolPath d directory u n serial = none) :
    ∀ i < n, d.fileExists (directory ++ spoolName (serial + UInt32.ofNat i) u) = true := by
  induction n generalizing serial with
  | zero => exact fun i hi => absurd hi (Nat.not_lt_zero i)
  | succ n ih =>
    simp only [freeSpoolPath] at h
    split at h
    case isTrue => cases h
    case isFalse htaken =>
      intro i hi
      cases i with
      | zero => simpa using htaken
      | succ i =>
        have hnext : serial + UInt32.ofNat (i+1) = serial + 1 + UInt32.ofNat i := by
          rw [UInt32.ofNat_add, UInt32.add_comm (UInt32.ofNat i), UInt32.add_assoc]
          rfl
        rw [hnext]
        exact ih h i (Nat.lt_of_succ_lt_succ hi)

theorem freeSpoolPath_free {d : Disk} {directory path : Bytes} {u : BabelUIN} {n : ℕ}
    {serial : UInt32}
    (h : freeSpoolPath d directory u n serial = some path) : d.files path = none := by
  induction n generalizing serial with
  | zero => cases h
  | succ n ih =>
    simp only [freeSpoolPath] at h
    split at h
    case isTrue hfree =>
      rw [← Option.some.inj h]
      simpa [Disk.fileExists] using hfree
    case isFalse => exact ih h

namespace Disk

/-- The names of the files in a directory are among the given ones. -/
def Holds (d : Disk) (directory : Bytes) (names : Finset Bytes) : Prop :=
  ∀ name, d.fileExists (directory ++ name) = true → name ∈ names

/-- With fewer files than serials the search ends, wherever it starts. -/
theorem Holds.search_ends {d : Disk} {directory : Bytes} {names : Finset Bytes}
    (h : d.Holds directory names)
    (hfew : names.card < serialCount) (u : BabelUIN) (serial : UInt32) :
    ∃ path, freeSpoolPath d directory u serialCount serial = some path := by
  cases hsearch : freeSpoolPath d directory u serialCount serial with
  | some path => exact ⟨path, rfl⟩
  | none =>
    have hmaps : ∀ i ∈ Finset.range serialCount, spoolName (serial + UInt32.ofNat i) u ∈ names :=
      fun i hi =>
      h _ (freeSpoolPath_none hsearch i (Finset.mem_range.mp hi))
    have hcard := Finset.card_le_card_of_injOn _ hmaps fun i hi j hj hij =>
      serial_injective serial (Finset.mem_range.mp hi) (Finset.mem_range.mp hj)
        (spoolName_injective u hij)
    rw [Finset.card_range] at hcard
    exact absurd hfew (not_lt.mpr hcard)

/-- File operations succeed. -/
def Succeeds (d : Disk) : Prop := d.outcomes = .const true

theorem Succeeds.outcome {d : Disk} (h : d.Succeeds) : d.outcome = (true, d) := by
  have htail : d.outcomes.tail = d.outcomes := by
    rw [h]
    rfl
  have hhead : d.outcomes.head = true := by
    rw [h]
    rfl
  rw [Disk.outcome, htail, hhead]

theorem Succeeds.remove {d : Disk} (h : d.Succeeds) (path : Bytes) :
    d.remove path = d.put path none := by
  rw [Disk.remove, h.outcome]
  rfl

theorem Succeeds.rename {d : Disk} (h : d.Succeeds) {source contents : Bytes} (target : Bytes)
    (hsource : d.files source = some contents) :
    d.rename source target = (true, (d.put target (some contents)).put source none) := by
  simp only [Disk.rename, h.outcome, hsource, if_true]

theorem temporary_ne (path : Bytes) : path ++ ascii ".tmp" ≠ path := by
  have hsome : ascii ".tmp" ≠ [] := by decide
  simpa using hsome

theorem Succeeds.write {d : Disk} (h : d.Succeeds) (path contents : Bytes) :
    d.writeWholeFileAtomic path contents =
      (true, (((d.put (path ++ ascii ".tmp") (some contents)).put path none).put path
        (some contents)).put
        (path ++ ascii ".tmp") none) := by
  have htemporary : (d.put (path ++ ascii ".tmp") (some contents)).Succeeds := h
  have hremoved : ((d.put (path ++ ascii ".tmp") (some contents)).put path none).Succeeds := h
  have hsource : ((d.put (path ++ ascii ".tmp") (some contents)).put path none).files
    (path ++ ascii ".tmp") =
      some contents := by
    simp only [put, Function.update_of_ne (temporary_ne path), Function.update_self]
  simp only [writeWholeFileAtomic, h.outcome, htemporary.remove, hremoved.rename path hsource,
    not_true_eq_false, if_false]

/-- The file is there, no temporary file is, and all others are as before. -/
theorem Succeeds.write_files {d : Disk} (h : d.Succeeds) (path contents other : Bytes) :
    (d.writeWholeFileAtomic path contents).2.files other =
      if other = path ++ ascii ".tmp" then none else if other = path then
        some contents else d.files other := by
  rw [h.write]
  simp only [put, Function.update_apply]
  split_ifs <;> rfl

/-- A name with the extension of warp files. -/
def Warp (path : Bytes) : Prop := ascii ".warp" <:+ path

instance (path : Bytes) : Decidable (Warp path) := inferInstanceAs (Decidable (_ <:+ _))

theorem warp_not_temporary {path other : Bytes} (h : Warp other) :
    other ≠ path ++ ascii ".tmp" := by
  rintro rfl
  have hsuffix : ascii ".tmp" <:+ ascii ".warp" :=
    List.suffix_of_suffix_length_le (List.suffix_append path (ascii ".tmp")) h (by decide)
  exact absurd hsuffix (by decide)

theorem warp_spoolName (directory : Bytes) (serial : UInt32) (u : BabelUIN) :
    Warp (directory ++ spoolName serial u) := by
  rw [Warp, spoolName, ← List.append_assoc]
  exact List.suffix_append _ _

/-- The disk got a file under a new name, and kept the others. -/
structure Gains (d d' : Disk) (directory path contents : Bytes) : Prop where
  inside : directory <+: path
  warp : Warp path
  new : d.files path = none
  stored : d'.files path = some contents
  kept : ∀ other, Warp other → other ≠ path → d'.files other = d.files other

/-- A file is spooled while there are fewer files than serials. -/
theorem Succeeds.spool {d : Disk} (h : d.Succeeds) {inbox : Bytes} {names : Finset Bytes}
    (hinbox : inbox ≠ [])
    (hholds : d.Holds inbox names) (hfew : names.card < serialCount) (sender : BabelUIN)
    (payload : Bytes) :
    ∃ path, d.spoolPath inbox sender = some path ∧ d.Gains (d.spool inbox sender payload) inbox
      path payload ∧
      (d.spool inbox sender payload).Succeeds ∧
      ∃ name, (d.spool inbox sender payload).Holds inbox (insert name names) := by
  have htime : d.time.2.Succeeds := h
  have hholds' : d.time.2.Holds inbox names := hholds
  obtain ⟨path, hsearch⟩ := hholds'.search_ends hfew sender d.time.1
  have hpath : d.spoolPath inbox sender = some path := by rw [spoolPath, if_neg hinbox, hsearch]
  obtain ⟨serial, rfl⟩ := freeSpoolPath_name hsearch
  have hfree := freeSpoolPath_free hsearch
  have hfiles := htime.write_files (inbox ++ spoolName serial sender) payload
  refine ⟨_, hpath, ?_⟩
  rw [spool_of_path hpath]
  refine ⟨⟨List.prefix_append _ _, warp_spoolName inbox serial sender, hfree, ?_,
    fun other hwarp hother => ?_⟩, ?_, spoolName serial sender, fun name hname => ?_⟩
  · rw [hfiles, if_neg (temporary_ne _).symm, if_pos rfl]
  · rw [hfiles, if_neg (warp_not_temporary hwarp), if_neg hother]
    rfl
  · rw [htime.write]
    exact h
  · rw [fileExists, hfiles] at hname
    split_ifs at hname with htemporary hnew
    · exact absurd hname Bool.false_ne_true
    · rw [List.append_cancel_left hnew]
      exact Finset.mem_insert_self _ _
    · exact Finset.mem_insert_of_mem (hholds name hname)

end Disk

namespace DSNetManager

/-- The PRAY messages that come in. -/
def spoolPrayFiles (m : DSNetManager) (messages : List (BabelUIN × Bytes)) : DSNetManager :=
  messages.foldl (fun m message => m.spoolPrayFile message.1 message.2) m

/-- An inbox that files can be spooled into. -/
structure Ready (m : DSNetManager) (inbox : Bytes) (names : Finset Bytes) : Prop where
  directory : m.myInboxDirectory = inbox
  succeeds : m.disk.Succeeds
  holds : m.disk.Holds inbox names

theorem Ready.spool {m : DSNetManager} {inbox : Bytes} {names : Finset Bytes}
    (h : m.Ready inbox names)
    (hinbox : inbox ≠ []) (hfew : names.card < serialCount) (message : BabelUIN × Bytes) :
    (∃ path, m.disk.spoolPath inbox message.1 = some path ∧
      m.disk.Gains (m.spoolPrayFile message.1 message.2).disk inbox path message.2) ∧
    ∃ names', names'.card ≤ names.card + 1 ∧
      (m.spoolPrayFile message.1 message.2).Ready inbox names' := by
  obtain ⟨path, hpath, hgains, hsucceeds, name, hholds⟩ :=
    h.succeeds.spool hinbox h.holds hfew message.1 message.2
  have hdisk : (m.spoolPrayFile message.1 message.2).disk =
      m.disk.spool inbox message.1 message.2 := by
    rw [← h.directory]
    rfl
  rw [← hdisk] at hgains hsucceeds hholds
  exact ⟨⟨path, hpath, hgains⟩, insert name names, Finset.card_insert_le _ _, h.directory,
    hsucceeds, hholds⟩

theorem Ready.spoolAll {m : DSNetManager} {inbox : Bytes} {names : Finset Bytes}
    (h : m.Ready inbox names)
    (hinbox : inbox ≠ []) (messages : List (BabelUIN × Bytes)) (hfew : names.card +
      messages.length < serialCount) :
    (∃ names', names'.card ≤ names.card + messages.length ∧ (m.spoolPrayFiles messages).Ready
      inbox names') ∧
    ∀ path contents, Disk.Warp path → m.disk.files path = some contents →
      (m.spoolPrayFiles messages).disk.files path = some contents := by
  induction messages generalizing m names with
  | nil => exact ⟨⟨names, le_refl _, h⟩, fun _ _ _ hfile => hfile⟩
  | cons message messages ih =>
    rw [List.length_cons] at hfew ⊢
    obtain ⟨⟨new, _, hgains⟩, names', hcard, hready⟩ := h.spool hinbox (by omega) message
    obtain ⟨⟨names'', hcard', hready'⟩, hkept⟩ := ih hready (by omega)
    refine ⟨⟨names'', by omega, hready'⟩, fun path contents hwarp hfile => hkept path
      contents hwarp ?_⟩
    have hother : path ≠ new := fun heq => by
      rw [heq, hgains.new] at hfile
      cases hfile
    rw [hgains.kept path hwarp hother, hfile]

/-- **Spooled files.** Every message that comes in adds a file with its payload under a new name,
and nothing is lost, as long as there are fewer files than serials. -/
theorem spooled_apart (m : DSNetManager) (messages : List (BabelUIN × Bytes)) (names : Finset Bytes)
    (hsucceeds : m.disk.Succeeds) (hinbox : m.myInboxDirectory ≠ [])
    (hnames : m.disk.Holds m.myInboxDirectory names) (hfew : names.card +
      messages.length < 4294967296) :
    (∀ before sender payload after, messages = before ++ (sender, payload) :: after → ∃ path,
      (m.spoolPrayFiles before).disk.spoolPath m.myInboxDirectory sender = some path ∧
        (m.spoolPrayFiles before).disk.Gains (m.spoolPrayFiles (before ++ [(sender, payload)])).disk
          m.myInboxDirectory path payload) ∧
    ∀ path contents, Disk.Warp path → m.disk.files path = some contents →
      (m.spoolPrayFiles messages).disk.files path = some contents := by
  have hready : m.Ready m.myInboxDirectory names := ⟨rfl, hsucceeds, hnames⟩
  refine ⟨?_, (hready.spoolAll hinbox messages hfew).2⟩
  rintro before sender payload after rfl
  rw [List.length_append, List.length_cons] at hfew
  obtain ⟨⟨names', hcard, hready'⟩, _⟩ :=
    hready.spoolAll hinbox before (by unfold serialCount; omega)
  obtain ⟨hgains, _⟩ := hready'.spool hinbox (by unfold serialCount; omega) (sender, payload)
  have hnext : m.spoolPrayFiles (before ++ [(sender, payload)]) =
      (m.spoolPrayFiles before).spoolPrayFile sender payload := List.foldl_append
  rw [hnext]
  exact hgains

/-- An inbox with one file. -/
def inboxDisk : Disk := Disk.blank.put (ascii "in/0T-5+1.warp") (some [9])

/-- Two files from its sender in the same second. -/
theorem spooled_apart_twice :
    (((fresh.onDisk inboxDisk).setInboxDirectory (ascii "in")).spoolPrayFiles
      [(⟨5, 1⟩, [1]), (⟨5, 1⟩, [2])]).disk.files (ascii "in/0T-5+1.warp") = some [9] := by
  have hholds : inboxDisk.Holds (ascii "in/") {ascii "0T-5+1.warp"} := by
    intro name hname
    by_cases heq : ascii "in/" ++ name = ascii "in/0T-5+1.warp"
    · exact Finset.mem_singleton.mpr (List.append_cancel_left (heq.trans (by decide)))
    · have hnone : inboxDisk.files (ascii "in/" ++ name) = none := Function.update_of_ne heq _ _
      rw [Disk.fileExists, hnone] at hname
      exact absurd hname Bool.false_ne_true
  exact (spooled_apart ((fresh.onDisk inboxDisk).setInboxDirectory (ascii "in")) _
    {ascii "0T-5+1.warp"} rfl
    (by decide) hholds (by decide)).2 _ [9] (by decide) (by decide)

end DSNetManager
end NetNatsue
