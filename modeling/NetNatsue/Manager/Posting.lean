import NetNatsue.Foundations.Sweep
import NetNatsue.Manager.Confinement

/-! A scan of the outbox, while file operations succeed: a sweep over the files. Each addressed file
is posted once and removed, every other one is put aside, until the connection fails. -/
namespace NetNatsue
open BabelUIN DSNetManager

/-- The name of the file tells whom it is for. -/
def Addressed (path : Bytes) : Prop := userFromSpoolName (baseName path) ≠ []

instance : DecidablePred Addressed := fun _ => inferInstanceAs (Decidable (_ ≠ _))

/-- The packet that a file is sent in. -/
def filePost (server user : BabelUIN) (file : Bytes × Bytes) : Bytes :=
  buildMessage server user (fromString (userFromSpoolName (baseName file.1))).2 (prayPayload file.2)
    (sizeInt (prayPayload file.2))

theorem userFromSpoolName_parsed (name : Bytes) (h : userFromSpoolName name ≠ []) :
    (fromString (userFromSpoolName name)).1 = true := by
  simp only [userFromSpoolName] at h ⊢
  split at h
  · split_ifs at h ⊢ with hshort hparsed
    · exact absurd rfl h
    · exact hparsed
    · exact absurd rfl h
  · exact absurd rfl h

theorem badPath_ne (path : Bytes) : badPath path ≠ path := by
  have hsome : ascii ".bad" ≠ [] := by decide
  simpa [badPath] using hsome

theorem Disk.Succeeds.read {d : Disk} (h : d.Succeeds) (path : Bytes) :
    d.readWholeFile path = (d.files path, d) := by
  simp only [Disk.readWholeFile, h.outcome, ↓reduceIte]

namespace DSNetManager

/-- What has been written to the server. -/
def written (m : DSNetManager) : List Bytes := m.trace.filterMap Event.writtenPacket

/-- What a post depends on besides the file. -/
def postage (m : DSNetManager) := (m.myOutboxDirectory, m.myServerUIN, m.myUserUIN)

/-- How one file is dealt with: it is done with, or the connection is gone and the file is not. -/
structure Handles (m : DSNetManager) (paths : List Bytes) (n : DSNetManager) : Prop where
  files : n.disk.files = Sweep.swept Addressed badPath paths m.disk.files
  succeeds : n.disk.Succeeds
  written : n.written = m.written ++
    (Sweep.collected Addressed badPath paths m.disk.files).map (filePost m.myServerUIN m.myUserUIN)
  postage : n.postage = m.postage

section
variable {m n k : DSNetManager}

theorem handles_nil (m : DSNetManager) (h : m.disk.Succeeds) : Handles m [] m :=
  ⟨rfl, h, (List.append_nil _).symm, rfl⟩

theorem Handles.trans {path : Bytes} {paths : List Bytes} (h : Handles m [path] n)
    (h' : Handles n paths k) :
    Handles m (path :: paths) k where
  files := by rw [h'.files, h.files]; rfl
  succeeds := h'.succeeds
  written := by
    have hserver : n.myServerUIN = m.myServerUIN := congrArg (fun p => p.2.1) h.postage
    have huser : n.myUserUIN = m.myUserUIN := congrArg (fun p => p.2.2) h.postage
    have hfiles : n.disk.files = Sweep.clear Addressed badPath m.disk.files path := h.files
    rw [h'.written, h.written, hserver, huser, hfiles, List.append_assoc, ← List.map_append]
    simp only [Sweep.collected, List.append_nil]
  postage := h'.postage.trans h.postage

/-- A file that is for nobody is put aside. -/
theorem handles_setAside (m : DSNetManager) (path : Bytes) (hsucceeds : m.disk.Succeeds)
    (haddress : ¬ Addressed path) : Handles m [path] (m.setAside path) := by
  have hremoved : (m.disk.remove (badPath path)) = m.disk.put (badPath path) none :=
    hsucceeds.remove _
  have hput : (m.disk.put (badPath path) none).Succeeds := hsucceeds
  have hfile : (m.disk.put (badPath path) none).files path = m.disk.files path :=
    Function.update_of_ne (badPath_ne path).symm _ _
  have hdisk : (m.setAside path).disk =
      ((m.disk.put (badPath path) none).rename path (badPath path)).2 := by
    rw [← hremoved]
    rfl
  have hclear : Sweep.clear Addressed badPath m.disk.files path =
      Function.update (Function.update m.disk.files (badPath path) (m.disk.files path)) path none :=
    if_neg haddress
  have hnothing : Sweep.collected Addressed badPath [path] m.disk.files = [] := by
    simp only [Sweep.collected, Sweep.taken, if_neg haddress, Option.toList_none, List.append_nil]
  refine ⟨?_, ?_, by rw [hnothing]; exact (List.append_nil _).symm, rfl⟩
  · rw [hdisk, Sweep.swept, Sweep.swept, hclear]
    cases hcontents : m.disk.files path with
    | none =>
      have hmissing : ((m.disk.put (badPath path) none).rename path (badPath path)).2.files =
          (m.disk.put (badPath path) none).files := by
        simp only [Disk.rename, hput.outcome, hfile, hcontents]
      rw [hmissing, Function.update_comm (badPath_ne path)]
      have hself : Function.update m.disk.files path none = m.disk.files := by
        rw [← hcontents, Function.update_eq_self]
      rw [hself]
      rfl
    | some contents =>
      rw [hput.rename _ (hfile.trans hcontents)]
      simp only [Disk.put, Function.update_idem]
  · rw [hdisk]
    cases hcontents : m.disk.files path with
    | none =>
      simp only [Disk.rename, hput.outcome, hfile, hcontents]
      exact hput
    | some contents =>
      rw [hput.rename _ (hfile.trans hcontents)]
      exact hput

/-- Writing a packet of which the file system knows nothing. -/
theorem written_socketWrite (m : DSNetManager) (packet : Bytes)
    (h : (m.socketWrite packet).1 = true) :
    (m.socketWrite packet).2.written = m.written ++ [packet] ∧ (m.socketWrite packet).2.postage =
    m.postage := by
  rw [socketWrite_ok m packet h]
  exact ⟨List.filterMap_append .., rfl⟩

/-- A file with an address is posted and removed, unless the connection fails. -/
theorem handles_sendOutboxFile (m : DSNetManager) (path : Bytes) (honline : m.Online)
    (hsucceeds : m.disk.Succeeds) (haddress : Addressed path)
    (hfit : ∀ contents, m.disk.files path = some contents → contents.length ≤ 2147483635) :
    (m.sendOutboxFile path).1 = true ∧ Handles m [path] (m.sendOutboxFile path).2 ∨
      (m.sendOutboxFile path).1 = false ∧ ¬ (m.sendOutboxFile path).2.Online ∧
        Handles m [] (m.sendOutboxFile path).2 := by
  have hread : m.disk.readWholeFile path = (m.disk.files path, m.disk) := hsucceeds.read path
  simp only [sendOutboxFile, if_neg haddress, hread]
  cases hcontents : m.disk.files path with
  | none =>
    refine Or.inl ⟨rfl, ?_, hsucceeds, ?_, rfl⟩
    · simp only [Sweep.swept, Sweep.clear, if_pos haddress]
      rw [← hcontents, Function.update_eq_self]
    · simp only [Sweep.collected, Sweep.taken, if_pos haddress, hcontents, Option.map_none,
        Option.toList_none, List.append_nil, List.map_nil]
  | some contents =>
    have hsize : ¬ sizeInt (prayPayload contents) < 0 := by
      rw [Word32.lt_iff, sizeInt_toInt _
        (by have := hfit contents hcontents; rw [prayPayload_length]; omega)]
      exact not_lt.mpr (Int.natCast_nonneg _)
    obtain ⟨user, huser⟩ : ∃ user, fromString (userFromSpoolName (baseName path)) = (true, user) :=
      ⟨_, Prod.ext (userFromSpoolName_parsed _ haddress) rfl⟩
    have hpacket : buildMessage m.myServerUIN m.myUserUIN user (prayPayload contents)
        (sizeInt (prayPayload contents)) = filePost m.myServerUIN m.myUserUIN (path, contents) := by
      simp only [filePost, huser]
    have hcollected : Sweep.collected Addressed badPath [path] m.disk.files =
        [(path, contents)] := by
      simp only [Sweep.collected, Sweep.taken, if_pos haddress, hcontents, Option.map_some,
        Option.toList_some, List.append_nil]
    have hposted := @postFile_written m path _ _ _ huser honline hsize
    simp only [hpacket] at hposted
    simp only [hposted]
    have hdisk := socketWrite_disk m (filePost m.myServerUIN m.myUserUIN (path, contents))
    have hwrite := written_socketWrite m (filePost m.myServerUIN m.myUserUIN (path, contents))
    have hfailed := socketWrite_failed m (filePost m.myServerUIN m.myUserUIN (path, contents))
    generalize hr : m.socketWrite (filePost m.myServerUIN m.myUserUIN (path, contents)) = r at *
    cases hok : r.1 with
    | true =>
      obtain ⟨hwritten, hpostage⟩ := hwrite hok
      refine Or.inl ⟨?_, ?_⟩
      · simp only [not_true_eq_false, ↓reduceIte]
      · simp only [not_true_eq_false, ↓reduceIte]
        refine ⟨?_, ?_, ?_, hpostage⟩
        · change (r.2.disk.remove path).files = _
          rw [hdisk, hsucceeds.remove]
          simp only [Sweep.swept, Sweep.clear, if_pos haddress]
          rfl
        · change (r.2.disk.remove path).Succeeds
          rw [hdisk, hsucceeds.remove]
          exact hsucceeds
        · rw [hcollected, List.map_singleton, ← hwritten]
          exact (List.filterMap_append ..).trans (List.append_nil _)
    | false =>
      refine Or.inr ⟨?_, ?_, ?_⟩
      · simp only [Bool.false_eq_true, not_false_eq_true, ↓reduceIte]
      · simp only [Bool.false_eq_true, not_false_eq_true, ↓reduceIte]
        exact fun honline => absurd honline.1 (by simp [connectionLost, emit, markEveryoneOffline])
      · simp only [Bool.false_eq_true, not_false_eq_true, ↓reduceIte]
        rw [hfailed hok]
        refine ⟨rfl, hsucceeds, ?_, rfl⟩
        exact (List.filterMap_append ..).trans rfl

end

/-- The files of an outbox, as they are listed, do not get into each other's way. -/
theorem apart_listed (directory : Bytes) (names : List Bytes)
    (hnames : ∀ name ∈ names, WarpName name)
    (hdistinct : names.Nodup) : Sweep.Apart badPath (names.map (directory ++ ·)) where
  distinct := hdistinct.map (List.append_right_injective directory)
  elsewhere path hpath hbad := by
    obtain ⟨name, hname, hsame⟩ := List.mem_map.mp hbad
    exact badPath_not_warp ((hnames name hname).warp directory) hsame.symm
  injective path _ other _ h := List.append_cancel_right h

/-- No file of these names in the outbox is longer. -/
def FilesWithin (limit : ℕ) (m : DSNetManager) (names : List Bytes) : Prop :=
  ∀ name ∈ names, ∀ contents, m.disk.files (m.myOutboxDirectory ++ name) = some contents →
    contents.length ≤ limit

theorem FilesWithin.mono {limit more : ℕ} {m : DSNetManager} {names : List Bytes}
    (h : FilesWithin limit m names) (hmore : limit ≤ more) : FilesWithin more m names :=
  fun name hname contents hcontents => (h name hname contents hcontents).trans hmore

theorem handles_sendOutboxFiles (names : List Bytes) (m : DSNetManager)
    (hsucceeds : m.disk.Succeeds)
    (hapart : Sweep.Apart badPath (names.map (m.myOutboxDirectory ++ ·)))
    (hfit : FilesWithin 2147483635 m names) :
    ∃ sent rest, names = sent ++ rest ∧
      Handles m (sent.map (m.myOutboxDirectory ++ ·)) (sendOutboxFiles names m) ∧
      (rest ≠ [] → ¬ (sendOutboxFiles names m).Online) := by
  induction names generalizing m with
  | nil => exact ⟨[], [], rfl, handles_nil m hsucceeds, fun h => absurd rfl h⟩
  | cons name names ih =>
    simp only [sendOutboxFiles]
    by_cases honline : m.Online
    · rw [if_neg (not_not_intro honline)]
      have hstep : (m.sendOutboxFile (m.myOutboxDirectory ++ name)).1 = true ∧
          Handles m [m.myOutboxDirectory ++ name]
            (m.sendOutboxFile (m.myOutboxDirectory ++ name)).2 ∨
          (m.sendOutboxFile (m.myOutboxDirectory ++ name)).1 = false ∧
            ¬ (m.sendOutboxFile (m.myOutboxDirectory ++ name)).2.Online ∧
            Handles m [] (m.sendOutboxFile (m.myOutboxDirectory ++ name)).2 := by
        by_cases haddress : Addressed (m.myOutboxDirectory ++ name)
        · exact handles_sendOutboxFile m _ honline hsucceeds haddress (hfit name List.mem_cons_self)
        · have haside := handles_setAside m _ hsucceeds haddress
          rw [Addressed, not_not] at haddress
          simp only [sendOutboxFile, if_pos haddress]
          exact Or.inl ⟨trivial, haside⟩
      rcases hstep with ⟨hgoes, hhandles⟩ | ⟨hstops, hdown, hhandles⟩
      · rw [if_neg (not_not_intro hgoes)]
        have houtbox : (m.sendOutboxFile (m.myOutboxDirectory ++ name)).2.myOutboxDirectory =
            m.myOutboxDirectory := congrArg Prod.fst hhandles.postage
        generalize (m.sendOutboxFile (m.myOutboxDirectory ++ name)).2 = n at *
        have hlater : ∀ other ∈ names, n.disk.files (m.myOutboxDirectory ++ other) =
            m.disk.files (m.myOutboxDirectory ++ other) := by
          intro other hother
          have hin : m.myOutboxDirectory ++ other ∈ names.map (m.myOutboxDirectory ++ ·) :=
            List.mem_map_of_mem hother
          rw [hhandles.files]
          refine Sweep.swept_other ?_ fun k hk _ haside => ?_
          · rw [List.mem_singleton]
            intro hsame
            rw [hsame] at hin
            exact (List.nodup_cons.mp hapart.distinct).1 hin
          · rw [List.mem_singleton] at hk
            rw [haside, hk] at hin
            exact hapart.elsewhere _ List.mem_cons_self (List.mem_cons_of_mem _ hin)
        obtain ⟨sent, rest, hnames, hhandled, hrest⟩ := ih n hhandles.succeeds
          (by rw [houtbox]; exact hapart.tail)
          (fun other hother contents hcontents => hfit other
            (List.mem_cons_of_mem _ hother) contents
            (by rwa [houtbox, hlater other hother] at hcontents))
        rw [houtbox] at hhandled
        exact ⟨name :: sent, rest, by rw [hnames]; rfl, hhandles.trans hhandled, hrest⟩
      · rw [if_pos (by rw [hstops]; decide)]
        exact ⟨[], name :: names, rfl, hhandles, fun _ => hdown⟩
    · rw [if_pos honline]
      exact ⟨[], name :: names, rfl, handles_nil m hsucceeds, fun _ => honline⟩

/-- A scan of the outbox is due, and it will find these files. -/
structure ScanDue (m : DSNetManager) (names : List Bytes) : Prop where
  online : m.Online
  outbox : m.myOutboxDirectory ≠ []
  succeeds : m.disk.Succeeds
  due : m.myOutboxDirty = true ∨ timeAfter m.nowMs.1 m.myNextOutboxScan = true
  listed : names = (m.disk.listFilesWithExtension (ascii ".warp")).1
  distinct : names.Nodup

theorem ScanDue.scans {m : DSNetManager} {names : List Bytes} (h : m.ScanDue names) : m.Scans :=
  ⟨h.online, h.outbox, h.due⟩

/-- A scan deals with a front of the files, and with all of them unless the connection fails. -/
theorem handles_scanIfOnline (m : DSNetManager) (names : List Bytes) (hdue : m.ScanDue names)
    (hfit : FilesWithin 2147483635 m names) :
    ∃ sent rest, names = sent ++ rest ∧ (rest ≠ [] → ¬ m.scanIfOnline.Online) ∧
      Sweep.Apart badPath (sent.map (m.myOutboxDirectory ++ ·)) ∧
      Handles m (sent.map (m.myOutboxDirectory ++ ·)) m.scanIfOnline := by
  have hwarp : ∀ name ∈ names, WarpName name :=
    fun name hname => warpName_listed m.disk name (hdue.listed ▸ hname)
  have hapart := apart_listed m.myOutboxDirectory names hwarp hdue.distinct
  have hscan := scanIfOnline_scans hdue.scans
  have hnames : (m.nowMs.2.disk.listFilesWithExtension (ascii ".warp")).1 = names :=
    hdue.listed.symm
  rw [hnames] at hscan
  have hhandles := handles_sendOutboxFiles names
    { m.nowMs.2 with
      disk := (m.nowMs.2.disk.listFilesWithExtension (ascii ".warp")).2
      myOutboxDirty := false
      myNextOutboxScan := deadlineIn m.clock.head outboxRescanMs } hdue.succeeds hapart hfit
  rw [hscan]
  obtain ⟨sent, rest, hsplit, hhandled, hrest⟩ := hhandles
  refine ⟨sent, rest, hsplit, hrest, ?_, hhandled.files, hhandled.succeeds, hhandled.written,
    hhandled.postage⟩
  refine apart_listed _ sent (fun name hname => hwarp name ?_)
    (hsplit ▸ hdue.distinct).of_append_left
  rw [hsplit]
  exact List.mem_append_left _ hname

/-- **The outbox is drained.** While file operations succeed, a scan that is due deals with the
files one after another, until the connection fails: what is addressed is written to the server,
once and in order, and is removed; what is not is put aside; and no other file is touched. -/
theorem outbox_drained (m : DSNetManager) (names : List Bytes) (hdue : m.ScanDue names)
    (hfit : FilesWithin 2147483635 m names) :
    ∃ sent rest, names = sent ++ rest ∧ (rest ≠ [] → ¬ m.scanIfOnline.Online) ∧
      m.scanIfOnline.written = m.written ++
        ((sent.map (m.myOutboxDirectory ++ ·)).filterMap (Sweep.taken Addressed m.disk.files)).map
          (filePost m.myServerUIN m.myUserUIN) ∧
      (∀ name ∈ sent, m.scanIfOnline.disk.files (m.myOutboxDirectory ++ name) = none ∧
        (¬ Addressed (m.myOutboxDirectory ++ name) →
          m.scanIfOnline.disk.files (badPath (m.myOutboxDirectory ++ name)) =
            m.disk.files (m.myOutboxDirectory ++ name))) ∧
      ∀ path, (∀ name ∈ sent, path ≠ m.myOutboxDirectory ++ name ∧
          (¬ Addressed (m.myOutboxDirectory ++ name) → path ≠ badPath
            (m.myOutboxDirectory ++ name))) →
        m.scanIfOnline.disk.files path = m.disk.files path := by
  obtain ⟨sent, rest, hsplit, hrest, hapart, hhandled⟩ := handles_scanIfOnline m names hdue hfit
  refine ⟨sent, rest, hsplit, hrest, ?_, fun name hname => ⟨?_, fun hnobody => ?_⟩,
    fun path hpath => ?_⟩
  · rw [← Sweep.collected_eq hapart]
    exact hhandled.written
  · rw [hhandled.files]
    exact Sweep.swept_key hapart (List.mem_map_of_mem hname)
  · rw [hhandled.files]
    exact Sweep.swept_aside hapart (List.mem_map_of_mem hname) hnobody
  · rw [hhandled.files]
    refine Sweep.swept_other (fun hin => ?_) fun k hk hnobody => ?_
    · obtain ⟨name, hname, hsame⟩ := List.mem_map.mp hin
      exact (hpath name hname).1 hsame.symm
    · obtain ⟨name, hname, rfl⟩ := List.mem_map.mp hk
      exact (hpath name hname).2 hnobody

/-- A client with a file for user 7 in its outbox, and one for nobody. -/
def stocked : DSNetManager :=
  { freshOnline with
    myServerUIN := ⟨1, 1⟩
    myUserUIN := ⟨5, 1⟩
    myOutboxDirectory := ascii "out/"
    disk := { (Disk.blank.put (ascii "out/0T-7+1.warp") (some [1, 2, 3])).put (ascii "out/old.warp")
      (some [4]) with
      listings := .const [ascii "0T-7+1.warp", ascii "old.warp"] } }

theorem scanDue_stocked : stocked.ScanDue [ascii "0T-7+1.warp", ascii "old.warp"] :=
  ⟨⟨rfl, rfl⟩, by decide, rfl, Or.inl rfl, by decide +kernel, by decide⟩

theorem filesWithin_stocked :
    FilesWithin 33554396 stocked [ascii "0T-7+1.warp", ascii "old.warp"] := by
  intro name hname contents hcontents
  simp only [List.mem_cons, List.not_mem_nil, or_false] at hname
  rcases hname with rfl | rfl
  · cases (show some [1, 2, 3] = some contents from hcontents)
    decide
  · cases (show some [4] = some contents from hcontents)
    decide

/-- The file for user 7 is written, and the one for nobody is put aside. -/
theorem outbox_drained_stocked :
    stocked.scanIfOnline.written = [filePost ⟨1, 1⟩ ⟨5, 1⟩ (ascii "out/0T-7+1.warp", [1, 2, 3])] ∧
      stocked.scanIfOnline.disk.files (ascii "out/0T-7+1.warp") = none ∧
      stocked.scanIfOnline.disk.files (ascii "out/old.warp.bad") = some [4] := by
  obtain ⟨sent, rest, hsplit, hrest, hwritten, hdone, _⟩ :=
    outbox_drained stocked _ scanDue_stocked (filesWithin_stocked.mono (by decide))
  have hall : rest = [] := by
    by_contra hsome
    exact hrest hsome (by decide +kernel)
  rw [hall, List.append_nil] at hsplit
  subst hsplit
  refine ⟨hwritten.trans (by decide +kernel), (hdone (ascii "0T-7+1.warp") (by decide)).1, ?_⟩
  exact ((hdone (ascii "old.warp") (by decide)).2 (by decide +kernel)).trans (by decide +kernel)

end DSNetManager
end NetNatsue
