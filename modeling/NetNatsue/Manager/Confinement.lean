import NetNatsue.Manager.Spooling
import NetNatsue.Manager.Rests

/-! The files on the disk over a whole run, whatever file operations fail. Files come in under new
names in the inbox and go out of the outbox; nothing else is touched, and no file is ever torn. -/
namespace NetNatsue

namespace Disk

theorem remove_files (d : Disk) (path other : Bytes) :
    (d.remove path).files other = d.files other ∨ other = path ∧ (d.remove path).files
    other = none := by
  by_cases hother : other = path
  · simp only [remove]
    split_ifs
    · exact Or.inr ⟨hother, by rw [hother]; exact Function.update_self _ _ _⟩
    · exact Or.inl rfl
  · exact Or.inl (d.remove_other hother)

theorem rename_files (d : Disk) (source target other : Bytes) :
    (d.rename source target).2.files other = d.files other ∨
      other = source ∧ (d.rename source target).2.files other = none ∨
      other = target ∧ (d.rename source target).2.files other = d.files source := by
  simp only [rename]
  cases hsource : d.outcome.2.files source with
  | none => exact Or.inl rfl
  | some contents =>
    change d.files source = some contents at hsource
    simp only
    split_ifs
    · by_cases hother : other = source
      · exact Or.inr (Or.inl ⟨hother, by rw [hother]; exact Function.update_self _ _ _⟩)
      · have hput : ∀ e : Disk, (e.put source none).files other = e.files other :=
          fun e => Function.update_of_ne hother _ _
        by_cases htarget : other = target
        · refine Or.inr (Or.inr ⟨htarget, ?_⟩)
          rw [hput, htarget, hsource]
          exact Function.update_self _ _ _
        · refine Or.inl ?_
          rw [hput]
          exact Function.update_of_ne htarget _ _
    · exact Or.inl rfl

/-- Where a write has got to, or has broken off: the file is there as a whole, or it is not there,
and only beside it there may be less. -/
def Writing (d : Disk) (path contents : Bytes) (now : Disk) : Prop :=
  ∀ other, now.files other = d.files other ∨
    other = path ∧ (now.files other = none ∨ now.files other = some contents) ∨
    other = path ++ ascii ".tmp" ∧
      (now.files other = none ∨ now.files other = some [] ∨ now.files other = some contents)

section
variable {d now : Disk} {path contents : Bytes}

theorem Writing.put (h : d.Writing path contents now) {part : Bytes} (hpart : part = [] ∨
    part = contents) :
    d.Writing path contents (now.put (path ++ ascii ".tmp") (some part)) := by
  intro other
  by_cases hother : other = path ++ ascii ".tmp"
  · refine Or.inr (Or.inr ⟨hother, Or.inr ?_⟩)
    have hput : (now.put (path ++ ascii ".tmp") (some part)).files other = some part := by
      rw [hother]
      exact Function.update_self _ _ _
    rw [hput]
    exact hpart.imp (congrArg some) (congrArg some)
  · have hput : (now.put (path ++ ascii ".tmp") (some part)).files other = now.files other :=
      Function.update_of_ne hother _ _
    rw [hput]
    exact h other

theorem Writing.remove (h : d.Writing path contents now) {target : Bytes}
    (htarget : target = path ∨ target = path ++ ascii ".tmp") :
    d.Writing path contents (now.remove target) := by
  intro other
  rcases now.remove_files target other with hkept | ⟨hother, hgone⟩
  · rw [hkept]
    exact h other
  · rw [hgone, hother]
    exact Or.inr (htarget.imp (fun hpath => ⟨hpath, Or.inl rfl⟩) fun htemporary =>
      ⟨htemporary, Or.inl rfl⟩)

theorem Writing.rename (h : d.Writing path contents now)
    (hsource : now.files (path ++ ascii ".tmp") = some contents) :
    d.Writing path contents (now.rename (path ++ ascii ".tmp") path).2 := by
  intro other
  rcases now.rename_files (path ++ ascii ".tmp") path other with hkept | ⟨hother, hgone⟩ |
    ⟨hother, hmoved⟩
  · rw [hkept]
    exact h other
  · exact Or.inr (Or.inr ⟨hother, Or.inl hgone⟩)
  · exact Or.inr (Or.inl ⟨hother, Or.inr (hmoved.trans hsource)⟩)

end

theorem writing_write (d : Disk) (path contents : Bytes) :
    d.Writing path contents (d.writeWholeFileAtomic path contents).2 := by
  have hopen : d.Writing path contents d.outcome.2 := fun _ => Or.inl rfl
  have hwrite : d.Writing path contents d.outcome.2.outcome.2 := fun _ => Or.inl rfl
  simp only [writeWholeFileAtomic]
  generalize d.outcome.2.outcome.2 = now at *
  have hfull : d.Writing path contents (now.put (path ++ ascii ".tmp") (some contents)) :=
    hwrite.put (Or.inr rfl)
  have hremoved := hfull.remove (Or.inl rfl)
  have hsource : ((now.put (path ++ ascii ".tmp") (some contents)).remove path).files
    (path ++ ascii ".tmp") =
      some contents := by
    rw [remove_other _ (temporary_ne path)]
    exact Function.update_self _ _ _
  split_ifs
  · exact hremoved.rename hsource
  · exact (hremoved.rename hsource).remove (Or.inr rfl)
  · exact (hwrite.put (Or.inl rfl)).remove (Or.inr rfl)
  · exact hopen

end Disk

theorem WarpName.warp {name : Bytes} (h : WarpName name) (directory : Bytes) :
    Disk.Warp (directory ++ name) := by
  obtain ⟨stem, _, rfl⟩ := h
  rw [Disk.Warp, ← List.append_assoc]
  exact List.suffix_append _ _

/-- The name that a file is put aside under. -/
def badPath (path : Bytes) : Bytes := path ++ ascii ".bad"

theorem badPath_not_warp {path other : Bytes} (h : Disk.Warp other) : badPath path ≠ other := by
  rintro rfl
  have hsuffix : ascii ".bad" <:+ ascii ".warp" :=
    List.suffix_of_suffix_length_le (List.suffix_append path (ascii ".bad")) h (by decide)
  exact absurd hsuffix (by decide)

/-- A file is as it was; it has come in, whole, under a name that was free; it was being written; or
it has gone out. -/
inductive Fate (inboxes outboxes : Set Bytes) (events : List Event) (path : Bytes)
    (before after : Option Bytes) :
    Prop
  | same (h : after = before)
  | stored (inbox : Bytes) (serial : UInt32) (sender : BabelUIN) (payload : Bytes)
    (hinbox : inbox ∈ inboxes)
    (hpath : path = inbox ++ spoolName serial sender) (hfree : before = none)
    (hwhole : after = some payload) (hspooled : .spooled inbox sender payload ∈ events)
  | temporary (inbox : Bytes) (serial : UInt32) (sender : BabelUIN) (hinbox : inbox ∈ inboxes)
    (hpath : path = inbox ++ spoolName serial sender ++ ascii ".tmp")
  | outgoing (outbox name : Bytes) (houtbox : outbox ∈ outboxes) (hname : WarpName name)
    (hpath : path = outbox ++ name ∨ path = outbox ++ name ++ ascii ".bad")

/-- Contents that were there before, under this name or under that of the warp file that has been
put aside under it; or that have come in; or the beginning of a file that is being written. -/
def Whole (files : Bytes → Option Bytes) (events : List Event) (path contents : Bytes) : Prop :=
  (∃ origin, (origin = path ∨ Disk.Warp origin ∧ path = badPath origin) ∧
    files origin = some contents) ∨
    (∃ inbox sender, Event.spooled inbox sender contents ∈ events) ∨
    ∃ file, path = file ++ ascii ".tmp"

section
variable {inboxes outboxes : Set Bytes} {events more : List Event} {path : Bytes}

theorem Fate.trans {before between after : Option Bytes}
    (h : Fate inboxes outboxes events path before between) (h' : Fate inboxes outboxes more path
      between after) :
    Fate inboxes outboxes (events ++ more) path before after := by
  cases h' with
  | same hsame =>
    subst hsame
    cases h with
    | same hsame => exact .same hsame
    | stored inbox serial sender payload hinbox hpath hfree hwhole hspooled =>
      exact .stored inbox serial sender payload hinbox hpath hfree hwhole
        (List.mem_append_left _ hspooled)
    | temporary inbox serial sender hinbox hpath =>
      exact .temporary inbox serial sender hinbox hpath
    | outgoing outbox name houtbox hname hpath => exact .outgoing outbox name houtbox hname hpath
  | stored inbox serial sender payload hinbox hpath hfree hwhole hspooled =>
    cases h with
    | same hsame =>
      rw [hfree] at hsame
      exact .stored inbox serial sender payload hinbox hpath hsame.symm hwhole
        (List.mem_append_right _ hspooled)
    | stored _ _ _ _ _ _ _ hthere => exact absurd (hfree.symm.trans hthere) (by simp)
    | temporary inbox serial sender hinbox hpath =>
      exact .temporary inbox serial sender hinbox hpath
    | outgoing outbox name houtbox hname hpath => exact .outgoing outbox name houtbox hname hpath
  | temporary inbox serial sender hinbox hpath => exact .temporary inbox serial sender hinbox hpath
  | outgoing outbox name houtbox hname hpath => exact .outgoing outbox name houtbox hname hpath

theorem Whole.trans {files between : Bytes → Option Bytes} {contents : Bytes}
    (hbetween : ∀ path contents, between path = some contents → Whole files events path contents)
    (h : Whole between more path contents) : Whole files (events ++ more) path contents := by
  rcases h with ⟨origin, horigin, hthere⟩ | ⟨inbox, sender, hspooled⟩ | hpart
  · rcases hbetween origin contents hthere with ⟨first, hfirst, hfiles⟩ |
      ⟨inbox, sender, hspooled⟩ | ⟨file, rfl⟩
    · refine Or.inl ⟨first, ?_, hfiles⟩
      rcases hfirst with rfl | ⟨hwarp, rfl⟩
      · exact horigin
      · refine Or.inr ⟨hwarp, ?_⟩
        rcases horigin with hsame | ⟨hwarp', _⟩
        · exact hsame.symm
        · exact absurd rfl (badPath_not_warp hwarp')
    · exact Or.inr (Or.inl ⟨inbox, sender, List.mem_append_left _ hspooled⟩)
    · rcases horigin with hsame | ⟨hwarp, _⟩
      · exact Or.inr (Or.inr ⟨file, hsame.symm⟩)
      · exact absurd rfl (Disk.warp_not_temporary hwarp)
  · exact Or.inr (Or.inl ⟨inbox, sender, List.mem_append_right _ hspooled⟩)
  · exact Or.inr (Or.inr hpart)

end

namespace DSNetManager

/-- From one state to the other the files are treated as they should be. -/
structure Tends (inboxes outboxes : Set Bytes) (m n : DSNetManager) (events : List Event) :
    Prop where
  trace : n.trace = m.trace ++ events
  fate : ∀ path, Fate inboxes outboxes events path (m.disk.files path) (n.disk.files path)
  whole : ∀ path contents, n.disk.files path = some contents → Whole m.disk.files
    events path contents

section
variable {inboxes outboxes : Set Bytes} {m n k : DSNetManager} {events more : List Event}

theorem Tends.trans (h : Tends inboxes outboxes m n events) (h' : Tends inboxes outboxes n k more) :
    Tends inboxes outboxes m k (events ++ more) where
  trace := by rw [h'.trace, h.trace, List.append_assoc]
  fate path := (h.fate path).trans (h'.fate path)
  whole path contents hthere := Whole.trans h.whole (h'.whole path contents hthere)

theorem tends_of_eq (htrace : n.trace = m.trace ++ events) (hfiles : n.disk.files = m.disk.files) :
    Tends inboxes outboxes m n events where
  trace := htrace
  fate path := .same (by rw [hfiles])
  whole path contents hthere := Or.inl ⟨path, Or.inl rfl, by rw [← hfiles, hthere]⟩

theorem Rests.tends (h : Rests m n) : ∃ events, Tends inboxes outboxes m n events := by
  obtain ⟨events, htrace⟩ := h.trace
  exact ⟨events, tends_of_eq htrace (congrArg Prod.fst h.kept)⟩

/-- A file comes in. -/
theorem tends_spoolPrayFile (m : DSNetManager) (sender : BabelUIN) (payload : Bytes)
    (hinbox : m.myInboxDirectory ≠ [] → m.myInboxDirectory ∈ inboxes) :
    Tends inboxes outboxes m (m.spoolPrayFile sender payload)
      [.spooled m.myInboxDirectory sender payload] := by
  have hlost : (m.disk.spool m.myInboxDirectory sender payload).files = m.disk.files →
      Tends inboxes outboxes m (m.spoolPrayFile sender payload)
        [.spooled m.myInboxDirectory sender payload] :=
    fun hfiles => tends_of_eq rfl hfiles
  by_cases hnone : m.myInboxDirectory = []
  · exact hlost (by rw [Disk.spool, if_pos hnone])
  · cases hsearch : freeSpoolPath m.disk.time.2 m.myInboxDirectory sender serialCount
      m.disk.time.1 with
    | none =>
      refine hlost ?_
      rw [Disk.spool, if_neg hnone]
      simp only [hsearch]
      rfl
    | some path =>
      have hpath : m.disk.spoolPath m.myInboxDirectory sender = some path := by
        rw [Disk.spoolPath, if_neg hnone, hsearch]
      obtain ⟨serial, hname⟩ := freeSpoolPath_name hsearch
      have hfree : m.disk.time.2.files path = none := freeSpoolPath_free hsearch
      have hdisk : (m.spoolPrayFile sender payload).disk =
          (m.disk.time.2.writeWholeFileAtomic path payload).2 :=
        Disk.spool_of_path hpath payload
      have hspooled : Event.spooled m.myInboxDirectory sender payload ∈
          [Event.spooled m.myInboxDirectory sender payload] := List.mem_singleton_self _
      have hwriting := Disk.writing_write m.disk.time.2 path payload
      refine ⟨rfl, fun other => ?_, fun other contents hthere => ?_⟩
      · rw [hdisk]
        rcases hwriting other with hkept | ⟨rfl, hgone | hstored⟩ | ⟨rfl, _⟩
        · exact .same hkept
        · exact .same (hgone.trans hfree.symm)
        · exact .stored _ serial sender payload (hinbox hnone) hname hfree hstored hspooled
        · exact .temporary _ serial sender (hinbox hnone) (by rw [hname])
      · rw [hdisk] at hthere
        rcases hwriting other with hkept | ⟨_, hgone | hstored⟩ | ⟨rfl, _⟩
        · exact Or.inl ⟨other, Or.inl rfl, hkept.symm.trans hthere⟩
        · exact absurd (hgone.symm.trans hthere) (by simp)
        · cases hstored.symm.trans hthere
          exact Or.inr (Or.inl ⟨_, _, hspooled⟩)
        · exact Or.inr (Or.inr ⟨path, rfl⟩)

/-- A file goes out. -/
theorem tends_discard (m : DSNetManager) (name : Bytes) (houtbox : m.myOutboxDirectory ∈ outboxes)
    (hname : WarpName name) :
    Tends inboxes outboxes m (m.onDisk (m.disk.remove (m.myOutboxDirectory ++ name))) [] := by
  refine ⟨(List.append_nil _).symm, fun path => ?_, fun path contents hthere => ?_⟩
  · rcases m.disk.remove_files (m.myOutboxDirectory ++ name) path with hkept | ⟨hpath, _⟩
    · exact .same hkept
    · exact .outgoing _ name houtbox hname (Or.inl hpath)
  · rcases m.disk.remove_files (m.myOutboxDirectory ++ name) path with hkept | ⟨_, hgone⟩
    · exact Or.inl ⟨path, Or.inl rfl, hkept.symm.trans hthere⟩
    · exact absurd (hgone.symm.trans hthere) (by simp)

/-- A file that is for nobody is put aside as it is. -/
theorem tends_setAside (m : DSNetManager) (name : Bytes) (houtbox : m.myOutboxDirectory ∈ outboxes)
    (hname : WarpName name) :
    Tends inboxes outboxes m (m.setAside (m.myOutboxDirectory ++ name)) [] := by
  have hwarp := hname.warp m.myOutboxDirectory
  have hremoved : (m.disk.remove (m.myOutboxDirectory ++ name ++ ascii ".bad")).files
      (m.myOutboxDirectory ++ name) = m.disk.files (m.myOutboxDirectory ++ name) := by
    refine m.disk.remove_other ?_
    intro hsame
    have hlength := congrArg List.length hsame
    rw [List.length_append] at hlength
    simp [ascii] at hlength
  generalize hsource : m.myOutboxDirectory ++ name = source at *
  refine ⟨(List.append_nil _).symm, fun path => ?_, fun path contents hthere => ?_⟩
  · rcases (m.disk.remove (source ++ ascii ".bad")).rename_files source
      (source ++ ascii ".bad") path with
      hkept | ⟨hpath, _⟩ | ⟨hpath, _⟩
    · rcases m.disk.remove_files (source ++ ascii ".bad") path with hkept' | ⟨hpath, _⟩
      · exact .same (hkept.trans hkept')
      · exact .outgoing _ name houtbox hname (Or.inr (by rw [hpath, hsource]))
    · exact .outgoing _ name houtbox hname (Or.inl (by rw [hpath, hsource]))
    · exact .outgoing _ name houtbox hname (Or.inr (by rw [hpath, hsource]))
  · change ((m.disk.remove (source ++ ascii ".bad")).rename source (source ++ ascii ".bad")).2.files
      path =
      some contents at hthere
    rcases (m.disk.remove (source ++ ascii ".bad")).rename_files source
      (source ++ ascii ".bad") path with
      hkept | ⟨_, hgone⟩ | ⟨hpath, hmoved⟩
    · rw [hkept] at hthere
      rcases m.disk.remove_files (source ++ ascii ".bad") path with hkept' | ⟨_, hgone⟩
      · exact Or.inl ⟨path, Or.inl rfl, hkept'.symm.trans hthere⟩
      · exact absurd (hgone.symm.trans hthere) (by simp)
    · exact absurd (hgone.symm.trans hthere) (by simp)
    · rw [hmoved, hremoved] at hthere
      exact Or.inl ⟨source, Or.inr ⟨hwarp, hpath⟩, hthere⟩

/-- Files are received into, and sent from, some of these directories. -/
structure Granted (inboxes outboxes : Set Bytes) (m : DSNetManager) : Prop where
  inbox : m.myInboxDirectory ≠ [] → m.myInboxDirectory ∈ inboxes
  outbox : m.myOutboxDirectory ≠ [] → m.myOutboxDirectory ∈ outboxes

theorem Granted.of_eq (h : Granted inboxes outboxes m)
    (hinbox : n.myInboxDirectory = m.myInboxDirectory)
    (houtbox : n.myOutboxDirectory = m.myOutboxDirectory) : Granted inboxes outboxes n := by
  refine ⟨?_, ?_⟩
  · rw [hinbox]
    exact h.inbox
  · rw [houtbox]
    exact h.outbox

theorem Rests.granted (h : Rests m n) (hm : Granted inboxes outboxes m) :
    Granted inboxes outboxes n :=
  hm.of_eq (congrArg (fun b => b.2.1) h.kept) (congrArg (fun b => b.2.2.1) h.kept)

/-- What the deeds of a call come to. -/
abbrev Tended (inboxes outboxes : Set Bytes) (m n : DSNetManager) : Prop :=
  Granted inboxes outboxes n ∧ ∃ events, Tends inboxes outboxes m n events

theorem Rests.tended (h : Rests m n) (hm : Granted inboxes outboxes m) :
    Tended inboxes outboxes m n :=
  ⟨h.granted hm, h.tends⟩

theorem Heeded.tended (h : Heeded m n) (hm : Granted inboxes outboxes m) :
    Tended inboxes outboxes m n := by
  rcases h.rests_or_spools with hrests | ⟨k, sender, payload, hrests, rfl⟩
  · exact hrests.tended hm
  · obtain ⟨hk, events, htends⟩ := hrests.tended hm
    exact ⟨hk.of_eq rfl rfl, _, htends.trans (tends_spoolPrayFile k sender payload hk.inbox)⟩

theorem tended_configure (op : Op) (m : DSNetManager) (h : op.configures = true)
    (hquiet : ∀ disk, op ≠ .environment disk) (hm : Granted inboxes outboxes m)
    (hinbox : ∀ dir, op = .setInboxDirectory dir → ensureTrailingSeparator dir ≠ [] →
      ensureTrailingSeparator dir ∈ inboxes)
    (houtbox : ∀ dir, op = .setOutboxDirectory dir → ensureTrailingSeparator dir ≠ [] →
      ensureTrailingSeparator dir ∈ outboxes) : Tended inboxes outboxes m (op.run m).2 := by
  refine ⟨?_, [], tends_of_eq ?_ ?_⟩
  · cases op with
    | setInboxDirectory dir => exact ⟨hinbox dir rfl, hm.outbox⟩
    | setOutboxDirectory dir => exact ⟨hm.inbox, houtbox dir rfl⟩
    | overrideHost | setClientMode | setUser | setServerList | queueMessage =>
      exact hm.of_eq rfl rfl
    | environment disk => exact absurd rfl (hquiet disk)
    | _ => cases h
  · cases op with
    | setInboxDirectory | setOutboxDirectory | overrideHost | setClientMode | setUser | setServerList
    | queueMessage => exact (List.append_nil _).symm
    | environment disk => exact absurd rfl (hquiet disk)
    | _ => cases h
  · cases op with
    | setInboxDirectory | setOutboxDirectory | overrideHost | setClientMode | setUser | setServerList
    | queueMessage => rfl
    | environment disk => exact absurd rfl (hquiet disk)
    | _ => cases h

theorem Deed.tended {op : Op} (h : Deed op m n) (hquiet : ∀ disk, op ≠ .environment disk)
    (hm : Granted inboxes outboxes m)
    (hinbox : ∀ dir, op = .setInboxDirectory dir → ensureTrailingSeparator dir ≠ [] →
      ensureTrailingSeparator dir ∈ inboxes)
    (houtbox : ∀ dir, op = .setOutboxDirectory dir → ensureTrailingSeparator dir ≠ [] →
      ensureTrailingSeparator dir ∈ outboxes) : Tended inboxes outboxes m n := by
  cases h with
  | books _ _ _ hbooks => exact hbooks.rests.tended hm
  | heeded _ _ _ hheeded => exact hheeded.tended hm
  | say _ _ packet => exact (spares_socketWrite m packet).rests.tended hm
  | attempt _ users =>
    obtain ⟨host, port, deadline, htrace, hkept⟩ := attemptFor_belongings m users
    exact ⟨hm.of_eq (congrArg (fun b => b.2.1) hkept) (congrArg (fun b => b.2.2.1) hkept), _,
      tends_of_eq htrace (congrArg Prod.fst hkept)⟩
  | hangUp => exact Rests.tended ⟨rfl, [.ended], rfl⟩ hm
  | configure _ _ hop => exact tended_configure op m hop hquiet hm hinbox houtbox
  | unqueue message messages =>
    exact ⟨hm.of_eq rfl rfl, [], tends_of_eq (List.append_nil _).symm rfl⟩
  | handOut _ _ d hfiles | list _ d _ hfiles =>
    exact ⟨hm.of_eq rfl rfl, [], tends_of_eq (List.append_nil _).symm hfiles⟩
  | setAside _ name hsome hname =>
    exact ⟨hm.of_eq rfl rfl, [], tends_setAside m name (hm.outbox hsome) hname⟩
  | discard _ name hsome hname =>
    exact ⟨hm.of_eq rfl rfl, [], tends_discard m name (hm.outbox hsome) hname⟩

end

/-- The directories that files are received into in the course of a run. -/
def inboxes (ops : List Op) (m : DSNetManager) : Set Bytes :=
  {inbox | inbox ≠ [] ∧ (inbox = m.myInboxDirectory ∨
    ∃ dir, .setInboxDirectory dir ∈ ops ∧ inbox = ensureTrailingSeparator dir)}

/-- The directories that files are sent from in the course of a run. -/
def outboxes (ops : List Op) (m : DSNetManager) : Set Bytes :=
  {outbox | outbox ≠ [] ∧ (outbox = m.myOutboxDirectory ∨
    ∃ dir, .setOutboxDirectory dir ∈ ops ∧ outbox = ensureTrailingSeparator dir)}

theorem runOps_tends (ops : List Op) (m : DSNetManager)
    (hquiet : ∀ disk, Op.environment disk ∉ ops) :
    ∃ events, Tends (inboxes ops m) (outboxes ops m) m (runOps ops m).2 events := by
  refine (runOps_keeps ops (Tended (inboxes ops m) (outboxes ops m) m) m ?_ ?_).2
  · refine ⟨⟨fun hsome => ⟨hsome, Or.inl rfl⟩, fun hsome => ⟨hsome, Or.inl rfl⟩⟩, [],
      tends_of_eq ?_ rfl⟩
    exact (List.append_nil _).symm
  · rintro op hop k n hdeed ⟨hk, events, htends⟩
    have hstep : Tended (inboxes ops m) (outboxes ops m) k n := by
      refine hdeed.tended (fun disk hdisk => hquiet disk (hdisk ▸ hop)) hk ?_ ?_
      · rintro dir rfl hsome
        exact ⟨hsome, Or.inr ⟨dir, hop, rfl⟩⟩
      · rintro dir rfl hsome
        exact ⟨hsome, Or.inr ⟨dir, hop, rfl⟩⟩
    obtain ⟨hn, more, htends'⟩ := hstep
    exact ⟨hn, _, htends.trans htends'⟩

end DSNetManager

open DSNetManager

/-- A client with a message from user 5 in its buffer. -/
def mailed : DSNetManager :=
  freshOnline.receive (({ type := packetMessage, furtherData := 37 } : PacketHeader).write ++
    putInt 0 ++ putInt 1 ++
    putInt 5 ++ putInt 13 ++ putInt 0 ++ putInt 1 ++ prayPayload [7])

/-- **No file is torn.** Wherever file operations fail, what a file holds was there before, or was
in the file that has been put aside under its name, or has come in as a message, or the file is a
temporary one. -/
theorem files_whole (ops : List Op) (m : DSNetManager)
    (hquiet : ∀ disk, Op.environment disk ∉ ops) :
    ∃ events, (runOps ops m).2.trace = m.trace ++ events ∧
      ∀ path contents, (runOps ops m).2.disk.files path = some contents →
        Whole m.disk.files events path contents := by
  obtain ⟨events, htends⟩ := runOps_tends ops m hquiet
  exact ⟨events, htends.trace, htends.whole⟩

theorem files_whole_mailed :
    ∃ events, (runOps [.setInboxDirectory (ascii "in"), .tick] mailed).2.trace =
      mailed.trace ++ events ∧
      Whole mailed.disk.files events (ascii "in/0T-5+1.warp") [7] := by
  obtain ⟨events, htrace, hwhole⟩ :=
    files_whole [.setInboxDirectory (ascii "in"), .tick] mailed (by simp)
  exact ⟨events, htrace, hwhole _ _ (by decide +kernel)⟩

end NetNatsue
