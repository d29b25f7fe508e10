import NetNatsue.Manager.Delivery
import NetNatsue.Manager.SpoolNames

/-! The calls that send the files of the outbox, over a whole run. -/
namespace NetNatsue

open DSNetManager

/-- One call of `SendOutboxFile`: the state it is made in, and the file. -/
structure SendCall where
  start : DSNetManager
  path : Bytes

namespace SendCall

def ok (c : SendCall) : Bool := (c.start.sendOutboxFile c.path).1

/-- The state the call leaves. -/
def after (c : SendCall) : DSNetManager := (c.start.sendOutboxFile c.path).2

/-- The packet the call builds from the file, if it gets so far. -/
def packet (c : SendCall) : Option Bytes :=
  let target := userFromSpoolName (baseName c.path)
  if target = [] then none
  else
    match (c.start.disk.readWholeFile c.path).1 with
    | none => none
    | some contents =>
      let payload := prayPayload contents
      if ¬ (BabelUIN.fromString target).1 then none
      else if ¬ c.start.Online ∨ sizeInt payload < 0 then none
      else some (c.start.messagePacket target payload (sizeInt payload))

/-- The operating system has accepted the packet of the call to its end. -/
def Sent (c : SendCall) (n : DSNetManager) : Prop :=
  ∃ packet, c.packet = some packet ∧ Outgoing.Lies
    (n.mySocket.os.accepted c.start.mySocket.os.connection) c.start.mySocket.line.length packet

/-- If the call comes to delete the file, that succeeds. -/
def Deletes (c : SendCall) : Prop :=
  c.packet.isSome = true → c.ok = true →
    ((c.start.disk.readWholeFile c.path).2.remove c.path).files c.path = none

instance (c : SendCall) : Decidable c.Deletes := inferInstanceAs (Decidable (_ → _ → _))

end SendCall

namespace DSNetManager

/-- The calls `ScanOutbox` makes for the files of one scan. -/
def fileCalls : List Bytes → DSNetManager → List SendCall
  | [], _ => []
  | name :: names, m =>
    if ¬ m.Online then []
    else
      let c : SendCall := ⟨m, m.myOutboxDirectory ++ name⟩
      if ¬ c.ok then [c] else c :: fileCalls names c.after

/-- The calls of one scan. -/
def scanCalls (m : DSNetManager) : List SendCall :=
  if ¬ m.Online then []
  else if m.myOutboxDirectory = [] then []
  else
    let t := m.nowMs
    if ¬ m.myOutboxDirty ∧ ¬ timeAfter t.1 m.myNextOutboxScan then []
    else
      let names := t.2.disk.listFilesWithExtension (ascii ".warp")
      fileCalls names.1
        { t.2 with
          disk := names.2
          myOutboxDirty := false
          myNextOutboxScan := deadlineIn t.1 outboxRescanMs }

end DSNetManager

/-- The states in which the scans of a run of calls begin. -/
def scanStates : List Op → DSNetManager → List DSNetManager
  | [], _ => []
  | op :: ops, m =>
    let later := if (op.run m).1 then scanStates ops (op.run m).2 else []
    match op with
    | .scan => m :: later
    | _ => later

/-- All calls of `SendOutboxFile` in a run of calls. -/
def sendCalls (ops : List Op) (m : DSNetManager) : List SendCall :=
  (scanStates ops m).flatMap scanCalls

theorem DSNetManager.moves_steps {m n : DSNetManager} (h : Steps m n) :
    m.mySocket.Moves n.mySocket := by
  induction h with
  | refl => exact .refl
  | tail _ hstep ih => exact ih.trans hstep.moves

theorem Disk.readWholeFile_some {d : Disk} {path contents : Bytes}
    (h : (d.readWholeFile path).1 = some contents) : d.files path = some contents := by
  change (if d.outcomes.head = true then d.files path else none) = some contents at h
  split_ifs at h
  exact h

namespace SendCall

variable {c : SendCall}

/-- From a packet the call goes on to the socket and the disk. -/
theorem sendOutboxFile_packet {packet : Bytes} (h : c.packet = some packet) :
    packet ≠ [] ∧ (∃ contents, c.start.disk.files c.path = some contents) ∧
      c.start.sendOutboxFile c.path =
        let d := (c.start.disk.readWholeFile c.path).2
        let r := (c.start.onDisk d).socketWrite packet
        if ¬ r.1 then (false, r.2.connectionLost)
        else (true, (r.2.onDisk (r.2.disk.remove c.path)).emit
          (.posted c.path c.start.mySocket.os.connection c.start.mySocket.line.length packet)) := by
  by_cases htarget : userFromSpoolName (baseName c.path) = []
  · rw [SendCall.packet, if_pos htarget] at h
    cases h
  cases hread : (c.start.disk.readWholeFile c.path).1 with
  | none =>
    simp only [SendCall.packet, if_neg htarget, hread] at h
    cases h
  | some contents =>
    simp only [SendCall.packet, if_neg htarget, hread] at h
    split_ifs at h with huser hrefuse
    have hpacket := Option.some.inj h
    obtain ⟨hlong, -⟩ := buildMessage_length c.start.myServerUIN c.start.myUserUIN
      (BabelUIN.fromString (userFromSpoolName (baseName c.path))).2 (prayPayload contents)
      (sizeInt (prayPayload contents))
    have hsome : packet ≠ [] := List.ne_nil_of_length_pos (by rw [← hpacket, messagePacket]; omega)
    refine ⟨hsome, ⟨contents, Disk.readWholeFile_some hread⟩, ?_⟩
    have hparsed : BabelUIN.fromString (userFromSpoolName (baseName c.path)) =
        (true, (BabelUIN.fromString (userFromSpoolName (baseName c.path))).2) :=
      Prod.ext (by simpa using huser) rfl
    obtain ⟨honline, hsize⟩ := not_or.mp hrefuse
    simp only [sendOutboxFile, if_neg htarget, hread]
    rw [← hpacket]
    exact postFile_written hparsed (not_not.mp honline) hsize

/-- Nothing happens to any file unless the call goes well. -/
theorem after_files (h : c.ok = false) :
    (∃ contents, c.start.disk.files c.path = some contents) ∧ c.after.disk.files =
    c.start.disk.files := by
  simp only [ok, after, sendOutboxFile] at h ⊢
  split_ifs at h ⊢ with htarget
  cases hread : (c.start.disk.readWholeFile c.path).1 with
  | none => simp only [hread, Bool.true_eq_false] at h
  | some contents =>
    refine ⟨⟨contents, Disk.readWholeFile_some hread⟩, ?_⟩
    simp only [hread, postFile] at h ⊢
    split_ifs at h ⊢
    rw [postDirectMessage_disk]
    rfl

/-- The packet of a call that fails is not taken to its end at any later time. -/
theorem not_sent (h : c.ok = false) {n : DSNetManager} (hsteps : Steps c.after n) : ¬ c.Sent n := by
  rintro ⟨packet, hpacket, hlies⟩
  obtain ⟨hsome, -, hcall⟩ := sendOutboxFile_packet hpacket
  simp only [ok, after] at h hsteps
  rw [hcall] at h hsteps
  simp only at h hsteps
  split_ifs at h hsteps with hwrite
  -- the connection is closed with something of the packet left
  set r := (c.start.onDisk (c.start.disk.readWholeFile c.path).2).socketWrite packet with hr
  have hsocket : r.2.mySocket = (c.start.mySocket.write packet (sizeInt packet)).2 :=
    socketWrite_socket _ packet
  have hunsent := c.start.mySocket.write_unsent packet (sizeInt packet) hsome (by
    simpa [hr, socketWrite, onDisk] using hwrite)
  have hover : Outgoing.Over r.2.connectionLost.mySocket.outgoing
      c.start.mySocket.os.connection := by
    refine ⟨?_, fun _ => rfl⟩
    change _ ≤ r.2.mySocket.os.connection
    rw [hsocket, (c.start.mySocket.write_kept packet _).1]
  have htaken := (hover.moves (moves_steps hsteps)).2
  have hlast : n.mySocket.os.accepted c.start.mySocket.os.connection =
      r.2.mySocket.os.accepted c.start.mySocket.os.connection := htaken
  have hlength := hlies.length_le hsome
  rw [hlast, hsocket] at hlength
  omega

/-- A file whose packet was taken to its end is deleted. -/
theorem sent_deleted {n : DSNetManager} (hsteps : Steps c.after n) (hdeletes : c.Deletes)
    (h : c.Sent n) :
    c.start.disk.files c.path ≠ none ∧ c.after.disk.files c.path = none := by
  obtain ⟨packet, hpacket, -⟩ := id h
  obtain ⟨-, ⟨contents, hcontents⟩, hcall⟩ := sendOutboxFile_packet hpacket
  refine ⟨by simp [hcontents], ?_⟩
  have hok : c.ok = true := by
    by_contra hfailed
    exact not_sent (Bool.not_eq_true _ ▸ hfailed) hsteps h
  have hgone := hdeletes (Option.isSome_iff_exists.mpr ⟨packet, hpacket⟩) hok
  simp only [ok] at hok
  rw [hcall] at hok
  simp only [after]
  rw [hcall]
  simp only at hok ⊢
  split_ifs at hok ⊢
  change ((((c.start.onDisk (c.start.disk.readWholeFile c.path).2).socketWrite packet).2.disk.remove
    c.path).files c.path) = none
  rw [socketWrite_disk]
  exact hgone

end SendCall

namespace DSNetManager

/-- Steps lead from the end of every call to the end of the scan; a call that fails is the last. -/
theorem fileCalls_scan (names : List Bytes) (m : DSNetManager) {c : SendCall}
    (hc : c ∈ fileCalls names m)
    (hsome : m.myOutboxDirectory ≠ []) (hnames : ∀ name ∈ names, WarpName name) :
    Steps c.after (sendOutboxFiles names m) ∧ (c.ok = false →
      (∃ front, fileCalls names m = front ++ [c]) ∧ sendOutboxFiles names m = c.after) := by
  induction names generalizing m with
  | nil => cases hc
  | cons name names ih =>
    simp only [fileCalls, sendOutboxFiles] at hc ⊢
    by_cases honline : m.Online
    · rw [if_neg (not_not_intro honline)] at hc ⊢
      rw [if_neg (not_not_intro honline)]
      obtain ⟨first, hfirst⟩ : ∃ first : SendCall, first = ⟨m, m.myOutboxDirectory ++ name⟩ :=
        ⟨_, rfl⟩
      have hok : (m.sendOutboxFile (m.myOutboxDirectory ++ name)).1 = first.ok := by
        rw [hfirst]; rfl
      have hafter : (m.sendOutboxFile (m.myOutboxDirectory ++ name)).2 = first.after := by
        rw [hfirst]; rfl
      rw [← hfirst] at hc ⊢
      rw [hok, hafter]
      cases hresult : first.ok with
      | false =>
        simp only [hresult, Bool.false_eq_true, not_false_eq_true, if_true,
          List.mem_singleton] at hc ⊢
        subst hc
        exact ⟨.refl, fun _ => ⟨⟨[], rfl⟩, rfl⟩⟩
      | true =>
        have hlater : ∀ later ∈ names, WarpName later :=
          fun later h => hnames later (List.mem_cons_of_mem _ h)
        have hsome' : first.after.myOutboxDirectory ≠ [] := by
          rw [← hafter, (pieces_sendOutboxFile m name hsome (hnames name List.mem_cons_self)).2
            (hok.trans hresult)]
          exact hsome
        simp only [hresult, not_true_eq_false, if_false, List.mem_cons] at hc ⊢
        rcases hc with rfl | hc
        · refine ⟨(pieces_sendOutboxFiles names _ hsome' hlater).acts.steps, fun h => ?_⟩
          rw [hresult] at h
          cases h
        · obtain ⟨hsteps, hfails⟩ := ih _ hc hsome' hlater
          refine ⟨hsteps, fun h => ?_⟩
          obtain ⟨⟨front, hfront⟩, hend⟩ := hfails h
          exact ⟨⟨first :: front, by rw [hfront, List.cons_append]⟩, hend⟩
    · rw [if_pos honline] at hc
      cases hc

theorem scanCalls_scan (m : DSNetManager) {c : SendCall} (hc : c ∈ m.scanCalls) :
    Steps c.after m.scanIfOnline ∧ (c.ok = false →
      (∃ front, m.scanCalls = front ++ [c]) ∧ m.scanIfOnline = c.after) := by
  simp only [scanCalls, scanIfOnline, scanOutbox] at hc ⊢
  split_ifs at hc ⊢ with _ hoff
  · cases hc
  · cases hc
  · exact fileCalls_scan _ _ hc hoff (warpName_listed m.nowMs.2.disk)
  · cases hc

theorem scanStates_steps (ops : List Op) (m : DSNetManager) (hidle : m.waiting = none)
    {s : DSNetManager} (hs : s ∈ scanStates ops m) : Steps s.scanIfOnline (runOps ops m).2 := by
  induction ops generalizing m with
  | nil => cases hs
  | cons op ops ih =>
    obtain ⟨-, hreturned⟩ := op.acts_run m hidle
    have hlater : s ∈ (if (op.run m).1 then scanStates ops (op.run m).2 else []) →
        Steps s.scanIfOnline (runOps (op :: ops) m).2 := by
      intro hs
      simp only [runOps]
      split_ifs at hs ⊢ with hok
      · exact ih _ (hreturned hok) hs
      · cases hs
    cases op with
    | scan =>
      rcases List.mem_cons.mp hs with rfl | hs
      · exact (steps_runOps ops _ (hreturned rfl)).1
      · exact hlater hs
    | _ => exact hlater hs

end DSNetManager

/-- **No file is sent twice.** In every run in which files can be deleted, a call whose packet the
operating system accepts to its end finds the file in the outbox and leaves none under its path, so
a later call of which this is true as well has sent another file. A call that fails leaves all
files as they are and its packet unfinished, and ends its scan. -/
theorem file_sent_once (os : SocketOS) (clock : Stream' UInt32) (disk : Disk) (ops : List Op)
    (hdeletes : ∀ c ∈ sendCalls ops (construct os clock disk), c.Deletes) :
    (sendCalls ops (construct os clock disk)).Pairwise (fun c c' => c.path = c'.path →
      c.Sent (ran os clock disk ops) → c'.Sent (ran os clock disk ops) →
        c.after.disk.files c.path = none ∧ c'.start.disk.files c'.path ≠ none) ∧
    ∀ m ∈ scanStates ops (construct os clock disk), ∀ c ∈ m.scanCalls, c.ok = false →
      (∃ contents, c.start.disk.files c.path = some contents) ∧
        c.after.disk.files = c.start.disk.files ∧ ¬ c.Sent (ran os clock disk ops) ∧
        (∃ front, m.scanCalls = front ++ [c]) ∧ m.scanIfOnline = c.after := by
  have hsteps : ∀ m ∈ scanStates ops (construct os clock disk), ∀ c ∈ m.scanCalls,
      Steps c.after (ran os clock disk ops) := fun m hm c hc =>
    (scanCalls_scan m hc).1.trans (scanStates_steps ops _ rfl hm)
  constructor
  · have hgone : ∀ c ∈ sendCalls ops (construct os clock disk), c.Sent (ran os clock disk ops) →
        c.start.disk.files c.path ≠ none ∧ c.after.disk.files c.path = none := by
      intro c hc
      obtain ⟨m, hm, hcall⟩ := List.mem_flatMap.mp hc
      exact SendCall.sent_deleted (hsteps m hm c hcall) (hdeletes c hc)
    exact List.pairwise_of_forall_mem_list fun c hc c' hc' _ hsent hsent' =>
      ⟨(hgone c hc hsent).2, (hgone c' hc' hsent').1⟩
  · intro m hm c hc hfailed
    obtain ⟨hfile, hfiles⟩ := SendCall.after_files hfailed
    obtain ⟨hlast, hend⟩ := (scanCalls_scan m hc).2 hfailed
    exact ⟨hfile, hfiles, SendCall.not_sent hfailed (hsteps m hm c hc), hlast, hend⟩

/-- An operating system that cuts the packet of the first file off and takes it on the next
connection. -/
def cutOff : SocketOS :=
  .scripted [[.data loginResponse], [.data loginResponse]] [.took 54, .took 20, .failed 104,
    .took 54, .took 79]

def logInTwice : List Op := logInAndScan ++ logInAndScan

theorem file_sent_once_retried :
    let m :=
      construct cutOff (.const 0) { outboxDisk with listings := .const [ascii "1T-7+1.warp"] }
    let n :=
      ran cutOff (.const 0) { outboxDisk with listings := .const [ascii "1T-7+1.warp"] } logInTwice
    (sendCalls logInTwice m).Pairwise (fun c c' => c.path = c'.path → c.Sent n → c'.Sent n →
      c.after.disk.files c.path = none ∧ c'.start.disk.files c'.path ≠ none) ∧
    ∀ s ∈ scanStates logInTwice m, ∀ c ∈ s.scanCalls, c.ok = false →
      (∃ contents, c.start.disk.files c.path = some contents) ∧
        c.after.disk.files = c.start.disk.files ∧ ¬ c.Sent n ∧
        (∃ front, s.scanCalls = front ++ [c]) ∧ s.scanIfOnline = c.after :=
  file_sent_once cutOff (.const 0) _ logInTwice (by decide +kernel)

end NetNatsue
