import NetNatsue.Manager.Relay
import NetNatsue.Manager.Posting

/-! Mail from one client to another, from the outbox of the one through the server into the inbox of
the other. -/
namespace NetNatsue
open BabelUIN DSNetManager

/-- A message as it is on its way: whom it is from and for, and its payload with the header. -/
structure Mail where
  server : BabelUIN
  sender : BabelUIN
  target : BabelUIN
  payload : Bytes

namespace Mail

/-- A mail that a client can send and a server can pass on. -/
structure Fits (mail : Mail) : Prop where
  sender : 0 ≤ mail.sender.hid.toInt ∧ mail.sender.hid.toInt ≤ 65535
  long : 12 ≤ mail.payload.length
  short : 24 + mail.payload.length ≤ 33554432

/-- The packet in which the server passes it on. -/
def Relayed (mail : Mail) (packet : Bytes) : Prop :=
  ∃ header, RelayHeader header mail.payload.length ∧
    packet = relayed header (buildMessage mail.server mail.sender mail.target mail.payload
      (sizeInt mail.payload))

/-- What the engine is to get. -/
def message (mail : Mail) : Option IncomingMessage :=
  if getInt mail.payload 4 = mesgPrayFile then none
  else some { user := mail.sender.toString, type := getInt mail.payload 4, payload := mail.payload.drop 12 }

/-- What the inbox is to get. -/
def file (mail : Mail) : Option (BabelUIN × Bytes) :=
  if getInt mail.payload 4 = mesgPrayFile then some (mail.sender, mail.payload.drop 12) else none

end Mail

/-- Where a file from a user is when it has come into a directory. -/
structure Stored (inbox : Bytes) (before after : Disk) (file : BabelUIN × Bytes) (path : Bytes) :
    Prop where
  name : ∃ serial, path = inbox ++ spoolName serial file.1
  new : before.files path = none
  there : after.files path = some file.2

/-- Every file gets a path of its own, and no file that was there is lost. -/
theorem Disk.Succeeds.spoolAll {inbox : Bytes} (hinbox : inbox ≠ [])
    (files : List (BabelUIN × Bytes)) (d : Disk)
    (names : Finset Bytes) (hsucceeds : d.Succeeds) (hholds : d.Holds inbox names)
    (hfew : names.card + files.length < serialCount) :
    ∃ paths, List.Forall₂ (Stored inbox d (files.foldl (fun d file => d.spool inbox file.1 file.2)
      d)) files paths ∧
      paths.Nodup ∧ ∀ path contents, Disk.Warp path → d.files path = some contents →
        (files.foldl (fun d file => d.spool inbox file.1 file.2) d).files path = some contents := by
  induction files generalizing d names with
  | nil => exact ⟨[], .nil, List.nodup_nil, fun _ _ _ h => h⟩
  | cons file files ih =>
    rw [List.length_cons] at hfew
    obtain ⟨path, hpath, hgains, hsucceeds', name, hholds'⟩ :=
      hsucceeds.spool hinbox hholds (by omega) file.1 file.2
    have hcard := Finset.card_insert_le name names
    obtain ⟨paths, hstored, hdistinct, hkept⟩ := ih _ _ hsucceeds' hholds' (by omega)
    obtain ⟨serial, hname⟩ : ∃ serial, path = inbox ++ spoolName serial file.1 := by
      rw [Disk.spoolPath, if_neg hinbox] at hpath
      exact freeSpoolPath_name hpath
    have hfresh : path ∉ paths := by
      intro hin
      obtain ⟨i, hi, hsame⟩ := List.mem_iff_getElem.mp hin
      have hnew := (hstored.get (hstored.length_eq ▸ hi) hi).new
      rw [List.get_eq_getElem, hsame, hgains.stored] at hnew
      cases hnew
    refine ⟨path :: paths, .cons ⟨⟨serial, hname⟩, hgains.new,
      hkept path _ hgains.warp hgains.stored⟩ ?_,
      List.nodup_cons.mpr ⟨hfresh, hdistinct⟩, fun other contents hwarp hthere => ?_⟩
    · refine hstored.imp fun later other hother => ⟨hother.name, ?_, hother.there⟩
      obtain ⟨serial', hname'⟩ := hother.name
      have hwarp : Disk.Warp other := hname' ▸ Disk.warp_spoolName inbox serial' later.1
      rw [← hgains.kept other hwarp ?_]
      · exact hother.new
      · rintro rfl
        exact absurd (hgains.stored.symm.trans hother.new) (by simp)
    · refine hkept other contents hwarp ?_
      rw [hgains.kept other hwarp ?_, hthere]
      rintro rfl
      rw [hgains.new] at hthere
      cases hthere

namespace DSNetManager

/-- The mails have been taken in, in order, and nothing else has happened. -/
structure Takes (m : DSNetManager) (mails : List Mail) (n : DSNetManager) : Prop where
  phase : n.myConnectPhase = m.myConnectPhase
  socket : n.mySocket = m.mySocket
  inbox : n.myInboxDirectory = m.myInboxDirectory
  messages : n.myIncomingMessages = m.myIncomingMessages ++ mails.filterMap Mail.message
  spooled : n.trace.filterMap Event.spooledFile =
    m.trace.filterMap Event.spooledFile ++ mails.filterMap Mail.file
  disk : n.disk = (mails.filterMap Mail.file).foldl
    (fun d file => d.spool m.myInboxDirectory file.1 file.2) m.disk

theorem takes_nil (m : DSNetManager) : Takes m [] m :=
  ⟨rfl, rfl, rfl, (List.append_nil _).symm, (List.append_nil _).symm, rfl⟩

theorem Takes.trans {m n k : DSNetManager} {mails more : List Mail} (h : Takes m mails n)
    (h' : Takes n more k) :
    Takes m (mails ++ more) k where
  phase := h'.phase.trans h.phase
  socket := h'.socket.trans h.socket
  inbox := h'.inbox.trans h.inbox
  messages := by rw [h'.messages, h.messages, List.filterMap_append, List.append_assoc]
  spooled := by rw [h'.spooled, h.spooled, List.filterMap_append, List.append_assoc]
  disk := by rw [h'.disk, h.disk, h.inbox, List.filterMap_append, List.foldl_append]

theorem takes_deliver (m : DSNetManager) (mail : Mail) (packet : Bytes) (hfits : mail.Fits)
    (hpacket : mail.Relayed packet) :
    (m.handleFrame packet (sizeInt packet)).1 = true ∧ Takes m [mail] (m.deliver packet) := by
  obtain ⟨header, hheader, hrelayed⟩ := hpacket
  have hhandled :=
    handleFrame_relayed header mail.server mail.sender mail.target mail.payload m packet hrelayed
    hfits.sender.1 hfits.sender.2 hfits.long hfits.short hheader
  refine ⟨by rw [hhandled], ?_⟩
  rw [deliver, hhandled]
  by_cases hpray : getInt mail.payload 4 = mesgPrayFile
  · have hmessage : [mail].filterMap Mail.message = [] := by simp [Mail.message, hpray]
    have hfile : [mail].filterMap Mail.file = [(mail.sender, mail.payload.drop 12)] := by
      simp [Mail.file, hpray]
    simp only [if_pos hpray]
    refine ⟨rfl, rfl, rfl, ?_, ?_, ?_⟩
    · rw [hmessage, List.append_nil]
      rfl
    · rw [hfile]
      change (m.trace ++ [_] ++ [_]).filterMap Event.spooledFile = _
      rw [List.append_assoc, List.filterMap_append]
      rfl
    · rw [hfile]
      rfl
  · have hmessage : [mail].filterMap Mail.message =
        [{ user := mail.sender.toString, type := getInt mail.payload 4, payload := mail.payload.drop 12 }] := by
      simp [Mail.message, hpray]
    have hfile : [mail].filterMap Mail.file = [] := by simp [Mail.file, hpray]
    simp only [if_neg hpray]
    refine ⟨rfl, rfl, rfl, by rw [hmessage]; rfl, ?_, by rw [hfile]; rfl⟩
    rw [hfile]
    exact List.filterMap_append ..

/-- The mails of a stream are taken one by one. -/
theorem takes_stream (mails : List Mail) (packets : List Bytes) (m : DSNetManager)
    (hempty : m.mySocket.myInput = []) (hfits : ∀ mail ∈ mails, mail.Fits)
    (hpackets : List.Forall₂ Mail.Relayed mails packets)
    (hshort : packets.flatten.length < 2147483648) :
    Takes m mails (m.receive packets.flatten).processInput := by
  induction hpackets generalizing m with
  | nil =>
    rw [List.flatten_nil, receive_nil, processInput_empty m hempty]
    exact takes_nil m
  | cons hpacket hpackets ih =>
    rename_i mail packet mails packets
    obtain ⟨hok, htakes⟩ := takes_deliver m mail packet (hfits mail List.mem_cons_self) hpacket
    have hframe : ServerFrame m.myTransactions packet := by
      obtain ⟨header, hheader, rfl⟩ := hpacket
      exact relayed_frame header _ _ _ _ hheader (hfits mail List.mem_cons_self).short _
    obtain ⟨hdecided, hround⟩ := processInputBody_packet m packet hempty hframe hok
    rw [List.flatten_cons, List.length_append] at hshort
    have hrun :=
      processInput_stable.run_front m (m.deliver packet) packet packets.flatten hdecided hround
      (by simp only [inputLength, hempty, List.length_nil, List.length_append]; omega)
    have hempty' : (m.deliver packet).mySocket.myInput = [] := (deliver_input m packet).trans hempty
    rw [List.flatten_cons, processInput, hrun]
    exact htakes.trans (ih (m.deliver packet) hempty' (fun other hother => hfits other
      (List.mem_cons_of_mem _ hother)) (by omega))

/-- Bytes arrive chunk by chunk, and the input is processed each time. -/
def takeIn (m : DSNetManager) (chunks : List Bytes) : DSNetManager :=
  chunks.foldl (fun m chunk => (m.receive chunk).processInput) m

/-- However the stream is cut, the mails are taken. -/
theorem takes_chunks (m : DSNetManager) (mails : List Mail) (packets chunks : List Bytes)
    (honline : m.myConnectPhase = .online) (hempty : m.mySocket.myInput = [])
    (hfits : ∀ mail ∈ mails, mail.Fits) (hpackets : List.Forall₂ Mail.Relayed mails packets)
    (hchunks : chunks.flatten = packets.flatten) (hshort : packets.flatten.length < 2147483648) :
    Takes m mails (m.takeIn chunks) := by
  have hstream := takes_stream mails packets m hempty hfits hpackets hshort
  cases chunks with
  | nil =>
    rw [List.flatten_nil] at hchunks
    rw [← hchunks, receive_nil, processInput_empty m hempty] at hstream
    exact hstream
  | cons chunk chunks =>
    rw [← hchunks, List.flatten_cons] at hstream hshort
    have hwhole := processInput_stable.run_chunks chunk chunks m honline
      (by rw [inputLength, hempty, List.length_nil, Nat.zero_add]; exact hshort)
        (hstream.phase.trans honline)
    rw [takeIn]
    exact hwhole ▸ hstream

/-- The files among the mails are in the inbox, if there is room for them. -/
theorem Takes.stored {m n : DSNetManager} {mails : List Mail} (h : Takes m mails n)
    {names : Finset Bytes}
    (hinbox : m.myInboxDirectory ≠ []) (hready : m.Ready m.myInboxDirectory names)
    (hfew : names.card + (mails.filterMap Mail.file).length < 4294967296) :
    ∃ paths, List.Forall₂ (Stored m.myInboxDirectory m.disk n.disk)
      (mails.filterMap Mail.file) paths ∧
      paths.Nodup ∧ ∀ path contents, Disk.Warp path → m.disk.files path = some contents →
        n.disk.files path = some contents := by
  rw [h.disk]
  exact hready.succeeds.spoolAll hinbox _ m.disk names hready.holds hfew

/-- **Mails arrive once and in order.** However the stream of the packets is cut, the engine gets
exactly the messages among the mails, and the inbox exactly the files, each under a path of its
own. -/
theorem mails_taken (m : DSNetManager) (mails : List Mail) (packets chunks : List Bytes)
    (honline : m.myConnectPhase = .online) (hempty : m.mySocket.myInput = [])
    (hfits : ∀ mail ∈ mails, mail.Fits) (hpackets : List.Forall₂ Mail.Relayed mails packets)
    (hchunks : chunks.flatten = packets.flatten) (hshort : packets.flatten.length < 2147483648) :
    Takes m mails (m.takeIn chunks) ∧
    ∀ names : Finset Bytes, m.myInboxDirectory ≠ [] → m.Ready m.myInboxDirectory names →
      names.card + (mails.filterMap Mail.file).length < 4294967296 →
      ∃ paths, List.Forall₂ (Stored m.myInboxDirectory m.disk (m.takeIn chunks).disk)
          (mails.filterMap Mail.file) paths ∧ paths.Nodup ∧
        ∀ path contents, Disk.Warp path → m.disk.files path = some contents →
          (m.takeIn chunks).disk.files path = some contents := by
  have htakes : Takes m mails (m.takeIn chunks) :=
    takes_chunks m mails packets chunks honline hempty hfits hpackets hchunks hshort
  exact ⟨htakes, fun names hinbox hready hfew => htakes.stored hinbox hready hfew⟩

/-- A short message from user 7 to user 5. -/
def helloMail : Mail :=
  { server := ⟨1, 1⟩, sender := ⟨7, 1⟩, target := ⟨5, 1⟩
    payload := putInt 12 ++ putInt 5 ++ putInt 0 ++ ascii "hello" }

def helloPacket : Bytes :=
  relayed { type := packetMessage, furtherData := 41 }
    (buildMessage helloMail.server helloMail.sender helloMail.target helloMail.payload
      (sizeInt helloMail.payload))

/-- The message in two pieces. -/
theorem mails_taken_hello :
    (freshOnline.takeIn [helloPacket.take 10, helloPacket.drop 10]).myIncomingMessages =
      [{ user := ascii "7+1", type := 5, payload := ascii "hello" }] := by
  obtain ⟨htakes, _⟩ :=
    mails_taken freshOnline [helloMail] [helloPacket] [helloPacket.take 10,
      helloPacket.drop 10] rfl rfl
    (by
      intro mail hmail
      rw [List.mem_singleton.mp hmail]
      exact ⟨by decide, by decide, by decide⟩)
    (.cons ⟨_, ⟨rfl, rfl, by decide⟩, rfl⟩ .nil) (by decide +kernel) (by decide +kernel)
  rw [htakes.messages]
  decide +kernel

end DSNetManager

end NetNatsue
