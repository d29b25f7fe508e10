import NetNatsue.Protocol.Numerals
import NetNatsue.Protocol.Parsers
import NetNatsue.Manager.Mail

/-! The names of spool files: who is named in them, and that the name is found again behind any
directory. -/
namespace NetNatsue
open BabelUIN

theorem rfind_split (c : UInt8) (front back : Bytes) (h : c ∉ back) :
    rfind (front ++ c :: back) c = some front.length := by
  have hreverse : (front ++ c :: back).reverse = back.reverse ++ c :: front.reverse := by
    rw [List.reverse_append, List.reverse_cons, List.append_assoc, List.singleton_append]
  rw [rfind, hreverse, findIdx_split c _ _ (by rwa [List.mem_reverse])]
  simp only [Option.map_some, List.length_append, List.length_cons, List.length_reverse]
  congr 1
  omega

/-- What stands between the last dash and the last dot. -/
theorem userFromSpoolName_split (front user extension : Bytes) (hdash : dash ∉ user ++
    dot :: extension)
    (hdot : dot ∉ extension) :
    userFromSpoolName (front ++ dash :: (user ++ dot :: extension)) =
      if (fromString user).1 = true then user else [] := by
  have hlastDash := rfind_split dash front (user ++ dot :: extension) hdash
  have hlastDot := rfind_split dot (front ++ dash :: user) extension hdot
  rw [List.append_assoc, List.cons_append] at hlastDot
  have hbehind : (front ++ dash :: (user ++ dot :: extension)).drop (front.length + 1) =
      user ++ dot :: extension := by
    rw [List.append_cons]
    exact List.drop_left' (by rw [List.length_append, List.length_singleton])
  have hlength : (front ++ dash :: user).length - front.length - 1 = user.length := by
    rw [List.length_append, List.length_cons]
    omega
  simp only [userFromSpoolName, hlastDash, hlastDot, hbehind, hlength, List.take_left]
  by_cases hempty : user = []
  · rw [hempty]
    simp [fromString]
  · have hpos := List.length_pos_iff.mpr hempty
    rw [if_neg (by rw [List.length_append, List.length_cons]; omega)]

theorem baseName_behind (directory name : Bytes) (c : UInt8) (hc : c = slash ∨ c = backslash)
    (hname : ∀ c ∈ name, c ≠ slash ∧ c ≠ backslash) :
    baseName (directory ++ [c] ++ name) = name := by
  have hstop : (c :: directory.reverse).takeWhile
      (fun c => decide (c ≠ slash ∧ c ≠ backslash)) = [] := by
    apply List.takeWhile_cons_of_neg
    rw [decide_eq_true_iff, not_and_or, not_not, not_not]
    exact hc
  rw [baseName, List.rtakeWhile, List.reverse_append, List.reverse_append, List.reverse_singleton,
    List.takeWhile_append_of_pos fun c hc => decide_eq_true (hname c (List.mem_reverse.mp hc)),
    List.singleton_append, hstop, List.append_nil, List.reverse_reverse]

theorem baseName_bare (name : Bytes) (hname : ∀ c ∈ name, c ≠ slash ∧ c ≠ backslash) :
    baseName name = name :=
  List.rtakeWhile_eq_self_iff.mpr fun c hc => decide_eq_true (hname c hc)

/-- A name is found again behind any directory. -/
theorem baseName_join (directory name : Bytes) (hname : ∀ c ∈ name, c ≠ slash ∧ c ≠ backslash) :
    baseName (ensureTrailingSeparator directory ++ name) = name := by
  rcases List.eq_nil_or_concat directory with rfl | ⟨front, last, rfl⟩
  · exact baseName_bare name hname
  · rw [List.concat_eq_append, ensureTrailingSeparator, List.getLast?_concat]
    dsimp only
    split
    case isTrue hlast => exact baseName_behind front name last hlast hname
    case isFalse => exact baseName_behind _ name slash (Or.inl rfl) hname

/-- The numbers of an identity without their signs. -/
def unsignedText (u : BabelUIN) : Bytes :=
  formatUnsigned u.uid.toInt.natAbs ++ 43 :: formatUnsigned u.hid.toInt.natAbs

theorem toString_unsigned (u : BabelUIN) (huid : 0 ≤ u.uid.toInt) (hhid : 0 ≤ u.hid.toInt) :
    u.toString = unsignedText u := toString_nonneg u huid hhid

/-- The sign of the number itself is not part of its digits. -/
theorem unsignedText_signed (u : BabelUIN) (h : u.uid.toInt < 0) : unsignedText u ≠ u.toString := by
  obtain ⟨c, digits, hdigits⟩ :=
    List.exists_cons_of_ne_nil (formatUnsigned_ne_nil u.uid.toInt.natAbs)
  rw [unsignedText, BabelUIN.toString, formatInt_negative _ h, hdigits]
  intro heq
  have hfirst : c = 45 := (List.cons.inj heq).1
  rw [hfirst] at hdigits
  exact formatUnsigned_unsigned _ _ hdigits

theorem spoolName_characters (serial : UInt32) (u : BabelUIN) :
    ∀ c ∈ spoolName serial u, c ≠ slash ∧ c ≠ backslash := by
  have hall : ∀ c : UInt8, isDigit c = false → c ≠ 45 → c ∉ ascii "T-" → c ∉ ascii "+" →
    c ∉ ascii ".warp" →
      c ∉ spoolName serial u := by
    intro c hdigit hsign hfirst hplus hextension
    simp only [spoolName, List.mem_append, not_or]
    exact ⟨⟨⟨⟨⟨formatUnsigned_not_mem _ hdigit, hfirst⟩, formatInt_not_mem _ hdigit hsign⟩, hplus⟩,
      formatInt_not_mem _ hdigit hsign⟩, hextension⟩
  intro c hc
  refine ⟨?_, ?_⟩ <;> rintro rfl
  · exact hall slash (by decide) (by decide) (by decide) (by decide) (by decide) hc
  · exact hall backslash (by decide) (by decide) (by decide) (by decide) (by decide) hc

/-- The last dash of a name stands right before the digits of the uid. -/
theorem spoolName_split (serial : UInt32) (u : BabelUIN) (hhid : 0 ≤ u.hid.toInt) :
    ∃ front, spoolName serial u = front ++ dash :: (unsignedText u ++ dot :: ascii "warp") := by
  have hwarp : ascii ".warp" = dot :: ascii "warp" := rfl
  have hmark : ascii "T-" = [84] ++ [dash] := rfl
  rw [spoolName, unsignedText, formatInt_nonneg u.hid hhid, hwarp, ascii_plus]
  rcases lt_or_ge u.uid.toInt 0 with huid | huid
  · refine ⟨formatUnsigned serial.toNat ++ ascii "T-", ?_⟩
    rw [formatInt_negative _ huid]
    simp [dash]
  · refine ⟨formatUnsigned serial.toNat ++ [84], ?_⟩
    rw [formatInt_nonneg _ huid, hmark]
    simp

/-- A sign in front of the number is taken for the dash before it. -/
theorem userFromSpoolName_spoolName (serial : UInt32) (u : BabelUIN) (hhid : 0 ≤ u.hid.toInt) :
    userFromSpoolName (spoolName serial u) = unsignedText u := by
  obtain ⟨front, hname⟩ := spoolName_split serial u hhid
  have hdash : dash ∉ unsignedText u ++ dot :: ascii "warp" := by
    rw [unsignedText, List.append_assoc, List.cons_append, List.mem_append, List.mem_cons,
      List.mem_append, not_or, not_or, not_or]
    exact ⟨formatUnsigned_not_mem _ (by decide), by decide, formatUnsigned_not_mem _ (by decide), by
      decide⟩
  rw [hname, userFromSpoolName_split front _ _ hdash (by decide), unsignedText,
    fromString_written (written_numbers _ _)]
  rfl

/-- The path that a received file is stored under. -/
def Disk.spoolPath (d : Disk) (inbox : Bytes) (sender : BabelUIN) : Option Bytes :=
  if inbox = [] then none else freeSpoolPath d.time.2 inbox sender serialCount d.time.1

theorem Disk.spool_of_path {d : Disk} {inbox path : Bytes} {sender : BabelUIN}
    (h : d.spoolPath inbox sender = some path) (payload : Bytes) :
    d.spool inbox sender payload = (d.time.2.writeWholeFileAtomic path payload).2 := by
  by_cases hinbox : inbox = []
  · rw [spoolPath, if_pos hinbox] at h
    cases h
  · rw [spoolPath, if_neg hinbox] at h
    simp only [spool, if_neg hinbox, h]

/-- Whatever serial the search ends with, the path is made of the directory and the sender. -/
theorem freeSpoolPath_name {d : Disk} {directory path : Bytes} {u : BabelUIN} {n : ℕ}
    {serial : UInt32} (h : freeSpoolPath d directory u n serial = some path) :
    ∃ serial' : UInt32, path = directory ++ spoolName serial' u := by
  induction n generalizing serial with
  | zero => cases h
  | succ n ih =>
    simp only [freeSpoolPath] at h
    split at h
    case isTrue => exact ⟨serial, (Option.some.inj h).symm⟩
    case isFalse => exact ih h

theorem Disk.remove_other (d : Disk) {path other : Bytes} (h : other ≠ path) :
    (d.remove path).files other = d.files other := by
  simp only [remove]
  split_ifs
  · exact Function.update_of_ne h _ _
  · rfl

namespace DSNetManager

/-- The user named by a spooled file. -/
theorem findUserWhoSentFile_spooled {d : Disk} {directory path : Bytes} {u : BabelUIN} {n : ℕ}
    {serial : UInt32} (hhid : 0 ≤ u.hid.toInt)
    (h : freeSpoolPath d (ensureTrailingSeparator directory) u n serial = some path) :
    findUserWhoSentFile path = unsignedText u := by
  obtain ⟨serial', rfl⟩ := freeSpoolPath_name h
  rw [findUserWhoSentFile, baseName_join _ _ (spoolName_characters serial' u),
    userFromSpoolName_spoolName serial' u hhid]

/-- **Who sent a file.** A file that comes in is stored under a path whose name is the sender's, and
nobody else's, if and only if the sender's number is not negative. -/
theorem sender_named_iff (m : DSNetManager) (inbox data : Bytes) (size : Int32)
    (message : PackedMessage)
    (path : Bytes) (hparsed : parsePackedBabelMessage data size = some message)
    (hpray : message.messageType = mesgPrayFile)
    (hpath : m.disk.spoolPath (m.setInboxDirectory inbox).myInboxDirectory
      message.sender = some path) :
    ((m.setInboxDirectory inbox).handleMessage data size).disk =
        (m.disk.time.2.writeWholeFileAtomic path message.payload).2 ∧
      ((findUserWhoSentFile path = message.sender.toString ∧
        ∀ other : BabelUIN, findUserWhoSentFile path = other.toString → other = message.sender) ↔
          0 ≤ message.sender.uid.toInt) := by
  have hhid : 0 ≤ message.sender.hid.toInt := by
    rw [parsePackedBabelMessage_hid hparsed]
    exact Word32.mask_nonneg _
  have hname : findUserWhoSentFile path = unsignedText message.sender := by
    rw [Disk.spoolPath] at hpath
    split at hpath
    case isTrue => cases hpath
    case isFalse => exact findUserWhoSentFile_spooled hhid hpath
  constructor
  · simp only [handleMessage, hparsed, hpray, if_true]
    exact Disk.spool_of_path hpath message.payload
  · rw [hname]
    constructor
    · rintro ⟨hsender, _⟩
      by_contra hnegative
      exact unsignedText_signed _ (not_le.mp hnegative) hsender
    · intro huid
      rw [← toString_unsigned _ huid hhid]
      exact ⟨rfl, fun other hother => (toString_injective hother).symm⟩

/-- A message from user 5, into the inbox "in". -/
theorem sender_named_five :
    ((fresh.setInboxDirectory (ascii "in")).handleMessage
      (putInt 0 ++ putInt 1 ++ putInt 5 ++ putInt 13 ++ putInt 0 ++ putInt 1 ++ prayPayload [7])
      37).disk.files
        (ascii "in/0T-5+1.warp") = some [7] ∧
      findUserWhoSentFile (ascii "in/0T-5+1.warp") = ascii "5+1" := by
  obtain ⟨hdisk, hnamed⟩ := sender_named_iff fresh (ascii "in")
    (putInt 0 ++ putInt 1 ++ putInt 5 ++ putInt 13 ++ putInt 0 ++ putInt 1 ++ prayPayload [7]) 37
    ⟨⟨5, 1⟩, mesgPrayFile, [7]⟩ (ascii "in/0T-5+1.warp") (by decide +kernel) rfl (by decide +kernel)
  exact ⟨by rw [hdisk]; decide +kernel, (hnamed.mpr (by decide)).1⟩

/-- A message from user -5 is stored as one from user 5. -/
theorem sender_not_named :
    ¬ ∀ (m : DSNetManager) (inbox data : Bytes) (size : Int32) (message : PackedMessage)
    (path : Bytes), parsePackedBabelMessage data size = some message →
    message.messageType = mesgPrayFile →
    m.disk.spoolPath (m.setInboxDirectory inbox).myInboxDirectory message.sender = some path →
    findUserWhoSentFile path = message.sender.toString ∧
      ∀ other : BabelUIN, findUserWhoSentFile path = other.toString → other = message.sender := by
  intro hall
  have hsender := hall fresh (ascii "in")
    (putInt 0 ++ putInt 1 ++ putInt (-5) ++ putInt 13 ++ putInt 0 ++ putInt 1 ++ prayPayload [7]) 37
    ⟨⟨-5, 1⟩, mesgPrayFile, [7]⟩ (ascii "in/0T--5+1.warp") (by decide +kernel) rfl (by decide +kernel)
  have hother : (⟨5, 1⟩ : BabelUIN) = ⟨-5, 1⟩ := hsender.2 ⟨5, 1⟩ (by decide +kernel)
  exact absurd hother (by decide)

theorem ensureTrailingSeparator_some {directory : Bytes} (h : directory ≠ []) :
    ensureTrailingSeparator directory ≠ [] := by
  rcases List.eq_nil_or_concat directory with rfl | ⟨front, last, rfl⟩
  · exact absurd rfl h
  · rw [List.concat_eq_append, ensureTrailingSeparator, List.getLast?_concat]
    dsimp only
    split <;> simp

/-- A packet that brings a PRAY file to a user. -/
structure PrayPacket (packet : Bytes) (uid hid : ℕ) (contents : Bytes) : Prop where
  type : getInt packet 0 = packetMessage
  uid : (getInt packet 32).toInt = uid
  hid : (getInt packet 36).toInt = hid
  furtherData : (getInt packet 24).toInt = contents.length + 36
  payload : packet.drop 64 = putInt 12 ++ putInt mesgPrayFile ++ putInt 0 ++ contents

theorem prayPayload_length (contents : Bytes) :
    (prayPayload contents).length = contents.length + 12 := by
  simp only [prayPayload, List.length_append, putInt_length]
  omega

theorem buildMessage_pray (server user target : BabelUIN) (contents : Bytes)
    (hfit : contents.length + 36 < 2147483648) {uid hid : ℕ} (huid : target.uid.toInt = uid)
    (hhid : target.hid.toInt = hid) :
    PrayPacket (buildMessage server user target (prayPayload contents)
      (sizeInt (prayPayload contents)))
      uid hid contents := by
  have hlength := prayPayload_length contents
  have hsize := sizeInt_toInt (prayPayload contents) (by omega)
  have h24 : (24 : Int32).toInt = 24 := rfl
  have hpacked : (24 + sizeInt (prayPayload contents)).toInt = contents.length + 36 := by
    rw [Word32.toInt_add_exact _ _ (by omega) (by omega)]
    omega
  have hall : (prayPayload contents).take (sizeInt (prayPayload contents)).toInt.toNat =
      prayPayload contents := by
    rw [hsize, Int.toNat_natCast, List.take_length]
  simp only [buildMessage, hall, PacketHeader.write, List.append_assoc]
  refine ⟨getInt_putInt _ _, ?_, ?_, ?_, rfl⟩
  · simp (disch := decide) only [getInt_skip, getInt_putInt, Nat.reduceSub, huid]
  · simp (disch := decide) only [getInt_skip, getInt_putInt, Nat.reduceSub, hhid]
  · simp (disch := decide) only [getInt_skip, getInt_putInt, Nat.reduceSub, hpacked]

theorem postDirectMessage_written {m : DSNetManager} {user data : Bytes} {size : Int32}
    {u : BabelUIN} (huser : fromString user = (true, u)) (honline : m.Online) (hsize : ¬ size < 0) :
    m.postDirectMessage user data size =
      let r := m.socketWrite (buildMessage m.myServerUIN m.myUserUIN u data size)
      if ¬ r.1 then (false, r.2.connectionLost) else (true, r.2) := by
  have haccepted : ¬ ¬ (fromString user).1 = true := not_not.mpr (congrArg Prod.fst huser)
  have hposts : ¬ (¬ m.Online ∨ size < 0) := not_or.mpr ⟨not_not.mpr honline, hsize⟩
  rw [postDirectMessage, if_neg haccepted, if_neg hposts, messagePacket, huser]

theorem postFile_written {m : DSNetManager} {path user payload : Bytes} {u : BabelUIN}
    (huser : fromString user = (true, u)) (honline : m.Online) (hsize : ¬ sizeInt payload < 0) :
    m.postFile path user payload =
      let packet := buildMessage m.myServerUIN m.myUserUIN u payload (sizeInt payload)
      let r := m.socketWrite packet
      if ¬ r.1 then (false, r.2.connectionLost)
      else (true, (r.2.onDisk (r.2.disk.remove path)).emit
        (.posted path m.mySocket.os.connection m.mySocket.line.length packet)) := by
  simp only [postFile, postDirectMessage_written huser honline hsize, messagePacket, huser]
  split_ifs <;> simp_all

/-- What happens to a file with a readable address. -/
theorem sendOutboxFile_written {m : DSNetManager} {path contents : Bytes} {u : BabelUIN}
    (haddress : userFromSpoolName (baseName path) = u.toString)
    (huser : fromString u.toString = (true, u))
    (hcontents : (m.disk.readWholeFile path).1 = some contents) (honline : m.Online)
    (hsize : ¬ sizeInt (prayPayload contents) < 0) :
    m.sendOutboxFile path =
      let packet := buildMessage m.myServerUIN m.myUserUIN u (prayPayload contents)
        (sizeInt (prayPayload contents))
      let r := (m.onDisk (m.disk.readWholeFile path).2).socketWrite packet
      if ¬ r.1 then (false, r.2.connectionLost)
      else (true, (r.2.onDisk (r.2.disk.remove path)).emit
        (.posted path m.mySocket.os.connection m.mySocket.line.length packet)) := by
  have hsome : u.toString ≠ [] := fun hempty => by
    rw [hempty] at huser
    exact absurd (congrArg Prod.fst huser) Bool.false_ne_true
  have hread : (m.onDisk (m.disk.readWholeFile path).2).Online := honline
  simp only [sendOutboxFile, haddress, if_neg hsome, hcontents]
  exact postFile_written huser hread hsize

theorem socketWrite_disk (m : DSNetManager) (packet : Bytes) :
    (m.socketWrite packet).2.disk = m.disk := by
  rw [socketWrite]
  dsimp only
  split_ifs <;> rfl

theorem postDirectMessage_disk (m : DSNetManager) (user data : Bytes) (size : Int32) :
    (m.postDirectMessage user data size).2.disk = m.disk := by
  have hwrite := socketWrite_disk m (m.messagePacket user data size)
  simp only [postDirectMessage]
  split_ifs
  · rfl
  · exact hwrite
  · exact hwrite
  · rfl

/-- A file with an address stays under its path or is removed. -/
theorem sendOutboxFile_other (m : DSNetManager) {path other : Bytes}
    (haddress : userFromSpoolName (baseName path) ≠ []) (hother : other ≠ path) :
    (m.sendOutboxFile path).2.disk.files other = m.disk.files other := by
  simp only [sendOutboxFile, if_neg haddress]
  cases (m.disk.readWholeFile path).1 with
  | none => rfl
  | some contents =>
    have hpost := postDirectMessage_disk { m with disk := (m.disk.readWholeFile path).2 }
      (userFromSpoolName (baseName path)) (prayPayload contents) (sizeInt (prayPayload contents))
    simp only [postFile]
    split_ifs
    · rw [emit, onDisk, Disk.remove_other _ hother, hpost]
      rfl
    · rw [hpost]
      rfl

theorem returnUniqueOutboxFilename_path {m : DSNetManager} {user : Bytes}
    (huser : (fromString user).1 = true)
    (hdirectory : m.myOutboxDirectory ≠ []) : (m.returnUniqueOutboxFilename user).1 =
      freeSpoolPath m.disk.time.2 m.myOutboxDirectory (fromString user).2 serialCount
        m.disk.time.1 := by
  have haccepted : ¬ ¬ (fromString user).1 = true := not_not.mpr huser
  simp only [returnUniqueOutboxFilename, if_neg haccepted, if_neg hdirectory]
  cases freeSpoolPath m.disk.time.2 m.myOutboxDirectory (fromString user).2 serialCount
    m.disk.time.1 with
  | none => rfl
  | some path => rfl

/-- The address in the name of a file for a user. -/
theorem outbox_path_user {m : DSNetManager} {directory user path : Bytes}
    (hdirectory : directory ≠ [])
    (huser : (fromString user).1 = true) (huid : 0 ≤ (fromString user).2.uid.toInt)
    (hhid : 0 ≤ (fromString user).2.hid.toInt)
    (hpath : ((m.setOutboxDirectory directory).returnUniqueOutboxFilename user).1 = some path) :
    userFromSpoolName (baseName path) = (fromString user).2.toString := by
  rw [returnUniqueOutboxFilename_path huser (ensureTrailingSeparator_some hdirectory)] at hpath
  rw [toString_unsigned _ huid hhid]
  exact findUserWhoSentFile_spooled hhid hpath

/-- **Files for a user.** The file is sent to the user it was made for, in one message that holds
the file. Apart from its removal nothing happens to any file. -/
theorem outbox_addressed (m : DSNetManager) (directory user path : Bytes)
    (hdirectory : directory ≠ [])
    (huser : (fromString user).1 = true) (huid : decimalValue (uidPart user) < 2147483648)
    (hhid : decimalValue (hidPart user) < 2147483648)
    (hpath : ((m.setOutboxDirectory directory).returnUniqueOutboxFilename user).1 = some path) :
    (∀ (n : DSNetManager) (contents : Bytes),
      n.Online → (n.disk.readWholeFile path).1 = some contents →
      contents.length + 36 < 2147483648 → ∃ packet,
        PrayPacket packet (decimalValue (uidPart user)) (decimalValue (hidPart user)) contents ∧
          n.sendOutboxFile path =
            let r := (n.onDisk (n.disk.readWholeFile path).2).socketWrite packet
            if ¬ r.1 then (false, r.2.connectionLost)
            else (true, (r.2.onDisk (r.2.disk.remove path)).emit
              (.posted path n.mySocket.os.connection n.mySocket.line.length packet))) ∧
    ∀ (n : DSNetManager) (other : Bytes), other ≠ path →
      (n.sendOutboxFile path).2.disk.files other = n.disk.files other := by
  have hparts := fromString_parts huser
  have huid' : (fromString user).2.uid.toInt = decimalValue (uidPart user) := by
    rw [hparts]
    exact atoi_toInt _ huid
  have hhid' : (fromString user).2.hid.toInt = decimalValue (hidPart user) := by
    rw [hparts]
    exact atoi_toInt _ hhid
  have haddress := outbox_path_user hdirectory huser (by omega) (by omega) hpath
  have hread := fromString_toString (fromString user).2 (by omega) (by omega)
  have hsome : (fromString user).2.toString ≠ [] := fun hempty => by
    rw [hempty] at hread
    exact absurd (congrArg Prod.fst hread) Bool.false_ne_true
  refine ⟨fun n contents honline hcontents hfit => ?_, fun n other hother =>
    sendOutboxFile_other n (by rwa [haddress]) hother⟩
  have hsize : ¬ sizeInt (prayPayload contents) < 0 := by
    rw [Word32.lt_iff, sizeInt_toInt _ (by rw [prayPayload_length]; omega)]
    exact not_lt.mpr (Int.natCast_nonneg _)
  exact ⟨_, buildMessage_pray n.myServerUIN n.myUserUIN (fromString user).2 contents
    hfit huid' hhid', sendOutboxFile_written haddress hread hcontents honline hsize⟩

/-- A file of three bytes for user 7+1. -/
theorem outbox_addressed_seven : ∃ packet, PrayPacket packet 7 1 [1, 2, 3] ∧
    (freshOnline.onDisk (Disk.blank.put (ascii "out/0T-7+1.warp") (some [1, 2, 3]))).sendOutboxFile
      (ascii "out/0T-7+1.warp") =
        let n := freshOnline.onDisk (Disk.blank.put (ascii "out/0T-7+1.warp") (some [1, 2, 3]))
        let r := (n.onDisk (n.disk.readWholeFile (ascii "out/0T-7+1.warp")).2).socketWrite packet
        if ¬ r.1 then (false, r.2.connectionLost)
        else (true, (r.2.onDisk (r.2.disk.remove (ascii "out/0T-7+1.warp"))).emit
          (.posted (ascii "out/0T-7+1.warp") n.mySocket.os.connection
            n.mySocket.line.length packet)) :=
  (outbox_addressed fresh (ascii "out") (ascii "7+1") (ascii "out/0T-7+1.warp")
    (by decide) (by decide) (by decide) (by decide) (by decide +kernel)).1 _ [1, 2, 3] ⟨rfl, rfl⟩
      (by decide +kernel) (by decide)

end DSNetManager
end NetNatsue
