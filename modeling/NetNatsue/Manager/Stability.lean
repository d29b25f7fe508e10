import NetNatsue.Manager.Framer

/-! The framer and the handlers do not look behind the packet at the front of the buffer,
and do not change what is buffered. -/
namespace NetNatsue

theorem sizeInt_lt_iff (input : Bytes) (n : Int32) (h : input.length < 2147483648) :
    sizeInt input < n ↔ (input.length : ℤ) < n.toInt := by
  rw [Word32.lt_iff, sizeInt_toInt input h]

theorem furtherData_exact (d : Int32) (h : ¬ (d < 0 ∨ d > maxFurtherData)) :
    0 ≤ d.toInt ∧ d.toInt ≤ 33554432 := by
  simp only [not_or, gt_iff_lt, Word32.lt_iff, Word32.toInt_zero] at h
  have hmax : maxFurtherData.toInt = 33554432 := rfl
  omega

/-- A small fixed part and a checked length never overflow. -/
theorem toInt_add_checked (a d : Int32) (ha : 0 ≤ a.toInt) (ha' : a.toInt ≤ 48)
    (hd : 0 ≤ d.toInt) (hd' : d.toInt ≤ 33554432) : (a+d).toInt = a.toInt + d.toInt :=
  Word32.toInt_add_exact a d (by omega) (by omega)

theorem extra_toInt (e : FixedExtra) :
    0 ≤ e.val.toInt ∧ e.val.toInt ≤ 16 ∧ (32 + e.val).toInt = 32 + e.val.toInt := by
  obtain ⟨n, h | h⟩ := e <;> subst h <;> decide

/-- The sizes the type rules give. -/
theorem unsolicitedSize_frame (input : Bytes) (inputSize totalSize : Int32) (header : PacketHeader)
    (hd : 0 ≤ header.furtherData.toInt) (hd' : header.furtherData.toInt ≤ 33554432)
    (h : unsolicitedSize input inputSize header = .frame totalSize) :
    32 ≤ totalSize.toInt ∧ totalSize.toInt ≤ 33554480 := by
  have hplain := toInt_add_checked 32 header.furtherData (by decide) (by decide) hd hd'
  have hcircuit := toInt_add_checked 44 header.furtherData (by decide) (by decide) hd hd'
  have h32 : (32 : Int32).toInt = 32 := rfl
  have h36 : (36 : Int32).toInt = 36 := rfl
  have h44 : (44 : Int32).toInt = 44 := rfl
  have h48 : (48 : Int32).toInt = 48 := rfl
  unfold unsolicitedSize at h
  split at h <;> try (injection h with h; subst h; omega)
  · simp only at h
    split_ifs at h with hshort hbad
    injection h with h
    obtain ⟨ha, ha'⟩ := furtherData_exact _ hbad
    have hsum := toInt_add_checked 48 (getInt input 44) (by decide) (by decide) ha ha'
    subst h
    omega
  · cases h

/-- What the framer has found where it cuts a packet. -/
theorem cut_claimed (transactions : Int32 → Option Transaction) (input : Bytes) (totalSize : Int32)
    (h : cut transactions input = .frame totalSize) :
    ¬ sizeInt input < 32 ∧ ¬ sizeInt input < totalSize ∧
      0 ≤ (PacketHeader.read input).furtherData.toInt ∧
      (PacketHeader.read input).furtherData.toInt ≤ 33554432 ∧
      claimedSize transactions input (sizeInt input) (PacketHeader.read input) =
        .frame totalSize := by
  unfold cut at h
  by_cases hshort : sizeInt input < 32
  · simp [hshort] at h
  · by_cases hberserk : (PacketHeader.read input).furtherData < 0 ∨
        (PacketHeader.read input).furtherData > maxFurtherData
    · simp [hshort, hberserk] at h
    · obtain ⟨hd, hd'⟩ := furtherData_exact _ hberserk
      simp only [hshort, hberserk, ↓reduceIte] at h
      cases hclaim : claimedSize transactions input (sizeInt input) (PacketHeader.read input) with
      | wait => simp [hclaim] at h
      | lost => simp [hclaim] at h
      | frame size =>
        simp only [hclaim] at h
        split_ifs at h with hpart
        injection h with h
        subst h
        exact ⟨hshort, hpart, hd, hd', rfl⟩

/-- A packet the framer cuts is at least a header, at most 32 MiB and 48 bytes long. -/
theorem cut_frame (transactions : Int32 → Option Transaction) (input : Bytes) (totalSize : Int32)
    (h : cut transactions input = .frame totalSize) :
    32 ≤ totalSize.toInt ∧ totalSize.toInt ≤ 33554480 ∧ ¬ sizeInt input < totalSize ∧
      ¬ sizeInt input < 32 := by
  obtain ⟨hshort, hpart, hd, hd', hclaim⟩ := cut_claimed _ _ _ h
  have hbounds : 32 ≤ totalSize.toInt ∧ totalSize.toInt ≤ 33554480 := by
    unfold claimedSize at hclaim
    split at hclaim
    · rename_i transaction _
      injection hclaim with hclaim
      subst hclaim
      obtain ⟨he, he', hsum⟩ := extra_toInt transaction.fixedExtra
      have htotal := toInt_add_checked (32 + transaction.fixedExtra.val)
        (PacketHeader.read input).furtherData (by omega) (by omega) hd hd'
      omega
    · exact unsolicitedSize_frame _ _ _ _ hd hd' hclaim
  exact ⟨hbounds.1, hbounds.2, hpart, hshort⟩

/-- Once the front of the buffer is decided on, what arrives behind it does not matter. -/
theorem cut_append (transactions : Int32 → Option Transaction) (input more : Bytes)
    (hfit : input.length + more.length < 2147483648) (h : cut transactions input ≠ .wait) :
    cut transactions (input ++ more) = cut transactions input := by
  have hfit' : input.length < 2147483648 := by omega
  have hlong : (input ++ more).length < 2147483648 := by simpa using hfit
  unfold cut at h ⊢
  by_cases hshort : sizeInt input < 32
  · simp [hshort] at h
  · have hheader : 32 ≤ input.length := by
      rw [sizeInt_lt_iff input 32 hfit'] at hshort
      have h32 : (32 : Int32).toInt = 32 := rfl
      omega
    have hshort' : ¬ sizeInt (input ++ more) < 32 := by
      rw [sizeInt_lt_iff _ 32 hlong]
      rw [sizeInt_lt_iff input 32 hfit'] at hshort
      simp only [List.length_append]
      omega
    have hread := PacketHeader.read_append input more hheader
    simp only [hshort, hshort', hread, ↓reduceIte] at h ⊢
    by_cases hberserk : (PacketHeader.read input).furtherData < 0 ∨
        (PacketHeader.read input).furtherData > maxFurtherData
    · simp only [hberserk, ↓reduceIte]
    · simp only [hberserk, ↓reduceIte] at h ⊢
      have hclaim : claimedSize transactions (input ++ more) (sizeInt (input ++ more))
          (PacketHeader.read input) =
          claimedSize transactions input (sizeInt input) (PacketHeader.read input) := by
        unfold claimedSize at h ⊢
        split
        · rfl
        · rename_i hnone
          simp only [hnone] at h
          unfold unsolicitedSize at h ⊢
          -- only the handshake rule looks at the buffer, behind its 48 bytes
          split <;> try rfl
          rename_i htype
          simp only [htype] at h
          by_cases hpart : sizeInt input < 48
          · simp [hpart] at h
          · have h48 : (48 : Int32).toInt = 48 := rfl
            rw [sizeInt_lt_iff input 48 hfit'] at hpart
            have hpart' : ¬ sizeInt (input ++ more) < 48 := by
              rw [sizeInt_lt_iff _ 48 hlong]
              simp only [List.length_append]
              omega
            have hpart'' : ¬ sizeInt input < 48 := by
              rw [sizeInt_lt_iff input 48 hfit']
              exact hpart
            simp only [hpart', hpart'', ↓reduceIte, getInt_append input more 44 (by omega)]
      rw [hclaim]
      cases hsize : claimedSize transactions input (sizeInt input) (PacketHeader.read input) with
      | wait => rfl
      | lost => rfl
      | frame totalSize =>
        simp only [hsize] at h ⊢
        by_cases hpart : sizeInt input < totalSize
        · simp [hpart] at h
        · have hpart' : ¬ sizeInt (input ++ more) < totalSize := by
            rw [sizeInt_lt_iff _ _ hlong]
            rw [sizeInt_lt_iff input _ hfit'] at hpart
            simp only [List.length_append]
            omega
          simp only [hpart, hpart', ↓reduceIte]

namespace DSNetManager

section
variable (m : DSNetManager) (input : Bytes) (d : Disk)

@[simp] theorem withWorld_phase : (m.withWorld input d).myConnectPhase = m.myConnectPhase := rfl
@[simp] theorem withWorld_input : (m.withWorld input d).mySocket.myInput = input := rfl
@[simp] theorem withWorld_disk : (m.withWorld input d).disk = d := rfl
@[simp] theorem withWorld_transactions :
    (m.withWorld input d).myTransactions = m.myTransactions := rfl
@[simp] theorem withWorld_server : (m.withWorld input d).myServerUIN = m.myServerUIN := rfl
@[simp] theorem withWorld_self : m.withWorld m.mySocket.myInput m.disk = m := rfl

theorem withWorld_emit (e : Event) :
    (m.withWorld input d).emit e = (m.emit e).withWorld input d := rfl

theorem withWorld_refuseLogin (code : Int32) :
    (m.withWorld input d).refuseLogin code = (m.refuseLogin code).withWorld input d := rfl

theorem withWorld_watch (user : Bytes) :
    (m.withWorld input d).watch user = (m.watch user).withWorld input d := rfl

theorem withWorld_nextVSN :
    (m.withWorld input d).nextVSN = (m.nextVSN.1, m.nextVSN.2.withWorld input d) := rfl

theorem withWorld_socketWrite (packet : Bytes) :
    (m.withWorld input d).socketWrite packet =
      ((m.socketWrite packet).1, (m.socketWrite packet).2.withWorld input d) := by
  have h := NetNatsueSocket.write_withInput m.mySocket input packet (sizeInt packet)
  unfold socketWrite withWorld
  simp only [h]
  split_ifs <;> rfl

theorem withWorld_updatePresence (uin : BabelUIN) (online : Bool) (nickName : Bytes) :
    (m.withWorld input d).updatePresence uin online nickName =
      (m.updatePresence uin online nickName).withWorld input d := by
  simp only [updatePresence, queueChange, apply_ite (withWorld · input d)]
  rfl

theorem withWorld_handleUserData (online : Bool) (body : Bytes) (bodySize : Int32) :
    (m.withWorld input d).handleUserData online body bodySize =
      (m.handleUserData online body bodySize).withWorld input d := by
  unfold handleUserData
  cases parseShortUserData body bodySize with
  | none => rfl
  | some userData => exact withWorld_updatePresence m input d _ _ _

theorem withWorld_handleVirtualConnect (header : PacketHeader) :
    (m.withWorld input d).handleVirtualConnect header =
      ((m.handleVirtualConnect header).1,
        (m.handleVirtualConnect header).2.withWorld input d) := by
  simp only [handleVirtualConnect, withWorld_nextVSN, withWorld_server, withWorld_socketWrite]
  split_ifs <;> rfl

end

/-- Only a received file touches the disk. -/
theorem withWorld_handleMessage (m : DSNetManager) (body : Bytes) (bodySize : Int32) :
    ∃ f : Disk → Disk, ∀ input d, (m.withWorld input d).handleMessage body bodySize =
      (m.handleMessage body bodySize).withWorld input (f d) := by
  unfold handleMessage
  cases parsePackedBabelMessage body bodySize with
  | none => exact ⟨id, fun _ _ => rfl⟩
  | some message =>
    by_cases hfile : message.messageType = mesgPrayFile
    · simp only [hfile, ↓reduceIte]
      exact ⟨fun d => d.spool m.myInboxDirectory message.sender message.payload, fun _ _ => rfl⟩
    · simp only [hfile, ↓reduceIte]
      exact ⟨id, fun _ _ => rfl⟩

theorem withWorld_handlePacket (m : DSNetManager) (header : PacketHeader) (body : Bytes)
    (bodySize : Int32) :
    ∃ f : Disk → Disk, ∀ input d, (m.withWorld input d).handlePacket header body bodySize =
      ((m.handlePacket header body bodySize).1,
        (m.handlePacket header body bodySize).2.withWorld input (f d)) := by
  unfold handlePacket
  cases ServerPacket.ofType header.type with
  | none => exact ⟨id, fun _ _ => rfl⟩
  | some packet =>
    cases packet
    case message =>
      obtain ⟨f, hf⟩ := withWorld_handleMessage m body bodySize
      exact ⟨f, fun input d => by simp only [hf input d]⟩
    case userOnline => exact ⟨id, fun _ _ => by simp only [withWorld_handleUserData, id]⟩
    case userOffline => exact ⟨id, fun _ _ => by simp only [withWorld_handleUserData, id]⟩
    case onlineChange => exact ⟨id, fun _ _ => by simp only [withWorld_updatePresence, id]⟩
    case virtualConnect =>
      exact ⟨id, fun input d => withWorld_handleVirtualConnect m input d header⟩
    all_goals exact ⟨id, fun _ _ => rfl⟩

theorem withWorld_sendWWRRegistrations (users : List Bytes) (m : DSNetManager) (input : Bytes)
    (d : Disk) :
    sendWWRRegistrations users (m.withWorld input d) =
      (sendWWRRegistrations users m).withWorld input d := by
  induction users generalizing m with
  | nil => rfl
  | cons user users ih =>
    simp only [sendWWRRegistrations]
    by_cases hparsed : (BabelUIN.fromString user).1
    · simp only [hparsed, withWorld_watch, withWorld_emit, withWorld_server,
        withWorld_socketWrite, ih]
      split_ifs <;> rfl
    · simp only [hparsed, ih, Bool.false_eq_true, not_false_eq_true, ↓reduceIte]

section
variable (m : DSNetManager) (input : Bytes) (d : Disk)

theorem withWorld_acceptLogin (serverUIN userUIN : BabelUIN) (servers : List CBabelServerInfo) :
    (m.withWorld input d).acceptLogin serverUIN userUIN servers =
      (m.acceptLogin serverUIN userUIN servers).withWorld input d := by
  have h :=
    withWorld_sendWWRRegistrations m.myUsersForWWR (m.admitted serverUIN userUIN servers) input d
  exact congrArg (fun n : DSNetManager => { n with myUsersForWWR := [], myOutboxDirty := true }) h

theorem withWorld_handleHandshakeResponse (header : PacketHeader) (raw : Bytes) (rawSize : Int32) :
    (m.withWorld input d).handleHandshakeResponse header raw rawSize =
      (m.handleHandshakeResponse header raw rawSize).withWorld input d := by
  simp only [handleHandshakeResponse, withWorld_phase, withWorld_refuseLogin, withWorld_acceptLogin]
  split_ifs <;> rfl

end

theorem withWorld_handleFrame (m : DSNetManager) (raw : Bytes) (totalSize : Int32) :
    ∃ f : Disk → Disk, ∀ input d, (m.withWorld input d).handleFrame raw totalSize =
      ((m.handleFrame raw totalSize).1,
        (m.handleFrame raw totalSize).2.withWorld input (f d)) := by
  obtain ⟨f, hf⟩ := withWorld_handlePacket
    (m.emit (.packet m.myConnectPhase (PacketHeader.read raw) (raw.take totalSize.toInt.toNat)))
      (PacketHeader.read raw)
    (raw.drop packetHeaderSize) (totalSize - 32)
  simp only [handleFrame, withWorld_transactions, withWorld_phase, withWorld_emit,
    withWorld_handleHandshakeResponse, hf]
  cases answeredBy m.myTransactions (PacketHeader.read raw).ticket with
  | some transaction => exact ⟨id, fun _ _ => rfl⟩
  | none =>
    by_cases hshake : ServerPacket.ofType (PacketHeader.read raw).type = some .handshakeResponse
    · exact ⟨id, fun _ _ => by simp only [hshake, ↓reduceIte, id]⟩
    · exact ⟨f, fun _ _ => by simp only [hshake, ↓reduceIte]⟩

/-- Handling a packet leaves the buffer as it is. -/
theorem handleFrame_input (m : DSNetManager) (raw : Bytes) (totalSize : Int32) :
    (m.handleFrame raw totalSize).2.mySocket.myInput = m.mySocket.myInput := by
  obtain ⟨f, hf⟩ := withWorld_handleFrame m raw totalSize
  have h := congrArg (fun r => r.2.mySocket.myInput) (hf m.mySocket.myInput m.disk)
  simpa using h

theorem handleFrame_receive (m : DSNetManager) (more : Bytes) (raw : Bytes) (totalSize : Int32) :
    (m.receive more).handleFrame raw totalSize =
      ((m.handleFrame raw totalSize).1, (m.handleFrame raw totalSize).2.receive more) := by
  obtain ⟨f, hf⟩ := withWorld_handleFrame m raw totalSize
  have hself := hf m.mySocket.myInput m.disk
  rw [withWorld_self] at hself
  have hdisk := congrArg (fun r => r.2.disk) hself
  have hdisk' : (m.handleFrame raw totalSize).2.disk = f m.disk := hdisk
  have heq : (m.handleFrame raw totalSize).2.receive more =
      (m.handleFrame raw totalSize).2.withWorld (m.mySocket.myInput ++ more) (f m.disk) := by
    rw [← hdisk', ← handleFrame_input m raw totalSize]
    rfl
  rw [heq]
  exact hf (m.mySocket.myInput ++ more) m.disk

theorem handleFrame_onDisk (m : DSNetManager) (raw : Bytes) (totalSize : Int32) :
    ∃ f : Disk → Disk, ∀ d, (m.onDisk d).handleFrame raw totalSize =
      ((m.handleFrame raw totalSize).1, (m.handleFrame raw totalSize).2.onDisk (f d)) := by
  obtain ⟨f, hf⟩ := withWorld_handleFrame m raw totalSize
  refine ⟨f, fun d => ?_⟩
  have heq : (m.handleFrame raw totalSize).2.onDisk (f d) =
      (m.handleFrame raw totalSize).2.withWorld m.mySocket.myInput (f d) := by
    rw [← handleFrame_input m raw totalSize]
    rfl
  rw [heq]
  exact hf m.mySocket.myInput d

end DSNetManager

theorem readZeroTerminated_append (a b : Bytes) (rawSize : ℕ) (h : rawSize ≤ a.length)
    (n offset : ℕ) :
    readZeroTerminated (a ++ b) rawSize n offset = readZeroTerminated a rawSize n offset := by
  induction n generalizing offset with
  | zero => rfl
  | succ n ih =>
    simp only [readZeroTerminated]
    by_cases hinside : offset < rawSize
    · rw [byteAt_append a b offset (by omega)]
      simp only [ih]
    · simp [hinside]

theorem parseServers_append (a b : Bytes) (rawSize : ℕ) (h : rawSize ≤ a.length)
    (count offset : ℕ) :
    parseServers (a ++ b) rawSize count offset = parseServers a rawSize count offset := by
  induction count generalizing offset with
  | zero => rfl
  | succ count ih =>
    simp only [parseServers]
    by_cases hinside : offset + 8 > rawSize
    · simp only [hinside, ↓reduceIte]
    · simp only [hinside, ↓reduceIte, getInt_append a b offset (by omega),
        getInt_append a b (offset+4) (by omega), readZeroTerminated_append a b rawSize h, ih]

theorem updatedServers_append (a b : Bytes) (rawSize : Int32) (h : rawSize.toInt ≤ a.length) :
    updatedServers (a ++ b) rawSize = updatedServers a rawSize := by
  unfold updatedServers
  by_cases hlist : rawSize ≥ 60
  · have hlarge : 60 ≤ rawSize.toInt := (Word32.le_iff 60 rawSize).mp hlist
    simp only [hlist, ↓reduceIte, getInt_append a b 48 (by omega), getInt_append a b 52 (by omega),
      getInt_append a b 56 (by omega), parseServers_append a b rawSize.toInt.toNat (by omega)]
  · simp only [hlist, ↓reduceIte]

/-- The response handlers stay inside the body, whose length is the one the framer used. -/
theorem Transaction.handleResponse_append (transaction : Transaction) (header : PacketHeader)
    (a b : Bytes) (bodySize : Int32) (hbody : bodySize.toInt ≤ a.length)
    (hfurther : transaction.fixedExtra.val.toInt + header.furtherData.toInt ≤ a.length) :
    transaction.handleResponse header (a ++ b) bodySize =
      transaction.handleResponse header a bodySize := by
  have hextra := extra_toInt transaction.fixedExtra
  unfold handleResponse
  cases transaction.kind
  case clientInfo =>
    simp only
    by_cases hpresent : header.furtherData > 0 ∧ bodySize ≥ header.furtherData
    · have hpos : 0 < header.furtherData.toInt := (Word32.lt_iff 0 _).mp hpresent.1
      rw [if_pos hpresent, if_pos hpresent, List.drop_append_of_le_length (by omega),
        parseShortUserData_append _ b _ (by rw [List.length_drop]; omega)]
    · rw [if_neg hpresent, if_neg hpresent]
  case status =>
    simp only
    by_cases hlong : bodySize ≥ 16
    · have hlarge : 16 ≤ bodySize.toInt := (Word32.le_iff 16 bodySize).mp hlong
      have hread : ∀ i, i + 4 ≤ 16 → getInt (a ++ b) i = getInt a i :=
        fun i hi => getInt_append a b i (by omega)
      simp only [hread 0 (by decide), hread 4 (by decide), hread 8 (by decide),
        hread 12 (by decide)]
    · rw [if_neg hlong, if_neg hlong]
  all_goals rfl

namespace DSNetManager

theorem handlePacket_append (m : DSNetManager) (header : PacketHeader) (a b : Bytes)
    (bodySize : Int32) (h : bodySize.toInt ≤ a.length) :
    m.handlePacket header (a ++ b) bodySize = m.handlePacket header a bodySize := by
  simp only [handlePacket, handleMessage, handleUserData, parsePackedBabelMessage_append
    a b bodySize h, parseShortUserData_append a b bodySize h]

theorem handleHandshakeResponse_append (m : DSNetManager) (header : PacketHeader) (a b : Bytes)
    (rawSize : Int32) (hheader : 2 ≤ a.length) (h : rawSize.toInt ≤ a.length) :
    m.handleHandshakeResponse header (a ++ b) rawSize =
      m.handleHandshakeResponse header a rawSize := by
  have herror : handshakeErrorCode (a ++ b) = handshakeErrorCode a := by
    rw [handshakeErrorCode, byteAt_append a b 1 (by omega), handshakeErrorCode]
  simp only [handleHandshakeResponse, herror, updatedServers_append a b rawSize h]

end DSNetManager

/-- The size of a response is the one its requestor laid down. -/
theorem cut_answered (transactions : Int32 → Option Transaction) (input : Bytes) (totalSize : Int32)
    (transaction : Transaction) (h : cut transactions input = .frame totalSize)
    (hanswer : answeredBy transactions (PacketHeader.read input).ticket = some transaction) :
    totalSize.toInt =
      32 + transaction.fixedExtra.val.toInt + (PacketHeader.read input).furtherData.toInt := by
  obtain ⟨_, _, hd, hd', hclaim⟩ := cut_claimed _ _ _ h
  simp only [claimedSize, hanswer] at hclaim
  injection hclaim with hclaim
  subst hclaim
  obtain ⟨he, he', hsum⟩ := extra_toInt transaction.fixedExtra
  rw [toInt_add_checked _ _ (by omega) (by omega) hd hd', hsum]

/-- The bytes a cut packet needs are all in the buffer. -/
theorem cut_frame_length (transactions : Int32 → Option Transaction) (input : Bytes)
    (totalSize : Int32) (h : cut transactions input = .frame totalSize) :
    32 ≤ totalSize.toInt ∧ totalSize.toInt ≤ input.length ∧
      (totalSize - 32).toInt = totalSize.toInt - 32 := by
  obtain ⟨hlo, hhi, hall, _⟩ := cut_frame transactions input totalSize h
  rw [Word32.lt_iff] at hall
  have hsize : (sizeInt input).toInt ≤ input.length := Word32.toInt_ofNat_le _
  have h32 : (32 : Int32).toInt = 32 := rfl
  have hbody := Word32.toInt_sub_exact totalSize 32 (by omega) (by omega)
  omega

/-- A frame that is cut off holds all its handler reads. -/
theorem cut_frame_split (transactions : Int32 → Option Transaction) (input : Bytes)
    (totalSize : Int32) (h : cut transactions input = .frame totalSize) :
    PacketHeader.read (input.take totalSize.toInt.toNat) = PacketHeader.read input ∧
    sizeInt (input.take totalSize.toInt.toNat) = totalSize ∧
    input.drop packetHeaderSize = (input.take totalSize.toInt.toNat).drop packetHeaderSize ++
      input.drop totalSize.toInt.toNat ∧
    (totalSize - 32).toInt = ((input.take totalSize.toInt.toNat).drop packetHeaderSize).length := by
  obtain ⟨hlo, hhi, hbody⟩ := cut_frame_length _ _ _ h
  have hlength : (input.take totalSize.toInt.toNat).length = totalSize.toInt.toNat := by
    rw [List.length_take]
    omega
  have hupper := Word32.toInt_upper totalSize
  have hlong : packetHeaderSize ≤ (input.take totalSize.toInt.toNat).length := by
    rw [hlength]
    unfold packetHeaderSize
    omega
  have hread := PacketHeader.read_append (input.take totalSize.toInt.toNat)
    (input.drop totalSize.toInt.toNat) hlong
  rw [List.take_append_drop] at hread
  refine ⟨hread.symm, ?_, ?_, ?_⟩
  · apply Int32.toInt_inj.mp
    rw [sizeInt_toInt _ (by omega), hlength]
    omega
  · rw [← List.drop_append_of_le_length hlong, List.take_append_drop]
  · rw [List.length_drop, hlength, hbody]
    unfold packetHeaderSize
    omega

/-- What a response does to its transaction is determined by its frame. -/
theorem handleResponse_frame (transactions : Int32 → Option Transaction) (input : Bytes)
    (totalSize : Int32) (transaction : Transaction) (h : cut transactions input = .frame totalSize)
    (hanswer : answeredBy transactions (PacketHeader.read input).ticket = some transaction) :
    PacketHeader.read (input.take totalSize.toInt.toNat) = PacketHeader.read input ∧
    transaction.handleResponse (PacketHeader.read input) (input.drop packetHeaderSize)
      (totalSize - 32) = transaction.answer (input.take totalSize.toInt.toNat) := by
  obtain ⟨hread, hframe, hdrop, hlength⟩ := cut_frame_split _ _ _ h
  have hsize := cut_answered _ _ _ _ h hanswer
  have hbody := (cut_frame_length _ _ _ h).2.2
  refine ⟨hread, ?_⟩
  rw [Transaction.answer, hframe, hread, hdrop,
    Transaction.handleResponse_append _ _ _ _ _ (by omega) (by omega)]

namespace DSNetManager

/-- What lies behind the packet at the front of the buffer does not matter to its handler. -/
theorem handleFrame_append (m : DSNetManager) (input more : Bytes) (totalSize : Int32)
    (h : cut m.myTransactions input = .frame totalSize) :
    m.handleFrame (input ++ more) totalSize = m.handleFrame input totalSize := by
  obtain ⟨hlo, hhi, hbody⟩ := cut_frame_length _ _ _ h
  have hread := PacketHeader.read_append input more (by unfold packetHeaderSize; omega)
  have htake : (input ++ more).take totalSize.toInt.toNat = input.take totalSize.toInt.toNat :=
    List.take_append_of_le_length (by omega)
  have hdrop : (input ++ more).drop packetHeaderSize = input.drop packetHeaderSize ++ more :=
    List.drop_append_of_le_length (by unfold packetHeaderSize; omega)
  have hlength : (input.drop packetHeaderSize).length = input.length - 32 := List.length_drop
  simp only [handleFrame, hread, htake, hdrop]
  cases hanswer : answeredBy m.myTransactions (PacketHeader.read input).ticket with
  | some transaction =>
    have hsize := cut_answered _ _ _ _ h hanswer
    simp only [Transaction.handleResponse_append transaction (PacketHeader.read input)
      (input.drop packetHeaderSize) more (totalSize - 32) (by omega) (by omega)]
  | none =>
    simp only [handlePacket_append _ _ (input.drop packetHeaderSize) more
      (totalSize - 32) (by omega),
      handleHandshakeResponse_append _ _ input more totalSize (by omega) hhi]

/-- Consuming a packet that is all there commutes with more bytes arriving. -/
theorem consume_receive (m : DSNetManager) (more : Bytes) (totalSize : Int32)
    (hpos : 0 < totalSize.toInt) (hall : totalSize.toInt ≤ m.mySocket.myInput.length)
    (hfit : m.mySocket.myInput.length + more.length < 2147483648) :
    (m.receive more).consume totalSize = (m.consume totalSize).receive more := by
  have hlong := NetNatsueSocket.consumeInput_exact (m.mySocket.receive more) totalSize hpos
    (by simp [NetNatsueSocket.receive]; omega) (by simp [NetNatsueSocket.receive]; omega)
  have hshort := NetNatsueSocket.consumeInput_exact m.mySocket totalSize hpos hall (by omega)
  have hdrop : (m.mySocket.myInput ++ more).drop totalSize.toInt.toNat =
      m.mySocket.myInput.drop totalSize.toInt.toNat ++ more :=
    List.drop_append_of_le_length (by omega)
  simp only [consume, receive, hlong, hshort]
  simp only [NetNatsueSocket.receive, NetNatsueSocket.withInput, hdrop]

theorem processInputBody_frame (m : DSNetManager) (totalSize : Int32)
    (h : cut m.myTransactions m.mySocket.myInput = .frame totalSize) :
    m.processInputBody =
      if ¬ (m.handleFrame m.mySocket.myInput totalSize).1 then
        .leave (m.handleFrame m.mySocket.myInput totalSize).2
      else .again ((m.handleFrame m.mySocket.myInput totalSize).2.consume totalSize) := by
  simp only [processInputBody, h]

/-- A decided round takes no notice of what arrives behind it. -/
theorem processInputBody_receive (m : DSNetManager) (more : Bytes)
    (hdecided : cut m.myTransactions m.mySocket.myInput ≠ .wait)
    (hfit : m.mySocket.myInput.length + more.length < 2147483648) :
    (m.receive more).processInputBody = Feed.later receive more m.processInputBody := by
  have hcut := cut_append m.myTransactions m.mySocket.myInput more hfit hdecided
  have hcut' : cut (m.receive more).myTransactions (m.receive more).mySocket.myInput =
      cut m.myTransactions m.mySocket.myInput := hcut
  cases h : cut m.myTransactions m.mySocket.myInput with
  | wait => exact absurd h hdecided
  | lost =>
    simp only [processInputBody, hcut', h]
    rfl
  | frame totalSize =>
    obtain ⟨hlo, hhi, _⟩ := cut_frame_length _ _ _ h
    have hbehind : (m.receive more).handleFrame (m.receive more).mySocket.myInput totalSize =
        ((m.handleFrame m.mySocket.myInput totalSize).1,
          (m.handleFrame m.mySocket.myInput totalSize).2.receive more) := by
      rw [handleFrame_receive]
      change ((m.handleFrame (m.mySocket.myInput ++ more) totalSize).1, _) = _
      change (_, (m.handleFrame (m.mySocket.myInput ++ more) totalSize).2.receive more) = _
      rw [handleFrame_append m _ more totalSize h]
    have hlength := congrArg List.length (handleFrame_input m m.mySocket.myInput totalSize)
    rw [processInputBody_frame _ _ (hcut'.trans h), processInputBody_frame _ _ h, hbehind]
    by_cases hgone : (m.handleFrame m.mySocket.myInput totalSize).1
    · simp only [hgone, not_true_eq_false, ↓reduceIte, Feed.later]
      rw [consume_receive _ more totalSize (by omega) (by omega) (by omega)]
    · simp only [hgone, Feed.later, ↓reduceIte, not_false_eq_true, Bool.false_eq_true]

end DSNetManager
end NetNatsue
