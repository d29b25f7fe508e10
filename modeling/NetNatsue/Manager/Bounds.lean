import NetNatsue.Protocol.Bounds
import NetNatsue.Manager.Refusal
import NetNatsue.Manager.Pumping

/-! The framer and the handlers once more, confined to the bytes of the current packet: every
read and every computed length is checked, and none of them fails. -/
namespace NetNatsue
open Checked

def Transaction.handleResponseChecked (transaction : Transaction) (header : PacketHeader)
    (body : Bytes) (bodySize : Int32) : Checked Transaction :=
  let result := { transaction with done := true, success := false }
  match transaction.kind with
  | .clientInfo =>
    if header.furtherData > 0 ∧ bodySize ≥ header.furtherData then do
      let blob ← advance body transaction.fixedExtra.val
      match ← parseShortUserDataChecked blob header.furtherData with
      | some userData =>
        return { result with success := true, resultUIN := userData.uin, resultString := userData.nickName }
      | none => return result
    else return result
  | .status =>
    if bodySize ≥ 16 then do
      let timeOnline ← getIntChecked body 0
      let usersOnline ← getIntChecked body 4
      let bytesSent ← getIntChecked body 8
      let bytesReceived ← getIntChecked body 12
      return { result with
        success := true
        resultInts := #v[timeOnline, usersOnline, bytesSent, bytesReceived] }
    else return result
  -- the others look at the header only
  | .connectionDetail => return transaction.handleResponse header [] 0
  | .randomUser => return transaction.handleResponse header [] 0
  | .feedHistory => return transaction.handleResponse header [] 0
  | .abandoned => return transaction.handleResponse header [] 0

/-- The loop over the characters of a string, given some rounds to end in. -/
def readZeroTerminatedChecked (raw : Bytes) (rawSize : Int32) : ℕ → Int32 → Checked (Bytes × Int32)
  | 0, _ => .error .endless
  | n+1, offset =>
    if offset < rawSize then do
      let bytes ← advance raw offset
      let c ← Checked.read bytes 0
      if c ≠ 0 then do
        let next ← add offset 1
        let rest ← readZeroTerminatedChecked raw rawSize n next
        return (c :: rest.1, rest.2)
      else return ([], offset)
    else return ([], offset)

def parseServersChecked (raw : Bytes) (rawSize : Int32) :
    ℕ → Int32 → Checked (List CBabelServerInfo)
  | 0, _ => return []
  | count+1, offset => do
    let behind ← add offset 8
    if behind > rawSize then return []
    else do
      let port ← getIntChecked raw offset
      let idOffset ← add offset 4
      let id ← getIntChecked raw idOffset
      let offset ← add offset 8
      let address ← readZeroTerminatedChecked raw rawSize rawSize.toInt.toNat offset
      let offset ← add address.2 1
      let name ← readZeroTerminatedChecked raw rawSize rawSize.toInt.toNat offset
      let offset ← add name.2 1
      if offset > rawSize then return []
      else do
        let rest ← parseServersChecked raw rawSize count offset
        return { myHost := address.1, myFriendlyName := name.1, myPort := port, myID := id } :: rest

def updatedServersChecked (raw : Bytes) (rawSize : Int32) : Checked (List CBabelServerInfo) :=
  if rawSize ≥ 60 then do
    let flagA ← getIntChecked raw 48
    let flagB ← getIntChecked raw 52
    let count ← getIntChecked raw 56
    if flagA = 1 ∧ flagB = 1 ∧ count > 0 ∧ count < 1000 then
      parseServersChecked raw rawSize count.toInt.toNat 60
    else return []
  else return []

section
variable {raw : Bytes} {rawSize : Int32}

/-- The characters of a string lie inside the packet; behind them the cursor is at its end at most,
or where it was. -/
theorem readZeroTerminatedChecked_ok (hraw : rawSize.toInt ≤ raw.length) (n k : ℕ) (offset : Int32)
    (hoffset : offset.toInt = k) (hpos : 0 < n) (hn : rawSize.toInt < k + n) :
    ∃ next : Int32, readZeroTerminatedChecked raw rawSize n offset =
        .ok ((readZeroTerminated raw rawSize.toInt.toNat n k).1, next) ∧
      next.toInt = (readZeroTerminated raw rawSize.toInt.toNat n k).2 ∧
      next.toInt ≤ max (k : ℤ) rawSize.toInt := by
  induction n generalizing k offset with
  | zero => omega
  | succ n ih =>
    simp only [readZeroTerminatedChecked, readZeroTerminated]
    by_cases hinside : offset < rawSize
    · have hbefore : k < rawSize.toInt.toNat := by
        rw [Word32.lt_iff] at hinside
        omega
      have hupper := Word32.toInt_upper rawSize
      rw [if_pos hinside, bind_ok (advance_ok raw offset k hoffset (by omega)),
        bind_ok (read_ok (raw.drop k) 0 0 (by rw [List.length_drop]; omega))]
      have hbyte : (raw.drop k).getD 0 0 = byteAt raw k := byteAt_drop raw k 0
      rw [hbyte]
      by_cases hzero : byteAt raw k = 0
      · simp only [hzero, ne_eq, not_true_eq_false, if_false, and_false]
        exact ⟨offset, rfl, hoffset, by omega⟩
      · have hone : (1 : Int32).toInt = 1 := rfl
        have hnext := Word32.toInt_add_exact offset 1 (by omega) (by omega)
        obtain ⟨next, hrest, hat, hend⟩ := ih (k+1) (offset+1) (by omega) (by omega) (by omega)
        simp only [hzero, hbefore, ne_eq, not_false_eq_true, and_true, if_true]
        rw [bind_ok (add_ok offset 1 (by omega) (by omega)), bind_ok hrest]
        exact ⟨next, rfl, hat, by omega⟩
    · have hbehind : ¬ k < rawSize.toInt.toNat := by
        rw [Word32.lt_iff] at hinside
        omega
      simp only [hinside, hbehind, if_false, false_and]
      exact ⟨offset, rfl, hoffset, by omega⟩

/-- The cursor steps over the end by two at most. -/
theorem parseServersChecked_ok (hraw : rawSize.toInt ≤ raw.length)
    (hsize : rawSize.toInt ≤ 33554480)
    (count k : ℕ) (offset : Int32) (hoffset : offset.toInt = k) (hk : k ≤ rawSize.toInt) :
    parseServersChecked raw rawSize count offset =
      .ok (parseServers raw rawSize.toInt.toNat count k) := by
  have h8 : (8 : Int32).toInt = 8 := rfl
  have h4 : (4 : Int32).toInt = 4 := rfl
  have h1 : (1 : Int32).toInt = 1 := rfl
  induction count generalizing k offset with
  | zero => rfl
  | succ count ih =>
    simp only [parseServersChecked, parseServers]
    have hbehind := Word32.toInt_add_exact offset 8 (by omega) (by omega)
    rw [bind_ok (add_ok offset 8 (by omega) (by omega))]
    by_cases hshort : offset + 8 > rawSize
    · rw [if_pos hshort, if_pos (by rw [gt_iff_lt, Word32.lt_iff] at hshort; omega)]
      rfl
    · have hshort' : ¬ k + 8 > rawSize.toInt.toNat := by
        rw [gt_iff_lt, Word32.lt_iff] at hshort
        omega
      have hid := Word32.toInt_add_exact offset 4 (by omega) (by omega)
      rw [if_neg hshort, if_neg hshort', bind_ok (getIntChecked_ok raw offset k hoffset (by omega)),
        bind_ok (add_ok offset 4 (by omega) (by omega)),
        bind_ok (getIntChecked_ok raw (offset + 4) (k+4) (by omega) (by omega))]
      set address :=
        readZeroTerminated raw rawSize.toInt.toNat rawSize.toInt.toNat (k+8) with haddress
      set name :=
        readZeroTerminated raw rawSize.toInt.toNat rawSize.toInt.toNat (address.2+1) with hname
      obtain ⟨behind, hscan, hat, hend⟩ :=
        readZeroTerminatedChecked_ok hraw rawSize.toInt.toNat (k+8)
        (offset + 8) (by omega) (by omega) (by omega)
      rw [← haddress] at hscan hat
      have hnext := Word32.toInt_add_exact behind 1 (by omega) (by omega)
      rw [bind_ok (add_ok offset 8 (by omega) (by omega)), bind_ok hscan,
        bind_ok (add_ok behind 1 (by omega) (by omega))]
      obtain ⟨behind', hscan', hat', hend'⟩ := readZeroTerminatedChecked_ok hraw rawSize.toInt.toNat
        (address.2+1) (behind + 1) (by omega) (by omega) (by omega)
      rw [← hname] at hscan' hat'
      have hnext' := Word32.toInt_add_exact behind' 1 (by omega) (by omega)
      rw [bind_ok hscan', bind_ok (add_ok behind' 1 (by omega) (by omega))]
      by_cases hpast : behind' + 1 > rawSize
      · rw [if_pos hpast, if_pos (by rw [gt_iff_lt, Word32.lt_iff] at hpast; omega)]
        rfl
      · rw [if_neg hpast, if_neg (by rw [gt_iff_lt, Word32.lt_iff] at hpast; omega)]
        rw [gt_iff_lt, Word32.lt_iff] at hpast
        rw [bind_ok (ih (name.2+1) (behind' + 1) (by omega) (by omega))]
        rfl

theorem updatedServersChecked_ok (hraw : rawSize.toInt ≤ raw.length)
    (hsize : rawSize.toInt ≤ 33554480) :
    updatedServersChecked raw rawSize = .ok (updatedServers raw rawSize) := by
  unfold updatedServersChecked updatedServers
  by_cases hlist : rawSize ≥ 60
  · have hlarge : 60 ≤ rawSize.toInt := (Word32.le_iff 60 rawSize).mp hlist
    rw [if_pos hlist, if_pos hlist, bind_ok (getIntChecked_ok raw 48 48 rfl (by omega)),
      bind_ok (getIntChecked_ok raw 52 52 rfl (by omega)), bind_ok
        (getIntChecked_ok raw 56 56 rfl (by omega)),
      parseServersChecked_ok hraw hsize _ 60 60 rfl (by omega)]
    simp only
    split_ifs <;> rfl
  · rw [if_neg hlist, if_neg hlist]
    rfl

end

/-- The answer to a transaction is looked for behind the part that its requestor laid down. -/
theorem Transaction.handleResponseChecked_ok (transaction : Transaction) (header : PacketHeader)
    (body : Bytes) (bodySize : Int32) (hbody : bodySize.toInt ≤ body.length)
    (hfurther : transaction.fixedExtra.val.toInt + header.furtherData.toInt ≤ body.length)
    (hnonneg : 0 ≤ header.furtherData.toInt) :
    transaction.handleResponseChecked header body bodySize =
      .ok (transaction.handleResponse header body bodySize) := by
  obtain ⟨hextra, _, _⟩ := extra_toInt transaction.fixedExtra
  unfold handleResponseChecked handleResponse
  cases hkind : transaction.kind
  case clientInfo =>
    simp only
    by_cases hsome : header.furtherData > 0 ∧ bodySize ≥ header.furtherData
    · simp only [if_pos hsome]
      rw [bind_ok (advance_ok body transaction.fixedExtra.val transaction.fixedExtra.val.toInt.toNat
        (by omega) (by omega)), bind_ok (parseShortUserDataChecked_ok _ _
          (by rw [List.length_drop]; omega))]
      cases parseShortUserData (body.drop transaction.fixedExtra.val.toInt.toNat)
        header.furtherData <;> rfl
    · simp only [if_neg hsome]
      rfl
  case status =>
    simp only
    by_cases hlong : bodySize ≥ 16
    · have hlarge : 16 ≤ bodySize.toInt := (Word32.le_iff 16 bodySize).mp hlong
      simp only [if_pos hlong]
      rw [bind_ok (getIntChecked_ok body 0 0 rfl (by omega)),
        bind_ok (getIntChecked_ok body 4 4 rfl (by omega)),
        bind_ok (getIntChecked_ok body 8 8 rfl (by omega)), bind_ok
          (getIntChecked_ok body 12 12 rfl (by omega))]
      rfl
    · simp only [if_neg hlong]
      rfl
  all_goals rfl

namespace DSNetManager

def handleHandshakeResponseChecked (m : DSNetManager) (header : PacketHeader) (raw : Bytes)
    (rawSize : Int32) : Checked DSNetManager :=
  if m.myConnectPhase ≠ .awaitHandshake then return m
  else do
    let error ← Checked.read raw 1
    let errorCode := Int32.ofNat error.toNat
    let serverUIN : BabelUIN := ⟨header.fieldA, header.fieldB⟩
    let userUIN : BabelUIN := ⟨header.fieldC, header.fieldD⟩
    if errorCode ≠ 0 ∨ serverUIN.uid = 0 then return m.refuseLogin errorCode
    else do
      let servers ← updatedServersChecked raw rawSize
      return m.acceptLogin serverUIN userUIN servers

def handleMessageChecked (m : DSNetManager) (body : Bytes) (bodySize : Int32) :
    Checked DSNetManager := do
  match ← parsePackedBabelMessageChecked body bodySize with
  | none => return m
  | some message =>
    if message.messageType = mesgPrayFile then return m.spoolPrayFile message.sender message.payload
    else return { m with
      myIncomingMessages := m.myIncomingMessages ++
        [{ user := message.sender.toString, type := message.messageType, payload := message.payload }] }

def handleUserDataChecked (m : DSNetManager) (online : Bool) (body : Bytes) (bodySize : Int32) :
    Checked DSNetManager := do
  match ← parseShortUserDataChecked body bodySize with
  | none => return m
  | some userData => return m.updatePresence userData.uin online userData.nickName

def handlePacketChecked (m : DSNetManager) (header : PacketHeader) (body : Bytes)
    (bodySize : Int32) :
    Checked (Bool × DSNetManager) :=
  match ServerPacket.ofType header.type with
  | some .message => do
    let n ← m.handleMessageChecked body bodySize
    return (true, n)
  | some .userOnline => do
    let n ← m.handleUserDataChecked true body bodySize
    return (true, n)
  | some .userOffline => do
    let n ← m.handleUserDataChecked false body bodySize
    return (true, n)
  -- no other packet has its body looked at
  | _ => return m.handlePacket header [] 0

/-- Hand a packet to its handler, which sees nothing but the packet. -/
def handleFrameChecked (m : DSNetManager) (packet : Bytes) (totalSize : Int32) :
    Checked (Bool × DSNetManager) := do
  let header ← PacketHeader.readChecked packet
  match answeredBy m.myTransactions header.ticket with
  | some transaction => do
    let body ← advance packet 32
    let bodySize ← sub totalSize 32
    let answered ← transaction.handleResponseChecked header body bodySize
    return (true, (m.emit (.response header.ticket packet)).respond header.ticket answered)
  | none =>
    if ServerPacket.ofType header.type = some .handshakeResponse then do
      let n ← (m.emit (.handshake m.myConnectPhase packet)).handleHandshakeResponseChecked header
        packet totalSize
      return (true, n)
    else do
      let body ← advance packet 32
      let bodySize ← sub totalSize 32
      (m.emit (.packet m.myConnectPhase header packet)).handlePacketChecked header body bodySize

section
variable (m : DSNetManager) (header : PacketHeader)

theorem handleHandshakeResponseChecked_ok (raw : Bytes) (rawSize : Int32)
    (hheader : packetHeaderSize ≤ raw.length)
    (hraw : rawSize.toInt ≤ raw.length) (hsize : rawSize.toInt ≤ 33554480) :
    m.handleHandshakeResponseChecked header raw rawSize =
      .ok (m.handleHandshakeResponse header raw rawSize) := by
  unfold packetHeaderSize at hheader
  unfold handleHandshakeResponseChecked handleHandshakeResponse
  by_cases hphase : m.myConnectPhase ≠ .awaitHandshake
  · rw [if_pos hphase, if_pos hphase]
    rfl
  · rw [if_neg hphase, if_neg hphase, bind_ok (read_ok raw 1 0 (by omega))]
    by_cases hrefused : handshakeErrorCode raw ≠ 0 ∨ header.fieldA = 0
    · rw [if_pos hrefused]
      exact if_pos hrefused
    · rw [if_neg hrefused]
      refine (if_neg hrefused).trans ?_
      rw [bind_ok (updatedServersChecked_ok hraw hsize)]
      rfl

theorem handleMessageChecked_ok (body : Bytes) (bodySize : Int32)
    (h : bodySize.toInt ≤ body.length) :
    m.handleMessageChecked body bodySize = .ok (m.handleMessage body bodySize) := by
  rw [handleMessageChecked, bind_ok (parsePackedBabelMessageChecked_ok body bodySize h),
    handleMessage]
  cases parsePackedBabelMessage body bodySize with
  | none => rfl
  | some message =>
    simp only
    split_ifs <;> rfl

theorem handleUserDataChecked_ok (online : Bool) (body : Bytes) (bodySize : Int32)
    (h : bodySize.toInt ≤ body.length) :
    m.handleUserDataChecked online body bodySize = .ok (m.handleUserData online body bodySize) := by
  rw [handleUserDataChecked, bind_ok (parseShortUserDataChecked_ok body bodySize h), handleUserData]
  cases parseShortUserData body bodySize <;> rfl

theorem handlePacketChecked_ok (body : Bytes) (bodySize : Int32)
    (h : bodySize.toInt ≤ body.length) :
    m.handlePacketChecked header body bodySize = .ok (m.handlePacket header body bodySize) := by
  simp only [handlePacketChecked, handlePacket]
  cases ServerPacket.ofType header.type with
  | none => rfl
  | some packet =>
    cases packet
    case message => exact bind_ok (m.handleMessageChecked_ok body bodySize h) _
    case userOnline => exact bind_ok (m.handleUserDataChecked_ok true body bodySize h) _
    case userOffline => exact bind_ok (m.handleUserDataChecked_ok false body bodySize h) _
    all_goals rfl

/-- A handler that sees nothing but its packet does what the handler in the buffer does. -/
theorem handleFrameChecked_ok (input : Bytes) (totalSize : Int32)
    (h : cut m.myTransactions input = .frame totalSize) :
    m.handleFrameChecked (input.take totalSize.toInt.toNat) totalSize = .ok
      (m.handleFrame input totalSize) := by
  obtain ⟨hread, hsize, hdrop, hbody⟩ := cut_frame_split _ _ _ h
  obtain ⟨hlo, hhi, hall, _⟩ := cut_frame _ _ _ h
  obtain ⟨_, hlength, hrest⟩ := cut_frame_length _ _ _ h
  set packet := input.take totalSize.toInt.toNat with hpacket
  have hlong : packet.length = totalSize.toInt.toNat := by
    rw [hpacket, List.length_take]
    omega
  have hheader : packetHeaderSize ≤ packet.length := by
    unfold packetHeaderSize
    omega
  have hself : packet.take totalSize.toInt.toNat = packet := List.take_of_length_le (by omega)
  have h32 : (32 : Int32).toInt = 32 := rfl
  have hbodySize := sub_ok totalSize 32 (by omega) (by omega)
  have hbodyAt := advance_ok packet 32 packetHeaderSize rfl hheader
  rw [handleFrame_front m input totalSize h, ← hpacket, hsize, handleFrameChecked,
    bind_ok (PacketHeader.readChecked_ok packet hheader)]
  cases hanswer : answeredBy m.myTransactions (PacketHeader.read packet).ticket with
  | some transaction =>
    have hclaim := cut_answered _ _ _ _ h (by rw [← hread]; exact hanswer)
    obtain ⟨_, _, hfurther, _⟩ := cut_claimed _ _ _ h
    rw [← hread] at hclaim hfurther
    rw [handleFrame_response m packet totalSize transaction hanswer, hself]
    simp only
    rw [bind_ok hbodyAt, bind_ok hbodySize, bind_ok (transaction.handleResponseChecked_ok
      (PacketHeader.read packet) (packet.drop packetHeaderSize) (totalSize - 32) hbody.le
        (by omega) hfurther)]
    rfl
  | none =>
    by_cases htype : ServerPacket.ofType (PacketHeader.read packet).type = some .handshakeResponse
    · rw [handleFrame_handshake m packet totalSize hanswer htype, hself]
      simp only [if_pos htype]
      rw [bind_ok (handleHandshakeResponseChecked_ok _ _ packet totalSize hheader (by omega) hhi)]
      rfl
    · rw [handleFrame_packet m packet totalSize hanswer htype, hself]
      simp only [if_neg htype]
      rw [bind_ok hbodyAt, bind_ok hbodySize]
      exact handlePacketChecked_ok _ _ _ _ hbody.le

end

end DSNetManager

def unsolicitedSizeChecked (packet : Bytes) (inputSize : Int32) (header : PacketHeader) :
    Checked Cut :=
  match ServerPacket.ofType header.type with
  | some .message => Cut.frame <$> add 32 header.furtherData
  | some .userOnline => Cut.frame <$> add 32 header.furtherData
  | some .userOffline => Cut.frame <$> add 32 header.furtherData
  | some .handshakeResponse =>
    if inputSize < 48 then return .wait
    else do
      let additional ← getIntChecked packet 44
      if additional < 0 ∨ additional > maxFurtherData then return .lost
      else Cut.frame <$> add 48 additional
  | some .clientCommand => return .frame 36
  | some .virtualConnect => return .frame 44
  | some .virtualCircuit => Cut.frame <$> add 44 header.furtherData
  | some .onlineChange => return .frame 32
  | some .virtualCircuitClose => return .frame 32
  | some .migrate => return .frame 32
  | none => return .lost

def claimedSizeChecked (transactions : Int32 → Option Transaction) (packet : Bytes)
    (inputSize : Int32) (header : PacketHeader) : Checked Cut :=
  match answeredBy transactions header.ticket with
  | some transaction => do
    let fixed ← add 32 transaction.fixedExtra.val
    Cut.frame <$> add fixed header.furtherData
  | none => unsolicitedSizeChecked packet inputSize header

def cutChecked (transactions : Int32 → Option Transaction) (packet : Bytes) (inputSize : Int32) :
    Checked Cut :=
  if inputSize < 32 then return .wait
  else do
    let header ← PacketHeader.readChecked packet
    if header.furtherData < 0 ∨ header.furtherData > maxFurtherData then return .lost
    else do
      match ← claimedSizeChecked transactions packet inputSize header with
      | .frame totalSize => if inputSize < totalSize then return .wait else return .frame totalSize
      | .lost => return .lost
      | .wait => return .wait

section
variable (transactions : Int32 → Option Transaction) (packet input : Bytes)

/-- A small fixed part and a checked length never overflow. -/
theorem frame_ok (a d : Int32) (ha : 0 ≤ a.toInt) (ha' : a.toInt ≤ 48) (hd : 0 ≤ d.toInt)
    (hd' : d.toInt ≤ 33554432) : Cut.frame <$> add a d = .ok (.frame (a+d)) := by
  rw [add_ok a d (by omega) (by omega)]
  rfl

theorem unsolicitedSizeChecked_ok (inputSize : Int32) (header : PacketHeader)
    (hd : 0 ≤ header.furtherData.toInt) (hd' : header.furtherData.toInt ≤ 33554432)
    (h : ServerPacket.ofType header.type = some .handshakeResponse → ¬ inputSize < 48 →
      48 ≤ packet.length ∧ getInt packet 44 = getInt input 44) :
    unsolicitedSizeChecked packet inputSize header = .ok
      (unsolicitedSize input inputSize header) := by
  unfold unsolicitedSizeChecked unsolicitedSize
  cases hpacket : ServerPacket.ofType header.type with
  | none => rfl
  | some kind =>
    cases kind
    case message => exact frame_ok 32 _ (by decide) (by decide) hd hd'
    case userOnline => exact frame_ok 32 _ (by decide) (by decide) hd hd'
    case userOffline => exact frame_ok 32 _ (by decide) (by decide) hd hd'
    case virtualCircuit => exact frame_ok 44 _ (by decide) (by decide) hd hd'
    case handshakeResponse =>
      simp only
      by_cases hshort : inputSize < 48
      · rw [if_pos hshort, if_pos hshort]
        rfl
      · obtain ⟨hlong, hsame⟩ := h hpacket hshort
        rw [if_neg hshort, if_neg hshort, bind_ok (getIntChecked_ok packet 44 44 rfl hlong), hsame]
        by_cases hberserk : getInt input 44 < 0 ∨ getInt input 44 > maxFurtherData
        · simp only [if_pos hberserk]
          rfl
        · obtain ⟨ha, ha'⟩ := furtherData_exact _ hberserk
          simp only [if_neg hberserk]
          exact frame_ok 48 _ (by decide) (by decide) ha ha'
    all_goals rfl

/-- The framer reads no more than a header, and the length of the data of a handshake response. -/
theorem cutChecked_ok
    (hheader : ¬ sizeInt input < 32 →
      packetHeaderSize ≤ packet.length ∧ PacketHeader.read packet = PacketHeader.read input)
    (hhandshake : answeredBy transactions (PacketHeader.read input).ticket = none →
      ServerPacket.ofType (PacketHeader.read input).type = some .handshakeResponse →
      ¬ sizeInt input < 48 → 48 ≤ packet.length ∧ getInt packet 44 = getInt input 44) :
    cutChecked transactions packet (sizeInt input) = .ok (cut transactions input) := by
  unfold cutChecked cut
  by_cases hshort : sizeInt input < 32
  · simp only [if_pos hshort]
    rfl
  · obtain ⟨hlong, hread⟩ := hheader hshort
    simp only [if_neg hshort]
    rw [bind_ok (PacketHeader.readChecked_ok packet hlong), hread]
    by_cases hberserk : (PacketHeader.read input).furtherData < 0 ∨
        (PacketHeader.read input).furtherData > maxFurtherData
    · simp only [if_pos hberserk]
      rfl
    · obtain ⟨hd, hd'⟩ := furtherData_exact _ hberserk
      simp only [if_neg hberserk]
      have hclaim : claimedSizeChecked transactions packet (sizeInt input)
        (PacketHeader.read input) =
          .ok (claimedSize transactions input (sizeInt input) (PacketHeader.read input)) := by
        unfold claimedSizeChecked claimedSize
        cases hanswer : answeredBy transactions (PacketHeader.read input).ticket with
        | some transaction =>
          obtain ⟨he, he', hsum⟩ := extra_toInt transaction.fixedExtra
          have h32 : (32 : Int32).toInt = 32 := rfl
          simp only
          rw [bind_ok (add_ok 32 transaction.fixedExtra.val (by omega) (by omega))]
          exact frame_ok _ _ (by omega) (by omega) hd hd'
        | none => exact unsolicitedSizeChecked_ok packet input _ _ hd hd' (hhandshake hanswer)
      rw [bind_ok hclaim]
      cases claimedSize transactions input (sizeInt input) (PacketHeader.read input) with
      | wait => rfl
      | lost => rfl
      | frame totalSize =>
        simp only
        split_ifs <;> rfl

/-- A handshake response holds the length of its data. -/
theorem cut_handshake (totalSize : Int32) (h : cut transactions input = .frame totalSize)
    (hanswer : answeredBy transactions (PacketHeader.read input).ticket = none)
    (htype : ServerPacket.ofType (PacketHeader.read input).type = some .handshakeResponse) :
    48 ≤ totalSize.toInt := by
  obtain ⟨_, _, _, _, hclaim⟩ := cut_claimed _ _ _ h
  simp only [claimedSize, hanswer, unsolicitedSize, htype] at hclaim
  split_ifs at hclaim with hshort hberserk
  obtain ⟨ha, ha'⟩ := furtherData_exact _ hberserk
  have hsum := toInt_add_checked 48 (getInt input 44) (by decide) (by decide) ha ha'
  have h48 : (48 : Int32).toInt = 48 := rfl
  rw [← Cut.frame.inj hclaim, hsum]
  omega

end

namespace DSNetManager

/-- The packet at the front of the input buffer; the whole buffer as long as it holds none. -/
def currentPacket (m : DSNetManager) : Bytes :=
  match cut m.myTransactions m.mySocket.myInput with
  | .frame totalSize => m.mySocket.myInput.take totalSize.toInt.toNat
  | .wait => m.mySocket.myInput
  | .lost => m.mySocket.myInput

/-- One round of the loop of `ProcessInput`, with nothing but the packet to read from. -/
def processInputBodyChecked (packet : Bytes) (m : DSNetManager) :
    Checked (Loop.Next DSNetManager) := do
  match ← cutChecked m.myTransactions packet m.mySocket.inputSize with
  | .wait => return .leave m
  | .lost => return .leave m.connectionLost
  | .frame totalSize => do
    let r ← m.handleFrameChecked packet totalSize
    if ¬ r.1 then return .leave r.2 else return .again (r.2.consume totalSize)

def confinedRound (m : DSNetManager) : Checked (Loop.Next DSNetManager) :=
  processInputBodyChecked m.currentPacket m

/-- How many bytes are gone from the input buffer. -/
def taken (m n : DSNetManager) : ℤ := m.inputLength - n.inputLength

/-- A buffer of 2^32 bytes or more in front of which stands a packet as long as `InputSize()`
makes the buffer. -/
def Overfull (m : DSNetManager) : Prop :=
  4294967296 ≤ m.inputLength ∧ cut m.myTransactions m.mySocket.myInput = .frame m.mySocket.inputSize

/-- What a round takes that is followed by another one: a header at least, and no more than
`InputSize()`, unless the buffer is overfull, which is emptied. -/
structure Advances (m n : DSNetManager) : Prop where
  atLeast : 32 ≤ taken m n
  atMost : ¬ m.Overfull → taken m n ≤ m.mySocket.inputSize.toInt
  overfull : m.Overfull → n.mySocket.myInput = []

section
variable (m : DSNetManager)

theorem cutChecked_current :
    cutChecked m.myTransactions m.currentPacket m.mySocket.inputSize =
      .ok (cut m.myTransactions m.mySocket.myInput) := by
  have hle : (sizeInt m.mySocket.myInput).toInt ≤ m.mySocket.myInput.length :=
    Word32.toInt_ofNat_le _
  have hbuffer : m.currentPacket = m.mySocket.myInput →
      cutChecked m.myTransactions m.currentPacket m.mySocket.inputSize =
        .ok (cut m.myTransactions m.mySocket.myInput) := by
    intro hall
    rw [hall]
    apply cutChecked_ok
    · intro hlong
      have hlarge : 32 ≤ (sizeInt m.mySocket.myInput).toInt :=
        not_lt.mp (mt (Word32.lt_iff _ 32).mpr hlong)
      refine ⟨?_, rfl⟩
      unfold packetHeaderSize
      omega
    · intro _ _ hlong
      have hlarge : 48 ≤ (sizeInt m.mySocket.myInput).toInt :=
        not_lt.mp (mt (Word32.lt_iff _ 48).mpr hlong)
      exact ⟨by omega, rfl⟩
  cases hcut : cut m.myTransactions m.mySocket.myInput with
  | wait => rw [← hcut]; exact hbuffer (by simp only [currentPacket, hcut])
  | lost => rw [← hcut]; exact hbuffer (by simp only [currentPacket, hcut])
  | frame totalSize =>
    have hpacket : m.currentPacket = m.mySocket.myInput.take totalSize.toInt.toNat := by
      simp only [currentPacket, hcut]
    obtain ⟨hread, _⟩ := cut_frame_split _ _ _ hcut
    obtain ⟨hlo, hhi, _⟩ := cut_frame_length _ _ _ hcut
    have hlength : (m.mySocket.myInput.take totalSize.toInt.toNat).length =
        totalSize.toInt.toNat := by
      rw [List.length_take]
      omega
    rw [hpacket, ← hcut]
    apply cutChecked_ok
    · intro _
      refine ⟨?_, hread⟩
      unfold packetHeaderSize
      omega
    · intro hanswer htype _
      have hlong := cut_handshake _ _ _ hcut hanswer htype
      have hsame := getInt_append (m.mySocket.myInput.take totalSize.toInt.toNat)
        (m.mySocket.myInput.drop totalSize.toInt.toNat) 44 (by omega)
      rw [List.take_append_drop] at hsame
      exact ⟨by omega, hsame.symm⟩

/-- A round confined to its packet commits no fault, and does what the round in the buffer does. -/
theorem confinedRound_ok : m.confinedRound = .ok m.processInputBody := by
  rw [confinedRound, processInputBodyChecked, bind_ok m.cutChecked_current, processInputBody]
  cases hcut : cut m.myTransactions m.mySocket.myInput with
  | wait => rfl
  | lost => rfl
  | frame totalSize =>
    have hpacket : m.currentPacket = m.mySocket.myInput.take totalSize.toInt.toNat := by
      simp only [currentPacket, hcut]
    simp only
    rw [hpacket, bind_ok (m.handleFrameChecked_ok _ totalSize hcut)]
    split_ifs <;> rfl

end

theorem processInputBody_advances (m n : DSNetManager) (h : m.processInputBody = .again n) :
    Advances m n := by
  obtain ⟨totalSize, hcut, _, rfl⟩ := processInputBody_again m n h
  obtain ⟨hlo, _, hall, _⟩ := cut_frame _ _ _ hcut
  obtain ⟨_, hlength, _⟩ := cut_frame_length _ _ _ hcut
  have hsize : m.mySocket.inputSize = sizeInt m.mySocket.myInput := rfl
  rw [Word32.lt_iff] at hall
  have hsome : ¬ totalSize ≤ 0 := by
    rw [Word32.le_iff, Word32.toInt_zero]
    omega
  have hinput := consume_input (m.handleFrame m.mySocket.myInput totalSize).2 totalSize
  rw [handleFrame_input, consumed, if_neg hsome] at hinput
  by_cases hwhole : totalSize ≥ sizeInt m.mySocket.myInput
  · rw [if_pos hwhole] at hinput
    have heq : totalSize = sizeInt m.mySocket.myInput := by
      apply Int32.toInt_inj.mp
      rw [ge_iff_le, Word32.le_iff] at hwhole
      omega
    have htaken : taken m ((m.handleFrame m.mySocket.myInput totalSize).2.consume totalSize) =
        m.mySocket.myInput.length := by
      rw [taken, inputLength, inputLength, hinput]
      simp
    refine ⟨by omega, fun hshort => ?_, fun _ => hinput⟩
    have hfit : m.mySocket.myInput.length < 4294967296 := by
      by_contra hlong
      exact hshort ⟨not_lt.mp hlong, by rw [hcut, heq, hsize]⟩
    have hhalf : m.mySocket.myInput.length < 2147483648 := by
      by_contra hlong
      have hneg := Word32.toInt_ofNat_negative m.mySocket.myInput.length (by omega) hfit
      change (sizeInt m.mySocket.myInput).toInt = _ at hneg
      omega
    rw [htaken, hsize, sizeInt_toInt _ hhalf]
  · rw [if_neg hwhole] at hinput
    have htaken : taken m ((m.handleFrame m.mySocket.myInput totalSize).2.consume totalSize) =
        totalSize.toInt := by
      rw [taken, inputLength, inputLength, hinput, List.length_drop]
      omega
    refine ⟨by omega, fun _ => by rw [htaken, hsize]; omega, fun hover => ?_⟩
    have heq := Cut.frame.inj (hcut.symm.trans hover.2)
    rw [heq] at hwhole
    exact absurd (Int32.le_refl _) hwhole

/-- **The framer stays inside its packet and comes to its end.** Whatever the phase, the
transactions and the received bytes, the loop runs through rounds that read nothing but the
current packet and whose lengths are exact, each but the last of which advances. -/
theorem processInput_confined (m : DSNetManager) :
    Runs confinedRound Advances m m.processInput ∧
      (m.mySocket.inputSize.toInt = m.inputLength ↔ m.inputLength < 2147483648) :=
  ⟨runs_run processInput_descends confinedRound_ok processInputBody_advances m,
    Word32.toInt_ofNat_iff m.inputLength⟩

/-- A keepalive packet in front of 2^32 bytes: `InputSize()` is 32, and all of it goes. -/
theorem processInput_overfull_emptied : ¬ ∀ m : DSNetManager,
    Runs confinedRound (fun m n => 32 ≤ taken m n ∧ taken m n ≤ m.mySocket.inputSize.toInt)
      m m.processInput := by
  intro hall
  obtain ⟨rest, hrest⟩ : ∃ rest : Bytes, rest.length = 4294967296 :=
    ⟨List.replicate 4294967296 0, List.length_replicate⟩
  have hlength : (keepalive ++ rest).length = 4294967328 := by
    rw [List.length_append, hrest]
    rfl
  have hsize : sizeInt (keepalive ++ rest) = 32 := by
    rw [sizeInt, hlength]
    rfl
  have hread : PacketHeader.read (keepalive ++ rest) = { type := 0x20 } :=
    PacketHeader.read_write _ rest
  have hcut : cut freshOnline.myTransactions (keepalive ++ rest) = .frame 32 := by
    simp only [cut, hsize, hread]
    rfl
  set m := freshOnline.receive (keepalive ++ rest)
  have hinput : m.mySocket.myInput = keepalive ++ rest := rfl
  have hhandled : (m.handleFrame m.mySocket.myInput 32).1 = true := by
    rw [hinput, handleFrame_packet m _ 32 (by rw [hread]; rfl) (by rw [hread]; decide), hread]
    rfl
  have hbody := processInputBody_frame m 32 hcut
  rw [hhandled, if_neg (by simp)] at hbody
  have hround := m.confinedRound_ok
  rw [hbody] at hround
  have hmost := ((hall m).progress hround).2
  have hgone := (processInputBody_advances m _ hbody).overfull
    ⟨by rw [inputLength, hinput, hlength]; norm_num, by
      rw [NetNatsueSocket.inputSize, hinput, hsize]; exact hcut⟩
  rw [taken, inputLength, inputLength, hgone, hinput, hlength, NetNatsueSocket.inputSize, hinput,
    hsize] at hmost
  exact absurd hmost (by decide)

end DSNetManager
end NetNatsue
