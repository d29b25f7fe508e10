import NetNatsue.Protocol.Packets

/-! The parsers of received packets. A parser gets a pointer into the input buffer and a
size; the bytes behind its packet are there as well, and the theorems of this module say
that they make no difference. -/
namespace NetNatsue

/-- `assign(data + offset, size)`. -/
def slice (data : Bytes) (offset : ℕ) (size : Int32) : Bytes :=
  (data.drop offset).take size.toInt.toNat

theorem slice_append (a b : Bytes) (offset : ℕ) (size : Int32)
    (h : offset + size.toInt.toNat ≤ a.length) :
    slice (a ++ b) offset size = slice a offset size := by
  simp only [slice]
  rw [List.drop_append_of_le_length (by omega), List.take_append_of_le_length]
  simp only [List.length_drop]
  omega

structure PackedMessage where
  sender : BabelUIN
  messageType : Int32
  payload : Bytes
  deriving DecidableEq, Repr

def packedHeaderSize : ℕ := 24
def c2eHeaderSize : ℕ := 12

def parsePackedBabelMessage (data : Bytes) (size : Int32) : Option PackedMessage :=
  if size < 24 + 12 then none
  else
    let sender : BabelUIN := { hid := getInt data 4 &&& 0xFFFF, uid := getInt data 8 }
    let messageDataLen := getInt data 12
    if messageDataLen < 12 ∨ messageDataLen > size - 24 then none
    else some
      { sender := sender
        messageType := getInt data (packedHeaderSize+4)
        payload := slice data (packedHeaderSize+c2eHeaderSize) (messageDataLen - 12) }

theorem parsePackedBabelMessage_hid {data : Bytes} {size : Int32} {message : PackedMessage}
    (h : parsePackedBabelMessage data size = some message) :
    message.sender.hid = getInt data 4 &&& 0xFFFF := by
  unfold parsePackedBabelMessage at h
  dsimp only at h
  split_ifs at h
  rw [← Option.some.inj h]

/-- The message parser reads nothing behind the size it is given. -/
theorem parsePackedBabelMessage_append (a b : Bytes) (size : Int32)
    (h : size.toInt ≤ a.length) :
    parsePackedBabelMessage (a ++ b) size = parsePackedBabelMessage a size := by
  unfold parsePackedBabelMessage
  by_cases hsize : size < 24 + 12
  · rw [if_pos hsize, if_pos hsize]
  · have hlarge : 36 ≤ size.toInt := by
      rw [Word32.lt_iff] at hsize
      have h36 : (24 + 12 : Int32).toInt = 36 := rfl
      omega
    rw [if_neg hsize, if_neg hsize]
    simp only [getInt_append a b _ (show 4+4 ≤ a.length by omega),
      getInt_append a b _ (show 8+4 ≤ a.length by omega),
      getInt_append a b _ (show 12+4 ≤ a.length by omega),
      getInt_append a b _ (show packedHeaderSize+4+4 ≤ a.length by unfold packedHeaderSize; omega)]
    by_cases hlen : getInt a 12 < 12 ∨ getInt a 12 > size - 24
    · rw [if_pos hlen, if_pos hlen]
    · rw [if_neg hlen, if_neg hlen, slice_append]
      have h24 : (24 : Int32).toInt = 24 := rfl
      have h12 : (12 : Int32).toInt = 12 := rfl
      have hbody :=
        Word32.toInt_sub_exact size 24 (by omega) (by have := Word32.toInt_upper size; omega)
      obtain ⟨hlo, hhi⟩ := not_or.mp hlen
      rw [Word32.lt_iff] at hlo
      rw [gt_iff_lt, Word32.lt_iff] at hhi
      have hpayload := Word32.toInt_sub_exact (getInt a 12) 12 (by omega)
        (by have := Word32.toInt_upper (getInt a 12); omega)
      unfold packedHeaderSize c2eHeaderSize
      omega

/-- What `BuildMessage` packs the parser unpacks. -/
theorem parsePackedBabelMessage_built (server user target : BabelUIN) (payload : Bytes)
    (size : Int32)
    (hlo : 0 ≤ user.hid.toInt) (hhi : user.hid.toInt ≤ 65535) (hlong : 12 ≤ payload.length)
    (hsize : size.toInt = 24 + payload.length) :
    parsePackedBabelMessage ((buildMessage server user target payload (sizeInt payload)).drop 40)
      size =
      some { sender := user, messageType := getInt payload 4, payload := payload.drop 12 } := by
  have hupper := Word32.toInt_upper size
  have hpayload := sizeInt_toInt payload (by omega)
  have h36 : (24 + 12 : Int32).toInt = 36 := rfl
  have h12 : (12 : Int32).toInt = 12 := rfl
  have h24 : (24 : Int32).toInt = 24 := rfl
  have hbody := Word32.toInt_sub_exact size 24 (by omega) (by omega)
  have hrest := Word32.toInt_sub_exact (sizeInt payload) 12 (by omega) (by omega)
  have hshort : ¬ size < 24 + 12 := by
    rw [Word32.lt_iff]
    omega
  have hfits : ¬ (sizeInt payload < 12 ∨ sizeInt payload > size - 24) := by
    rw [gt_iff_lt, Word32.lt_iff, Word32.lt_iff]
    omega
  rw [buildMessage_packed server user target payload (by omega)]
  simp only [parsePackedBabelMessage, hshort, ↓reduceIte, List.append_assoc, packedHeaderSize,
    c2eHeaderSize]
  simp (disch := decide) only [getInt_skip, getInt_putInt, Nat.reduceSub, Nat.reduceAdd,
    hfits, ↓reduceIte]
  have hhid : user.hid &&& 0xFFFF = user.hid := Word32.mask_eq user.hid hlo (by omega)
  have hslice : slice (putInt (24 + sizeInt payload) ++ (putInt user.hid ++ (putInt user.uid ++
      (putInt (sizeInt payload) ++ (putInt 0 ++ (putInt 1 ++ payload)))))) 36
        (sizeInt payload - 12) =
      payload.drop 12 := by
    have hdrop : (putInt (24 + sizeInt payload) ++ (putInt user.hid ++ (putInt user.uid ++
        (putInt (sizeInt payload) ++ (putInt 0 ++ (putInt 1 ++ payload)))))).drop 36 =
        payload.drop 12 := rfl
    rw [slice, hdrop, List.take_of_length_le]
    rw [List.length_drop]
    omega
  rw [hhid, hslice]

structure ShortUserData where
  uin : BabelUIN
  firstName : Bytes
  lastName : Bytes
  nickName : Bytes
  deriving DecidableEq, Repr

def parseShortUserData (data : Bytes) (size : Int32) : Option ShortUserData :=
  let fixedSize : Int32 := 24
  if size < fixedSize then none
  else if getInt data 0 > size then none
  else
    let uin : BabelUIN := { uid := getInt data 4, hid := getInt data 8 &&& 0xFFFF }
    let firstNameLen := getInt data 12
    let lastNameLen := getInt data 16
    let nickNameLen := getInt data 20
    if firstNameLen < 0 ∨ lastNameLen < 0 ∨ nickNameLen < 0 then none
    -- each addition is guarded against overflow
    else if firstNameLen > size - fixedSize ∨
        lastNameLen > size - fixedSize - firstNameLen ∨
        nickNameLen > size - fixedSize - firstNameLen - lastNameLen then none
    else
      let first := 24
      let last := first + firstNameLen.toInt.toNat
      let nick := last + lastNameLen.toInt.toNat
      some
        { uin := uin
          firstName := slice data first firstNameLen
          lastName := slice data last lastNameLen
          nickName := slice data nick nickNameLen }

/-- The user data parser reads nothing behind the size it is given. -/
theorem parseShortUserData_append (a b : Bytes) (size : Int32) (h : size.toInt ≤ a.length) :
    parseShortUserData (a ++ b) size = parseShortUserData a size := by
  unfold parseShortUserData
  by_cases hsize : size < 24
  · simp only [if_pos hsize]
  · have h24 : (24 : Int32).toInt = 24 := rfl
    have hlarge : 24 ≤ size.toInt := by
      rw [Word32.lt_iff] at hsize
      omega
    simp only [if_neg hsize, getInt_append a b _ (show 0+4 ≤ a.length by omega),
      getInt_append a b _ (show 4+4 ≤ a.length by omega),
      getInt_append a b _ (show 8+4 ≤ a.length by omega),
      getInt_append a b _ (show 12+4 ≤ a.length by omega),
      getInt_append a b _ (show 16+4 ≤ a.length by omega),
      getInt_append a b _ (show 20+4 ≤ a.length by omega)]
    by_cases htotal : getInt a 0 > size
    · simp only [if_pos htotal]
    · simp only [if_neg htotal]
      by_cases hneg : getInt a 12 < 0 ∨ getInt a 16 < 0 ∨ getInt a 20 < 0
      · simp only [if_pos hneg]
      · simp only [if_neg hneg]
        by_cases hover : getInt a 12 > size - 24 ∨ getInt a 16 > size - 24 - getInt a 12 ∨
            getInt a 20 > size - 24 - getInt a 12 - getInt a 16
        · simp only [if_pos hover]
        · -- the three guarded differences are exact, so the names end inside `size`
          simp only [not_or, gt_iff_lt, Word32.lt_iff, Word32.toInt_zero] at hneg hover
          have hupper := Word32.toInt_upper size
          have h1 := Word32.toInt_sub_exact size 24 (by omega) (by omega)
          have h2 := Word32.toInt_sub_exact (size - 24) (getInt a 12) (by omega) (by omega)
          have h3 := Word32.toInt_sub_exact (size - 24 - getInt a 12) (getInt a 16)
            (by omega) (by omega)
          rw [slice_append a b _ _ (by omega), slice_append a b _ _ (by omega),
            slice_append a b _ _ (by omega)]

end NetNatsue
