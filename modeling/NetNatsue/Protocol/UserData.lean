import NetNatsue.Protocol.Parsers

/-! What user data the parser accepts, and what it makes of them. -/
namespace NetNatsue
namespace ShortUserData

/-- User data that can be decoded: the fixed part and the three names fit the size. -/
structure Decodable (data : Bytes) (size : Int32) : Prop where
  fixed : 24 ≤ size.toInt
  total : (getInt data 0).toInt ≤ size.toInt
  firstName : 0 ≤ (getInt data 12).toInt
  lastName : 0 ≤ (getInt data 16).toInt
  nickName : 0 ≤ (getInt data 20).toInt
  names : (getInt data 12).toInt + (getInt data 16).toInt + (getInt data 20).toInt ≤ size.toInt - 24

/-- Every difference that a guard computes is exact where the guards before it have passed. -/
structure GuardsExact (data : Bytes) (size : Int32) : Prop where
  firstName : 24 ≤ size.toInt → (size - 24).toInt = size.toInt - 24
  lastName : 24 ≤ size.toInt → 0 ≤ (getInt data 12).toInt → getInt data 12 ≤ size - 24 →
    (size - 24 - getInt data 12).toInt = size.toInt - 24 - (getInt data 12).toInt
  nickName : 24 ≤ size.toInt → 0 ≤ (getInt data 12).toInt → getInt data 12 ≤ size - 24 →
    0 ≤ (getInt data 16).toInt → getInt data 16 ≤ size - 24 - getInt data 12 →
    (size - 24 - getInt data 12 - getInt data 16).toInt =
      size.toInt - 24 - (getInt data 12).toInt - (getInt data 16).toInt

/-- The identity of the header and three consecutive names. -/
def decoded (data : Bytes) : ShortUserData :=
  { uin := { uid := getInt data 4, hid := getInt data 8 &&& 0xFFFF }
    firstName := slice data 24 (getInt data 12)
    lastName := slice data (24 + (getInt data 12).toInt.toNat) (getInt data 16)
    nickName :=
      slice data (24 + (getInt data 12).toInt.toNat + (getInt data 16).toInt.toNat)
        (getInt data 20) }

/-- The part before the names. -/
def encodeFixed (user : ShortUserData) : Bytes :=
  putInt (Int32.ofNat (24 + user.firstName.length + user.lastName.length + user.nickName.length))
    ++ putInt user.uin.uid ++ putInt user.uin.hid
    ++ putInt (sizeInt user.firstName) ++ putInt (sizeInt user.lastName) ++
      putInt (sizeInt user.nickName)

/-- The bytes of some user data. -/
def encode (user : ShortUserData) : Bytes :=
  encodeFixed user ++ user.firstName ++ user.lastName ++ user.nickName

theorem encodeFixed_length (user : ShortUserData) : (encodeFixed user).length = 24 := rfl

section
variable (data : Bytes) (size : Int32)

theorem guards_exact : GuardsExact data size := by
  have hupper := Word32.toInt_upper size
  have hfirst : 24 ≤ size.toInt → (size - 24).toInt = size.toInt - 24 := fun hfixed =>
    Word32.toInt_sub_exact size 24 (show -2147483648 ≤ size.toInt - 24 by omega)
      (show size.toInt - 24 < 2147483648 by omega)
  have hlast : 24 ≤ size.toInt → 0 ≤ (getInt data 12).toInt → getInt data 12 ≤ size - 24 →
      (size - 24 - getInt data 12).toInt = size.toInt - 24 - (getInt data 12).toInt := by
    intro hfixed hnonneg hfits
    rw [Word32.le_iff, hfirst hfixed] at hfits
    have hexact := Word32.toInt_sub_exact (size - 24) (getInt data 12)
    rw [hfirst hfixed] at hexact
    exact hexact (by omega) (by omega)
  refine ⟨hfirst, hlast, ?_⟩
  intro hfixed hnonneg hfits hnonneg' hfits'
  have hprevious := hlast hfixed hnonneg hfits
  rw [Word32.le_iff, hprevious] at hfits'
  rw [Word32.le_iff, hfirst hfixed] at hfits
  have hexact := Word32.toInt_sub_exact (size - 24 - getInt data 12) (getInt data 16)
  rw [hprevious] at hexact
  exact hexact (by omega) (by omega)

/-- The staged guards amount to one condition on the exact sum. -/
theorem parseShortUserData_eq (h : Decodable data size) :
    parseShortUserData data size = some (decoded data) := by
  have hexact := guards_exact data size
  obtain ⟨hfixed, htotal, hfirst, hlast, hnick, hnames⟩ := h
  have hsize : ¬ size < 24 := by
    rw [Word32.lt_iff]
    exact not_lt.mpr hfixed
  have hlight : ¬ getInt data 0 > size := by
    rw [gt_iff_lt, Word32.lt_iff]
    exact not_lt.mpr htotal
  have hnonneg : ¬ (getInt data 12 < 0 ∨ getInt data 16 < 0 ∨ getInt data 20 < 0) := by
    simp only [Word32.lt_iff, Word32.toInt_zero]
    omega
  have h1 := hexact.firstName hfixed
  have hfits1 : getInt data 12 ≤ size - 24 := by
    rw [Word32.le_iff, h1]
    omega
  have h2 := hexact.lastName hfixed hfirst hfits1
  have hfits2 : getInt data 16 ≤ size - 24 - getInt data 12 := by
    rw [Word32.le_iff, h2]
    omega
  have h3 := hexact.nickName hfixed hfirst hfits1 hlast hfits2
  have hfits : ¬ (getInt data 12 > size - 24 ∨ getInt data 16 > size - 24 - getInt data 12 ∨
      getInt data 20 > size - 24 - getInt data 12 - getInt data 16) := by
    simp only [gt_iff_lt, Word32.lt_iff, h1, h2, h3]
    omega
  simp only [parseShortUserData, hsize, hlight, hnonneg, hfits, if_false, decoded]

theorem decodable_of_parsed {user : ShortUserData} (h : parseShortUserData data size = some user) :
    Decodable data size := by
  have hexact := guards_exact data size
  unfold parseShortUserData at h
  dsimp only at h
  split_ifs at h with hsize htotal hneg hover
  have h24 : (24 : Int32).toInt = 24 := rfl
  simp only [not_or, gt_iff_lt, Word32.lt_iff, Word32.toInt_zero, h24, not_lt]
    at hsize htotal hneg hover
  obtain ⟨hfirst, hlast, hnick⟩ := hneg
  obtain ⟨hover1, hover2, hover3⟩ := hover
  have h1 := hexact.firstName hsize
  have h2 := hexact.lastName hsize hfirst ((Word32.le_iff _ _).mpr hover1)
  have h3 :=
    hexact.nickName hsize hfirst ((Word32.le_iff _ _).mpr hover1) hlast
      ((Word32.le_iff _ _).mpr hover2)
  rw [h3] at hover3
  exact ⟨hsize, htotal, hfirst, hlast, hnick, by omega⟩

end

section
variable (user : ShortUserData) (rest : Bytes)

theorem slice_behind (front text : Bytes) {offset : ℕ} {size : Int32}
    (hfront : front.length = offset) (htext : size.toInt.toNat = text.length) :
    slice (front ++ (text ++ rest)) offset size = text := by
  rw [slice, ← hfront, List.drop_left, htext, List.take_left]

/-- Where the fields of an encoding stand. -/
theorem encode_fields : getInt (encode user ++ rest) 0 =
      Int32.ofNat (24 + user.firstName.length + user.lastName.length + user.nickName.length) ∧
    getInt (encode user ++ rest) 4 = user.uin.uid ∧ getInt (encode user ++ rest) 8 = user.uin.hid ∧
    getInt (encode user ++ rest) 12 = sizeInt user.firstName ∧
    getInt (encode user ++ rest) 16 = sizeInt user.lastName ∧
    getInt (encode user ++ rest) 20 = sizeInt user.nickName := by
  simp only [encode, encodeFixed, List.append_assoc]
  refine ⟨?_, ?_, ?_, ?_, ?_, ?_⟩ <;>
    simp (disch := decide) only [getInt_skip, getInt_putInt, Nat.reduceSub]

/-- What is encoded is decoded, whatever follows it. -/
theorem parseShortUserData_encode (size : Int32) (hlo : 0 ≤ user.uin.hid.toInt)
    (hhi : user.uin.hid.toInt ≤ 65535)
    (hsize : ((24 + user.firstName.length + user.lastName.length +
      user.nickName.length : ℕ) : ℤ) ≤ size.toInt) :
    parseShortUserData (encode user ++ rest) size = some user := by
  have hupper := Word32.toInt_upper size
  obtain ⟨htotal, huid, hhid, hfirst, hlast, hnick⟩ := encode_fields user rest
  have hfirstSize := sizeInt_toInt user.firstName (by omega)
  have hlastSize := sizeInt_toInt user.lastName (by omega)
  have hnickSize := sizeInt_toInt user.nickName (by omega)
  have hdecodable : Decodable (encode user ++ rest) size := by
    refine ⟨by omega, ?_, ?_, ?_, ?_, ?_⟩
    · rw [htotal, Word32.toInt_ofNat_exact _ (by omega)]
      exact hsize
    · rw [hfirst, hfirstSize]
      omega
    · rw [hlast, hlastSize]
      omega
    · rw [hnick, hnickSize]
      omega
    · rw [hfirst, hlast, hnick, hfirstSize, hlastSize, hnickSize]
      omega
  rw [parseShortUserData_eq _ _ hdecodable, decoded, huid, hhid, hfirst, hlast, hnick,
    hfirstSize, hlastSize, Int.toNat_natCast, Int.toNat_natCast, Word32.mask_eq _ hlo (by omega)]
  have hfirstName : slice (encode user ++ rest) 24 (sizeInt user.firstName) = user.firstName := by
    have hslice :=
      slice_behind (user.lastName ++ (user.nickName ++ rest)) (encodeFixed user) user.firstName
      (encodeFixed_length user) (show (sizeInt user.firstName).toInt.toNat = _ by omega)
    simpa only [encode, List.append_assoc] using hslice
  have hlastName : slice (encode user ++ rest) (24 + user.firstName.length)
    (sizeInt user.lastName) =
      user.lastName := by
    have hslice :=
      slice_behind (user.nickName ++ rest) (encodeFixed user ++ user.firstName) user.lastName
      (by rw [List.length_append, encodeFixed_length])
      (show (sizeInt user.lastName).toInt.toNat = _ by omega)
    simpa only [encode, List.append_assoc] using hslice
  have hnickName : slice (encode user ++ rest) (24 + user.firstName.length + user.lastName.length)
      (sizeInt user.nickName) = user.nickName := by
    have hslice :=
      slice_behind rest (encodeFixed user ++ user.firstName ++ user.lastName) user.nickName
      (by rw [List.length_append, List.length_append, encodeFixed_length])
      (show (sizeInt user.nickName).toInt.toNat = _ by omega)
    simpa only [encode, List.append_assoc] using hslice
  rw [hfirstName, hlastName, hnickName]

end

end ShortUserData
open ShortUserData

/-- **User data are decoded exactly.** They are accepted if and only if they fit the size they are
given, no guard overflows, and what is encoded is decoded whatever follows it. -/
theorem parseShortUserData_exact :
    (∀ data size, ((parseShortUserData data size).isSome = true ↔ Decodable data size) ∧
      GuardsExact data size ∧
      ∀ user, parseShortUserData data size = some user → user = decoded data) ∧
    ∀ (user : ShortUserData) (rest : Bytes) (size : Int32), 0 ≤ user.uin.hid.toInt →
      user.uin.hid.toInt ≤ 65535 → ((encode user).length : ℤ) ≤ size.toInt →
      parseShortUserData (encode user ++ rest) size = some user := by
  refine ⟨fun data size => ⟨?_, guards_exact data size, fun user hparsed => ?_⟩,
    fun user rest size hlo hhi hsize => ?_⟩
  · constructor
    · intro hsome
      obtain ⟨user, hparsed⟩ := Option.isSome_iff_exists.mp hsome
      exact decodable_of_parsed data size hparsed
    · intro hdecodable
      rw [parseShortUserData_eq data size hdecodable]
      rfl
  · have heq := parseShortUserData_eq data size (decodable_of_parsed data size hparsed)
    exact Option.some.inj (hparsed.symm.trans heq)
  · refine parseShortUserData_encode user rest size hlo hhi ?_
    simpa only [encode, List.length_append, encodeFixed_length] using hsize

end NetNatsue
