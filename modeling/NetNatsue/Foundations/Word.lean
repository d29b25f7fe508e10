import Mathlib.Data.Int.Lemmas
import Mathlib.Tactic.NormNum

/-! Signed 32-bit arithmetic read as integers: when a wrapping operation is exact,
and what it gives when it is not. -/
namespace Word32

theorem toInt_upper (a : Int32) : a.toInt < 2147483648 := by
  simpa using a.toInt_lt

theorem lt_iff (a b : Int32) : a < b ↔ a.toInt < b.toInt := Int32.lt_iff_toInt_lt

theorem le_iff (a b : Int32) : a ≤ b ↔ a.toInt ≤ b.toInt := Int32.le_iff_toInt_le

@[simp] theorem toInt_zero : (0 : Int32).toInt = 0 := rfl

/-- A sum that stays in range is the exact sum. -/
theorem toInt_add_exact (a b : Int32) (hlo : -2147483648 ≤ a.toInt + b.toInt)
    (hhi : a.toInt + b.toInt < 2147483648) : (a+b).toInt = a.toInt + b.toInt := by
  rw [Int32.toInt_add]
  apply Int.bmod_eq_of_le <;> omega

/-- A difference that stays in range is the exact difference. -/
theorem toInt_sub_exact (a b : Int32) (hlo : -2147483648 ≤ a.toInt - b.toInt)
    (hhi : a.toInt - b.toInt < 2147483648) : (a-b).toInt = a.toInt - b.toInt := by
  rw [Int32.toInt_sub]
  apply Int.bmod_eq_of_le <;> omega

/-- A sum that leaves the range at the top comes back at the bottom. -/
theorem toInt_add_wrapped (a b : Int32) (h : 2147483648 ≤ a.toInt + b.toInt) :
    (a+b).toInt = a.toInt + b.toInt - 4294967296 := by
  have ha := toInt_upper a
  have hb := toInt_upper b
  rw [Int32.toInt_add, Int.bmod_eq_emod]
  split <;> omega

/-- Both operands nonnegative: the wrapped sum is negative exactly when the true sum
does not fit. -/
theorem add_neg_iff (a b : Int32) (ha : 0 ≤ a.toInt) (hb : 0 ≤ b.toInt) :
    (a+b).toInt < 0 ↔ 2147483648 ≤ a.toInt + b.toInt := by
  by_cases h : a.toInt + b.toInt < 2147483648
  · rw [toInt_add_exact a b (by omega) h]
    omega
  · rw [toInt_add_wrapped a b (by omega)]
    have hu := toInt_upper a
    have hv := toInt_upper b
    omega

/-- A count that fits is kept by the conversion to a signed word. -/
theorem toInt_ofNat_exact (n : ℕ) (h : n < 2147483648) : (Int32.ofNat n).toInt = n := by
  rw [Int32.toInt_ofNat', Int.bmod_eq_emod]
  simp only [Int32.size]
  split <;> omega

theorem toInt_ofNat_iff (n : ℕ) : (Int32.ofNat n).toInt = n ↔ n < 2147483648 := by
  refine ⟨fun h => ?_, toInt_ofNat_exact n⟩
  have hlt := Int32.toInt_lt (Int32.ofNat n)
  omega

/-- The conversion of a count never exceeds it. -/
theorem toInt_ofNat_le (n : ℕ) : (Int32.ofNat n).toInt ≤ n := by
  rw [Int32.toInt_ofNat', Int.bmod_eq_emod]
  simp only [Int32.size]
  split <;> omega

/-- A count between 2^31 and 2^32 turns negative. -/
theorem toInt_ofNat_negative (n : ℕ) (h : 2147483648 ≤ n) (hn : n < 4294967296) :
    (Int32.ofNat n).toInt = n - 4294967296 := by
  rw [Int32.toInt_ofNat', Int.bmod_eq_emod]
  simp only [Int32.size]
  split <;> omega

/-- A larger count that does not turn negative loses at least 2^32. -/
theorem toInt_ofNat_wrapped (n : ℕ) (h : 2147483648 ≤ n) (hpos : 0 ≤ (Int32.ofNat n).toInt) :
    (Int32.ofNat n).toInt + 4294967296 ≤ n := by
  rw [Int32.toInt_ofNat', Int.bmod_eq_emod] at hpos ⊢
  simp only [Int32.size] at hpos ⊢
  split at hpos <;> omega

def upperHalf (x : Int32) : BitVec 16 := x.toBitVec.extractLsb' 16 16

def lowerHalf (x : Int32) : BitVec 16 := x.toBitVec.extractLsb' 0 16

theorem upperHalf_toNat (x : Int32) : (upperHalf x).toNat = x.toBitVec.toNat / 65536 := by
  have hx := x.toBitVec.isLt
  simp only [upperHalf, BitVec.extractLsb'_toNat, Nat.shiftRight_eq_div_pow]
  omega

theorem lowerHalf_toNat (x : Int32) : (lowerHalf x).toNat = x.toBitVec.toNat % 65536 := by
  simp only [lowerHalf, BitVec.extractLsb'_toNat, Nat.shiftRight_zero]

theorem mask_toNat (x : Int32) : (x &&& 0xFFFF).toBitVec.toNat = x.toBitVec.toNat % 65536 := by
  have hmask : (0xFFFF : Int32).toBitVec.toNat = 2^16-1 := rfl
  rw [Int32.toBitVec_and, BitVec.toNat_and, hmask, Nat.and_two_pow_sub_one_eq_mod]

theorem mask_nonneg (x : Int32) : 0 ≤ (x &&& 0xFFFF).toInt := by
  have hint : (x &&& 0xFFFF).toInt = (x &&& 0xFFFF).toBitVec.toInt := rfl
  have hmask := mask_toNat x
  have hwrap := BitVec.toInt_eq_toNat_cond (x &&& 0xFFFF).toBitVec
  rw [← hint] at hwrap
  split_ifs at hwrap <;> omega

/-- A number below 2^16 is left alone by its mask. -/
theorem mask_eq (x : Int32) (hlo : 0 ≤ x.toInt) (hhi : x.toInt < 65536) : x &&& 0xFFFF = x := by
  apply Int32.toBitVec_inj.mp
  apply BitVec.eq_of_toNat_eq
  have hint : x.toInt = x.toBitVec.toInt := rfl
  have hwrap := BitVec.toInt_eq_toNat_cond x.toBitVec
  rw [← hint] at hwrap
  rw [mask_toNat]
  split_ifs at hwrap <;> omega

theorem packed_toNat (a b : Int32) : (((a &&& 0xFFFF) <<< 16) ||| (b &&& 0xFFFF)).toBitVec.toNat =
    a.toBitVec.toNat % 65536 * 65536 + b.toBitVec.toNat % 65536 := by
  have hshift : ((a &&& 0xFFFF) <<< 16).toBitVec.toNat = (a.toBitVec.toNat % 65536) <<< 16 := by
    have hsixteen : ((16 : Int32).toBitVec.smod 32) = 16#32 := by decide
    rw [Int32.toBitVec_shiftLeft, hsixteen, BitVec.shiftLeft_eq',
      BitVec.toNat_shiftLeft, mask_toNat, Nat.shiftLeft_eq, Nat.shiftLeft_eq]
    simp only [BitVec.toNat_ofNat, Nat.reducePow, Nat.reduceMod]
    omega
  rw [Int32.toBitVec_or, BitVec.toNat_or, hshift, mask_toNat,
    ← Nat.shiftLeft_add_eq_or_of_lt (by omega), Nat.shiftLeft_eq]

@[simp] theorem upperHalf_packed (a b : Int32) :
    upperHalf (((a &&& 0xFFFF) <<< 16) ||| (b &&& 0xFFFF)) = lowerHalf a := by
  apply BitVec.eq_of_toNat_eq
  rw [upperHalf_toNat, lowerHalf_toNat, packed_toNat]
  omega

@[simp] theorem lowerHalf_packed (a b : Int32) :
    lowerHalf (((a &&& 0xFFFF) <<< 16) ||| (b &&& 0xFFFF)) = lowerHalf b := by
  apply BitVec.eq_of_toNat_eq
  rw [lowerHalf_toNat, lowerHalf_toNat, packed_toNat]
  omega

theorem lowerHalf_ofNat (n : ℕ) (h : n < 65536) : (lowerHalf (Int32.ofNat n)).toNat = n := by
  rw [lowerHalf_toNat]
  change (BitVec.ofNat 32 n).toNat % 65536 = n
  rw [BitVec.toNat_ofNat]
  omega

/-- The next number below 2^16. -/
theorem mask_ofNat_add_one (n : ℕ) :
    (Int32.ofNat n + 1) &&& 0xFFFF = Int32.ofNat ((n + 1) % 65536) := by
  apply Int32.toBitVec_inj.mp
  apply BitVec.eq_of_toNat_eq
  rw [mask_toNat, Int32.toBitVec_add]
  change (BitVec.ofNat 32 n + 1#32).toNat % 65536 = (BitVec.ofNat 32 ((n + 1) % 65536)).toNat
  rw [BitVec.toNat_add, BitVec.toNat_ofNat, BitVec.toNat_ofNat, BitVec.toNat_ofNat]
  omega

end Word32
