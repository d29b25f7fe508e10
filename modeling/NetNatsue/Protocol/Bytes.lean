import Mathlib.Tactic.IntervalCases
import NetNatsue.Foundations.Word

/-! Byte strings and the little-endian integers that packets and blobs are made of. -/
namespace NetNatsue

/-- `std::string` and `std::vector<char>`: a string of arbitrary bytes. -/
abbrev Bytes := List UInt8

/-- The bytes of an ASCII literal of the source. -/
def ascii (s : String) : Bytes := s.toList.map (fun c => c.toNat.toUInt8)

/-- One byte of memory; the model reads 0 behind the end of a byte string. -/
def byteAt (data : Bytes) (offset : ℕ) : UInt8 := data.getD offset 0

def getInt (data : Bytes) (offset : ℕ) : Int32 :=
  ((byteAt data offset).toUInt32
    ||| ((byteAt data (offset+1)).toUInt32 <<< 8)
    ||| ((byteAt data (offset+2)).toUInt32 <<< 16)
    ||| ((byteAt data (offset+3)).toUInt32 <<< 24)).toInt32

/-- The four bytes `PutInt` appends. -/
def putInt (value : Int32) : Bytes :=
  let v := value.toUInt32
  [(v &&& 0xFF).toUInt8, ((v >>> 8) &&& 0xFF).toUInt8,
    ((v >>> 16) &&& 0xFF).toUInt8, ((v >>> 24) &&& 0xFF).toUInt8]

@[simp] theorem putInt_length (value : Int32) : (putInt value).length = 4 := rfl

theorem byteAt_append (a b : Bytes) (i : ℕ) (h : i < a.length) :
    byteAt (a ++ b) i = byteAt a i := by
  simp [byteAt, List.getElem?_append_left h]

/-- An integer that lies inside the front part is not changed by what follows. -/
theorem getInt_append (a b : Bytes) (i : ℕ) (h : i+4 ≤ a.length) :
    getInt (a ++ b) i = getInt a i := by
  simp only [getInt, byteAt_append a b _ (show i < a.length by omega),
    byteAt_append a b _ (show i+1 < a.length by omega),
    byteAt_append a b _ (show i+2 < a.length by omega),
    byteAt_append a b _ (show i+3 < a.length by omega)]

theorem byteAt_drop (a : Bytes) (n i : ℕ) : byteAt (a.drop n) i = byteAt a (n+i) := by
  simp [byteAt]

theorem getInt_drop (a : Bytes) (n i : ℕ) : getInt (a.drop n) i = getInt a (n+i) := by
  simp only [getInt, byteAt_drop, Nat.add_assoc]

theorem byte_bits (x : BitVec 32) :
    (((x &&& 255#32).setWidth 8).setWidth 32)
      ||| (((((x >>> 8) &&& 255#32).setWidth 8).setWidth 32) <<< 8)
      ||| (((((x >>> 16) &&& 255#32).setWidth 8).setWidth 32) <<< 16)
      ||| (((((x >>> 24) &&& 255#32).setWidth 8).setWidth 32) <<< 24) = x := by
  ext i hi
  interval_cases i <;> simp

/-- What `PutInt` wrote `GetInt` reads. -/
theorem getInt_putInt (value : Int32) (rest : Bytes) : getInt (putInt value ++ rest) 0 = value := by
  apply Int32.toBitVec_inj.mp
  exact byte_bits value.toBitVec

theorem word_bits (a b c d : BitVec 8) :
    let x :=
      a.setWidth 32 ||| (b.setWidth 32) <<< 8 ||| (c.setWidth 32) <<< 16 ||| (d.setWidth 32) <<< 24
    (x &&& 255#32).setWidth 8 = a ∧ ((x >>> 8) &&& 255#32).setWidth 8 = b ∧
      ((x >>> 16) &&& 255#32).setWidth 8 = c ∧ ((x >>> 24) &&& 255#32).setWidth 8 = d := by
  refine ⟨?_, ?_, ?_, ?_⟩ <;>
  · ext i hi
    interval_cases i <;> simp

/-- What `GetInt` reads `PutInt` writes back. -/
theorem putInt_getInt (a b c d : UInt8) (rest : Bytes) :
    putInt (getInt (a :: b :: c :: d :: rest) 0) = [a, b, c, d] := by
  obtain ⟨ha, hb, hc, hd⟩ := word_bits a.toBitVec b.toBitVec c.toBitVec d.toBitVec
  have hbyte : ∀ x y : UInt8, x.toBitVec = y.toBitVec → x = y := fun _ _ => UInt8.toBitVec_inj.mp
  simp only [putInt, List.cons.injEq, and_true]
  exact ⟨hbyte _ _ ha, hbyte _ _ hb, hbyte _ _ hc, hbyte _ _ hd⟩

theorem getInt_behind (a b : Bytes) (i : ℕ) (h : a.length ≤ i) :
    getInt (a ++ b) i = getInt b (i - a.length) := by
  have hdrop := getInt_drop (a ++ b) a.length (i - a.length)
  rw [List.drop_left, Nat.add_sub_cancel' h] at hdrop
  exact hdrop.symm

/-- Behind a whole integer. -/
theorem getInt_skip (value : Int32) (rest : Bytes) (i : ℕ) (h : 4 ≤ i) :
    getInt (putInt value ++ rest) i = getInt rest (i - 4) :=
  getInt_behind (putInt value) rest i (by rwa [putInt_length])

/-- A text taken apart at the first occurrence of a character. -/
theorem takeWhile_split (c : UInt8) (front back : Bytes) (h : c ∉ front) :
    (front ++ c :: back).takeWhile (· ≠ c) = front ∧ (front ++ c :: back).dropWhile
    (· ≠ c) = c :: back := by
  have hall : ∀ d ∈ front, decide (d ≠ c) = true := fun d hd =>
    decide_eq_true fun heq => h (by rwa [heq] at hd)
  constructor
  · rw [List.takeWhile_append_of_pos hall, List.takeWhile_cons_of_neg (by simp), List.append_nil]
  · rw [List.dropWhile_append_of_pos hall, List.dropWhile_cons_of_neg (by simp)]

/-- `size()` converted to `int`. -/
def sizeInt (data : Bytes) : Int32 := Int32.ofNat data.length

theorem sizeInt_toInt (data : Bytes) (h : data.length < 2147483648) :
    (sizeInt data).toInt = data.length := Word32.toInt_ofNat_exact _ h

end NetNatsue
