import NetNatsue.Protocol.Bytes

/-! The reader of binary blobs: a cursor over foreign memory, moved by lengths that
the message itself supplies. -/
namespace NetNatsue

/-- Copy `n` bytes starting at `start`. Memory on both sides of a buffer exists too, so
a copy that leaves the buffer has a result; whether it left the buffer is what the
theorems are about. -/
def memcpy (memory : ℤ → UInt8) (start : ℤ) (n : ℕ) : Bytes :=
  (List.range n).map (fun i : ℕ => memory (start+i))

/-- `myBuffer` is a pointer: the memory around it, addressed relative to it. -/
structure NetMemoryUnpack where
  myBuffer : ℤ → UInt8
  mySize : Int32
  myRead : Int32

namespace NetMemoryUnpack

def construct (data : ℤ → UInt8) (size : Int32) : NetMemoryUnpack :=
  { myBuffer := data, mySize := if size < 0 then 0 else size, myRead := 0 }

/-- `PackOut(void*, int)`: no bytes for `false`, the copied bytes for `true`. -/
def packOut (u : NetMemoryUnpack) (size : Int32) : Option Bytes × NetMemoryUnpack :=
  if size < 0 then (none, u)
  else if u.myRead + size > u.mySize then (none, u)
  else (some (memcpy u.myBuffer u.myRead.toInt size.toInt.toNat),
    { u with myRead := u.myRead + size })

/-- `PackOut(std::string&)`: the cursor stays behind the length when the text is refused. -/
def packOutString (u : NetMemoryUnpack) : Option Bytes × NetMemoryUnpack :=
  match u.packOut 4 with
  | (none, u) => (none, u)
  | (some lenBytes, u) =>
    let len := getInt lenBytes 0
    if len < 0 ∨ u.myRead + len > u.mySize then (none, u)
    else (some (memcpy u.myBuffer u.myRead.toInt len.toInt.toNat),
      { u with myRead := u.myRead + len })

def remaining (u : NetMemoryUnpack) : Int32 := u.mySize - u.myRead

/-- A call of one of the two overloads. -/
inductive Call
  | raw (size : Int32)
  | string
  deriving DecidableEq

def call (u : NetMemoryUnpack) : Call → Option Bytes × NetMemoryUnpack
  | .raw size => u.packOut size
  | .string => u.packOutString

/-- The length field a string read at the cursor would find. -/
def lengthField (u : NetMemoryUnpack) : Int32 := getInt (memcpy u.myBuffer u.myRead.toInt 4) 0

/-- How many bytes behind the cursor the call has to read. A string whose length field
is not there in full needs the four bytes of that field. -/
def needs (u : NetMemoryUnpack) : Call → ℤ
  | .raw size => size.toInt
  | .string => if u.mySize.toInt - u.myRead.toInt < 4 then 4 else 4 + u.lengthField.toInt

/-- Bytes read before the delivered ones. -/
def Call.header : Call → ℤ
  | .raw _ => 0
  | .string => 4

/-- The cursor is inside the buffer. -/
def Inside (u : NetMemoryUnpack) : Prop :=
  0 ≤ u.myRead.toInt ∧ u.myRead.toInt ≤ u.mySize.toInt

/-- What the header promises of one call. -/
structure Safe (u : NetMemoryUnpack) (c : Call) : Prop where
  inside : (u.call c).2.Inside
  delivered : ∀ out, (u.call c).1 = some out →
    u.myRead.toInt + c.header ≤ (u.call c).2.myRead.toInt ∧
    out = memcpy u.myBuffer (u.myRead.toInt + c.header)
      ((u.call c).2.myRead.toInt - (u.myRead.toInt + c.header)).toNat ∧
    (u.call c).2.myRead.toInt ≤ u.mySize.toInt
  refused : u.mySize.toInt - u.myRead.toInt < u.needs c → (u.call c).1 = none

/-- The additions of the bound checks do not pass the largest `int`. -/
def Fits (u : NetMemoryUnpack) : Call → Prop
  | .raw size => 0 ≤ size.toInt → u.myRead.toInt + size.toInt < 2147483648
  | .string => u.myRead.toInt + 4 < 2147483648 ∧
      (4 ≤ u.mySize.toInt - u.myRead.toInt → 0 ≤ u.lengthField.toInt →
        u.myRead.toInt + 4 + u.lengthField.toInt < 2147483648)

/-- Every call of a sequence is safe, each in the state the ones before it left. -/
def SafeRun : NetMemoryUnpack → List Call → Prop
  | _, [] => True
  | u, c :: cs => u.Safe c ∧ SafeRun (u.call c).2 cs

def FitsRun : NetMemoryUnpack → List Call → Prop
  | _, [] => True
  | u, c :: cs => u.Fits c ∧ FitsRun (u.call c).2 cs

theorem construct_inside (data : ℤ → UInt8) (size : Int32) : (construct data size).Inside := by
  unfold Inside construct
  split_ifs with h
  · simp
  · rw [Word32.lt_iff] at h
    simp at h ⊢
    exact h

/-- What `packOut` does when its sum is exact: refuse, or deliver and advance. -/
theorem packOut_exact (u : NetMemoryUnpack) (size : Int32) (hu : u.Inside)
    (hfit : 0 ≤ size.toInt → u.myRead.toInt + size.toInt < 2147483648) :
    (u.packOut size = (none, u) ∧
      (size.toInt < 0 ∨ u.mySize.toInt < u.myRead.toInt + size.toInt)) ∨
    (0 ≤ size.toInt ∧ u.myRead.toInt + size.toInt ≤ u.mySize.toInt ∧
      (u.myRead + size).toInt = u.myRead.toInt + size.toInt ∧
      u.packOut size = (some (memcpy u.myBuffer u.myRead.toInt size.toInt.toNat),
        { u with myRead := u.myRead + size })) := by
  obtain ⟨hlo, hhi⟩ := hu
  unfold packOut
  by_cases hneg : size < 0
  · left
    rw [if_pos hneg]
    rw [Word32.lt_iff] at hneg
    exact ⟨rfl, Or.inl hneg⟩
  · have hpos : 0 ≤ size.toInt := by
      rw [Word32.lt_iff] at hneg
      simpa using hneg
    have hsum := Word32.toInt_add_exact u.myRead size (by omega) (hfit hpos)
    rw [if_neg hneg]
    by_cases hover : u.myRead + size > u.mySize
    · left
      rw [if_pos hover]
      rw [gt_iff_lt, Word32.lt_iff, hsum] at hover
      exact ⟨rfl, Or.inr hover⟩
    · right
      rw [if_neg hover]
      rw [gt_iff_lt, Word32.lt_iff, hsum] at hover
      exact ⟨hpos, by omega, hsum, rfl⟩

/-- What `packOut` does when its sum wraps: the check passes, and the cursor turns negative. -/
theorem packOut_wrapped (u : NetMemoryUnpack) (size : Int32) (hu : u.Inside)
    (hpos : 0 ≤ size.toInt) (hwrap : 2147483648 ≤ u.myRead.toInt + size.toInt) :
    (u.packOut size).1 = some (memcpy u.myBuffer u.myRead.toInt size.toInt.toNat) ∧
      (u.packOut size).2.myRead.toInt < 0 := by
  obtain ⟨hlo, hhi⟩ := hu
  have hsum := (Word32.add_neg_iff u.myRead size hlo hpos).mpr hwrap
  have hneg : ¬ size < 0 := by
    rw [Word32.lt_iff]
    simpa using hpos
  have hover : ¬ u.myRead + size > u.mySize := by
    rw [gt_iff_lt, Word32.lt_iff]
    omega
  simp only [packOut, if_neg hneg, if_neg hover]
  exact ⟨trivial, hsum⟩

theorem safe_raw_of_fits (u : NetMemoryUnpack) (size : Int32) (hu : u.Inside)
    (hfit : u.Fits (.raw size)) : u.Safe (.raw size) := by
  obtain ⟨hlo, hhi⟩ := id hu
  rcases packOut_exact u size hu hfit with ⟨hcall, hwhy⟩ | ⟨hpos, hroom, hsum, hcall⟩
  · constructor
    · simpa [call, hcall] using hu
    · intro out hout
      simp [call, hcall] at hout
    · intro _
      simp [call, hcall]
  · constructor
    · simp only [call, hcall, Inside]
      omega
    · intro out hout
      simp only [call, hcall, Option.some.injEq, Call.header, add_zero] at hout ⊢
      refine ⟨by omega, ?_, by omega⟩
      rw [← hout, show (u.myRead + size).toInt - u.myRead.toInt = size.toInt by omega]
    · intro hneed
      simp only [needs] at hneed
      omega

theorem fits_raw_of_safe (u : NetMemoryUnpack) (size : Int32) (hu : u.Inside)
    (hsafe : u.Safe (.raw size)) : u.Fits (.raw size) := by
  intro hpos
  by_contra hwrap
  have hneg := (packOut_wrapped u size hu hpos (by omega)).2
  have hinside := hsafe.inside.1
  simp only [call] at hinside
  omega

/-- The length field is read like any four bytes. -/
theorem packOut_length (u : NetMemoryUnpack) (hu : u.Inside) (hfit : u.myRead.toInt +
    4 < 2147483648) :
    (u.packOut 4 = (none, u) ∧ u.mySize.toInt < u.myRead.toInt + 4) ∨
    (u.myRead.toInt + 4 ≤ u.mySize.toInt ∧ (u.myRead + 4).toInt = u.myRead.toInt + 4 ∧
      u.packOut 4 = (some (memcpy u.myBuffer u.myRead.toInt 4),
        { u with myRead := u.myRead + 4 })) := by
  have hfour : (4 : Int32).toInt = 4 := rfl
  rcases packOut_exact u 4 hu (by intro _; omega) with ⟨hcall, hwhy⟩ | ⟨_, hroom, hsum, hcall⟩
  · left
    exact ⟨hcall, by omega⟩
  · right
    exact ⟨by omega, by omega, hcall⟩

/-- The text behind the length field is delivered exactly as a raw block of that many bytes. -/
theorem packOutString_text (u : NetMemoryUnpack)
    (hcall : u.packOut 4 =
      (some (memcpy u.myBuffer u.myRead.toInt 4), { u with myRead := u.myRead + 4 })) :
    u.packOutString =
      ({ u with myRead := u.myRead + 4 } : NetMemoryUnpack).packOut u.lengthField := by
  rw [packOutString, hcall]
  change (if u.lengthField < 0 ∨ u.myRead + 4 + u.lengthField > u.mySize then _ else _) = _
  by_cases hneg : u.lengthField < 0
  · rw [if_pos (Or.inl hneg), packOut, if_pos hneg]
  · by_cases hover : u.myRead + 4 + u.lengthField > u.mySize
    · rw [if_pos (Or.inr hover), packOut, if_neg hneg, if_pos hover]
    · rw [if_neg (by tauto), packOut, if_neg hneg, if_neg hover]
      rfl

theorem safe_string_of_fits (u : NetMemoryUnpack) (hu : u.Inside) (hfit : u.Fits .string) :
    u.Safe .string := by
  obtain ⟨hlen, htext⟩ := hfit
  obtain ⟨hlo, hhi⟩ := id hu
  rcases packOut_length u hu hlen with ⟨hcall, hshort⟩ | ⟨hroom, hsum, hcall⟩
  · have hrefused : u.packOutString = (none, u) := by simp [packOutString, hcall]
    constructor
    · simpa [call, hrefused] using hu
    · intro out hout
      simp [call, hrefused] at hout
    · intro _
      simp [call, hrefused]
  · -- Behind the length field the call is a raw one, so its safety is that of a raw call.
    have hadv : ({ u with myRead := u.myRead + 4 } : NetMemoryUnpack).Inside := by
      simp only [Inside]
      omega
    have hraw := safe_raw_of_fits { u with myRead := u.myRead + 4 } u.lengthField hadv (by
      intro hpos
      have h := htext (by omega) hpos
      simp only
      omega)
    have heq := packOutString_text u hcall
    constructor
    · have h := hraw.inside
      simp only [call] at h ⊢
      rwa [heq]
    · intro out hout
      have h := hraw.delivered out
      simp only [call, Call.header, add_zero, hsum] at h hout ⊢
      rw [heq] at hout ⊢
      exact h hout
    · intro hneed
      have h := hraw.refused
      simp only [needs, call] at h hneed ⊢
      rw [heq]
      apply h
      split_ifs at hneed
      · omega
      · omega

theorem fits_string_of_safe (u : NetMemoryUnpack) (hu : u.Inside) (hsafe : u.Safe .string) :
    u.Fits .string := by
  obtain ⟨hlo, hhi⟩ := id hu
  have hlen : u.myRead.toInt + 4 < 2147483648 := by
    by_contra hwrap
    -- The wrapped cursor of the length field either stays negative or is reported as success.
    obtain ⟨hsome, hneg⟩ := packOut_wrapped u 4 hu (by decide) (by
      have : (4 : Int32).toInt = 4 := rfl
      omega)
    have hupper := Word32.toInt_upper u.mySize
    have hneed : u.mySize.toInt - u.myRead.toInt < u.needs .string := by
      simp only [needs]
      split_ifs <;> omega
    have hnone := hsafe.refused hneed
    have hinside := hsafe.inside.1
    rcases hp : u.packOut 4 with ⟨out, v⟩
    rw [hp] at hsome hneg
    simp only at hsome hneg
    subst hsome
    simp only [call, packOutString, hp] at hnone hinside
    split_ifs at hnone hinside
    simp only at hinside
    omega
  refine ⟨hlen, fun hroom hpos => ?_⟩
  rcases packOut_length u hu hlen with ⟨_, hshort⟩ | ⟨_, hsum, hcall⟩
  · omega
  · by_contra hwrap
    have hadv : ({ u with myRead := u.myRead + 4 } : NetMemoryUnpack).Inside := by
      simp only [Inside]
      omega
    have hneg := (packOut_wrapped { u with myRead := u.myRead + 4 } u.lengthField hadv hpos
      (by simp only; omega)).2
    have hinside := hsafe.inside.1
    simp only [call] at hinside
    rw [packOutString_text u hcall] at hinside
    omega

theorem safe_iff_fits (u : NetMemoryUnpack) (hu : u.Inside) (c : Call) :
    u.Safe c ↔ u.Fits c := by
  cases c with
  | raw size => exact ⟨fits_raw_of_safe u size hu, safe_raw_of_fits u size hu⟩
  | string => exact ⟨fits_string_of_safe u hu, safe_string_of_fits u hu⟩

theorem safeRun_iff_fitsRun (u : NetMemoryUnpack) (hu : u.Inside) (cs : List Call) :
    SafeRun u cs ↔ FitsRun u cs := by
  induction cs generalizing u with
  | nil => simp [SafeRun, FitsRun]
  | cons c cs ih =>
    simp only [SafeRun, FitsRun, ← safe_iff_fits u hu c]
    constructor
    · rintro ⟨hsafe, hrest⟩
      exact ⟨hsafe, (ih _ hsafe.inside).mp hrest⟩
    · rintro ⟨hsafe, hrest⟩
      exact ⟨hsafe, (ih _ hsafe.inside).mpr hrest⟩

/-- A fresh reader stays inside its buffer, delivers what lies between the cursors and
refuses what is not there, exactly as long as no bound check adds past the largest `int`. -/
theorem reader_safe_iff (data : ℤ → UInt8) (size : Int32) (cs : List Call) :
    SafeRun (construct data size) cs ↔ FitsRun (construct data size) cs :=
  safeRun_iff_fitsRun _ (construct_inside data size) cs

/-- Eight bytes whose length field says 2147483647: the string is reported as read. -/
theorem reader_leaves_buffer :
    ¬ SafeRun (construct (fun i => if i = 3 then 127 else if 0 ≤ i ∧ i < 8 then 255 else 0) 8)
      [.string] := by
  intro h
  have hfit := (safeRun_iff_fitsRun _ (construct_inside _ _) _).mp h
  have hbad := hfit.1.2 (by decide) (by decide)
  revert hbad
  decide

end NetMemoryUnpack
end NetNatsue
