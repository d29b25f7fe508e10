import NetNatsue.Memory.Unpack

/-! The writer of binary blobs: a buffer of fixed capacity, filled from the front. Every copy is
bounded on its own, and a string is two copies. -/
namespace NetNatsue

/-- Copy bytes to `start`. -/
def store (memory : ℤ → UInt8) (start : ℤ) (bytes : Bytes) : ℤ → UInt8 := fun i =>
  if start ≤ i ∧ i < start + bytes.length then byteAt bytes (i - start).toNat else memory i

/-- The memory behind a pointer to a byte string. -/
def pointer (bytes : Bytes) : ℤ → UInt8 := fun i => byteAt bytes i.toNat

section
variable (memory : ℤ → UInt8) (start : ℤ)

@[simp] theorem memcpy_length (n : ℕ) : (memcpy memory start n).length = n := by
  simp [memcpy]

theorem memcpy_add (a b : ℕ) :
    memcpy memory start (a+b) = memcpy memory start a ++ memcpy memory (start+a) b := by
  simp only [memcpy, List.range_add, List.map_append, List.map_map]
  congr 1
  apply List.map_congr_left
  intro i _
  simp [add_assoc]

/-- What was copied lies there. -/
theorem memcpy_store (bytes : Bytes) :
    memcpy (store memory start bytes) start bytes.length = bytes := by
  apply List.ext_getElem
  · rw [memcpy_length]
  · intro i hi hi'
    have hinside : start ≤ start + (i : ℤ) ∧ start + (i : ℤ) < start + bytes.length := by omega
    simp only [memcpy, List.getElem_map, List.getElem_range, store]
    rw [if_pos hinside]
    simp [byteAt, hi']

/-- A copy leaves what lies before it alone. -/
theorem memcpy_store_before (bytes : Bytes) (front : ℤ) (n : ℕ) (h : front + n ≤ start) :
    memcpy (store memory start bytes) front n = memcpy memory front n := by
  apply List.map_congr_left
  intro i hi
  have hbefore : i < n := List.mem_range.mp hi
  exact if_neg (by omega)

end

theorem memcpy_pointer (bytes : Bytes) : memcpy (pointer bytes) 0 bytes.length = bytes := by
  apply List.ext_getElem
  · rw [memcpy_length]
  · intro i _ hi
    simp [memcpy, pointer, byteAt, hi]

/-- What `new` returns is not cleared. -/
structure NetMemoryPack where
  myBuffer : ℤ → UInt8
  mySize : Int32
  myUsed : Int32

namespace NetMemoryPack

def construct (memory : ℤ → UInt8) (size : Int32) : NetMemoryPack :=
  { myBuffer := memory, mySize := if size < 0 then 0 else size, myUsed := 0 }

/-- `PackIn(const void*, int)`: what does not fit is dropped. -/
def packIn (p : NetMemoryPack) (data : ℤ → UInt8) (size : Int32) : NetMemoryPack :=
  if size ≤ 0 then p
  else if p.myUsed + size > p.mySize then p
  else
    { p with
      myBuffer := store p.myBuffer p.myUsed.toInt (memcpy data 0 size.toInt.toNat)
      myUsed := p.myUsed + size }

def packInInt (p : NetMemoryPack) (value : Int32) : NetMemoryPack :=
  p.packIn (pointer (putInt value)) 4

/-- `PackIn(const std::string&)`: the length and the characters, each as far as it fits. -/
def packInString (p : NetMemoryPack) (str : Bytes) : NetMemoryPack :=
  let len := sizeInt str
  let p := p.packInInt len
  if len > 0 then p.packIn (pointer str) len else p

def getAddress (p : NetMemoryPack) : ℤ → UInt8 := p.myBuffer

def getLength (p : NetMemoryPack) : Int32 := p.myUsed

/-- The first `GetLength()` bytes. -/
def contents (p : NetMemoryPack) : Bytes := memcpy p.getAddress 0 p.getLength.toInt.toNat

/-- A call of one of the three. -/
inductive Call
  | raw (data : ℤ → UInt8) (size : Int32)
  | string (str : Bytes)
  | int (value : Int32)

/-- What a call is to put into the pack; a string comes with its length. -/
def Call.encoding : Call → Bytes
  | .raw data size => memcpy data 0 size.toInt.toNat
  | .string str => putInt (sizeInt str) ++ str
  | .int value => putInt value

def call (p : NetMemoryPack) : Call → NetMemoryPack
  | .raw data size => p.packIn data size
  | .string str => p.packInString str
  | .int value => p.packInInt value

def pack (p : NetMemoryPack) (calls : List Call) : NetMemoryPack := calls.foldl call p

/-- The cursor is inside the buffer. -/
def Inside (p : NetMemoryPack) : Prop := 0 ≤ p.myUsed.toInt ∧ p.myUsed.toInt ≤ p.mySize.toInt

/-- There is room for everything the call puts in. -/
def Fits (p : NetMemoryPack) (c : Call) : Prop :=
  p.myUsed.toInt + c.encoding.length ≤ p.mySize.toInt

instance (p : NetMemoryPack) (c : Call) : Decidable (p.Fits c) :=
  inferInstanceAs (Decidable (_ ≤ _))

theorem construct_inside (memory : ℤ → UInt8) (size : Int32) : (construct memory size).Inside := by
  unfold Inside construct
  split_ifs with h
  · simp
  · rw [Word32.lt_iff] at h
    simp at h ⊢
    exact h

theorem call_size (p : NetMemoryPack) (c : Call) : (p.call c).mySize = p.mySize := by
  cases c <;> simp only [call, packInString, packInInt, packIn] <;> split_ifs <;> rfl

/-- A block for which there is room is added. -/
theorem packIn_fits (p : NetMemoryPack) (data : ℤ → UInt8) (size : Int32) (hp : p.Inside)
    (hpos : 0 < size.toInt) (h : p.myUsed.toInt + size.toInt ≤ p.mySize.toInt) :
    (p.packIn data size).contents = p.contents ++ memcpy data 0 size.toInt.toNat ∧
      (p.packIn data size).myUsed.toInt = p.myUsed.toInt + size.toInt ∧
      (p.packIn data size).mySize = p.mySize := by
  obtain ⟨hlo, hhi⟩ := hp
  have hupper := Word32.toInt_upper p.mySize
  have hsum := Word32.toInt_add_exact p.myUsed size (by omega) (by omega)
  have hnonempty : ¬ size ≤ 0 := by
    rw [Word32.le_iff]
    simpa using hpos
  have hroom : ¬ p.myUsed + size > p.mySize := by
    rw [gt_iff_lt, Word32.lt_iff, hsum]
    omega
  have hpack : p.packIn data size =
      { p with
        myBuffer := store p.myBuffer p.myUsed.toInt (memcpy data 0 size.toInt.toNat)
        myUsed := p.myUsed + size } := by
    rw [packIn, if_neg hnonempty, if_neg hroom]
  rw [hpack]
  refine ⟨?_, hsum, rfl⟩
  have hused : ((p.myUsed + size).toInt).toNat = p.myUsed.toInt.toNat + size.toInt.toNat := by omega
  have hstart : (0 : ℤ) + p.myUsed.toInt.toNat = p.myUsed.toInt := by omega
  have hstored := memcpy_store p.myBuffer p.myUsed.toInt (memcpy data 0 size.toInt.toNat)
  rw [memcpy_length] at hstored
  simp only [contents, getAddress, getLength, hused]
  rw [memcpy_add, memcpy_store_before _ _ _ _ _ (by omega), hstart, hstored]

/-- A copy of so many bytes is refused, by a check whose sum is exact. -/
def Drops (p : NetMemoryPack) (size : Int32) : Prop :=
  size.toInt ≤ 0 ∨ p.mySize.toInt < p.myUsed.toInt + size.toInt ∧ p.myUsed.toInt +
    size.toInt < 2147483648

theorem packIn_drops (p : NetMemoryPack) (data : ℤ → UInt8) (size : Int32) (hp : p.Inside)
    (h : p.Drops size) :
    p.packIn data size = p := by
  obtain ⟨hlo, hhi⟩ := hp
  unfold packIn
  split_ifs with hempty hroom
  · rfl
  · rfl
  · rw [Word32.le_iff, Word32.toInt_zero] at hempty
    rcases h with hnone | ⟨hover, hfit⟩
    · omega
    · rw [gt_iff_lt, Word32.lt_iff, Word32.toInt_add_exact p.myUsed size (by omega) hfit] at hroom
      omega

/-- Any other copy moves the cursor, behind the start of the buffer when the sum wraps. -/
theorem packIn_moves (p : NetMemoryPack) (data : ℤ → UInt8) (size : Int32) (hp : p.Inside)
    (h : ¬ p.Drops size) :
    0 < size.toInt ∧ (p.packIn data size).myUsed = p.myUsed + size := by
  obtain ⟨hlo, hhi⟩ := hp
  unfold Drops at h
  have hpos : 0 < size.toInt := by omega
  have hnonempty : ¬ size ≤ 0 := by
    rw [Word32.le_iff]
    simpa using hpos
  have hroom : ¬ p.myUsed + size > p.mySize := by
    rw [gt_iff_lt, Word32.lt_iff]
    by_cases hwrap : 2147483648 ≤ p.myUsed.toInt + size.toInt
    · have hneg := (Word32.add_neg_iff p.myUsed size hlo hpos.le).mpr hwrap
      omega
    · rw [Word32.toInt_add_exact p.myUsed size (by omega) (by omega)]
      omega
  rw [packIn, if_neg hnonempty, if_neg hroom]
  exact ⟨hpos, rfl⟩

/-- How many bytes each copy of a call is to move. -/
def Call.copies : Call → List Int32
  | .raw _ size => [size]
  | .string str => [4, sizeInt str]
  | .int _ => [4]

/-- There is room for the whole call, or every copy it makes is refused. -/
def Sound (p : NetMemoryPack) (c : Call) : Prop := p.Fits c ∨ ∀ size ∈ c.copies, p.Drops size

theorem packInInt_fits (p : NetMemoryPack) (value : Int32) (hp : p.Inside)
    (h : p.myUsed.toInt + 4 ≤ p.mySize.toInt) :
    (p.packInInt value).contents = p.contents ++ putInt value ∧
      (p.packInInt value).myUsed.toInt = p.myUsed.toInt + 4 ∧ (p.packInInt value).mySize =
      p.mySize := by
  have hadded := packIn_fits p (pointer (putInt value)) 4 hp (by decide) h
  have hbytes : memcpy (pointer (putInt value)) 0 (4 : Int32).toInt.toNat = putInt value :=
    memcpy_pointer (putInt value)
  rwa [hbytes] at hadded

theorem packInString_fits (p : NetMemoryPack) (str : Bytes) (hp : p.Inside)
    (h : p.Fits (.string str)) :
    (p.packInString str).contents = p.contents ++ (putInt (sizeInt str) ++ str) ∧
      (p.packInString str).myUsed.toInt = p.myUsed.toInt + (4 + str.length) := by
  simp only [Fits, Call.encoding, List.length_append, putInt_length] at h
  have hupper := Word32.toInt_upper p.mySize
  have hlen := sizeInt_toInt str (by have := hp.1; omega)
  obtain ⟨hcontents, hused, hsize⟩ := packInInt_fits p (sizeInt str) hp (by omega)
  unfold packInString
  by_cases hempty : sizeInt str > 0
  · have hpos : 0 < (sizeInt str).toInt := by
      rw [gt_iff_lt, Word32.lt_iff] at hempty
      simpa using hempty
    have hinside : (p.packInInt (sizeInt str)).Inside := by
      unfold Inside
      rw [hused, hsize]
      have := hp.1
      omega
    have hadded := packIn_fits (p.packInInt (sizeInt str)) (pointer str) (sizeInt str) hinside hpos
      (by rw [hused, hsize, hlen]; omega)
    have hbytes : memcpy (pointer str) 0 (sizeInt str).toInt.toNat = str := by
      rw [hlen, Int.toNat_natCast, memcpy_pointer]
    simp only [if_pos hempty]
    rw [hadded.1, hadded.2.1, hcontents, hused, hbytes, hlen, List.append_assoc]
    exact ⟨rfl, by omega⟩
  · have hnone : str = [] := by
      rw [gt_iff_lt, Word32.lt_iff, hlen] at hempty
      simpa using hempty
    simp only [if_neg hempty]
    rw [hcontents, hused, hnone, List.append_nil]
    exact ⟨rfl, by simp⟩

/-- A call for which there is room is added. -/
theorem call_fits (p : NetMemoryPack) (c : Call) (hp : p.Inside) (h : p.Fits c) :
    (p.call c).contents = p.contents ++ c.encoding ∧
      (p.call c).myUsed.toInt = p.myUsed.toInt + c.encoding.length := by
  cases c with
  | raw data size =>
    by_cases hpos : 0 < size.toInt
    · simp only [Fits, Call.encoding, memcpy_length] at h ⊢
      have hadded := packIn_fits p data size hp hpos (by omega)
      refine ⟨hadded.1, ?_⟩
      rw [call, hadded.2.1]
      omega
    · have hnone : size.toInt.toNat = 0 := by omega
      have hempty : size ≤ 0 := by
        rw [Word32.le_iff]
        simpa using hpos
      simp only [call, packIn, if_pos hempty, Call.encoding, hnone]
      exact ⟨(List.append_nil _).symm, (add_zero _).symm⟩
  | string str =>
    obtain ⟨hcontents, hused⟩ := packInString_fits p str hp h
    refine ⟨hcontents, ?_⟩
    rw [call, hused, Call.encoding, List.length_append, putInt_length]
    omega
  | int value =>
    simp only [Fits, Call.encoding, putInt_length] at h ⊢
    obtain ⟨hcontents, hused, _⟩ := packInInt_fits p value hp h
    exact ⟨hcontents, hused⟩

theorem call_inside (p : NetMemoryPack) (c : Call) (hp : p.Inside) (h : p.Fits c) :
    (p.call c).Inside := by
  obtain ⟨_, hused⟩ := call_fits p c hp h
  unfold Inside
  unfold Fits at h
  rw [hused, call_size]
  have := hp.1
  omega

/-- A call whose copies are refused changes nothing. -/
theorem call_drops (p : NetMemoryPack) (c : Call) (hp : p.Inside) (h : ∀ size ∈ c.copies,
    p.Drops size) :
    p.call c = p := by
  cases c with
  | raw data size => exact packIn_drops p data size hp (h size List.mem_cons_self)
  | string str =>
    have hlength : p.packInInt (sizeInt str) = p := packIn_drops p _ 4 hp (h 4 List.mem_cons_self)
    have hbytes := packIn_drops p (pointer str) (sizeInt str) hp (h _ (by simp [Call.copies]))
    simp only [call, packInString, hlength, hbytes, ite_self]
  | int value => exact packIn_drops p _ 4 hp (h 4 List.mem_cons_self)

/-- A cursor that was moved is another one, also when it wraps. -/
theorem used_ne (used size : Int32) (h : size ≠ 0) : used + size ≠ used := by
  intro heq
  have hzero : used + size = used + 0 := by rw [heq, Int32.add_zero]
  exact h ((Int32.add_right_inj used).mp hzero)

theorem packIn_used (p : NetMemoryPack) (data : ℤ → UInt8) (size : Int32) :
    (p.packIn data size).myUsed = p.myUsed ∨ (p.packIn data size).myUsed = p.myUsed + size := by
  unfold packIn
  split_ifs
  · exact Or.inl rfl
  · exact Or.inl rfl
  · exact Or.inr rfl

theorem packIn_changes (p : NetMemoryPack) (data : ℤ → UInt8) (size : Int32) (hp : p.Inside)
    (h : ¬ p.Drops size) : (p.packIn data size).myUsed ≠ p.myUsed := by
  obtain ⟨hpos, hmoved⟩ := packIn_moves p data size hp h
  rw [hmoved]
  refine used_ne p.myUsed size fun hzero => ?_
  rw [hzero] at hpos
  exact absurd hpos (by decide)

/-- A string changes the pack as soon as one of its two copies does: the second never takes back the
first. -/
theorem packInString_changes (p : NetMemoryPack) (str : Bytes) (hp : p.Inside)
    (h : ¬ (p.Drops 4 ∧ p.Drops (sizeInt str))) : (p.packInString str).myUsed ≠ p.myUsed := by
  unfold packInString
  by_cases hlength : p.Drops 4
  · have hsame : p.packInInt (sizeInt str) = p := packIn_drops p _ 4 hp hlength
    have hbytes : ¬ p.Drops (sizeInt str) := fun hdrops => h ⟨hlength, hdrops⟩
    have hpos : sizeInt str > 0 := by
      rw [gt_iff_lt, Word32.lt_iff]
      exact (packIn_moves p (pointer str) (sizeInt str) hp hbytes).1
    simp only [hsame, if_pos hpos]
    exact packIn_changes p (pointer str) (sizeInt str) hp hbytes
  · have hmoved : (p.packInInt (sizeInt str)).myUsed = p.myUsed + 4 :=
      (packIn_moves p _ 4 hp hlength).2
    have hfour := used_ne p.myUsed 4 (by decide)
    simp only
    split_ifs with hpos
    · rcases packIn_used (p.packInInt (sizeInt str)) (pointer str) (sizeInt str) with hsame | hmore
      · rwa [hsame, hmoved]
      · rw [hmore, hmoved, Int32.add_assoc]
        refine used_ne p.myUsed (4 + sizeInt str) fun hzero => ?_
        -- a length of -4 is not positive
        have hlen : sizeInt str = -4 := by
          rw [← Int32.add_right_inj 4, hzero]
          rfl
        rw [hlen] at hpos
        exact absurd hpos (by decide)
    · rwa [hmoved]

/-- A call with a copy that is not refused changes the pack. -/
theorem call_changes (p : NetMemoryPack) (c : Call) (hp : p.Inside) (h : ¬ ∀ size ∈ c.copies,
    p.Drops size) :
    p.call c ≠ p := by
  intro hsame
  have hused := congrArg myUsed hsame
  cases c with
  | raw data size => exact packIn_changes p data size hp (by simpa [Call.copies] using h) hused
  | string str => exact packInString_changes p str hp (by simpa [Call.copies] using h) hused
  | int value => exact packIn_changes p _ 4 hp (by simpa [Call.copies] using h) hused

/-- The pack holds whole encodings only, calls without room leave it alone, and its cursor stays
inside. -/
structure AllOrNothing (p : NetMemoryPack) (calls : List Call) : Prop where
  whole : ∃ kept, List.Sublist kept calls ∧ (p.pack calls).contents = kept.flatMap Call.encoding
  refused : ∀ before c after, calls = before ++ c :: after → ¬ (p.pack before).Fits c →
    (p.pack before).call c = p.pack before
  inside : ∀ before after, calls = before ++ after →
    (p.pack before).Inside ∧ (p.pack before).mySize = p.mySize

theorem pack_size (p : NetMemoryPack) (calls : List Call) : (p.pack calls).mySize = p.mySize := by
  induction calls generalizing p with
  | nil => rfl
  | cons c calls ih => exact (ih (p.call c)).trans (call_size p c)

/-- Sound calls leave the cursor inside and behind what some of them have put in. -/
theorem pack_sound (p : NetMemoryPack) (calls : List Call) (hp : p.Inside)
    (h : ∀ before c after, calls = before ++ c :: after → (p.pack before).Sound c) :
    (p.pack calls).Inside ∧ ∃ kept, List.Sublist kept calls ∧
      (p.pack calls).contents = p.contents ++ kept.flatMap Call.encoding := by
  induction calls generalizing p with
  | nil => exact ⟨hp, [], .slnil, (List.append_nil _).symm⟩
  | cons c calls ih =>
    have hlater : ∀ before c' after, calls = before ++ c' :: after →
        ((p.call c).pack before).Sound c' := by
      intro before c' after hsplit
      exact h (c :: before) c' after (by rw [hsplit, List.cons_append])
    rcases h [] c calls rfl with hfits | hdrops
    · obtain ⟨hcontents, _⟩ := call_fits p c hp hfits
      obtain ⟨hinside, kept, hkept, hall⟩ := ih (p.call c) (call_inside p c hp hfits) hlater
      refine ⟨hinside, c :: kept, hkept.cons_cons c, ?_⟩
      rw [List.flatMap_cons, ← List.append_assoc, ← hcontents]
      exact hall
    · have hsame : p.call c = p := call_drops p c hp hdrops
      rw [hsame] at hlater
      obtain ⟨hinside, kept, hkept, hall⟩ := ih p hp hlater
      rw [pack, List.foldl_cons, hsame]
      exact ⟨hinside, kept, hkept.cons c, hall⟩

/-- **Packing is all or nothing** exactly when each call finds room for everything it is to put in,
or for none of its copies, in a check that does not wrap. -/
theorem packer_whole_iff (memory : ℤ → UInt8) (size : Int32) (calls : List Call) :
    AllOrNothing (construct memory size) calls ↔
      ∀ before c after, calls = before ++ c :: after →
        ((construct memory size).pack before).Sound c := by
  have hnew := construct_inside memory size
  have hempty : (construct memory size).contents = [] := rfl
  constructor
  · intro hwhole before c after hsplit
    by_contra hsound
    obtain ⟨hfits, hdrops⟩ := not_or.mp hsound
    have hinside := (hwhole.inside before (c :: after) hsplit).1
    exact call_changes _ c hinside hdrops (hwhole.refused before c after hsplit hfits)
  · intro hsound
    have hbefore : ∀ before after, calls = before ++ after →
        ((construct memory size).pack before).Inside := by
      intro before after hsplit
      refine (pack_sound _ before hnew fun front c back hfront => hsound front c
        (back ++ after) ?_).1
      rw [hsplit, hfront, List.append_assoc, List.cons_append]
    obtain ⟨_, kept, hkept, hall⟩ := pack_sound _ calls hnew hsound
    refine ⟨⟨kept, hkept, by rw [hall, hempty, List.nil_append]⟩,
      fun before c after hsplit hfits => ?_,
      fun before after hsplit => ⟨hbefore before after hsplit, pack_size _ _⟩⟩
    exact call_drops _ c (hbefore before _ hsplit)
      ((hsound before c after hsplit).resolve_left hfits)

/-- A string for whose characters there is no room leaves its length behind, and the next call
follows it. -/
theorem packer_not_whole :
    ¬ AllOrNothing (construct (fun _ => 0) 8) [.string [1, 2, 3, 4, 5], .int 7] := by
  intro hwhole
  have hchanged := hwhole.refused [] (.string [1, 2, 3, 4, 5]) [.int 7] rfl (by decide)
  exact absurd (congrArg myUsed hchanged) (by decide)

end NetMemoryPack
end NetNatsue
