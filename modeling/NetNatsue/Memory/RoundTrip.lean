import NetNatsue.Memory.Pack

/-! The writer and the reader of binary blobs together: the two cursors, each checked on its own,
pass the same positions. -/
namespace NetNatsue

namespace NetMemoryUnpack

/-- Calls one after another: what each of them delivers, and the reader behind the last. -/
def unpack (u : NetMemoryUnpack) : List Call → List (Option Bytes) × NetMemoryUnpack
  | [] => ([], u)
  | c :: cs =>
    let r := u.call c
    let rs := unpack r.2 cs
    (r.1 :: rs.1, rs.2)

/-- The bytes that are still to be read. -/
def ahead (u : NetMemoryUnpack) : Bytes :=
  memcpy u.myBuffer u.myRead.toInt (u.mySize.toInt - u.myRead.toInt).toNat

/-- A block that lies ahead is delivered. -/
theorem packOut_ahead (u : NetMemoryUnpack) (size : Int32) (block rest : Bytes) (hu : u.Inside)
    (hsize : size.toInt = block.length) (h : u.ahead = block ++ rest) :
    (u.packOut size).1 = some block ∧ (u.packOut size).2.ahead = rest ∧
    (u.packOut size).2.Inside := by
  obtain ⟨hlo, hhi⟩ := id hu
  have hupper := Word32.toInt_upper u.mySize
  have hlength := congrArg List.length h
  rw [ahead, memcpy_length, List.length_append] at hlength
  rcases packOut_exact u size hu (by omega) with ⟨_, hwhy⟩ | ⟨_, _, hsum, hcall⟩
  · omega
  · have hsplit : (u.mySize.toInt - u.myRead.toInt).toNat = block.length + rest.length := by omega
    rw [ahead, hsplit, memcpy_add] at h
    obtain ⟨hblock, hrest⟩ := List.append_inj h (memcpy_length _ _ _)
    have hbytes : size.toInt.toNat = block.length := by omega
    have hleft : (u.mySize.toInt - (u.myRead.toInt + block.length)).toNat = rest.length := by omega
    rw [hcall, hbytes, hblock]
    refine ⟨rfl, ?_, ?_⟩
    · simp only [ahead, hsum, hsize, hleft]
      exact hrest
    · unfold Inside
      simp only [hsum]
      omega

/-- A string that lies ahead with its length is delivered. -/
theorem packOutString_ahead (u : NetMemoryUnpack) (str rest : Bytes) (hu : u.Inside)
    (hfit : str.length < 2147483648) (h : u.ahead = putInt (sizeInt str) ++ str ++ rest) :
    u.packOutString.1 = some str ∧ u.packOutString.2.ahead = rest ∧ u.packOutString.2.Inside := by
  rw [List.append_assoc] at h
  obtain ⟨hlength, hahead, hinside⟩ :=
    packOut_ahead u 4 (putInt (sizeInt str)) (str ++ rest) hu rfl h
  have hlong := congrArg List.length h
  rw [ahead, memcpy_length, List.length_append, putInt_length] at hlong
  have hupper := Word32.toInt_upper u.mySize
  have hlo := hu.1
  rcases packOut_length u hu (by omega) with ⟨hcall, _⟩ | ⟨_, _, hcall⟩
  · rw [hcall] at hlength
    cases hlength
  · rw [hcall] at hlength hahead hinside
    have hfield : u.lengthField = sizeInt str := by
      have hvalue := getInt_putInt (sizeInt str) []
      rw [List.append_nil] at hvalue
      rw [lengthField, Option.some.inj hlength, hvalue]
    rw [packOutString_text u hcall, hfield]
    exact packOut_ahead _ _ str rest hinside (sizeInt_toInt str hfit) hahead

end NetMemoryUnpack

namespace NetMemoryPack

/-- The `PackOut` that takes a call back. -/
def Call.taken : Call → NetMemoryUnpack.Call
  | .raw _ size => .raw size
  | .string _ => .string
  | .int _ => .raw 4

/-- The bytes of the item that a call is about: a block, a text, or the memory of an integer. -/
def Call.item : Call → Bytes
  | .raw data size => memcpy data 0 size.toInt.toNat
  | .string str => str
  | .int value => putInt value

/-- Blocks have a positive size. -/
def Call.Proper : Call → Prop
  | .raw _ size => 0 < size.toInt
  | _ => True

/-- Calls for which there is room together are all added. -/
theorem pack_fits (p : NetMemoryPack) (calls : List Call) (hp : p.Inside)
    (h : p.myUsed.toInt + (calls.flatMap Call.encoding).length ≤ p.mySize.toInt) :
    (p.pack calls).contents = p.contents ++ calls.flatMap Call.encoding ∧
      (p.pack calls).myUsed.toInt = p.myUsed.toInt + (calls.flatMap Call.encoding).length := by
  induction calls generalizing p with
  | nil => exact ⟨(List.append_nil _).symm, by simp [pack]⟩
  | cons c calls ih =>
    rw [List.flatMap_cons, List.length_append] at h ⊢
    have hfits : p.Fits c := by
      unfold Fits
      omega
    obtain ⟨hcontents, hused⟩ := call_fits p c hp hfits
    obtain ⟨hall, hend⟩ :=
      ih (p.call c) (call_inside p c hp hfits) (by rw [hused, call_size]; omega)
    refine ⟨?_, ?_⟩
    · rw [← List.append_assoc, ← hcontents]
      exact hall
    · rw [pack, List.foldl_cons]
      rw [pack] at hend
      rw [hend, hused]
      omega

theorem call_taken (u : NetMemoryUnpack) (c : Call) (rest : Bytes) (hu : u.Inside)
    (hproper : c.Proper)
    (hfit : c.encoding.length < 2147483648) (h : u.ahead = c.encoding ++ rest) :
    (u.call c.taken).1 = some c.item ∧ (u.call c.taken).2.ahead = rest ∧
    (u.call c.taken).2.Inside := by
  cases c with
  | raw data size =>
    refine u.packOut_ahead size _ rest hu ?_ h
    rw [Call.item, memcpy_length]
    simp only [Call.Proper] at hproper
    omega
  | string str =>
    rw [Call.encoding, List.length_append, putInt_length] at hfit
    exact u.packOutString_ahead str rest hu (by omega) h
  | int value => exact u.packOut_ahead 4 (putInt value) rest hu rfl h

/-- Calls that lie ahead are taken back one after another. -/
theorem unpack_ahead (u : NetMemoryUnpack) (calls : List Call) (hu : u.Inside)
    (hproper : ∀ c ∈ calls, c.Proper) (h : u.ahead = calls.flatMap Call.encoding) :
    (u.unpack (calls.map Call.taken)).1 = calls.map (fun c => some c.item) ∧
      (u.unpack (calls.map Call.taken)).2.ahead = [] ∧
      (u.unpack (calls.map Call.taken)).2.Inside := by
  induction calls generalizing u with
  | nil => exact ⟨rfl, h, hu⟩
  | cons c calls ih =>
    have hupper := Word32.toInt_upper u.mySize
    have hlength := congrArg List.length h
    rw [NetMemoryUnpack.ahead, memcpy_length, List.flatMap_cons, List.length_append] at hlength
    have hlo := hu.1
    obtain ⟨hfirst, hahead, hinside⟩ :=
      call_taken u c _ hu (hproper c List.mem_cons_self) (by omega) h
    obtain ⟨hrest, hend⟩ :=
      ih _ hinside (fun other hother => hproper other (List.mem_cons_of_mem _ hother)) hahead
    simp only [List.map_cons, NetMemoryUnpack.unpack]
    exact ⟨by rw [hfirst, hrest], hend⟩

/-- **Unpacking undoes packing.** Items for which the pack has room are read back in order from the
bytes it hands out, and nothing remains. -/
theorem unpack_pack (memory : ℤ → UInt8) (size : Int32) (calls : List Call)
    (hproper : ∀ c ∈ calls, c.Proper)
    (hroom : (calls.flatMap Call.encoding).length ≤ (construct memory size).mySize.toInt) :
    let p := (construct memory size).pack calls
    let r := (NetMemoryUnpack.construct p.getAddress p.getLength).unpack (calls.map Call.taken)
    r.1 = calls.map (fun c => some c.item) ∧ r.2.remaining = 0 := by
  intro p r
  have hempty : (construct memory size).contents = [] := rfl
  have hstart : (construct memory size).myUsed.toInt = 0 := rfl
  obtain ⟨hcontents, hused⟩ :=
    pack_fits _ calls (construct_inside memory size) (by rw [hstart]; omega)
  have hnonneg : ¬ p.getLength < 0 := by
    rw [Word32.lt_iff]
    change ¬ p.myUsed.toInt < 0
    rw [hused, hstart]
    omega
  have hahead : (NetMemoryUnpack.construct p.getAddress p.getLength).ahead =
      calls.flatMap Call.encoding := by
    rw [hempty, List.nil_append] at hcontents
    rw [← hcontents]
    simp only [NetMemoryUnpack.ahead, NetMemoryUnpack.construct, if_neg hnonneg]
    simp [contents, p]
  obtain ⟨hitems, hend, hinside⟩ :=
    unpack_ahead _ calls (NetMemoryUnpack.construct_inside _ _) hproper hahead
  refine ⟨hitems, ?_⟩
  have hlength := congrArg List.length hend
  rw [NetMemoryUnpack.ahead, memcpy_length, List.length_nil] at hlength
  have hupper := Word32.toInt_upper r.2.mySize
  obtain ⟨hlo, hhi⟩ := hinside
  change 0 ≤ r.2.myRead.toInt at hlo
  change r.2.myRead.toInt ≤ r.2.mySize.toInt at hhi
  change (r.2.mySize.toInt - r.2.myRead.toInt).toNat = 0 at hlength
  apply Int32.toInt_inj.mp
  rw [NetMemoryUnpack.remaining, Word32.toInt_sub_exact _ _ (by omega) (by omega),
    Word32.toInt_zero]
  omega

/-- A block, an empty text, an integer and a text, which together fill the pack to its end. -/
theorem unpack_pack_filled :
    let calls : List Call :=
      [.raw (fun i => i.toNat.toUInt8) 3, .string [], .int (-2), .string [7, 7]]
    let p := (construct (fun _ => 0) 17).pack calls
    let r := (NetMemoryUnpack.construct p.getAddress p.getLength).unpack (calls.map Call.taken)
    r.1 = calls.map (fun c => some c.item) ∧ r.2.remaining = 0 :=
  unpack_pack _ _ _ (by simp [Call.Proper]) (by decide)

end NetMemoryPack
end NetNatsue
