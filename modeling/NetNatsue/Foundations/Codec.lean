import Mathlib.Data.List.Basic

/-! Reading values off the front of a stream. A reader that finds a value behind whose encoding
anything may follow can tell where the encoding ends; what such a reader reads back is therefore
determined by the stream, and so is a whole sequence of encodings. -/
namespace Codec

/-- A reader takes a value off the front of the stream and leaves the rest, or fails. -/
abbrev Reader (σ : Type) := StateT (List σ) Option

variable {σ α β : Type}

/-- The encoding is read as the value, whatever follows it. -/
def Reads (read : Reader σ α) (encoding : List σ) (value : α) : Prop :=
  ∀ rest, read (encoding ++ rest) = some (value, rest)

/-- As many symbols as are asked for. -/
def block (n : ℕ) : Reader σ (List σ) := fun stream =>
  if n ≤ stream.length then some (stream.take n, stream.drop n) else none

/-- The given number of values, one after another. -/
def times (read : Reader σ α) : ℕ → Reader σ (List α)
  | 0 => pure []
  | n+1 => do
    let value ← read
    let values ← times read n
    return value :: values

theorem reads_pure (value : α) : Reads (pure value : Reader σ α) [] value := fun _ => rfl

theorem Reads.bind {read : Reader σ α} {next : α → Reader σ β} {front back : List σ} {a : α} {b : β}
    (h : Reads read front a) (h' : Reads (next a) back b) :
    Reads (read >>= next) (front ++ back) b := by
  intro rest
  have hfront := h (back ++ rest)
  rw [← List.append_assoc] at hfront
  change (read (front ++ back ++ rest)).bind (fun r => next r.1 r.2) = _
  rw [hfront]
  exact h' rest

/-- A reader that succeeds has read its first part. -/
theorem bind_some {read : Reader σ α} {next : α → Reader σ β} {stream rest : List σ} {b : β}
    (h : (read >>= next) stream = some (b, rest)) :
    ∃ a behind, read stream = some (a, behind) ∧ next a behind = some (b, rest) := by
  change (read stream).bind (fun r => next r.1 r.2) = _ at h
  obtain ⟨⟨a, behind⟩, hread, hnext⟩ := Option.bind_eq_some_iff.mp h
  exact ⟨a, behind, hread, hnext⟩

/-- What is read last is put together with what was read before it. -/
theorem Reads.yields {read : Reader σ α} {next : α → Reader σ β} {encoding : List σ} {a : α} {b : β}
    (h : Reads read encoding a) (hnext : next a = pure b) : Reads (read >>= next) encoding b := by
  have hall : Reads (read >>= next) (encoding ++ []) b := h.bind (by rw [hnext]; exact reads_pure b)
  rwa [List.append_nil] at hall

theorem Reads.done {read : Reader σ α} {encoding : List σ} {a : α}
    (h : Reads read encoding a) (f : α → β) :
    Reads (read >>= fun value => pure (f value)) encoding (f a) := h.yields rfl

theorem reads_block (symbols : List σ) {n : ℕ} (h : symbols.length = n) :
    Reads (block n) symbols symbols := by
  intro rest
  rw [block, if_pos (by simp [h]), ← h, List.take_left, List.drop_left]

theorem Reads.times {ι : Type} {read : Reader σ α} {encode : ι → List σ} {value : ι → α}
    {items : List ι} (h : ∀ item ∈ items, Reads read (encode item) (value item)) :
    Reads (times read items.length) (items.flatMap encode) (items.map value) := by
  induction items with
  | nil => exact reads_pure []
  | cons item items ih =>
    have hfirst := h item List.mem_cons_self
    have hrest := ih fun other hother => h other (List.mem_cons_of_mem _ hother)
    rw [List.flatMap_cons]
    exact hfirst.bind (hrest.done _)

/-- A stream begins with at most one encoding. -/
theorem Reads.split {read : Reader σ α} {front front' : List σ} {a a' : α} (h : Reads read front a)
    (h' : Reads read front' a') {rest rest' : List σ} (heq : front ++ rest = front' ++ rest') :
    a = a' ∧ rest = rest' := by
  have hread := h rest
  rw [heq, h' rest'] at hread
  obtain ⟨rfl, rfl⟩ := Prod.mk.inj (Option.some.inj hread)
  exact ⟨rfl, rfl⟩

/-- **Unique decodability.** A stream is a sequence of encodings in at most one way, as far as the
reader tells the values apart. -/
theorem flatMap_decodable {ι : Type} {read : Reader σ α} {encode : ι → List σ} {value : ι → α}
    (p : ι → Prop) (h : ∀ item, p item → Reads read (encode item) (value item))
    (hsome : ∀ item, p item → encode item ≠ []) (items items' : List ι)
    (hitems : ∀ item ∈ items, p item)
    (hitems' : ∀ item ∈ items', p item) (heq : items.flatMap encode = items'.flatMap encode) :
    items.map value = items'.map value := by
  induction items generalizing items' with
  | nil =>
    cases items' with
    | nil => rfl
    | cons item items' =>
      rw [List.flatMap_nil, List.flatMap_cons] at heq
      exact absurd (List.append_eq_nil_iff.mp heq.symm).1
        (hsome item (hitems' item List.mem_cons_self))
  | cons item items ih =>
    have hitem := hitems item List.mem_cons_self
    cases items' with
    | nil =>
      rw [List.flatMap_nil, List.flatMap_cons] at heq
      exact absurd (List.append_eq_nil_iff.mp heq).1 (hsome item hitem)
    | cons item' items' =>
      have hitem' := hitems' item' List.mem_cons_self
      rw [List.flatMap_cons, List.flatMap_cons] at heq
      obtain ⟨hvalue, hrest⟩ := (h item hitem).split (h item' hitem') heq
      rw [List.map_cons, List.map_cons, hvalue,
        ih items' (fun other hother => hitems other (List.mem_cons_of_mem _ hother))
          (fun other hother => hitems' other (List.mem_cons_of_mem _ hother)) hrest]

/-- A reader that invents nothing: what it takes off the front is the encoding of a valid value. -/
def Sound (read : Reader σ α) (encode : α → List σ) (valid : α → Prop) : Prop :=
  ∀ stream value rest, read stream = some (value, rest) → valid value ∧
    stream = encode value ++ rest

/-- The values at the front of a stream, at most the given number. -/
def upTo (read : Reader σ α) : ℕ → List σ → List α
  | 0, _ => []
  | n+1, stream =>
    match read stream with
    | none => []
    | some (value, rest) => value :: upTo read n rest

/-- A sequence of at most `n` valid values whose encodings stand at the front of a stream. -/
structure Front (encode : α → List σ) (valid : α → Prop) (n : ℕ) (stream : List σ)
    (values : List α) : Prop where
  few : values.length ≤ n
  all : ∀ value ∈ values, valid value
  stands : values.flatMap encode <+: stream

/-- The longest such sequence; every other one is the beginning of it. -/
structure Longest (encode : α → List σ) (valid : α → Prop) (n : ℕ) (stream : List σ)
    (values : List α) : Prop
    extends Front encode valid n stream values where
  longest : ∀ others, Front encode valid n stream others → others <+: values

variable {encode : α → List σ} {valid : α → Prop}

theorem Front.tail {n : ℕ} {stream : List σ} {value : α} {values : List α}
    (h : Front encode valid (n+1) (encode value ++ stream) (value :: values)) :
    Front encode valid n stream values where
  few := Nat.succ_le_succ_iff.mp h.few
  all other hother := h.all other (List.mem_cons_of_mem _ hother)
  stands := by
    have hstands := h.stands
    rw [List.flatMap_cons] at hstands
    exact (List.prefix_append_right_inj (encode value)).mp hstands

/-- Reading as many values as there are gives the longest sequence. -/
theorem upTo_longest {read : Reader σ α} (hsound : Sound read encode valid)
    (hcomplete : ∀ value, valid value → Reads read (encode value) value) (n : ℕ) (stream : List σ) :
    Longest encode valid n stream (upTo read n stream) := by
  -- a valid value in front is the one that is read
  have hfirst : ∀ stream n value values, Front encode valid n stream (value :: values) →
      ∃ rest, stream = encode value ++ rest ∧ read stream = some (value, rest) := by
    intro stream n value values hfront
    obtain ⟨rest, hrest⟩ := hfront.stands
    rw [List.flatMap_cons, List.append_assoc] at hrest
    have hread :=
      hcomplete value (hfront.all value List.mem_cons_self) (values.flatMap encode ++ rest)
    rw [hrest] at hread
    exact ⟨_, hrest.symm, hread⟩
  induction n generalizing stream with
  | zero =>
    refine ⟨⟨Nat.le_refl 0, fun value hvalue => absurd hvalue List.not_mem_nil,
      List.nil_prefix⟩, ?_⟩
    intro others hothers
    rw [List.length_eq_zero_iff.mp (Nat.le_zero.mp hothers.few)]
    exact List.nil_prefix
  | succ n ih =>
    cases hread : read stream with
    | none =>
      simp only [upTo, hread]
      refine ⟨⟨Nat.zero_le _, fun value hvalue => absurd hvalue List.not_mem_nil,
        List.nil_prefix⟩, ?_⟩
      intro others hothers
      cases others with
      | nil => exact List.nil_prefix
      | cons value values =>
        obtain ⟨rest, _, hsome⟩ := hfirst _ _ _ _ hothers
        rw [hread] at hsome
        cases hsome
    | some r =>
      obtain ⟨value, rest⟩ := r
      obtain ⟨hvalid, rfl⟩ := hsound _ _ _ hread
      obtain ⟨⟨hfew, hall, hstands⟩, hlongest⟩ := ih rest
      simp only [upTo, hread]
      refine ⟨⟨Nat.succ_le_succ hfew, List.forall_mem_cons.mpr ⟨hvalid, hall⟩, ?_⟩, ?_⟩
      · rw [List.flatMap_cons]
        exact (List.prefix_append_right_inj (encode value)).mpr hstands
      · intro others hothers
        cases others with
        | nil => exact List.nil_prefix
        | cons other others =>
          obtain ⟨rest', hsplit, hother⟩ := hfirst _ _ _ _ hothers
          rw [hread] at hother
          obtain ⟨rfl, rfl⟩ := Prod.mk.inj (Option.some.inj hother)
          exact (List.prefix_cons_inj value).mpr (hlongest others hothers.tail)

/-- A sequence that is as long as allowed is the longest. -/
theorem Longest.eq_of_full {n : ℕ} {stream : List σ} {values others : List α}
    (h : Longest encode valid n stream values) (hothers : Front encode valid n stream others)
    (hfull : others.length = n) : values = others :=
  ((h.longest others hothers).eq_of_length_le (by rw [hfull]; exact h.few)).symm

end Codec
