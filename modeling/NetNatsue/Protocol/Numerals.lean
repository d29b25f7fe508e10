import NetNatsue.Protocol.Identity

/-! Printed numbers, read back. -/
namespace NetNatsue

theorem ascii_plus : ascii "+" = [43] := rfl

theorem ascii_minus : ascii "-" = [45] := rfl

theorem formatUnsigned_digit (n : ℕ) (h : n < 10) : formatUnsigned n = [(48 + n).toUInt8] := by
  rw [formatUnsigned, Nat.toDigits_of_lt_base h, List.map_singleton,
    Nat.toNat_digitChar_of_lt_ten h]

theorem formatUnsigned_snoc (n : ℕ) (h : 10 ≤ n) :
    formatUnsigned n = formatUnsigned (n/10) ++ [(48 + n%10).toUInt8] := by
  have hdigit : n%10 < 10 := Nat.mod_lt n (by omega)
  rw [formatUnsigned, Nat.toDigits_of_base_le (by omega) h, List.map_append, List.map_singleton,
    Nat.toNat_digitChar_of_lt_ten hdigit]
  rfl

/-- Induction along the digits, from the first to the last. -/
theorem formatUnsigned_induction (p : ℕ → Bytes → Prop) (hone : ∀ n < 10, p n [(48 + n).toUInt8])
    (hmore : ∀ n, 10 ≤ n → p (n/10) (formatUnsigned (n/10)) →
      p n (formatUnsigned (n/10) ++ [(48 + n%10).toUInt8])) (n : ℕ) : p n (formatUnsigned n) := by
  induction n using Nat.strong_induction_on with
  | h n ih =>
    by_cases h : n < 10
    · rw [formatUnsigned_digit n h]
      exact hone n h
    · rw [formatUnsigned_snoc n (not_lt.mp h)]
      exact hmore n (not_lt.mp h) (ih (n/10) (by omega))

theorem digit_toNat (n : ℕ) (h : n < 10) : (48 + n).toUInt8.toNat = 48 + n :=
  Nat.mod_eq_of_lt (by omega)

theorem isDigit_digit (n : ℕ) (h : n < 10) : isDigit (48 + n).toUInt8 = true := by
  have hvalue := digit_toNat n h
  simp only [isDigit, Bool.and_eq_true, decide_eq_true_eq, UInt8.le_iff_toNat_le, hvalue]
  constructor
  · exact Nat.le_add_right 48 n
  · change 48 + n ≤ 57
    omega

theorem formatUnsigned_digits (n : ℕ) : ∀ c ∈ formatUnsigned n, isDigit c = true := by
  refine formatUnsigned_induction (fun _ digits => ∀ c ∈ digits, isDigit c = true) ?_ ?_ n
  · intro n hn c hc
    rw [List.mem_singleton.mp hc]
    exact isDigit_digit n hn
  · intro n _ ih c hc
    rcases List.mem_append.mp hc with hc | hc
    · exact ih c hc
    · rw [List.mem_singleton.mp hc]
      exact isDigit_digit _ (Nat.mod_lt n (by omega))

theorem formatUnsigned_ne_nil (n : ℕ) : formatUnsigned n ≠ [] :=
  formatUnsigned_induction (fun _ digits => digits ≠ []) (fun _ _ => List.cons_ne_nil _ _)
    (fun _ _ _ => List.append_ne_nil_of_right_ne_nil _ (List.cons_ne_nil _ _)) n

theorem decimalValue_snoc (digits : Bytes) (c : UInt8) :
    decimalValue (digits ++ [c]) = 10*decimalValue digits + (c.toNat - 48) := by
  rw [decimalValue, List.foldl_append]
  rfl

/-- What is printed is read as the number. -/
theorem decimalValue_formatUnsigned (n : ℕ) : decimalValue (formatUnsigned n) = n := by
  refine formatUnsigned_induction (fun n digits => decimalValue digits = n) ?_ ?_ n
  · intro n hn
    change 10*0 + ((48 + n).toUInt8.toNat - 48) = n
    rw [digit_toNat n hn]
    omega
  · intro n hn ih
    rw [decimalValue_snoc, ih, digit_toNat _ (Nat.mod_lt n (by omega))]
    omega

theorem formatUnsigned_injective : Function.Injective formatUnsigned := fun n k h => by
  rw [← decimalValue_formatUnsigned n, h, decimalValue_formatUnsigned k]

theorem atoi_toInt (digits : Bytes) (h : decimalValue digits < 2147483648) :
    (atoi digits).toInt = decimalValue digits := by
  rw [atoi, min_eq_left (by omega), Word32.toInt_ofNat_exact _ h]

theorem atoi_formatUnsigned (n : Int32) (h : 0 ≤ n.toInt) :
    atoi (formatUnsigned n.toInt.natAbs) = n := by
  have hupper := Word32.toInt_upper n
  apply Int32.toInt_inj.mp
  rw [atoi_toInt _ (by rw [decimalValue_formatUnsigned]; omega), decimalValue_formatUnsigned]
  omega

theorem formatInt_nonneg (n : Int32) (h : 0 ≤ n.toInt) :
    formatInt n = formatUnsigned n.toInt.natAbs :=
  if_neg (not_lt.mpr h)

theorem formatInt_negative (n : Int32) (h : n.toInt < 0) :
    formatInt n = 45 :: formatUnsigned n.toInt.natAbs := by
  rw [formatInt, if_pos h, ascii_minus]
  rfl

/-- The first occurrence of a character. -/
theorem findIdx_split (c : UInt8) (front back : Bytes) (h : c ∉ front) :
    (front ++ c :: back).findIdx? (· = c) = some front.length := by
  induction front with
  | nil => simp [List.findIdx?_cons]
  | cons a front ih =>
    rw [List.mem_cons, not_or] at h
    rw [List.cons_append, List.findIdx?_cons, decide_eq_false (Ne.symm h.1), ih h.2]
    rfl

theorem digits_not_mem {digits : Bytes} (h : ∀ c ∈ digits, isDigit c = true) {c : UInt8}
    (hc : isDigit c = false) : c ∉ digits := fun hmem => by
  rw [h c hmem] at hc
  exact Bool.noConfusion hc

theorem formatUnsigned_not_mem (n : ℕ) {c : UInt8} (hc : isDigit c = false) :
    c ∉ formatUnsigned n :=
  digits_not_mem (formatUnsigned_digits n) hc

theorem formatInt_not_mem (n : Int32) {c : UInt8} (hdigit : isDigit c = false) (hsign : c ≠ 45) :
    c ∉ formatInt n := by
  rcases lt_or_ge n.toInt 0 with hn | hn
  · rw [formatInt_negative n hn, List.mem_cons, not_or]
    exact ⟨hsign, formatUnsigned_not_mem _ hdigit⟩
  · rw [formatInt_nonneg n hn]
    exact formatUnsigned_not_mem _ hdigit

/-- Digits do not begin with a sign. -/
theorem formatUnsigned_unsigned (n : ℕ) (digits : Bytes) : formatUnsigned n ≠ 45 :: digits :=
  fun heq =>
  formatUnsigned_not_mem n (show isDigit 45 = false by decide)
    (by rw [heq]; exact List.mem_cons_self)

theorem formatInt_injective : Function.Injective formatInt := by
  intro n k h
  apply Int32.toInt_inj.mp
  rcases lt_or_ge n.toInt 0 with hn | hn <;> rcases lt_or_ge k.toInt 0 with hk | hk
  · rw [formatInt_negative n hn, formatInt_negative k hk] at h
    have habs := formatUnsigned_injective (List.cons.inj h).2
    omega
  · rw [formatInt_negative n hn, formatInt_nonneg k hk] at h
    exact absurd h.symm (formatUnsigned_unsigned _ _)
  · rw [formatInt_nonneg n hn, formatInt_negative k hk] at h
    exact absurd h (formatUnsigned_unsigned _ _)
  · rw [formatInt_nonneg n hn, formatInt_nonneg k hk] at h
    have habs := formatUnsigned_injective h
    omega

namespace BabelUIN

/-- What stands before the first plus sign, and behind it. -/
def uidPart (str : Bytes) : Bytes := str.takeWhile (· ≠ 43)
def hidPart (str : Bytes) : Bytes := (str.dropWhile (· ≠ 43)).drop 1

/-- A text that is accepted: digits on both sides of a plus sign. -/
structure Written (uid hid : Bytes) : Prop where
  uid_some : uid ≠ []
  hid_some : hid ≠ []
  uid_digits : ∀ c ∈ uid, isDigit c = true
  hid_digits : ∀ c ∈ hid, isDigit c = true

theorem parts_split (uid hid : Bytes) (h : (43 : UInt8) ∉ uid) :
    uidPart (uid ++ 43 :: hid) = uid ∧ hidPart (uid ++ 43 :: hid) = hid := by
  obtain ⟨hfront, hback⟩ := takeWhile_split 43 uid hid h
  exact ⟨hfront, congrArg (List.drop 1) hback⟩

/-- The parser takes a text apart at its first plus sign. -/
theorem fromString_split (uid hid : Bytes) (h : (43 : UInt8) ∉ uid) :
    fromString (uid ++ 43 :: hid) =
      if uid ≠ [] ∧ hid ≠ [] ∧ uid.all isDigit = true ∧ hid.all isDigit = true then
        (true, ⟨atoi uid, atoi hid⟩) else (false, {}) := by
  have hbehind : (uid ++ 43 :: hid).drop (uid.length + 1) = hid := by
    rw [List.append_cons]
    exact List.drop_left' (by rw [List.length_append, List.length_singleton])
  have houtside : (uid.length = 0 ∨ uid.length + 1 ≥ (uid ++ 43 :: hid).length) ↔ uid = [] ∨
      hid = [] := by
    rw [List.length_append, List.length_cons, ← List.length_eq_zero_iff, ← List.length_eq_zero_iff]
    omega
  simp only [fromString, findIdx_split 43 uid hid h, List.take_left, hbehind, houtside]
  split_ifs <;> simp_all

theorem fromString_written {uid hid : Bytes} (h : Written uid hid) :
    fromString (uid ++ 43 :: hid) = (true, ⟨atoi uid, atoi hid⟩) := by
  rw [fromString_split uid hid (digits_not_mem h.uid_digits rfl)]
  exact if_pos ⟨h.uid_some, h.hid_some, List.all_eq_true.mpr h.uid_digits,
    List.all_eq_true.mpr h.hid_digits⟩

theorem fromString_accepted {str : Bytes} (h : (fromString str).1 = true) :
    str = uidPart str ++ 43 :: hidPart str ∧ Written (uidPart str) (hidPart str) := by
  by_cases hmem : (43 : UInt8) ∈ str
  · obtain ⟨uid, hid, rfl, huid⟩ := List.eq_append_cons_of_mem hmem
    obtain ⟨huidPart, hhidPart⟩ := parts_split uid hid huid
    rw [huidPart, hhidPart]
    rw [fromString_split uid hid huid] at h
    split at h
    case isTrue hdigits =>
      obtain ⟨huid, hhid, huidDigits, hhidDigits⟩ := hdigits
      exact ⟨rfl, huid, hhid, List.all_eq_true.mp huidDigits, List.all_eq_true.mp hhidDigits⟩
    case isFalse => exact absurd h Bool.false_ne_true
  · have hnone : str.findIdx? (fun c => decide (c = 43)) = none :=
      List.findIdx?_eq_none_iff.mpr fun c hc => decide_eq_false fun heq => hmem (by rwa [heq] at hc)
    rw [fromString, hnone] at h
    exact absurd h Bool.false_ne_true

/-- An accepted text denotes the numbers of its parts. -/
theorem fromString_parts {str : Bytes} (h : (fromString str).1 = true) :
    (fromString str).2 = ⟨atoi (uidPart str), atoi (hidPart str)⟩ := by
  obtain ⟨hsplit, hwritten⟩ := fromString_accepted h
  have hread := fromString_written hwritten
  rw [← hsplit] at hread
  rw [hread]

theorem parts_toString (u : BabelUIN) :
    uidPart u.toString = formatInt u.uid ∧ hidPart u.toString = formatInt u.hid := by
  have hparts :=
    parts_split (formatInt u.uid) (formatInt u.hid) (formatInt_not_mem _ (by decide) (by decide))
  rwa [← List.singleton_append, ← ascii_plus, ← List.append_assoc] at hparts

theorem toString_injective : Function.Injective toString := by
  intro u other h
  obtain ⟨huid, hhid⟩ := parts_toString u
  rw [h, (parts_toString other).1] at huid
  rw [h, (parts_toString other).2] at hhid
  cases u
  cases other
  exact congr (congrArg mk (formatInt_injective huid.symm)) (formatInt_injective hhid.symm)

theorem toString_nonneg (u : BabelUIN) (huid : 0 ≤ u.uid.toInt) (hhid : 0 ≤ u.hid.toInt) :
    u.toString = formatUnsigned u.uid.toInt.natAbs ++ 43 :: formatUnsigned u.hid.toInt.natAbs := by
  rw [toString, formatInt_nonneg _ huid, formatInt_nonneg _ hhid, ascii_plus, List.append_assoc]
  rfl

theorem written_numbers (n k : ℕ) : Written (formatUnsigned n) (formatUnsigned k) :=
  ⟨formatUnsigned_ne_nil n, formatUnsigned_ne_nil k, formatUnsigned_digits n,
    formatUnsigned_digits k⟩

/-- What is written is read as the identity. -/
theorem fromString_toString (u : BabelUIN) (huid : 0 ≤ u.uid.toInt) (hhid : 0 ≤ u.hid.toInt) :
    fromString u.toString = (true, u) := by
  rw [toString_nonneg u huid hhid, fromString_written (written_numbers _ _),
    atoi_formatUnsigned _ huid, atoi_formatUnsigned _ hhid]

/-- A text that was written is read as its identity, if it is read at all. -/
theorem fromString_toString_accepted (u : BabelUIN) (h : (fromString u.toString).1 = true) :
    (fromString u.toString).2 = u := by
  have hsign : ∀ n : Int32, (∀ c ∈ formatInt n, isDigit c = true) → 0 ≤ n.toInt := by
    intro n hdigits
    by_contra hnegative
    rw [formatInt_negative n (not_le.mp hnegative)] at hdigits
    exact absurd (hdigits 45 List.mem_cons_self) (by decide)
  obtain ⟨_, hwritten⟩ := fromString_accepted h
  obtain ⟨huid, hhid⟩ := parts_toString u
  rw [huid, hhid] at hwritten
  rw [fromString_toString u (hsign _ hwritten.uid_digits) (hsign _ hwritten.hid_digits)]

/-- What exact parsing is: the texts of the grammar are accepted and no others, the numbers are
those that the two halves denote, and an identity that is refused is zero. -/
structure ParsedExactly (str : Bytes) : Prop where
  accepted : (fromString str).1 = true ↔ ∃ uid hid, str = uid ++ 43 :: hid ∧ Written uid hid
  numbers : ∀ uid hid, str = uid ++ 43 :: hid → Written uid hid →
    (fromString str).2.uid.toInt = decimalValue uid ∧ (fromString str).2.hid.toInt =
      decimalValue hid
  refused : (fromString str).1 = false → (fromString str).2 = {}

/-- The two halves of a text of the grammar denote numbers that an `int` can hold. -/
def InRange (str : Bytes) : Prop :=
  ∀ uid hid, str = uid ++ 43 :: hid → Written uid hid →
    decimalValue uid < 2147483648 ∧ decimalValue hid < 2147483648

theorem fromString_accepted_iff (str : Bytes) :
    (fromString str).1 = true ↔ ∃ uid hid, str = uid ++ 43 :: hid ∧ Written uid hid := by
  constructor
  · intro h
    obtain ⟨hsplit, hwritten⟩ := fromString_accepted h
    exact ⟨_, _, hsplit, hwritten⟩
  · rintro ⟨uid, hid, rfl, hwritten⟩
    rw [fromString_written hwritten]

/-- A half is converted to the number it denotes exactly when the number fits. -/
theorem atoi_exact_iff (digits : Bytes) :
    (atoi digits).toInt = decimalValue digits ↔ decimalValue digits < 2147483648 := by
  constructor
  · intro h
    have hupper := Word32.toInt_upper (atoi digits)
    omega
  · exact atoi_toInt digits

theorem parsedExactly_iff (str : Bytes) : ParsedExactly str ↔ InRange str := by
  constructor
  · intro hparsed uid hid hsplit hwritten
    obtain ⟨huid, hhid⟩ := hparsed.numbers uid hid hsplit hwritten
    rw [hsplit, fromString_written hwritten] at huid hhid
    exact ⟨(atoi_exact_iff uid).mp huid, (atoi_exact_iff hid).mp hhid⟩
  · intro hrange
    refine ⟨fromString_accepted_iff str, fun uid hid hsplit hwritten => ?_, fromString_refused str⟩
    obtain ⟨huid, hhid⟩ := hrange uid hid hsplit hwritten
    rw [hsplit, fromString_written hwritten]
    exact ⟨atoi_toInt uid huid, atoi_toInt hid hhid⟩

/-- **Ids are parsed exactly** if and only if their halves fit an `int`. Two such ids that are read
as the same identity denote the same numbers, and what is written for an identity that is not
negative is always read back. -/
theorem parsed_exactly_iff (str : Bytes) :
    (ParsedExactly str ↔ InRange str) ∧
    (∀ uid hid uid' hid', str = uid ++ 43 :: hid → Written uid hid → Written uid' hid' →
      InRange str → InRange (uid' ++ 43 :: hid') →
      (fromString str).2 = (fromString (uid' ++ 43 :: hid')).2 →
      decimalValue uid = decimalValue uid' ∧ decimalValue hid = decimalValue hid') ∧
    ∀ u : BabelUIN, 0 ≤ u.uid.toInt → 0 ≤ u.hid.toInt → fromString u.toString = (true, u) := by
  refine ⟨parsedExactly_iff str, ?_, fromString_toString⟩
  intro uid hid uid' hid' hsplit hwritten hwritten' hrange hrange' hsame
  obtain ⟨huid, hhid⟩ := ((parsedExactly_iff _).mpr hrange).numbers uid hid hsplit hwritten
  obtain ⟨huid', hhid'⟩ := ((parsedExactly_iff _).mpr hrange').numbers uid' hid' rfl hwritten'
  rw [hsame] at huid hhid
  omega

/-- A number of 2^32 + 7 is read as 7. -/
theorem not_parsed_exactly : ¬ ∀ str, ParsedExactly str := by
  intro hall
  have hwritten : Written (ascii "4294967303") (ascii "1") :=
    ⟨by decide, by decide, by decide +kernel, by decide +kernel⟩
  obtain ⟨huid, _⟩ := (hall (ascii "4294967303+1")).numbers _ _ (by decide) hwritten
  have hseven : (fromString (ascii "4294967303+1")).2.uid = 7 := by decide +kernel
  rw [hseven] at huid
  exact absurd huid (by decide)

end BabelUIN
end NetNatsue
