import NetNatsue.Protocol.Bytes

/-! User identities and their written form "uid+hid". -/
namespace NetNatsue

def isDigit (c : UInt8) : Bool := 48 ≤ c && c ≤ 57

/-- The characters of `%u`. -/
def formatUnsigned (n : ℕ) : Bytes := (Nat.toDigits 10 n).map (fun c => c.toNat.toUInt8)

/-- The characters of `%d`. -/
def formatInt (n : Int32) : Bytes :=
  if n.toInt < 0 then ascii "-" ++ formatUnsigned n.toInt.natAbs
  else formatUnsigned n.toInt.natAbs

/-- The number a string of decimal digits denotes. -/
def decimalValue (digits : Bytes) : ℕ :=
  digits.foldl (fun value c => 10*value + (c.toNat - 48)) 0

/-- `atoi` on decimal digits: `(int)strtol`, which stops at the largest `long`. -/
def atoi (digits : Bytes) : Int32 := Int32.ofNat (min (decimalValue digits) (2^63-1))

structure BabelUIN where
  uid : Int32 := 0
  hid : Int32 := 0
  deriving DecidableEq, Repr

namespace BabelUIN

def toString (u : BabelUIN) : Bytes := formatInt u.uid ++ ascii "+" ++ formatInt u.hid

/-- The return value together with the identity the object holds afterwards. -/
def fromString (str : Bytes) : Bool × BabelUIN :=
  match str.findIdx? (· = 43) with
  | none => (false, {})
  | some plus =>
    if plus = 0 ∨ plus+1 ≥ str.length then (false, {})
    else if ¬ ((str.take plus).all isDigit ∧ (str.drop (plus+1)).all isDigit) then (false, {})
    else (true, { uid := atoi (str.take plus), hid := atoi (str.drop (plus+1)) })

/-- The object is zeroed whenever the text is refused. -/
theorem fromString_refused (str : Bytes) (h : (fromString str).1 = false) :
    (fromString str).2 = {} := by
  unfold fromString at h ⊢
  split
  · rfl
  · split_ifs at h ⊢ <;> simp_all

example : fromString (ascii "12+3") = (true, ⟨12, 3⟩) := by decide

end BabelUIN
end NetNatsue
