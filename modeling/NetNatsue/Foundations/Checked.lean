import NetNatsue.Foundations.Loop
import NetNatsue.Foundations.Word

/-! Computations that stop at a fault: a read outside of the memory they may see, a sum that
leaves the range of a signed word, a loop that does not come to its end. -/
namespace Checked

inductive Fault
  | outside
  | overflow
  | endless
  deriving DecidableEq, Repr

end Checked

/-- A computation that has succeeded has committed no fault on its way. -/
abbrev Checked := Except Checked.Fault

namespace Checked

def add (a b : Int32) : Checked Int32 :=
  if -2147483648 ≤ a.toInt + b.toInt ∧ a.toInt + b.toInt < 2147483648 then .ok (a+b)
  else .error .overflow

def sub (a b : Int32) : Checked Int32 :=
  if -2147483648 ≤ a.toInt - b.toInt ∧ a.toInt - b.toInt < 2147483648 then .ok (a-b)
  else .error .overflow

section
variable {α : Type*}

/-- A pointer moved ahead, at most to the end of the memory it points into. -/
def advance (memory : List α) (offset : Int32) : Checked (List α) :=
  if 0 ≤ offset.toInt ∧ offset.toInt ≤ memory.length then .ok (memory.drop offset.toInt.toNat)
  else .error .outside

/-- One element of memory. -/
def read (memory : List α) (i : ℕ) : Checked α :=
  match memory[i]? with
  | some x => .ok x
  | none => .error .outside

/-- The elements at the front of memory. -/
def front (memory : List α) (size : Int32) : Checked (List α) :=
  if 0 ≤ size.toInt ∧ size.toInt ≤ memory.length then .ok (memory.take size.toInt.toNat)
  else .error .outside

theorem advance_ok (memory : List α) (offset : Int32) (n : ℕ) (hoffset : offset.toInt = n)
    (h : n ≤ memory.length) : advance memory offset = .ok (memory.drop n) := by
  rw [advance, if_pos (by omega), hoffset, Int.toNat_natCast]

theorem read_ok (memory : List α) (i : ℕ) (default : α) (h : i < memory.length) :
    read memory i = .ok (memory.getD i default) := by
  rw [read, List.getElem?_eq_getElem h, List.getD_eq_getElem _ _ h]

theorem front_ok (memory : List α) (size : Int32) (hlo : 0 ≤ size.toInt)
    (hhi : size.toInt ≤ memory.length) : front memory size = .ok (memory.take size.toInt.toNat) :=
  if_pos ⟨hlo, hhi⟩

end

theorem add_ok (a b : Int32) (hlo : -2147483648 ≤ a.toInt + b.toInt)
    (hhi : a.toInt + b.toInt < 2147483648) : add a b = .ok (a+b) := if_pos ⟨hlo, hhi⟩

theorem sub_ok (a b : Int32) (hlo : -2147483648 ≤ a.toInt - b.toInt)
    (hhi : a.toInt - b.toInt < 2147483648) : sub a b = .ok (a-b) := if_pos ⟨hlo, hhi⟩

/-- What follows a computation that has succeeded. -/
theorem bind_ok {α β : Type} {x : Checked α} {a : α} (h : x = .ok a) (f : α → Checked β) :
    (x >>= f) = f a := by
  subst h
  rfl

section
variable {σ : Type*}

/-- Rounds without a fault up to the one that leaves the loop, each but the last of which makes
progress. -/
inductive Runs (round : σ → Checked (Loop.Next σ)) (Progress : σ → σ → Prop) : σ → σ → Prop
  | leave {s t : σ} (hround : round s = .ok (.leave t)) : Runs round Progress s t
  | again {s s' t : σ} (hround : round s = .ok (.again s')) (hprogress : Progress s s')
      (hrest : Runs round Progress s' t) : Runs round Progress s t

variable {round : σ → Checked (Loop.Next σ)} {Progress : σ → σ → Prop}

/-- A loop whose rounds commit no fault and make progress runs to its end. -/
theorem runs_run {body : σ → Loop.Next σ} {measure : σ → ℕ} (hd : Loop.Descends body measure)
    (hround : ∀ s, round s = .ok (body s))
    (hprogress : ∀ s s', body s = .again s' → Progress s s') (s : σ) :
    Runs round Progress s (Loop.run body measure s) := by
  induction hn : measure s using Nat.strong_induction_on generalizing s with
  | _ n ih =>
    cases hb : body s with
    | leave t =>
      rw [Loop.run_leave hd hb]
      apply Runs.leave
      rw [hround, hb]
    | again s' =>
      rw [Loop.run_again hd hb]
      refine .again (by rw [hround, hb]) (hprogress s s' hb) (ih (measure s') ?_ s' rfl)
      rw [← hn]
      exact hd s s' hb

theorem Runs.progress {s s' t : σ} (h : Runs round Progress s t)
    (hround : round s = .ok (.again s')) :
    Progress s s' := by
  cases h with
  | leave hleave =>
    rw [hround] at hleave
    cases hleave
  | again hagain hprogress hrest =>
    rw [hround] at hagain
    cases hagain
    exact hprogress

end
end Checked
