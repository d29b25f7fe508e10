import Mathlib.Data.List.Nodup
import Mathlib.Logic.Function.Basic

/-! A sweep over some of the keys of a map. What is found under a key is taken, or put aside under
another key; each key is looked up when its turn comes. -/
namespace Sweep

variable {κ β : Type*}

/-- The keys are different, and so are the keys that things are put aside under. -/
structure Apart (aside : κ → κ) (keys : List κ) : Prop where
  distinct : keys.Nodup
  elsewhere : ∀ k ∈ keys, aside k ∉ keys
  injective : ∀ k ∈ keys, ∀ l ∈ keys, aside k = aside l → k = l

theorem Apart.tail {aside : κ → κ} {k : κ} {ks : List κ} (h : Apart aside (k :: ks)) :
    Apart aside ks where
  distinct := h.distinct.of_cons
  elsewhere l hl hin := h.elsewhere l (List.mem_cons_of_mem _ hl) (List.mem_cons_of_mem _ hin)
  injective l hl l' hl' := h.injective l (List.mem_cons_of_mem _ hl) l' (List.mem_cons_of_mem _ hl')

variable [DecidableEq κ]

/-- The map when one key has been dealt with. -/
def clear (takes : κ → Prop) [DecidablePred takes] (aside : κ → κ) (f : κ → Option β) (k : κ) :
    κ → Option β :=
  if takes k then Function.update f k none
  else Function.update (Function.update f (aside k) (f k)) k none

/-- What is taken under one key. -/
def taken (takes : κ → Prop) [DecidablePred takes] (f : κ → Option β) (k : κ) : Option (κ × β) :=
  if takes k then (f k).map (Prod.mk k) else none

def swept (takes : κ → Prop) [DecidablePred takes] (aside : κ → κ) :
    List κ → (κ → Option β) → κ → Option β
  | [], f => f
  | k :: ks, f => swept takes aside ks (clear takes aside f k)

def collected (takes : κ → Prop) [DecidablePred takes] (aside : κ → κ) :
    List κ → (κ → Option β) → List (κ × β)
  | [], _ => []
  | k :: ks, f => (taken takes f k).toList ++ collected takes aside ks (clear takes aside f k)

section
variable {takes : κ → Prop} [DecidablePred takes] {aside : κ → κ} {f : κ → Option β}
  {k l : κ} {ks : List κ}

theorem clear_self : clear takes aside f k k = none := by
  unfold clear
  split_ifs <;> exact Function.update_self _ _ _

theorem clear_aside (htakes : ¬ takes k) (hother : aside k ≠ k) :
    clear takes aside f k (aside k) = f k := by
  rw [clear, if_neg htakes, Function.update_of_ne hother, Function.update_self]

theorem clear_other (hkey : l ≠ k) (haside : ¬ takes k → l ≠ aside k) :
    clear takes aside f k l = f l := by
  unfold clear
  split_ifs with htakes
  · exact Function.update_of_ne hkey _ _
  · rw [Function.update_of_ne hkey, Function.update_of_ne (haside htakes)]

/-- What is neither a key nor aside from one stays. -/
theorem swept_other (hkeys : l ∉ ks) (haside : ∀ k ∈ ks, ¬ takes k → l ≠ aside k) :
    swept takes aside ks f l = f l := by
  induction ks generalizing f with
  | nil => rfl
  | cons k ks ih =>
    rw [List.mem_cons, not_or] at hkeys
    rw [swept, ih hkeys.2 fun k hk => haside k (List.mem_cons_of_mem _ hk)]
    exact clear_other hkeys.1 (haside k List.mem_cons_self)

/-- Nothing is left under the keys. -/
theorem swept_key (h : Apart aside ks) (hl : l ∈ ks) : swept takes aside ks f l = none := by
  induction ks generalizing f with
  | nil => cases hl
  | cons k ks ih =>
    rw [swept]
    by_cases hlater : l ∈ ks
    · exact ih h.tail hlater
    · have hfirst : l = k := (List.mem_cons.mp hl).resolve_right hlater
      rw [swept_other hlater fun k' hk' _ haside => ?_, hfirst]
      · exact clear_self
      · exact h.elsewhere k' (List.mem_cons_of_mem _ hk') (haside ▸ hl)

/-- What is not taken is there under the other key. -/
theorem swept_aside (h : Apart aside ks) (hl : l ∈ ks) (htakes : ¬ takes l) :
    swept takes aside ks f (aside l) = f l := by
  induction ks generalizing f with
  | nil => cases hl
  | cons k ks ih =>
    have hnew : aside l ∉ k :: ks := h.elsewhere l hl
    rw [List.mem_cons, not_or] at hnew
    rw [swept]
    rcases List.mem_cons.mp hl with rfl | hlater
    · rw [swept_other hnew.2 fun k' hk' _ haside => ?_]
      · exact clear_aside htakes hnew.1
      · have hsame := h.injective l List.mem_cons_self k' (List.mem_cons_of_mem _ hk') haside
        exact (List.nodup_cons.mp h.distinct).1 (hsame ▸ hk')
    · rw [ih h.tail hlater]
      refine clear_other ?_ fun _ haside => h.elsewhere k List.mem_cons_self (haside ▸ hl)
      rintro rfl
      exact (List.nodup_cons.mp h.distinct).1 hlater

/-- What is taken is what was there before the sweep. -/
theorem collected_eq (h : Apart aside ks) :
    collected takes aside ks f = ks.filterMap (taken takes f) := by
  induction ks generalizing f with
  | nil => rfl
  | cons k ks ih =>
    have hlater : ∀ l ∈ ks, taken takes (clear takes aside f k) l = taken takes f l := by
      intro l hl
      unfold taken
      rw [clear_other]
      · rintro rfl
        exact (List.nodup_cons.mp h.distinct).1 hl
      · exact fun _ haside => h.elsewhere k List.mem_cons_self (haside ▸ List.mem_cons_of_mem _ hl)
    rw [collected, ih h.tail, List.filterMap_congr hlater, List.filterMap_cons]
    cases taken takes f k <;> rfl

end
end Sweep
