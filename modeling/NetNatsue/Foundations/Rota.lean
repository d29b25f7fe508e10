import Mathlib.Data.List.Rotate

/-! Taking turns. The members of a list have their turns in order, over and over. -/
namespace Rota

variable {α : Type*}

/-- Who has the turn; somebody else if there is nobody. -/
def turn (nobody : α) (members : List α) (n : ℕ) : α := members.getD (n % members.length) nobody

/-- Who has the next so many turns. -/
def turns (nobody : α) (members : List α) (start count : ℕ) : List α :=
  (List.range count).map fun n => turn nobody members (start + n)

section
variable (nobody : α) (members : List α)

@[simp] theorem turns_length (start count : ℕ) :
    (turns nobody members start count).length = count := by
  simp [turns]

/-- The first of the turns, and the others. -/
theorem turns_succ (start count : ℕ) : turns nobody members start (count + 1) =
    turn nobody members start :: turns nobody members (start + 1) count := by
  rw [turns, List.range_succ_eq_map, List.map_cons, List.map_map, turns]
  refine congrArg _ (List.map_congr_left fun n _ => ?_)
  rw [Function.comp_apply, Nat.add_succ, Nat.succ_add]

/-- A round, wherever it starts, goes once around the list. -/
theorem turns_round (start : ℕ) :
    turns nobody members start members.length = members.rotate start := by
  refine List.ext_getElem (by simp) fun i hi hi' => ?_
  have hlength : i < members.length := by simpa using hi
  have hmod : (start + i) % members.length < members.length := Nat.mod_lt _ (by omega)
  simp only [turns, turn, List.getElem_map, List.getElem_range, List.getElem_rotate,
    Nat.add_comm i start]
  rw [List.getD_eq_getElem?_getD, List.getElem?_eq_getElem hmod, Option.getD_some]

/-- **In a round everyone has one turn.** -/
theorem turns_perm (start : ℕ) : (turns nobody members start members.length).Perm members := by
  rw [turns_round]
  exact List.rotate_perm members start

end
end Rota
