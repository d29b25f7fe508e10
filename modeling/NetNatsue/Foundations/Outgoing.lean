import Mathlib.Logic.Function.Basic
import Mathlib.Logic.Relation
import Mathlib.Data.List.Basic

/-! Lines that carry a stream to its destination. What is put on a line waits until it is
taken; a line that is given up loses what still waits, and a new one starts empty. -/
namespace Outgoing

variable {α : Type*}

/-- The passage lies on the line from the given offset on. -/
def Lies (line : List α) (offset : ℕ) (passage : List α) : Prop :=
  (line.drop offset).take passage.length = passage

instance [DecidableEq α] (line : List α) (offset : ℕ) (passage : List α) :
    Decidable (Lies line offset passage) :=
  inferInstanceAs (Decidable (_ = _))

theorem Lies.length_le {line passage : List α} {offset : ℕ} (h : Lies line offset passage)
    (hsome : passage ≠ []) : offset + passage.length ≤ line.length := by
  have hlength := congrArg List.length h
  have hpos := List.length_pos_of_ne_nil hsome
  simp only [List.length_take, List.length_drop] at hlength
  omega

theorem Lies.append {line passage : List α} {offset : ℕ} (h : Lies line offset passage)
    (hsome : passage ≠ []) (more : List α) : Lies (line ++ more) offset passage := by
  have hlength := h.length_le hsome
  unfold Lies
  rw [List.drop_append_of_le_length (by omega),
    List.take_append_of_le_length (by rw [List.length_drop]; omega)]
  exact h

/-- A passage that ends within the front part lies there. -/
theorem Lies.of_append {front back passage : List α} {offset : ℕ}
    (h : Lies (front ++ back) offset passage) (hend : offset + passage.length ≤ front.length) :
    Lies front offset passage := by
  unfold Lies at h ⊢
  rwa [List.drop_append_of_le_length (by omega),
    List.take_append_of_le_length (by rw [List.length_drop]; omega)] at h

/-- What is put at the end lies where the line ended. -/
theorem lies_end (line passage : List α) : Lies (line ++ passage) line.length passage := by
  simp [Lies]

/-- `taken` holds for each line what its destination has taken, `waiting` what waits on the
current one, and `ended` each line that was given up with how much had been taken by then. -/
structure Lines (α : Type*) where
  current : ℕ
  live : Bool
  taken : ℕ → List α
  waiting : List α
  ended : List (ℕ × ℕ)

inductive Move : Lines α → Lines α → Prop
  | put (q : Lines α) (passage : List α) : Move q { q with waiting := q.waiting ++ passage }
  | take (q : Lines α) (n : ℕ) (h : q.live = true) :
    Move q
      { q with
        taken := Function.update q.taken q.current (q.taken q.current ++ q.waiting.take n)
        waiting := q.waiting.drop n }
  | giveUp (q : Lines α) :
    Move q
      { q with
        live := false
        waiting := []
        ended := (q.current, (q.taken q.current).length) :: q.ended }
  | renew (q : Lines α) (h : q.live = false) :
    Move q { q with current := q.current + 1, live := true, waiting := [] }

abbrev Moves : Lines α → Lines α → Prop := Relation.ReflTransGen Move

/-- The live line has not ended. -/
def Orderly (q : Lines α) : Prop :=
  ∀ end' ∈ q.ended, end'.1 ≤ q.current ∧ (end'.1 = q.current → q.live = false)

/-- What is known of a passage for ever: it lies on its line as far as that is live or taken,
and a line that is no longer live has ended once and for all. -/
structure Keeps (q : Lines α) (line offset : ℕ) (passage : List α) : Prop where
  old : line ≤ q.current
  live : line = q.current → q.live = true →
    Lies (q.taken line ++ q.waiting) offset passage
  taken : offset + passage.length ≤ (q.taken line).length → Lies (q.taken line) offset passage
  gone : line ≠ q.current ∨ q.live = false → (line, (q.taken line).length) ∈ q.ended
  ended : ∀ n, (line, n) ∈ q.ended → n = (q.taken line).length

section
variable {q r : Lines α} {line offset : ℕ} {passage : List α}

theorem Orderly.move (h : Orderly q) (hm : Move q r) : Orderly r := by
  cases hm with
  | put more => exact h
  | take n hlive => exact h
  | giveUp =>
    intro e he
    rcases List.mem_cons.mp he with rfl | he
    · exact ⟨Nat.le_refl _, fun _ => rfl⟩
    · exact ⟨(h e he).1, fun _ => rfl⟩
  | renew hdown =>
    intro e he
    have hold := (h e he).1
    refine ⟨by simp only; omega, fun hsame => ?_⟩
    simp only at hsame
    omega

theorem Orderly.moves (h : Orderly q) (hm : Moves q r) : Orderly r := by
  induction hm with
  | refl => exact h
  | tail _ hm ih => exact ih.move hm

/-- A passage is kept from the moment it is put on the live line. -/
theorem Orderly.keeps (h : Orderly q) (hlive : q.live = true)
    (hlies : Lies (q.taken q.current ++ q.waiting) offset passage) :
    Keeps q q.current offset passage where
  old := Nat.le_refl _
  live _ _ := hlies
  taken hend := hlies.of_append hend
  gone hgone := by simp [hlive] at hgone
  ended n hn := by
    have hdown := (h _ hn).2 rfl
    rw [hlive] at hdown
    cases hdown

theorem Keeps.move (h : Keeps q line offset passage) (hq : Orderly q) (hsome : passage ≠ [])
    (hm : Move q r) : Keeps r line offset passage := by
  cases hm with
  | put more =>
    refine ⟨h.old, fun hline hlive => ?_, h.taken, h.gone, h.ended⟩
    have hlies := (h.live hline hlive).append hsome more
    rwa [List.append_assoc] at hlies
  | take n hlive =>
    by_cases hline : line = q.current
    · subst hline
      -- taking moves the border between the two parts of the line
      have hlies := h.live rfl hlive
      rw [← List.take_append_drop n q.waiting, ← List.append_assoc] at hlies
      refine ⟨h.old, fun _ _ => ?_, fun hend => ?_, fun hgone => ?_, fun k hk => ?_⟩
      · simpa only [Function.update_self] using hlies
      · simp only [Function.update_self] at hend ⊢
        exact hlies.of_append hend
      · simp [hlive] at hgone
      · have hdown := (hq _ hk).2 rfl
        rw [hlive] at hdown
        cases hdown
    · refine ⟨h.old, fun hsame => absurd hsame hline, fun hend => ?_, fun hgone => ?_,
        fun k hk => ?_⟩
      · simp only [Function.update_of_ne hline] at hend ⊢
        exact h.taken hend
      · simp only [Function.update_of_ne hline]
        exact h.gone hgone
      · simp only [Function.update_of_ne hline]
        exact h.ended k hk
  | giveUp =>
    refine ⟨h.old, fun _ hlive => absurd hlive Bool.false_ne_true, h.taken, fun _ => ?_,
      fun n hn => ?_⟩
    · by_cases hline : line = q.current
      · rw [hline]
        exact List.mem_cons_self
      · exact List.mem_cons_of_mem _ (h.gone (Or.inl hline))
    · rcases List.mem_cons.mp hn with hsame | hn
      · obtain ⟨rfl, rfl⟩ := Prod.mk.inj hsame
        rfl
      · exact h.ended n hn
  | renew hdown =>
    have hold := h.old
    refine ⟨by simp only; omega, fun hline _ => ?_, h.taken, fun _ => ?_, h.ended⟩
    · simp only at hline
      omega
    · exact h.gone (Or.inr hdown)

/-- Nothing can be taken from the line any more. -/
def Over (q : Lines α) (line : ℕ) : Prop := line ≤ q.current ∧ (line = q.current → q.live = false)

theorem Over.move (h : Over q line) (hm : Move q r) :
    Over r line ∧ r.taken line = q.taken line := by
  obtain ⟨hold, hdown⟩ := h
  cases hm with
  | put more => exact ⟨⟨hold, hdown⟩, rfl⟩
  | take n hlive =>
    have hline : line ≠ q.current := fun hline => by
      rw [hdown hline] at hlive
      cases hlive
    exact ⟨⟨hold, hdown⟩, Function.update_of_ne hline _ _⟩
  | giveUp => exact ⟨⟨hold, fun _ => rfl⟩, rfl⟩
  | renew =>
    have hpast : line < q.current + 1 := Nat.lt_succ_of_le hold
    exact ⟨⟨Nat.le_of_lt hpast, fun hline => absurd hline (Nat.ne_of_lt hpast)⟩, rfl⟩

theorem Over.moves (h : Over q line) (hm : Moves q r) :
    Over r line ∧ r.taken line = q.taken line := by
  induction hm with
  | refl => exact ⟨h, rfl⟩
  | tail _ hm ih =>
    obtain ⟨hover, htaken⟩ := ih.1.move hm
    exact ⟨hover, htaken.trans ih.2⟩

theorem Keeps.moves (h : Keeps q line offset passage) (hq : Orderly q) (hsome : passage ≠ [])
    (hm : Moves q r) : Keeps r line offset passage := by
  induction hm with
  | refl => exact h
  | tail hmoves hm ih => exact ih.move (hq.moves hmoves) hsome hm

/-- A kept passage has been taken, or waits on the live line, exactly if its line was never
given up before it was taken as far as the passage reaches. -/
theorem Keeps.whole_iff (h : Keeps q line offset passage) (hq : Orderly q) (hsome : passage ≠ []) :
    (Lies (q.taken line) offset passage ∨
      line = q.current ∧ q.live = true ∧ Lies (q.taken line ++ q.waiting) offset passage) ↔
    ∀ n, (line, n) ∈ q.ended → offset + passage.length ≤ n := by
  constructor
  · rintro (hlies | ⟨hline, hlive, _⟩) n hn
    · rw [h.ended n hn]
      exact hlies.length_le hsome
    · have hdown := (hq _ hn).2 hline
      rw [hlive] at hdown
      cases hdown
  · intro hend
    by_cases hline : line = q.current ∧ q.live = true
    · exact Or.inr ⟨hline.1, hline.2, h.live hline.1 hline.2⟩
    · have hgone : line ≠ q.current ∨ q.live = false := by
        rw [← Bool.not_eq_true]
        tauto
      exact Or.inl (h.taken (hend _ (h.gone hgone)))

end
end Outgoing
