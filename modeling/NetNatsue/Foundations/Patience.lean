import Mathlib.Data.Stream.Init

/-! Loops that poll until they have a result, under a clock. A round that is to be followed by
another one reads the clock once, and in time; so the first late reading is in the last round. -/
namespace Patience

variable {σ α τ : Type*}

/-- At most so many rounds; no result when there would have to be more. -/
def polls (poll : σ → Option α × σ) : ℕ → σ → Option α × σ
  | 0, s => (none, s)
  | n+1, s =>
    match (poll s).1 with
    | some a => (some a, (poll s).2)
    | none => polls poll n (poll s).2

/-- The laws of such a loop. `clock` is what is still to be read, `waits` holds where the loop
waits. -/
structure Patient (poll : σ → Option α × σ) (clock : σ → Stream' τ) (late : τ → Prop)
    (waits : σ → Prop) : Prop where
  stays : ∀ s, waits s → (poll s).1 = none → waits (poll s).2
  intime : ∀ s, waits s → (poll s).1 = none → ¬ late (clock s).head
  reads : ∀ s, waits s → (poll s).1 = none → clock (poll s).2 = (clock s).tail

section
variable {poll : σ → Option α × σ} {clock : σ → Stream' τ} {late : τ → Prop} {waits : σ → Prop}

theorem polls_some {s : σ} {a : α} (h : (poll s).1 = some a) (n : ℕ) :
    polls poll (n+1) s = (some a, (poll s).2) := by
  simp only [polls, h]

theorem polls_none {s : σ} (h : (poll s).1 = none) (n : ℕ) :
    polls poll (n+1) s = polls poll n (poll s).2 := by
  simp only [polls, h]

/-- A loop that has its result does not need more rounds. -/
theorem polls_enough {n : ℕ} {s s' : σ} {a : α} (h : polls poll n s = (some a, s')) :
    ∀ m, n ≤ m → polls poll m s = (some a, s') := by
  induction n generalizing s with
  | zero => cases h
  | succ n ih =>
    intro m hm
    obtain ⟨m, rfl⟩ : ∃ k, m = k + 1 := ⟨m - 1, by omega⟩
    cases hpoll : (poll s).1 with
    | some b =>
      rw [polls_some hpoll] at h ⊢
      exact h
    | none =>
      rw [polls_none hpoll] at h ⊢
      exact ih h m (by omega)

/-- **The first late reading ends the loop.** -/
theorem Patient.returns (h : Patient poll clock late waits) (s : σ) (hs : waits s) (k : ℕ)
    (hlate : late ((clock s).get k)) : ∃ a s', ∀ n, k + 1 ≤ n → polls poll n s = (some a, s') := by
  have hfirst : ∃ a s', polls poll (k+1) s = (some a, s') := by
    induction k generalizing s with
    | zero =>
      cases hpoll : (poll s).1 with
      | some a => exact ⟨a, (poll s).2, polls_some hpoll 0⟩
      | none => exact absurd hlate (h.intime s hs hpoll)
    | succ k ih =>
      cases hpoll : (poll s).1 with
      | some a => exact ⟨a, (poll s).2, polls_some hpoll (k+1)⟩
      | none =>
        rw [polls_none hpoll]
        refine ih _ (h.stays s hs hpoll) ?_
        rw [h.reads s hs hpoll]
        exact hlate
  obtain ⟨a, s', hdone⟩ := hfirst
  exact ⟨a, s', fun n hn => polls_enough hdone n hn⟩

end
end Patience
