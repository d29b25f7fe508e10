import Mathlib.Data.Nat.Notation

/-! Loops that leave from the middle. A loop body either leaves the loop with a state
or asks for another round; a measure that every further round lowers bounds the rounds. -/
namespace Loop

/-- What one round of a loop does. -/
inductive Next (σ : Type*)
  | leave (s : σ)
  | again (s : σ)

variable {σ : Type*}

/-- The state after a round, whether or not another one follows. -/
def Next.state : Next σ → σ
  | leave s => s
  | again s => s

def Next.goesOn : Next σ → Bool
  | leave _ => false
  | again _ => true

theorem Next.eq_again {r : Next σ} (h : r.goesOn = true) : r = .again r.state := by
  cases r with
  | leave s => cases h
  | again s => rfl

/-- Run at most the given number of rounds. -/
def iterate (body : σ → Next σ) : ℕ → σ → σ
  | 0, s => s
  | n+1, s =>
    match body s with
    | .leave s' => s'
    | .again s' => iterate body n s'

/-- Run the loop, with as many rounds as the measure of the start allows. -/
def run (body : σ → Next σ) (measure : σ → ℕ) (s : σ) : σ :=
  iterate body (measure s + 1) s

/-- Every further round lowers the measure. -/
def Descends (body : σ → Next σ) (measure : σ → ℕ) : Prop :=
  ∀ s s', body s = .again s' → measure s' < measure s

section
variable {body : σ → Next σ} {measure : σ → ℕ}

/-- Rounds beyond the measure are never used. -/
theorem iterate_enough (hd : Descends body measure) (n m : ℕ) (s : σ)
    (hn : measure s < n) (hm : measure s < m) : iterate body n s = iterate body m s := by
  induction n generalizing m s with
  | zero => omega
  | succ n ih =>
    cases m with
    | zero => omega
    | succ m =>
      simp only [iterate]
      cases hb : body s with
      | leave s' => rfl
      | again s' =>
        have hlt := hd s s' hb
        exact ih m s' (by omega) (by omega)

/-- A state the body leaves with is where the rounds stay. -/
theorem iterate_leave {s : σ} (hb : body s = .leave s) (n : ℕ) : iterate body n s = s := by
  cases n with
  | zero => rfl
  | succ n => simp only [iterate, hb]

theorem iterate_again {s s' : σ} (hb : body s = .again s') (n : ℕ) :
    iterate body (n+1) s = iterate body n s' := by
  simp only [iterate, hb]

theorem iterate_one (s : σ) : iterate body 1 s = (body s).state := by
  simp only [iterate]
  cases body s <;> rfl

/-- The loop unrolled once. -/
theorem run_eq (hd : Descends body measure) (s : σ) :
    run body measure s = match body s with
      | .leave s' => s'
      | .again s' => run body measure s' := by
  change iterate body (measure s + 1) s = _
  rw [iterate]
  cases hb : body s with
  | leave s' => rfl
  | again s' =>
    have hlt := hd s s' hb
    exact iterate_enough hd _ _ s' hlt (by omega)

theorem run_leave (hd : Descends body measure) {s s' : σ} (hb : body s = .leave s') :
    run body measure s = s' := by rw [run_eq hd, hb]

theorem run_again (hd : Descends body measure) {s s' : σ} (hb : body s = .again s') :
    run body measure s = run body measure s' := by rw [run_eq hd, hb]

/-- A property that every round keeps, holds after the loop. -/
theorem iterate_keeps (P : σ → Prop) (hkeep : ∀ s, P s → P (body s).state) (n : ℕ) (s : σ)
    (hs : P s) : P (iterate body n s) := by
  induction n generalizing s with
  | zero => exact hs
  | succ n ih =>
    have h := hkeep s hs
    simp only [iterate]
    cases hb : body s with
    | leave s' => rw [hb] at h; exact h
    | again s' => rw [hb] at h; exact ih s' h

end
end Loop
