import Mathlib.Data.List.Basic
import Mathlib.Order.Nat
import NetNatsue.Foundations.Loop

/-! Loops fed by a stream. The state holds a buffer of elements that have arrived; each
round of the loop either finds the front of the buffer incomplete and leaves, or decides
and stays with its decision whatever arrives behind it. Such a loop does not notice how
the stream was cut. -/
namespace Feed

variable {σ α : Type*}

/-- A round on a buffer, with the elements that arrive later appended to its result. -/
def later (receive : σ → List α → σ) (c : List α) : Loop.Next σ → Loop.Next σ
  | .leave s => .leave (receive s c)
  | .again s => .again (receive s c)

/-- The laws of a fed loop. `size` is the length of the buffer, `bound` the length from
which on the loop is no longer trusted, `up` tells whether the stream is still attended to. -/
structure Stable (body : σ → Loop.Next σ) (receive : σ → List α → σ) (size : σ → ℕ) (bound : ℕ)
    (up waiting : σ → Prop) : Prop where
  receive_nil : ∀ s, receive s [] = s
  receive_append : ∀ s a b, receive (receive s a) b = receive s (a ++ b)
  size_receive : ∀ s c, size (receive s c) = size s + c.length
  receive_up : ∀ s c, up (receive s c) ↔ up s
  shrinks : ∀ s s', body s = .again s' → size s' < size s
  keeps : ∀ s s', body s = .leave s' → size s' ≤ size s
  stays_up : ∀ s s', up s → body s = .again s' → up s'
  waits : ∀ s, waiting s → body s = .leave s
  leaves_down : ∀ s s', ¬ waiting s → body s = .leave s' → ¬ up s'
  decides : ∀ s c, ¬ waiting s → size s + c.length < bound →
    body (receive s c) = later receive c (body s)

section
variable {body : σ → Loop.Next σ} {receive : σ → List α → σ} {size : σ → ℕ} {bound : ℕ}
  {up waiting : σ → Prop}

theorem Stable.descends (h : Stable body receive size bound up waiting) :
    Loop.Descends body size := h.shrinks

/-- A run never lengthens the buffer. -/
theorem Stable.size_run_le (h : Stable body receive size bound up waiting) (s : σ) :
    size (Loop.run body size s) ≤ size s := by
  apply Loop.iterate_keeps (fun t => size t ≤ size s)
  · intro t ht
    cases hb : body t with
    | leave t' => exact (h.keeps t t' hb).trans ht
    | again t' => exact (h.shrinks t t' hb).le.trans ht
  · exact le_rfl

/-- A loop that is up at the end waits for more. -/
theorem Stable.run_waits (h : Stable body receive size bound up waiting) (s : σ)
    (hend : up (Loop.run body size s)) : waiting (Loop.run body size s) := by
  induction hn : size s using Nat.strong_induction_on generalizing s with
  | _ n ih =>
    by_cases hw : waiting s
    · rwa [Loop.run_leave h.descends (h.waits s hw)]
    · cases hb : body s with
      | leave s' =>
        rw [Loop.run_leave h.descends hb] at hend
        exact absurd hend (h.leaves_down s s' hw hb)
      | again s' =>
        have hlt := h.shrinks s s' hb
        rw [Loop.run_again h.descends hb] at hend ⊢
        exact ih (size s') (by omega) s' hend rfl

/-- Running before or after more elements arrive is the same while the loop is up. -/
theorem Stable.run_receive (h : Stable body receive size bound up waiting) (c : List α) (s : σ)
    (hup : up s) (hsize : size s + c.length < bound) :
    (up (Loop.run body size s) ∧
      Loop.run body size (receive s c) = Loop.run body size (receive (Loop.run body size s) c)) ∨
    (¬ up (Loop.run body size s) ∧
      Loop.run body size (receive s c) = receive (Loop.run body size s) c) := by
  induction hn : size s using Nat.strong_induction_on generalizing s with
  | _ n ih =>
    by_cases hw : waiting s
    · left
      rw [Loop.run_leave h.descends (h.waits s hw)]
      exact ⟨hup, rfl⟩
    · have hdec := h.decides s c hw hsize
      cases hb : body s with
      | leave s' =>
        right
        rw [hb] at hdec
        rw [Loop.run_leave h.descends hb, Loop.run_leave h.descends hdec]
        exact ⟨h.leaves_down s s' hw hb, rfl⟩
      | again s' =>
        rw [hb] at hdec
        have hlt := h.shrinks s s' hb
        rw [Loop.run_again h.descends hb, Loop.run_again h.descends hdec]
        exact ih (size s') (by omega) s' (h.stays_up s s' hup hb) (by omega) rfl

/-- A front that the loop takes in one round when it is all there, is taken in that round
whatever follows it. -/
theorem Stable.run_front (h : Stable body receive size bound up waiting) (s s' : σ)
    (front rest : List α) (hw : ¬ waiting (receive s front))
    (hfront : body (receive s front) = .again s')
    (hsize : size s + (front ++ rest).length < bound) :
    Loop.run body size (receive s (front ++ rest)) = Loop.run body size (receive s' rest) := by
  have hlen : size (receive s front) + rest.length < bound := by
    rw [h.size_receive]
    simpa [Nat.add_assoc] using hsize
  have hdec := h.decides (receive s front) rest hw hlen
  rw [hfront, h.receive_append] at hdec
  exact Loop.run_again h.descends hdec

/-- A loop that is up at the end has taken in the stream as it would have taken it in at once. -/
theorem Stable.run_chunks (h : Stable body receive size bound up waiting) (c : List α)
    (cs : List (List α)) (s : σ) (hup : up s) (hsize : size s + (c ++ cs.flatten).length < bound)
    (hend : up (Loop.run body size (receive s (c ++ cs.flatten)))) :
    (c :: cs).foldl (fun s c => Loop.run body size (receive s c)) s =
      Loop.run body size (receive s (c ++ cs.flatten)) := by
  induction cs generalizing c s with
  | nil =>
    rw [List.flatten_nil, List.append_nil]
    rfl
  | cons d ds ih =>
    rw [List.flatten_cons] at hsize hend ⊢
    have hfit : size (receive s c) + (d ++ ds.flatten).length < bound := by
      rw [h.size_receive]
      rw [List.length_append] at hsize
      omega
    rw [← h.receive_append] at hend ⊢
    rcases h.run_receive (d ++ ds.flatten) (receive s c) ((h.receive_up s c).mpr hup) hfit with
      ⟨hfirst, hsame⟩ | ⟨hdown, hsame⟩
    · have hshort := h.size_run_le (receive s c)
      rw [hsame] at hend ⊢
      exact ih d (Loop.run body size (receive s c)) hfirst (by omega) hend
    · rw [hsame] at hend
      exact absurd ((h.receive_up _ _).mp hend) hdown

/-- `sim` relates states that differ only in what the loop does not look at. -/
structure Blind (body : σ → Loop.Next σ) (receive : σ → List α → σ) (size : σ → ℕ)
    (up : σ → Prop) (sim : σ → σ → Prop) : Prop where
  trans : ∀ s t u, sim s t → sim t u → sim s u
  size_eq : ∀ s t, sim s t → size s = size t
  up_iff : ∀ s t, sim s t → (up s ↔ up t)
  receive : ∀ s t c, sim s t → sim (receive s c) (receive t c)
  leaves : ∀ s t s', sim s t → body s = .leave s' → ∃ t', body t = .leave t' ∧ sim s' t'
  agains : ∀ s t s', sim s t → body s = .again s' → ∃ t', body t = .again t' ∧ sim s' t'

theorem Blind.run {sim : σ → σ → Prop} (hb : Blind body receive size up sim)
    (hd : Loop.Descends body size) (s t : σ) (hst : sim s t) :
    sim (Loop.run body size s) (Loop.run body size t) := by
  induction hn : size s using Nat.strong_induction_on generalizing s t with
  | _ n ih =>
    cases hbs : body s with
    | leave s' =>
      obtain ⟨t', hbt, hs't'⟩ := hb.leaves s t s' hst hbs
      rw [Loop.run_leave hd hbs, Loop.run_leave hd hbt]
      exact hs't'
    | again s' =>
      obtain ⟨t', hbt, hs't'⟩ := hb.agains s t s' hst hbs
      have hlt := hd s s' hbs
      rw [Loop.run_again hd hbs, Loop.run_again hd hbt]
      exact ih (size s') (by omega) s' t' hs't' rfl

/-- Elements arrive chunk by chunk and the loop runs after each. Between two chunks the
world may have moved on (`disturb`). Once the loop is down nothing more is taken in. -/
def feed {ε : Type*} (body : σ → Loop.Next σ) (receive : σ → List α → σ) (size : σ → ℕ)
    (up : σ → Prop) [DecidablePred up] (disturb : ε → σ → σ) : σ → List (ε × List α) → σ
  | s, [] => s
  | s, (e, c) :: cs =>
    if up s then feed body receive size up disturb (Loop.run body size (receive (disturb e s) c)) cs
    else s

section
variable {ε : Type*} {disturb : ε → σ → σ} {sim : σ → σ → Prop} [DecidablePred up]

theorem feed_down (s : σ) (hs : ¬ up s) (cs : List (ε × List α)) :
    feed body receive size up disturb s cs = s := by
  cases cs with
  | nil => rfl
  | cons c cs => simp [feed, hs]

theorem feed_cons (s : σ) (hs : up s) (e : ε) (c : List α) (cs : List (ε × List α)) :
    feed body receive size up disturb s ((e, c) :: cs) =
      feed body receive size up disturb (Loop.run body size (receive (disturb e s) c)) cs := by
  simp [feed, hs]

/-- **The cut does not matter.** A stream fed in chunks, with the world moving on in between,
ends as the whole stream does, but for elements that were no longer taken in. -/
theorem Stable.feed_flatten (h : Stable body receive size bound up waiting)
    (hblind : Blind body receive size up sim) (hdisturb : ∀ e s, sim (disturb e s) s)
    (e : ε) (c : List α) (cs : List (ε × List α)) (s t : σ) (hst : sim s t) (hup : up s)
    (hsize : size s + (c ++ (cs.map Prod.snd).flatten).length < bound) :
    (up (feed body receive size up disturb s ((e, c) :: cs)) ∧
      sim (feed body receive size up disturb s ((e, c) :: cs))
        (Loop.run body size (receive t (c ++ (cs.map Prod.snd).flatten)))) ∨
    (¬ up (feed body receive size up disturb s ((e, c) :: cs)) ∧ ∃ rest,
      sim (receive (feed body receive size up disturb s ((e, c) :: cs)) rest)
        (Loop.run body size (receive t (c ++ (cs.map Prod.snd).flatten)))) := by
  have hsim : sim (receive (disturb e s) c) (receive t c) :=
    hblind.receive _ _ c (hblind.trans _ _ _ (hdisturb e s) hst)
  have hrun := hblind.run h.descends _ _ hsim
  rw [feed_cons s hup]
  induction cs generalizing e c s t with
  | nil =>
    simp only [feed, List.map_nil, List.flatten_nil, List.append_nil]
    by_cases hend : up (Loop.run body size (receive (disturb e s) c))
    · exact Or.inl ⟨hend, hrun⟩
    · exact Or.inr ⟨hend, [], by rwa [h.receive_nil]⟩
  | cons d ds ih =>
    obtain ⟨f, d⟩ := d
    have hupt : up t := (hblind.up_iff s t hst).mp hup
    have hsizet : size t = size s := (hblind.size_eq s t hst).symm
    simp only [List.map_cons, List.flatten_cons, List.length_append] at hsize ⊢
    have hwhole := h.run_receive (d ++ (ds.map Prod.snd).flatten) (receive t c)
      ((h.receive_up t c).mpr hupt) (by rw [h.size_receive, List.length_append]; omega)
    rw [h.receive_append] at hwhole
    by_cases hend : up (Loop.run body size (receive (disturb e s) c))
    · rcases hwhole with ⟨_, heq⟩ | ⟨hdown, _⟩
      · have hle := h.size_run_le (receive (disturb e s) c)
        rw [h.size_receive, hblind.size_eq _ _ (hdisturb e s)] at hle
        have hsim' := hblind.receive _ _ d (hblind.trans _ _ _ (hdisturb f _) hrun)
        rw [heq, feed_cons _ hend]
        exact ih f d _ _ hrun hend (by rw [List.length_append]; omega) hsim'
          (hblind.run h.descends _ _ hsim')
      · exact absurd ((hblind.up_iff _ _ hrun).mp hend) hdown
    · rw [feed_down _ hend]
      rcases hwhole with ⟨hu, _⟩ | ⟨_, heq⟩
      · exact absurd ((hblind.up_iff _ _ hrun).mpr hu) hend
      · rw [heq]
        exact Or.inr ⟨hend, _, hblind.receive _ _ _ hrun⟩

end
end
end Feed
