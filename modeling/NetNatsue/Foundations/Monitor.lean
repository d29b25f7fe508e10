import Mathlib.Data.List.Basic

/-! Monitors of event traces. A monitor follows a trace event by event, and what it remembers
decides whether the next event is allowed. Between two states of a system the trace advances as it
should if the events in between are allowed by whatever fits the first state, and fit the second. -/

/-- What a monitor remembers, and what it allows next. -/
structure Monitor (σ ε : Type*) where
  step : σ → ε → σ
  allows : σ → ε → Prop

namespace Monitor

variable {σ ε : Type*} (M : Monitor σ ε)

/-- What is remembered behind some events. -/
def after (s : σ) (events : List ε) : σ := events.foldl M.step s

def Obeys (s : σ) : List ε → Prop
  | [] => True
  | e :: events => M.allows s e ∧ Obeys (M.step s e) events

theorem after_append (s : σ) (events more : List ε) :
    M.after s (events ++ more) = M.after (M.after s events) more := List.foldl_append

theorem obeys_append (s : σ) (events more : List ε) :
    M.Obeys s (events ++ more) ↔ M.Obeys s events ∧ M.Obeys (M.after s events) more := by
  induction events generalizing s with
  | nil => exact ⟨fun h => ⟨trivial, h⟩, fun h => h.2⟩
  | cons e events ih =>
    simp only [List.cons_append, Obeys, ih, after, List.foldl_cons, and_assoc]

/-- A trace is obeyed if each of its events is allowed by what went before. -/
theorem obeys_iff (s : σ) (trace : List ε) :
    M.Obeys s trace ↔
      ∀ past e future, trace = past ++ e :: future → M.allows (M.after s past) e := by
  constructor
  · rintro h past e future rfl
    exact ((M.obeys_append s past (e :: future)).mp h).2.1
  · intro h
    induction trace generalizing s with
    | nil => trivial
    | cons e trace ih =>
      refine ⟨h [] e trace rfl, ih _ fun past other future hsplit => ?_⟩
      exact h (e :: past) other future (by rw [hsplit, List.cons_append])

/-- Events that the monitor allows and forgets. -/
theorem obeys_idle (s : σ) (events : List ε) (h : ∀ e ∈ events, M.allows s e ∧ M.step s e = s) :
    M.Obeys s events ∧ M.after s events = s := by
  induction events with
  | nil => exact ⟨trivial, rfl⟩
  | cons e events ih =>
    obtain ⟨hallowed, hstep⟩ := h e List.mem_cons_self
    obtain ⟨hobeys, hafter⟩ := ih fun other hother => h other (List.mem_cons_of_mem _ hother)
    refine ⟨⟨hallowed, by rwa [hstep]⟩, ?_⟩
    rw [after, List.foldl_cons, hstep]
    exact hafter

section
variable {State : Type*} (trace : State → List ε) (fits : σ → State → Prop)

/-- What the trace has grown by between two states is allowed from what was remembered in the first,
and what is remembered of it fits the second. -/
def Watched (s : σ) (x y : State) : Prop :=
  ∃ events, trace y = trace x ++ events ∧ M.Obeys s events ∧ fits (M.after s events) y

/-- Whatever fits the first state, the way to the second is allowed from it. -/
def Advances (x y : State) : Prop := ∀ s, fits s x → M.Watched trace fits s x y

variable {M trace fits} {x y z : State}

theorem Advances.trans (h : M.Advances trace fits x y) (h' : M.Advances trace fits y z) :
    M.Advances trace fits x z := by
  intro s hs
  obtain ⟨events, htrace, hobeys, hfits⟩ := h s hs
  obtain ⟨more, hmore, hobeys', hfits'⟩ := h' _ hfits
  refine ⟨events ++ more, by rw [hmore, htrace, List.append_assoc], ?_, ?_⟩
  · exact (M.obeys_append s events more).mpr ⟨hobeys, hobeys'⟩
  · rwa [after_append]

/-- The trace grows by events that are passed over, and whatever fitted still does. -/
theorem advances_idle (events : List ε) (htrace : trace y = trace x ++ events)
    (hevents : ∀ s, ∀ e ∈ events, M.allows s e ∧ M.step s e = s) (h : ∀ s, fits s x → fits s y) :
    M.Advances trace fits x y := by
  intro s hs
  obtain ⟨hobeys, hafter⟩ := M.obeys_idle s events (hevents s)
  refine ⟨events, htrace, hobeys, ?_⟩
  rw [hafter]
  exact h s hs

theorem advances_still (htrace : trace y = trace x) (h : ∀ s, fits s x → fits s y) :
    M.Advances trace fits x y :=
  advances_idle [] (by rw [htrace, List.append_nil]) (fun _ _ he => by cases he) h

/-- The trace grows by one event. -/
theorem advances_event (e : ε) (htrace : trace y = trace x ++ [e])
    (h : ∀ s, fits s x → M.allows s e ∧ fits (M.step s e) y) : M.Advances trace fits x y := by
  intro s hs
  obtain ⟨hallowed, hfits⟩ := h s hs
  exact ⟨[e], htrace, ⟨hallowed, trivial⟩, hfits⟩

theorem advances_refl (x : State) : M.Advances trace fits x x := advances_still rfl fun _ => id

end
end Monitor
