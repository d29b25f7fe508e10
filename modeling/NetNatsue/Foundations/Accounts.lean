import NetNatsue.Foundations.Outgoing

/-! The account of what has been put on each line. What the destination took is always the first
part of it, whatever becomes of the line, and on a line that is live the rest still waits. -/
namespace Outgoing

variable {α : Type*}

/-- Nothing is put on the current line and no other is touched: what is taken on the way had been
waiting, and what is not taken still waits unless the line is lost. -/
structure Coasts (q r : Lines α) : Prop where
  current : r.current = q.current
  others : ∀ line, line ≠ q.current → r.taken line = q.taken line
  shortens : r.taken q.current ++ r.waiting <+: q.taken q.current ++ q.waiting
  holds : r.live = true → q.live = true ∧ r.taken q.current ++ r.waiting = q.taken
    q.current ++ q.waiting

/-- `ledger line` is what was put on that line, one thing after the other. -/
structure Accounts (q : Lines α) (ledger : ℕ → List α) : Prop where
  line : q.taken q.current ++ q.waiting <+: ledger q.current
  live : q.live = true → q.taken q.current ++ q.waiting = ledger q.current
  others : ∀ line, line ≠ q.current → q.taken line <+: ledger line
  ahead : ∀ line, q.current < line → ledger line = []

section
variable {q r k : Lines α} {ledger : ℕ → List α}

theorem coasts_refl (q : Lines α) : Coasts q q :=
  ⟨rfl, fun _ _ => rfl, List.prefix_refl _, fun hlive => ⟨hlive, rfl⟩⟩

theorem Coasts.trans (h : Coasts q r) (h' : Coasts r k) : Coasts q k := by
  have hshortens := h'.shortens
  have hholds := h'.holds
  rw [h.current] at hshortens hholds
  refine ⟨h'.current.trans h.current, fun line hline => ?_, hshortens.trans h.shortens,
    fun hlive => ?_⟩
  · exact (h'.others line (by rwa [h.current])).trans (h.others line hline)
  · obtain ⟨hbetween, hlater⟩ := hholds hlive
    obtain ⟨hbefore, hsooner⟩ := h.holds hbetween
    exact ⟨hbefore, hlater.trans hsooner⟩

theorem coasts_take (q : Lines α) (n : ℕ) (h : q.live = true) :
    Coasts q
      { q with
        taken := Function.update q.taken q.current (q.taken q.current ++ q.waiting.take n)
        waiting := q.waiting.drop n } := by
  have hsame : Function.update q.taken q.current (q.taken q.current ++
    q.waiting.take n) q.current ++
      q.waiting.drop n = q.taken q.current ++ q.waiting := by
    rw [Function.update_self, List.append_assoc, List.take_append_drop]
  refine ⟨rfl, fun line hline => Function.update_of_ne hline _ _, ?_, fun _ => ⟨h, hsame⟩⟩
  exact hsame ▸ List.prefix_refl _

theorem coasts_giveUp (q : Lines α) (ended : List (ℕ × ℕ)) :
    Coasts q { q with live := false, waiting := [], ended := ended } := by
  refine ⟨rfl, fun _ _ => rfl, ?_, fun hlive => by cases hlive⟩
  rw [List.append_nil]
  exact List.prefix_append _ _

theorem Over.coasts {line : ℕ} (h : Over q line) (hcoasts : Coasts q r) : Over r line := by
  obtain ⟨hold, hdown⟩ := h
  rw [Over, hcoasts.current]
  refine ⟨hold, fun hline => ?_⟩
  rw [← Bool.not_eq_true]
  intro hlive
  have hbefore := (hcoasts.holds hlive).1
  rw [hdown hline] at hbefore
  cases hbefore

theorem Accounts.coasts (h : Accounts q ledger) (hcoasts : Coasts q r) : Accounts r ledger := by
  obtain ⟨hcurrent, hothers, hshortens, hholds⟩ := hcoasts
  refine ⟨?_, fun hlive => ?_, fun line hline => ?_, fun line hline => h.ahead line
    (hcurrent ▸ hline)⟩
  · rw [hcurrent]
    exact hshortens.trans h.line
  · obtain ⟨hbefore, hsame⟩ := hholds hlive
    rw [hcurrent, hsame]
    exact h.live hbefore
  · rw [hcurrent] at hline
    rw [hothers line hline]
    exact h.others line hline

/-- A passage is put on the live line. -/
theorem Accounts.put (h : Accounts q ledger) (hlive : q.live = true) (passage : List α)
    {later : ℕ → List α} (hcurrent : later q.current = ledger q.current ++ passage)
    (hothers : ∀ line, line ≠ q.current → later line = ledger line) :
    Accounts { q with waiting := q.waiting ++ passage } later := by
  have hsame : q.taken q.current ++ (q.waiting ++ passage) = later q.current := by
    rw [hcurrent, ← h.live hlive, List.append_assoc]
  refine ⟨hsame ▸ List.prefix_refl _, fun _ => hsame, fun line hline => ?_, fun line hline => ?_⟩
  · rw [hothers line hline]
    exact h.others line hline
  · rw [hothers line (Nat.ne_of_gt hline)]
    exact h.ahead line hline

/-- A new line takes the place of one that is given up. -/
theorem Accounts.renew (h : Accounts q ledger) :
    Accounts { q with current := q.current + 1, live := true, waiting := [] } ledger := by
  have hnew : ledger (q.current + 1) = [] := h.ahead _ (Nat.lt_succ_self _)
  have hempty : q.taken (q.current + 1) = [] := by
    have hprefix := h.others (q.current + 1) (Nat.succ_ne_self _)
    rwa [hnew, List.prefix_nil] at hprefix
  refine ⟨?_, fun _ => ?_, fun line hline => ?_, fun line hline => h.ahead line
    (Nat.lt_of_succ_lt hline)⟩
  · simp [hempty]
  · simp [hempty, hnew]
  · by_cases hold : line = q.current
    · rw [hold]
      exact (List.prefix_append _ _).trans h.line
    · exact h.others line hold

theorem Accounts.taken (h : Accounts q ledger) (line : ℕ) : q.taken line <+: ledger line := by
  by_cases hline : line = q.current
  · rw [hline]
    exact (List.prefix_append _ _).trans h.line
  · exact h.others line hline

end
end Outgoing
