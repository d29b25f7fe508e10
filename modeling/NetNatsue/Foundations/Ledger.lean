import Mathlib.Data.List.Induction
import Mathlib.Data.List.Nodup

/-! A ledger of questions and answers. A question is asked under a ticket, an answer names the
ticket of its question, and closing ends all questions that are still open. -/
namespace Ledger

inductive Entry (Ticket Answer : Type)
  | asked (ticket : Ticket)
  | answered (ticket : Ticket) (answer : Answer)
  | closed
  deriving DecidableEq

variable {Ticket Answer : Type}

section
variable [DecidableEq Ticket]

def noteFate (ticket : Ticket) (fate : Option (Option Answer)) :
    Entry Ticket Answer → Option (Option Answer)
  | .asked other => if other = ticket then some none else fate
  | .answered other answer => if other = ticket then fate.map (fun _ => some answer) else fate
  | .closed => none

/-- What has become of the question with this ticket: nothing before it is asked and after the
ledger was closed, in between the answer, once there is one. -/
def fate (ticket : Ticket) (entries : List (Entry Ticket Answer)) : Option (Option Answer) :=
  entries.foldl (noteFate ticket) none

end

/-- The tickets of the questions, in order. -/
def questions (entries : List (Entry Ticket Answer)) : List Ticket :=
  entries.filterMap fun
    | .asked ticket => some ticket
    | _ => none

/-- The tickets of the answers, in order. -/
def answers (entries : List (Entry Ticket Answer)) : List Ticket :=
  entries.filterMap fun
    | .answered ticket _ => some ticket
    | _ => none

section
variable (before after : List (Entry Ticket Answer))

theorem questions_append : questions (before ++ after) = questions before ++ questions after :=
  List.filterMap_append

theorem answers_append : answers (before ++ after) = answers before ++ answers after :=
  List.filterMap_append

theorem fate_append [DecidableEq Ticket] (ticket : Ticket) :
    fate ticket (before ++ after) = after.foldl (noteFate ticket) (fate ticket before) :=
  List.foldl_append

end

/-- An entry stands last or before the last one. -/
theorem split_snoc {entries before after : List (Entry Ticket Answer)}
    {last entry : Entry Ticket Answer} (h : entries ++ [last] = before ++ entry :: after) :
    last = entry ∧ entries = before ∨
      ∃ rest, after = rest ++ [last] ∧ entries = before ++ entry :: rest := by
  rcases List.eq_nil_or_concat after with rfl | ⟨rest, final, rfl⟩
  · obtain ⟨hentries, hlast⟩ := List.append_inj' h rfl
    exact Or.inl ⟨List.singleton_inj.mp hlast, hentries⟩
  · rw [List.concat_eq_append, ← List.cons_append, ← List.append_assoc] at h
    obtain ⟨hentries, hlast⟩ := List.append_inj' h rfl
    obtain rfl := List.singleton_inj.mp hlast
    exact Or.inr ⟨rest, List.concat_eq_append, hentries⟩

theorem mem_questions {ticket : Ticket} {entries : List (Entry Ticket Answer)} :
    ticket ∈ questions entries ↔ .asked ticket ∈ entries := by
  constructor
  · intro h
    obtain ⟨entry, hentry, hticket⟩ := List.mem_filterMap.mp h
    cases entry with
    | asked other =>
      cases hticket
      exact hentry
    | answered other answer => cases hticket
    | closed => cases hticket
  · exact fun h => List.mem_filterMap.mpr ⟨_, h, rfl⟩

theorem mem_answers {ticket : Ticket} {entries : List (Entry Ticket Answer)} :
    ticket ∈ answers entries ↔ ∃ answer, .answered ticket answer ∈ entries := by
  constructor
  · intro h
    obtain ⟨entry, hentry, hticket⟩ := List.mem_filterMap.mp h
    cases entry with
    | asked other => cases hticket
    | answered other answer =>
      cases hticket
      exact ⟨answer, hentry⟩
    | closed => cases hticket
  · rintro ⟨answer, h⟩
    exact List.mem_filterMap.mpr ⟨_, h, rfl⟩

section
variable [DecidableEq Ticket]

/-- What is written of other tickets changes nothing, as long as the ledger is not closed. -/
theorem foldl_others (ticket : Ticket) (entries : List (Entry Ticket Answer))
    (hasked : ticket ∉ questions entries) (hanswered : ticket ∉ answers entries)
    (hclosed : .closed ∉ entries) (state : Option (Option Answer)) :
    entries.foldl (noteFate ticket) state = state := by
  induction entries generalizing state with
  | nil => rfl
  | cons entry entries ih =>
    have hrest :=
      ih (fun h => hasked (mem_questions.mpr (List.mem_cons_of_mem _ (mem_questions.mp h))))
      (fun h => hanswered (mem_answers.mpr ((mem_answers.mp h).imp fun _ =>
        List.mem_cons_of_mem _)))
      (fun h => hclosed (List.mem_cons_of_mem _ h))
    rw [List.foldl_cons, hrest]
    cases entry with
    | asked other =>
      have hother : other ≠ ticket := fun h => hasked (mem_questions.mpr (h ▸ List.mem_cons_self))
      exact if_neg hother
    | answered other answer =>
      have hother : other ≠ ticket :=
        fun h => hanswered (mem_answers.mpr ⟨answer, h ▸ List.mem_cons_self⟩)
      exact if_neg hother
    | closed => exact absurd List.mem_cons_self hclosed

theorem fate_others (ticket : Ticket) (before after : List (Entry Ticket Answer))
    (hasked : ticket ∉ questions after) (hanswered : ticket ∉ answers after)
    (hclosed : .closed ∉ after) :
    fate ticket (before ++ after) = fate ticket before := by
  rw [fate_append, foldl_others ticket after hasked hanswered hclosed]

/-- What became of a question is written in the ledger. -/
theorem fate_written (ticket : Ticket) (entries : List (Entry Ticket Answer)) :
    ((fate ticket entries).isSome = true → ticket ∈ questions entries) ∧
      ∀ answer, fate ticket entries = some (some answer) → .answered ticket answer ∈ entries := by
  induction entries using List.reverseRecOn with
  | nil => exact ⟨fun h => (by cases h), fun _ h => (by cases h)⟩
  | append_singleton entries entry ih =>
    obtain ⟨hquestion, hanswer⟩ := ih
    rw [fate_append, questions_append]
    cases entry with
    | asked other =>
      by_cases hother : other = ticket
      · simp [noteFate, questions, hother]
      · simp only [List.foldl_cons, List.foldl_nil, noteFate, if_neg hother]
        exact ⟨fun h => List.mem_append_left _ (hquestion h), fun answer h => List.mem_append_left _
          (hanswer answer h)⟩
    | answered other answer =>
      by_cases hother : other = ticket
      · simp only [List.foldl_cons, List.foldl_nil, noteFate, if_pos hother, Option.isSome_map]
        refine ⟨fun h => List.mem_append_left _ (hquestion h), fun given h => ?_⟩
        obtain ⟨_, _, hgiven⟩ := Option.map_eq_some_iff.mp h
        cases hgiven
        simp [hother]
      · simp only [List.foldl_cons, List.foldl_nil, noteFate, if_neg hother]
        exact ⟨fun h => List.mem_append_left _ (hquestion h), fun answer h => List.mem_append_left _
          (hanswer answer h)⟩
    | closed => exact ⟨fun h => (by cases h), fun _ h => (by cases h)⟩

/-- A question is open until the ledger is closed. -/
theorem fate_open (ticket : Ticket) (before after : List (Entry Ticket Answer))
    (hclosed : .closed ∉ after) :
    (fate ticket (before ++ .asked ticket :: after)).isSome = true := by
  induction after using List.reverseRecOn with
  | nil => simp [fate_append, noteFate]
  | append_singleton after entry ih =>
    have hopen := ih fun hmem => hclosed (List.mem_append_left _ hmem)
    rw [← List.cons_append, ← List.append_assoc, fate_append]
    cases entry with
    | asked other =>
      simp only [List.foldl_cons, List.foldl_nil, noteFate]
      split_ifs
      · rfl
      · exact hopen
    | answered other answer =>
      simp only [List.foldl_cons, List.foldl_nil, noteFate]
      split_ifs
      · rw [Option.isSome_map]
        exact hopen
      · exact hopen
    | closed => simp at hclosed

/-- A ledger in which every question has a ticket of its own and every answer is given to an open
question. -/
inductive Sound : List (Entry Ticket Answer) → Prop
  | nil : Sound []
  | ask (entries : List (Entry Ticket Answer)) (ticket : Ticket) (h : Sound entries)
    (hnew : ticket ∉ questions entries) : Sound (entries ++ [.asked ticket])
  | answer (entries : List (Entry Ticket Answer)) (ticket : Ticket) (answer : Answer)
    (h : Sound entries) (hopen : (fate ticket entries).isSome = true) :
    Sound (entries ++ [.answered ticket answer])
  | close (entries : List (Entry Ticket Answer)) (h : Sound entries) : Sound (entries ++ [.closed])

/-- **The only answer is what became of its question**, as long as the ledger is not closed. -/
theorem Sound.fate_answered {entries : List (Entry Ticket Answer)} (h : Sound entries)
    (honce : (answers entries).Nodup) {before after : List (Entry Ticket Answer)} {ticket : Ticket}
    {answer : Answer} (hsplit : entries = before ++ .answered ticket answer :: after)
    (hclosed : .closed ∉ after) : fate ticket entries = some (some answer) := by
  induction h generalizing after with
  | nil => simp at hsplit
  | ask entries other h hnew ih =>
    obtain ⟨hlast, _⟩ | ⟨rest, rfl, hentries⟩ := split_snoc hsplit
    · cases hlast
    · rw [answers_append] at honce
      have hbefore := ih (List.Nodup.of_append_left honce) hentries
        (fun hmem => hclosed (List.mem_append_left _ hmem))
      have hother : ticket ∉ questions ([.asked other] : List (Entry Ticket Answer)) := by
        intro hmem
        obtain rfl := List.mem_singleton.mp hmem
        exact hnew ((fate_written ticket entries).1 (by rw [hbefore]; rfl))
      rw [fate_others ticket entries _ hother List.not_mem_nil (by simp), hbefore]
  | answer entries other given h hopen ih =>
    obtain ⟨hlast, hentries⟩ | ⟨rest, rfl, hentries⟩ := split_snoc hsplit
    · cases hlast
      obtain ⟨fate, hfate⟩ := Option.isSome_iff_exists.mp hopen
      simp [fate_append, noteFate, hfate]
    · rw [answers_append] at honce
      have hbefore := ih (List.Nodup.of_append_left honce) hentries
        (fun hmem => hclosed (List.mem_append_left _ hmem))
      have hother : ticket ∉ answers [Entry.answered other given] := by
        intro hmem
        obtain rfl := List.mem_singleton.mp hmem
        exact (List.nodup_append.mp honce).2.2 ticket
          (mem_answers.mpr ⟨answer, by simp [hentries]⟩) ticket hmem rfl
      rw [fate_others ticket entries _ List.not_mem_nil hother (by simp), hbefore]
  | close entries h ih =>
    obtain ⟨hlast, _⟩ | ⟨rest, rfl, hentries⟩ := split_snoc hsplit
    · cases hlast
    · simp at hclosed

end

end Ledger
