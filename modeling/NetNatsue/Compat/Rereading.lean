import Mathlib.Data.List.Induction
import NetNatsue.Compat.HistoryTransferOut

/-! Reading the blob more than once. The first reading call serialises; the calls that add content
do not take that back. -/
namespace NetNatsue.HistoryTransferOut
open Codec History

/-- A call on the object. -/
inductive Call
  | write (w : Write)
  | getAddress
  | getLength

/-- The object after a call. -/
def call (h : HistoryTransferOut) : Call → HistoryTransferOut
  | .write w => h.write w
  | .getAddress => h.getAddress.2
  | .getLength => h.getLength.2

def after (calls : List Call) : HistoryTransferOut := calls.foldl call {}

/-- The content that some calls add. -/
def writes (calls : List Call) : List Write :=
  calls.filterMap fun c => match c with
    | .write w => some w
    | _ => none

/-- What a reading call returns is what it would return of a new object that the same content was
written to. -/
def Current (calls : List Call) : Call → Prop
  | .write _ => True
  | .getAddress => (after calls).getAddress.1 = (written (writes calls)).getAddress.1
  | .getLength => (after calls).getLength.1 = (written (writes calls)).getLength.1

/-- No reading call made with a moniker returns something stale. -/
def NeverStale (calls : List Call) : Prop :=
  ∀ front c back, calls = front ++ c :: back → (after front).myMoniker ≠ [] → Current front c

/-- A history in the making. -/
structure Draft where
  history : History := {}
  serialised : Option History := none

namespace Draft

/-- The first reading call made with a moniker serialises. -/
def read (d : Draft) : Draft :=
  if d.history.moniker = [] then d else { d with serialised := some (d.serialised.getD d.history) }

def call (d : Draft) : Call → Draft
  | .write w => { d with history := d.history.note w }
  | .getAddress => d.read
  | .getLength => d.read

def after (calls : List Call) : Draft := calls.foldl call {}

end Draft

/-- What a reading call reports of two histories is the same. -/
def Call.Same (old new : History) : Call → Prop
  | .write _ => True
  | .getAddress => old = new
  | .getLength => sizeInt old.blob = sizeInt new.blob

/-- Nothing that is written after the first reading changes what a later reading reports. -/
def Unrevised (calls : List Call) : Prop :=
  ∀ front c back old, calls = front ++ c :: back → (Draft.after front).serialised = some old →
    (Draft.after front).history.moniker ≠ [] → c.Same old (Draft.after front).history

/-- The object holds the draft. -/
structure Represents (h : HistoryTransferOut) (d : Draft) : Prop where
  held : Held { h with mySerialised := false } d.history
  serialised : h.mySerialised = d.serialised.isSome
  buffer : ∀ old, d.serialised = some old → h.myBuffer = old.blob

theorem Represents.moniker {h : HistoryTransferOut} {d : Draft} (hrep : Represents h d) :
    h.myMoniker = d.history.moniker := hrep.held.moniker

/-- Serialising fills the buffer unless that has been done. -/
theorem Represents.serialise {h : HistoryTransferOut} {d : Draft} (hrep : Represents h d) :
    h.serialise.myBuffer = (d.serialised.getD d.history).blob ∧
      Represents h.serialise { d with serialised := some (d.serialised.getD d.history) } := by
  cases hold : d.serialised with
  | some old =>
    have hdone : h.mySerialised = true := by rw [hrep.serialised, hold]; rfl
    have hkept : h.serialise = h := if_pos hdone
    rw [hkept]
    refine ⟨hrep.buffer old hold, hrep.held, hdone, fun old' heq => ?_⟩
    obtain rfl := Option.some.inj heq
    exact hrep.buffer old hold
  | none =>
    have hfresh : h.mySerialised = false := by rw [hrep.serialised, hold]; rfl
    have hsame : { h with mySerialised := false } = h := by
      cases h
      cases hfresh
      rfl
    have hheld := hrep.held
    rw [hsame] at hheld
    have hbuffer := hheld.buffer
    refine ⟨hbuffer, ⟨?_, ?_, fun old heq => ?_⟩⟩
    · simp only [HistoryTransferOut.serialise, hfresh, Bool.false_eq_true, if_false]
      exact { hrep.held with }
    · simp [HistoryTransferOut.serialise, hfresh]
    · obtain rfl := Option.some.inj heq
      exact hbuffer

theorem Represents.call {h : HistoryTransferOut} {d : Draft} (hrep : Represents h d) (c : Call) :
    Represents (h.call c) (d.call c) := by
  have hread : h.myMoniker ≠ [] → Represents h.serialise d.read := by
    intro hmoniker
    rw [hrep.moniker] at hmoniker
    rw [Draft.read, if_neg hmoniker]
    exact hrep.serialise.2
  have hunread : h.myMoniker = [] → Represents h d.read := by
    intro hmoniker
    rw [hrep.moniker] at hmoniker
    rwa [Draft.read, if_pos hmoniker]
  cases c with
  | write w =>
    have hheld := hrep.held.write w
    refine ⟨?_, ?_, ?_⟩
    · cases w <;> exact hheld
    · rw [show (d.call (.write w)).serialised = d.serialised from rfl, ← hrep.serialised]
      cases w <;> rfl
    · intro old hold
      rw [← hrep.buffer old hold]
      cases w <;> rfl
  | getAddress =>
    simp only [HistoryTransferOut.call, getAddress]
    split_ifs with hmoniker
    · exact hunread hmoniker
    · exact hread hmoniker
  | getLength =>
    simp only [HistoryTransferOut.call, getLength]
    split_ifs with hmoniker
    · exact hunread hmoniker
    · exact hread hmoniker

/-- The object after any calls holds their draft. -/
theorem represents_after (calls : List Call) : Represents (after calls) (Draft.after calls) := by
  have hall : ∀ (h : HistoryTransferOut) (d : Draft), Represents h d →
      Represents (calls.foldl HistoryTransferOut.call h) (calls.foldl Draft.call d) := by
    induction calls with
    | nil => exact fun _ _ hrep => hrep
    | cons c calls ih => exact fun h d hrep => ih _ _ (hrep.call c)
  exact hall {} {} ⟨⟨rfl, rfl, rfl, rfl, rfl, rfl, rfl, rfl⟩, rfl, fun _ hold => by cases hold⟩

/-- What is told does not depend on the readings. -/
theorem history_after (calls : List Call) : (Draft.after calls).history = told (writes calls) := by
  have hread : ∀ d : Draft, d.read.history = d.history := by
    intro d
    rw [Draft.read]
    split <;> rfl
  have hall : ∀ d : Draft, (calls.foldl Draft.call d).history =
      (writes calls).foldl note d.history := by
    induction calls with
    | nil => exact fun _ => rfl
    | cons c calls ih =>
      intro d
      cases c with
      | write w => exact ih _
      | getAddress => exact (ih _).trans (congrArg (List.foldl note · (writes calls)) (hread d))
      | getLength => exact (ih _).trans (congrArg (List.foldl note · (writes calls)) (hread d))
  exact hall {}

/-- What is serialised was told at some earlier time. -/
theorem serialised_earlier (calls : List Call) (old : History)
    (h : (Draft.after calls).serialised = some old) :
    ∃ front back, calls = front ++ back ∧ old = told (writes front) := by
  induction calls using List.reverseRecOn with
  | nil => cases h
  | append_singleton calls c ih =>
    have hread : ∀ d : Draft, d.read.serialised = some old →
        d.serialised = some old ∨ d.serialised = none ∧ old = d.history := by
      intro d hd
      rw [Draft.read] at hd
      split at hd
      · exact Or.inl hd
      · have heq : d.serialised.getD d.history = old := Option.some.inj hd
        cases hold : d.serialised with
        | none => exact Or.inr ⟨rfl, by rw [← heq, hold]; rfl⟩
        | some _ => exact Or.inl (by rw [← heq, hold]; rfl)
    have hlast : Draft.after (calls ++ [c]) = (Draft.after calls).call c := List.foldl_append
    have hcases : (Draft.after calls).serialised = some old ∨
        old = (Draft.after calls).history := by
      rw [hlast] at h
      cases c with
      | write w => exact Or.inl h
      | getAddress => exact (hread _ h).imp_right And.right
      | getLength => exact (hread _ h).imp_right And.right
    rcases hcases with hearlier | hnow
    · obtain ⟨front, back, hsplit, hold⟩ := ih hearlier
      exact ⟨front, back ++ [c], by rw [hsplit, List.append_assoc], hold⟩
    · exact ⟨calls, [c], rfl, by rw [hnow, history_after]⟩

/-- The blob tells the history. -/
theorem blob_injective {old new : History} (hold : old.Short ∧ old.Counted)
    (hnew : new.Short ∧ new.Counted) (h : old.blob = new.blob) : old = new :=
  ((reads_history old hold.1 hold.2).split (reads_history new hnew.1 hnew.2)
    (congrArg (· ++ []) h)).1

/-- What a reading call returns is the blob of the history that was serialised. -/
theorem current_iff (calls : List Call) (c : Call) (hmoniker : (after calls).myMoniker ≠ []) :
    Current calls c ↔
      match c with
      | .write _ => True
      | .getAddress =>
        ((Draft.after calls).serialised.getD (Draft.after calls).history).blob =
        (Draft.after calls).history.blob
      | .getLength =>
        sizeInt ((Draft.after calls).serialised.getD (Draft.after calls).history).blob =
          sizeInt (Draft.after calls).history.blob := by
  have hrep := represents_after calls
  have hbuffer := hrep.serialise.1
  have hhistory := history_after calls
  have htold : (told (writes calls)).moniker ≠ [] := by
    rwa [← hhistory, ← hrep.moniker]
  cases c with
  | write w => exact Iff.rfl
  | getAddress =>
    rw [Current, getAddress, if_neg hmoniker, hbuffer, getAddress_written _ htold, hhistory]
    exact Option.some_inj
  | getLength =>
    rw [Current, getLength, if_neg hmoniker, hbuffer, getLength_written _ htold, hhistory]

/-- **No blob is stale** if nothing that is written after the first reading changes what a later
reading reports, and of histories whose sizes fit an `int` only if. -/
theorem never_stale_iff (calls : List Call) :
    (Unrevised calls → NeverStale calls) ∧
      ((∀ front back, calls = front ++ back → (told (writes front)).Short ∧
        (told (writes front)).Counted) →
        NeverStale calls → Unrevised calls) := by
  constructor
  · intro hunrevised front c back hsplit hmoniker
    rw [current_iff front c hmoniker]
    rw [(represents_after front).moniker] at hmoniker
    cases hserialised : (Draft.after front).serialised with
    | none =>
      cases c with
      | write w => exact trivial
      | getAddress => exact rfl
      | getLength => exact rfl
    | some old =>
      have hsame := hunrevised front c back old hsplit hserialised hmoniker
      cases c with
      | write w => exact trivial
      | getAddress => exact congrArg blob hsame
      | getLength => exact hsame
  · intro hsizes hnever front c back old hsplit hserialised hmoniker
    have hmoniker' : (after front).myMoniker ≠ [] := by rwa [(represents_after front).moniker]
    have hcurrent := (current_iff front c hmoniker').mp (hnever front c back hsplit hmoniker')
    rw [hserialised] at hcurrent
    cases c with
    | write w => exact trivial
    | getAddress =>
      obtain ⟨front', back', hfront, rfl⟩ := serialised_earlier front old hserialised
      rw [history_after] at hcurrent ⊢
      exact blob_injective (hsizes front' (back' ++ .getAddress :: back)
        (by rw [hsplit, hfront, List.append_assoc])) (hsizes front _ hsplit) hcurrent
    | getLength => exact hcurrent

/-- A name that is written after the first reading never gets into the blob. -/
theorem not_never_stale : ¬ ∀ calls, NeverStale calls := by
  intro hall
  have hcurrent := hall [.write (.moniker [1]), .getAddress, .write (.name [2]), .getAddress]
    [.write (.moniker [1]), .getAddress, .write (.name [2])] .getAddress [] rfl (by decide)
  have hstale : (after [.write (.moniker [1]), .getAddress, .write (.name [2])]).getAddress.1 ≠
      (written [.moniker [1], .name [2]]).getAddress.1 := by decide
  exact hstale hcurrent

end NetNatsue.HistoryTransferOut
