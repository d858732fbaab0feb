import Mathlib.Data.List.DropRight
import TerminalSessions.Proofs.Registry.Changes

/-! The registry as a map in the order of registration. A history of changes tells for each handle when its
registration began and which terminal stands under it; the list of terminals follows the history. -/

namespace TerminalSessions

namespace Change

def terminalFor? (handle : String) : Change → Option Terminal
  | put terminal => if terminal.handle = handle then some terminal else none
  | _ => none

def updateFor? (handle : String) : Change → Option Update
  | set updated update => if updated = handle then some update else none
  | _ => none

def ends (handle : String) : Change → Bool
  | drop dropped => dropped = handle
  | dropAll => true
  | _ => false

end Change

namespace History

variable (history : List Change) (handle : String) (change : Change)

def since : List Change :=
  history.rtakeWhile (!·.ends handle)

/-- The step at which the current registration of the handle began: the first one since its last end that put
a terminal in. -/
def began? : Option Nat :=
  ((since history handle).findIdx? fun change => (change.terminalFor? handle).isSome).map
    (history.length - (since history handle).length + ·)

/-- The terminal that was last put in under the handle, with the updates made to it after that. -/
def recorded? : Option Terminal :=
  let updates := (since history handle).rtakeWhile fun change => (change.terminalFor? handle).isNone
  ((since history handle).reverse.findSome? (·.terminalFor? handle)).map fun terminal =>
    (updates.filterMap (·.updateFor? handle)).foldl Update.apply terminal

lemma since_snoc : since (history ++ [change]) handle =
    if change.ends handle then [] else since history handle ++ [change] := by
  rw [since, List.rtakeWhile_concat]
  cases change.ends handle <;> rfl

lemma since_length : (since history handle).length ≤ history.length :=
  (List.rtakeWhile_suffix _ _).length_le

lemma began_ended (h : change.ends handle = true) : began? (history ++ [change]) handle = none := by
  rw [began?, since_snoc, if_pos h]
  rfl

lemma began_snoc (h : change.ends handle = false) : began? (history ++ [change]) handle =
    (began? history handle).or
      (if (change.terminalFor? handle).isSome then some history.length else none) := by
  have hl := since_length history handle
  rw [began?, since_snoc, h, if_neg Bool.false_ne_true, List.findIdx?_append]
  simp only [List.length_append, List.length_singleton, Nat.add_sub_add_right, began?]
  cases (since history handle).findIdx? fun change => (change.terminalFor? handle).isSome with
  | some i => rfl
  | none =>
    cases ht : change.terminalFor? handle with
    | none => simp [List.findIdx?_cons, ht]
    | some terminal => simp [List.findIdx?_cons, ht]; omega

lemma recorded_snoc : recorded? (history ++ [change]) handle =
    change.applyAt handle (recorded? history handle) := by
  rw [recorded?, since_snoc]
  cases change with
  | put terminal =>
    by_cases ht : terminal.handle = handle
    · simp [Change.ends, Change.terminalFor?, Change.applyAt, ht]
    · simp [Change.ends, Change.terminalFor?, Change.updateFor?, Change.applyAt, ht, recorded?]
  | drop dropped =>
    by_cases hd : dropped = handle
    · simp [Change.ends, Change.applyAt, hd]
    · simp [Change.ends, Change.terminalFor?, Change.updateFor?, Change.applyAt, hd, recorded?]
  | dropAll => simp [Change.ends, Change.applyAt]
  | set updated update =>
    by_cases hu : updated = handle
    · simp [Change.ends, Change.terminalFor?, Change.updateFor?, Change.applyAt, hu, recorded?,
        Function.comp_def]
    · simp [Change.ends, Change.terminalFor?, Change.updateFor?, Change.applyAt, hu, recorded?]

variable {history handle change}

lemma began_lt {i : Nat} (h : began? history handle = some i) : i < history.length := by
  have hl := since_length history handle
  obtain ⟨j, hj, rfl⟩ := Option.map_eq_some_iff.mp h
  have hj' := (List.findIdx?_eq_some_iff_findIdx_eq.mp hj).1
  omega

lemma began_kept {i : Nat} (h : began? history handle = some i) (hc : change.ends handle = false) :
    began? (history ++ [change]) handle = some i := by
  rw [began_snoc history handle change hc, h, Option.some_or]

lemma recorded_isSome (history : List Change) (handle : String) :
    (recorded? history handle).isSome = (began? history handle).isSome := by
  induction history using List.reverseRecOn with
  | nil => rfl
  | append_singleton history change ih =>
    rw [recorded_snoc]
    cases change with
    | put terminal =>
      rw [began_snoc _ _ _ rfl]
      by_cases ht : terminal.handle = handle
      · cases began? history handle <;> simp [Change.applyAt, Change.terminalFor?, ht]
      · simp [Change.applyAt, Change.terminalFor?, ht, ih]
    | drop dropped =>
      by_cases hd : dropped = handle
      · rw [began_ended _ _ _ (by simpa [Change.ends] using hd)]
        simp [Change.applyAt, hd]
      · rw [began_snoc _ _ _ (by simpa [Change.ends] using hd)]
        simp [Change.applyAt, Change.terminalFor?, hd, ih]
    | dropAll => rw [began_ended _ _ _ rfl]; rfl
    | set updated update =>
      rw [began_snoc _ _ _ rfl]
      by_cases hu : updated = handle <;> simp [Change.applyAt, Change.terminalFor?, hu, ih]

def Before (history : List Change) (first second : String) : Prop :=
  ∃ i j, began? history first = some i ∧ began? history second = some j ∧ i < j

lemma Before.kept {first second : String} (h : Before history first second)
    (hf : change.ends first = false) (hs : change.ends second = false) :
    Before (history ++ [change]) first second := by
  obtain ⟨i, j, hi, hj, hij⟩ := h
  exact ⟨i, j, began_kept hi hf, began_kept hj hs, hij⟩

end History

structure Follows (history : List Change) (terminals : List Terminal) : Prop where
  nodup : (terminals.map (·.handle)).Nodup
  ordered : (terminals.map (·.handle)).Pairwise (History.Before history)
  found : ∀ handle, terminals.find? (·.handle = handle) = History.recorded? history handle

namespace Follows

open History

variable {history : List Change} {terminals : List Terminal}

lemma registered_iff (h : Follows history terminals) (handle : String) :
    handle ∈ terminals.map (·.handle) ↔ (began? history handle).isSome := by
  rw [← Terminals.find_isSome, h.found, recorded_isSome]

lemma ordered_kept {handles : List String} (change : Change)
    (h : (terminals.map (·.handle)).Pairwise (Before history))
    (hs : handles.Sublist (terminals.map (·.handle)))
    (hc : ∀ handle ∈ handles, change.ends handle = false) :
    handles.Pairwise (Before (history ++ [change])) :=
  (h.sublist hs).imp_of_mem fun hf hs hb => hb.kept (hc _ hf) (hc _ hs)

lemma ordered_put (h : Follows history terminals) (terminal : Terminal) :
    ((putTerminal terminal terminals).map (·.handle)).Pairwise (Before (history ++ [.put terminal])) := by
  have hk := ordered_kept (.put terminal) h.ordered (.refl _) fun _ _ => rfl
  rw [Terminals.handles_put]
  split_ifs with hm
  · exact hk
  · rw [List.pairwise_append]
    refine ⟨hk, List.pairwise_singleton _ _, ?_⟩
    intro first hf last hl
    obtain rfl := List.mem_singleton.mp hl
    obtain ⟨i, hi⟩ := Option.isSome_iff_exists.mp ((h.registered_iff first).mp hf)
    have hn : began? history terminal.handle = none := by simpa using (h.registered_iff _).not.mp hm
    refine ⟨i, history.length, began_kept hi rfl, ?_, began_lt hi⟩
    simp [began_snoc _ _ _ (show (Change.put terminal).ends terminal.handle = false from rfl), hn,
      Change.terminalFor?]

lemma ordered_apply (h : Follows history terminals) (change : Change) :
    ((change.apply terminals).map (·.handle)).Pairwise (Before (history ++ [change])) := by
  cases change with
  | put terminal => exact h.ordered_put terminal
  | drop dropped =>
    rw [Change.apply, Terminals.handles_erase]
    refine ordered_kept _ h.ordered List.erase_sublist ?_
    intro handle hm
    have hne : handle ≠ dropped := (h.nodup.mem_erase_iff.mp hm).1
    simpa [Change.ends] using hne.symm
  | dropAll => exact List.Pairwise.nil
  | set handle update =>
    rw [Change.handles_set]
    exact ordered_kept _ h.ordered (.refl _) fun _ _ => rfl

lemma apply (h : Follows history terminals) (change : Change) :
    Follows (history ++ [change]) (change.apply terminals) where
  nodup := Change.nodup_apply change h.nodup
  ordered := h.ordered_apply change
  found handle := by rw [Change.find_apply change h.nodup, h.found, recorded_snoc]

lemma run (history : List Change) : Follows history (history.foldl Change.apply []) := by
  induction history using List.reverseRecOn with
  | nil => exact ⟨List.nodup_nil, List.Pairwise.nil, fun _ => rfl⟩
  | append_singleton history change ih =>
    rw [List.foldl_append]
    exact ih.apply change

end Follows

namespace Registry

/-- After any operations from an empty registry no handle stands twice in the list, the handles in it are
those whose registration began and did not end, in the order of these beginnings, and under each of them
stands the terminal last put in, with the later updates. -/
theorem terminals_follow_history (preferences : Preferences) (operations : List Operation) :
    let registry := ((Registry.empty preferences).performAll operations).registry
    let history := operations.flatMap (·.changes preferences.defaults)
    registry.handles.Nodup ∧
      (∀ handle, handle ∈ registry.handles ↔ (History.began? history handle).isSome) ∧
      registry.handles.Pairwise (History.Before history) ∧
      ∀ handle, registry.find? handle = History.recorded? history handle := by
  have h : Follows (operations.flatMap (·.changes preferences.defaults))
      ((Registry.empty preferences).performAll operations).registry.terminals := by
    rw [performAll_terminals]
    exact Follows.run _
  exact ⟨h.nodup, h.registered_iff, h.ordered, h.found⟩

end Registry

end TerminalSessions
