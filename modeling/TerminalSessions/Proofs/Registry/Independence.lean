import TerminalSessions.Proofs.Registry.Refinement
import TerminalSessions.Proofs.Registry.Updates

/-! Operations on single terminals, in either order. Those that set fields and those that forget terminals do not depend
on one another, unless both set the same field. -/

namespace TerminalSessions

lemma Update.apply_comm {update other : Update} (h : update.field ≠ other.field) (terminal : Terminal) :
    other.apply (update.apply terminal) = update.apply (other.apply terminal) := by
  cases update <;> cases other <;> first | exact absurd rfl h | rfl

namespace Change

variable {first second : Change} {terminals : List Terminal}

def Independent (first second : Change) : Prop :=
  ∀ handle update other, first = .set handle update → second = .set handle other → update.field ≠ other.field

lemma handles_filter (hp : ∀ terminal, first ≠ .put terminal) (hn : (terminals.map (·.handle)).Nodup) :
    (first.apply terminals).map (·.handle) = (terminals.map (·.handle)).filter (!first.ends ·) := by
  cases first with
  | put terminal => exact absurd rfl (hp terminal)
  | drop handle =>
    rw [apply, Terminals.handles_erase, hn.erase_eq_filter]
    apply List.filter_congr
    intro other _
    rw [ends, bne, Bool.beq_eq_decide_eq, decide_eq_decide.mpr eq_comm]
  | dropAll => simp [apply, ends]
  | set handle update => simp [handles_set, ends]

lemma applyAt_comm (hf : ∀ terminal, first ≠ .put terminal) (hs : ∀ terminal, second ≠ .put terminal)
    (hi : first.Independent second) (handle : String) (current : Option Terminal) :
    second.applyAt handle (first.applyAt handle current) = first.applyAt handle (second.applyAt handle current) := by
  cases first with
  | put terminal => exact absurd rfl (hf terminal)
  | drop dropped =>
    cases second with
    | put terminal => exact absurd rfl (hs terminal)
    | drop | dropAll | set =>
      simp only [applyAt]
      split_ifs <;> rfl
  | dropAll =>
    cases second with
    | put terminal => exact absurd rfl (hs terminal)
    | dropAll => rfl
    | drop | set =>
      simp only [applyAt]
      split_ifs <;> rfl
  | set updated update =>
    cases second with
    | put terminal => exact absurd rfl (hs terminal)
    | drop | dropAll =>
      simp only [applyAt]
      split_ifs <;> rfl
    | set renewed other =>
      simp only [applyAt]
      split_ifs with hr hu
      · subst hr hu
        have hd : update.field ≠ other.field := hi _ update other rfl rfl
        simp only [Option.map_map, Function.comp_def, Update.apply_comm hd]
      all_goals rfl

lemma apply_comm (hn : (terminals.map (·.handle)).Nodup) (hf : ∀ terminal, first ≠ .put terminal)
    (hs : ∀ terminal, second ≠ .put terminal) (hi : first.Independent second) :
    second.apply (first.apply terminals) = first.apply (second.apply terminals) := by
  have hfirst := nodup_apply first hn
  have hsecond := nodup_apply second hn
  -- in either order the same handles are left, where they were, and each of them has the same terminal
  apply Terminals.ext_find (nodup_apply second hfirst)
  · rw [handles_filter hs hfirst, handles_filter hf hn, handles_filter hf hsecond, handles_filter hs hn,
      List.filter_filter, List.filter_filter]
    simp only [Bool.and_comm]
  · intro handle
    rw [find_apply second hfirst, find_apply first hn, find_apply first hsecond, find_apply second hn]
    exact applyAt_comm hf hs hi handle _

end Change

def Operation.change? : Operation → Option Change
  | .retitle handle title => some (.set handle (.title title))
  | .notify (.subprocessesChanged handle busy) => some (.set handle (.busy busy))
  | .notify (.workingDirectoryChanged handle directory) => some (.set handle (.workingDirectory directory))
  | .remove handle => some (.drop handle)
  | .close handle => some (.drop handle)
  | .add _ | .restore _ | .terminateAll | .createNew | .createNamed _ | .reconnect _ => none

lemma Operation.change_ne_put {operation : Operation} {change : Change} (h : operation.change? = some change)
    (terminal : Terminal) : change ≠ .put terminal := by
  rintro rfl
  cases operation with
  | notify notification => cases notification <;> cases h
  | retitle | remove | close => cases h
  | add | restore | terminateAll | createNew | createNamed | reconnect => cases h

namespace Registry

variable {registry : Registry}

lemma Reachable.perform (h : registry.Reachable) (operation : Operation) :
    (registry.perform operation).registry.Reachable := by
  obtain ⟨preferences, operations, rfl⟩ := h
  exact ⟨preferences, operations ++ [operation], performAll_snoc _ operations operation⟩

lemma Steady.set_terminals (h : registry.Steady) (handle : String) (update : Update) :
    (registry.set handle update).registry =
      { registry with terminals := (Change.set handle update).apply registry.terminals } := by
  rw [← Registry.set_terminals update, h.set_registry]
  rfl

lemma Steady.perform_change (h : registry.Steady) {operation : Operation} {change : Change}
    (hc : operation.change? = some change) :
    (registry.perform operation).registry = { registry with terminals := change.apply registry.terminals } := by
  cases operation with
  | retitle handle title =>
    cases hc
    exact h.set_terminals handle (.title title)
  | notify notification =>
    cases notification with
    | subprocessesChanged handle busy =>
      cases hc
      exact h.set_terminals handle (.busy busy)
    | workingDirectoryChanged handle directory =>
      cases hc
      exact h.set_terminals handle (.workingDirectory directory)
  | remove handle =>
    cases hc
    rfl
  | close handle =>
    cases hc
    exact close_registry
  | add | restore | terminateAll | createNew | createNamed | reconnect => cases hc

lemma performAll_changes (hr : registry.Reachable) {first second : Operation} {change other : Change}
    (hf : first.change? = some change) (hs : second.change? = some other) :
    (registry.performAll [first, second]).registry =
      { registry with terminals := other.apply (change.apply registry.terminals) } := by
  change ((registry.perform first).registry.perform second).registry = _
  rw [(steady_of_reachable (hr.perform first)).perform_change hs, (steady_of_reachable hr).perform_change hf]

theorem independent_operations_commute (hr : registry.Reachable) {first second : Operation} {change other : Change}
    (hf : first.change? = some change) (hs : second.change? = some other) (hi : change.Independent other) :
    (registry.performAll [first, second]).registry = (registry.performAll [second, first]).registry ∧
      (registry.performAll [first, second]).registry =
        { registry with terminals := other.apply (change.apply registry.terminals) } := by
  have hn := nodup_of_reachable hr
  rw [performAll_changes hr hf hs, performAll_changes hr hs hf,
    Change.apply_comm hn (Operation.change_ne_put hf) (Operation.change_ne_put hs) hi]
  exact ⟨rfl, rfl⟩

theorem independent_operations_commute_fields :
    let registry := ((empty {}).performAll
      [.restore [{ handle := "a", sequence := 7 }, { handle := "b", sequence := 2 }], .createNamed "c"]).registry
    let first := Operation.notify (.workingDirectoryChanged "b" (some "/tmp"))
    let second := Operation.retitle "b" "t"
    let found := (registry.performAll [second, first]).registry
    (registry.performAll [first, second]).registry = found ∧
      found.terminals =
        [{ handle := "a", sequence := 7 },
          { handle := "b", sequence := 2, title := "t", workingDirectory := some "/tmp" }] ∧
      found.highestSequence = 8 ∧ found.pending = ["c"] := by
  intro registry first second found
  have hr : registry.Reachable := ⟨{}, _, rfl⟩
  have hi : (Change.set "b" (.workingDirectory (some "/tmp"))).Independent (.set "b" (.title "t")) := by
    rintro handle update other ⟨⟩ ⟨⟩
    decide
  obtain ⟨hc, hw⟩ := independent_operations_commute hr (rfl : first.change? = some _) (rfl : second.change? = some _) hi
  rw [hc] at hw
  exact ⟨hc, congrArg Registry.terminals hw, congrArg Registry.highestSequence hw, congrArg Registry.pending hw⟩

end Registry

end TerminalSessions
