import TerminalSessions.Proofs.Registry.Terminals
import TerminalSessions.Registry.History

namespace TerminalSessions

inductive Field
  | title
  | busy
  | workingDirectory
  deriving DecidableEq, Repr

inductive Update
  | title (value : String)
  | busy (value : Bool)
  | workingDirectory (value : Option String)
  deriving DecidableEq, Repr

namespace Update

def field : Update → Field
  | title _ => .title
  | busy _ => .busy
  | workingDirectory _ => .workingDirectory

def Holds (terminal : Terminal) : Update → Prop
  | title value => terminal.title = value
  | busy value => terminal.busy = value
  | workingDirectory value => terminal.workingDirectory = value

instance (terminal : Terminal) (update : Update) : Decidable (update.Holds terminal) :=
  match update with
  | title value => inferInstanceAs (Decidable (terminal.title = value))
  | busy value => inferInstanceAs (Decidable (terminal.busy = value))
  | workingDirectory value => inferInstanceAs (Decidable (terminal.workingDirectory = value))

def apply (terminal : Terminal) : Update → Terminal
  | title value => { terminal with title := value }
  | busy value => { terminal with busy := value }
  | workingDirectory value => { terminal with workingDirectory := value }

variable {terminal : Terminal} {update other : Update}

lemma holds_apply (update : Update) (terminal : Terminal) : update.Holds (update.apply terminal) := by
  cases update <;> rfl

lemma apply_of_holds (h : update.Holds terminal) : update.apply terminal = terminal := by
  cases update <;> cases h <;> rfl

lemma holds_apply_other (h : other.field ≠ update.field) :
    update.Holds (other.apply terminal) ↔ update.Holds terminal := by
  cases update <;> cases other <;> first | exact absurd rfl h | rfl

@[simp] lemma apply_handle (update : Update) (terminal : Terminal) :
    (update.apply terminal).handle = terminal.handle := by
  cases update <;> rfl

end Update

inductive Change
  | put (terminal : Terminal)
  | drop (handle : String)
  | dropAll
  | set (handle : String) (update : Update)
  deriving DecidableEq, Repr

namespace Change

def apply (terminals : List Terminal) : Change → List Terminal
  | put terminal => putTerminal terminal terminals
  | drop handle => terminals.eraseP (·.handle = handle)
  | dropAll => []
  | set handle update =>
    match terminals.find? (·.handle = handle) with
    | some terminal => putTerminal (update.apply terminal) terminals
    | none => terminals

def applyAt (handle : String) (current : Option Terminal) : Change → Option Terminal
  | put terminal => if terminal.handle = handle then some terminal else current
  | drop dropped => if dropped = handle then none else current
  | dropAll => none
  | set updated update => if updated = handle then current.map (update.apply ·) else current

variable {terminals : List Terminal} {handle : String}

lemma apply_set_found {terminal : Terminal} (update : Update)
    (h : terminals.find? (·.handle = handle) = some terminal) :
    (set handle update).apply terminals = putTerminal (update.apply terminal) terminals := by
  simp only [apply, h]

lemma apply_set_none (update : Update) (h : terminals.find? (·.handle = handle) = none) :
    (set handle update).apply terminals = terminals := by
  simp only [apply, h]

lemma apply_set_between {terminal : Terminal} {before behind : List Terminal} (update : Update)
    (h : terminal.handle ∉ before.map (·.handle)) :
    (set terminal.handle update).apply (before ++ terminal :: behind) = before ++ update.apply terminal :: behind := by
  rw [apply_set_found update (Terminals.find_between h), Terminals.put_between h (update.apply_handle terminal)]

lemma handles_set (update : Update) :
    ((set handle update).apply terminals).map (·.handle) = terminals.map (·.handle) := by
  cases hf : terminals.find? (·.handle = handle) with
  | none => rw [apply_set_none update hf]
  | some terminal =>
    have hm : terminal ∈ terminals := List.mem_of_find?_eq_some hf
    rw [apply_set_found update hf, Terminals.handles_put, Update.apply_handle,
      if_pos (List.mem_map_of_mem hm)]

lemma nodup_apply (change : Change) (h : (terminals.map (·.handle)).Nodup) :
    ((change.apply terminals).map (·.handle)).Nodup := by
  cases change with
  | put terminal => exact Terminals.nodup_put terminal terminals h
  | drop handle =>
    rw [apply, Terminals.handles_erase]
    exact h.erase handle
  | dropAll => exact List.nodup_nil
  | set handle update => rwa [handles_set]

lemma nodup_foldl (changes : List Change) (h : (terminals.map (·.handle)).Nodup) :
    ((changes.foldl apply terminals).map (·.handle)).Nodup := by
  induction changes generalizing terminals with
  | nil => exact h
  | cons change changes ih => exact ih (nodup_apply change h)

lemma handles_apply {change : Change} (h : handle ∈ (change.apply terminals).map (·.handle)) :
    handle ∈ terminals.map (·.handle) ∨ ∃ terminal, change = .put terminal ∧ terminal.handle = handle := by
  cases change with
  | put terminal =>
    rw [apply, Terminals.handles_put] at h
    split at h
    · exact .inl h
    · exact (List.mem_append.mp h).imp_right fun h => ⟨terminal, rfl, (List.mem_singleton.mp h).symm⟩
  | drop dropped =>
    rw [apply, Terminals.handles_erase] at h
    exact .inl (List.mem_of_mem_erase h)
  | dropAll => cases h
  | set updated update => exact .inl (by rwa [handles_set] at h)

lemma handles_foldl {changes : List Change} (h : handle ∈ (changes.foldl apply terminals).map (·.handle)) :
    handle ∈ terminals.map (·.handle) ∨ ∃ terminal, .put terminal ∈ changes ∧ terminal.handle = handle := by
  induction changes generalizing terminals with
  | nil => exact .inl h
  | cons change changes ih =>
    rcases ih h with h | ⟨terminal, hm, he⟩
    · exact (handles_apply h).imp_right fun ⟨terminal, hc, he⟩ => ⟨terminal, hc ▸ List.mem_cons_self, he⟩
    · exact .inr ⟨terminal, List.mem_cons_of_mem _ hm, he⟩

lemma find_apply (change : Change) (h : (terminals.map (·.handle)).Nodup) :
    (change.apply terminals).find? (·.handle = handle) =
      change.applyAt handle (terminals.find? (·.handle = handle)) := by
  cases change with
  | put terminal => exact Terminals.find_put terminal terminals handle
  | drop dropped =>
    by_cases hd : dropped = handle
    · subst hd
      simp only [apply, applyAt, if_true, Terminals.find_erase_self _ h]
    · simp only [apply, applyAt, if_neg hd, Terminals.find_erase_other _ hd]
  | dropAll => rfl
  | set updated update =>
    cases hf : terminals.find? (·.handle = updated) with
    | none =>
      rw [apply_set_none update hf, applyAt]
      by_cases hu : updated = handle
      · subst hu
        rw [if_pos rfl, hf, Option.map_none]
      · rw [if_neg hu]
    | some terminal =>
      have ht : (update.apply terminal).handle = updated := by simp [Terminals.handle_of_find hf]
      rw [apply_set_found update hf, Terminals.find_put, applyAt, ht]
      by_cases hu : updated = handle
      · subst hu
        rw [if_pos rfl, if_pos rfl, hf, Option.map_some]
      · rw [if_neg hu, if_neg hu]

end Change

def Operation.changes (defaults : SessionDefaults) : Operation → List Change
  | .add terminal => [.put terminal]
  | .restore saved => saved.map fun saved =>
    .put { toSavedTerminal := saved, columns := defaults.columns, rows := defaults.rows }
  | .remove handle => [.drop handle]
  | .close handle => [.drop handle]
  | .terminateAll => [.dropAll]
  | .retitle handle title => [.set handle (.title title)]
  | .notify (.subprocessesChanged handle busy) => [.set handle (.busy busy)]
  | .notify (.workingDirectoryChanged handle directory) =>
    [.set handle (.workingDirectory directory)]
  | .createNew => []
  | .createNamed _ => []
  | .reconnect _ => []

namespace Registry

variable (registry : Registry) (handle : String)

def set (update : Update) : Step Bool :=
  registry.change handle (¬ update.Holds ·) update.apply

lemma retitle_eq_set (title : String) :
    registry.retitle handle title = registry.set handle (.title title) := rfl

lemma setBusy_eq_set (busy : Bool) :
    registry.setBusy handle busy = registry.set handle (.busy busy) := rfl

lemma setWorkingDirectory_eq_set (directory : Option String) :
    registry.setWorkingDirectory handle directory =
      registry.set handle (.workingDirectory directory) := rfl

variable {registry handle} {terminal : Terminal}

lemma mem_handles_iff : handle ∈ registry.handles ↔ ∃ terminal, registry.find? handle = some terminal :=
  (Terminals.find_isSome _ _).symm.trans Option.isSome_iff_exists

lemma contains_iff : registry.contains handle ↔ handle ∈ registry.handles :=
  Terminals.find_isSome _ _

lemma find_eq_none : registry.find? handle = none ↔ handle ∉ registry.handles :=
  Terminals.find_eq_none _ _

lemma terminals_store (h : terminal.handle ∉ registry.handles) :
    (registry.store terminal).terminals = registry.terminals ++ [terminal] :=
  Terminals.put_unused terminal registry.terminals h

lemma handles_store (h : terminal.handle ∉ registry.handles) :
    (registry.store terminal).handles = registry.handles ++ [terminal.handle] := by
  rw [handles, terminals_store h, List.map_append]
  rfl

lemma set_unknown (update : Update) (h : registry.find? handle = none) :
    registry.set handle update = registry.unchanged false := by
  simp only [set, change, h]

lemma set_same {update : Update} (h : registry.find? handle = some terminal)
    (hu : update.Holds terminal) : registry.set handle update = registry.unchanged false := by
  simp [set, change, h, hu]

lemma set_other {update : Update} (h : registry.find? handle = some terminal)
    (hu : ¬ update.Holds terminal) :
    registry.set handle update = (registry.add (update.apply terminal)).map fun _ => true := by
  simp [set, change, h, hu]

lemma set_cases (registry : Registry) (handle : String) (update : Update) :
    registry.set handle update = registry.unchanged false ∨
      ∃ terminal, registry.set handle update = (registry.add terminal).map fun _ => true := by
  cases hf : registry.find? handle with
  | none => exact .inl (set_unknown update hf)
  | some terminal =>
    by_cases hu : update.Holds terminal
    · exact .inl (set_same hf hu)
    · exact .inr ⟨_, set_other hf hu⟩

lemma set_terminals (update : Update) :
    (registry.set handle update).registry.terminals =
      (Change.set handle update).apply registry.terminals := by
  cases hf : registry.find? handle with
  | none =>
    rw [set_unknown update hf, Change.apply_set_none update hf]
    rfl
  | some terminal =>
    rw [Change.apply_set_found update hf]
    by_cases hu : update.Holds terminal
    · have hh : terminal.handle = handle := Terminals.handle_of_find hf
      rw [set_same hf hu, Update.apply_of_holds hu, Terminals.put_found _ _ (by rw [hh]; exact hf)]
      rfl
    · rw [set_other hf hu]
      rfl

lemma set_preferences (update : Update) :
    (registry.set handle update).registry.preferences = registry.preferences := by
  rcases registry.set_cases handle update with h | ⟨terminal, h⟩ <;> rw [h] <;> rfl

lemma restore_terminals (registry : Registry) (saved : List SavedTerminal) :
    (registry.restore saved).registry.terminals =
        (saved.map fun saved => Change.put (saved.restored registry.preferences.defaults)).foldl
          Change.apply registry.terminals ∧
      (registry.restore saved).registry.preferences = registry.preferences := by
  induction saved generalizing registry with
  | nil => exact ⟨rfl, rfl⟩
  | cons first others ih =>
    exact ih (registry.store (first.restored registry.preferences.defaults))

lemma erase_unknown (h : handle ∉ registry.handles) : registry.erase handle = registry := by
  have hn : ∀ terminal ∈ registry.terminals, ¬ decide (terminal.handle = handle) = true := by
    simpa [handles] using h
  rw [erase, List.eraseP_of_forall_not hn]

lemma reapAll_eq (registry : Registry) (handles : List String) :
    registry.reapAll handles = ⟨(), registry, handles.map (.reap registry)⟩ := by
  induction handles with
  | nil => rfl
  | cons handle handles ih =>
    rw [reapAll, Step.andThen]
    simp only [reap, ih]
    rfl

lemma terminateAll_eq (registry : Registry) : registry.terminateAll =
    { registry with terminals := [], pending := [] }.announce () (registry.handles.map (.reap registry)) := by
  rw [terminateAll, reapAll_eq]
  rfl

lemma close_registry : (registry.close handle).registry = registry.erase handle := by
  rw [close]
  split_ifs with hc
  · rfl
  · rw [erase_unknown (mt contains_iff.mpr hc)]
    rfl

lemma perform_terminals (registry : Registry) (operation : Operation) :
    (registry.perform operation).registry.terminals =
      (operation.changes registry.preferences.defaults).foldl Change.apply registry.terminals := by
  cases operation with
  | add terminal => rfl
  | restore saved => exact (restore_terminals registry saved).1
  | remove handle => rfl
  | close handle => exact congrArg Registry.terminals close_registry
  | terminateAll =>
    change registry.terminateAll.registry.terminals = _
    rw [terminateAll_eq]
    rfl
  | retitle handle title =>
    change (registry.retitle handle title).registry.terminals = _
    rw [retitle_eq_set]
    exact set_terminals (.title title)
  | notify notification =>
    cases notification with
    | subprocessesChanged handle busy =>
      change (registry.setBusy handle busy).registry.terminals = _
      rw [setBusy_eq_set]
      exact set_terminals (.busy busy)
    | workingDirectoryChanged handle directory =>
      change (registry.setWorkingDirectory handle directory).registry.terminals = _
      rw [setWorkingDirectory_eq_set]
      exact set_terminals (.workingDirectory directory)
  | createNew => rfl
  | createNamed caption =>
    simp only [perform, createNamed]
    split_ifs <;> rfl
  | reconnect handle =>
    simp only [perform, reconnect]
    split <;> rfl

lemma perform_preferences (registry : Registry) (operation : Operation) :
    (registry.perform operation).registry.preferences = registry.preferences := by
  cases operation with
  | restore saved => exact (restore_terminals registry saved).2
  | close handle =>
    change (registry.close handle).registry.preferences = _
    rw [close_registry]
    rfl
  | terminateAll =>
    change registry.terminateAll.registry.preferences = _
    rw [terminateAll_eq]
    rfl
  | retitle handle title => exact set_preferences (.title title)
  | notify notification =>
    cases notification with
    | subprocessesChanged handle busy => exact set_preferences (.busy busy)
    | workingDirectoryChanged handle directory => exact set_preferences (.workingDirectory directory)
  | createNamed caption =>
    simp only [perform, createNamed]
    split_ifs <;> rfl
  | reconnect handle =>
    simp only [perform, reconnect]
    split <;> rfl
  | add | remove | createNew => rfl

lemma perform_nodup (registry : Registry) (operation : Operation) (h : registry.handles.Nodup) :
    (registry.perform operation).registry.handles.Nodup := by
  rw [handles, perform_terminals]
  exact Change.nodup_foldl _ h

lemma performAll_nodup (registry : Registry) (operations : List Operation) (h : registry.handles.Nodup) :
    (registry.performAll operations).registry.handles.Nodup := by
  induction operations generalizing registry with
  | nil => exact h
  | cons operation operations ih => exact ih _ (registry.perform_nodup operation h)

lemma nodup_of_reachable (h : registry.Reachable) : registry.handles.Nodup := by
  obtain ⟨preferences, operations, rfl⟩ := h
  exact performAll_nodup _ operations List.nodup_nil

lemma performAll_terminals (registry : Registry) (operations : List Operation) :
    (registry.performAll operations).registry.terminals =
      (operations.flatMap (·.changes registry.preferences.defaults)).foldl Change.apply
        registry.terminals := by
  induction operations generalizing registry with
  | nil => rfl
  | cons operation operations ih =>
    simp only [performAll, List.flatMap_cons, List.foldl_append, ih, perform_terminals,
      perform_preferences]

end Registry

end TerminalSessions
