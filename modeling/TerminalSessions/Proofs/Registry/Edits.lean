import TerminalSessions.Proofs.Registry.Changes

namespace TerminalSessions

inductive Edit
  | store (terminal : Terminal)
  | erase (handle : String)
  | clear
  | issue (caption : Option String)
  deriving DecidableEq, Repr

namespace Edit

def apply (registry : Registry) : Edit → Registry
  | store terminal => registry.store terminal
  | erase handle => registry.erase handle
  | clear => { registry with terminals := [], pending := [] }
  | issue caption =>
    { registry with
      highestSequence := registry.nextSequence
      pending := caption.toList ++ registry.pending }

end Edit

def Registry.rewrites (registry : Registry) (handle : String) (update : Update) : List Edit :=
  match registry.find? handle with
  | some terminal => if update.Holds terminal then [] else [.store (update.apply terminal)]
  | none => []

def Operation.edits (registry : Registry) : Operation → List Edit
  | .add terminal => [.store terminal]
  | .restore saved => saved.map fun saved => .store (saved.restored registry.preferences.defaults)
  | .remove handle => [.erase handle]
  | .close handle => [.erase handle]
  | .terminateAll => [.clear]
  | .retitle handle title => registry.rewrites handle (.title title)
  | .notify (.subprocessesChanged handle busy) => registry.rewrites handle (.busy busy)
  | .notify (.workingDirectoryChanged handle directory) =>
    registry.rewrites handle (.workingDirectory directory)
  | .createNew => [.issue none]
  | .createNamed caption =>
    if caption.isEmpty then [.issue none]
    else if registry.isCaptionFree caption ∧ caption ∉ registry.pending then [.issue (some caption)]
    else []
  | .reconnect _ => []

namespace Registry

variable {registry : Registry} {handle : String}

lemma rewrites_cases (registry : Registry) (handle : String) (update : Update) :
    registry.rewrites handle update = [] ∧ registry.set handle update = registry.unchanged false ∨
      ∃ known, registry.find? handle = some known ∧
        registry.rewrites handle update = [.store (update.apply known)] ∧
          registry.set handle update = (registry.add (update.apply known)).map fun _ => true := by
  cases hf : registry.find? handle with
  | none => exact .inl ⟨by rw [rewrites, hf], set_unknown update hf⟩
  | some known =>
    by_cases hu : update.Holds known
    · exact .inl ⟨by simp [rewrites, hf, hu], set_same hf hu⟩
    · exact .inr ⟨known, rfl, by simp [rewrites, hf, hu], set_other hf hu⟩

lemma set_edits (update : Update) : (registry.set handle update).registry =
    (registry.rewrites handle update).foldl Edit.apply registry := by
  rcases registry.rewrites_cases handle update with ⟨hr, hs⟩ | ⟨known, -, hr, hs⟩ <;> rw [hr, hs] <;> rfl

lemma restore_edits (registry : Registry) (saved : List SavedTerminal) :
    (registry.restore saved).registry =
      (saved.map fun saved => Edit.store (saved.restored registry.preferences.defaults)).foldl
        Edit.apply registry := by
  induction saved generalizing registry with
  | nil => rfl
  | cons first others ih => exact ih (registry.store (first.restored registry.preferences.defaults))

lemma perform_edits (registry : Registry) (operation : Operation) :
    (registry.perform operation).registry = (operation.edits registry).foldl Edit.apply registry := by
  cases operation with
  | restore saved => exact restore_edits registry saved
  | close handle => exact close_registry
  | terminateAll => exact congrArg Step.registry registry.terminateAll_eq
  | retitle handle title => exact set_edits (.title title)
  | notify notification =>
    cases notification with
    | subprocessesChanged handle busy => exact set_edits (.busy busy)
    | workingDirectoryChanged handle directory => exact set_edits (.workingDirectory directory)
  | createNamed caption =>
    simp only [perform, createNamed, Operation.edits]
    split_ifs <;> rfl
  | reconnect handle =>
    simp only [perform, reconnect]
    split <;> rfl
  | add | remove | createNew => rfl

lemma edits_of_issue {operation : Operation} {caption : Option String}
    (h : .issue caption ∈ operation.edits registry) :
    operation.edits registry = [.issue caption] ∧
      (registry.perform operation).answer = .sequence (some registry.nextSequence) ∧
      ∀ named, caption = some named → operation = .createNamed named ∧ named ≠ "" := by
  have hr : ∀ handle update, .issue caption ∉ registry.rewrites handle update := by
    intro handle update hm
    rcases registry.rewrites_cases handle update with ⟨he, -⟩ | ⟨known, -, he, -⟩ <;> simp [he] at hm
  cases operation with
  | createNew =>
    obtain rfl : caption = none := by simpa [Operation.edits] using h
    exact ⟨rfl, rfl, fun _ hn => absurd hn (Option.some_ne_none _).symm⟩
  | createNamed asked =>
    simp only [Operation.edits, perform, createNamed] at h ⊢
    split_ifs at h ⊢ with he hf
    · obtain rfl : caption = none := by simpa using h
      exact ⟨rfl, rfl, fun _ hn => absurd hn (Option.some_ne_none _).symm⟩
    · obtain rfl : caption = some asked := by simpa using h
      refine ⟨rfl, rfl, fun named hn => ?_⟩
      obtain rfl := Option.some.inj hn
      exact ⟨rfl, by simpa using he⟩
    · simp at h
  | retitle handle title => exact absurd h (hr _ _)
  | notify notification => cases notification <;> exact absurd h (hr _ _)
  | add | restore | remove | close | terminateAll | reconnect => simp [Operation.edits] at h

lemma issue_of_answer {operation : Operation} {sequence : UInt32}
    (h : (registry.perform operation).answer = .sequence (some sequence)) :
    ∃ caption, .issue caption ∈ operation.edits registry := by
  cases operation with
  | createNew => exact ⟨none, List.mem_singleton_self _⟩
  | createNamed named =>
    simp only [Operation.edits, perform, createNamed] at h ⊢
    split_ifs at h ⊢
    · exact ⟨none, List.mem_singleton_self _⟩
    · exact ⟨some named, List.mem_singleton_self _⟩
    · cases h
  | add | restore | remove | close | terminateAll | retitle | notify | reconnect => cases h

def trace (registry : Registry) : List Operation → List (Registry × Operation)
  | [] => []
  | operation :: operations =>
    (registry, operation) :: (registry.perform operation).registry.trace operations

lemma performAll_snoc (registry : Registry) (operations : List Operation) (operation : Operation) :
    (registry.performAll (operations ++ [operation])).registry =
      ((registry.performAll operations).registry.perform operation).registry := by
  induction operations generalizing registry with
  | nil => rfl
  | cons first operations ih => exact ih (registry.perform first).registry

lemma trace_snoc (registry : Registry) (operations : List Operation) (operation : Operation) :
    registry.trace (operations ++ [operation]) =
      registry.trace operations ++ [((registry.performAll operations).registry, operation)] := by
  induction operations generalizing registry with
  | nil => rfl
  | cons first operations ih =>
    exact congrArg ((registry, first) :: ·) (ih (registry.perform first).registry)

lemma trace_split {operations : List Operation} {earlier later : List (Registry × Operation)}
    {step : Registry × Operation} (h : registry.trace operations = earlier ++ step :: later) :
    ∃ performed, registry.trace performed = earlier ∧ (registry.performAll performed).registry = step.1 := by
  induction earlier generalizing registry operations with
  | nil =>
    cases operations with
    | nil => cases h
    | cons operation operations =>
      obtain ⟨rfl, -⟩ := List.cons.inj h
      exact ⟨[], rfl, rfl⟩
  | cons first earlier ih =>
    cases operations with
    | nil => cases h
    | cons operation operations =>
      obtain ⟨rfl, ht⟩ := List.cons.inj h
      obtain ⟨performed, hp, hr⟩ := ih ht
      exact ⟨operation :: performed, congrArg ((registry, operation) :: ·) hp, hr⟩

end Registry

end TerminalSessions
