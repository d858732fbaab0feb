import TerminalSessions.Proofs.Registry.Changes

namespace TerminalSessions

namespace Effect

lemma requests_append (first later : List Effect) :
    requests (first ++ later) = requests first ++ requests later := by
  simp [requests]

lemma requests_reap (registry : Registry) (handles : List String) :
    requests (handles.map (.reap registry)) = [] := by
  induction handles with
  | nil => rfl
  | cons handle handles ih => exact ih

end Effect

def Operation.request? (registry : Registry) : Operation → Option SessionRequest
  | .createNew => some (registry.freshRequest registry.nextSequence none)
  | .createNamed caption =>
    if caption.isEmpty then some (registry.freshRequest registry.nextSequence none)
    else if registry.isCaptionFree caption ∧ caption ∉ registry.pending then
      some (registry.freshRequest registry.nextSequence (some caption))
    else none
  | .reconnect handle =>
    (registry.find? handle).map (.resume · registry.preferences.blinkingCursor)
  | _ => none

lemma Operation.request_cases {registry : Registry} {operation : Operation} {request : SessionRequest}
    (h : operation.request? registry = some request) :
    request.handle = none ∨ ∃ terminal blinking, registry.find? terminal.handle = some terminal ∧
      request = .resume terminal blinking := by
  cases operation with
  | createNew => exact .inl (by rw [← Option.some.inj h]; rfl)
  | createNamed caption =>
    simp only [request?] at h
    split_ifs at h <;> exact .inl (by rw [← Option.some.inj h]; rfl)
  | reconnect handle =>
    obtain ⟨terminal, hf, rfl⟩ := Option.map_eq_some_iff.mp h
    obtain rfl : terminal.handle = handle := Terminals.handle_of_find hf
    exact .inr ⟨terminal, _, hf, rfl⟩
  | add | restore | remove | close | terminateAll | retitle | notify => cases h

namespace Registry

variable {registry : Registry}

lemma restore_requests (saved : List SavedTerminal) :
    Effect.requests (registry.restore saved).effects = [] := by
  induction saved generalizing registry with
  | nil => rfl
  | cons first others ih =>
    simp only [restore, Step.andThen, Effect.requests_append, ih]
    rfl

lemma set_requests (handle : String) (update : Update) :
    Effect.requests (registry.set handle update).effects = [] := by
  rcases registry.set_cases handle update with h | ⟨terminal, h⟩ <;> rw [h] <;> rfl

lemma perform_requests (registry : Registry) (operation : Operation) :
    Effect.requests (registry.perform operation).effects = (operation.request? registry).toList := by
  cases operation with
  | restore saved => exact restore_requests saved
  | close handle =>
    simp only [perform, close]
    split_ifs <;> rfl
  | terminateAll =>
    rw [perform, terminateAll_eq, Step.map, announce, Effect.requests_append, Effect.requests_reap]
    rfl
  | retitle handle title => exact set_requests handle (.title title)
  | notify notification =>
    cases notification with
    | subprocessesChanged handle busy =>
      have hr : Effect.requests (registry.perform (.notify (.subprocessesChanged handle busy))).effects =
          Effect.requests (registry.set handle (.busy busy)).effects ++ [] := Effect.requests_append _ _
      rw [hr, set_requests]
      rfl
    | workingDirectoryChanged handle directory => exact set_requests handle (.workingDirectory directory)
  | createNamed caption =>
    simp only [perform, createNamed, Operation.request?]
    split_ifs <;> rfl
  | reconnect handle =>
    simp only [perform, reconnect, Operation.request?]
    cases registry.find? handle <;> rfl
  | add | remove | createNew => rfl

lemma perform_effects {operation : Operation} {request : SessionRequest}
    (h : operation.request? registry = some request) :
    ∃ busy, (registry.perform operation).effects = [.start request, .busy busy] := by
  cases operation with
  | createNew => exact ⟨_, by rw [← Option.some.inj h]; rfl⟩
  | createNamed caption =>
    simp only [Operation.request?] at h
    simp only [perform, createNamed]
    split_ifs at h ⊢ <;> exact ⟨_, by rw [← Option.some.inj h]; rfl⟩
  | reconnect handle =>
    obtain ⟨terminal, hf, rfl⟩ := Option.map_eq_some_iff.mp h
    simp only [perform, reconnect, hf]
    exact ⟨_, rfl⟩
  | add | restore | remove | close | terminateAll | retitle | notify => cases h

end Registry

end TerminalSessions
