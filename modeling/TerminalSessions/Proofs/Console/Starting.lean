import TerminalSessions.Proofs.Console.Events
import TerminalSessions.Proofs.Registry.Reservations

namespace TerminalSessions

def BackendEvent.starts (events : List BackendEvent) : List Terminal :=
  events.filterMap fun
    | started terminal => some terminal
    | reaped _ => none

lemma BackendEvent.starts_snoc (events : List BackendEvent) (terminal : Terminal) :
    starts (events ++ [.started terminal]) = starts events ++ [terminal] := by
  simp [starts]

namespace Backend

def starting (backend : Backend) : List Terminal :=
  BackendEvent.starts backend.waiting

variable {backend : Backend}

lemma starting_quiet {effects : List Effect} (h : Effect.requests effects = []) :
    (backend.receiveAll effects).starting = backend.starting := by
  induction effects generalizing backend with
  | nil => rfl
  | cons effect effects ih =>
    cases effect with
    | busy value => exact ih h
    | start request => cases h
    | reap registry handle =>
      have hs : (backend.send (.reaped handle)).starting = backend.starting := by
        rw [send]
        split <;> simp [starting, BackendEvent.starts]
      exact (ih h).trans hs

lemma start_new (h : backend.listening = true) {request : SessionRequest} (hr : request.handle = none) :
    backend.start request =
      { backend with
        opened := backend.opened + 1
        waiting := backend.waiting ++ [.started (request.terminal (backend.supply backend.opened))] } := by
  simp [start, send, hr, h]

lemma starting_start (h : backend.listening = true) (request : SessionRequest) :
    (backend.start request).starting =
      backend.starting ++ [request.terminal (request.handle.getD (backend.supply backend.opened))] := by
  simp [starting, BackendEvent.starts, start_waiting h]

end Backend

namespace Console

variable {console : Console}

lemma line_captions (console : Console) (times : EntryTimes) (text : String) :
    (console.after (.line times text)).registry.captions.Sublist console.registry.captions := by
  rw [Registry.captions, line_terminals]
  cases hc : (Move.line times text).change? with
  | none => exact List.Sublist.refl _
  | some change => exact Change.captions_apply (fun terminal ht => Move.change_ne_put _ terminal (ht ▸ hc)) _

lemma line_starting (h : console.backend.listening = true) (times : EntryTimes) (text : String) :
    (console.after (.line times text)).backend.starting = console.backend.starting ++
      (console.request? (.line times text)).toList.map fun request =>
        request.terminal (request.handle.getD (console.backend.supply console.backend.opened)) := by
  cases ho : (Move.line times text).operation? with
  | none => simp [after_no_operation ho, request?, ho]
  | some operation =>
    rw [after_operation ho, request?, ho, Option.bind_some, carryOut, follow]
    cases hr : operation.request? console.registry with
    | none =>
      have hq := console.registry.perform_requests operation
      rw [hr] at hq
      simpa using Backend.starting_quiet hq
    | some request =>
      obtain ⟨busy, he⟩ := Registry.perform_effects hr
      rw [he]
      exact Backend.starting_start h request

lemma requested_waiting (h : console.backend.listening = true) {times : EntryTimes} {text : String}
    {request : SessionRequest} (hr : console.request? (.line times text) = some request) :
    (console.after (.line times text)).backend.waiting = console.backend.waiting ++
      [.started (request.terminal (request.handle.getD (console.backend.supply console.backend.opened)))] := by
  obtain ⟨operation, ho, hq⟩ := Option.bind_eq_some_iff.mp hr
  obtain ⟨busy, he⟩ := Registry.perform_effects hq
  rw [after_operation ho, carryOut, follow, he]
  exact Backend.start_waiting h request

lemma delivery_cases (console : Console) :
    ((console.after .delivery).registry = console.registry ∧
        (console.after .delivery).backend.starting = console.backend.starting) ∨
      ∃ terminal, (console.after .delivery).registry = console.registry.store terminal ∧
        console.backend.starting = terminal :: (console.after .delivery).backend.starting := by
  cases hw : console.backend.waiting with
  | nil =>
    rw [after_delivery_nil hw]
    exact .inl ⟨rfl, rfl⟩
  | cons event events =>
    have hs : console.backend.starting = BackendEvent.starts (event :: events) := congrArg _ hw
    rw [after_delivery_cons hw, hs]
    cases event with
    | started terminal => exact .inr ⟨terminal, rfl, rfl⟩
    | reaped handle => exact .inl ⟨rfl, rfl⟩

end Console

end TerminalSessions
