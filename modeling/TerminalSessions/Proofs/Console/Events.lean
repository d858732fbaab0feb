import Mathlib.Order.Nat
import TerminalSessions.Proofs.Console.Schedule
import TerminalSessions.Proofs.Registry.Requests

namespace TerminalSessions

namespace Backend

variable (backend : Backend)

@[simp] lemma send_supply (event : BackendEvent) : (backend.send event).supply = backend.supply := by
  rw [send]
  split <;> rfl

@[simp] lemma send_opened (event : BackendEvent) : (backend.send event).opened = backend.opened := by
  rw [send]
  split <;> rfl

@[simp] lemma send_listening (event : BackendEvent) :
    (backend.send event).listening = backend.listening := by
  rw [send]
  split <;> rfl

lemma waiting_send (event : BackendEvent) :
    ∃ sent, (backend.send event).waiting = backend.waiting ++ sent ∧ ∀ other ∈ sent, other = event := by
  rw [send]
  split
  · exact ⟨[event], rfl, fun _ h => List.mem_singleton.mp h⟩
  · exact ⟨[], (List.append_nil _).symm, fun _ h => absurd h List.not_mem_nil⟩

def Answers (before after : Backend) (request : SessionRequest) (terminal : Terminal) : Prop :=
  (∃ handle, request.handle = some handle ∧ terminal = request.terminal handle) ∨
    (request.handle = none ∧ ∃ n, before.opened ≤ n ∧ n < after.opened ∧
      terminal = request.terminal (before.supply n))

structure Extends (before after : Backend) (requests : List SessionRequest) : Prop where
  supply : after.supply = before.supply
  listening : after.listening = before.listening
  opened : before.opened ≤ after.opened
  sent : ∃ sent, after.waiting = before.waiting ++ sent ∧ ∀ terminal, .started terminal ∈ sent →
    ∃ request ∈ requests, Answers before after request terminal

variable {backend} {first second third : Backend} {requests others : List SessionRequest}

lemma Extends.refl (backend : Backend) : Extends backend backend [] :=
  ⟨rfl, rfl, le_rfl, [], (List.append_nil _).symm, fun _ h => absurd h List.not_mem_nil⟩

lemma Extends.trans (h : Extends first second requests) (h' : Extends second third others) :
    Extends first third (requests ++ others) := by
  obtain ⟨sent, hw, hs⟩ := h.sent
  obtain ⟨sent', hw', hs'⟩ := h'.sent
  refine ⟨h'.supply.trans h.supply, h'.listening.trans h.listening, h.opened.trans h'.opened,
    sent ++ sent', ?_, ?_⟩
  · rw [hw', hw, List.append_assoc]
  · intro terminal hm
    rcases List.mem_append.mp hm with hm | hm
    · obtain ⟨request, hr, ha⟩ := hs terminal hm
      refine ⟨request, List.mem_append_left _ hr, ha.imp_right ?_⟩
      rintro ⟨hn, n, hl, hu, ht⟩
      exact ⟨hn, n, hl, hu.trans_le h'.opened, ht⟩
    · obtain ⟨request, hr, ha⟩ := hs' terminal hm
      refine ⟨request, List.mem_append_right _ hr, ha.imp_right ?_⟩
      rintro ⟨hn, n, hl, hu, ht⟩
      exact ⟨hn, n, h.opened.trans hl, hu, h.supply ▸ ht⟩

lemma extends_start (request : SessionRequest) : Extends backend (backend.start request) [request] := by
  cases hr : request.handle with
  | some handle =>
    simp only [start, hr]
    obtain ⟨sent, hw, hs⟩ := backend.waiting_send (.started (request.terminal handle))
    refine ⟨by simp, by simp, by simp, sent, hw, fun terminal hm => ?_⟩
    exact ⟨request, List.mem_singleton_self _, .inl ⟨handle, hr, BackendEvent.started.inj (hs _ hm)⟩⟩
  | none =>
    simp only [start, hr]
    obtain ⟨sent, hw, hs⟩ := waiting_send { backend with opened := backend.opened + 1 }
      (.started (request.terminal (backend.supply backend.opened)))
    refine ⟨by simp, by simp, by simp, sent, hw, fun terminal hm => ?_⟩
    refine ⟨request, List.mem_singleton_self _, .inr ⟨hr, backend.opened, le_rfl, by simp, ?_⟩⟩
    exact BackendEvent.started.inj (hs _ hm)

lemma start_waiting (h : backend.listening = true) (request : SessionRequest) :
    (backend.start request).waiting = backend.waiting ++
      [.started (request.terminal (request.handle.getD (backend.supply backend.opened)))] := by
  cases hh : request.handle <;> simp [start, send, hh, h]

lemma extends_reap (registry : Registry) (handle : String) :
    Extends backend (backend.receive (.reap registry handle)) [] := by
  obtain ⟨sent, hw, hs⟩ := backend.waiting_send (.reaped handle)
  refine ⟨send_supply _ _, send_listening _ _, (send_opened _ _).ge, sent, hw, fun terminal hm => ?_⟩
  cases hs _ hm

lemma extends_receiveAll (effects : List Effect) :
    Extends backend (backend.receiveAll effects) (Effect.requests effects) := by
  induction effects generalizing backend with
  | nil => exact .refl backend
  | cons effect effects ih =>
    cases effect with
    | busy value => exact ih
    | start request => exact (extends_start request).trans ih
    | reap registry handle => exact (extends_reap registry handle).trans ih

lemma reaped_waiting (h : backend.listening = true) {effects : List Effect} (hr : Effect.requests effects = []) :
    (backend.receiveAll effects).waiting = backend.waiting ++ (Effect.reaped effects).map .reaped := by
  induction effects generalizing backend with
  | nil => exact (List.append_nil _).symm
  | cons effect effects ih =>
    cases effect with
    | busy value => exact ih h hr
    | start request => cases hr
    | reap registry handle =>
      have hw : (backend.send (.reaped handle)).waiting = backend.waiting ++ [.reaped handle] := by simp [send, h]
      have hl : (backend.send (.reaped handle)).listening = true := (backend.send_listening _).trans h
      have hs := ih hl hr
      rw [hw, List.append_assoc] at hs
      exact hs

end Backend

namespace Console

def request? (console : Console) (move : Move) : Option SessionRequest :=
  move.operation?.bind (·.request? console.registry)

variable (console : Console) (times : EntryTimes) (text : String)

lemma line_extends : Backend.Extends console.backend (console.after (.line times text)).backend
    (console.request? (.line times text)).toList := by
  rw [request?]
  cases ho : (Move.line times text).operation? with
  | none =>
    rw [after_no_operation ho]
    exact .refl _
  | some operation =>
    rw [after_operation ho, Option.bind_some, ← Registry.perform_requests]
    exact Backend.extends_receiveAll _

lemma line_sent : ∃ sent,
    (console.after (.line times text)).backend.waiting = console.backend.waiting ++ sent ∧
    ∀ terminal, .started terminal ∈ sent →
      (∃ known blinking, console.registry.find? terminal.handle = some known ∧
        terminal = (SessionRequest.resume known blinking).terminal terminal.handle) ∨
      ∃ n, console.backend.opened ≤ n ∧ n < (console.after (.line times text)).backend.opened ∧
        terminal.handle = console.backend.supply n := by
  obtain ⟨sent, hw, hs⟩ := (console.line_extends times text).sent
  refine ⟨sent, hw, fun terminal hm => ?_⟩
  rcases hs terminal hm with ⟨request, hq, ⟨handle, hh, rfl⟩ | ⟨_, n, hl, hu, rfl⟩⟩
  · obtain ⟨operation, _, ho⟩ := Option.bind_eq_some_iff.mp (Option.mem_toList.mp hq)
    rcases Operation.request_cases ho with hn | ⟨known, blinking, hf, rfl⟩
    · exact absurd (hh.symm.trans hn) (by simp)
    · obtain rfl : known.handle = handle := Option.some.inj hh
      exact .inl ⟨known, blinking, hf, rfl⟩
  · exact .inr ⟨n, hl, hu, rfl⟩

lemma change_sent {change : Change} (h : (Move.line times text).change? = some change) :
    ∃ sent, (console.after (.line times text)).backend.waiting = console.backend.waiting ++ sent ∧
      ∀ terminal, .started terminal ∉ sent := by
  obtain ⟨sent, hw, hs⟩ := (console.line_extends times text).sent
  refine ⟨sent, hw, fun terminal hm => ?_⟩
  obtain ⟨request, hq, _⟩ := hs terminal hm
  obtain ⟨operation, ho, hr⟩ := Option.bind_eq_some_iff.mp (Option.mem_toList.mp hq)
  obtain ⟨command, hc, hk⟩ := Option.bind_eq_some_iff.mp h
  simp only [Move.operation?, hc, Option.bind_some] at ho
  cases command <;> cases hk <;> cases ho <;> cases hr

end Console

end TerminalSessions
