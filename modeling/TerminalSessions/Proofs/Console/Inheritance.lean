import TerminalSessions.Proofs.Console.Handles
import TerminalSessions.Proofs.Console.Starting

/-! Properties that all terminals of a console have at any time: those of new sessions have them, and whatever is
done to a terminal keeps them. -/

namespace TerminalSessions

lemma Change.mem_apply {change : Change} {terminals : List Terminal} {terminal : Terminal}
    (h : terminal ∈ change.apply terminals) : terminal ∈ terminals ∨ change = .put terminal ∨
      ∃ handle update known, change = .set handle update ∧ known ∈ terminals ∧ terminal = update.apply known := by
  cases change with
  | put added => exact (Terminals.mem_put h).symm.imp_right fun he => .inl (congrArg _ he.symm)
  | drop dropped => exact .inl (List.mem_of_mem_eraseP h)
  | dropAll => cases h
  | set handle update =>
    cases hf : terminals.find? (·.handle = handle) with
    | none => exact .inl (by rwa [apply_set_none update hf] at h)
    | some known =>
      rw [apply_set_found update hf] at h
      refine (Terminals.mem_put h).symm.imp_right fun he => .inr ⟨handle, update, known, rfl, ?_, he⟩
      exact List.mem_of_find?_eq_some hf

namespace Console

structure Inherited (preferences : Preferences) (supply : ℕ → String) (fits : Terminal → Prop) : Prop where
  opened : ∀ text caption, Command.ofLine text = .ok (.new caption) → ∀ sequence n,
    fits ((SessionRequest.fresh sequence (some caption) preferences.defaults preferences.blinkingCursor).terminal
      (supply n))
  resumed : ∀ terminal blinking, fits terminal →
    fits ((SessionRequest.resume terminal blinking).terminal terminal.handle)
  updated : ∀ move handle update, Move.change? move = some (.set handle update) → ∀ terminal, fits terminal →
    fits (update.apply terminal)

structure Everywhere (fits : Terminal → Prop) (console : Console) : Prop where
  registered : ∀ terminal ∈ console.registry.terminals, fits terminal
  started : ∀ terminal, .started terminal ∈ console.backend.waiting → fits terminal

variable {console : Console} {fits : Terminal → Prop} {move : Move}

lemma preferences_after (console : Console) (move : Move) :
    (console.after move).registry.preferences = console.registry.preferences := by
  cases move with
  | line times text =>
    cases ho : (Move.line times text).operation? with
    | none => rw [after_no_operation ho]
    | some operation =>
      rw [after_operation ho]
      exact console.registry.perform_preferences operation
  | delivery =>
    rcases console.delivery_cases with ⟨hr, -⟩ | ⟨terminal, hr, -⟩ <;> rw [hr]
    rfl

lemma Inherited.after (h : Inherited console.registry.preferences console.backend.supply fits) (move : Move) :
    Inherited (console.after move).registry.preferences (console.after move).backend.supply fits := by
  have hs : (console.after move).backend.supply = console.backend.supply := (console.backend_play [move]).1
  rwa [preferences_after, hs]

namespace Everywhere

lemma request (hi : Inherited console.registry.preferences console.backend.supply fits) (h : Everywhere fits console)
    {request : SessionRequest} (hr : console.request? move = some request) (n : ℕ) :
    fits (request.terminal (request.handle.getD (console.backend.supply n))) := by
  obtain ⟨operation, ho, hq⟩ := Option.bind_eq_some_iff.mp hr
  obtain ⟨command, hc, hk⟩ := Option.bind_eq_some_iff.mp ho
  cases command with
  | new caption =>
    obtain ⟨times, text, rfl, hl⟩ := Move.line_of_command hc
    obtain rfl := Option.some.inj hk
    have hf := hi.opened text caption hl console.registry.nextSequence n
    simp only [Operation.request?] at hq
    split_ifs at hq with he hn <;> obtain rfl := Option.some.inj hq
    · obtain rfl : caption = "" := by simpa using he
      exact hf
    · exact hf
  | reconnect handle =>
    obtain rfl := Option.some.inj hk
    obtain ⟨known, hf, rfl⟩ := Option.map_eq_some_iff.mp hq
    exact hi.resumed known _ (h.registered known (List.mem_of_find?_eq_some hf))
  | list | retitle | close | subprocs | cwd | find | busy | save | terminateAll | quit =>
    cases hk <;> cases hq

lemma line (hi : Inherited console.registry.preferences console.backend.supply fits) (h : Everywhere fits console)
    (times : EntryTimes) (text : String) : Everywhere fits (console.after (.line times text)) where
  registered terminal hm := by
    rw [line_terminals] at hm
    cases hc : (Move.line times text).change? with
    | none => exact h.registered terminal (by rwa [hc] at hm)
    | some change =>
      rw [hc] at hm
      rcases Change.mem_apply hm with hm | rfl | ⟨handle, update, known, rfl, hk, rfl⟩
      · exact h.registered terminal hm
      · exact absurd hc (Move.change_ne_put _ terminal)
      · exact hi.updated _ handle update hc known (h.registered known hk)
  started terminal hm := by
    obtain ⟨sent, hw, hs⟩ := (console.line_extends times text).sent
    rw [hw] at hm
    rcases List.mem_append.mp hm with hm | hm
    · exact h.started terminal hm
    · -- the start answers what the line asks for, with the handle asked for or with one of the supply
      obtain ⟨request, hr, ha⟩ := hs terminal hm
      have hf := h.request hi (Option.mem_toList.mp hr)
      rcases ha with ⟨handle, hh, rfl⟩ | ⟨hh, n, -, -, rfl⟩
      · simpa only [hh, Option.getD_some] using hf 0
      · simpa only [hh, Option.getD_none] using hf n

lemma delivery (h : Everywhere fits console) : Everywhere fits (console.after .delivery) := by
  cases hw : console.backend.waiting with
  | nil => rwa [after_delivery_nil hw]
  | cons event events =>
    rw [after_delivery_cons hw]
    refine ⟨fun terminal hm => ?_, fun terminal hm => ?_⟩
    · cases event with
      | started reported =>
        rcases Terminals.mem_put hm with rfl | hm
        · exact h.started terminal (by rw [hw]; exact List.mem_cons_self)
        · exact h.registered terminal hm
      | reaped handle => exact h.registered terminal hm
    · exact h.started terminal (by rw [hw]; exact List.mem_cons_of_mem _ hm)

lemma after (hi : Inherited console.registry.preferences console.backend.supply fits) (h : Everywhere fits console)
    (move : Move) : Everywhere fits (console.after move) := by
  cases move with
  | line times text => exact h.line hi times text
  | delivery => exact h.delivery

lemma play (hi : Inherited console.registry.preferences console.backend.supply fits) (h : Everywhere fits console)
    (moves : List Move) : Everywhere fits (moves.foldl Console.after console) := by
  induction moves generalizing console with
  | nil => exact h
  | cons move moves ih => exact ih (hi.after move) (h.after hi move)

end Everywhere

end Console

end TerminalSessions
