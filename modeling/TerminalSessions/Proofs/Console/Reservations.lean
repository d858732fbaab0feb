import TerminalSessions.Proofs.Console.Handles
import TerminalSessions.Proofs.Console.Starting

/-! A caption that was asked for is pending until the start with it is delivered, so that no terminal and no other
session gets it in between. Default captions are not asked for, and are not protected. -/

namespace TerminalSessions

def Command.keepsReservations : Command → Bool
  | reconnect _ | terminateAll => false
  | new _ | list | retitle _ _ | close _ | subprocs _ _ | cwd _ _ | find _ | busy | save | quit => true

lemma Command.operation_ne_reconnect {operation : Operation} (command : Command)
    (hr : command.keepsReservations) (hk : command.operation? = some operation) (handle : String) :
    operation ≠ .reconnect handle := by
  rintro rfl
  cases command <;> cases hk
  cases hr

namespace Registry

variable {registry : Registry} {operation : Operation} {caption : String}

lemma chosen_of_reserves (h : Reserves caption (registry, operation)) :
    (operation.request? registry).toList.map (·.chosenCaption) = [caption] := by
  rw [request_of_reserves h]
  exact congrArg (List.cons · []) (SessionRequest.chosenCaption_some rfl h.2.1)

lemma reserves_of_chosen (hr : ∀ handle, operation ≠ .reconnect handle)
    (hd : ∀ n, caption ≠ defaultCaption n)
    (h : caption ∈ (operation.request? registry).toList.map (·.chosenCaption)) :
    Reserves caption (registry, operation) := by
  obtain ⟨request, hq, rfl⟩ := List.mem_map.mp h
  have hq := Option.mem_toList.mp hq
  cases operation with
  | createNew =>
    obtain rfl := Option.some.inj hq
    exact absurd rfl (hd registry.nextSequence)
  | createNamed named =>
    simp only [Operation.request?] at hq
    split_ifs at hq with he hf <;> obtain rfl := Option.some.inj hq
    · exact absurd rfl (hd registry.nextSequence)
    · have hn : named ≠ "" := by simpa using he
      rw [SessionRequest.chosenCaption_some rfl hn]
      exact reserves_iff.mpr ⟨rfl, hn, isCaptionFree_iff.mp hf.1, hf.2⟩
  | reconnect handle => exact absurd rfl (hr handle)
  | add | restore | remove | close | terminateAll | retitle | notify => cases hq

lemma used_of_releases {command : Command} (hk : command.operation? = some operation)
    (hr : command.keepsReservations) (h : Releases caption (registry, operation)) :
    caption ∈ registry.captions := by
  have hset : ∀ handle update, (∃ edit ∈ registry.rewrites handle update, edit.Releases caption) →
      caption ∈ registry.captions := by
    rintro handle update ⟨edit, hm, hr⟩
    rcases registry.rewrites_cases handle update with ⟨he, -⟩ | ⟨known, hf, he, -⟩ <;> rw [he] at hm
    · exact absurd hm List.not_mem_nil
    · obtain rfl := List.mem_singleton.mp hm
      obtain rfl : (update.apply known).caption = caption := hr
      rw [Update.apply_caption]
      exact List.mem_map_of_mem (List.mem_of_find?_eq_some hf)
  cases command with
  | retitle handle title => cases hk; exact hset _ _ h
  | subprocs handle active => cases hk; exact hset _ _ h
  | cwd handle directory => cases hk; exact hset _ _ h
  | new named =>
    cases hk
    obtain ⟨edit, hm, hr⟩ := h
    simp only [Operation.edits] at hm
    split_ifs at hm <;> simp at hm <;> subst hm <;> exact hr.elim
  | close handle =>
    cases hk
    obtain ⟨edit, hm, hr⟩ := h
    obtain rfl := List.mem_singleton.mp hm
    exact hr.elim
  | reconnect | terminateAll => cases hr
  | list | find | busy | save | quit => cases hk

end Registry

namespace Terminals

lemma count_captions_put (terminal : Terminal) (terminals : List Terminal) (caption : String) :
    ((putTerminal terminal terminals).map (·.caption)).count caption ≤
      (terminals.map (·.caption)).count caption + [terminal.caption].count caption := by
  induction terminals with
  | nil => exact Nat.le_add_left _ _
  | cons other others ih =>
    rw [putTerminal]
    split_ifs
    · simp only [List.map_cons, List.count_cons, List.count_nil]
      omega
    · simp only [List.map_cons, List.count_cons, List.count_nil] at ih ⊢
      omega

lemma pairwise_of_count {terminals : List Terminal} (excepted : String → Prop)
    (h : ∀ caption, ¬ excepted caption → (terminals.map (·.caption)).count caption ≤ 1) :
    terminals.Pairwise fun first second => first.caption = second.caption → excepted first.caption := by
  induction terminals with
  | nil => exact .nil
  | cons first others ih =>
    refine .cons ?_ (ih fun caption he => ?_)
    · intro second hm hs
      by_contra he
      have hc := h first.caption he
      have hp : 0 < (others.map (·.caption)).count first.caption :=
        List.count_pos_iff.mpr (hs ▸ List.mem_map_of_mem hm)
      simp only [List.map_cons, List.count_cons_self] at hc
      omega
    · have hc := h caption he
      simp only [List.map_cons, List.count_cons] at hc
      omega

end Terminals

namespace Console

def startingCaptions (console : Console) : List String :=
  console.backend.starting.map (·.caption)

variable {console : Console} {caption : String}

lemma startingCaptions_line (hl : console.backend.listening = true) {times : EntryTimes}
    {text : String} {operation : Operation} (ho : (Move.line times text).operation? = some operation) :
    (console.after (.line times text)).startingCaptions =
      console.startingCaptions ++ (operation.request? console.registry).toList.map (·.chosenCaption) := by
  rw [startingCaptions, line_starting hl, request?, ho, Option.bind_some, List.map_append, List.map_map]
  rfl

lemma pending_line (console : Console) (caption : String) {times : EntryTimes} {text : String}
    {operation : Operation} (ho : (Move.line times text).operation? = some operation) :
    caption ∈ (console.after (.line times text)).registry.pending ↔
      Registry.Reserves caption (console.registry, operation) ∨
        caption ∈ console.registry.pending ∧ ¬ Registry.Releases caption (console.registry, operation) := by
  rw [after_operation ho]
  exact Registry.pending_perform

structure Guards (caption : String) (console : Console) : Prop where
  once : console.startingCaptions.count caption ≤ 1
  pending : caption ∈ console.startingCaptions → caption ∈ console.registry.pending
  unused : caption ∈ console.startingCaptions → caption ∉ console.registry.captions

namespace Guards

lemma line (h : Guards caption console) (hl : console.backend.listening = true)
    (hd : ∀ n, caption ≠ defaultCaption n) {times : EntryTimes} {text : String}
    (hm : ∀ command ∈ (Move.line times text).command?, command.keepsReservations) :
    Guards caption (console.after (.line times text)) := by
  cases hop : (Move.line times text).operation? with
  | none => rwa [after_no_operation hop]
  | some operation =>
    obtain ⟨command, hc, hk⟩ := Option.bind_eq_some_iff.mp hop
    have hkeeps : command.keepsReservations := hm command hc
    have hs := startingCaptions_line hl hop
    have hsub := (console.line_captions times text).subset
    have hpending := console.pending_line caption hop
    by_cases hr : Registry.Reserves caption (console.registry, operation)
    · -- A caption that is reserved was not pending, so that no start brings it yet.
      obtain ⟨-, -, hf, hp⟩ := Registry.reserves_iff.mp hr
      have hout : caption ∉ console.startingCaptions := fun hm => hp (h.pending hm)
      rw [Registry.chosen_of_reserves hr] at hs
      refine ⟨?_, fun _ => hpending.mpr (.inl hr), fun _ hm => hf (hsub hm)⟩
      rw [hs, List.count_append, List.count_eq_zero.mpr hout, List.count_singleton_self]
    · have hchosen : caption ∉ (operation.request? console.registry).toList.map (·.chosenCaption) :=
        fun hm => hr (Registry.reserves_of_chosen (command.operation_ne_reconnect hkeeps hk) hd hm)
      have hout : caption ∈ (console.after (.line times text)).startingCaptions →
          caption ∈ console.startingCaptions := by
        rw [hs]
        exact fun hm => (List.mem_append.mp hm).resolve_right hchosen
      refine ⟨?_, fun hm => ?_, fun hm hu => h.unused (hout hm) (hsub hu)⟩
      · rw [hs, List.count_append, List.count_eq_zero.mpr hchosen]
        exact h.once
      · refine hpending.mpr (.inr ⟨h.pending (hout hm), fun hrel => ?_⟩)
        exact h.unused (hout hm) (Registry.used_of_releases hk hkeeps hrel)

lemma delivery (h : Guards caption console) : Guards caption (console.after .delivery) := by
  obtain ⟨ho, hp, hu⟩ := h
  rw [startingCaptions] at ho hp hu
  rcases console.delivery_cases with ⟨hr, hs⟩ | ⟨terminal, hr, hs⟩
  · rw [← hs] at ho hp hu
    rw [← hr] at hp hu
    exact ⟨ho, hp, hu⟩
  · rw [hs, List.map_cons] at ho hp hu
    -- The other starts do not bring the caption of the one that is delivered.
    have hne : caption ∈ (console.after .delivery).startingCaptions → terminal.caption ≠ caption := by
      rintro hm rfl
      have hc := List.count_pos_iff.mpr hm
      rw [List.count_cons_self] at ho
      exact absurd ho (by rw [startingCaptions] at hc; omega)
    refine ⟨?_, fun hm => ?_, fun hm hc => ?_⟩
    · rw [List.count_cons] at ho
      exact (Nat.le_add_right _ _).trans ho
    · have hk := hp (List.mem_cons_of_mem _ hm)
      rw [hr]
      exact List.mem_filter.mpr ⟨hk, by simpa using (hne hm).symm⟩
    · have hk := hu (List.mem_cons_of_mem _ hm)
      rw [hr] at hc
      exact ((Edit.store terminal).captions_apply hc).elim hk (hne hm)

end Guards

structure Distinct (console : Console) : Prop where
  listening : console.backend.listening = true
  guards : ∀ caption, (∀ n, caption ≠ defaultCaption n) → Guards caption console
  registered : ∀ caption, (∀ n, caption ≠ defaultCaption n) → console.registry.captions.count caption ≤ 1

lemma Distinct.line (h : console.Distinct) {times : EntryTimes} {text : String}
    (hm : ∀ command ∈ (Move.line times text).command?, command.keepsReservations) :
    (console.after (.line times text)).Distinct where
  listening := (console.line_extends times text).listening.trans h.listening
  guards caption hd := (h.guards caption hd).line h.listening hd hm
  registered caption hd := ((console.line_captions times text).count_le caption).trans (h.registered caption hd)

lemma Distinct.delivery (h : console.Distinct) : (console.after .delivery).Distinct where
  listening := console.delivery_backend.2.2.trans h.listening
  guards caption hd := (h.guards caption hd).delivery
  registered caption hd := by
    have hr := h.registered caption hd
    rcases console.delivery_cases with ⟨he, -⟩ | ⟨terminal, he, hs⟩ <;> rw [he]
    · exact hr
    · have hc := Terminals.count_captions_put terminal console.registry.terminals caption
      rw [Registry.captions] at hr
      by_cases ht : terminal.caption = caption
      · have hstart : caption ∈ console.startingCaptions := by
          rw [startingCaptions, hs]
          exact ht ▸ List.mem_cons_self
        have hz := List.count_eq_zero.mpr ((h.guards caption hd).unused hstart)
        have ho : [terminal.caption].count caption = 1 := by simp [ht]
        rw [Registry.captions] at hz
        exact hc.trans (by omega)
      · have ho : [terminal.caption].count caption = 0 := by simp [ht]
        exact hc.trans (by omega)

lemma Distinct.play (h : console.Distinct) {moves : List Move}
    (hm : ∀ move ∈ moves, ∀ command ∈ move.command?, command.keepsReservations) :
    (moves.foldl Console.after console).Distinct := by
  induction moves generalizing console with
  | nil => exact h
  | cons move moves ih =>
    have ht := fun other hm' => hm other (List.mem_cons_of_mem _ hm')
    cases move with
    | line times text => exact ih (h.line (hm _ List.mem_cons_self)) ht
    | delivery => exact ih h.delivery ht

lemma Distinct.pairwise (h : console.Distinct) :
    (console.registry.terminals ++ console.backend.starting).Pairwise fun first second =>
      first.caption = second.caption → ∃ n, first.caption = defaultCaption n := by
  refine Terminals.pairwise_of_count (fun caption => ∃ n, caption = defaultCaption n) ?_
  intro caption he
  have hd : ∀ n, caption ≠ defaultCaption n := not_exists.mp he
  obtain ⟨hg, -, hu⟩ := h.guards caption hd
  have hr := h.registered caption hd
  rw [List.map_append, List.count_append]
  change console.registry.captions.count caption + console.startingCaptions.count caption ≤ 1
  by_cases hs : caption ∈ console.startingCaptions
  · rw [List.count_eq_zero.mpr (hu hs)]
    omega
  · rw [List.count_eq_zero.mpr hs]
    omega

variable {preferences : Preferences} {supply : Nat → String} {stateFile : String} {log : AuditLog}
  {saved files : FileTree}

/-- A console is opened with terminals of distinct captions. As long as no terminal is reconnected and not all of
them are terminated, the captions of the terminals and of the starts that wait stay distinct, apart from default
captions. -/
theorem starting_captions_distinct
    (hopen : Console.open? (m := StateM FileTree) preferences { supply } stateFile log saved =
      (.ok console, files))
    (hcaptions : console.registry.captions.Nodup) (moves : List Move)
    (hmoves : ∀ move ∈ moves, ∀ command ∈ move.command?, command.keepsReservations) :
    let reached := (console.play moves files).1
    (reached.registry.terminals ++ reached.backend.starting).Pairwise fun first second =>
      first.caption = second.caption → ∃ n, first.caption = defaultCaption n := by
  intro reached
  obtain ⟨restored, rfl⟩ := open_eq hopen
  simp only [reached, play_console]
  refine Distinct.pairwise (Distinct.play ⟨rfl, fun caption _ => ?_, fun caption _ => ?_⟩ hmoves)
  · exact ⟨Nat.zero_le _, fun hm => absurd hm List.not_mem_nil, fun hm => absurd hm List.not_mem_nil⟩
  · exact List.nodup_iff_count_le_one.mp hcaptions caption

theorem starting_captions_distinct_restored :
    let moves : List Move := [.line default "new b", .line default "new a", .line default "retitle h x",
      .line default "new b", .delivery, .line default "new c"]
    let reached := (restored.play moves savedFiles).1
    (reached.registry.terminals ++ reached.backend.starting).map (·.caption) = ["a", "b", "c"] ∧
      (reached.registry.terminals ++ reached.backend.starting).Pairwise fun first second =>
        first.caption = second.caption → ∃ n, first.caption = defaultCaption n := by
  intro moves reached
  have hp := starting_captions_distinct open_saved (by decide) moves (by decide)
  simp only [reached, play_console] at hp ⊢
  exact ⟨by decide, hp⟩

end Console

end TerminalSessions
