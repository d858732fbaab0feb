import TerminalSessions.Proofs.Registry.Changes

namespace TerminalSessions

lemma Terminals.mem_put {terminals : List Terminal} {terminal other : Terminal}
    (h : other ∈ putTerminal terminal terminals) : other = terminal ∨ other ∈ terminals := by
  induction terminals with
  | nil => exact .inl (List.mem_singleton.mp h)
  | cons first others ih =>
    rw [putTerminal] at h
    split at h
    · exact (List.mem_cons.mp h).imp_right (List.mem_cons_of_mem _)
    · rcases List.mem_cons.mp h with rfl | h
      · exact .inr List.mem_cons_self
      · exact (ih h).imp_right (List.mem_cons_of_mem _)

lemma Terminals.captions_put_found {terminals : List Terminal} {terminal known : Terminal}
    (hf : terminals.find? (·.handle = terminal.handle) = some known)
    (hc : terminal.caption = known.caption) :
    (putTerminal terminal terminals).map (·.caption) = terminals.map (·.caption) := by
  induction terminals with
  | nil => simp at hf
  | cons other others ih =>
    by_cases ho : other.handle = terminal.handle
    · obtain rfl : other = known := by simpa [ho] using hf
      simp [putTerminal, ho, hc]
    · rw [putTerminal, if_neg ho, List.map_cons, List.map_cons, ih (by simpa [ho] using hf)]

lemma Update.apply_caption (update : Update) (terminal : Terminal) :
    (update.apply terminal).caption = terminal.caption := by
  cases update <;> rfl

lemma Change.captions_apply {change : Change} (hp : ∀ terminal, change ≠ .put terminal)
    (terminals : List Terminal) :
    ((change.apply terminals).map (·.caption)).Sublist (terminals.map (·.caption)) := by
  cases change with
  | put terminal => exact absurd rfl (hp terminal)
  | drop handle => exact List.eraseP_sublist.map _
  | dropAll => exact List.nil_sublist _
  | set handle update =>
    cases hf : terminals.find? (·.handle = handle) with
    | none => rw [apply_set_none update hf]
    | some terminal =>
      have hh : (update.apply terminal).handle = handle := by simp [Terminals.handle_of_find hf]
      rw [apply_set_found update hf,
        Terminals.captions_put_found (by rw [hh]; exact hf) (update.apply_caption terminal)]

lemma length_defaultCaption (sequence : UInt32) : 9 ≤ (defaultCaption sequence).length := by
  rw [defaultCaption, String.length_append]
  exact Nat.le_add_right 9 _

lemma defaultCaption_ne_empty (sequence : UInt32) : defaultCaption sequence ≠ "" := by
  intro h
  have hl := length_defaultCaption sequence
  rw [h] at hl
  exact absurd hl (by decide)

namespace SessionRequest

lemma chosenCaption_some {request : SessionRequest} {caption : String} (h : request.caption = some caption)
    (hn : caption ≠ "") : request.chosenCaption = caption := by
  simp only [chosenCaption, h]
  exact if_neg (by simpa using hn)

lemma chosenCaption_ne_empty (request : SessionRequest) : request.chosenCaption ≠ "" := by
  rw [chosenCaption]
  split
  · split
    · exact defaultCaption_ne_empty _
    · rename_i he
      simpa using he
  · exact defaultCaption_ne_empty _

lemma terminal_resume {terminal : Terminal} (h : terminal.caption ≠ "") (blinking : Bool) :
    (resume terminal blinking).terminal terminal.handle = terminal := by
  have hc : (resume terminal blinking).chosenCaption = terminal.caption := chosenCaption_some rfl h
  simp only [SessionRequest.terminal, hc]
  rfl

end SessionRequest

namespace Registry

def captions (registry : Registry) : List String :=
  registry.terminals.map (·.caption)

variable {registry : Registry}

lemma isCaptionFree_iff {caption : String} :
    registry.isCaptionFree caption ↔ caption ∉ registry.captions := by
  simp [isCaptionFree, captions]

lemma captions_store {terminal : Terminal} (h : terminal.handle ∉ registry.handles) :
    (registry.store terminal).captions = registry.captions ++ [terminal.caption] := by
  rw [captions, terminals_store h, List.map_append]
  rfl

end Registry

end TerminalSessions
