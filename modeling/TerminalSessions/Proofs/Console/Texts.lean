import TerminalSessions.Proofs.Command.Lines
import TerminalSessions.Proofs.Console.Inheritance

namespace TerminalSessions

open TerminalSessions.Text (IsWord decimal isBlank)
open Command (IsPhrase)

lemma Text.isBlank_digit {c : Char} (h : c.isDigit = true) : isBlank c = false := by
  have hl : 48 ≤ c.toNat ∧ c.toNat ≤ 57 := by simpa [Char.isDigit, UInt32.le_iff_toNat_le] using h
  simp [isBlank, inRanges, blankRanges]
  omega

lemma Text.isWord_decimal (n : ℕ) : IsWord (decimal n) := by
  rw [isWord_iff, decimal, String.toList_ofList]
  refine ⟨Nat.toDigits_ne_nil, fun c hc => isBlank_digit ?_⟩
  exact Nat.isDigit_of_mem_toDigits (by decide) (by decide) hc

lemma isPhrase_empty : IsPhrase "" :=
  ⟨[], List.forall_mem_nil _, rfl⟩

lemma isPhrase_defaultCaption (sequence : UInt32) : IsPhrase (defaultCaption sequence) := by
  refine ⟨["Terminal", decimal sequence.toNat], List.forall_mem_cons.mpr ⟨by decide, ?_⟩, ?_⟩
  · exact List.forall_mem_singleton.mpr (Text.isWord_decimal _)
  · rw [defaultCaption, String.intercalate_cons_cons, String.intercalate_singleton]
    rfl

lemma SessionRequest.isPhrase_chosenCaption {request : SessionRequest}
    (h : ∀ caption ∈ request.caption, IsPhrase caption) : IsPhrase request.chosenCaption := by
  rw [chosenCaption]
  split
  case h_1 caption hc =>
    split
    · exact isPhrase_defaultCaption _
    · exact h caption hc
  case h_2 => exact isPhrase_defaultCaption _

namespace Backend

lemma isBlank_digitChar : ∀ n < 16, isBlank (Nat.digitChar n) = false := by
  decide

lemma isBlank_toDigits {c : Char} {n : ℕ} (h : c ∈ Nat.toDigits 16 n) : isBlank c = false := by
  induction n using Nat.strongRecOn with
  | ind n ih =>
    rw [Nat.toDigits_eq_if (by decide)] at h
    split at h
    · rename_i hn
      obtain rfl := List.mem_singleton.mp h
      exact isBlank_digitChar n hn
    · rename_i hn
      rcases List.mem_append.mp h with h | h
      · exact ih _ (by omega) h
      · obtain rfl := List.mem_singleton.mp h
        exact isBlank_digitChar _ (Nat.mod_lt n (by decide))

lemma isBlank_hexDigits {c : Char} {byte : UInt8} (h : c ∈ hexDigits byte) : isBlank c = false := by
  have hb := byte.toNat_lt
  rcases List.mem_cons.mp h with rfl | h
  · exact isBlank_digitChar _ (by omega)
  · obtain rfl := List.mem_singleton.mp h
    exact isBlank_digitChar _ (Nat.mod_lt _ (by decide))

theorem isWord_numberedHandle (bytes : List UInt8) (n : ℕ) : IsWord (numberedHandle bytes n) := by
  constructor
  · intro h
    have hl := length_numberedHandle bytes n
    rw [h] at hl
    exact absurd hl (by decide)
  · intro c hc
    rw [numberedHandle, String.toList_ofList, List.mem_append, List.mem_append] at hc
    rcases hc with (hc | hc) | hc
    · obtain ⟨byte, -, hc⟩ := List.mem_flatMap.mp hc
      exact isBlank_hexDigits hc
    · obtain rfl := List.eq_of_mem_replicate hc
      decide
    · exact isBlank_toDigits hc

end Backend

structure Terminal.IsTyped (terminal : Terminal) : Prop where
  handle : IsWord terminal.handle
  caption : IsPhrase terminal.caption
  captioned : terminal.caption ≠ ""
  title : IsPhrase terminal.title
  directory : ∀ text ∈ terminal.workingDirectory, IsPhrase text ∧ text ≠ ""

lemma Terminal.IsTyped.update {terminal : Terminal} (h : terminal.IsTyped) {move : Move} {handle : String}
    {update : Update} (hc : move.change? = some (.set handle update)) : (update.apply terminal).IsTyped := by
  obtain ⟨command, hm, hk⟩ := Option.bind_eq_some_iff.mp hc
  obtain ⟨-, text, -, hl⟩ := Move.line_of_command hm
  have ht := Command.ofLine_typed hl
  cases command with
  | retitle _ title =>
    cases hk
    exact ⟨h.handle, h.caption, h.captioned, ht.2, h.directory⟩
  | subprocs _ active =>
    cases hk
    exact ⟨h.handle, h.caption, h.captioned, h.title, h.directory⟩
  | cwd _ directory =>
    cases hk
    exact ⟨h.handle, h.caption, h.captioned, h.title, ht.2⟩
  | new | list | close | reconnect | find | busy | save | terminateAll | quit => cases hk

namespace Console

variable {preferences : Preferences} {supply : ℕ → String} {stateFile : String} {log : AuditLog}

lemma inherited_typed (hw : ∀ n, IsWord (supply n)) : Inherited preferences supply Terminal.IsTyped where
  opened text caption hl sequence n := by
    let request := SessionRequest.fresh sequence (some caption) preferences.defaults preferences.blinkingCursor
    have hc : IsPhrase request.chosenCaption := by
      refine SessionRequest.isPhrase_chosenCaption fun asked ha => ?_
      obtain rfl := Option.mem_some_iff.mp ha
      exact Command.ofLine_typed hl
    exact ⟨hw n, hc, request.chosenCaption_ne_empty, isPhrase_empty, fun text hm => by cases hm⟩
  resumed terminal blinking h := by rwa [SessionRequest.terminal_resume h.captioned]
  updated _ _ _ hc _ h := h.update hc

lemma everywhere_empty (fits : Terminal → Prop) : Everywhere fits (empty preferences supply stateFile log) :=
  ⟨fun _ hm => absurd hm List.not_mem_nil, fun _ hm => absurd hm List.not_mem_nil⟩

lemma typed_play (hw : ∀ n, IsWord (supply n)) (moves : List Move) :
    Everywhere Terminal.IsTyped (moves.foldl Console.after (empty preferences supply stateFile log)) :=
  (everywhere_empty _).play (inherited_typed hw) moves

end Console

end TerminalSessions
