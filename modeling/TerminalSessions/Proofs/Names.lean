import TerminalSessions.Proofs.Lookup
import TerminalSessions.Proofs.Text.Lowercase
import TerminalSessions.SavedTerminal

/-! Names of shells and of modes, which are read in any case. Although all letters are lowered for that, no text with
a letter outside ASCII is a name. -/

namespace TerminalSessions

open Text

namespace Names

variable {α : Type} {names : Names α} {text : String} {named : α}

def ArePlain (names : Names α) : Prop :=
  ∀ named, ∀ d ∈ (names.name named).toList, IsPlain d

lemma read_lowercase : names.read? text = some named ↔ lowercase text = names.name named :=
  ofName_iff

lemma read_iff (hp : names.ArePlain) :
    names.read? text = some named ↔ SameButForCase text (names.name named) :=
  read_lowercase.trans (lowercase_eq_iff (hp named))

lemma read_length_iff (hp : names.ArePlain) : names.read? text = some named ↔
    text.length = (names.name named).length ∧ SameButForCase text (names.name named) := by
  rw [read_iff hp]
  refine ⟨fun h => ⟨?_, h⟩, fun h => h.2⟩
  rw [← String.length_toList, ← String.length_toList]
  exact h.length_eq

lemma read_lowered (hp : names.ArePlain) {lowered : String} (hl : Lowers text.toList lowered.toList) :
    names.read? text = some named ↔ lowered = names.name named :=
  read_lowercase.trans (hl.eq_iff (hp named)).symm

lemma read_foreign (hp : names.ArePlain) (h : ∃ c ∈ text.toList, ¬ IsAscii c) : names.read? text = none := by
  obtain ⟨c, hc, hf⟩ := h
  exact Option.eq_none_iff_forall_ne_some.mpr fun named hr => hf (((read_iff hp).mp hr).ascii (hp named) c hc)

lemma read_name (hp : names.ArePlain) (named : α) : names.read? (names.name named) = some named :=
  (read_iff hp).mpr (sameButForCase_iff.mpr rfl)

end Names

lemma Shell.plain_names : Shell.names.ArePlain := fun shell =>
  plain_of_all (by cases shell <;> decide)

lemma AutoClose.plain_names : AutoClose.names.ArePlain := fun autoClose =>
  plain_of_all (by cases autoClose <;> decide)

theorem names_read_in_any_case :
    (∀ text shell, Shell.read? text = some shell ↔
      text.length = shell.name.length ∧ SameButForCase text shell.name) ∧
    (∀ text autoClose, AutoClose.read? text = some autoClose ↔
      text.length = autoClose.name.length ∧ SameButForCase text autoClose.name) ∧
    (∀ text lowered : String, Lowers text.toList lowered.toList →
      (∀ shell, Shell.read? text = some shell ↔ lowered = shell.name) ∧
        ∀ autoClose, AutoClose.read? text = some autoClose ↔ lowered = autoClose.name) ∧
    (∀ text : String, (∃ c ∈ text.toList, ¬ IsAscii c) → Shell.read? text = none ∧ AutoClose.read? text = none) ∧
    ∀ terminal : SavedTerminal,
      (∃ name, terminal.toJson.field? "shellType" = some (.string name) ∧
        Shell.read? name = some terminal.shell) ∧
      ∃ name, terminal.toJson.field? "autoCloseMode" = some (.string name) ∧
        AutoClose.read? name = some terminal.autoClose := by
  have hs := Shell.plain_names
  have hm := AutoClose.plain_names
  refine ⟨fun _ _ => Names.read_length_iff hs, fun _ _ => Names.read_length_iff hm, fun text lowered hl => ?_,
    fun text hf => ⟨Names.read_foreign hs hf, Names.read_foreign hm hf⟩, fun terminal => ⟨?_, ?_⟩⟩
  · exact ⟨fun _ => Names.read_lowered hs hl, fun _ => Names.read_lowered hm hl⟩
  · exact ⟨terminal.shell.name, rfl, Names.read_name hs _⟩
  · exact ⟨terminal.autoClose.name, rfl, Names.read_name hm _⟩

theorem names_read_in_any_case_letters :
    Shell.read? "Git_BASH" = some .gitBash ∧ AutoClose.read? "NEVER" = some .never ∧
      lowercase "g\u0130t_bash" = "gi\u0307t_bash" ∧ Shell.read? "g\u0130t_bash" = none ∧
        lowercase "\u212A" = "k" ∧ Shell.read? "\u212A" = none := by
  obtain ⟨hshell, hmode, -, hforeign, -⟩ := names_read_in_any_case
  refine ⟨(hshell _ _).mpr ⟨by decide, ?_⟩, (hmode _ _).mpr ⟨by decide, ?_⟩, by decide +kernel,
    (hforeign _ ⟨'\u0130', ?_⟩).1, by decide +kernel, (hforeign _ ⟨'\u212A', ?_⟩).1⟩
  · exact sameButForCase_iff.mpr (by decide)
  · exact sameButForCase_iff.mpr (by decide)
  · decide
  · decide

end TerminalSessions
