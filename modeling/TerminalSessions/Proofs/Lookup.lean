import Mathlib.Logic.Function.Defs
import Mathlib.Tactic.Common
import TerminalSessions.Text.Lowercase

namespace TerminalSessions

lemma lookup_cons {α β : Type} [BEq α] [LawfulBEq α] [DecidableEq α] (key : α) (entry : α × β)
    (entries : List (α × β)) :
    (entry :: entries).lookup key = if key = entry.1 then some entry.2 else entries.lookup key := by
  rw [List.lookup_cons]
  by_cases h : key = entry.1
  · rw [if_pos h, beq_iff_eq.mpr h]
  · rw [if_neg h, beq_eq_false_iff_ne.mpr h]

namespace Names

variable {α : Type} {names : Names α} {text : String} {named : α}

lemma ofName_name (names : Names α) (named : α) : names.ofName? (names.name named) = some named :=
  names.found named

lemma ofName_iff : names.ofName? text = some named ↔ text = names.name named := by
  constructor
  · intro h
    have hn := List.find?_some h
    exact (beq_iff_eq.mp hn).symm
  · rintro rfl
    exact names.found named

lemma ofName_unknown (h : ∀ named, names.name named ≠ text) : names.ofName? text = none :=
  List.find?_eq_none.mpr fun named _ => by simpa using h named

lemma name_injective (names : Names α) : names.name.Injective := fun named other h =>
  Option.some.inj ((names.found named).symm.trans (h ▸ names.found other))

end Names

end TerminalSessions
