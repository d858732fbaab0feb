import Mathlib.Data.List.Nodup
import TerminalSessions.Registry.Basic

namespace TerminalSessions.Terminals

variable (terminal : Terminal) (terminals : List Terminal) (handle : String)

lemma find_put : (putTerminal terminal terminals).find? (·.handle = handle) =
    if terminal.handle = handle then some terminal else terminals.find? (·.handle = handle) := by
  induction terminals with
  | nil => by_cases h : terminal.handle = handle <;> simp [putTerminal, h]
  | cons other others ih =>
    by_cases ho : other.handle = terminal.handle
    · by_cases h : terminal.handle = handle <;> simp [putTerminal, ho, h]
    · rw [putTerminal, if_neg ho]
      by_cases h : other.handle = handle
      · have hn : terminal.handle ≠ handle := fun ht => ho (h.trans ht.symm)
        simp [h, hn]
      · simp only [List.find?_cons, decide_eq_false h, ih]

lemma handles_put : (putTerminal terminal terminals).map (·.handle) =
    if terminal.handle ∈ terminals.map (·.handle) then terminals.map (·.handle)
    else terminals.map (·.handle) ++ [terminal.handle] := by
  induction terminals with
  | nil => rfl
  | cons other others ih =>
    by_cases ho : other.handle = terminal.handle
    · simp [putTerminal, ho]
    · rw [putTerminal, if_neg ho, List.map_cons, ih]
      simp only [List.map_cons, List.mem_cons, Ne.symm ho, false_or]
      split <;> rfl

lemma put_unused (h : terminal.handle ∉ terminals.map (·.handle)) :
    putTerminal terminal terminals = terminals ++ [terminal] := by
  induction terminals with
  | nil => rfl
  | cons other others ih =>
    simp only [List.map_cons, List.mem_cons, not_or] at h
    simp only [putTerminal, if_neg (Ne.symm h.1), ih h.2, List.cons_append]

lemma put_found (h : terminals.find? (·.handle = terminal.handle) = some terminal) :
    putTerminal terminal terminals = terminals := by
  induction terminals with
  | nil => simp at h
  | cons other others ih =>
    by_cases ho : other.handle = terminal.handle
    · have he : other = terminal := by simpa [List.find?_cons, ho] using h
      simp [putTerminal, he]
    · simp only [putTerminal, if_neg ho]
      rw [ih (by simpa [List.find?_cons, ho] using h)]

lemma nodup_put (h : (terminals.map (·.handle)).Nodup) :
    ((putTerminal terminal terminals).map (·.handle)).Nodup := by
  rw [handles_put]
  split
  · exact h
  · rename_i hm
    exact List.Nodup.append h (List.nodup_singleton _) (by simpa using hm)

lemma handles_erase : (terminals.eraseP (·.handle = handle)).map (·.handle) =
    (terminals.map (·.handle)).erase handle := by
  rw [List.erase_eq_eraseP', List.eraseP_map]
  congr 2

lemma find_isSome : (terminals.find? (·.handle = handle)).isSome ↔ handle ∈ terminals.map (·.handle) := by
  simp [List.find?_isSome]

lemma find_eq_none : terminals.find? (·.handle = handle) = none ↔ handle ∉ terminals.map (·.handle) := by
  simp

variable {terminals}

lemma find_erase_self (h : (terminals.map (·.handle)).Nodup) :
    (terminals.eraseP (·.handle = handle)).find? (·.handle = handle) = none := by
  rw [find_eq_none, handles_erase]
  exact h.not_mem_erase

lemma find_erase_other {other : String} (h : handle ≠ other) :
    (terminals.eraseP (·.handle = handle)).find? (·.handle = other) =
      terminals.find? (·.handle = other) := by
  induction terminals with
  | nil => rfl
  | cons t ts ih =>
    by_cases ht : t.handle = handle
    · simp [ht, h]
    · rw [List.eraseP_cons_of_neg (by simpa using ht), List.find?_cons, List.find?_cons, ih]

lemma handle_of_find {terminal : Terminal} {handle : String}
    (h : terminals.find? (·.handle = handle) = some terminal) : terminal.handle = handle := by
  simpa using List.find?_some h

lemma find_of_mem {terminal : Terminal} (hn : (terminals.map (·.handle)).Nodup) (hm : terminal ∈ terminals) :
    terminals.find? (·.handle = terminal.handle) = some terminal := by
  cases hf : terminals.find? (·.handle = terminal.handle) with
  | none => exact absurd (List.mem_map_of_mem hm) ((find_eq_none _ _).mp hf)
  | some found =>
    have hk : found ∈ terminals := List.mem_of_find?_eq_some hf
    rw [List.inj_on_of_nodup_map hn hk hm (handle_of_find hf)]

lemma ext_find {others : List Terminal} (hn : (terminals.map (·.handle)).Nodup)
    (hh : terminals.map (·.handle) = others.map (·.handle))
    (hf : ∀ handle, terminals.find? (·.handle = handle) = others.find? (·.handle = handle)) : terminals = others := by
  have hl : terminals.length = others.length := by simpa using congrArg List.length hh
  apply List.ext_getElem hl
  intro i hi ho
  have he : terminals[i].handle = others[i].handle := by
    simpa [hi, ho] using congrArg (·[i]?) hh
  have ht := find_of_mem hn (List.getElem_mem hi)
  rw [hf, he, find_of_mem (hh ▸ hn) (List.getElem_mem ho)] at ht
  exact (Option.some.inj ht).symm

lemma findIdx_of_getElem {terminal : Terminal} {k : ℕ} (hn : (terminals.map (·.handle)).Nodup)
    (hk : terminals[k]? = some terminal) : terminals.findIdx? (·.handle = terminal.handle) = some k := by
  obtain ⟨hl, rfl⟩ := List.getElem?_eq_some_iff.mp hk
  refine List.findIdx?_eq_some_iff_getElem.mpr ⟨hl, by simp, fun j hj => ?_⟩
  have hp := List.pairwise_iff_getElem.mp hn j k (by simp; omega) (by simpa using hl) hj
  simpa using hp

variable {terminal other : Terminal} {before behind : List Terminal}

lemma find_between (h : terminal.handle ∉ before.map (·.handle)) :
    (before ++ terminal :: behind).find? (·.handle = terminal.handle) = some terminal := by
  rw [List.find?_append, (find_eq_none before terminal.handle).mpr h]
  simp

lemma put_between (h : terminal.handle ∉ before.map (·.handle)) (he : other.handle = terminal.handle) :
    putTerminal other (before ++ terminal :: behind) = before ++ other :: behind := by
  induction before with
  | nil => rw [List.nil_append, putTerminal, if_pos he.symm, List.nil_append]
  | cons first before ih =>
    have hf : first.handle ≠ other.handle := fun hh => List.ne_of_not_mem_cons h (he.symm.trans hh.symm)
    rw [List.cons_append, putTerminal, if_neg hf, ih (List.not_mem_of_not_mem_cons h), List.cons_append]

lemma erase_between (h : terminal.handle ∉ before.map (·.handle)) :
    (before ++ terminal :: behind).eraseP (·.handle = terminal.handle) = before ++ behind := by
  have hb : ∀ first ∈ before, ¬ decide (first.handle = terminal.handle) = true := by simpa using h
  rw [List.eraseP_append_right _ hb]
  simp

end TerminalSessions.Terminals
