import TerminalSessions.Proofs.SavedTerminal.Layout

namespace TerminalSessions

namespace Json

lemma blanks_newLine (depth : ℕ) : Blanks (newLine depth) := by
  intro c hc
  rcases List.mem_cons.mp hc with rfl | hc
  · decide
  · rw [List.eq_of_mem_replicate hc]
    decide

def onLine (depth : ℕ) (label value : List Char) : Entry where
  before := newLine depth
  label := label
  value := value
  after := []

lemma onLine_padded (depth : ℕ) (label value : List Char) : (onLine depth label value).Padded :=
  ⟨blanks_newLine depth, fun _ hc => by cases hc⟩

lemma layOut_text {α : Type} (frame : Frame) (depth : ℕ) (label value : α → List Char) {items : List α}
    (h : items ≠ []) : layOut depth frame.opening frame.closing (items.map fun item => label item ++ value item) =
      frame.text (items.map fun item => onLine (depth + 1) (label item) (value item)) (newLine depth) := by
  obtain ⟨item, items, rfl⟩ := List.exists_cons_of_ne_nil h
  simp [layOut, Frame.text, Entry.text, onLine, Function.comp_def]

lemma prettyItems_eq (depth : ℕ) (items : List Value) :
    prettyItems depth items = items.map (·.writePretty depth) := by
  induction items with
  | nil => rfl
  | cons item items ih => rw [prettyItems, ih, List.map_cons]

lemma prettyFields_eq (depth : ℕ) (fields : List (String × Value)) :
    prettyFields depth fields =
      fields.map fun field => writeString field.1 ++ ':' :: ' ' :: field.2.writePretty depth := by
  induction fields with
  | nil => rfl
  | cons field fields ih => rw [prettyFields, ih, List.map_cons]

end Json

open TerminalSessions.Json

namespace SavedTerminal

variable (terminal : SavedTerminal) (terminals : List SavedTerminal)

lemma spells_value (depth : ℕ) (field : SavedField) :
    Spells (field.value terminal) ((field.value terminal).writePretty depth) := by
  cases field with
  | workingDirectory =>
    cases hw : terminal.workingDirectory with
    | none =>
      simp only [SavedField.value, hw]
      exact .null
    | some directory =>
      simp only [SavedField.value, hw]
      exact spells_string directory
  | sequence =>
    have hs : (SavedField.value terminal .sequence).writePretty depth = Nat.toDigits 10 terminal.sequence.toNat :=
      String.toList_ofList
    rw [hs]
    exact .integer _
  | busy | altBuffer | zombie => exact .bool _
  | _ => exact spells_string _

def writtenLabel (field : SavedField) : List Char :=
  writeString field.key ++ [':', ' ']

lemma label_written (field : SavedField) :
    Label (field.key.toList.flatMap escapeChar) (writtenLabel field) := by
  have hl : Label (field.key.toList.flatMap escapeChar)
      ('"' :: (field.key.toList.flatMap escapeChar ++ '"' :: ([] ++ ':' :: [' ']))) := .mk (by decide) (by decide)
  simpa [writtenLabel, writeString] using hl

lemma toJson_layout (depth : ℕ) : ObjectLayout terminal ((toJson terminal).writePretty depth) := by
  have ht : (toJson terminal).writePretty depth = Frame.object.text (SavedField.all.map fun field =>
      onLine (depth + 1) (writtenLabel field) ((field.value terminal).writePretty (depth + 1))) (newLine depth) := by
    rw [← layOut_text _ _ _ _ (by decide), toJson, Value.writePretty, prettyFields_eq, List.map_map]
    refine congrArg _ (List.map_congr_left fun field _ => ?_)
    simp [writtenLabel]
  have hf : List.Forall₂ (Tells terminal) (SavedField.all.map fun field =>
      onLine (depth + 1) (writtenLabel field) ((field.value terminal).writePretty (depth + 1)))
      (SavedField.all.map some) := by
    rw [List.forall₂_map_left_iff, List.forall₂_map_right_iff, List.forall₂_same]
    exact fun field _ => .known (spelling_written _) (label_written field) (spells_value terminal _ field)
  have hall : ∀ field, some field ∈ SavedField.all.map some := fun field =>
    List.mem_map.mpr ⟨field, by cases field <;> decide, rfl⟩
  rw [ht]
  exact .mk (List.forall_mem_map.mpr fun field _ => onLine_padded _ _ _) (blanks_newLine depth) hf (by decide)
    fun field hn => absurd (hall field) hn

lemma writeAll_layout : ListLayout terminals (writeAll terminals).toList := by
  rw [writeAll, Value.prettyText, String.toList_ofList, Value.writePretty, prettyItems_eq, List.map_map]
  by_cases hn : terminals = []
  · subst hn
    have hl : ListLayout [] (Frame.list.text [] []) := .mk (by simp) (by decide) (by simp) .nil
    exact hl
  · have ht := layOut_text .list 0 (fun _ => []) (fun terminal : SavedTerminal => (toJson terminal).writePretty 1) hn
    have hf : List.Forall₂ (fun terminal (entry : Entry) => ObjectLayout terminal entry.value) terminals
        (terminals.map fun terminal => onLine 1 [] ((toJson terminal).writePretty 1)) := by
      rw [List.forall₂_map_right_iff, List.forall₂_same]
      exact fun terminal _ => toJson_layout terminal 1
    have hl := ListLayout.mk (List.forall_mem_map.mpr fun terminal _ => onLine_padded 1 [] _) (blanks_newLine 0)
      (List.forall_mem_map.mpr fun terminal _ => rfl) hf
    rw [← ht] at hl
    exact hl

theorem readAll_writeAll : readAll (writeAll terminals) = .ok terminals :=
  readAll_layout ⟨[], _, [], by simp, by decide, by decide, writeAll_layout terminals⟩

end SavedTerminal

end TerminalSessions
