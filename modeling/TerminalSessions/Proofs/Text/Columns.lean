import Mathlib.Data.List.DropRight
import TerminalSessions.Proofs.Text.Words
import TerminalSessions.Text.Layout

namespace TerminalSessions.Text

def IsSpaced (text : String) : Prop :=
  ∀ c ∈ text.toList, isBlank c = true → c = ' '

def IsClosed (text : String) : Prop :=
  ∃ before c, text.toList = before ++ [c] ∧ isBlank c = false

variable {text first second last : String} {texts : List String}

lemma IsSpaced.append (hf : IsSpaced first) (hs : IsSpaced second) : IsSpaced (first ++ second) := by
  intro c hc
  rw [String.toList_append] at hc
  exact (List.mem_append.mp hc).elim (hf c) (hs c)

lemma IsSpaced.newline_not_mem (h : IsSpaced text) : '\n' ∉ text.toList :=
  fun hm => absurd (h '\n' hm (by decide)) (by decide)

lemma isSpaced_spaces (count : ℕ) : IsSpaced (spaces count) := by
  intro c hc _
  rw [spaces, String.toList_ofList] at hc
  exact List.eq_of_mem_replicate hc

lemma mem_alignLeft {width : ℕ} {text : String} {c : Char} (h : c ∈ (alignLeft width text).toList) :
    c ∈ text.toList ∨ c = ' ' := by
  rw [alignLeft, String.toList_append, List.mem_append, spaces, String.toList_ofList] at h
  exact h.imp_right List.eq_of_mem_replicate

lemma isSpaced_word (h : IsWord text) : IsSpaced text := by
  intro c hc hb
  rw [h.2 c hc] at hb
  cases hb

lemma isSpaced_alignLeft (width : ℕ) (h : IsSpaced text) : IsSpaced (alignLeft width text) :=
  h.append (isSpaced_spaces _)

lemma isSpaced_alignRight (width : ℕ) (h : IsSpaced text) : IsSpaced (alignRight width text) :=
  (isSpaced_spaces _).append h

lemma isSpaced_intercalate {separator : String} (hs : IsSpaced separator) (h : ∀ text ∈ texts, IsSpaced text) :
    IsSpaced (separator.intercalate texts) := by
  induction texts with
  | nil => simp [IsSpaced]
  | cons first others ih =>
    obtain ⟨hf, ho⟩ := List.forall_mem_cons.mp h
    cases others with
    | nil => rwa [String.intercalate_singleton]
    | cons second others =>
      rw [String.intercalate_cons_cons]
      exact (hf.append hs).append (ih ho)

lemma IsClosed.append (h : IsClosed second) (first : String) : IsClosed (first ++ second) := by
  obtain ⟨before, c, he, hc⟩ := h
  refine ⟨first.toList ++ before, c, ?_, hc⟩
  rw [String.toList_append, he, List.append_assoc]

lemma isClosed_word (h : IsWord text) : IsClosed text := by
  obtain ⟨hn, hw⟩ := isWord_iff.mp h
  obtain ⟨before, c, he⟩ := (List.eq_nil_or_concat text.toList).resolve_left hn
  rw [List.concat_eq_append] at he
  exact ⟨before, c, he, hw c (by simp [he])⟩

lemma isClosed_intercalate (separator : String) (texts : List String) (h : IsClosed last) :
    IsClosed (separator.intercalate (texts ++ [last])) := by
  by_cases hn : texts = []
  · rwa [hn, List.nil_append, String.intercalate_singleton]
  · rw [String.intercalate_append_of_ne_nil hn (List.cons_ne_nil _ _), String.intercalate_singleton]
    exact h.append _

lemma trimEnd_closed (h : IsClosed text) : trimEnd (text.toList ++ ['\n']) = text.toList := by
  obtain ⟨before, c, he, hc⟩ := h
  change List.rdropWhile isBlank (text.toList ++ ['\n']) = text.toList
  rw [List.rdropWhile_concat_pos isBlank _ _ (by decide), he, List.rdropWhile_concat_neg isBlank _ _ (by simp [hc])]

lemma flatMap_line (texts : List String) (hn : texts ≠ []) :
    texts.flatMap (fun text => text.toList ++ ['\n']) = ("\n".intercalate texts).toList ++ ['\n'] := by
  induction texts with
  | nil => exact absurd rfl hn
  | cons first others ih =>
    cases others with
    | nil => simp
    | cons second others =>
      rw [List.flatMap_cons, ih (List.cons_ne_nil _ _), String.intercalate_cons_cons]
      simp

lemma wordsOf_padded (h : IsWord text) (before behind : ℕ) :
    wordsOf (spaces before ++ text ++ spaces behind) = [text] := by
  have hs : ∀ count, ∀ c ∈ List.replicate count ' ', isBlank c = true := by
    intro count c hc
    rw [List.eq_of_mem_replicate hc]
    decide
  have he : ∀ c ∈ (List.replicate behind ' ').head?, isBlank c = true :=
    fun c hc => hs behind c (List.mem_of_mem_head? hc)
  obtain ⟨hn, hw⟩ := isWord_iff.mp h
  have ht := (HasWords.word (hs before) hn hw he (.none (hs behind))).words_eq
  simp only [wordsOf, spaces, String.toList_append, String.toList_ofList, ht, List.map_singleton, String.ofList_toList]

lemma wordsOf_alignLeft (h : IsWord text) (width : ℕ) : wordsOf (alignLeft width text) = [text] := by
  have hp := wordsOf_padded h 0 (width - text.length)
  rwa [spaces, List.replicate_zero, String.ofList_nil, String.empty_append] at hp

lemma wordsOf_alignRight (h : IsWord text) (width : ℕ) : wordsOf (alignRight width text) = [text] := by
  have hp := wordsOf_padded h (width - text.length) 0
  rwa [spaces, spaces, List.replicate_zero, String.ofList_nil, String.append_empty] at hp

lemma wordsOf_columns (texts : List String) : wordsOf ("  ".intercalate texts) = texts.flatMap wordsOf := by
  induction texts with
  | nil => rfl
  | cons first others ih =>
    cases others with
    | nil => simp
    | cons second others =>
      -- between the two spaces stands a column without words
      have ht : first ++ "  " = first ++ " " ++ "" ++ " " := by
        rw [String.append_empty, String.append_assoc]
        rfl
      rw [String.intercalate_cons_cons, ht, wordsOf_spaced, wordsOf_spaced, List.flatMap_cons, ← ih]
      exact congrArg (· ++ _) (List.append_nil _)

end TerminalSessions.Text
