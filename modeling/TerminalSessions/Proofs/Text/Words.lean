import Mathlib.Tactic.Common
import TerminalSessions.Text.Layout

namespace TerminalSessions.Text

inductive HasWords : List Char → List (List Char) → Prop
  | none {blanks : List Char} (h : ∀ c ∈ blanks, isBlank c = true) : HasWords blanks []
  | word {blanks word rest : List Char} {others : List (List Char)} (hb : ∀ c ∈ blanks, isBlank c = true)
    (hn : word ≠ []) (hw : ∀ c ∈ word, isBlank c = false) (he : ∀ c ∈ rest.head?, isBlank c = true)
    (hr : HasWords rest others) : HasWords (blanks ++ word ++ rest) (word :: others)

def IsWord (word : String) : Prop :=
  word ≠ "" ∧ ∀ c ∈ word.toList, isBlank c = false

instance (word : String) : Decidable (IsWord word) :=
  decidable_of_iff (word ≠ "" ∧ word.toList.all (!isBlank ·) = true) (by simp [IsWord])

variable {c : Char} {cs blanks word rest : List Char} {others : List (List Char)}

lemma words_cons_blank (h : isBlank c = true) (cs : List Char) : words (c :: cs) = words cs := by
  rw [words, if_pos h]

lemma words_blanks (h : ∀ c ∈ blanks, isBlank c = true) (cs : List Char) : words (blanks ++ cs) = words cs := by
  induction blanks with
  | nil => rfl
  | cons blank blanks ih =>
    rw [List.cons_append, words_cons_blank (h _ List.mem_cons_self)]
    exact ih fun c hc => h c (List.mem_cons_of_mem _ hc)

lemma words_word (hn : word ≠ []) (hw : ∀ c ∈ word, isBlank c = false) (he : ∀ c ∈ rest.head?, isBlank c = true) :
    words (word ++ rest) = word :: words rest := by
  induction word with
  | nil => exact absurd rfl hn
  | cons c word ih =>
    have hc : isBlank c = false := hw c List.mem_cons_self
    rw [List.cons_append, words, hc]
    cases word with
    | nil =>
      have hs : startsWord rest = false := by
        cases rest with
        | nil => rfl
        | cons d ds => simp [startsWord, he d rfl]
      simp [hs]
    | cons d ds =>
      have hd : startsWord (d :: ds ++ rest) = true := by
        simp [startsWord, hw d (List.mem_cons_of_mem _ List.mem_cons_self)]
      rw [hd, ih (List.cons_ne_nil _ _) fun c hc => hw c (List.mem_cons_of_mem _ hc)]
      rfl

namespace HasWords

lemma words_eq (h : HasWords cs others) : words cs = others := by
  induction h with
  | @none blanks h => exact (congrArg words (List.append_nil blanks)).symm.trans (words_blanks h [])
  | word hb hn hw he _ ih => rw [List.append_assoc, words_blanks hb, words_word hn hw he, ih]

lemma blank (hc : isBlank c = true) (h : HasWords cs others) : HasWords (c :: cs) others := by
  cases h with
  | none h => exact .none (List.forall_mem_cons.mpr ⟨hc, h⟩)
  | word hb hn hw he hr => exact .word (List.forall_mem_cons.mpr ⟨hc, hb⟩) hn hw he hr

end HasWords

lemma hasWords (cs : List Char) : HasWords cs (words cs) := by
  suffices h : ∃ others, HasWords cs others by
    obtain ⟨others, h⟩ := h
    rwa [h.words_eq]
  induction cs with
  | nil => exact ⟨[], .none (List.forall_mem_nil _)⟩
  | cons c cs ih =>
    obtain ⟨others, h⟩ := ih
    cases hc : isBlank c with
    | true => exact ⟨others, h.blank hc⟩
    | false =>
      -- before the end or a blank the character is a word of its own, otherwise it begins the word behind it
      have hone : ∀ d ∈ [c], isBlank d = false := List.forall_mem_singleton.mpr hc
      cases h with
      | none hb =>
        have he : ∀ d ∈ cs.head?, isBlank d = true := fun d hd => hb d (List.mem_of_mem_head? hd)
        exact ⟨[[c]], .word (List.forall_mem_nil _) (List.cons_ne_nil _ _) hone he (.none hb)⟩
      | @word blanks word rest others hb hn hw he hr =>
        cases blanks with
        | nil =>
          refine ⟨(c :: word) :: others, ?_⟩
          exact .word (List.forall_mem_nil _) (List.cons_ne_nil _ _) (List.forall_mem_cons.mpr ⟨hc, hw⟩) he hr
        | cons blank blanks =>
          have hd : ∀ d ∈ (blank :: blanks ++ word ++ rest).head?, isBlank d = true := by
            intro d hd
            obtain rfl : blank = d := by simpa using hd
            exact hb blank List.mem_cons_self
          refine ⟨[c] :: word :: others, ?_⟩
          exact .word (List.forall_mem_nil _) (List.cons_ne_nil _ _) hone hd (.word hb hn hw he hr)

lemma HasWords.mem (h : HasWords cs others) (hm : word ∈ others) : word ≠ [] ∧ ∀ c ∈ word, isBlank c = false := by
  induction h with
  | none => cases hm
  | word _ hn hw _ _ ih =>
    rcases List.mem_cons.mp hm with rfl | hm
    · exact ⟨hn, hw⟩
    · exact ih hm

lemma HasWords.append {later : List (List Char)} (h : HasWords cs others) (hc : isBlank c = true)
    (h' : HasWords rest later) : HasWords (cs ++ c :: rest) (others ++ later) := by
  induction h with
  | @none blanks hb =>
    induction blanks with
    | nil => exact h'.blank hc
    | cons blank blanks ih =>
      obtain ⟨hblank, hb⟩ := List.forall_mem_cons.mp hb
      exact (ih hb).blank hblank
  | @word blanks word behind others hb hn hw he _ ih =>
    have he' : ∀ d ∈ (behind ++ c :: rest).head?, isBlank d = true := by
      cases behind with
      | nil => simpa using hc
      | cons d ds => simpa using he
    have ha : blanks ++ word ++ behind ++ c :: rest = blanks ++ word ++ (behind ++ c :: rest) := by simp
    rw [ha]
    exact .word hb hn hw he' ih

lemma isWord_iff {text : String} : IsWord text ↔ text.toList ≠ [] ∧ ∀ c ∈ text.toList, isBlank c = false := by
  simp [IsWord]

lemma isWord_of_mem {line text : String} (h : text ∈ wordsOf line) : IsWord text := by
  obtain ⟨word, hm, rfl⟩ := List.mem_map.mp h
  have hw := (hasWords line.toList).mem hm
  simpa [isWord_iff] using hw

lemma wordsOf_word {text : String} (h : IsWord text) : wordsOf text = [text] := by
  obtain ⟨hn, hw⟩ := isWord_iff.mp h
  have hs : words (text.toList ++ []) = [text.toList] := words_word hn hw (by simp)
  rw [List.append_nil] at hs
  rw [wordsOf, hs, List.map_singleton, String.ofList_toList]

lemma wordsOf_spaced (first second : String) : wordsOf (first ++ " " ++ second) = wordsOf first ++ wordsOf second := by
  have h := (hasWords first.toList).append (by decide : isBlank ' ' = true) (hasWords second.toList)
  have ht : (first ++ " " ++ second).toList = first.toList ++ ' ' :: second.toList := by simp
  rw [wordsOf, ht, h.words_eq, List.map_append]
  rfl

end TerminalSessions.Text
