import TerminalSessions.Json.Typed
import TerminalSessions.Proofs.Json.Spelling

namespace TerminalSessions.Json

open TerminalSessions.Text (decimal digitValue)

def EndsNumber (rest : List Char) : Prop :=
  ∀ c ∈ rest.head?, c.isDigit = false ∧ c ≠ '.' ∧ c ≠ 'e' ∧ c ≠ 'E'

lemma absorb_digits {digits : List Char} {significand : ℕ}
    (h : Nat.ofDigitChars 10 digits significand ≤ greatestSignificand) :
    absorb significand digits = (Nat.ofDigitChars 10 digits significand, []) := by
  induction digits generalizing significand with
  | nil => rfl
  | cons c cs ih =>
    rw [Nat.ofDigitChars_cons] at h
    have hn : 10 * significand + digitValue c ≤ greatestSignificand := by
      refine le_trans ?_ h
      rw [Nat.ofDigitChars_eq_ofDigitChars_zero]
      exact le_trans (Nat.le_mul_of_pos_left _ (Nat.pow_pos (by decide))) (Nat.le_add_right _ _)
    rw [absorb, if_pos hn, Nat.ofDigitChars_cons]
    exact ih h

lemma head_digits {n : ℕ} (h : n ≠ 0) : ∃ c cs, Nat.toDigits 10 n = c :: cs ∧ c ≠ '0' := by
  induction n using Nat.strongRecOn with
  | ind n ih =>
    rw [Nat.toDigits_eq_if (by decide)]
    split
    case isTrue hn => exact ⟨_, [], rfl, by simpa using h⟩
    case isFalse hn =>
      obtain ⟨c, cs, hc, hz⟩ := ih (n / 10) (by omega) (by omega)
      exact ⟨c, cs ++ [_], by rw [hc]; rfl, hz⟩

lemma startsExponent_end {rest : List Char} (h : EndsNumber rest) : startsExponent rest = false := by
  cases rest with
  | nil => rfl
  | cons c cs =>
    obtain ⟨-, -, he, hE⟩ := h c rfl
    simp [startsExponent, he, hE]

lemma takeWhile_end {rest : List Char} (h : EndsNumber rest) : rest.takeWhile Char.isDigit = [] := by
  cases rest with
  | nil => rfl
  | cons c cs => simp [(h c rfl).1]

lemma dropWhile_end {rest : List Char} (h : EndsNumber rest) : rest.dropWhile Char.isDigit = rest := by
  cases rest with
  | nil => rfl
  | cons c cs => simp [(h c rfl).1]

lemma digits_cons (n : ℕ) {rest : List Char} (h : EndsNumber rest) : ∃ c cs, Nat.toDigits 10 n = c :: cs ∧
    c.isDigit = true ∧ ¬ (c = '0' ∧ (cs ++ rest).takeWhile Char.isDigit ≠ []) := by
  by_cases hn : n = 0
  · subst hn
    exact ⟨'0', [], rfl, rfl, fun hf => hf.2 (takeWhile_end h)⟩
  · obtain ⟨c, cs, hc, hz⟩ := head_digits hn
    have hd : c.isDigit = true :=
      Nat.isDigit_of_mem_toDigits (by decide) (by decide) (hc ▸ List.mem_cons_self : c ∈ Nat.toDigits 10 n)
    exact ⟨c, cs, hc, hd, fun hf => hz hf.1⟩

theorem takeNumber_written {n : ℕ} (hn : n ≤ greatestSignificand) {rest : List Char} (h : EndsNumber rest) :
    takeNumber (Nat.toDigits 10 n ++ rest) = .ok (.integer n, rest) := by
  have hd : ∀ c ∈ Nat.toDigits 10 n, c.isDigit = true := fun c =>
    Nat.isDigit_of_mem_toDigits (by decide) (by decide)
  have ha : absorb 0 (Nat.toDigits 10 n) = (n, []) := by
    rw [absorb_digits] <;> rw [Nat.ofDigitChars_ten_toDigits]
    exact hn
  have ht : (Nat.toDigits 10 n ++ rest).takeWhile Char.isDigit = Nat.toDigits 10 n := by
    rw [List.takeWhile_append_of_pos hd, takeWhile_end h, List.append_nil]
  have hr : (Nat.toDigits 10 n ++ rest).dropWhile Char.isDigit = rest := by
    rw [List.dropWhile_append_of_pos hd, dropWhile_end h]
  have hp : ∀ fraction, rest ≠ '.' :: fraction := by
    rintro fraction rfl
    exact (h '.' rfl).2.1 rfl
  obtain ⟨c, cs, hc, hdc, hz⟩ := digits_cons n h
  have hm : c ≠ '-' := by
    rintro rfl
    exact absurd hdc (by decide)
  have hs : takeNumber (c :: (cs ++ rest)) = takeMagnitude false (c :: (cs ++ rest)) := by
    simp [takeNumber, hm]
  rw [hc, List.cons_append] at ht hr ⊢
  rw [← hc] at ht
  simp only [hs, takeMagnitude, hdc, if_true, if_neg hz, ht, hr, ha, List.length_nil, List.isEmpty_nil]
  rw [startsExponent_end h]
  rfl

lemma skipBlanks_cons {c : Char} (h : isBlank c = false) (cs : List Char) :
    skipBlanks (c :: cs) = c :: cs := by
  simp [skipBlanks, h]

lemma skipBlanks_append {blanks : List Char} (h : ∀ c ∈ blanks, isBlank c = true) (cs : List Char) :
    skipBlanks (blanks ++ cs) = skipBlanks cs :=
  List.dropWhile_append_of_pos h

lemma isBlank_digit {c : Char} (h : c.isDigit = true) : isBlank c = false := by
  rw [Bool.eq_false_iff]
  intro hb
  simp only [isBlank, Bool.or_eq_true, decide_eq_true_eq] at hb
  rcases hb with ((rfl | rfl) | rfl) | rfl <;> exact absurd h (by decide)

lemma commaSeparated_cons (text : List Char) (texts : List (List Char)) :
    commaSeparated (text :: texts) = text ++ texts.flatMap (',' :: ·) := by
  induction texts generalizing text with
  | nil => simp [commaSeparated]
  | cons next texts ih => simp [commaSeparated, ih]

variable {before cs rest : List Char}

lemma nextItem_first {c : Char} (h : skipBlanks cs = c :: rest) (hc : c ≠ ']') :
    nextItem true cs = .ok (.item (c :: rest)) := by
  simp [nextItem, h, hc]

lemma nextItem_further {c : Char} (hb : skipBlanks before = ',' :: cs) (h : skipBlanks cs = c :: rest)
    (hc : c ≠ ']') : nextItem false before = .ok (.item (c :: rest)) := by
  simp [nextItem, hb, h, hc]

lemma nextItem_finished (isFirst : Bool) (h : skipBlanks cs = ']' :: rest) :
    nextItem isFirst cs = .ok (.finished (']' :: rest)) := by
  simp [nextItem, h]

lemma takeListEnd_closing (rest : List Char) : takeListEnd (']' :: rest) = .ok rest := by
  rw [takeListEnd, skipBlanks_cons rfl]
  rfl

lemma takeObjectEnd_closing (rest : List Char) : takeObjectEnd ('\x7d' :: rest) = .ok rest := by
  rw [takeObjectEnd, skipBlanks_cons rfl]
  rfl

lemma nextField_finished (isFirst : Bool) (h : skipBlanks cs = '\x7d' :: rest) :
    nextField isFirst cs = .ok (.finished ('\x7d' :: rest)) := by
  simp [nextField, h]

lemma nextField_first (h : skipBlanks cs = '"' :: rest) :
    nextField true cs = .ok (.item ('"' :: rest)) := by
  simp [nextField, h]

lemma nextField_further (hb : skipBlanks before = ',' :: cs) (h : skipBlanks cs = '"' :: rest) :
    nextField false before = .ok (.item ('"' :: rest)) := by
  simp [nextField, hb, h]

inductive Spells : Value → List Char → Prop
  | null : Spells .null "null".toList
  | bool (value : Bool) : Spells (.bool value) (writeBool value)
  | integer (n : ℕ) : Spells (.integer n) (Nat.toDigits 10 n)
  | string {text : String} {cs : List Char} (h : Spelling text.toList cs) : Spells (.string text) ('"' :: (cs ++ ['"']))

variable {value : Value} {written : List Char}

lemma spells_string (text : String) : Spells (.string text) (writeString text) :=
  .string (spelling_written text.toList)

lemma Spells.head (h : Spells value written) : ∃ c cs, written = c :: cs ∧ isBlank c = false := by
  cases h with
  | null => exact ⟨_, _, rfl, rfl⟩
  | bool value => cases value <;> exact ⟨_, _, rfl, rfl⟩
  | integer n =>
    obtain ⟨c, cs, hc⟩ := List.exists_cons_of_ne_nil (Nat.toDigits_ne_nil (n := n) (b := 10))
    have hd : c.isDigit = true :=
      Nat.isDigit_of_mem_toDigits (by decide) (by decide) (hc ▸ List.mem_cons_self : c ∈ Nat.toDigits 10 n)
    exact ⟨c, cs, hc, isBlank_digit hd⟩
  | string => exact ⟨_, _, rfl, rfl⟩

lemma takeText_spelled {text : String} (h : Spells (.string text) written) (hs : skipBlanks cs = written ++ rest) :
    takeText cs = .ok (text, rest) := by
  cases h with
  | string h => simp [takeText, hs, takeString_spelled h]

lemma takeOptionalText_null (h : Spells .null written) (hs : skipBlanks cs = written ++ rest) :
    takeOptionalText cs = .ok (none, rest) := by
  cases h
  simp [takeOptionalText, hs, takeWord, Except.map]

lemma takeOptionalText_spelled {text : String} (h : Spells (.string text) written)
    (hs : skipBlanks cs = written ++ rest) : takeOptionalText cs = .ok (some text, rest) := by
  have ht : takeText (written ++ rest) = .ok (text, rest) := by
    refine takeText_spelled h ?_
    cases h
    exact skipBlanks_cons rfl _
  rw [takeOptionalText, hs]
  cases h
  exact congrArg (Except.map fun read => (some read.1, read.2)) ht

lemma takeBool_spelled {value : Bool} (h : Spells (.bool value) written) (hs : skipBlanks cs = written ++ rest) :
    takeBool cs = .ok (value, rest) := by
  cases h
  cases value <;> simp [takeBool, hs, writeBool, takeWord, Except.map]

lemma takeUInt32_spelled {value : UInt32} (h : Spells (.integer value.toNat) written) (hr : EndsNumber rest)
    (hs : skipBlanks cs = written ++ rest) : takeUInt32 cs = .ok (value, rest) := by
  generalize hn : (value.toNat : Int) = number at h
  cases h with
  | integer n =>
    obtain rfl := Int.ofNat.inj hn
    have hl := value.toNat_lt
    have ht := takeNumber_written (n := value.toNat) (by rw [greatestSignificand]; omega) hr
    obtain ⟨c, digits, hc, hd, -⟩ := digits_cons value.toNat hr
    rw [hc, List.cons_append] at hs ht
    simp only [takeUInt32, hs, hd, or_true, if_true, ht]
    rw [if_pos (by omega), Int.toNat_natCast, UInt32.ofNat_toNat]

lemma takeVariant_spelled {α : Type} {ofName? : String → Option α} {known : List String} {name : String}
    {variant : α} (hv : ofName? name = some variant) (h : Spells (.string name) written)
    (hs : skipBlanks cs = written ++ rest) : takeVariant ofName? known cs = .ok (variant, rest) := by
  cases h with
  | string h => simp [takeVariant, hs, takeName, takeString_spelled h, hv]

end TerminalSessions.Json
