import Mathlib.Data.List.Basic
import Mathlib.Order.Nat
import TerminalSessions.Text.Numeral

/-! Decimal numerals. The reader accepts those up to its bound, and takes a text for too large as soon as the digits
that it has read go beyond the bound, whatever comes after them. -/

namespace TerminalSessions.Text

inductive Signed (digits : List Char) : List Char → Prop
  | bare : Signed digits digits
  | plus : Signed digits ('+' :: digits)

def AllDigits (cs : List Char) : Prop :=
  ∀ c ∈ cs, c.isDigit = true

def Numeral (text : String) (n : ℕ) : Prop :=
  ∃ digits, Signed digits text.toList ∧ digits ≠ [] ∧ AllDigits digits ∧ Nat.ofDigitChars 10 digits 0 = n

def Exceeds (bound : ℕ) (text : String) : Prop :=
  ∃ digits rest, Signed (digits ++ rest) text.toList ∧ AllDigits digits ∧ bound < Nat.ofDigitChars 10 digits 0

def Misspells (bound : ℕ) (text : String) : NumeralError → Prop
  | .empty => text = ""
  | .tooLarge => Exceeds bound text
  | .invalidDigit => text ≠ "" ∧ ¬ Exceeds bound text ∧ ∀ n ≤ bound, ¬ Numeral text n

variable {bound value n : ℕ} {c : Char} {digits cs : List Char} {text : String}

lemma le_ofDigitChars (value : ℕ) (digits : List Char) : value ≤ Nat.ofDigitChars 10 digits value := by
  induction digits generalizing value with
  | nil => exact le_rfl
  | cons c digits ih =>
    rw [Nat.ofDigitChars_cons]
    exact le_trans (by omega) (ih _)

lemma allDigits_cons : AllDigits (c :: cs) ↔ c.isDigit = true ∧ AllDigits cs :=
  List.forall_mem_cons

lemma appendDigits_ok (h : value ≤ bound) : appendDigits bound value cs = .ok n ↔
    AllDigits cs ∧ Nat.ofDigitChars 10 cs value = n ∧ n ≤ bound := by
  induction cs generalizing value with
  | nil =>
    rw [appendDigits, Nat.ofDigitChars_nil, Except.ok.injEq]
    refine ⟨fun he => ⟨List.forall_mem_nil _, he, he ▸ h⟩, fun he => he.2.1⟩
  | cons c cs ih =>
    rw [appendDigits, allDigits_cons, Nat.ofDigitChars_cons]
    by_cases hc : c.isDigit = true
    · by_cases hb : 10 * value + digitValue c ≤ bound
      · simp only [hc, if_true, if_pos hb, ih hb, true_and]
        rfl
      · -- the digits that follow only make the number larger
        have hl := le_ofDigitChars (10 * value + digitValue c) cs
        simp only [hc, if_true, if_neg hb, reduceCtorEq, false_iff]
        rintro ⟨-, rfl, hn⟩
        exact hb (hl.trans hn)
    · simp [hc]

lemma appendDigits_tooLarge (h : value ≤ bound) : appendDigits bound value cs = .error .tooLarge ↔
    ∃ digits rest, cs = digits ++ rest ∧ AllDigits digits ∧ bound < Nat.ofDigitChars 10 digits value := by
  induction cs generalizing value with
  | nil =>
    refine ⟨(fun he => by cases he), ?_⟩
    rintro ⟨digits, rest, hs, -, hb⟩
    rw [(List.nil_eq_append_iff.mp hs).1] at hb
    exact absurd h (Nat.not_le.mpr hb)
  | cons c cs ih =>
    have hsplit : (∃ digits rest, c :: cs = digits ++ rest ∧ AllDigits digits ∧
        bound < Nat.ofDigitChars 10 digits value) ↔ c.isDigit = true ∧ ∃ digits rest, cs = digits ++ rest ∧
          AllDigits digits ∧ bound < Nat.ofDigitChars 10 digits (10 * value + digitValue c) := by
      constructor
      · rintro ⟨_ | ⟨first, digits⟩, rest, hs, hd, hb⟩
        · exact absurd h (Nat.not_le.mpr hb)
        · obtain ⟨rfl, rfl⟩ := List.cons.inj hs
          exact ⟨(allDigits_cons.mp hd).1, digits, rest, rfl, (allDigits_cons.mp hd).2, hb⟩
      · rintro ⟨hc, digits, rest, rfl, hd, hb⟩
        exact ⟨c :: digits, rest, rfl, allDigits_cons.mpr ⟨hc, hd⟩, hb⟩
    rw [appendDigits, hsplit]
    by_cases hc : c.isDigit = true
    · by_cases hb : 10 * value + digitValue c ≤ bound
      · simp only [hc, if_true, if_pos hb, ih hb, true_and]
      · simp only [hc, if_true, if_neg hb, true_and, true_iff]
        exact ⟨[], cs, rfl, List.forall_mem_nil _, Nat.lt_of_not_le hb⟩
    · simp [hc]

lemma appendDigits_ne_empty : appendDigits bound value cs ≠ .error .empty := by
  induction cs generalizing value with
  | nil => exact fun h => by cases h
  | cons c cs ih =>
    rw [appendDigits]
    dsimp only
    split_ifs
    · exact ih
    · simp
    · simp

def unsigned (cs : List Char) : List Char :=
  if cs.head? = some '+' then cs.tail else cs

lemma signed_unsigned (cs : List Char) : Signed (unsigned cs) cs := by
  rw [unsigned]
  split_ifs with h
  · obtain ⟨rest, rfl⟩ := List.head?_eq_some_iff.mp h
    exact .plus
  · exact .bare

lemma Signed.eq_unsigned (h : Signed digits cs) (hd : digits.head? ≠ some '+') : digits = unsigned cs := by
  cases h with
  | plus => rfl
  | bare => rw [unsigned, if_neg hd]

lemma AllDigits.head (h : AllDigits digits) (rest : List Char) (hn : digits ≠ []) :
    (digits ++ rest).head? ≠ some '+' := by
  obtain ⟨c, others, rfl⟩ := List.exists_cons_of_ne_nil hn
  rintro ⟨⟩
  exact absurd (allDigits_cons.mp h).1 (by decide)

lemma numeral_iff : Numeral text n ↔ unsigned text.toList ≠ [] ∧ AllDigits (unsigned text.toList) ∧
    Nat.ofDigitChars 10 (unsigned text.toList) 0 = n := by
  refine ⟨?_, fun h => ⟨_, signed_unsigned _, h⟩⟩
  rintro ⟨digits, hs, hn, hd, he⟩
  rw [← hs.eq_unsigned (List.append_nil digits ▸ hd.head [] hn)]
  exact ⟨hn, hd, he⟩

lemma exceeds_iff : Exceeds bound text ↔ ∃ digits rest, unsigned text.toList = digits ++ rest ∧
    AllDigits digits ∧ bound < Nat.ofDigitChars 10 digits 0 := by
  constructor
  · rintro ⟨digits, rest, hs, hd, hb⟩
    have hn : digits ≠ [] := by
      rintro rfl
      exact absurd hb (Nat.not_lt_zero _)
    exact ⟨digits, rest, (hs.eq_unsigned (hd.head rest hn)).symm, hd, hb⟩
  · rintro ⟨digits, rest, hs, hd, hb⟩
    exact ⟨digits, rest, hs ▸ signed_unsigned _, hd, hb⟩

lemma readNumeral_eq (bound : ℕ) (text : String) : readNumeral bound text =
    if text.toList = [] then .error .empty
    else if unsigned text.toList = [] then .error .invalidDigit
    else appendDigits bound 0 (unsigned text.toList) := by
  rw [readNumeral]
  split
  case h_1 h => rw [h, if_pos rfl]
  case h_2 h => simp [h, unsigned]
  case h_3 digits hd h =>
    have hne : digits ≠ [] := hd
    simp [h, unsigned, hne]
  case h_4 hn hp hd =>
    have hu : unsigned text.toList = text.toList := by
      rw [unsigned, if_neg]
      intro h
      obtain ⟨rest, hr⟩ := List.head?_eq_some_iff.mp h
      exact hd rest hr
    rw [hu, if_neg hn, if_neg hn]

theorem readNumeral_ok : readNumeral bound text = .ok n ↔ Numeral text n ∧ n ≤ bound := by
  rw [readNumeral_eq, numeral_iff]
  split_ifs with he hu
  · simp [he, unsigned]
  · simp [hu]
  · simp [appendDigits_ok (Nat.zero_le _), hu, and_assoc]

theorem readNumeral_tooLarge : readNumeral bound text = .error .tooLarge ↔ Exceeds bound text := by
  rw [readNumeral_eq, exceeds_iff]
  split_ifs with he hu
  · simp [he, unsigned]
  · simp [hu]
  · exact appendDigits_tooLarge (Nat.zero_le _)

theorem readNumeral_empty : readNumeral bound text = .error .empty ↔ text = "" := by
  rw [readNumeral_eq]
  split_ifs with he hu
  · simpa using he
  · simpa using he
  · simpa [appendDigits_ne_empty] using he

theorem readNumeral_error {error : NumeralError} :
    readNumeral bound text = .error error ↔ Misspells bound text error := by
  cases error with
  | empty => exact readNumeral_empty
  | tooLarge => exact readNumeral_tooLarge
  | invalidDigit =>
    have hempty : readNumeral bound text = .error .empty ↔ text = "" := readNumeral_empty
    rw [Misspells, ← readNumeral_tooLarge, Ne, ← hempty]
    constructor
    · intro h
      refine ⟨by simp [h], by simp [h], fun n hb hn => ?_⟩
      cases h.symm.trans (readNumeral_ok.mpr ⟨hn, hb⟩)
    · rintro ⟨he, hl, hn⟩
      cases hr : readNumeral bound text with
      | ok n => exact absurd (readNumeral_ok.mp hr).1 (hn n (readNumeral_ok.mp hr).2)
      | error error => cases error <;> simp_all

lemma Numeral.unique {other : ℕ} (h : Numeral text n) (ho : Numeral text other) : n = other :=
  (numeral_iff.mp h).2.2.symm.trans (numeral_iff.mp ho).2.2

end TerminalSessions.Text
