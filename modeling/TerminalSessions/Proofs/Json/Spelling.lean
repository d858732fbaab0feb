import Mathlib.Data.List.Basic
import Mathlib.Order.Nat
import TerminalSessions.Json.Scanner
import TerminalSessions.Json.Value

namespace TerminalSessions.Json

def HexDigit (c : Char) (n : ℕ) : Prop :=
  n < 16 ∧ (c = Nat.digitChar n ∨ c = (Nat.digitChar n).toUpper)

inductive HexCode : ℕ → List Char → Prop
  | mk {a b c d : Char} {p q r s : ℕ} (ha : HexDigit a p) (hb : HexDigit b q) (hc : HexDigit c r) (hd : HexDigit d s) :
      HexCode (((p * 16 + q) * 16 + r) * 16 + s) [a, b, c, d]

def shortEscapes : List (Char × Char) :=
  [('"', '"'), ('\\', '\\'), ('/', '/'), ('b', '\x08'), ('f', '\x0c'), ('n', '\n'), ('r', '\r'), ('t', '\t')]

inductive CharSpelling : Char → List Char → Prop
  | plain {c : Char} (hc : 0x20 ≤ c.toNat) (hq : c ≠ '"') (hb : c ≠ '\\') : CharSpelling c [c]
  | short {letter c : Char} (h : (letter, c) ∈ shortEscapes) : CharSpelling c ['\\', letter]
  | code {c : Char} {digits : List Char} (h : HexCode c.toNat digits) : CharSpelling c ('\\' :: 'u' :: digits)
  | pair {c : Char} {high low : ℕ} {first second : List Char} (hf : HexCode (0xD800 + high) first)
      (hs : HexCode (0xDC00 + low) second) (hh : high < 0x400) (hl : low < 0x400)
      (hc : c.toNat = 0x10000 + high * 0x400 + low) :
      CharSpelling c ('\\' :: 'u' :: first ++ '\\' :: 'u' :: second)

inductive Spelling : List Char → List Char → Prop
  | nil : Spelling [] []
  | cons {c : Char} {cs text rest : List Char} (h : CharSpelling c cs) (hs : Spelling text rest) :
      Spelling (c :: text) (cs ++ rest)

variable {c letter : Char} {n : ℕ} {cs text rest done : List Char}

lemma hexValue_digit (h : HexDigit c n) : hexValue? c = some n := by
  have hd : ∀ n < 16, hexValue? (Nat.digitChar n) = some n ∧ hexValue? (Nat.digitChar n).toUpper = some n := by
    decide
  obtain ⟨hn, rfl | rfl⟩ := h
  · exact (hd n hn).1
  · exact (hd n hn).2

lemma takeHexCode_code (h : HexCode n cs) (rest : List Char) : takeHexCode (cs ++ rest) = .ok (n, rest) := by
  obtain ⟨ha, hb, hc, hd⟩ := h
  simp [takeHexCode, hexCode?, hexValue_digit ha, hexValue_digit hb, hexValue_digit hc, hexValue_digit hd]

lemma escapedChar_short (h : (letter, c) ∈ shortEscapes) : letter ≠ 'u' ∧ escapedChar? letter = some c := by
  have ha : ∀ escape ∈ shortEscapes, escape.1 ≠ 'u' ∧ escapedChar? escape.1 = some escape.2 := by decide
  exact ha (letter, c) h

lemma not_surrogate (c : Char) : isTrailing c.toNat = false ∧ isLeading c.toNat = false := by
  have hv : c.toNat < 0xD800 ∨ 0xDFFF < c.toNat ∧ c.toNat < 0x110000 := c.valid
  simp only [isTrailing, isLeading, Bool.and_eq_false_iff, decide_eq_false_iff_not]
  omega

lemma takeTrailing_pair {high low : ℕ} (hs : HexCode (0xDC00 + low) cs) (hl : low < 0x400)
    (hc : c.toNat = 0x10000 + high * 0x400 + low) (rest : List Char) :
    takeTrailing (0xD800 + high) ('\\' :: 'u' :: (cs ++ rest)) = .ok (c, rest) := by
  have ht : isTrailing (0xDC00 + low) = true := by
    simp only [isTrailing, Bool.and_eq_true, decide_eq_true_eq]
    omega
  have hn : (0xD800 + high - 0xD800) * 0x400 + (0xDC00 + low - 0xDC00) + 0x10000 = c.toNat := by
    omega
  have hp : pairedChar (0xD800 + high) (0xDC00 + low) = c := by
    rw [pairedChar, hn, Char.ofNat_toNat]
  simp [takeTrailing, takeHexCode_code hs, ht, hp]

lemma takeCharacters_char (h : CharSpelling c cs) (rounds : ℕ) (done rest : List Char) :
    takeCharacters (rounds + 1) done (cs ++ rest) = takeCharacters rounds (c :: done) rest := by
  cases h with
  | plain hc hq hb => simp [takeCharacters, hq, hb, Nat.not_lt.mpr hc]
  | short h =>
    obtain ⟨hu, hs⟩ := escapedChar_short h
    simp [takeCharacters, takeEscape, hu, hs]
  | code h =>
    simp [takeCharacters, takeEscape, takeHexCode_code h, not_surrogate]
  | pair hf hs hh hl hc =>
    rename_i high low first second
    have hn : isTrailing (0xD800 + high) = false ∧ isLeading (0xD800 + high) = true := by
      simp only [isTrailing, isLeading, Bool.and_eq_false_iff, Bool.and_eq_true, decide_eq_false_iff_not,
        decide_eq_true_eq]
      omega
    simp [takeCharacters, takeEscape, takeHexCode_code hf, hn, takeTrailing_pair hs hl hc]

lemma CharSpelling.length_pos (h : CharSpelling c cs) : 0 < cs.length := by
  cases h <;> simp

lemma Spelling.length_le (h : Spelling text cs) : text.length ≤ cs.length := by
  induction h with
  | nil => exact le_rfl
  | cons h _ ih =>
    have hc := h.length_pos
    rw [List.length_append, List.length_cons]
    omega

lemma takeCharacters_text (h : Spelling text cs) {rounds : ℕ} (hr : text.length < rounds) (done rest : List Char) :
    takeCharacters rounds done (cs ++ '"' :: rest) = .ok (String.ofList (done.reverse ++ text), rest) := by
  induction h generalizing rounds done with
  | nil =>
    obtain ⟨rounds, rfl⟩ := Nat.exists_eq_succ_of_ne_zero (Nat.ne_of_gt hr)
    simp [takeCharacters]
  | cons h _ ih =>
    obtain ⟨rounds, rfl⟩ := Nat.exists_eq_succ_of_ne_zero (Nat.ne_of_gt (Nat.zero_lt_of_lt hr))
    rw [List.append_assoc, takeCharacters_char h, ih (by simpa using hr)]
    simp

theorem takeString_spelled {text : String} (h : Spelling text.toList cs) (rest : List Char) :
    takeString (cs ++ '"' :: rest) = .ok (text, rest) := by
  have hl := h.length_le
  rw [takeString, takeCharacters_text h]
  · simp
  · rw [List.length_append]
    omega

lemma hexCode_control (h : n < 0x20) : HexCode n ['0', '0', Nat.digitChar (n / 16), Nat.digitChar (n % 16)] := by
  have hd : ∀ digit < 16, HexDigit (Nat.digitChar digit) digit := fun _ hd => ⟨hd, .inl rfl⟩
  have hq : n / 16 < 16 := by omega
  have hr : n % 16 < 16 := by omega
  have hc := HexCode.mk (hd 0 (by decide)) (hd 0 (by decide)) (hd _ hq) (hd _ hr)
  rwa [show ((0 * 16 + 0) * 16 + n / 16) * 16 + n % 16 = n by omega] at hc

lemma spelling_escapeChar (c : Char) : CharSpelling c (escapeChar c) := by
  unfold escapeChar
  split
  case h_8 hq hb _ _ _ _ _ =>
    split
    case isTrue h => exact .code (hexCode_control h)
    case isFalse h => exact .plain (Nat.le_of_not_lt h) hq hb
  all_goals exact .short (by decide)

lemma spelling_written (text : List Char) : Spelling text (text.flatMap escapeChar) := by
  induction text with
  | nil => exact .nil
  | cons c cs ih => exact .cons (spelling_escapeChar c) ih

theorem takeString_written (text : String) (rest : List Char) :
    takeString (text.toList.flatMap escapeChar ++ '"' :: rest) = .ok (text, rest) :=
  takeString_spelled (spelling_written text.toList) rest

end TerminalSessions.Json
