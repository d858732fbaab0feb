import TerminalSessions.Proofs.Json.Written

namespace TerminalSessions

namespace Text

lemma newline_not_mem_decimal (n : ℕ) : '\n' ∉ (decimal n).toList := by
  rw [decimal, String.toList_ofList]
  intro h
  cases Nat.isDigit_of_mem_toDigits (by decide) (by decide) h

lemma newline_not_mem_integer (n : ℤ) : '\n' ∉ (integer n).toList := by
  cases n with
  | ofNat n => exact newline_not_mem_decimal n
  | negSucc n => simp [integer, newline_not_mem_decimal]

end Text

lemma Number.Binary64.newline_not_mem_text (x : Binary64) : '\n' ∉ x.text.toList := by
  have hsign : '\n' ∉ (if x.negative then "-" else "").toList := by
    split_ifs <;> decide
  have hdigits : '\n' ∉ Nat.toDigits 10 x.shortest.digits := fun h => by
    cases Nat.isDigit_of_mem_toDigits (by decide) (by decide) h
  rw [text]
  dsimp only
  generalize (if x.negative then "-" else "") = sign at hsign ⊢
  generalize Nat.toDigits 10 x.shortest.digits = digits at hdigits ⊢
  have htake : ∀ count, '\n' ∉ digits.take count := fun count h => hdigits (List.mem_of_mem_take h)
  have hdrop : ∀ count, '\n' ∉ digits.drop count := fun count h => hdigits (List.mem_of_mem_drop h)
  split_ifs
  all_goals simp [hsign, hdigits, htake, hdrop, Text.newline_not_mem_decimal]
  -- what is left are the digits before a power of ten, which have a point among them if there are several
  all_goals
    split
    · simp_all
    · exact hdigits

namespace Json

lemma newline_not_mem_escapeChar (c : Char) : '\n' ∉ escapeChar c := by
  unfold escapeChar
  split
  case h_8 _ _ _ _ hn _ _ =>
    split
    case isTrue h =>
      have hd : ∀ n < 16, '\n' ≠ Nat.digitChar n := by decide
      have hq := hd (c.toNat / 16) (by omega)
      have hr := hd (c.toNat % 16) (Nat.mod_lt _ (by decide))
      simp [hq, hr]
    case isFalse => exact fun hm => hn (List.mem_singleton.mp hm).symm
  all_goals decide

lemma newline_not_mem_writeString (text : String) : '\n' ∉ writeString text := by
  simp [writeString, newline_not_mem_escapeChar]

lemma newline_not_mem_commaSeparated {texts : List (List Char)} (h : ∀ text ∈ texts, '\n' ∉ text) :
    '\n' ∉ commaSeparated texts := by
  cases texts with
  | nil => exact List.not_mem_nil
  | cons text texts =>
    rw [commaSeparated_cons]
    simp_all

mutual

lemma Value.newline_not_mem : (value : Value) → '\n' ∉ value.write
  | .null => by decide
  | .bool value => by cases value <;> decide
  | .integer value => Text.newline_not_mem_integer value
  | .float value => value.newline_not_mem_text
  | .string text => newline_not_mem_writeString text
  | .array items => by
    simp [Value.write, newline_not_mem_commaSeparated (newline_not_mem_items items)]
  | .object fields => by
    simp [Value.write, newline_not_mem_commaSeparated (newline_not_mem_fields fields)]

lemma newline_not_mem_items : (items : List Value) → ∀ text ∈ writeItems items, '\n' ∉ text
  | [] => by simp [writeItems]
  | item :: items => by simpa [writeItems, item.newline_not_mem] using newline_not_mem_items items

lemma newline_not_mem_fields : (fields : List (String × Value)) → ∀ text ∈ writeFields fields, '\n' ∉ text
  | [] => by simp [writeFields]
  | (key, value) :: fields => by
    simpa [writeFields, value.newline_not_mem, newline_not_mem_writeString] using newline_not_mem_fields fields

end

end Json

end TerminalSessions
