import Mathlib.Data.List.Basic
import TerminalSessions.Text.Layout

namespace TerminalSessions.Text

def Ended (bytes : List UInt8) : Prop :=
  ∀ byte ∈ bytes.getLast?, byte = 0x0A

instance (bytes : List UInt8) : Decidable (Ended bytes) :=
  inferInstanceAs (Decidable (∀ byte ∈ bytes.getLast?, byte = 0x0A))

def IsLine (bytes : List UInt8) : Prop :=
  ∃ start, bytes = start ++ [0x0A] ∧ 0x0A ∉ start

def beforeLast (bytes : List UInt8) : List UInt8 :=
  (byteLines bytes).dropLast.flatten

variable {bytes others line : List UInt8} {text : String}

lemma Ended.append (h : Ended bytes) (ho : Ended others) : Ended (bytes ++ others) := by
  intro byte hb
  rw [List.getLast?_append] at hb
  cases hl : others.getLast? with
  | none =>
    rw [hl, Option.none_or] at hb
    exact h byte hb
  | some last =>
    rw [hl, Option.some_or] at hb
    exact ho byte (hl ▸ hb)

lemma byteLines_append (h : Ended bytes) (others : List UInt8) :
    byteLines (bytes ++ others) = byteLines bytes ++ byteLines others := by
  induction bytes with
  | nil => rfl
  | cons byte rest ih =>
    cases rest with
    | nil =>
      obtain rfl := h byte rfl
      rfl
    | cons next rest =>
      have hr : Ended (next :: rest) := fun last hl => h last (by rwa [List.getLast?_cons_cons])
      rw [List.cons_append, byteLines, ih hr]
      conv_rhs => rw [byteLines]
      split_ifs
      · rfl
      · obtain ⟨line, lines, hl⟩ : ∃ line lines, byteLines (next :: rest) = line :: lines := by
          rw [byteLines]
          split_ifs
          · exact ⟨_, _, rfl⟩
          · cases byteLines rest <;> exact ⟨_, _, rfl⟩
        rw [hl]
        rfl

lemma byteLines_line (h : IsLine line) : byteLines line = [line] := by
  obtain ⟨start, rfl, hn⟩ := h
  induction start with
  | nil => rfl
  | cons byte rest ih =>
    obtain ⟨hb, hr⟩ := not_or.mp (mt List.mem_cons.mpr hn)
    rw [List.cons_append, byteLines, if_neg (Ne.symm hb), ih hr]

lemma byteLines_behind (bytes : List UInt8) (h : IsLine line) :
    ∃ lines last, byteLines (bytes ++ line) = lines ++ [last] ∧ lines.flatten <+: bytes := by
  induction bytes with
  | nil => exact ⟨[], line, byteLines_line h, List.prefix_rfl⟩
  | cons byte rest ih =>
    obtain ⟨lines, last, hl, hp⟩ := ih
    rw [List.cons_append, byteLines, hl]
    split_ifs
    · exact ⟨[byte] :: lines, last, rfl, (List.prefix_cons_inj byte).mpr hp⟩
    · cases lines with
      | nil => exact ⟨[], byte :: last, rfl, List.nil_prefix⟩
      | cons first lines => exact ⟨(byte :: first) :: lines, last, rfl, (List.prefix_cons_inj byte).mpr hp⟩

lemma beforeLast_append (bytes : List UInt8) (h : IsLine line) : beforeLast (bytes ++ line) <+: bytes := by
  obtain ⟨lines, last, hl, hp⟩ := byteLines_behind bytes h
  rwa [beforeLast, hl, List.dropLast_concat]

lemma beforeLast_line (h : IsLine line) : beforeLast line = [] := by
  rw [beforeLast, byteLines_line h]
  rfl

lemma newline_not_mem_encodeChar {c : Char} (h : c ≠ '\n') : 0x0A ∉ String.utf8EncodeChar c := by
  have hc : c.val.toNat ≠ 10 := fun he => h (Char.ext (UInt32.toNat_inj.mp he))
  have hb : ∀ n, n % 256 ≠ 10 → (0x0A : UInt8) ≠ UInt8.ofNat n := fun n hn he =>
    hn (congrArg UInt8.toNat he).symm
  unfold String.utf8EncodeChar
  dsimp only
  generalize c.val.toNat = code at hc
  split_ifs <;>
    simp (disch := omega) only [hb, List.mem_cons, List.not_mem_nil, or_self, not_false_eq_true]

lemma toUTF8_toList (text : String) : text.toUTF8.data.toList = text.toList.flatMap String.utf8EncodeChar := by
  conv_lhs => rw [← String.ofList_toList (s := text)]
  rw [String.toUTF8, String.toByteArray_ofList, List.utf8Encode, List.data_toByteArray]

lemma toUTF8_break {start : List Char} (h : text.toList = start ++ ['\n']) :
    text.toUTF8.data.toList = start.flatMap String.utf8EncodeChar ++ [0x0A] := by
  rw [toUTF8_toList, h, List.flatMap_append]
  rfl

lemma isLine_toUTF8 (h : ∃ start, text.toList = start ++ ['\n'] ∧ '\n' ∉ start) : IsLine text.toUTF8.data.toList := by
  obtain ⟨start, ht, hn⟩ := h
  refine ⟨_, toUTF8_break ht, fun hm => ?_⟩
  obtain ⟨c, hc, hb⟩ := List.mem_flatMap.mp hm
  exact newline_not_mem_encodeChar (fun he => hn (he ▸ hc)) hb

end TerminalSessions.Text
