import Mathlib.Data.List.Forall2
import TerminalSessions.Text.Lowercase

/-! Lower-case forms of ASCII letters and of all others. The Kelvin sign is the one character outside ASCII whose
lower-case form is an ASCII letter alone, and the capital I with a dot the one with an ASCII letter in it. -/

namespace TerminalSessions.Text

def IsAscii (c : Char) : Prop :=
  c.toNat < 0x80

instance (c : Char) : Decidable (IsAscii c) :=
  inferInstanceAs (Decidable (c.toNat < 0x80))

def SameButForCase (text other : String) : Prop :=
  List.Forall₂ (fun c d => c.toLower = d.toLower) text.toList other.toList

/-- The characters in lower case, where a capital sigma may have the form for the end of a word or the other one. -/
inductive Lowers : List Char → List Char → Prop
  | nil : Lowers [] []
  | form (c : Char) {cs lowered : List Char} (h : Lowers cs lowered) : Lowers (c :: cs) (lowercaseForm c ++ lowered)
  | sigma {cs lowered : List Char} (h : Lowers cs lowered) : Lowers ('\u03A3' :: cs) ('\u03C2' :: lowered)

variable {c : Char} {cs : List Char} {text other lowered name : String}

lemma lowercaseForm_ascii (h : IsAscii c) : lowercaseForm c = [c.toLower] := by
  have ha : ∀ n < 0x80, lowercaseForm (Char.ofNat n) = [(Char.ofNat n).toLower] := by decide +kernel
  have hc := ha c.toNat h
  rwa [Char.ofNat_toNat] at hc

lemma caseRuns_foreign : ∀ run ∈ caseRuns,
    run.last < 0x80 ∨ (run.first = 0x212A ∧ run.last = 0x212A ∧ run.image = 'k'.toNat) ∨
      0x80 ≤ run.image ∧ (run.image + (run.last - run.first) < 0xD800 ∨
        0xDFFF < run.image ∧ run.image + (run.last - run.first) < 0x110000) := by
  decide +kernel

lemma lowercaseForm_foreign (h : ¬ IsAscii c) : ∃ d ∈ lowercaseForm c, d = 'k' ∨ ¬ IsAscii d := by
  have hc : 0x80 ≤ c.toNat := Nat.le_of_not_lt h
  rw [lowercaseForm]
  split_ifs with hi
  · exact ⟨'\u0307', by simp, .inr (by decide)⟩
  · split
    case h_1 run hf =>
      have hm := caseRuns_foreign run (List.mem_of_find?_eq_some hf)
      have hr : run.first ≤ c.toNat ∧ c.toNat ≤ run.last := by
        have hcovers := List.find?_some hf
        simp only [CaseRun.covers, Bool.and_eq_true, decide_eq_true_eq] at hcovers
        exact hcovers.1
      refine ⟨_, List.mem_singleton_self _, ?_⟩
      rcases hm with hl | ⟨hfirst, hlast, hk⟩ | ⟨hlow, hv⟩
      · omega
      · left
        have he : c.toNat = run.first := by omega
        rw [he, Nat.sub_self, Nat.add_zero, hk]
        rfl
      · right
        have hvalid : (run.image + (c.toNat - run.first)).isValidChar := by
          rcases hv with hv | ⟨hv, hv'⟩
          · exact .inl (by omega)
          · exact .inr ⟨by omega, by omega⟩
        have hn : (Char.ofNat (run.image + (c.toNat - run.first))).toNat = run.image + (c.toNat - run.first) := by
          rw [Char.ofNat, dif_pos hvalid]
          rfl
        rw [IsAscii, hn]
        omega
    case h_2 => exact ⟨c, List.mem_singleton_self _, .inr h⟩

lemma lowercase_ascii (h : ∀ c ∈ text.toList, IsAscii c) :
    (lowercase text).toList = text.toList.map Char.toLower := by
  have hm : text.toList.flatMap lowercaseForm = text.toList.flatMap fun c => [c.toLower] :=
    List.flatMap_congr fun c hc => lowercaseForm_ascii (h c hc)
  rw [lowercase, String.toList_ofList, hm, List.map_eq_flatMap]

lemma sameButForCase_iff : SameButForCase text other ↔
    text.toList.map Char.toLower = other.toList.map Char.toLower := by
  rw [← List.forall₂_eq_eq_eq, List.forall₂_map_left_iff, List.forall₂_map_right_iff]
  rfl

def IsPlain (d : Char) : Prop :=
  IsAscii d ∧ d ≠ 'k' ∧ d.toLower = d

instance (d : Char) : Decidable (IsPlain d) :=
  inferInstanceAs (Decidable (IsAscii d ∧ d ≠ 'k' ∧ d.toLower = d))

lemma plain_of_all (h : name.toList.all (decide <| IsPlain ·) = true) : ∀ d ∈ name.toList, IsPlain d := by
  simpa using h

lemma ascii_of_toLower (h : IsAscii c.toLower) : IsAscii c := by
  by_contra ha
  have hz : ¬ c.val ≤ 'Z'.val := fun hle => ha (Nat.lt_of_le_of_lt (UInt32.le_iff_toNat_le.mp hle) (by decide))
  have hl : c.toLower = c := dif_neg fun hr => hz hr.2
  exact ha (hl ▸ h)

lemma toLower_plain (hn : ∀ d ∈ name.toList, IsPlain d) : name.toList.map Char.toLower = name.toList :=
  (List.map_congr_left fun d hd => (hn d hd).2.2).trans (List.map_id _)

lemma SameButForCase.ascii (h : SameButForCase text name) (hn : ∀ d ∈ name.toList, IsPlain d) :
    ∀ c ∈ text.toList, IsAscii c := by
  rw [sameButForCase_iff, toLower_plain hn] at h
  exact fun c hc => ascii_of_toLower (hn _ (h ▸ List.mem_map_of_mem hc)).1

lemma ascii_of_lowercase (h : lowercase text = name) (hn : ∀ d ∈ name.toList, IsPlain d) :
    ∀ c ∈ text.toList, IsAscii c := by
  intro c hc
  by_contra ha
  obtain ⟨d, hd, hf⟩ := lowercaseForm_foreign ha
  have hm : d ∈ name.toList := by
    rw [← h, lowercase, String.toList_ofList]
    exact List.mem_flatMap.mpr ⟨c, hc, hd⟩
  obtain ⟨hascii, hk, -⟩ := hn d hm
  exact hf.elim hk fun hf => hf hascii

lemma lowercase_eq_iff (hn : ∀ d ∈ name.toList, IsPlain d) :
    lowercase text = name ↔ SameButForCase text name := by
  constructor
  · intro h
    rw [sameButForCase_iff, toLower_plain hn, ← lowercase_ascii (ascii_of_lowercase h hn), h]
  · intro h
    rw [← String.toList_inj, lowercase_ascii (h.ascii hn), sameButForCase_iff.mp h, toLower_plain hn]

lemma Lowers.eq_or_foreign {lowered : List Char} (h : Lowers cs lowered) :
    lowered = cs.flatMap lowercaseForm ∨ (∃ c ∈ cs, ¬ IsAscii c) ∧ ∃ d ∈ lowered, ¬ IsAscii d := by
  induction h with
  | nil => exact .inl rfl
  | form c _ ih =>
    rcases ih with rfl | ⟨⟨c', hc, ha⟩, d, hd, hf⟩
    · exact .inl rfl
    · exact .inr ⟨⟨c', List.mem_cons_of_mem c hc, ha⟩, d, List.mem_append_right _ hd, hf⟩
  | sigma =>
    exact .inr ⟨⟨'\u03A3', List.mem_cons_self, by decide⟩, '\u03C2', List.mem_cons_self, by decide⟩

lemma Lowers.eq_iff (h : Lowers text.toList lowered.toList) (hn : ∀ d ∈ name.toList, IsPlain d) :
    lowered = name ↔ lowercase text = name := by
  rcases h.eq_or_foreign with he | ⟨⟨c, hc, ha⟩, d, hd, hf⟩
  · have hl : lowercase text = lowered := by rw [lowercase, ← he, String.ofList_toList]
    rw [hl]
  · constructor
    · rintro rfl
      exact absurd (hn d hd).1 hf
    · intro hl
      exact absurd (ascii_of_lowercase hl hn c hc) ha

end TerminalSessions.Text
