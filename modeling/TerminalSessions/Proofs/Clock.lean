import Mathlib.Data.List.Basic
import Mathlib.Order.Monotone.Basic
import TerminalSessions.Clock

namespace TerminalSessions

namespace Text

lemma zeroFilled_toList (width n : ℕ) : (zeroFilled width n).toList =
    List.replicate (width - (Nat.toDigits 10 n).length) '0' ++ Nat.toDigits 10 n :=
  String.toList_ofList

lemma isDigit_zeroFilled {width n : ℕ} {c : Char} (h : c ∈ (zeroFilled width n).toList) : c.isDigit = true := by
  rw [zeroFilled_toList, List.mem_append] at h
  rcases h with hz | hd
  · rw [List.eq_of_mem_replicate hz]
    rfl
  · exact Nat.isDigit_of_mem_toDigits (by decide) (by decide) hd

lemma ofDigitChars_zeros (count : ℕ) (digits : List Char) :
    Nat.ofDigitChars 10 (List.replicate count '0' ++ digits) 0 = Nat.ofDigitChars 10 digits 0 := by
  induction count with
  | zero => rfl
  | succ count ih => exact ih

lemma zeroFilled_injective {width n n' : ℕ} (h : (zeroFilled width n).toList = (zeroFilled width n').toList) :
    n = n' := by
  have hd := congrArg (Nat.ofDigitChars 10 · 0) h
  simpa only [zeroFilled_toList, ofDigitChars_zeros, Nat.ofDigitChars_ten_toDigits] using hd

lemma zeroFilled_append {width n n' : ℕ} {c : Char} {rest rest' : List Char} (hc : c.isDigit = false)
    (h : (zeroFilled width n).toList ++ c :: rest = (zeroFilled width n').toList ++ c :: rest') :
    n = n' ∧ rest = rest' := by
  have ht : ∀ m others, ((zeroFilled width m).toList ++ c :: others).takeWhile Char.isDigit =
      (zeroFilled width m).toList := fun m others => by
    rw [List.takeWhile_append_of_pos fun _ => isDigit_zeroFilled, List.takeWhile_cons_of_neg (by simp [hc]),
      List.append_nil]
  have hn := congrArg (List.takeWhile Char.isDigit) h
  rw [ht, ht] at hn
  obtain rfl := zeroFilled_injective hn
  exact ⟨rfl, (List.cons.inj (List.append_cancel_left h)).2⟩

end Text

open Text

namespace Instant

def second (instant : Instant) : ℕ :=
  instant.nanoseconds / 1_000_000_000

def yearStart (year : ℕ) : ℕ :=
  365 * year + year / 4 - year / 100

def plainDays (day : ℕ) : ℕ :=
  day - day / 1460 + day / 36524 - day / 146096

lemma plainDays_mono {day later : ℕ} (h : day ≤ later) (hl : later < 146097) : plainDays day ≤ plainDays later := by
  induction later, h using Nat.le_induction with
  | base => exact le_rfl
  | succ later h ih =>
    have hs : plainDays later ≤ plainDays (later + 1) := by
      rw [plainDays, plainDays]
      omega
    exact (ih (Nat.lt_of_succ_lt hl)).trans hs

lemma plainDays_yearStart : ∀ year < 400, plainDays (yearStart year) = 365 * year ∧
    (year = 0 ∨ plainDays (yearStart year - 1) < 365 * year) := by
  decide +kernel

lemma yearStart_bounds {day : ℕ} (h : day < 146097) :
    yearStart (plainDays day / 365) ≤ day ∧ day ≤ yearStart (plainDays day / 365) + 365 := by
  have hy : plainDays day / 365 < 400 := by
    rw [plainDays]
    omega
  have hm := Nat.div_add_mod (plainDays day) 365
  have hr := Nat.mod_lt (plainDays day) (show 365 > 0 by decide)
  generalize plainDays day / 365 = year at *
  -- a year that began too late or too early has other plain days on its first day
  constructor
  · by_contra hlt
    have hs : yearStart year < 146097 := by
      rw [yearStart]
      omega
    have hp := plainDays_mono (show day ≤ yearStart year - 1 by omega) (by omega)
    rcases (plainDays_yearStart year hy).2 with rfl | he
    · exact hlt (Nat.zero_le _)
    · omega
  · by_contra hgt
    have hn : yearStart (year + 1) ≤ day := by
      rw [yearStart] at *
      omega
    by_cases hl : year + 1 < 400
    · have hp := plainDays_mono hn h
      rw [(plainDays_yearStart _ hl).1] at hp
      omega
    · rw [yearStart] at hgt
      omega

def daysOf (year month day : ℕ) : ℕ :=
  let shifted := if month ≤ 2 then month + 9 else month - 3
  let counted := if month ≤ 2 then year - 1 else year
  counted / 400 * 146097 + yearStart (counted % 400) + (153 * shifted + 2) / 5 + (day - 1)

lemma daysOf_parts {year day : ℕ} (era : ℕ) (hy : year < 400) (hs : yearStart year ≤ day)
    (he : day ≤ yearStart year + 365) :
    let shifted := (5 * (day - yearStart year) + 2) / 153
    let month := if shifted < 10 then shifted + 3 else shifted - 9
    daysOf (year + era * 400 + if month ≤ 2 then 1 else 0) month
      (day - yearStart year - (153 * shifted + 2) / 5 + 1) = 146097 * era + day := by
  intro shifted month
  have hq : (year + era * 400) / 400 = era := by omega
  have hr : (year + era * 400) % 400 = year := by omega
  by_cases hm : shifted < 10
  · have hv : ¬ shifted + 3 ≤ 2 := by omega
    simp only [month, if_pos hm, daysOf, if_neg hv, Nat.add_zero, hq, hr]
    omega
  · have hv : shifted - 9 ≤ 2 := by omega
    simp only [month, if_neg hm, daysOf, if_pos hv, Nat.add_sub_cancel, hq, hr]
    omega

lemma daysOf_civil (instant : Instant) :
    daysOf instant.civil.year instant.civil.month instant.civil.day = instant.second / 86400 + 719468 := by
  have hr := Nat.mod_lt (instant.second / 86400 + 719468) (show 146097 > 0 by decide)
  obtain ⟨hs, he⟩ := yearStart_bounds hr
  have hy : plainDays ((instant.second / 86400 + 719468) % 146097) / 365 < 400 := by
    rw [plainDays]
    omega
  exact (daysOf_parts ((instant.second / 86400 + 719468) / 146097) hy hs he).trans (Nat.div_add_mod _ _)

lemma stamp_eq (instant : Instant) : instant.stamp = date instant.civil ++ "_" ++
    zeroFilled 2 instant.civil.hour ++ "-" ++ zeroFilled 2 instant.civil.minute ++ "-" ++
      zeroFilled 2 instant.civil.second := by
  rw [stamp]

lemma stamp_toList (instant : Instant) : instant.stamp.toList =
    (zeroFilled 4 instant.civil.year).toList ++ '-' :: ((zeroFilled 2 instant.civil.month).toList ++ '-' ::
      ((zeroFilled 2 instant.civil.day).toList ++ '_' :: ((zeroFilled 2 instant.civil.hour).toList ++ '-' ::
        ((zeroFilled 2 instant.civil.minute).toList ++ '-' :: (zeroFilled 2 instant.civil.second).toList)))) := by
  have ht : ∀ a b c d e f : String, (a ++ "-" ++ b ++ "-" ++ c ++ "_" ++ d ++ "-" ++ e ++ "-" ++ f).toList =
      a.toList ++ '-' :: (b.toList ++ '-' :: (c.toList ++ '_' ::
        (d.toList ++ '-' :: (e.toList ++ '-' :: f.toList)))) := by
    simp
  rw [stamp_eq, date]
  exact ht _ _ _ _ _ _

lemma civil_of_second {first later : Instant} (h : first.second = later.second) :
    first.civil = { later.civil with fraction := first.civil.fraction } := by
  rw [second, second] at h
  simp only [civil, h]

lemma second_eq (instant : Instant) : instant.second = instant.second / 86400 * 86400 +
    instant.civil.hour * 3600 + instant.civil.minute * 60 + instant.civil.second := by
  have hh : instant.civil.hour = instant.second % 86400 / 3600 := rfl
  have hm : instant.civil.minute = instant.second % 3600 / 60 := rfl
  have hs : instant.civil.second = instant.second % 60 := rfl
  omega

lemma stamp_inj {first later : Instant} : first.stamp = later.stamp ↔ first.second = later.second := by
  constructor
  · intro h
    have ht := congrArg String.toList h
    rw [stamp_toList, stamp_toList] at ht
    obtain ⟨hy, ht⟩ := zeroFilled_append (by decide) ht
    obtain ⟨hm, ht⟩ := zeroFilled_append (by decide) ht
    obtain ⟨hd, ht⟩ := zeroFilled_append (by decide) ht
    obtain ⟨hh, ht⟩ := zeroFilled_append (by decide) ht
    obtain ⟨hn, ht⟩ := zeroFilled_append (by decide) ht
    have hs := zeroFilled_injective ht
    have hc := daysOf_civil first
    rw [hy, hm, hd, daysOf_civil] at hc
    rw [second_eq first, second_eq later, hh, hn, hs, Nat.add_right_cancel hc]
  · intro h
    rw [stamp_eq, stamp_eq, civil_of_second h]
    rfl

lemma slash_not_mem_stamp (instant : Instant) : '/' ∉ instant.stamp.toList := by
  have hd : ∀ width n, '/' ∉ (zeroFilled width n).toList := fun _ _ h => by
    cases isDigit_zeroFilled h
  simp [stamp_toList, hd]

lemma not_mem_timestamp {c : Char} (hd : c.isDigit = false) (hs : c ∉ ['-', 'T', ':', '.', '+'])
    (instant : Instant) : c ∉ instant.timestamp.toList := by
  have hz : ∀ width n, c ∉ (Text.zeroFilled width n).toList := fun _ _ h => by
    simp [Text.isDigit_zeroFilled h] at hd
  have h0 : c ≠ '0' := by
    rintro rfl
    cases hd
  simp only [List.mem_cons, List.not_mem_nil, or_false, not_or] at hs
  have hp : ∀ {part others : String}, c ∉ part.toList → c ∉ others.toList → c ∉ (part ++ others).toList := by
    intro part others
    simp +contextual
  have hl : c ∉ "-".toList ∧ c ∉ "T".toList ∧ c ∉ ":".toList ∧ c ∉ ".".toList ∧ c ∉ "+00:00".toList := by
    simp [hs, h0]
  obtain ⟨hminus, ht, hcolon, hdot, hzone⟩ := hl
  have hf : ∀ fraction, c ∉ (fractionText fraction).toList := by
    intro fraction
    rw [fractionText]
    split_ifs
    · exact List.not_mem_nil
    all_goals exact hp hdot (hz _ _)
  have hdate : ∀ time, c ∉ (date time).toList := fun time =>
    hp (hp (hp (hp (hz _ _) hminus) (hz _ _)) hminus) (hz _ _)
  exact hp (hp (hp (hp (hp (hp (hp (hp (hdate _) ht) (hz _ _)) hcolon) (hz _ _)) hcolon) (hz _ _)) (hf _)) hzone

end Instant

end TerminalSessions
