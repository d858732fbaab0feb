import TerminalSessions.Json.Skip
import TerminalSessions.Proofs.Json.Written

/-! The grammar of values, with lists and objects of any depth and blanks wherever they may stand. A value of the
grammar is passed over as a whole. -/

namespace TerminalSessions.Json

def Blanks (cs : List Char) : Prop :=
  ∀ c ∈ cs, c ∈ [' ', '\n', '\t', '\r']

instance (cs : List Char) : Decidable (Blanks cs) :=
  List.decidableBAll (· ∈ [' ', '\n', '\t', '\r']) cs

def Digits (cs : List Char) : Prop :=
  cs ≠ [] ∧ ∀ c ∈ cs, c.isDigit = true

inductive Whole : List Char → Prop
  | zero : Whole ['0']
  | more {c : Char} {cs : List Char} (hc : c.isDigit = true) (hz : c ≠ '0') (hs : ∀ d ∈ cs, d.isDigit = true) :
      Whole (c :: cs)

inductive Fraction : List Char → Prop
  | none : Fraction []
  | some {cs : List Char} (h : Digits cs) : Fraction ('.' :: cs)

inductive Exponent : List Char → Prop
  | none : Exponent []
  | some {letter : Char} {sign cs : List Char} (hl : letter = 'e' ∨ letter = 'E') (hs : sign ∈ [[], ['+'], ['-']])
      (h : Digits cs) : Exponent (letter :: (sign ++ cs))

inductive NumberText : List Char → Prop
  | positive {whole fraction exponent : List Char} (hw : Whole whole) (hf : Fraction fraction)
      (he : Exponent exponent) : NumberText (whole ++ (fraction ++ exponent))
  | negative {whole fraction exponent : List Char} (hw : Whole whole) (hf : Fraction fraction)
      (he : Exponent exponent) : NumberText ('-' :: (whole ++ (fraction ++ exponent)))

/-- What stands between quotation marks. An escape may stand for half of a surrogate pair here. -/
inductive StringBody : List Char → Prop
  | nil : StringBody []
  | plain {c : Char} {cs : List Char} (hc : 0x20 ≤ c.toNat) (hq : c ≠ '"') (hb : c ≠ '\\') (h : StringBody cs) :
      StringBody (c :: cs)
  | short {letter c : Char} {cs : List Char} (hl : (letter, c) ∈ shortEscapes) (h : StringBody cs) :
      StringBody ('\\' :: letter :: cs)
  | code {n : ℕ} {digits cs : List Char} (hd : HexCode n digits) (h : StringBody cs) :
      StringBody ('\\' :: 'u' :: (digits ++ cs))

inductive Scalar : List Char → Prop
  | word {cs : List Char} (h : cs ∈ ["null".toList, "true".toList, "false".toList]) : Scalar cs
  | number {cs : List Char} (h : NumberText cs) : Scalar cs
  | string {cs : List Char} (h : StringBody cs) : Scalar ('"' :: (cs ++ ['"']))

def Frame.opening : Frame → Char
  | .list => '['
  | .object => '\x7b'

structure Entry where
  before : List Char
  label : List Char
  value : List Char
  after : List Char

def Entry.text (entry : Entry) : List Char :=
  entry.before ++ (entry.label ++ (entry.value ++ entry.after))

structure Entry.Padded (entry : Entry) : Prop where
  before : Blanks entry.before
  after : Blanks entry.after

inductive Label (key : List Char) : List Char → Prop
  | mk {gap lead : List Char} (hg : Blanks gap) (hl : Blanks lead) :
      Label key ('"' :: (key ++ '"' :: (gap ++ ':' :: lead)))

def Frame.Labels : Frame → List Char → Prop
  | .list, label => label = []
  | .object, label => ∃ key, StringBody key ∧ Label key label

def Frame.text (frame : Frame) (entries : List Entry) (tail : List Char) : List Char :=
  frame.opening :: (commaSeparated (entries.map Entry.text) ++ (tail ++ [frame.closing]))

inductive ValueText : List Char → Prop
  | scalar {cs : List Char} (h : Scalar cs) : ValueText cs
  | nested {frame : Frame} {entries : List Entry} {tail : List Char} (hp : ∀ entry ∈ entries, entry.Padded)
      (hl : ∀ entry ∈ entries, frame.Labels entry.label) (hv : ∀ entry ∈ entries, ValueText entry.value)
      (ht : Blanks tail) : ValueText (frame.text entries tail)

variable {c : Char} {cs rest text key label value : List Char} {entry : Entry} {frame : Frame}

lemma Blanks.isBlank (h : Blanks cs) : ∀ c ∈ cs, isBlank c = true := fun c hc => by
  have hb : [' ', '\n', '\t', '\r'].all Json.isBlank = true := by decide
  exact List.all_eq_true.mp hb c (h c hc)

lemma skipBlanks_blanks (h : Blanks cs) (hc : isBlank c = false) (rest : List Char) :
    skipBlanks (cs ++ c :: rest) = c :: rest := by
  rw [skipBlanks_append h.isBlank, skipBlanks_cons hc]

lemma endsNumber_blanks (h : Blanks cs) (hc : c = ',' ∨ c = ']' ∨ c = '\x7d') (rest : List Char) :
    EndsNumber (cs ++ c :: rest) := by
  intro d hd
  have hm : d ∈ [' ', '\n', '\t', '\r', ',', ']', '\x7d'] := by
    cases cs with
    | nil =>
      obtain rfl := Option.mem_some_iff.mp hd
      rcases hc with rfl | rfl | rfl <;> decide
    | cons blank cs =>
      obtain rfl := Option.mem_some_iff.mp hd
      exact List.mem_append_left [',', ']', '\x7d'] (h _ List.mem_cons_self)
  have ha : [' ', '\n', '\t', '\r', ',', ']', '\x7d'].all
      (fun d => !d.isDigit && d != '.' && d != 'e' && d != 'E') = true := by
    decide
  simpa [and_assoc] using List.all_eq_true.mp ha d hm

def EndsDigits (rest : List Char) : Prop :=
  ∀ c ∈ rest.head?, c.isDigit = false

lemma skipDigits_append (h : ∀ c ∈ cs, c.isDigit = true) (hr : EndsDigits rest) : skipDigits (cs ++ rest) = rest := by
  rw [skipDigits, List.dropWhile_append_of_pos h]
  cases rest with
  | nil => rfl
  | cons c rest => exact List.dropWhile_cons_of_neg (by simp [hr c rfl])

lemma EndsNumber.endsDigits (h : EndsNumber rest) : EndsDigits rest := fun c hc => (h c hc).1

lemma skipExponent_digits {sign : List Char} (hs : sign ∈ [[], ['+'], ['-']]) (h : Digits cs) (hr : EndsDigits rest) :
    skipExponent (sign ++ cs ++ rest) = .ok rest := by
  obtain ⟨hne, hd⟩ := h
  obtain ⟨c, cs, rfl⟩ := List.exists_cons_of_ne_nil hne
  have hc : c.isDigit = true := hd c List.mem_cons_self
  have hplus : c ≠ '+' := by
    rintro rfl
    cases hc
  have hminus : c ≠ '-' := by
    rintro rfl
    cases hc
  have ht : skipDigits (cs ++ rest) = rest := skipDigits_append (fun d hm => hd d (List.mem_cons_of_mem _ hm)) hr
  simp only [List.mem_cons, List.not_mem_nil, or_false] at hs
  rcases hs with rfl | rfl | rfl <;> simp [skipExponent, hplus, hminus, hc, ht]

lemma Exponent.endsDigits {exponent : List Char} (h : Exponent exponent) (hr : EndsNumber rest) :
    EndsDigits (exponent ++ rest) := by
  cases h with
  | none => exact hr.endsDigits
  | some hl =>
    rintro c ⟨⟩
    rcases hl with rfl | rfl <;> rfl

lemma skip_exponent {exponent : List Char} (h : Exponent exponent) (hr : EndsNumber rest) :
    (if startsExponent (exponent ++ rest) then skipExponent (exponent ++ rest).tail else .ok (exponent ++ rest)) =
      .ok rest := by
  cases h with
  | none => rw [List.nil_append, startsExponent_end hr, if_neg Bool.false_ne_true]
  | @some letter sign cs hl hs h =>
    have he : startsExponent (letter :: (sign ++ cs) ++ rest) = true := by
      rcases hl with rfl | rfl <;> rfl
    rw [he, if_pos rfl]
    exact skipExponent_digits hs h hr.endsDigits

lemma skipFraction_digits {exponent : List Char} (h : Digits cs) (he : Exponent exponent) (hr : EndsNumber rest) :
    skipFraction (cs ++ (exponent ++ rest)) = .ok rest := by
  have ht := skipDigits_append h.2 (he.endsDigits hr)
  have hl : (exponent ++ rest).length ≠ (cs ++ (exponent ++ rest)).length := by
    have hp := List.length_pos_iff.mpr h.1
    simp only [List.length_append]
    omega
  rw [skipFraction, ht, if_neg hl]
  exact skip_exponent he hr

lemma skipMagnitude_whole {whole fraction exponent : List Char} (hw : Whole whole) (hf : Fraction fraction)
    (he : Exponent exponent) (hr : EndsNumber rest) :
    skipMagnitude (whole ++ (fraction ++ exponent) ++ rest) = .ok rest := by
  have hd : EndsDigits (fraction ++ (exponent ++ rest)) := by
    cases hf with
    | none => exact he.endsDigits hr
    | some =>
      rintro c ⟨⟩
      rfl
  obtain ⟨c, cs, rfl, hc, hs, hz⟩ : ∃ c cs, whole = c :: cs ∧ c.isDigit = true ∧ (∀ d ∈ cs, d.isDigit = true) ∧
      (c = '0' → cs = []) := by
    cases hw with
    | zero => exact ⟨'0', [], rfl, rfl, by simp, fun _ => rfl⟩
    | more hc hz hs => exact ⟨_, _, rfl, hc, hs, fun h => absurd h hz⟩
  have ht : skipDigits (cs ++ (fraction ++ (exponent ++ rest))) = fraction ++ (exponent ++ rest) :=
    skipDigits_append hs hd
  have hn : ¬ (c = '0' ∧ (fraction ++ (exponent ++ rest)).length ≠ (cs ++ (fraction ++ (exponent ++ rest))).length) :=
    fun hn => hn.2 (by rw [hz hn.1, List.nil_append])
  rw [List.cons_append, List.cons_append, List.append_assoc, List.append_assoc]
  simp only [skipMagnitude, hc, if_true, ht, if_neg hn]
  cases hf with
  | none =>
    rw [List.nil_append]
    split
    case h_1 digits hp =>
      cases he with
      | none => exact absurd rfl (hr '.' (by rw [← List.nil_append rest, hp]; rfl)).2.1
      | some hl =>
        obtain ⟨rfl, -⟩ := List.cons.inj hp
        rcases hl with hl | hl <;> cases hl
    case h_2 => exact skip_exponent he hr
  | some h => exact skipFraction_digits h he hr

lemma skipString_body (h : StringBody cs) (rest : List Char) : skipString (cs ++ '"' :: rest) = .ok rest := by
  induction h with
  | nil =>
    rw [List.nil_append, skipString.eq_def]
    rfl
  | plain hc hq hb _ ih =>
    rw [List.cons_append, skipString.eq_def]
    simpa [hq, hb, Nat.not_lt.mpr hc] using ih
  | short hl _ ih =>
    obtain ⟨hu, hs⟩ := escapedChar_short hl
    rw [List.cons_append, skipString.eq_def]
    simpa [hu, hs] using ih
  | code hd _ ih =>
    obtain ⟨ha, hb, hc, hd⟩ := hd
    rw [List.cons_append, skipString.eq_def]
    simpa [hexCode?, hexValue_digit ha, hexValue_digit hb, hexValue_digit hc, hexValue_digit hd] using ih

lemma Whole.head (h : Whole cs) : ∃ c others, cs = c :: others ∧ c.isDigit = true := by
  cases h with
  | zero => exact ⟨'0', [], rfl, rfl⟩
  | more hc => exact ⟨_, _, rfl, hc⟩

lemma skipScalar_digit (hc : c.isDigit = true) (cs : List Char) :
    skipScalar (c :: cs) = skipMagnitude (c :: cs) := by
  rw [skipScalar, if_pos hc]
  all_goals
    rintro rfl
    cases hc

lemma skipScalar_scalar (h : Scalar text) (hr : EndsNumber rest) : skipScalar (text ++ rest) = .ok rest := by
  cases h with
  | word h =>
    simp only [List.mem_cons, List.not_mem_nil, or_false] at h
    rcases h with rfl | rfl | rfl <;> simp [skipScalar, takeWord]
  | number h =>
    cases h with
    | positive hw hf he =>
      have hm := skipMagnitude_whole hw hf he hr
      obtain ⟨c, cs, rfl, hc⟩ := hw.head
      exact (skipScalar_digit hc _).trans hm
    | negative hw hf he => exact skipMagnitude_whole hw hf he hr
  | string h =>
    rw [List.cons_append, List.append_assoc]
    exact skipString_body h rest

variable {rounds : ℕ} {frames : List Frame} {inner : List Char}

lemma skipFrom_scalar (h : skipScalar (skipBlanks cs) = .ok rest) :
    skipFrom (rounds + 1) .value frames cs = skipFrom rounds .closed frames rest := by
  rw [skipFrom]
  split
  case h_1 hs =>
    rw [hs] at h
    cases h
  case h_2 hs =>
    rw [hs] at h
    cases h
  case h_3 => rw [h]

lemma skipFrom_opening (h : skipBlanks cs = frame.opening :: rest) :
    skipFrom (rounds + 1) .value frames cs = skipFrom rounds .opened (frame :: frames) rest := by
  cases frame <;> rw [skipFrom, h] <;> rfl

lemma skipFrom_finished {position : Position} (hp : position ≠ .value) (h : skipBlanks cs = frame.closing :: rest) :
    skipFrom (rounds + 1) position (frame :: frames) cs = skipFrom rounds .closed frames rest := by
  cases position with
  | value => exact absurd rfl hp
  | opened | closed =>
    rw [skipFrom, h]
    exact if_pos rfl

lemma skipFrom_first (h : skipBlanks cs = c :: rest) (hc : c ≠ frame.closing)
    (he : enterItem frame (c :: rest) = .ok inner) :
    skipFrom (rounds + 1) .opened (frame :: frames) cs = skipFrom rounds .value (frame :: frames) inner := by
  simp only [skipFrom, h, if_neg hc, he]

lemma skipFrom_further (h : skipBlanks cs = ',' :: rest) (he : enterItem frame rest = .ok inner) :
    skipFrom (rounds + 1) .closed (frame :: frames) cs = skipFrom rounds .value (frame :: frames) inner := by
  have hc : ',' ≠ frame.closing := by cases frame <;> decide
  simp only [skipFrom, h, if_neg hc, if_true, he]

def Skips (value : List Char) : Prop :=
  ∃ used ≤ 2 * value.length, ∀ rounds frames cs rest, EndsNumber rest → skipBlanks cs = value ++ rest →
    skipFrom (rounds + used) .value frames cs = skipFrom rounds .closed frames rest

lemma Scalar.head (h : Scalar value) : ∃ c cs, value = c :: cs ∧ isBlank c = false ∧ c ≠ ']' := by
  cases h with
  | word h =>
    simp only [List.mem_cons, List.not_mem_nil, or_false] at h
    rcases h with rfl | rfl | rfl <;> exact ⟨_, _, rfl, rfl, by decide⟩
  | number h =>
    cases h with
    | positive hw =>
      obtain ⟨c, cs, rfl, hc⟩ := hw.head
      refine ⟨c, _, rfl, isBlank_digit hc, ?_⟩
      rintro rfl
      cases hc
    | negative => exact ⟨'-', _, rfl, rfl, by decide⟩
  | string => exact ⟨'"', _, rfl, rfl, by decide⟩

lemma ValueText.head (h : ValueText value) : ∃ c cs, value = c :: cs ∧ isBlank c = false ∧ c ≠ ']' := by
  have ho : ∀ frame : Frame, isBlank frame.opening = false ∧ frame.opening ≠ ']' := by
    intro frame
    cases frame <;> decide
  cases h with
  | scalar h => exact h.head
  | nested => exact ⟨_, _, rfl, ho _⟩

lemma skipBlanks_value (h : ValueText value) (hb : Blanks cs) (rest : List Char) :
    skipBlanks (cs ++ (value ++ rest)) = value ++ rest := by
  obtain ⟨c, others, rfl, hc, -⟩ := h.head
  exact skipBlanks_blanks hb hc _

lemma Label.parts (h : Label key label) (rest : List Char) : ∃ lead behind, Blanks lead ∧
    label ++ rest = '"' :: (key ++ '"' :: behind) ∧ takeColon behind = .ok (lead ++ rest) := by
  cases h with
  | @mk gap lead hg hl =>
    refine ⟨lead, gap ++ ':' :: (lead ++ rest), hl, by simp, ?_⟩
    rw [takeColon, skipBlanks_blanks hg rfl]
    rfl

lemma enter_entry (hl : frame.Labels entry.label) (hv : ValueText entry.value)
    (h : skipBlanks cs = entry.label ++ (entry.value ++ rest)) :
    ∃ inner, enterItem frame cs = .ok inner ∧ skipBlanks inner = entry.value ++ rest := by
  cases frame with
  | list =>
    rw [show entry.label = [] from hl] at h
    exact ⟨cs, rfl, h⟩
  | object =>
    obtain ⟨key, hk, hl⟩ := hl
    obtain ⟨lead, behind, hb, hq, hc⟩ := hl.parts (entry.value ++ rest)
    refine ⟨_, ?_, skipBlanks_value hv hb rest⟩
    rw [enterItem, skipKey, h, hq]
    simp only [if_true, skipString_body hk, hc]

lemma entry_head (hl : frame.Labels entry.label) (hv : ValueText entry.value) :
    ∃ c cs, entry.label ++ entry.value = c :: cs ∧ isBlank c = false ∧ c ≠ frame.closing := by
  cases frame with
  | list =>
    rw [show entry.label = [] from hl]
    exact hv.head
  | object =>
    obtain ⟨key, -, hl⟩ := hl
    obtain ⟨-, behind, -, hq, -⟩ := hl.parts entry.value
    exact ⟨'"', _, hq, rfl, by decide⟩

lemma skipBlanks_entry (hp : entry.Padded) (hl : frame.Labels entry.label) (hv : ValueText entry.value)
    (rest : List Char) : skipBlanks (entry.text ++ rest) = entry.label ++ (entry.value ++ (entry.after ++ rest)) := by
  obtain ⟨c, cs, hc, hb, -⟩ := entry_head hl hv
  have ht : entry.text ++ rest = entry.before ++ (entry.label ++ entry.value ++ (entry.after ++ rest)) := by
    simp [Entry.text]
  rw [ht, hc, List.cons_append, skipBlanks_blanks hp.before hb, ← List.cons_append, ← hc, List.append_assoc]

lemma Frame.closing_ends (frame : Frame) : isBlank frame.closing = false ∧
    (frame.closing = ',' ∨ frame.closing = ']' ∨ frame.closing = '\x7d') := by
  cases frame <;> decide

lemma enter_first (hp : entry.Padded) (hl : frame.Labels entry.label) (hv : ValueText entry.value) (rest : List Char) :
    ∃ c others inner, skipBlanks (entry.text ++ rest) = c :: others ∧ c ≠ frame.closing ∧
      enterItem frame (c :: others) = .ok inner ∧ skipBlanks inner = entry.value ++ (entry.after ++ rest) := by
  have hs := skipBlanks_entry hp hl hv rest
  obtain ⟨c, cs, hc, hb, hn⟩ := entry_head hl hv
  rw [← List.append_assoc, hc, List.cons_append] at hs
  have ha : skipBlanks (c :: (cs ++ (entry.after ++ rest))) =
      entry.label ++ (entry.value ++ (entry.after ++ rest)) := by
    rw [skipBlanks_cons hb, ← List.cons_append, ← hc, List.append_assoc]
  obtain ⟨inner, he, hi⟩ := enter_entry hl hv ha
  exact ⟨c, _, inner, hs, hn, he, hi⟩

def Frame.further (frame : Frame) (entries : List Entry) (tail rest : List Char) : List Char :=
  (entries.flatMap fun entry => ',' :: entry.text) ++ (tail ++ frame.closing :: rest)

lemma further_cons (entries : List Entry) (tail rest : List Char) : frame.further (entry :: entries) tail rest =
    ',' :: (entry.text ++ frame.further entries tail rest) := by
  simp [Frame.further]

lemma text_cons (entries : List Entry) (tail rest : List Char) : frame.text (entry :: entries) tail ++ rest =
    frame.opening :: (entry.text ++ frame.further entries tail rest) := by
  simp [Frame.text, Frame.further, commaSeparated_cons, List.flatMap_map]

lemma text_nil (tail rest : List Char) : frame.text [] tail ++ rest = frame.opening :: frame.further [] tail rest := by
  simp [Frame.text, Frame.further, commaSeparated]

lemma skipBlanks_finished {tail : List Char} (ht : Blanks tail) (rest : List Char) :
    skipBlanks (frame.further [] tail rest) = frame.closing :: rest :=
  skipBlanks_blanks ht frame.closing_ends.1 rest

lemma skipBlanks_further (h : Blanks cs) (entries : List Entry) (tail rest : List Char) :
    skipBlanks (cs ++ frame.further entries tail rest) = skipBlanks (frame.further entries tail rest) :=
  skipBlanks_append h.isBlank _

lemma endsNumber_further {tail : List Char} (h : Blanks cs) (ht : Blanks tail) (entries : List Entry)
    (rest : List Char) : EndsNumber (cs ++ frame.further entries tail rest) := by
  cases entries with
  | nil =>
    have hb : Blanks (cs ++ tail) := fun c hc => (List.mem_append.mp hc).elim (h c) (ht c)
    have he := endsNumber_blanks hb frame.closing_ends.2 rest
    rwa [List.append_assoc] at he
  | cons entry entries => exact endsNumber_blanks h (.inl rfl) _

lemma Frame.length_further (frame : Frame) (entries : List Entry) (tail rest : List Char) :
    entries.length < (frame.further entries tail rest).length := by
  induction entries with
  | nil =>
    rw [Frame.further, List.length_append, List.length_append, List.length_cons, List.length_nil]
    omega
  | cons entry entries ih =>
    rw [further_cons, List.length_cons, List.length_cons, List.length_append]
    omega

lemma Entry.value_length_le (entry : Entry) : entry.value.length ≤ entry.text.length := by
  simp only [Entry.text, List.length_append]
  omega

lemma skips_further {entries : List Entry} {tail : List Char} (hp : ∀ entry ∈ entries, entry.Padded)
    (hl : ∀ entry ∈ entries, frame.Labels entry.label) (hv : ∀ entry ∈ entries, ValueText entry.value)
    (hs : ∀ entry ∈ entries, Skips entry.value) (ht : Blanks tail) :
    ∃ used ≤ 2 * (entries.flatMap fun entry => ',' :: entry.text).length + 1, ∀ rounds frames cs rest,
      skipBlanks cs = skipBlanks (frame.further entries tail rest) →
        skipFrom (rounds + used) .closed (frame :: frames) cs = skipFrom rounds .closed frames rest := by
  induction entries with
  | nil =>
    refine ⟨1, by omega, fun rounds frames cs rest h => ?_⟩
    exact skipFrom_finished (by decide) (h.trans (skipBlanks_finished ht rest))
  | cons entry entries ih =>
    obtain ⟨⟨hpe, hp⟩, ⟨hle, hl⟩, ⟨hve, hv⟩, ⟨hse, hs⟩⟩ := List.forall_mem_cons.mp hp, List.forall_mem_cons.mp hl,
      List.forall_mem_cons.mp hv, List.forall_mem_cons.mp hs
    obtain ⟨later, hlater, ih⟩ := ih hp hl hv hs
    obtain ⟨used, hused, hskip⟩ := hse
    refine ⟨later + used + 1, ?_, fun rounds frames cs rest h => ?_⟩
    · have hle := entry.value_length_le
      simp only [List.flatMap_cons, List.length_append, List.length_cons]
      omega
    · obtain ⟨inner, he, hi⟩ := enter_entry hle hve (skipBlanks_entry hpe hle hve (frame.further entries tail rest))
      rw [further_cons, skipBlanks_cons rfl] at h
      rw [← Nat.add_assoc, ← Nat.add_assoc, skipFrom_further h he,
        hskip _ _ _ _ (endsNumber_further hpe.after ht entries rest) hi,
        ih _ _ _ _ (skipBlanks_further hpe.after entries tail rest)]

lemma skips_scalar (h : Scalar value) : Skips value := by
  obtain ⟨c, cs, rfl, -⟩ := h.head
  refine ⟨1, ?_, fun rounds frames cs rest hr hb => ?_⟩
  · rw [List.length_cons]
    omega
  · exact skipFrom_scalar (hb ▸ skipScalar_scalar h hr)

lemma ValueText.skips (h : ValueText value) : Skips value := by
  induction h with
  | scalar h => exact skips_scalar h
  | @nested frame entries tail hp hl hv ht ih =>
    cases entries with
    | nil =>
      refine ⟨2, ?_, fun rounds frames cs rest hr hb => ?_⟩
      · simp only [Frame.text, List.length_cons, List.length_append]
        omega
      · rw [text_nil] at hb
        rw [skipFrom_opening hb, skipFrom_finished (by decide) (skipBlanks_finished ht rest)]
    | cons entry entries =>
      obtain ⟨⟨hpe, hp⟩, ⟨hle, hl⟩, ⟨hve, hv⟩, ⟨hse, hs⟩⟩ := List.forall_mem_cons.mp hp, List.forall_mem_cons.mp hl,
        List.forall_mem_cons.mp hv, List.forall_mem_cons.mp ih
      obtain ⟨later, hlater, hfurther⟩ := skips_further hp hl hv hs ht
      obtain ⟨used, hused, hskip⟩ := hse
      refine ⟨later + used + 1 + 1, ?_, fun rounds frames cs rest hr hb => ?_⟩
      · have hle := entry.value_length_le
        rw [Frame.text, List.map_cons, commaSeparated_cons, List.flatMap_map]
        simp only [List.length_append, List.length_cons]
        omega
      · obtain ⟨c, others, inner, hc, hn, he, hi⟩ := enter_first hpe hle hve (frame.further entries tail rest)
        rw [text_cons] at hb
        rw [← Nat.add_assoc, ← Nat.add_assoc, ← Nat.add_assoc, skipFrom_opening hb, skipFrom_first hc hn he,
          hskip _ _ _ _ (endsNumber_further hpe.after ht entries rest) hi,
          hfurther _ _ _ _ (skipBlanks_further hpe.after entries tail rest)]

theorem skipValue_text (h : ValueText value) (hr : EndsNumber rest) (hs : skipBlanks cs = value ++ rest) :
    skipValue cs = .ok rest := by
  obtain ⟨used, hused, hskip⟩ := h.skips
  have hl : value.length ≤ cs.length := by
    have hd := (List.dropWhile_sublist isBlank (l := cs)).length_le
    rw [← skipBlanks, hs, List.length_append] at hd
    omega
  obtain ⟨rounds, hf⟩ : ∃ rounds, 2 * cs.length + 2 = rounds + 1 + used := ⟨2 * cs.length + 1 - used, by omega⟩
  rw [skipValue, hf, hskip _ _ _ _ hr hs]
  rfl

lemma readWhole_ok {α : Type} {reader : List Char → Reading α} {text : String} {result : α}
    (h : reader text.toList = .ok (result, rest)) (hb : Blanks rest) : readWhole reader text = .ok result := by
  have hs : skipBlanks rest = [] := List.append_nil rest ▸ skipBlanks_append hb.isBlank []
  simp [readWhole, h, Except.bind, takeTextEnd, hs, Except.map]

end TerminalSessions.Json
