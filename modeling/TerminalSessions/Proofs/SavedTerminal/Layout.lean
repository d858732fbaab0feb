import Mathlib.Data.List.Forall2
import TerminalSessions.Proofs.Json.WellFormed
import TerminalSessions.Proofs.Lookup
import TerminalSessions.SavedTerminal

/-! The texts from which terminals can be read: fields may stand in any order, be left out where the value is the one
they have then, and have unknown fields between them, with blanks wherever the grammar has them. -/

namespace TerminalSessions

open TerminalSessions.Json

namespace SavedField

def default? : SavedField → Option Value
  | handle | sequence => none
  | caption | title => some (.string "")
  | busy | altBuffer | zombie => some (.bool false)
  | shell => some (.string Shell.default.name)
  | workingDirectory => some .null
  | autoClose => some (.string AutoClose.default.name)

end SavedField

namespace SavedTerminal

/-- What an entry of an object tells of a terminal: the value of a field, or nothing where the key is unknown. A key is
a text, so that no escape in it stands for half of a surrogate pair. -/
inductive Tells (terminal : SavedTerminal) (entry : Entry) : Option SavedField → Prop
  | known {field : SavedField} {key : List Char} (hk : Spelling field.key.toList key) (hl : Label key entry.label)
      (hv : Spells (field.value terminal) entry.value) : Tells terminal entry (some field)
  | unknown {name : String} {key : List Char} (hn : ∀ field : SavedField, field.key ≠ name)
      (hk : Spelling name.toList key) (hl : Label key entry.label) (hv : ValueText entry.value) :
      Tells terminal entry none

inductive ObjectLayout (terminal : SavedTerminal) : List Char → Prop
  | mk {entries : List Entry} {tail : List Char} {told : List (Option SavedField)}
      (hp : ∀ entry ∈ entries, entry.Padded) (ht : Blanks tail) (hf : List.Forall₂ (Tells terminal) entries told)
      (hn : (told.filterMap id).Nodup)
      (hd : ∀ field, some field ∉ told → field.default? = some (field.value terminal)) :
      ObjectLayout terminal (Frame.object.text entries tail)

inductive ListLayout (terminals : List SavedTerminal) : List Char → Prop
  | mk {entries : List Entry} {tail : List Char} (hp : ∀ entry ∈ entries, entry.Padded) (ht : Blanks tail)
      (hl : ∀ entry ∈ entries, entry.label = [])
      (hf : List.Forall₂ (fun terminal entry => ObjectLayout terminal entry.value) terminals entries) :
      ListLayout terminals (Frame.list.text entries tail)

def Surrounded (layout : List Char → Prop) (text : String) : Prop :=
  ∃ before body after, text.toList = before ++ (body ++ after) ∧ Blanks before ∧ Blanks after ∧ layout body

namespace Draft

def holding (terminal : SavedTerminal) (fields : List SavedField) : Draft where
  handle := if .handle ∈ fields then some terminal.handle else none
  caption := if .caption ∈ fields then some terminal.caption else none
  title := if .title ∈ fields then some terminal.title else none
  sequence := if .sequence ∈ fields then some terminal.sequence else none
  busy := if .busy ∈ fields then some terminal.busy else none
  shell := if .shell ∈ fields then some terminal.shell else none
  altBuffer := if .altBuffer ∈ fields then some terminal.altBuffer else none
  workingDirectory := if .workingDirectory ∈ fields then some terminal.workingDirectory else none
  autoClose := if .autoClose ∈ fields then some terminal.autoClose else none
  zombie := if .zombie ∈ fields then some terminal.zombie else none

variable {terminal : SavedTerminal} {fields : List SavedField} {field : SavedField} {cs rest written : List Char}

lemma has_holding : (holding terminal fields).has field = decide (field ∈ fields) := by
  cases field <;> simp only [has, holding] <;> split_ifs with h <;> simp [h]

lemma getD_held {α : Type} {held : Prop} [Decidable held] {value default : α} (h : ¬ held → default = value) :
    (if held then some value else none).getD default = value := by
  split_ifs with hh
  · rfl
  · exact h hh

lemma finish_holding (h : ∀ field ∉ fields, field.default? = some (field.value terminal)) :
    (holding terminal fields).finish = .ok terminal := by
  have hhandle : .handle ∈ fields := by_contra fun hn => by cases h .handle hn
  have hsequence : .sequence ∈ fields := by_contra fun hn => by cases h .sequence hn
  have htext : ∀ field, ∀ {text default : String}, field.value terminal = .string text →
      field.default? = some (.string default) → field ∉ fields → default = text := fun field _ _ hv hd hn =>
    Value.string.inj (Option.some.inj (hd.symm.trans ((h field hn).trans (congrArg some hv))))
  have hbool : ∀ field, ∀ {value default : Bool}, field.value terminal = .bool value →
      field.default? = some (.bool default) → field ∉ fields → default = value := fun field _ _ hv hd hn =>
    Value.bool.inj (Option.some.inj (hd.symm.trans ((h field hn).trans (congrArg some hv))))
  have hshell : .shell ∉ fields → .default = terminal.shell := fun hn =>
    have ht : Shell.default.name = terminal.shell.name := htext .shell rfl rfl hn
    Shell.names.name_injective ht
  have hmode : .autoClose ∉ fields → .default = terminal.autoClose := fun hn =>
    have ht : AutoClose.default.name = terminal.autoClose.name := htext .autoClose rfl rfl hn
    AutoClose.names.name_injective ht
  have hdirectory : .workingDirectory ∉ fields → none = terminal.workingDirectory := fun hn => by
    have hd := h .workingDirectory hn
    cases hw : terminal.workingDirectory with
    | none => rfl
    | some directory =>
      rw [SavedField.value, hw] at hd
      cases hd
  simp only [finish, holding, if_pos hhandle, if_pos hsequence, getD_held (htext .caption rfl rfl),
    getD_held (htext .title rfl rfl), getD_held (hbool .busy rfl rfl), getD_held (hbool .altBuffer rfl rfl),
    getD_held (hbool .zombie rfl rfl), getD_held hshell, getD_held hmode, getD_held hdirectory]

lemma take_holding (hv : Spells (field.value terminal) written) (hr : EndsNumber rest)
    (hs : skipBlanks cs = written ++ rest) :
    (holding terminal fields).take cs field = .ok (holding terminal (field :: fields), rest) := by
  have hshell : Shell.ofName? terminal.shell.name = some terminal.shell := Shell.names.ofName_name _
  have hmode : AutoClose.ofName? terminal.autoClose.name = some terminal.autoClose := AutoClose.names.ofName_name _
  cases field with
  | handle | caption | title => simp [take, takeText_spelled hv hs, Except.map, holding]
  | busy | altBuffer | zombie => simp [take, takeBool_spelled hv hs, Except.map, holding]
  | sequence => simp [take, takeUInt32_spelled hv hr hs, Except.map, holding]
  | shell => simp [take, takeVariant_spelled hshell hv hs, Except.map, holding]
  | autoClose => simp [take, takeVariant_spelled hmode hv hs, Except.map, holding]
  | workingDirectory =>
    cases hw : terminal.workingDirectory with
    | none =>
      simp only [SavedField.value, hw] at hv
      simp [take, takeOptionalText_null hv hs, Except.map, holding, hw]
    | some directory =>
      simp only [SavedField.value, hw] at hv
      simp [take, takeOptionalText_spelled hv hs, Except.map, holding, hw]

lemma takeFields_entry {entry : Entry} {told : Option SavedField} {rounds : ℕ} {isFirst : Bool}
    (ht : Tells terminal entry told) (hd : ∀ field, told = some field → field ∉ fields)
    (hn : nextField isFirst cs = .ok (.item (entry.label ++ (entry.value ++ rest)))) (hr : EndsNumber rest) :
    takeFields (rounds + 1) isFirst (holding terminal fields) cs =
      takeFields rounds false (holding terminal (told.toList ++ fields)) rest := by
  cases ht with
  | @known field key hk hl hv =>
    obtain ⟨lead, behind, hb, hq, hc⟩ := hl.parts (entry.value ++ rest)
    obtain ⟨c, others, hw, hnb⟩ := hv.head
    have hs : skipBlanks (lead ++ (entry.value ++ rest)) = entry.value ++ rest := by
      rw [hw, List.cons_append, skipBlanks_blanks hb hnb]
    have hf : SavedField.ofKey? field.key = some field := SavedField.names.ofName_name field
    simp only [takeFields, hn, hq, List.tail_cons, takeString_spelled hk, hf, has_holding,
      decide_eq_false (hd field rfl), hc, Except.bind, take_holding hv hr hs, Bool.false_eq_true, if_false]
    rfl
  | @unknown name key hu hk hl hv =>
    obtain ⟨lead, behind, hb, hq, hc⟩ := hl.parts (entry.value ++ rest)
    have hs := skipValue_text hv hr (skipBlanks_value hv hb rest)
    have hf : SavedField.ofKey? name = none := SavedField.names.ofName_unknown hu
    simp only [takeFields, hn, hq, List.tail_cons, takeString_spelled hk, hf, hc, Except.bind, hs]
    rfl

lemma nextField_entry {entry : Entry} {told : Option SavedField} (hp : entry.Padded) (ht : Tells terminal entry told)
    (rest : List Char) :
    let item := entry.label ++ (entry.value ++ (entry.after ++ rest))
    nextField true (entry.text ++ rest) = .ok (.item item) ∧
      ∀ cs, skipBlanks cs = ',' :: (entry.text ++ rest) → nextField false cs = .ok (.item item) := by
  intro item
  obtain ⟨key, hl⟩ : ∃ key, Label key entry.label := by
    cases ht with
    | known hk hl => exact ⟨_, hl⟩
    | unknown hn hk hl => exact ⟨_, hl⟩
  obtain ⟨-, behind, -, hq, -⟩ := hl.parts (entry.value ++ (entry.after ++ rest))
  have hs : skipBlanks (entry.text ++ rest) = '"' :: (key ++ '"' :: behind) := by
    have he : entry.text ++ rest = entry.before ++ item := by simp [Entry.text, item]
    rw [he, show item = _ from hq, skipBlanks_blanks hp.before rfl]
  rw [show item = _ from hq]
  exact ⟨nextField_first hs, fun cs hc => nextField_further hc hs⟩

structure Fresh (fields : List SavedField) (told : List (Option SavedField)) : Prop where
  nodup : (told.filterMap id).Nodup
  apart : ∀ field, some field ∈ told → field ∉ fields

lemma Fresh.cons {first : Option SavedField} {told : List (Option SavedField)} (h : Fresh fields (first :: told)) :
    (∀ field, first = some field → field ∉ fields) ∧ Fresh (first.toList ++ fields) told := by
  refine ⟨fun field hf => h.apart field (hf ▸ List.mem_cons_self),
    h.nodup.sublist ((List.sublist_cons_self first told).filterMap id), fun field hm hf => ?_⟩
  rcases List.mem_append.mp hf with hf | hf
  · obtain rfl : first = some field := Option.mem_toList.mp hf
    exact (List.nodup_cons.mp h.nodup).1 (List.mem_filterMap.mpr ⟨_, hm, rfl⟩)
  · exact h.apart field (List.mem_cons_of_mem _ hm) hf

def Gathers (terminal : SavedTerminal) (fields : List SavedField) (told : List (Option SavedField)) (rest : List Char)
    (reading : Reading Draft) : Prop :=
  ∃ all, reading = .ok (holding terminal all, '\x7d' :: rest) ∧
    ∀ field, field ∈ all ↔ field ∈ fields ∨ some field ∈ told

lemma Gathers.cons {first : Option SavedField} {told : List (Option SavedField)} {reading : Reading Draft}
    (h : Gathers terminal (first.toList ++ fields) told rest reading) :
    Gathers terminal fields (first :: told) rest reading := by
  obtain ⟨all, ha, hm⟩ := h
  refine ⟨all, ha, fun field => ?_⟩
  have hf : field ∈ first.toList ↔ some field = first := Option.mem_toList.trans eq_comm
  rw [hm, List.mem_append, List.mem_cons, hf, or_assoc, or_left_comm]

variable {entry : Entry} {entries : List Entry} {first : Option SavedField} {told : List (Option SavedField)}
  {tail : List Char} {rounds : ℕ}

lemma takeFields_further (hf : List.Forall₂ (Tells terminal) entries told) (hp : ∀ entry ∈ entries, entry.Padded)
    (ht : Blanks tail) (hn : Fresh fields told) (hr : entries.length < rounds)
    (hs : skipBlanks cs = skipBlanks (Frame.object.further entries tail rest)) :
    Gathers terminal fields told rest (takeFields rounds false (holding terminal fields) cs) := by
  induction hf generalizing fields rounds cs with
  | nil =>
    obtain ⟨rounds, rfl⟩ := Nat.exists_eq_succ_of_ne_zero (Nat.ne_of_gt hr)
    have hc := hs.trans (skipBlanks_finished ht rest)
    exact ⟨fields, by simp only [takeFields, nextField_finished false hc], by simp⟩
  | @cons entry first entries told hte hf ih =>
    obtain ⟨rounds, rfl⟩ := Nat.exists_eq_succ_of_ne_zero (Nat.ne_of_gt (Nat.zero_lt_of_lt hr))
    obtain ⟨hpe, hp⟩ := List.forall_mem_cons.mp hp
    obtain ⟨hd, hn⟩ := hn.cons
    rw [further_cons, skipBlanks_cons rfl] at hs
    rw [takeFields_entry hte hd ((nextField_entry hpe hte _).2 cs hs) (endsNumber_further hpe.after ht entries rest)]
    exact (ih hp hn (Nat.lt_of_succ_lt_succ hr) (skipBlanks_further hpe.after entries tail rest)).cons

lemma takeFields_first (hte : Tells terminal entry first) (hf : List.Forall₂ (Tells terminal) entries told)
    (hpe : entry.Padded) (hp : ∀ entry ∈ entries, entry.Padded) (ht : Blanks tail) (hn : Fresh fields (first :: told))
    (hr : entries.length < rounds) (rest : List Char) :
    Gathers terminal fields (first :: told) rest (takeFields (rounds + 1) true (holding terminal fields)
      (entry.text ++ Frame.object.further entries tail rest)) := by
  obtain ⟨hd, hn⟩ := hn.cons
  rw [takeFields_entry hte hd (nextField_entry hpe hte _).1 (endsNumber_further hpe.after ht entries rest)]
  exact (takeFields_further hf hp ht hn hr (skipBlanks_further hpe.after entries tail rest)).cons

end Draft

variable {terminal : SavedTerminal} {terminals : List SavedTerminal} {text cs rest : List Char} {entry : Entry}
  {entries : List Entry}

lemma take_layout (h : ObjectLayout terminal text) (hs : skipBlanks cs = text ++ rest) :
    take cs = .ok (terminal, rest) := by
  cases h with
  | @mk entries tail told hp ht hf hn hd =>
    cases hf with
    | nil => cases hd .handle List.not_mem_nil
    | @cons entry first entries told hte hf =>
      obtain ⟨hpe, hp⟩ := List.forall_mem_cons.mp hp
      have he : ({} : Draft) = Draft.holding terminal [] := by simp [Draft.holding]
      have hr : entries.length < (entry.text ++ Frame.object.further entries tail rest).length := by
        have hl := Frame.object.length_further entries tail rest
        rw [List.length_append]
        omega
      obtain ⟨all, ha, hm⟩ := Draft.takeFields_first hte hf hpe hp ht ⟨hn, fun _ _ => List.not_mem_nil⟩ hr rest
      have hfinish : (Draft.holding terminal all).finish = .ok terminal :=
        Draft.finish_holding fun field hfield => hd field fun hm' => hfield ((hm field).mpr (.inr hm'))
      rw [text_cons] at hs
      simp only [take, hs, Frame.opening]
      rw [he, ha]
      simp only [hfinish, takeObjectEnd_closing, Except.map]

lemma nextItem_entry (h : ObjectLayout terminal entry.value) (hp : entry.Padded) (hl : entry.label = [])
    (rest : List Char) :
    let item := entry.value ++ (entry.after ++ rest)
    nextItem true (entry.text ++ rest) = .ok (.item item) ∧
      ∀ cs, skipBlanks cs = ',' :: (entry.text ++ rest) → nextItem false cs = .ok (.item item) := by
  intro item
  obtain ⟨others, ho⟩ : ∃ others, item = '\x7b' :: others := by
    generalize hv : entry.value = value at h
    cases h
    exact ⟨_, congrArg (· ++ (entry.after ++ rest)) hv⟩
  have hs : skipBlanks (entry.text ++ rest) = '\x7b' :: others := by
    have he : entry.text ++ rest = entry.before ++ item := by simp [Entry.text, item, hl]
    rw [he, ho, skipBlanks_blanks hp.before rfl]
  rw [ho]
  exact ⟨nextItem_first hs (by decide), fun cs hc => nextItem_further hc hs (by decide)⟩

lemma takeMany_entry {rounds : ℕ} {isFirst : Bool} (h : ObjectLayout terminal entry.value)
    (hn : nextItem isFirst cs = .ok (.item (entry.value ++ rest))) : takeMany (rounds + 1) isFirst cs =
      (takeMany rounds false rest).map fun (terminals, rest) => (terminal :: terminals, rest) := by
  have ht : take (entry.value ++ rest) = .ok (terminal, rest) := by
    refine take_layout h ?_
    generalize entry.value = value at h
    cases h
    exact skipBlanks_cons rfl _
  simp only [takeMany, hn, ht]

lemma takeMany_further {tail : List Char} {rounds : ℕ}
    (hf : List.Forall₂ (fun terminal entry => ObjectLayout terminal entry.value) terminals entries)
    (hp : ∀ entry ∈ entries, entry.Padded) (hl : ∀ entry ∈ entries, entry.label = []) (ht : Blanks tail)
    (hr : entries.length < rounds) (hs : skipBlanks cs = skipBlanks (Frame.list.further entries tail rest)) :
    takeMany rounds false cs = .ok (terminals, rest) := by
  induction hf generalizing rounds cs with
  | nil =>
    obtain ⟨rounds, rfl⟩ := Nat.exists_eq_succ_of_ne_zero (Nat.ne_of_gt hr)
    have hc : skipBlanks cs = ']' :: rest := hs.trans (skipBlanks_finished ht rest)
    simp only [takeMany, nextItem_finished false hc, takeListEnd_closing, Except.map]
  | @cons terminal entry terminals entries hte hf ih =>
    obtain ⟨rounds, rfl⟩ := Nat.exists_eq_succ_of_ne_zero (Nat.ne_of_gt (Nat.zero_lt_of_lt hr))
    obtain ⟨⟨hpe, hp⟩, ⟨hle, hl⟩⟩ := List.forall_mem_cons.mp hp, List.forall_mem_cons.mp hl
    rw [further_cons, skipBlanks_cons rfl] at hs
    rw [takeMany_entry hte ((nextItem_entry hte hpe hle _).2 cs hs),
      ih hp hl (Nat.lt_of_succ_lt_succ hr) (skipBlanks_further hpe.after entries tail rest)]
    rfl

lemma takeAll_layout (h : ListLayout terminals text) (hs : skipBlanks cs = text ++ rest) :
    takeAll cs = .ok (terminals, rest) := by
  cases h with
  | @mk entries tail hp ht hl hf =>
    cases hf with
    | nil =>
      rw [text_nil] at hs
      simp only [takeAll, hs, Frame.opening]
      have hc : skipBlanks (Frame.list.further [] tail rest) = ']' :: rest := skipBlanks_finished ht rest
      simp only [takeMany, nextItem_finished true hc, takeListEnd_closing, Except.map]
    | @cons terminal entry terminals entries hte hf =>
      obtain ⟨⟨hpe, hp⟩, ⟨hle, hl⟩⟩ := List.forall_mem_cons.mp hp, List.forall_mem_cons.mp hl
      have hr : entries.length < (entry.text ++ Frame.list.further entries tail rest).length := by
        have hl := Frame.list.length_further entries tail rest
        rw [List.length_append]
        omega
      rw [text_cons] at hs
      simp only [takeAll, hs, Frame.opening]
      rw [takeMany_entry hte (nextItem_entry hte hpe hle _).1,
        takeMany_further hf hp hl ht hr (skipBlanks_further hpe.after entries tail rest)]
      rfl

lemma read_layout {text : String} (h : Surrounded (ObjectLayout terminal) text) : read text = .ok terminal := by
  obtain ⟨before, body, after, ht, hb, ha, hl⟩ := h
  refine readWhole_ok (take_layout hl ?_) ha
  cases hl
  rw [ht]
  exact skipBlanks_blanks hb rfl _

lemma readAll_layout {text : String} (h : Surrounded (ListLayout terminals) text) : readAll text = .ok terminals := by
  obtain ⟨before, body, after, ht, hb, ha, hl⟩ := h
  refine readWhole_ok (takeAll_layout hl ?_) ha
  cases hl
  rw [ht]
  exact skipBlanks_blanks hb rfl _

end SavedTerminal

end TerminalSessions
