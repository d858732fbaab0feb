import TerminalSessions.Json.Reader
import TerminalSessions.Proofs.Json.Written
import TerminalSessions.Proofs.Lookup

namespace TerminalSessions.Json

variable {key other : String} {value : Value} {fields done : List (String × Value)} {field : String × Value}
  {c : Char} {rest : List Char}

def Ordered (fields : List (String × Value)) : Prop :=
  fields.Pairwise (·.1 < ·.1)

lemma mem_insertField (h : field ∈ insertField key value fields) : field = (key, value) ∨ field ∈ fields := by
  induction fields with
  | nil => exact .inl (List.mem_singleton.mp h)
  | cons first others ih =>
    rw [insertField] at h
    split_ifs at h
    · exact List.mem_cons.mp h
    · exact (List.mem_cons.mp h).imp_right (List.mem_cons_of_mem _)
    · rcases List.mem_cons.mp h with rfl | hm
      · exact .inr List.mem_cons_self
      · exact (ih hm).imp_right (List.mem_cons_of_mem _)

lemma insertField_ordered (h : Ordered fields) : Ordered (insertField key value fields) := by
  induction fields with
  | nil => exact List.pairwise_singleton _ _
  | cons first others ih =>
    obtain ⟨hf, ho⟩ := List.pairwise_cons.mp h
    rw [insertField]
    split_ifs with hlt heq
    · refine List.pairwise_cons.mpr ⟨fun field hm => ?_, h⟩
      rcases List.mem_cons.mp hm with rfl | hm
      · exact hlt
      · exact String.lt_trans hlt (hf field hm)
    · exact List.pairwise_cons.mpr ⟨fun field hm => heq ▸ hf field hm, ho⟩
    · refine List.pairwise_cons.mpr ⟨fun field hm => ?_, ih ho⟩
      rcases mem_insertField hm with rfl | hm
      · by_contra hge
        exact heq (String.le_antisymm (String.not_lt.mp hge) (String.not_lt.mp hlt))
      · exact hf field hm

lemma insertField_last (h : ∀ field ∈ fields, field.1 < key) :
    insertField key value fields = fields ++ [(key, value)] := by
  induction fields with
  | nil => rfl
  | cons first others ih =>
    have hf := h first List.mem_cons_self
    have hne : key ≠ first.1 := fun he => String.lt_irrefl key (he ▸ hf)
    rw [insertField, if_neg (String.lt_asymm hf), if_neg hne,
      ih fun field hm => h field (List.mem_cons_of_mem _ hm)]
    rfl

lemma lookup_insertField : (insertField key value fields).lookup other =
    if other = key then some value else fields.lookup other := by
  induction fields with
  | nil => exact lookup_cons other (key, value) []
  | cons first others ih =>
    rw [insertField]
    split_ifs with hlt heq ho ho
    all_goals simp_all [lookup_cons]

def insertAll (done fields : List (String × Value)) : List (String × Value) :=
  fields.foldl (fun sorted field => insertField field.1 field.2 sorted) done

lemma insertAll_ordered (h : Ordered done) (fields : List (String × Value)) : Ordered (insertAll done fields) := by
  induction fields generalizing done with
  | nil => exact h
  | cons field fields ih => exact ih (insertField_ordered h)

lemma insertAll_append (h : Ordered (done ++ fields)) : insertAll done fields = done ++ fields := by
  induction fields generalizing done with
  | nil => exact (List.append_nil done).symm
  | cons field fields ih =>
    have hl : ∀ earlier ∈ done, earlier.1 < field.1 := fun earlier hm =>
      (List.pairwise_append.mp h).2.2 earlier hm field List.mem_cons_self
    rw [insertAll, List.foldl_cons, insertField_last hl, ← insertAll, ih, List.append_assoc]
    · rfl
    · rwa [List.append_assoc]

lemma mem_insertAll (h : field ∈ insertAll done fields) : field ∈ done ∨ field ∈ fields := by
  induction fields generalizing done with
  | nil => exact .inl h
  | cons first fields ih =>
    rcases ih h with hm | hm
    · rcases mem_insertField hm with rfl | hm
      · exact .inr List.mem_cons_self
      · exact .inl hm
    · exact .inr (List.mem_cons_of_mem _ hm)

lemma lookup_insertAll (key : String) (done fields : List (String × Value)) :
    (insertAll done fields).lookup key = (fields.reverse ++ done).lookup key := by
  induction fields generalizing done with
  | nil => rfl
  | cons field fields ih =>
    rw [insertAll, List.foldl_cons, ← insertAll, ih, List.reverse_cons, List.append_assoc]
    simp only [List.lookup_append, lookup_insertField, List.singleton_append, lookup_cons]

def Value.isPlain : Value → Bool
  | .null | .bool _ | .string _ => true
  | _ => false

lemma takeValue_plain (h : value.isPlain = true) (rounds : ℕ) (rest : List Char) :
    takeValue (rounds + 1) (value.write ++ rest) = .ok (value, rest) := by
  cases value with
  | null => simp [takeValue, Value.write, skipBlanks, isBlank, takeScalar, takeWord, Except.map]
  | bool value =>
    cases value <;> simp [takeValue, Value.write, writeBool, skipBlanks, isBlank, takeScalar, takeWord, Except.map]
  | string text =>
    simp [takeValue, Value.write, writeString, skipBlanks, isBlank, takeScalar, takeString_written, Except.map]
  | _ => cases h

def writeField (field : String × Value) : List Char :=
  writeString field.1 ++ ':' :: field.2.write

lemma writeFields_eq (fields : List (String × Value)) : writeFields fields = fields.map writeField := by
  induction fields with
  | nil => rfl
  | cons field fields ih => rw [writeFields, ih, List.map_cons, writeField]

lemma takeFields_plain {isFirst : Bool} {cs : List Char} (h : field.2.isPlain = true) (rounds : ℕ)
    (hn : nextField isFirst cs = .ok (.item (writeField field ++ rest))) :
    takeFields (rounds + 2) isFirst done cs =
      takeFields (rounds + 1) false (insertField field.1 field.2 done) rest := by
  have hk : (writeField field ++ rest).tail =
      field.1.toList.flatMap escapeChar ++ '"' :: (':' :: (field.2.write ++ rest)) := by
    simp [writeField, writeString]
  have hc : takeColon (':' :: (field.2.write ++ rest)) = .ok (field.2.write ++ rest) := by
    rw [takeColon, skipBlanks_cons rfl]
    rfl
  rw [takeFields]
  simp only [hn, hk, takeString_written, hc, takeValue_plain h]

lemma skipBlanks_writeField (field : String × Value) (rest : List Char) :
    skipBlanks (writeField field ++ rest) = writeField field ++ rest :=
  skipBlanks_cons rfl _

lemma takeFields_further (h : ∀ field ∈ fields, field.2.isPlain = true) {rounds : ℕ} (hr : fields.length < rounds)
    (rest : List Char) :
    takeFields (rounds + 1) false done ((fields.map writeField).flatMap (',' :: ·) ++ '\x7d' :: rest) =
      .ok (insertAll done fields, rest) := by
  induction fields generalizing done rounds with
  | nil =>
    obtain ⟨rounds, rfl⟩ := Nat.exists_eq_succ_of_ne_zero (Nat.ne_of_gt hr)
    have hs : skipBlanks ('\x7d' :: rest) = '\x7d' :: rest := skipBlanks_cons rfl _
    simp [takeFields, nextField_finished false hs, takeObjectEnd_closing, Except.map, insertAll]
  | cons field fields ih =>
    obtain ⟨rounds, rfl⟩ := Nat.exists_eq_succ_of_ne_zero (Nat.ne_of_gt (Nat.zero_lt_of_lt hr))
    rw [List.map_cons, List.flatMap_cons, List.append_assoc, List.cons_append]
    rw [takeFields_plain (h field List.mem_cons_self) rounds
      (nextField_further (skipBlanks_cons rfl _) (skipBlanks_writeField field _))]
    exact ih (fun other hm => h other (List.mem_cons_of_mem _ hm)) (by simpa using hr)

lemma length_le_flatMap (texts : List (List Char)) : texts.length ≤ (texts.flatMap (',' :: ·)).length := by
  induction texts with
  | nil => exact le_rfl
  | cons text texts ih =>
    rw [List.flatMap_cons, List.length_append, List.length_cons, List.length_cons]
    omega

lemma takeValue_object (h : ∀ field ∈ fields, field.2.isPlain = true) (ho : Ordered fields) (rest : List Char) :
    takeValue (((Value.object fields).write ++ rest).length + 1) ((Value.object fields).write ++ rest) =
      .ok (.object fields, rest) := by
  have hw : (Value.object fields).write ++ rest =
      '\x7b' :: (commaSeparated (fields.map writeField) ++ '\x7d' :: rest) := by
    simp [Value.write, writeFields_eq]
  have hf : ∀ rounds, fields.length < rounds →
      takeFields (rounds + 1) true [] (commaSeparated (fields.map writeField) ++ '\x7d' :: rest) =
        .ok (fields, rest) := by
    intro rounds hr
    cases fields with
    | nil => simp [takeFields, commaSeparated, nextField, takeObjectEnd, skipBlanks, isBlank, Except.map]
    | cons field fields =>
      obtain ⟨rounds, rfl⟩ := Nat.exists_eq_succ_of_ne_zero (Nat.ne_of_gt (Nat.zero_lt_of_lt hr))
      rw [List.map_cons, commaSeparated_cons, List.append_assoc,
        takeFields_plain (h field List.mem_cons_self) rounds (nextField_first (skipBlanks_writeField field _)),
        takeFields_further (fun other hm => h other (List.mem_cons_of_mem _ hm)) (by simpa using hr)]
      have ha : insertAll [] (field :: fields) = field :: fields := insertAll_append ho
      exact congrArg (fun fields => Except.ok (fields, rest)) ha
  have hl : fields.length ≤ (commaSeparated (fields.map writeField)).length := by
    cases fields with
    | nil => exact Nat.zero_le _
    | cons field fields =>
      have hm := length_le_flatMap (fields.map writeField)
      rw [List.length_map] at hm
      rw [List.map_cons, commaSeparated_cons, List.length_append, writeField, writeString]
      simp only [List.length_append, List.length_cons]
      omega
  rw [hw, takeValue, skipBlanks_cons rfl]
  simp only [List.length_cons, List.length_append]
  rw [hf _ (by omega)]
  rfl

theorem readValue_object (h : ∀ field ∈ fields, field.2.isPlain = true) (ho : Ordered fields)
    (hr : ∀ c ∈ rest, isBlank c = true) :
    readValue (String.ofList ((Value.object fields).write ++ rest)) = .ok (.object fields) := by
  have hs : skipBlanks rest = [] := List.append_nil rest ▸ skipBlanks_append hr []
  rw [readValue, readWhole, String.toList_ofList, takeValue_object h ho]
  simp [Except.bind, takeTextEnd, hs, Except.map]

end TerminalSessions.Json
