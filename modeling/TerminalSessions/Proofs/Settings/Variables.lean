import Mathlib.Algebra.Group.Nat.Defs
import TerminalSessions.Proofs.Names
import TerminalSessions.Proofs.Settings
import TerminalSessions.Proofs.Text.Numeral

/-! What the variables of an environment say. Each reader of a variable takes the default where the variable is not set,
and otherwise accepts the values that it is meant for. -/

namespace TerminalSessions.Settings

open Text

def IsSet (lookup : Lookup) (name text : String) : Prop :=
  lookup name = some text ∧ text ≠ ""

def Says {α : Type} (lookup : Lookup) (name : String) (reads : String → α → Prop) (default value : α) : Prop :=
  (∃ text, IsSet lookup name text ∧ reads text value) ∨ (∀ text, ¬ IsSet lookup name text) ∧ value = default

def ReadsSize (text : String) (size : UInt16) : Prop :=
  Numeral text size.toNat

section Reading

variable {α : Type} {lookup : Lookup} {name text : String} {reads : String → α → Prop} {default value : α}
  {read : String → Except Fault α} {fault : Fault}

lemma value_eq_some : value? lookup name = some text ↔ IsSet lookup name text := by
  rw [value?, Option.filter_eq_some_iff, IsSet]
  simp

lemma value_eq_none : value? lookup name = none ↔ ∀ text, ¬ IsSet lookup name text := by
  rw [Option.eq_none_iff_forall_ne_some]
  exact forall_congr' fun text => not_congr value_eq_some

lemma IsSet.unique {other : String} (h : IsSet lookup name text) (ho : IsSet lookup name other) : text = other :=
  Option.some.inj (h.1.symm.trans ho.1)

lemma Says.of_set (h : Says lookup name reads default value) (hs : IsSet lookup name text) : reads text value := by
  rcases h with ⟨other, ho, hr⟩ | ⟨hu, -⟩
  · exact hs.unique ho ▸ hr
  · exact absurd hs (hu text)

lemma readOr_ok (hr : ∀ text value, read text = .ok value ↔ reads text value) :
    readOr lookup name default read = .ok value ↔ Says lookup name reads default value := by
  rw [readOr, Says]
  cases hv : value? lookup name with
  | none =>
    have hn := value_eq_none.mp hv
    simp [hn, eq_comm]
  | some text =>
    have hs := value_eq_some.mp hv
    dsimp only
    rw [hr]
    constructor
    · exact fun h => .inl ⟨text, hs, h⟩
    · exact fun h => Says.of_set h hs

lemma readOr_error : readOr lookup name default read = .error fault ↔
    ∃ text, IsSet lookup name text ∧ read text = .error fault := by
  rw [readOr]
  cases hv : value? lookup name with
  | none =>
    have hn := value_eq_none.mp hv
    simp [hn]
  | some text =>
    have hs := value_eq_some.mp hv
    exact ⟨fun h => ⟨text, hs, h⟩, fun ⟨other, ho, h⟩ => hs.unique ho ▸ h⟩

lemma sizeText_ok {size : UInt16} : sizeText name text = .ok size ↔ ReadsSize text size := by
  have hs : ReadsSize text size ↔ readNumeral 0xFFFF text = .ok size.toNat := by
    rw [readNumeral_ok, ReadsSize]
    exact (and_iff_left (Nat.le_of_lt_succ size.toNat_lt)).symm
  rw [hs, sizeText]
  cases hr : readNumeral 0xFFFF text with
  | ok n =>
    have hn : (UInt16.ofNat n).toNat = n := UInt16.toNat_ofNat_of_lt (Nat.lt_succ_of_le (readNumeral_ok.mp hr).2)
    rw [Except.ok.injEq, Except.ok.injEq, ← UInt16.toNat_inj, hn]
  | error error => simp

lemma sizeText_error : sizeText name text = .error fault ↔
    ∃ error, Misspells 0xFFFF text error ∧ fault = .number name error := by
  rw [sizeText]
  simp only [← readNumeral_error]
  cases readNumeral 0xFFFF text with
  | ok n => simp
  | error error => simp [eq_comm]

lemma namedText_error {names : Names α} {fault : String → Fault} {other : Fault} :
    namedText names fault text = .error other ↔ (∀ value, lowercase text ≠ names.name value) ∧ other = fault text := by
  simp only [namedText, Ne, ← Names.read_lowercase]
  cases names.read? text <;> simp [eq_comm]

lemma truthText_error : truthText name text = .error fault ↔
    text ≠ "true" ∧ text ≠ "false" ∧ fault = .truth name := by
  rw [truthText]
  split_ifs <;> simp_all [eq_comm]

end Reading

variable {lookup : Lookup} {name text : String} {fault : Fault}

lemma readSize_ok {default size : UInt16} :
    readSize lookup name default = .ok size ↔ Says lookup name ReadsSize default size :=
  readOr_ok fun _ _ => sizeText_ok

lemma readSize_error {default : UInt16} : readSize lookup name default = .error fault ↔
    ∃ text error, IsSet lookup name text ∧ Misspells 0xFFFF text error ∧ fault = .number name error := by
  rw [readSize, readOr_error]
  simp only [sizeText_error, exists_and_left]

lemma readShell_error : readShell lookup = .error fault ↔
    ∃ text, IsSet lookup "DEFAULT_SHELL" text ∧ (∀ shell : Shell, lowercase text ≠ shell.name) ∧ fault = .shell text := by
  rw [readShell, readOr_error]
  simp only [namedText_error, Shell.names]

lemma readAutoClose_error : readAutoClose lookup = .error fault ↔
    ∃ text, IsSet lookup "TERMINAL_AUTO_CLOSE" text ∧ (∀ mode : AutoClose, lowercase text ≠ mode.name) ∧
      fault = .autoClose text := by
  rw [readAutoClose, readOr_error]
  simp only [namedText_error, AutoClose.names]

lemma readTruth_error : readTruth lookup name = .error fault ↔
    ∃ text, IsSet lookup name text ∧ text ≠ "true" ∧ text ≠ "false" ∧ fault = .truth name := by
  rw [readTruth, readOr_error]
  simp only [truthText_error]

end TerminalSessions.Settings
