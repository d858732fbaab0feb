import TerminalSessions.Proofs.Settings.Variables

/-! The environments from which settings can be read, the settings that these stand for, and the fault that is reported
where several variables are wrong. -/

namespace TerminalSessions.Settings

open Text

inductive Check
  | columns
  | rows
  | sizes
  | shell
  | autoClose
  | cursor
  deriving DecidableEq

namespace Check

def all : List Check :=
  [columns, rows, sizes, shell, autoClose, cursor]

def earlier (check : Check) : List Check :=
  all.takeWhile (· ≠ check)

end Check

inductive Finds (lookup : Lookup) : Check → Fault → Prop
  | columns {text : String} {error : NumeralError} (hs : IsSet lookup "TERMINAL_COLS" text)
      (hm : Misspells 0xFFFF text error) : Finds lookup .columns (.number "TERMINAL_COLS" error)
  | rows {text : String} {error : NumeralError} (hs : IsSet lookup "TERMINAL_ROWS" text)
      (hm : Misspells 0xFFFF text error) : Finds lookup .rows (.number "TERMINAL_ROWS" error)
  | sizes {columns rows : UInt16} (hc : Says lookup "TERMINAL_COLS" ReadsSize 80 columns)
      (hr : Says lookup "TERMINAL_ROWS" ReadsSize 25 rows) (hz : columns = 0 ∨ rows = 0) :
      Finds lookup .sizes (.zeroSize columns rows)
  | shell {text : String} (hs : IsSet lookup "DEFAULT_SHELL" text) (hn : ∀ shell : Shell, lowercase text ≠ shell.name) :
      Finds lookup .shell (.shell text)
  | autoClose {text : String} (hs : IsSet lookup "TERMINAL_AUTO_CLOSE" text)
      (hn : ∀ mode : AutoClose, lowercase text ≠ mode.name) : Finds lookup .autoClose (.autoClose text)
  | cursor {text : String} (hs : IsSet lookup "BLINKING_CURSOR" text) (ht : text ≠ "true") (hf : text ≠ "false") :
      Finds lookup .cursor (.truth "BLINKING_CURSOR")

def Reports (lookup : Lookup) (fault : Fault) : Prop :=
  ∃ check, Finds lookup check fault ∧ ∀ earlier ∈ check.earlier, ∀ other, ¬ Finds lookup earlier other

variable {home : Option String} {lookup : Lookup} {settings : Settings} {check : Check} {fault : Fault}

def Fails (lookup : Lookup) (fault : Fault) : Check → Prop
  | .columns => readSize lookup "TERMINAL_COLS" 80 = .error fault
  | .rows => readSize lookup "TERMINAL_ROWS" 25 = .error fault
  | .sizes => ∃ columns rows, readSize lookup "TERMINAL_COLS" 80 = .ok columns ∧
      readSize lookup "TERMINAL_ROWS" 25 = .ok rows ∧ (columns = 0 ∨ rows = 0) ∧ fault = .zeroSize columns rows
  | .shell => readShell lookup = .error fault
  | .autoClose => readAutoClose lookup = .error fault
  | .cursor => readTruth lookup "BLINKING_CURSOR" = .error fault

lemma finds_iff : Finds lookup check fault ↔ Fails lookup fault check := by
  constructor
  · intro h
    cases h with
    | columns hs hm => exact readSize_error.mpr ⟨_, _, hs, hm, rfl⟩
    | rows hs hm => exact readSize_error.mpr ⟨_, _, hs, hm, rfl⟩
    | sizes hc hr hz => exact ⟨_, _, readSize_ok.mpr hc, readSize_ok.mpr hr, hz, rfl⟩
    | shell hs hn => exact readShell_error.mpr ⟨_, hs, hn, rfl⟩
    | autoClose hs hn => exact readAutoClose_error.mpr ⟨_, hs, hn, rfl⟩
    | cursor hs ht hf => exact readTruth_error.mpr ⟨_, hs, ht, hf, rfl⟩
  · intro h
    cases check with
    | columns =>
      obtain ⟨text, error, hs, hm, rfl⟩ := readSize_error.mp h
      exact .columns hs hm
    | rows =>
      obtain ⟨text, error, hs, hm, rfl⟩ := readSize_error.mp h
      exact .rows hs hm
    | sizes =>
      obtain ⟨columns, rows, hc, hr, hz, rfl⟩ := h
      exact .sizes (readSize_ok.mp hc) (readSize_ok.mp hr) hz
    | shell =>
      obtain ⟨text, hs, hn, rfl⟩ := readShell_error.mp h
      exact .shell hs hn
    | autoClose =>
      obtain ⟨text, hs, hn, rfl⟩ := readAutoClose_error.mp h
      exact .autoClose hs hn
    | cursor =>
      obtain ⟨text, hs, ht, hf, rfl⟩ := readTruth_error.mp h
      exact .cursor hs ht hf

lemma Fails.unique {other : Fault} (h : Fails lookup fault check) (ho : Fails lookup other check) : fault = other := by
  cases check with
  | sizes =>
    obtain ⟨columns, rows, hc, hr, -, rfl⟩ := h
    obtain ⟨columns', rows', hc', hr', -, rfl⟩ := ho
    cases hc.symm.trans hc'
    cases hr.symm.trans hr'
    rfl
  | _ => exact Except.error.inj (h.symm.trans ho)

def Passes (lookup : Lookup) (check : Check) : Prop :=
  ∀ fault, ¬ Fails lookup fault check

lemma reports_iff : Reports lookup fault ↔
    ∃ check, Fails lookup fault check ∧ ∀ earlier ∈ check.earlier, Passes lookup earlier := by
  simp only [Reports, finds_iff, Passes]

lemma Reports.unique {other : Fault} (h : Reports lookup fault) (ho : Reports lookup other) : fault = other := by
  obtain ⟨check, hf, he⟩ := reports_iff.mp h
  obtain ⟨check', hf', he'⟩ := reports_iff.mp ho
  have horder : ∀ first second : Check, first = second ∨ first ∈ second.earlier ∨ second ∈ first.earlier := by
    intro first second
    cases first <;> cases second <;> decide
  rcases horder check check' with rfl | hm | hm
  · exact hf.unique hf'
  · exact absurd hf (he' check hm fault)
  · exact absurd hf' (he check' hm other)

variable {other : Lookup}

end TerminalSessions.Settings
