import TerminalSessions.Files.Path
import TerminalSessions.Registry.Basic
import TerminalSessions.Text.Numeral

namespace TerminalSessions

structure Settings where
  logLevel : String
  preferences : Preferences
  stateDirectory : String
  logLimit : Nat
  deriving DecidableEq, Repr

namespace Settings

def stateFile (settings : Settings) : String :=
  Files.join settings.stateDirectory "terminals.json"

def logFile (settings : Settings) : String :=
  Files.join settings.stateDirectory "commands.log"

inductive Fault
  | number (name : String) (error : Text.NumeralError)
  | zeroSize (columns rows : UInt16)
  | shell (text : String)
  | autoClose (text : String)
  | truth (name : String)
  deriving DecidableEq, Repr

namespace Fault

def message : Fault → String
  | number name _ => "Invalid " ++ name
  | zeroSize columns rows =>
    "Terminal dimensions must be non-zero: " ++ Text.decimal columns.toNat ++ "x" ++
      Text.decimal rows.toNat
  | shell text => Shell.complaint text
  | autoClose text => AutoClose.complaint text
  | truth name => "Invalid " ++ name

def cause? : Fault → Option String
  | number _ error => some error.message
  | truth _ => some "provided string was not `true` or `false`"
  | _ => none

end Fault

abbrev Lookup := String → Option String

def value? (lookup : Lookup) (name : String) : Option String :=
  (lookup name).filter (!·.isEmpty)

def readOr {α : Type} (lookup : Lookup) (name : String) (default : α) (read : String → Except Fault α) :
    Except Fault α :=
  match value? lookup name with
  | none => .ok default
  | some text => read text

def sizeText (name text : String) : Except Fault UInt16 :=
  match Text.readNumeral 0xFFFF text with
  | .ok size => .ok (UInt16.ofNat size)
  | .error error => .error (.number name error)

def namedText {α : Type} (names : Names α) (fault : String → Fault) (text : String) : Except Fault α :=
  match names.read? text with
  | some value => .ok value
  | none => .error (fault text)

def truthText (name text : String) : Except Fault Bool :=
  if text = "true" then .ok true else if text = "false" then .ok false else .error (.truth name)

def readSize (lookup : Lookup) (name : String) (default : UInt16) : Except Fault UInt16 :=
  readOr lookup name default (sizeText name)

def readShell (lookup : Lookup) : Except Fault Shell :=
  readOr lookup "DEFAULT_SHELL" .default (namedText Shell.names .shell)

def readAutoClose (lookup : Lookup) : Except Fault AutoClose :=
  readOr lookup "TERMINAL_AUTO_CLOSE" .default (namedText AutoClose.names .autoClose)

def readTruth (lookup : Lookup) (name : String) : Except Fault Bool :=
  readOr lookup name true (truthText name)

def megabyte : Nat := 1024 * 1024

def readLogLimit (lookup : Lookup) : Nat :=
  match value? lookup "AUDIT_LOG_MAX_SIZE_MB" with
  | none => 10 * megabyte
  | some text =>
    match Text.readNumeral 0xFFFFFFFFFFFFFFFF text with
    | .ok megabytes => megabytes * megabyte
    | .error _ => 10 * megabyte

def expandHome (home : Option String) (path : String) : String :=
  match home, path.toList with
  | some home, ['~'] => home
  | some home, '~' :: '/' :: rest => home ++ String.ofList ('/' :: rest)
  | _, _ => path

def ofLookup (home : Option String) (lookup : Lookup) : Except Fault Settings := do
  let columns ← readSize lookup "TERMINAL_COLS" 80
  let rows ← readSize lookup "TERMINAL_ROWS" 25
  if columns = 0 ∨ rows = 0 then throw (.zeroSize columns rows)
  let shell ← readShell lookup
  let autoClose ← readAutoClose lookup
  let blinkingCursor ← readTruth lookup "BLINKING_CURSOR"
  return {
    logLevel := (value? lookup "LOG_LEVEL").getD "info"
    preferences := { defaults := { columns, rows, shell, autoClose }, blinkingCursor }
    stateDirectory :=
      expandHome home ((value? lookup "TERMINAL_STATE_DIR").getD "~/.terminal-list")
    logLimit := readLogLimit lookup }

end Settings

end TerminalSessions
