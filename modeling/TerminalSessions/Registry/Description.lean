import TerminalSessions.Registry.Basic
import TerminalSessions.Text.Printable

namespace TerminalSessions

open TerminalSessions.Text (alignLeft alignRight decimal quoted trimEnd)

def describeFields (name : String) (fields : List (String × String)) (more : Bool) : String :=
  let texts := fields.map fun field => field.1 ++ ": " ++ field.2
  let texts := if more then texts ++ [".."] else texts
  name ++ " \x7b " ++ String.intercalate ", " texts ++ " \x7d"

def describeBool (value : Bool) : String :=
  if value then "true" else "false"

def describeOption : Option String → String
  | some text => "Some(" ++ quoted text ++ ")"
  | none => "None"

def Shell.description : Shell → String
  | .default => "Default"
  | .gitBash => "GitBash"
  | .wslBash => "WslBash"
  | .cmd32 => "Cmd32"
  | .cmd64 => "Cmd64"
  | .powerShell32 => "PowerShell32"
  | .powerShell64 => "PowerShell64"
  | .posixBash => "PosixBash"
  | .custom => "Custom"

def AutoClose.description : AutoClose → String
  | .default => "Default"
  | .always => "Always"
  | .never => "Never"

def Terminal.description (terminal : Terminal) : String :=
  describeFields "TerminalRecord"
    [("handle", quoted terminal.handle),
      ("caption", quoted terminal.caption),
      ("title", quoted terminal.title),
      ("sequence", decimal terminal.sequence.toNat),
      ("has_child_processes", describeBool terminal.busy),
      ("columns", decimal terminal.columns.toNat),
      ("rows", decimal terminal.rows.toNat),
      ("shell_type", terminal.shell.description),
      ("alt_buffer_active", describeBool terminal.altBuffer),
      ("working_directory", describeOption terminal.workingDirectory),
      ("auto_close_mode", terminal.autoClose.description),
      ("is_zombie", describeBool terminal.zombie)] false

def SessionDefaults.description (defaults : SessionDefaults) : String :=
  describeFields "SessionDefaults"
    [("columns", decimal defaults.columns.toNat),
      ("rows", decimal defaults.rows.toNat),
      ("shell_type", defaults.shell.description),
      ("auto_close_mode", defaults.autoClose.description)] false

def Registry.description (registry : Registry) : String :=
  describeFields "TerminalList"
    [("terminals",
        "[" ++ String.intercalate ", " (registry.terminals.map (·.description)) ++ "]"),
      ("highest_sequence", decimal registry.highestSequence.toNat),
      ("defaults", registry.preferences.defaults.description)] true

def Terminal.row (terminal : Terminal) (index : Nat) : String :=
  String.intercalate "  "
    [alignRight 2 (decimal index), alignLeft 36 terminal.handle, alignLeft 16 terminal.caption,
      alignLeft 16 terminal.title, alignLeft 4 (if terminal.busy then "busy" else ""),
      terminal.workingDirectory.getD "-"]

namespace Registry

def rows (registry : Registry) : List String :=
  registry.terminals.mapIdx fun index terminal => terminal.row index

def listing (registry : Registry) : String :=
  if registry.terminals.isEmpty then "no terminals"
  else
    String.ofList (trimEnd (registry.rows.flatMap fun row => row.toList ++ ['\n']))

end Registry

end TerminalSessions
