import TerminalSessions.Text.Layout
import TerminalSessions.Text.Lowercase
import TerminalSessions.Text.Numeral

namespace TerminalSessions

inductive LogLevel
  | error
  | warn
  | info
  | debug
  | trace
  deriving DecidableEq, Repr

namespace LogLevel

def name : LogLevel → String
  | error => "error"
  | warn => "warn"
  | info => "info"
  | debug => "debug"
  | trace => "trace"

def names : Names LogLevel where
  all := [error, warn, info, debug, trace]
  name := name
  found level := by cases level <;> rfl

def read? (text : String) : Option LogLevel :=
  let byNumber :=
    match Text.readNumeral 0xFFFFFFFFFFFFFFFF text with
    | .ok (index + 1) => names.all[index]?
    | _ => none
  byNumber.or (names.ofName? (text.map Char.toLower))

def directive (text : String) : String :=
  "terminal_list=" ++
    ((read? (String.ofList (Text.trim text.toList))).getD info).name

end LogLevel

end TerminalSessions
