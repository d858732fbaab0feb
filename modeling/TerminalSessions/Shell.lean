import TerminalSessions.Text.Lowercase

namespace TerminalSessions

inductive Shell
  | default
  | gitBash
  | wslBash
  | cmd32
  | cmd64
  | powerShell32
  | powerShell64
  | posixBash
  | custom
  deriving DecidableEq, Repr, Inhabited

namespace Shell

def name : Shell → String
  | default => "default"
  | gitBash => "git_bash"
  | wslBash => "wsl_bash"
  | cmd32 => "cmd32"
  | cmd64 => "cmd64"
  | powerShell32 => "power_shell32"
  | powerShell64 => "power_shell64"
  | posixBash => "posix_bash"
  | custom => "custom"

def names : Names Shell where
  all := [default, gitBash, wslBash, cmd32, cmd64, powerShell32, powerShell64, posixBash, custom]
  name := name
  found shell := by cases shell <;> rfl

def program? : Shell → Option String
  | default | custom => none
  | gitBash | posixBash => some "bash"
  | wslBash => some "wsl"
  | cmd32 | cmd64 => some "cmd"
  | powerShell32 | powerShell64 => some "powershell"

def ofName? : String → Option Shell :=
  names.ofName?

def read? : String → Option Shell :=
  names.read?

def complaint (text : String) : String :=
  "Invalid shell type: " ++ text

end Shell

inductive AutoClose
  | default
  | always
  | never
  deriving DecidableEq, Repr, Inhabited

namespace AutoClose

def name : AutoClose → String
  | default => "default"
  | always => "always"
  | never => "never"

def names : Names AutoClose where
  all := [default, always, never]
  name := name
  found autoClose := by cases autoClose <;> rfl

def ofName? : String → Option AutoClose :=
  names.ofName?

def read? : String → Option AutoClose :=
  names.read?

def complaint (text : String) : String :=
  "Invalid auto-close mode: " ++ text

end AutoClose

end TerminalSessions
