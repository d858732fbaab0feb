import TerminalSessions.Shell
import TerminalSessions.Text.Numeral

namespace TerminalSessions

structure SessionDefaults where
  columns : UInt16 := 80
  rows : UInt16 := 25
  shell : Shell := .default
  autoClose : AutoClose := .default
  deriving DecidableEq, Repr, Inhabited

structure SavedTerminal where
  handle : String
  caption : String := ""
  title : String := ""
  sequence : UInt32
  busy : Bool := false
  shell : Shell := .default
  altBuffer : Bool := false
  workingDirectory : Option String := none
  autoClose : AutoClose := .default
  zombie : Bool := false
  deriving DecidableEq, Repr, Inhabited

structure Terminal extends SavedTerminal where
  columns : UInt16 := 80
  rows : UInt16 := 25
  deriving DecidableEq, Repr, Inhabited

def SavedTerminal.restored (saved : SavedTerminal) (defaults : SessionDefaults) : Terminal :=
  { toSavedTerminal := saved, columns := defaults.columns, rows := defaults.rows }

def defaultCaption (sequence : UInt32) : String :=
  "Terminal " ++ Text.decimal sequence.toNat

namespace Terminal

def withTitle (terminal : Terminal) (title : String) : Terminal :=
  { terminal with title }

def withBusy (terminal : Terminal) (busy : Bool) : Terminal :=
  { terminal with busy }

def withWorkingDirectory (terminal : Terminal) (workingDirectory : Option String) : Terminal :=
  { terminal with workingDirectory }

def withSize (terminal : Terminal) (columns rows : UInt16) : Terminal :=
  { terminal with columns, rows }

def withShell (terminal : Terminal) (shell : Shell) : Terminal :=
  { terminal with shell }

def withAltBuffer (terminal : Terminal) (altBuffer : Bool) : Terminal :=
  { terminal with altBuffer }

def withAutoClose (terminal : Terminal) (autoClose : AutoClose) : Terminal :=
  { terminal with autoClose }

def withZombie (terminal : Terminal) (zombie : Bool) : Terminal :=
  { terminal with zombie }

end Terminal

end TerminalSessions
