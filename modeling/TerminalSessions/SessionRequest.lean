import TerminalSessions.Terminal

namespace TerminalSessions

structure SessionRequest where
  sequence : UInt32
  handle : Option String := none
  caption : Option String := none
  title : Option String := none
  busy : Bool := false
  columns : UInt16 := 80
  rows : UInt16 := 25
  shell : Shell := .default
  altBuffer : Bool := false
  workingDirectory : Option String := none
  autoClose : AutoClose := .default
  zombie : Bool := false
  blinkingCursor : Bool := false
  focus : Bool := false
  deriving DecidableEq, Repr, Inhabited

namespace SessionRequest

def chosenCaption (request : SessionRequest) : String :=
  match request.caption with
  | some caption => if caption.isEmpty then defaultCaption request.sequence else caption
  | none => defaultCaption request.sequence

def terminal (request : SessionRequest) (handle : String) : Terminal where
  handle
  caption := request.chosenCaption
  title := request.title.getD ""
  sequence := request.sequence
  busy := request.busy
  shell := request.shell
  altBuffer := request.altBuffer
  workingDirectory := request.workingDirectory
  autoClose := request.autoClose
  zombie := request.zombie
  columns := request.columns
  rows := request.rows

def fresh (sequence : UInt32) (caption : Option String) (defaults : SessionDefaults)
    (blinkingCursor : Bool) : SessionRequest where
  sequence
  caption
  busy := true
  columns := defaults.columns
  rows := defaults.rows
  shell := defaults.shell
  autoClose := defaults.autoClose
  blinkingCursor
  focus := true

def resume (terminal : Terminal) (blinkingCursor : Bool) : SessionRequest where
  sequence := terminal.sequence
  handle := some terminal.handle
  caption := some terminal.caption
  title := some terminal.title
  busy := terminal.busy
  columns := terminal.columns
  rows := terminal.rows
  shell := terminal.shell
  altBuffer := terminal.altBuffer
  workingDirectory := terminal.workingDirectory
  autoClose := terminal.autoClose
  zombie := terminal.zombie
  blinkingCursor
  focus := true

end SessionRequest

end TerminalSessions
