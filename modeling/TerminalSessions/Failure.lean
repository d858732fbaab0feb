import TerminalSessions.Command
import TerminalSessions.Files.Access
import TerminalSessions.Json.Fault

namespace TerminalSessions

inductive Failure
  | files (fault : FileFault)
  | savedState (complaint : Json.Complaint)
  | line (fault : LineFault)
  | needsConsole (verb : Verb)
  | unknownTerminal (handle : String)
  | captionInUse (caption : String)
  deriving DecidableEq, Repr

inductive FailureKind
  | files
  | savedState
  | argument
  | unknownCommand
  | unknownTerminal
  | captionInUse
  deriving DecidableEq, Repr

def FailureKind.heading : FailureKind → String
  | files => "I/O error: "
  | savedState => "Serde JSON error: "
  | argument => "Invalid input argument: "
  | unknownCommand => "Unknown command: "
  | unknownTerminal => "Terminal not found for handle: "
  | captionInUse => "Caption already in use: "

namespace Failure

def kind : Failure → FailureKind
  | files _ => .files
  | savedState _ => .savedState
  | line (.unknown _) => .unknownCommand
  | line _ => .argument
  | needsConsole _ => .argument
  | unknownTerminal _ => .unknownTerminal
  | captionInUse _ => .captionInUse

def detail : Failure → String
  | files fault => fault.message
  | savedState complaint => complaint.message
  | line .empty => "empty command"
  | line (.missing argument verb) =>
    "missing " ++ argument.name ++ "; usage: " ++ verb.usage
  | line (.invalidState word) =>
    "invalid state '" ++ word ++ "'; usage: " ++ Verb.subprocs.usage
  | line (.unknown word) => word
  | needsConsole verb =>
    "'" ++ verb.name ++ "' cannot be applied to the terminal list directly"
  | unknownTerminal handle => handle
  | captionInUse caption => caption

def message (failure : Failure) : String :=
  failure.kind.heading ++ failure.detail

def cause? : Failure → Option String
  | files fault => some fault.message
  | savedState complaint => some complaint.message
  | _ => none

end Failure

end TerminalSessions
