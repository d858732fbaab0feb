import TerminalSessions.Console
import TerminalSessions.Settings.Basic
import TerminalSessions.Settings.Environment

/-! A session at the console, from its environment to the last line of its input. -/

namespace TerminalSessions

structure Report where
  message : String
  cause : Option String := none
  deriving DecidableEq, Repr

namespace Report

def ofSettings (fault : Settings.Fault) : Report :=
  ⟨fault.message, fault.cause?⟩

def ofFailure (failure : Failure) : Report :=
  ⟨failure.message, failure.cause?⟩

def indented (text : String) : List Char :=
  text.toList.flatMap fun c => if c = '\n' then "\n    ".toList else [c]

def text (report : Report) : String :=
  "Error: " ++ report.message ++
    match report.cause with
    | some cause => "\n\nCaused by:\n    " ++ String.ofList (indented cause)
    | none => ""

end Report

namespace Session

def environmentFile : String := ".env"

def home? (environment : Environment) : Option String :=
  (environment.value? "HOME").filter (!·.isEmpty)

variable {m : Type → Type} [Monad m] [FileAccess m]

def completed (environment : Environment) : m Environment := do
  match ← FileAccess.read environmentFile with
  | .ok bytes => return environment.supplyFile bytes.toList
  | .error _ => return environment

def start (environment : Environment) (supply : Nat → String) : m (Except Report Console) := do
  let environment ← completed environment
  match Settings.ofLookup (home? environment) environment.value? with
  | .error fault => return .error (.ofSettings fault)
  | .ok settings =>
    let log : AuditLog := ⟨settings.logFile, settings.logLimit⟩
    match ← Console.open? settings.preferences { supply } settings.stateFile log with
    | .error failure => return .error (.ofFailure failure)
    | .ok console => return .ok console

inductive State
  | running (console : Console)
  | left
  | broken (report : Report)

def shown : Except Failure Reply → Option String
  | .ok (.output text) => if text.isEmpty then none else some text
  | .ok (.farewell text) => some text
  | .error failure => some ("error: " ++ failure.message)

def runText (console : Console) (times : EntryTimes) (line : String) :
    m (State × Option String) := do
  if (Text.trim line.toList).isEmpty then return (.running console, none)
  let turn ← console.runLine times line
  let text := shown turn.answer
  match turn.answer with
  | .ok (.farewell _) => return (.left, text)
  | _ => return (.running turn.console.deliverAll.2, text)

def runBytes (console : Console) (times : EntryTimes) (line : List UInt8) :
    m (State × Option String) := do
  let line := Text.withoutBreak 0x0A 0x0D line
  match Text.utf8Fault? line, Text.decode? line with
  | none, some text => runText console times text
  | some fault, _ => return (.broken ⟨fault.message, none⟩, none)
  | none, none => return (.broken ⟨FileFault.notText.message, none⟩, none)

def finish (console : Console) : m (Option Report) := do
  match ← console.save with
  | .ok () => return none
  | .error failure => return some (.ofFailure failure)

structure Transcript where
  output : List String := []
  report : Option Report := none
  deriving DecidableEq, Repr

namespace Transcript

def exitCode (transcript : Transcript) : Nat :=
  if transcript.report.isSome then 1 else 0

def outputText (transcript : Transcript) : String :=
  String.join (transcript.output.map (· ++ "\n"))

def errorText (transcript : Transcript) : String :=
  match transcript.report with
  | some report => report.text
  | none => ""

def showing (transcript : Transcript) (text : Option String) : Transcript :=
  { transcript with output := text.toList ++ transcript.output }

end Transcript

def runLines (console : Console) : List (EntryTimes × List UInt8) → m Transcript
  | [] => return { report := ← finish console }
  | (times, line) :: lines => do
    let (state, text) ← runBytes console times line
    match state with
    | .running console => return (← runLines console lines).showing text
    | .left => return { output := text.toList }
    | .broken report => return { output := text.toList, report := some report }

def run (environment : Environment) (supply : Nat → String) (clock : Nat → EntryTimes)
    (input : List UInt8) : m Transcript := do
  match ← start environment supply with
  | .error report => return { report := some report }
  | .ok console =>
    runLines console ((Text.byteLines input).mapIdx fun index line => (clock index, line))

end Session

end TerminalSessions
