import TerminalSessions.AuditLog
import TerminalSessions.Backend
import TerminalSessions.Command.Apply
import TerminalSessions.SavedTerminal

/-! The console: commands are logged and carried out, and events of the backend are taken in. -/

namespace TerminalSessions

open TerminalSessions.Text (decimal)

structure Console where
  registry : Registry
  backend : Backend
  stateFile : String
  log : AuditLog

inductive Reply
  | output (text : String)
  | farewell (text : String)
  deriving DecidableEq, Repr

structure Turn (α : Type) where
  answer : α
  console : Console
  signals : List Bool := []

namespace Console

def follow {α : Type} (console : Console) (step : Step α) : Turn α :=
  { answer := step.answer
    console :=
      { console with
        registry := step.registry
        backend := console.backend.receiveAll step.effects }
    signals := Effect.busySignals step.effects }

def receive (console : Console) : BackendEvent → Turn Unit
  | .started terminal => console.follow (console.registry.add terminal)
  | .reaped _ => ⟨(), console, []⟩

def deliver? (console : Console) : Option (BackendEvent × Turn Unit) :=
  match console.backend.waiting with
  | [] => none
  | event :: others =>
    some (event, { console with backend := { console.backend with waiting := others } }.receive event)

def deliver (console : Console) : Nat → List BackendEvent × Console
  | 0 => ([], console)
  | count + 1 =>
    match console.deliver? with
    | none => ([], console)
    | some (event, turn) =>
      let (events, console) := turn.console.deliver count
      (event :: events, console)

def deliverAll (console : Console) : List BackendEvent × Console :=
  console.deliver console.backend.waiting.length

def hangUp (console : Console) : Console :=
  { console with backend := console.backend.hangUp }

variable {m : Type → Type} [Monad m] [FileAccess m]

def save (console : Console) : m (Except Failure Unit) :=
  SavedTerminal.save console.stateFile console.registry.snapshot

def perform (console : Console) (command : Command) : m (Turn (Except Failure Reply)) := do
  match command with
  | .save =>
    let reply := "saved " ++ decimal console.registry.terminals.length ++ " terminal(s)"
    return ⟨(← console.save).map fun _ => .output reply, console, []⟩
  | .quit => return ⟨(← console.save).map fun _ => .farewell "bye", console, []⟩
  | command =>
    let turn := console.follow (command.apply console.registry)
    return { turn with answer := turn.answer.map .output }

/-- Runs a line. A command is logged before it is carried out; whether that succeeds changes nothing. -/
def runLine (console : Console) (times : EntryTimes) (line : String) :
    m (Turn (Except Failure Reply)) := do
  match Command.ofLine line with
  | .error fault => return ⟨.error (.line fault), console, []⟩
  | .ok command =>
    let _ ← console.log.record times command.verb.name command.toJson
    console.perform command

def open? (preferences : Preferences) (backend : Backend) (stateFile : String) (log : AuditLog) :
    m (Except Failure Console) := do
  match ← SavedTerminal.load stateFile with
  | .error failure => return .error failure
  | .ok saved =>
    log.prepare
    let registry := ((Registry.empty preferences).restore saved).registry
    return .ok { registry, backend, stateFile, log }

end Console

end TerminalSessions
