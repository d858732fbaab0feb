import TerminalSessions.Json.Value
import TerminalSessions.Text.Layout
import TerminalSessions.Text.Lowercase

namespace TerminalSessions

open TerminalSessions.Json (Value)

inductive Verb
  | new
  | list
  | retitle
  | close
  | reconnect
  | subprocs
  | cwd
  | find
  | busy
  | save
  | terminateAll
  | quit
  deriving DecidableEq, Repr

namespace Verb

def name : Verb → String
  | new => "new"
  | list => "list"
  | retitle => "retitle"
  | close => "close"
  | reconnect => "reconnect"
  | subprocs => "subprocs"
  | cwd => "cwd"
  | find => "find"
  | busy => "busy"
  | save => "save"
  | terminateAll => "terminate-all"
  | quit => "quit"

def names : Names Verb where
  all := [new, list, retitle, close, reconnect, subprocs, cwd, find, busy, save, terminateAll, quit]
  name := name
  found verb := by cases verb <;> rfl

def ofWord? (word : String) : Option Verb :=
  if word = "ls" then some list
  else if word = "exit" then some quit
  else names.ofName? word

def usage : Verb → String
  | retitle => "retitle <handle> <title>"
  | close => "close <handle>"
  | reconnect => "reconnect <handle>"
  | subprocs => "subprocs <handle> <on|off>"
  | cwd => "cwd <handle> [dir]"
  | find => "find <caption>"
  | verb => verb.name

end Verb

inductive Command
  | new (caption : String)
  | list
  | retitle (handle title : String)
  | close (handle : String)
  | reconnect (handle : String)
  | subprocs (handle : String) (active : Bool)
  | cwd (handle : String) (directory : Option String)
  | find (caption : String)
  | busy
  | save
  | terminateAll
  | quit
  deriving DecidableEq, Repr

inductive Argument
  | handle
  | state
  | caption
  deriving DecidableEq, Repr

def Argument.name : Argument → String
  | handle => "handle"
  | state => "state"
  | caption => "caption"

inductive LineFault
  | empty
  | missing (argument : Argument) (verb : Verb)
  | invalidState (word : String)
  | unknown (word : String)
  deriving DecidableEq, Repr

namespace Command

def verb : Command → Verb
  | new _ => .new
  | list => .list
  | retitle _ _ => .retitle
  | close _ => .close
  | reconnect _ => .reconnect
  | subprocs _ _ => .subprocs
  | cwd _ _ => .cwd
  | find _ => .find
  | busy => .busy
  | save => .save
  | terminateAll => .terminateAll
  | quit => .quit

def phrase (words : List String) : String :=
  String.intercalate " " words

def state? (word : String) : Option Bool :=
  if word ∈ ["on", "true", "yes"] then some true
  else if word ∈ ["off", "false", "no"] then some false
  else none

def ofWords (verb : Verb) (words : List String) : Except LineFault Command :=
  match verb with
  | .new => .ok (.new (phrase words))
  | .list => .ok .list
  | .retitle =>
    match words with
    | [] => .error (.missing .handle .retitle)
    | handle :: title => .ok (.retitle handle (phrase title))
  | .close =>
    match words with
    | [] => .error (.missing .handle .close)
    | handle :: _ => .ok (.close handle)
  | .reconnect =>
    match words with
    | [] => .error (.missing .handle .reconnect)
    | handle :: _ => .ok (.reconnect handle)
  | .subprocs =>
    match words with
    | [] => .error (.missing .handle .subprocs)
    | [_] => .error (.missing .state .subprocs)
    | handle :: word :: _ =>
      match state? word with
      | some active => .ok (.subprocs handle active)
      | none => .error (.invalidState word)
  | .cwd =>
    match words with
    | [] => .error (.missing .handle .cwd)
    | [handle] => .ok (.cwd handle none)
    | handle :: directory => .ok (.cwd handle (some (phrase directory)))
  | .find =>
    match words with
    | [] => .error (.missing .caption .find)
    | words => .ok (.find (phrase words))
  | .busy => .ok .busy
  | .save => .ok .save
  | .terminateAll => .ok .terminateAll
  | .quit => .ok .quit

def ofLine (line : String) : Except LineFault Command :=
  match Text.wordsOf line with
  | [] => .error .empty
  | word :: words =>
    match Verb.ofWord? word with
    | some verb => ofWords verb words
    | none => .error (.unknown word)

def toJson (command : Command) : Value :=
  Value.ofFields (("command", .string command.verb.name) :: arguments)
where
  arguments : List (String × Value) :=
    match command with
    | new caption => [("caption", .string caption)]
    | retitle handle title => [("handle", .string handle), ("title", .string title)]
    | close handle => [("handle", .string handle)]
    | reconnect handle => [("handle", .string handle)]
    | subprocs handle active => [("handle", .string handle), ("active", .bool active)]
    | cwd handle (some directory) => [("handle", .string handle), ("cwd", .string directory)]
    | cwd handle none => [("handle", .string handle), ("cwd", .null)]
    | find caption => [("caption", .string caption)]
    | list | busy | save | terminateAll | quit => []

end Command

end TerminalSessions
