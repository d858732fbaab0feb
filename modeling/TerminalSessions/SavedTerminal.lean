import TerminalSessions.Failure
import TerminalSessions.Json.Skip
import TerminalSessions.Json.Typed
import TerminalSessions.Terminal

/-! The text in which terminals are kept between runs, and the file that holds it. -/

namespace TerminalSessions

open TerminalSessions.Json

inductive SavedField
  | handle
  | caption
  | title
  | sequence
  | busy
  | shell
  | altBuffer
  | workingDirectory
  | autoClose
  | zombie
  deriving DecidableEq, Repr

namespace SavedField

def all : List SavedField :=
  [handle, caption, title, sequence, busy, shell, altBuffer, workingDirectory, autoClose, zombie]

def key : SavedField → String
  | handle => "handle"
  | caption => "caption"
  | title => "title"
  | sequence => "terminalSequence"
  | busy => "hasChildProcs"
  | shell => "shellType"
  | altBuffer => "altBufferActive"
  | workingDirectory => "cwd"
  | autoClose => "autoCloseMode"
  | zombie => "zombie"

def names : Names SavedField where
  all := all
  name := key
  found field := by cases field <;> rfl

def ofKey? : String → Option SavedField :=
  names.ofName?

def value (terminal : SavedTerminal) : SavedField → Value
  | handle => .string terminal.handle
  | caption => .string terminal.caption
  | title => .string terminal.title
  | sequence => .integer terminal.sequence.toNat
  | busy => .bool terminal.busy
  | shell => .string terminal.shell.name
  | altBuffer => .bool terminal.altBuffer
  | workingDirectory =>
    match terminal.workingDirectory with
    | some directory => .string directory
    | none => .null
  | autoClose => .string terminal.autoClose.name
  | zombie => .bool terminal.zombie

end SavedField

namespace SavedTerminal

def toJson (terminal : SavedTerminal) : Value :=
  .object (SavedField.all.map fun field => (field.key, field.value terminal))

def writeAll (terminals : List SavedTerminal) : String :=
  (Value.array (terminals.map toJson)).prettyText

structure Draft where
  handle : Option String := none
  caption : Option String := none
  title : Option String := none
  sequence : Option UInt32 := none
  busy : Option Bool := none
  shell : Option Shell := none
  altBuffer : Option Bool := none
  workingDirectory : Option (Option String) := none
  autoClose : Option AutoClose := none
  zombie : Option Bool := none

namespace Draft

def has (draft : Draft) : SavedField → Bool
  | .handle => draft.handle.isSome
  | .caption => draft.caption.isSome
  | .title => draft.title.isSome
  | .sequence => draft.sequence.isSome
  | .busy => draft.busy.isSome
  | .shell => draft.shell.isSome
  | .altBuffer => draft.altBuffer.isSome
  | .workingDirectory => draft.workingDirectory.isSome
  | .autoClose => draft.autoClose.isSome
  | .zombie => draft.zombie.isSome

def take (draft : Draft) (cs : List Char) : SavedField → Reading Draft
  | .handle => (takeText cs).map fun (value, rest) => ({ draft with handle := value }, rest)
  | .caption => (takeText cs).map fun (value, rest) => ({ draft with caption := value }, rest)
  | .title => (takeText cs).map fun (value, rest) => ({ draft with title := value }, rest)
  | .sequence => (takeUInt32 cs).map fun (value, rest) => ({ draft with sequence := value }, rest)
  | .busy => (takeBool cs).map fun (value, rest) => ({ draft with busy := value }, rest)
  | .shell =>
    (takeVariant Shell.ofName? (Shell.names.texts) cs).map fun (value, rest) =>
      ({ draft with shell := value }, rest)
  | .altBuffer => (takeBool cs).map fun (value, rest) => ({ draft with altBuffer := value }, rest)
  | .workingDirectory =>
    (takeOptionalText cs).map fun (value, rest) =>
      ({ draft with workingDirectory := some value }, rest)
  | .autoClose =>
    (takeVariant AutoClose.ofName? (AutoClose.names.texts) cs).map fun (value, rest) =>
      ({ draft with autoClose := value }, rest)
  | .zombie => (takeBool cs).map fun (value, rest) => ({ draft with zombie := value }, rest)

def finish (draft : Draft) : Except SavedField SavedTerminal :=
  match draft.handle, draft.sequence with
  | none, _ => .error .handle
  | _, none => .error .sequence
  | some handle, some sequence =>
    .ok
      { handle
        caption := draft.caption.getD ""
        title := draft.title.getD ""
        sequence
        busy := draft.busy.getD false
        shell := draft.shell.getD .default
        altBuffer := draft.altBuffer.getD false
        workingDirectory := draft.workingDirectory.getD none
        autoClose := draft.autoClose.getD .default
        zombie := draft.zombie.getD false }

def takeFields : Nat → Bool → Draft → List Char → Reading Draft
  | 0, _, _, _ => .error (Cause.endInObject.before [])
  | rounds + 1, isFirst, draft, cs =>
    match nextField isFirst cs with
    | .error fault => .error fault
    | .ok (.finished rest) => .ok (draft, rest)
    | .ok (.item rest) =>
      match takeString rest.tail with
      | .error fault => .error fault
      | .ok (key, rest) =>
        match SavedField.ofKey? key with
        | none =>
          match (takeColon rest).bind skipValue with
          | .error fault => .error fault
          | .ok rest => takeFields rounds false draft rest
        | some field =>
          if draft.has field then .error (repeated key rest)
          else
            match (takeColon rest).bind fun rest => draft.take rest field with
            | .error fault => .error fault
            | .ok (draft, rest) => takeFields rounds false draft rest
where
  /-- A repeated field shows after its key, the blanks there and a closing brace. -/
  repeated (key : String) (rest : List Char) : Fault :=
    match skipBlanks rest with
    | '\x7d' :: rest => (Cause.duplicateField key).before rest
    | rest => (Cause.duplicateField key).before rest

def takeItems : List SavedField → Bool → Draft → List Char → Reading Draft
  | [], _, draft, cs => .ok (draft, cs)
  | field :: fields, isFirst, draft, cs =>
    match nextItem isFirst cs with
    | .error fault => .error fault
    | .ok (.finished rest) => .ok (draft, rest)
    | .ok (.item rest) =>
      match draft.take rest field with
      | .error fault => .error fault
      | .ok (draft, rest) => takeItems fields false draft rest

end Draft

def take (cs : List Char) : Reading SavedTerminal :=
  match skipBlanks cs with
  | '\x7b' :: rest =>
    match Draft.takeFields (rest.length + 1) true { } rest with
    | .error fault => .error fault
    | .ok (draft, rest) =>
      match draft.finish with
      | .error field => .error ((Cause.missingField field.key).before rest.tail)
      | .ok terminal => (takeObjectEnd rest).map ((terminal, ·))
  | '[' :: rest =>
    match Draft.takeItems SavedField.all true { } rest with
    | .error fault => .error fault
    | .ok (draft, rest) =>
      match draft.finish with
      | .error field =>
        .error ((Cause.wrongLength (SavedField.all.idxOf field)
          "struct ProcessInfo with 10 elements").before rest.tail)
      | .ok terminal => (takeListEnd rest).map ((terminal, ·))
  | rest => .error (wrongType "struct ProcessInfo" rest)

def takeMany : Nat → Bool → List Char → Reading (List SavedTerminal)
  | 0, _, _ => .error (Cause.endInList.before [])
  | rounds + 1, isFirst, cs =>
    match nextItem isFirst cs with
    | .error fault => .error fault
    | .ok (.finished rest) => (takeListEnd rest).map (([], ·))
    | .ok (.item rest) =>
      match take rest with
      | .error fault => .error fault
      | .ok (terminal, rest) =>
        (takeMany rounds false rest).map fun (terminals, rest) => (terminal :: terminals, rest)

def takeAll (cs : List Char) : Reading (List SavedTerminal) :=
  match skipBlanks cs with
  | '[' :: rest => takeMany (rest.length + 1) true rest
  | rest => .error (wrongType "a sequence" rest)

def read (text : String) : Except Complaint SavedTerminal :=
  readWhole take text

def readAll (text : String) : Except Complaint (List SavedTerminal) :=
  readWhole takeAll text

variable {m : Type → Type} [Monad m] [FileAccess m]

def prepareDirectory (path : String) : m (Except FileFault Unit) := do
  match Files.parent? path with
  | some parent => if parent.isEmpty then return .ok () else Files.makeDirectories parent
  | none => return .ok ()

def save (path : String) (terminals : List SavedTerminal) : m (Except Failure Unit) := do
  match ← prepareDirectory path with
  | .error fault => return .error (.files fault)
  | .ok () =>
    match ← Files.writeText path (writeAll terminals) with
    | .error fault => return .error (.files fault)
    | .ok () => return .ok ()

def load (path : String) : m (Except Failure (List SavedTerminal)) := do
  match ← Files.readText path with
  | .error .notFound => return .ok []
  | .error fault => return .error (.files fault)
  | .ok text =>
    match readAll text with
    | .ok terminals => return .ok terminals
    | .error complaint => return .error (.savedState complaint)

end SavedTerminal

end TerminalSessions
