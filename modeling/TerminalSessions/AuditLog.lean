import TerminalSessions.Clock
import TerminalSessions.Files.Access
import TerminalSessions.Json.Value
import TerminalSessions.Text.Layout

/-! The log of all commands, which is put aside when it is full. -/

namespace TerminalSessions

open TerminalSessions.Json (Value)
open TerminalSessions.Text (alignLeft)

structure AuditLog where
  path : String
  limit : Nat
  deriving DecidableEq, Repr

/-- The readings of the clock for one entry: one for the name of a log put aside, a later one for the
entry. -/
structure EntryTimes where
  rotation : Instant
  entry : Instant
  deriving DecidableEq, Repr, Inhabited

namespace AuditLog

def longestText : Nat := 256

def shortened : Value → Value
  | .string text =>
    if longestText < text.utf8ByteSize then .string "<truncated for log>" else .string text
  | value => value

def logged : Value → Value
  | .object fields => .object (fields.map fun (key, value) => (key, shortened value))
  | value => value

def entry (time : Instant) (command : String) (arguments : Value) : String :=
  time.timestamp ++ " | " ++ alignLeft 14 command ++ " | " ++ (logged arguments).text ++ "\n"

def rotatedName (name stamp : String) : String :=
  match Files.splitExtension name with
  | (stem, some extension) => stem ++ "_" ++ stamp ++ "." ++ extension
  | (stem, none) => stem ++ "_" ++ stamp

def rotatedPath (log : AuditLog) (stamp : String) : String :=
  Files.withFileName log.path (rotatedName ((Files.fileName? log.path).getD "") stamp)

/-- The bytes that a directory in place of a log counts for. -/
def directorySize : Nat := 4096

def size : FileStatus → Nat
  | .file size => size
  | .directory => directorySize

variable {m : Type → Type} [Monad m] [FileAccess m]

def prepare (log : AuditLog) : m Unit := do
  match Files.parent? log.path with
  | none => return
  | some parent =>
    if ← Files.isThere parent then return
    let _ ← Files.makeDirectories parent

def rotateIfFull (log : AuditLog) (time : Instant) : m (Except FileFault Unit) := do
  match ← FileAccess.status log.path with
  | .error .notFound => return .ok ()
  | .error fault => return .error fault
  | .ok status =>
    if log.limit ≤ size status then FileAccess.rename log.path (log.rotatedPath time.stamp)
    else return .ok ()

def record (log : AuditLog) (times : EntryTimes) (command : String) (arguments : Value) :
    m (Except FileFault Unit) := do
  match ← log.rotateIfFull times.rotation with
  | .error fault => return .error fault
  | .ok () => FileAccess.append log.path (entry times.entry command arguments).toUTF8

end AuditLog

end TerminalSessions
