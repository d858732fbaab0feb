import TerminalSessions.Files.Path

namespace TerminalSessions

inductive FileFault
  | notFound
  | exists
  | notDirectory
  | isDirectory
  | busy
  | notEmpty
  | nameTooLong
  | zeroInName
  | notText
  | other (message : String)
  deriving DecidableEq, Repr, Inhabited

def FileFault.message : FileFault → String
  | .notFound => "No such file or directory (os error 2)"
  | .exists => "File exists (os error 17)"
  | .notDirectory => "Not a directory (os error 20)"
  | .isDirectory => "Is a directory (os error 21)"
  | .busy => "Device or resource busy (os error 16)"
  | .notEmpty => "Directory not empty (os error 39)"
  | .nameTooLong => "File name too long (os error 36)"
  | .zeroInName => "file name contained an unexpected NUL byte"
  | .notText => "stream did not contain valid UTF-8"
  | .other message => message

inductive FileStatus
  | file (size : Nat)
  | directory
  deriving DecidableEq, Repr

/-- A monad in which files can be used. Writing a file replaces its content, and makes the file if there is
none; appending does the latter too. Directories are made one at a time. It is assumed that what was written or
appended has landed when the answer is there, and that no name is a link. -/
class FileAccess (m : Type → Type) where
  status : String → m (Except FileFault FileStatus)
  read : String → m (Except FileFault ByteArray)
  write : String → ByteArray → m (Except FileFault Unit)
  append : String → ByteArray → m (Except FileFault Unit)
  rename : String → String → m (Except FileFault Unit)
  makeDirectory : String → m (Except FileFault Unit)

namespace Files

variable {m : Type → Type} [Monad m] [FileAccess m]

def isThere (path : String) : m Bool := do
  return (← FileAccess.status path).isOk

def isDirectory (path : String) : m Bool := do
  match ← FileAccess.status path with
  | .ok .directory => return true
  | _ => return false

def ensureDirectory (path : String) : m (Except FileFault Unit) := do
  match ← FileAccess.makeDirectory path with
  | .error .exists => return if ← isDirectory path then .ok () else .error .exists
  | result => return result

def makeDirectoriesFrom (levels : Nat) (path : String) : m (Except FileFault Unit) := do
  if path.isEmpty then return .ok ()
  match ← ensureDirectory path with
  | .error .notFound =>
    match levels, parent? path with
    | levels + 1, some parent =>
      match ← makeDirectoriesFrom levels parent with
      | .ok () => ensureDirectory path
      | .error fault => return .error fault
    | _, _ => return .error .notFound
  | result => return result

def makeDirectories (path : String) : m (Except FileFault Unit) :=
  makeDirectoriesFrom path.length path

def readText (path : String) : m (Except FileFault String) := do
  match ← FileAccess.read path with
  | .error fault => return .error fault
  | .ok bytes =>
    match String.fromUTF8? bytes with
    | some text => return .ok text
    | none => return .error .notText

def writeText (path text : String) : m (Except FileFault Unit) :=
  FileAccess.write path text.toUTF8

end Files

end TerminalSessions
