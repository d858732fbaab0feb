/-! Paths of files, written with slashes. Empty parts and single dots in the middle of a path mean
nothing. -/

namespace TerminalSessions.Files

def parts (path : List Char) : List (List Char) :=
  path.splitOn '/'

def isRooted (path : List Char) : Bool :=
  path.head? = some '/'

def isIdle (isFirst : Bool) (part : List Char) : Bool :=
  part.isEmpty || (!isFirst && part = ['.'])

def dropIdle : List (List Char) → List (List Char)
  | [] => []
  | part :: before =>
    if isIdle before.isEmpty part then dropIdle before else part :: before

def joinParts (parts : List (List Char)) : List Char :=
  ['/'].intercalate parts

def split? (path : List Char) : Option (List Char × List Char) :=
  match dropIdle (parts path).reverse with
  | [] => none
  | part :: before =>
    let parent := joinParts (dropIdle before).reverse
    some (if parent.isEmpty && isRooted path then ['/'] else parent, part)

def parent? (path : String) : Option String :=
  (split? path.toList).map fun (parent, _) => String.ofList parent

def fileName? (path : String) : Option String :=
  match split? path.toList with
  | some (_, part) => if part = ['.'] ∨ part = ['.', '.'] then none else some (String.ofList part)
  | none => none

def join (directory name : String) : String :=
  if name.toList.head? = some '/' ∨ directory.isEmpty then name
  else if directory.toList.getLast? = some '/' then directory ++ name
  else directory ++ "/" ++ name

def withFileName (path name : String) : String :=
  match fileName? path, parent? path with
  | some _, some parent => join parent name
  | _, _ => join path name

/-- A file name as its stem and what follows its last dot. A dot at the beginning does not count. -/
def splitExtension (name : String) : String × Option String :=
  let reversed := name.toList.reverse
  let extension := (reversed.takeWhile (· ≠ '.')).reverse
  match reversed.dropWhile (· ≠ '.') with
  | [] | [_] => (name, none)
  | _ :: stem => (String.ofList stem.reverse, some (String.ofList extension))

end TerminalSessions.Files
