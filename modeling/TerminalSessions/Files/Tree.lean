import TerminalSessions.Files.Access

/-! A file system as a value: a tree of directories and files, with a current directory. No name is a link, and what is
written or appended is in the file when the answer is there. -/

namespace TerminalSessions

inductive Node
  | file (content : ByteArray)
  | directory

def Node.isDirectory : Node → Bool
  | directory => true
  | file _ => false

/-- Every entry is listed under the names that lead to it from the root. The root is no entry. -/
structure FileTree where
  entries : List (List String × Node) := []
  current : List String := []

namespace FileTree

def node? (tree : FileTree) (names : List String) : Option Node :=
  if names.isEmpty then some .directory else tree.entries.lookup names

def putEntry (names : List String) (node : Node) :
    List (List String × Node) → List (List String × Node)
  | [] => [(names, node)]
  | entry :: entries =>
    if entry.1 = names then (names, node) :: entries else entry :: putEntry names node entries

def put (tree : FileTree) (names : List String) (node : Node) : FileTree :=
  { tree with entries := putEntry names node tree.entries }

inductive Target
  | entry (directory : List String) (name : String) (closed : Bool)
  | directory (names : List String)
  deriving DecidableEq, Repr

def nameLimit : Nat := 255

def pathLimit : Nat := 4096

def find (tree : FileTree) (directory : List String) (name : String) :
    Except FileFault (Option Node) :=
  if nameLimit < name.utf8ByteSize then .error .nameTooLong
  else .ok (tree.node? (directory ++ [name]))

def descend (tree : FileTree) (names : List String) (part : String) :
    Except FileFault (List String) :=
  if part = "" ∨ part = "." then .ok names
  else if part = ".." then .ok names.dropLast
  else
    match tree.find names part with
    | .error fault => .error fault
    | .ok none => .error .notFound
    | .ok (some (.file _)) => .error .notDirectory
    | .ok (some .directory) => .ok (names ++ [part])

def follow (tree : FileTree) (closed : Bool) (names : List String) :
    List String → Except FileFault Target
  | [] => .ok (.directory names)
  | [part] =>
    if part = "" ∨ part = "." then .ok (.directory names)
    else if part = ".." then .ok (.directory names.dropLast)
    else .ok (.entry names part closed)
  | part :: others =>
    match tree.descend names part with
    | .error fault => .error fault
    | .ok names => tree.follow closed names others

/-- The end of a path. A slash at the end closes the last name, which then has to be a directory's. -/
def resolve (tree : FileTree) (path : String) : Except FileFault Target :=
  let parts := Files.parts path.toList
  let named := (parts.reverse.dropWhile (·.isEmpty)).reverse
  if '\x00' ∈ path.toList then .error .zeroInName
  else if pathLimit ≤ path.utf8ByteSize then .error .nameTooLong
  else if path.isEmpty then .error .notFound
  else
    tree.follow (named.length ≠ parts.length) (if Files.isRooted path.toList then [] else tree.current)
      (named.map String.ofList)

def locate (tree : FileTree) (path : String) : Except FileFault (List String × Node) :=
  match tree.resolve path with
  | .error fault => .error fault
  | .ok (.directory names) => .ok (names, .directory)
  | .ok (.entry directory name closed) =>
    match tree.find directory name with
    | .error fault => .error fault
    | .ok none => .error .notFound
    | .ok (some (.file content)) =>
      if closed then .error .notDirectory else .ok (directory ++ [name], .file content)
    | .ok (some .directory) => .ok (directory ++ [name], .directory)

def status (tree : FileTree) (path : String) : Except FileFault FileStatus :=
  match tree.locate path with
  | .error fault => .error fault
  | .ok (_, .file content) => .ok (.file content.size)
  | .ok (_, .directory) => .ok .directory

def read (tree : FileTree) (path : String) : Except FileFault ByteArray :=
  match tree.locate path with
  | .error fault => .error fault
  | .ok (_, .file content) => .ok content
  | .ok (_, .directory) => .error .isDirectory

def modify (tree : FileTree) (path : String) (change : ByteArray → ByteArray) :
    Except FileFault FileTree :=
  match tree.resolve path with
  | .error fault => .error fault
  | .ok (.directory _) => .error .isDirectory
  | .ok (.entry directory name closed) =>
    if closed then .error .isDirectory
    else
      match tree.find directory name with
      | .error fault => .error fault
      | .ok (some .directory) => .error .isDirectory
      | .ok (some (.file content)) => .ok (tree.put (directory ++ [name]) (.file (change content)))
      | .ok none => .ok (tree.put (directory ++ [name]) (.file (change ByteArray.empty)))

def write (tree : FileTree) (path : String) (content : ByteArray) : Except FileFault FileTree :=
  tree.modify path fun _ => content

def append (tree : FileTree) (path : String) (content : ByteArray) : Except FileFault FileTree :=
  tree.modify path (· ++ content)

def makeDirectory (tree : FileTree) (path : String) : Except FileFault FileTree :=
  match tree.resolve path with
  | .error fault => .error fault
  | .ok (.directory _) => .error .exists
  | .ok (.entry directory name _) =>
    match tree.find directory name with
    | .error fault => .error fault
    | .ok (some _) => .error .exists
    | .ok none => .ok (tree.put (directory ++ [name]) .directory)

def moved (source target names : List String) : List String :=
  if source.isPrefixOf names then target ++ names.drop source.length else names

def move (tree : FileTree) (source target : List String) : FileTree :=
  { tree with
    entries := (tree.entries.filter (·.1 ≠ target)).map fun (names, node) =>
      (moved source target names, node) }

def hasContent (tree : FileTree) (names : List String) : Bool :=
  tree.entries.any fun (other, _) => names.isPrefixOf other && names.length < other.length

def replaces (tree : FileTree) (target : List String) : Node → Option Node → Except FileFault Unit
  | _, none => .ok ()
  | .file _, some (.file _) => .ok ()
  | .file _, some .directory => .error .isDirectory
  | .directory, some (.file _) => .error .notDirectory
  | .directory, some .directory =>
    if tree.hasContent target then .error .notEmpty else .ok ()

def rename (tree : FileTree) (source target : String) : Except FileFault FileTree :=
  match tree.resolve source, tree.resolve target with
  | .error fault, _ => .error fault
  | _, .error fault => .error fault
  | .ok (.directory _), _ => .error .busy
  | _, .ok (.directory _) => .error .busy
  | .ok (.entry sourceDirectory sourceName sourceClosed),
      .ok (.entry targetDirectory targetName targetClosed) =>
    let source := sourceDirectory ++ [sourceName]
    let target := targetDirectory ++ [targetName]
    match tree.find sourceDirectory sourceName, tree.find targetDirectory targetName with
    | .error fault, _ => .error fault
    | .ok none, _ => .error .notFound
    | _, .error fault => .error fault
    | .ok (some node), .ok replaced =>
      if !node.isDirectory && (sourceClosed || targetClosed) then .error .notDirectory
      else if source = target then .ok tree
      else
        match tree.replaces target node replaced with
        | .error fault => .error fault
        | .ok () => .ok (tree.move source target)

def commit (change : FileTree → Except FileFault FileTree) (tree : FileTree) :
    Except FileFault Unit × FileTree :=
  match change tree with
  | .ok changed => (.ok (), changed)
  | .error fault => (.error fault, tree)

instance : FileAccess (StateM FileTree) where
  status path := fun tree => (tree.status path, tree)
  read path := fun tree => (tree.read path, tree)
  write path content := commit (·.write path content)
  append path content := commit (·.append path content)
  rename source target := commit (·.rename source target)
  makeDirectory path := commit (·.makeDirectory path)

end FileTree

end TerminalSessions
