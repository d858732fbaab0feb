import TerminalSessions.Text.Alphanumeric
import TerminalSessions.Text.Layout

/-! Variables, and the file of variables that adds to them. -/

namespace TerminalSessions

/-- The entries of the variables. In an entry an equals sign stands between the name and the value; both
of them may contain more of these. -/
abbrev Environment := List String

namespace Environment

def entry (name value : String) : String :=
  name ++ "=" ++ value

def entryValue? (name entry : String) : Option String :=
  let start := name.toList ++ ['=']
  if start.isPrefixOf entry.toList then some (String.ofList (entry.toList.drop start.length)) else none

def value? (environment : Environment) (name : String) : Option String :=
  if name.isEmpty then none else environment.findSome? (entryValue? name)

def ofBlock (bytes : List UInt8) : Environment :=
  (bytes.splitOn 0).filterMap Text.decode?

def supply (environment : Environment) (name value : String) : Environment :=
  if (environment.value? name).isSome then environment else environment ++ [entry name value]

inductive Pending
  | nothing
  | blank
  | escape
  | strong
  | strongEscape
  | weak
  | weakEscape
  deriving DecidableEq, Repr

def Pending.next (pending : Pending) (c : Char) : Pending :=
  let opened (other : Pending) : Pending :=
    if c = '\\' then .escape else if c = '"' then .weak else if c = '\'' then .strong else other
  match pending with
  | .nothing =>
    if Text.isBlank c ∧ c ≠ '\n' ∧ c ≠ '\r' then .blank else opened .nothing
  | .blank => opened .nothing
  | .escape => .nothing
  | .strong => if c = '\\' then .strongEscape else if c = '\'' then .nothing else .strong
  | .strongEscape => .strong
  | .weak => if c = '\\' then .weakEscape else if c = '"' then .nothing else .weak
  | .weakEscape => .weak

inductive LineEnd
  | pending (state : Pending)
  | comment (before : List Char)
  deriving Repr

def lineEnd (pending : Pending) (passed : List Char) : List Char → LineEnd
  | [] => .pending pending
  | c :: cs =>
    if pending = .blank ∧ c = '#' then .comment passed.reverse
    else lineEnd (pending.next c) (c :: passed) cs

/-- Joins lines until nothing is left open. A line that is no text, and something left open at the end, end
the file with nothing. -/
def joinLines (start : List Char) (pending : Pending) :
    List (Option String) → List (Option (List Char))
  | [] => if pending = .nothing then [] else [none]
  | none :: _ => [none]
  | some line :: lines =>
    let joined := start ++ line.toList
    if (joined.dropWhile Text.isBlank).head? = some '#' then
      some [] :: joinLines [] .nothing lines
    else
      match lineEnd pending [] line.toList with
      | .comment before => some (start ++ before) :: joinLines [] .nothing lines
      | .pending .nothing =>
        some (Text.withoutBreak '\n' '\r' joined) :: joinLines [] .nothing lines
      | .pending pending => joinLines joined pending lines

inductive Quotes
  | none
  | strong
  | weak
  deriving DecidableEq, Repr

/-- Where the reading of a value stands. A reference to a variable has its name so far in reverse, and
may stand in braces; the output is in reverse as well. -/
structure ValueState where
  quotes : Quotes := .none
  escaped : Bool := false
  ended : Bool := false
  reference : Option (Bool × List Char) := none
  output : List Char := []

namespace ValueState

def push (state : ValueState) (c : Char) : ValueState :=
  { state with output := c :: state.output }

def resolve (environment : Environment) (state : ValueState) : ValueState :=
  match state.reference with
  | none => state
  | some (_, name) =>
    let value := (environment.value? (String.ofList name.reverse)).getD ""
    { state with output := value.toList.reverse ++ state.output, reference := none }

def isOpen (state : ValueState) : Bool :=
  state.quotes ≠ .none ||
    match state.reference with
    | some (braced, _) => braced
    | none => false

def begun (state : ValueState) : ValueState :=
  { state with reference := some (false, []) }

def atEscape (state : ValueState) (c : Char) : Option ValueState :=
  if c ∈ ['\\', '\'', '"', '$', ' '] then some { state.push c with escaped := false }
  else if c = 'n' then some { state.push '\n' with escaped := false }
  else none

def atReference (environment : Environment) (state : ValueState) (braced : Bool) (name : List Char)
    (c : Char) : ValueState :=
  if Text.isAlphanumeric c then { state with reference := some (braced, c :: name) }
  else if braced then
    if c = '\x7d' then state.resolve environment
    else { state with reference := some (true, c :: name) }
  else if c = '\x7b' ∧ name = [] then { state with reference := some (true, []) }
  else
    let state := state.resolve environment
    if c = '$' then state.begun else state.push c

def atPlain (state : ValueState) (c : Char) : ValueState :=
  if c = '$' then state.begun
  else if c = '\\' then { state with escaped := true }
  else if state.quotes = .weak then
    if c = '"' then { state with quotes := .none } else state.push c
  else if c = '\'' then { state with quotes := .strong }
  else if c = '"' then { state with quotes := .weak }
  else if c = ' ' ∨ c = '\t' then { state with ended := true }
  else state.push c

end ValueState

def readValue (environment : Environment) (state : ValueState) : List Char → Option String
  | [] =>
    if state.isOpen then none
    else some (String.ofList (state.resolve environment).output.reverse)
  | c :: cs =>
    if state.ended then
      if c = ' ' ∨ c = '\t' then readValue environment state cs
      else if c = '#' then readValue environment state []
      else none
    else if state.escaped then
      match state.atEscape c with
      | some state => readValue environment state cs
      | none => none
    else if state.quotes = .strong then
      readValue environment (if c = '\'' then { state with quotes := .none } else state.push c) cs
    else
      match state.reference with
      | some (braced, name) =>
        readValue environment (state.atReference environment braced name c) cs
      | none => readValue environment (state.atPlain c) cs

def isNameStart (c : Char) : Bool :=
  c.isAlpha || c = '_'

def isNamePart (c : Char) : Bool :=
  c.isAlphanum || c = '_' || c = '.'

def takeName (cs : List Char) : Option (String × List Char) :=
  match cs with
  | [] => none
  | c :: _ =>
    if isNameStart c then
      some (String.ofList (cs.takeWhile isNamePart),
        (cs.dropWhile isNamePart).dropWhile Text.isBlank)
    else none

def takeAssignment (cs : List Char) : Option (String × List Char) :=
  match takeName cs with
  | none => none
  | some (name, '=' :: rest) => some (name, rest)
  | some ("export", rest) =>
    match takeName rest with
    | some (name, '=' :: rest) => some (name, rest)
    | _ => none
  | some _ => none

def readLine (environment : Environment) (line : List Char) : Option (Option (String × String)) :=
  match Text.trim line with
  | [] => some none
  | c :: cs =>
    if c = '#' then some none
    else
      match takeAssignment (c :: cs) with
      | none => none
      | some (name, rest) =>
        let rest := rest.dropWhile Text.isBlank
        if rest = [] ∨ rest.head? = some '#' then some (some (name, ""))
        else (readValue environment { } rest).map fun value => some (name, value)

def supplyLines (environment : Environment) : List (Option (List Char)) → Environment
  | [] => environment
  | none :: _ => environment
  | some line :: lines =>
    match readLine environment line with
    | none => environment
    | some none => environment.supplyLines lines
    | some (some (name, value)) => (environment.supply name value).supplyLines lines

def byteOrderMark : List UInt8 := [0xEF, 0xBB, 0xBF]

def supplyFile (environment : Environment) (bytes : List UInt8) : Environment :=
  let bytes := if byteOrderMark.isPrefixOf bytes then bytes.drop 3 else bytes
  environment.supplyLines (joinLines [] .nothing ((Text.byteLines bytes).map Text.decode?))

end Environment

end TerminalSessions
