import TerminalSessions.Json.Structure

/-! Reading values of a known type. A value of another type is read as well, to be named in the fault. -/

namespace TerminalSessions.Json

/-- The fault of a value that is not what is expected, from its first character on. Of a list or an
object only the bracket is looked at. -/
def wrongType (expected : String) (cs : List Char) : Fault :=
  match cs with
  | [] => Cause.endInValue.before []
  | c :: rest =>
    let named (found : Found) : Except Fault (List Char) → Fault
      | .error fault => fault
      | .ok rest => (Cause.wrongType found expected).before rest
    match c with
    | 'n' => named .null (takeWord "ull".toList rest)
    | 't' => named (.boolean true) (takeWord "rue".toList rest)
    | 'f' => named (.boolean false) (takeWord "alse".toList rest)
    | '[' => (Cause.wrongType .list expected).before cs
    | '\x7b' => (Cause.wrongType .object expected).before cs
    | '"' =>
      match takeString rest with
      | .error fault => fault
      | .ok (text, rest) => (Cause.wrongType (.string text) expected).before rest
    | c =>
      if c = '-' ∨ c.isDigit then
        match takeNumber cs with
        | .error fault => fault
        | .ok (number, rest) => (Cause.wrongType number.found expected).before rest
      else Cause.valueExpected.here cs

def takeText (cs : List Char) : Reading String :=
  match skipBlanks cs with
  | '"' :: rest => takeString rest
  | rest => .error (wrongType "a string" rest)

def takeOptionalText (cs : List Char) : Reading (Option String) :=
  match skipBlanks cs with
  | 'n' :: rest => (takeWord "ull".toList rest).map ((none, ·))
  | rest => (takeText rest).map fun (text, rest) => (some text, rest)

def takeBool (cs : List Char) : Reading Bool :=
  match skipBlanks cs with
  | 't' :: rest => (takeWord "rue".toList rest).map ((true, ·))
  | 'f' :: rest => (takeWord "alse".toList rest).map ((false, ·))
  | rest => .error (wrongType "a boolean" rest)

def takeUInt32 (cs : List Char) : Reading UInt32 :=
  match skipBlanks cs with
  | [] => .error (wrongType "u32" [])
  | c :: rest =>
    if c = '-' ∨ c.isDigit then
      match takeNumber (c :: rest) with
      | .error fault => .error fault
      | .ok (.float value, rest) => .error ((Cause.wrongType (.float value) "u32").before rest)
      | .ok (.integer value, rest) =>
        if 0 ≤ value ∧ value ≤ 0xFFFFFFFF then .ok (UInt32.ofNat value.toNat, rest)
        else .error ((Cause.wrongValue (.integer value) "u32").before rest)
    else .error (wrongType "u32" (c :: rest))

def takeName {α : Type} (ofName? : String → Option α) (known : List String) (cs : List Char) :
    Reading α :=
  match takeString cs with
  | .error fault => .error fault
  | .ok (name, rest) =>
    match ofName? name with
    | some variant => .ok (variant, rest)
    | none => .error ((Cause.unknownVariant name known).before rest)

def takeUnit (cs : List Char) : Except Fault (List Char) :=
  match skipBlanks cs with
  | 'n' :: rest => takeWord "ull".toList rest
  | rest => .error (wrongType "unit" rest)

def takeVariant {α : Type} (ofName? : String → Option α) (known : List String) (cs : List Char) :
    Reading α :=
  match skipBlanks cs with
  | [] => .error (Cause.endInValue.before [])
  | '"' :: rest => takeName ofName? known rest
  | '\x7b' :: rest =>
    match skipBlanks rest with
    | '"' :: rest =>
      match takeName ofName? known rest with
      | .error fault => .error fault
      | .ok (variant, rest) =>
        match (takeColon rest).bind takeUnit with
        | .error fault => .error fault
        | .ok rest =>
          match skipBlanks rest with
          | [] => .error (Cause.endInObject.before [])
          | '\x7d' :: rest => .ok (variant, rest)
          | rest => .error (Cause.valueExpected.before rest)
    | [] => .error (Cause.endInObject.before [])
    | c :: rest =>
      if c = '\x7d' then .error (Cause.valueExpected.here (c :: rest))
      else .error (Cause.keyExpected.here (c :: rest))
  | rest => .error (Cause.valueExpected.here rest)

end TerminalSessions.Json
