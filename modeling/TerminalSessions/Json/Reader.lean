import TerminalSessions.Json.Structure
import TerminalSessions.Json.Value

namespace TerminalSessions.Json

def Numeric.value : Numeric → Value
  | .integer value => .integer value
  | .float value => .float value

def takeScalar (cs : List Char) : Reading Value :=
  match cs with
  | [] => .error (Cause.endInValue.before [])
  | c :: rest =>
    match c with
    | 'n' => (takeWord "ull".toList rest).map ((.null, ·))
    | 't' => (takeWord "rue".toList rest).map ((.bool true, ·))
    | 'f' => (takeWord "alse".toList rest).map ((.bool false, ·))
    | '"' => (takeString rest).map fun (text, rest) => (.string text, rest)
    | c =>
      if c = '-' ∨ c.isDigit then (takeNumber cs).map fun (number, rest) => (number.value, rest)
      else .error (Cause.valueExpected.here cs)

mutual

/-- Each round takes at least one character, so as many rounds as characters suffice. -/
def takeValue : Nat → List Char → Reading Value
  | 0, _ => .error (Cause.endInValue.before [])
  | rounds + 1, cs =>
    match skipBlanks cs with
    | '[' :: rest => (takeItems rounds true rest).map fun (items, rest) => (.array items, rest)
    | '\x7b' :: rest =>
      (takeFields rounds true [] rest).map fun (fields, rest) => (.object fields, rest)
    | rest => takeScalar rest

def takeItems : Nat → Bool → List Char → Reading (List Value)
  | 0, _, _ => .error (Cause.endInList.before [])
  | rounds + 1, isFirst, cs =>
    match nextItem isFirst cs with
    | .error fault => .error fault
    | .ok (.finished rest) => (takeListEnd rest).map (([], ·))
    | .ok (.item rest) =>
      match takeValue rounds rest with
      | .error fault => .error fault
      | .ok (item, rest) =>
        (takeItems rounds false rest).map fun (items, rest) => (item :: items, rest)

def takeFields : Nat → Bool → List (String × Value) → List Char → Reading (List (String × Value))
  | 0, _, _, _ => .error (Cause.endInObject.before [])
  | rounds + 1, isFirst, fields, cs =>
    match nextField isFirst cs with
    | .error fault => .error fault
    | .ok (.finished rest) => (takeObjectEnd rest).map ((fields, ·))
    | .ok (.item rest) =>
      match takeString rest.tail with
      | .error fault => .error fault
      | .ok (key, rest) =>
        match takeColon rest with
        | .error fault => .error fault
        | .ok rest =>
          match takeValue rounds rest with
          | .error fault => .error fault
          | .ok (value, rest) => takeFields rounds false (insertField key value fields) rest

end

def readValue (text : String) : Except Complaint Value :=
  readWhole (fun cs => takeValue (cs.length + 1) cs) text

end TerminalSessions.Json
