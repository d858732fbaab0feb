import TerminalSessions.Number.Shortest
import TerminalSessions.Text.Printable
import TerminalSessions.Text.Utf8

namespace TerminalSessions.Json

open TerminalSessions.Text (decimal integer quoted byteLength)
open TerminalSessions.Number

inductive Found
  | null
  | boolean (value : Bool)
  | integer (value : Int)
  | float (value : Binary64)
  | string (value : String)
  | list
  | object
  deriving DecidableEq, Repr

inductive Cause
  | endInValue
  | endInList
  | endInObject
  | endInString
  | valueExpected
  | wordExpected
  | colonExpected
  | commaOrListEndExpected
  | commaOrObjectEndExpected
  | keyExpected
  | trailingComma
  | trailingCharacters
  | invalidNumber
  | numberOutOfRange
  | invalidEscape
  | unpairedEscape
  | loneSurrogate
  | controlCharacter
  | wrongType (found : Found) (expected : String)
  | wrongValue (found : Found) (expected : String)
  | unknownVariant (name : String) (known : List String)
  | missingField (name : String)
  | duplicateField (name : String)
  | wrongLength (length : Nat) (expected : String)
  deriving DecidableEq, Repr

def Found.message : Found → String
  | .null => "null"
  | .boolean value => "boolean `" ++ (if value then "true" else "false") ++ "`"
  | .integer value => "integer `" ++ Text.integer value ++ "`"
  | .float value => "floating point `" ++ value.text ++ "`"
  | .string value => "string " ++ quoted value
  | .list => "sequence"
  | .object => "map"

def namesInBackticks (names : List String) : String :=
  String.intercalate ", " (names.map fun name => "`" ++ name ++ "`")

def Cause.message : Cause → String
  | .endInValue => "EOF while parsing a value"
  | .endInList => "EOF while parsing a list"
  | .endInObject => "EOF while parsing an object"
  | .endInString => "EOF while parsing a string"
  | .valueExpected => "expected value"
  | .wordExpected => "expected ident"
  | .colonExpected => "expected `:`"
  | .commaOrListEndExpected => "expected `,` or `]`"
  | .commaOrObjectEndExpected => "expected `,` or `\x7d`"
  | .keyExpected => "key must be a string"
  | .trailingComma => "trailing comma"
  | .trailingCharacters => "trailing characters"
  | .invalidNumber => "invalid number"
  | .numberOutOfRange => "number out of range"
  | .invalidEscape => "invalid escape"
  | .unpairedEscape => "unexpected end of hex escape"
  | .loneSurrogate => "lone leading surrogate in hex escape"
  | .controlCharacter => "control character (\\u0000-\\u001F) found while parsing a string"
  | .wrongType found expected => "invalid type: " ++ found.message ++ ", expected " ++ expected
  | .wrongValue found expected => "invalid value: " ++ found.message ++ ", expected " ++ expected
  | .unknownVariant name known =>
    "unknown variant `" ++ name ++ "`, expected one of " ++ namesInBackticks known
  | .missingField name => "missing field `" ++ name ++ "`"
  | .duplicateField name => "duplicate field `" ++ name ++ "`"
  | .wrongLength length expected => "invalid length " ++ decimal length ++ ", expected " ++ expected

/-- The place of a fault is given by the number of bytes that are left after it. -/
structure Fault where
  cause : Cause
  left : Nat
  deriving DecidableEq, Repr

def Cause.before (cause : Cause) (rest : List Char) : Fault :=
  ⟨cause, byteLength rest⟩

def Cause.after (cause : Cause) (count : Nat) (rest : List Char) : Fault :=
  ⟨cause, byteLength rest - count⟩

def Cause.here (cause : Cause) (rest : List Char) : Fault :=
  cause.after 1 rest

structure Place where
  line : Nat
  column : Nat
  deriving DecidableEq, Repr

def Place.advance (place : Place) : Nat → List Char → Place
  | _, [] => place
  | bytes, c :: cs =>
    if bytes < c.utf8Size then ⟨place.line, place.column + bytes⟩
    else
      let next := if c = '\n' then ⟨place.line + 1, 0⟩ else ⟨place.line, place.column + c.utf8Size⟩
      advance next (bytes - c.utf8Size) cs

def Fault.place (fault : Fault) (text : List Char) : Place :=
  Place.advance ⟨1, 0⟩ (byteLength text - fault.left) text

structure Complaint where
  cause : Cause
  place : Place
  deriving DecidableEq, Repr

def Fault.complaint (fault : Fault) (text : List Char) : Complaint :=
  ⟨fault.cause, fault.place text⟩

def Complaint.message (complaint : Complaint) : String :=
  complaint.cause.message ++ " at line " ++ decimal complaint.place.line ++ " column " ++
    decimal complaint.place.column

end TerminalSessions.Json
