import TerminalSessions.Number.Shortest

namespace TerminalSessions.Json

open TerminalSessions.Number

inductive Value
  | null
  | bool (value : Bool)
  | integer (value : Int)
  | float (value : Binary64)
  | string (value : String)
  | array (items : List Value)
  | object (fields : List (String × Value))
  deriving Inhabited

def insertField (key : String) (value : Value) : List (String × Value) → List (String × Value)
  | [] => [(key, value)]
  | field :: fields =>
    if key < field.1 then (key, value) :: field :: fields
    else if key = field.1 then (key, value) :: fields
    else field :: insertField key value fields

def Value.ofFields (fields : List (String × Value)) : Value :=
  .object (fields.foldl (fun sorted field => insertField field.1 field.2 sorted) [])

def Value.field? (key : String) : Value → Option Value
  | .object fields => fields.lookup key
  | _ => none

def escapeChar (c : Char) : List Char :=
  match c with
  | '"' => ['\\', '"']
  | '\\' => ['\\', '\\']
  | '\x08' => ['\\', 'b']
  | '\t' => ['\\', 't']
  | '\n' => ['\\', 'n']
  | '\x0c' => ['\\', 'f']
  | '\r' => ['\\', 'r']
  | c =>
    if c.toNat < 0x20 then
      ['\\', 'u', '0', '0', Nat.digitChar (c.toNat / 16), Nat.digitChar (c.toNat % 16)]
    else [c]

def writeString (text : String) : List Char :=
  '"' :: text.toList.flatMap escapeChar ++ ['"']

def writeBool (value : Bool) : List Char :=
  if value then "true".toList else "false".toList

def commaSeparated : List (List Char) → List Char
  | [] => []
  | [text] => text
  | text :: texts => text ++ ',' :: commaSeparated texts

mutual

def Value.write : Value → List Char
  | .null => "null".toList
  | .bool value => writeBool value
  | .integer value => (Text.integer value).toList
  | .float value => value.text.toList
  | .string value => writeString value
  | .array items => '[' :: commaSeparated (writeItems items) ++ [']']
  | .object fields => '\x7b' :: commaSeparated (writeFields fields) ++ ['\x7d']

def writeItems : List Value → List (List Char)
  | [] => []
  | item :: items => item.write :: writeItems items

def writeFields : List (String × Value) → List (List Char)
  | [] => []
  | (key, value) :: fields => (writeString key ++ ':' :: value.write) :: writeFields fields

end

def Value.text (value : Value) : String :=
  String.ofList value.write

def newLine (depth : Nat) : List Char :=
  '\n' :: List.replicate (2 * depth) ' '

def layOut (depth : Nat) (opening closing : Char) (items : List (List Char)) : List Char :=
  match items with
  | [] => [opening, closing]
  | items =>
    opening :: commaSeparated (items.map (newLine (depth + 1) ++ ·)) ++ newLine depth ++ [closing]

mutual

def Value.writePretty (depth : Nat) : Value → List Char
  | .array items => layOut depth '[' ']' (prettyItems (depth + 1) items)
  | .object fields => layOut depth '\x7b' '\x7d' (prettyFields (depth + 1) fields)
  | .null => Value.null.write
  | .bool value => (Value.bool value).write
  | .integer value => (Value.integer value).write
  | .float value => (Value.float value).write
  | .string value => (Value.string value).write

def prettyItems (depth : Nat) : List Value → List (List Char)
  | [] => []
  | item :: items => item.writePretty depth :: prettyItems depth items

def prettyFields (depth : Nat) : List (String × Value) → List (List Char)
  | [] => []
  | (key, value) :: fields =>
    (writeString key ++ ':' :: ' ' :: value.writePretty depth) :: prettyFields depth fields

end

def Value.prettyText (value : Value) : String :=
  String.ofList (value.writePretty 0)

end TerminalSessions.Json
