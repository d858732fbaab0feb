import TerminalSessions.Text.Numeral

namespace TerminalSessions.Text

def byteLength (cs : List Char) : Nat :=
  cs.foldr (fun c bytes => c.utf8Size + bytes) 0

structure Utf8Fault where
  index : Nat
  length : Option Nat
  deriving DecidableEq, Repr

def Utf8Fault.message (fault : Utf8Fault) : String :=
  match fault.length with
  | some length =>
    "invalid utf-8 sequence of " ++ decimal length ++ " bytes from index " ++ decimal fault.index
  | none => "incomplete utf-8 byte sequence from index " ++ decimal fault.index

def followers (first : UInt8) : Option (List (UInt8 × UInt8)) :=
  let any : UInt8 × UInt8 := (0x80, 0xBF)
  if first < 0x80 then some []
  else if first < 0xC2 then none
  else if first < 0xE0 then some [any]
  else if first = 0xE0 then some [(0xA0, 0xBF), any]
  else if first = 0xED then some [(0x80, 0x9F), any]
  else if first < 0xF0 then some [any, any]
  else if first = 0xF0 then some [(0x90, 0xBF), any, any]
  else if first < 0xF4 then some [any, any, any]
  else if first = 0xF4 then some [(0x80, 0x8F), any, any]
  else none

def scanUtf8 (index taken : Nat) (expected : List (UInt8 × UInt8)) : List UInt8 → Option Utf8Fault
  | [] => if expected.isEmpty then none else some ⟨index, none⟩
  | byte :: bytes =>
    match expected with
    | [] =>
      match followers byte with
      | none => some ⟨index, some 1⟩
      | some [] => scanUtf8 (index + 1) 0 [] bytes
      | some due => scanUtf8 index 1 due bytes
    | range :: due =>
      if range.1 ≤ byte && byte ≤ range.2 then
        if due.isEmpty then scanUtf8 (index + taken + 1) 0 [] bytes
        else scanUtf8 index (taken + 1) due bytes
      else some ⟨index, some taken⟩

def utf8Fault? (bytes : List UInt8) : Option Utf8Fault :=
  scanUtf8 0 0 [] bytes

end TerminalSessions.Text
