import TerminalSessions.Json.Fault

namespace TerminalSessions.Json

open TerminalSessions.Number
open TerminalSessions.Text (digitValue)

abbrev Reading (α : Type) := Except Fault (α × List Char)

def isBlank (c : Char) : Bool :=
  c = ' ' || c = '\n' || c = '\t' || c = '\r'

def skipBlanks (cs : List Char) : List Char :=
  cs.dropWhile isBlank

def takeWord : List Char → List Char → Except Fault (List Char)
  | [], cs => .ok cs
  | _ :: _, [] => .error (Cause.endInValue.before [])
  | expected :: word, c :: cs =>
    if c = expected then takeWord word cs else .error (Cause.wordExpected.here (c :: cs))

def hexValue? (c : Char) : Option Nat :=
  if '0' ≤ c ∧ c ≤ '9' then some (c.toNat - '0'.toNat)
  else if 'a' ≤ c ∧ c ≤ 'f' then some (c.toNat - 'a'.toNat + 10)
  else if 'A' ≤ c ∧ c ≤ 'F' then some (c.toNat - 'A'.toNat + 10)
  else none

def hexCode? (a b c d : Char) : Option Nat :=
  match hexValue? a, hexValue? b, hexValue? c, hexValue? d with
  | some a, some b, some c, some d => some (((a * 16 + b) * 16 + c) * 16 + d)
  | _, _, _, _ => none

/-- Four bytes are taken for the digits of an escape; the text may not end before them. -/
def badDigits (cs : List Char) : Fault :=
  if TerminalSessions.Text.byteLength cs < 4 then Cause.endInString.before []
  else Cause.invalidEscape.after 4 cs

def isLeading (code : Nat) : Bool :=
  0xD800 ≤ code && code ≤ 0xDBFF

def isTrailing (code : Nat) : Bool :=
  0xDC00 ≤ code && code ≤ 0xDFFF

def pairedChar (leading trailing : Nat) : Char :=
  Char.ofNat ((leading - 0xD800) * 0x400 + (trailing - 0xDC00) + 0x10000)

def escapedChar? (letter : Char) : Option Char :=
  match letter with
  | '"' => some '"'
  | '\\' => some '\\'
  | '/' => some '/'
  | 'b' => some '\x08'
  | 'f' => some '\x0c'
  | 'n' => some '\n'
  | 'r' => some '\r'
  | 't' => some '\t'
  | _ => none

def takeHexCode (cs : List Char) : Reading Nat :=
  match cs with
  | a :: b :: c :: d :: rest =>
    match hexCode? a b c d with
    | some code => .ok (code, rest)
    | none => .error (badDigits cs)
  | _ => .error (badDigits cs)

def takeTrailing (leading : Nat) : List Char → Reading Char
  | [] => .error (Cause.endInString.before [])
  | '\\' :: [] => .error (Cause.endInString.before [])
  | '\\' :: 'u' :: cs =>
    match takeHexCode cs with
    | .error fault => .error fault
    | .ok (code, rest) =>
      if isTrailing code then .ok (pairedChar leading code, rest)
      else .error (Cause.loneSurrogate.before rest)
  | '\\' :: cs => .error (Cause.unpairedEscape.here cs)
  | cs => .error (Cause.unpairedEscape.here cs)

def takeEscape : List Char → Reading Char
  | [] => .error (Cause.endInString.before [])
  | letter :: cs =>
    if letter = 'u' then
      match takeHexCode cs with
      | .error fault => .error fault
      | .ok (code, rest) =>
        if isTrailing code then .error (Cause.loneSurrogate.before rest)
        else if isLeading code then takeTrailing code rest
        else .ok (Char.ofNat code, rest)
    else
      match escapedChar? letter with
      | some c => .ok (c, cs)
      | none => .error (Cause.invalidEscape.here (letter :: cs))

def takeCharacters : Nat → List Char → List Char → Reading String
  | 0, _, _ => .error (Cause.endInString.before [])
  | _ + 1, _, [] => .error (Cause.endInString.before [])
  | rounds + 1, done, c :: cs =>
    if c = '"' then .ok (String.ofList done.reverse, cs)
    else if c = '\\' then
      match takeEscape cs with
      | .error fault => .error fault
      | .ok (c, rest) => takeCharacters rounds (c :: done) rest
    else if c.toNat < 0x20 then .error (Cause.controlCharacter.before cs)
    else takeCharacters rounds (c :: done) cs

def takeString (cs : List Char) : Reading String :=
  takeCharacters (cs.length + 1) [] cs

inductive Numeric
  | integer (value : Int)
  | float (value : Binary64)
  deriving DecidableEq, Repr

def Numeric.found : Numeric → Found
  | .integer value => .integer value
  | .float value => .float value

def greatestSignificand : Nat := 0xFFFFFFFFFFFFFFFF

def absorb (significand : Nat) : List Char → Nat × List Char
  | [] => (significand, [])
  | c :: cs =>
    let next := 10 * significand + digitValue c
    if next ≤ greatestSignificand then absorb next cs else (significand, c :: cs)

def greatestPower : Nat := 0x7FFFFFFF

def absorbPower (power : Nat) : List Char → Option Nat × List Char
  | [] => (some power, [])
  | c :: cs =>
    let next := 10 * power + digitValue c
    if next ≤ greatestPower then absorbPower next cs else (none, cs)

def takeFloat (negative : Bool) (significand : Nat) (power : Int) (rest : List Char) :
    Reading Numeric :=
  match Binary64.ofScientific? significand power with
  | some x => .ok (.float (x.withSign negative), rest)
  | none => .error (Cause.numberOutOfRange.before rest)

def takeExponent (negative : Bool) (significand : Nat) (power : Int) (cs : List Char) :
    Reading Numeric :=
  let (down, cs) :=
    match cs with
    | '+' :: cs => (false, cs)
    | '-' :: cs => (true, cs)
    | cs => (false, cs)
  match cs with
  | [] => .error (Cause.endInValue.before [])
  | first :: _ =>
    if first.isDigit then
      let (digits, rest) := (cs.takeWhile Char.isDigit, cs.dropWhile Char.isDigit)
      match absorbPower 0 digits with
      | (some exponent, _) =>
        takeFloat negative significand (if down then power - exponent else power + exponent) rest
      | (none, ignored) =>
        if significand ≠ 0 ∧ !down then .error (Cause.numberOutOfRange.before (ignored ++ rest))
        else .ok (.float (Binary64.zero.withSign negative), rest)
    else .error (Cause.invalidNumber.here cs)

def startsExponent : List Char → Bool
  | c :: _ => c = 'e' || c = 'E'
  | [] => false

def takeFraction (negative : Bool) (significand : Nat) (power : Int) (cs : List Char) :
    Reading Numeric :=
  let (digits, rest) := (cs.takeWhile Char.isDigit, cs.dropWhile Char.isDigit)
  if digits.isEmpty then
    if cs.isEmpty then .error (Cause.endInValue.before [])
    else .error (Cause.invalidNumber.here cs)
  else
    let (significand, ignored) := absorb significand digits
    let power := power - (digits.length - ignored.length : Nat)
    if startsExponent rest then takeExponent negative significand power rest.tail
    else takeFloat negative significand power rest

/-- A whole number below the signed 64-bit integers, or a negative zero, is a floating-point number. -/
def wholeNumber (negative : Bool) (significand : Nat) (rest : List Char) : Reading Numeric :=
  if negative then
    if significand = 0 ∨ 0x8000000000000000 < significand then takeFloat true significand 0 rest
    else .ok (.integer (-significand), rest)
  else .ok (.integer significand, rest)

def takeMagnitude (negative : Bool) (cs : List Char) : Reading Numeric :=
  match cs with
  | [] => .error (Cause.endInValue.before [])
  | first :: others =>
    if first.isDigit then
      if first = '0' ∧ (others.takeWhile Char.isDigit) ≠ [] then
        .error (Cause.invalidNumber.here others)
      else
        let (digits, rest) := (cs.takeWhile Char.isDigit, cs.dropWhile Char.isDigit)
        let (significand, ignored) := absorb 0 digits
        match rest with
        | '.' :: fraction => takeFraction negative significand ignored.length fraction
        | rest =>
          if startsExponent rest then takeExponent negative significand ignored.length rest.tail
          else if ignored.isEmpty then wholeNumber negative significand rest
          else takeFloat negative significand ignored.length rest
    else .error (Cause.invalidNumber.here cs)

def takeNumber : List Char → Reading Numeric
  | '-' :: cs => takeMagnitude true cs
  | cs => takeMagnitude false cs

end TerminalSessions.Json
