import TerminalSessions.Json.Structure

/-! Passing over a value whose content does not matter. Its syntax is checked, but numbers may have any
size and escapes may stand for half of a surrogate pair. -/

namespace TerminalSessions.Json

def skipDigits (cs : List Char) : List Char :=
  cs.dropWhile Char.isDigit

def skipExponent (cs : List Char) : Except Fault (List Char) :=
  let cs :=
    match cs with
    | '+' :: cs => cs
    | '-' :: cs => cs
    | cs => cs
  match cs with
  | c :: rest =>
    if c.isDigit then .ok (skipDigits rest) else .error (Cause.invalidNumber.here (c :: rest))
  | [] => .error (Cause.invalidNumber.before [])

def skipFraction (cs : List Char) : Except Fault (List Char) :=
  let rest := skipDigits cs
  if rest.length = cs.length then .error (Cause.invalidNumber.here cs)
  else if startsExponent rest then skipExponent rest.tail
  else .ok rest

def skipMagnitude (cs : List Char) : Except Fault (List Char) :=
  match cs with
  | [] => .error (Cause.invalidNumber.before [])
  | c :: rest =>
    if c.isDigit then
      let after := skipDigits rest
      if c = '0' ∧ after.length ≠ rest.length then .error (Cause.invalidNumber.here rest)
      else
        match after with
        | '.' :: fraction => skipFraction fraction
        | after => if startsExponent after then skipExponent after.tail else .ok after
    else .error (Cause.invalidNumber.here cs)

def skipString : List Char → Except Fault (List Char)
  | [] => .error (Cause.endInString.before [])
  | c :: cs =>
    if c = '"' then .ok cs
    else if c = '\\' then
      match cs with
      | [] => .error (Cause.endInString.before [])
      | letter :: cs =>
        if letter = 'u' then
          match cs with
          | x :: y :: z :: w :: rest =>
            if (hexCode? x y z w).isSome then skipString rest
            else .error (badDigits (x :: y :: z :: w :: rest))
          | rest => .error (badDigits rest)
        else if (escapedChar? letter).isSome then skipString cs
        else .error (Cause.invalidEscape.here (letter :: cs))
    else if c.toNat < 0x20 then .error (Cause.controlCharacter.before (c :: cs))
    else skipString cs

def skipScalar (cs : List Char) : Except Fault (List Char) :=
  match cs with
  | [] => .error (Cause.endInValue.before [])
  | c :: rest =>
    match c with
    | 'n' => takeWord "ull".toList rest
    | 't' => takeWord "rue".toList rest
    | 'f' => takeWord "alse".toList rest
    | '"' => skipString rest
    | '-' => skipMagnitude rest
    | c => if c.isDigit then skipMagnitude cs else .error (Cause.valueExpected.here cs)

inductive Frame
  | list
  | object
  deriving DecidableEq, Repr

def Frame.closing : Frame → Char
  | .list => ']'
  | .object => '\x7d'

def Frame.unfinished : Frame → Cause
  | .list => .endInList
  | .object => .endInObject

def Frame.commaOrEnd : Frame → Cause
  | .list => .commaOrListEndExpected
  | .object => .commaOrObjectEndExpected

def skipKey (cs : List Char) : Except Fault (List Char) :=
  match skipBlanks cs with
  | [] => .error (Cause.endInObject.before [])
  | c :: rest =>
    if c = '"' then
      match skipString rest with
      | .error fault => .error fault
      | .ok rest => takeColon rest
    else .error (Cause.keyExpected.here (c :: rest))

inductive Position
  | value
  | opened
  | closed
  deriving DecidableEq, Repr

def enterItem (frame : Frame) (cs : List Char) : Except Fault (List Char) :=
  match frame with
  | .list => .ok cs
  | .object => skipKey cs

/-- Walks through a value with the frames around the current place, the innermost one first. Each round
takes at least one character, or follows one that did. -/
def skipFrom : Nat → Position → List Frame → List Char → Except Fault (List Char)
  | 0, _, _, _ => .error (Cause.endInValue.before [])
  | rounds + 1, .value, frames, cs =>
    match skipBlanks cs with
    | '[' :: rest => skipFrom rounds .opened (.list :: frames) rest
    | '\x7b' :: rest => skipFrom rounds .opened (.object :: frames) rest
    | rest =>
      match skipScalar rest with
      | .error fault => .error fault
      | .ok rest => skipFrom rounds .closed frames rest
  | _ + 1, .opened, [], cs => .ok cs
  | rounds + 1, .opened, frame :: frames, cs =>
    match skipBlanks cs with
    | [] => .error (frame.unfinished.before [])
    | c :: rest =>
      if c = frame.closing then skipFrom rounds .closed frames rest
      else
        match enterItem frame (c :: rest) with
        | .error fault => .error fault
        | .ok rest => skipFrom rounds .value (frame :: frames) rest
  | _ + 1, .closed, [], cs => .ok cs
  | rounds + 1, .closed, frame :: frames, cs =>
    match skipBlanks cs with
    | [] => .error (frame.unfinished.before [])
    | c :: rest =>
      if c = frame.closing then skipFrom rounds .closed frames rest
      else if c = ',' then
        match enterItem frame rest with
        | .error fault => .error fault
        | .ok rest => skipFrom rounds .value (frame :: frames) rest
      else .error (frame.commaOrEnd.here (c :: rest))

def skipValue (cs : List Char) : Except Fault (List Char) :=
  skipFrom (2 * cs.length + 2) .value [] cs

end TerminalSessions.Json
