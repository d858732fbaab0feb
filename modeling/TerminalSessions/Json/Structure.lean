import TerminalSessions.Json.Scanner

namespace TerminalSessions.Json

inductive Next
  | finished (rest : List Char)
  | item (rest : List Char)

def nextItem (isFirst : Bool) (cs : List Char) : Except Fault Next :=
  match skipBlanks cs with
  | [] => .error (Cause.endInList.before [])
  | c :: rest =>
    if c = ']' then .ok (.finished (c :: rest))
    else if isFirst then .ok (.item (c :: rest))
    else if c = ',' then
      match skipBlanks rest with
      | [] => .error (Cause.endInValue.before [])
      | c :: rest =>
        if c = ']' then .error (Cause.trailingComma.here (c :: rest)) else .ok (.item (c :: rest))
    else .error (Cause.commaOrListEndExpected.here (c :: rest))

def nextField (isFirst : Bool) (cs : List Char) : Except Fault Next :=
  match skipBlanks cs with
  | [] => .error (Cause.endInObject.before [])
  | c :: rest =>
    if c = '\x7d' then .ok (.finished (c :: rest))
    else if isFirst then
      if c = '"' then .ok (.item (c :: rest)) else .error (Cause.keyExpected.here (c :: rest))
    else if c = ',' then
      match skipBlanks rest with
      | [] => .error (Cause.endInValue.before [])
      | c :: rest =>
        if c = '"' then .ok (.item (c :: rest))
        else if c = '\x7d' then .error (Cause.trailingComma.here (c :: rest))
        else .error (Cause.keyExpected.here (c :: rest))
    else .error (Cause.commaOrObjectEndExpected.here (c :: rest))

def takeColon (cs : List Char) : Except Fault (List Char) :=
  match skipBlanks cs with
  | [] => .error (Cause.endInObject.before [])
  | c :: rest => if c = ':' then .ok rest else .error (Cause.colonExpected.here (c :: rest))

def takeListEnd (cs : List Char) : Except Fault (List Char) :=
  match skipBlanks cs with
  | [] => .error (Cause.endInList.before [])
  | c :: rest =>
    if c = ']' then .ok rest
    else if c = ',' then
      match skipBlanks rest with
      | ']' :: rest => .error (Cause.trailingComma.here (']' :: rest))
      | rest => .error (Cause.trailingCharacters.here rest)
    else .error (Cause.trailingCharacters.here (c :: rest))

def takeObjectEnd (cs : List Char) : Except Fault (List Char) :=
  match skipBlanks cs with
  | [] => .error (Cause.endInObject.before [])
  | c :: rest =>
    if c = '\x7d' then .ok rest
    else if c = ',' then .error (Cause.trailingComma.here (c :: rest))
    else .error (Cause.trailingCharacters.here (c :: rest))

def takeTextEnd (cs : List Char) : Except Fault Unit :=
  match skipBlanks cs with
  | [] => .ok ()
  | rest => .error (Cause.trailingCharacters.here rest)

def readWhole {α : Type} (reader : List Char → Reading α) (text : String) : Except Complaint α :=
  match (reader text.toList).bind fun (value, rest) => (takeTextEnd rest).map fun _ => value with
  | .ok value => .ok value
  | .error fault => .error (fault.complaint text.toList)

end TerminalSessions.Json
