namespace TerminalSessions.Text

def decimal (n : Nat) : String :=
  String.ofList (Nat.toDigits 10 n)

def integer (n : Int) : String :=
  match n with
  | .ofNat n => decimal n
  | .negSucc n => "-" ++ decimal (n + 1)

def zeroFilled (width n : Nat) : String :=
  let digits := Nat.toDigits 10 n
  String.ofList (List.replicate (width - digits.length) '0' ++ digits)

inductive NumeralError
  | empty
  | invalidDigit
  | tooLarge
  deriving DecidableEq, Repr

def NumeralError.message : NumeralError → String
  | .empty => "cannot parse integer from empty string"
  | .invalidDigit => "invalid digit found in string"
  | .tooLarge => "number too large to fit in target type"

def digitValue (c : Char) : Nat :=
  c.toNat - '0'.toNat

def appendDigits (bound : Nat) : Nat → List Char → Except NumeralError Nat
  | value, [] => .ok value
  | value, c :: cs =>
    if c.isDigit then
      let next := 10 * value + digitValue c
      if next ≤ bound then appendDigits bound next cs else .error .tooLarge
    else .error .invalidDigit

def readNumeral (bound : Nat) (text : String) : Except NumeralError Nat :=
  match text.toList with
  | [] => .error .empty
  | ['+'] => .error .invalidDigit
  | '+' :: digits => appendDigits bound 0 digits
  | digits => appendDigits bound 0 digits

end TerminalSessions.Text
