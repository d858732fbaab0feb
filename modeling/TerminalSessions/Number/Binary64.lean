/-! Floating-point numbers of 64 bits as exact fractions, with rounding to the nearest. -/

namespace TerminalSessions.Number

/-- The number `significand · 2 ^ exponent`, with its sign. A number is kept in the form in which the
significand has 53 bits, or the exponent is the least one. -/
structure Binary64 where
  negative : Bool
  significand : Nat
  exponent : Int
  deriving DecidableEq, Repr, Inhabited

namespace Binary64

def leastExponent : Int := -1074

def greatestExponent : Int := 971

def zero : Binary64 := ⟨false, 0, leastExponent⟩

def isZero (x : Binary64) : Bool :=
  x.significand = 0

def withSign (x : Binary64) (negative : Bool) : Binary64 :=
  { x with negative }

def divideToEven (num den : Nat) : Nat :=
  let quotient := num / den
  let rest := num % den
  if den < 2 * rest || (2 * rest == den && quotient % 2 == 1) then quotient + 1 else quotient

def overPower (num den : Nat) (exponent : Int) : Nat × Nat :=
  if 0 ≤ exponent then (num, den * Nat.pow 2 exponent.toNat)
  else (num * Nat.pow 2 (-exponent).toNat, den)

def nearest? (num den : Nat) : Option Binary64 :=
  if num = 0 then some zero
  else
    let guess := max leastExponent (num.log2 - den.log2 - 53 : Int)
    let exponent :=
      let (n, d) := overPower num den guess
      if n / d < Nat.pow 2 53 then guess else guess + 1
    let (n, d) := overPower num den exponent
    let significand := divideToEven n d
    let (significand, exponent) :=
      if significand = Nat.pow 2 53 then (Nat.pow 2 52, exponent + 1) else (significand, exponent)
    if exponent ≤ greatestExponent then some ⟨false, significand, exponent⟩ else none

def ofNat? (n : Nat) : Option Binary64 :=
  nearest? n 1

def fraction (x : Binary64) : Nat × Nat :=
  if 0 ≤ x.exponent then (x.significand * Nat.pow 2 x.exponent.toNat, 1)
  else (x.significand, Nat.pow 2 (-x.exponent).toNat)

def mul? (x y : Binary64) : Option Binary64 :=
  nearest? (x.fraction.1 * y.fraction.1) (x.fraction.2 * y.fraction.2)

def div? (x y : Binary64) : Option Binary64 :=
  nearest? (x.fraction.1 * y.fraction.2) (x.fraction.2 * y.fraction.1)

def greatestTen : Nat := 308

/-- Multiplies by `10 ^ power`, rounding the power of ten first and the product after it. A power under
the table of tens is divided off in steps, of which three leave nothing of a 64-bit number. -/
def scale? (steps : Nat) (x : Binary64) (power : Int) : Option Binary64 :=
  if power.natAbs ≤ greatestTen then
    (ofNat? (Nat.pow 10 power.natAbs)).bind fun ten => if 0 ≤ power then x.mul? ten else x.div? ten
  else if x.isZero then some x
  else if 0 ≤ power then none
  else
    match steps with
    | 0 => some zero
    | steps + 1 =>
      ((ofNat? (Nat.pow 10 greatestTen)).bind x.div?).bind fun quotient =>
        scale? steps quotient (power + greatestTen)

def ofScientific? (digits : Nat) (power : Int) : Option Binary64 :=
  (ofNat? digits).bind fun x => scale? 3 x power

end Binary64

end TerminalSessions.Number
