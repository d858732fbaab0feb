import TerminalSessions.Number.Binary64
import TerminalSessions.Text.Numeral

/-! The fewest decimal digits that read back as a floating-point number, and their layout. -/

namespace TerminalSessions.Number

open TerminalSessions.Text (decimal)

namespace Binary64

/-- The numbers that round to `x` reach from `low` to `high`, in units of a quarter of the last binary
place of `x`; both ends count when the significand is even. -/
structure Neighbourhood where
  low : Nat
  middle : Nat
  high : Nat
  closed : Bool

def neighbourhood (x : Binary64) : Neighbourhood :=
  let below := if x.significand = Nat.pow 2 52 ∧ leastExponent < x.exponent then 1 else 2
  ⟨4 * x.significand - below, 4 * x.significand, 4 * x.significand + 2, x.significand % 2 = 0⟩

def Neighbourhood.holds (n : Neighbourhood) (point scale : Nat) : Bool :=
  if n.closed then n.low * scale ≤ point && point ≤ n.high * scale
  else n.low * scale < point && point < n.high * scale

structure Decimal where
  digits : Nat
  power : Int
  deriving DecidableEq, Repr, Inhabited

def units (x : Binary64) (power : Int) : Nat × Nat :=
  let quarter := x.exponent - 2
  let binary := Nat.pow 2 quarter.natAbs
  let tens := Nat.pow 10 power.natAbs
  if 0 ≤ quarter then
    if 0 ≤ power then (binary, tens) else (binary * tens, 1)
  else
    if 0 ≤ power then (1, tens * binary) else (tens, binary)

def gridPoint? (x : Binary64) (power : Int) : Option Nat :=
  let (quarter, place) := x.units power
  let area := x.neighbourhood
  let below := area.middle * quarter / place
  let lowDistance := area.middle * quarter - below * place
  let highDistance := (below + 1) * place - area.middle * quarter
  let low := area.holds (below * place) quarter
  let high := area.holds ((below + 1) * place) quarter
  if low && high then
    if lowDistance < highDistance || (lowDistance == highDistance && below % 2 == 0) then some below
    else some (below + 1)
  else if low then some below
  else if high then some (below + 1)
  else none

def leadingPower (x : Binary64) : Nat → Int → Int
  | 0, power => power
  | steps + 1, power =>
    let (quarter, place) := x.units (power + 1)
    if place ≤ 4 * x.significand * quarter then leadingPower x steps (power + 1) else power

def coarsest (x : Binary64) : Nat → Int → Decimal
  | 0, power => ⟨(x.gridPoint? power).getD 0, power⟩
  | steps + 1, power =>
    match x.gridPoint? power with
    | some digits => ⟨digits, power⟩
    | none => coarsest x steps (power - 1)

def Decimal.trimmed : Nat → Decimal → Decimal
  | 0, d => d
  | steps + 1, d =>
    if d.digits ≠ 0 ∧ d.digits % 10 = 0 then trimmed steps ⟨d.digits / 10, d.power + 1⟩ else d

def shortest (x : Binary64) : Decimal :=
  let start : Int := (x.significand.log2 + x.exponent) * 30103 / 100000 - 1
  (x.coarsest 17 (x.leadingPower 3 start)).trimmed 20

def text (x : Binary64) : String :=
  let sign := if x.negative then "-" else ""
  if x.isZero then sign ++ "0.0"
  else
    let d := x.shortest
    let digits := Nat.toDigits 10 d.digits
    let exponent := d.power + digits.length - 1
    let body :=
      if -5 ≤ exponent ∧ exponent ≤ 15 then
        if 0 ≤ d.power then digits ++ List.replicate d.power.toNat '0' ++ ['.', '0']
        else if 0 ≤ exponent then
          digits.take (exponent.toNat + 1) ++ ['.'] ++ digits.drop (exponent.toNat + 1)
        else ['0', '.'] ++ List.replicate ((-exponent).toNat - 1) '0' ++ digits
      else
        let mantissa :=
          match digits with
          | first :: second :: others => first :: '.' :: second :: others
          | digits => digits
        mantissa ++ ['e', if exponent < 0 then '-' else '+'] ++ (decimal exponent.natAbs).toList
    sign ++ String.ofList body

end Binary64

end TerminalSessions.Number
