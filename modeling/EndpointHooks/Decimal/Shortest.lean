/-! The shortest decimal form of a binary floating-point number. Among the grids of multiples of a
power of ten, the coarsest is taken that has a point which rounds to the number; of two such points
the nearer one is the answer. All comparisons are between natural numbers. -/

namespace EndpointHooks

structure Decimal where
  digits : Nat
  exponent : Int
  deriving DecidableEq

namespace Decimal

/-- Which of two points equally near to a number is taken. -/
inductive Tie where
  | even
  | up
  deriving DecidableEq

/-- The reals that round to `mantissa * 2 ^ exponent`. In quarters of `2 ^ exponent` the number is
`4 * mantissa`, and the interval reaches from `low` to `high`, ends included if `closed`. -/
structure Interval where
  mantissa : Nat
  exponent : Int
  low : Nat
  high : Nat
  closed : Bool

/-- The interval of a positive number with 52 fraction bits. Just above a power of two the numbers
below are twice as dense as those above. -/
def Interval.ofBits (biased fraction : Nat) : Interval :=
  let mantissa := if biased = 0 then fraction else fraction + 0x10000000000000
  { mantissa
    exponent := Int.ofNat (max biased 1) - 1075
    low := 4 * mantissa - (if fraction = 0 ∧ 1 < biased then 1 else 2)
    high := 4 * mantissa + 2
    closed := mantissa % 2 = 0 }

/-- The common unit in which quarters of `2 ^ exponent` and multiples of `10 ^ grid` are both whole:
a quarter is the first component of them, a multiple of the power of ten the second. -/
def Interval.units (x : Interval) (grid : Int) : Nat × Nat :=
  (Nat.pow 2 (x.exponent - 2).toNat * Nat.pow 10 (-grid).toNat,
    Nat.pow 10 grid.toNat * Nat.pow 2 (2 - x.exponent).toNat)

def Interval.point? (x : Interval) (tie : Tie) (grid : Int) : Option Nat :=
  let (quarter, step) := x.units grid
  let inside (n : Nat) : Bool :=
    if x.closed then x.low * quarter ≤ n * step ∧ n * step ≤ x.high * quarter
    else x.low * quarter < n * step ∧ n * step < x.high * quarter
  let value := 4 * x.mantissa * quarter
  let below := value / step
  match inside below, inside (below + 1) with
  | true, true =>
    let down := value - below * step
    let up := (below + 1) * step - value
    if down < up then some below
    else if up < down then some (below + 1)
    else
      match tie with
      | .even => some (if below % 2 = 0 then below else below + 1)
      | .up => some (below + 1)
  | true, false => some below
  | false, true => some (below + 1)
  | false, false => none

def Interval.search (x : Interval) (tie : Tie) : Nat → Int → Decimal
  | 0, grid => ⟨0, grid⟩
  | fuel + 1, grid =>
    match x.point? tie grid with
    | some digits => ⟨digits, grid⟩
    | none => x.search tie fuel (grid - 1)

/-- The shortest form of the number in the middle of an interval. The largest number has 309 digits
before the point and no number needs the grids below `10 ^ (-342)`. -/
def Interval.shortest (x : Interval) (tie : Tie) : Decimal := x.search tie 651 308

end Decimal

end EndpointHooks
