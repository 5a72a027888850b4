/-!
The shortest decimal that reads back as a given binary number. A positive double is `m * 2 ^ q`, and
the reals that round to it form an interval around it; on the grid of the decimals with `n` digits
the only candidates are its two neighbours, so the first grid with a neighbour in the interval gives
the fewest digits, and the nearer neighbour the best of them.
-/

namespace SdkShelf
namespace Decimal

/-- A positive decimal `digits * 10 ^ exponent`. -/
structure Scaled where
  digits : Nat
  exponent : Int
  deriving DecidableEq, Repr

/-- The reals that round to a double, in units of `2 ^ unit`: the ends `low` and `high`, the double
`value` itself, and whether the ends belong to it. -/
structure Interval where
  low : Nat
  value : Nat
  high : Nat
  unit : Int
  closed : Bool
  deriving DecidableEq, Repr

/-- The interval of the double with significand field `fraction` and exponent field `biased`. Below
a power of two the doubles lie twice as close. -/
def Interval.ofFields (fraction biased : Nat) : Interval :=
  let m := if biased = 0 then fraction else fraction + 4503599627370496
  let q : Int := (if biased = 0 then 1 else biased : Int) - 1075
  let below := if fraction = 0 ∧ 1 < biased then 1 else 2
  { low := 4 * m - below, value := 4 * m, high := 4 * m + 2, unit := q - 2, closed := m % 2 = 0 }

def digitCount (n : Nat) : Nat := (Nat.toDigits 10 n).length

/-- The exponent of the first decimal digit of `n * 2 ^ unit`: scaled up by `10 ^ 350` every double
is above one. -/
def leadingExponent (n : Nat) (unit : Int) : Int :=
  let scaled := n * Nat.pow 10 350 * Nat.pow 2 unit.toNat / Nat.pow 2 (-unit).toNat
  (digitCount scaled : Int) - 351

/-- The neighbour of the interval's value on the grid of multiples of `10 ^ e`, if one of the two
lies in the interval; of two the nearer, of two equally near the even one. -/
def Interval.neighbour? (i : Interval) (e : Int) : Option Nat :=
  let up := Nat.pow 2 i.unit.toNat * Nat.pow 10 (-e).toNat
  let down := Nat.pow 2 (-i.unit).toNat * Nat.pow 10 e.toNat
  let below := i.value * up / down
  let above := below + 1
  let inside (c : Nat) : Bool :=
    if i.closed then i.low * up ≤ c * down && c * down ≤ i.high * up
    else i.low * up < c * down && c * down < i.high * up
  match inside below, inside above with
  | true, true =>
    let toBelow := i.value * up - below * down
    let toAbove := above * down - i.value * up
    if toBelow < toAbove then some below
    else if toAbove < toBelow then some above
    else if below % 2 = 0 then some below else some above
  | true, false => some below
  | false, true => some above
  | false, false => none

def dropZeros : Nat → Nat → Int → Scaled
  | 0, digits, exponent => ⟨digits, exponent⟩
  | fuel + 1, digits, exponent =>
    if digits % 10 = 0 ∧ digits ≠ 0 then dropZeros fuel (digits / 10) (exponent + 1)
    else ⟨digits, exponent⟩

/-- Tries the grids with `count`, `count + 1`, … digits; `first` is the exponent of the first digit.
Seventeen digits tell any two doubles apart, so the search ends there. -/
def Interval.search (i : Interval) (first : Int) : Nat → Nat → Scaled
  | 0, count => ⟨i.value, (count : Int)⟩
  | fuel + 1, count =>
    let e := first - (count : Int) + 1
    match i.neighbour? e with
    | some digits => dropZeros 20 digits e
    | none => i.search first fuel (count + 1)

def Interval.shortest (i : Interval) : Scaled :=
  i.search (leadingExponent i.value i.unit) 18 1

end Decimal
end SdkShelf
