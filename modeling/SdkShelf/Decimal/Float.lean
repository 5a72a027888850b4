import SdkShelf.Decimal.Shortest

/-!
The text of a double: as few digits as read back to it, positional while its first digit lies
between `10 ^ -5` and `10 ^ 15`, with an exponent otherwise.
-/

namespace SdkShelf
namespace Decimal

def placePoint (digits : List Char) (places : Nat) : List Char :=
  let padded := List.replicate (places + 1 - digits.length) '0' ++ digits
  padded.take (padded.length - places) ++ '.' :: padded.drop (padded.length - places)

/-- The sign of an exponent is always written. -/
def exponentText (e : Int) : List Char :=
  'e' :: (if e < 0 then '-' else '+') :: Nat.toDigits 10 e.natAbs

/-- The text of a positive decimal. A positional text always has a point and a digit behind it. -/
def Scaled.text (s : Scaled) : List Char :=
  let digits := Nat.toDigits 10 s.digits
  let first := s.exponent + (digits.length : Int) - 1
  if -5 ≤ first ∧ first ≤ 15 then
    if 0 ≤ s.exponent then digits ++ List.replicate s.exponent.toNat '0' ++ ['.', '0']
    else placePoint digits (-s.exponent).toNat
  else
    match digits with
    | [] => exponentText first
    | [d] => d :: exponentText first
    | d :: rest => d :: '.' :: (rest ++ exponentText first)

/-- The text of a finite double; the sign of zero is kept. -/
def floatText (x : Float) : List Char :=
  let bits := x.toBits.toNat
  let sign := if bits / 9223372036854775808 % 2 = 1 then ['-'] else []
  let fraction := bits % 4503599627370496
  let biased := bits / 4503599627370496 % 2048
  if fraction = 0 ∧ biased = 0 then sign ++ ['0', '.', '0']
  else sign ++ (Interval.ofFields fraction biased).shortest.text

end Decimal
end SdkShelf
