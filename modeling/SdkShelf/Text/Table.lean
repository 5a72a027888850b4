/-!
Tables of code points. A table is written as a text: numbers in base sixteen, with blanks between
them. A set of code points is given by the edges at which it begins or ends, and a property by the
runs that share a value or by the places where the value changes.
-/

namespace SdkShelf
namespace Text
namespace Table

def digitValue? (c : Char) : Option Nat :=
  if c.isDigit then some (c.toNat - '0'.toNat)
  else if 'a' ≤ c ∧ c ≤ 'f' then some (c.toNat - 'a'.toNat + 10)
  else none

/-- The numbers before the current one, the last of them first, and the current one, if its digits
have begun. -/
def step (state : List Nat × Option Nat) (c : Char) : List Nat × Option Nat :=
  match digitValue? c, state with
  | some d, (read, current) => (read, some (current.getD 0 * 16 + d))
  | none, (read, some n) => (n :: read, none)
  | none, (read, none) => (read, none)

def numbers (text : String) : List Nat :=
  let (read, current) := text.toList.foldl step ([], none)
  (current.toList ++ read).reverse

/-- A number lies in the set of the ascending edges: an odd number of them are at or below it. -/
def inside : List Nat → Nat → Bool
  | [], _ => false
  | e :: rest, n => e ≤ n && !inside rest n

/-- The value of the run that holds a number. A run is its first and last number and its value, and
the runs ascend; elsewhere the value is zero. -/
def runValue : List Nat → Nat → Nat
  | first :: last :: value :: rest, n =>
    if n < first then 0 else if n ≤ last then value else runValue rest n
  | _, _ => 0

/-- The value at a number, where pairs tell in ascending order from where on which value holds;
`value` is the one before them. -/
def changingValue (value : Nat) : List Nat → Nat → Nat
  | start :: next :: rest, n => if n < start then value else changingValue next rest n
  | _, _ => value

/-- What a number stands for by ascending runs, of which each is its first and last number, the step
from one to the next, and what the first one stands for. -/
def shifted? : List Nat → Nat → Option Nat
  | first :: last :: step :: target :: rest, n =>
    if n < first then none
    else if n ≤ last ∧ (n - first) % step = 0 then some (target + (n - first))
    else shifted? rest n
  | _, _ => none

/-- The numbers that a number stands for, where each entry is a number, how many it stands for, and
those, and the entries ascend. -/
def sequence? : List Nat → Nat → Option (List Nat)
  | code :: count :: rest, n =>
    if n < code then none
    else if n = code then some (rest.take count)
    else sequence? (rest.drop count) n
  | _, _ => none
termination_by table => table.length
decreasing_by simp_wf; omega

end Table
end Text
end SdkShelf
