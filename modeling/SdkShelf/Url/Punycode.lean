/-!
Labels beyond ASCII written in ASCII. The other characters follow the ASCII ones as a list of
numbers: how many places and code points further the next insertion lies. The numbers are written in
base 36 with the least digit first, and their digits' bounds follow the sizes seen so far.
-/

namespace SdkShelf
namespace Url
namespace Punycode

def digit (n : Nat) : Char :=
  if n < 26 then Char.ofNat ('a'.toNat + n) else Char.ofNat ('0'.toNat + (n - 26))

def digitValue? (c : Char) : Option Nat :=
  if 'a' ≤ c ∧ c ≤ 'z' then some (c.toNat - 'a'.toNat)
  else if 'A' ≤ c ∧ c ≤ 'Z' then some (c.toNat - 'A'.toNat)
  else if c.isDigit then some (c.toNat - '0'.toNat + 26)
  else none

/-- The least digit at a position that does not end a number. -/
def bound (bias position : Nat) : Nat := max 1 (min 26 (position - bias))

/-- Counts how often a number can be scaled down, 36 for each time, and what is left of it. -/
def scaleDown (n position : Nat) : Nat × Nat :=
  if 455 < n then scaleDown (n / 35) (position + 36) else (n, position)
termination_by n
decreasing_by omega

/-- The bias after a number, with `count` characters in place. -/
def adapt (n count : Nat) (first : Bool) : Nat :=
  let n := if first then n / 700 else n / 2
  let (n, position) := scaleDown (n + n / count) 0
  position + 36 * n / (n + 38)

def digits (bias position n : Nat) : List Char :=
  let t := bound bias position
  if n < t then [digit n]
  else digit (t + (n - t) % (36 - t)) :: digits bias (position + 36) ((n - t) / (36 - t))
termination_by n
decreasing_by
  have ht : 1 ≤ bound bias position := Nat.le_max_left _ _
  exact Nat.lt_of_le_of_lt (Nat.div_le_self _ _) (by omega)

/-- How far an encoding has come: the characters in place, how many of them were ASCII, the current
number and bias, and the digits so far. -/
structure Encoding where
  placed : Nat
  basic : Nat
  delta : Nat
  bias : Nat
  out : List Char

def Encoding.step (e : Encoding) (n : Nat) (c : Char) : Encoding :=
  if c.toNat < n then { e with delta := e.delta + 1 }
  else if c.toNat = n then
    { e with
      placed := e.placed + 1
      delta := 0
      bias := adapt e.delta (e.placed + 1) (e.placed = e.basic)
      out := e.out ++ digits e.bias 36 e.delta }
  else e

/-- Inserts the ascending code points one after the other; `from'` is the first one not yet looked
at. -/
def Encoding.run (label : List Char) (e : Encoding) (from' : Nat) : List Nat → Encoding
  | [] => e
  | n :: rest =>
    let e := { e with delta := e.delta + (n - from') * (e.placed + 1) }
    let e := label.foldl (fun e c => e.step n c) e
    Encoding.run label { e with delta := e.delta + 1 } (n + 1) rest

def insertOnce (n : Nat) : List Nat → List Nat
  | [] => [n]
  | m :: rest =>
    if n < m then n :: m :: rest else if n = m then m :: rest else m :: insertOnce n rest

def encode (label : List Char) : List Char :=
  let basic := label.filter fun c => c.toNat < 128
  let others := (label.filter fun c => 128 ≤ c.toNat).foldr (fun c l => insertOnce c.toNat l) []
  let start : Encoding := ⟨basic.length, basic.length, 0, 72, []⟩
  basic ++ (if basic.isEmpty then [] else ['-']) ++ (start.run label 128 others).out

/-- Reads a number's digits; `weight` is what the next one counts. -/
def readNumber (bias position weight acc : Nat) : List Char → Option (Nat × List Char)
  | [] => none
  | c :: rest =>
    match digitValue? c with
    | none => none
    | some d =>
      let t := bound bias position
      let acc := acc + d * weight
      if d < t then some (acc, rest)
      else readNumber bias (position + 36) (weight * (36 - t)) acc rest

/-- Inserts characters as the numbers say; the next one counts from place `i` and code point `n`.
There are at most as many numbers as digits. -/
def insertAll : Nat → Nat → Nat → Nat → List Char → List Char → Option (List Char)
  | _, _, _, _, out, [] => some out
  | 0, _, _, _, _, _ => none
  | fuel + 1, n, i, bias, out, cs =>
    match readNumber bias 36 1 0 cs with
    | none => none
    | some (delta, rest) =>
      let count := out.length + 1
      let i' := i + delta
      let n' := n + i' / count
      if h : n'.isValidChar then
        insertAll fuel n' (i' % count + 1) (adapt delta count (i = 0 ∧ n = 128))
          (out.take (i' % count) ++ Char.ofNatAux n' h :: out.drop (i' % count)) rest
      else none

/-- The label of a text in ASCII; what stands before the last hyphen is its ASCII part. -/
def decode (cs : List Char) : Option (List Char) :=
  let tail := (cs.reverse.takeWhile (· ≠ '-')).reverse
  let basic := (cs.take (cs.length - tail.length)).dropLast
  insertAll cs.length 128 0 72 basic tail

end Punycode
end Url
end SdkShelf
