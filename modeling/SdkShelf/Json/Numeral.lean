import SdkShelf.Json.Cursor
import SdkShelf.Text.Word

/-!
Numbers of JSON texts. A numeral with neither point nor exponent is a whole number if 64 bits hold
it. The others become a double: as many leading digits as fit a word, times or divided by powers of
ten, which is near the written number but not always the nearest double.
-/

namespace SdkShelf
namespace Json

/-- A numeral as written. The exponent has a sign (`true` for a minus) and digits. -/
structure Numeral where
  negative : Bool
  whole : List Char
  fraction : Option (List Char)
  exponent : Option (Bool × List Char)
  deriving DecidableEq, Repr

namespace Numeral

/-- Takes in digits as long as a word holds the value; the rest stays. -/
def takeIn (acc : Nat) : List Char → Nat × List Char
  | [] => (acc, [])
  | c :: rest =>
    let acc' := acc * 10 + Text.digitValue c
    if acc' < Text.wordSize then takeIn acc' rest else (acc, c :: rest)

def tenTo (n : Nat) : Float := Float.ofScientific 1 false n

/-- Multiplies or divides by powers of ten, at most `10 ^ 308` at a time; `none` if the result is
not finite. Four steps reach zero from any word. -/
def scale : Nat → Float → Int → Option Float
  | 0, x, _ => some x
  | fuel + 1, x, e =>
    if e.natAbs ≤ 308 then
      if 0 ≤ e then
        let y := x * tenTo e.natAbs
        if y.isInf then none else some y
      else some (x / tenTo e.natAbs)
    else if x == 0.0 then some x
    else if 0 ≤ e then none
    else scale fuel (x / tenTo 308) (e + 308)

/-- How many exponent digits are read before the exponent leaves 32 bits, and the exponent if it
never does. -/
def readExponent (acc count : Nat) : List Char → Nat ⊕ Nat
  | [] => .inr acc
  | c :: rest =>
    let acc' := acc * 10 + Text.digitValue c
    if acc' < 2147483648 then readExponent acc' (count + 1) rest else .inl (count + 1)

/-- Why a numeral has no value: its exponent is too large, noticed after so many of its digits, or
the number as a whole is. -/
inductive Overflow where
  | exponent (digits : Nat)
  | total
  deriving DecidableEq, Repr

def float (negative : Bool) (word : Nat) (e : Int) : Except Overflow Number :=
  match scale 5 (UInt64.ofNat word).toFloat e with
  | none => .error .total
  | some x => .ok (.float (if negative then -x else x))

/-- A whole number without point and exponent. Zero with a sign is a double. -/
def whole? (negative : Bool) (word : Nat) : Number :=
  if negative then
    if h : 0 < word ∧ word ≤ 9223372036854775808 then .int (-(word : Int)) (by omega)
    else .float (-(UInt64.ofNat word).toFloat)
  else if h : word < 18446744073709551616 then .ofNat word h
  else .float (UInt64.ofNat word).toFloat

def value (n : Numeral) : Except Overflow Number :=
  let (word, left) := takeIn 0 n.whole
  let (word, e) := match n.fraction with
    | none => (word, (left.length : Int))
    | some ds =>
      let (word, rest) := takeIn word ds
      (word, (left.length : Int) - ((ds.length - rest.length : Nat) : Int))
  match n.exponent with
  | some (down, ds) =>
    match readExponent 0 0 ds with
    | .inl k =>
      if word ≠ 0 ∧ !down then .error (.exponent k)
      else .ok (.float (if n.negative then -0.0 else 0.0))
    | .inr x => float n.negative word (if down then e - x else e + x)
  | none =>
    if n.fraction.isNone ∧ left = [] then .ok (whole? n.negative word)
    else float n.negative word e

/-- A numeral without a digit where one must stand. Only a strict reading tells the end of the text
from another character. -/
def digitMissing (c : Cursor) : Fault :=
  let here := c.mark.peeked
  ⟨⟨if c.rest.isEmpty then .endInValue else .invalidNumber, here⟩, ⟨.invalidNumber, here⟩⟩

def readPower (c : Cursor) : Except Fault ((Bool × List Char) × Place × Cursor) :=
  let (down, c) := match c.rest with
    | '-' :: _ => (true, c.pass)
    | '+' :: _ => (false, c.pass)
    | _ => (false, c)
  match c.digits with
  | ([], _) => .error (digitMissing c)
  | (ds, c') => .ok ((down, ds), c.place, c')

/-- Reads the digits before the point; a zero stands alone. -/
def readWhole (c : Cursor) : Except Fault (List Char × Cursor) :=
  match c.digits with
  | ([], _) => .error (digitMissing c)
  | ('0' :: _ :: _, _) => .error (.both .invalidNumber c.pass.mark.peeked)
  | (ds, c') => .ok (ds, c')

def readFraction (c : Cursor) : Except Fault (Option (List Char) × Cursor) :=
  match c.rest with
  | '.' :: _ =>
    match c.pass.digits with
    | ([], _) => .error (digitMissing c.pass)
    | (ds, c') => .ok (some ds, c')
  | _ => .ok (none, c)

/-- The number of a numeral that ends at a place; `power` is the place of its exponent's digits. -/
def placed (n : Numeral) (power stop : Place) : Except Flawed Number :=
  match n.value with
  | .ok x => .ok x
  | .error .total => .error ⟨.numberOutOfRange, stop⟩
  | .error (.exponent k) => .error ⟨.numberOutOfRange, ⟨power.line, power.column + k⟩⟩

/-- Reads a numeral; a minus has been read already if `negative`. -/
def read (negative : Bool) (c : Cursor) : Except Fault (Except Flawed Number × Cursor) := do
  let (whole, c) ← readWhole c
  let (fraction, c) ← readFraction c
  match c.rest with
  | 'e' :: _ | 'E' :: _ =>
    let (power, at', c) ← readPower c.pass
    .ok (placed ⟨negative, whole, fraction, some power⟩ at' c.place, c)
  | _ => .ok (placed ⟨negative, whole, fraction, none⟩ c.place c.place, c)

end Numeral

end Json
end SdkShelf
