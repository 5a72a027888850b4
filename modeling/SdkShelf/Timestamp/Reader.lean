import SdkShelf.Text.Blank
import SdkShelf.Timestamp.Basic

/-!
Reading points in time: a date, a letter or blank, a time of day and its distance from UTC. Blanks
may stand around most parts.
-/

namespace SdkShelf
namespace Timestamp

inductive ReadError where
  | tooShort
  | invalid
  | outOfRange
  | tooLong
  | impossible
  deriving DecidableEq, Repr

def ReadError.message : ReadError → String
  | tooShort => "premature end of input"
  | invalid => "input contains invalid characters"
  | outOfRange => "input is out of range"
  | tooLong => "trailing input"
  | impossible => "no possible date and time matching input"

namespace Reader

def digitsValue (ds : List Char) : Nat := ds.foldl (fun n c => n * 10 + (c.toNat - '0'.toNat)) 0

/-- At most `width` digits, or as many as there are. -/
def number (width : Option Nat) (cs : List Char) : Except ReadError (Nat × List Char) :=
  let ds := (match width with | some w => cs.take w | none => cs).takeWhile Char.isDigit
  match cs with
  | [] => .error .tooShort
  | _ =>
    if ds = [] then .error .invalid
    else if digitsValue ds < 9223372036854775808 then .ok (digitsValue ds, cs.drop ds.length)
    else .error .outOfRange

def skipBlanks (cs : List Char) : List Char := cs.dropWhile Text.isBlank

def part (low high : Nat) (cs : List Char) : Except ReadError (Nat × List Char) := do
  let (n, rest) ← number (some 2) (skipBlanks cs)
  if low ≤ n ∧ n ≤ high then .ok (n, rest) else .error .outOfRange

/-- A year of at most four digits, or a sign and any number of them. -/
def year (cs : List Char) : Except ReadError (Int × List Char) := do
  let (n, rest) ← match skipBlanks cs with
    | '-' :: rest => (number none rest).map fun r => (-(r.1 : Int), r.2)
    | '+' :: rest => (number none rest).map fun r => ((r.1 : Int), r.2)
    | cs => (number (some 4) cs).map fun r => ((r.1 : Int), r.2)
  if -2147483648 ≤ n ∧ n < 2147483648 then .ok (n, rest) else .error .outOfRange

def separator (c : Char) (cs : List Char) : Except ReadError (List Char) :=
  match skipBlanks cs with
  | [] => .error .tooShort
  | x :: rest => if x = c then .ok rest else .error .invalid

/-- The fraction of a second behind a point. Digits beyond the ninth are dropped. -/
def fraction (cs : List Char) : Except ReadError (Nat × List Char) :=
  match cs with
  | '.' :: cs => do
    let (n, rest) ← number (some 9) cs
    .ok (n * Nat.pow 10 (9 - (cs.length - rest.length)), rest.dropWhile Char.isDigit)
  | _ => .ok (0, cs)

/-- Two digits. What is too short is told by the bytes of the text. -/
def twoDigits (cs : List Char) : Except ReadError (Nat × Nat × List Char) :=
  match cs with
  | [] => .error .tooShort
  | [a] => if a.utf8Size = 1 then .error .tooShort else .error .invalid
  | a :: b :: rest =>
    if a.isDigit && b.isDigit then .ok (a.toNat - '0'.toNat, b.toNat - '0'.toNat, rest)
    else .error .invalid

def offset (cs : List Char) : Except ReadError (Int × List Char) := do
  let signed (sign : Int) (cs : List Char) : Except ReadError (Int × List Char) := do
    let (h, l, cs) ← twoDigits cs
    let (m, n, cs) ← twoDigits (cs.dropWhile fun c => c = ':' || Text.isBlank c)
    if m ≤ 5 then .ok (sign * ((h * 10 + l) * 60 + (m * 10 + n) : Nat), cs)
    else .error .outOfRange
  match cs with
  | [] => .error .tooShort
  | c :: rest =>
    if c = 'Z' ∨ c = 'z' then .ok (0, rest)
    else if (cs.take 3).map Char.toLower = ['u', 't', 'c'] then .ok (0, cs.drop 3)
    else if c = '+' then signed 1 rest
    else if c = '-' ∨ c = '\u2212' then signed (-1) rest
    else .error .invalid

/-- The point in time of a local date and time, so many minutes before UTC. Second sixty is the leap
second. -/
def assemble (date : Date) (hour minute second nanos : Nat) (before : Int) :
    Except ReadError Timestamp :=
  let total : Int := (hour * 60 + minute : Nat) - before
  let day? := if total < 0 then date.previous? else if 1440 ≤ total then date.next? else some date
  let minutes := (total % 1440).toNat
  let (second, nanos) := if second = 60 then (59, nanos + 1000000000) else (second, nanos)
  match day? with
  | none => .error .impossible
  | some day =>
    if h : IsTime (minutes / 60) (minutes % 60) second nanos then
      .ok ⟨day, minutes / 60, minutes % 60, second, nanos, h⟩
    else .error .impossible

end Reader

open Reader

def ofChars (cs : List Char) : Except ReadError Timestamp := do
  let (y, cs) ← year cs
  let cs ← separator '-' cs
  let (m, cs) ← part 1 12 cs
  let cs ← separator '-' cs
  let (d, cs) ← part 1 31 cs
  let cs ← match cs with
    | [] => .error .tooShort
    | c :: rest => if c = 't' ∨ c = 'T' ∨ c = ' ' then .ok rest else .error .invalid
  let (hour, cs) ← part 0 23 cs
  let cs ← separator ':' cs
  let (minute, cs) ← part 0 59 cs
  let cs ← separator ':' cs
  let (second, cs) ← part 0 60 cs
  let (nanos, cs) ← fraction cs
  let (before, cs) ← offset (skipBlanks cs)
  if skipBlanks cs ≠ [] then .error .tooLong
  else
    match Date.of? y m d with
    | none => .error .outOfRange
    | some date =>
      if before.natAbs < 1440 then assemble date hour minute second nanos before
      else .error .outOfRange

def ofText (text : String) : Except String Timestamp :=
  (ofChars text.toList).mapError ReadError.message

end Timestamp
end SdkShelf
