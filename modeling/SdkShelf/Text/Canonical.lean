import SdkShelf.Text.Canonical.Table

/-!
The canonical form of a text: marks stand in the order of their classes, and a character with marks
is written as one character where there is one.
-/

namespace SdkShelf
namespace Text
namespace Canonical

/-- The two characters that a character stands for. -/
def splitBy (n : Nat) : List Nat → Option (Nat × Nat)
  | a :: b :: c :: rest => if n < c then none else if n = c then some (a, b) else splitBy n rest
  | _ => none

def joinBy (a b : Nat) : List Nat → Option Nat
  | a' :: b' :: c :: rest => if a = a' ∧ b = b' then some c else joinBy a b rest
  | _ => none

/-- The first of the leading consonants of Korean syllables. -/
def firstLead : Nat := 0x1100

def firstVowel : Nat := 0x1161

def beforeTails : Nat := 0x11A7

def firstSyllable : Nat := 0xAC00

/-- The number of Korean syllables: 19 leading consonants, 21 vowels, and 27 final consonants or
none. -/
def syllableCount : Nat := 11172

/-- The two parts of a Korean syllable: the syllable without its final consonant, and that; or,
where it has none, the leading consonant and the vowel. -/
def splitSyllable? (n : Nat) : Option (Nat × Nat) :=
  if firstSyllable ≤ n ∧ n < firstSyllable + syllableCount then
    let i := n - firstSyllable
    if i % 28 = 0 then some (firstLead + i / 588, firstVowel + i % 588 / 28)
    else some (n - i % 28, beforeTails + i % 28)
  else none

def joinSyllable? (a b : Nat) : Option Nat :=
  if firstLead ≤ a ∧ a < firstLead + 19 ∧ firstVowel ≤ b ∧ b < firstVowel + 21 then
    some (firstSyllable + ((a - firstLead) * 21 + (b - firstVowel)) * 28)
  else if firstSyllable ≤ a ∧ a < firstSyllable + syllableCount ∧ (a - firstSyllable) % 28 = 0 ∧
      beforeTails < b ∧ b < beforeTails + 28 then
    some (a + (b - beforeTails))
  else none

/-- The parts of a character. The first part may have parts itself; none goes deeper than three
times. -/
def partsOf : Nat → Nat → List Nat
  | 0, n => [n]
  | depth + 1, n =>
    match (splitSyllable? n).orElse fun _ => splitBy n compositions with
    | some (a, b) => partsOf depth a ++ [b]
    | none => [n]

def parts (c : Char) : List Char := (partsOf 4 c.toNat).map Char.ofNat

def join? (a b : Char) : Option Char :=
  ((joinSyllable? a.toNat b.toNat).orElse fun _ => joinBy a.toNat b.toNat compositions).map
    Char.ofNat

/-- Puts a mark in front of a text, behind the marks there that are of a lower class. -/
def insertMark (c : Char) (k : Nat) : List (Char × Nat) → List (Char × Nat)
  | [] => [(c, k)]
  | (d, j) :: rest =>
    if 0 < j ∧ j < k then (d, j) :: insertMark c k rest else (c, k) :: (d, j) :: rest

/-- The characters with their classes, the marks in the order of their classes. Marks of one class
keep their order. -/
def ordered (cs : List Char) : List (Char × Nat) :=
  cs.foldr (fun c rest => insertMark c (combiningClass c) rest) []

/-- A text on its way to its canonical form: what is done, the last first; the character that marks
may still join; and the marks behind it that did not, the last first, with the last one's class. -/
structure Joining where
  done : List Char
  base : Option Char
  marks : List Char
  last : Nat

namespace Joining

def all (j : Joining) : List Char := j.marks ++ j.base.toList ++ j.done

/-- Takes the next character. It joins the base unless a mark in between is of no lower class. -/
def step (j : Joining) (c : Char × Nat) : Joining :=
  let free : Bool := j.marks.isEmpty || j.last < c.2
  match if free then j.base.bind fun b => join? b c.1 else none with
  | some joined => { j with base := some joined }
  | none =>
    if c.2 = 0 then ⟨j.all, some c.1, [], 0⟩
    else { j with marks := c.1 :: j.marks, last := c.2 }

end Joining

/-- The canonical form. A text below U+0300 has no marks and is in it. -/
def compose (cs : List Char) : List Char :=
  if cs.all fun c => c.toNat < 0x300 then cs
  else ((ordered (cs.flatMap parts)).foldl Joining.step ⟨[], none, [], 0⟩).all.reverse

theorem compose_of_low {cs : List Char} (h : cs.all fun c => c.toNat < 0x300) :
    compose cs = cs := by
  rw [compose, if_pos h]

end Canonical
end Text
end SdkShelf
