/-!
Machine words written in decimal: an optional plus sign and digits, bounded by the word's size.
-/

namespace SdkShelf
namespace Text

def wordSize : Nat := 18446744073709551616

inductive WordError where
  | empty
  | invalidDigit
  | tooLarge
  deriving DecidableEq, Repr

namespace WordError

def message : WordError → String
  | empty => "cannot parse integer from empty string"
  | invalidDigit => "invalid digit found in string"
  | tooLarge => "number too large to fit in target type"

end WordError

def digitValue (c : Char) : Nat := c.toNat - '0'.toNat

/-- Reads on from the value `acc`. A character that is no digit is noticed before an overflow that
it would cause, and an overflow before the characters behind it. -/
def readDigits (acc : Nat) : List Char → Except WordError Nat
  | [] => .ok acc
  | c :: rest =>
    if c.isDigit then
      let acc := acc * 10 + digitValue c
      if acc < wordSize then readDigits acc rest else .error .tooLarge
    else .error .invalidDigit

def readWord (s : String) : Except WordError Nat :=
  match s.toList with
  | [] => .error .empty
  | ['+'] => .error .invalidDigit
  | '+' :: rest => readDigits 0 rest
  | cs => readDigits 0 cs

theorem readDigits_lt {acc n : Nat} {cs : List Char} (hacc : acc < wordSize)
    (h : readDigits acc cs = .ok n) : n < wordSize := by
  induction cs generalizing acc with
  | nil => simp [readDigits] at h; omega
  | cons c rest ih =>
    rw [readDigits] at h
    split at h
    · dsimp only at h
      split at h
      · exact ih (by assumption) h
      · simp at h
    · simp at h

theorem readWord_lt {s : String} {n : Nat} (h : readWord s = .ok n) : n < wordSize := by
  unfold readWord at h
  split at h
  · simp at h
  · simp at h
  · exact readDigits_lt (by decide) h
  · exact readDigits_lt (by decide) h

end Text
end SdkShelf
