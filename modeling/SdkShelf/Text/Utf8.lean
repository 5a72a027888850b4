/-!
UTF-8 with damage: bytes that are no UTF-8 are still shown, each longest piece of a broken
character as one replacement character.
-/

namespace SdkShelf
namespace Text
namespace Utf8

def replacement : Char := Char.ofNat 0xFFFD

/-- What a first byte announces: its own bits, how many bytes follow, and the bounds of the next
one. The bounds of the byte after `E0`, `ED`, `F0` and `F4` rule out long forms, surrogates and
values past the last character. -/
def lead? (b : UInt8) : Option (Nat × Nat × UInt8 × UInt8) :=
  if b < 0x80 then some (b.toNat, 0, 0x80, 0xBF)
  else if 0xC2 ≤ b ∧ b ≤ 0xDF then some (b.toNat - 0xC0, 1, 0x80, 0xBF)
  else if b = 0xE0 then some (0, 2, 0xA0, 0xBF)
  else if b = 0xED then some (0xD, 2, 0x80, 0x9F)
  else if 0xE1 ≤ b ∧ b ≤ 0xEF then some (b.toNat - 0xE0, 2, 0x80, 0xBF)
  else if b = 0xF0 then some (0, 3, 0x90, 0xBF)
  else if 0xF1 ≤ b ∧ b ≤ 0xF3 then some (b.toNat - 0xF0, 3, 0x80, 0xBF)
  else if b = 0xF4 then some (4, 3, 0x80, 0x8F)
  else none

/-- Reads on inside a character: `bits` so far, `owed` bytes to come, the next one between `low`
and `high`. A byte that does not fit ends the broken character and starts the next one. -/
def decodeFrom (bits owed : Nat) (low high : UInt8) : List UInt8 → List Char
  | [] => if owed = 0 then [] else [replacement]
  | b :: rest =>
    if owed ≠ 0 ∧ low ≤ b ∧ b ≤ high then
      let bits := bits * 64 + (b.toNat - 0x80)
      if owed = 1 then Char.ofNat bits :: decodeFrom 0 0 0x80 0xBF rest
      else decodeFrom bits (owed - 1) 0x80 0xBF rest
    else
      let before := if owed = 0 then [] else [replacement]
      match lead? b with
      | none => before ++ replacement :: decodeFrom 0 0 0x80 0xBF rest
      | some (bits, 0, _, _) => before ++ Char.ofNat bits :: decodeFrom 0 0 0x80 0xBF rest
      | some (bits, n + 1, low, high) => before ++ decodeFrom bits (n + 1) low high rest

/-- The text of the bytes, with a replacement character for each longest broken piece. -/
def decodeLossy (bytes : List UInt8) : String :=
  String.ofList (decodeFrom 0 0 0x80 0xBF bytes)

end Utf8

def bytes (s : String) : List UInt8 := s.toUTF8.toList

end Text
end SdkShelf
