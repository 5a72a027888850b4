import SdkShelf.Json.Cursor

/-!
Strings of JSON texts, behind their opening quote. The reading goes character by character; what it
still waits for is its state.
-/

namespace SdkShelf
namespace Json
namespace Literal

inductive Pending where
  | plain
  | escape
  /-- So many digits of a hex escape, of which `value` is read. -/
  | hex (left value : Nat)
  /-- A backslash, for a high surrogate needs a low one. -/
  | lowEscape (high : Nat)
  | lowLetter (high : Nat)
  /-- So many digits of the low surrogate. -/
  | lowHex (high left value : Nat)
  deriving DecidableEq, Repr

def hexValue? (c : Char) : Option Nat :=
  if c.isDigit then some (c.toNat - '0'.toNat)
  else if 'a' ≤ c ∧ c ≤ 'f' then some (c.toNat - 'a'.toNat + 10)
  else if 'A' ≤ c ∧ c ≤ 'F' then some (c.toNat - 'A'.toNat + 10)
  else none

/-- Whether four digits of base sixteen follow. The text is looked at in bytes, so a text that ends
too early is told from one with other characters by its size. -/
def hexFault? (place : Place) (rest : List Char) : Option Fault :=
  if (rest.take 4).foldr (fun c n => c.utf8Size + n) 0 < 4 then
    some (.both .endInString (place.passAll rest))
  else if (rest.take 4).all fun c => (hexValue? c).isSome then none
  else some (.both .invalidEscape (place.passBytes 4 rest))

def shortEscape? : Char → Option Char
  | '"' => some '"'
  | '\\' => some '\\'
  | '/' => some '/'
  | 'b' => some (Char.ofNat 8)
  | 'f' => some (Char.ofNat 12)
  | 'n' => some '\n'
  | 'r' => some '\r'
  | 't' => some '\t'
  | _ => none

/-- Whether a number is a surrogate that must come first, or second, of two. -/
def isHigh (n : Nat) : Bool := 0xD800 ≤ n && n ≤ 0xDBFF

def isLow (n : Nat) : Bool := 0xDC00 ≤ n && n ≤ 0xDFFF

def pair (high low : Nat) : Char :=
  Char.ofNat (0x10000 + (high - 0xD800) * 0x400 + (low - 0xDC00))

/-- A fault of both readings, unless the strict one has met a flaw before. -/
def fault (flawed : Option Flawed) (f : Fault) : Fault :=
  match flawed with
  | none => f
  | some s => { f with strict := s }

def orElse (flawed : Option Flawed) (flaw : Flaw) (place : Place) : Option Flawed :=
  match flawed with
  | none => some ⟨flaw, place⟩
  | some s => some s

def endHex (value : Nat) (acc : List Char) (flawed : Option Flawed) (place : Place) :
    Pending × List Char × Option Flawed :=
  if flawed.isSome then (.plain, acc, flawed)
  else if isLow value then (.plain, acc, some ⟨.loneSurrogate, place⟩)
  else if isHigh value then (.lowEscape value, acc, none)
  else (.plain, Char.ofNat value :: acc, none)

/-- Reads on. `acc` holds the characters so far, the last one first, and `flawed` the first flaw
that only a strict reading objects to. -/
def read : Pending → List Char → Option Flawed → Place → List Char →
    Except Fault (Except Flawed String × Cursor)
  | _, _, flawed, place, [] => .error (fault flawed (.both .endInString place))
  | .plain, acc, flawed, place, c :: rest =>
    let behind := place.pass c
    if c = '"' then
      let s : Except Flawed String := match flawed with
        | none => .ok (String.ofList acc.reverse)
        | some f => .error f
      .ok (s, ⟨rest, behind⟩)
    else if c = '\\' then read .escape acc flawed behind rest
    else if c.toNat < 32 then
      .error (fault flawed ⟨⟨.controlCharacter, behind⟩, ⟨.controlCharacter, place⟩⟩)
    else read .plain (c :: acc) flawed behind rest
  | .escape, acc, flawed, place, c :: rest =>
    let behind := place.pass c
    if c = 'u' then
      match hexFault? behind rest with
      | some f => .error (fault flawed f)
      | none => read (.hex 4 0) acc flawed behind rest
    else
      match shortEscape? c with
      | some x => read .plain (x :: acc) flawed behind rest
      | none => .error (fault flawed (.both .invalidEscape (Mark.peeked ⟨place, some c⟩)))
  | .hex left value, acc, flawed, place, c :: rest =>
    let behind := place.pass c
    let value := value * 16 + (hexValue? c).getD 0
    if left ≤ 1 then
      let (pending, acc, flawed) := endHex value acc flawed behind
      read pending acc flawed behind rest
    else read (.hex (left - 1) value) acc flawed behind rest
  | .lowEscape high, acc, flawed, place, c :: rest =>
    let behind := place.pass c
    if c = '\\' then read (.lowLetter high) acc flawed behind rest
    else
      let flawed := orElse flawed .endOfHexEscape (Mark.peeked ⟨place, some c⟩)
      if c = '"' then
        let s : Except Flawed String := match flawed with
          | none => .ok (String.ofList acc.reverse)
          | some f => .error f
        .ok (s, ⟨rest, behind⟩)
      else if c.toNat < 32 then
        .error (fault flawed ⟨⟨.controlCharacter, behind⟩, ⟨.controlCharacter, place⟩⟩)
      else read .plain acc flawed behind rest
  | .lowLetter high, acc, flawed, place, c :: rest =>
    let behind := place.pass c
    if c = 'u' then
      match hexFault? behind rest with
      | some f => .error (fault flawed f)
      | none => read (.lowHex high 4 0) acc flawed behind rest
    else
      let flawed := orElse flawed .endOfHexEscape (Mark.peeked ⟨place, some c⟩)
      match shortEscape? c with
      | some _ => read .plain acc flawed behind rest
      | none => .error (fault flawed (.both .invalidEscape (Mark.peeked ⟨place, some c⟩)))
  | .lowHex high left value, acc, flawed, place, c :: rest =>
    let behind := place.pass c
    let value := value * 16 + (hexValue? c).getD 0
    if left ≤ 1 then
      if isLow value then read .plain (pair high value :: acc) flawed behind rest
      else read .plain acc (orElse flawed .loneSurrogate behind) behind rest
    else read (.lowHex high (left - 1) value) acc flawed behind rest

end Literal

end Json
end SdkShelf
