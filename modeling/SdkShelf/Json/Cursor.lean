import SdkShelf.Json.Tree

/-!
A cursor walks through a text and counts lines and bytes.
-/

namespace SdkShelf
namespace Json

def Place.pass (p : Place) (c : Char) : Place :=
  if c = '\n' then ⟨p.line + 1, 0⟩ else ⟨p.line, p.column + c.utf8Size⟩

def Place.passAll (p : Place) (cs : List Char) : Place := cs.foldl Place.pass p

/-- The place a number of bytes on, which may lie inside a character. -/
def Place.passBytes (p : Place) : Nat → List Char → Place
  | _, [] => p
  | n, c :: rest =>
    if n = 0 then p
    else if c.utf8Size ≤ n then (p.pass c).passBytes (n - c.utf8Size) rest
    else ⟨p.line, p.column + n⟩

/-- What is left of a text, and how far the reading has come. -/
structure Cursor where
  rest : List Char
  place : Place

namespace Cursor

def start (text : List Char) : Cursor := ⟨text, ⟨1, 0⟩⟩

def mark (c : Cursor) : Mark := ⟨c.place, c.rest.head?⟩

def pass (c : Cursor) : Cursor :=
  match c.rest with
  | [] => c
  | x :: rest => ⟨rest, c.place.pass x⟩

/-- The blanks that may stand between the parts of a JSON text. -/
def isSpace (c : Char) : Bool := c = ' ' || c = '\n' || c = '\t' || c = '\r'

def skipWhile (p : Char → Bool) : List Char → Place → Cursor
  | [], place => ⟨[], place⟩
  | c :: rest, place => if p c then skipWhile p rest (place.pass c) else ⟨c :: rest, place⟩

def skipSpace (c : Cursor) : Cursor := skipWhile isSpace c.rest c.place

def digits (c : Cursor) : List Char × Cursor :=
  (c.rest.takeWhile Char.isDigit, skipWhile Char.isDigit c.rest c.place)

end Cursor

end Json
end SdkShelf
