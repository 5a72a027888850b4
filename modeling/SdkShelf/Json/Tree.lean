import SdkShelf.Json.Error

/-!
The tree of a JSON text: its values with the places where they begin and end, as far as the text is
JSON. A text is read in two ways. A value that is wanted is read strictly; a value that is only
skipped may hold numbers without a double, lone surrogates and any nesting, and some flaws of it are
worded otherwise. The tree serves both, so it records what either reading would meet.
-/

namespace SdkShelf
namespace Json

structure Mark where
  place : Place
  next : Option Char
  deriving DecidableEq, Repr, Inhabited

/-- The place one byte on; at the end of the text there is none. A character of several bytes is
entered but not passed. -/
def Mark.peeked (m : Mark) : Place :=
  match m.next with
  | none => m.place
  | some '\n' => ⟨m.place.line + 1, 0⟩
  | some _ => ⟨m.place.line, m.place.column + 1⟩

structure Flawed where
  flaw : Flaw
  place : Place
  deriving DecidableEq, Repr

def Flawed.error (f : Flawed) : DecodeError := .ofFlaw f.flaw f.place

/-- Where the text stops being JSON, as a strict reading and as a skipping one meets it. -/
structure Fault where
  strict : Flawed
  skimmed : Flawed
  deriving DecidableEq, Repr

def Fault.both (flaw : Flaw) (place : Place) : Fault := ⟨⟨flaw, place⟩, ⟨flaw, place⟩⟩

/-- A value without parts. A number may have no double and a string no characters; only a strict
reading objects. -/
inductive Scalar where
  | null
  | bool (b : Bool)
  | number (n : Except Flawed Number)
  | string (s : Except Flawed String)

inductive KeyGap where
  /-- The text ends; `first` tells that no member came before. -/
  | ended (first : Bool)
  | closed
  | other

inductive Ending where
  | closed (bracket : Mark)
  | ended (at' : Mark)
  /-- With something else where a comma or the bracket should stand. -/
  | noComma (at' : Mark)
  | trailingComma (at' : Mark)
  | noKey (gap : KeyGap) (at' : Mark)
  | brokenKey (fault : Fault)
  /-- It was not read, for a value before it is broken. -/
  | unread

/-- A member's key, with the place behind it, the mark behind the blanks that follow it, and the
mark behind the member's value and the blanks that follow that. -/
structure Label where
  name : Except Flawed String
  stop : Place
  gap : Mark
  after : Mark

inductive Tree where
  | scalar (start : Mark) (value : Scalar) (stop : Place)
  | array (start : Mark) (items : List Tree) (ending : Ending)
  | object (start : Mark) (members : List (Label × Tree)) (ending : Ending)
  | broken (start : Mark) (fault : Fault)

namespace KeyGap

def fault (g : KeyGap) (m : Mark) : Fault :=
  match g with
  | ended true => .both .endInObject m.peeked
  | ended false => ⟨⟨.endInValue, m.peeked⟩, ⟨.endInObject, m.peeked⟩⟩
  | closed => ⟨⟨.trailingComma, m.peeked⟩, ⟨.keyNotString, m.peeked⟩⟩
  | other => .both .keyNotString m.peeked

end KeyGap

namespace Ending

def listFault? : Ending → Option Fault
  | closed _ | unread => none
  | ended m => some (.both .endInList m.peeked)
  | noComma m => some (.both .listCommaExpected m.peeked)
  | trailingComma m => some ⟨⟨.trailingComma, m.peeked⟩, ⟨.valueExpected, m.peeked⟩⟩
  | noKey gap m => some (gap.fault m)
  | brokenKey f => some f

def objectFault? : Ending → Option Fault
  | closed _ | unread => none
  | ended m => some (.both .endInObject m.peeked)
  | noComma m => some (.both .objectCommaExpected m.peeked)
  | trailingComma m => some ⟨⟨.trailingComma, m.peeked⟩, ⟨.valueExpected, m.peeked⟩⟩
  | noKey gap m => some (gap.fault m)
  | brokenKey f => some f

def stop : Ending → Place
  | closed bracket => bracket.peeked
  | _ => default

end Ending

namespace Tree

def start : Tree → Mark
  | scalar m _ _ | array m _ _ | object m _ _ | broken m _ => m

mutual

/-- Skips a value: only a fault of the text can stop that. -/
def skim : Tree → Except DecodeError Unit
  | scalar _ _ _ => .ok ()
  | array _ items ending => do
    skimItems items
    match ending.listFault? with
    | none => .ok ()
    | some f => .error f.skimmed.error
  | object _ members ending => do
    skimMembers members
    match ending.objectFault? with
    | none => .ok ()
    | some f => .error f.skimmed.error
  | broken _ f => .error f.skimmed.error

def skimItems : List Tree → Except DecodeError Unit
  | [] => .ok ()
  | t :: rest => do
    skim t
    skimItems rest

def skimMembers : List (Label × Tree) → Except DecodeError Unit
  | [] => .ok ()
  | (_, t) :: rest => do
    skim t
    skimMembers rest

end

def ofScalar (s : Scalar) : Tree := .scalar default s default

def ofKey (k : String) : Label := ⟨.ok k, default, default, default⟩

mutual

def ofJson : Json → Tree
  | .null => ofScalar .null
  | .bool b => ofScalar (.bool b)
  | .number n => ofScalar (.number (.ok n))
  | .string s => ofScalar (.string (.ok s))
  | .array items => .array default (ofItems items) (.closed default)
  | .object members => .object default (ofMembers members) (.closed default)

def ofItems : List Json → List Tree
  | [] => []
  | v :: rest => ofJson v :: ofItems rest

def ofMembers : List (String × Json) → List (Label × Tree)
  | [] => []
  | (k, v) :: rest => (ofKey k, ofJson v) :: ofMembers rest

end

end Tree

end Json
end SdkShelf
