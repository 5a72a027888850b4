import SdkShelf.Json.Printer

/-!
Why a text is no JSON, or a JSON value not the wanted record: the causes, their wording and the
place in the text where they were met.
-/

namespace SdkShelf
namespace Json

/-- A place in a text: the line, from one, and the bytes of that line before the place. -/
structure Place where
  line : Nat
  column : Nat
  deriving DecidableEq, Repr, Inhabited

inductive Flaw where
  | endInList
  | endInObject
  | endInString
  | endInValue
  | colonExpected
  | listCommaExpected
  | objectCommaExpected
  | identExpected
  | valueExpected
  | invalidEscape
  | invalidNumber
  | numberOutOfRange
  | controlCharacter
  | keyNotString
  | loneSurrogate
  | endOfHexEscape
  | trailingComma
  | trailingCharacters
  | tooDeep
  deriving DecidableEq, Repr

inductive Found where
  | null
  | bool (b : Bool)
  | number (n : Number)
  | string (s : String)
  | sequence
  | map

/-- What is wrong with a value that is JSON, but not what was asked for. -/
inductive Mismatch where
  | type (found : Found) (expected : String)
  | value (found : Found) (expected : String)
  | length (length : Nat) (expected : String)
  | missingField (name : String)
  | duplicateField (name : String)
  | unknownVariant (name : String) (known : List String)
  | custom (text : String)

inductive Cause where
  | flaw (f : Flaw)
  | mismatch (m : Mismatch)

/-- A failure to decode. A failure that belongs to no single place of a text has none. -/
structure DecodeError where
  cause : Cause
  place : Option Place

/-- The kinds of failure: the text ends too early, it is no JSON, or it holds another value. -/
inductive Category where
  | ended
  | malformed
  | mismatched
  deriving DecidableEq, Repr

namespace Flaw

def message : Flaw → String
  | endInList => "EOF while parsing a list"
  | endInObject => "EOF while parsing an object"
  | endInString => "EOF while parsing a string"
  | endInValue => "EOF while parsing a value"
  | colonExpected => "expected `:`"
  | listCommaExpected => "expected `,` or `]`"
  | objectCommaExpected => "expected `,` or `\x7d`"
  | identExpected => "expected ident"
  | valueExpected => "expected value"
  | invalidEscape => "invalid escape"
  | invalidNumber => "invalid number"
  | numberOutOfRange => "number out of range"
  | controlCharacter => "control character (\\u0000-\\u001F) found while parsing a string"
  | keyNotString => "key must be a string"
  | loneSurrogate => "lone leading surrogate in hex escape"
  | endOfHexEscape => "unexpected end of hex escape"
  | trailingComma => "trailing comma"
  | trailingCharacters => "trailing characters"
  | tooDeep => "recursion limit exceeded"

def category : Flaw → Category
  | endInList | endInObject | endInString | endInValue => .ended
  | _ => .malformed

end Flaw

namespace Found

def text : Found → String
  | null => "null"
  | bool b => "boolean `" ++ String.ofList (boolText b) ++ "`"
  | number (.int i _) => "integer `" ++ String.ofList (intText i) ++ "`"
  | number (.float x) => "floating point `" ++ String.ofList (Decimal.floatText x) ++ "`"
  | string s => "string " ++ Text.quote s
  | sequence => "sequence"
  | map => "map"

end Found

def alternatives (names : List String) : String :=
  let ticked := names.map fun n => "`" ++ n ++ "`"
  match ticked with
  | [] => ""
  | [a] => a
  | [a, b] => a ++ " or " ++ b
  | _ => "one of " ++ String.intercalate ", " ticked

namespace Mismatch

def message : Mismatch → String
  | type found expected => "invalid type: " ++ found.text ++ ", expected " ++ expected
  | value found expected => "invalid value: " ++ found.text ++ ", expected " ++ expected
  | length n expected => "invalid length " ++ toString n ++ ", expected " ++ expected
  | missingField name => "missing field `" ++ name ++ "`"
  | duplicateField name => "duplicate field `" ++ name ++ "`"
  | unknownVariant name known =>
    "unknown variant `" ++ name ++ "`, expected " ++ alternatives known
  | custom text => text

end Mismatch

namespace DecodeError

def ofFlaw (f : Flaw) (p : Place) : DecodeError := ⟨.flaw f, some p⟩

def ofMismatch (m : Mismatch) (p : Place) : DecodeError := ⟨.mismatch m, some p⟩

def unplaced (e : DecodeError) : DecodeError := { e with place := none }

def category (e : DecodeError) : Category :=
  match e.cause with
  | .flaw f => f.category
  | .mismatch _ => .mismatched

def message (e : DecodeError) : String :=
  let cause := match e.cause with
    | .flaw f => f.message
    | .mismatch m => m.message
  match e.place with
  | none => cause
  | some p => cause ++ " at line " ++ toString p.line ++ " column " ++ toString p.column

end DecodeError

end Json
end SdkShelf
