import SdkShelf.Decimal.Float
import SdkShelf.Json.Basic
import SdkShelf.Text.Quoted

/-!
Texts of JSON values: the compact one, without any blank, and the indented one.
-/

namespace SdkShelf
namespace Json

/-- A character inside a JSON string. Only quotes, backslashes and control characters need an
escape; five control characters have a short one. -/
def escapeChar (c : Char) : List Char :=
  match c with
  | '"' => ['\\', '"']
  | '\\' => ['\\', '\\']
  | '\n' => ['\\', 'n']
  | '\r' => ['\\', 'r']
  | '\t' => ['\\', 't']
  | _ =>
    if c.toNat = 8 then ['\\', 'b']
    else if c.toNat = 12 then ['\\', 'f']
    else if c.toNat < 32 then
      ['\\', 'u', '0', '0', Text.hexDigit (c.toNat / 16), Text.hexDigit (c.toNat % 16)]
    else [c]

def stringText (s : String) : List Char :=
  '"' :: (s.toList.flatMap escapeChar ++ ['"'])

def intText (i : Int) : List Char :=
  if i < 0 then '-' :: Nat.toDigits 10 i.natAbs else Nat.toDigits 10 i.natAbs

def Number.text : Number → List Char
  | .int i _ => intText i
  | .float x => Decimal.floatText x

def boolText (b : Bool) : List Char :=
  if b then ['t', 'r', 'u', 'e'] else ['f', 'a', 'l', 's', 'e']

mutual

def compactChars : Json → List Char
  | .null => ['n', 'u', 'l', 'l']
  | .bool b => boolText b
  | .number n => n.text
  | .string s => stringText s
  | .array [] => ['[', ']']
  | .array (v :: rest) => '[' :: (compactChars v ++ compactItems rest ++ [']'])
  | .object [] => ['\x7b', '\x7d']
  | .object ((k, v) :: rest) =>
    '\x7b' :: (stringText k ++ ':' :: (compactChars v ++ compactMembers rest ++ ['\x7d']))

def compactItems : List Json → List Char
  | [] => []
  | v :: rest => ',' :: (compactChars v ++ compactItems rest)

def compactMembers : List (String × Json) → List Char
  | [] => []
  | (k, v) :: rest => ',' :: (stringText k ++ ':' :: (compactChars v ++ compactMembers rest))

end

def compact (v : Json) : String := String.ofList (compactChars v)

def lineBreak (level : Nat) : List Char := '\n' :: List.replicate (2 * level) ' '

mutual

def prettyChars (level : Nat) : Json → List Char
  | .array [] => ['[', ']']
  | .array (v :: rest) =>
    '[' :: (lineBreak (level + 1) ++ prettyChars (level + 1) v ++ prettyItems (level + 1) rest ++
      lineBreak level ++ [']'])
  | .object [] => ['\x7b', '\x7d']
  | .object ((k, v) :: rest) =>
    '\x7b' :: (lineBreak (level + 1) ++ stringText k ++ ':' :: ' ' ::
      (prettyChars (level + 1) v ++ prettyMembers (level + 1) rest ++ lineBreak level ++ ['\x7d']))
  | v => compactChars v

def prettyItems (level : Nat) : List Json → List Char
  | [] => []
  | v :: rest => ',' :: (lineBreak level ++ prettyChars level v ++ prettyItems level rest)

def prettyMembers (level : Nat) : List (String × Json) → List Char
  | [] => []
  | (k, v) :: rest =>
    ',' :: (lineBreak level ++ stringText k ++ ':' :: ' ' ::
      (prettyChars level v ++ prettyMembers level rest))

end

/-- The text with one item or member a line, indented by two blanks for each level. -/
def pretty (v : Json) : String := String.ofList (prettyChars 0 v)

end Json
end SdkShelf
