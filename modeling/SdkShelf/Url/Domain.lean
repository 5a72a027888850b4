import SdkShelf.Url.Domain.Direction
import SdkShelf.Url.Domain.Joiner
import SdkShelf.Url.Domain.Mapping
import SdkShelf.Url.Punycode

/-!
Names of domains in the form in which they are looked up: small letters of ASCII, where a label with
other characters is written in ASCII behind a mark.
-/

namespace SdkShelf
namespace Url
namespace Domain

/-- The mark of a label that is written in ASCII for another. -/
def mark : List Char := ['x', 'n', '-', '-']

/-- The most characters of a label beyond ASCII. -/
def labelLimit : Nat := 1000

def markedLimit : Nat := 2000

def isForbidden (c : Char) : Bool :=
  c.toNat ≤ 32 || c.toNat = 127 ||
    ['%', '#', '/', ':', '<', '>', '?', '@', '[', '\\', ']', '^', '|'].contains c

def isAscii (label : List Char) : Bool := label.all fun c => c.toNat < 128

def isMarked (label : List Char) : Bool := label.take mark.length = mark

/-- The label that is written in ASCII as a given text behind the mark. It is one that has to be
written so, and is in small form. -/
def unmarked? (text : List Char) : Option (List Char) :=
  if markedLimit < text.length then none
  else
    match Punycode.decode text with
    | none => none
    | some label =>
      if !isAscii label && !isMarked label && normalize? label = some label &&
          Punycode.encode label = text then
        some label
      else none

def meaning? (label : List Char) : Option (List Char) :=
  if isMarked label then unmarked? (label.drop mark.length) else some label

/-- A label beyond ASCII is not too long, begins with no mark of a letter, and has joiners only
where they may stand. -/
def isRight (label : List Char) : Bool :=
  isAscii label ||
    (label.length ≤ labelLimit && !(label.head?.any isMark) && areJoinersRight [] label)

def labelText (label : List Char) : List Char :=
  if isAscii label then label else mark ++ Punycode.encode label

def splitAt (sep : Char) : List Char → List (List Char)
  | [] => [[]]
  | c :: rest =>
    if c = sep then [] :: splitAt sep rest
    else
      match splitAt sep rest with
      | [] => [[c]]
      | first :: more => (c :: first) :: more

/-- The name in ASCII, unless some character or label may not occur. -/
def ofText? (text : String) : Option String := do
  let small ← normalize? text.toList
  let labels ← (splitAt '.' small).mapM meaning?
  if !labels.all isRight || !areDirected labels then none
  else
    let name := ['.'].intercalate (labels.map labelText)
    if name.any isForbidden then none else some (String.ofList name)

end Domain
end Url
end SdkShelf
