import SdkShelf.Json.Decode

/-!
Values of several cases, told apart by one member of their object, the tag. The other members are
collected before the tag is known, so what is wrong with them has no place.
-/

namespace SdkShelf
namespace Json

/-- One case: the tag's text, and how what stands beside the tag is read. -/
structure Tagged.Case (α : Type) where
  name : String
  decode : Json → Except DecodeError α

/-- A type of several cases, its name, the tag's key and the cases. -/
structure Tagged (α : Type) where
  name : String
  tag : String
  cases : List (Tagged.Case α)

namespace Tagged

variable {α : Type}

/-- A case with fields; `label` is what error messages call it. Fields given as a list must all be
there, and no more. -/
def Case.ofFields {γ σ : Type} (name label : String) (fields : Fields γ σ) (make : γ → α) :
    Case α where
  name := name
  decode
    | .array items => do
      let short := fun i => DecodeError.ofMismatch (.length i (fields.countText label)) default
      let (parts, left) ← fields.gather .value short (.closed default) 0 (Tree.ofItems items)
      if left.isEmpty then .ok (make parts)
      else
        let wanted := toString fields.count ++
          (if fields.count = 1 then " element" else " elements") ++ " in sequence"
        .error (.ofMismatch (.length items.length wanted) default)
    | v => ((Tree.ofJson v).record label fields fields.fill fields.gather .value).map make

def object {γ σ : Type} (tag name : String) (fields : Fields γ σ) (parts : γ) : Json :=
  .object ((tag, .string name) :: fields.encode parts)

def case (u : Tagged α) : Tree → Except DecodeError (Case α)
  | .scalar _ (.string (.ok s)) stop => Tree.named (u.cases.map fun c => (c.name, c)) s stop
  | t => .error (t.refusal "variant identifier")

/-- Reads the members of an object: the case, once its tag has come, and the other members. -/
def eachMember (u : Tagged α) (o : Origin) : List (Label × Tree) → Option (Case α) →
    Except DecodeError (Option (Case α) × List (String × Json))
  | [], c => .ok (c, [])
  | (l, t) :: rest, c => do
    let k ← l.key
    if k = u.tag then
      match c with
      | some _ => .error (.ofMismatch (.duplicateField u.tag) l.refused)
      | none => u.eachMember o rest (some (← u.case t))
    else
      let v ← t.read o
      let (c, ms) ← u.eachMember o rest c
      .ok (c, (k, v) :: ms)

def split (u : Tagged α) (o : Origin) : Tree → Except DecodeError (Case α × Json)
  | .object start members ending => do
    let inner ← o.enter start
    let (c, ms) ← u.eachMember inner members none
    ending.checkObject
    match c with
    | none => .error (.ofMismatch (.missingField u.tag) ending.stop)
    | some c => .ok (c, .object ms)
  | .array start items ending => do
    let inner ← o.enter start
    match items with
    | [] =>
      ending.checkList
      .error (.ofMismatch (.missingField u.tag) ending.stop)
    | t :: rest =>
      let c ← u.case t
      let vs ← Tree.readItems inner rest
      ending.checkList
      .ok (c, .array vs)
  | t => .error (t.refusal ("internally tagged enum " ++ u.name))

def decode (u : Tagged α) (o : Origin) (t : Tree) : Except DecodeError α := do
  let (c, v) ← u.split o t
  (c.decode v).mapError DecodeError.unplaced

def ofText (u : Tagged α) (text : String) : Except DecodeError α := do
  let (t, behind) := Tree.ofText text
  let a ← u.decode (.text depthLimit) t
  match behind.next with
  | none => .ok a
  | some _ => .error (.ofFlaw .trailingCharacters behind.peeked)

def ofJson (u : Tagged α) (v : Json) : Except DecodeError α :=
  (u.decode .value (Tree.ofJson v.canonical)).mapError DecodeError.unplaced

end Tagged

end Json
end SdkShelf
