import SdkShelf.Json.Basic

/-!
Schemas describe how the values of a type are laid out as JSON. One schema serves both directions,
so a record is described once. A record's fields form a product: the type of its parts, and the type
of the slots that are filled while its members are read, run along with the list of fields.
-/

namespace SdkShelf
namespace Json

mutual

inductive Schema : Type → Type 1 where
  | json : Schema Json
  | string : Schema String
  | bool : Schema Bool
  | uint16 : Schema UInt16
  | uint64 : Schema UInt64
  | int64 : Schema Int64
  | float : Schema Float
  /-- A string that is read and written by rules of its own; `expected` names what it holds. -/
  | spelled {α : Type} (expected : String) (read : String → Except String α)
      (write : α → String) : Schema α
  | choice {α : Type} (cases : List (String × α)) (name : α → String) : Schema α
  /-- Null stands for no value. -/
  | option {α : Type} (inner : Schema α) : Schema (Option α)
  /-- Null is read as a given value, which is never written so. -/
  | orNull {α : Type} (absent : α) (inner : Schema α) : Schema α
  | list {α : Type} (inner : Schema α) : Schema (List α)
  | map {α : Type} (inner : Schema α) : Schema (Dictionary α)
  /-- An object with given fields; `parts` takes a value apart, `make` puts it together. -/
  | record {α γ σ : Type} (name : String) (fields : Fields γ σ) (make : γ → α)
      (parts : α → γ) : Schema α

/-- The fields of a record in the order in which they are written. -/
inductive Fields : Type → Type → Type 1 where
  | nil : Fields Unit Unit
  /-- A field with its name, other names under which it is read as well, the value that stands for
  an absent one, if it may be absent, and the values that are not written. -/
  | cons {α γ σ : Type} (name : String) (aliases : List String) (schema : Schema α)
      (absent : Option α) (hidden : α → Bool) (rest : Fields γ σ) : Fields (α × γ) (Option α × σ)

end

namespace Fields

def required {α γ σ : Type} (name : String) (schema : Schema α) (rest : Fields γ σ) :
    Fields (α × γ) (Option α × σ) :=
  .cons name [] schema none (fun _ => false) rest

/-- A field that may be absent and is always written. -/
def defaulted {α γ σ : Type} (name : String) (schema : Schema α) (absent : α)
    (rest : Fields γ σ) : Fields (α × γ) (Option α × σ) :=
  .cons name [] schema (some absent) (fun _ => false) rest

/-- A field that may be absent and is left out where it has no value. -/
def optional {α γ σ : Type} (name : String) (schema : Schema α) (rest : Fields γ σ) :
    Fields (Option α × γ) (Option (Option α) × σ) :=
  .cons name [] (.option schema) (some none) Option.isNone rest

def flag {γ σ : Type} (name : String) (rest : Fields γ σ) :
    Fields (Bool × γ) (Option Bool × σ) :=
  .cons name [] .bool (some false) (fun b => !b) rest

def count : {γ σ : Type} → Fields γ σ → Nat
  | _, _, .nil => 0
  | _, _, .cons _ _ _ _ _ rest => rest.count + 1

/-- A record of a given name and its size, as an error message names them. -/
def countText {γ σ : Type} (name : String) (fields : Fields γ σ) : String :=
  name ++ " with " ++ toString fields.count ++ (if fields.count = 1 then " element" else " elements")

def unfilled : {γ σ : Type} → Fields γ σ → σ
  | _, _, .nil => ()
  | _, _, .cons _ _ _ _ _ rest => (none, rest.unfilled)

/-- The parts of a record whose members have been read; the name of the first field that is neither
there nor may be absent. -/
def filled : {γ σ : Type} → Fields γ σ → σ → Except String γ
  | _, _, .nil, _ => .ok ()
  | _, _, .cons name _ _ absent _ rest, (slot, slots) => do
    let a ← match slot, absent with
      | some a, _ => .ok a
      | none, some a => .ok a
      | none, none => .error name
    let more ← rest.filled slots
    .ok (a, more)

end Fields

mutual

/-- The JSON value of a value of the described type; a record's members stand in field order. -/
def Schema.encode : {α : Type} → Schema α → α → Json
  | _, .json, v => v
  | _, .string, s => .string s
  | _, .bool, b => .bool b
  | _, .uint16, n => .number (.ofNat n.toNat (by have := n.toNat_lt; omega))
  | _, .uint64, n => .number (.ofUInt64 n)
  | _, .int64, n => .number (.ofInt64 n)
  | _, .float, x => .number (.float x)
  | _, .spelled _ _ write, a => .string (write a)
  | _, .choice _ name, a => .string (name a)
  | _, .option _, none => .null
  | _, .option inner, some a => inner.encode a
  | _, .orNull _ inner, a => inner.encode a
  | _, .list inner, items => .array (items.map inner.encode)
  | _, .map inner, d => .object (d.entries.map fun e => (e.1, inner.encode e.2))
  | _, .record _ fields _ parts, a => .object (fields.encode (parts a))

def Fields.encode : {γ σ : Type} → Fields γ σ → γ → List (String × Json)
  | _, _, .nil, _ => []
  | _, _, .cons name _ schema _ hidden rest, (a, more) =>
    if hidden a then rest.encode more else (name, schema.encode a) :: rest.encode more

end

end Json
end SdkShelf
