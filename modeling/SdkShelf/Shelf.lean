import SdkShelf.Json.Decode
import SdkShelf.Project.Shrink
import SdkShelf.Store.Basic

/-!
A shelf keeps JSON values and texts in a store. One key holds a collection of projects, and a
collection that does not fit is cut down until it does: its projects are shrunk, and then the oldest
ones are given up, one at a time.
-/

namespace SdkShelf

structure Shelf (σ : Type) where
  store : σ
  collectionKey : String

namespace Shelf

def projectsKey : String := "ag_projects"

def callsKey : String := "ag_api_calls"

/-- The text that is stored for a value: a string as it is, anything else as JSON. -/
def textOf (v : Json) : String :=
  match v with
  | .string text => text
  | v => v.compact

variable {σ α : Type} [Store σ]

def write (s : Shelf σ) (key text : String) : Except StoreError Unit × Shelf σ :=
  let (result, store) := Store.write s.store key text
  (result, { s with store })

/-- Writes the first `n` projects, or as many of them as there is room for, but at least one if
there is any. -/
def writeFirst (s : Shelf σ) (key : String) (projects : List Project) : Nat → Bool × Shelf σ
  | 0 =>
    let (result, s) := s.write key (Project.listSchema.text [])
    (result.isOk, s)
  | n + 1 =>
    match s.write key (Project.listSchema.text (projects.take (n + 1))) with
    | (.ok (), s) => (true, s)
    | (.error e, s) =>
      if e.isQuotaExceeded ∧ 0 < n then s.writeFirst key projects n else (false, s)

/-- Saves what fits of a value that did not fit as it was. Only a collection can be cut down. -/
def saveReduced (s : Shelf σ) (key : String) (v : Json) : Bool × Shelf σ :=
  if key ≠ s.collectionKey then (false, s)
  else
    match Project.listSchema.ofJson v with
    | .error _ => (false, s)
    | .ok projects => s.writeFirst key (projects.map Project.shrink) projects.length

/-- Saves a JSON value, or what fits of it; tells whether anything was saved. -/
def save (s : Shelf σ) (key : String) (v : Json) : Bool × Shelf σ :=
  match s.write key (textOf v) with
  | (.ok (), s) => (true, s)
  | (.error e, s) => if e.isQuotaExceeded then s.saveReduced key v else (false, s)

/-- Saves a value of a described type. Its JSON has the members of every object in order. -/
def saveAs (s : Shelf σ) (schema : Json.Schema α) (key : String) (a : α) : Bool × Shelf σ :=
  s.save key (schema.encode a).canonical

def saveText (s : Shelf σ) (key text : String) : Bool × Shelf σ :=
  s.save key (.string text)

/-- The text under a key. A store that fails has none. -/
def loadText (s : Shelf σ) (key : String) : Option String :=
  match Store.read s.store key with
  | .ok text => text
  | .error _ => none

/-- The value that a stored text stands for: as JSON, or else as a string. -/
def valueOf? (schema : Json.Schema α) (text : String) : Option α :=
  if text.isEmpty then none
  else
    match schema.ofText text with
    | .ok a => some a
    | .error _ => (schema.ofJson (.string text)).toOption

/-- Loads a value, or the given one if there is none or it cannot be read. -/
def load (s : Shelf σ) (schema : Json.Schema α) (key : String) (default : α) : α :=
  ((s.loadText key).bind (valueOf? schema)).getD default

def clear (s : Shelf σ) (key : String) : Shelf σ :=
  { s with store := (Store.remove s.store key).2 }

end Shelf

end SdkShelf
