import SdkShelf.Json.Reader
import SdkShelf.Json.Schema

/-!
Reading values of a described type. The same rules read a text's tree and a value's; a text bounds
how deep containers nest, and its errors have places. A record may also stand as a list of its
fields, and a named case as an object whose only member is null.
-/

namespace SdkShelf
namespace Json

/-- Where a tree comes from: a text, in which so many containers more may be opened, or a value. -/
inductive Origin where
  | text (room : Nat)
  | value
  deriving DecidableEq, Repr

namespace Origin

def enter (o : Origin) (start : Mark) : Except DecodeError Origin :=
  match o with
  | text 0 => .error (.ofFlaw .tooDeep start.peeked)
  | text (n + 1) => .ok (text n)
  | value => .ok value

end Origin

def Scalar.found : Scalar → Except Flawed Found
  | null => .ok .null
  | bool b => .ok (.bool b)
  | number n => n.map .number
  | string s => s.map .string

def Scalar.json : Scalar → Except Flawed Json
  | null => .ok .null
  | bool b => .ok (.bool b)
  | number n => n.map .number
  | string s => s.map .string

namespace Ending

def checkList (e : Ending) : Except DecodeError Unit :=
  match e.listFault? with
  | none => .ok ()
  | some f => .error f.strict.error

def checkObject (e : Ending) : Except DecodeError Unit :=
  match e.objectFault? with
  | none => .ok ()
  | some f => .error f.strict.error

end Ending

namespace Label

def key (l : Label) : Except DecodeError String := l.name.mapError Flawed.error

/-- Where a key is found to be one too many: an object that ends right behind it is passed. -/
def refused (l : Label) : Place :=
  if l.gap.next = some '\x7d' then l.gap.peeked else l.gap.place

end Label

namespace Tree

def isNull : Tree → Bool
  | .scalar _ .null _ => true
  | _ => false

def refusal (expected : String) : Tree → DecodeError
  | .scalar _ s stop =>
    match s.found with
    | .ok found => .ofMismatch (.type found expected) stop
    | .error f => f.error
  | .array start _ _ => .ofMismatch (.type .sequence expected) start.place
  | .object start _ _ => .ofMismatch (.type .map expected) start.place
  | .broken _ f => f.strict.error

mutual

/-- Any value; an object's members stay as they were written. -/
def read (o : Origin) : Tree → Except DecodeError Json
  | .scalar _ s _ => s.json.mapError Flawed.error
  | .array start items ending => do
    let inner ← o.enter start
    let vs ← readItems inner items
    ending.checkList
    .ok (.array vs)
  | .object start members ending => do
    let inner ← o.enter start
    let ms ← readMembers inner members
    ending.checkObject
    .ok (.object ms)
  | .broken _ f => .error f.strict.error

def readItems (o : Origin) : List Tree → Except DecodeError (List Json)
  | [] => .ok []
  | t :: rest => do
    let v ← read o t
    let vs ← readItems o rest
    .ok (v :: vs)

def readMembers (o : Origin) : List (Label × Tree) → Except DecodeError (List (String × Json))
  | [] => .ok []
  | (l, t) :: rest => do
    let k ← l.key
    let v ← read o t
    let ms ← readMembers o rest
    .ok ((k, v) :: ms)

end

def string (expected : String) : Tree → Except DecodeError String
  | .scalar _ (.string (.ok s)) _ => .ok s
  | t => .error (t.refusal expected)

def bool (expected : String) : Tree → Except DecodeError Bool
  | .scalar _ (.bool b) _ => .ok b
  | t => .error (t.refusal expected)

/-- A whole number for which `fit` has a value. -/
def whole {α : Type} (expected : String) (fit : Int → Option α) : Tree → Except DecodeError α
  | .scalar _ (.number (.ok (.int i h))) stop =>
    match fit i with
    | some a => .ok a
    | none => .error (.ofMismatch (.value (.number (.int i h)) expected) stop)
  | t => .error (t.refusal expected)

def float (expected : String) : Tree → Except DecodeError Float
  | .scalar _ (.number (.ok n)) _ => .ok n.toFloat
  | t => .error (t.refusal expected)

def spelled {α : Type} (expected : String) (readText : String → Except String α) :
    Tree → Except DecodeError α
  | .scalar _ (.string (.ok s)) stop =>
    match readText s with
    | .ok a => .ok a
    | .error text => .error (.ofMismatch (.custom text) stop)
  | t => .error (t.refusal expected)

def named {α : Type} (cases : List (String × α)) (name : String) (stop : Place) :
    Except DecodeError α :=
  match cases.find? (fun c => c.1 = name) with
  | some c => .ok c.2
  | none => .error (.ofMismatch (.unknownVariant name (cases.map (·.1))) stop)

def nameless (e : Ending) : DecodeError :=
  match e, e.objectFault? with
  | _, some f => f.strict.error
  | .closed bracket, none => .ofFlaw .valueExpected bracket.peeked
  | _, none => .ofFlaw .valueExpected default

def unit (t : Tree) : Except DecodeError Unit :=
  if t.isNull then .ok () else .error (t.refusal "unit")

/-- A named case: a string, or an object whose only member has the name and is null. -/
def choice {α : Type} (cases : List (String × α)) (o : Origin) (t : Tree) :
    Except DecodeError α :=
  match o, t with
  | _, .scalar _ (.string (.ok s)) stop => named cases s stop
  | .value, .object _ [(l, v)] _ => do
    let a ← named cases (← l.key) l.stop
    v.unit
    .ok a
  | .value, .object start _ _ =>
    .error (.ofMismatch (.value .map "map with a single key") start.place)
  | .value, t => .error (t.refusal "string or map")
  | .text _, .object start members ending => do
    let _ ← o.enter start
    match members with
    | [] => .error (nameless ending)
    | (l, v) :: _ =>
      let a ← named cases (← l.key) l.stop
      v.unit
      match l.after.next with
      | some '\x7d' => .ok a
      | some _ => .error (.ofFlaw .valueExpected l.after.place)
      | none => .error (.ofFlaw .endInObject l.after.place)
  | .text _, .scalar _ (.string (.error f)) _ => .error f.error
  | .text _, .array start _ _ | .text _, .scalar start _ _ =>
    .error (.ofFlaw .valueExpected start.peeked)
  | .text _, .broken start f =>
    match start.next, f.strict.flaw with
    | none, _ | some '"', _ | _, .colonExpected => .error f.strict.error
    | _, _ => .error (.ofFlaw .valueExpected start.peeked)

def eachItem {α : Type} (item : Tree → Except DecodeError α) :
    List Tree → Except DecodeError (List α)
  | [] => .ok []
  | t :: rest => do
    let a ← item t
    let more ← eachItem item rest
    .ok (a :: more)

def eachMember {α : Type} (item : Tree → Except DecodeError α) :
    List (Label × Tree) → Except DecodeError (List (String × α))
  | [] => .ok []
  | (l, t) :: rest => do
    let k ← l.key
    let a ← item t
    let more ← eachMember item rest
    .ok ((k, a) :: more)

def list {α : Type} (item : Origin → Tree → Except DecodeError α) (o : Origin) :
    Tree → Except DecodeError (List α)
  | .array start items ending => do
    let inner ← o.enter start
    let as ← eachItem (item inner) items
    ending.checkList
    .ok as
  | t => .error (t.refusal "a sequence")

/-- An object with any keys; of two members with one key the later stays. -/
def map {α : Type} (item : Origin → Tree → Except DecodeError α) (o : Origin) :
    Tree → Except DecodeError (Dictionary α)
  | .object start members ending => do
    let inner ← o.enter start
    let ms ← eachMember (item inner) members
    ending.checkObject
    .ok (Dictionary.ofList ms)
  | t => .error (t.refusal "a map")

/-- Fails if a list goes on behind the last item that is wanted of it; `size` counts all of its
items. -/
def checkSurplus (o : Origin) (size : Nat) (start : Mark) (left : List Tree) (ending : Ending) :
    Except DecodeError Unit :=
  match left, ending with
  | t :: _, _ =>
    match o with
    | .text _ => .error (.ofFlaw .trailingCharacters t.start.peeked)
    | .value => .error (.ofMismatch (.length size "fewer elements in array") start.place)
  | [], .noComma m => .error (.ofFlaw .trailingCharacters m.peeked)
  | [], .trailingComma m => .error (.ofFlaw .trailingComma m.peeked)
  | [], e => e.checkList

def eachSlot {σ : Type} (fill : Label → String → Tree → σ → Except DecodeError σ) :
    List (Label × Tree) → σ → Except DecodeError σ
  | [], slots => .ok slots
  | (l, t) :: rest, slots => do
    let k ← l.key
    let slots ← fill l k t slots
    eachSlot fill rest slots

/-- A record: an object of its fields in any order, or a list of them in theirs. -/
def record {γ σ : Type} (name : String) (fields : Fields γ σ)
    (fill : Origin → Label → String → Tree → σ → Except DecodeError σ)
    (gather : Origin → (Nat → DecodeError) → Ending → Nat → List Tree →
      Except DecodeError (γ × List Tree)) (o : Origin) : Tree → Except DecodeError γ
  | .object start members ending => do
    let inner ← o.enter start
    let slots ← eachSlot (fill inner) members fields.unfilled
    ending.checkObject
    (fields.filled slots).mapError fun missing => .ofMismatch (.missingField missing) ending.stop
  | .array start items ending => do
    let inner ← o.enter start
    let short := fun i => DecodeError.ofMismatch (.length i (fields.countText name)) ending.stop
    let (parts, left) ← gather inner short ending 0 items
    checkSurplus o items.length start left ending
    .ok parts
  | t => .error (t.refusal name)

end Tree

mutual

def Schema.decode : {α : Type} → Schema α → Origin → Tree → Except DecodeError α
  | _, .json, o, t => (t.read o).map canonical
  | _, .string, _, t => t.string "a string"
  | _, .bool, _, t => t.bool "a boolean"
  | _, .uint16, _, t =>
    t.whole "u16" fun i => if 0 ≤ i ∧ i < 65536 then some (UInt16.ofNat i.toNat) else none
  | _, .uint64, _, t =>
    t.whole "u64" fun i => if 0 ≤ i then some (UInt64.ofNat i.toNat) else none
  | _, .int64, _, t =>
    t.whole "i64" fun i => if i < 9223372036854775808 then some (Int64.ofInt i) else none
  | _, .float, _, t => t.float "f64"
  | _, .spelled expected readText _, _, t => t.spelled expected readText
  | _, .choice cases _, o, t => t.choice cases o
  | _, .option inner, o, t => if t.isNull then .ok none else (inner.decode o t).map some
  | _, .orNull absent inner, o, t => if t.isNull then .ok absent else inner.decode o t
  | _, .list inner, o, t => t.list inner.decode o
  | _, .map inner, o, t => t.map inner.decode o
  | _, .record name fields make _, o, t =>
    (t.record ("struct " ++ name) fields fields.fill fields.gather o).map make

/-- Reads a member into the slot of its field. A member that belongs to no field is skipped. -/
def Fields.fill : {γ σ : Type} → Fields γ σ → Origin → Label → String → Tree → σ →
    Except DecodeError σ
  | _, _, .nil, _, _, _, t, _ => t.skim
  | _, _, .cons name aliases schema _ _ rest, o, l, key, t, (slot, slots) =>
    if key = name ∨ key ∈ aliases then
      match slot with
      | some _ => .error (.ofMismatch (.duplicateField name) l.refused)
      | none => (schema.decode o t).map fun a => (some a, slots)
    else (rest.fill o l key t slots).map fun more => (slot, more)

/-- Reads the fields of a record that is given as a list, the next one being at the given index;
the items left over are returned as well. -/
def Fields.gather : {γ σ : Type} → Fields γ σ → Origin → (Nat → DecodeError) → Ending → Nat →
    List Tree → Except DecodeError (γ × List Tree)
  | _, _, .nil, _, _, _, _, items => .ok ((), items)
  | _, _, .cons _ _ schema _ _ rest, o, short, ending, i, t :: items => do
    let a ← schema.decode o t
    let (more, left) ← rest.gather o short ending (i + 1) items
    .ok ((a, more), left)
  | _, _, .cons _ _ _ absent _ rest, o, short, ending, i, [] => do
    ending.checkList
    match absent with
    | none => .error (short i)
    | some a =>
      let (more, left) ← rest.gather o short ending (i + 1) []
      .ok ((a, more), left)

end

def depthLimit : Nat := 127

namespace Schema

variable {α : Type}

def ofText (s : Schema α) (text : String) : Except DecodeError α := do
  let (t, behind) := Tree.ofText text
  let a ← s.decode (.text depthLimit) t
  match behind.next with
  | none => .ok a
  | some _ => .error (.ofFlaw .trailingCharacters behind.peeked)

/-- Reads a JSON value; a failure has no place. -/
def ofJson (s : Schema α) (v : Json) : Except DecodeError α :=
  (s.decode .value (Tree.ofJson v.canonical)).mapError DecodeError.unplaced

/-- The compact text of a value, a record's members in field order. -/
def text (s : Schema α) (a : α) : String := (s.encode a).compact

end Schema

end Json
end SdkShelf
