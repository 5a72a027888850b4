import SdkShelf.Dictionary

/-!
JSON values. An object keeps its members as they were written; the canonical form of a value has
every object's members in ascending key order, one for each key.
-/

namespace SdkShelf

namespace Json

/-- A number: a whole number of 64 bits, signed or not, stays exact; everything else is a double. -/
inductive Number where
  | int (i : Int) (fits : -9223372036854775808 ≤ i ∧ i < 18446744073709551616)
  | float (x : Float)

namespace Number

def ofNat (n : Nat) (h : n < 18446744073709551616) : Number := .int n (by omega)

def ofUInt64 (n : UInt64) : Number := .ofNat n.toNat n.toNat_lt

def ofInt64 (n : Int64) : Number :=
  .int n.toInt (by have := n.toInt_lt; have := n.le_toInt; omega)

def toFloat : Number → Float
  | .int i _ => if i < 0 then -(UInt64.ofNat i.natAbs).toFloat else (UInt64.ofNat i.natAbs).toFloat
  | .float x => x

def isInt : Number → Bool
  | .int .. => true
  | .float _ => false

end Number

end Json

inductive Json where
  | null
  | bool (b : Bool)
  | number (n : Json.Number)
  | string (s : String)
  | array (items : List Json)
  | object (members : List (String × Json))

namespace Json

instance : Inhabited Json := ⟨.null⟩

def nat (n : Nat) (h : n < 18446744073709551616) : Json := .number (.ofNat n h)

mutual

/-- Every object's members in ascending key order; of two with one key the later stays. -/
def canonical : Json → Json
  | .array items => .array (canonicalItems items)
  | .object members => .object (Dictionary.ofList (canonicalMembers members)).entries
  | v => v

def canonicalItems : List Json → List Json
  | [] => []
  | v :: rest => canonical v :: canonicalItems rest

def canonicalMembers : List (String × Json) → List (String × Json)
  | [] => []
  | (k, v) :: rest => (k, canonical v) :: canonicalMembers rest

end

mutual

/-- How many containers are open at once at most. -/
def depth : Json → Nat
  | .array items => depthItems items + 1
  | .object members => depthMembers members + 1
  | _ => 0

def depthItems : List Json → Nat
  | [] => 0
  | v :: rest => max (depth v) (depthItems rest)

def depthMembers : List (String × Json) → Nat
  | [] => 0
  | (_, v) :: rest => max (depth v) (depthMembers rest)

end

def get? (v : Json) (key : String) : Option Json :=
  match v with
  | .object members => (members.find? (fun m => m.1 = key)).map (·.2)
  | _ => none

end Json
end SdkShelf
