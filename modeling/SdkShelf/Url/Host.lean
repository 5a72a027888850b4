import SdkShelf.Url.Basic
import SdkShelf.Url.Domain
import SdkShelf.Url.Percent

/-!
Reading hosts: addresses of version 6 in brackets, names of domains, and names that are addresses of
version 4 because they end in a number.
-/

namespace SdkShelf
namespace Url
namespace Host

open Domain (splitAt)

def valueOf (base : Nat) (ds : List Char) : Option Nat :=
  ds.foldlM (fun n c => do
    let d ← Percent.digitValue? c
    if d < base then some (n * base + d) else none) 0

/-- A number as a part of an address of version 4: in base 16 behind `0x`, in base 8 behind another
zero, and else in base 10. -/
def ipv4Number? (part : List Char) : Option Nat :=
  match part with
  | [] => none
  | '0' :: 'x' :: ds | '0' :: 'X' :: ds => valueOf 16 ds
  | '0' :: d :: ds => valueOf 8 (d :: ds)
  | ds => valueOf 10 ds

def withoutRoot (labels : List (List Char)) : List (List Char) :=
  if labels.getLast? = some [] then labels.dropLast else labels

/-- The last label, leaving out an empty one at the very end, is a number. -/
def endsInNumber (name : List Char) : Bool :=
  match (withoutRoot (splitAt '.' name)).getLast? with
  | none => false
  | some last => (!last.isEmpty && last.all Char.isDigit) || (ipv4Number? last).isSome

/-- An address of version 4. The last number fills the bytes that the others leave. -/
def ipv4? (name : List Char) : Option Nat := do
  let numbers ← (withoutRoot (splitAt '.' name)).mapM ipv4Number?
  let last ← numbers.getLast?
  let others := numbers.dropLast
  if 3 < others.length ∨ others.any (255 < ·) ∨ Nat.pow 256 (4 - others.length) ≤ last then none
  else
    some (last + (others.zipIdx.map fun (n, i) => n * Nat.pow 256 (3 - i)).foldr (· + ·) 0)

def piece? (ds : List Char) : Option Nat :=
  if ds.isEmpty ∨ 4 < ds.length then none else valueOf 16 ds

/-- A decimal byte without zeros in front. -/
def byte? (ds : List Char) : Option Nat := do
  if ds.isEmpty ∨ 3 < ds.length ∨ (ds.head? = some '0' ∧ 1 < ds.length) then none
  else
    let n ← valueOf 10 ds
    if n < 256 then some n else none

def ipv4Pieces? (part : List Char) : Option (List Nat) := do
  match ← (splitAt '.' part).mapM byte? with
  | [a, b, c, d] => some [a * 256 + b, c * 256 + d]
  | _ => none

/-- The pieces of parts; the last part may be an address of version 4. -/
def pieces? : List (List Char) → Option (List Nat)
  | [] => some []
  | [part] => if part.contains '.' then ipv4Pieces? part else (piece? part).map ([·])
  | part :: rest => do
    let n ← piece? part
    let ns ← pieces? rest
    some (n :: ns)

def splitDouble : List Char → Option (List Char × List Char)
  | ':' :: ':' :: rest => some ([], rest)
  | c :: rest => (splitDouble rest).map fun (before, behind) => (c :: before, behind)
  | [] => none

def partsOf (cs : List Char) : List (List Char) := if cs.isEmpty then [] else splitAt ':' cs

/-- An address of version 6: eight pieces, or fewer with a double colon for the zeros between. -/
def ipv6? (cs : List Char) : Option (List Nat) :=
  match splitDouble cs with
  | none => do
    let ns ← pieces? (partsOf cs)
    if ns.length = 8 then some ns else none
  | some (before, behind) => do
    let front ← (partsOf before).mapM piece?
    let back ← pieces? (partsOf behind)
    if front.length + back.length ≤ 7 then
      some (front ++ List.replicate (8 - front.length - back.length) 0 ++ back)
    else none

def ofBracket (rest : List Char) : Except Error Host :=
  match rest.getLast? with
  | some ']' =>
    match ipv6? rest.dropLast with
    | some pieces => .ok (.ipv6 pieces)
    | none => .error .invalidIpv6
  | _ => .error .invalidIpv6

def ofSpecial (cs : List Char) : Except Error Host :=
  match cs with
  | '[' :: rest => ofBracket rest
  | _ =>
    match (Percent.decodeText? (String.ofList cs)).bind Domain.ofText? with
    | none => .error .invalidDomain
    | some "" => .error .emptyHost
    | some name =>
      if endsInNumber name.toList then
        match ipv4? name.toList with
        | some a => .ok (.ipv4 a)
        | none => .error .invalidIpv4
      else .ok (.domain name)

def isInvalid (c : Char) : Bool :=
  c.toNat = 0 ||
    ['\t', '\n', '\r', ' ', '#', '/', ':', '<', '>', '?', '@', '[', '\\', ']', '^', '|'].contains c

/-- The host of an address that is no web address; it may be empty. -/
def ofOther (cs : List Char) : Except Error Host :=
  match cs with
  | '[' :: rest => ofBracket rest
  | _ =>
    if cs.any isInvalid then .error .invalidHostCharacter
    else .ok (.domain (String.ofList (Percent.encode Percent.control cs)))

end Host
end Url
end SdkShelf
