import SdkShelf.Text.Utf8

/-!
Percent encoding: characters that must not stand for themselves are written as the bytes of their
UTF-8 form, each as a percent sign and two digits of base sixteen.
-/

namespace SdkShelf
namespace Url
namespace Percent

def digit (n : Nat) : Char :=
  if n < 10 then Char.ofNat ('0'.toNat + n) else Char.ofNat ('A'.toNat + (n - 10))

def encodeByte (b : UInt8) : List Char :=
  ['%', digit (b.toNat / 16), digit (b.toNat % 16)]

def bytesOf (c : Char) : List UInt8 := Text.bytes c.toString

def encodeChar (c : Char) : List Char := (bytesOf c).flatMap encodeByte

/-- Encodes the characters that satisfy `special`, and those beyond ASCII. -/
def encode (special : Char → Bool) (cs : List Char) : List Char :=
  cs.flatMap fun c => if c.toNat < 128 ∧ !special c then [c] else encodeChar c

def digitValue? (c : Char) : Option Nat :=
  if c.isDigit then some (c.toNat - '0'.toNat)
  else if 'a' ≤ c ∧ c ≤ 'f' then some (c.toNat - 'a'.toNat + 10)
  else if 'A' ≤ c ∧ c ≤ 'F' then some (c.toNat - 'A'.toNat + 10)
  else none

def byte? (high low : Char) : Option UInt8 :=
  match digitValue? high, digitValue? low with
  | some h, some l => some (UInt8.ofNat (h * 16 + l))
  | _, _ => none

/-- The bytes of an encoded text. A percent sign without two digits stands for itself. -/
def decode : List Char → List UInt8
  | [] => []
  | [c] => bytesOf c
  | [c, d] => bytesOf c ++ bytesOf d
  | c :: high :: low :: rest =>
    if c = '%' then
      match byte? high low with
      | some b => b :: decode rest
      | none => bytesOf c ++ decode (high :: low :: rest)
    else bytesOf c ++ decode (high :: low :: rest)

def decodeText? (s : String) : Option String :=
  String.fromUTF8? ⟨(decode s.toList).toArray⟩

def control (c : Char) : Bool := c.toNat < 32 || c.toNat = 127

/-- What is encoded in a query of an address that is not a web address. -/
def query (c : Char) : Bool := control c || [' ', '"', '#', '<', '>'].contains c

def specialQuery (c : Char) : Bool := query c || c = '\''

def fragment (c : Char) : Bool := control c || [' ', '"', '<', '>', '\x60'].contains c

def path (c : Char) : Bool := fragment c || ['#', '?', '\x7b', '\x7d'].contains c

def userinfo (c : Char) : Bool :=
  path c || ['/', ':', ';', '=', '@', '[', '\\', ']', '^', '|'].contains c

end Percent
end Url
end SdkShelf
