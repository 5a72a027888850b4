import SdkShelf.Text.Quoted

/-!
Addresses on the web, taken apart, and how they are written.
-/

namespace SdkShelf

/-- The host of an address. The parts of an address of version 4 are the bytes of `address`; one of
version 6 has eight pieces of 16 bits. -/
inductive Url.Host where
  | domain (name : String)
  | ipv4 (address : Nat)
  | ipv6 (pieces : List Nat)
  deriving DecidableEq, Repr

/-- Who is asked for at which host, and the number of the socket there. A password is never
empty. -/
structure Url.Authority where
  username : String
  password : Option String
  host : Option Url.Host
  socket : Option Nat
  deriving DecidableEq, Repr

inductive Url.Path where
  | segments (names : List String)
  | opaqueText (text : String)
  deriving DecidableEq, Repr

/-- An address, its parts percent encoded where they have to be. -/
structure Url where
  scheme : String
  authority : Option Url.Authority
  path : Url.Path
  query : Option String
  fragment : Option String
  deriving DecidableEq, Repr

namespace Url

inductive Error where
  | relativeWithoutBase
  | emptyHost
  | invalidDomain
  | invalidSocket
  | invalidIpv4
  | invalidIpv6
  | invalidHostCharacter
  deriving DecidableEq, Repr

def Error.message : Error → String
  | relativeWithoutBase => "relative URL without a base"
  | emptyHost => "empty host"
  | invalidDomain => "invalid international domain name"
  | invalidSocket => "invalid port number"
  | invalidIpv4 => "invalid IPv4 address"
  | invalidIpv6 => "invalid IPv6 address"
  | invalidHostCharacter => "invalid domain character"

namespace Host

/-- Where the longest run of at least two zeros begins, the first of equal ones, and how long it
is. -/
def longestZeros (pieces : List Nat) : Nat × Nat :=
  let runs := (List.range pieces.length).map fun i =>
    (i, ((pieces.drop i).takeWhile (· = 0)).length)
  let best := runs.foldl (fun best run => if best.2 < run.2 then run else best) (0, 0)
  if 2 ≤ best.2 then best else (pieces.length, 0)

def hexPieces (pieces : List Nat) : String :=
  ":".intercalate (pieces.map fun n => String.ofList (Text.hexDigits n))

def ipv6Text (pieces : List Nat) : String :=
  let (start, count) := longestZeros pieces
  if count = 0 then hexPieces pieces
  else hexPieces (pieces.take start) ++ "::" ++ hexPieces (pieces.drop (start + count))

def text : Host → String
  | domain name => name
  | ipv4 a =>
    ".".intercalate ([a / 16777216 % 256, a / 65536 % 256, a / 256 % 256, a % 256].map toString)
  | ipv6 pieces => "[" ++ ipv6Text pieces ++ "]"

end Host

namespace Authority

def userinfoText (a : Authority) : String :=
  match a.password with
  | some password => a.username ++ ":" ++ password ++ "@"
  | none => if a.username.isEmpty then "" else a.username ++ "@"

def text (a : Authority) : String :=
  a.userinfoText ++ ((a.host.map Host.text).getD "") ++
    match a.socket with
    | some socket => ":" ++ toString socket
    | none => ""

end Authority

namespace Path

def text : Path → String
  | segments names => String.join (names.map fun name => "/" ++ name)
  | opaqueText text => text

end Path

/-- The address without its fragment. A path with an empty first name would look like a host; a dot
in front keeps it apart. -/
def textWithoutFragment (u : Url) : String :=
  let front := match u.authority, u.path with
    | some a, _ => "//" ++ a.text
    | none, .segments ("" :: _ :: _) => "/."
    | none, _ => ""
  u.scheme ++ ":" ++ front ++ u.path.text ++
    match u.query with
    | some query => "?" ++ query
    | none => ""

def text (u : Url) : String :=
  u.textWithoutFragment ++
    match u.fragment with
    | some fragment => "#" ++ fragment
    | none => ""

def hasHost (u : Url) : Bool := (u.authority.bind (·.host)).isSome

def isWeb (u : Url) : Bool := u.scheme = "http" || u.scheme = "https"

def withoutUser (u : Url) : Url :=
  { u with authority := u.authority.map fun a => { a with username := "", password := none } }

end Url

end SdkShelf
