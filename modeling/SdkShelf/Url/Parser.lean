import SdkShelf.Url.Host

/-!
Reading addresses. Blanks and control characters around the text, and tabs and line breaks inside
it, do not count.
-/

namespace SdkShelf
namespace Url
namespace Parser

def clean (cs : List Char) : List Char :=
  let ignored (c : Char) : Bool := c.toNat ≤ 32
  let inner := (((cs.dropWhile ignored).reverse).dropWhile ignored).reverse
  inner.filter fun c => c ≠ '\t' ∧ c ≠ '\n' ∧ c ≠ '\r'

/-- The usual socket number of a scheme whose addresses have the structure of web addresses. -/
def defaultSocket? (scheme : String) : Option Nat :=
  if scheme = "http" ∨ scheme = "ws" then some 80
  else if scheme = "https" ∨ scheme = "wss" then some 443
  else if scheme = "ftp" then some 21
  else none

inductive Kind where
  | web
  | file
  | other
  deriving DecidableEq, Repr

def Kind.of (scheme : String) : Kind :=
  if scheme = "file" then .file else if (defaultSocket? scheme).isSome then .web else .other

/-- A backslash counts as a slash, except in other addresses. -/
def isSlash (kind : Kind) (c : Char) : Bool := c = '/' || (c = '\\' && kind ≠ .other)

def endsAuthority (kind : Kind) (c : Char) : Bool := isSlash kind c || c = '?' || c = '#'

def splitScheme (cs : List Char) : Option (String × List Char) :=
  let name := cs.takeWhile fun c => c.isAlphanum || c = '+' || c = '-' || c = '.'
  match cs.head?, cs.drop name.length with
  | some first, ':' :: rest =>
    if first.isAlpha then some (String.ofList (name.map Char.toLower), rest) else none
  | _, _ => none

def splitLast (sep : Char) (cs : List Char) : Option (List Char) × List Char :=
  if cs.contains sep then
    let behind := (cs.reverse.takeWhile (· ≠ sep)).reverse
    (some (cs.take (cs.length - behind.length - 1)), behind)
  else (none, cs)

/-- Name and password; an empty password counts as none. -/
def userOf (cs : List Char) : String × Option String :=
  let name := cs.takeWhile (· ≠ ':')
  let password := (cs.drop name.length).drop 1
  let encode (cs : List Char) : String := String.ofList (Percent.encode Percent.userinfo cs)
  (encode name, if password.isEmpty then none else some (encode password))

/-- The characters of a host up to the colon behind it; colons in brackets belong to the host. -/
def hostLength (bracket : Bool) : List Char → Nat
  | [] => 0
  | c :: rest =>
    if c = ':' ∧ !bracket then 0
    else if c = '[' then hostLength true rest + 1
    else if c = ']' then hostLength false rest + 1
    else hostLength bracket rest + 1

/-- Reads the digits of a socket number, up to a slash, either of them. The rest is part of the
path. -/
def readSocket (acc : Nat) (seen : Bool) : List Char → Except Error (Option Nat × List Char)
  | [] => .ok (if seen then some acc else none, [])
  | c :: rest =>
    if c.isDigit then
      let acc := acc * 10 + (c.toNat - '0'.toNat)
      if 65535 < acc then .error .invalidSocket else readSocket acc true rest
    else if c = '/' ∨ c = '\\' ∨ c = '?' ∨ c = '#' then
      .ok (if seen then some acc else none, c :: rest)
    else .error .invalidSocket

def authority (scheme : String) (kind : Kind) (cs : List Char) :
    Except Error (Authority × List Char) := do
  let part := cs.takeWhile fun c => !endsAuthority kind c
  let rest := cs.drop part.length
  let (user, hostPart) := splitLast '@' part
  if user = some [] ∧ hostPart = [] ∧ rest ≠ [] then .error .emptyHost
  else
    let (username, password) := userOf (user.getD [])
    let hostText := hostPart.take (hostLength false hostPart)
    let socketPart := hostPart.drop hostText.length
    if kind = .web ∧ hostText = [] then .error .emptyHost
    else
      let host ← if kind = .other then Host.ofOther hostText else Host.ofSpecial hostText
      let host? := if host = .domain "" then none else some host
      if host?.isNone ∧ socketPart ≠ [] then .error .emptyHost
      else
        let (socket, rest) ← match socketPart with
          | [] => pure (none, rest)
          | _ :: digits => readSocket 0 false (digits ++ rest)
        let socket := if socket = defaultSocket? scheme then none else socket
        if host?.isNone ∧ (username ≠ "" ∨ password ≠ none) then .error .emptyHost
        else .ok (⟨username, password, host?, socket⟩, rest)

def splitSlashes (kind : Kind) : List Char → List (List Char)
  | [] => [[]]
  | c :: rest =>
    if isSlash kind c then [] :: splitSlashes kind rest
    else
      match splitSlashes kind rest with
      | [] => [[c]]
      | first :: more => (c :: first) :: more

def isSingleDot (segment : String) : Bool := [".", "%2e"].contains segment.toLower

def isDoubleDot (segment : String) : Bool :=
  ["..", ".%2e", "%2e.", "%2e%2e"].contains segment.toLower

def isDrive (segment : String) : Bool :=
  match segment.toList with
  | [c, d] => c.isAlpha && (d = ':' || d = '|')
  | _ => false

def driveText (segment : String) : String := String.ofList (segment.toList.take 1 ++ [':'])

/-- A path, its last segment first, without that segment; a drive stays. -/
def shorten : List String → List String
  | [] => []
  | segment :: path => if isDrive segment then segment :: path else path

/-- Follows the segments one after the other, from a path that is given with its last segment first.
A dot segment at the end leaves an empty name. A drive that begins a file's path is written with a
colon. -/
def follow (kind : Kind) : List String → List String → List String
  | path, [] => path.reverse
  | path, segment :: rest =>
    if isDoubleDot segment then
      let path := shorten path
      follow kind (if rest.isEmpty then "" :: path else path) rest
    else if isSingleDot segment then
      follow kind (if rest.isEmpty then "" :: path else path) rest
    else if kind = .file ∧ path = [] ∧ isDrive segment then follow kind [driveText segment] rest
    else follow kind (segment :: path) rest

def segments (kind : Kind) (cs : List Char) : List String :=
  follow kind [] ((splitSlashes kind cs).map fun s => String.ofList (Percent.encode Percent.path s))

/-- The path behind the host. Only other addresses may have none. -/
def pathOf (kind : Kind) (cs : List Char) : List String :=
  match cs with
  | [] => if kind = .other then [] else [""]
  | c :: rest => if isSlash kind c then segments kind rest else segments kind (c :: rest)

def splitFirst (sep : Char) (cs : List Char) : List Char × Option (List Char) :=
  let before := cs.takeWhile (· ≠ sep)
  match cs.drop before.length with
  | [] => (before, none)
  | _ :: behind => (before, some behind)

def splitTail (kind : Kind) (cs : List Char) : List Char × Option String × Option String :=
  let (front, fragment) := splitFirst '#' cs
  let (front, query) := splitFirst '?' front
  let special := if kind = .other then Percent.query else Percent.specialQuery
  (front, query.map fun q => String.ofList (Percent.encode special q),
    fragment.map fun f => String.ofList (Percent.encode Percent.fragment f))

/-- The path of a file has no empty names in front. -/
def filePath (names : List String) : Path :=
  let kept := names.dropWhile (· = "")
  .segments (if kept.isEmpty then [""] else kept)

/-- An address of a file, behind its colon. Two slashes may be followed by a host, of which the
local one is not written, nor is one before a drive. The slash behind a host belongs to neither;
where no host is, it ends an empty name. -/
def fileUrl (cs : List Char) : Except Error Url := do
  let (front, query, fragment) := splitTail .file cs
  let url (host : Option Host) (names : List String) : Url :=
    ⟨"file", some ⟨"", none, host, none⟩, filePath names, query, fragment⟩
  match front with
  | c :: d :: rest =>
    if isSlash .file c ∧ isSlash .file d then
      let hostText := rest.takeWhile fun c => !isSlash .file c
      if hostText = [] ∨ isDrive (String.ofList hostText) then .ok (url none (segments .file rest))
      else
        let host ← Host.ofSpecial hostText
        let behind := rest.drop hostText.length
        if host = .domain "localhost" then .ok (url none (segments .file behind))
        else
          let names := pathOf .file behind
          .ok (url (if names.head?.any isDrive then none else some host) names)
    else .ok (url none (pathOf .file front))
  | _ => .ok (url none (pathOf .file front))

def ofScheme (scheme : String) (cs : List Char) : Except Error Url :=
  match Kind.of scheme with
  | .file => fileUrl cs
  | .web => do
    let (a, rest) ← authority scheme .web (cs.dropWhile (isSlash .web))
    let (front, query, fragment) := splitTail .web rest
    .ok ⟨scheme, some a, .segments (pathOf .web front), query, fragment⟩
  | .other =>
    match cs with
    | '/' :: '/' :: cs => do
      let (a, rest) ← authority scheme .other cs
      let (front, query, fragment) := splitTail .other rest
      .ok ⟨scheme, some a, .segments (pathOf .other front), query, fragment⟩
    | '/' :: cs =>
      let (front, query, fragment) := splitTail .other cs
      .ok ⟨scheme, none, .segments (segments .other front), query, fragment⟩
    | cs =>
      let (front, query, fragment) := splitTail .other cs
      let text := String.ofList (Percent.encode Percent.control front)
      .ok ⟨scheme, none, .opaqueText text, query, fragment⟩

end Parser

def parse (text : String) : Except Error Url :=
  match Parser.splitScheme (Parser.clean text.toList) with
  | none => .error .relativeWithoutBase
  | some (scheme, rest) => Parser.ofScheme scheme rest

end Url
end SdkShelf
