import SdkShelf.Http.Network
import SdkShelf.Json.Printer
import SdkShelf.Text.Base64
import SdkShelf.Text.Chain
import SdkShelf.Url.Form
import SdkShelf.Url.Parser

/-!
A client builds requests. Most of what can be wrong with one is noticed before anything is sent.
-/

namespace SdkShelf
namespace Http

inductive Error where
  | address (cause : Url.Error)
  | scheme (url : String)
  | headerName
  | headerValue
  | target (url : String)
  | link (url : String) (cause : LinkFailure)
  | redirects (url : String)
  | body
  deriving DecidableEq, Repr

namespace Error

def chain : Error → List String
  | address cause => ["builder error", cause.message]
  | scheme url => ["builder error for url (" ++ url ++ ")", "URL scheme is not allowed"]
  | headerName => ["builder error", "invalid HTTP header name"]
  | headerValue => ["builder error", "failed to parse header value"]
  | target url => ["builder error for url (" ++ url ++ ")", "Parsed Url is not a valid Uri"]
  | link url cause =>
    ("error sending request for url (" ++ url ++ ")") ::
      match cause with
      | .unreachable => ["client error (Connect)", "tcp connect error",
        "Network is unreachable (os error 101)"]
      | .dropped => ["client error (SendRequest)",
        "connection closed before message completed"]
  | redirects url =>
    ["error following redirect for url (" ++ url ++ ")", "too many redirects"]
  | body =>
    ["error decoding response body", "error reading a body from connection",
      "end of file before message length reached"]

end Error

structure Response where
  status : UInt16
  text : String
  deriving DecidableEq, Repr

/-- Bytes that are no text are replaced. -/
def Answer.read (a : Answer) : Except Error Response :=
  match a.body with
  | none => .error .body
  | some bytes => .ok ⟨a.status, Text.Utf8.decodeLossy bytes⟩

/-- A request that is still to be built: an address as it was given, pairs to add to its query
unless that stays as it is, headers in the order in which they are added, and a body. -/
structure Draft where
  method : Method
  address : String
  query : Option (List (String × String))
  headers : List (String × String)
  json : Option Json

structure Client where
  userAgent : Option String
  deriving DecidableEq, Repr

namespace Client

def headerNameLimit : Nat := 65535

/-- The longest address that can be sent to, in bytes. -/
def targetLimit : Nat := 65534

def isNameChar (c : Char) : Bool :=
  c.isAlphanum ||
    ['!', '#', '$', '%', '&', '\'', '*', '+', '-', '.', '^', '_', '\x60', '|', '~'].contains c

def isHeaderName (name : String) : Bool :=
  !name.isEmpty && name.toList.all isNameChar && name.utf8ByteSize ≤ headerNameLimit

/-- Control characters other than the tab do not occur in values. -/
def isHeaderValue (value : String) : Bool :=
  value.toList.all fun c => c = '\t' || (32 ≤ c.toNat && c.toNat ≠ 127)

/-- Fails at the first header that is none, a name being looked at before its value. -/
def checkHeaders : List (String × String) → Except Error Unit
  | [] => .ok ()
  | (name, value) :: rest =>
    if !isHeaderName name then .error .headerName
    else if !isHeaderValue value then .error .headerValue
    else checkHeaders rest

/-- Name and password of an address, unless they are no text once decoded. -/
def credentials? (u : Url) : Option (String × Option String) := do
  let a ← u.authority
  let name ← Url.Percent.decodeText? a.username
  let password := a.password.bind Url.Percent.decodeText?
  if name.isEmpty && password.isNone then none else some (name, password)

def authorization (name : String) (password : Option String) : String × String :=
  ("authorization",
    "Basic " ++ Text.Base64.encode (Text.bytes (name ++ ":" ++ password.getD "")))

/-- Blanks and tabs around a value do not count. -/
def trimValue (value : String) : String :=
  let isPad (c : Char) : Bool := c = ' ' || c = '\t'
  String.ofList (((value.toList.dropWhile isPad).reverse.dropWhile isPad).reverse)

def addHeader (headers : Dictionary String) (header : String × String) : Dictionary String :=
  let name := header.1.toLower
  let value := trimValue header.2
  headers.insert name <|
    match headers.get? name with
    | none => value
    | some before => before ++ ", " ++ value

def addDefault (headers : Dictionary String) (header : String × String) : Dictionary String :=
  if (headers.get? header.1).isSome then headers else addHeader headers header

/-- All headers of a request. Those that only concern the connection are not recorded. -/
def headersOf (c : Client) (u : Url) (d : Draft) : Dictionary String :=
  let given := (credentials? u).toList.map (fun (name, password) => authorization name password) ++
    d.headers
  let defaults :=
    (if d.json.isSome then [("content-type", "application/json")] else []) ++
    (c.userAgent.toList.map fun agent => ("user-agent", agent)) ++
    [("accept", "*/*")]
  ((defaults.foldl addDefault (given.foldl addHeader Dictionary.empty)).erase "host").erase
    "content-length"

/-- The address can be sent to: it is short enough, and its host has none of a few characters. -/
def isTarget (u : Url) : Bool :=
  u.text.utf8ByteSize ≤ targetLimit &&
    match u.authority.bind (·.host) with
    | some (.domain name) =>
      name.toList.all fun c => c ∉ ['"', '\x60', '\x7b', '\x7d']
    | _ => true

/-- The address of a draft, with its query, and without name and password. -/
def addressOf (d : Draft) : Except Error Url := do
  let u ← (Url.parse d.address).mapError .address
  if !u.hasHost then .error (.scheme u.text)
  else
    let u := if (credentials? u).isSome then u.withoutUser else u
    .ok (match d.query with
      | some pairs => u.withPairs pairs
      | none => u)

def build (c : Client) (d : Draft) : Except Error (Message × Url) := do
  let u ← addressOf d
  checkHeaders d.headers
  if !u.isWeb then .error (.scheme u.text)
  else if !isTarget u then .error (.target u.text)
  else
    let given ← (Url.parse d.address).mapError .address
    .ok (⟨d.method, u.textWithoutFragment, c.headersOf given d, (d.json.map Json.compact).getD ""⟩,
      u)

end Client

end Http
end SdkShelf
