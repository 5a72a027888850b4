import SdkShelf.Http.Client
import SdkShelf.Url.Join

/-!
Sending requests. An answer that refers to another address is followed there, a few times at most.
-/

namespace SdkShelf
namespace Http
namespace Client

def redirectLimit : Nat := 10

def contentHeaders : List String :=
  ["transfer-encoding", "content-encoding", "content-type", "content-length"]

/-- Headers that another host is not told. -/
def secretHeaders : List String :=
  ["authorization", "cookie", "cookie2", "proxy-authorization", "www-authenticate"]

/-- Without a host, an address is taken for one as long as it looks like a name and the number of a
socket. -/
def looksLikeHost (cs : List Char) : Bool :=
  let (_, behind) := Url.Parser.splitLast '@' cs
  cs.all (fun c => c.isAlphanum || "-._~!$&'()*+,;=:@".toList.contains c) &&
    !behind.isEmpty && (behind.filter (· = ':')).length ≤ 1

/-- The address is one that messages can name, even if none is sent there. -/
def isUri (u : Url) : Bool :=
  match u.authority with
  | some a => (a.host.any fun host => host.text.toList.all (· ≠ '%')) && isTarget u
  | none => u.text.utf8ByteSize ≤ targetLimit && looksLikeHost u.text.toList

/-- Where an answer to a message for `u` refers to. What is no address counts as nothing. -/
def referral? (u : Url) (a : Answer) : Option Url :=
  if Status.asksToLook a.status || Status.asksToRepeat a.status then do
    let text ← a.location
    let v ← (u.join text).toOption
    if isUri v then some v else none
  else none

def socketOf (u : Url) : Option Nat :=
  (u.authority.bind (·.socket)).or (Url.Parser.defaultSocket? u.scheme)

def isSameServer (u v : Url) : Bool :=
  u.authority.bind (·.host) = v.authority.bind (·.host) && socketOf u = socketOf v

/-- The message for `v`, where the answer to a message for `u` referred to. It tells where it comes
from, unless that is a secret. -/
def onward (m : Message) (u v : Url) (status : UInt16) : Message :=
  let looks := Status.asksToLook status
  let headers := if looks then contentHeaders.foldl Dictionary.erase m.headers else m.headers
  let headers :=
    if u.scheme = "https" ∧ v.scheme = "http" then headers
    else headers.insert "referer" u.withoutUser.textWithoutFragment
  { method := if looks ∧ m.method ≠ .head then .get else m.method
    url := v.withoutUser.textWithoutFragment
    headers :=
      if isSameServer u v then headers else secretHeaders.foldl Dictionary.erase headers
    body := if looks then "" else m.body }

/-- Sends a message for `u`, and follows the answer as often as `limit` allows. -/
def follow (limit : Nat) (u : Url) (m : Message) (n : Network) : Except Error Answer × Network :=
  match n.send m with
  | (.error cause, n) => (.error (.link u.text cause), n)
  | (.ok a, n) =>
    match referral? u a with
    | none => (.ok a, n)
    | some v =>
      match limit with
      | 0 => (.error (.redirects u.text), n)
      | limit + 1 =>
        if v.isWeb then follow limit v (onward m u v a.status) n else (.error (.scheme v.text), n)

def send (c : Client) (d : Draft) (n : Network) : Except Error Answer × Network :=
  match c.build d with
  | .error e => (.error e, n)
  | .ok (m, u) => follow redirectLimit u m n

end Client
end Http
end SdkShelf
