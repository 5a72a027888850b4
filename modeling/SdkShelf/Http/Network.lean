import SdkShelf.Http.Method
import SdkShelf.Http.Status
import SdkShelf.Text.Utf8

/-!
The network as a function: it has the answers to the next requests, and keeps a record of the
requests that were sent.
-/

namespace SdkShelf
namespace Http

/-- A request as it is sent. Header names are in lower case, and the values of headers of one name
are joined. -/
structure Message where
  method : Method
  url : String
  headers : Dictionary String
  body : String
  deriving DecidableEq

/-- What comes back for a request: a status, perhaps another address, and a body unless that breaks
off. -/
structure Answer where
  status : UInt16
  location : Option String
  body : Option (List UInt8)
  deriving DecidableEq, Repr

/-- Some answers never have a body. -/
def Answer.received (a : Answer) (method : Method) : Answer :=
  if method = .head ∨ Status.isBodiless a.status then { a with body := some [] } else a

/-- What the other side does with a request: it answers, or closes the connection. -/
inductive Reply where
  | answer (a : Answer)
  | drop
  deriving DecidableEq, Repr

namespace Reply

/-- A whole answer that does not refer to another address. -/
def plain (status : UInt16) (body : List UInt8) : Reply := .answer ⟨status, none, some body⟩

def default : Reply := .plain 200 (Text.bytes "\x7b\x7d")

end Reply

inductive LinkFailure where
  | unreachable
  | dropped
  deriving DecidableEq, Repr

/-- A network that can be reached or not, the answers to the next requests, and the requests that
were sent, the first one first. -/
structure Network where
  reachable : Bool
  replies : List Reply
  sent : List Message

namespace Network

def ofReplies (reachable : Bool) (replies : List Reply) : Network := ⟨reachable, replies, []⟩

def send (n : Network) (m : Message) : Except LinkFailure Answer × Network :=
  if !n.reachable then (.error .unreachable, n)
  else
    let next := { n with replies := n.replies.tail, sent := n.sent ++ [m] }
    match n.replies.headD Reply.default with
    | .drop => (.error .dropped, next)
    | .answer a => (.ok (a.received m.method), next)

end Network

end Http
end SdkShelf
