import SdkShelf.Json.Schema

/-!
The methods of HTTP requests.
-/

namespace SdkShelf
namespace Http

inductive Method where
  | get
  | post
  | put
  | patch
  | delete
  | options
  | head
  deriving DecidableEq, Repr, Inhabited

namespace Method

def name : Method → String
  | get => "GET"
  | post => "POST"
  | put => "PUT"
  | patch => "PATCH"
  | delete => "DELETE"
  | options => "OPTIONS"
  | head => "HEAD"

def all : List Method := [get, post, put, patch, delete, options, head]

def schema : Json.Schema Method := .choice (all.map fun m => (m.name, m)) name

end Method

end Http
end SdkShelf
