import SdkShelf.Backend.Client
import SdkShelf.Call.Outcome
import SdkShelf.Call.Request

/-!
Ways to send prepared requests: straight to the API, or through the backend.
-/

namespace SdkShelf
namespace Call

/-- A way to send requests, through something with states of type `σ`. A failure is told from the
outermost circumstance to the cause. -/
structure Transport (σ : Type) where
  send : Request → σ → Except (List String) Http.Response × σ

namespace Transport

def draftOf (r : Request) : Http.Draft :=
  ⟨r.method, r.url, some r.query.entries, r.headers.entries, r.jsonBody⟩

def direct (client : Http.Client) : Transport Http.Network where
  send r n :=
    let (result, n) := client.send (draftOf r) n
    (do
      let a ← result.mapError fun e => (r.method.name ++ " " ++ r.url) :: e.chain
      a.read.mapError fun e => "read response body" :: e.chain, n)

def relayOf (r : Request) : Backend.RelayRequest where
  baseUrl := r.baseUrl
  path := r.path
  method := r.method
  params := if r.query.isEmpty then none else some r.query
  headers := if r.headers.isEmpty then none else some r.headers
  jsonBody := r.jsonBody

/-- The answer that the backend brought back; a text stands for itself. -/
def responseOf (a : Backend.RelayAnswer) : Http.Response where
  status := a.statusCode
  text := match a.response with
    | .string text => text
    | v => v.compact

def relayed (backend : Backend.Client) : Transport Http.Network where
  send r n :=
    let (result, n) := backend.relay (relayOf r) n
    ((result.map responseOf).mapError Backend.Error.chain, n)

end Transport

/-- Prepares a request and sends it, once. A request that cannot be prepared is not sent. -/
def execute {σ : Type} (t : Transport σ) (baseUrl : String) (e : Api.Endpoint)
    (values : Dictionary String) (body : Option String) (state : σ) : Outcome × σ :=
  match Request.prepare baseUrl e values body with
  | .error cause => (.failure cause.message, state)
  | .ok r =>
    let (result, state) := t.send r state
    (match result with
      | .ok response => .success response.status response.text
      | .error causes => .failure (Text.chainText causes), state)

end Call
end SdkShelf
