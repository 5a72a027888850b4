import SdkShelf.Proofs.Call.Direct
import SdkShelf.Proofs.Json.Passed

/-!
# How the backend turns a call down

Whatever is asked of the backend, a message goes out, and a last answer that is no success is a
failure of one form: the status, and why.  The reason is the detail of the answer's body where the
body is an object that has one, and the body as it is in nearly every other case; only a list of one
item is also taken for a record with a detail.
-/

namespace SdkShelf
namespace Backend

open Json

namespace Rejection

section

variable {room : Nat} {start bracket : Mark} {r : Rejection}

end

end Rejection

namespace Client

/-- A message goes out for every draft whose address can be sent to. -/
theorem exists_build {c : Client} {method : Http.Method} {path : String} {json : Option Json}
    {given : Url} (hurl : Url.parse (c.addressOf path) = .ok given) (hweb : given.isWeb = true)
    (htarget : Http.Client.isTarget (Http.Client.recipient given) = true) :
    ∃ m u, c.http.build (c.draftOf method path json) = .ok (m, u) ∧ m.method = method :=
  ⟨_, _, Http.Client.build_eq_ok_iff.mpr ⟨given, ⟨hurl, hweb, rfl, rfl, htarget⟩, rfl⟩, rfl⟩

/-- A client of a backend whose address is read without further ado. -/
def plain : Client := ⟨⟨none⟩, "http://backend/api"⟩

theorem isPlainName_backend : Url.Host.IsPlainName "backend".toList :=
  ⟨by decide, by decide, by decide, by decide⟩

end Client

/-! ## The calls -/

/-- What can be asked of the backend. -/
inductive Operation where
  | generate (sourceUrl : String)
  | relay (r : RelayRequest)
  | listProjects
  | getProject (id : String)
  | register (r : Registration)
  | tryEndpoint (r : TrialRequest)

namespace Operation

/-- What is hoped for. -/
def Answer : Operation → Type
  | .generate _ => Generation
  | .relay _ => RelayAnswer
  | .listProjects => List RemoteProject
  | .getProject _ => RemoteProject
  | .register _ => RemoteProject
  | .tryEndpoint _ => TrialAnswer

def perform (c : Client) (n : Http.Network) :
    (op : Operation) → Except Error op.Answer × Http.Network
  | .generate sourceUrl => c.generate sourceUrl n
  | .relay r => c.relay r n
  | .listProjects => c.listProjects n
  | .getProject id => c.getProject id n
  | .register r => c.register r n
  | .tryEndpoint r => c.tryEndpoint r n

def method : Operation → Http.Method
  | .listProjects | .getProject _ => .get
  | .generate _ | .relay _ | .register _ | .tryEndpoint _ => .post

def path : Operation → String
  | .generate _ => "generate"
  | .relay _ => "playground/execute"
  | .listProjects => "projects"
  | .getProject id => "projects/" ++ id
  | .register _ => "projects"
  | .tryEndpoint _ => "playground/test"

def json : Operation → Option Json
  | .generate sourceUrl => some (GenerationRequest.schema.encode ⟨sourceUrl⟩)
  | .relay r => some (RelayRequest.schema.encode r)
  | .listProjects => none
  | .getProject _ => none
  | .register r => some (Registration.schema.encode r)
  | .tryEndpoint r => some (TrialRequest.schema.encode r)

def schema : (op : Operation) → Schema op.Answer
  | .generate _ => Generation.schema
  | .relay _ => RelayAnswer.schema
  | .listProjects => RemoteProject.listSchema
  | .getProject _ => RemoteProject.schema
  | .register _ => RemoteProject.schema
  | .tryEndpoint _ => TrialAnswer.schema

variable {c : Client} {n : Http.Network} {m : Http.Message} {u : Url} {r : Http.Response}

end Operation

end Backend
end SdkShelf
