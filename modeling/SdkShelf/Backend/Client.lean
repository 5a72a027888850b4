import SdkShelf.Backend.Message
import SdkShelf.Http.Redirect
import SdkShelf.Json.Decode
import SdkShelf.Text.Blank

/-!
The generation backend's calls. Every answer is read in the same way.
-/

namespace SdkShelf
namespace Backend

inductive Error where
  | request (method : Http.Method) (address : String) (cause : Http.Error)
  | body (cause : Http.Error)
  | rejected (status : UInt16) (message : String)
  | unreadable (address : String) (cause : Json.DecodeError)

/-- The failure, the circumstances first. -/
def Error.chain : Error → List String
  | request method address cause => (method.name ++ " " ++ address) :: cause.chain
  | body cause => "read backend response body" :: cause.chain
  | rejected status message =>
    ["backend error (" ++ Http.Status.text status ++ "): " ++ message]
  | unreadable address cause => ["parse response from " ++ address, cause.message]

structure Client where
  http : Http.Client
  apiUrl : String
  deriving DecidableEq, Repr

namespace Client

def defaultUrl : String := "http://localhost:8000/api/v1"

def addressOf (c : Client) (path : String) : String :=
  String.ofList (Text.dropEndWhile (· = '/') c.apiUrl.toList) ++ "/" ++ path

/-- Why the backend turned a request down: the detail of its answer, or the whole answer. -/
def rejectionOf (text : String) : String :=
  match Rejection.schema.ofText text with
  | .ok r => r.message
  | .error _ => text

def read {α : Type} (schema : Json.Schema α) (address : String) (r : Http.Response) :
    Except Error α :=
  if Http.Status.isSuccess r.status then (schema.ofText r.text).mapError (.unreadable address)
  else .error (.rejected r.status (rejectionOf r.text))

def call {α : Type} (c : Client) (method : Http.Method) (path : String) (json : Option Json)
    (schema : Json.Schema α) (n : Http.Network) : Except Error α × Http.Network :=
  let address := c.addressOf path
  let (result, n) := c.http.send ⟨method, address, none, [], json⟩ n
  (do
    let a ← result.mapError (.request method address)
    let r ← a.read.mapError .body
    read schema address r, n)

def generate (c : Client) (sourceUrl : String) :
    Http.Network → Except Error Generation × Http.Network :=
  c.call .post "generate" (some (GenerationRequest.schema.encode ⟨sourceUrl⟩)) Generation.schema

def relay (c : Client) (r : RelayRequest) :
    Http.Network → Except Error RelayAnswer × Http.Network :=
  c.call .post "playground/execute" (some (RelayRequest.schema.encode r)) RelayAnswer.schema

def listProjects (c : Client) :
    Http.Network → Except Error (List RemoteProject) × Http.Network :=
  c.call .get "projects" none RemoteProject.listSchema

def getProject (c : Client) (id : String) :
    Http.Network → Except Error RemoteProject × Http.Network :=
  c.call .get ("projects/" ++ id) none RemoteProject.schema

def register (c : Client) (r : Registration) :
    Http.Network → Except Error RemoteProject × Http.Network :=
  c.call .post "projects" (some (Registration.schema.encode r)) RemoteProject.schema

def tryEndpoint (c : Client) (r : TrialRequest) :
    Http.Network → Except Error TrialAnswer × Http.Network :=
  c.call .post "playground/test" (some (TrialRequest.schema.encode r)) TrialAnswer.schema

end Client

end Backend
end SdkShelf
