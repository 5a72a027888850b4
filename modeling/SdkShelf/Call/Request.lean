import SdkShelf.Api.Endpoint
import SdkShelf.Call.Path
import SdkShelf.Json.Decode

/-!
Requests: an endpoint with the values of its parameters, ready to be sent.
-/

namespace SdkShelf
namespace Call

structure Request where
  baseUrl : String
  path : String
  method : Http.Method
  query : Dictionary String
  headers : Dictionary String
  jsonBody : Option Json

namespace Request

/-- The address that the request goes to, before the query is added. -/
def url (r : Request) : String := joinUrl r.baseUrl r.path

inductive Error where
  | body (cause : Json.DecodeError)

def Error.message : Error → String
  | body cause => "parse request body as JSON: " ++ cause.message

/-- The values given for some parameters, by name; an empty value counts as none. -/
def supplied (values : Dictionary String) (parameters : List Api.Parameter)
    (into : Dictionary String) : Dictionary String :=
  parameters.foldl (fun d p =>
    match values.get? p.name with
    | none => d
    | some value => if value.isEmpty then d else d.insert p.name value) into

def suppliedIn (values : Dictionary String) (here : String → Bool) (e : Api.Endpoint) :
    Dictionary String :=
  (e.parameters.entries.filter fun group => here group.1).foldl
    (fun d group => supplied values group.2 d) Dictionary.empty

/-- The body: a given text that is not blank, read as JSON. An endpoint with declared parameters
takes none. -/
def bodyOf (e : Api.Endpoint) (body : Option String) : Except Error (Option Json) :=
  match body.map Text.trim with
  | none => .ok none
  | some text =>
    if text.isEmpty ∨ e.hasParameters then .ok none
    else ((Json.Schema.json.ofText text).map some).mapError .body

/-- Fills in an endpoint. What is neither part of the path nor a header goes into the query. -/
def prepare (baseUrl : String) (e : Api.Endpoint) (values : Dictionary String)
    (body : Option String) : Except Error Request := do
  let jsonBody ← bodyOf e body
  let declared := (e.parametersIn Api.Endpoint.pathLocation).map (·.name)
  .ok {
    baseUrl := baseUrl
    path := resolvePath e.path declared values.get?
    method := e.method
    query := suppliedIn values (fun l =>
      l ≠ Api.Endpoint.pathLocation ∧ l ≠ Api.Endpoint.headerLocation) e
    headers := suppliedIn values (· = Api.Endpoint.headerLocation) e
    jsonBody := jsonBody }

end Request

end Call
end SdkShelf
