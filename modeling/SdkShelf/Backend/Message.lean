import SdkShelf.Api.Spec
import SdkShelf.Json.Printer

/-!
What is sent to the generation backend and what it answers.
-/

namespace SdkShelf
namespace Backend

structure GenerationRequest where
  sourceUrl : String
  deriving DecidableEq, Repr

def GenerationRequest.schema : Json.Schema GenerationRequest :=
  .record "GenerateRequest" (.required "source_url" .string .nil)
    (fun (sourceUrl, ()) => ⟨sourceUrl⟩) (fun r => (r.sourceUrl, ()))

structure Generation where
  name : String
  version : Option String
  spec : Api.Spec
  sdkCode : String
  isMock : Bool
  source : Option String
  deriving DecidableEq

def Generation.schema : Json.Schema Generation :=
  .record "GenerateResponse"
    (.required "name" .string <|
      .defaulted "version" (.option .string) none <|
      .required "spec" Api.Spec.schema <|
      .defaulted "sdk_code" .string "" <|
      .defaulted "is_mock" .bool false <|
      .defaulted "source" (.option .string) none .nil)
    (fun (name, version, spec, sdkCode, isMock, source, ()) =>
      ⟨name, version, spec, sdkCode, isMock, source⟩)
    (fun g => (g.name, g.version, g.spec, g.sdkCode, g.isMock, g.source, ()))

/-- A request that the backend sends on. An absent map stands for an empty one. -/
structure RelayRequest where
  baseUrl : String
  path : String
  method : Http.Method
  params : Option (Dictionary String)
  headers : Option (Dictionary String)
  jsonBody : Option Json

def RelayRequest.schema : Json.Schema RelayRequest :=
  .record "ExecuteRequest"
    (.required "base_url" .string <|
      .required "path" .string <|
      .required "method" Http.Method.schema <|
      .optional "params" (.map .string) <|
      .optional "headers" (.map .string) <|
      .optional "json_body" .json .nil)
    (fun (baseUrl, path, method, params, headers, jsonBody, ()) =>
      ⟨baseUrl, path, method, params, headers, jsonBody⟩)
    (fun r => (r.baseUrl, r.path, r.method, r.params, r.headers, r.jsonBody, ()))

structure RelayAnswer where
  statusCode : UInt16
  response : Json

def RelayAnswer.schema : Json.Schema RelayAnswer :=
  .record "ExecuteResponse"
    (.required "status_code" .uint16 <| .defaulted "response" .json .null .nil)
    (fun (statusCode, response, ()) => ⟨statusCode, response⟩)
    (fun a => (a.statusCode, a.response, ()))

structure RemoteProject where
  id : String
  name : String
  description : Option String
  sourceUrl : Option String
  sourceType : Option String
  createdAt : Option String
  endpoints : List Api.Endpoint
  deriving DecidableEq

namespace RemoteProject

def schema : Json.Schema RemoteProject :=
  .record "RemoteProject"
    (.required "id" .string <|
      .required "name" .string <|
      .optional "description" .string <|
      .optional "source_url" .string <|
      .optional "source_type" .string <|
      .optional "created_at" .string <|
      .cons "endpoints" [] (.orNull [] (.list Api.Endpoint.schema)) (some []) List.isEmpty .nil)
    (fun (id, name, description, sourceUrl, sourceType, createdAt, endpoints, ()) =>
      ⟨id, name, description, sourceUrl, sourceType, createdAt, endpoints⟩)
    (fun p => (p.id, p.name, p.description, p.sourceUrl, p.sourceType, p.createdAt, p.endpoints,
      ()))

def listSchema : Json.Schema (List RemoteProject) := .list schema

end RemoteProject

structure Registration where
  name : String
  sourceUrl : String
  sourceType : String
  deriving DecidableEq, Repr

def Registration.schema : Json.Schema Registration :=
  .record "CreateProjectRequest"
    (.required "name" .string <|
      .required "source_url" .string <|
      .required "source_type" .string .nil)
    (fun (name, sourceUrl, sourceType, ()) => ⟨name, sourceUrl, sourceType⟩)
    (fun r => (r.name, r.sourceUrl, r.sourceType, ()))

structure TrialRequest where
  projectId : String
  path : String
  params : Dictionary String

def TrialRequest.schema : Json.Schema TrialRequest :=
  .record "PlaygroundTestRequest"
    (.required "project_id" .string <|
      .required "path" .string <|
      .defaulted "params" (.map .string) Dictionary.empty .nil)
    (fun (projectId, path, params, ()) => ⟨projectId, path, params⟩)
    (fun r => (r.projectId, r.path, r.params, ()))

structure TrialAnswer where
  status : Option String
  message : Option String
  response : Json

def TrialAnswer.schema : Json.Schema TrialAnswer :=
  .record "PlaygroundTestResponse"
    (.optional "status" .string <|
      .optional "message" .string <|
      .defaulted "response" .json .null .nil)
    (fun (status, message, response, ()) => ⟨status, message, response⟩)
    (fun a => (a.status, a.message, a.response, ()))

structure Rejection where
  detail : Json

namespace Rejection

def schema : Json.Schema Rejection :=
  .record "ErrorBody" (.required "detail" .json .nil) (fun (detail, ()) => ⟨detail⟩)
    (fun r => (r.detail, ()))

/-- A detail that is a text stands for itself. -/
def message (r : Rejection) : String :=
  match r.detail with
  | .string text => text
  | v => v.compact

end Rejection

end Backend
end SdkShelf
