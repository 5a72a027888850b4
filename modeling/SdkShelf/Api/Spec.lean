import SdkShelf.Api.Endpoint

/-!
Descriptions of APIs.
-/

namespace SdkShelf
namespace Api

/-- A described API. `truncated` tells that the description was cut to save space. -/
structure Spec where
  name : Option String
  version : Option String
  baseUrl : String
  endpoints : List Endpoint
  truncated : Bool
  deriving DecidableEq

namespace Spec

def empty : Spec := ⟨none, none, "", [], false⟩

def schema : Json.Schema Spec :=
  .record "ApiSpec"
    (.optional "name" .string <|
      .optional "version" .string <|
      .defaulted "base_url" .string "" <|
      .defaulted "endpoints" (.list Endpoint.schema) [] <|
      .flag "truncated" .nil)
    (fun (name, version, baseUrl, endpoints, truncated, ()) =>
      ⟨name, version, baseUrl, endpoints, truncated⟩)
    (fun s => (s.name, s.version, s.baseUrl, s.endpoints, s.truncated, ()))

end Spec

end Api
end SdkShelf
