import SdkShelf.Api.Spec
import SdkShelf.Timestamp.Reader

/-!
Projects: generated SDKs with the descriptions they were made from.
-/

namespace SdkShelf

def Timestamp.schema : Json.Schema Timestamp :=
  .spelled "an RFC 3339 formatted date and time string" ofText text

/-- A generated SDK. `isMock` tells that its code is a stand-in. -/
structure Project where
  id : String
  name : String
  sourceUrl : String
  spec : Api.Spec
  sdkCode : String
  createdAt : Timestamp
  version : Option String
  isMock : Bool
  source : Option String
  deriving DecidableEq

namespace Project

/-- The documentation's address is written as `url`, and may be read as `source_url` too. -/
def schema : Json.Schema Project :=
  .record "Project"
    (.required "id" .string <|
      .required "name" .string <|
      .cons "url" ["source_url"] .string none (fun _ => false) <|
      .required "spec" Api.Spec.schema <|
      .defaulted "sdk_code" .string "" <|
      .required "created_at" Timestamp.schema <|
      .optional "version" .string <|
      .flag "is_mock" <|
      .optional "source" .string .nil)
    (fun (id, name, sourceUrl, spec, sdkCode, createdAt, version, isMock, source, ()) =>
      ⟨id, name, sourceUrl, spec, sdkCode, createdAt, version, isMock, source⟩)
    (fun p => (p.id, p.name, p.sourceUrl, p.spec, p.sdkCode, p.createdAt, p.version, p.isMock,
      p.source, ()))

/-- Collections of projects are lists, the newest first. -/
def listSchema : Json.Schema (List Project) := .list schema

end Project

end SdkShelf
