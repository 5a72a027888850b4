import SdkShelf.Http.Method

/-!
Endpoints of an API and the parameters they declare, grouped by where a request carries them.
-/

namespace SdkShelf
namespace Api

/-- A declared parameter. `kind` is its data type, a string unless said otherwise. -/
structure Parameter where
  name : String
  kind : String
  required : Bool
  description : Option String
  deriving DecidableEq, Repr

namespace Parameter

def defaultKind : String := "string"

def schema : Json.Schema Parameter :=
  .record "ParameterDescriptor"
    (.required "name" .string <|
      .defaulted "type" .string defaultKind <|
      .defaulted "required" .bool false <|
      .optional "description" .string .nil)
    (fun (name, kind, required, description, ()) => ⟨name, kind, required, description⟩)
    (fun p => (p.name, p.kind, p.required, p.description, ()))

end Parameter

/-- An operation of an API. `parameters` maps a location, such as `path`, `query` or `header`, to
the parameters that stand there. -/
structure Endpoint where
  method : Http.Method
  path : String
  summary : Option String
  description : Option String
  parameters : Dictionary (List Parameter)
  deriving DecidableEq

namespace Endpoint

def pathLocation : String := "path"

def headerLocation : String := "header"

/-- No parameters may be written as null, and are left out when written. -/
def schema : Json.Schema Endpoint :=
  .record "Endpoint"
    (.required "method" Http.Method.schema <|
      .required "path" .string <|
      .optional "summary" .string <|
      .optional "description" .string <|
      .cons "parameters" [] (.orNull Dictionary.empty (.map (.list Parameter.schema)))
        (some Dictionary.empty) Dictionary.isEmpty .nil)
    (fun (method, path, summary, description, parameters, ()) =>
      ⟨method, path, summary, description, parameters⟩)
    (fun e => (e.method, e.path, e.summary, e.description, e.parameters, ()))

def parametersIn (e : Endpoint) (location : String) : List Parameter :=
  (e.parameters.get? location).getD []

/-- Whether any parameter is declared; an empty group declares none. -/
def hasParameters (e : Endpoint) : Bool :=
  e.parameters.entries.any fun group => !group.2.isEmpty

end Endpoint

end Api
end SdkShelf
