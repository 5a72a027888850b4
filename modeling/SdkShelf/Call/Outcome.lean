import SdkShelf.Json.Tagged

/-!
Outcomes of calls: an answer of any status is a success, and everything else is a failure.
-/

namespace SdkShelf
namespace Call

inductive Outcome where
  | success (status : UInt16) (body : String)
  | failure (message : String)
  deriving DecidableEq, Repr

namespace Outcome

def isSuccess : Outcome → Bool
  | success .. => true
  | failure _ => false

/-- The body as JSON; a text that is no JSON stands for itself. -/
def bodyJson? : Outcome → Option Json
  | success _ body =>
    some (match Json.Schema.json.ofText body with
      | .ok v => v
      | .error _ => .string body)
  | failure _ => none

def tag : String := "outcome"

def successName : String := "success"

def failureName : String := "failure"

def successFields : Json.Fields (UInt16 × String × Unit) (Option UInt16 × Option String × Unit) :=
  .required "status" .uint16 <| .required "body" .string .nil

def failureFields : Json.Fields (String × Unit) (Option String × Unit) :=
  .required "message" .string .nil

def tagged : Json.Tagged Outcome where
  name := "RequestOutcome"
  tag := tag
  cases := [
    .ofFields successName "struct variant RequestOutcome::Success" successFields
      (fun (status, body, ()) => success status body),
    .ofFields failureName "struct variant RequestOutcome::Failure" failureFields
      (fun (message, ()) => failure message)]

def json : Outcome → Json
  | success status body => Json.Tagged.object tag successName successFields (status, body, ())
  | failure message => Json.Tagged.object tag failureName failureFields (message, ())

end Outcome

end Call
end SdkShelf
