import SdkShelf.Project.Basic

/-!
Shrinking projects, so that a collection takes less room: long code is cut, and of the endpoints
only the first few stay, in outline.
-/

namespace SdkShelf
namespace Project

def codeLimit : Nat := 500

def endpointLimit : Nat := 5

def cutMarker : String := "\n... (Truncated due to storage limits) ..."

/-- The first characters of a longer code, with a marker behind them. -/
def cutCode (code : String) : String :=
  if codeLimit < code.length then
    String.ofList (code.toList.take codeLimit) ++ cutMarker
  else code

def outline (e : Api.Endpoint) : Api.Endpoint :=
  { e with description := none, parameters := Dictionary.empty }

/-- A smaller project: shorter code, and fewer endpoints in outline. -/
def shrink (p : Project) : Project :=
  { p with
    sdkCode := cutCode p.sdkCode
    spec := { p.spec with
      endpoints := (p.spec.endpoints.take endpointLimit).map outline
      truncated := true } }

end Project
end SdkShelf
