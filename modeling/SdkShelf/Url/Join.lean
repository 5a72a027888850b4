import SdkShelf.Url.Parser

/-!
Addresses that are given relative to a web address.
-/

namespace SdkShelf
namespace Url
namespace Parser

/-- The segments of a path that others can be followed from, its last segment first. -/
def above : Path → List String
  | .segments names => names.dropLast.reverse
  | .opaqueText _ => []

/-- A text without a scheme. With two slashes in front it names a host, with one a path there, and
otherwise a place beside the base. -/
def relative (base : Url) (cs : List Char) : Except Error Url :=
  let slashes := (cs.takeWhile (isSlash .web)).length
  if 2 ≤ slashes then
    if cs.take 2 = ['/', '/'] ∧ 2 < slashes then .error .emptyHost else ofScheme base.scheme cs
  else
    let (front, query, fragment) := splitTail .web cs
    match front with
    | [] => .ok { base with query := query.or base.query, fragment }
    | c :: rest =>
      let (path, names) := if isSlash .web c then ([], rest) else (above base.path, front)
      let names := (splitSlashes .web names).map fun s =>
        String.ofList (Percent.encode Percent.path s)
      .ok { base with path := .segments (follow .web path names), query, fragment }

end Parser

/-- The address that a text stands for beside a web address. The scheme of the base may be written
in front of a text that is relative all the same. -/
def join (base : Url) (text : String) : Except Error Url :=
  let cs := Parser.clean text.toList
  match Parser.splitScheme cs with
  | none => Parser.relative base cs
  | some (scheme, rest) =>
    if scheme = base.scheme ∧ (rest.takeWhile (Parser.isSlash .web)).length < 2 then
      Parser.relative base rest
    else Parser.ofScheme scheme rest

end Url
end SdkShelf
