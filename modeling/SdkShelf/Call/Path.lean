import SdkShelf.Text.Blank

/-!
Addresses of endpoints: a base address and a path are joined by one slash, and placeholders such as
`{id}` in a path are filled in.
-/

namespace SdkShelf
namespace Call

/-- Joins a base address and a path by exactly one slash. -/
def joinUrl (base path : String) : String :=
  String.ofList (Text.dropEndWhile (· = '/') base.toList ++
    '/' :: path.toList.dropWhile (· = '/'))

/-- Fills in the placeholders. `opened` holds what was read since an opening brace, the last
character first. A brace that is not closed is an ordinary character, and so is one inside a
placeholder. -/
def fill (value? : String → Option String) : Option (List Char) → List Char → List Char
  | none, [] => []
  | some name, [] => '\x7b' :: name.reverse
  | none, c :: rest =>
    if c = '\x7b' then fill value? (some []) rest else c :: fill value? none rest
  | some name, c :: rest =>
    if c = '\x7d' then
      let filled := match value? (String.ofList name.reverse) with
        | some value => value.toList
        | none => '\x7b' :: (name.reverse ++ ['\x7d'])
      filled ++ fill value? none rest
    else fill value? (some (c :: name)) rest

/-- Fills declared placeholders with their values. Others, and those without a value or with an
empty one, stay as they are; what was filled in is not looked at again. -/
def resolvePath (template : String) (declared : List String) (value? : String → Option String) :
    String :=
  let wanted? (name : String) : Option String :=
    if declared.contains name then (value? name).filter (fun v => !v.isEmpty) else none
  String.ofList (fill wanted? none template.toList)

end Call
end SdkShelf
