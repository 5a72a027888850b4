import SdkShelf.Url.Basic
import SdkShelf.Url.Percent

/-!
Queries as lists of names with values, in the encoding of web forms: a blank is a plus sign, and
only letters, digits and `*-._` stand for themselves.
-/

namespace SdkShelf
namespace Url
namespace Form

def isPlain (c : Char) : Bool := c.isAlphanum || ['*', '-', '.', '_'].contains c

def encode (s : String) : List Char :=
  s.toList.flatMap fun c =>
    if c = ' ' then ['+'] else if isPlain c then [c] else Percent.encodeChar c

def pairText (pair : String × String) : List Char := encode pair.1 ++ '=' :: encode pair.2

def append (query : String) (pairs : List (String × String)) : String :=
  pairs.foldl (fun query pair =>
    (if query.isEmpty then query else query ++ "&") ++ String.ofList (pairText pair)) query

end Form

/-- The address with pairs added to its query. A query that stays empty is dropped. -/
def withPairs (u : Url) (pairs : List (String × String)) : Url :=
  let query := Form.append (u.query.getD "") pairs
  { u with query := if query.isEmpty then none else some query }

end Url
end SdkShelf
