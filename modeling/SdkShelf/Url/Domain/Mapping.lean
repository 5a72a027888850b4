import SdkShelf.Text.Canonical
import SdkShelf.Url.Domain.MappingTable

/-!
The small form of names of domains: capital letters and letters of a special style are replaced by
the plain ones, some characters are dropped, and the rest is in canonical form.
-/

namespace SdkShelf
namespace Url
namespace Domain

open Text

def mapping? (c : Char) : Option (List Char) :=
  let n := c.toNat
  if n < 128 then some [c.toLower]
  else if Table.inside bannedEdges n then none
  else if Table.inside droppedEdges n then some []
  else
    match Table.sequence? sequences n, Table.shifted? shiftRuns n with
    | some ms, _ => some (ms.map Char.ofNat)
    | none, some m => some [Char.ofNat m]
    | none, none => some [c]

/-- The small form, unless some character may not occur. -/
def normalize? (cs : List Char) : Option (List Char) :=
  (cs.mapM mapping?).map fun parts => Text.Canonical.compose parts.flatten

end Domain
end Url
end SdkShelf
