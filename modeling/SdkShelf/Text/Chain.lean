/-!
Failures told from the outermost circumstance to the innermost cause.
-/

namespace SdkShelf
namespace Text

def chainText (causes : List String) : String := ": ".intercalate causes

end Text
end SdkShelf
