/-
  Listings: `[a, b, c]`.

  Main declarations:
    * `Text.listing`
-/

------------------------------------------------------------
-- Listings
------------------------------------------------------------

namespace Interchain

namespace Text

/- The items between brackets, a comma and a space apart. -/
def listing (items : List String) : String :=
  "[" ++ String.intercalate ", " items ++ "]"

end Text

end Interchain
