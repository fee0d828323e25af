import Interchain.Json.Reader
import Interchain.Json.Record

/-
  Types whose values are written as records.

  Main declarations:
    * `Recorded`
    * `Recorded.written`
    * `Recorded.ofText?`
-/

------------------------------------------------------------
-- Records
------------------------------------------------------------

namespace Interchain

/- Values that are kept as records. -/
class Recorded (α : Type) where
  toJson : α → Json
  ofJson? : Json → Option α

namespace Recorded

variable {α : Type} [Recorded α]

/- The text of a record, compact and in its fixed order. -/
def written (a : α) : String :=
  (toJson a).render

/- Read the text of a record. -/
def ofText? (text : String) : Option α :=
  (Json.ofText? text).bind ofJson?

end Recorded

end Interchain
