import Interchain.Host.State

/-
  Blocks of a chain.

  Main declarations:
    * `Host.advance`
-/

------------------------------------------------------------
-- Blocks
------------------------------------------------------------

namespace Interchain

namespace Host

/- The time between two blocks. -/
def blockInterval : Span := Span.ofSeconds 5

/- The chain one block later; its clock stops at the end of
   the calendar. -/
def advance (h : Host) : Host :=
  { h with
    height := h.height.next
    timestamp :=
      match h.timestamp.add blockInterval with
      | .ok later => later
      | .error _ => h.timestamp }

end Host

end Interchain
