/-
  Traces of errors.

  An error has a name for programs and a message for people,
  and may wrap the error that caused it.  The trace of an
  error lists its causes from the outermost to the innermost,
  the error itself first.

  Main declarations:
    * `Cause`
    * `Traced`
-/

------------------------------------------------------------
-- Traces
------------------------------------------------------------

namespace Interchain

/- One error in a chain of them. -/
structure Cause where
  name : String
  message : String
  deriving DecidableEq

/- Errors that have a trace. -/
class Traced (ε : Type) where
  trace : ε → List Cause

export Traced (trace)

end Interchain
