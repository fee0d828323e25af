import Interchain.Event
import Interchain.Host.Session
import Interchain.Report

/-
  How a step of the handshake can end.

  A step that fails before any write is rejected.  A failure
  that concerns the attempt rather than the message ends the
  attempt instead.  A failure of a write is fatal.

  Main declarations:
    * `StepError`
    * `DispatchError`
    * `UpgradeOutcome`
-/

------------------------------------------------------------
-- Errors of a Step
------------------------------------------------------------

namespace Interchain

/- A step is refused, or it ends the attempt. -/
inductive StepError where
  | refused (cause : ChannelError)
  | ended (error : UpgradeError)
  deriving DecidableEq

namespace StepError

/- What is reported of a failed step. -/
def message : StepError → String
  | .refused cause => cause.message
  | .ended error => error.message

end StepError

/- An error that refuses the step. -/
def refuse
    {α : Type} :
    Except ChannelError α → Except StepError α
  | .ok a => .ok a
  | .error cause => .error (.refused cause)

/- An error that ends the attempt. -/
def endAttempt
    {α : Type} :
    Except UpgradeError α → Except StepError α
  | .ok a => .ok a
  | .error error => .error (.ended error)

end Interchain

------------------------------------------------------------
-- Outcomes of a Message
------------------------------------------------------------

namespace Interchain

/- A message is rejected before, or fails during, its writes. -/
inductive DispatchError where
  | rejected (cause : ChannelError)
  | fatal (cause : FatalError)
  deriving DecidableEq

namespace DispatchError

/- What is reported of a failed message. -/
def message : DispatchError → String
  | .rejected cause => "message rejected: " ++ cause.message
  | .fatal cause => "fatal error: " ++ cause.message

instance : Traced DispatchError where
  trace
    | .rejected cause => trace cause
    | .fatal cause => trace cause

end DispatchError

/- The step was taken, or the attempt was given up. -/
inductive UpgradeOutcome where
  | success
  | aborted (receipt : ErrorReceipt)
  deriving DecidableEq

/- The report of a step, with the events that it tells. -/
abbrev EventReport := Report Event

end Interchain
