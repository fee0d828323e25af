import Interchain.Handshake.Cancel
import Interchain.Handshake.Open
import Interchain.Handshake.Timeout
import Interchain.Host.Block

/-
  Handling a message.

  A message is validated, then checked against the host, and
  only then written, so a rejected message leaves the host as
  it was.  An error of the attempt ends the attempt and counts
  as an answer.

  Main declarations:
    * `Session.dispatch`
    * `Host.dispatch`
    * `Host.deliver`
-/

------------------------------------------------------------
-- Reports
------------------------------------------------------------

namespace Interchain

/- The result of a message, and the session after it. -/
abbrev Dispatched :=
  Except DispatchError (EventReport UpgradeOutcome) × Session

/- The report of a step whose writes emitted events. -/
def succeeded
    {α : Type}
    (report : EventReport α)
    (events : List Event) :
    EventReport UpgradeOutcome :=
  ⟨.success, report.log, report.events ++ events⟩

namespace Session

/- Write a step that was checked, and report its event. -/
def conclude
    {α : Type}
    (s : Session)
    (report : EventReport α)
    (plan : Host → Except FatalError (Plan Event)) :
    Dispatched :=
  match s.carryOut id plan with
  | (.ok event, next) => (.ok (succeeded report [event]), next)
  | (.error e, next) => (.error (.fatal e), next)

/- End the attempt on a channel, after other events. -/
def giveUp
    (s : Session)
    (key : ChannelKey)
    (error : UpgradeError)
    (before : List Event) :
    Dispatched :=
  match s.carryOut id (abortPlan key (.step error)) with
  | (.ok report, next) =>
      (.ok ⟨.aborted report.result, report.log,
        before ++ report.events⟩, next)
  | (.error e, next) => (.error (.fatal e), next)

end Session

end Interchain

------------------------------------------------------------
-- Steps
------------------------------------------------------------

namespace Interchain

namespace Session

/- A step that is taken or rejected. -/
def take
    {α : Type}
    (s : Session)
    (checked : Except ChannelError (EventReport α))
    (plan : α → Host → Except FatalError (Plan Event)) :
    Dispatched :=
  match checked with
  | .error e => (.error (.rejected e), s)
  | .ok report => s.conclude report (plan report.result)

/- End an attempt that was only staged: it is stored first. -/
def giveUpStaged
    (s : Session)
    (key : ChannelKey)
    (error : UpgradeError) :
    Option UpgradeStep → Dispatched
  | none => s.giveUp key error []
  | some step =>
      match s.carryOut id (proposalPlan step) with
      | (.ok event, next) => next.giveUp key error [event]
      | (.error e, next) => (.error (.fatal e), next)

/- An end answers a proposal, or gives the attempt up. -/
def dispatchTry (s : Session) (m : TryMessage) : Dispatched :=
  match s.host.stageAnswer m with
  | .error e => (.error (.rejected e), s)
  | .ok staged =>
      match s.host.processTry m staged with
      | .ok report =>
          s.conclude report (answerPlan report.result)
      | .error (.refused e) => (.error (.rejected e), s)
      | .error (.ended error) =>
          s.giveUpStaged m.key error staged

/- An end acknowledges an answer, or gives the attempt up. -/
def dispatchAck (s : Session) (m : AckMessage) : Dispatched :=
  match s.host.processAck m with
  | .ok report => s.conclude report (ackPlan report.result)
  | .error (.refused e) => (.error (.rejected e), s)
  | .error (.ended error) => s.giveUp m.key error []

/- Open right after the confirmation. -/
def openConfirmed
    (s : Session)
    (key : ChannelKey)
    (report : EventReport ConfirmStep)
    (event : Event) :
    Dispatched :=
  match s.carryOut id (openPlan key) with
  | (.ok opened, next) =>
      (.ok (succeeded report [event, opened]), next)
  | (.error e, next) => (.error (.fatal e), next)

/- An end opens at once where both ends are done flushing. -/
def dispatchConfirm
    (s : Session)
    (m : ConfirmMessage) :
    Dispatched :=
  match s.host.processConfirm m with
  | .error (.refused e) => (.error (.rejected e), s)
  | .error (.ended error) => s.giveUp m.key error []
  | .ok report =>
      match s.carryOut id (confirmPlan report.result) with
      | (.error e, next) => (.error (.fatal e), next)
      | (.ok (event, true), next) =>
          next.openConfirmed m.key report event
      | (.ok (event, false), next) =>
          (.ok (succeeded report [event]), next)

/- Handle a message that is valid in itself. -/
def dispatchValid
    (s : Session) :
    UpgradeMessage → Dispatched
  | .init m => s.take (s.host.processInit m) proposalPlan
  | .attempt m => s.dispatchTry m
  | .ack m => s.dispatchAck m
  | .confirm m => s.dispatchConfirm m
  | .reopen m =>
      s.take (s.host.processOpen m) fun _ => openPlan m.key
  | .cancel m => s.take (s.host.processCancel m) cancelPlan
  | .timeout m => s.take (s.host.processTimeout m) timeoutPlan

/- Handle a message. -/
def dispatch (s : Session) (m : UpgradeMessage) : Dispatched :=
  match m.validate with
  | .error e => (.error (.rejected e), s)
  | .ok () => s.dispatchValid m

end Session

end Interchain

------------------------------------------------------------
-- Hosts
------------------------------------------------------------

namespace Interchain

namespace Host

/- Handle a message, with every write going through. -/
def dispatch
    (h : Host)
    (m : UpgradeMessage) :
    Except DispatchError (EventReport UpgradeOutcome) × Host :=
  let (result, s) := (Session.start h).dispatch m
  (result, s.host)

/- Handle a message in a block of its own. -/
def deliver
    (h : Host)
    (m : UpgradeMessage) :
    Except DispatchError (EventReport UpgradeOutcome) × Host :=
  let (result, after) := h.dispatch m
  (result, after.advance)

end Host

end Interchain
