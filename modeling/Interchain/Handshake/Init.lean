import Interchain.Handshake.Outcome
import Interchain.Message

/-
  Proposing an upgrade.

  A proposal must change something, and the connection that it
  names must be open and support its packet order.  It starts
  a new attempt; the channel stays open.

  Main declarations:
    * `Host.propose`
    * `Host.processInit`
    * `proposalPlan`
-/

------------------------------------------------------------
-- Proposals
------------------------------------------------------------

namespace Interchain

/- A channel end and its upgrade after a step. -/
structure UpgradeStep where
  key : ChannelKey
  channel : ChannelEnd
  upgrade : Upgrade
  deriving DecidableEq

namespace Host

/- The connection supports the order of the proposal. -/
def checkSupport
    (h : Host)
    (fields : UpgradeFields) :
    Except ChannelError Unit :=
  match fields.hop? with
  | none => .error (.hopCount 1 0)
  | some id =>
      match h.connectionEnd id with
      | .error e => .error e
      | .ok connection =>
          if connection.isOpen = false then
            .error (.connectionNotOpen id)
          else
            match connection.versions with
            | [version] =>
                if version.supports fields.order.name then
                  .ok ()
                else
                  .error .unsupportedOrder
            | _ => .error .connectionVersions

/- The proposal is well formed and changes something. -/
def checkProposal
    (h : Host)
    (c : ChannelEnd)
    (fields : UpgradeFields) :
    Except ChannelError Unit := do
  fields.validate
  if c.fields = fields then
    throw .fieldsUnchanged
  h.checkSupport fields

/- Start an attempt on an open channel. -/
def propose
    (h : Host)
    (key : ChannelKey)
    (c : ChannelEnd)
    (fields : UpgradeFields)
    (timeout : Option UpgradeTimeout) :
    Except ChannelError UpgradeStep := do
  if c.state ≠ .open then
    throw (.channelState key.channel c.state)
  h.checkProposal c fields
  return {
    key := key
    channel :=
      { c with upgradeSequence := c.upgradeSequence.next }
    upgrade := ⟨fields, timeout, .zero⟩ }

end Host

end Interchain

------------------------------------------------------------
-- Step
------------------------------------------------------------

namespace Interchain

namespace Host

/- A proposal moves an open end to its next attempt. -/
def processInit
    (h : Host)
    (m : InitMessage) :
    Except ChannelError (EventReport UpgradeStep) := do
  let c ← h.channelEnd m.key
  let step ← h.propose m.key c m.fields m.timeout
  return Report.noting step
    ("upgrade " ++ step.channel.upgradeSequence.display ++
      " of channel " ++ m.key.display ++ " proposed: " ++
      step.upgrade.fields.display)

end Host

/- Store the channel end and the upgrade of a step, and tell
   of it. -/
def stepPlan
    (tell : UpgradeAttributes → Event)
    (step : UpgradeStep)
    (h : Host) :
    Except FatalError (Plan Event) := do
  let _ ← required step.key (h.channelEnd step.key)
  return ⟨
    [ .channel step.key step.channel,
      .upgrade step.key step.upgrade ],
    tell
      (.ofEnd step.key step.channel step.upgrade.fields)⟩

/- Store a new proposal. -/
def proposalPlan :
    UpgradeStep → Host → Except FatalError (Plan Event) :=
  stepPlan .upgradeInit

end Interchain
