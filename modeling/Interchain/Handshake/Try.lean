import Interchain.Handshake.Compatibility
import Interchain.Handshake.Flush
import Interchain.Handshake.Init
import Interchain.Handshake.Verification

/-
  Answering a proposal.

  An end that has no proposal of its own first makes one that
  answers the counterparty's.  Once the counterparty's channel
  and upgrade are proven, the end starts to flush.  An attempt
  of the counterparty that lies behind ends right away, so
  that the counterparty can catch up.

  Main declarations:
    * `Host.stageAnswer`
    * `Host.processTry`
    * `answerPlan`
-/

------------------------------------------------------------
-- Staging
------------------------------------------------------------

namespace Interchain

/- The upgrade sequence right below the counterparty's, unless
   it is at or past that. -/
def ChannelEnd.caughtUp
    (c : ChannelEnd)
    (counterparty : Sequence) :
    ChannelEnd :=
  if c.upgradeSequence < counterparty then
    { c with upgradeSequence := counterparty.previous }
  else
    c

namespace Host

/-
  The proposal that answers the counterparty's, or none if the
  end has one already.
-/
def stageAnswer
    (h : Host)
    (m : TryMessage) :
    Except ChannelError (Option UpgradeStep) := do
  if h.upgrades[m.key]?.isSome then
    return none
  let c ← h.channelEnd m.key
  let step ← h.propose m.key
    (c.caughtUp m.counterpartySequence) m.fields none
  return some step

/- The channel end and the upgrade that an answer builds on. -/
def answered
    (h : Host)
    (key : ChannelKey)
    (staged : Option UpgradeStep) :
    Except ChannelError (ChannelEnd × Upgrade) :=
  match staged with
  | some step => .ok (step.channel, step.upgrade)
  | none => do
      let c ← h.channelEnd key
      let u ← h.upgrade key
      return (c, u)

end Host

end Interchain

------------------------------------------------------------
-- Expectations
------------------------------------------------------------

namespace Interchain

/- The end that the counterparty must have committed to, if it
   is to mirror an end. -/
def ChannelEnd.mirrored
    (c : ChannelEnd)
    (state : ChannelState)
    (key : ChannelKey)
    (hop : ConnectionId)
    (sequence : Sequence) :
    ChannelEnd where
  state := state
  order := c.order
  peer := key.peer
  hops := [hop]
  version := c.version
  upgradeSequence := sequence

/- The upgrade that the counterparty proposes before it starts
   to flush. -/
def TryMessage.counterpartyUpgrade (m : TryMessage) : Upgrade :=
  ⟨m.counterpartyFields, m.counterpartyTimeout, .zero⟩

/-
  The attempts of both ends must be the same.  One that lies
  behind is told the attempt before the current one; a staged
  answer has caught up already.
-/
def checkAnswered
    (c : ChannelEnd)
    (counterparty : Sequence)
    (isStaged : Bool) :
    Except UpgradeError Unit :=
  if counterparty < c.upgradeSequence then
    .error
      ⟨c.upgradeSequence.previous,
        .upgradeSequence c.upgradeSequence counterparty⟩
  else if isStaged then .ok ()
  else checkSequence c counterparty

end Interchain

------------------------------------------------------------
-- Step
------------------------------------------------------------

namespace Interchain

namespace Host

/- What the counterparty must have committed to. -/
def verifyProposal
    (h : Host)
    (m : TryMessage)
    (c : ChannelEnd)
    (u : Upgrade) :
    Except ChannelError Unit := do
  if c.state ≠ .open then
    throw (.channelState m.key.channel c.state)
  let (id, connection) ← h.openConnection c
  h.checkCompatible u.fields m.counterpartyFields
  let hop ← connection.peerConnection id
  h.verifyChannel c connection
    (c.mirrored .open m.key hop m.counterpartySequence)
    m.channelProof m.proofHeight
  h.verifyUpgrade c connection m.counterpartyUpgrade
    m.upgradeProof m.proofHeight

/- A proposal ends the attempt only once it is proven, and then
   for its sequence. -/
def processTry
    (h : Host)
    (m : TryMessage)
    (staged : Option UpgradeStep) :
    Except StepError (EventReport UpgradeStep) := do
  let (c, u) ← refuse (h.answered m.key staged)
  refuse (h.verifyProposal m c u)
  endAttempt
    (checkAnswered c m.counterpartySequence staged.isSome)
  let (flushing, upgrade) ←
    refuse (h.startFlushing m.key c u)
  return Report.noting ⟨m.key, flushing, upgrade⟩
    ("channel " ++ m.key.display ++ " accepted upgrade " ++
      c.upgradeSequence.display ++ " and started flushing")

end Host

/- Store an answer. -/
def answerPlan :
    UpgradeStep → Host → Except FatalError (Plan Event) :=
  stepPlan .upgradeTry

end Interchain
