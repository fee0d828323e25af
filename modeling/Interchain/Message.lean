import Interchain.Channel.End
import Interchain.Commitment.Material
import Interchain.Signer
import Interchain.Upgrade.Proposal

/-
  Messages of the upgrade handshake.

  Five messages take an upgrade from proposal to completion,
  and two end an attempt: one on the word of the counterparty
  or of the authority, one after the timeout.

  Main declarations:
    * `UpgradeMessage`
    * `UpgradeMessage.validate`
-/

------------------------------------------------------------
-- Steps Forward
------------------------------------------------------------

namespace Interchain

/- Propose an upgrade. -/
structure InitMessage where
  key : ChannelKey
  fields : UpgradeFields
  timeout : Option UpgradeTimeout
  signer : Signer
  deriving DecidableEq

/- Answer a proposal of the counterparty. -/
structure TryMessage where
  key : ChannelKey
  hops : List ConnectionId
  counterpartyFields : UpgradeFields
  counterpartyTimeout : Option UpgradeTimeout
  counterpartySequence : Sequence
  channelProof : CommitmentProof
  upgradeProof : CommitmentProof
  proofHeight : Height
  signer : Signer
  deriving DecidableEq

/- Acknowledge the answer to a proposal. -/
structure AckMessage where
  key : ChannelKey
  counterpartyUpgrade : Upgrade
  counterpartySequence : Sequence
  channelProof : CommitmentProof
  upgradeProof : CommitmentProof
  proofHeight : Height
  signer : Signer
  deriving DecidableEq

/- Confirm that both ends flush. -/
structure ConfirmMessage where
  key : ChannelKey
  counterpartyState : ChannelState
  counterpartyUpgrade : Upgrade
  counterpartySequence : Sequence
  channelProof : CommitmentProof
  upgradeProof : CommitmentProof
  proofHeight : Height
  signer : Signer
  deriving DecidableEq

/- Open the channel with its new fields. -/
structure OpenMessage where
  key : ChannelKey
  counterpartyState : ChannelState
  counterpartySequence : Sequence
  channelProof : CommitmentProof
  proofHeight : Height
  signer : Signer
  deriving DecidableEq

/- The fields that an answer proposes: order and version of
   the counterparty, over a connection of this chain. -/
def TryMessage.fields (m : TryMessage) : UpgradeFields :=
  ⟨m.counterpartyFields.order, m.hops,
    m.counterpartyFields.version⟩

end Interchain

------------------------------------------------------------
-- Steps Back
------------------------------------------------------------

namespace Interchain

/- Give up an attempt that the counterparty gave up. -/
structure CancelMessage where
  key : ChannelKey
  receipt : ErrorReceipt
  receiptProof : Option CommitmentProof
  proofHeight : Height
  signer : Signer
  deriving DecidableEq

/- Give up an attempt that was not answered in time. -/
structure TimeoutMessage where
  key : ChannelKey
  counterpartyChannel : ChannelEnd
  earlierReceipt : Option ErrorReceipt
  channelProof : CommitmentProof
  receiptProof : CommitmentProof
  proofHeight : Height
  signer : Signer
  deriving DecidableEq

end Interchain

------------------------------------------------------------
-- Messages
------------------------------------------------------------

namespace Interchain

/- The messages of the handshake. -/
inductive UpgradeMessage where
  | init (message : InitMessage)
  | attempt (message : TryMessage)
  | ack (message : AckMessage)
  | confirm (message : ConfirmMessage)
  | reopen (message : OpenMessage)
  | cancel (message : CancelMessage)
  | timeout (message : TimeoutMessage)
  deriving DecidableEq

namespace UpgradeMessage

/- The channel that a message is for. -/
def key : UpgradeMessage → ChannelKey
  | .init m => m.key
  | .attempt m => m.key
  | .ack m => m.key
  | .confirm m => m.key
  | .reopen m => m.key
  | .cancel m => m.key
  | .timeout m => m.key

/- The account that a message comes from. -/
def signer : UpgradeMessage → Signer
  | .init m => m.signer
  | .attempt m => m.signer
  | .ack m => m.signer
  | .confirm m => m.signer
  | .reopen m => m.signer
  | .cancel m => m.signer
  | .timeout m => m.signer

/- The name that a message travels under. -/
def typeUrl : UpgradeMessage → String
  | .init _ => "/ibc.core.channel.v1.MsgChannelUpgradeInit"
  | .attempt _ => "/ibc.core.channel.v1.MsgChannelUpgradeTry"
  | .ack _ => "/ibc.core.channel.v1.MsgChannelUpgradeAck"
  | .confirm _ =>
      "/ibc.core.channel.v1.MsgChannelUpgradeConfirm"
  | .reopen _ => "/ibc.core.channel.v1.MsgChannelUpgradeOpen"
  | .cancel _ =>
      "/ibc.core.channel.v1.MsgChannelUpgradeCancel"
  | .timeout _ =>
      "/ibc.core.channel.v1.MsgChannelUpgradeTimeout"

end UpgradeMessage

end Interchain

------------------------------------------------------------
-- Validation
------------------------------------------------------------

namespace Interchain

/- A timeout that is given must be able to elapse. -/
def validateOptionalTimeout
    (timeout : Option UpgradeTimeout) :
    Except ChannelError Unit :=
  match timeout with
  | some timeout => timeout.validate
  | none => .ok ()

/- A timeout must be given and able to elapse. -/
def validateRequiredTimeout
    (timeout : Option UpgradeTimeout) :
    Except ChannelError Unit :=
  match timeout with
  | some timeout => timeout.validate
  | none => .error .invalidTimeout

/- A deadline may be left to be set later. -/
def InitMessage.validate
    (m : InitMessage) :
    Except ChannelError Unit := do
  m.fields.validate
  validateOptionalTimeout m.timeout

/- The channel is asked to run over one connection. -/
def TryMessage.validate
    (m : TryMessage) :
    Except ChannelError Unit := do
  if m.hops.length ≠ 1 then
    throw (.hopCount 1 m.hops.length)
  m.counterpartyFields.validate
  validateOptionalTimeout m.counterpartyTimeout

/- The counterparty flushes, so its upgrade has a timeout. -/
def AckMessage.validate
    (m : AckMessage) :
    Except ChannelError Unit := do
  m.counterpartyUpgrade.fields.validate
  validateRequiredTimeout m.counterpartyUpgrade.timeout

/- An end that confirms has started to flush. -/
def ConfirmMessage.validate
    (m : ConfirmMessage) :
    Except ChannelError Unit := do
  if m.counterpartyState.isUpgrading = false then
    throw (.counterpartyState m.counterpartyState)
  m.counterpartyUpgrade.fields.validate
  validateRequiredTimeout m.counterpartyUpgrade.timeout

/- The counterparty is done flushing, or already open. -/
def OpenMessage.validate
    (m : OpenMessage) :
    Except ChannelError Unit :=
  match m.counterpartyState with
  | .open => .ok ()
  | .flushComplete => .ok ()
  | state => .error (.counterpartyState state)

/- The other end is shown open: it had not answered. -/
def TimeoutMessage.validate
    (m : TimeoutMessage) :
    Except ChannelError Unit :=
  if m.counterpartyChannel.isOpen then
    m.counterpartyChannel.validate
  else
    .error (.counterpartyState m.counterpartyChannel.state)

/- What can be told without the chain. -/
def UpgradeMessage.validate :
    UpgradeMessage → Except ChannelError Unit
  | .init m => m.validate
  | .attempt m => m.validate
  | .ack m => m.validate
  | .confirm m => m.validate
  | .reopen m => m.validate
  | .cancel _ => .ok ()
  | .timeout m => m.validate

end Interchain
