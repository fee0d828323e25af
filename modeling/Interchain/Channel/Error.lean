import Interchain.Channel.Sequence
import Interchain.Channel.State
import Interchain.Client.Error
import Interchain.Connection.End
import Interchain.Upgrade.Timeout

/-
  Errors of channels and of their upgrades.

  Main declarations:
    * `ChannelError`
    * `ChannelError.message`
    * `ChannelError.name`
    * `ChannelError.code`
-/

------------------------------------------------------------
-- Causes
------------------------------------------------------------

namespace Interchain

/- Why a message, or a check that it needs, is refused. -/
inductive ChannelError where
  | connection (cause : ConnectionError)
  | client (cause : ClientError)
  | unknownState (number : Int)
  | unknownOrder (text : String)
  | invalidOrder
  | hopCount (expected actual : Nat)
  | emptyVersion
  | packetCounterparty (key : ChannelKey)
  | zeroPacketSequence
  | zeroPacketData
  | noPacketTimeout
  | packetSequence (given next : Sequence)
  | noCounterparty
  | connectionVersions
  | unsupportedOrder
  | channelNotFound (key : ChannelKey)
  | connectionNotOpen (id : ConnectionId)
  | noPeerConnection (id : ConnectionId)
  | noNextSequence (key : ChannelKey)
  | channelState (channel : ChannelId) (state : ChannelState)
  | counterpartyState (state : ChannelState)
  | channelProof (cause : ClientError)
  | upgradeProof (cause : ClientError)
  | receiptProof (cause : ClientError)
  | receiptAbsenceProof (cause : ClientError)
  | fieldsUnchanged
  | incompatible (reason : String)
  | upgradeSequence (own counterparty : Sequence)
  | upgradeNotFound (key : ChannelKey)
  | counterpartyUpgradeNotFound (key : ChannelKey)
  | receiptNotFound (key : ChannelKey)
  | invalidTimeout
  | timeoutElapsed (timeout : UpgradeTimeout)
  | timeoutNotReached (height : Height) (time : Timestamp)
  | noReceiptProof
  | timestampOverflow (cause : TimestampError)
  | invalidParams (reason : String)
  | application (description : String)
  deriving DecidableEq

end Interchain

------------------------------------------------------------
-- Messages
------------------------------------------------------------

namespace Interchain

namespace ChannelError

/- What is reported of a refusal. -/
def message : ChannelError → String
  | .connection _ => "ics03 connection error"
  | .client _ => "ics02 client error"
  | .unknownState n =>
      "channel state unknown: " ++ Int.repr n
  | .unknownOrder s => "channel order type unknown: " ++ s
  | .invalidOrder =>
      "the channel ordering must be either ORDERED or UNORDERED"
  | .hopCount expected actual =>
      "invalid connection hops length: expected " ++
        Text.decimal expected ++ "; actual " ++
        Text.decimal actual
  | .emptyVersion => "the channel version cannot be empty"
  | .packetCounterparty key =>
      "packet destination port " ++ key.port.text ++
        " and channel " ++ key.channel.text ++
        " doesn't match the counterparty's port/channel"
  | .zeroPacketSequence => "packet sequence cannot be 0"
  | .zeroPacketData => "packet data bytes cannot be empty"
  | .noPacketTimeout =>
      "packet timeout height and packet timeout timestamp " ++
        "cannot both be 0"
  | .packetSequence given next =>
      "invalid packet sequence " ++ given.display ++
        " ≠ next send sequence " ++ next.display
  | .noCounterparty => "missing counterparty"
  | .connectionVersions =>
      "single version must be negociated on connection " ++
        "before opening channel"
  | .unsupportedOrder =>
      "the channel ordering is not supported by connection"
  | .channelNotFound key =>
      "the channel end " ++ key.display ++ " does not exist"
  | .connectionNotOpen id =>
      "the associated connection " ++ id.text ++
        " is not OPEN"
  | .noPeerConnection id =>
      "Channel opening error: the connection " ++ id.text ++
        " has no counterparty connection id"
  | .noNextSequence key =>
      "Missing sequence number for sending packets on port " ++
        key.port.text ++ " and channel " ++ key.channel.text
  | .channelState channel state =>
      "channel " ++ channel.text ++ " is in state " ++
        state.display ++ ", which does not allow this step " ++
        "of the upgrade handshake"
  | .counterpartyState state =>
      "the counterparty channel is in state " ++
        state.display ++ ", which does not allow this step " ++
        "of the upgrade handshake"
  | .channelProof _ =>
      "failed to verify the counterparty channel end"
  | .upgradeProof _ =>
      "failed to verify the counterparty upgrade"
  | .receiptProof _ =>
      "failed to verify the counterparty upgrade error receipt"
  | .receiptAbsenceProof _ =>
      "failed to verify the absence of an upgrade error " ++
        "receipt on the counterparty"
  | .fieldsUnchanged =>
      "the proposed upgrade fields are identical to the " ++
        "current channel fields"
  | .incompatible reason =>
      "incompatible counterparty upgrade: " ++ reason
  | .upgradeSequence own counterparty =>
      "upgrade sequence mismatch: local sequence " ++
        own.display ++ ", counterparty sequence " ++
        counterparty.display
  | .upgradeNotFound key =>
      "no upgrade exists for channel " ++ key.display
  | .counterpartyUpgradeNotFound key =>
      "no counterparty upgrade is cached for channel " ++
        key.display
  | .receiptNotFound key =>
      "no upgrade error receipt exists for channel " ++
        key.display
  | .invalidTimeout =>
      "an upgrade timeout must specify a height or a timestamp"
  | .timeoutElapsed timeout =>
      "the counterparty upgrade timeout has already elapsed: " ++
        timeout.display
  | .timeoutNotReached height time =>
      "the upgrade timeout has not been reached at proof " ++
        "height " ++ height.display ++ " (" ++
        time.display ++ ")"
  | .noReceiptProof =>
      "a proof of the counterparty error receipt is required " ++
        "to cancel this upgrade"
  | .timestampOverflow _ => "timestamp overflow"
  | .invalidParams reason =>
      "invalid channel params: " ++ reason
  | .application description =>
      "application module error: " ++ description

/- The name of a refusal, without what it is about. -/
def name : ChannelError → String
  | .connection _ => "Ics03Connection"
  | .client _ => "Ics02Client"
  | .unknownState _ => "UnknownState"
  | .unknownOrder _ => "UnknownOrderType"
  | .invalidOrder => "InvalidOrdering"
  | .hopCount _ _ => "InvalidConnectionHopsLength"
  | .emptyVersion => "EmptyVersion"
  | .packetCounterparty _ => "InvalidPacketCounterparty"
  | .zeroPacketSequence => "ZeroPacketSequence"
  | .zeroPacketData => "ZeroPacketData"
  | .noPacketTimeout => "MissingPacketTimeout"
  | .packetSequence _ _ => "InvalidPacketSequence"
  | .noCounterparty => "MissingCounterparty"
  | .connectionVersions => "InvalidVersionLengthConnection"
  | .unsupportedOrder =>
      "ChannelFeatureNotSupportedByConnection"
  | .channelNotFound _ => "ChannelNotFound"
  | .connectionNotOpen _ => "ConnectionNotOpen"
  | .noPeerConnection _ => "UndefinedConnectionCounterparty"
  | .noNextSequence _ => "MissingNextSendSeq"
  | .channelState _ _ => "InvalidChannelState"
  | .counterpartyState _ => "InvalidCounterpartyChannelState"
  | .channelProof _ => "VerifyChannelFailed"
  | .upgradeProof _ => "VerifyUpgradeFailed"
  | .receiptProof _ => "VerifyErrorReceiptFailed"
  | .receiptAbsenceProof _ =>
      "VerifyErrorReceiptAbsenceFailed"
  | .fieldsUnchanged => "UpgradeFieldsUnchanged"
  | .incompatible _ => "IncompatibleCounterpartyUpgrade"
  | .upgradeSequence _ _ => "InvalidUpgradeSequence"
  | .upgradeNotFound _ => "UpgradeNotFound"
  | .counterpartyUpgradeNotFound _ =>
      "CounterpartyUpgradeNotFound"
  | .receiptNotFound _ => "UpgradeErrorReceiptNotFound"
  | .invalidTimeout => "InvalidUpgradeTimeout"
  | .timeoutElapsed _ => "UpgradeTimeoutElapsed"
  | .timeoutNotReached _ _ => "UpgradeTimeoutNotReached"
  | .noReceiptProof => "MissingUpgradeErrorReceiptProof"
  | .timestampOverflow _ => "TimestampOverflow"
  | .invalidParams _ => "InvalidParams"
  | .application _ => "AppModule"

/- What a channel error wraps. -/
def source : ChannelError → List Cause
  | .connection cause => trace cause
  | .client cause => trace cause
  | .channelProof cause => trace cause
  | .upgradeProof cause => trace cause
  | .receiptProof cause => trace cause
  | .receiptAbsenceProof cause => trace cause
  | .timestampOverflow cause => trace cause
  | _ => []

instance : Traced ChannelError where
  trace e := ⟨e.name, e.message⟩ :: e.source

/-
  The number in an error receipt.  Only the causes that the
  counterparty can act on have a number of their own.
-/
def code : ChannelError → Nat
  | .upgradeSequence _ _ => 2
  | .incompatible _ => 3
  | .timeoutElapsed _ => 4
  | .application _ => 5
  | _ => 1

end ChannelError

end Interchain

------------------------------------------------------------
-- Checked Readings
------------------------------------------------------------

namespace Interchain

/- The packet order with a number. -/
def ChannelOrder.ofNumber
    (n : Int) :
    Except ChannelError ChannelOrder :=
  match ChannelOrder.ofNumber? n with
  | some order => .ok order
  | none => .error (.unknownOrder (Int.repr n))

/- The packet order that a text names. -/
def ChannelOrder.ofText
    (s : String) :
    Except ChannelError ChannelOrder :=
  match ChannelOrder.ofText? s with
  | some order => .ok order
  | none => .error (.unknownOrder s)

/- The channel state with a number. -/
def ChannelState.ofNumber
    (n : Int) :
    Except ChannelError ChannelState :=
  match ChannelState.ofNumber? n with
  | some state => .ok state
  | none => .error (.unknownState n)

/- A timeout must be able to elapse. -/
def UpgradeTimeout.validate
    (t : UpgradeTimeout) :
    Except ChannelError Unit :=
  if t.isValid then .ok () else .error .invalidTimeout

/- A timeout that is able to elapse. -/
def UpgradeTimeout.make
    (height : TimeoutHeight)
    (timestamp : Timestamp) :
    Except ChannelError UpgradeTimeout :=
  if (UpgradeTimeout.mk height timestamp).isValid then
    .ok ⟨height, timestamp⟩
  else
    .error .invalidTimeout

end Interchain
