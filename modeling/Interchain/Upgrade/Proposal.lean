import Interchain.Upgrade.Fields

/-
  Upgrades and error receipts.

  An upgrade holds the fields that an end proposes.  When the
  end starts to flush, the upgrade gets a timeout and the last
  sequence that was sent.  An error receipt tells the
  counterparty that an attempt was given up.

  Main declarations:
    * `Upgrade`
    * `ErrorReceipt`
    * `UpgradeError`
-/

------------------------------------------------------------
-- Upgrades
------------------------------------------------------------

namespace Interchain

/- What an end proposes, and what it adds as it starts to
   flush: the deadline, and the last packet that it sent. -/
structure Upgrade where
  fields : UpgradeFields
  timeout : Option UpgradeTimeout
  latestSent : Sequence
  deriving DecidableEq

namespace Upgrade

/- An upgrade without a timeout counts as run out. -/
def hasRunOut
    (u : Upgrade)
    (height : Height)
    (timestamp : Timestamp) :
    Bool :=
  match u.timeout with
  | some timeout => timeout.hasElapsed height timestamp
  | none => true

/- How an upgrade is written in a message. -/
def display (u : Upgrade) : String :=
  let timeout :=
    match u.timeout with
    | some timeout => timeout.display
    | none => "none"
  "Upgrade \x7b fields: " ++ u.fields.display ++
    ", timeout: " ++ timeout ++
    ", latest_sequence_send: " ++ u.latestSent.display ++
    " \x7d"

/- The record of an upgrade. -/
def toJson (u : Upgrade) : Json :=
  .object
    [ ("fields", u.fields.toJson),
      ("timeout", .ofOption UpgradeTimeout.toJson u.timeout),
      ("latest_sequence_send", u.latestSent.toJson) ]

/- The upgrade that a record describes. -/
def ofJson? (value : Json) : Option Upgrade := do
  match ← value.slots? .lenient
      ["fields", "timeout", "latest_sequence_send"] with
  | [fields, timeout, latestSent] =>
      let fields ← Json.required? UpgradeFields.ofJson? fields
      let timeout ←
        Json.optional? UpgradeTimeout.ofJson? timeout
      let latestSent ←
        Json.required? Sequence.ofJson? latestSent
      return ⟨fields, timeout, latestSent⟩
  | _ => none

instance : Recorded Upgrade := ⟨toJson, ofJson?⟩

end Upgrade

end Interchain

------------------------------------------------------------
-- Error Receipts
------------------------------------------------------------

namespace Interchain

/- What an end leaves of an attempt that it gave up. -/
structure ErrorReceipt where
  sequence : Sequence
  message : String
  deriving DecidableEq

namespace ErrorReceipt

/- How a receipt is written in a message. -/
def display (r : ErrorReceipt) : String :=
  "ErrorReceipt \x7b sequence: " ++ r.sequence.display ++
    ", message: " ++ r.message ++ " \x7d"

/- The record of a receipt. -/
def toJson (r : ErrorReceipt) : Json :=
  .object
    [ ("sequence", r.sequence.toJson),
      ("message", .text r.message) ]

/- The receipt that a record describes. -/
def ofJson? (value : Json) : Option ErrorReceipt := do
  match ← value.slots? .lenient ["sequence", "message"] with
  | [sequence, message] =>
      let sequence ← Json.required? Sequence.ofJson? sequence
      let message ← Json.required? Json.text? message
      return ⟨sequence, message⟩
  | _ => none

instance : Recorded ErrorReceipt := ⟨toJson, ofJson?⟩

end ErrorReceipt

end Interchain

------------------------------------------------------------
-- Upgrade Errors
------------------------------------------------------------

namespace Interchain

/- An error that ends the attempt with a sequence. -/
structure UpgradeError where
  sequence : Sequence
  cause : ChannelError
  deriving DecidableEq

namespace UpgradeError

/- What is reported of an attempt that ended. -/
def message (e : UpgradeError) : String :=
  "upgrade attempt " ++ e.sequence.display ++
    " aborted: " ++ e.cause.message

/-
  The receipt of the attempt.  Its text depends on the code of
  the cause alone, so both ends write the same.
-/
def receipt (e : UpgradeError) : ErrorReceipt :=
  ⟨e.sequence,
    "upgrade error code: " ++ Text.decimal e.cause.code ++
      ": restored channel to pre-upgrade state"⟩

end UpgradeError

end Interchain
