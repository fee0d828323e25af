import Interchain.Channel.Error
import Interchain.Signer
import Interchain.Time.Spoken

/-
  The parameters of a chain.

  A chain sets how long its upgrades may take, in blocks and
  in time, and who may cancel an upgrade without a proof.  An
  offset of zero sets no limit.

  Main declarations:
    * `Params`
    * `Params.deadline`
-/

------------------------------------------------------------
-- Parameters
------------------------------------------------------------

namespace Interchain

/- How long an upgrade may take, and who may withdraw it. -/
structure Params where
  blocks : UInt64
  span : Span
  authority : Option Signer
  deriving DecidableEq

namespace Params

/- Ten minutes, and nobody in authority. -/
def standard : Params := ⟨0, Span.ofSeconds 600, none⟩

/- An upgrade that starts to flush needs a deadline. -/
def validate (p : Params) : Except ChannelError Unit :=
  if p.blocks = 0 ∧ p.span.isZero = true then
    .error (.invalidParams
      ("upgrade timeout height and timestamp offsets cannot " ++
        "both be zero"))
  else
    .ok ()

/- The account may act without a proof. -/
def isAuthority (p : Params) (s : Signer) : Bool :=
  p.authority == some s

end Params

end Interchain

------------------------------------------------------------
-- Deadlines
------------------------------------------------------------

namespace Interchain

namespace Params

/- The height of a timeout that is set now. -/
def deadlineHeight (p : Params) (now : Height) : TimeoutHeight :=
  if p.blocks = 0 then .never else .at (now.add p.blocks)

/- The time of a timeout that is set now. -/
def deadlineTime
    (p : Params)
    (now : Timestamp) :
    Except TimestampError Timestamp :=
  if p.span.isZero then .ok .unset else now.add p.span

/- The timeout of an upgrade that starts to flush now. -/
def deadline
    (p : Params)
    (height : Height)
    (timestamp : Timestamp) :
    Except ChannelError UpgradeTimeout :=
  match p.deadlineTime timestamp with
  | .ok time =>
      UpgradeTimeout.make (p.deadlineHeight height) time
  | .error cause => .error (.timestampOverflow cause)

end Params

end Interchain

------------------------------------------------------------
-- Written Parameters
------------------------------------------------------------

namespace Interchain

namespace Params

/- The record of the parameters. -/
def toJson (p : Params) : Json :=
  .object
    [ ("upgrade_timeout",
        .object
          [ ("height_offset", .ofWord p.blocks),
            ("timestamp_offset", .text p.span.spoken) ]),
      ("authority", .ofOption Signer.toJson p.authority) ]

/- Read the offsets of the timeout. -/
def offsetsOfJson? (value : Json) : Option (UInt64 × Span) := do
  match ← value.slots? .strict
      ["height_offset", "timestamp_offset"] with
  | [blocks, span] =>
      let blocks ←
        Json.withDefault? standard.blocks Json.word? blocks
      let span ← Json.withDefault? standard.span
        (fun v => v.text?.bind Span.ofSpoken?) span
      return (blocks, span)
  | _ => none

/- What a record leaves out is as in the standard. -/
def ofJson? (value : Json) : Option Params := do
  match ← value.slots? .strict
      ["upgrade_timeout", "authority"] with
  | [offsets, authority] =>
      let (blocks, span) ← Json.withDefault?
        (standard.blocks, standard.span) offsetsOfJson? offsets
      let authority ← Json.optional? Signer.ofJson? authority
      return ⟨blocks, span, authority⟩
  | _ => none

instance : Recorded Params := ⟨toJson, ofJson?⟩

end Params

end Interchain
