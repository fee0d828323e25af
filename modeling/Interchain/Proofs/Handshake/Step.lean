import Interchain.Proofs.Handshake.Plans

/-
  What a step of a chain can do to the records of a channel.

  The laws are about the records alone.  What a chain learns of
  its counterparty enters as an outlook: where connections
  lead, and which records were proven to it.

  An attempt proceeds by a proposal, by flushing and by being
  done with it, and it concludes when the channel opens with
  the new fields or is restored.  One step of a chain lets an
  attempt proceed and may conclude it.

  Main declarations:
    * `Outlook`
    * `Records.Proceeds`
    * `Records.Concludes`
    * `Records.Moves`
-/

------------------------------------------------------------
-- Outlooks
------------------------------------------------------------

namespace Interchain

/-
  How an end sees its counterparty: its own key, the connection
  that a connection leads to, the connections over which proofs
  can be checked, and the records that were proven.
-/
structure Outlook where
  key : ChannelKey
  across : ConnectionId → Option ConnectionId
  hears : ConnectionId → Prop
  proven : Records → Prop

namespace Outlook

variable (o : Outlook)

/- The counterparty's end mirrors an end, in a state, at the
   same attempt. -/
def Mirrors
    (c : ChannelEnd)
    (state : ChannelState)
    (seen : ChannelEnd) : Prop :=
  ∃ id hop,
    c.hop? = some id ∧ o.hears id ∧ o.across id = some hop ∧
      seen = c.mirrored state o.key hop c.upgradeSequence

/- Ends that mirror each other are at the same attempt. -/
theorem Mirrors.attempt_eq
    {o : Outlook}
    {c seen : ChannelEnd}
    {state : ChannelState}
    (hMirrors : o.Mirrors c state seen) :
    seen.upgradeSequence = c.upgradeSequence := by
  rcases hMirrors with ⟨id, hop, _, _, _, rfl⟩
  rfl

/- The counterparty's end is open with the fields that mirror
   a proposal. -/
def MirrorsOpened
    (c : ChannelEnd)
    (fields : UpgradeFields)
    (seen : ChannelEnd) : Prop :=
  ∃ id hop,
    fields.hop? = some id ∧ o.across id = some hop ∧
      seen = (c.applyFields fields).mirrored .open o.key hop
        c.upgradeSequence

/- Two proposals have one order and version, and the
   connection of the first leads to that of the second. -/
def Compatible (own counterparty : UpgradeFields) : Prop :=
  own.order = counterparty.order ∧
    own.version = counterparty.version ∧
    ∃ id, own.hop? = some id ∧
      o.across id = counterparty.hop?

end Outlook

end Interchain

------------------------------------------------------------
-- Steps of an Attempt
------------------------------------------------------------

namespace Interchain

namespace Records

/-
  An attempt goes on.  An end that flushes on an answer takes
  the version of the answer; one that answers keeps its own.
-/
inductive Proceeds (o : Outlook) (r : Records) :
    Records → Prop
  | resolve
      (s : Sequence) :
      Proceeds o r { r with inFlight := r.inFlight \ {s} }
  | propose
      (u : Upgrade)
      (last : Sequence)
      (hState : r.channel.state = .open)
      (hLast : r.channel.upgradeSequence ≤ last)
      (hValid : u.fields.validate = .ok ())
      (hChange : r.channel.fields ≠ u.fields) :
      Proceeds o r
        { r with
          channel :=
            { r.channel with upgradeSequence := last.next }
          upgrade? := some u }
  | flush
      (own settled answer : Upgrade)
      (seen : Records)
      (hState : r.channel.state = .open)
      (hOwn : r.upgrade? = some own)
      (hProven : o.proven seen)
      (hAnswer : seen.upgrade? = some answer)
      (hSeen :
        seen.channel.state = .open ∨
          seen.channel.state = .flushing)
      (hMirrors :
        o.Mirrors r.channel seen.channel.state seen.channel)
      (hFields :
        settled.fields = own.fields ∨
          seen.channel.state = .flushing ∧
            settled.fields =
              { own.fields with
                version := answer.fields.version })
      (hCompatible :
        o.Compatible settled.fields answer.fields) :
      Proceeds o r
        { r with
          channel := { r.channel with state := .flushing }
          upgrade? := some settled }
  | learn
      (counterparty : Upgrade)
      (hState : r.channel.state = .flushing) :
      Proceeds o r { r with counterparty? := some counterparty }
  | drain
      (hState : r.channel.state = .flushing)
      (hEmpty : r.inFlight = ∅) :
      Proceeds o r
        { r with
          channel := { r.channel with state := .flushComplete } }

/-
  An attempt ends.  Only an end that is done flushing opens
  with new fields, and such an end is restored on a proven
  receipt only.
-/
inductive Concludes (o : Outlook) (r : Records) :
    Records → Prop
  | reopen
      (u : Upgrade)
      (seen : Records)
      (hState : r.channel.state = .flushComplete)
      (hUpgrade : r.upgrade? = some u)
      (hProven : o.proven seen)
      (hSeen :
        o.Mirrors r.channel .flushComplete seen.channel ∨
          o.MirrorsOpened r.channel u.fields seen.channel) :
      Concludes o r (r.opened u)
  | abort
      (error : UpgradeError)
      (hUpgrade : r.upgrade?.isSome)
      (hState :
        r.channel.state = .open ∨ r.channel.state = .flushing)
      (hSequence :
        r.channel.upgradeSequence.previous ≤ error.sequence) :
      Concludes o r
        (r.restored
          (max r.channel.upgradeSequence error.sequence)
          error.receipt)
  | cancel
      (receipt : ErrorReceipt)
      (seen : Records)
      (hUpgrade : r.upgrade?.isSome)
      (hSequence :
        r.channel.upgradeSequence ≤ receipt.sequence)
      (hProven : o.proven seen)
      (hSeen : seen.receipt? = some receipt) :
      Concludes o r
        (r.restored
          (max r.channel.upgradeSequence receipt.sequence)
          receipt)
  | overrule
      (receipt : ErrorReceipt)
      (hUpgrade : r.upgrade?.isSome)
      (hSequence :
        r.channel.upgradeSequence ≤ receipt.sequence)
      (hState : r.channel.state ≠ .flushComplete) :
      Concludes o r
        (r.restored
          (max r.channel.upgradeSequence receipt.sequence)
          receipt)

end Records

end Interchain

------------------------------------------------------------
-- Moves
------------------------------------------------------------

namespace Interchain

namespace Records

/- What one step of a chain does to the records. -/
inductive Moves (o : Outlook) (r : Records) : Records → Prop
  | rest : Moves o r r
  | send
      (s : Sequence)
      (hState : r.channel.state = .open)
      (hNext : r.next? = some s) :
      Moves o r
        { r with
          inFlight := insert s r.inFlight
          next? := some s.next }
  | proceed
      {r' : Records}
      (hProceeds : Proceeds o r r') :
      Moves o r r'
  | proceedTwice
      {m r' : Records}
      (hFirst : Proceeds o r m)
      (hSecond : Proceeds o m r') :
      Moves o r r'
  | conclude
      {r' : Records}
      (hConcludes : Concludes o r r') :
      Moves o r r'
  | proceedConclude
      {m r' : Records}
      (hProceeds : Proceeds o r m)
      (hConcludes : Concludes o m r') :
      Moves o r r'

end Records

end Interchain
