import Interchain.Channel.Error
import Interchain.Channel.Version

/-
  The fields of a channel that an upgrade can change.

  Main declarations:
    * `UpgradeFields`
    * `UpgradeFields.validate`
-/

------------------------------------------------------------
-- Fields
------------------------------------------------------------

namespace Interchain

/- What an upgrade changes of a channel. -/
structure UpgradeFields where
  order : ChannelOrder
  hops : List ConnectionId
  version : ChannelVersion
  deriving DecidableEq

namespace UpgradeFields

/- The connection that the channel runs over. -/
def hop? (f : UpgradeFields) : Option ConnectionId :=
  f.hops.head?

/- A definite order, a single hop, and a version. -/
def validate (f : UpgradeFields) : Except ChannelError Unit :=
  if f.order = .uninitialized then .error .invalidOrder
  else if f.hops.length ≠ 1 then
    .error (.hopCount 1 f.hops.length)
  else if f.version.isBlank then .error .emptyVersion
  else .ok ()

/- Fields are valid with an order, one connection and a version
   that is not blank. -/
theorem validate_eq_ok_iff (f : UpgradeFields) :
    f.validate = .ok () ↔
      f.order ≠ .uninitialized ∧ f.hops.length = 1 ∧
        f.version.isBlank = false := by
  unfold validate
  split
  · simp_all
  · split
    · simp_all
    · split <;> simp_all

/- How the fields are written in a message. -/
def display (f : UpgradeFields) : String :=
  "UpgradeFields \x7b ordering: " ++ f.order.name ++
    ", connection_hops: " ++
    Text.listing (f.hops.map ConnectionId.text) ++
    ", version: " ++ f.version.text ++ " \x7d"

/- The record of the fields. -/
def toJson (f : UpgradeFields) : Json :=
  .object
    [ ("ordering", f.order.toJson),
      ("connection_hops",
        .array (f.hops.map ConnectionId.toJson)),
      ("version", f.version.toJson) ]

/- The fields that a record describes. -/
def ofJson? (value : Json) : Option UpgradeFields := do
  match ← value.slots? .lenient
      ["ordering", "connection_hops", "version"] with
  | [order, hops, version] =>
      let order ← Json.required? ChannelOrder.ofJson? order
      let hops ← Json.required?
        (Json.list? ConnectionId.ofJson?) hops
      let version ←
        Json.required? ChannelVersion.ofJson? version
      return ⟨order, hops, version⟩
  | _ => none

instance : Recorded UpgradeFields := ⟨toJson, ofJson?⟩

end UpgradeFields

end Interchain
