import Interchain.Proofs.Commitment.Reading
import Interchain.Proofs.Decoding.Checked
import Interchain.Proofs.Json.Recorded

/-
  Which single values are read from texts.

  Every height, proof, prefix, version, signer and identifier
  is read from some text, also one that is refused where it is
  made.  A timeout is read unless its height has block zero, as
  such a height is read as never.

  Main statements:
    * `Height.hasForm`
    * `CommitmentPrefix.hasForm`
    * `ConnectionVersion.hasForm`
    * `TimeoutHeight.readsExactly`
    * `Timestamp.readsExactly`
    * `UpgradeTimeout.readsExactly`
-/

------------------------------------------------------------
-- Values of Every Kind
------------------------------------------------------------

namespace Interchain

open Recorded

/- A value that is written plainly and read back. -/
theorem Recorded.hasForm_of_written
    {α : Type}
    [Recorded α]
    {a : α}
    (hPlain : (toJson a).isPlain = true)
    (hRead : ofJson? (toJson a) = some a) :
    HasForm a :=
  ⟨toJson a, hPlain, hRead⟩

/- Any height can be read. -/
theorem Height.hasForm (h : Height) : HasForm h :=
  hasForm_of_written rfl h.ofJson?_toJson

@[simp] theorem CommitmentProof.ofJson?_toJson
    (proof : CommitmentProof) :
    ofJson? proof.toJson = some proof :=
  congrArg (Option.map mk) (Json.bytes?_ofBytes _)

@[simp] theorem CommitmentPrefix.ofJson?_toJson
    (start : CommitmentPrefix) :
    ofJson? start.toJson = some start :=
  congrArg (Option.map mk) (Json.bytes?_ofBytes _)

@[simp] theorem ClientId.ofJson?_toJson (id : ClientId) :
    ofJson? id.toJson = some id := rfl

@[simp] theorem Signer.ofJson?_toJson (signer : Signer) :
    ofJson? signer.toJson = some signer := rfl

/- Any proof can be read, an empty one as well. -/
theorem CommitmentProof.hasForm (proof : CommitmentProof) :
    HasForm proof :=
  hasForm_of_written (Json.isPlain_ofBytes _)
    proof.ofJson?_toJson

theorem CommitmentPrefix.hasForm (start : CommitmentPrefix) :
    HasForm start :=
  hasForm_of_written (Json.isPlain_ofBytes _)
    start.ofJson?_toJson

theorem Signer.hasForm (signer : Signer) : HasForm signer :=
  hasForm_of_written rfl signer.ofJson?_toJson

/- Any name of a client can be read. -/
theorem ClientId.hasForm (id : ClientId) : HasForm id :=
  hasForm_of_written rfl id.ofJson?_toJson

theorem ConnectionId.hasForm (id : ConnectionId) : HasForm id :=
  hasForm_of_written rfl id.ofJson?_toJson

theorem PortId.hasForm (id : PortId) : HasForm id :=
  hasForm_of_written rfl id.ofJson?_toJson

theorem ChannelId.hasForm (id : ChannelId) : HasForm id :=
  hasForm_of_written rfl id.ofJson?_toJson

theorem ConnectionVersion.isPlain_toJson (v : ConnectionVersion) :
    v.toJson.isPlain = true := by
  have hFeatures :=
    Json.isPlain_array_map Json.text v.features fun _ => rfl
  simpa [toJson, Json.isPlain, Json.arePlainMembers]
    using hFeatures

@[simp] theorem ConnectionVersion.ofJson?_toJson
    (v : ConnectionVersion) :
    ofJson? v.toJson = some v := by
  have hSlots :
      v.toJson.slots? .lenient ["identifier", "features"] =
        some
          [ some (.text v.identifier),
            some (.array (v.features.map .text)) ] :=
    Json.slots?_object (by simp)
  have hFeatures :
      Json.list? Json.text? (.array (v.features.map .text)) =
        some v.features :=
    @Json.list?_map String .text Json.text? (fun _ => rfl) _
  simp [ofJson?, hSlots, Json.required?, Json.text?, hFeatures]

/- Any version of connections can be read. -/
theorem ConnectionVersion.hasForm (v : ConnectionVersion) :
    HasForm v :=
  hasForm_of_written v.isPlain_toJson v.ofJson?_toJson

end Interchain

------------------------------------------------------------
-- Timeouts
------------------------------------------------------------

namespace Interchain

open Recorded

/- The height of a timeout that is read was built. -/
theorem TimeoutHeight.readsExactly :
    ReadsExactly TimeoutHeight.IsBuilt where
  property := by
    intro value t hRead
    change (Height.ofJson? value).map _ = some t at hRead
    rw [Option.map_eq_some_iff] at hRead
    rcases hRead with ⟨h, -, rfl⟩
    split
    case h_1 height hMade => exact ⟨_, _, hMade⟩
    case h_2 => trivial
  hasForm := by
    intro t hBuilt
    exact hasForm_of_written rfl hBuilt.ofJson?_toJson

/- A timestamp without a time, or with one that is read from a
   text. -/
theorem Timestamp.readsExactly :
    ReadsExactly fun t : Timestamp =>
      ∀ i ∈ t.time, ∃ text, Instant.ofText? text = some i where
  property := by
    intro value t hRead i hTime
    exact exists_text_of_ofJson? hRead hTime
  hasForm := by
    rintro ⟨_ | i⟩ hTexts
    · exact hasForm_of_written rfl rfl
    · rcases hTexts i rfl with ⟨text, hText⟩
      refine ⟨.object [("time", .text text)], rfl, ?_⟩
      have hSlots :
          (Json.object [("time", .text text)]).slots? .lenient
              ["time"] =
            some [some (.text text)] :=
        Json.slots?_object (by simp)
      change ofJson? _ = _
      simp [ofJson?, hSlots, Json.optional?, Json.text?, hText]

namespace UpgradeTimeout

/- The record of a timeout, with any value for its time. -/
def jsonWith (t : UpgradeTimeout) (time : Json) : Json :=
  .object [("height", t.height.toJson), ("timestamp", time)]

/- A timeout is read if its height was built and its time is
   read, also when neither of them is set. -/
theorem readsExactly :
    ReadsExactly fun t : UpgradeTimeout =>
      t.height.IsBuilt ∧ IsRead t.timestamp where
  property := by
    intro value t hRead
    change ofJson? value = some t at hRead
    simp only [ofJson?, Option.bind_eq_bind,
      Option.bind_eq_some_iff] at hRead
    rcases hRead with ⟨slots, -, hRead⟩
    split at hRead
    case h_1 first second =>
      simp only [Option.bind_eq_some_iff, Json.required?]
        at hRead
      rcases hRead with
        ⟨height, ⟨_, _, hHeight⟩, time, ⟨_, _, hTime⟩, hMade⟩
      cases hMade
      exact ⟨TimeoutHeight.readsExactly.property hHeight,
        Timestamp.readsExactly.isRead_of_ofJson? hTime⟩
    case h_2 => cases hRead
  hasForm := by
    rintro t ⟨hHeight, hTime⟩
    rcases Timestamp.readsExactly.hasForm_of_isRead hTime with
      ⟨value, hPlain, hRead⟩
    refine ⟨t.jsonWith value, ?_, ?_⟩
    · simp [jsonWith, Json.isPlain, Json.arePlainMembers,
        hPlain, TimeoutHeight.toJson, Height.toJson]
    · have hSlots :
          (t.jsonWith value).slots? .lenient
              ["height", "timestamp"] =
            some [some t.height.toJson, some value] :=
        Json.slots?_object (by simp)
      change Timestamp.ofJson? value = some t.timestamp at hRead
      change ofJson? (t.jsonWith value) = some t
      simp [ofJson?, hSlots, Json.required?,
        hHeight.ofJson?_toJson, hRead]

end UpgradeTimeout

end Interchain
