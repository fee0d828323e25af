import Interchain.Packet
import Interchain.Proofs.Decoding.Values
import Interchain.Proofs.Identifier.Acceptance

/-
  Which records are read from texts.

  A record is read if the values in it are read by themselves,
  and it looks at none of them again.  So whatever a value must
  not be, no record refuses it either.

  Main statements:
    * `ChannelEnd.hasForm`
    * `Upgrade.readsExactly`
    * `ConnectionEnd.readsExactly`
    * `Packet.readsExactly`
    * `Params.readsExactly`
    * `Recorded.reads_unchecked_values`
-/

------------------------------------------------------------
-- Channels and Upgrades
------------------------------------------------------------

namespace Interchain

open Recorded

/- Any end can be read. -/
theorem ChannelEnd.hasForm (c : ChannelEnd) : HasForm c :=
  hasForm_of_written c.isPlain_toJson c.ofJson?_toJson

namespace Upgrade

/- The record of an upgrade, with any value for its timeout. -/
def jsonWith (u : Upgrade) (timeout : Json) : Json :=
  .object
    [ ("fields", u.fields.toJson),
      ("timeout", timeout),
      ("latest_sequence_send", u.latestSent.toJson) ]

/- The deadline of an upgrade decides whether it can be read. -/
theorem readsExactly :
    ReadsExactly fun u : Upgrade =>
      ∀ t ∈ u.timeout, IsRead t where
  property := by
    intro value u hRead t hTimeout
    change ofJson? value = some u at hRead
    simp only [ofJson?, Option.bind_eq_bind,
      Option.bind_eq_some_iff] at hRead
    rcases hRead with ⟨slots, -, hRead⟩
    split at hRead
    case h_1 first second third =>
      simp only [Option.bind_eq_some_iff] at hRead
      rcases hRead with
        ⟨fields, -, timeout, hSlot, latest, -, hMade⟩
      cases hMade
      cases hTimeout
      rcases Json.exists_of_optional?_eq_some hSlot with
        ⟨member, -, hMember⟩
      exact
        UpgradeTimeout.readsExactly.isRead_of_ofJson? hMember
    case h_2 => cases hRead
  hasForm := by
    intro u hTimeout
    have hNull (t : UpgradeTimeout) :
        Recorded.ofJson? .null ≠ some t := by
      intro hRead
      cases hRead
    have hForms : ∀ t ∈ u.timeout, HasForm t := by
      intro t ht
      exact UpgradeTimeout.readsExactly.hasForm_of_isRead
        (hTimeout t ht)
    rcases exists_optional_form hNull hForms with
      ⟨value, hPlain, hRead⟩
    refine ⟨u.jsonWith value, ?_, ?_⟩
    · simp [jsonWith, Json.isPlain, Json.arePlainMembers,
        hPlain, u.fields.isPlain_toJson, Sequence.toJson]
    · have hSlots :
          (u.jsonWith value).slots? .lenient
              ["fields", "timeout", "latest_sequence_send"] =
            some
              [ some u.fields.toJson,
                some value,
                some u.latestSent.toJson ] :=
        Json.slots?_object (by simp)
      change
        Json.optional? UpgradeTimeout.ofJson? (some value) =
          some u.timeout at hRead
      change ofJson? (u.jsonWith value) = some u
      simp [ofJson?, hSlots, Json.required?, hRead]

end Upgrade

end Interchain

------------------------------------------------------------
-- Connections
------------------------------------------------------------

namespace Interchain

open Recorded

/- A span that is read has less than a second in its
   nanoseconds. -/
theorem Span.nanos_lt_of_ofParts?
    {seconds nanos : Nat}
    {s : Span}
    (hParts : ofParts? seconds nanos = some s) :
    s.nanos.toNat < nanosPerSecond := by
  simp only [ofParts?, Option.ite_none_right_eq_some]
    at hParts
  rcases hParts with ⟨-, hMade⟩
  cases hMade
  simp only [nanosPerSecond, UInt32.toNat_ofNat']
  omega

/- Such a span is read back. -/
theorem Span.ofParts?_of_lt
    {s : Span}
    (hNanos : s.nanos.toNat < nanosPerSecond) :
    ofParts? s.seconds.toNat s.nanos.toNat = some s := by
  have hWord := s.seconds.toNat_lt
  rw [ofParts?, Nat.div_eq_of_lt hNanos,
    Nat.mod_eq_of_lt hNanos, Nat.add_zero, if_pos hWord,
    UInt64.ofNat_toNat, UInt32.ofNat_toNat]

/- Nanoseconds past a second are carried. -/
theorem Span.readsExactly :
    ReadsExactly fun s : Span =>
      s.nanos.toNat < Span.nanosPerSecond where
  property := by
    intro value s hRead
    change ofJson? value = some s at hRead
    simp only [ofJson?, Option.bind_eq_bind,
      Option.ite_none_right_eq_some,
      Option.bind_eq_some_iff] at hRead
    rcases hRead with ⟨-, slots, -, hRead⟩
    split at hRead
    case h_1 first second =>
      simp only [Option.bind_eq_some_iff] at hRead
      rcases hRead with ⟨seconds, -, nanos, -, hParts⟩
      exact nanos_lt_of_ofParts? hParts
    case h_2 => cases hRead
  hasForm := by
    intro s hNanos
    have hSlots :
        s.toJson.slots? .strict ["secs", "nanos"] =
          some
            [ some (.ofWord s.seconds),
              some (.natural s.nanos.toNat) ] :=
      Json.slots?_object (by simp)
    have hBelow : s.nanos.toNat < UInt32.size :=
      s.nanos.toNat_lt
    refine hasForm_of_written rfl ?_
    change ofJson? s.toJson = some s
    simp only [ofJson?, hSlots, Option.bind_eq_bind,
      Option.bind_some, Json.required?, Json.word?_ofWord,
      Json.below?, if_pos hBelow, ofParts?_of_lt hNanos]
    rfl

theorem ConnectionPeer.isPlain_toJson (p : ConnectionPeer) :
    p.toJson.isPlain = true := by
  have hConnection :=
    Json.isPlain_ofOption ConnectionId.toJson p.connection
      fun _ => rfl
  simp [toJson, Json.isPlain, Json.arePlainMembers,
    ClientId.toJson, CommitmentPrefix.toJson, hConnection]

/- A peer is read back from its record, whatever it is. -/
@[simp] theorem ConnectionPeer.ofJson?_toJson (p : ConnectionPeer) :
    ofJson? p.toJson = some p := by
  have hSlots :
      p.toJson.slots? .lenient
          ["client_id", "connection_id", "prefix"] =
        some
          [ some p.client.toJson,
            some (.ofOption ConnectionId.toJson p.connection),
            some p.storePrefix.toJson ] :=
    Json.slots?_object (by simp)
  have hConnection :
      Json.optional? ConnectionId.ofJson?
          (some (.ofOption ConnectionId.toJson p.connection)) =
        some p.connection :=
    Json.optional?_ofOption _ _
      (fun a => by simp [ConnectionId.toJson])
      fun a _ => a.ofJson?_toJson
  simp [ofJson?, hSlots, Json.required?, hConnection]

namespace ConnectionEnd

/- The record of an end, with any value for its delay. -/
def jsonWith (c : ConnectionEnd) (delay : Json) : Json :=
  .object
    [ ("state", c.state.toJson),
      ("client_id", c.client.toJson),
      ("counterparty", c.peer.toJson),
      ("versions",
        .array (c.versions.map ConnectionVersion.toJson)),
      ("delay_period", delay) ]

/- The delay of a connection decides whether it can be read. -/
theorem readsExactly :
    ReadsExactly fun c : ConnectionEnd => IsRead c.delay where
  property := by
    intro value c hRead
    change ofJson? value = some c at hRead
    simp only [ofJson?, Option.bind_eq_bind,
      Option.bind_eq_some_iff] at hRead
    rcases hRead with ⟨slots, -, hRead⟩
    split at hRead
    case h_1 first second third fourth fifth =>
      simp only [Option.bind_eq_some_iff, Json.required?]
        at hRead
      rcases hRead with
        ⟨_, _, _, _, _, _, _, _, delay, ⟨_, _, hDelay⟩, hMade⟩
      cases hMade
      exact Span.readsExactly.isRead_of_ofJson? hDelay
    case h_2 => cases hRead
  hasForm := by
    intro c hDelay
    rcases Span.readsExactly.hasForm_of_isRead hDelay with
      ⟨value, hPlain, hRead⟩
    refine ⟨c.jsonWith value, ?_, ?_⟩
    · have hVersions :=
        Json.isPlain_array_map ConnectionVersion.toJson
          c.versions ConnectionVersion.isPlain_toJson
      simp [jsonWith, Json.isPlain, Json.arePlainMembers,
        hPlain, ConnectionState.toJson, ClientId.toJson,
        c.peer.isPlain_toJson] at hVersions ⊢
      exact hVersions
    · have hSlots :
          (c.jsonWith value).slots? .lenient
              ["state", "client_id", "counterparty",
                "versions", "delay_period"] =
            some
              [ some c.state.toJson,
                some c.client.toJson,
                some c.peer.toJson,
                some (.array
                  (c.versions.map ConnectionVersion.toJson)),
                some value ] :=
        Json.slots?_object (by simp)
      have hState :
          ConnectionState.ofJson? c.state.toJson =
            some c.state := by
        cases c.state <;> rfl
      have hVersions :=
        Json.list?_map ConnectionVersion.ofJson?_toJson
          c.versions
      change Span.ofJson? value = some c.delay at hRead
      change ofJson? (c.jsonWith value) = some c
      simp [ofJson?, hSlots, Json.required?, hState, hVersions,
        hRead]

end ConnectionEnd

end Interchain

------------------------------------------------------------
-- Packets
------------------------------------------------------------

namespace Interchain

open Recorded

namespace Packet

/- The record of a packet, with any value for its time. -/
def jsonWith (p : Packet) (time : Json) : Json :=
  .object
    [ ("sequence", p.sequence.toJson),
      ("source_port", p.source.port.toJson),
      ("source_channel", p.source.channel.toJson),
      ("destination_port", p.destination.port.toJson),
      ("destination_channel", p.destination.channel.toJson),
      ("data", .ofBytes p.data),
      ("timeout_height", p.timeoutHeight.toJson),
      ("timeout_timestamp", time) ]

/- The deadline of a packet decides whether it can be read. -/
theorem readsExactly :
    ReadsExactly fun p : Packet =>
      IsRead p.timeoutHeight ∧ IsRead p.timeoutTime where
  property := by
    intro value p hRead
    change ofJson? value = some p at hRead
    simp only [ofJson?, Option.bind_eq_bind,
      Option.bind_eq_some_iff] at hRead
    rcases hRead with ⟨slots, -, hRead⟩
    split at hRead
    case h_1 =>
      simp only [Option.bind_eq_some_iff, Json.required?]
        at hRead
      rcases hRead with
        ⟨_, _, _, _, _, _, _, _, _, _, _, _,
          height, ⟨_, _, hHeight⟩, time, ⟨_, _, hTime⟩, hMade⟩
      cases hMade
      exact
        ⟨TimeoutHeight.readsExactly.isRead_of_ofJson? hHeight,
          Timestamp.readsExactly.isRead_of_ofJson? hTime⟩
    case h_2 => cases hRead
  hasForm := by
    rintro p ⟨hHeight, hTime⟩
    have hBuilt := TimeoutHeight.readsExactly.isRead_iff.mp hHeight
    rcases Timestamp.readsExactly.hasForm_of_isRead hTime with
      ⟨value, hPlain, hRead⟩
    refine ⟨p.jsonWith value, ?_, ?_⟩
    · simp [jsonWith, Json.isPlain, Json.arePlainMembers,
        hPlain, Sequence.toJson, PortId.toJson,
        ChannelId.toJson, TimeoutHeight.toJson, Height.toJson]
    · have hSlots :
          (p.jsonWith value).slots? .lenient
              ["sequence", "source_port", "source_channel",
                "destination_port", "destination_channel",
                "data", "timeout_height",
                "timeout_timestamp"] =
            some
              [ some p.sequence.toJson,
                some p.source.port.toJson,
                some p.source.channel.toJson,
                some p.destination.port.toJson,
                some p.destination.channel.toJson,
                some (.ofBytes p.data),
                some p.timeoutHeight.toJson,
                some value ] :=
        Json.slots?_object (by simp)
      change
        Timestamp.ofJson? value = some p.timeoutTime at hRead
      change ofJson? (p.jsonWith value) = some p
      simp [ofJson?, hSlots, Json.required?, Json.bytes?_ofBytes,
        hBuilt.ofJson?_toJson, hRead]

end Packet

end Interchain

------------------------------------------------------------
-- Parameters
------------------------------------------------------------

namespace Interchain

open Recorded

namespace Params

/- The record of the offsets, with any text for the span. -/
def offsetsWith (p : Params) (spoken : String) : Json :=
  .object
    [ ("height_offset", .ofWord p.blocks),
      ("timestamp_offset", .text spoken) ]

/- The record of parameters, with any text for the span. -/
def jsonWith (p : Params) (spoken : String) : Json :=
  .object
    [ ("upgrade_timeout", p.offsetsWith spoken),
      ("authority", .ofOption Signer.toJson p.authority) ]

/- The span that stands for a missing one. -/
theorem ofSpoken?_standard :
    Span.ofSpoken? "10m" = some standard.span := by
  decide +kernel

/- The offsets are read back, if the span is as it is spoken. -/
theorem offsetsOfJson?_offsetsWith
    {p : Params}
    {spoken : String}
    (hSpoken : Span.ofSpoken? spoken = some p.span) :
    offsetsOfJson? (p.offsetsWith spoken) =
      some (p.blocks, p.span) := by
  have hSlots :
      (p.offsetsWith spoken).slots? .strict
          ["height_offset", "timestamp_offset"] =
        some [some (.ofWord p.blocks), some (.text spoken)] :=
    Json.slots?_object (by simp)
  simp [offsetsOfJson?, hSlots, Json.withDefault?, Json.text?,
    hSpoken]

/- A span that is read was spoken. -/
theorem exists_spoken_of_offsetsOfJson?
    {value : Json}
    {blocks : UInt64}
    {span : Span}
    (hRead : offsetsOfJson? value = some (blocks, span)) :
    ∃ spoken, Span.ofSpoken? spoken = some span := by
  simp only [offsetsOfJson?, Option.bind_eq_bind,
    Option.bind_eq_some_iff] at hRead
  rcases hRead with ⟨slots, -, hRead⟩
  split at hRead
  case h_1 first second =>
    simp only [Option.bind_eq_some_iff] at hRead
    rcases hRead with ⟨_, -, _, hSpan, hMade⟩
    cases hMade
    rcases Json.withDefault?_eq_some hSpan with
      rfl | ⟨member, hMember⟩
    · exact ⟨"10m", ofSpoken?_standard⟩
    · rw [Option.bind_eq_some_iff] at hMember
      rcases hMember with ⟨spoken, -, hSpoken⟩
      exact ⟨spoken, hSpoken⟩
  case h_2 => cases hRead

/- Parameters can be read if their span can be spoken. -/
theorem readsExactly :
    ReadsExactly fun p : Params =>
      ∃ spoken, Span.ofSpoken? spoken = some p.span where
  property := by
    intro value p hRead
    change ofJson? value = some p at hRead
    simp only [ofJson?, Option.bind_eq_bind,
      Option.bind_eq_some_iff] at hRead
    rcases hRead with ⟨slots, -, hRead⟩
    split at hRead
    case h_1 first second =>
      simp only [Option.bind_eq_some_iff, Prod.exists] at hRead
      rcases hRead with
        ⟨blocks, span, hOffsets, authority, -, hMade⟩
      cases hMade
      rcases Json.withDefault?_eq_some hOffsets with
        hStandard | ⟨member, hMember⟩
      · cases hStandard
        exact ⟨"10m", ofSpoken?_standard⟩
      · exact exists_spoken_of_offsetsOfJson? hMember
    case h_2 => cases hRead
  hasForm := by
    rintro p ⟨spoken, hSpoken⟩
    refine ⟨p.jsonWith spoken, ?_, ?_⟩
    · have hAuthority :=
        Json.isPlain_ofOption Signer.toJson p.authority
          fun _ => rfl
      simp [jsonWith, offsetsWith, Json.isPlain,
        Json.arePlainMembers, hAuthority]
    · have hSlots :
          (p.jsonWith spoken).slots? .strict
              ["upgrade_timeout", "authority"] =
            some
              [ some (p.offsetsWith spoken),
                some
                  (.ofOption Signer.toJson p.authority) ] :=
        Json.slots?_object (by simp)
      have hAuthority :
          Json.optional? Signer.ofJson?
              (some (.ofOption Signer.toJson p.authority)) =
            some p.authority :=
        Json.optional?_ofOption _ _
          (fun a => by simp [Signer.toJson])
          fun a _ => a.ofJson?_toJson
      change ofJson? (p.jsonWith spoken) = some p
      simp [ofJson?, hSlots, Json.withDefault?,
        offsetsOfJson?_offsetsWith hSpoken, hAuthority]

end Params

end Interchain

------------------------------------------------------------
-- Unchecked Values
------------------------------------------------------------

namespace Interchain

/-
  A height, a proof, a prefix, a version, a signer and an
  identifier are read from a text whatever they hold, while the
  functions that make them refuse some.  Only the height of a
  timeout is checked when it is read; the timeout is read also
  if neither part is set.  And a record is read if the values
  in it are read alone.
-/
theorem Recorded.reads_unchecked_values
    (h : Height)
    (proof : CommitmentProof)
    (start : CommitmentPrefix)
    (v : ConnectionVersion)
    (signer : Signer)
    (client : ClientId)
    (connection : ConnectionId)
    (port : PortId)
    (channel : ChannelId)
    (timeoutHeight : TimeoutHeight)
    (t : UpgradeTimeout)
    (c : ChannelEnd)
    (u : Upgrade)
    (e : ConnectionEnd)
    (p : Packet)
    (params : Params) :
    (IsRead h ∧ (h.IsBuilt ↔ h.block ≠ 0)) ∧
    (IsRead proof ∧ (proof.IsChecked ↔ proof.bytes ≠ [])) ∧
    (IsRead start ∧ (start.IsChecked ↔ start.bytes ≠ [])) ∧
    (IsRead v ∧
      (v.IsChecked ↔
        Text.isBlankText v.identifier = false ∧
          ∀ feature ∈ v.features,
            Text.isBlankText feature = false)) ∧
    (IsRead signer ∧
      (signer.IsChecked ↔
        Text.isBlankText signer.text = false)) ∧
    (IsRead client ∧
      (client.IsChecked ↔
        Identifier.IsAdmitted 9 64 client.text)) ∧
    (IsRead connection ∧
      (connection.IsChecked ↔
        Identifier.IsAdmitted 10 64 connection.text)) ∧
    (IsRead port ∧
      (port.IsChecked ↔
        Identifier.IsAdmitted 2 128 port.text)) ∧
    (IsRead channel ∧
      (channel.IsChecked ↔
        Identifier.IsAdmitted 8 64 channel.text)) ∧
    (IsRead timeoutHeight ↔ timeoutHeight.IsBuilt) ∧
    ((IsRead t ↔ t.height.IsBuilt ∧ IsRead t.timestamp) ∧
      (t.IsChecked ↔
        t.height ≠ .never ∨ t.timestamp ≠ .unset)) ∧
    IsRead c ∧
    (IsRead u ↔ ∀ timeout ∈ u.timeout, IsRead timeout) ∧
    (IsRead e ↔ IsRead e.delay) ∧
    (IsRead p ↔
      IsRead p.timeoutHeight ∧ IsRead p.timeoutTime) ∧
    (IsRead params ↔
      ∃ spoken, Span.ofSpoken? spoken = some params.span) :=
  ⟨⟨h.hasForm.isRead, Height.isBuilt_iff⟩,
    ⟨proof.hasForm.isRead, CommitmentProof.isChecked_iff⟩,
    ⟨start.hasForm.isRead, CommitmentPrefix.isChecked_iff⟩,
    ⟨v.hasForm.isRead, ConnectionVersion.isChecked_iff⟩,
    ⟨signer.hasForm.isRead, Signer.isChecked_iff⟩,
    ⟨client.hasForm.isRead, ClientId.isChecked_iff⟩,
    ⟨connection.hasForm.isRead, ConnectionId.isChecked_iff⟩,
    ⟨port.hasForm.isRead, PortId.isChecked_iff⟩,
    ⟨channel.hasForm.isRead, ChannelId.isChecked_iff⟩,
    TimeoutHeight.readsExactly.isRead_iff,
    ⟨UpgradeTimeout.readsExactly.isRead_iff,
      UpgradeTimeout.isChecked_iff⟩,
    c.hasForm.isRead,
    Upgrade.readsExactly.isRead_iff,
    ConnectionEnd.readsExactly.isRead_iff,
    Packet.readsExactly.isRead_iff,
    Params.readsExactly.isRead_iff⟩

/- A height with block zero, an empty proof, a timeout that
   never elapses, and parameters with a blank authority. -/
theorem Fixture.sample_unchecked_reads :
    Recorded.ofText?
        "\x7b\"revision_number\":1,\"revision_height\":0\x7d" =
      some (⟨1, 0⟩ : Height) ∧
    ¬ Height.IsBuilt ⟨1, 0⟩ ∧
    Recorded.ofText? "[]" = some (⟨[]⟩ : CommitmentProof) ∧
    ¬ CommitmentProof.IsChecked ⟨[]⟩ ∧
    Recorded.ofText?
        ("\x7b\"height\":\x7b\"revision_number\":0," ++
          "\"revision_height\":0\x7d," ++
          "\"timestamp\":\x7b\"time\":null\x7d\x7d") =
      some (⟨.never, .unset⟩ : UpgradeTimeout) ∧
    ¬ UpgradeTimeout.IsChecked ⟨.never, .unset⟩ ∧
    Recorded.ofText? "\x7b\"authority\":\" \"\x7d" =
      some
        ({ Params.standard with authority := some ⟨" "⟩ } :
          Params) ∧
    ¬ Signer.IsChecked ⟨" "⟩ := by
  rw [Height.isBuilt_iff, CommitmentProof.isChecked_iff,
    UpgradeTimeout.isChecked_iff, Signer.isChecked_iff]
  decide +kernel

end Interchain
