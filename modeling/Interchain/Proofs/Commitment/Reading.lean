import Interchain.Fixture
import Interchain.Proofs.Commitment.Encoding
import Interchain.Proofs.Time.Writing

/-
  Committed records are read back.

  A record is read from its committed bytes as it was, if the
  heights and times in it were built from words: a timeout with
  a height of block zero would be read as never, and so would
  an instant in a leap second be read as another one.

  Main declarations:
    * `Recorded.ofBytes?`
    * `Upgrade.IsBuilt`

  Main statements:
    * `ChannelEnd.ofJson?_toJson`
    * `Upgrade.IsBuilt.ofJson?_toJson`
    * `Upgrade.IsBuilt.eq_of_committed_eq`
    * `committed_reads_back`
-/

------------------------------------------------------------
-- Names and Numbers
------------------------------------------------------------

namespace Interchain

@[simp] theorem PortId.ofJson?_toJson (id : PortId) :
    ofJson? id.toJson = some id := rfl

@[simp] theorem ChannelId.ofJson?_toJson (id : ChannelId) :
    ofJson? id.toJson = some id := rfl

@[simp] theorem ConnectionId.ofJson?_toJson (id : ConnectionId) :
    ofJson? id.toJson = some id := rfl

@[simp] theorem ChannelVersion.ofJson?_toJson (v : ChannelVersion) :
    ofJson? v.toJson = some v := rfl

@[simp] theorem Sequence.ofJson?_toJson (s : Sequence) :
    ofJson? s.toJson = some s := by
  simp [toJson, ofJson?]

@[simp] theorem ChannelState.ofJson?_toJson (state : ChannelState) :
    ofJson? state.toJson = some state := by
  cases state <;> rfl

@[simp] theorem ChannelOrder.ofJson?_toJson (order : ChannelOrder) :
    ofJson? order.toJson = some order := by
  cases order <;> rfl

end Interchain

------------------------------------------------------------
-- Channel Ends and Receipts
------------------------------------------------------------

namespace Interchain

@[simp] theorem ChannelPeer.ofJson?_toJson (p : ChannelPeer) :
    ofJson? p.toJson = some p := by
  have hSlots :
      p.toJson.slots? .lenient ["port_id", "channel_id"] =
        some
          [ some p.port.toJson,
            some (.ofOption ChannelId.toJson p.channel) ] :=
    Json.slots?_object (by simp)
  have hChannel :
      Json.optional? ChannelId.ofJson?
          (some (.ofOption ChannelId.toJson p.channel)) =
        some p.channel :=
    Json.optional?_ofOption _ _ (fun a => by simp [ChannelId.toJson])
      fun a _ => a.ofJson?_toJson
  simp [ofJson?, hSlots, Json.required?, hChannel]

@[simp] theorem UpgradeFields.ofJson?_toJson (f : UpgradeFields) :
    ofJson? f.toJson = some f := by
  have hSlots :
      f.toJson.slots? .lenient
          ["ordering", "connection_hops", "version"] =
        some
          [ some f.order.toJson,
            some (.array (f.hops.map ConnectionId.toJson)),
            some f.version.toJson ] :=
    Json.slots?_object (by simp)
  have hHops :=
    Json.list?_map ConnectionId.ofJson?_toJson f.hops
  simp [ofJson?, hSlots, Json.required?, hHops]

/- An end is read back from its record, whatever it is. -/
theorem ChannelEnd.ofJson?_toJson (c : ChannelEnd) :
    ofJson? c.toJson = some c := by
  have hSlots :
      c.toJson.slots? .lenient
          ["state", "ordering", "remote", "connection_hops",
            "version", "upgrade_sequence"] =
        some
          [ some c.state.toJson,
            some c.order.toJson,
            some c.peer.toJson,
            some (.array (c.hops.map ConnectionId.toJson)),
            some c.version.toJson,
            some c.upgradeSequence.toJson ] :=
    Json.slots?_object (by simp)
  have hHops :=
    Json.list?_map ConnectionId.ofJson?_toJson c.hops
  simp [ofJson?, hSlots, Json.required?, hHops]

/- A receipt is read back from its record, whatever it is. -/
theorem ErrorReceipt.ofJson?_toJson (r : ErrorReceipt) :
    ofJson? r.toJson = some r := by
  have hSlots :
      r.toJson.slots? .lenient ["sequence", "message"] =
        some [some r.sequence.toJson, some (.text r.message)] :=
    Json.slots?_object (by simp)
  simp [ofJson?, hSlots, Json.required?, Json.text?]

end Interchain

------------------------------------------------------------
-- Heights and Times
------------------------------------------------------------

namespace Interchain

@[simp] theorem Height.ofJson?_toJson (h : Height) :
    ofJson? h.toJson = some h := by
  have hSlots :
      h.toJson.slots? .lenient
          ["revision_number", "revision_height"] =
        some
          [ some (.ofWord h.revision),
            some (.ofWord h.block) ] :=
    Json.slots?_object (by simp)
  simp [ofJson?, hSlots, Json.required?]

/- A height that was made from two words. -/
def Height.IsBuilt (h : Height) : Prop :=
  ∃ revision block, make? revision block = some h

/- A timestamp that was made from a word of nanoseconds. -/
def Timestamp.IsBuilt (t : Timestamp) : Prop :=
  ∃ n, t = .ofNanoseconds n

/- A height that is set was built by the chain. -/
def TimeoutHeight.IsBuilt : TimeoutHeight → Prop
  | .never => True
  | .at height => height.IsBuilt

/- Both parts of a deadline were built by the chain. -/
structure UpgradeTimeout.IsBuilt (t : UpgradeTimeout) : Prop where
  height : t.height.IsBuilt
  timestamp : t.timestamp.IsBuilt

/- An upgrade whose timeout, if there is one, was built from
   words. -/
def Upgrade.IsBuilt (u : Upgrade) : Prop :=
  ∀ timeout ∈ u.timeout, timeout.IsBuilt

/- A height that was built can be built again. -/
theorem Height.IsBuilt.make?_eq
    {h : Height}
    (hBuilt : h.IsBuilt) :
    make? h.revision h.block = some h := by
  rcases hBuilt with ⟨revision, block, hMade⟩
  unfold make? at hMade
  split at hMade
  case isTrue => simp at hMade
  case isFalse hBlock =>
    cases hMade
    exact if_neg hBlock

/- A height was built exactly if its block is not zero. -/
theorem Height.isBuilt_iff {h : Height} :
    h.IsBuilt ↔ h.block ≠ 0 := by
  constructor
  · intro hBuilt hZero
    have hMade := hBuilt.make?_eq
    rw [make?, if_pos hZero] at hMade
    cases hMade
  · intro hBlock
    exact ⟨h.revision, h.block, if_neg hBlock⟩

/- A height that was built is read back from its record, as is
   none at all. -/
theorem TimeoutHeight.IsBuilt.ofJson?_toJson
    {t : TimeoutHeight}
    (hBuilt : t.IsBuilt) :
    ofJson? t.toJson = some t := by
  rw [ofJson?, toJson, Height.ofJson?_toJson, Option.map_some]
  cases t with
  | never => rfl
  | «at» height =>
      simp only [revision, block, hBuilt.make?_eq]

example :
    TimeoutHeight.ofJson? (TimeoutHeight.at ⟨1, 0⟩).toJson =
      some .never := by
  decide

/- A word of nanoseconds ends long before the calendar. -/
theorem Instant.isWithinCalendar_ofNanoseconds (n : UInt64) :
    (ofNanoseconds n.toNat).isWithinCalendar = true := by
  have hWord := n.toNat_lt
  have hFirst : Date.day ⟨Date.firstYear, 1, 1⟩ = -96465292 := by
    decide
  have hLast : Date.day ⟨Date.lastYear, 12, 31⟩ = 95026236 := by
    decide
  rw [isWithinCalendar_iff, hFirst, hLast]
  simp only [ofNanoseconds, Span.nanosPerSecond]
  omega

/- The time of a timestamp that was made from a word is read
   back from its written form. -/
theorem Timestamp.IsBuilt.ofText?_zulu
    {t : Timestamp}
    (hBuilt : t.IsBuilt)
    {i : Instant}
    (hTime : t.time = some i) :
    Instant.ofText? i.zulu = some i := by
  rcases hBuilt with ⟨n, rfl⟩
  have hWord : i = .ofNanoseconds n.toNat := by
    rw [ofNanoseconds] at hTime
    split at hTime
    case isTrue => simp [unset] at hTime
    case isFalse => exact (Option.some.inj hTime).symm
  have hNanos : i.nanos < Span.nanosPerSecond := by
    rw [hWord]
    exact Nat.mod_lt _ (by decide)
  have hCalendar : i.isWithinCalendar = true := by
    rw [hWord]
    exact Instant.isWithinCalendar_ofNanoseconds n
  exact Instant.ofText?_zulu hCalendar hNanos

/- A timestamp is read back from its record if its instant is
   from the written form. -/
theorem Timestamp.ofJson?_toJson
    {t : Timestamp}
    (hRead :
      ∀ i, t.time = some i → Instant.ofText? i.zulu = some i) :
    ofJson? t.toJson = some t := by
  have hSlots :
      t.toJson.slots? .lenient ["time"] =
        some [some (.ofOption (fun i => .text i.zulu) t.time)] :=
    Json.slots?_object (by simp)
  have hTime :
      Json.optional? (fun v => v.text?.bind Instant.ofText?)
          (some (.ofOption (fun i => .text i.zulu) t.time)) =
        some t.time := by
    refine Json.optional?_ofOption _ _ (by simp) ?_
    intro i hi
    rw [Json.text?, Option.bind_some]
    exact hRead i hi
  simp [ofJson?, hSlots, hTime]

/- A timestamp that was built is read back from its record. -/
theorem Timestamp.IsBuilt.ofJson?_toJson
    {t : Timestamp}
    (hBuilt : t.IsBuilt) :
    ofJson? t.toJson = some t :=
  Timestamp.ofJson?_toJson fun _ => hBuilt.ofText?_zulu

/- The time of a timestamp that is read was read from a
   text. -/
theorem Timestamp.exists_text_of_ofJson?
    {value : Json}
    {t : Timestamp}
    (hRead : ofJson? value = some t)
    {i : Instant}
    (hTime : t.time = some i) :
    ∃ text, Instant.ofText? text = some i := by
  simp only [ofJson?, Option.bind_eq_bind,
    Option.bind_eq_some_iff] at hRead
  rcases hRead with ⟨slots, -, hRead⟩
  split at hRead
  case h_1 slot =>
    rw [Option.bind_eq_some_iff] at hRead
    rcases hRead with ⟨time, hSlot, hRead⟩
    cases hRead
    cases hTime
    rcases Json.exists_of_optional?_eq_some hSlot with
      ⟨member, -, hMember⟩
    rw [Option.bind_eq_some_iff] at hMember
    rcases hMember with ⟨text, -, hText⟩
    exact ⟨text, hText⟩
  case h_2 => cases hRead

/- A deadline that was built is read back from its record. -/
theorem UpgradeTimeout.IsBuilt.ofJson?_toJson
    {t : UpgradeTimeout}
    (hBuilt : t.IsBuilt) :
    ofJson? t.toJson = some t := by
  have hSlots :
      t.toJson.slots? .lenient ["height", "timestamp"] =
        some
          [some t.height.toJson, some t.timestamp.toJson] :=
    Json.slots?_object (by simp)
  simp [ofJson?, hSlots, Json.required?,
    hBuilt.height.ofJson?_toJson,
    hBuilt.timestamp.ofJson?_toJson]

/- An upgrade that was built is read back from its record. -/
theorem Upgrade.IsBuilt.ofJson?_toJson
    {u : Upgrade}
    (hBuilt : u.IsBuilt) :
    ofJson? u.toJson = some u := by
  have hSlots :
      u.toJson.slots? .lenient
          ["fields", "timeout", "latest_sequence_send"] =
        some
          [ some u.fields.toJson,
            some (.ofOption UpgradeTimeout.toJson u.timeout),
            some u.latestSent.toJson ] :=
    Json.slots?_object (by simp)
  have hTimeout :
      Json.optional? UpgradeTimeout.ofJson?
          (some (.ofOption UpgradeTimeout.toJson u.timeout)) =
        some u.timeout :=
    Json.optional?_ofOption _ _
      (fun a => by simp [UpgradeTimeout.toJson])
      fun a ha => (hBuilt a ha).ofJson?_toJson
  simp [ofJson?, hSlots, Json.required?, hTimeout]

end Interchain

------------------------------------------------------------
-- Committed Bytes
------------------------------------------------------------

namespace Interchain

/- Read a record from the bytes of its text. -/
def Recorded.ofBytes?
    {α : Type}
    [Recorded α]
    (bytes : Bytes) :
    Option α :=
  bytes.text?.bind ofText?

/- A plain record is read from its bytes if it is read from
   its value. -/
theorem Recorded.ofBytes?_written
    {α : Type}
    [Recorded α]
    {a : α}
    (hPlain : (toJson a).isPlain = true)
    (hRead : ofJson? (toJson a) = some a) :
    ofBytes? (utf8 (written a)) = some a := by
  rw [ofBytes?, Bytes.text?_utf8, Option.bind_some, ofText?,
    written, Json.ofText?_render hPlain, Option.bind_some,
    hRead]

/- An end is read back from what is committed for it. -/
theorem ChannelEnd.ofBytes?_committed (c : ChannelEnd) :
    Recorded.ofBytes? (utf8 c.committed) = some c :=
  Recorded.ofBytes?_written c.isPlain_toJson c.ofJson?_toJson

/- A receipt is read back from what is committed for it. -/
theorem ErrorReceipt.ofBytes?_committed (r : ErrorReceipt) :
    Recorded.ofBytes? (utf8 r.committed) = some r :=
  Recorded.ofBytes?_written r.isPlain_toJson r.ofJson?_toJson

/- An upgrade that was built is read back from what is
   committed for it. -/
theorem Upgrade.IsBuilt.ofBytes?_committed
    {u : Upgrade}
    (hBuilt : u.IsBuilt) :
    Recorded.ofBytes? (utf8 u.committed) = some u :=
  Recorded.ofBytes?_written u.isPlain_toJson
    hBuilt.ofJson?_toJson

/- Built upgrades that are committed alike are the same. -/
theorem Upgrade.IsBuilt.eq_of_committed_eq
    {u v : Upgrade}
    (hBuilt : u.IsBuilt)
    (hOther : v.IsBuilt)
    (h : utf8 u.committed = utf8 v.committed) :
    u = v := by
  have hRead := hBuilt.ofBytes?_committed
  rw [h, hOther.ofBytes?_committed] at hRead
  exact (Option.some.inj hRead).symm

/-
  A channel end, an error receipt and a built upgrade are read
  back from their committed bytes, so that two different ones
  are never committed alike.
-/
theorem committed_reads_back :
    (∀ c : ChannelEnd,
      Recorded.ofBytes? (utf8 c.committed) = some c) ∧
    (∀ r : ErrorReceipt,
      Recorded.ofBytes? (utf8 r.committed) = some r) ∧
    (∀ u : Upgrade, u.IsBuilt →
      Recorded.ofBytes? (utf8 u.committed) = some u) ∧
    (∀ c d : ChannelEnd, c ≠ d →
      utf8 c.committed ≠ utf8 d.committed) ∧
    (∀ r s : ErrorReceipt, r ≠ s →
      utf8 r.committed ≠ utf8 s.committed) ∧
    (∀ u v : Upgrade, u.IsBuilt → v.IsBuilt → u ≠ v →
      utf8 u.committed ≠ utf8 v.committed) := by
  refine ⟨ChannelEnd.ofBytes?_committed,
    ErrorReceipt.ofBytes?_committed,
    fun u hBuilt => hBuilt.ofBytes?_committed, ?_, ?_, ?_⟩
  · intro c d hNe
    exact ChannelEnd.utf8_committed_injective.ne hNe
  · intro r s hNe
    exact ErrorReceipt.utf8_committed_injective.ne hNe
  · intro u v hBuilt hOther hNe hBytes
    exact hNe (hBuilt.eq_of_committed_eq hOther hBytes)

/- An upgrade of an unordered channel, with quotes in its
   version, that times out at a nanosecond or at a height. -/
def Fixture.datedUpgrade (latest : UInt64) : Upgrade where
  fields := ⟨.unordered, [.numbered 2], ⟨"\"ics20\"\n\\"⟩⟩
  timeout :=
    some
      ⟨.at ⟨1, 18446744073709551615⟩,
        .ofNanoseconds 1700000000123456789⟩
  latestSent := ⟨latest⟩

theorem Fixture.isBuilt_datedUpgrade (latest : UInt64) :
    (datedUpgrade latest).IsBuilt := by
  intro timeout hTimeout
  cases hTimeout
  exact
    ⟨⟨1, 18446744073709551615, by decide⟩,
      ⟨1700000000123456789, rfl⟩⟩

/- Two sample upgrades are read back, and told apart by what is
   committed for them. -/
theorem Fixture.sample_committed_reads_back :
    Recorded.ofBytes? (utf8 (datedUpgrade 7).committed) =
        some (datedUpgrade 7) ∧
      utf8 (datedUpgrade 7).committed ≠
        utf8 (datedUpgrade 8).committed := by
  rcases committed_reads_back with
    ⟨-, -, hRead, -, -, hApart⟩
  exact
    ⟨hRead _ (isBuilt_datedUpgrade 7),
      hApart _ _ (isBuilt_datedUpgrade 7)
        (isBuilt_datedUpgrade 8) (by decide)⟩

end Interchain
