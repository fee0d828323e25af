import Interchain.Packet
import Interchain.Proofs.Time.Nanoseconds

/-
  Packet commitments bind.

  A commitment is made from a timeout, in words of fixed
  width, and from the digest of the data.  Never and a missing
  time are written as zeros, which no other timeout is that
  was built from words.  So two packets are committed alike
  exactly when their data and their timeouts are the same,
  provided that the digest tells them apart.

  Main declarations:
    * `Packet.TellsApart`

  Main statements:
    * `bigEndian_injective`
    * `Packet.preimage_eq_iff`
    * `Packet.commitment_binds`
-/

------------------------------------------------------------
-- Words
------------------------------------------------------------

namespace Interchain

theorem bigEndian_injective : Function.Injective bigEndian := by
  intro v w hBytes
  have hv := v.toNat_lt
  have hw := w.toNat_lt
  simp only [bigEndian, List.cons.injEq, and_true,
    ← UInt8.toNat_inj, UInt64.toNat_toUInt8,
    UInt64.toNat_shiftRight, Nat.shiftRight_eq_div_pow,
    UInt64.reduceToNat, Nat.reduceMod, Nat.reducePow]
    at hBytes
  apply UInt64.toNat_inj.mp
  omega

/- A word in front of other bytes can be split off. -/
theorem bigEndian_append_inj
    {v w : UInt64}
    {rest rest' : Bytes} :
    bigEndian v ++ rest = bigEndian w ++ rest' ↔
      v = w ∧ rest = rest' := by
  constructor
  · intro hBytes
    have hLength :
        (bigEndian v).length = (bigEndian w).length := by
      rw [length_bigEndian, length_bigEndian]
    rcases List.append_inj hBytes hLength with
      ⟨hWord, hRest⟩
    exact ⟨bigEndian_injective hWord, hRest⟩
  · rintro ⟨rfl, rfl⟩
    rfl

end Interchain

------------------------------------------------------------
-- Timeouts
------------------------------------------------------------

namespace Interchain

/- The zeros that never is written as are no height that was
   made. -/
theorem TimeoutHeight.IsBuilt.eq_iff
    {s t : TimeoutHeight}
    (hBuilt : s.IsBuilt)
    (hOther : t.IsBuilt) :
    s = t ↔ s.revision = t.revision ∧ s.block = t.block := by
  cases s with
  | never =>
      cases t with
      | never => simp
      | «at» height =>
          have hBlock := Height.isBuilt_iff.mp hOther
          simp [revision, block, hBlock.symm]
  | «at» height =>
      cases t with
      | never =>
          have hBlock := Height.isBuilt_iff.mp hBuilt
          simp [revision, block, hBlock]
      | «at» height' =>
          cases height
          cases height'
          simp [revision, block]

/- Timestamps that were built are told apart by their words. -/
theorem Timestamp.IsBuilt.eq_iff
    {s t : Timestamp}
    (hBuilt : s.IsBuilt)
    (hOther : t.IsBuilt) :
    s = t ↔ s.nanoseconds = t.nanoseconds := by
  constructor
  · rintro rfl
    rfl
  · intro hWord
    rw [← hBuilt.isFaithful.returns, hWord,
      hOther.isFaithful.returns]

end Interchain

------------------------------------------------------------
-- Commitments
------------------------------------------------------------

namespace Interchain

namespace Packet

variable {hash : Hash} {p q : Packet}

/- Packets are hashed alike if they agree on the deadline and
   on the digest of their data. -/
theorem preimage_eq_iff :
    p.preimage hash = q.preimage hash ↔
      p.timeoutTime.nanoseconds = q.timeoutTime.nanoseconds ∧
      p.timeoutHeight.revision = q.timeoutHeight.revision ∧
      p.timeoutHeight.block = q.timeoutHeight.block ∧
      hash p.data = hash q.data := by
  simp only [preimage, List.append_assoc, bigEndian_append_inj]

/- The digest has no collision among the byte strings that the
   commitments to two packets are made of. -/
def TellsApart (hash : Hash) (p q : Packet) : Prop :=
  (hash p.data = hash q.data → p.data = q.data) ∧
    (hash (p.preimage hash) = hash (q.preimage hash) →
      p.preimage hash = q.preimage hash)

instance (hash : Hash) (p q : Packet) :
    Decidable (TellsApart hash p q) :=
  inferInstanceAs
    (Decidable
      ((hash p.data = hash q.data → p.data = q.data) ∧
        (hash (p.preimage hash) = hash (q.preimage hash) →
          p.preimage hash = q.preimage hash)))

/-
  Packets whose timeouts were built from words are committed
  alike if and only if data, timeout height and timeout time
  are the same, whatever their sequences and channels are.
-/
theorem commitment_binds
    (hash : Hash)
    (p q : Packet)
    (hHeight : p.timeoutHeight.IsBuilt)
    (hHeight' : q.timeoutHeight.IsBuilt)
    (hTime : p.timeoutTime.IsBuilt)
    (hTime' : q.timeoutTime.IsBuilt)
    (hApart : TellsApart hash p q) :
    p.commitment hash = q.commitment hash ↔
      p.data = q.data ∧
        p.timeoutHeight = q.timeoutHeight ∧
        p.timeoutTime = q.timeoutTime := by
  have hPreimage :
      p.commitment hash = q.commitment hash ↔
        p.preimage hash = q.preimage hash := by
    rw [commitment, commitment, PacketCommitment.mk.injEq]
    exact ⟨hApart.2, congrArg hash⟩
  have hData :
      hash p.data = hash q.data ↔ p.data = q.data :=
    ⟨hApart.1, congrArg hash⟩
  rw [hPreimage, preimage_eq_iff, hData,
    hHeight.eq_iff hHeight', hTime.eq_iff hTime']
  constructor
  · rintro ⟨hWord, hRevision, hBlock, hSame⟩
    exact ⟨hSame, ⟨hRevision, hBlock⟩, hWord⟩
  · rintro ⟨hSame, ⟨hRevision, hBlock⟩, hWord⟩
    exact ⟨hWord, hRevision, hBlock, hSame⟩

end Packet

namespace Fixture

/- A packet that times out after five nanoseconds. -/
def timedPacket : Packet :=
  { Packet.blank with
    data := utf8 "hello",
    timeoutTime := .ofNanoseconds 5 }

/- A packet that times out at the fifth block. -/
def heightPacket : Packet :=
  { Packet.blank with
    data := utf8 "hello",
    timeoutHeight := .at ⟨0, 5⟩ }

/- One sample packet times out by time, the other one by
   height: their commitments differ. -/
theorem sample_commitment_binds :
    timedPacket.timeoutHeight.IsBuilt ∧
      heightPacket.timeoutHeight.IsBuilt ∧
      timedPacket.timeoutTime.IsBuilt ∧
      heightPacket.timeoutTime.IsBuilt ∧
      Packet.TellsApart sha256 timedPacket heightPacket ∧
      timedPacket.commitment sha256 ≠
        heightPacket.commitment sha256 := by
  have hHeight : timedPacket.timeoutHeight.IsBuilt := trivial
  have hHeight' : heightPacket.timeoutHeight.IsBuilt :=
    ⟨0, 5, by decide⟩
  have hTime : timedPacket.timeoutTime.IsBuilt := ⟨5, rfl⟩
  have hTime' : heightPacket.timeoutTime.IsBuilt := ⟨0, rfl⟩
  have hApart :
      Packet.TellsApart sha256 timedPacket heightPacket := by
    decide +kernel
  refine ⟨hHeight, hHeight', hTime, hTime', hApart, ?_⟩
  rw [ne_eq,
    Packet.commitment_binds sha256 timedPacket heightPacket
      hHeight hHeight' hTime hTime' hApart]
  decide

end Fixture

end Interchain
