import Interchain.Connection.End
import Interchain.Params
import Mathlib.Logic.Basic

/-
  Which values are made by the functions that check them.

  A proof, a prefix, a connection version, an upgrade timeout
  and a signer each have a function that makes them and refuses
  what they must not be.

  Main declarations:
    * `CommitmentProof.IsChecked`
    * `CommitmentPrefix.IsChecked`
    * `ConnectionVersion.IsChecked`
    * `UpgradeTimeout.IsChecked`
    * `Signer.IsChecked`
-/

------------------------------------------------------------
-- Proofs and Prefixes
------------------------------------------------------------

namespace Interchain

/- A proof that was made from bytes. -/
def CommitmentProof.IsChecked (proof : CommitmentProof) : Prop :=
  ∃ bytes, ofBytes bytes = .ok proof

/- A prefix that was made from bytes. -/
def CommitmentPrefix.IsChecked (start : CommitmentPrefix) : Prop :=
  ∃ bytes, ofBytes bytes = .ok start

/- A proof can be built exactly if it is not empty. -/
theorem CommitmentProof.isChecked_iff {proof : CommitmentProof} :
    proof.IsChecked ↔ proof.bytes ≠ [] := by
  cases proof
  simp [IsChecked, ofBytes, ite_eq_iff]

theorem CommitmentPrefix.isChecked_iff
    {start : CommitmentPrefix} :
    start.IsChecked ↔ start.bytes ≠ [] := by
  cases start
  simp [IsChecked, ofBytes, ite_eq_iff]

end Interchain

------------------------------------------------------------
-- Versions, Timeouts and Signers
------------------------------------------------------------

namespace Interchain

/- A version that was made from an identifier and features. -/
def ConnectionVersion.IsChecked (v : ConnectionVersion) : Prop :=
  ∃ identifier features, make identifier features = .ok v

/- A timeout that was made from a height and a time. -/
def UpgradeTimeout.IsChecked (t : UpgradeTimeout) : Prop :=
  ∃ height timestamp, make height timestamp = .ok t

/- A signer that was made from a text. -/
def Signer.IsChecked (signer : Signer) : Prop :=
  ∃ s, ofText s = .ok signer

/- A version can be built exactly if its name and its features
   are not blank. -/
theorem ConnectionVersion.isChecked_iff
    {v : ConnectionVersion} :
    v.IsChecked ↔
      Text.isBlankText v.identifier = false ∧
        ∀ feature ∈ v.features,
          Text.isBlankText feature = false := by
  cases v
  simp [IsChecked, make, ite_eq_iff]

/- A deadline can be built exactly if a height or a time is
   set. -/
theorem UpgradeTimeout.isChecked_iff {t : UpgradeTimeout} :
    t.IsChecked ↔ t.height ≠ .never ∨ t.timestamp ≠ .unset := by
  rcases t with ⟨_ | height, ⟨_ | time⟩⟩ <;>
    simp [IsChecked, make, ite_eq_iff, isValid,
      TimeoutHeight.isSet, Timestamp.isSet, Timestamp.unset]

/- An account can be built exactly if it is not blank. -/
theorem Signer.isChecked_iff {signer : Signer} :
    signer.IsChecked ↔ Text.isBlankText signer.text = false := by
  cases signer
  simp [IsChecked, ofText, ite_eq_iff]

end Interchain
