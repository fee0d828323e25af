import Interchain.Client.Identifier
import Interchain.Identifier.Names

/-
  Which texts are identifiers.

  A text is accepted as an identifier exactly when its length
  in bytes lies within the bounds of the kind and every
  character of it is allowed.  The standard alphabet has the
  letters and digits of ASCII; the letters and digits of every
  other script are accepted as well.

  Main declarations:
    * `Identifier.IsAdmitted`
    * `Identifier.IsStandard`
    * `ClientId.IsChecked`
    * `ConnectionId.IsChecked`
    * `PortId.IsChecked`
    * `ChannelId.IsChecked`

  Main statements:
    * `Identifier.check_eq_ok_iff_isAdmitted`
    * `Identifier.isStandard_iff`
    * `Identifier.admits_standard_and_foreign`
-/

------------------------------------------------------------
-- Alphabets
------------------------------------------------------------

namespace Interchain

namespace Text

/- No range of the table reaches into ASCII. -/
theorem le_of_mem_alphanumericRanges
    {range : Nat × Nat}
    (hMem : range ∈ alphanumericRanges) :
    128 ≤ range.1 := by
  have hAll :
      alphanumericRanges.all (fun r => 128 ≤ r.1) = true := by
    decide +kernel
  exact of_decide_eq_true (List.all_eq_true.mp hAll range hMem)

/- The ranges begin after the first 128 characters. -/
theorem inRanges_eq_false_of_lt
    {c : Char}
    (hAscii : c.toNat < 128) :
    inRanges alphanumericRanges c = false := by
  rw [inRanges, List.any_eq_false]
  intro range hMem
  have hLow := le_of_mem_alphanumericRanges hMem
  simp only [Bool.and_eq_true, decide_eq_true_eq]
  omega

/- Letters and digits of ASCII lie in ASCII. -/
theorem lt_of_isAlphanum
    {c : Char}
    (hAscii : c.isAlphanum = true) :
    c.toNat < 128 := by
  have hBound
      {last : UInt32}
      (hLast : last.toNat < 128)
      (hLe : c.val ≤ last) :
      c.toNat < 128 :=
    Nat.lt_of_le_of_lt (UInt32.le_iff_toNat_le.mp hLe) hLast
  rcases (Bool.or_eq_true _ _).mp hAscii with hAlpha | hDigit
  · rcases (Bool.or_eq_true _ _).mp hAlpha with hUpper | hLower
    · have hRange := of_decide_eq_true hUpper
      exact hBound (by decide) hRange.2
    · have hRange := (Bool.and_eq_true _ _).mp hLower
      exact hBound (by decide) (of_decide_eq_true hRange.2)
  · have hRange := (Bool.and_eq_true _ _).mp hDigit
    exact hBound (by decide) (of_decide_eq_true hRange.2)

/- Within ASCII, the alphanumeric characters are the letters
   and digits of ASCII. -/
theorem isAlphanum_iff {c : Char} :
    c.isAlphanum = true ↔
      isAlphanumeric c = true ∧ c.toNat < 128 := by
  constructor
  · intro hAscii
    exact ⟨isAlphanumeric_of_isAlphanum hAscii,
      lt_of_isAlphanum hAscii⟩
  · rintro ⟨hAny, hAscii⟩
    rwa [isAlphanumeric, inRanges_eq_false_of_lt hAscii,
      Bool.or_false] at hAny

end Text

namespace Identifier

/- The marks are among the first 128 characters. -/
theorem lt_of_mem_marks
    {c : Char}
    (hMark : c ∈ marks) :
    c.toNat < 128 := by
  have hAll : marks.all (fun m => m.toNat < 128) = true := by
    decide
  exact of_decide_eq_true (List.all_eq_true.mp hAll c hMark)

/- A slash is in no name. -/
theorem isAllowed_slash : isAllowed '/' = false := by
  decide +kernel

/- What a name may hold: letters and digits of any script, and
   the marks. -/
theorem isAllowed_iff {c : Char} :
    isAllowed c = true ↔
      Text.isAlphanumeric c = true ∨ c ∈ marks := by
  simp [isAllowed]

end Identifier

end Interchain

------------------------------------------------------------
-- Accepted Texts
------------------------------------------------------------

namespace Interchain

namespace Identifier

/- The length in bytes lies within bounds. -/
def HasLength
    (shortest longest : Nat)
    (s : String) : Prop :=
  shortest ≤ s.utf8ByteSize ∧ s.utf8ByteSize ≤ longest

instance (shortest longest : Nat) (s : String) :
    Decidable (HasLength shortest longest s) :=
  inferInstanceAs (Decidable (_ ∧ _))

/- Within bounds, and of letters and digits of any script, and
   marks. -/
def IsAdmitted
    (shortest longest : Nat)
    (s : String) : Prop :=
  HasLength shortest longest s ∧
    ∀ c ∈ s.toList, isAllowed c = true

instance (shortest longest : Nat) (s : String) :
    Decidable (IsAdmitted shortest longest s) :=
  @instDecidableAnd _ _ inferInstance
    (List.decidableBAll _ _)

/- Within bounds, and of letters and digits of ASCII, and
   marks. -/
def IsStandard
    (shortest longest : Nat)
    (s : String) : Prop :=
  HasLength shortest longest s ∧
    ∀ c ∈ s.toList, c.isAlphanum = true ∨ c ∈ marks

instance (shortest longest : Nat) (s : String) :
    Decidable (IsStandard shortest longest s) :=
  @instDecidableAnd _ _ inferInstance
    (List.decidableBAll _ _)

variable {shortest longest : Nat} {s : String}

/- Admitted texts outside the standard are those with a
   character outside ASCII. -/
theorem isStandard_iff :
    IsStandard shortest longest s ↔
      IsAdmitted shortest longest s ∧
        ∀ c ∈ s.toList, c.toNat < 128 := by
  constructor
  · rintro ⟨hLength, hChars⟩
    refine ⟨⟨hLength, ?_⟩, ?_⟩
    · intro c hc
      rw [isAllowed_iff]
      rcases hChars c hc with hAscii | hMark
      · exact .inl (Text.isAlphanumeric_of_isAlphanum hAscii)
      · exact .inr hMark
    · intro c hc
      rcases hChars c hc with hAscii | hMark
      · exact Text.lt_of_isAlphanum hAscii
      · exact lt_of_mem_marks hMark
  · rintro ⟨⟨hLength, hChars⟩, hAscii⟩
    refine ⟨hLength, ?_⟩
    intro c hc
    rcases isAllowed_iff.mp (hChars c hc) with hAny | hMark
    · exact .inl (Text.isAlphanum_iff.mpr ⟨hAny, hAscii c hc⟩)
    · exact .inr hMark

/- The slash is no allowed character. -/
theorem IsAdmitted.slash_notMem
    (hAdmitted : IsAdmitted shortest longest s) :
    '/' ∉ s.toList := by
  intro hSlash
  have hAllowed := hAdmitted.2 '/' hSlash
  rw [isAllowed_slash] at hAllowed
  cases hAllowed

/- The empty text is too short, and the slash is not allowed, so
   that the checks for both refuse nothing more. -/
theorem check_eq_ok_iff_isAdmitted
    (hPositive : 0 < shortest) :
    check shortest longest s = .ok () ↔
      IsAdmitted shortest longest s := by
  rw [check_eq_ok_iff]
  constructor
  · rintro ⟨-, -, hShort, hLong, hChars⟩
    exact ⟨⟨hShort, hLong⟩, hChars⟩
  · intro hAdmitted
    have hSlash := hAdmitted.slash_notMem
    rcases hAdmitted with ⟨⟨hShort, hLong⟩, hChars⟩
    refine ⟨?_, hSlash, hShort, hLong, hChars⟩
    intro hEmpty
    rw [String.toList_eq_nil_iff] at hEmpty
    rw [hEmpty, String.utf8ByteSize_empty] at hShort
    omega

/- A checked text becomes an identifier if it is admitted. -/
theorem map_check_eq_ok_iff
    {α : Type}
    {make : String → α}
    {id : α}
    (hPositive : 0 < shortest) :
    ((check shortest longest s).map fun _ => make s) = .ok id ↔
      make s = id ∧ IsAdmitted shortest longest s := by
  rw [← check_eq_ok_iff_isAdmitted hPositive]
  cases check shortest longest s <;> simp [Except.map]

end Identifier

end Interchain

------------------------------------------------------------
-- The Four Kinds
------------------------------------------------------------

namespace Interchain

/- A client identifier that was made from a text. -/
def ClientId.IsChecked (id : ClientId) : Prop :=
  ∃ s, ofText s = .ok id

/- A connection identifier that was made from a text. -/
def ConnectionId.IsChecked (id : ConnectionId) : Prop :=
  ∃ s, ofText s = .ok id

/- A port identifier that was made from a text. -/
def PortId.IsChecked (id : PortId) : Prop :=
  ∃ s, ofText s = .ok id

/- A channel identifier that was made from a text. -/
def ChannelId.IsChecked (id : ChannelId) : Prop :=
  ∃ s, ofText s = .ok id

/- What can name a client. -/
theorem ClientId.ofText_eq_ok_iff
    {s : String}
    {id : ClientId} :
    ofText s = .ok id ↔
      id.text = s ∧ Identifier.IsAdmitted 9 64 s := by
  rw [ofText, Identifier.map_check_eq_ok_iff (by decide)]
  cases id
  simp [eq_comm]

theorem ConnectionId.ofText_eq_ok_iff
    {s : String}
    {id : ConnectionId} :
    ofText s = .ok id ↔
      id.text = s ∧ Identifier.IsAdmitted 10 64 s := by
  rw [ofText, Identifier.map_check_eq_ok_iff (by decide)]
  cases id
  simp [eq_comm]

theorem PortId.ofText_eq_ok_iff
    {s : String}
    {id : PortId} :
    ofText s = .ok id ↔
      id.text = s ∧ Identifier.IsAdmitted 2 128 s := by
  rw [ofText, Identifier.map_check_eq_ok_iff (by decide)]
  cases id
  simp [eq_comm]

theorem ChannelId.ofText_eq_ok_iff
    {s : String}
    {id : ChannelId} :
    ofText s = .ok id ↔
      id.text = s ∧ Identifier.IsAdmitted 8 64 s := by
  rw [ofText, Identifier.map_check_eq_ok_iff (by decide)]
  cases id
  simp [eq_comm]

/- A name of a client is checked if it could be made. -/
theorem ClientId.isChecked_iff {id : ClientId} :
    id.IsChecked ↔ Identifier.IsAdmitted 9 64 id.text := by
  simp [IsChecked, ofText_eq_ok_iff]

theorem ConnectionId.isChecked_iff {id : ConnectionId} :
    id.IsChecked ↔ Identifier.IsAdmitted 10 64 id.text := by
  simp [IsChecked, ofText_eq_ok_iff]

theorem PortId.isChecked_iff {id : PortId} :
    id.IsChecked ↔ Identifier.IsAdmitted 2 128 id.text := by
  simp [IsChecked, ofText_eq_ok_iff]

theorem ChannelId.isChecked_iff {id : ChannelId} :
    id.IsChecked ↔ Identifier.IsAdmitted 8 64 id.text := by
  simp [IsChecked, ofText_eq_ok_iff]

/-
  A text is accepted as an identifier of a kind, and becomes
  one with that text, if and only if it is admitted within the
  bounds of the kind.  An admitted text follows the standard if
  and only if it lies in ASCII, and every text that follows the
  standard is admitted.
-/
theorem Identifier.admits_standard_and_foreign (s : String) :
    (∀ id : ClientId,
      ClientId.ofText s = .ok id ↔
        id.text = s ∧ IsAdmitted 9 64 s) ∧
    (∀ id : ConnectionId,
      ConnectionId.ofText s = .ok id ↔
        id.text = s ∧ IsAdmitted 10 64 s) ∧
    (∀ id : PortId,
      PortId.ofText s = .ok id ↔
        id.text = s ∧ IsAdmitted 2 128 s) ∧
    (∀ id : ChannelId,
      ChannelId.ofText s = .ok id ↔
        id.text = s ∧ IsAdmitted 8 64 s) ∧
    (∀ shortest longest,
      IsStandard shortest longest s ↔
        IsAdmitted shortest longest s ∧
          ∀ c ∈ s.toList, c.toNat < 128) :=
  ⟨fun _ => ClientId.ofText_eq_ok_iff,
    fun _ => ConnectionId.ofText_eq_ok_iff,
    fun _ => PortId.ofText_eq_ok_iff,
    fun _ => ChannelId.ofText_eq_ok_iff,
    fun _ _ => isStandard_iff⟩

namespace Fixture

/- A text with one letter outside ASCII. -/
def foreignText : String := "clientèle-0"

/- Every kind accepts the text although it is not standard. -/
theorem sample_foreign_letter :
    ClientId.ofText foreignText = .ok ⟨foreignText⟩ ∧
      ConnectionId.ofText foreignText = .ok ⟨foreignText⟩ ∧
      PortId.ofText foreignText = .ok ⟨foreignText⟩ ∧
      ChannelId.ofText foreignText = .ok ⟨foreignText⟩ ∧
      ¬ Identifier.IsStandard 9 64 foreignText ∧
      ¬ Identifier.IsStandard 10 64 foreignText ∧
      ¬ Identifier.IsStandard 2 128 foreignText ∧
      ¬ Identifier.IsStandard 8 64 foreignText := by
  rw [ClientId.ofText_eq_ok_iff, ConnectionId.ofText_eq_ok_iff,
    PortId.ofText_eq_ok_iff, ChannelId.ofText_eq_ok_iff]
  decide +kernel

end Fixture

end Interchain
