import Interchain.Json.Recorded
import Interchain.Proofs.Json.Parsing

/-
  Which values are read from texts.

  A text is read as a JSON value first, and every plain value
  has a text.  So a value of a type is read from some text if
  it is read from a plain JSON value; and if that holds of all
  that is read, nothing else is.

  Main declarations:
    * `Recorded.IsRead`
    * `Recorded.HasForm`
    * `Recorded.ReadsExactly`

  Main statements:
    * `Recorded.HasForm.isRead`
    * `Recorded.ReadsExactly.isRead_iff`
-/

------------------------------------------------------------
-- Readable Values
------------------------------------------------------------

namespace Interchain

namespace Recorded

variable {α : Type} [Recorded α]

/- Some text is read as the value. -/
def IsRead (a : α) : Prop :=
  ∃ text, ofText? text = some a

/- Some plain JSON value is read as the value. -/
def HasForm (a : α) : Prop :=
  ∃ value : Json,
    value.isPlain = true ∧ ofJson? value = some a

/- A value that has a form can be read. -/
theorem HasForm.isRead
    {a : α}
    (hForm : HasForm a) :
    IsRead a := by
  rcases hForm with ⟨value, hPlain, hRead⟩
  refine ⟨value.render, ?_⟩
  rw [ofText?, Json.ofText?_render hPlain, Option.bind_some,
    hRead]

/- An optional member is read from a plain value if what it
   holds is, and null is read as nothing. -/
theorem exists_optional_form
    {a? : Option α}
    (hNull : ∀ a : α, ofJson? .null ≠ some a)
    (hForm : ∀ a ∈ a?, HasForm a) :
    ∃ value : Json, value.isPlain = true ∧
      Json.optional? ofJson? (some value) = some a? := by
  cases a? with
  | none => exact ⟨.null, rfl, rfl⟩
  | some a =>
      rcases hForm a rfl with ⟨value, hPlain, hRead⟩
      refine ⟨value, hPlain, ?_⟩
      rw [Json.optional?, hRead, Option.map_some]
      rintro rfl
      exact hNull a hRead

/- A value that can be read has a record. -/
theorem IsRead.exists_ofJson?
    {a : α}
    (hRead : IsRead a) :
    ∃ value, ofJson? value = some a := by
  rcases hRead with ⟨text, hText⟩
  rw [ofText?, Option.bind_eq_some_iff] at hText
  rcases hText with ⟨value, -, hValue⟩
  exact ⟨value, hValue⟩

/-
  The values of a type that are read are those with a property:
  whatever is read has it, and what has it is read from a plain
  value.
-/
structure ReadsExactly (P : α → Prop) : Prop where
  property :
    ∀ {value : Json} {a : α}, ofJson? value = some a → P a
  hasForm : ∀ {a : α}, P a → HasForm a

namespace ReadsExactly

variable {P : α → Prop} {a : α}

/- What is exactly read is what has the property. -/
theorem isRead_iff (hExact : ReadsExactly P) :
    IsRead a ↔ P a := by
  constructor
  · intro hRead
    rcases hRead.exists_ofJson? with ⟨value, hValue⟩
    exact hExact.property hValue
  · intro hProperty
    exact (hExact.hasForm hProperty).isRead

/- Within a record, a value is read as it is alone. -/
theorem isRead_of_ofJson?
    (hExact : ReadsExactly P)
    {value : Json}
    (hRead : ofJson? value = some a) :
    IsRead a :=
  hExact.isRead_iff.mpr (hExact.property hRead)

/- What is exactly read has a plain form. -/
theorem hasForm_of_isRead
    (hExact : ReadsExactly P)
    (hRead : IsRead a) :
    HasForm a :=
  hExact.hasForm (hExact.isRead_iff.mp hRead)

end ReadsExactly

end Recorded

end Interchain
