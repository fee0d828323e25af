import Interchain.Json.Record
import Mathlib.Data.List.Basic

/-
  Reading records back from what they are written as.

  A record is written with every member once, so each slot is
  filled with the value that was written under its name.

  Main statements:
    * `Json.list?_map`
    * `Json.optional?_ofOption`
    * `Json.slots?_object`
-/

------------------------------------------------------------
-- Scalars and Lists
------------------------------------------------------------

namespace Interchain

namespace Json

@[simp] theorem word?_ofWord (w : UInt64) :
    (ofWord w).word? = some w := by
  simp [ofWord, word?, below?, w.toNat_lt]

/- A list is read back if its items are. -/
theorem list?_map
    {α : Type}
    {write : α → Json}
    {read? : Json → Option α}
    (hRead : ∀ a, read? (write a) = some a)
    (items : List α) :
    list? read? (.array (items.map write)) = some items := by
  simp only [list?]
  induction items with
  | nil => rfl
  | cons a rest ih => simp [List.mapM_cons, hRead, ih]

/- Something is read back unless it is written like nothing. -/
theorem optional?_ofOption
    {α : Type}
    (write : α → Json)
    (read? : Json → Option α)
    {a? : Option α}
    (hNull : ∀ a, write a ≠ .null)
    (hRead : ∀ a ∈ a?, read? (write a) = some a) :
    optional? read? (some (ofOption write a?)) = some a? := by
  cases a? with
  | none => rfl
  | some a =>
      rw [ofOption, optional?, hRead a rfl, Option.map_some]
      exact hNull a

/- What an optional member holds was read from a value. -/
theorem exists_of_optional?_eq_some
    {α : Type}
    {read? : Json → Option α}
    {slot : Option Json}
    {a : α}
    (hRead : optional? read? slot = some (some a)) :
    ∃ value, slot = some value ∧ read? value = some a := by
  unfold optional? at hRead
  split at hRead
  case h_1 => cases hRead
  case h_2 => cases hRead
  case h_3 value _ =>
    rw [Option.map_eq_some_iff] at hRead
    rcases hRead with ⟨b, hValue, hb⟩
    cases hb
    exact ⟨value, rfl, hValue⟩

/- A member with a default holds it, or was read. -/
theorem withDefault?_eq_some
    {α : Type}
    {default a : α}
    {read? : Json → Option α}
    {slot : Option Json}
    (hRead : withDefault? default read? slot = some a) :
    a = default ∨ ∃ value, read? value = some a := by
  cases slot with
  | none => exact .inl (Option.some.inj hRead).symm
  | some value => exact .inr ⟨value, hRead⟩

end Json

end Interchain

------------------------------------------------------------
-- Members
------------------------------------------------------------

namespace Interchain

namespace Json

variable {members : List (String × Json)}
variable {name : String} {value : Json}

/- Members without a name leave nothing under it. -/
theorem underName_eq_nil
    (hName : name ∉ members.map Prod.fst) :
    underName name members = [] := by
  rw [underName, List.map_eq_nil_iff, List.filter_eq_nil_iff]
  intro member hMem hEq
  apply hName
  rw [← beq_iff_eq.mp hEq]
  exact List.mem_map_of_mem hMem

/- A name that occurs once has one value. -/
theorem underName_of_mem
    (hNames : (members.map Prod.fst).Nodup)
    (hMem : (name, value) ∈ members) :
    underName name members = [value] := by
  induction members with
  | nil => simp at hMem
  | cons member rest ih =>
      rw [List.map_cons, List.nodup_cons] at hNames
      rcases List.mem_cons.mp hMem with hHere | hRest
      · have hNone := underName_eq_nil hNames.1
        rw [← hHere] at hNone ⊢
        rw [underName, List.filter_cons_of_pos (by simp),
          List.map_cons, ← underName, hNone]
      · have hOther : member.1 ≠ name := by
          rintro rfl
          exact hNames.1 (List.mem_map.mpr ⟨_, hRest, rfl⟩)
        rw [underName, List.filter_cons_of_neg (by simpa),
          ← underName]
        exact ih hNames.2 hRest

/- The members of a record with different names fill its
   slots. -/
theorem slots?_object
    {style : RecordStyle}
    (hNames : (members.map Prod.fst).Nodup) :
    slots? style (members.map Prod.fst) (.object members) =
      some (members.map fun member => some member.2) := by
  have hSlots :
      ∀ part : List (String × Json), part ⊆ members →
        (part.map Prod.fst).mapM (slot? members) =
          some (part.map fun member => some member.2) := by
    intro part hPart
    induction part with
    | nil => rfl
    | cons member rest ih =>
        rcases List.cons_subset.mp hPart with ⟨hMem, hRest⟩
        have hUnder :
            underName member.1 members = [member.2] :=
          underName_of_mem hNames hMem
        simp [List.mapM_cons, slot?, hUnder, ih hRest]
  simp only [slots?]
  rw [if_neg (by simp)]
  exact hSlots members (List.Subset.refl members)

end Json

end Interchain
