import Interchain.Json.Recorded
import Interchain.Order
import Interchain.Text.Decimal
import Interchain.Word

/-
  Block heights.

  A height is a block number within a numbered revision of the
  chain.  Heights are ordered by revision first.  A height
  that is made or parsed is not zero; one that is read from a
  record may be.

  Main declarations:
    * `Height`
    * `Height.make?`
    * `Height.ofText`
    * `Height.add`
-/

------------------------------------------------------------
-- Heights
------------------------------------------------------------

namespace Interchain

/- A height of a chain, in the revision that it counts for. -/
structure Height where
  revision : UInt64
  block : UInt64
  deriving DecidableEq

namespace Height

/- A height with a block number that is not zero. -/
def make? (revision block : UInt64) : Option Height :=
  if block = 0 then none else some ⟨revision, block⟩

/- A height a number of blocks later, in the same revision;
   block numbers stop at the greatest word. -/
def add (h : Height) (blocks : UInt64) : Height :=
  { h with block := Word.add h.block blocks }

/- The height of the next block. -/
def next (h : Height) : Height := h.add 1

end Height

end Interchain

------------------------------------------------------------
-- Order
------------------------------------------------------------

namespace Interchain

namespace Height

/- Earlier: by revision, then by block. -/
instance : LT Height where
  lt a b :=
    a.revision < b.revision ∨
      (a.revision = b.revision ∧ a.block < b.block)

instance : LE Height where
  le a b := a < b ∨ a = b

instance (a b : Height) : Decidable (a < b) :=
  inferInstanceAs (Decidable (_ ∨ _))

instance (a b : Height) : Decidable (a ≤ b) :=
  inferInstanceAs (Decidable (_ ∨ _))

instance : Ord Height where
  compare :=
    compareLex (compareOn Height.revision)
      (compareOn Height.block)

instance : Std.TransOrd Height :=
  inferInstanceAs
    (Std.TransCmp
      (compareLex (compareOn Height.revision)
        (compareOn Height.block)))

instance : Std.LawfulEqOrd Height :=
  lawfulEqCmp_compareLex fun a b h₁ h₂ => by
    cases a
    cases b
    simp_all

end Height

end Interchain

------------------------------------------------------------
-- Written Heights
------------------------------------------------------------

namespace Interchain

/- Why a text is no height. -/
inductive HeightError where
  | numeral (text : String) (cause : NumeralError)
  | zero
  | format (text : String)
  deriving DecidableEq

namespace HeightError

/- What is reported of an error. -/
def message : HeightError → String
  | .numeral text _ =>
      "cannot convert into a `Height` type from string " ++
        text
  | .zero => "attempted to parse an invalid zero height"
  | .format text =>
      "height " ++ text ++ " is not of the form " ++
        "`revision_number-revision_height`"

/- The name of an error. -/
def name : HeightError → String
  | .numeral _ _ => "HeightConversion"
  | .zero => "ZeroHeight"
  | .format _ => "InvalidFormat"

instance : Traced HeightError where
  trace e := [⟨e.name, e.message⟩]

end HeightError

namespace Height

/- How a height is written: both numbers, with a dash. -/
def display (h : Height) : String :=
  Text.decimal h.revision.toNat ++ "-" ++
    Text.decimal h.block.toNat

/- Cut a text at the first occurrence of a character. -/
def cut? (mark : Char) (text : String) :
    Option (String × String) :=
  match text.toList.dropWhile (· != mark) with
  | [] => none
  | _ :: rest =>
      some
        (String.ofList (text.toList.takeWhile (· != mark)),
          String.ofList rest)

/- Read a revision and a block number, a hyphen between. -/
def ofText (text : String) : Except HeightError Height :=
  match cut? '-' text with
  | none => .error (.format text)
  | some (left, right) =>
      match Text.readWord left, Text.readWord right with
      | .error cause, _ => .error (.numeral text cause)
      | _, .error cause => .error (.numeral text cause)
      | .ok revision, .ok block =>
          match make? revision block with
          | some h => .ok h
          | none => .error .zero

/- The record of a height. -/
def toJson (h : Height) : Json :=
  .object
    [ ("revision_number", .ofWord h.revision),
      ("revision_height", .ofWord h.block) ]

/- Any two words are read, zero included. -/
def ofJson? (value : Json) : Option Height := do
  match ← value.slots? .lenient
      ["revision_number", "revision_height"] with
  | [revision, block] =>
      let revision ← Json.required? Json.word? revision
      let block ← Json.required? Json.word? block
      return ⟨revision, block⟩
  | _ => none

instance : Recorded Height := ⟨toJson, ofJson?⟩

end Height

end Interchain
