import Interchain.Bytes
import Interchain.Json.Value

/-
  Reading records out of JSON values.

  A record is written as an object with its members in a fixed
  order.  It is read from an object with the members in any
  order, or from an array with the values in the fixed order.
  Two styles of record differ in what else they admit:

    * a lenient record skips members that it does not know,
      and an array must hold all of its values;
    * a strict record refuses members that it does not know,
      every member has a default, and an array may stop early.

  Main declarations:
    * `Json.slots?`
    * `Json.optional?`
    * `Json.tag?`
-/

------------------------------------------------------------
-- Scalars and Lists
------------------------------------------------------------

namespace Interchain

namespace Json

/- The text that a value is. -/
def text? : Json → Option String
  | .text s => some s
  | _ => none

/- The natural number below a limit that a value is. -/
def below? (limit : Nat) : Json → Option Nat
  | .natural n => if n < limit then some n else none
  | _ => none

/- The 64-bit word that a value is. -/
def word? (value : Json) : Option UInt64 :=
  (value.below? UInt64.size).map UInt64.ofNat

/- The list that an array is, item by item. -/
def list?
    {α : Type}
    (item? : Json → Option α) :
    Json → Option (List α)
  | .array items => items.mapM item?
  | _ => none

/- The bytes that an array of numbers is. -/
def bytes? (value : Json) : Option Bytes :=
  value.list? fun item =>
    (item.below? 256).map UInt8.ofNat

/-
  The name of a case: a text, or an object that holds null
  under the name.
-/
def tag? : Json → Option String
  | .text s => some s
  | .object [(name, .null)] => some name
  | _ => none

/- Bytes are written as an array of numbers. -/
def ofBytes (bytes : Bytes) : Json :=
  .array (bytes.map fun b => .natural b.toNat)

/- A word is written as a natural number. -/
def ofWord (w : UInt64) : Json :=
  .natural w.toNat

/- Nothing is written as null. -/
def ofOption
    {α : Type}
    (write : α → Json) :
    Option α → Json
  | none => .null
  | some a => write a

end Json

end Interchain

------------------------------------------------------------
-- Records
------------------------------------------------------------

namespace Interchain

namespace Json

/- What a record admits beside its members. -/
inductive RecordStyle where
  | lenient
  | strict
  deriving DecidableEq

/- The values that an object holds under a name. -/
def underName
    (name : String)
    (members : List (String × Json)) :
    List Json :=
  (members.filter fun member => member.1 == name).map (·.2)

/- A member that occurs at most once. -/
def slot?
    (members : List (String × Json))
    (name : String) :
    Option (Option Json) :=
  match underName name members with
  | [] => some none
  | [value] => some (some value)
  | _ => none

/-
  The values of a record's members, in the fixed order; a
  missing member leaves its slot empty.
-/
def slots?
    (style : RecordStyle)
    (names : List String) :
    Json → Option (List (Option Json))
  | .object members =>
      if style = .strict ∧
          ¬ members.all (fun m => names.contains m.1) then
        none
      else
        names.mapM (slot? members)
  | .array items =>
      if items.length = names.length ∨
          (style = .strict ∧ items.length < names.length) then
        some (items.map some ++
          List.replicate (names.length - items.length) none)
      else
        none
  | _ => none

/- A member that must be present. -/
def required?
    {α : Type}
    (read? : Json → Option α)
    (slot : Option Json) :
    Option α :=
  slot.bind read?

/- A member that may be missing or null. -/
def optional?
    {α : Type}
    (read? : Json → Option α) :
    Option Json → Option (Option α)
  | none => some none
  | some .null => some none
  | some value => (read? value).map some

/- A member with a default for when it is missing. -/
def withDefault?
    {α : Type}
    (default : α)
    (read? : Json → Option α) :
    Option Json → Option α
  | none => some default
  | some value => read? value

end Json

end Interchain
