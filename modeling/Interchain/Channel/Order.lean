import Interchain.Json.Recorded

/-
  Packet orders of a channel.

  Main declarations:
    * `ChannelOrder`
    * `ChannelOrder.name`
    * `ChannelOrder.ofText?`
-/

------------------------------------------------------------
-- Orders
------------------------------------------------------------

namespace Interchain

/- Whether packets arrive in the order they are sent in. -/
inductive ChannelOrder where
  | uninitialized
  | unordered
  | ordered
  deriving DecidableEq

namespace ChannelOrder

/- Every order. -/
def all : List ChannelOrder :=
  [.uninitialized, .unordered, .ordered]

/- The name that connections and messages use. -/
def name : ChannelOrder → String
  | .uninitialized => "UNINITIALIZED"
  | .unordered => "ORDER_UNORDERED"
  | .ordered => "ORDER_ORDERED"

/- The case name in records. -/
def tag : ChannelOrder → String
  | .uninitialized => "Uninitialized"
  | .unordered => "Unordered"
  | .ordered => "Ordered"

/- The number of an order on the wire. -/
def number : ChannelOrder → Int
  | .uninitialized => 0
  | .unordered => 1
  | .ordered => 2

/- The order with a number, if there is one. -/
def ofNumber? (n : Int) : Option ChannelOrder :=
  all.find? fun order => order.number == n

/- The record of an order is its name. -/
def toJson (order : ChannelOrder) : Json := .text order.tag

/- The order that a record names. -/
def ofJson? (value : Json) : Option ChannelOrder :=
  value.tag?.bind fun s =>
    all.find? fun order => order.tag == s

instance : Recorded ChannelOrder := ⟨toJson, ofJson?⟩

end ChannelOrder

end Interchain

------------------------------------------------------------
-- Reading Orders
------------------------------------------------------------

namespace Interchain

namespace ChannelOrder

/- Drop every `order_` that a text starts with. -/
def dropMarks : List Char → List Char
  | 'o' :: 'r' :: 'd' :: 'e' :: 'r' :: '_' :: rest =>
      dropMarks rest
  | cs => cs

/-
  Read an order in any letter case, with or without its mark.
  No letter beyond ASCII has a lower case within ASCII that
  occurs in a name.
-/
def ofText? (s : String) : Option ChannelOrder :=
  match String.ofList (dropMarks (s.toList.map Char.toLower)) with
  | "uninitialized" => some .uninitialized
  | "unordered" => some .unordered
  | "ordered" => some .ordered
  | _ => none

end ChannelOrder

end Interchain
