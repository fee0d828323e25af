import Interchain.Client.Kind
import Interchain.Identifier.Rule
import Interchain.Word

/-
  Identifiers of light clients.

  The identifier of a client is the name of its kind, a
  hyphen, and a counter.  The kind is found by cutting the
  identifier at its last hyphen.

  Main declarations:
    * `ClientId`
    * `ClientId.numbered`
    * `ClientId.kind`
-/

------------------------------------------------------------
-- Identifiers
------------------------------------------------------------

namespace Interchain

/- The name of a client. -/
structure ClientId where
  text : String
  deriving DecidableEq

namespace ClientId

/- A name has nine to sixty-four characters. -/
def ofText (s : String) : Except IdentifierError ClientId :=
  (Identifier.check 9 64 s).map fun _ => ⟨s⟩

/- The identifier of a kind's client with a number. -/
def numbered (kind : ClientKind) (n : UInt64) : ClientId :=
  ⟨kind.name ++ "-" ++ Text.decimal n.toNat⟩

/- The identifier of a kind's client, checked like a text. -/
def make
    (kind : ClientKind)
    (n : UInt64) :
    Except IdentifierError ClientId :=
  ofText (numbered kind n).text

/- The part of a text before the last occurrence of a
   character. -/
def beforeLast? (mark : Char) (s : String) : Option String :=
  match s.toList.reverse.dropWhile (· != mark) with
  | [] => none
  | _ :: before => some (String.ofList before.reverse)

/- The kind of client that an identifier names. -/
def kind (id : ClientId) : Except IdentifierError ClientKind :=
  match (beforeLast? '-' id.text).bind ClientKind.ofName? with
  | some kind => .ok kind
  | none => .error (.unknownClient id.text)

/- The record of a name is its text. -/
def toJson (id : ClientId) : Json := .text id.text

/- The name that a record gives, whatever its characters. -/
def ofJson? (value : Json) : Option ClientId :=
  value.text?.map ClientId.mk

instance : Recorded ClientId := ⟨toJson, ofJson?⟩

end ClientId

end Interchain

------------------------------------------------------------
-- Order
------------------------------------------------------------

namespace Interchain

namespace ClientId

instance : Ord ClientId where
  compare := compareOn ClientId.text

instance : Std.TransOrd ClientId :=
  inferInstanceAs (Std.TransCmp (compareOn ClientId.text))

instance : Std.LawfulEqOrd ClientId :=
  lawfulEqCmp_compareOn fun a b h => by
    cases a
    cases b
    simp_all

end ClientId

end Interchain
