import Interchain.Order
import Interchain.Json.Recorded

/-
  Kinds of light client.

  Main declarations:
    * `ClientKind`
    * `ClientKind.name`
    * `ClientKind.ofName?`
-/

------------------------------------------------------------
-- Kinds
------------------------------------------------------------

namespace Interchain

/- The light clients that are known. -/
inductive ClientKind where
  | tendermint
  | solomachine
  | wasm
  | mock
  deriving DecidableEq

namespace ClientKind

/- Every kind. -/
def all : List ClientKind :=
  [.tendermint, .solomachine, .wasm, .mock]

/- The name that the identifiers of its clients start with. -/
def name : ClientKind → String
  | .tendermint => "07-tendermint"
  | .solomachine => "06-solomachine"
  | .wasm => "08-wasm"
  | .mock => "9999-mock"

/- The kind with a name. -/
def ofName? (s : String) : Option ClientKind :=
  all.find? fun kind => kind.name == s

/- The case name in records and listings. -/
def tag : ClientKind → String
  | .tendermint => "Tendermint"
  | .solomachine => "Solomachine"
  | .wasm => "Wasm"
  | .mock => "Mock"

/- How a kind is written in a message. -/
def display (kind : ClientKind) : String :=
  "ClientType(" ++ kind.name ++ ")"

/- The record of a kind is its tag. -/
def toJson (kind : ClientKind) : Json := .text kind.tag

/- The kind that a record names. -/
def ofJson? (value : Json) : Option ClientKind :=
  value.tag?.bind fun s => all.find? fun kind => kind.tag == s

instance : Recorded ClientKind := ⟨toJson, ofJson?⟩

/- A kind is found again by its name. -/
theorem ofName?_name (kind : ClientKind) :
    ofName? kind.name = some kind := by
  cases kind <;> decide

end ClientKind

end Interchain

------------------------------------------------------------
-- Order
------------------------------------------------------------

namespace Interchain

namespace ClientKind

/- The place of a kind in a registry. -/
def rank : ClientKind → Nat
  | .tendermint => 1
  | .solomachine => 2
  | .wasm => 3
  | .mock => 9999

instance : Ord ClientKind where
  compare := compareOn ClientKind.rank

instance : Std.TransOrd ClientKind :=
  inferInstanceAs (Std.TransCmp (compareOn ClientKind.rank))

instance : Std.LawfulEqOrd ClientKind :=
  lawfulEqCmp_compareOn fun a b h => by
    cases a <;> cases b <;> simp_all [rank]

end ClientKind

end Interchain
