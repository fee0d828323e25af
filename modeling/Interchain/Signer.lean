import Interchain.Json.Recorded
import Interchain.Text.Blank
import Interchain.Trace

/-
  Signers of messages.

  Main declarations:
    * `Signer`
    * `Signer.ofText`
-/

------------------------------------------------------------
-- Signers
------------------------------------------------------------

namespace Interchain

/- The account behind a message. -/
structure Signer where
  text : String
  deriving DecidableEq

/- Why a text is no account. -/
inductive SignerError where
  | empty
  deriving DecidableEq

/- What is reported of an error. -/
def SignerError.message : SignerError → String
  | .empty => "signer cannot be empty"

instance : Traced SignerError where
  trace e := [⟨"EmptySigner", e.message⟩]

namespace Signer

/- A signer is not blank. -/
def ofText (s : String) : Except SignerError Signer :=
  if Text.isBlankText s then .error .empty else .ok ⟨s⟩

/- The record of an account is its text. -/
def toJson (s : Signer) : Json := .text s.text

/- The account that a record gives, which may be empty. -/
def ofJson? (value : Json) : Option Signer :=
  value.text?.map Signer.mk

instance : Recorded Signer := ⟨toJson, ofJson?⟩

end Signer

end Interchain
