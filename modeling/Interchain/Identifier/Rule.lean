import Interchain.Text.Alphanumeric
import Interchain.Text.Decimal
import Interchain.Trace

/-
  The rule for identifiers.

  An identifier is a text within bounds of length, made of
  letters, digits and a few marks.  The slash separates the
  parts of a path, so it is refused first.  Length counts the
  bytes of the UTF-8 encoding.

  Main declarations:
    * `IdentifierError`
    * `Identifier.check`
-/

------------------------------------------------------------
-- Errors
------------------------------------------------------------

namespace Interchain

/- Why a text is no identifier, or names no kind of client. -/
inductive IdentifierError where
  | empty
  | separator (id : String)
  | length (id : String) (actual shortest longest : Nat)
  | character (id : String)
  | unknownClient (id : String)
  deriving DecidableEq

namespace IdentifierError

/- What is reported of an error. -/
def message : IdentifierError → String
  | .empty => "identifier cannot be empty"
  | .separator id =>
      "identifier " ++ id ++ " cannot contain separator '/'"
  | .length id actual shortest longest =>
      "identifier " ++ id ++ " has invalid length " ++
        Text.decimal actual ++ " must be between " ++
        Text.decimal shortest ++ "-" ++
        Text.decimal longest ++ " characters"
  | .character id =>
      "identifier " ++ id ++
        " must only contain alphanumeric characters or " ++
        "`.`, `_`, `+`, `-`, `#`, - `[`, `]`, `<`, `>`"
  | .unknownClient id =>
      "client identifier " ++ id ++
        " does not name a known client type"

/- The name of an error. -/
def name : IdentifierError → String
  | .empty => "Empty"
  | .separator _ => "ContainSeparator"
  | .length _ _ _ _ => "InvalidLength"
  | .character _ => "InvalidCharacter"
  | .unknownClient _ => "UnknownClientType"

instance : Traced IdentifierError where
  trace e := [⟨e.name, e.message⟩]

end IdentifierError

end Interchain

------------------------------------------------------------
-- Rule
------------------------------------------------------------

namespace Interchain

namespace Identifier

/- The marks that may stand in an identifier. -/
def marks : List Char :=
  ['.', '_', '+', '-', '#', '[', ']', '<', '>']

/- A letter, a digit, or one of the marks. -/
def isAllowed (c : Char) : Bool :=
  Text.isAlphanumeric c || marks.contains c

/- The first rule that a text breaks, if it breaks one. -/
def check
    (shortest longest : Nat)
    (s : String) :
    Except IdentifierError Unit :=
  if s.toList = [] then .error .empty
  else if s.toList.contains '/' then .error (.separator s)
  else if s.utf8ByteSize < shortest ∨
      longest < s.utf8ByteSize then
    .error (.length s s.utf8ByteSize shortest longest)
  else if s.toList.all isAllowed then .ok ()
  else .error (.character s)

/- A text passes when it breaks no rule. -/
theorem check_eq_ok_iff
    (shortest longest : Nat)
    (s : String) :
    check shortest longest s = .ok () ↔
      s.toList ≠ [] ∧ '/' ∉ s.toList ∧
        shortest ≤ s.utf8ByteSize ∧
        s.utf8ByteSize ≤ longest ∧
        ∀ c ∈ s.toList, isAllowed c = true := by
  unfold check
  split
  · simp_all
  · split
    · simp_all
    · split
      · simp_all
        omega
      · split <;> simp_all

end Identifier

end Interchain
