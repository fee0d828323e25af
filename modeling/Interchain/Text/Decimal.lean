import Interchain.Trace

/-
  Decimal numerals of 64-bit words.

  A numeral is read from left to right after an optional
  plus sign.  The first character at fault decides the error:
  one that is no digit, or the digit with which the number
  leaves the range of a word.

  Main declarations:
    * `Text.digits`
    * `Text.readWord`
-/

------------------------------------------------------------
-- Writing
------------------------------------------------------------

namespace Interchain

namespace Text

/- The decimal digits of a number. -/
def digits (n : Nat) : List Char :=
  Nat.toDigits 10 n

/- The decimal numeral of a number. -/
def decimal (n : Nat) : String :=
  String.ofList (digits n)

/- A numeral with leading zeros up to the given width. -/
def paddedDigits (width n : Nat) : List Char :=
  List.replicate (width - (digits n).length) '0' ++ digits n

end Text

end Interchain

------------------------------------------------------------
-- Reading
------------------------------------------------------------

namespace Interchain

/- Why a text is no numeral of a 64-bit word. -/
inductive NumeralError where
  | empty
  | invalidDigit
  | tooLarge
  deriving DecidableEq

namespace NumeralError

/- What is reported of a text that is no number. -/
def message : NumeralError → String
  | .empty => "cannot parse integer from empty string"
  | .invalidDigit => "invalid digit found in string"
  | .tooLarge => "number too large to fit in target type"

instance : Traced NumeralError where
  trace e := [⟨"ParseInt", e.message⟩]

end NumeralError

namespace Text

/- The value of a decimal digit. -/
def digit? (c : Char) : Option Nat :=
  if '0' ≤ c ∧ c ≤ '9' then some (c.toNat - '0'.toNat)
  else none

/- Append decimal digits to a number below the limit. -/
def appendDigits
    (limit : Nat) :
    Nat → List Char → Except NumeralError Nat
  | n, [] => .ok n
  | n, c :: rest =>
      match digit? c with
      | none => .error .invalidDigit
      | some d =>
          if n * 10 + d < limit then
            appendDigits limit (n * 10 + d) rest
          else
            .error .tooLarge

/-
  Read a numeral of a number below the limit.  A sign alone is
  no numeral.
-/
def readBelow
    (limit : Nat)
    (s : String) :
    Except NumeralError Nat :=
  match s.toList with
  | [] => .error .empty
  | ['+'] => .error .invalidDigit
  | '+' :: rest => appendDigits limit 0 rest
  | cs => appendDigits limit 0 cs

/- Read a numeral of a 64-bit word. -/
def readWord (s : String) : Except NumeralError UInt64 :=
  (readBelow UInt64.size s).map UInt64.ofNat

end Text

end Interchain
