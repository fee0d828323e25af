import Interchain.Text.Decimal
import Interchain.Text.Hexadecimal

/-
  The tokens of a JSON text.

  A number without sign, fraction and exponent is a natural
  number; every other well-formed number is only told apart
  from malformed ones.  A text is scanned with its escapes
  resolved; two escapes that form a surrogate pair are one
  character, and a text with an unpaired surrogate is a token
  without a value.

  Main declarations:
    * `Json.Token`
    * `Json.tokens?`
-/

------------------------------------------------------------
-- Tokens
------------------------------------------------------------

namespace Interchain

namespace Json

/- The pieces that a text of records is cut into. -/
inductive Token where
  | openArray
  | closeArray
  | openObject
  | closeObject
  | comma
  | colon
  | null
  | bool (value : Bool)
  | natural (value : Nat)
  | otherNumber
  | text (value : String)
  | unpairedText
  deriving DecidableEq

end Json

end Interchain

------------------------------------------------------------
-- Numbers
------------------------------------------------------------

namespace Interchain

namespace Json

/- The number that decimal digits spell after another. -/
def extendNatural (n : Nat) : List Char → Nat
  | [] => n
  | c :: rest =>
      extendNatural (n * 10 + (c.toNat - '0'.toNat)) rest

/- Split off the digits at the front; at least one. -/
def digitsFront? (cs : List Char) :
    Option (List Char × List Char) :=
  match cs.takeWhile Char.isDigit with
  | [] => none
  | d :: ds => some (d :: ds, cs.dropWhile Char.isDigit)

/-
  The digits before the fraction: a zero alone, or digits that
  do not start with one.
-/
def integerFront? :
    List Char → Option (List Char × List Char)
  | '0' :: rest =>
      match rest with
      | c :: _ =>
          if c.isDigit then none else some (['0'], rest)
      | [] => some (['0'], rest)
  | cs => digitsFront? cs

/- Skip a fraction, if there is one. -/
def skipFraction? : List Char → Option (List Char)
  | '.' :: rest => (digitsFront? rest).map (·.2)
  | cs => some cs

/- Skip the sign of an exponent, if there is one. -/
def skipSign : List Char → List Char
  | '+' :: rest => rest
  | '-' :: rest => rest
  | cs => cs

/- Skip an exponent, if there is one. -/
def skipExponent? : List Char → Option (List Char)
  | 'e' :: rest => (digitsFront? (skipSign rest)).map (·.2)
  | 'E' :: rest => (digitsFront? (skipSign rest)).map (·.2)
  | cs => some cs

/- Whether characters continue a number past its integer. -/
def startsTail : List Char → Bool
  | c :: _ => c == '.' || c == 'e' || c == 'E'
  | [] => false

/- Read an unsigned number at the front. -/
def unsignedFront?
    (cs : List Char) :
    Option (Token × List Char) := do
  let (ds, rest) ← integerFront? cs
  if startsTail rest then
    let rest ← skipFraction? rest
    let rest ← skipExponent? rest
    return (.otherNumber, rest)
  else
    return (.natural (extendNatural 0 ds), rest)

/- Read a number at the front. -/
def numberFront? : List Char → Option (Token × List Char)
  | '-' :: rest =>
      (unsignedFront? rest).map fun (_, left) =>
        (.otherNumber, left)
  | cs => unsignedFront? cs

end Json

end Interchain

------------------------------------------------------------
-- Text
------------------------------------------------------------

namespace Interchain

namespace Json

/- The character that a one-letter escape names. -/
def escaped? : Char → Option Char
  | '"' => some '"'
  | '\\' => some '\\'
  | '/' => some '/'
  | 'b' => some '\x08'
  | 'f' => some '\x0c'
  | 'n' => some '\n'
  | 'r' => some '\r'
  | 't' => some '\t'
  | _ => none

/- The number whose two bytes four hexadecimal digits spell. -/
def hexUnit? (a b c d : Char) : Option Nat :=
  match Bytes.ofHex? (String.ofList [a, b, c, d]) with
  | some [high, low] => some (high.toNat * 256 + low.toNat)
  | _ => none

/- A unit that needs another one after it. -/
def isHighSurrogate (unit : Nat) : Bool :=
  0xD800 ≤ unit && unit ≤ 0xDBFF

/- A unit that needs another one before it. -/
def isLowSurrogate (unit : Nat) : Bool :=
  0xDC00 ≤ unit && unit ≤ 0xDFFF

/- The character of a surrogate pair. -/
def pairChar (high low : Nat) : Char :=
  Char.ofNat
    (0x10000 + (high - 0xD800) * 0x400 + (low - 0xDC00))

/-
  What a scanned text holds: its characters, or nothing once a
  surrogate is found to be unpaired.
-/
abbrev Scanned := Option (List Char) × List Char

/- Put a character in front of what was scanned after it. -/
def Scanned.cons (c : Char) (s : Scanned) : Scanned :=
  (s.1.map (c :: ·), s.2)

/- Forget the characters. -/
def Scanned.spoil (s : Scanned) : Scanned :=
  (none, s.2)

/- Forget the characters if a high surrogate was waiting. -/
def Scanned.after
    (waiting : Option Nat)
    (s : Scanned) :
    Scanned :=
  if waiting.isSome then s.spoil else s

/-
  Scan a text up to its closing mark and answer what follows
  it.  A high surrogate waits for the escape after it.
-/
def scanText :
    Option Nat → List Char → Option Scanned
  | waiting, '"' :: rest =>
      some (Scanned.after waiting (some [], rest))
  | waiting, '\\' :: 'u' :: a :: b :: c :: d :: rest =>
      match hexUnit? a b c d with
      | none => none
      | some unit =>
          if isHighSurrogate unit then
            (scanText (some unit) rest).map
              (Scanned.after waiting)
          else if isLowSurrogate unit then
            match waiting with
            | some high =>
                (scanText none rest).map
                  (Scanned.cons (pairChar high unit))
            | none => (scanText none rest).map Scanned.spoil
          else
            (scanText none rest).map fun s =>
              (s.cons (Char.ofNat unit)).after waiting
  | waiting, '\\' :: e :: rest =>
      match escaped? e with
      | none => none
      | some c =>
          (scanText none rest).map fun s =>
            (s.cons c).after waiting
  | waiting, c :: rest =>
      if c.toNat < 0x20 ∨ c = '\\' then none
      else
        (scanText none rest).map fun s =>
          (s.cons c).after waiting
  | _, [] => none

/- Read a text at the front, after its opening mark. -/
def textFront?
    (cs : List Char) :
    Option (Token × List Char) :=
  (scanText none cs).map fun (content, rest) =>
    match content with
    | some chars => (.text (String.ofList chars), rest)
    | none => (.unpairedText, rest)

end Json

end Interchain

------------------------------------------------------------
-- Tokenizing
------------------------------------------------------------

namespace Interchain

namespace Json

/- The blanks that may stand between tokens. -/
def isSeparator (c : Char) : Bool :=
  c == ' ' || c == '\n' || c == '\t' || c == '\r'

/- Read the token at the front. -/
def tokenFront? : List Char → Option (Token × List Char)
  | '[' :: rest => some (.openArray, rest)
  | ']' :: rest => some (.closeArray, rest)
  | '\x7b' :: rest => some (.openObject, rest)
  | '\x7d' :: rest => some (.closeObject, rest)
  | ',' :: rest => some (.comma, rest)
  | ':' :: rest => some (.colon, rest)
  | '"' :: rest => textFront? rest
  | 'n' :: 'u' :: 'l' :: 'l' :: rest => some (.null, rest)
  | 't' :: 'r' :: 'u' :: 'e' :: rest =>
      some (.bool true, rest)
  | 'f' :: 'a' :: 'l' :: 's' :: 'e' :: rest =>
      some (.bool false, rest)
  | cs => numberFront? cs

/- Each token takes a character, so the fuel lasts. -/
def tokensWithin :
    Nat → List Char → Option (List Token)
  | _, [] => some []
  | 0, _ :: _ => none
  | n + 1, c :: rest =>
      if isSeparator c then tokensWithin n rest
      else do
        let (token, left) ← tokenFront? (c :: rest)
        return token :: (← tokensWithin n left)

/- The tokens of a text. -/
def tokens? (cs : List Char) : Option (List Token) :=
  tokensWithin cs.length cs

end Json

end Interchain
