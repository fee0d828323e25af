import Interchain.Text.Decimal
import Interchain.Text.Hexadecimal

/-
  JSON values and their compact written form.

  Every record of the library is made of texts, natural
  numbers, lists and smaller records, so a value holds no
  other kind of number.  What a reader meets beyond that is
  `Json.foreign`: it can be skipped, and nothing is read from
  it.

  Main declarations:
    * `Json`
    * `Json.render`
-/

------------------------------------------------------------
-- Values
------------------------------------------------------------

namespace Interchain

/-
  A JSON value.  A foreign value is a number with a sign, a
  fraction or an exponent, a text with an unpaired surrogate,
  or an object with such a text for a key.
-/
inductive Json where
  | null
  | bool (value : Bool)
  | natural (value : Nat)
  | text (value : String)
  | array (items : List Json)
  | object (members : List (String × Json))
  | foreign

end Interchain

------------------------------------------------------------
-- Text
------------------------------------------------------------

namespace Interchain

namespace Json

/-
  One character of a written text.  Quotation marks,
  backslashes and control characters are escaped.
-/
def printChar (c : Char) : List Char :=
  if c = '"' then ['\\', '"']
  else if c = '\\' then ['\\', '\\']
  else if c = '\x08' then ['\\', 'b']
  else if c = '\t' then ['\\', 't']
  else if c = '\n' then ['\\', 'n']
  else if c = '\x0c' then ['\\', 'f']
  else if c = '\r' then ['\\', 'r']
  else if c.toNat < 0x20 then
    '\\' :: 'u' :: (Bytes.hex [0, c.toUInt8]).toList
  else [c]

/- A written text. -/
def printText (s : String) : List Char :=
  '"' :: s.toList.flatMap printChar ++ ['"']

end Json

end Interchain

------------------------------------------------------------
-- Printing
------------------------------------------------------------

namespace Interchain

namespace Json

mutual

/-
  The compact written form: no blanks, members in their order.
  A foreign value has no form of its own and shows as null.
-/
def print : Json → List Char
  | .null => "null".toList
  | .bool true => "true".toList
  | .bool false => "false".toList
  | .natural n => Text.digits n
  | .text s => printText s
  | .array [] => ['[', ']']
  | .array (item :: rest) =>
      '[' :: print item ++ printItems rest ++ [']']
  | .object [] => ['\x7b', '\x7d']
  | .object ((key, value) :: rest) =>
      '\x7b' :: printText key ++ ':' :: print value ++
        printMembers rest ++ ['\x7d']
  | .foreign => "null".toList

/- The items after the first. -/
def printItems : List Json → List Char
  | [] => []
  | item :: rest => ',' :: print item ++ printItems rest

/- The members after the first. -/
def printMembers : List (String × Json) → List Char
  | [] => []
  | (key, value) :: rest =>
      ',' :: printText key ++ ':' :: print value ++
        printMembers rest

end

/- The compact written form as a text. -/
def render (value : Json) : String :=
  String.ofList (print value)

end Json

end Interchain
