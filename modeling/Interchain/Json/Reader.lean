import Interchain.Json.Token
import Interchain.Json.Value

/-
  Reading a JSON text.

  The tokens of a text are put together by recursive descent.
  The fuel bounds the number of calls: two for each token.

  Main declarations:
    * `Json.ofText?`
-/

------------------------------------------------------------
-- Objects
------------------------------------------------------------

namespace Interchain

namespace Json

/-
  The members that were read, or nothing once a key was found
  to have no value.
-/
abbrev Members := Option (List (String × Json))

/- Put a member in front of those read after it. -/
def Members.cons
    (key : Token)
    (value : Json)
    (rest : Members) :
    Members :=
  match key with
  | .text k => rest.map ((k, value) :: ·)
  | _ => none

/- An object with a key that has no value is foreign. -/
def ofMembers : Members → Json
  | some members => .object members
  | none => .foreign

/- The tokens that may stand for a key. -/
def Token.isKey : Token → Bool
  | .text _ => true
  | .unpairedText => true
  | _ => false

end Json

end Interchain

------------------------------------------------------------
-- Recursive Descent
------------------------------------------------------------

namespace Interchain

namespace Json

mutual

/- Read the value at the front. -/
def valueFront? :
    Nat → List Token → Option (Json × List Token)
  | 0, _ => none
  | _ + 1, .null :: rest => some (.null, rest)
  | _ + 1, .bool b :: rest => some (.bool b, rest)
  | _ + 1, .natural n :: rest => some (.natural n, rest)
  | _ + 1, .otherNumber :: rest => some (.foreign, rest)
  | _ + 1, .text s :: rest => some (.text s, rest)
  | _ + 1, .unpairedText :: rest => some (.foreign, rest)
  | _ + 1, .openArray :: .closeArray :: rest =>
      some (.array [], rest)
  | n + 1, .openArray :: rest =>
      (itemsFront? n rest).map fun (items, left) =>
        (.array items, left)
  | _ + 1, .openObject :: .closeObject :: rest =>
      some (.object [], rest)
  | n + 1, .openObject :: rest =>
      (membersFront? n rest).map fun (members, left) =>
        (ofMembers members, left)
  | _ + 1, _ => none

/- Read at least one item, up to the closing bracket. -/
def itemsFront? :
    Nat → List Token → Option (List Json × List Token)
  | 0, _ => none
  | n + 1, tokens =>
      match valueFront? n tokens with
      | some (item, .closeArray :: rest) =>
          some ([item], rest)
      | some (item, .comma :: rest) =>
          (itemsFront? n rest).map fun (items, left) =>
            (item :: items, left)
      | _ => none

/- Read at least one member, up to the closing brace. -/
def membersFront? :
    Nat → List Token → Option (Members × List Token)
  | 0, _ => none
  | n + 1, key :: .colon :: tokens =>
      if key.isKey then
        match valueFront? n tokens with
        | some (value, .closeObject :: rest) =>
            some (Members.cons key value (some []), rest)
        | some (value, .comma :: rest) =>
            (membersFront? n rest).map fun (members, left) =>
              (Members.cons key value members, left)
        | _ => none
      else none
  | _ + 1, _ => none

end

/- The value that tokens spell, with none left over. -/
def ofTokens? (tokens : List Token) : Option Json :=
  match valueFront? (2 * tokens.length + 1) tokens with
  | some (value, []) => some value
  | _ => none

/- The value that a text spells. -/
def ofText? (text : String) : Option Json :=
  (tokens? text.toList).bind ofTokens?

end Json

end Interchain
