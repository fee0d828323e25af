import Interchain.Proofs.Json.Lexing

/-
  Reading a written value gives it back.

  A value takes no more fuel than two calls for each of its
  tokens, whatever follows them.

  Main statements:
    * `Json.valueFront?_tokens`
    * `Json.ofText?_render`
    * `Json.render_injective`
-/

------------------------------------------------------------
-- First Tokens
------------------------------------------------------------

namespace Interchain

namespace Json

/- A value has a first piece, and it closes no list. -/
theorem exists_tokens_eq_cons (value : Json) :
    ∃ t ts,
      tokens value = t :: ts ∧ t ≠ .closeArray := by
  match value with
  | .null => exact ⟨_, _, rfl, by simp⟩
  | .bool _ => exact ⟨_, _, rfl, by simp⟩
  | .natural _ => exact ⟨_, _, rfl, by simp⟩
  | .text _ => exact ⟨_, _, rfl, by simp⟩
  | .array [] => exact ⟨_, _, rfl, by simp⟩
  | .array (_ :: _) => exact ⟨_, _, rfl, by simp⟩
  | .object [] => exact ⟨_, _, rfl, by simp⟩
  | .object ((_, _) :: _) => exact ⟨_, _, rfl, by simp⟩
  | .foreign => exact ⟨_, _, rfl, by simp⟩

/- An array that does not close at once is read item by
   item. -/
theorem valueFront?_array
    (n : Nat)
    {t : Token}
    (rest : List Token)
    (h : t ≠ .closeArray) :
    valueFront? (n + 1) (.openArray :: t :: rest) =
      (itemsFront? n (t :: rest)).map fun (items, left) =>
        (.array items, left) := by
  rw [valueFront?]
  simp [h]

/- After a brace and a text, members are read. -/
theorem valueFront?_object
    (n : Nat)
    (key : String)
    (rest : List Token) :
    valueFront? (n + 1) (.openObject :: .text key :: rest) =
      (membersFront? n (.text key :: rest)).map
        fun (members, left) => (ofMembers members, left) := by
  rw [valueFront?]
  simp

end Json

end Interchain

------------------------------------------------------------
-- Descent
------------------------------------------------------------

namespace Interchain

namespace Json

mutual

/- The tokens of a plain value are read as that value. -/
theorem valueFront?_tokens
    (value : Json)
    (rest : List Token)
    {n : Nat}
    (hPlain : isPlain value = true)
    (hFuel : 2 * (tokens value).length ≤ n) :
    valueFront? n (tokens value ++ rest) =
      some (value, rest) := by
  match value, n with
  | .null, n + 1 => rfl
  | .bool _, n + 1 => rfl
  | .natural _, n + 1 => rfl
  | .text _, n + 1 => rfl
  | .array [], n + 1 => rfl
  | .array (item :: items), n + 1 =>
      have hParts :
          isPlain item = true ∧ arePlain items = true := by
        simpa [isPlain, arePlain] using hPlain
      have hItems :=
        itemsFront?_tokens item items rest (n := n)
          hParts.1 hParts.2 (by
            simp [tokens] at hFuel
            omega)
      rcases exists_tokens_eq_cons item with
        ⟨t, ts, hTokens, hFirst⟩
      simp only [tokens, List.cons_append,
        List.append_assoc, List.nil_append, hTokens]
        at hItems ⊢
      rw [valueFront?_array n _ hFirst, hItems]
      rfl
  | .object [], n + 1 => rfl
  | .object ((key, value) :: members), n + 1 =>
      have hParts :
          isPlain value = true ∧
            arePlainMembers members = true := by
        simpa [isPlain, arePlainMembers] using hPlain
      have hMembers :=
        membersFront?_tokens key value members rest (n := n)
          hParts.1 hParts.2 (by
            simp [tokens] at hFuel
            omega)
      simp only [tokens, List.cons_append,
        List.append_assoc, List.nil_append] at hMembers ⊢
      rw [valueFront?_object, hMembers]
      rfl
  | .foreign, _ => simp [isPlain] at hPlain
  | .null, 0 | .bool _, 0 | .natural _, 0 | .text _, 0 |
    .array [], 0 | .object [], 0 =>
      simp [tokens] at hFuel
  | .array (_ :: _), 0 | .object ((_, _) :: _), 0 =>
      simp [tokens] at hFuel

/- Items are read back from their pieces. -/
theorem itemsFront?_tokens
    (item : Json)
    (items : List Json)
    (rest : List Token)
    {n : Nat}
    (hItem : isPlain item = true)
    (hItems : arePlain items = true)
    (hFuel :
      2 * ((tokens item).length +
        (itemTokens items).length) + 1 ≤ n) :
    itemsFront? n
        (tokens item ++ itemTokens items ++
          .closeArray :: rest) =
      some (item :: items, rest) := by
  match items, n with
  | _, 0 => simp at hFuel
  | [], n + 1 =>
      have hValue :=
        valueFront?_tokens item (.closeArray :: rest) (n := n)
          hItem (by omega)
      simp [itemsFront?, itemTokens, hValue]
  | next :: items, n + 1 =>
      have hParts :
          isPlain next = true ∧ arePlain items = true := by
        simpa [arePlain] using hItems
      have hValue :=
        valueFront?_tokens item
          (.comma :: (tokens next ++ (itemTokens items ++
            .closeArray :: rest)))
          (n := n) hItem (by omega)
      have hRest :=
        itemsFront?_tokens next items rest (n := n)
          hParts.1 hParts.2 (by
            simp [itemTokens] at hFuel
            omega)
      simp only [List.append_assoc] at hRest
      simp [itemsFront?, itemTokens, hValue, hRest]

/- Members are read back from their pieces. -/
theorem membersFront?_tokens
    (key : String)
    (value : Json)
    (members : List (String × Json))
    (rest : List Token)
    {n : Nat}
    (hValue : isPlain value = true)
    (hMembers : arePlainMembers members = true)
    (hFuel :
      2 * ((tokens value).length +
        (memberTokens members).length) + 1 ≤ n) :
    membersFront? n
        (.text key :: .colon :: tokens value ++
          memberTokens members ++ .closeObject :: rest) =
      some (some ((key, value) :: members), rest) := by
  match members, n with
  | _, 0 => simp at hFuel
  | [], n + 1 =>
      have hFirst :=
        valueFront?_tokens value (.closeObject :: rest)
          (n := n) hValue (by omega)
      simp [membersFront?, memberTokens, hFirst, Token.isKey,
        Members.cons]
  | (nextKey, next) :: members, n + 1 =>
      have hParts :
          isPlain next = true ∧
            arePlainMembers members = true := by
        simpa [arePlainMembers] using hMembers
      have hFirst :=
        valueFront?_tokens value
          (.comma :: .text nextKey :: .colon ::
            (tokens next ++ (memberTokens members ++
              .closeObject :: rest)))
          (n := n) hValue (by omega)
      have hRest :=
        membersFront?_tokens nextKey next members rest
          (n := n) hParts.1 hParts.2 (by
            simp [memberTokens] at hFuel
            omega)
      simp only [List.cons_append, List.append_assoc] at hRest
      simp [membersFront?, memberTokens, hFirst, hRest,
        Token.isKey, Members.cons]

end

end Json

end Interchain

------------------------------------------------------------
-- Round Trip
------------------------------------------------------------

namespace Interchain

namespace Json

/- A value is cut into its pieces. -/
theorem tokens?_print
    {value : Json}
    (h : isPlain value = true) :
    tokens? (print value) = some (tokens value) := by
  have hEnds : EndsNumber [] := by
    intro c hc
    simp at hc
  have hLexes := lexes_print value h hEnds Lexes.nil
  simp only [List.append_nil] at hLexes
  exact hLexes _ (Nat.le_refl _)

/- A written plain value is read as itself. -/
theorem ofText?_render
    {value : Json}
    (h : isPlain value = true) :
    ofText? value.render = some value := by
  have hValue :=
    valueFront?_tokens value []
      (n := 2 * (tokens value).length + 1) h (by omega)
  rw [List.append_nil] at hValue
  simp [ofText?, render, tokens?_print h, ofTokens?, hValue]

/- Plain values are told apart by their written forms. -/
theorem render_injective
    {a b : Json}
    (ha : isPlain a = true)
    (hb : isPlain b = true)
    (h : a.render = b.render) :
    a = b := by
  have hRead := ofText?_render ha
  rw [h, ofText?_render hb] at hRead
  exact (Option.some.inj hRead).symm

end Json

end Interchain
