import Interchain.Json.Reader
import Mathlib.Data.List.Basic

/-
  Scanning a written value gives its tokens back.

  A number ends where the next character is no part of it, so
  a value is scanned in front of a text that cannot continue
  one: nothing, a comma, or a closing mark.

  Main declarations:
    * `Json.tokens`
    * `Json.isPlain`
    * `Json.Lexes`

  Main statements:
    * `Json.lexes_print`
-/

------------------------------------------------------------
-- Tokens of a Value
------------------------------------------------------------

namespace Interchain

namespace Json

mutual

/- The tokens that a written value consists of. -/
def tokens : Json → List Token
  | .null => [.null]
  | .bool b => [.bool b]
  | .natural n => [.natural n]
  | .text s => [.text s]
  | .array [] => [.openArray, .closeArray]
  | .array (item :: rest) =>
      .openArray :: tokens item ++ itemTokens rest ++
        [.closeArray]
  | .object [] => [.openObject, .closeObject]
  | .object ((key, value) :: rest) =>
      .openObject :: .text key :: .colon :: tokens value ++
        memberTokens rest ++ [.closeObject]
  | .foreign => [.null]

/- The tokens of the items after the first. -/
def itemTokens : List Json → List Token
  | [] => []
  | item :: rest => .comma :: tokens item ++ itemTokens rest

/- The tokens of the members after the first. -/
def memberTokens : List (String × Json) → List Token
  | [] => []
  | (key, value) :: rest =>
      .comma :: .text key :: .colon :: tokens value ++
        memberTokens rest

end

mutual

/- A value without a foreign part. -/
def isPlain : Json → Bool
  | .array items => arePlain items
  | .object members => arePlainMembers members
  | .foreign => false
  | _ => true

/- Each of the values is plain. -/
def arePlain : List Json → Bool
  | [] => true
  | item :: rest => isPlain item && arePlain rest

/- The value of each member is plain. -/
def arePlainMembers : List (String × Json) → Bool
  | [] => true
  | (_, value) :: rest =>
      isPlain value && arePlainMembers rest

end

/- A list is plain if each of its items is. -/
theorem arePlain_iff (items : List Json) :
    arePlain items = true ↔
      ∀ item ∈ items, isPlain item = true := by
  induction items with
  | nil => simp [arePlain]
  | cons item rest ih => simp [arePlain, ih]

end Json

end Interchain

------------------------------------------------------------
-- Scanning Token by Token
------------------------------------------------------------

namespace Interchain

namespace Json

/- Any fuel that covers the characters scans the tokens. -/
def Lexes (cs : List Char) (ts : List Token) : Prop :=
  ∀ n, cs.length ≤ n → tokensWithin n cs = some ts

namespace Lexes

theorem nil : Lexes [] [] := by
  intro n _
  cases n <;> rfl

/- A piece that is read leaves the others to be read. -/
theorem cons
    {c : Char}
    {rest left : List Char}
    {t : Token}
    {ts : List Token}
    (hSeparator : isSeparator c = false)
    (hFront : tokenFront? (c :: rest) = some (t, left))
    (hLength : left.length ≤ rest.length)
    (hLeft : Lexes left ts) :
    Lexes (c :: rest) (t :: ts) := by
  intro n hn
  cases n with
  | zero => simp at hn
  | succ n =>
      have hFuel : left.length ≤ n := by
        simp at hn
        omega
      simp [tokensWithin, hSeparator, hFront, hLeft n hFuel]

end Lexes

end Json

end Interchain

------------------------------------------------------------
-- Numbers
------------------------------------------------------------

namespace Interchain

namespace Json

/- Characters that cannot continue a number. -/
def EndsNumber (rest : List Char) : Prop :=
  ∀ c ∈ rest.head?, c = ',' ∨ c = ']' ∨ c = '\x7d'

theorem isDigit_cases
    {c : Char}
    (h : c.isDigit = true) :
    ∃ n < 10, c = Nat.digitChar n := by
  have hRange : 48 ≤ c.toNat ∧ c.toNat ≤ 57 := by
    simp only [Char.isDigit, Bool.and_eq_true,
      decide_eq_true_eq, ge_iff_le, UInt32.le_iff_toNat_le]
      at h
    exact h
  refine ⟨c.toNat - 48, by omega, ?_⟩
  apply Char.toNat_inj.mp
  rw [Nat.toNat_digitChar_of_lt_ten (by omega)]
  omega

/- A digit starts no token but a number. -/
theorem tokenFront?_digit
    {c : Char}
    (rest : List Char)
    (h : c.isDigit = true) :
    isSeparator c = false ∧
      tokenFront? (c :: rest) =
        unsignedFront? (c :: rest) := by
  rcases isDigit_cases h with ⟨n, hn, rfl⟩
  have hDigit :
      n = 0 ∨ n = 1 ∨ n = 2 ∨ n = 3 ∨ n = 4 ∨
        n = 5 ∨ n = 6 ∨ n = 7 ∨ n = 8 ∨ n = 9 := by
    omega
  rcases hDigit with
    rfl | rfl | rfl | rfl | rfl | rfl | rfl | rfl | rfl | rfl <;>
    exact ⟨rfl, rfl⟩

/- A number ends before what is no digit. -/
theorem not_isDigit_of_endsNumber
    {c : Char}
    {rest : List Char}
    (h : EndsNumber (c :: rest)) :
    c.isDigit = false := by
  rcases h c rfl with rfl | rfl | rfl <;> rfl

theorem startsTail_of_endsNumber
    {rest : List Char}
    (h : EndsNumber rest) :
    startsTail rest = false := by
  cases rest with
  | nil => rfl
  | cons c rest =>
      rcases h c rfl with rfl | rfl | rfl <;> rfl

theorem dropWhile_isDigit_of_endsNumber
    {rest : List Char}
    (h : EndsNumber rest) :
    rest.takeWhile Char.isDigit = [] ∧
      rest.dropWhile Char.isDigit = rest := by
  cases rest with
  | nil => simp
  | cons c rest => simp [not_isDigit_of_endsNumber h]

/- The equations of `extendNatural`; unfolding it by its own
   makes Lean compute with the factor ten. -/
theorem extendNatural_nil (n : Nat) :
    extendNatural n [] = n := by
  delta extendNatural
  rfl

theorem extendNatural_cons
    (n : Nat)
    (c : Char)
    (cs : List Char) :
    extendNatural n (c :: cs) =
      extendNatural (n * 10 + (c.toNat - '0'.toNat)) cs := by
  delta extendNatural
  rfl

/- Reading digit by digit is reading the numeral. -/
theorem extendNatural_eq_ofDigitChars
    (n : Nat)
    (cs : List Char) :
    extendNatural n cs = Nat.ofDigitChars 10 cs n := by
  induction cs generalizing n with
  | nil => rw [extendNatural_nil, Nat.ofDigitChars_nil]
  | cons c rest ih =>
      rw [extendNatural_cons, ih, Nat.ofDigitChars_cons,
        Nat.mul_comm]

/- A written number other than zero starts with no zero. -/
theorem head_digits_ne_zero
    {n : Nat}
    (h : n ≠ 0) :
    (Text.digits n).head? ≠ some '0' := by
  induction n using Nat.strongRecOn with
  | ind n ih =>
      unfold Text.digits
      by_cases hSmall : n < 10
      · simp [Nat.toDigits_of_lt_base hSmall, h]
      · have hBase : 10 ≤ n := by omega
        have hRest := ih (n / 10) (by omega) (by omega)
        rw [Nat.toDigits_of_base_le (by decide) hBase,
          List.head?_append_of_ne_nil _
            Nat.toDigits_ne_nil]
        exact hRest

/- The digits of a number are read to their end. -/
theorem integerFront?_digits
    (n : Nat)
    {rest : List Char}
    (h : EndsNumber rest) :
    integerFront? (Text.digits n ++ rest) =
      some (Text.digits n, rest) := by
  rcases dropWhile_isDigit_of_endsNumber h with ⟨hTake, hDrop⟩
  have hDigits :
      ∀ c ∈ Text.digits n, c.isDigit = true := fun c hc =>
    Nat.isDigit_of_mem_toDigits (by decide) (by decide) hc
  by_cases hZero : n = 0
  · subst hZero
    cases rest with
    | nil => rfl
    | cons c rest =>
        have hChar := not_isDigit_of_endsNumber h
        simp [Text.digits, integerFront?, hChar]
  · have hHead := head_digits_ne_zero hZero
    cases hCases : Text.digits n with
    | nil => exact absurd hCases Nat.toDigits_ne_nil
    | cons d ds =>
        rw [hCases] at hHead hDigits
        have hd : d ≠ '0' := by simpa using hHead
        have hFront :
            integerFront? (d :: ds ++ rest) =
              digitsFront? (d :: ds ++ rest) := by
          simp [integerFront?, hd]
        rw [hFront]
        simp only [digitsFront?,
          List.takeWhile_append_of_pos hDigits,
          List.dropWhile_append_of_pos hDigits, hTake, hDrop,
          List.append_nil]

/- They give back the number. -/
theorem unsignedFront?_digits
    (n : Nat)
    {rest : List Char}
    (h : EndsNumber rest) :
    unsignedFront? (Text.digits n ++ rest) =
      some (.natural n, rest) := by
  have hValue : extendNatural 0 (Text.digits n) = n := by
    rw [extendNatural_eq_ofDigitChars]
    exact Nat.ofDigitChars_ten_toDigits
  simp [unsignedFront?, integerFront?_digits n h,
    startsTail_of_endsNumber h, hValue]

/- A number is one piece. -/
theorem lexes_digits
    (n : Nat)
    {rest : List Char}
    {ts : List Token}
    (h : EndsNumber rest)
    (hRest : Lexes rest ts) :
    Lexes (Text.digits n ++ rest) (.natural n :: ts) := by
  have hFront := unsignedFront?_digits n h
  cases hCases : Text.digits n with
  | nil => exact absurd hCases Nat.toDigits_ne_nil
  | cons d ds =>
      have hDigit : d.isDigit = true := by
        apply Nat.isDigit_of_mem_toDigits
          (b := 10) (n := n) (by decide) (by decide)
        change d ∈ Text.digits n
        simp [hCases]
      rw [hCases] at hFront
      have hToken := tokenFront?_digit (ds ++ rest) hDigit
      refine Lexes.cons hToken.1 (hToken.2.trans hFront)
        ?_ hRest
      simp

end Json

end Interchain

------------------------------------------------------------
-- Texts
------------------------------------------------------------

namespace Interchain

namespace Json

@[simp] theorem Scanned.after_none (s : Scanned) :
    Scanned.after none s = s := by
  simp [Scanned.after]

/- The number of a control character is read back. -/
theorem hexUnit?_control
    {c : Char}
    {high low high' low' : Char}
    (h : c.toNat < 0x20)
    (hDigits :
      Bytes.hex [0, c.toUInt8] =
        String.ofList [high, low, high', low']) :
    hexUnit? high low high' low' = some c.toNat := by
  have hByte : c.toUInt8.toNat = c.toNat := by
    change c.toNat % 256 = c.toNat
    omega
  rw [hexUnit?, ← hDigits, Bytes.ofHex?_hex]
  simp [hByte]

/- A control character is read back from its numeral. -/
theorem scanText_control
    {c : Char}
    (rest : List Char)
    (h : c.toNat < 0x20) :
    scanText none
        ('\\' :: 'u' :: (Bytes.hex [0, c.toUInt8]).toList ++
          rest) =
      (scanText none rest).map (Scanned.cons c) := by
  have hHigh : isHighSurrogate c.toNat = false := by
    simp [isHighSurrogate]
    omega
  have hLow : isLowSurrogate c.toNat = false := by
    simp [isLowSurrogate]
    omega
  rw [Bytes.hex, String.toList_ofList]
  simp only [Bytes.hexDigits, List.flatMap_cons,
    List.flatMap_nil, List.cons_append, List.nil_append]
  rw [scanText, hexUnit?_control h rfl]
  simp [hHigh, hLow, Char.ofNat_toNat]

/- Any other character stands for itself. -/
theorem scanText_plain
    {c : Char}
    (rest : List Char)
    (hQuote : c ≠ '"')
    (hSlash : c ≠ '\\')
    (hControl : ¬ c.toNat < 0x20) :
    scanText none (c :: rest) =
      (scanText none rest).map (Scanned.cons c) := by
  have hBad : ¬ (c.toNat < 0x20 ∨ c = '\\') := by
    simp [hControl, hSlash]
  rw [scanText]
  · rw [if_neg hBad]
    simp
  all_goals
    intros
    simp_all

/- A written character is read back in front of the rest. -/
theorem scanText_printChar
    (c : Char)
    (rest : List Char) :
    scanText none (printChar c ++ rest) =
      (scanText none rest).map (Scanned.cons c) := by
  unfold printChar
  split
  case isTrue h => subst h; simp [scanText, escaped?]
  split
  case isTrue h => subst h; simp [scanText, escaped?]
  split
  case isTrue h => subst h; simp [scanText, escaped?]
  split
  case isTrue h => subst h; simp [scanText, escaped?]
  split
  case isTrue h => subst h; simp [scanText, escaped?]
  split
  case isTrue h => subst h; simp [scanText, escaped?]
  split
  case isTrue h => subst h; simp [scanText, escaped?]
  split
  case isTrue h => exact scanText_control rest h
  case isFalse hControl =>
    exact scanText_plain rest (by assumption)
      (by assumption) hControl

/- A text that is printed is read back to its quote. -/
theorem scanText_printed
    (cs rest : List Char) :
    scanText none
        (cs.flatMap printChar ++ '"' :: rest) =
      some (some cs, rest) := by
  induction cs with
  | nil => simp [scanText]
  | cons c cs ih =>
      rw [List.flatMap_cons, List.append_assoc,
        scanText_printChar, ih]
      rfl

/- A text is one piece. -/
theorem lexes_printText
    (s : String)
    {rest : List Char}
    {ts : List Token}
    (hRest : Lexes rest ts) :
    Lexes (printText s ++ rest) (.text s :: ts) := by
  have hText :
      textFront?
          (s.toList.flatMap printChar ++ '"' :: rest) =
        some (.text s, rest) := by
    simp [textFront?, scanText_printed]
  have hPrint :
      printText s ++ rest =
        '"' :: (s.toList.flatMap printChar ++
          '"' :: rest) := by
    simp [printText]
  rw [hPrint]
  refine Lexes.cons rfl hText ?_ hRest
  simp
  omega

end Json

end Interchain

------------------------------------------------------------
-- Written Values
------------------------------------------------------------

namespace Interchain

namespace Json

/- The marks of a value are tokens of one character. -/
theorem lexes_mark
    {c : Char}
    {t : Token}
    {rest : List Char}
    {ts : List Token}
    (hSeparator : isSeparator c = false)
    (hFront : tokenFront? (c :: rest) = some (t, rest))
    (hRest : Lexes rest ts) :
    Lexes (c :: rest) (t :: ts) :=
  Lexes.cons hSeparator hFront (Nat.le_refl _) hRest

/- A number ends before a comma, or where a value closes. -/
theorem endsNumber_cons
    {c : Char}
    (rest : List Char)
    (h : c = ',' ∨ c = ']' ∨ c = '\x7d') :
    EndsNumber (c :: rest) := by
  intro d hd
  rw [List.head?_cons, Option.mem_some_iff] at hd
  rw [← hd]
  exact h

theorem endsNumber_printItems
    (items : List Json)
    (rest : List Char) :
    EndsNumber (printItems items ++ ']' :: rest) := by
  cases items <;>
    exact endsNumber_cons _ (by simp)

theorem endsNumber_printMembers
    (members : List (String × Json))
    (rest : List Char) :
    EndsNumber (printMembers members ++ '\x7d' :: rest) := by
  cases members <;>
    exact endsNumber_cons _ (by simp)

mutual

/- A plain value in front of a text scans to its tokens. -/
theorem lexes_print
    (value : Json)
    {rest : List Char}
    {ts : List Token}
    (hPlain : isPlain value = true)
    (hEnds : EndsNumber rest)
    (hRest : Lexes rest ts) :
    Lexes (print value ++ rest) (tokens value ++ ts) := by
  match value with
  | .null =>
      exact Lexes.cons rfl rfl (by simp; omega) hRest
  | .bool true =>
      exact Lexes.cons rfl rfl (by simp; omega) hRest
  | .bool false =>
      exact Lexes.cons rfl rfl (by simp; omega) hRest
  | .natural n =>
      simpa [print, tokens] using lexes_digits n hEnds hRest
  | .text s =>
      simpa [print, tokens] using lexes_printText s hRest
  | .array [] =>
      exact lexes_mark rfl rfl (lexes_mark rfl rfl hRest)
  | .array (item :: items) =>
      have hParts :
          isPlain item = true ∧ arePlain items = true := by
        simpa [isPlain, arePlain] using hPlain
      have hItems :=
        lexes_printItems items hParts.2
          (lexes_mark rfl rfl hRest)
      have hItem :=
        lexes_print item hParts.1
          (endsNumber_printItems items rest) hItems
      simpa [print, tokens] using lexes_mark rfl rfl hItem
  | .object [] =>
      exact lexes_mark rfl rfl (lexes_mark rfl rfl hRest)
  | .object ((key, value) :: members) =>
      have hParts :
          isPlain value = true ∧
            arePlainMembers members = true := by
        simpa [isPlain, arePlainMembers] using hPlain
      have hMembers :=
        lexes_printMembers members hParts.2
          (lexes_mark rfl rfl hRest)
      have hValue :=
        lexes_print value hParts.1
          (endsNumber_printMembers members rest) hMembers
      have hColon :
          Lexes
            (':' :: (print value ++ (printMembers members ++
              '\x7d' :: rest))) _ :=
        lexes_mark rfl rfl hValue
      have hKey := lexes_printText key hColon
      simpa [print, tokens] using lexes_mark rfl rfl hKey
  | .foreign => simp [isPlain] at hPlain

/- Items are cut into their pieces. -/
theorem lexes_printItems
    (items : List Json)
    {rest : List Char}
    {ts : List Token}
    (hPlain : arePlain items = true)
    (hRest : Lexes (']' :: rest) ts) :
    Lexes (printItems items ++ ']' :: rest)
      (itemTokens items ++ ts) := by
  match items with
  | [] => simpa [printItems, itemTokens] using hRest
  | item :: items =>
      have hParts :
          isPlain item = true ∧ arePlain items = true := by
        simpa [arePlain] using hPlain
      have hItems := lexes_printItems items hParts.2 hRest
      have hItem :=
        lexes_print item hParts.1
          (endsNumber_printItems items rest) hItems
      simpa [printItems, itemTokens] using
        lexes_mark rfl rfl hItem

/- Members are cut into their pieces. -/
theorem lexes_printMembers
    (members : List (String × Json))
    {rest : List Char}
    {ts : List Token}
    (hPlain : arePlainMembers members = true)
    (hRest : Lexes ('\x7d' :: rest) ts) :
    Lexes (printMembers members ++ '\x7d' :: rest)
      (memberTokens members ++ ts) := by
  match members with
  | [] => simpa [printMembers, memberTokens] using hRest
  | (key, value) :: members =>
      have hParts :
          isPlain value = true ∧
            arePlainMembers members = true := by
        simpa [arePlainMembers] using hPlain
      have hMembers :=
        lexes_printMembers members hParts.2 hRest
      have hValue :=
        lexes_print value hParts.1
          (endsNumber_printMembers members rest) hMembers
      have hColon :
          Lexes
            (':' :: (print value ++ (printMembers members ++
              '\x7d' :: rest))) _ :=
        lexes_mark rfl rfl hValue
      have hKey := lexes_printText key hColon
      simpa [printMembers, memberTokens] using
        lexes_mark rfl rfl hKey

end

end Json

end Interchain
