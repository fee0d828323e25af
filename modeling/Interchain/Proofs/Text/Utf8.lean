import Interchain.Bytes
import Mathlib.Data.List.Basic
import Mathlib.Order.Defs.LinearOrder

/-
  Bytes that are read as text, and the text that they encode.

  A text is read from its own encoding as it was.  Bytes that
  are read without a replacement are the encoding of what was
  read, so that nothing else reads like them.

  Main declarations:
    * `Bytes.Spells`

  Main statements:
    * `Bytes.Spells.eq_utf8EncodeChar`
    * `Bytes.spells_utf8EncodeChar`
    * `Bytes.lossyText_utf8`
    * `Bytes.eq_utf8_lossyText`
    * `Bytes.lossyText_determines_iff`
-/

------------------------------------------------------------
-- Encoded Characters
------------------------------------------------------------

namespace Interchain

/- A text is encoded character by character. -/
theorem utf8_ofList (cs : List Char) :
    utf8 (String.ofList cs) =
      cs.flatMap String.utf8EncodeChar := by
  rw [utf8, String.toUTF8, String.toByteArray_ofList,
    List.utf8Encode, List.toList_data_toByteArray]

namespace Bytes

/- The byte lies between two others. -/
def IsBetween (low high b : UInt8) : Prop :=
  low.toNat ≤ b.toNat ∧ b.toNat ≤ high.toNat

/- The least second byte leaves out forms that are longer than
   they need be. -/
def leastSecond (a : UInt8) : UInt8 :=
  if a.toNat = 0xE0 then 0xA0
  else if a.toNat = 0xF0 then 0x90
  else 0x80

/- The greatest second byte leaves out surrogates, and code
   points past the last one. -/
def greatestSecond (a : UInt8) : UInt8 :=
  if a.toNat = 0xED then 0x9F
  else if a.toNat = 0xF4 then 0x8F
  else 0xBF

/- The bytes of one character. -/
inductive Spells : Bytes → Char → Prop where
  | one
      {a : UInt8}
      {c : Char}
      (hFirst : a.toNat < 0x80)
      (hChar : c.toNat = a.toNat) :
      Spells [a] c
  | two
      {a b : UInt8}
      {c : Char}
      (hFirst : 0xC2 ≤ a.toNat ∧ a.toNat < 0xE0)
      (hSecond : IsBetween 0x80 0xBF b)
      (hChar :
        c.toNat = (a.toNat - 0xC0) * 64 + (b.toNat - 0x80)) :
      Spells [a, b] c
  | three
      {a b d : UInt8}
      {c : Char}
      (hFirst : 0xE0 ≤ a.toNat ∧ a.toNat < 0xF0)
      (hSecond : IsBetween (leastSecond a) (greatestSecond a) b)
      (hThird : IsBetween 0x80 0xBF d)
      (hChar :
        c.toNat =
          ((a.toNat - 0xE0) * 64 + (b.toNat - 0x80)) * 64 +
            (d.toNat - 0x80)) :
      Spells [a, b, d] c
  | four
      {a b d e : UInt8}
      {c : Char}
      (hFirst : 0xF0 ≤ a.toNat ∧ a.toNat < 0xF5)
      (hSecond : IsBetween (leastSecond a) (greatestSecond a) b)
      (hThird : IsBetween 0x80 0xBF d)
      (hFourth : IsBetween 0x80 0xBF e)
      (hChar :
        c.toNat =
          (((a.toNat - 0xF0) * 64 + (b.toNat - 0x80)) * 64 +
            (d.toNat - 0x80)) * 64 + (e.toNat - 0x80)) :
      Spells [a, b, d, e] c

theorem isBetween_later {b : UInt8} :
    IsBetween 0x80 0xBF b ↔ 0x80 ≤ b.toNat ∧ b.toNat ≤ 0xBF :=
  Iff.rfl

/- The second octet of a character depends on the first. -/
theorem isBetween_second {a b : UInt8} :
    IsBetween (leastSecond a) (greatestSecond a) b ↔
      (0x80 ≤ b.toNat ∧ b.toNat ≤ 0xBF) ∧
        (a.toNat = 0xE0 → 0xA0 ≤ b.toNat) ∧
        (a.toNat = 0xF0 → 0x90 ≤ b.toNat) ∧
        (a.toNat = 0xED → b.toNat ≤ 0x9F) ∧
        (a.toNat = 0xF4 → b.toNat ≤ 0x8F) := by
  unfold IsBetween leastSecond greatestSecond
  simp only [apply_ite UInt8.toNat, UInt8.reduceToNat]
  split_ifs <;> omega

theorem eq_byte_iff {b : UInt8} {n : Nat} :
    b = UInt8.ofNat n ↔ b.toNat = n % 256 := by
  rw [← UInt8.toNat_inj, UInt8.toNat_ofNat']

/- The encoding of a character by the length that its number
   asks for. -/
theorem utf8EncodeChar_eq (c : Char) :
    String.utf8EncodeChar c =
      if c.toNat < 0x80 then [UInt8.ofNat c.toNat]
      else if c.toNat < 0x800 then
        [UInt8.ofNat (c.toNat / 64 % 32 + 0xC0),
          UInt8.ofNat (c.toNat % 64 + 0x80)]
      else if c.toNat < 0x10000 then
        [UInt8.ofNat (c.toNat / 4096 % 16 + 0xE0),
          UInt8.ofNat (c.toNat / 64 % 64 + 0x80),
          UInt8.ofNat (c.toNat % 64 + 0x80)]
      else
        [UInt8.ofNat (c.toNat / 262144 % 8 + 0xF0),
          UInt8.ofNat (c.toNat / 4096 % 64 + 0x80),
          UInt8.ofNat (c.toNat / 64 % 64 + 0x80),
          UInt8.ofNat (c.toNat % 64 + 0x80)] := by
  simp only [String.utf8EncodeChar, Nat.lt_succ_iff]
  rfl

/- What spells a character is its encoding. -/
theorem Spells.eq_utf8EncodeChar
    {bytes : Bytes}
    {c : Char}
    (hSpells : Spells bytes c) :
    bytes = String.utf8EncodeChar c := by
  rw [utf8EncodeChar_eq]
  cases hSpells with
  | one hFirst hChar =>
      rw [if_pos (by omega), hChar, UInt8.ofNat_toNat]
  | two hFirst hSecond hChar =>
      rw [isBetween_later] at hSecond
      rw [if_neg (by omega), if_pos (by omega)]
      simp only [List.cons.injEq, eq_byte_iff, and_true]
      omega
  | three hFirst hSecond hThird hChar =>
      rw [isBetween_second] at hSecond
      rw [isBetween_later] at hThird
      rw [if_neg (by omega), if_neg (by omega),
        if_pos (by omega)]
      simp only [List.cons.injEq, eq_byte_iff, and_true]
      omega
  | four hFirst hSecond hThird hFourth hChar =>
      rw [isBetween_second] at hSecond
      rw [isBetween_later] at hThird hFourth
      rw [if_neg (by omega), if_neg (by omega),
        if_neg (by omega)]
      simp only [List.cons.injEq, eq_byte_iff, and_true]
      omega

theorem Spells.length_pos
    {bytes : Bytes}
    {c : Char}
    (hSpells : Spells bytes c) :
    0 < bytes.length := by
  cases hSpells <;> simp

/- The encoding of a character spells it. -/
theorem spells_utf8EncodeChar (c : Char) :
    Spells (String.utf8EncodeChar c) c := by
  have hValid : c.toNat.isValidChar := c.valid
  unfold Nat.isValidChar at hValid
  rw [utf8EncodeChar_eq]
  split_ifs with hOne hTwo hThree
  · apply Spells.one <;>
      simp only [UInt8.toNat_ofNat'] <;> omega
  · apply Spells.two <;>
      simp only [isBetween_later, UInt8.toNat_ofNat'] <;> omega
  · apply Spells.three <;>
      simp only [isBetween_later, isBetween_second,
        UInt8.toNat_ofNat'] <;> omega
  · apply Spells.four <;>
      simp only [isBetween_later, isBetween_second,
        UInt8.toNat_ofNat'] <;> omega

end Bytes

end Interchain

------------------------------------------------------------
-- Reading
------------------------------------------------------------

namespace Interchain

namespace Bytes

variable {a b : UInt8} {rest bytes : Bytes} {p : Pending}
variable {n v : Nat} {low high : UInt8} {c : Char}

/- What the first byte of a longer character leaves pending:
   the bits of the byte above the mark of its length, and the
   bytes that may come next. -/
theorem start_snd_eq_some_iff :
    (start a).2 = some p ↔
      (0xC2 ≤ a.toNat ∧ a.toNat < 0xE0) ∧
        p = ⟨0, a.toNat - 0xC0, 0x80, 0xBF⟩ ∨
      (0xE0 ≤ a.toNat ∧ a.toNat < 0xF0) ∧
        p = ⟨1, a.toNat - 0xE0, leastSecond a,
          greatestSecond a⟩ ∨
      (0xF0 ≤ a.toNat ∧ a.toNat < 0xF5) ∧
        p = ⟨2, a.toNat - 0xF0, leastSecond a,
          greatestSecond a⟩ := by
  simp only [start, UInt8.lt_iff_toNat_lt, ← UInt8.toNat_inj,
    UInt8.reduceToNat]
  grind [leastSecond, greatestSecond]

/- An octet of the first half is a character. -/
theorem lossyChars_ascii
    (hAscii : a.toNat < 0x80) :
    lossyChars none (a :: rest) =
      Char.ofNat a.toNat :: lossyChars none rest := by
  have hStart : start a = ([Char.ofNat a.toNat], none) :=
    if_pos (UInt8.lt_iff_toNat_lt.mpr hAscii)
  simp only [lossyChars, advance, hStart, List.cons_append,
    List.nil_append]

/- A byte that starts no character is replaced. -/
theorem start_fst_of_none
    (hNone : (start a).2 = none)
    (hPast : ¬ a.toNat < 0x80) :
    (start a).1 = [replacement] := by
  have hByte : ¬ a < 0x80 := by
    rw [UInt8.lt_iff_toNat_lt]
    exact hPast
  grind [start]

/- A first octet asks for others. -/
theorem lossyChars_start
    (hPending : (start a).2 = some p) :
    lossyChars none (a :: rest) = lossyChars (some p) rest := by
  have hNone : (start a).1 = [] := by
    grind [start]
  simp only [lossyChars, advance, hPending, hNone,
    List.nil_append]

/- An octet that was asked for adds six bits. -/
theorem advance_of_isBetween
    (hNext : IsBetween p.low p.high b) :
    advance (some p) b =
      match p.missing with
      | 0 => ([Char.ofNat (p.value * 64 + (b.toNat - 0x80))],
          none)
      | n + 1 => ([],
          some ⟨n, p.value * 64 + (b.toNat - 0x80), 0x80,
            0xBF⟩) := by
  have hTest : (p.low ≤ b && b ≤ p.high) = true := by
    simpa [UInt8.le_iff_toNat_le, IsBetween] using hNext
  exact if_pos hTest

/- The last of them gives the character. -/
theorem lossyChars_last
    (hNext : IsBetween low high b) :
    lossyChars (some ⟨0, v, low, high⟩) (b :: rest) =
      Char.ofNat (v * 64 + (b.toNat - 0x80)) ::
        lossyChars none rest := by
  rw [lossyChars, advance_of_isBetween hNext]
  rfl

/- Any other asks for the next. -/
theorem lossyChars_next
    (hNext : IsBetween low high b) :
    lossyChars (some ⟨n + 1, v, low, high⟩) (b :: rest) =
      lossyChars
        (some ⟨n, v * 64 + (b.toNat - 0x80), 0x80, 0xBF⟩)
        rest := by
  rw [lossyChars, advance_of_isBetween hNext]
  rfl

/- A character is read from its bytes, whatever follows. -/
theorem Spells.lossyChars_append
    (hSpells : Spells bytes c) :
    lossyChars none (bytes ++ rest) =
      c :: lossyChars none rest := by
  rw [← Char.ofNat_toNat c]
  cases hSpells with
  | one hFirst hChar =>
      rw [List.cons_append, lossyChars_ascii hFirst, hChar,
        List.nil_append]
  | two hFirst hSecond hChar =>
      have hStart :=
        start_snd_eq_some_iff.mpr (.inl ⟨hFirst, rfl⟩)
      rw [List.cons_append, lossyChars_start hStart,
        List.cons_append, lossyChars_last hSecond, hChar,
        List.nil_append]
  | three hFirst hSecond hThird hChar =>
      have hStart :=
        start_snd_eq_some_iff.mpr (.inr (.inl ⟨hFirst, rfl⟩))
      rw [List.cons_append, lossyChars_start hStart,
        List.cons_append, lossyChars_next hSecond,
        List.cons_append, lossyChars_last hThird, hChar,
        List.nil_append]
  | four hFirst hSecond hThird hFourth hChar =>
      have hStart :=
        start_snd_eq_some_iff.mpr (.inr (.inr ⟨hFirst, rfl⟩))
      rw [List.cons_append, lossyChars_start hStart,
        List.cons_append, lossyChars_next hSecond,
        List.cons_append, lossyChars_next hThird,
        List.cons_append, lossyChars_last hFourth, hChar,
        List.nil_append]

/- Bytes that follow a pending character are replaced unless
   the next one may come. -/
theorem exists_isBetween_of_notMem
    (hClean : replacement ∉ lossyChars (some p) bytes) :
    ∃ b rest, bytes = b :: rest ∧ IsBetween p.low p.high b := by
  cases bytes with
  | nil => simp [lossyChars] at hClean
  | cons b rest =>
      refine ⟨b, rest, rfl, ?_⟩
      by_contra hNot
      have hTest : (p.low ≤ b && b ≤ p.high) = false := by
        rw [← Bool.not_eq_true]
        simpa [UInt8.le_iff_toNat_le, IsBetween] using hNot
      apply hClean
      simp [lossyChars, advance, hTest]

/- A number that is a character stands for it. -/
theorem toNat_ofNat
    (hValid : n.isValidChar) :
    (Char.ofNat n).toNat = n := by
  rw [Char.ofNat, dif_pos hValid]
  rfl

/- Bytes that are read without a replacement begin with a
   character. -/
theorem exists_spells_of_notMem
    (hClean : replacement ∉ lossyChars none (a :: bytes)) :
    ∃ front c rest,
      a :: bytes = front ++ rest ∧ Spells front c := by
  cases hStart : (start a).2 with
  | none =>
      have hAscii : a.toNat < 0x80 := by
        by_contra hPast
        apply hClean
        rw [lossyChars, advance, start_fst_of_none hStart hPast]
        exact List.mem_cons_self
      refine ⟨[a], _, bytes, rfl,
        .one hAscii (toNat_ofNat ?_)⟩
      left
      omega
  | some p =>
      rw [lossyChars_start hStart] at hClean
      rcases start_snd_eq_some_iff.mp hStart with
        ⟨hFirst, rfl⟩ | ⟨hFirst, rfl⟩ | ⟨hFirst, rfl⟩
      · rcases exists_isBetween_of_notMem hClean with
          ⟨b, rest, rfl, hSecond⟩
        refine ⟨[a, b], _, rest, rfl,
          .two hFirst hSecond (toNat_ofNat ?_)⟩
        rw [isBetween_later] at hSecond
        unfold Nat.isValidChar
        omega
      · rcases exists_isBetween_of_notMem hClean with
          ⟨b, rest, rfl, hSecond⟩
        rw [lossyChars_next hSecond] at hClean
        rcases exists_isBetween_of_notMem hClean with
          ⟨d, rest, rfl, hThird⟩
        refine ⟨[a, b, d], _, rest, rfl,
          .three hFirst hSecond hThird (toNat_ofNat ?_)⟩
        rw [isBetween_second] at hSecond
        rw [isBetween_later] at hThird
        unfold Nat.isValidChar
        omega
      · rcases exists_isBetween_of_notMem hClean with
          ⟨b, rest, rfl, hSecond⟩
        rw [lossyChars_next hSecond] at hClean
        rcases exists_isBetween_of_notMem hClean with
          ⟨d, rest, rfl, hThird⟩
        rw [lossyChars_next hThird] at hClean
        rcases exists_isBetween_of_notMem hClean with
          ⟨e, rest, rfl, hFourth⟩
        refine ⟨[a, b, d, e], _, rest, rfl,
          .four hFirst hSecond hThird hFourth (toNat_ofNat ?_)⟩
        rw [isBetween_second] at hSecond
        rw [isBetween_later] at hThird hFourth
        unfold Nat.isValidChar
        omega

/- Characters are read from their encoding, whatever
   follows. -/
theorem lossyChars_encoded_append
    (cs : List Char)
    (rest : Bytes) :
    lossyChars none (cs.flatMap String.utf8EncodeChar ++ rest) =
      cs ++ lossyChars none rest := by
  induction cs with
  | nil => rfl
  | cons c cs ih =>
      rw [List.flatMap_cons, List.append_assoc,
        (spells_utf8EncodeChar c).lossyChars_append, ih,
        List.cons_append]

/- What is encoded is read back. -/
theorem lossyChars_encoded (cs : List Char) :
    lossyChars none (cs.flatMap String.utf8EncodeChar) = cs := by
  simpa [lossyChars] using lossyChars_encoded_append cs []

/- A text is read from its own encoding. -/
theorem lossyText_utf8 (s : String) :
    (utf8 s).lossyText = s := by
  rw [lossyText, ← String.ofList_toList (s := s), utf8_ofList,
    lossyChars_encoded]

/- Induction on the number of bytes: each character takes the
   bytes that spell it off the front. -/
theorem eq_flatMap_of_notMem
    (hClean : replacement ∉ lossyChars none bytes) :
    bytes =
      (lossyChars none bytes).flatMap String.utf8EncodeChar := by
  induction hLength : bytes.length using Nat.strongRecOn
    generalizing bytes with
  | ind length ih =>
      cases bytes with
      | nil => rfl
      | cons a bytes =>
          rcases exists_spells_of_notMem hClean with
            ⟨front, c, rest, hSplit, hSpells⟩
          have hFront := hSpells.length_pos
          rw [hSplit, List.length_append] at hLength
          rw [hSplit, hSpells.lossyChars_append] at hClean ⊢
          have hRest := ih rest.length (by omega)
            (List.not_mem_of_not_mem_cons hClean) rfl
          rw [List.flatMap_cons, ← hRest,
            ← hSpells.eq_utf8EncodeChar]

/- Bytes that are read without a replacement are the encoding of
   what was read. -/
theorem eq_utf8_lossyText
    (hClean : replacement ∉ bytes.lossyText.toList) :
    bytes = utf8 bytes.lossyText := by
  rw [lossyText, String.toList_ofList] at hClean
  rw [lossyText, utf8_ofList]
  exact eq_flatMap_of_notMem hClean

/- A replacement is read from its own encoding, and from a
   single byte that starts no character. -/
theorem exists_ne_of_mem
    (hReplaced : replacement ∈ lossyChars none bytes) :
    ∃ other, other ≠ bytes ∧
      lossyChars none other = lossyChars none bytes := by
  rcases List.append_of_mem hReplaced with
    ⟨before, after, hRead⟩
  rw [hRead]
  by_cases hEncoded :
      (before ++ replacement :: after).flatMap
        String.utf8EncodeChar = bytes
  · refine
      ⟨before.flatMap String.utf8EncodeChar ++
        0xFF :: after.flatMap String.utf8EncodeChar, ?_, ?_⟩
    · intro hSame
      have hLength :=
        congrArg List.length (hSame.trans hEncoded.symm)
      have hThree :
          (String.utf8EncodeChar replacement).length = 3 := by
        decide
      simp only [List.flatMap_append, List.flatMap_cons,
        List.length_append, List.length_cons, hThree]
        at hLength
      omega
    · rw [lossyChars_encoded_append, lossyChars, advance]
      exact congrArg (before ++ replacement :: ·)
        (lossyChars_encoded after)
  · exact ⟨_, hEncoded, lossyChars_encoded _⟩

/- What bytes are read as tells them exactly when they are read
   without a replacement. -/
theorem lossyText_determines_iff :
    (∀ other, lossyText other = bytes.lossyText →
        other = bytes) ↔
      replacement ∉ bytes.lossyText.toList := by
  constructor
  · intro hOnly hReplaced
    rw [lossyText, String.toList_ofList] at hReplaced
    rcases exists_ne_of_mem hReplaced with
      ⟨other, hNe, hRead⟩
    exact hNe (hOnly other (congrArg String.ofList hRead))
  · intro hClean other hSame
    rw [eq_utf8_lossyText hClean, ← hSame]
    apply eq_utf8_lossyText
    rwa [hSame]

end Bytes

end Interchain
