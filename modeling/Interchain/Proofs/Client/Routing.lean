import Interchain.Proofs.Handshake.Result
import Interchain.Proofs.Identifier.Acceptance
import Interchain.Proofs.Text.Decimal
import Mathlib.Data.List.TakeWhile

/-
  An identifier selects the light client it was made for.

  The name of a kind holds hyphens itself, but what follows
  the last hyphen of an identifier is no part of it.  So the
  identifier names at most one kind, and those that are made
  for a kind name that kind.

  Main declarations:
    * `ClientId.Names`

  Main statements:
    * `ClientId.beforeLast?_eq_some_iff`
    * `ClientId.kind_eq_ok_iff`
    * `ClientId.make_eq_ok`
    * `ClientId.selects_kind_exactly`
-/

------------------------------------------------------------
-- The Last Hyphen
------------------------------------------------------------

namespace Interchain

namespace ClientId

/- A text is cut where its rest no longer holds the mark. -/
theorem beforeLast?_eq_some_iff
    {mark : Char}
    {s before : String} :
    beforeLast? mark s = some before ↔
      ∃ rest : String, mark ∉ rest.toList ∧
        s.toList = before.toList ++ mark :: rest.toList := by
  have hSplit := List.takeWhile_append_dropWhile
    (p := (· != mark)) (l := s.toList.reverse)
  have hFront :
      mark ∉ s.toList.reverse.takeWhile (· != mark) := by
    intro hMem
    simpa using List.mem_takeWhile_imp hMem
  constructor
  · intro hCut
    unfold beforeLast? at hCut
    split at hCut
    case h_1 => cases hCut
    case h_2 c left hDrop =>
      cases hCut
      have hMark : c = mark := by
        have hHead := List.head_dropWhile_not (· != mark)
          (l := s.toList.reverse) (by rw [hDrop]; simp)
        simpa [hDrop] using hHead
      refine
        ⟨.ofList
          (s.toList.reverse.takeWhile (· != mark)).reverse,
          by simpa using hFront, ?_⟩
      rw [hDrop, hMark] at hSplit
      calc
        s.toList
          = (s.toList.reverse.takeWhile (· != mark) ++
              mark :: left).reverse := by
            rw [hSplit, List.reverse_reverse]
        _ = _ := by simp
  · rintro ⟨rest, hRest, hText⟩
    have hPass :
        ∀ c ∈ rest.toList.reverse, (c != mark) = true := by
      intro c hc
      rw [List.mem_reverse] at hc
      have hNe : c ≠ mark := by
        rintro rfl
        exact hRest hc
      simpa using hNe
    have hDrop :
        s.toList.reverse.dropWhile (· != mark) =
          mark :: before.toList.reverse := by
      rw [hText, List.reverse_append, List.reverse_cons,
        List.append_assoc, List.dropWhile_append_of_pos hPass]
      simp
    simp [beforeLast?, hDrop]

end ClientId

end Interchain

------------------------------------------------------------
-- Kinds
------------------------------------------------------------

namespace Interchain

/- Only the name of a kind is read as that kind. -/
theorem ClientKind.ofName?_eq_some_iff
    {s : String}
    {kind : ClientKind} :
    ofName? s = some kind ↔ s = kind.name := by
  constructor
  · intro hFind
    rw [ofName?] at hFind
    have hName := List.find?_some hFind
    exact (beq_iff_eq.mp hName).symm
  · rintro rfl
    exact ofName?_name kind

namespace ClientId

/- The name of the kind, a hyphen, and a rest without one. -/
def Names (id : ClientId) (kind : ClientKind) : Prop :=
  ∃ rest : String, '-' ∉ rest.toList ∧
    id.text = kind.name ++ "-" ++ rest

variable {id : ClientId} {kind : ClientKind}

/- Cut at its last dash, a name leaves the name of its kind. -/
theorem beforeLast?_bind_eq_some_iff :
    (beforeLast? '-' id.text).bind ClientKind.ofName? =
        some kind ↔
      id.Names kind := by
  have hText (rest : String) :
      id.text.toList = kind.name.toList ++ '-' :: rest.toList ↔
        id.text = kind.name ++ "-" ++ rest := by
    rw [← String.toList_inj]
    simp
  simp only [Option.bind_eq_some_iff, beforeLast?_eq_some_iff,
    ClientKind.ofName?_eq_some_iff, exists_eq_right, Names, hText]

/- A client is routed to the kind that its name begins with. -/
theorem kind_eq_ok_iff :
    id.kind = .ok kind ↔ id.Names kind := by
  rw [← beforeLast?_bind_eq_some_iff, ClientId.kind]
  split
  case h_1 other hNamed => simp [hNamed]
  case h_2 hUnknown => simp [hUnknown]

/- An identifier that names no kind is an error that tells
   it. -/
theorem kind_eq_error_iff {e : IdentifierError} :
    id.kind = .error e ↔
      e = .unknownClient id.text ∧ ∀ kind, ¬ id.Names kind := by
  simp only [← beforeLast?_bind_eq_some_iff, ClientId.kind]
  split
  case h_1 other hNamed => simp [hNamed]
  case h_2 hUnknown => simp [hUnknown, eq_comm]

end ClientId

end Interchain

------------------------------------------------------------
-- Numbered Identifiers
------------------------------------------------------------

namespace Interchain

namespace ClientId

variable {kind kind' : ClientKind} {n n' : UInt64}

/- A name that is made names its kind. -/
theorem names_numbered (kind : ClientKind) (n : UInt64) :
    (numbered kind n).Names kind := by
  refine ⟨Text.decimal n.toNat, ?_, rfl⟩
  intro hHyphen
  have hDigit := Text.isDigit_of_mem_decimal hHyphen
  simp [Char.isDigit] at hDigit

/- It also has a length and characters that are allowed. -/
theorem isAdmitted_numbered (kind : ClientKind) (n : UInt64) :
    Identifier.IsAdmitted 9 64 (numbered kind n).text := by
  constructor
  · have hShort := Text.length_digits_pos n.toNat
    have hLong := Text.length_digits_le n
    have hSize :
        (numbered kind n).text.utf8ByteSize =
          kind.name.utf8ByteSize + 1 +
            (Text.digits n.toNat).length := by
      simp only [numbered, String.utf8ByteSize_append,
        Text.utf8ByteSize_decimal]
      rfl
    have hName :
        7 ≤ kind.name.utf8ByteSize ∧
          kind.name.utf8ByteSize ≤ 14 := by
      cases kind <;> decide
    rw [Identifier.HasLength, hSize]
    omega
  · intro c hc
    simp only [numbered, String.toList_append,
      List.mem_append] at hc
    have hAll : kind.name.toList.all Identifier.isAllowed := by
      cases kind <;> decide +kernel
    have hMark : "-".toList.all Identifier.isAllowed := by
      decide +kernel
    rcases hc with (hName | hHyphen) | hDigit
    · exact List.all_eq_true.mp hAll c hName
    · exact List.all_eq_true.mp hMark c hHyphen
    · apply Identifier.isAllowed_iff.mpr
      left
      apply Text.isAlphanumeric_of_isAlphanum
      rw [Char.isAlphanum, Text.isDigit_of_mem_decimal hDigit,
        Bool.or_true]

/- So making a name never fails. -/
theorem make_eq_ok (kind : ClientKind) (n : UInt64) :
    make kind n = .ok (numbered kind n) :=
  ofText_eq_ok_iff.mpr ⟨rfl, isAdmitted_numbered kind n⟩

/- A client that is made goes to the light client of its kind. -/
theorem kind_numbered (kind : ClientKind) (n : UInt64) :
    (numbered kind n).kind = .ok kind :=
  kind_eq_ok_iff.mpr (names_numbered kind n)

/- Names that are made differ if their kinds or numbers do. -/
theorem numbered_inj :
    numbered kind n = numbered kind' n' ↔
      kind = kind' ∧ n = n' := by
  constructor
  · intro hSame
    have hKind := kind_numbered kind n
    rw [hSame, kind_numbered, Except.ok.injEq] at hKind
    have hText := congrArg ClientId.text hSame
    rw [numbered, numbered, hKind,
      String.append_right_inj] at hText
    exact ⟨hKind.symm,
      UInt64.toNat_inj.mp (Text.decimal_injective hText)⟩
  · rintro ⟨rfl, rfl⟩
    rfl

end ClientId

end Interchain

------------------------------------------------------------
-- Routing
------------------------------------------------------------

namespace Interchain

/- The client that checks the proofs of a connection is the one
   of the kind that the identifier names. -/
theorem Host.counterpartyClient_eq_ok_iff
    {h : Host}
    {connection : ConnectionEnd}
    {height : Height}
    {client : LightClient}
    {state : ConsensusState} :
    h.counterpartyClient connection height =
        .ok (client, state) ↔
      (∃ kind, connection.client.Names kind ∧
        h.clients.find kind = .ok client) ∧
      h.consensusState connection.client height =
        .ok state := by
  simp only [counterpartyClient, bind_eq_ok, wrapError_eq_ok,
    ClientId.kind_eq_ok_iff, pure_eq_ok, Prod.mk.injEq]
  constructor
  · rintro ⟨kind, hNames, found, hFind, s, hState, rfl, rfl⟩
    exact ⟨⟨kind, hNames, hFind⟩, hState⟩
  · rintro ⟨⟨kind, hNames, hFind⟩, hState⟩
    exact ⟨kind, hNames, client, hFind, state, hState, rfl, rfl⟩

namespace ClientId

/-
  An identifier is made for every kind and number, and no two
  of them alike.  It names the kind that it was made for.  Of
  all identifiers, those name a kind that consist of its name,
  a hyphen and a rest without a hyphen, and no other does; and
  proofs are checked by the client of that kind.
-/
theorem selects_kind_exactly :
    (∀ kind n,
      make kind n = .ok (numbered kind n) ∧
        (numbered kind n).kind = .ok kind) ∧
    (∀ kind kind' n n',
      make kind n = make kind' n' ↔ kind = kind' ∧ n = n') ∧
    (∀ (id : ClientId) kind,
      id.kind = .ok kind ↔ id.Names kind) ∧
    (∀ (id : ClientId) e,
      id.kind = .error e ↔
        e = .unknownClient id.text ∧
          ∀ kind, ¬ id.Names kind) ∧
    (∀ (h : Host) (connection : ConnectionEnd) height client
        state,
      h.counterpartyClient connection height =
          .ok (client, state) ↔
        (∃ kind, connection.client.Names kind ∧
          h.clients.find kind = .ok client) ∧
        h.consensusState connection.client height =
          .ok state) := by
  refine ⟨?_, ?_, fun _ _ => kind_eq_ok_iff,
    fun _ _ => kind_eq_error_iff,
    fun _ _ _ _ _ => Host.counterpartyClient_eq_ok_iff⟩
  · intro kind n
    exact ⟨make_eq_ok kind n, kind_numbered kind n⟩
  · intro kind kind' n n'
    rw [make_eq_ok, make_eq_ok, Except.ok.injEq, numbered_inj]

end ClientId

end Interchain
