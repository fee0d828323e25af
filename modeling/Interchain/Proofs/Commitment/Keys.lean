import Interchain.Fixture
import Interchain.Proofs.Commitment.Location
import Interchain.Proofs.Decoding.Checked
import Interchain.Proofs.Identifier.Acceptance
import Interchain.Proofs.Text.Decimal
import Interchain.Proofs.Text.Utf8
import Mathlib.Data.List.Induction

/-
  Which keys of a store are alike.

  A path is a list of names that hold no slash, and no path
  ends like another.  So a key tells its path apart, and what
  the prefix was read as; but bytes that encode no text are
  read as replacements, and a prefix whose reading holds one
  shares its keys with another prefix.

  Main declarations:
    * `Path.names`
    * `ChannelKey.IsChecked`
    * `CommitmentPrefix.HasOwnKey`

  Main statements:
    * `Path.eq_of_names_suffix`
    * `CommitmentPrefix.apply_eq_apply_iff`
    * `CommitmentPrefix.hasOwnKey_iff`
    * `CommitmentPrefix.keys_clash_exactly`
-/

------------------------------------------------------------
-- Names
------------------------------------------------------------

namespace Interchain

/- Both identifiers of the key were made from texts. -/
def ChannelKey.IsChecked (key : ChannelKey) : Prop :=
  key.port.IsChecked ∧ key.channel.IsChecked

/- Names that were checked hold no slash. -/
theorem ChannelKey.IsChecked.isSlashFree
    {key : ChannelKey}
    (hChecked : key.IsChecked) :
    key.isSlashFree := by
  rcases hChecked with ⟨⟨port, hPort⟩, channel, hChannel⟩
  exact isSlashFree_of_ofText hPort hChannel

namespace Path

/- The channel whose record lies at a path. -/
def key : Path → ChannelKey
  | .channel key => key
  | .upgrade key => key
  | .errorReceipt key => key
  | .packet key _ => key

/- The names that name a channel. -/
def channelNames (key : ChannelKey) : List String :=
  ["ports", key.port.text, "channels", key.channel.text]

/- The names that the paths of one kind of record start
   with. -/
def startNames : Path → List String
  | .channel _ => ["channelEnds"]
  | .upgrade _ => ["channelUpgrades", "upgrades"]
  | .errorReceipt _ => ["channelUpgrades", "upgradeError"]
  | .packet _ _ => ["commitments"]

/- The names that a path holds after its start. -/
def restNames : Path → List String
  | .packet key sequence =>
      channelNames key ++ ["sequences", sequence.display]
  | path => channelNames path.key

/- The names between the slashes of a path. -/
def names (path : Path) : List String :=
  path.startNames ++ path.restNames

/- The names of a path, a slash in front of each. -/
def written (names : List String) : List Char :=
  names.flatMap fun name => '/' :: name.toList

/- The start of a path, spelled name by name. -/
theorem slash_toList_start (path : Path) :
    '/' :: path.start.toList =
      written path.startNames ++ ['/'] := by
  cases path <;> simp only [start, startNames] <;>
    decide +kernel

theorem slash_toList_rest (path : Path) :
    '/' :: path.rest.toList = written path.restNames := by
  cases path <;>
    simp [rest, toList_location, restNames, channelNames, key,
      written]

/- A whole path, spelled name by name. -/
theorem slash_toList_display (path : Path) :
    '/' :: path.display.toList = written path.names := by
  rw [display_eq_append, String.toList_append,
    ← List.cons_append, slash_toList_start, List.append_assoc,
    List.singleton_append, slash_toList_rest, names]
  exact List.flatMap_append.symm

/- The names that a path starts with hold no slash. -/
theorem notMem_startNames (path : Path) :
    ∀ name ∈ path.startNames, '/' ∉ name.toList := by
  cases path <;> simp only [startNames] <;> decide +kernel

theorem notMem_restNames
    {path : Path}
    (hKey : path.key.isSlashFree) :
    ∀ name ∈ path.restNames, '/' ∉ name.toList := by
  have hDecimal (n : Nat) : '/' ∉ (Text.decimal n).toList := by
    intro hSlash
    have hDigit := Text.isDigit_of_mem_decimal hSlash
    simp [Char.isDigit] at hDigit
  have hNames :
      '/' ∉ path.key.port.text.toList ∧
        '/' ∉ path.key.channel.text.toList := hKey
  cases path <;>
    simpa [restNames, channelNames, key, Sequence.display,
      hDecimal] using hNames

/- No name of a path holds a slash if those of its channel hold
   none. -/
theorem notMem_names
    {path : Path}
    (hKey : path.key.isSlashFree) :
    ∀ name ∈ path.names, '/' ∉ name.toList := by
  intro name hName
  rcases List.mem_append.mp hName with hStart | hRest
  · exact notMem_startNames path name hStart
  · exact notMem_restNames hKey name hRest

/- Two texts that are cut at their last slash. -/
theorem append_slash_inj_right
    {a b c d : List Char}
    (hb : '/' ∉ b)
    (hd : '/' ∉ d)
    (h : a ++ '/' :: b = c ++ '/' :: d) :
    a = c ∧ b = d := by
  have hReverse := congrArg List.reverse h
  simp only [List.reverse_append, List.reverse_cons,
    List.append_assoc, List.singleton_append] at hReverse
  rcases append_slash_inj (by simpa using hb)
      (by simpa using hd) hReverse with ⟨hEnd, hFront⟩
  exact ⟨List.reverse_injective hFront,
    List.reverse_injective hEnd⟩

theorem written_concat (names : List String) (name : String) :
    written (names ++ [name]) =
      written names ++ '/' :: name.toList := by
  simp only [written, List.flatMap_append,
    List.flatMap_singleton]

/- Of the names that like texts end with, those on one side end
   with those on the other.  Induction from the last name. -/
theorem suffix_of_written_eq
    {front front' : List Char}
    {names names' : List String}
    (hNames : ∀ name ∈ names, '/' ∉ name.toList)
    (hNames' : ∀ name ∈ names', '/' ∉ name.toList)
    (hSame : front ++ written names = front' ++ written names') :
    names <:+ names' ∨ names' <:+ names := by
  induction names using List.reverseRecOn
    generalizing names' with
  | nil => exact .inl List.nil_suffix
  | append_singleton names name ih =>
      induction names' using List.reverseRecOn with
      | nil => exact .inr List.nil_suffix
      | append_singleton names' name' _ =>
          rw [List.forall_mem_append,
            List.forall_mem_singleton] at hNames hNames'
          rw [written_concat, written_concat,
            ← List.append_assoc, ← List.append_assoc] at hSame
          rcases append_slash_inj_right hNames.2 hNames'.2
              hSame with ⟨hFront, hName⟩
          rw [String.toList_inj.mp hName,
            List.suffix_append_inj_of_length_eq rfl,
            List.suffix_append_inj_of_length_eq rfl]
          simpa using ih hNames.1 hNames'.1 hFront

/- A key is told by its two texts. -/
theorem key_eq_of_text_eq
    {key other : ChannelKey}
    (hPort : key.port.text = other.port.text)
    (hChannel : key.channel.text = other.channel.text) :
    key = other := by
  rcases key with ⟨⟨port⟩, ⟨channel⟩⟩
  rcases other with ⟨⟨port'⟩, ⟨channel'⟩⟩
  exact congrArg₂ ChannelKey.mk (congrArg PortId.mk hPort)
    (congrArg ChannelId.mk hChannel)

/- No path ends with all the names of another: from the last
   name backwards, two paths of different kinds differ before
   the shorter one is over. -/
theorem eq_of_names_suffix
    {path other : Path}
    (hSuffix : path.names <:+ other.names) :
    path = other := by
  rcases List.reverse_prefix.mpr hSuffix with ⟨extra, hNames⟩
  cases path <;> cases other <;>
    simp [names, startNames, restNames, channelNames, key]
      at hNames
  case channel.channel key other =>
    rw [key_eq_of_text_eq hNames.2.1 hNames.1]
  case upgrade.upgrade key other =>
    rw [key_eq_of_text_eq hNames.2.1 hNames.1]
  case errorReceipt.errorReceipt key other =>
    rw [key_eq_of_text_eq hNames.2.1 hNames.1]
  case packet.packet key sequence other sequence' =>
    have hNumber : sequence.number = sequence'.number :=
      UInt64.toNat_inj.mp (Text.decimal_injective hNames.1)
    have hSequence : sequence = sequence' :=
      congrArg Sequence.mk hNumber
    rw [key_eq_of_text_eq hNames.2.2.1 hNames.2.1, hSequence]

end Path

end Interchain

------------------------------------------------------------
-- Prefixes
------------------------------------------------------------

namespace Interchain

namespace CommitmentPrefix

/- The key of a value: the prefix as it reads, then the names
   of the path. -/
theorem toList_apply (start : CommitmentPrefix) (path : Path) :
    (start.apply path.display).toList =
      start.bytes.lossyText.toList ++
        Path.written path.names := by
  rw [← Path.slash_toList_display, apply, String.toList_append,
    String.toList_append, List.append_assoc]
  rfl

/- A key tells its path, and what its prefix was read as. -/
theorem apply_eq_apply_iff
    {start other : CommitmentPrefix}
    {path path' : Path}
    (hKey : path.key.isSlashFree)
    (hKey' : path'.key.isSlashFree) :
    start.apply path.display = other.apply path'.display ↔
      start.bytes.lossyText = other.bytes.lossyText ∧
        path = path' := by
  constructor
  · intro hSame
    rw [← String.toList_inj, toList_apply, toList_apply] at hSame
    have hPath : path = path' := by
      rcases Path.suffix_of_written_eq
          (Path.notMem_names hKey) (Path.notMem_names hKey')
          hSame with hEnds | hEnds
      · exact Path.eq_of_names_suffix hEnds
      · exact (Path.eq_of_names_suffix hEnds).symm
    rw [hPath] at hSame
    exact ⟨String.toList_inj.mp
      (List.append_cancel_right hSame), hPath⟩
  · rintro ⟨hRead, rfl⟩
    rw [apply, apply, hRead]

/- No other pair of a prefix and a path, both checked, has the
   same key. -/
def HasOwnKey (start : CommitmentPrefix) (path : Path) : Prop :=
  ∀ other path', other.IsChecked → path'.key.IsChecked →
    other.apply path'.display = start.apply path.display →
      other = start ∧ path' = path

/- A value has its own key exactly if its prefix is read
   without replacing anything. -/
theorem hasOwnKey_iff
    {start : CommitmentPrefix}
    {path : Path}
    (hKey : path.key.IsChecked) :
    start.HasOwnKey path ↔
      Bytes.replacement ∉ start.bytes.lossyText.toList := by
  constructor
  · intro hOwn
    rw [← Bytes.lossyText_determines_iff]
    intro bytes hRead
    by_cases hEmpty : bytes = []
    · have hClean :
          Bytes.replacement ∉ start.bytes.lossyText.toList := by
        rw [← hRead, hEmpty]
        decide
      rw [Bytes.eq_utf8_lossyText hClean, ← hRead, hEmpty]
      rfl
    · have hSame := (apply_eq_apply_iff hKey.isSlashFree
        hKey.isSlashFree).mpr ⟨hRead, rfl⟩
      have hOther := hOwn ⟨bytes⟩ path
        (isChecked_iff.mpr hEmpty) hKey hSame
      exact congrArg CommitmentPrefix.bytes hOther.1
  · intro hClean other path' _ hKey' hSame
    rcases (apply_eq_apply_iff hKey'.isSlashFree
      hKey.isSlashFree).mp hSame with ⟨hRead, hPath⟩
    have hBytes :=
      Bytes.lossyText_determines_iff.mpr hClean _ hRead
    exact ⟨congrArg CommitmentPrefix.mk hBytes, hPath⟩

/-
  Two pairs of a prefix and a path have the same key exactly if
  the paths are the same and the prefixes read alike.  So a
  pair shares its key with no other exactly if its prefix is
  read without a replacement.
-/
theorem keys_clash_exactly
    {start other : CommitmentPrefix}
    {path path' : Path}
    (hKey : path.key.IsChecked)
    (hKey' : path'.key.IsChecked) :
    (start.apply path.display = other.apply path'.display ↔
      start.bytes.lossyText = other.bytes.lossyText ∧
        path = path') ∧
    (start.HasOwnKey path ↔
      Bytes.replacement ∉ start.bytes.lossyText.toList) :=
  ⟨apply_eq_apply_iff hKey.isSlashFree hKey'.isSlashFree,
    hasOwnKey_iff hKey⟩

end CommitmentPrefix

namespace Fixture

/- The path of the end of a transfer channel. -/
def transferPath : Path :=
  .channel ⟨.transfer, channelA⟩

/- The path of a packet that was sent on it. -/
def firstPacketPath : Path :=
  .packet ⟨.transfer, channelA⟩ ⟨1⟩

theorem isChecked_transferPath : transferPath.key.IsChecked := by
  rw [ChannelKey.IsChecked, PortId.isChecked_iff,
    ChannelId.isChecked_iff]
  decide +kernel

/- A prefix in text, which holds a slash, has keys of its own;
   they are not those of a prefix that ends in a stray byte. -/
theorem sample_keys_clash_exactly :
    transferPath.key.IsChecked ∧
      firstPacketPath.key.IsChecked ∧
      CommitmentPrefix.HasOwnKey ⟨utf8 "ibc/chain"⟩
        transferPath ∧
      CommitmentPrefix.apply ⟨utf8 "ibc/chain"⟩
          transferPath.display ≠
        CommitmentPrefix.apply ⟨[0x69, 0x62, 0x63, 0xFF]⟩
          firstPacketPath.display := by
  have hExact := @CommitmentPrefix.keys_clash_exactly
    ⟨utf8 "ibc/chain"⟩ ⟨[0x69, 0x62, 0x63, 0xFF]⟩
    transferPath firstPacketPath isChecked_transferPath
    isChecked_transferPath
  refine ⟨isChecked_transferPath, isChecked_transferPath,
    hExact.2.mpr ?_, ?_⟩
  · rw [Bytes.lossyText_utf8]
    decide
  · rw [ne_eq, hExact.1]
    rintro ⟨-, hPath⟩
    cases hPath

/- Two checked prefixes that both read as a replacement. -/
theorem sample_shared_key :
    CommitmentPrefix.ofBytes [0xFF] = .ok ⟨[0xFF]⟩ ∧
      CommitmentPrefix.ofBytes [0xEF, 0xBF, 0xBD] =
        .ok ⟨[0xEF, 0xBF, 0xBD]⟩ ∧
      transferPath.key.IsChecked ∧
      CommitmentPrefix.apply ⟨[0xFF]⟩ transferPath.display =
        CommitmentPrefix.apply ⟨[0xEF, 0xBF, 0xBD]⟩
          transferPath.display ∧
      ([0xFF] : Bytes) ≠ [0xEF, 0xBF, 0xBD] := by
  refine ⟨rfl, rfl, isChecked_transferPath, ?_, by decide⟩
  decide +kernel

end Fixture

end Interchain
