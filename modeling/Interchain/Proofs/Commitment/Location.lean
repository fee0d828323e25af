import Interchain.Commitment.Path
import Interchain.Commitment.Material
import Interchain.Proofs.Identifier.Acceptance
import Mathlib.Data.List.Basic

/-
  The paths of a channel's records name that channel only.

  An identifier holds no slash.  A path of a channel whose
  identifiers hold none has a fixed number of slashes, so no
  other path is written like it, whatever the identifiers of
  the other path hold.

  Main declarations:
    * `ChannelKey.isSlashFree`

  Main statements:
    * `Path.eq_channel_of_display_eq`
    * `Path.eq_upgrade_of_display_eq`
    * `Path.eq_errorReceipt_of_display_eq`
-/

------------------------------------------------------------
-- Slashes
------------------------------------------------------------

namespace Interchain

/- Neither identifier of the key holds a slash. -/
def ChannelKey.isSlashFree (key : ChannelKey) : Prop :=
  '/' ∉ key.port.text.toList ∧ '/' ∉ key.channel.text.toList

instance (key : ChannelKey) : Decidable key.isSlashFree :=
  inferInstanceAs (Decidable (_ ∧ _))

/- Identifiers that are checked hold no slash. -/
theorem ChannelKey.isSlashFree_of_ofText
    {key : ChannelKey}
    {port channel : String}
    (hPort : PortId.ofText port = .ok key.port)
    (hChannel : ChannelId.ofText channel = .ok key.channel) :
    key.isSlashFree := by
  rcases PortId.ofText_eq_ok_iff.mp hPort with
    ⟨rfl, hPortText⟩
  rcases ChannelId.ofText_eq_ok_iff.mp hChannel with
    ⟨rfl, hChannelText⟩
  exact ⟨hPortText.slash_notMem, hChannelText.slash_notMem⟩

/- Two texts that are cut at their first slash. -/
theorem append_slash_inj
    {a b c d : List Char}
    (ha : '/' ∉ a)
    (hb : '/' ∉ b)
    (h : a ++ '/' :: c = b ++ '/' :: d) :
    a = b ∧ c = d := by
  induction a generalizing b with
  | nil =>
      cases b with
      | nil => simpa using h
      | cons x b =>
          rw [List.nil_append, List.cons_append,
            List.cons.injEq] at h
          exact (hb (h.1 ▸ List.mem_cons_self)).elim
  | cons x a ih =>
      cases b with
      | nil =>
          rw [List.nil_append, List.cons_append,
            List.cons.injEq] at h
          exact (ha (h.1 ▸ List.mem_cons_self)).elim
      | cons y b =>
          simp only [List.cons_append, List.cons.injEq] at h
          simp only [List.mem_cons, not_or] at ha hb
          rcases ih ha.2 hb.2 h.2 with ⟨hTail, hRest⟩
          exact ⟨by rw [h.1, hTail], hRest⟩

end Interchain

------------------------------------------------------------
-- Locations
------------------------------------------------------------

namespace Interchain

namespace Path

/- The location of a key, spelled in full. -/
theorem toList_location (key : ChannelKey) :
    (location key).toList =
      "ports".toList ++ '/' :: (key.port.text.toList ++
        '/' :: ("channels".toList ++
          '/' :: key.channel.text.toList)) := by
  simp [location]

/- A location tells the channel that it is of. -/
theorem location_inj
    {key other : ChannelKey}
    (hKey : key.isSlashFree)
    (h : location other = location key) :
    other = key := by
  have hChars := congrArg String.toList h
  rw [toList_location, toList_location] at hChars
  have hParts := List.append_cancel_left hChars
  rw [List.cons.injEq] at hParts
  have hCount := congrArg (List.count '/') hParts.2
  simp only [List.count_append, List.count_cons_self,
    List.count_eq_zero.mpr hKey.1,
    List.count_eq_zero.mpr hKey.2] at hCount
  have hPort : '/' ∉ other.port.text.toList := by
    apply List.count_eq_zero.mp
    omega
  rcases append_slash_inj hPort hKey.1 hParts.2 with
    ⟨hPortEq, hRest⟩
  have hChannelEq := List.append_cancel_left hRest
  rw [List.cons.injEq] at hChannelEq
  rcases other with ⟨⟨p⟩, ⟨c⟩⟩
  rcases key with ⟨⟨p'⟩, ⟨c'⟩⟩
  simp only [String.toList_inj] at hPortEq hChannelEq
  rw [hPortEq, hChannelEq.2]

end Path

end Interchain

------------------------------------------------------------
-- Paths
------------------------------------------------------------

namespace Interchain

namespace Path

/- How the paths of one kind of record start. -/
def start : Path → String
  | .channel _ => "channelEnds/"
  | .upgrade _ => "channelUpgrades/upgrades/"
  | .errorReceipt _ => "channelUpgrades/upgradeError/"
  | .packet _ _ => "commitments/"

/- What a path holds after its start. -/
def rest : Path → String
  | .channel key => location key
  | .upgrade key => location key
  | .errorReceipt key => location key
  | .packet key sequence =>
      location key ++ "/sequences/" ++ sequence.display

/- A path is what it starts with, and the rest. -/
theorem display_eq_append (path : Path) :
    path.display = path.start ++ path.rest := by
  cases path with
  | packet key sequence =>
      change
        "commitments/" ++ location key ++ "/sequences/" ++
            sequence.display =
          "commitments/" ++ (location key ++ "/sequences/" ++
            sequence.display)
      rw [String.append_assoc, String.append_assoc,
        String.append_assoc]
  | _ => rfl

/- No kind of path starts like another. -/
theorem start_eq_of_begins
    {path other : Path}
    (h :
      path.start.toList <+: other.start.toList) :
    path.start = other.start := by
  revert h
  cases path <;> cases other <;> simp only [start] <;> decide

/- Paths that read the same start with the same. -/
theorem start_eq_of_display_eq
    {path other : Path}
    (h : path.display = other.display) :
    path.start = other.start := by
  rw [display_eq_append, display_eq_append] at h
  have hChars := congrArg String.toList h
  rw [String.toList_append, String.toList_append] at hChars
  have hPath := List.prefix_append path.start.toList
    path.rest.toList
  rw [hChars] at hPath
  have hOther := List.prefix_append other.start.toList
    other.rest.toList
  rcases List.prefix_or_prefix_of_prefix hPath hOther with
    hPrefix | hPrefix
  · exact start_eq_of_begins hPrefix
  · exact (start_eq_of_begins hPrefix).symm

theorem rest_eq_of_display_eq
    {path other : Path}
    (h : path.display = other.display) :
    path.rest = other.rest := by
  have hStart := start_eq_of_display_eq h
  rw [display_eq_append, display_eq_append, hStart] at h
  have hChars := congrArg String.toList h
  rw [String.toList_append, String.toList_append] at hChars
  exact String.toList_inj.mp (List.append_cancel_left hChars)

/- Only the path of an end reads like one. -/
theorem eq_channel_of_display_eq
    {path : Path}
    {key : ChannelKey}
    (hKey : key.isSlashFree)
    (h : path.display = (channel key).display) :
    path = channel key := by
  have hStart := start_eq_of_display_eq h
  have hRest := rest_eq_of_display_eq h
  cases path with
  | channel other => rw [location_inj hKey hRest]
  | _ => simp [start] at hStart

/- Only the path of an upgrade reads like one. -/
theorem eq_upgrade_of_display_eq
    {path : Path}
    {key : ChannelKey}
    (hKey : key.isSlashFree)
    (h : path.display = (upgrade key).display) :
    path = upgrade key := by
  have hStart := start_eq_of_display_eq h
  have hRest := rest_eq_of_display_eq h
  cases path with
  | upgrade other => rw [location_inj hKey hRest]
  | _ => simp [start] at hStart

/- A path that is written like that of a receipt is that of a
   receipt. -/
theorem exists_errorReceipt_of_display_eq
    {path : Path}
    {key : ChannelKey}
    (h : path.display = (errorReceipt key).display) :
    ∃ other, path = errorReceipt other := by
  have hStart := start_eq_of_display_eq h
  cases path with
  | errorReceipt other => exact ⟨other, rfl⟩
  | _ => simp [start] at hStart

/- Only the path of a receipt reads like one. -/
theorem eq_errorReceipt_of_display_eq
    {path : Path}
    {key : ChannelKey}
    (hKey : key.isSlashFree)
    (h : path.display = (errorReceipt key).display) :
    path = errorReceipt key := by
  have hStart := start_eq_of_display_eq h
  have hRest := rest_eq_of_display_eq h
  cases path with
  | errorReceipt other => rw [location_inj hKey hRest]
  | _ => simp [start] at hStart

end Path

end Interchain

------------------------------------------------------------
-- Prefixes
------------------------------------------------------------

namespace Interchain

/- A prefix keeps paths apart. -/
theorem CommitmentPrefix.apply_injective
    (start : CommitmentPrefix) :
    Function.Injective start.apply := by
  intro a b h
  have hChars := congrArg String.toList h
  simp only [apply, String.toList_append] at hChars
  exact String.toList_inj.mp (List.append_cancel_left hChars)

end Interchain
