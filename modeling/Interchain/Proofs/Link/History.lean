import Interchain.Proofs.Handshake.Completion
import Interchain.Proofs.Link.Run

/-
  What the chains of a run have held, and how each sees the
  other.

  A chain accepts of the other what that one has held in the
  course of the run, as long as no digest of the run collides:
  the digests are those of the chains' stores and records, and
  of what is weighed for the messages.  So each step of a run
  is a move of the records of the channel, on either chain.

  Main declarations:
    * `Link.history`
    * `Link.outlook`
    * `Link.Turned`
    * `Link.CollisionFree`

  Main statements:
    * `Host.Follows.trusts`
    * `Link.Run.moves`
-/

------------------------------------------------------------
-- Histories
------------------------------------------------------------

namespace Interchain

namespace Link

variable {hash : Hash} (link : Link hash)

/- The records of the channel on one chain in the course of a
   run, the latest first. -/
def history (trace : List Chains) (side : Side) :
    List Records :=
  trace.map (link.records side)

/- How an end sees its counterparty, given what the other chain
   has held. -/
def outlook (trace : List Chains) (side : Side) : Outlook :=
  (link.start.host side).outlook (link.key side)
    fun seen => seen ∈ link.history trace side.other

/- One chain took a step from records to records. -/
def Stepped
    (trace : List Chains)
    (side : Side)
    (before after : Records) : Prop :=
  ∃ newer q p older,
    trace = newer ++ q :: p :: older ∧
      link.records side p = before ∧
      link.records side q = after

/- One chain completed an attempt. -/
def Turned
    (trace : List Chains)
    (side : Side)
    (n : Sequence) : Prop :=
  ∃ before after,
    link.Stepped trace side before after ∧
      Records.Completes n before after

/- Below the greatest word, sequences of attempts never stop
   counting. -/
def BelowLimit (trace : List Chains) : Prop :=
  ∀ c ∈ trace, ∀ side,
    (link.records side c).attempt.number ≠ Word.greatest

variable {link} {trace : List Chains} {side : Side}

/- Attempts below the limit were below it before. -/
theorem BelowLimit.of_append
    {newer : List Chains}
    (hLimit : link.BelowLimit (newer ++ trace)) :
    link.BelowLimit trace :=
  fun c hc => hLimit c (List.mem_append_right newer hc)

theorem BelowLimit.of_cons
    {now : Chains}
    (hLimit : link.BelowLimit (now :: trace)) :
    link.BelowLimit trace :=
  fun c hc => hLimit c (List.mem_cons_of_mem now hc)

/- A step of one chain leaves the other one where it is. -/
theorem BelowLimit.replace
    {now : Chains}
    {past : List Chains}
    {h : Host}
    (hLimit : link.BelowLimit (now :: past))
    (hNow :
      (link.records side
          (now.replace side h)).attempt.number ≠
        Word.greatest) :
    link.BelowLimit (now.replace side h :: now :: past) := by
  intro c hc other
  rcases List.mem_cons.mp hc with rfl | hPast
  · rcases Side.eq_or_eq_other other side with rfl | rfl
    · exact hNow
    · rw [records, Chains.host_replace_other]
      exact hLimit now List.mem_cons_self side.other
  · exact hLimit c hPast other

theorem mem_history
    (side : Side)
    {c : Chains}
    (hc : c ∈ trace) :
    link.records side c ∈ link.history trace side :=
  List.mem_map_of_mem hc

/- A step stays in the history. -/
theorem Stepped.cons
    {before after : Records}
    (hStepped : link.Stepped trace side before after)
    (now : Chains) :
    link.Stepped (now :: trace) side before after := by
  rcases hStepped with ⟨newer, q, p, older, rfl, hBefore, hAfter⟩
  exact ⟨now :: newer, q, p, older, rfl, hBefore, hAfter⟩

/- An attempt that was completed stays so. -/
theorem Turned.cons
    {n : Sequence}
    (hTurned : link.Turned trace side n)
    (now : Chains) :
    link.Turned (now :: trace) side n := by
  rcases hTurned with ⟨before, after, hStepped, hCompletes⟩
  exact ⟨before, after, hStepped.cons now, hCompletes⟩

end Link

end Interchain

------------------------------------------------------------
-- Trust
------------------------------------------------------------

namespace Interchain

namespace Host

variable {hash : Hash} {h : Host} {past : Host → Prop}

/- A chain that follows another one trusts in what that one
   has held, about byte strings that it tells apart from its
   own. -/
theorem Follows.trusts
    (hFollows : h.Follows hash past)
    {weighed : List Bytes}
    (hFree :
      ∀ bytes ∈ weighed, ∀ seen, past seen →
        seen.TellsApart hash bytes)
    {peerKey : ChannelKey}
    (hKey : peerKey.isSlashFree)
    (hPrefix :
      ∀ seen, past seen →
        ∀ (id : ConnectionId) (connection : ConnectionEnd),
          h.connections[id]? = some connection →
            connection.isOpen = true →
              connection.peer.storePrefix = seen.storePrefix)
    {proven : Records → Prop}
    (hProven :
      ∀ seen, past seen → proven (seen.records peerKey)) :
    h.Trusts weighed peerKey proven where
  both := by
    intro c id connection expected u channelProof upgradeProof
      height hChannelProof hExpected hUpgradeProof hShown hPeer
      hConnection hChannel hUpgrade
    rcases openConnection_eq_ok.mp hConnection with
      ⟨_, hFound, hOpen⟩
    rcases
        hFollows.exists_remembers_of_verifyChannel hChannel with
      ⟨seen, hPast, hRemembers⟩
    have hSame := hPrefix seen hPast id connection hFound hOpen
    have hFound :=
      hRemembers.channel_of_verifyChannel hSame hKey hPeer
        (hFree _ hChannelProof seen hPast)
        (hFree _ hExpected seen hPast) hChannel
    rcases
        hRemembers.upgrade_of_verifyUpgrade hSame hKey hPeer
          (hFree _ hUpgradeProof seen hPast)
          (hFree _ hShown seen hPast) hUpgrade with
      ⟨answer, hAnswer, hFields⟩
    exact ⟨seen.records peerKey, answer, hProven seen hPast,
      records_channel hFound, hAnswer, hFields⟩
  channel := by
    intro c id connection expected proof height hProof
      hExpected hPeer hConnection hOk
    rcases openConnection_eq_ok.mp hConnection with
      ⟨_, hFound, hOpen⟩
    rcases hFollows.exists_remembers_of_verifyChannel hOk with
      ⟨seen, hPast, hRemembers⟩
    have hSame := hPrefix seen hPast id connection hFound hOpen
    have hFound :=
      hRemembers.channel_of_verifyChannel hSame hKey hPeer
        (hFree _ hProof seen hPast)
        (hFree _ hExpected seen hPast) hOk
    exact ⟨seen.records peerKey, hProven seen hPast,
      records_channel hFound⟩
  receipt := by
    intro c id connection expected proof height hProof
      hExpected hPeer hConnection hOk
    rcases openConnection_eq_ok.mp hConnection with
      ⟨_, hFound, hOpen⟩
    rcases hFollows.exists_remembers_of_verifyReceipt hOk with
      ⟨seen, hPast, hRemembers⟩
    have hSame := hPrefix seen hPast id connection hFound hOpen
    have hFound :=
      hRemembers.receipt_of_verifyReceipt hSame hKey hPeer
        (hFree _ hProof seen hPast)
        (hFree _ hExpected seen hPast) hOk
    exact ⟨seen.records peerKey, hProven seen hPast, hFound⟩

end Host

end Interchain

------------------------------------------------------------
-- Runs without Collisions
------------------------------------------------------------

namespace Interchain

namespace Link

/- Of the byte strings that a chain takes digests of in the
   course of a run, none but the given one has its digest. -/
def TellsApart
    (hash : Hash)
    (trace : List Chains)
    (side : Side)
    (bytes : Bytes) : Prop :=
  ∀ c ∈ trace, (c.host side).TellsApart hash bytes

/- What either chain of a run weighs for an allowed message is
   told apart from what the other one takes digests of.  Where
   only the messages of the run are allowed, this is about
   finitely many byte strings. -/
def CollisionFree
    (hash : Hash)
    (allowed : Action → Prop)
    (trace : List Chains) : Prop :=
  ∀ m, allowed (.dispatch m) →
    ∀ c ∈ trace, ∀ side, ∀ bytes ∈ (c.host side).weighed m,
      TellsApart hash trace side.other bytes

variable {hash : Hash} {allowed : Action → Prop}
variable {trace : List Chains}

/- A digest without any collision tells everything apart. -/
theorem tellsApart_of_injective
    (hHash : Function.Injective hash)
    (side : Side)
    (bytes : Bytes) :
    TellsApart hash trace side bytes :=
  fun _ _ => Host.tellsApart_of_injective hHash

/- So there are no collisions in any run. -/
theorem collisionFree_of_injective
    (hHash : Function.Injective hash) :
    CollisionFree hash allowed trace :=
  fun _ _ _ _ side bytes _ =>
    tellsApart_of_injective hHash side.other bytes

/- Fewer byte strings collide no more. -/
theorem CollisionFree.of_append
    {newer : List Chains}
    (hFree : CollisionFree hash allowed (newer ++ trace)) :
    CollisionFree hash allowed trace :=
  fun m hAllowed c hc side bytes hBytes d hd =>
    hFree m hAllowed c (List.mem_append_right newer hc) side
      bytes hBytes d (List.mem_append_right newer hd)

theorem CollisionFree.of_cons
    {now : Chains}
    (hFree : CollisionFree hash allowed (now :: trace)) :
    CollisionFree hash allowed trace := by
  rw [← List.singleton_append] at hFree
  exact hFree.of_append

end Link

end Interchain

------------------------------------------------------------
-- Steps of a Run
------------------------------------------------------------

namespace Interchain

namespace Host

variable {h before : Host}

/- How a chain sees its counterparty depends on its links
   alone. -/
theorem HasSameLinks.outlook_eq
    (hSame : h.HasSameLinks before)
    (key : ChannelKey)
    (proven : Records → Prop) :
    h.outlook key proven = before.outlook key proven := by
  have hAcross : h.across = before.across := by
    funext id
    rw [across, across, hSame.connections]
  have hHears : h.HearsOver = before.HearsOver := by
    funext id
    unfold HearsOver Hears
    rw [hSame.connections, hSame.clients]
  rw [outlook, outlook, hAcross, hHears]

end Host

namespace Link

variable {hash : Hash} {link : Link hash}
variable {allowed : Action → Prop}
variable {now before : Chains} {past trace : List Chains}
variable {side : Side}

/- An open connection knows the prefix of the other chain's
   store at any time. -/
theorem Run.storePrefix_eq
    (hRun : link.Run allowed trace)
    {c d : Chains}
    (hc : c ∈ trace)
    (hd : d ∈ trace)
    {id : ConnectionId}
    {connection : ConnectionEnd}
    (hConnection :
      (c.host side).connections[id]? = some connection)
    (hOpen : connection.isOpen = true) :
    connection.peer.storePrefix =
      (d.host side.other).storePrefix := by
  rw [(hRun.hasSameLinks c hc side).connections] at hConnection
  rw [(hRun.hasSameLinks d hd side.other).storePrefix]
  exact link.storePrefix side id connection hConnection hOpen

/- Through its clients, each chain of a run trusts in what the
   other one has held so far, for any message that it takes. -/
theorem Run.trusts
    (hRun : link.Run allowed trace)
    (hFree : CollisionFree hash allowed trace)
    {c : Chains}
    (hc : c ∈ trace)
    (side : Side)
    {m : UpgradeMessage}
    (hAllowed : allowed (.dispatch m)) :
    (c.host side).Trusts ((c.host side).weighed m)
      (link.key side.other)
      fun seen => seen ∈ link.history trace side.other := by
  have hApart :
      ∀ bytes ∈ (c.host side).weighed m, ∀ seen,
        (∃ d ∈ trace, d.host side.other = seen) →
          seen.TellsApart hash bytes := by
    rintro bytes hBytes seen ⟨d, hd, rfl⟩
    exact hFree m hAllowed c hc side bytes hBytes d hd
  apply (hRun.follows c hc side).trusts hApart
    (link.isSlashFree side.other)
  · rintro seen ⟨d, hd, rfl⟩ id connection hConnection hOpen
    exact hRun.storePrefix_eq hc hd hConnection hOpen
  · rintro seen ⟨d, hd, rfl⟩
    exact mem_history side.other hd

/- Each step of a run moves the records of the channel, on
   either chain. -/
theorem Run.moves
    (hRun : link.Run allowed (now :: before :: past))
    (hOrdinary : ∀ a, allowed a → a.IsOrdinary)
    (hFree : CollisionFree hash allowed (before :: past))
    (hFaces :
      (before.host side).Faces (link.key side)
        (link.key side.other)) :
    (link.records side before).Moves
      (link.outlook (before :: past) side)
      (link.records side now) := by
  rcases hRun.cases_step with ⟨hBefore, moved, hOther, hStep⟩
  rcases Side.eq_or_eq_other side moved with rfl | rfl
  · rcases hStep with
      ⟨action, hAllowed, hNow⟩ | ⟨client, seen, _, hNow⟩
    · have hLinks :=
        hBefore.hasSameLinks before List.mem_cons_self side
      have hMoves :=
        Host.moves_perform
          (fun m hMessage =>
            hBefore.trusts hFree List.mem_cons_self side
              (hMessage ▸ hAllowed))
          hFaces hash (hOrdinary action hAllowed)
      rw [hLinks.outlook_eq] at hMoves
      rw [records, records, hNow]
      exact hMoves
    · rw [records, records, hNow]
      exact .rest
  · rw [records, records, hOther]
    exact .rest

end Link

end Interchain
