import Interchain.Proofs.Commitment.Digests

/-
  What a proof shows to a chain that follows another one.

  A chain whose clients take stores for proofs, and remember
  only states of the other chain, accepts a proof exactly when
  the other chain held the record in the state remembered.
  That what is accepted was held needs a digest that tells it
  apart from what was held; that what is held is accepted does
  not.

  Main declarations:
    * `Host.Follows`
    * `Host.Remembers`

  Main statements:
    * `Host.Follows.exists_remembers`
    * `Host.Remembers.channel_of_verifyChannel`
    * `Host.Remembers.verifyChannel_of_channel`
-/

------------------------------------------------------------
-- Following a Chain
------------------------------------------------------------

namespace Interchain

namespace Host

/-
  The clients of a chain take stores for proofs, and what they
  remember are snapshots of states that another chain was in.
-/
structure Follows
    (hash : Hash)
    (h : Host)
    (past : Host → Prop) : Prop where
  clients :
    h.clients =
      ClientRegistry.register ∅ (LightClient.ofStores hash)
  remembered :
    ∀ (key : ConsensusKey) (state : ConsensusState),
      h.consensusStates[key]? = some state →
        ∃ seen, past seen ∧ state = seen.snapshot hash

/- A chain that follows a past follows a longer one. -/
theorem Follows.mono
    {hash : Hash}
    {h : Host}
    {past later : Host → Prop}
    (hFollows : h.Follows hash past)
    (hLater : ∀ seen, past seen → later seen) :
    h.Follows hash later where
  clients := hFollows.clients
  remembered := by
    intro key state hState
    rcases hFollows.remembered key state hState with
      ⟨seen, hPast, hSnapshot⟩
    exact ⟨seen, hLater seen hPast, hSnapshot⟩

/- A chain still follows another one after it was told a state
   that the other one was in. -/
theorem Follows.updateClient
    {hash : Hash}
    {h seen : Host}
    {past : Host → Prop}
    (hFollows : h.Follows hash past)
    (hSeen : past seen)
    (client : ClientId) :
    (h.updateClient hash client seen).Follows hash past where
  clients := hFollows.clients
  remembered := by
    intro key state hState
    simp only [Host.updateClient, remember,
      Std.ExtTreeMap.getElem?_insert] at hState
    split at hState
    · exact ⟨seen, hSeen, (Option.some.inj hState).symm⟩
    · exact hFollows.remembered key state hState

/- The client of a connection can check proofs at all. -/
def Hears (h : Host) (connection : ConnectionEnd) : Prop :=
  ∃ kind client,
    connection.client.kind = .ok kind ∧
      h.clients.find kind = .ok client

/- The client of a connection remembers a state of the other
   chain at a height. -/
def Remembers
    (hash : Hash)
    (h : Host)
    (connection : ConnectionEnd)
    (height : Height)
    (seen : Host) : Prop :=
  h.counterpartyClient connection height =
    .ok (LightClient.ofStores hash, seen.snapshot hash)

variable {hash : Hash} {h : Host} {past : Host → Prop}

/- Every client of such a chain takes stores for proofs. -/
theorem Follows.find_eq_ok
    (hFollows : h.Follows hash past)
    {kind : ClientKind}
    {client : LightClient}
    (hFind : h.clients.find kind = .ok client) :
    client = LightClient.ofStores hash := by
  unfold ClientRegistry.find at hFind
  rw [hFollows.clients, ClientRegistry.register,
    Std.ExtTreeMap.getElem?_insert] at hFind
  split at hFind
  case h_1 found hFound =>
    split at hFound
    · rw [← Except.ok.inj hFind, ← Option.some.inj hFound]
    · simp at hFound
  case h_2 => simp at hFind

/- Whatever a connection's client answers from is a state that
   the other chain was in. -/
theorem Follows.exists_remembers
    (hFollows : h.Follows hash past)
    {connection : ConnectionEnd}
    {height : Height}
    {client : LightClient}
    {state : ConsensusState}
    (hClient :
      h.counterpartyClient connection height =
        .ok (client, state)) :
    ∃ seen, past seen ∧
      h.Remembers hash connection height seen := by
  have hParts := hClient
  simp only [counterpartyClient, bind_eq_ok, wrapError_eq_ok,
    consensusState_eq_ok, pure_eq_ok, Prod.mk.injEq] at hParts
  rcases hParts with
    ⟨kind, hKind, found, hFind, s, hState, rfl, rfl⟩
  rcases hFollows.remembered _ _ hState with ⟨seen, hPast, hSeen⟩
  refine ⟨seen, hPast, ?_⟩
  rw [hFollows.find_eq_ok hFind, hSeen] at hClient
  exact hClient

/- A chain that accepts a proof of an end remembers a state of
   the past for its height. -/
theorem Follows.exists_remembers_of_verifyChannel
    (hFollows : h.Follows hash past)
    {c expected : ChannelEnd}
    {connection : ConnectionEnd}
    {proof : CommitmentProof}
    {height : Height}
    (hOk :
      h.verifyChannel c connection expected proof height =
        .ok ()) :
    ∃ seen, past seen ∧
      h.Remembers hash connection height seen := by
  simp only [verifyChannel, bind_eq_ok] at hOk
  rcases hOk with ⟨⟨client, state⟩, hClient, _⟩
  exact hFollows.exists_remembers hClient

theorem Follows.exists_remembers_of_verifyReceipt
    (hFollows : h.Follows hash past)
    {c : ChannelEnd}
    {connection : ConnectionEnd}
    {expected : ErrorReceipt}
    {proof : CommitmentProof}
    {height : Height}
    (hOk :
      h.verifyReceipt c connection expected proof height =
        .ok ()) :
    ∃ seen, past seen ∧
      h.Remembers hash connection height seen := by
  simp only [verifyReceipt, bind_eq_ok] at hOk
  rcases hOk with ⟨⟨client, state⟩, hClient, _⟩
  exact hFollows.exists_remembers hClient

/- A snapshot that is stored can be asked about. -/
theorem Follows.remembers_of_stored
    (hFollows : h.Follows hash past)
    {connection : ConnectionEnd}
    {height : Height}
    {seen : Host}
    (hHears : h.Hears connection)
    (hStored :
      h.consensusStates[
        ConsensusKey.mk connection.client height]? =
          some (seen.snapshot hash)) :
    h.Remembers hash connection height seen := by
  rcases hHears with ⟨kind, client, hKind, hFind⟩
  have hClient := hFollows.find_eq_ok hFind
  subst hClient
  simp only [Remembers, counterpartyClient, bind_eq_ok,
    wrapError_eq_ok, consensusState_eq_ok, pure_eq_ok]
  exact ⟨kind, hKind, _, hFind, _, hStored, rfl⟩

end Host

end Interchain

------------------------------------------------------------
-- Accepted Proofs
------------------------------------------------------------

namespace Interchain

namespace Host

namespace Remembers

variable {hash : Hash} {h seen : Host}
variable {connection : ConnectionEnd} {height : Height}
variable {c : ChannelEnd} {key : ChannelKey}
variable {proof : CommitmentProof}

/- A channel end that is accepted was there. -/
theorem channel_of_verifyChannel
    (hRemembers : h.Remembers hash connection height seen)
    (hPrefix :
      connection.peer.storePrefix = seen.storePrefix)
    (hKey : key.isSlashFree)
    (hPeer : c.peer = key.peer)
    {expected : ChannelEnd}
    (hProof : seen.TellsApart hash proof.bytes)
    (hExpected : seen.TellsApart hash (utf8 expected.committed))
    (hOk :
      h.verifyChannel c connection expected proof height =
        .ok ()) :
    seen.channels[key]? = some expected := by
  rw [verifyChannel, hRemembers,
    ChannelEnd.peerKey_eq_ok.mpr hPeer, hPrefix] at hOk
  have hBytes :=
    eq_some_of_verifyMember
      (fun _ => Path.eq_channel_of_display_eq hKey)
      (seen.mem_committedRecords_channel key) hProof hExpected
      (wrapError_eq_ok.mp hOk)
  exact
    (Option.mem_map_of_injective
      ChannelEnd.utf8_committed_injective).mp hBytes

/- An upgrade that is accepted was there, up to its timeout
   and the last sequence sent. -/
theorem upgrade_of_verifyUpgrade
    (hRemembers : h.Remembers hash connection height seen)
    (hPrefix :
      connection.peer.storePrefix = seen.storePrefix)
    (hKey : key.isSlashFree)
    (hPeer : c.peer = key.peer)
    {expected : Upgrade}
    (hProof : seen.TellsApart hash proof.bytes)
    (hExpected : seen.TellsApart hash (utf8 expected.committed))
    (hOk :
      h.verifyUpgrade c connection expected proof height =
        .ok ()) :
    ∃ u, seen.upgrades[key]? = some u ∧
      u.fields = expected.fields := by
  rw [verifyUpgrade, hRemembers,
    ChannelEnd.peerKey_eq_ok.mpr hPeer, hPrefix] at hOk
  have hBytes :=
    eq_some_of_verifyMember
      (fun _ => Path.eq_upgrade_of_display_eq hKey)
      (seen.mem_committedRecords_upgrade key) hProof hExpected
      (wrapError_eq_ok.mp hOk)
  rcases Option.map_eq_some_iff.mp hBytes with
    ⟨found, hFound, hEq⟩
  exact ⟨found, hFound,
    Upgrade.fields_eq_of_committed_eq (utf8_injective hEq)⟩

/- An error receipt that is accepted was there. -/
theorem receipt_of_verifyReceipt
    (hRemembers : h.Remembers hash connection height seen)
    (hPrefix :
      connection.peer.storePrefix = seen.storePrefix)
    (hKey : key.isSlashFree)
    (hPeer : c.peer = key.peer)
    {expected : ErrorReceipt}
    (hProof : seen.TellsApart hash proof.bytes)
    (hExpected : seen.TellsApart hash (utf8 expected.committed))
    (hOk :
      h.verifyReceipt c connection expected proof height =
        .ok ()) :
    seen.receipts[key]? = some expected := by
  rw [verifyReceipt, hRemembers,
    ChannelEnd.peerKey_eq_ok.mpr hPeer, hPrefix] at hOk
  have hBytes :=
    eq_some_of_verifyMember
      (fun _ => Path.eq_errorReceipt_of_display_eq hKey)
      (seen.mem_committedRecords_receipt key) hProof hExpected
      (wrapError_eq_ok.mp hOk)
  exact
    (Option.mem_map_of_injective
      ErrorReceipt.utf8_committed_injective).mp hBytes

/- Whatever the channel is called, an error receipt that is
   accepted was there for some channel. -/
theorem exists_receipt_of_verifyReceipt
    (hRemembers : h.Remembers hash connection height seen)
    (hPrefix :
      connection.peer.storePrefix = seen.storePrefix)
    {expected : ErrorReceipt}
    (hProof : seen.TellsApart hash proof.bytes)
    (hExpected : seen.TellsApart hash (utf8 expected.committed))
    (hOk :
      h.verifyReceipt c connection expected proof height =
        .ok ()) :
    ∃ source : ChannelKey,
      seen.receipts[source]? = some expected := by
  rw [verifyReceipt, hRemembers, hPrefix] at hOk
  rcases bind_eq_ok.mp hOk with ⟨_, hClient, hLocated⟩
  cases hClient
  rcases bind_eq_ok.mp hLocated with ⟨peerKey, _, hChecked⟩
  have hVerified := wrapError_eq_ok.mp hChecked
  have hOwn :=
    eq_commitmentProof_of_verifyMember hProof hVerified
  rw [hOwn] at hVerified
  have hMember :=
    LightClient.verifyMember_proof_iff.mp hVerified
  rcases seen.exists_of_committedStore hash hMember with
    ⟨other, bytes, hRecord, hDisplay, hValue⟩
  rcases Path.exists_errorReceipt_of_display_eq hDisplay with
    ⟨source, rfl⟩
  rw [hExpected.eq_of_record hRecord hValue,
    mem_committedRecords_receipt] at hRecord
  have hReceipt :=
    (Option.mem_map_of_injective
      ErrorReceipt.utf8_committed_injective).mp hRecord
  exact ⟨source, hReceipt⟩

end Remembers

end Host

end Interchain

------------------------------------------------------------
-- Proofs of What Is There
------------------------------------------------------------

namespace Interchain

namespace Host

namespace Remembers

variable {hash : Hash} {h seen : Host}
variable {connection : ConnectionEnd} {height : Height}
variable {c : ChannelEnd} {key : ChannelKey}

/- A channel end that is there is accepted with the proof of
   the whole store. -/
theorem verifyChannel_of_channel
    (hRemembers : h.Remembers hash connection height seen)
    (hPrefix :
      connection.peer.storePrefix = seen.storePrefix)
    (hKey : key.isSlashFree)
    (hPeer : c.peer = key.peer)
    {expected : ChannelEnd}
    (hChannel : seen.channels[key]? = some expected) :
    h.verifyChannel c connection expected
      (seen.commitmentProof hash) height = .ok () := by
  rw [verifyChannel, hRemembers,
    ChannelEnd.peerKey_eq_ok.mpr hPeer, hPrefix]
  apply wrapError_eq_ok.mpr
  apply LightClient.verifyMember_proof_iff.mpr
  rw [seen.committedStore_channel hash hKey, hChannel]
  rfl

/- An upgrade that a remembered store holds can be proven. -/
theorem verifyUpgrade_of_upgrade
    (hRemembers : h.Remembers hash connection height seen)
    (hPrefix :
      connection.peer.storePrefix = seen.storePrefix)
    (hKey : key.isSlashFree)
    (hPeer : c.peer = key.peer)
    {expected : Upgrade}
    (hUpgrade : seen.upgrades[key]? = some expected) :
    h.verifyUpgrade c connection expected
      (seen.commitmentProof hash) height = .ok () := by
  rw [verifyUpgrade, hRemembers,
    ChannelEnd.peerKey_eq_ok.mpr hPeer, hPrefix]
  apply wrapError_eq_ok.mpr
  apply LightClient.verifyMember_proof_iff.mpr
  rw [seen.committedStore_upgrade hash hKey, hUpgrade]
  rfl

theorem verifyReceipt_of_receipt
    (hRemembers : h.Remembers hash connection height seen)
    (hPrefix :
      connection.peer.storePrefix = seen.storePrefix)
    (hKey : key.isSlashFree)
    (hPeer : c.peer = key.peer)
    {expected : ErrorReceipt}
    (hReceipt : seen.receipts[key]? = some expected) :
    h.verifyReceipt c connection expected
      (seen.commitmentProof hash) height = .ok () := by
  rw [verifyReceipt, hRemembers,
    ChannelEnd.peerKey_eq_ok.mpr hPeer, hPrefix]
  apply wrapError_eq_ok.mpr
  apply LightClient.verifyMember_proof_iff.mpr
  rw [seen.committedStore_receipt hash hKey, hReceipt]
  rfl

/- That a remembered store holds no receipt can be proven. -/
theorem verifyNoReceipt_of_none
    (hRemembers : h.Remembers hash connection height seen)
    (hPrefix :
      connection.peer.storePrefix = seen.storePrefix)
    (hKey : key.isSlashFree)
    (hPeer : c.peer = key.peer)
    (hNone : seen.receipts[key]? = none) :
    h.verifyNoReceipt c connection (seen.commitmentProof hash)
      height = .ok () := by
  rw [verifyNoReceipt, hRemembers,
    ChannelEnd.peerKey_eq_ok.mpr hPeer, hPrefix]
  apply wrapError_eq_ok.mpr
  apply LightClient.verifyAbsence_proof_iff.mpr
  rw [seen.committedStore_receipt hash hKey, hNone]
  rfl

/- The time that is proven is the time of the chain. -/
theorem counterpartyTime
    (hRemembers : h.Remembers hash connection height seen)
    (hSet : seen.timestamp.isSet = true) :
    h.counterpartyTime connection height =
      .ok seen.timestamp := by
  rw [Host.counterpartyTime, hRemembers]
  apply wrapError_eq_ok.mpr
  exact if_pos hSet

end Remembers

end Host

end Interchain
