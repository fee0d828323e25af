import Interchain.Proofs.Handshake.Moves

/-
  Runs of two chains that share a channel.

  The chains act in any order, on any messages.  A client on
  one chain learns a state that the other chain is or was in.
  A run lists the states of both chains, the latest first.

  Main declarations:
    * `Action`
    * `Link`
    * `Link.Run`

  Main statements:
    * `Host.moves_perform`
    * `Link.Run.hasSameLinks`
    * `Link.Run.follows`
-/

------------------------------------------------------------
-- Actions of a Chain
------------------------------------------------------------

namespace Interchain

/- What a chain does by itself. -/
inductive Action where
  | dispatch (message : UpgradeMessage)
  | send (packet : Packet)
  | resolve (packet : PacketKey)
  | refresh (key : ChannelKey)
  | abort (key : ChannelKey) (reason : AbortReason)
  | advance

namespace Action

/- Any action but giving an attempt up from outside. -/
def IsOrdinary : Action → Prop
  | .abort _ _ => False
  | _ => True

instance (a : Action) : Decidable a.IsOrdinary := by
  cases a <;> unfold IsOrdinary <;> infer_instance

end Action

namespace Host

/- The chain after an action, with every write going
   through. -/
def perform (hash : Hash) (h : Host) : Action → Host
  | .dispatch m => (h.dispatch m).2
  | .send p => ((Session.start h).send hash p).2.host
  | .resolve key =>
      ((Session.start h).resolvePacket key).2.host
  | .refresh key => ((Session.start h).refresh key).2.host
  | .abort key reason =>
      ((Session.start h).carryOut id
        (abortPlan key reason)).2.host
  | .advance => h.advance

/- How a chain is linked to others: by its clients and its
   connections, and by the prefix of its store. -/
structure HasSameLinks (h before : Host) : Prop where
  clients : h.clients = before.clients
  connections : h.connections = before.connections
  storePrefix : h.storePrefix = before.storePrefix

theorem HasSameLinks.trans
    {a b c : Host}
    (hab : b.HasSameLinks a)
    (hbc : c.HasSameLinks b) :
    c.HasSameLinks a where
  clients := hbc.clients.trans hab.clients
  connections := hbc.connections.trans hab.connections
  storePrefix := hbc.storePrefix.trans hab.storePrefix

/- Chains in the same setting have the same links. -/
theorem HasSameSetting.links
    {h before : Host}
    (hSame : h.HasSameSetting before) :
    h.HasSameLinks before ∧
      h.consensusStates = before.consensusStates :=
  ⟨⟨hSame.clients, hSame.connections, hSame.storePrefix⟩,
    hSame.consensusStates⟩

/- No action changes the links, or what clients remember. -/
theorem hasSameLinks_perform
    (hash : Hash)
    (h : Host)
    (a : Action) :
    (h.perform hash a).HasSameLinks h ∧
      (h.perform hash a).consensusStates =
        h.consensusStates := by
  have hStart := HasSameSetting.refl h
  cases a with
  | dispatch m => exact (h.hasSameSetting_dispatch m).links
  | send p =>
      exact (Session.send_keeps (s := .start h) hash p
        (keptAt_hasSameSetting p.source h) rfl hStart).links
  | resolve key =>
      exact (Session.resolvePacket_keeps (s := .start h) key
        (keptAt_hasSameSetting key.source h) rfl hStart).links
  | refresh key =>
      exact (Session.refresh_keeps (s := .start h) key
        (keptAt_hasSameSetting key h) rfl hStart).links
  | abort key reason =>
      exact (Session.carryOut_keeps (s := .start h) id
        (keptAt_hasSameSetting key h) rfl
        (fun _ hMade => (records_abortPlan hMade).1)
        hStart).1.links
  | advance => exact ⟨⟨rfl, rfl, rfl⟩, rfl⟩

/- So a chain goes on to follow the other one. -/
theorem Follows.perform
    {hash : Hash}
    {h : Host}
    {past : Host → Prop}
    (hFollows : h.Follows hash past)
    (a : Action) :
    (h.perform hash a).Follows hash past := by
  rcases h.hasSameLinks_perform hash a with ⟨hLinks, hStates⟩
  refine ⟨hLinks.clients.trans hFollows.clients, ?_⟩
  rw [hStates]
  exact hFollows.remembered

/- An ordinary action moves the records of a channel, where
   the chain trusts in what it weighs for a message. -/
theorem moves_perform
    {h : Host}
    {key peerKey : ChannelKey}
    {proven : Records → Prop}
    {a : Action}
    (hTrusts :
      ∀ m, a = .dispatch m →
        h.Trusts (h.weighed m) peerKey proven)
    (hFaces : h.Faces key peerKey)
    (hash : Hash)
    (hOrdinary : a.IsOrdinary) :
    (h.records key).Moves (h.outlook key proven)
      ((h.perform hash a).records key) := by
  cases a with
  | dispatch m => exact (hTrusts m rfl).moves_dispatch hFaces
  | send p =>
      exact moves_send (s := .start h) hash _ rfl p
  | resolve packet =>
      exact moves_resolvePacket (s := .start h) _ rfl packet
  | refresh other =>
      exact moves_refresh (s := .start h) _ rfl other
  | abort other reason => exact hOrdinary.elim
  | advance => exact .rest

end Host

end Interchain

------------------------------------------------------------
-- Two Chains
------------------------------------------------------------

namespace Interchain

/- One of two chains. -/
inductive Side where
  | left
  | right
  deriving DecidableEq

namespace Side

/- The chain across the link. -/
def other : Side → Side
  | .left => .right
  | .right => .left

@[simp] theorem other_other (side : Side) :
    side.other.other = side := by
  cases side <;> rfl

theorem eq_or_eq_other (a b : Side) : a = b ∨ a = b.other := by
  cases a <;> cases b <;> decide

end Side

/- The states of both chains at one time. -/
structure Chains where
  left : Host
  right : Host

namespace Chains

/- The chain on a side. -/
def host (c : Chains) : Side → Host
  | .left => c.left
  | .right => c.right

/- The states after one chain changed. -/
def replace (c : Chains) (side : Side) (h : Host) : Chains :=
  match side with
  | .left => { c with left := h }
  | .right => { c with right := h }

@[simp] theorem host_replace_self
    (c : Chains)
    (side : Side)
    (h : Host) :
    (c.replace side h).host side = h := by
  cases side <;> rfl

@[simp] theorem host_replace_other
    (c : Chains)
    (side : Side)
    (h : Host) :
    (c.replace side h).host side.other = c.host side.other := by
  cases side <;> rfl

/- Of two hosts that are put on a side, the second remains. -/
@[simp] theorem replace_replace
    (c : Chains)
    (side : Side)
    (h later : Host) :
    (c.replace side h).replace side later =
      c.replace side later := by
  cases side <;> rfl

end Chains

end Interchain

------------------------------------------------------------
-- Links
------------------------------------------------------------

namespace Interchain

/-
  Two chains that follow each other and hold mirrored open ends
  of one channel, without a proposal.  A connection that names
  its peer is named by that peer, and an open one knows the
  prefix of the other chain's store.  What a client remembers
  at the start, if anything, is the other chain as it is.
-/
structure Link (hash : Hash) where
  start : Chains
  key : Side → ChannelKey
  order : ChannelOrder
  version : ChannelVersion
  hop : Side → ConnectionId
  sequence : Side → Sequence
  isSlashFree : ∀ side, (key side).isSlashFree
  clients :
    ∀ side,
      (start.host side).clients =
        ClientRegistry.register ∅ (LightClient.ofStores hash)
  remembered :
    ∀ side (k : ConsensusKey) (state : ConsensusState),
      (start.host side).consensusStates[k]? = some state →
        state = (start.host side.other).snapshot hash
  leadsBack :
    ∀ side id peer,
      (start.host side).across id = some peer →
        (start.host side.other).across peer = some id
  storePrefix :
    ∀ side (id : ConnectionId) (connection : ConnectionEnd),
      (start.host side).connections[id]? = some connection →
        connection.isOpen = true →
          connection.peer.storePrefix =
            (start.host side.other).storePrefix
  channel :
    ∀ side,
      (start.host side).channels[key side]? =
        some
          { state := .open
            order := order
            peer := (key side.other).peer
            hops := [hop side]
            version := version
            upgradeSequence := sequence side }
  hopsFace :
    ∀ side,
      (start.host side).across (hop side) =
        some (hop side.other)
  upgrade :
    ∀ side, (start.host side).upgrades[key side]? = none

namespace Link

variable {hash : Hash}

/- The records of the channel on one of the chains. -/
def records
    (link : Link hash)
    (side : Side)
    (c : Chains) :
    Records :=
  (c.host side).records (link.key side)

theorem channels_eq
    {link : Link hash}
    {side : Side}
    {c : Chains}
    (hState :
      (link.records side c).channel.state ≠ .uninitialized) :
    (c.host side).channels[link.key side]? =
      some (link.records side c).channel :=
  Host.channels_eq_of_state_ne hState

/- The states of both chains in the course of a run, the latest
   first, where each action is among those allowed. -/
inductive Run
    (link : Link hash)
    (allowed : Action → Prop) :
    List Chains → Prop
  | start : Run link allowed [link.start]
  | act
      {now : Chains}
      {past : List Chains}
      (side : Side)
      (action : Action)
      (hRun : Run link allowed (now :: past))
      (hAllowed : allowed action) :
      Run link allowed
        (now.replace side
            ((now.host side).perform hash action) ::
          now :: past)
  | learn
      {now : Chains}
      {past : List Chains}
      (side : Side)
      (client : ClientId)
      (seen : Chains)
      (hRun : Run link allowed (now :: past))
      (hSeen : seen ∈ now :: past) :
      Run link allowed
        (now.replace side
            ((now.host side).updateClient hash client
              (seen.host side.other)) ::
          now :: past)

end Link

end Interchain

------------------------------------------------------------
-- What Chains See
------------------------------------------------------------

namespace Interchain

namespace Link

variable {hash : Hash} {link : Link hash}
variable {allowed : Action → Prop}
variable {now : Chains} {past trace : List Chains}

/- The past of a run is a run. -/
theorem Run.of_cons
    (hRun : link.Run allowed (now :: past))
    (hPast : past ≠ []) :
    link.Run allowed past := by
  cases hRun with
  | start => exact (hPast rfl).elim
  | act side action hRun hAllowed => exact hRun
  | learn side client seen hRun hSeen => exact hRun

/- What a run went through before is a run. -/
theorem Run.of_append
    {newer : List Chains}
    (hRun : link.Run allowed (newer ++ now :: past)) :
    link.Run allowed (now :: past) := by
  induction newer with
  | nil => exact hRun
  | cons c newer ih => exact ih (hRun.of_cons (by simp))

/- A run begins at the start. -/
theorem Run.exists_eq_append_start
    (hRun : link.Run allowed trace) :
    ∃ newer, trace = newer ++ [link.start] := by
  induction hRun with
  | start => exact ⟨[], rfl⟩
  | act side action hRun hAllowed ih =>
      rcases ih with ⟨newer, hTrace⟩
      exact ⟨_ :: newer, by rw [hTrace]; rfl⟩
  | learn side client seen hRun hSeen ih =>
      rcases ih with ⟨newer, hTrace⟩
      exact ⟨_ :: newer, by rw [hTrace]; rfl⟩

/- Each latest state comes from the one before it by one chain
   acting or learning; the other chain stays as it is. -/
theorem Run.cases_step
    {before : Chains}
    (hRun : link.Run allowed (now :: before :: past)) :
    link.Run allowed (before :: past) ∧
      ∃ side,
        now.host side.other = before.host side.other ∧
          ((∃ action, allowed action ∧
              now.host side =
                (before.host side).perform hash action) ∨
            ∃ client, ∃ seen ∈ before :: past,
              now.host side =
                (before.host side).updateClient hash client
                  (seen.host side.other)) := by
  cases hRun with
  | act side action hRun hAllowed =>
      exact ⟨hRun, side, by simp,
        Or.inl ⟨action, hAllowed, by simp⟩⟩
  | learn side client seen hRun hSeen =>
      exact ⟨hRun, side, by simp,
        Or.inr ⟨client, seen, hSeen, by simp⟩⟩

/- What an induction over a run has to show. -/
theorem Run.induct
    {P : List Chains → Prop}
    (hRun : link.Run allowed trace)
    (hStart : P [link.start])
    (hStep :
      ∀ now before past,
        link.Run allowed (now :: before :: past) →
        P (before :: past) → P (now :: before :: past)) :
    P trace := by
  induction hRun with
  | start => exact hStart
  | act side action hRun hAllowed ih =>
      exact hStep _ _ _ (.act side action hRun hAllowed) ih
  | learn side client seen hRun hSeen ih =>
      exact hStep _ _ _ (.learn side client seen hRun hSeen) ih

/- The links of the chains never change. -/
theorem Run.hasSameLinks
    (hRun : link.Run allowed trace) :
    ∀ c ∈ trace, ∀ side,
      (c.host side).HasSameLinks (link.start.host side) := by
  refine Run.induct
    (P := fun trace => ∀ c ∈ trace, ∀ side,
      (c.host side).HasSameLinks (link.start.host side))
    hRun ?_ ?_
  · intro c hc side
    rw [List.mem_singleton.mp hc]
    exact ⟨rfl, rfl, rfl⟩
  · intro now before past hRun ih c hc side
    rcases List.mem_cons.mp hc with rfl | hPast
    · have hBefore := ih before List.mem_cons_self
      rcases hRun.cases_step with ⟨_, moved, hOther, hStep⟩
      rcases Side.eq_or_eq_other side moved with rfl | rfl
      · rcases hStep with
          ⟨action, _, hNow⟩ | ⟨client, seen, _, hNow⟩
        · have hLinks :=
            (before.host side).hasSameLinks_perform hash action
          rw [hNow]
          exact (hBefore side).trans hLinks.1
        · rw [hNow]
          exact (hBefore side).trans ⟨rfl, rfl, rfl⟩
      · rw [hOther]
        exact hBefore moved.other
    · exact ih c hPast side

/- What the clients of a chain remember, at any time of a run,
   are states that the other chain has been in. -/
theorem Run.follows
    (hRun : link.Run allowed trace) :
    ∀ c ∈ trace, ∀ side,
      (c.host side).Follows hash fun seen =>
        ∃ d ∈ trace, d.host side.other = seen := by
  refine Run.induct
    (P := fun trace => ∀ c ∈ trace, ∀ side,
      (c.host side).Follows hash fun seen =>
        ∃ d ∈ trace, d.host side.other = seen)
    hRun ?_ ?_
  · intro c hc side
    rw [List.mem_singleton.mp hc]
    refine ⟨link.clients side, ?_⟩
    intro key state hState
    exact ⟨_, ⟨link.start, List.mem_cons_self, rfl⟩,
      link.remembered side key state hState⟩
  · intro now before past hRun ih c hc side
    have hLater :
        ∀ seen,
          (∃ d ∈ before :: past, d.host side.other = seen) →
            ∃ d ∈ now :: before :: past,
              d.host side.other = seen := by
      rintro seen ⟨d, hd, hSeen⟩
      exact ⟨d, List.mem_cons_of_mem _ hd, hSeen⟩
    rcases List.mem_cons.mp hc with rfl | hPast
    · have hBefore := (ih before List.mem_cons_self side).mono
        hLater
      rcases hRun.cases_step with ⟨_, moved, hOther, hStep⟩
      rcases Side.eq_or_eq_other side moved with rfl | rfl
      · rcases hStep with
          ⟨action, _, hNow⟩ | ⟨client, seen, hSeen, hNow⟩
        · rw [hNow]
          exact hBefore.perform action
        · rw [hNow]
          exact hBefore.updateClient
            ⟨seen, List.mem_cons_of_mem _ hSeen, rfl⟩ client
      · rw [hOther]
        exact (ih before List.mem_cons_self moved.other).mono
          hLater
    · exact (ih c hPast side).mono hLater

end Link

end Interchain
