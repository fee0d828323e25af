import Interchain.Proofs.Link.Run

/-
  Courses of one chain.

  A chain acts on whatever messages and packets it is given,
  and its clients learn whatever states they are told.  A
  course is a list of such happenings.  Each happening writes
  records of one channel at most, so what is to be shown of a
  course is shown for the channel that a happening is about.

  Main declarations:
    * `Happening`
    * `Host.undergo`
    * `Host.course`

  Main statements:
    * `Host.records_undergo_of_ne`
    * `Link.Run.exists_course`
-/

------------------------------------------------------------
-- Happenings
------------------------------------------------------------

namespace Interchain

/- What can happen on a chain: it acts, or one of its clients
   learns a state of another chain. -/
inductive Happening where
  | act (action : Action)
  | learn
      (client : ClientId)
      (height : Height)
      (state : ConsensusState)

namespace Action

/- The channel that an action is about, if it is about one. -/
def channel? : Action → Option ChannelKey
  | .dispatch m => some m.key
  | .send p => some p.source
  | .resolve packet => some packet.source
  | .refresh key => some key
  | .abort key _ => some key
  | .advance => none

end Action

namespace Happening

/- Anything but giving an attempt up from outside. -/
def IsOrdinary : Happening → Prop
  | .act action => action.IsOrdinary
  | .learn _ _ _ => True

/- A client is told another chain as it is. -/
def told
    (hash : Hash)
    (client : ClientId)
    (other : Host) :
    Happening :=
  .learn client other.height (other.snapshot hash)

/- The channel that a happening is about. -/
def channel? : Happening → Option ChannelKey
  | .act action => action.channel?
  | .learn _ _ _ => none

end Happening

namespace Host

/- The chain after a happening. -/
def undergo (hash : Hash) (h : Host) : Happening → Host
  | .act action => h.perform hash action
  | .learn client height state => h.remember client height state

/- The chain after happenings, in their order. -/
def course
    (hash : Hash)
    (h : Host)
    (happenings : List Happening) :
    Host :=
  happenings.foldl (undergo hash) h

variable {hash : Hash} {h : Host}

@[simp] theorem course_cons (x : Happening) (rest : List Happening) :
    h.course hash (x :: rest) =
      (h.undergo hash x).course hash rest := rfl

/- A course goes on from where another one ended. -/
theorem course_append (before rest : List Happening) :
    h.course hash (before ++ rest) =
      (h.course hash before).course hash rest :=
  List.foldl_append

theorem course_concat (before : List Happening) (x : Happening) :
    h.course hash (before ++ [x]) =
      (h.course hash before).undergo hash x :=
  course_append before [x]

end Host

end Interchain

------------------------------------------------------------
-- Other Channels
------------------------------------------------------------

namespace Interchain

namespace Host

variable {h : Host} {key : ChannelKey}

/- What writes for one channel keep is kept by every action
   that is about that channel, and by the passing of time. -/
theorem perform_keeps
    (hash : Hash)
    {a : Action}
    {P : Host → Prop}
    (hKept : ∀ other, a.channel? = some other → KeptAt other P)
    (hAdvance : P h → P h.advance)
    (hRest : P h) :
    P (h.perform hash a) := by
  cases a with
  | dispatch m =>
      rw [perform, dispatch_eq]
      exact Session.dispatch_keeps (s := .start h) m
        (hKept _ rfl) rfl hRest
  | send p =>
      exact Session.send_keeps (s := .start h) hash p
        (hKept _ rfl) rfl hRest
  | resolve packet =>
      exact Session.resolvePacket_keeps (s := .start h) packet
        (hKept _ rfl) rfl hRest
  | refresh other =>
      exact Session.refresh_keeps (s := .start h) other
        (hKept _ rfl) rfl hRest
  | abort other reason =>
      exact (Session.carryOut_keeps (s := .start h) id
        (hKept _ rfl) rfl
        (fun _ hMade => (records_abortPlan hMade).1) hRest).1
  | advance => exact hAdvance hRest

/- An action for another channel keeps the records. -/
theorem records_perform_of_ne
    (hash : Hash)
    {a : Action}
    (hKey : a.channel? ≠ some key) :
    (h.perform hash a).records key = h.records key := by
  apply perform_keeps hash
      (P := fun after => after.records key = h.records key)
  · intro other hAbout
    apply keptAt_records
    rintro rfl
    exact hKey hAbout
  · exact id
  · rfl

/- What happens on one channel leaves the others alone. -/
theorem records_undergo_of_ne
    (hash : Hash)
    {x : Happening}
    (hKey : x.channel? ≠ some key) :
    (h.undergo hash x).records key = h.records key := by
  cases x with
  | act action => exact records_perform_of_ne hash hKey
  | learn client height state => rfl

end Host

end Interchain

------------------------------------------------------------
-- Linked Chains
------------------------------------------------------------

namespace Interchain

namespace Link

variable {hash : Hash} {link : Link hash}
variable {allowed : Action → Prop} {trace : List Chains}

/- In a run of two chains, each of them takes a course. -/
theorem Run.exists_course
    (hRun : link.Run allowed trace) :
    ∀ c ∈ trace, ∀ side,
      ∃ happenings,
        (∀ action, .act action ∈ happenings → allowed action) ∧
          c.host side =
            (link.start.host side).course hash happenings := by
  refine Run.induct
    (P := fun trace => ∀ c ∈ trace, ∀ side,
      ∃ happenings,
        (∀ action, .act action ∈ happenings → allowed action) ∧
          c.host side =
            (link.start.host side).course hash happenings)
    hRun ?_ ?_
  · intro c hc side
    rw [List.mem_singleton.mp hc]
    exact ⟨[], by simp, rfl⟩
  · intro now before past hRun ih c hc side
    rcases List.mem_cons.mp hc with rfl | hPast
    · rcases hRun.cases_step with ⟨_, moved, hOther, hStep⟩
      rcases Side.eq_or_eq_other side moved with rfl | rfl
      · rcases ih before List.mem_cons_self side with
          ⟨happenings, hAllowed, hBefore⟩
        rcases hStep with
          ⟨action, hAction, hNow⟩ | ⟨client, seen, _, hNow⟩
        · refine ⟨happenings ++ [.act action], ?_, ?_⟩
          · intro other hOther
            rcases List.mem_append.mp hOther with hOld | hNew
            · exact hAllowed other hOld
            · rcases List.mem_singleton.mp hNew with ⟨rfl⟩
              exact hAction
          · rw [hNow, Host.course_concat, ← hBefore]
            rfl
        · refine ⟨happenings ++
            [.told hash client (seen.host side.other)], ?_, ?_⟩
          · simpa [Happening.told] using hAllowed
          · rw [hNow, Host.course_concat, ← hBefore]
            rfl
      · rw [hOther]
        exact ih before List.mem_cons_self moved.other
    · exact ih c hPast side

end Link

end Interchain
