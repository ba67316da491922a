import ClusterControl.Proofs.Cluster.StartFailure
import ClusterControl.Proofs.Server.Moves

/-!
# On whose account a cluster is called upon

A cluster does not know who calls.  Its callers are the task beside it, which waits for the start and
may have to stop it, and the calls of the server that stop it or change a node.  This module keeps
the books: every call on a cluster is made on somebody's account, and is about what that one wants.

* `Account` — on whose account a call may be made on a cluster.
* `Conveys` — the events of a cluster that an event of the server brings about;
  `Move.cluster?_some`, `Move.cluster?_new` — all that happens to a cluster, and how one comes into
  being.
* `StartupMove`, `Move.startup?_cases` — all that happens to the task beside a cluster.
* `Account.move` — an account stands until the call that was made on it is dropped.
* `cluster?_step`, `cluster?_run` — what every move of a cluster preserves, the server preserves.
* `Managed` — every cluster is in order, every call on one is accounted for, and the slot and the
  tasks agree; `managed_run` — so it is after every run.
-/

namespace ClusterControl

/-- The start has failed, and for this reason the cluster is being stopped or was stopped. -/
def StartupPhase.hasFailed : StartupPhase → Bool
  | awaitingStop _ => true
  | ended (.error _) => true
  | _ => false

/-- The outcome of the start, once the task that sees it through knows it. -/
def StartupPhase.outcome? : StartupPhase → Option (Outcome Snapshot)
  | awaitingStop cause => some (.error cause)
  | ended result => some result
  | _ => none

namespace Server

variable {s s' : Server} {g k m n : Nat} {e : Event}

/-- On whose account a call may be made on a cluster under this number, and what it is about. -/
inductive Account (s : Server) (g : Nat) : Nat → ClusterCall → Prop
  | start {phase : StartupPhase} (h : s.startup? g = some phase) (hb : phase ≠ .spawned) :
      Account s g 0 .waitReady
  | teardown {phase : StartupPhase} (h : s.startup? g = some phase)
      (hf : phase.hasFailed = true) : Account s g 1 .stop
  | stop {n : Nat} (h : s.calls.get? n = some (.stopping g)) : Account s g (inner n) .stop
  | mutation {n : Nat} {m : Mutation} (h : s.calls.get? n = some (.mutating g)) :
      Account s g (inner n) (.mutate m)

/-- A number under which the cluster is stopped is used for nothing else. -/
theorem Account.stop_unique {call : ClusterCall} (h : Account s g m .stop)
    (other : Account s g m call) : call = .stop := by
  cases h with
  | teardown => cases other; rfl
  | stop h =>
    cases other with
    | stop => rfl
    | mutation h' => simp [h] at h'

/-- The events of a cluster that an event of the server brings about, given the server after it. -/
inductive Conveys (s' : Server) (e : Event) (g : Nat) : Cluster.Event → Prop
  | poll (w : Worker) : Conveys s' e g (.poll w)
  | answer {w : Worker} {reply : Reply} (he : e = .answer g w reply) :
      Conveys s' e g (.answer w reply)
  | elapse (ms : Nat) : Conveys s' e g (.elapse ms)
  | call {m : Nat} {call : ClusterCall} (h : Account s' g m call) : Conveys s' e g (.call m call)
  | leave (n : Nat) : Conveys s' e g (.leave (inner n))

/-! ## What one move does -/

/-- All that one move does to a cluster is done by one event of the cluster. -/
theorem Move.cluster?_some {c : Cluster} (h : Move s e s') (hc : s.cluster? g = some c) :
    ∃ d, s'.cluster? g = some d ∧ (d = c ∨ ∃ ce, Conveys s' e g ce ∧ Cluster.Move c ce d) := by
  have called {m : Nat} {call : ClusterCall} (ha : Account s' g m call) :
      c.call m call = c ∨ ∃ ce, Conveys s' e g ce ∧ Cluster.Move c ce (c.call m call) := by
    rcases Cluster.call_move c m call with hsame | hmove
    · exact .inl hsame
    · exact .inr ⟨_, .call ha, hmove⟩
  have there : ∃ phase, s.startup? g = some phase := by
    have known := startup?_isSome s g
    rw [hc] at known
    exact Option.isSome_iff_exists.mp known
  obtain ⟨phase, hphase⟩ := there
  cases h with
  | arrives h => exact ⟨c, hc, .inl rfl⟩
  | leaves n =>
    rw [cluster?_leave, hc]
    split
    · exact ⟨_, rfl, .inr ⟨_, .leave n, .leaves _⟩⟩
    · exact ⟨c, rfl, .inl rfl⟩
  | elapses ms =>
    rw [cluster?_elapse, hc]
    exact ⟨_, rfl, .inr ⟨_, .elapse ms, .elapses ms⟩⟩
  | @answered k w reply c' d hc' hmove =>
    by_cases hk : g = k
    · subst hk
      obtain rfl := Option.some.inj (hc'.symm.trans hc)
      exact ⟨d, by simp [hc], .inr ⟨_, .answer rfl, hmove⟩⟩
    · exact ⟨c, by simp [hk, hc], .inl rfl⟩
  | @works e k w c' d he hc' hmove =>
    by_cases hk : g = k
    · subst hk
      obtain rfl := Option.some.inj (hc'.symm.trans hc)
      exact ⟨d, by simp [hc], .inr ⟨_, .poll w, hmove⟩⟩
    · exact ⟨c, by simp [hk, hc], .inl rfl⟩
  | @asksReady k h =>
    by_cases hk : g = k
    · subst hk
      have waits : ((s.onCluster g (·.call 0 .waitReady)).setStartup g .awaitingReady).startup? g =
          some .awaitingReady := by simp [hphase]
      exact ⟨c.call 0 .waitReady, by simp [hc], called (.start waits (by simp))⟩
    · exact ⟨c, by simp [hk, hc], .inl rfl⟩
  | seesReady h hc' hr => exact ⟨c, by simp [hc], .inl rfl⟩
  | @seesFailure k c' cause h hc' hr =>
    by_cases hk : g = k
    · subst hk
      have waits : ((s.onCluster g (·.call 1 .stop)).setStartup g (.awaitingStop cause)).startup? g =
          some (.awaitingStop cause) := by simp [hphase]
      exact ⟨c.call 1 .stop, by simp [hc], called (.teardown waits rfl)⟩
    · exact ⟨c, by simp [hk, hc], .inl rfl⟩
  | tearsDown h hc' hr => exact ⟨c, by simp [hc], .inl rfl⟩
  | refused h hs => exact ⟨c, hc, .inl rfl⟩
  | rejected h hs hp => exact ⟨c, hc, .inl rfl⟩
  | claims h hs hp =>
    have old : g ≠ s.tenancies.length := by
      intro heq
      have gone := (cluster?_eq_none_iff s g).mpr (Nat.le_of_eq heq.symm)
      simp [hc] at gone
    exact ⟨c, by simp [old, hc], .inl rfl⟩
  | reports h hr => exact ⟨c, hc, .inl rfl⟩
  | @asksStop n k h hs =>
    by_cases hk : g = k
    · subst hk
      exact ⟨c.call (inner n) .stop, by simp [hc],
        called (.stop (n := n) (Roster.get?_set_self ..))⟩
    · exact ⟨c, by simp [hk, hc], .inl rfl⟩
  | @stops n k c' result h hc' hr =>
    by_cases hk : g = k
    · subst hk
      refine ⟨c.leave (inner n), ?_, .inr ⟨_, .leave n, .leaves _⟩⟩
      show ((s.onCluster g (·.leave (inner n))).release g).cluster? g = _
      simp [hc]
    · refine ⟨c, ?_, .inl rfl⟩
      show ((s.onCluster k (·.leave (inner n))).release k).cluster? g = _
      simp [hk, hc]
  | recalls h hs => exact ⟨c, hc, .inl rfl⟩
  | @asksMutation n k m h hs =>
    by_cases hk : g = k
    · subst hk
      exact ⟨c.call (inner n) (.mutate m), by simp [hc],
        called (.mutation (n := n) (Roster.get?_set_self ..))⟩
    · exact ⟨c, by simp [hk, hc], .inl rfl⟩
  | @mutates n k c' result h hc' hr =>
    by_cases hk : g = k
    · subst hk
      exact ⟨c.leave (inner n), by simp [hc], .inr ⟨_, .leave n, .leaves _⟩⟩
    · exact ⟨c, by simp [hk, hc], .inl rfl⟩
  | lacks h hs => exact ⟨c, hc, .inl rfl⟩

/-- A cluster comes into being when a start finds the slot empty. -/
structure Founded (s s' : Server) (g : Nat) (d : Cluster) : Prop where
  empty : s.slot = none
  slot : s'.slot = some g
  startup : s'.startup? g = some .spawned
  planned : ∃ params c, Cluster.plan s.options params s.pid s.obstacle = .ok c ∧
    d = { c with now := s.now }.start

theorem Move.cluster?_new {d : Cluster} (h : Move s e s') (hc : s.cluster? g = none)
    (hd : s'.cluster? g = some d) : Founded s s' g d := by
  have absent := (cluster?_eq_none_iff s g).mp hc
  have kept {f : Cluster → Cluster} {k : Nat} : (s.onCluster k f).cluster? g = none := by
    rw [cluster?_onCluster]
    split
    · next hk => subst hk; simp [hc]
    · exact hc
  cases h with
  | @claims n params c h hs hp =>
    have new : g = s.tenancies.length := by
      by_contra hne
      simp [hne, hc] at hd
    subst new
    have fresh : { c with now := s.now }.start = d := by simpa using hd
    exact ⟨hs, rfl, by simp, params, c, hp, fresh.symm⟩
  | @stops n k c' result h hc' hr =>
    have hd' : ((s.onCluster k (·.leave (inner n))).release k).cluster? g = some d := hd
    rw [cluster?_release, kept] at hd'
    simp at hd'
  | leaves n =>
    rw [cluster?_leave, hc] at hd
    simp at hd
  | elapses ms => simp [hc] at hd
  | answered hc' hmove => simp [kept] at hd
  | works he hc' hmove => simp [kept] at hd
  | asksReady h => simp [kept] at hd
  | seesFailure h hc' hr => simp [kept] at hd
  | asksStop h hs => simp [kept] at hd
  | asksMutation h hs => simp [kept] at hd
  | mutates h hc' hr => simp [kept] at hd
  | _ => simp [hc] at hd

/-- One move of the task beside a cluster. -/
inductive StartupMove (s s' : Server) (g : Nat) : StartupPhase → StartupPhase → Prop
  | asks : StartupMove s s' g .spawned .awaitingReady
  | succeeds {c : Cluster} {snapshot : Snapshot} (hc : s.cluster? g = some c)
      (hr : c.result? 0 = some (.ok snapshot)) :
      StartupMove s s' g .awaitingReady (.ended (.ok snapshot))
  | fails {c : Cluster} {cause : Failure} (hc : s.cluster? g = some c)
      (hr : c.result? 0 = some (.error cause)) :
      StartupMove s s' g .awaitingReady (.awaitingStop cause)
  | ends {cause : Failure} (hs : s'.slot ≠ some g) :
      StartupMove s s' g (.awaitingStop cause) (.ended (.error cause))

/-- A task beside a cluster makes one move at most. -/
theorem Move.startup?_cases {phase : StartupPhase} (h : Move s e s')
    (hp : s.startup? g = some phase) :
    s'.startup? g = some phase ∨
      ∃ after, s'.startup? g = some after ∧ StartupMove s s' g phase after := by
  cases h with
  | @asksReady k h =>
    by_cases hk : g = k
    · subst hk
      obtain rfl := Option.some.inj (h.symm.trans hp)
      exact .inr ⟨_, by simp [hp], .asks⟩
    · exact .inl (by simp [hk, hp])
  | @seesReady k c snapshot h hc hr =>
    by_cases hk : g = k
    · subst hk
      obtain rfl := Option.some.inj (h.symm.trans hp)
      exact .inr ⟨_, by simp [hp], .succeeds hc hr⟩
    · exact .inl (by simp [hk, hp])
  | @seesFailure k c cause h hc hr =>
    by_cases hk : g = k
    · subst hk
      obtain rfl := Option.some.inj (h.symm.trans hp)
      exact .inr ⟨_, by simp [hp], .fails hc hr⟩
    · exact .inl (by simp [hk, hp])
  | @tearsDown k c cause result h hc hr =>
    by_cases hk : g = k
    · subst hk
      obtain rfl := Option.some.inj (h.symm.trans hp)
      refine .inr ⟨_, by simp [hp], .ends ?_⟩
      show (s.release g).slot ≠ some g
      rw [slot_release]
      split
      · simp
      · assumption
    · exact .inl (by simp [hk, hp])
  | claims h hs hp' =>
    have old : g ≠ s.tenancies.length := by
      intro heq
      have gone := (startup?_eq_none_iff s g).mpr (Nat.le_of_eq heq.symm)
      simp [hp] at gone
    exact .inl (by simp [old, hp])
  | @stops n k c result h hc hr =>
    refine .inl ?_
    show ((s.onCluster k (·.leave (inner n))).release k).startup? g = _
    simp [hp]
  | leaves n => exact .inl (by simp [hp])
  | elapses ms => exact .inl (by simp [hp])
  | _ => exact .inl (by simp [hp])

/-- The slot is emptied of a cluster, because somebody who stopped it was told the outcome. -/
structure Released (s s' : Server) (e : Event) (g : Nat) : Prop where
  before : s.slot = some g
  after : s'.slot = none
  told : ∃ c m result, s.cluster? g = some c ∧ Account s g m .stop ∧ c.result? m = some result
  event : e = .pollStartup g ∨ ∃ n, e = .pollCall n ∧ s.calls.get? n = some (.stopping g)

/-- The slot is filled only when it is empty, and emptied only for the cluster in it. -/
theorem Move.slot_cases (h : Move s e s') :
    s'.slot = s.slot ∨
      (s.slot = none ∧ s'.slot = some s.tenancies.length ∧
        ∃ d, s'.cluster? s.tenancies.length = some d) ∨
      ∃ g, Released s s' e g := by
  cases h with
  | leaves n => exact .inl (slot_leave s n)
  | @claims n params c h hs hp =>
    exact .inr (.inl ⟨hs, rfl, _, (cluster?_withCluster s c _).trans (if_pos rfl)⟩)
  | @tearsDown g c cause result h hc hr =>
    by_cases hs : s.slot = some g
    · refine .inr (.inr ⟨g, hs, ?_, ⟨c, 1, result, hc, .teardown h rfl, hr⟩, .inl rfl⟩)
      show (s.release g).slot = none
      rw [slot_release, if_pos hs]
    · refine .inl ?_
      show (s.release g).slot = s.slot
      rw [slot_release, if_neg hs]
  | @stops n g c result h hc hr =>
    by_cases hs : s.slot = some g
    · refine .inr (.inr ⟨g, hs, ?_, ⟨c, inner n, result, hc, .stop h, hr⟩, .inr ⟨n, rfl, h⟩⟩)
      show ((s.onCluster g (·.leave (inner n))).release g).slot = none
      rw [slot_release]
      exact if_pos hs
    · refine .inl ?_
      show ((s.onCluster g (·.leave (inner n))).release g).slot = s.slot
      rw [slot_release]
      exact if_neg hs
  | _ => exact .inl rfl

/-- One move of a call. -/
inductive CallMove (s s' : Server) (n : Nat) : ServerPhase → ServerPhase → Prop
  | refused {params : StartParams} (hs : s.slot.isSome = true) :
      CallMove s s' n (.fresh (.start params)) (.returned (.error .alreadyExists))
  | rejected {params : StartParams} {e : Failure} (hs : s.slot = none)
      (hp : Cluster.plan s.options params s.pid s.obstacle = .error e) :
      CallMove s s' n (.fresh (.start params)) (.returned (.error e))
  | claims {params : StartParams} {c : Cluster} (hs : s.slot = none)
      (hp : Cluster.plan s.options params s.pid s.obstacle = .ok c)
      (hs' : s'.slot = some s.tenancies.length) :
      CallMove s s' n (.fresh (.start params)) (.starting s.tenancies.length)
  | reports {g : Nat} {result : Outcome Snapshot} (hr : s.startup? g = some (.ended result)) :
      CallMove s s' n (.starting g) (.returned result)
  | asksStop {g : Nat} (hs : s.slot = some g) : CallMove s s' n (.fresh .stop) (.stopping g)
  -- The cluster does not know the call any more, and is not in the slot
  | stops {g : Nat} {c : Cluster} {result : Outcome Snapshot} (hc : s.cluster? g = some c)
      (hr : c.result? (inner n) = some result)
      (hc' : s'.cluster? g = some (c.leave (inner n))) (hs' : s'.slot ≠ some g) :
      CallMove s s' n (.stopping g) (.returned result)
  | recalls (hs : s.slot = none) :
      CallMove s s' n (.fresh .stop) (.returned (remembered s.lastStopped))
  | asksMutation {g : Nat} {m : Mutation} (hs : s.slot = some g) :
      CallMove s s' n (.fresh (.mutate m)) (.mutating g)
  | mutates {g : Nat} {c : Cluster} {result : Outcome Snapshot} (hc : s.cluster? g = some c)
      (hr : c.result? (inner n) = some result)
      (hc' : s'.cluster? g = some (c.leave (inner n))) :
      CallMove s s' n (.mutating g) (.returned result)
  | lacks {m : Mutation} (hs : s.slot = none) :
      CallMove s s' n (.fresh (.mutate m)) (.returned (.error noCluster))

/-- A call whose caller stays makes one move at most. -/
theorem Move.call_cases {phase : ServerPhase} (h : Move s e s')
    (hn : s.calls.get? n = some phase) (he : e ≠ .leave n) :
    s'.calls.get? n = some phase ∨
      e = .pollCall n ∧ ∃ after, s'.calls.get? n = some after ∧ CallMove s s' n phase after := by
  -- A call that goes on leaves all others alone.
  have cases_of {t : Server} {k : Nat} {before after : ServerPhase}
      (hk : s.calls.get? k = some before) (hcalls : t.calls = s.calls.set k after)
      (hmove : CallMove s t k before after) :
      t.calls.get? n = some phase ∨
        Event.pollCall k = .pollCall n ∧
          ∃ after, t.calls.get? n = some after ∧ CallMove s t n phase after := by
    rw [hcalls, Roster.get?_set]
    by_cases hne : n = k
    · subst hne
      obtain rfl := Option.some.inj (hk.symm.trans hn)
      exact .inr ⟨rfl, after, by simp, hmove⟩
    · exact .inl (by rw [if_neg hne, hn])
  cases h with
  | @arrives k call h =>
    have other : n ≠ k := by
      rintro rfl
      simp [hn] at h
    exact .inl (by simp [setCall, other, hn])
  | leaves k =>
    have other : n ≠ k := fun heq => he (by rw [heq])
    exact .inl (by simp [other, hn])
  | refused h hs => exact cases_of h rfl (.refused hs)
  | rejected h hs hp => exact cases_of h rfl (.rejected hs hp)
  | claims h hs hp => exact cases_of h rfl (.claims hs hp rfl)
  | reports h hr => exact cases_of h rfl (.reports hr)
  | asksStop h hs => exact cases_of h rfl (.asksStop hs)
  | @stops k g c result h hc hr =>
    refine cases_of h (by simp [setCall, onCluster]) (.stops hc hr ?_ ?_)
    · show ((s.onCluster g (·.leave (inner k))).release g).cluster? g = _
      simp [hc]
    · show ((s.onCluster g (·.leave (inner k))).release g).slot ≠ some g
      rw [slot_release]
      split
      · simp
      · assumption
  | recalls h hs => exact cases_of h rfl (.recalls hs)
  | asksMutation h hs => exact cases_of h rfl (.asksMutation hs)
  | mutates h hc hr => exact cases_of h rfl (.mutates hc hr (by simp [hc]))
  | lacks h hs => exact cases_of h rfl (.lacks hs)
  | tearsDown h hc hr => exact .inl (by simpa [setStartup] using hn)
  | _ => exact .inl hn

/-! ## Accounts -/

/-- No caller of a cluster is known under a number. -/
def Dropped (s : Server) (g m : Nat) : Prop :=
  ∀ d, s.cluster? g = some d → d.callers.get? m = none

/-- An account stands until the call that was made on it is dropped.  A stop is dropped only when
the slot is emptied of its cluster, or when its caller goes away. -/
theorem Account.move {call : ClusterCall} (h : Move s e s') (ha : Account s g m call) :
    Account s' g m call ∨
      Dropped s' g m ∧ (call = .stop → s'.slot ≠ some g ∨
        ∃ n, e = .leave n ∧ s.calls.get? n = some (.stopping g)) := by
  cases ha with
  | start hp hb =>
    refine .inl ?_
    rcases h.startup?_cases hp with hsame | ⟨after, hafter, hmove⟩
    · exact .start hsame hb
    · exact .start hafter (by cases hmove <;> simp)
  | teardown hp hf =>
    refine .inl ?_
    rcases h.startup?_cases hp with hsame | ⟨after, hafter, hmove⟩
    · exact .teardown hsame hf
    · refine .teardown hafter ?_
      cases hmove <;> first | rfl | simp [StartupPhase.hasFailed] at hf
  | @stop n hn =>
    by_cases he : e = .leave n
    · subst he
      cases h with
      | leaves =>
        refine .inr ⟨fun d hd => ?_, fun _ => .inr ⟨n, rfl, hn⟩⟩
        rw [cluster?_leave, if_pos (.inl hn)] at hd
        obtain ⟨c, -, rfl⟩ := Option.map_eq_some_iff.mp hd
        simp [Cluster.leave]
      | works he => simp [Event.isPoll] at he
    · rcases h.call_cases hn he with hsame | ⟨-, after, -, hmove⟩
      · exact .inl (.stop hsame)
      · cases hmove with
        | stops hc hr hc' hs' =>
          refine .inr ⟨fun d hd => ?_, fun _ => .inl hs'⟩
          obtain rfl := Option.some.inj (hc'.symm.trans hd)
          simp [Cluster.leave]
  | @mutation n mutation hn =>
    by_cases he : e = .leave n
    · subst he
      cases h with
      | leaves =>
        refine .inr ⟨fun d hd => ?_, by simp⟩
        rw [cluster?_leave, if_pos (.inr hn)] at hd
        obtain ⟨c, -, rfl⟩ := Option.map_eq_some_iff.mp hd
        simp [Cluster.leave]
      | works he => simp [Event.isPoll] at he
    · rcases h.call_cases hn he with hsame | ⟨-, after, -, hmove⟩
      · exact .inl (.mutation hsame)
      · cases hmove with
        | mutates hc hr hc' =>
          refine .inr ⟨fun d hd => ?_, by simp⟩
          obtain rfl := Option.some.inj (hc'.symm.trans hd)
          simp [Cluster.leave]

/-- Where a call on a cluster stands, by what it is about. -/
structure Stands (c : Cluster) (call : ClusterCall) (phase : CallPhase) : Prop where
  suits : phase.Suits call
  stop : call = .stop → Cluster.StopCall c phase

theorem Stands.fresh (c : Cluster) (call : ClusterCall) : Stands c call (.fresh call) where
  suits := .fresh call
  stop := by
    rintro rfl
    exact .fresh

theorem stands_move {c d : Cluster} {ce : Cluster.Event} {call : ClusterCall}
    {phase after : CallPhase} (h : Cluster.Move c ce d) (latched : Cluster.Latched c)
    (hce : ce ≠ .leave m) (hphase : c.callers.get? m = some phase) (stands : Stands c call phase)
    (hafter : d.callers.get? m = some after) : Stands d call after where
  suits := by
    obtain ⟨_, hthere, hsuits⟩ := Cluster.suits_move h hce ⟨phase, hphase, stands.suits⟩
    obtain rfl := Option.some.inj (hthere.symm.trans hafter)
    exact hsuits
  stop hcall := by
    obtain ⟨_, hthere, hstop⟩ :=
      Cluster.stopCall_move h latched hce ⟨phase, hphase, stands.stop hcall⟩
    obtain rfl := Option.some.inj (hthere.symm.trans hafter)
    exact hstop

/-- Every call on a cluster is made on somebody's account, and is about what that one wants. -/
def Accounted (s : Server) (g : Nat) (c : Cluster) : Prop :=
  ∀ m phase, c.callers.get? m = some phase →
    ∃ call, Account s g m call ∧ Stands c call phase

theorem accounted_move {c d : Cluster} (h : Move s e s') (hd : s'.cluster? g = some d)
    (latched : Cluster.Latched c) (inv : Accounted s g c)
    (hmove : d = c ∨ ∃ ce, Conveys s' e g ce ∧ Cluster.Move c ce d) : Accounted s' g d := by
  intro m after hafter
  have here : ¬ Dropped s' g m := by
    intro hdropped
    have gone := hdropped d hd
    simp [hafter] at gone
  rcases hmove with rfl | ⟨ce, hconveys, hmove⟩
  · obtain ⟨call, ha, stands⟩ := inv m after hafter
    rcases ha.move h with hstands | ⟨hdropped, -⟩
    · exact ⟨call, hstands, stands⟩
    · exact absurd hdropped here
  · cases hphase : c.callers.get? m with
    | none =>
      -- The call is new, so it is made on the account that the event gives.
      by_cases hcall : ∃ call, ce = .call m call
      · obtain ⟨call, rfl⟩ := hcall
        cases hconveys with
        | call ha =>
          cases hmove with
          | arrives hfree =>
            obtain rfl : .fresh call = after := by simpa [Cluster.setCall] using hafter
            exact ⟨call, ha, .fresh _ call⟩
      · have free := (hmove.stays_free hphase fun call heq => hcall ⟨call, heq⟩).1
        simp [hafter] at free
    | some phase =>
      obtain ⟨call, ha, stands⟩ := inv m phase hphase
      rcases ha.move h with hstands | ⟨hdropped, -⟩
      · have stays : ce ≠ .leave m := by
          rintro rfl
          cases hmove with
          | leaves => simp [Cluster.leave] at hafter
        exact ⟨call, hstands, stands_move hmove latched stays hphase stands hafter⟩
      · exact absurd hdropped here

/-- The task beside a cluster is the only one that waits for its start. -/
theorem Accounted.soleWaiter {c : Cluster} (inv : Accounted s g c) : Cluster.SoleWaiter 0 c where
  only m hm := by
    obtain ⟨call, ha, stands⟩ := inv m _ hm
    obtain rfl := stands.suits.of_awaitingReady
    cases ha
    rfl
  suits phase hphase := by
    obtain ⟨call, ha, stands⟩ := inv 0 phase hphase
    generalize hzero : (0 : Nat) = m at ha
    cases ha with
    | start => exact stands.suits
    | teardown => simp at hzero
    | stop => simp [inner] at hzero
    | mutation => simp [inner] at hzero

/-- What a move of the server does to a cluster does not drop the task beside it. -/
theorem Conveys.stays {ce : Cluster.Event} (h : Conveys s' e g ce) : ce ≠ .leave 0 := by
  rintro rfl
  nomatch h

/-- What every move of a cluster preserves, every event of the server preserves. -/
theorem cluster?_step {P : Cluster → Prop}
    (hmove : ∀ {ce : Cluster.Event} {c d : Cluster}, ce ≠ .leave 0 → Cluster.Move c ce d →
      P c → P d) {c : Cluster} (hc : s.cluster? g = some c) (h : P c) (e : Event) :
    ∃ d, (s.step e).cluster? g = some d ∧ P d := by
  refine step_preserves (P := fun s => ∃ d, s.cluster? g = some d ∧ P d) (fun move held => ?_) s
    ⟨c, hc, h⟩
  obtain ⟨b, hb, held⟩ := held
  obtain ⟨d, hd, rfl | ⟨ce, hconveys, move'⟩⟩ := move.cluster?_some hb
  · exact ⟨d, hd, held⟩
  · exact ⟨d, hd, hmove hconveys.stays move' held⟩

theorem cluster?_run {P : Cluster → Prop}
    (hmove : ∀ {ce : Cluster.Event} {c d : Cluster}, ce ≠ .leave 0 → Cluster.Move c ce d →
      P c → P d) {c : Cluster} (hc : s.cluster? g = some c) (h : P c) (events : List Event) :
    ∃ d, (s.run events).cluster? g = some d ∧ P d := by
  induction events generalizing s c with
  | nil => exact ⟨c, hc, h⟩
  | cons e rest ih =>
    obtain ⟨d, hd, held⟩ := cluster?_step hmove hc h e
    exact ih hd held

/-! ## Servers in order -/

/-- A planned cluster that is started at some time is one in the course of a run. -/
theorem start_eq_run {options : ClusterOptions} {params : StartParams} {pid : UInt32}
    {obstacle : Option IoError} {c : Cluster}
    (h : Cluster.plan options params pid obstacle = .ok c) (now : Nat) :
    { c with now := now }.start = c.run [.elapse now, .start] := by
  obtain ⟨configs, -, rfl⟩ := Cluster.plan_eq_ok h
  simp only [Cluster.run_cons, Cluster.run_nil, Cluster.step, Nat.zero_add]

/-- What holds of every planned cluster after its start holds of a cluster that has just come into
being. -/
theorem Founded.of_plan {P : Cluster → Prop} {d : Cluster} (h : Founded s s' g d)
    (hplan : ∀ {options : ClusterOptions} {params : StartParams} {pid : UInt32}
      {obstacle : Option IoError} {c : Cluster} (now : Nat),
      Cluster.plan options params pid obstacle = .ok c → P (c.run [.elapse now, .start])) : P d := by
  obtain ⟨params, c, hp, rfl⟩ := h.planned
  rw [start_eq_run hp]
  exact hplan s.now hp

/-- Nobody has called upon a cluster that has just come into being. -/
theorem Founded.uncalled {d : Cluster} (h : Founded s s' g d) (m : Nat) :
    d.callers.get? m = none :=
  h.of_plan (P := fun d => d.callers.get? m = none) fun now hp => by
    obtain ⟨configs, -, rfl⟩ := Cluster.plan_eq_ok hp
    simp only [Cluster.run_cons, Cluster.run_nil, Cluster.step, Cluster.start]
    split <;> rfl

/-- All clusters of a server are in order, and whoever calls upon them is known. -/
structure Managed (s : Server) : Prop where
  booked : ∀ g c, s.cluster? g = some c → Cluster.Booked c
  accounted : ∀ g c, s.cluster? g = some c → Accounted s g c
  -- what is known of the outcome of a start is what the cluster said
  told : ∀ g c phase result, s.cluster? g = some c → s.startup? g = some phase →
    phase.outcome? = some result → c.result? 0 = some result
  -- a cluster that did not come up is not in the slot once it has been stopped
  vacated : ∀ g cause, s.startup? g = some (.ended (.error cause)) → s.slot ≠ some g
  -- what is in the slot is one of the clusters
  held : ∀ g, s.slot = some g → ∃ c, s.cluster? g = some c

namespace Managed

theorem startup? (inv : Managed s) (hs : s.slot = some g) : ∃ phase, s.startup? g = some phase := by
  obtain ⟨c, hc⟩ := inv.held g hs
  have known := startup?_isSome s g
  rw [hc] at known
  exact Option.isSome_iff_exists.mp known

/-- Whoever stops a cluster is told what its latch has published. -/
theorem outcome?_of_result (inv : Managed s) {c : Cluster} {result : Outcome Snapshot}
    (hc : s.cluster? g = some c) (ha : Account s g m .stop) (hr : c.result? m = some result) :
    ∃ outcome, c.latch.outcome? = some outcome ∧ result = Cluster.stopResult outcome := by
  unfold Cluster.result? at hr
  split at hr
  · next hphase =>
    obtain ⟨call, hcall, stands⟩ := inv.accounted g c hc m _ hphase
    cases stands.stop (ha.stop_unique hcall) with
    | returned ho => exact ⟨_, ho, (Option.some.inj hr).symm⟩
  · simp at hr

end Managed

/-- What holds of all clusters of a server is what every planned cluster has after its start, if
every move of one cluster preserves it. -/
theorem clusters_preserve {P : Cluster → Prop} (h : Move s e s')
    (hplan : ∀ {options : ClusterOptions} {params : StartParams} {pid : UInt32}
      {obstacle : Option IoError} {c : Cluster} (now : Nat),
      Cluster.plan options params pid obstacle = .ok c → P (c.run [.elapse now, .start]))
    (hmove : ∀ {g : Nat} {ce : Cluster.Event} {c d : Cluster}, s.cluster? g = some c →
      Conveys s' e g ce → Cluster.Move c ce d → P c → P d)
    (inv : ∀ g c, s.cluster? g = some c → P c) : ∀ g d, s'.cluster? g = some d → P d := by
  intro g d hd
  cases hc : s.cluster? g with
  | none => exact (h.cluster?_new hc hd).of_plan hplan
  | some c =>
    obtain ⟨d', hd', hcd⟩ := h.cluster?_some hc
    obtain rfl := Option.some.inj (hd.symm.trans hd')
    rcases hcd with rfl | ⟨ce, hconveys, hmove'⟩
    · exact inv g _ hc
    · exact hmove hc hconveys hmove' (inv g c hc)

theorem managed_move (h : Move s e s') (inv : Managed s) : Managed s' where
  booked :=
    clusters_preserve h (fun now hp => Cluster.booked_run (Cluster.booked_of_plan hp) _)
      (fun _ _ hmove booked => Cluster.booked_move hmove booked) inv.booked
  accounted g d hd := by
    cases hc : s.cluster? g with
    | none =>
      intro m phase hphase
      simp [(h.cluster?_new hc hd).uncalled m] at hphase
    | some c =>
      obtain ⟨d', hd', hcd⟩ := h.cluster?_some hc
      obtain rfl := Option.some.inj (hd.symm.trans hd')
      exact accounted_move h hd (inv.booked g c hc).toLatched (inv.accounted g c hc) hcd
  told g d phase result hd hp hresult := by
    cases hc : s.cluster? g with
    | none =>
      have spawned := (h.cluster?_new hc hd).startup
      obtain rfl := Option.some.inj (spawned.symm.trans hp)
      simp [StartupPhase.outcome?] at hresult
    | some c =>
      obtain ⟨d', hd', hcd⟩ := h.cluster?_some hc
      obtain rfl := Option.some.inj (hd.symm.trans hd')
      have told : c.result? 0 = some result := by
        obtain ⟨before, hbefore⟩ : ∃ before, s.startup? g = some before := by
          have known := startup?_isSome s g
          rw [hc] at known
          exact Option.isSome_iff_exists.mp known
        rcases h.startup?_cases hbefore with hsame | ⟨after, hafter, hmove⟩
        · obtain rfl := Option.some.inj (hsame.symm.trans hp)
          exact inv.told g c _ result hc hbefore hresult
        · obtain rfl := Option.some.inj (hafter.symm.trans hp)
          cases hmove with
          | asks => simp [StartupPhase.outcome?] at hresult
          | succeeds hc' hr =>
            obtain rfl := Option.some.inj (hc'.symm.trans hc)
            exact hr.trans hresult
          | fails hc' hr =>
            obtain rfl := Option.some.inj (hc'.symm.trans hc)
            exact hr.trans hresult
          | ends hs => exact inv.told g c _ result hc hbefore hresult
      rcases hcd with rfl | ⟨ce, hconveys, hmove⟩
      · exact told
      · refine Cluster.result?_move hmove ?_ told
        rintro rfl
        nomatch hconveys
  vacated g cause hp hs := by
    cases hphase : s.startup? g with
    | none =>
      have absent : s.cluster? g = none :=
        (cluster?_eq_none_iff s g).mpr ((startup?_eq_none_iff s g).mp hphase)
      have known := startup?_isSome s' g
      rw [hp] at known
      obtain ⟨d, hd⟩ := Option.isSome_iff_exists.mp known.symm
      have spawned := (h.cluster?_new absent hd).startup
      simp [hp] at spawned
    | some phase =>
      rcases h.startup?_cases hphase with hsame | ⟨after, hafter, hmove⟩
      · have before : s.slot ≠ some g :=
          inv.vacated g cause (hphase.trans (hsame.symm.trans hp))
        rcases h.slot_cases with hslot | ⟨-, hslot, -⟩ | ⟨k, released⟩
        · exact before (hslot.symm.trans hs)
        · have new : s.tenancies.length = g := Option.some.inj (hslot.symm.trans hs)
          have gone := (startup?_eq_none_iff s g).mpr (Nat.le_of_eq new)
          simp [hphase] at gone
        · simp [released.after] at hs
      · obtain rfl := Option.some.inj (hafter.symm.trans hp)
        cases hmove with
        | ends hs' => exact hs' hs
  held g hs := by
    rcases h.slot_cases with hslot | ⟨-, hslot, d, hd⟩ | ⟨k, released⟩
    · obtain ⟨c, hc⟩ := inv.held g (hslot.symm.trans hs)
      obtain ⟨d, hd, -⟩ := h.cluster?_some hc
      exact ⟨d, hd⟩
    · obtain rfl : s.tenancies.length = g := Option.some.inj (hslot.symm.trans hs)
      exact ⟨d, hd⟩
    · simp [released.after] at hs

theorem managed_run (inv : Managed s) (events : List Event) : Managed (s.run events) :=
  run_preserves (fun _ _ _ _ h inv => managed_move h inv) s inv

/-- A server to which nothing has happened is in order. -/
theorem managed_init (pid : UInt32) (options : ClusterOptions) (obstacle : Option IoError) :
    Managed { pid := pid, options := options, obstacle := obstacle } := by
  constructor <;> simp [cluster?, Server.startup?]

/-- The launcher does not break down in this event. -/
def Event.isCalm : Event → Bool
  | .answer _ _ (.mishap .crashed) => false
  | _ => true

/-- If the launcher does not break down, no cluster hears that it does. -/
theorem Conveys.isCalm {ce : Cluster.Event} (h : Conveys s' e g ce) (calm : e.isCalm = true) :
    ce.isCalm = true := by
  cases h with
  | @answer w reply he =>
    subst he
    cases reply with
    | mishap why =>
      cases why with
      | crashed => simp [Event.isCalm] at calm
      | failed f => rfl
    | _ => rfl
  | _ => rfl

/-- A server for small clusters, of two nodes. -/
def pairServer : Server where
  pid := 1
  options := Cluster.pairOptions

/-- A small cluster is started under this number and becomes healthy, and the start is answered. -/
def pairUp (g : Nat) : List Event :=
  [.call 1 (.start Cluster.pairParams), .pollCall 1, .pollStartup g, .pollWorker g .starter,
    .answer g .starter .done, .pollWorker g .starter,
    .answer g .starter (.nodes Cluster.pairReports), .pollWorker g .starter, .pollStartup g,
    .pollCall 1, .leave 1]

/-- The cluster under this number is stopped, and the stop is answered. -/
def pairDown (g : Nat) : List Event :=
  [.call 2 .stop, .pollCall 2, .pollWorker g .keeper, .pollWorker g .stopper,
    .answer g .stopper .done, .pollWorker g .stopper, .pollWorker g .keeper, .pollCall 2,
    .leave 2]

end Server
end ClusterControl
