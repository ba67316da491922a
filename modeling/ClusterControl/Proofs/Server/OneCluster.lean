import ClusterControl.Proofs.Server.Accounts

/-!
# One cluster at a time

Many starts, stops and changes of nodes may be under way at a server, on behalf of clusters of the
past too.  Still only the cluster in the slot is alive: whoever empties the slot has been told that
the cluster which was in it is stopped, and only an empty slot is filled.

* `slot_step` — the slot is emptied of a cluster only by those who stop that cluster.
* `Retired`, `retired_move` — every cluster that is not in the slot is stopped.
* `FollowsStart` — a call that waits for a start returns what the task beside the cluster knows.
* `one_cluster` — the theorem: one live cluster at most, when a start is refused, and who empties the
  slot.
* `refused_server` — a start that finds the slot empty is told that there is a cluster already,
  because its launcher said so of the health of the nodes.
-/

namespace ClusterControl
namespace Server

variable {s s' : Server} {g k m n : Nat} {e : Event}

/-! ## Who empties the slot -/

theorem slot_checkTeardown (s : Server) (g : Nat) (cause : Failure) :
    (s.checkTeardown g cause).slot = s.slot ∨
      s.slot = some g ∧ (s.checkTeardown g cause).slot = none := by
  unfold checkTeardown
  simp only
  split
  · by_cases hs : s.slot = some g
    · refine .inr ⟨hs, ?_⟩
      show ((s.onCluster g (·.poll (.caller 1))).release g).slot = none
      rw [slot_release]
      exact if_pos hs
    · refine .inl ?_
      show ((s.onCluster g (·.poll (.caller 1))).release g).slot = s.slot
      rw [slot_release]
      exact if_neg hs
  · exact .inl rfl

theorem slot_checkReady (s : Server) (g : Nat) :
    (s.checkReady g).slot = s.slot ∨ s.slot = some g ∧ (s.checkReady g).slot = none := by
  unfold checkReady
  simp only
  split
  · exact .inl rfl
  · exact slot_checkTeardown _ g _
  · exact .inl rfl

theorem slot_pollStartup (s : Server) (g : Nat) :
    (s.pollStartup g).slot = s.slot ∨ s.slot = some g ∧ (s.pollStartup g).slot = none := by
  unfold pollStartup
  split
  · exact slot_checkReady _ g
  · exact slot_checkReady s g
  · exact slot_checkTeardown s g _
  · exact .inl rfl

theorem slot_checkStart (s : Server) (n g : Nat) : (s.checkStart n g).slot = s.slot := by
  unfold checkStart
  split <;> rfl

theorem slot_checkStop (s : Server) (n g : Nat) :
    (s.checkStop n g).slot = s.slot ∨ s.slot = some g ∧ (s.checkStop n g).slot = none := by
  have released (t : Server) (ht : t.slot = s.slot) :
      (t.release g).slot = s.slot ∨ s.slot = some g ∧ (t.release g).slot = none := by
    rw [slot_release, ht]
    by_cases hs : s.slot = some g
    · exact .inr ⟨hs, if_pos hs⟩
    · exact .inl (if_neg hs)
  unfold checkStop
  simp only
  split
  · next result hr =>
    cases result with
    | ok snapshot => exact released _ rfl
    | error f => exact released _ rfl
  · exact .inl rfl

theorem slot_checkMutation (s : Server) (n g : Nat) : (s.checkMutation n g).slot = s.slot := by
  unfold checkMutation
  simp only
  split <;> rfl

/-- A call on account of which the slot may be emptied of a cluster. -/
def Stops (s : Server) (n g : Nat) : Prop :=
  s.calls.get? n = some (.stopping g) ∨ s.calls.get? n = some (.fresh .stop)

theorem slot_pollCall (hs : s.slot = some g) :
    (s.pollCall n).slot = some g ∨ Stops s n g ∧ (s.pollCall n).slot = none := by
  unfold pollCall
  split
  · next call hn =>
    cases call with
    | start params =>
      rw [beginCall_occupied params n (by rw [hs]; rfl)]
      exact .inl hs
    | stop =>
      simp only [beginCall, hs]
      rcases slot_checkStop (s.onCluster g (·.call (inner n) .stop)) n g with hsame | ⟨-, hnone⟩
      · exact .inl (hsame.trans hs)
      · exact .inr ⟨.inr hn, hnone⟩
    | mutate m =>
      simp only [beginCall, hs]
      exact .inl ((slot_checkMutation _ n g).trans hs)
  · exact .inl ((slot_checkStart s n _).trans hs)
  · next k hn =>
    rcases slot_checkStop s n k with hsame | ⟨hk, hnone⟩
    · exact .inl (hsame.trans hs)
    · obtain rfl : g = k := Option.some.inj (hs.symm.trans hk)
      exact .inr ⟨.inl hn, hnone⟩
  · exact .inl ((slot_checkMutation s n _).trans hs)
  · exact .inl hs

/-- The slot is emptied of a cluster by the task beside that cluster or by a call that stops that
cluster, and by nobody else. -/
theorem slot_step (hs : s.slot = some g) (hs' : (s.step e).slot ≠ some g) :
    (s.step e).slot = none ∧ (e = .pollStartup g ∨ ∃ n, e = .pollCall n ∧ Stops s n g) := by
  cases e with
  | pollStartup k =>
    rcases slot_pollStartup s k with hsame | ⟨hk, hnone⟩
    · exact absurd (hsame.trans hs) hs'
    · obtain rfl : g = k := Option.some.inj (hs.symm.trans hk)
      exact ⟨hnone, .inl rfl⟩
  | pollCall n =>
    rcases slot_pollCall (n := n) hs with hsame | ⟨hstops, hnone⟩
    · exact absurd hsame hs'
    · exact ⟨hnone, .inr ⟨n, rfl, hstops⟩⟩
  | call n call =>
    have kept : (s.call n call).slot = s.slot := by
      unfold Server.call
      split <;> rfl
    exact absurd (kept.trans hs) hs'
  | leave n => exact absurd ((slot_leave s n).trans hs) hs'
  | pollWorker k w => exact absurd hs hs'
  | answer k w reply => exact absurd hs hs'
  | elapse ms => exact absurd hs hs'

/-! ## Clusters of the past -/

/-- The launcher has not broken down over the shutdown of any cluster, and every cluster that is not
in the slot is stopped. -/
structure Retired (s : Server) : Prop extends Managed s where
  unbroken : ∀ g c, s.cluster? g = some c → Cluster.Unbroken c
  stopped : ∀ g c, s.cluster? g = some c → s.slot ≠ some g → c.registry.state = .stopped

/-- Whoever has stopped a cluster is told so only when it is stopped. -/
theorem Retired.stopped_of_result (inv : Retired s) {c : Cluster} {result : Outcome Snapshot}
    (hc : s.cluster? g = some c) (ha : Account s g m .stop) (hr : c.result? m = some result) :
    c.registry.state = .stopped := by
  have booked := inv.booked g c hc
  obtain ⟨outcome, ho, -⟩ := inv.outcome?_of_result hc ha hr
  cases outcome with
  | none =>
    have crashed := booked.crashed_of_outcome? ho
    exact absurd crashed (inv.unbroken g c hc).1
  | some outcome =>
    have returned := booked.action_of_outcome? ho
    have ended := booked.ended_iff.mp ⟨outcome, returned⟩
    exact booked.stopper_ended_iff.mp ended

theorem retired_move (h : Move s e s') (calm : e.isCalm = true) (inv : Retired s) :
    Retired s' where
  toManaged := managed_move h inv.toManaged
  unbroken :=
    clusters_preserve h
      (fun now hp => by
        obtain ⟨configs, -, rfl⟩ := Cluster.plan_eq_ok hp
        refine Cluster.unbroken_run ?_ ?_
        · simp [Cluster.Unbroken]
        · simp [Cluster.Event.isCalm])
      (fun _ hconveys hmove unbroken =>
        Cluster.unbroken_move hmove (hconveys.isCalm calm) unbroken) inv.unbroken
  stopped g d hd hs' := by
    cases hc : s.cluster? g with
    | none => exact absurd (h.cluster?_new hc hd).slot hs'
    | some c =>
      have before : c.registry.state = .stopped := by
        by_cases hs : s.slot = some g
        · rcases h.slot_cases with hsame | ⟨hempty, -, -⟩ | ⟨k, released⟩
          · exact absurd (hsame.trans hs) hs'
          · simp [hs] at hempty
          · obtain rfl : g = k := Option.some.inj (hs.symm.trans released.before)
            obtain ⟨c', m, result, hc', ha, hr⟩ := released.told
            obtain rfl := Option.some.inj (hc'.symm.trans hc)
            exact inv.stopped_of_result hc ha hr
        · exact inv.stopped g c hc hs
      obtain ⟨d', hd', hcd⟩ := h.cluster?_some hc
      obtain rfl := Option.some.inj (hd.symm.trans hd')
      rcases hcd with rfl | ⟨ce, -, hmove⟩
      · exact before
      · rw [Cluster.registry_of_stopped hmove (inv.booked g c hc).toOrderly before]
        exact before

theorem retired_run (inv : Retired s) {events : List Event}
    (calm : ∀ e ∈ events, e.isCalm = true) : Retired (s.run events) :=
  run_preserves (fun e he _ _ h inv => retired_move h (calm e he) inv) s inv

theorem retired_init (pid : UInt32) (options : ClusterOptions) (obstacle : Option IoError) :
    Retired { pid := pid, options := options, obstacle := obstacle } where
  toManaged := managed_init pid options obstacle
  unbroken := by simp [cluster?]
  stopped := by simp [cluster?]

/-! ## What a start returns -/

/-- What a call returned stays so, as long as its caller does. -/
theorem returned_run {result : Outcome Snapshot} {events : List Event}
    (hn : s.calls.get? n = some (.returned result)) (stays : .leave n ∉ events) :
    (s.run events).calls.get? n = some (.returned result) :=
  run_preserves (P := fun s => s.calls.get? n = some (.returned result))
    (fun e he _ _ h hn => by
      rcases h.call_cases hn (ne_of_mem_of_not_mem he stays) with hsame | ⟨-, after, -, hmove⟩
      · exact hsame
      · nomatch hmove) s hn

/-- A call waits for the start of a cluster, or has returned what the task beside it knows. -/
def FollowsStart (n g : Nat) (s : Server) : Prop :=
  s.calls.get? n = some (.starting g) ∨
    ∃ result, s.calls.get? n = some (.returned result) ∧ s.startup? g = some (.ended result)

theorem followsStart_move (h : Move s e s') (he : e ≠ .leave n) (inv : FollowsStart n g s) :
    FollowsStart n g s' := by
  have ended {result : Outcome Snapshot} (hr : s.startup? g = some (.ended result)) :
      s'.startup? g = some (.ended result) := by
    rcases h.startup?_cases hr with hsame | ⟨after, -, hmove⟩
    · exact hsame
    · nomatch hmove
  rcases inv with hwaits | ⟨result, hreturned, hr⟩
  · rcases h.call_cases hwaits he with hsame | ⟨-, after, hafter, hmove⟩
    · exact .inl hsame
    · cases hmove with
      | reports hr => exact .inr ⟨_, hafter, ended hr⟩
  · rcases h.call_cases hreturned he with hsame | ⟨-, after, -, hmove⟩
    · exact .inr ⟨result, hsame, ended hr⟩
    · nomatch hmove

theorem justified_clusters_move (h : Move s e s') (managed : Managed s)
    (inv : ∀ g c, s.cluster? g = some c → Cluster.Justified 0 c) :
    ∀ g d, s'.cluster? g = some d → Cluster.Justified 0 d :=
  clusters_preserve h (fun now hp => Cluster.justified_of_plan hp now)
    (fun hc hconveys hmove justified =>
      Cluster.justified_move hmove (managed.accounted _ _ hc).soleWaiter hconveys.stays
        justified) inv

/-- A server in order, whose clusters fail for a cause only. -/
structure Accountable (s : Server) : Prop extends Managed s where
  justified : ∀ g c, s.cluster? g = some c → Cluster.Justified 0 c

theorem accountable_run (inv : Accountable s) (events : List Event) :
    Accountable (s.run events) :=
  run_preserves (P := Accountable) (fun _ _ _ _ h inv =>
    ⟨managed_move h inv.toManaged, justified_clusters_move h inv.toManaged inv.justified⟩) s inv

theorem accountable_init (pid : UInt32) (options : ClusterOptions) (obstacle : Option IoError) :
    Accountable { pid := pid, options := options, obstacle := obstacle } where
  toManaged := managed_init pid options obstacle
  justified := by simp [cluster?]

/-- The failure that a start returns has a cause that the cluster's journal tells of. -/
theorem FollowsStart.blamed {f : Failure} (follows : FollowsStart n g s) (inv : Accountable s)
    (hr : s.result? n = some (.error f)) :
    ∃ c, s.cluster? g = some c ∧ Cluster.Blamed c.journal f := by
  unfold result? at hr
  rcases follows with hwaits | ⟨result, hreturned, hended⟩
  · simp [hwaits] at hr
  · obtain rfl : result = .error f := by simpa [hreturned] using hr
    have known := startup?_isSome s g
    rw [hended] at known
    obtain ⟨c, hc⟩ := Option.isSome_iff_exists.mp known.symm
    have told := inv.told g c _ _ hc hended rfl
    exact ⟨c, hc, (inv.justified g c hc).result f told⟩

/-- A start that finds the slot empty is told that there is a cluster already only if the launcher
said so of the health of the nodes. -/
theorem alreadyExists_of_empty (inv : Accountable s) {params : StartParams}
    (hn : s.calls.get? n = some (.fresh (.start params))) (hs : s.slot = none)
    {later : List Event} (stays : .leave n ∉ later)
    (hr : (s.run (.pollCall n :: later)).result? n = some (.error .alreadyExists)) :
    ∃ c, (s.run (.pollCall n :: later)).cluster? s.tenancies.length = some c ∧
      .answered .starter .waitHealthy (.mishap (.failed .alreadyExists)) ∈ c.journal := by
  have inv' := accountable_run inv (.pollCall n :: later)
  have first : s.step (.pollCall n) = s.beginCall n (.start params) := pollCall_fresh hn
  cases hp : Cluster.plan s.options params s.pid s.obstacle with
  | error f =>
    obtain ⟨cause, rfl⟩ := Cluster.plan_eq_error hp
    have returned : (s.step (.pollCall n)).calls.get? n =
        some (.returned (.error (.config cause))) := by
      rw [first, beginCall_unplanned n hs hp]
      exact Roster.get?_set_self ..
    have still := returned_run returned stays
    rw [run_cons, result?, still] at hr
    simp at hr
  | ok c =>
    have waits : FollowsStart n s.tenancies.length (s.step (.pollCall n)) := by
      rw [first, beginCall_planned n hs hp]
      exact .inl (Roster.get?_set_self ..)
    have follows : FollowsStart n s.tenancies.length (s.run (.pollCall n :: later)) :=
      run_preserves (P := FollowsStart n s.tenancies.length)
        (fun e he _ _ h inv => followsStart_move h (ne_of_mem_of_not_mem he stays) inv)
        (s.step (.pollCall n)) waits
    obtain ⟨d, hd, blamed⟩ := follows.blamed inv' hr
    rcases blamed with hown | hentry
    · simp [Failure.isOwn] at hown
    · exact ⟨d, hd, hentry⟩

/-! ## The main result -/

/-- In every run of a server whose launcher does not break down, the clusters that are not in the
slot are stopped, and whatever was launched for them has been shut down once, and the shutdown is
over.  A start that finds a cluster in the slot when it begins is told that there is one already; a
start that finds none is told so only if its launcher said so of the health of the nodes.  A start
whose parameters make no cluster leaves the slot empty, and adds no cluster.  Whatever empties the
slot of a cluster is done on account of that cluster, which is stopped by then. -/
theorem one_cluster {pid : UInt32} {options : ClusterOptions} {obstacle : Option IoError}
    {events : List Event} (calm : ∀ e ∈ events, e.isCalm = true) :
    let s := ({ pid := pid, options := options, obstacle := obstacle } : Server).run events
    (∀ g c, s.cluster? g = some c → s.slot ≠ some g →
      c.registry.state = .stopped ∧ c.journal.shutdowns = c.journal.launched.toNat ∧
        c.journal.shutdownsOver = c.journal.launched.toNat) ∧
    (∀ n params later, s.calls.get? n = some (.fresh (.start params)) → .leave n ∉ later →
      (s.slot.isSome = true →
        (s.run (.pollCall n :: later)).result? n = some (.error .alreadyExists)) ∧
      (s.slot = none →
        (s.run (.pollCall n :: later)).result? n = some (.error .alreadyExists) →
        ∃ c, (s.run (.pollCall n :: later)).cluster? s.tenancies.length = some c ∧
          .answered .starter .waitHealthy (.mishap (.failed .alreadyExists)) ∈ c.journal)) ∧
    (∀ n params f, s.calls.get? n = some (.fresh (.start params)) → s.slot = none →
      Cluster.plan s.options params s.pid s.obstacle = .error f →
      (s.step (.pollCall n)).slot = none ∧ (s.step (.pollCall n)).tenancies = s.tenancies ∧
        (s.step (.pollCall n)).result? n = some (.error f)) ∧
    ∀ e g, e.isCalm = true → s.slot = some g → (s.step e).slot ≠ some g →
      (s.step e).slot = none ∧ (e = .pollStartup g ∨ ∃ n, e = .pollCall n ∧ Stops s n g) ∧
        ∃ c, (s.step e).cluster? g = some c ∧ c.registry.state = .stopped := by
  intro s
  have retired : Retired s := retired_run (retired_init pid options obstacle) calm
  have accountable : Accountable s := accountable_run (accountable_init pid options obstacle) events
  refine ⟨fun g c hc hs => ?_, fun n params later hn stays => ⟨fun hs => ?_, fun hs hr => ?_⟩,
    fun n params f hn hs hp => ?_, fun e g he hs hs' => ?_⟩
  · have booked := retired.booked g c hc
    have stopped := retired.stopped g c hc hs
    exact ⟨stopped, Cluster.shutdowns_of_ended booked (booked.stopper_ended_iff.mpr stopped)⟩
  · have returned : (s.step (.pollCall n)).calls.get? n =
        some (.returned (.error .alreadyExists)) := by
      show (s.pollCall n).calls.get? n = _
      rw [pollCall_fresh hn, beginCall_occupied params n hs]
      exact Roster.get?_set_self ..
    have still := returned_run returned stays
    rw [run_cons, result?, still]
  · exact alreadyExists_of_empty accountable hn hs stays hr
  · have first : s.step (.pollCall n) = s.setCall n (.returned (.error f)) := by
      show s.pollCall n = _
      rw [pollCall_fresh hn, beginCall_unplanned n hs hp]
    rw [first]
    exact ⟨hs, rfl, by simp [result?, setCall]⟩
  · obtain ⟨hnone, hwho⟩ := slot_step hs hs'
    have next : Retired (s.step e) :=
      step_preserves (fun h inv => retired_move h he inv) s retired
    obtain ⟨c, hc⟩ := retired.held g hs
    have there : ∃ d, (s.step e).cluster? g = some d :=
      step_preserves (P := fun t => ∃ d, t.cluster? g = some d)
        (fun h hd => by
          obtain ⟨d, hd⟩ := hd
          obtain ⟨d', hd', -⟩ := h.cluster?_some hd
          exact ⟨d', hd'⟩) s ⟨c, hc⟩
    obtain ⟨d, hd⟩ := there
    exact ⟨hnone, hwho, d, hd, next.stopped g d hd hs'⟩

/-- One small cluster is up after another one was stopped: the first one was shut down once. -/
theorem pair_shut_down :
    let events := pairUp 0 ++ pairDown 0 ++ pairUp 1
    (pairServer.run events).slot = some 1 ∧
      ∃ c, (pairServer.run events).cluster? 0 = some c ∧ c.registry.state = .stopped ∧
        c.journal.shutdowns = 1 ∧ c.journal.shutdownsOver = 1 := by
  intro events
  have calm : ∀ e ∈ events, e.isCalm = true := by decide
  have slot : (pairServer.run events).slot = some 1 := by decide
  obtain ⟨c, hc, launched⟩ : ∃ c, (pairServer.run events).cluster? 0 = some c ∧
      c.journal.launched = true := ⟨_, rfl, by decide⟩
  have elsewhere : (pairServer.run events).slot ≠ some 0 := by simp [slot]
  obtain ⟨past, -⟩ := one_cluster calm
  obtain ⟨stopped, shut, settled⟩ := past 0 c hc elsewhere
  rw [launched] at shut settled
  exact ⟨slot, c, hc, stopped, shut, settled⟩

/-- The slot is empty when a start begins, and still the start is told that there is a cluster
already: these are the words of its launcher. -/
theorem refused_server :
    ∃ before after, (∀ e ∈ before ++ .pollCall 1 :: after, e.isCalm = true) ∧
      (pairServer.run before).calls.get? 1 = some (.fresh (.start Cluster.pairParams)) ∧
      (pairServer.run before).slot = none ∧ .leave 1 ∉ after ∧
      (pairServer.run (before ++ .pollCall 1 :: after)).result? 1 =
        some (.error .alreadyExists) := by
  refine ⟨[.call 1 (.start Cluster.pairParams)],
    [.pollStartup 0, .pollWorker 0 .starter, .answer 0 .starter .done, .pollWorker 0 .starter,
      .answer 0 .starter (.mishap (.failed .alreadyExists)), .pollWorker 0 .starter,
      .pollStartup 0, .pollWorker 0 .keeper, .pollWorker 0 .stopper, .answer 0 .stopper .done,
      .pollWorker 0 .stopper, .pollWorker 0 .keeper, .pollStartup 0, .pollCall 1],
    by decide, by decide, by decide, by decide, by decide⟩

end Server
end ClusterControl
