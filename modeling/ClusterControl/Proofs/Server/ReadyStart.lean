import ClusterControl.Proofs.Cluster.ReadySnapshot
import ClusterControl.Proofs.Server.OneCluster

/-!
# What a start returns that came out well

A start of the server is answered by the task beside its cluster.  That task waits for the outcome
like any other call on a cluster, and is the only one that does.  This module follows the snapshot
that a start returns back to the moment at which the task took it, and says what it was a snapshot
of.

* `Spared` — an event of the server in which the task beside a cluster does not look for the outcome.
* `spared_step` — every event is one, unless the task or its call goes on.
* `reads_of_step` — the task is told that the start came out well only by the cluster that it finds.
* `reads_of_run` — so every such outcome goes back to one event of the run.
* `reports_of_success` — the theorem: whoever waited for a start, and whoever asked the server for
  one, is told that it came out well only with a snapshot of that moment, which is complete unless
  the cluster was changed before.
* `changed_pair` — a start that came out well is reported of a cluster that has lost a node.
-/

namespace ClusterControl
namespace Cluster

variable {c d : Cluster} {n : Nat}

/-- An event in which the call under this number neither goes on nor goes away. -/
def Event.spares (n : Nat) (e : Event) : Prop :=
  e ≠ .poll (.caller n) ∧ e ≠ .leave n

theorem result?_of_spares {e : Event} (h : e.spares n) : (c.step e).result? n = c.result? n := by
  cases hn : c.result? n with
  | none => exact result?_of_step h.1 hn
  | some result => exact step_preserves (fun move => result?_move move h.2) c hn

theorem result?_of_spared {events : List Event} (h : ∀ e ∈ events, e.spares n) :
    (c.run events).result? n = c.result? n := by
  induction events generalizing c with
  | nil => rfl
  | cons e rest ih =>
    rw [run_cons, ih fun e' he' => h e' (List.mem_cons_of_mem e he'),
      result?_of_spares (h e List.mem_cons_self)]

/-- A call that comes in to wait for the start reads nothing that was not there before. -/
theorem Reads.of_call (h : Reads n (c.call n .waitReady)) : Reads n c := by
  obtain ⟨launched, unfailed, waits⟩ := h
  unfold Cluster.call at launched unfailed waits
  split at launched
  · next hphase =>
    simp only [hphase] at unfailed waits
    exact ⟨launched, unfailed, hphase ▸ waits⟩
  · next hphase =>
    simp only [hphase] at unfailed waits
    exact ⟨launched, unfailed, .inr (by simpa [setCall] using waits)⟩

end Cluster

namespace Server

variable {s s' t : Server} {g k n : Nat} {e : Event}

/-- All that happens to a cluster between two states of the server spares the call of the task beside
it. -/
def Spared (g : Nat) (s s' : Server) : Prop :=
  ∀ c, s.cluster? g = some c → ∃ events : List Cluster.Event, (∀ e ∈ events, e.spares 0) ∧
    s'.cluster? g = some (c.run events)

namespace Spared

theorem of_eq (h : s'.cluster? g = s.cluster? g) : Spared g s s' :=
  fun _ hc => ⟨[], by simp, h.trans hc⟩

theorem trans (first : Spared g s s') (second : Spared g s' t) : Spared g s t := by
  intro c hc
  obtain ⟨before, hbefore, hc'⟩ := first c hc
  obtain ⟨after, hafter, ht⟩ := second _ hc'
  refine ⟨before ++ after, fun e he => ?_, ?_⟩
  · exact (List.mem_append.mp he).elim (hbefore e) (hafter e)
  · rw [ht, Cluster.run_append]

/-- An event of one cluster. -/
theorem onCluster (ce : Cluster.Event) (h : k = g → ce.spares 0) :
    Spared g s (s.onCluster k (·.step ce)) := by
  intro c hc
  by_cases hk : g = k
  · exact ⟨[ce], by simpa using h hk.symm, by simp [hk ▸ hc, hk]⟩
  · exact ⟨[], by simp, by simp [hk, hc]⟩

end Spared

theorem spared_checkTeardown (s : Server) (g k : Nat) (cause : Failure) :
    Spared g s (s.checkTeardown k cause) := by
  have polled : Spared g s (s.onCluster k (·.poll (.caller 1))) :=
    .onCluster (.poll (.caller 1)) fun _ => ⟨by simp, by simp⟩
  unfold checkTeardown
  simp only
  split
  · exact polled.trans (.of_eq (by simp))
  · exact polled.trans (.of_eq (by simp))

/-- What the task does once it has looked for the outcome. -/
theorem spared_checkReady (s : Server) (g k : Nat) :
    Spared g (s.onCluster k (·.poll (.caller 0))) (s.checkReady k) := by
  unfold checkReady
  simp only
  split
  · exact .of_eq (by simp)
  · have asked : Spared g (s.onCluster k (·.poll (.caller 0)))
        ((s.onCluster k (·.poll (.caller 0))).onCluster k (·.call 1 .stop)) :=
      .onCluster (.call 1 .stop) fun _ => ⟨by simp, by simp⟩
    exact asked.trans (spared_checkTeardown _ g k _)
  · exact .of_eq (by simp)

theorem spared_pollStartup (h : g ≠ k) : Spared g s (s.pollStartup k) := by
  have other {t : Server} : Spared g t (t.checkReady k) :=
    (Spared.onCluster (.poll (.caller 0)) fun heq => absurd heq.symm h).trans
      (spared_checkReady t g k)
  unfold pollStartup
  split
  · have asked : Spared g s (s.onCluster k (·.call 0 .waitReady)) :=
      .onCluster (.call 0 .waitReady) fun heq => absurd heq.symm h
    exact asked.trans other
  · exact other
  · exact spared_checkTeardown s g k _
  · exact .of_eq rfl

theorem spared_checkStop (s : Server) (g n k : Nat) : Spared g s (s.checkStop n k) := by
  have polled : Spared g s (s.onCluster k (·.poll (.caller (inner n)))) :=
    .onCluster (.poll (.caller (inner n))) fun _ => ⟨by simp [inner], by simp⟩
  have left (t : Server) : Spared g t (t.onCluster k (·.leave (inner n))) :=
    .onCluster (.leave (inner n)) fun _ => ⟨by simp, by simp [inner]⟩
  unfold checkStop
  simp only
  split
  · refine polled.trans ((left _).trans (.of_eq ?_))
    split
    · exact cluster?_release ..
    · exact cluster?_release ..
  · exact polled.trans (.of_eq (by simp))

theorem spared_checkMutation (s : Server) (g n k : Nat) : Spared g s (s.checkMutation n k) := by
  have polled : Spared g s (s.onCluster k (·.poll (.caller (inner n)))) :=
    .onCluster (.poll (.caller (inner n))) fun _ => ⟨by simp [inner], by simp⟩
  have left (t : Server) : Spared g t (t.onCluster k (·.leave (inner n))) :=
    .onCluster (.leave (inner n)) fun _ => ⟨by simp, by simp [inner]⟩
  unfold checkMutation
  simp only
  split
  · exact polled.trans ((left _).trans (.of_eq (by simp)))
  · exact polled.trans (.of_eq (by simp))

theorem spared_pollCall (s : Server) (g n : Nat) : Spared g s (s.pollCall n) := by
  have started (k : Nat) : Spared g s (s.checkStart n k) := by
    unfold checkStart
    split <;> exact .of_eq (by simp)
  unfold pollCall
  split
  · next call hn =>
    cases call with
    | start params =>
      by_cases hs : s.slot.isSome = true
      · rw [beginCall_occupied params n hs]
        exact .of_eq (by simp)
      · have empty : s.slot = none := by simpa using hs
        cases hp : Cluster.plan s.options params s.pid s.obstacle with
        | error f =>
          rw [beginCall_unplanned n empty hp]
          exact .of_eq (by simp)
        | ok c =>
          rw [beginCall_planned n empty hp]
          intro b hb
          have old : g ≠ s.tenancies.length := Nat.ne_of_lt (lt_length_of_cluster? hb)
          exact ⟨[], by simp, by simp [old, hb]⟩
    | stop =>
      simp only [beginCall]
      split
      · next k hs =>
        have asked : Spared g s (s.onCluster k (·.call (inner n) .stop)) :=
          .onCluster (.call (inner n) .stop) fun _ => ⟨by simp, by simp⟩
        exact asked.trans (spared_checkStop _ g n k)
      · split <;> exact .of_eq (by simp)
    | mutate m =>
      simp only [beginCall]
      split
      · next k hs =>
        have asked : Spared g s (s.onCluster k (·.call (inner n) (.mutate m))) :=
          .onCluster (.call (inner n) (.mutate m)) fun _ => ⟨by simp, by simp⟩
        exact asked.trans (spared_checkMutation _ g n k)
      · exact .of_eq (by simp)
  · exact started _
  · exact spared_checkStop s g n _
  · exact spared_checkMutation s g n _
  · exact .of_eq rfl

theorem spared_leave (s : Server) (g n : Nat) : Spared g s (s.leave n) := by
  have left (k : Nat) : Spared g s (s.onCluster k (·.leave (inner n))) :=
    .onCluster (.leave (inner n)) fun _ => ⟨by simp, by simp [inner]⟩
  unfold leave
  simp only
  split
  · exact (left _).trans (.of_eq rfl)
  · exact (left _).trans (.of_eq rfl)
  · exact .of_eq rfl

/-- The task beside a cluster looks for the outcome only when it goes on, or when its call does. -/
theorem spared_step (htask : e ≠ .pollStartup g) (hcall : e ≠ .pollWorker g (.caller 0)) :
    Spared g s (s.step e) := by
  cases e with
  | call n call =>
    refine .of_eq ?_
    simp only [step, Server.call]
    split <;> simp
  | leave n => exact spared_leave s g n
  | pollCall n => exact spared_pollCall s g n
  | pollStartup k => exact spared_pollStartup fun heq => htask (by rw [heq])
  | pollWorker k w =>
    refine .onCluster (.poll w) fun heq => ⟨fun hw => hcall ?_, by simp⟩
    rw [heq, Cluster.Event.poll.inj hw]
  | answer k w reply => exact .onCluster (.answer w reply) fun _ => ⟨by simp, by simp⟩
  | elapse ms =>
    intro c hc
    exact ⟨[.elapse ms], by simp [Cluster.Event.spares], by simp [step, hc]⟩

/-! ## Where the outcome comes from -/

/-- What the task knows after it has looked for the outcome, its call has read. -/
theorem reads_of_checkReady {c d : Cluster} {snapshot : Snapshot} (hc : s.cluster? g = some c)
    (suits : ∀ phase, c.callers.get? 0 = some phase → phase.Suits .waitReady)
    (hn : c.result? 0 = none) (hd : (s.checkReady g).cluster? g = some d)
    (hr : d.result? 0 = some (.ok snapshot)) : Cluster.Reads 0 c ∧ snapshot = c.snapshot := by
  have looked : (s.onCluster g (·.poll (.caller 0))).cluster? g =
      some (c.step (.poll (.caller 0))) := by
    simp [hc, Cluster.step]
  obtain ⟨events, spared, hd'⟩ := spared_checkReady s g g _ looked
  obtain rfl := Option.some.inj (hd.symm.trans hd')
  rw [Cluster.result?_of_spared spared] at hr
  exact (Cluster.reads_of_result suits hn hr).2

/-- The task beside a cluster is told in an event that the start came out well only by the cluster as
it was before that event. -/
theorem reads_of_step {c d : Cluster} {snapshot : Snapshot} (accounted : Accounted s g c)
    (hc : s.cluster? g = some c) (hn : c.result? 0 = none)
    (hd : (s.step e).cluster? g = some d) (hr : d.result? 0 = some (.ok snapshot)) :
    (e = .pollStartup g ∨ e = .pollWorker g (.caller 0)) ∧ Cluster.Reads 0 c ∧
      snapshot = c.snapshot := by
  have suits := accounted.soleWaiter.suits
  have notSpared : ¬ Spared g s (s.step e) := by
    intro hspared
    obtain ⟨events, spared, hd'⟩ := hspared c hc
    obtain rfl := Option.some.inj (hd.symm.trans hd')
    simp [Cluster.result?_of_spared spared, hn] at hr
  by_cases htask : e = .pollStartup g
  · subst htask
    refine ⟨.inl rfl, ?_⟩
    have stepped : s.step (.pollStartup g) = s.pollStartup g := rfl
    rw [stepped] at hd notSpared
    unfold pollStartup at hd notSpared
    split at hd
    · -- The task asks first, and reads nothing that was not there before.
      have asked : (s.onCluster g (·.call 0 .waitReady)).cluster? g =
          some (c.call 0 .waitReady) := by
        simp [hc]
      cases hphase : c.callers.get? 0 with
      | some phase =>
        have same : c.call 0 .waitReady = c := by simp [Cluster.call, hphase]
        exact reads_of_checkReady (asked.trans (by rw [same])) suits hn hd hr
      | none =>
        have fresh : c.call 0 .waitReady = c.setCall 0 (.fresh .waitReady) := by
          simp [Cluster.call, hphase]
        obtain ⟨reads, eq⟩ := reads_of_checkReady asked
          (fun phase hp => by
            rw [fresh] at hp
            obtain rfl : .fresh .waitReady = phase := by simpa [Cluster.setCall] using hp
            exact .fresh .waitReady)
          (by simp [fresh, Cluster.result?, Cluster.setCall]) hd hr
        exact ⟨reads.of_call, eq.trans (by rw [fresh]; rfl)⟩
    · exact reads_of_checkReady hc suits hn hd hr
    · exact absurd (spared_checkTeardown s g g _) (by simpa [*] using notSpared)
    · obtain rfl := Option.some.inj (hd.symm.trans hc)
      simp [hn] at hr
  · by_cases hcall : e = .pollWorker g (.caller 0)
    · subst hcall
      have polled : (s.step (.pollWorker g (.caller 0))).cluster? g =
          some (c.step (.poll (.caller 0))) := by
        simp [step, hc, Cluster.step]
      obtain rfl := Option.some.inj (hd.symm.trans polled)
      exact ⟨.inr rfl, (Cluster.reads_of_result suits hn hr).2⟩
    · exact absurd (spared_step htask hcall) notSpared

/-- If the task beside a cluster was told in the course of a run that the start came out well, the
cluster told it so in one event. -/
theorem reads_of_run {c d : Cluster} {snapshot : Snapshot} {events : List Event} (inv : Managed s)
    (hc : s.cluster? g = some c) (hn : c.result? 0 = none)
    (hd : (s.run events).cluster? g = some d) (hr : d.result? 0 = some (.ok snapshot)) :
    ∃ before e after b, events = before ++ e :: after ∧
      (e = .pollStartup g ∨ e = .pollWorker g (.caller 0)) ∧
      (s.run before).cluster? g = some b ∧ b.result? 0 = none ∧ Cluster.Reads 0 b ∧
      snapshot = b.snapshot := by
  induction events using List.reverseRecOn generalizing d with
  | nil =>
    obtain rfl := Option.some.inj (hd.symm.trans hc)
    simp [hn] at hr
  | append_singleton events e ih =>
    obtain ⟨b, hb, -⟩ := cluster?_run (P := fun _ => True) (fun _ _ h => h) hc trivial events
    have last : s.run (events ++ [e]) = (s.run events).step e := by simp [run_append]
    rw [last] at hd
    cases hbefore : b.result? 0 with
    | none =>
      have accounted := (managed_run inv events).accounted g b hb
      obtain ⟨looks, reads, eq⟩ := reads_of_step accounted hb hbefore hd hr
      exact ⟨events, e, [], b, rfl, looks, hb, hbefore, reads, eq⟩
    | some result =>
      obtain ⟨d', hd', same⟩ := cluster?_step (P := fun d => d.result? 0 = some result)
        (fun stays move h => Cluster.result?_move move stays h) hb hbefore e
      obtain rfl := Option.some.inj (hd.symm.trans hd')
      obtain ⟨before, e', after, b', rfl, rest⟩ := ih hb (by rw [hbefore, ← same, hr])
      exact ⟨before, e', after ++ [e], b', by simp, rest⟩

/-! ## The main result -/

/-- How a server runs its clusters does not change. -/
theorem Move.options_eq (h : Move s e s') : s'.options = s.options := by
  have released (t : Server) (k : Nat) : (t.release k).options = t.options := by
    unfold release
    split <;> rfl
  cases h with
  | leaves n =>
    simp only [leave]
    split <;> rfl
  | tearsDown h hc hr => exact released s _
  | stops h hc hr => exact released _ _
  | _ => rfl

theorem options_run (s : Server) (events : List Event) : (s.run events).options = s.options :=
  run_preserves (P := fun t => t.options = s.options)
    (fun _ _ _ _ h same => h.options_eq.trans same) s rfl

/-- A start that the server reports to have come out well is reported by its cluster, in the event in
which the task beside the cluster looks for the outcome. -/
theorem started_reports (inv : Managed s) {params : StartParams} {snapshot : Snapshot}
    {later : List Event} (hn : s.calls.get? n = some (.fresh (.start params)))
    (stays : .leave n ∉ later)
    (hr : (s.run (.pollCall n :: later)).result? n = some (.ok snapshot)) :
    ∃ mid e after c, later = mid ++ e :: after ∧
      (e = .pollStartup s.tenancies.length ∨ e = .pollWorker s.tenancies.length (.caller 0)) ∧
      (s.run (.pollCall n :: mid)).cluster? s.tenancies.length = some c ∧ c.result? 0 = none ∧
      Cluster.Reports ((List.range s.options.nodeCount).map Plan.nodeName) c snapshot := by
  have managed := managed_run inv (.pollCall n :: later)
  have first : s.step (.pollCall n) = s.beginCall n (.start params) := pollCall_fresh hn
  rw [run_cons, first] at hr managed
  have refused {f : Failure} (h : s.beginCall n (.start params) =
      s.setCall n (.returned (.error f))) : False := by
    have here : (s.beginCall n (.start params)).calls.get? n = some (.returned (.error f)) := by
      rw [h]
      exact Roster.get?_set_self ..
    have returned := returned_run here stays
    simp [result?, returned] at hr
  by_cases hs : s.slot.isSome = true
  · exact (refused (beginCall_occupied params n hs)).elim
  have empty : s.slot = none := by simpa using hs
  cases hp : Cluster.plan s.options params s.pid s.obstacle with
  | error f => exact (refused (beginCall_unplanned n empty hp)).elim
  | ok c =>
    have began := beginCall_planned n empty hp
    have founded : (s.beginCall n (.start params)).cluster? s.tenancies.length =
        some (c.run [.elapse s.now, .start]) := by
      simp [began, start_eq_run hp]
    obtain ⟨planned, names, hopeful⟩ := Cluster.hopeful_of_plan hp
    have hopeful := Cluster.hopeful_run hopeful [.elapse s.now, .start]
    -- What the call returned is what the task was told, and that is the outcome of the task's call.
    have follows : FollowsStart n s.tenancies.length ((s.beginCall n (.start params)).run later) :=
      run_preserves (fun e he _ _ h inv => followsStart_move h (ne_of_mem_of_not_mem he stays) inv)
        _ (.inl (by rw [began]; exact Roster.get?_set_self ..))
    obtain ⟨d, hd, -⟩ := cluster?_run (P := fun _ => True) (fun _ _ h => h) founded trivial later
    have told : d.result? 0 = some (.ok snapshot) := by
      unfold result? at hr
      rcases follows with waits | ⟨result, returned, ended⟩
      · simp [waits] at hr
      · obtain rfl : result = .ok snapshot := by simpa [returned] using hr
        exact managed.told _ d _ _ hd ended rfl
    have untold : (c.run [.elapse s.now, .start]).result? 0 = none := by
      obtain ⟨configs, -, rfl⟩ := Cluster.plan_eq_ok hp
      simp only [Cluster.run_cons, Cluster.run_nil, Cluster.step, Cluster.start]
      split <;> rfl
    have inv' : Managed (s.beginCall n (.start params)) := first ▸ managed_run inv [.pollCall n]
    obtain ⟨mid, e, after, b, rfl, looks, hb, hnone, reads, rfl⟩ :=
      reads_of_run inv' founded untold hd told
    obtain ⟨b', hb', hopeful'⟩ := cluster?_run (P := Cluster.Hopeful planned)
      (fun _ move inv => Cluster.hopeful_move move inv) founded hopeful mid
    obtain rfl := Option.some.inj (hb.symm.trans hb')
    refine ⟨mid, e, after, b, rfl, looks, ?_, hnone, names ▸ hopeful'.reports reads⟩
    rw [run_cons, first, hb]

/-- Whoever waits for the start of a cluster, and whoever asks a server for one, is told that it came
out well only by a snapshot of the cluster at the moment when the one looked who waits, and by then
the launch is over and has not failed.  The snapshot is healthy and has all planned nodes, in launch
order and each with its URI and identifier, unless a stop took effect before, or a node was removed
in order to be changed. -/
theorem reports_of_success (options : ClusterOptions) (pid : UInt32) (obstacle : Option IoError) :
    (∀ (params : StartParams) (c : Cluster), Cluster.plan options params pid obstacle = .ok c →
      ∀ events n snapshot, Cluster.CameIn c events n .waitReady →
      (c.run events).result? n = some (.ok snapshot) →
      ∃ before after, events = before ++ .poll (.caller n) :: after ∧
        (c.run before).result? n = none ∧
        Cluster.Reports ((List.range options.nodeCount).map Plan.nodeName) (c.run before)
          snapshot) ∧
    ∀ (before later : List Event) (n : Nat) (params : StartParams) (snapshot : Snapshot),
      let s := ({ pid := pid, options := options, obstacle := obstacle } : Server)
      let g := (s.run before).tenancies.length
      (s.run before).calls.get? n = some (.fresh (.start params)) → .leave n ∉ later →
      (s.run (before ++ .pollCall n :: later)).result? n = some (.ok snapshot) →
      ∃ mid e after c, later = mid ++ e :: after ∧
        (e = .pollStartup g ∨ e = .pollWorker g (.caller 0)) ∧
        (s.run (before ++ .pollCall n :: mid)).cluster? g = some c ∧ c.result? 0 = none ∧
        Cluster.Reports ((List.range options.nodeCount).map Plan.nodeName) c snapshot := by
  refine ⟨fun params c hp events n snapshot came hr => ?_,
    fun before later n params snapshot => ?_⟩
  · obtain ⟨planned, names, hopeful⟩ := Cluster.hopeful_of_plan hp
    rw [← names]
    exact Cluster.reports_of_run hopeful came hr
  · intro s g hn stays hr
    have managed : Managed (s.run before) := managed_run (managed_init pid options obstacle) before
    have same : (s.run before).options = options := options_run s before
    rw [run_append] at hr
    obtain ⟨mid, e, after, c, rfl, looks, hc, hnone, reports⟩ := started_reports managed hn stays hr
    rw [same] at reports
    rw [← run_append] at hc
    exact ⟨mid, e, after, c, rfl, looks, hc, hnone, reports⟩

/-- The small cluster has become healthy, and a call that waits for its start has been told so. -/
def pairAwaited : List Cluster.Event :=
  Cluster.pairHealthy ++ [.call 3 .waitReady, .poll (.caller 3)]

/-- The small cluster comes up, and nothing else happens: the call that waits for its start is told of
both nodes, and so is the caller who asked a server for it. -/
theorem pair_reported :
    (∃ snapshot, (Cluster.pair.run pairAwaited).result? 3 = some (.ok snapshot) ∧
      snapshot.Complete ["node1", "node2"]) ∧
    ∃ snapshot, (pairServer.run (pairUp 0)).startup? 0 = some (.ended (.ok snapshot)) ∧
      (pairServer.run (pairUp 0).dropLast).result? 1 = some (.ok snapshot) ∧
      snapshot.Complete ["node1", "node2"] := by
  have planned : (List.range 2).map Plan.nodeName = ["node1", "node2"] := by decide
  refine ⟨?_, ?_⟩
  · obtain ⟨snapshot, hr⟩ : ∃ snapshot, (Cluster.pair.run pairAwaited).result? 3 =
        some (.ok snapshot) := ⟨_, rfl⟩
    have came : Cluster.CameIn Cluster.pair pairAwaited 3 .waitReady :=
      ⟨Cluster.pairHealthy, [.poll (.caller 3)], rfl, by decide +kernel, by decide⟩
    have unchanged : ∀ k < 8, (Cluster.pair.run (pairAwaited.take k)).AsLaunched := by
      decide +kernel
    obtain ⟨before, after, split, -, reports⟩ :=
      (reports_of_success _ _ _).1 _ _ Cluster.plan_pair pairAwaited 3 snapshot came hr
    have short : before.length < 8 := by
      have lengths : pairAwaited.length = before.length + (after.length + 1) := by
        simpa using congrArg List.length split
      have eight : pairAwaited.length = 8 := rfl
      omega
    have calm := unchanged before.length short
    rw [split, List.take_left] at calm
    exact ⟨snapshot, hr, planned ▸ reports.complete calm⟩
  · obtain ⟨snapshot, ended, hr⟩ : ∃ snapshot,
        (pairServer.run (pairUp 0)).startup? 0 = some (.ended (.ok snapshot)) ∧
          (pairServer.run (pairUp 0).dropLast).result? 1 = some (.ok snapshot) := ⟨_, rfl, rfl⟩
    have unchanged : ∀ k < 10, ∀ c ∈ (pairServer.run ((pairUp 0).take k)).cluster? 0,
        c.AsLaunched := by decide +kernel
    obtain ⟨mid, e, after, c, split, looks, hc, -, reports⟩ :=
      (reports_of_success Cluster.pairOptions 1 none).2 [.call 1 (.start Cluster.pairParams)]
        ((pairUp 0).dropLast.drop 2) 1 Cluster.pairParams snapshot (by decide) (by decide) hr
    have short : mid.length + 2 < 10 := by
      have lengths := congrArg List.length split
      rw [List.length_append, List.length_cons] at lengths
      have eight : ((pairUp 0).dropLast.drop 2).length = 8 := rfl
      omega
    have taken : (pairUp 0).take (mid.length + 2) =
        [.call 1 (.start Cluster.pairParams)] ++ .pollCall 1 :: mid := by
      have whole : pairUp 0 = [.call 1 (.start Cluster.pairParams), .pollCall 1] ++
          ((pairUp 0).dropLast.drop 2 ++ [.leave 1]) := rfl
      rw [whole, split]
      simp
    have calm := unchanged (mid.length + 2) short
    rw [taken] at calm
    exact ⟨snapshot, ended, hr, planned ▸ reports.complete (calm c hc)⟩

/-- The small cluster has come up and is stopped before the task beside it looks for the outcome: the
start is reported to have come out well, of a cluster that is stopped. -/
example :
    ((pairServer.run ((pairUp 0).take 8 ++ [.call 2 .stop, .pollCall 2, .pollWorker 0 .keeper,
      .pollWorker 0 .stopper, .answer 0 .stopper .done, .pollWorker 0 .stopper,
      .pollWorker 0 .keeper, .pollStartup 0, .pollCall 1])).result? 1).map
        (fun result => result.map Snapshot.state) = some (.ok .stopped) := by
  decide +kernel

/-- A node of the small cluster is removed, and then a call waits for the start. -/
def pairLateWait : List Cluster.Event :=
  Cluster.pairHealthy ++ ([.call 1 (.mutate (.remove "node1")), .poll (.caller 1),
    .answer (.caller 1) .done, .poll (.caller 1), .call 3 .waitReady, .poll (.caller 3)] :
      List Cluster.Event)

/-- A call waits for the start of the small cluster after one of its nodes was removed: it is told
that the start came out well, of one node. -/
theorem changed_pair :
    ∃ events snapshot, Cluster.CameIn Cluster.pair events 3 .waitReady ∧
      (Cluster.pair.run events).result? 3 = some (.ok snapshot) ∧
      snapshot.state = .healthy ∧ snapshot.names = ["node2"] := by
  have came : Cluster.CameIn Cluster.pair pairLateWait 3 .waitReady :=
    ⟨pairLateWait.take 10, [.poll (.caller 3)], rfl, by decide +kernel, by decide⟩
  obtain ⟨snapshot, hr⟩ : ∃ snapshot, (Cluster.pair.run pairLateWait).result? 3 =
      some (.ok snapshot) := ⟨_, rfl⟩
  have told : ∀ result ∈ (Cluster.pair.run pairLateWait).result? 3, ∀ snapshot ∈ result.toOption,
      snapshot.state = .healthy ∧ snapshot.names = ["node2"] := by decide +kernel
  exact ⟨pairLateWait, snapshot, came, hr, told _ hr snapshot rfl⟩

end Server
end ClusterControl
