import ClusterControl.Proofs.Server.FreeSlot
import ClusterControl.Proofs.Server.OneCluster

/-!
# The cluster that was stopped last

A stop that finds no cluster is told what the server remembers, and the server remembers what the
stop that was answered last has told its caller.  This module says when that is the last snapshot of
the cluster that was stopped last: whenever no shutdown fails, no caller of a stop goes away before
it is answered, and none looks after its answer only when a later cluster is stopped already.

* `Final` — what came out of a stop that went well is the last snapshot of its cluster.
* `Past`, `past_run` — clusters come one after the other: one that is not in the slot is stopped, or
  the launcher has broken down over its shutdown.
* `Sought`, `StoppedLast` — which clusters were to be stopped by a call, and which of them was stopped
  last.
* `Seeks.checkStop_cases` — what a stop that goes on leaves behind.
* `Recollects`, `recollects_run` — what the server remembers after a run.
* `recalls_last_stopped` — the theorem.
* `forgotten_server` — a stop is told of no cluster where a shutdown has failed.  Examples show what
  it is told where one of the other conditions fails.
-/

namespace ClusterControl
namespace Cluster

variable {c d : Cluster}

/-- What came out of a stop that went well is the last snapshot of the cluster. -/
def Final (c : Cluster) : Prop :=
  ∀ snapshot, c.latch.action = .returned (.ok snapshot) → snapshot = c.snapshot

/-- A stop that has come out keeps to how it has come out. -/
theorem returned_move {e : Event} {outcome : StopOutcome} (h : Move c e d) (latched : Latched c)
    (ho : c.latch.action = .returned outcome) : d.latch.action = .returned outcome := by
  have ended : c.stopper = .ended := latched.ended_iff.mp ⟨outcome, ho⟩
  by_cases he : e = .poll .stopper
  · subst he
    cases h with
    | stopper h =>
      cases h with
      | ends hends => cases hends <;> simp_all
      | _ => simp_all
  · rw [action_of_ne h latched (by simp [ended]) he, ho]

/-- A stop that broke down stays so. -/
theorem stopper_crashed_move {e : Event} (h : Move c e d) (hs : c.stopper = .crashed) :
    d.stopper = .crashed := by
  by_cases he : e = .poll .stopper
  · subst he
    cases h with
    | stopper h =>
      cases h with
      | ends hends => cases hends <;> simp_all
      | _ => simp_all
  · rcases stopper_of_ne h he with hsame | ⟨reply, -, htake⟩
    · rw [hsame, hs]
    · rw [htake, StopPhase.take_eq_crashed_iff, hs]

theorem final_stopper (latched : Latched c) (final : Final c) (h : StopperMove c d) :
    Final d := by
  intro snapshot ho
  cases h with
  | begins h ha => simp [Latch.begin, ha] at ho
  | @ends prior failures hends =>
    have hprior : c.stopper.prior? = some prior := by cases hends <;> simp [*, StopPhase.prior?]
    have running : c.latch.action = .running := latched.running_iff.mpr (by rw [hprior]; rfl)
    simp only [stopEnded, Latch.finish, running, ActionPhase.returned.injEq] at ho
    split at ho
    · exact (Except.ok.inj ho).symm
    · simp at ho
  | crashes h =>
    have running : c.latch.action = .running := latched.running_iff.mpr (by rw [h]; rfl)
    simp [Latch.finish, running] at ho
  | _ => exact final snapshot ho

theorem final_move {e : Event} (h : Move c e d) (inv : Booked c) (final : Final c) : Final d := by
  by_cases he : e = .poll .stopper
  · subst he
    cases h with
    | stopper h => exact final_stopper inv.toLatched final h
  · intro snapshot ho
    by_cases hs : c.stopper = .unborn
    · -- A stop that has not begun does not come out.
      have unborn : d.stopper = .unborn := by
        rcases stopper_of_ne h he with hsame | ⟨reply, -, htake⟩
        · rw [hsame, hs]
        · rw [htake, StopPhase.take_eq_unborn_iff, hs]
      have early := (latched_move h inv.toLatched).unborn_iff.mp unborn
      simp [ho] at early
    · rw [action_of_ne h inv.toLatched hs he] at ho
      have stopped := inv.stopper_ended_iff.mp (inv.ended_iff.mp ⟨_, ho⟩)
      rw [snapshot_of_stopped h inv.toOrderly stopped]
      exact final snapshot ho

/-- The stop is over, and there is no snapshot for its callers. -/
def EndedBadly (c : Cluster) : Prop :=
  c.stopper = .crashed ∨ ∃ message, c.latch.action = .returned (.error message)

theorem endedBadly_move {e : Event} (h : Move c e d) (latched : Latched c)
    (bad : EndedBadly c) : EndedBadly d := by
  rcases bad with hs | ⟨message, ho⟩
  · exact .inl (stopper_crashed_move h hs)
  · exact .inr ⟨message, returned_move h latched ho⟩

end Cluster

namespace Server

variable {s s' : Server} {g k m n : Nat} {e : Event}

/-! ## One cluster after the other -/

/-- Clusters come one after the other: the one in the slot is the newest, and the others are stopped,
unless the launcher has broken down over their shutdown. -/
structure Past (s : Server) : Prop extends Managed s where
  final : ∀ g c, s.cluster? g = some c → Cluster.Final c
  settled : ∀ g c, s.cluster? g = some c → s.slot ≠ some g →
    c.registry.state = .stopped ∨ c.stopper = .crashed
  newest : ∀ g, s.slot = some g → g + 1 = s.tenancies.length

/-- Whoever has stopped a cluster is told its last snapshot, unless the stop has ended badly. -/
theorem Past.cases_of_result (inv : Past s) {c : Cluster} {result : Outcome Snapshot}
    (hc : s.cluster? g = some c) (ha : Account s g m .stop) (hr : c.result? m = some result) :
    (c.registry.state = .stopped ∧ result = .ok c.snapshot) ∨
      Cluster.EndedBadly c ∧ ∃ f, result = .error f := by
  have booked := inv.booked g c hc
  obtain ⟨outcome, ho, rfl⟩ := inv.outcome?_of_result hc ha hr
  match outcome, ho with
  | none, ho => exact .inr ⟨.inl (booked.crashed_of_outcome? ho), _, rfl⟩
  | some (.error message), ho =>
    exact .inr ⟨.inr ⟨message, booked.action_of_outcome? ho⟩, _, rfl⟩
  | some (.ok snapshot), ho =>
    have returned := booked.action_of_outcome? ho
    have stopped := booked.stopper_ended_iff.mp (booked.ended_iff.mp ⟨_, returned⟩)
    rw [inv.final g c hc snapshot returned]
    exact .inl ⟨stopped, rfl⟩

/-- As long as the slot is not filled, no cluster is added. -/
theorem Move.length_eq (h : Move s e s') (hs : s.slot ≠ none ∨ s'.slot = s.slot) :
    s'.tenancies.length = s.tenancies.length := by
  have kept : s.tenancies.length ≤ s'.tenancies.length := by
    by_contra hlt
    cases hc : s.cluster? s'.tenancies.length with
    | none => exact absurd ((cluster?_eq_none_iff s _).mp hc) (by omega)
    | some c =>
      obtain ⟨d, hd, -⟩ := h.cluster?_some hc
      exact absurd (lt_length_of_cluster? hd) (by omega)
  have absent : s.cluster? s.tenancies.length = none := (cluster?_eq_none_iff s _).mpr le_rfl
  cases hd : s'.cluster? s.tenancies.length with
  | none => exact Nat.le_antisymm ((cluster?_eq_none_iff s' _).mp hd) kept
  | some d =>
    have founded := h.cluster?_new absent hd
    rcases hs with hfull | hsame
    · exact absurd founded.empty hfull
    · have filled := founded.slot
      simp [hsame, founded.empty] at filled

theorem newest_move (h : Move s e s') (inv : ∀ g, s.slot = some g → g + 1 = s.tenancies.length)
    (hs' : s'.slot = some g) : g + 1 = s'.tenancies.length := by
  rcases h.slot_cases with hslot | ⟨hempty, hslot, d, hd⟩ | ⟨k, released⟩
  · rw [h.length_eq (.inr hslot)]
    exact inv g (hslot.symm.trans hs')
  · obtain rfl : s.tenancies.length = g := Option.some.inj (hslot.symm.trans hs')
    have there := lt_length_of_cluster? hd
    cases hnext : s'.cluster? (s.tenancies.length + 1) with
    | none =>
      have bounded := (cluster?_eq_none_iff s' _).mp hnext
      omega
    | some d' =>
      have absent : s.cluster? (s.tenancies.length + 1) = none :=
        (cluster?_eq_none_iff s _).mpr (by omega)
      have other := (h.cluster?_new absent hnext).slot
      simp [hslot] at other
  · simp [released.after] at hs'

theorem past_move (h : Move s e s') (inv : Past s) : Past s' where
  toManaged := managed_move h inv.toManaged
  final :=
    clusters_preserve h
      (fun now hp => by
        obtain ⟨configs, -, rfl⟩ := Cluster.plan_eq_ok hp
        intro snapshot ho
        simp only [Cluster.run_cons, Cluster.run_nil, Cluster.step, Cluster.start] at ho
        split at ho <;> simp at ho)
      (fun hc _ hmove final => Cluster.final_move hmove (inv.booked _ _ hc) final) inv.final
  settled g d hd hs' := by
    cases hc : s.cluster? g with
    | none => exact absurd (h.cluster?_new hc hd).slot hs'
    | some c =>
      have before : c.registry.state = .stopped ∨ c.stopper = .crashed := by
        by_cases hs : s.slot = some g
        · rcases h.slot_cases with hsame | ⟨hempty, -, -⟩ | ⟨k, released⟩
          · exact absurd (hsame.trans hs) hs'
          · simp [hs] at hempty
          · obtain rfl : g = k := Option.some.inj (hs.symm.trans released.before)
            obtain ⟨c', m, result, hc', ha, hr⟩ := released.told
            obtain rfl := Option.some.inj (hc'.symm.trans hc)
            have booked := inv.booked g c' hc
            rcases inv.cases_of_result hc ha hr with ⟨stopped, -⟩ | ⟨hcrashed | ⟨message, ho⟩, -⟩
            · exact .inl stopped
            · exact .inr hcrashed
            · exact .inl (booked.stopper_ended_iff.mp (booked.ended_iff.mp ⟨_, ho⟩))
        · exact inv.settled g c hc hs
      obtain ⟨d', hd', hcd⟩ := h.cluster?_some hc
      obtain rfl := Option.some.inj (hd.symm.trans hd')
      rcases hcd with rfl | ⟨ce, -, hmove⟩
      · exact before
      · rcases before with stopped | crashed
        · refine .inl ?_
          rw [Cluster.registry_of_stopped hmove (inv.booked g c hc).toOrderly stopped, stopped]
        · exact .inr (Cluster.stopper_crashed_move hmove crashed)
  newest g hs' := newest_move h inv.newest hs'

theorem past_init (pid : UInt32) (options : ClusterOptions) (obstacle : Option IoError) :
    Past { pid := pid, options := options, obstacle := obstacle } where
  toManaged := managed_init pid options obstacle
  final := by simp [cluster?]
  settled := by simp [cluster?]
  newest := by simp

theorem past_step (inv : Past s) (e : Event) : Past (s.step e) :=
  step_preserves (fun h inv => past_move h inv) s inv

theorem past_run (inv : Past s) (events : List Event) : Past (s.run events) :=
  run_preserves (fun _ _ _ _ h inv => past_move h inv) s inv

/-- The cluster under this number is stopped. -/
def HasStopped (s : Server) (g : Nat) : Prop :=
  ∃ c, s.cluster? g = some c ∧ c.registry.state = .stopped

instance (s : Server) (g : Nat) : Decidable (HasStopped s g) :=
  decidable_of_iff ((s.cluster? g).any (·.registry.state = .stopped) = true) (by
    simp [HasStopped, Option.any_eq_true])

/-- What every move of a cluster in order preserves, every event of the server preserves. -/
theorem Past.cluster_step {P : Cluster → Prop} (inv : Past s)
    (hmove : ∀ {ce : Cluster.Event} {c d : Cluster}, Cluster.Move c ce d → Cluster.Booked c →
      P c → P d)
    {c : Cluster} (hc : s.cluster? g = some c) (h : P c) (e : Event) :
    ∃ d, (s.step e).cluster? g = some d ∧ P d := by
  obtain ⟨d, hd, -, held⟩ := cluster?_step (P := fun c => Cluster.Booked c ∧ P c)
    (fun _ move both => ⟨Cluster.booked_move move both.1, hmove move both.1 both.2⟩) hc
    ⟨inv.booked g c hc, h⟩ e
  exact ⟨d, hd, held⟩

/-- A stopped cluster keeps its last snapshot. -/
theorem Past.stopped_step (inv : Past s) {c : Cluster} (hc : s.cluster? g = some c)
    (hstopped : c.registry.state = .stopped) (e : Event) :
    ∃ d, (s.step e).cluster? g = some d ∧ d.registry.state = .stopped ∧
      d.snapshot = c.snapshot :=
  inv.cluster_step (P := fun d => d.registry.state = .stopped ∧ d.snapshot = c.snapshot)
    (fun move booked both => by
      refine ⟨?_, (Cluster.snapshot_of_stopped move booked.toOrderly both.1).trans both.2⟩
      rw [Cluster.registry_of_stopped move booked.toOrderly both.1, both.1])
    hc ⟨hstopped, rfl⟩ e

theorem Past.endedBadly_step (inv : Past s) {c : Cluster} (hc : s.cluster? g = some c)
    (bad : Cluster.EndedBadly c) (e : Event) :
    ∃ d, (s.step e).cluster? g = some d ∧ Cluster.EndedBadly d :=
  inv.cluster_step (fun move booked bad => Cluster.endedBadly_move move booked.toLatched bad)
    hc bad e

/-! ## What a stop leaves behind -/

/-- A call that stops this cluster when it goes on. -/
def Seeks (s : Server) (n g : Nat) : Prop :=
  s.calls.get? n = some (.stopping g) ∨ s.calls.get? n = some (.fresh .stop) ∧ s.slot = some g

/-- The server remembers the last snapshot of this cluster, which is stopped. -/
def Remembers (s : Server) (g : Nat) : Prop :=
  ∃ c, s.cluster? g = some c ∧ c.registry.state = .stopped ∧ s.lastStopped = some c.snapshot

theorem remembers_step (inv : Past s) (h : Remembers s g)
    (hl : (s.step e).lastStopped = s.lastStopped) : Remembers (s.step e) g := by
  obtain ⟨c, hc, stopped, known⟩ := h
  obtain ⟨d, hd, stopped', same⟩ := inv.stopped_step hc stopped e
  exact ⟨d, hd, stopped', by rw [hl, known, same]⟩

/-- A stop that goes on still waits, or has ended badly, or has the last snapshot of its cluster
remembered. -/
inductive StopLeaves (s s' : Server) (n g : Nat) : Prop
  | waiting (hn : s'.calls.get? n = some (.stopping g)) (hl : s'.lastStopped = s.lastStopped)
  | bad {c : Cluster} {result : Outcome Snapshot} (hn : s'.calls.get? n = some (.returned result))
      (hc : s'.cluster? g = some c) (hb : Cluster.EndedBadly c)
      (hl : s'.lastStopped = s.lastStopped)
  | remembered {result : Outcome Snapshot} (hn : s'.calls.get? n = some (.returned result))
      (h : Remembers s' g)

/-- A stop that goes on waits for no other cluster afterwards. -/
theorem StopLeaves.eq_of_stopping (h : StopLeaves s s' n g)
    (hn' : s'.calls.get? n = some (.stopping k)) : k = g := by
  cases h with
  | waiting hn hl => simpa [hn'] using hn
  | bad hn hc hb hl => simp [hn'] at hn
  | remembered hn h => simp [hn'] at hn

theorem checkStop_leaves (inv : Past s) (hn : s.calls.get? n = some (.stopping g)) :
    StopLeaves s (s.checkStop n g) n g := by
  have polled : Past (s.onCluster g (·.poll (.caller (inner n)))) :=
    past_step inv (.pollWorker g (.caller (inner n)))
  have still : (s.onCluster g (·.poll (.caller (inner n)))).calls.get? n = some (.stopping g) := hn
  have same : (s.onCluster g (·.poll (.caller (inner n)))).lastStopped = s.lastStopped := rfl
  unfold checkStop
  generalize s.onCluster g (·.poll (.caller (inner n))) = t at polled still same ⊢
  simp only
  split
  · next result hr =>
    obtain ⟨c, hc, hresult⟩ := Option.bind_eq_some_iff.mp hr
    have left : ((t.onCluster g (·.leave (inner n))).release g).cluster? g =
        some (c.leave (inner n)) := by simp [hc]
    have kept : ((t.onCluster g (·.leave (inner n))).release g).lastStopped = t.lastStopped := by
      unfold release
      split <;> rfl
    rcases polled.cases_of_result hc (.stop still) hresult with ⟨stopped, rfl⟩ | ⟨bad, f, rfl⟩
    · exact .remembered (Roster.get?_set_self ..) ⟨c.leave (inner n), left, stopped, rfl⟩
    · exact .bad (Roster.get?_set_self ..) left bad (kept.trans same)
  · exact .waiting (Roster.get?_set_self ..) same

/-- What a stop leaves behind that goes on. -/
theorem Seeks.step (h : Seeks s n g) (inv : Past s) :
    StopLeaves s (s.step (.pollCall n)) n g := by
  rcases h with hn | ⟨hn, hs⟩
  · have goes : s.step (.pollCall n) = s.checkStop n g := by
      simp only [Server.step, pollCall, hn]
    rw [goes]
    exact checkStop_leaves inv hn
  · have asked := past_move (.asksStop hn hs) inv
    have goes : s.step (.pollCall n) =
        ((s.onCluster g (·.call (inner n) .stop)).setCall n (.stopping g)).checkStop n g := by
      rw [checkStop_setCall]
      simp only [Server.step, pollCall, hn, beginCall, hs]
    have leaves := checkStop_leaves asked (Roster.get?_set_self ..)
    rw [← goes] at leaves
    cases leaves with
    | waiting hn' hl => exact .waiting hn' hl
    | bad hn' hc hb hl => exact .bad hn' hc hb hl
    | remembered hn' hr => exact .remembered hn' hr

theorem checkMutation_frame (s : Server) (n g : Nat) :
    (s.checkMutation n g).lastStopped = s.lastStopped ∧
      ∀ k, (s.checkMutation n g).calls.get? n ≠ some (.stopping k) := by
  unfold checkMutation
  simp only
  split <;> exact ⟨rfl, fun k => by simp [setCall]⟩

/-- A call that goes on and stops no cluster leaves alone what the server remembers, and does not
wait for a cluster to be stopped. -/
theorem pollCall_frame (h : ∀ g, ¬ Seeks s n g) :
    (s.pollCall n).lastStopped = s.lastStopped ∧
      ∀ k, (s.pollCall n).calls.get? n ≠ some (.stopping k) := by
  unfold pollCall
  split
  · next call hn =>
    cases call with
    | start params =>
      by_cases hs : s.slot.isSome = true
      · rw [beginCall_occupied params n hs]
        exact ⟨rfl, fun k => by simp [setCall]⟩
      · have empty : s.slot = none := by simpa using hs
        cases hp : Cluster.plan s.options params s.pid s.obstacle with
        | error f =>
          rw [beginCall_unplanned n empty hp]
          exact ⟨rfl, fun k => by simp [setCall]⟩
        | ok c =>
          rw [beginCall_planned n empty hp]
          exact ⟨rfl, fun k => by simp [setCall]⟩
    | stop =>
      cases hs : s.slot with
      | some g => exact absurd (.inr ⟨hn, hs⟩) (h g)
      | none =>
        simp only [beginCall, hs]
        split <;> exact ⟨rfl, fun k => by simp [setCall]⟩
    | mutate m =>
      simp only [beginCall]
      split
      · exact checkMutation_frame _ n _
      · exact ⟨rfl, fun k => by simp [setCall]⟩
  · unfold checkStart
    split <;> exact ⟨rfl, fun k => by simp [setCall]⟩
  · next g hn => exact absurd (.inl hn) (h g)
  · exact checkMutation_frame s n _
  · next hfresh hstart hstop hmutate => exact ⟨rfl, fun k => hstop k⟩

/-- What no call does adds no cluster, and leaves alone what the server remembers. -/
theorem Move.frame_of_ne (h : Move s e s') (he : ∀ n, e ≠ .pollCall n) :
    s'.tenancies.length = s.tenancies.length ∧ s'.lastStopped = s.lastStopped := by
  have forgets (g : Nat) : (s.release g).lastStopped = s.lastStopped := by
    unfold release
    split <;> rfl
  cases h with
  | leaves n =>
    unfold leave
    simp only
    split <;> simp [onCluster]
  | tearsDown h hc hr => exact ⟨by simp [setStartup], forgets _⟩
  | arrives h => exact ⟨rfl, rfl⟩
  | elapses ms => exact ⟨by simp [elapse], rfl⟩
  | answered hc h => exact ⟨by simp [onCluster], rfl⟩
  | works he' hc h => exact ⟨by simp [onCluster], rfl⟩
  | asksReady h => exact ⟨by simp [onCluster, setStartup], rfl⟩
  | seesReady h hc hr => exact ⟨by simp [setStartup], rfl⟩
  | seesFailure h hc hr => exact ⟨by simp [onCluster, setStartup], rfl⟩
  | _ => exact absurd rfl (he _)

/-- The server remembers something else only when a stop goes on. -/
theorem lastStopped_step (h : ∀ n g, e = .pollCall n → ¬ Seeks s n g) :
    (s.step e).lastStopped = s.lastStopped := by
  by_cases he : ∃ n, e = .pollCall n
  · obtain ⟨n, rfl⟩ := he
    exact (pollCall_frame fun g => h n g rfl).1
  · have other : ∀ n, e ≠ .pollCall n := fun n heq => he ⟨n, heq⟩
    exact step_preserves (P := fun t => t.lastStopped = s.lastStopped)
      (fun move same => (move.frame_of_ne other).2.trans same) s rfl

/-- A call that waits for a stop stays so until it goes on or its caller goes away. -/
theorem stopping_step (hn : s.calls.get? n = some (.stopping g)) (hpoll : e ≠ .pollCall n)
    (hleave : e ≠ .leave n) : (s.step e).calls.get? n = some (.stopping g) :=
  step_preserves (P := fun t => t.calls.get? n = some (.stopping g))
    (fun move hn => by
      rcases move.call_cases hn hleave with hsame | ⟨heq, -⟩
      · exact hsame
      · exact absurd heq hpoll) s hn

/-- A call begins to wait for a stop only when it goes on. -/
theorem stopping_of_move (h : Move s e s') (hpoll : e ≠ .pollCall n)
    (hn : s'.calls.get? n = some (.stopping g)) : s.calls.get? n = some (.stopping g) := by
  cases hbefore : s.calls.get? n with
  | some phase =>
    by_cases hleave : e = .leave n
    · subst hleave
      cases h with
      | leaves => simp at hn
      | works he => simp [Event.isPoll] at he
    · rcases h.call_cases hbefore hleave with hsame | ⟨heq, -⟩
      · exact hsame.symm.trans hn
      · exact absurd heq hpoll
  | none =>
    -- A call that goes on was there before, and one that comes in is fresh.
    have other {m : Nat} {phase after : ServerPhase} (hm : s.calls.get? m = some phase)
        (hafter : (s.calls.set m after).get? n = some (.stopping g)) : False := by
      rw [Roster.get?_set] at hafter
      split at hafter
      · next heq => simp [← heq, hbefore] at hm
      · simp [hbefore] at hafter
    cases h with
    | @arrives m call h =>
      rw [setCall, Roster.get?_set] at hn
      split at hn
      · simp at hn
      · simp [hbefore] at hn
    | leaves m => simp [hbefore] at hn
    | stops h hc hr => exact (other h (by simpa [setCall, onCluster] using hn)).elim
    | tearsDown h hc hr => simp [setStartup, hbefore] at hn
    | refused h hs => exact (other h hn).elim
    | rejected h hs hp => exact (other h hn).elim
    | claims h hs hp => exact (other h hn).elim
    | reports h hr => exact (other h hn).elim
    | asksStop h hs => exact (other h hn).elim
    | recalls h hs => exact (other h hn).elim
    | asksMutation h hs => exact (other h hn).elim
    | mutates h hc hr => exact (other h hn).elim
    | lacks h hs => exact (other h hn).elim
    | _ => exact absurd (hbefore.symm.trans hn) (by simp)

theorem stopping_of_step (hpoll : e ≠ .pollCall n)
    (hn : (s.step e).calls.get? n = some (.stopping g)) : s.calls.get? n = some (.stopping g) :=
  step_preserves (P := fun t => t.calls.get? n = some (.stopping g) →
    s.calls.get? n = some (.stopping g))
    (fun move earlier hn => earlier (stopping_of_move move hpoll hn)) s id hn

/-! ## The order in which clusters are stopped -/

/-- A call that goes on adds a cluster only if it finds the slot empty, and never more than one. -/
theorem length_pollCall (s : Server) (n : Nat) :
    (s.pollCall n).tenancies.length = s.tenancies.length ∨
      s.slot = none ∧ (s.pollCall n).tenancies.length = s.tenancies.length + 1 := by
  by_cases hfresh : ∃ params, s.calls.get? n = some (.fresh (.start params))
  · obtain ⟨params, hn⟩ := hfresh
    rw [pollCall_fresh hn]
    by_cases hs : s.slot.isSome = true
    · rw [beginCall_occupied params n hs]
      exact .inl rfl
    · have empty : s.slot = none := by simpa using hs
      cases hp : Cluster.plan s.options params s.pid s.obstacle with
      | error f =>
        rw [beginCall_unplanned n empty hp]
        exact .inl rfl
      | ok c =>
        rw [beginCall_planned n empty hp]
        exact .inr ⟨empty, by simp [setCall, withCluster]⟩
  · -- Only a start that has not begun adds a cluster, and no move of this call makes it one.
    refine .inl (step_preserves (e := .pollCall n) (P := fun t =>
      t.tenancies.length = s.tenancies.length ∧
        ∀ params, t.calls.get? n ≠ some (.fresh (.start params))) (fun move both => ?_) s
      ⟨rfl, fun params hn => hfresh ⟨params, hn⟩⟩).1
    obtain ⟨same, hold⟩ := both
    cases move with
    | works he hc h => exact ⟨by simpa [onCluster] using same, hold⟩
    | refused h hs => exact absurd h (hold _)
    | rejected h hs hp => exact absurd h (hold _)
    | claims h hs hp => exact absurd h (hold _)
    | stops h hc hr =>
      exact ⟨by simpa [setCall, onCluster] using same, fun params => by simp [setCall]⟩
    | _ => exact ⟨by simpa [setCall, onCluster] using same, fun params => by simp [setCall]⟩

theorem length_step (s : Server) (e : Event) :
    (s.step e).tenancies.length = s.tenancies.length ∨
      s.slot = none ∧ (s.step e).tenancies.length = s.tenancies.length + 1 := by
  by_cases he : ∃ n, e = .pollCall n
  · obtain ⟨n, rfl⟩ := he
    exact length_pollCall s n
  · have other : ∀ n, e ≠ .pollCall n := fun n heq => he ⟨n, heq⟩
    exact .inl (step_preserves (P := fun t => t.tenancies.length = s.tenancies.length)
      (fun move same => (move.frame_of_ne other).1.trans same) s rfl)

/-- A cluster that is not in the slot and is stopped after an event was stopped before it. -/
theorem Past.hasStopped_of_step (inv : Past s) (hg : g < s.tenancies.length)
    (hs : s.slot ≠ some g) (h : HasStopped (s.step e) g) : HasStopped s g := by
  cases hc : s.cluster? g with
  | none => exact absurd ((cluster?_eq_none_iff s g).mp hc) (by omega)
  | some c =>
    refine ⟨c, hc, ?_⟩
    rcases inv.settled g c hc hs with stopped | crashed
    · exact stopped
    · obtain ⟨d, hd, crashed'⟩ :=
        inv.cluster_step (fun move _ => Cluster.stopper_crashed_move move) hc crashed e
      obtain ⟨d', hd', stopped⟩ := h
      obtain rfl := Option.some.inj (hd.symm.trans hd')
      have ended := ((past_step inv e).booked g d hd).stopper_ended_iff.mpr stopped
      simp [crashed'] at ended

/-- Of two clusters the one that came first is stopped first. -/
theorem stopped_in_order (inv : Past s) (hnew : s.tenancies = []) {events : List Event}
    (hlt : g < k) (hg : HasStopped (s.run events) g)
    (hk : k < (s.run events).tenancies.length) :
    ∃ before, before <+: events ∧ HasStopped (s.run before) g ∧
      ¬ HasStopped (s.run before) k := by
  induction events using List.reverseRecOn with
  | nil => simp [hnew] at hk
  | append_singleton before e ih =>
    have past := past_run inv before
    simp only [run_append, run_cons, run_nil] at hg hk
    by_cases hthere : k < (s.run before).tenancies.length
    · have elsewhere : (s.run before).slot ≠ some g := by
        intro hs
        have newest := past.newest g hs
        omega
      have earlier := past.hasStopped_of_step (by omega) elsewhere hg
      obtain ⟨first, hfirst, found⟩ := ih earlier hthere
      exact ⟨first, hfirst.trans (List.prefix_append before [e]), found⟩
    · -- The later cluster comes into being in this event, which finds the slot empty.
      rcases length_step (s.run before) e with hsame | ⟨hempty, hmore⟩
      · omega
      · have earlier := past.hasStopped_of_step (by omega) (by simp [hempty]) hg
        refine ⟨before, List.prefix_append before [e], earlier, ?_⟩
        rintro ⟨d, hd, -⟩
        exact hthere (lt_length_of_cluster? hd)

/-! ## Runs in which callers attend to their stops -/

/-- A caller that waits for a stop does not go away, and looks after its stop before a later cluster
is stopped. -/
def isPrompt (s : Server) : Event → Bool
  | .leave n => s.awaitsNoStop n
  | .pollCall n =>
    match s.calls.get? n with
    | some (.stopping g) =>
      (s.tenancies.drop (g + 1)).all fun t => t.cluster.registry.state ≠ .stopped
    | _ => true
  | _ => true

/-- Every event of a run passes a test, in the state that it finds. -/
def eachEvent (s : Server) (test : Server → Event → Bool) : List Event → Bool
  | [] => true
  | e :: rest => test s e && (s.step e).eachEvent test rest

theorem eachEvent_append (s : Server) (test : Server → Event → Bool) (first second : List Event) :
    s.eachEvent test (first ++ second) =
      (s.eachEvent test first && (s.run first).eachEvent test second) := by
  induction first generalizing s with
  | nil => rfl
  | cons e rest ih => simp only [List.cons_append, eachEvent, ih, Bool.and_assoc, run_cons]

/-- A caller that looks after its stop finds no later cluster stopped. -/
theorem le_of_isPrompt (hn : s.calls.get? n = some (.stopping g))
    (hprompt : s.isPrompt (.pollCall n) = true) (hk : HasStopped s k) : k ≤ g := by
  by_contra hlt
  obtain ⟨c, hc, stopped⟩ := hk
  obtain ⟨t, ht, rfl⟩ := Option.map_eq_some_iff.mp hc
  have later : t ∈ s.tenancies.drop (g + 1) := by
    refine List.mem_of_getElem? (i := k - (g + 1)) ?_
    rw [List.getElem?_drop, show g + 1 + (k - (g + 1)) = k by omega, ht]
  simp only [isPrompt, hn, List.all_eq_true] at hprompt
  simpa [stopped] using hprompt t later

/-! ## What the server remembers -/

/-- A stop found this cluster in the slot in the course of a run. -/
def Sought (s : Server) (events : List Event) (g : Nat) : Prop :=
  ∃ before n, before ++ [.pollCall n] <+: events ∧
    (s.run before).calls.get? n = some (.fresh .stop) ∧ (s.run before).slot = some g

theorem Sought.append {events : List Event} (h : Sought s events g) (later : List Event) :
    Sought s (events ++ later) g := by
  obtain ⟨before, n, hprefix, hn, hs⟩ := h
  exact ⟨before, n, hprefix.trans (List.prefix_append events later), hn, hs⟩

theorem sought_concat {events : List Event} (h : Sought s (events ++ [e]) g) :
    Sought s events g ∨ ∃ n, e = .pollCall n ∧
      (s.run events).calls.get? n = some (.fresh .stop) ∧ (s.run events).slot = some g := by
  obtain ⟨before, n, hprefix, hn, hs⟩ := h
  rcases List.prefix_concat_iff.mp hprefix with heq | hprefix
  · obtain ⟨rfl, hlast⟩ := List.append_inj' heq rfl
    exact .inr ⟨n, (List.singleton_inj.mp hlast).symm, hn, hs⟩
  · exact .inl ⟨before, n, hprefix, hn, hs⟩

/-- What the server remembers after a run is the last snapshot of a cluster that a stop has sought.
No such cluster is later than the one that is remembered, unless a stop still waits for it or has
ended badly. -/
structure Recollects (s : Server) (events : List Event) : Prop where
  waiting : ∀ n g, (s.run events).calls.get? n = some (.stopping g) → Sought s events g
  known : (s.run events).lastStopped = none ∨
    ∃ k, Sought s events k ∧ Remembers (s.run events) k
  owed : ∀ g, Sought s events g →
    (∃ n, (s.run events).calls.get? n = some (.stopping g)) ∨
    (∃ c, (s.run events).cluster? g = some c ∧ Cluster.EndedBadly c) ∨
    ∃ k, g ≤ k ∧ Sought s events k ∧ Remembers (s.run events) k

namespace Recollects

variable {events : List Event}

/-- What is owed to a cluster that no call stops in an event stays owed to it. -/
theorem owed_step (inv : Recollects s events) (past : Past (s.run events))
    (hg : Sought s events g) (hprompt : (s.run events).isPrompt e = true)
    (hidle : ∀ n, e = .pollCall n → (s.run events).calls.get? n ≠ some (.stopping g))
    (hkept : ∀ k, g ≤ k → Sought s events k → Remembers (s.run events) k →
      ∃ k, g ≤ k ∧ Sought s (events ++ [e]) k ∧ Remembers ((s.run events).step e) k) :
    (∃ n, ((s.run events).step e).calls.get? n = some (.stopping g)) ∨
    (∃ c, ((s.run events).step e).cluster? g = some c ∧ Cluster.EndedBadly c) ∨
    ∃ k, g ≤ k ∧ Sought s (events ++ [e]) k ∧ Remembers ((s.run events).step e) k := by
  rcases inv.owed g hg with ⟨n, hn⟩ | ⟨c, hc, bad⟩ | ⟨k, hk, hsought, hr⟩
  · refine .inl ⟨n, stopping_step hn (fun heq => hidle n heq hn) fun heq => ?_⟩
    subst heq
    simp [isPrompt, awaitsNoStop, hn] at hprompt
  · exact .inr (.inl (past.endedBadly_step hc bad e))
  · exact .inr (.inr (hkept k hk hsought hr))

/-- An event in which no stop goes on keeps what the server remembers. -/
theorem stays (inv : Recollects s events) (past : Past (s.run events))
    (hprompt : (s.run events).isPrompt e = true)
    (hidle : ∀ n g, e = .pollCall n → ¬ Seeks (s.run events) n g) :
    Recollects s (events ++ [e]) := by
  have same := lastStopped_step hidle
  have after : s.run (events ++ [e]) = (s.run events).step e := by
    simp only [run_append, run_cons, run_nil]
  refine ⟨fun n g hn => ?_, ?_, fun g hg => ?_⟩
  · rw [after] at hn
    by_cases hpoll : e = .pollCall n
    · subst hpoll
      exact absurd hn ((pollCall_frame fun g => hidle n g rfl).2 g)
    · exact (inv.waiting n g (stopping_of_step hpoll hn)).append [e]
  · rw [after]
    rcases inv.known with hnone | ⟨k, hk, hr⟩
    · exact .inl (same.trans hnone)
    · exact .inr ⟨k, hk.append [e], remembers_step past hr same⟩
  · rw [after]
    rcases sought_concat hg with hold | ⟨n, rfl, hn, hs⟩
    · exact inv.owed_step past hold hprompt (fun n heq hn => hidle n g heq (.inl hn))
        fun k hk hsought hr => ⟨k, hk, hsought.append [e], remembers_step past hr same⟩
    · exact absurd (.inr ⟨hn, hs⟩) (hidle n g rfl)

/-- A stop that goes on leaves the server with what it should remember. -/
theorem goesOn (inv : Recollects s events) (past : Past (s.run events))
    (hprompt : (s.run events).isPrompt (.pollCall n) = true) (h : Seeks (s.run events) n g) :
    Recollects s (events ++ [.pollCall n]) := by
  have leaves := h.step past
  have after : s.run (events ++ [.pollCall n]) = (s.run events).step (.pollCall n) := by
    simp only [run_append, run_cons, run_nil]
  have sought : Sought s (events ++ [.pollCall n]) g := by
    rcases h with hn | ⟨hn, hs⟩
    · exact (inv.waiting n g hn).append _
    · exact ⟨events, n, List.prefix_rfl, hn, hs⟩
  have latest (k : Nat) (hk : Remembers (s.run events) k) : k ≤ g := by
    obtain ⟨c, hc, stopped, -⟩ := hk
    rcases h with hn | ⟨hn, hs⟩
    · exact le_of_isPrompt hn hprompt ⟨c, hc, stopped⟩
    · have newest := past.newest g hs
      have there := lt_length_of_cluster? hc
      omega
  have other (k : Nat) (hne : k ≠ g) (hk : Sought s (events ++ [.pollCall n]) k) :
      Sought s events k ∧ (s.run events).calls.get? n ≠ some (.stopping k) := by
    rcases sought_concat hk with hold | ⟨n', heq, hn', hs'⟩
    · refine ⟨hold, fun hn' => ?_⟩
      rcases h with hn | ⟨hn, -⟩
      · exact hne (by simpa [hn'] using hn)
      · simp [hn'] at hn
    · obtain rfl := Event.pollCall.inj heq
      rcases h with hn | ⟨-, hs⟩
      · simp [hn'] at hn
      · exact absurd (Option.some.inj (hs'.symm.trans hs)) hne
  refine ⟨fun m k hm => ?_, ?_, fun k hk => ?_⟩
  · rw [after] at hm
    by_cases hmn : m = n
    · subst hmn
      rw [leaves.eq_of_stopping hm]
      exact sought
    · have still := stopping_of_step (fun heq => hmn (Event.pollCall.inj heq).symm) hm
      exact (inv.waiting m k still).append _
  · rw [after]
    have same (hl : ((s.run events).step (.pollCall n)).lastStopped = (s.run events).lastStopped) :
        ((s.run events).step (.pollCall n)).lastStopped = none ∨
          ∃ k, Sought s (events ++ [.pollCall n]) k ∧
            Remembers ((s.run events).step (.pollCall n)) k := by
      rcases inv.known with hnone | ⟨k, hk, hr⟩
      · exact .inl (hl.trans hnone)
      · exact .inr ⟨k, hk.append _, remembers_step past hr hl⟩
    cases leaves with
    | waiting hn hl => exact same hl
    | bad hn hc hb hl => exact same hl
    | remembered hn hr => exact .inr ⟨g, sought, hr⟩
  · rw [after]
    by_cases hne : k = g
    · subst hne
      cases leaves with
      | waiting hn hl => exact .inl ⟨n, hn⟩
      | bad hn hc hb hl => exact .inr (.inl ⟨_, hc, hb⟩)
      | remembered hn hr => exact .inr (.inr ⟨k, le_rfl, sought, hr⟩)
    · obtain ⟨hold, hidle⟩ := other k hne hk
      refine inv.owed_step past hold hprompt
        (fun m heq => by obtain rfl := Event.pollCall.inj heq; exact hidle)
        fun j hj hsought hr => ?_
      cases leaves with
      | waiting hn hl => exact ⟨j, hj, hsought.append _, remembers_step past hr hl⟩
      | bad hn hc hb hl => exact ⟨j, hj, hsought.append _, remembers_step past hr hl⟩
      | remembered hn hr' => exact ⟨g, hj.trans (latest j hr), sought, hr'⟩

end Recollects

theorem recollects_run (past : Past s) (hcalls : s.calls = {}) (hlast : s.lastStopped = none)
    {events : List Event} (prompt : s.eachEvent isPrompt events = true) :
    Recollects s events := by
  induction events using List.reverseRecOn with
  | nil =>
    have nobody (n : Nat) (g : Nat) : s.calls.get? n ≠ some (.stopping g) := by
      simp [hcalls, Roster.get?]
    refine ⟨fun n g hn => absurd hn (nobody n g), .inl hlast, fun g hg => ?_⟩
    obtain ⟨before, n, hprefix, -⟩ := hg
    simp at hprefix
  | append_singleton before e ih =>
    rw [eachEvent_append, Bool.and_eq_true] at prompt
    obtain ⟨hbefore, hprompt⟩ := prompt
    simp only [eachEvent, Bool.and_true] at hprompt
    have past' := past_run past before
    by_cases hseeks : ∃ n g, e = .pollCall n ∧ Seeks (s.run before) n g
    · obtain ⟨n, g, rfl, h⟩ := hseeks
      exact (ih hbefore).goesOn past' hprompt h
    · exact (ih hbefore).stays past' hprompt fun n g heq h => hseeks ⟨n, g, heq, h⟩

/-- Of the clusters that a stop has sought and that are stopped, this one was stopped last. -/
structure StoppedLast (s : Server) (events : List Event) (g : Nat) (c : Cluster) : Prop where
  sought : Sought s events g
  there : (s.run events).cluster? g = some c
  stopped : c.registry.state = .stopped
  -- every other one came before it, and was stopped before it
  latest : ∀ k, Sought s events k → HasStopped (s.run events) k → k ≠ g →
    k < g ∧ ∃ before, before <+: events ∧ HasStopped (s.run before) k ∧
      ¬ HasStopped (s.run before) g

/-- Among the clusters that a stop has sought and that are stopped, if there are any, one was
stopped last. -/
theorem exists_stoppedLast (past : Past s) (hnew : s.tenancies = []) {events : List Event}
    (h : Sought s events g ∧ HasStopped (s.run events) g) :
    ∃ k c, StoppedLast s events k c := by
  have bounded : ∀ k, Sought s events k ∧ HasStopped (s.run events) k →
      k ≤ (s.run events).tenancies.length := by
    rintro k ⟨-, c, hc, -⟩
    exact Nat.le_of_lt (lt_length_of_cluster? hc)
  have nonempty : {k | Sought s events k ∧ HasStopped (s.run events) k}.Nonempty := ⟨g, h⟩
  have above : BddAbove {k | Sought s events k ∧ HasStopped (s.run events) k} :=
    ⟨_, fun k hk => bounded k hk⟩
  obtain ⟨hsought, c, hc, hstopped⟩ := Nat.sSup_mem nonempty above
  refine ⟨_, c, hsought, hc, hstopped, fun k hk hstopped' hne => ?_⟩
  have hlt := lt_of_le_of_ne (le_csSup above ⟨hk, hstopped'⟩) hne
  exact ⟨hlt, stopped_in_order past hnew hlt hstopped' (lt_length_of_cluster? hc)⟩

/-- A stop that finds no cluster returns what the server remembers. -/
theorem result?_of_recall (hn : s.calls.get? n = some (.fresh .stop)) (hs : s.slot = none)
    {later : List Event} (stays : .leave n ∉ later) :
    (s.run (.pollCall n :: later)).result? n = some (remembered s.lastStopped) := by
  have recalled : s.step (.pollCall n) = s.setCall n (.returned (remembered s.lastStopped)) := by
    simp only [Server.step, pollCall, hn, beginCall, hs]
    cases s.lastStopped <;> rfl
  have returned := returned_run (s := s.step (.pollCall n)) (n := n)
    (by rw [recalled]; exact Roster.get?_set_self ..) stays
  simp only [run_cons, result?, returned]

/-- In every run of a server in which no caller of a stop goes away before it is answered and none
looks after its stop only when a later cluster is stopped: a stop that finds no cluster, after all
shutdowns went well and all stops of the clusters that are stopped were answered, returns the last
snapshot of the cluster that was stopped last on account of a stop.  If there is none, it is told
that there is no cluster. -/
theorem recalls_last_stopped {pid : UInt32} {options : ClusterOptions} {obstacle : Option IoError}
    {events : List Event} {n : Nat}
    (prompt : ({ pid := pid, options := options, obstacle := obstacle } : Server).eachEvent
      isPrompt events = true) :
    let s := ({ pid := pid, options := options, obstacle := obstacle } : Server)
    (∀ g c message, (s.run events).cluster? g = some c →
      c.latch.action ≠ .returned (.error message)) →
    (∀ m g, (s.run events).calls.get? m = some (.stopping g) → ¬ HasStopped (s.run events) g) →
    (s.run events).calls.get? n = some (.fresh .stop) → (s.run events).slot = none →
    ∀ later, .leave n ∉ later →
    (∃ g c, StoppedLast s events g c ∧
      (s.run (events ++ .pollCall n :: later)).result? n = some (.ok c.snapshot)) ∨
    (∀ g, Sought s events g → ¬ HasStopped (s.run events) g) ∧
      (s.run (events ++ .pollCall n :: later)).result? n = some (.error noCluster) := by
  intro s clean answered hn hs later stays
  have past : Past s := past_init pid options obstacle
  have memory : Recollects s events := recollects_run past rfl rfl prompt
  have result := result?_of_recall hn hs stays
  rw [← run_append] at result
  -- A cluster that is stopped is remembered, or a later one is.
  have owed (g : Nat) (hg : Sought s events g) (hstopped : HasStopped (s.run events) g) :
      ∃ k, g ≤ k ∧ Sought s events k ∧ Remembers (s.run events) k := by
    rcases memory.owed g hg with ⟨m, hm⟩ | ⟨c, hc, crashed | ⟨message, ho⟩⟩ | found
    · exact absurd hstopped (answered m g hm)
    · obtain ⟨c', hc', stopped⟩ := hstopped
      obtain rfl := Option.some.inj (hc.symm.trans hc')
      have ended := ((past_run past events).booked g c hc).stopper_ended_iff.mpr stopped
      simp [crashed] at ended
    · exact absurd ho (clean g c message hc)
    · exact found
  by_cases hany : ∃ g, Sought s events g ∧ HasStopped (s.run events) g
  · obtain ⟨g, h⟩ := hany
    obtain ⟨k, c, last⟩ := exists_stoppedLast past rfl h
    obtain ⟨j, hj, hsought, d, hd, stopped, known⟩ :=
      owed k last.sought ⟨c, last.there, last.stopped⟩
    have same : j = k := by
      by_contra hne
      have earlier := (last.latest j hsought ⟨d, hd, stopped⟩ hne).1
      omega
    subst same
    obtain rfl := Option.some.inj (hd.symm.trans last.there)
    refine .inl ⟨j, d, last, ?_⟩
    rw [result, known, remembered]
  · refine .inr ⟨fun g hg hstopped => hany ⟨g, hg, hstopped⟩, ?_⟩
    rcases memory.known with hnone | ⟨k, hk, c, hc, stopped, -⟩
    · rw [result, hnone, remembered]
    · exact absurd ⟨k, hk, c, hc, stopped⟩ hany

/-- The stop of a cluster has failed. -/
def failedToStop (c : Cluster) : Bool :=
  match c.latch.action with
  | .returned (.error _) => true
  | _ => false

/-- Of two small clusters that came up and were stopped, a stop is told of the second one. -/
theorem pair_recalled :
    let events := pairUp 0 ++ pairDown 0 ++ pairUp 1 ++ pairDown 1 ++ [.call 3 .stop]
    ∃ c, (pairServer.run events).cluster? 1 = some c ∧ c.registry.state = .stopped ∧
      (pairServer.run (events ++ [.pollCall 3])).result? 3 = some (.ok c.snapshot) := by
  intro events
  have prompt : pairServer.eachEvent isPrompt events = true := by decide +kernel
  have two : (pairServer.run events).tenancies.length = 2 := by decide +kernel
  have fine : ∀ t ∈ (pairServer.run events).tenancies, failedToStop t.cluster = false := by
    decide +kernel
  have clean : ∀ g c message, (pairServer.run events).cluster? g = some c →
      c.latch.action ≠ .returned (.error message) := by
    intro g c message hc ho
    obtain ⟨t, ht, rfl⟩ := Option.map_eq_some_iff.mp hc
    have went := fine t (List.mem_of_getElem? ht)
    simp [failedToStop, ho] at went
  have nobody : (pairServer.run events).calls = ⟨[(3, .fresh .stop)]⟩ := by decide +kernel
  have answered : ∀ m g, (pairServer.run events).calls.get? m = some (.stopping g) →
      ¬ HasStopped (pairServer.run events) g := by
    intro m g hm
    rw [nobody] at hm
    simp only [Roster.get?, Roster.lookup_number] at hm
    split at hm <;> simp at hm
  have second : Sought pairServer events 1 :=
    ⟨pairUp 0 ++ pairDown 0 ++ pairUp 1 ++ [.call 2 .stop], 2, by decide +kernel,
      by decide +kernel, by decide +kernel⟩
  have stopped : HasStopped (pairServer.run events) 1 := by decide +kernel
  rcases recalls_last_stopped (n := 3) prompt clean answered (by decide +kernel)
    (by decide +kernel) [] (by simp) with
    ⟨g, c, last, result⟩ | ⟨none, -⟩
  · have there : g < (pairServer.run events).tenancies.length :=
      lt_length_of_cluster? last.there
    have newest : g = 1 := by
      by_contra hne
      have later := (last.latest 1 second stopped fun heq => hne heq.symm).1
      omega
    subst newest
    exact ⟨c, last.there, last.stopped, result⟩
  · exact absurd stopped (none 1 second)

/-- Two callers stop the first cluster, which has lost a node, and one of them looks after its stop
only when the second cluster is stopped too.  The next stop is told of the first cluster. -/
example :
    let s := pairServer.run (pairUp 0 ++ [.call 3 (.mutate (.remove "node1")), .pollCall 3,
      .answer 0 (.caller (inner 3)) .done, .pollCall 3, .leave 3, .call 3 .stop, .pollCall 3] ++
      pairDown 0 ++ pairUp 1 ++ pairDown 1 ++ [.pollCall 3, .leave 3, .call 3 .stop])
    HasStopped s 1 ∧
      (s.step (.pollCall 3)).result? 3 = (s.cluster? 0).map (fun c => .ok c.snapshot) ∧
      (s.cluster? 0).map Cluster.snapshot ≠ (s.cluster? 1).map Cluster.snapshot := by
  decide +kernel

/-- The only cluster is stopped while it is launching, and the task beside it empties the slot
before the caller of the stop looks after it.  The stop that comes in between is told that there is
none. -/
example :
    let s := pairServer.run [.call 1 (.start Cluster.pairParams), .pollCall 1, .pollStartup 0,
      .pollWorker 0 .starter, .call 2 .stop, .pollCall 2, .pollWorker 0 .keeper,
      .pollWorker 0 .stopper, .answer 0 .starter .done, .pollWorker 0 .starter,
      .pollWorker 0 .stopper, .answer 0 .stopper .done, .pollWorker 0 .stopper,
      .pollWorker 0 .keeper, .pollStartup 0, .call 3 .stop]
    HasStopped s 0 ∧ (s.step (.pollCall 3)).result? 3 = some (.error noCluster) := by
  decide +kernel

/-- The shutdown of the only cluster fails, and the caller who asked for it looks after it. -/
def failedShutdown : List Event :=
  pairUp 0 ++ ([.call 2 .stop, .pollCall 2, .pollWorker 0 .keeper, .pollWorker 0 .stopper,
    .answer 0 .stopper (.mishap (.failed (.launch "boom"))), .pollWorker 0 .stopper,
    .pollWorker 0 .keeper, .pollCall 2, .leave 2, .call 3 .stop] : List Event)

/-- The shutdown of the only cluster fails.  The cluster is stopped all the same, but the next stop
is told that there is none. -/
theorem forgotten_server :
    ∃ events, (∀ e ∈ events, e.isCalm = true) ∧ pairServer.eachEvent isPrompt events = true ∧
      Sought pairServer events 0 ∧ HasStopped (pairServer.run events) 0 ∧
      (pairServer.run events).slot = none ∧
      (pairServer.run events).calls = ⟨[(3, .fresh .stop)]⟩ ∧
      (pairServer.run (events ++ [.pollCall 3])).result? 3 = some (.error noCluster) := by
  have sought : Sought pairServer failedShutdown 0 :=
    ⟨pairUp 0 ++ ([.call 2 .stop] : List Event), 2, by decide +kernel, by decide +kernel,
      by decide +kernel⟩
  refine ⟨failedShutdown, ?_, ?_, sought, ?_, ?_, ?_, ?_⟩
  · decide
  · decide +kernel
  · decide +kernel
  · decide +kernel
  · decide +kernel
  · decide +kernel

end Server
end ClusterControl
