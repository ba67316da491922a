import ClusterControl.Proofs.Cluster.CallHistory
import ClusterControl.Proofs.Cluster.Coherence

/-!
# What the callers of a stop are told

Any number of calls may stop a cluster.  The first one claims the latch, the latch sets off the
stop, and every call is told what the latch has published.

* `Latched` — the latch and the stop agree on how far the stop is.
* `outcome?_move` — what the latch has published stays so.
* `StopCall` — where a call stands that stops the cluster.
* `stop_result` — a stop that has returned was told what the latch has published.
* `snapshot_of_stopped` — once a cluster is stopped, every snapshot of it is the same.
-/

namespace ClusterControl
namespace Cluster

variable {c d : Cluster} {n : Nat}

/-- The latch and the stop agree on how far the stop is. -/
structure Latched (c : Cluster) : Prop where
  idle_iff : c.latch.phase = .idle ↔ c.latch.keeper = .absent
  early_action : c.latch.keeper = .absent ∨ c.latch.keeper = .spawned → c.latch.action = .absent
  -- a stop that has not begun is not known to the latch, or is there to be run
  unborn_iff : c.stopper = .unborn ↔ c.latch.action = .absent ∨ c.latch.action = .spawned
  running_iff : c.latch.action = .running ↔ c.stopper.prior?.isSome = true
  ended_iff : (∃ outcome, c.latch.action = .returned outcome) ↔ c.stopper = .ended
  crashed_iff : c.latch.action = .crashed ↔ c.stopper = .crashed
  done_action : ∀ outcome, c.latch.phase = .done outcome → c.latch.action = .returned outcome
  -- that the stop broke down is published only if it did
  crashed_action : c.latch.phase = .crashed → c.latch.action = .crashed

attribute [grind cases] Latched

/-- A move that touches neither the latch nor how far the stop is keeps them in agreement. -/
theorem Latched.of_eq (inv : Latched c) (hlatch : d.latch = c.latch)
    (hprior : d.stopper.prior? = c.stopper.prior?)
    (hunborn : d.stopper = .unborn ↔ c.stopper = .unborn)
    (hended : d.stopper = .ended ↔ c.stopper = .ended)
    (hcrashed : d.stopper = .crashed ↔ c.stopper = .crashed) : Latched d := by
  constructor <;> grind

theorem Latched.claim (inv : Latched c) (hlatch : d.latch = c.latch.claim)
    (hstopper : d.stopper = c.stopper) : Latched d := by
  unfold Latch.claim at hlatch
  split at hlatch
  · constructor <;> grind
  · exact inv.of_eq hlatch (by rw [hstopper]) (by rw [hstopper]) (by rw [hstopper])
      (by rw [hstopper])

theorem Latched.keep (inv : Latched c) (hlatch : d.latch = c.latch.keep)
    (hstopper : d.stopper = c.stopper) : Latched d := by
  unfold Latch.keep at hlatch
  split at hlatch
  · constructor <;> grind
  · split at hlatch
    · constructor <;> grind
    · constructor <;> grind
    · constructor <;> grind
  · constructor <;> grind

theorem latched_stopper (inv : Latched c) (h : StopperMove c d) : Latched d := by
  have running {prior : Lifecycle} (hprior : c.stopper.prior? = some prior) :
      c.latch.action = .running := inv.running_iff.mpr (by rw [hprior]; rfl)
  cases h with
  | begins h ha => constructor <;> simp only [Latch.begin, ha] <;> grind
  | shuts h hl hh => constructor <;> simp only [ask] <;> grind
  | passes h hl hh => constructor <;> grind
  | goesOn h hr => constructor <;> grind
  | tells h => exact inv.of_eq rfl rfl .rfl .rfl .rfl
  | shutsAgain h hd hh => constructor <;> simp only [ask] <;> grind
  | @ends prior failures hends =>
    have hprior : c.stopper.prior? = some prior := by cases hends <;> simp [*, StopPhase.prior?]
    have hrun := running hprior
    constructor <;> simp only [stopEnded, Latch.finish, hrun] <;> grind
  | @crashes prior last failures h =>
    have hprior : c.stopper.prior? = some prior := by rw [h]; rfl
    have hrun := running hprior
    constructor <;> simp only [Latch.finish, hrun] <;> grind

theorem latched_move {e : Event} (h : Move c e d) (inv : Latched c) : Latched d := by
  cases h with
  | starts h => exact inv.of_eq rfl rfl .rfl .rfl .rfl
  | arrives h => exact inv.of_eq rfl rfl .rfl .rfl .rfl
  | leaves n => exact inv.of_eq rfl rfl .rfl .rfl .rfl
  | elapses ms => exact inv.of_eq rfl rfl .rfl .rfl .rfl
  | starterAnswered he ha => exact inv.of_eq rfl rfl .rfl .rfl .rfl
  | stopperAnswered he ha =>
    exact inv.of_eq rfl (by simp) (by simp) (by simp) (by simp)
  | callerAnswered h he ha => exact inv.of_eq rfl rfl .rfl .rfl .rfl
  | starter h =>
    obtain ⟨-, -, hstopper, hlatch, -⟩ := h.frame
    exact inv.of_eq hlatch (by rw [hstopper]) (by rw [hstopper]) (by rw [hstopper])
      (by rw [hstopper])
  | keeper => exact inv.keep rfl rfl
  | stopper h => exact latched_stopper inv h
  | caller h =>
    obtain ⟨-, hstopper, -, -, -, -, -, -, hlatch | hlatch⟩ := h.frame
    · exact inv.of_eq hlatch (by rw [hstopper]) (by rw [hstopper]) (by rw [hstopper])
        (by rw [hstopper])
    · exact inv.claim hlatch hstopper

theorem latched_of_plan {options : ClusterOptions} {params : StartParams} {pid : UInt32}
    {obstacle : Option IoError} (h : plan options params pid obstacle = .ok c) : Latched c := by
  obtain ⟨configs, -, rfl⟩ := plan_eq_ok h
  constructor <;> simp [StopPhase.prior?]

/-! ## What is published -/

/-- What the latch publishes is what came out of the stop. -/
theorem Latched.action_of_outcome? (inv : Latched c) {outcome : StopOutcome}
    (h : c.latch.outcome? = some (some outcome)) : c.latch.action = .returned outcome := by
  unfold Latch.outcome? at h
  split at h
  · next value hphase =>
    obtain rfl := Option.some.inj (Option.some.inj h)
    exact inv.done_action value hphase
  · simp at h
  · simp at h

/-- The latch publishes that there is no outcome only if the stop broke down. -/
theorem Latched.crashed_of_outcome? (inv : Latched c) (h : c.latch.outcome? = some none) :
    c.stopper = .crashed := by
  unfold Latch.outcome? at h
  split at h
  · simp at h
  · next hphase => exact inv.crashed_iff.mp (inv.crashed_action hphase)
  · simp at h

theorem outcome?_claim {l : Latch StopOutcome} {outcome : Option StopOutcome}
    (h : l.outcome? = some outcome) : l.claim.outcome? = some outcome := by
  unfold Latch.claim
  split
  · next hphase => simp [Latch.outcome?, hphase] at h
  · exact h

/-- What the latch has published stays so. -/
theorem outcome?_move {e : Event} {outcome : Option StopOutcome} (h : Move c e d)
    (inv : Latched c) (ho : c.latch.outcome? = some outcome) :
    d.latch.outcome? = some outcome := by
  have unborn : c.stopper ≠ .unborn := by
    intro hunborn
    unfold Latch.outcome? at ho
    grind
  cases h with
  | starter h => rw [h.frame.2.2.2.1, ho]
  | keeper =>
    simp only [Latch.keep]
    unfold Latch.outcome? at ho ⊢
    grind
  | stopper h =>
    cases h with
    | begins h ha => exact absurd h unborn
    | ends hends =>
      unfold stopEnded Latch.finish
      simp only
      split <;> exact ho
    | crashes h =>
      unfold Latch.finish
      simp only
      split <;> exact ho
    | _ => exact ho
  | caller h =>
    obtain ⟨-, -, -, -, -, -, -, -, hlatch | hlatch⟩ := h.frame
    · rw [hlatch, ho]
    · rw [hlatch]
      exact outcome?_claim ho
  | _ => exact ho

/-! ## Calls that stop the cluster -/

/-- Where a call stands that stops the cluster. -/
inductive StopCall (c : Cluster) : CallPhase → Prop
  | fresh : StopCall c (.fresh .stop)
  | waiting : StopCall c .awaitingStop
  | returned {outcome : Option StopOutcome} (h : c.latch.outcome? = some outcome) :
      StopCall c (.returned (stopResult outcome))

/-- A call that stops the cluster is told nothing but what the latch has published. -/
theorem stopCall_move {e : Event} (h : Move c e d) (inv : Latched c) (he : e ≠ .leave n)
    (hcall : ∃ phase, c.callers.get? n = some phase ∧ StopCall c phase) :
    ∃ phase, d.callers.get? n = some phase ∧ StopCall d phase := by
  obtain ⟨phase, hphase, hcall⟩ := hcall
  rcases h.phase_cases hphase he with hsame | ⟨-, hown⟩ | ⟨errand, reply, herrand, -⟩
  · refine ⟨phase, hsame, ?_⟩
    cases hcall with
    | fresh => exact .fresh
    | waiting => exact .waiting
    | returned ho => exact .returned (outcome?_move h inv ho)
  · cases hcall with
    | fresh =>
      rw [hown.of_fresh_stop hphase]
      exact ⟨.awaitingStop, by simp [setCall], .waiting⟩
    | waiting =>
      obtain ⟨outcome, ho, rfl⟩ := hown.of_awaitingStop hphase
      exact ⟨.returned (stopResult outcome), by simp [setCall], .returned ho⟩
    | returned ho => exact absurd hown (CallerMove.not_of_returned hphase)
  · cases hcall <;> simp [CallPhase.errand?] at herrand

/-- A stop that has returned was told what the latch has published. -/
theorem stop_result {events : List Event} {result : Outcome Snapshot}
    (latched : Latched c) (hcame : CameIn c events n .stop)
    (hresult : (c.run events).result? n = some result) :
    ∃ outcome, (c.run events).latch.outcome? = some outcome ∧ result = stopResult outcome := by
  have latched_run (before : List Event) : Latched (c.run before) :=
    run_preserves (fun _ _ _ _ h inv => latched_move h inv) c latched
  obtain ⟨-, phase, hphase, hcall⟩ := hcame.run_preserves
    (P := fun d => Latched d ∧ ∃ phase, d.callers.get? n = some phase ∧ StopCall d phase)
    (fun before _ hfresh => ⟨latched_run before, .fresh .stop, hfresh, .fresh⟩)
    (fun e he _ _ h both => ⟨latched_move h both.1, stopCall_move h both.1 he both.2⟩)
  unfold result? at hresult
  rw [hphase] at hresult
  cases hcall with
  | fresh => simp at hresult
  | waiting => simp at hresult
  | returned ho => exact ⟨_, ho, (Option.some.inj hresult).symm⟩

/-! ## A stopped cluster -/

theorem StarterMove.isBusy (h : StarterMove c d) : c.starter.isBusy = true := by
  cases h with
  | _ h => rw [h]; rfl

/-- Once a cluster is stopped, its registry does not change any more. -/
theorem registry_of_stopped {e : Event} (h : Move c e d) (order : Orderly c)
    (hs : c.registry.state = .stopped) : d.registry = c.registry := by
  cases h with
  | starts h => simp [h] at hs
  | starter h =>
    rcases order.busy_state h.isBusy with hstate | hstate <;> simp [hstate] at hs
  | stopper h =>
    have ended := order.stopper_ended_iff.mpr hs
    cases h with
    | ends hends => cases hends <;> simp_all
    | _ => simp_all
  | caller h =>
    rcases h.registry_cases with heq | ⟨phase, name, hphase, hc, -⟩
    · exact heq
    · rcases order.charge_state _ phase hphase (by simp [hc]) with hstate | hstate <;> simp [hstate] at hs
  | _ => rfl

theorem Move.identity {e : Event} (h : Move c e d) : d.pid = c.pid ∧ d.rootDir = c.rootDir := by
  cases h with
  | starter h => cases h <;> exact ⟨rfl, rfl⟩
  | stopper h => cases h <;> exact ⟨rfl, rfl⟩
  | caller h =>
    cases h with
    | refused ha he => rw [ha.eq]; exact ⟨rfl, rfl⟩
    | unconfigured ha he hc => rw [ha.eq]; exact ⟨rfl, rfl⟩
    | removes ha he => rw [ha.eq]; exact ⟨rfl, rfl⟩
    | replaces ha he hc => rw [ha.eq]; exact ⟨rfl, rfl⟩
    | _ => exact ⟨rfl, rfl⟩
  | _ => exact ⟨rfl, rfl⟩

/-- Once a cluster is stopped, every snapshot of it is the same. -/
theorem snapshot_of_stopped {e : Event} (h : Move c e d) (order : Orderly c)
    (hs : c.registry.state = .stopped) : d.snapshot = c.snapshot := by
  obtain ⟨hpid, hroot⟩ := h.identity
  simp only [snapshot, registry_of_stopped h order hs, hpid, hroot]

end Cluster
end ClusterControl
