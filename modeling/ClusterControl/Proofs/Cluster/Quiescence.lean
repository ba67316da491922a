import ClusterControl.Proofs.Cluster.LaunchHistory
import ClusterControl.Proofs.Cluster.LockLine

/-!
# Nobody waits for nothing

Callers wait for the launch, for the stop and for the lock; the stop waits for the lock and for the
launch; the launch waits for the launcher.  When no worker can go on and the launcher owes no answer,
somebody in such a chain must have forgotten to tell the next one.  This module proves that nobody
forgets, with one exception: a launch over which the launcher breaks down never says that it is
over.

* `Quiet` — no worker can go on, and no errand is in the air.
* `Served` — whoever waits for the latch waits for a stop that was set off.
* `Attended` — the invariants together; `attended_run` — they hold after every run.
* `Attended.lock_of_quiet`, `Attended.stopper_of_quiet`, `Attended.latch_of_quiet` — in a quiet
  cluster no call holds the lock, no stop is under way, and a latch that was claimed has published.
* `answered_of_quiet` — in a quiet cluster every call has been answered, unless the launcher broke
  down over the launch.
* `stuck_pair` — the launcher breaks down over the launch, and the callers wait for ever.
-/

namespace ClusterControl
namespace Cluster

variable {c d : Cluster} {n : Nat}

/-! ## Quiet clusters -/

/-- No worker can go on, and no errand is in the air. -/
def Quiet (c : Cluster) : Prop :=
  ∀ w ∈ c.workers, c.ready w = false ∧ c.errand? w = none

instance (c : Cluster) : Decidable (Quiet c) :=
  inferInstanceAs (Decidable (∀ w ∈ c.workers, c.ready w = false ∧ c.errand? w = none))

theorem caller_mem_workers {phase : CallPhase} (h : c.callers.get? n = some phase) :
    .caller n ∈ c.workers := by
  have number : n ∈ c.callers.numbers := by
    obtain ⟨before, after, heq, -⟩ := List.lookup_eq_some_iff.mp h
    simp [Roster.numbers, heq]
  simp [workers, number]

namespace Quiet

theorem starter (h : Quiet c) : c.starterReady = false ∧ c.errand? .starter = none :=
  h .starter (by simp [workers])

theorem keeper (h : Quiet c) : c.latch.keeperReady = false :=
  (h .keeper (by simp [workers])).1

theorem stopper (h : Quiet c) : c.stopperReady = false ∧ c.errand? .stopper = none :=
  h .stopper (by simp [workers])

theorem caller (h : Quiet c) {phase : CallPhase} (hphase : c.callers.get? n = some phase) :
    c.callerReady n = false ∧ phase.errand? = none := by
  have quiet := h (.caller n) (caller_mem_workers hphase)
  rw [errand?_caller, hphase] at quiet
  exact quiet

/-- Nobody is changing a node in a quiet cluster: such a call can go on, or the launcher owes it an
answer. -/
theorem charge?_eq_none (h : Quiet c) {phase : CallPhase}
    (hphase : c.callers.get? n = some phase) : phase.charge? = none := by
  obtain ⟨unready, unasked⟩ := h.caller hphase
  unfold callerReady at unready
  rw [hphase] at unready
  unfold CallPhase.charge?
  split
  · next name reply => cases reply <;> simp [CallPhase.errand?] at unready unasked
  · next name config reply => cases reply <;> simp [CallPhase.errand?] at unready unasked
  · next name config reply => cases reply <;> simp [CallPhase.errand?] at unready unasked
  · next name deadline reply => cases reply <;> simp [CallPhase.errand?] at unready unasked
  · next name deadline reply => cases reply <;> simp [CallPhase.errand?] at unready unasked
  · next name cause reply => cases reply <;> simp [CallPhase.errand?] at unready unasked
  · rfl

/-- A launch that has not broken down is over in a quiet cluster, or there never was one. -/
theorem launch (h : Quiet c) (steady : Steady c.starter) :
    c.starter = .unborn ∨ c.starter = .ended := by
  obtain ⟨unready, unasked⟩ := h.starter
  cases hs : c.starter with
  | unborn => exact .inl rfl
  | ended => exact .inr rfl
  | spawned => simp [starterReady, hs] at unready
  | launching reply => cases reply <;> simp [starterReady, errand?, hs] at unready unasked
  | waiting deadline reply => cases reply <;> simp [starterReady, errand?, hs] at unready unasked
  | crashed =>
    rw [hs] at steady
    exact steady.elim

end Quiet

/-! ## Whoever waits for the latch -/

/-- The keeper of a latch that waits has set the action off, and one that is over has published. -/
structure Tended {α : Type} (l : Latch α) : Prop where
  waiting : l.keeper = .waiting → l.action ≠ .absent
  finished : l.keeper = .finished → l.isFinished = true

theorem Tended.claim {α : Type} {l : Latch α} (inv : Tended l) : Tended l.claim := by
  unfold Latch.claim
  split
  · exact ⟨by simp, by simp⟩
  · exact inv

theorem Tended.keep {α : Type} {l : Latch α} (inv : Tended l) : Tended l.keep := by
  unfold Latch.keep
  split
  · exact ⟨by simp, by simp⟩
  · next hkeeper =>
    split
    · exact ⟨by simp, fun _ => rfl⟩
    · exact ⟨by simp, fun _ => rfl⟩
    · exact inv
  · exact inv

theorem Tended.begin {α : Type} {l : Latch α} (inv : Tended l) : Tended l.begin := by
  unfold Latch.begin
  split
  · exact ⟨by simp, inv.finished⟩
  · exact inv

theorem Tended.finish {α : Type} {l : Latch α} (inv : Tended l) (outcome : Option α) :
    Tended (l.finish outcome) := by
  unfold Latch.finish
  split
  · refine ⟨fun _ => ?_, inv.finished⟩
    cases outcome <;> simp
  · exact inv

theorem isClaimed_claim {α : Type} (l : Latch α) : l.claim.isClaimed = true := by
  unfold Latch.claim
  split
  · rfl
  · next hphase =>
    unfold Latch.isClaimed
    split
    · next hidle => exact absurd hidle hphase
    · rfl

theorem isClaimed_keep {α : Type} {l : Latch α} (h : l.isClaimed = true) :
    l.keep.isClaimed = true := by
  unfold Latch.keep
  split
  · exact h
  · split
    · rfl
    · rfl
    · exact h
  · exact h

theorem isClaimed_finish {α : Type} {l : Latch α} (h : l.isClaimed = true) (outcome : Option α) :
    (l.finish outcome).isClaimed = true := by
  unfold Latch.finish
  split <;> exact h

/-- A stop that is over leaves its outcome with the latch. -/
theorem stopEnded_latch (c : Cluster) (prior : Lifecycle) (failures : List String) :
    (c.stopEnded prior failures).latch = c.latch.finish (some (stopOutcome prior failures
      { c with registry := c.registry.advance .stopped }.snapshot)) :=
  rfl

/-- A latch that was claimed stays so. -/
theorem isClaimed_move {e : Event} (h : Move c e d) (hl : c.latch.isClaimed = true) :
    d.latch.isClaimed = true := by
  cases h with
  | starter h => rw [h.frame.2.2.2.1, hl]
  | keeper => exact isClaimed_keep hl
  | stopper h =>
    cases h with
    | begins h ha =>
      show c.latch.begin.isClaimed = true
      unfold Latch.begin
      split <;> exact hl
    | ends hends =>
      rw [stopEnded_latch]
      exact isClaimed_finish hl _
    | crashes h => exact isClaimed_finish hl none
    | _ => exact hl
  | caller h =>
    obtain ⟨-, -, -, -, -, -, -, -, hlatch | hlatch⟩ := h.frame
    · rw [hlatch, hl]
    · rw [hlatch, isClaimed_claim]
  | _ => exact hl

/-- Whoever waits for the stop waits for one that was set off. -/
structure Served (c : Cluster) : Prop where
  tended : Tended c.latch
  claimed : ∀ n, c.callers.get? n = some .awaitingStop → c.latch.isClaimed = true
  -- a stop that had nodes to shut down came after a launch
  shut_born : c.stopper = .crashed ∨ (∃ prior last failures reply,
    c.stopper = .shutting prior last failures reply) → c.starter ≠ .unborn

/-- A move that leaves the stop and the launch alone. -/
theorem Served.of_eq (inv : Served c) (tended : Tended d.latch)
    (hclaimed : ∀ n, d.callers.get? n = some .awaitingStop → d.latch.isClaimed = true)
    (hstopper : d.stopper = c.stopper) (hstarter : d.starter = c.starter) : Served d where
  tended := tended
  claimed := hclaimed
  shut_born h := by
    rw [hstopper] at h
    rw [hstarter]
    exact inv.shut_born h

/-- A call that is not the stop of the cluster goes on. -/
theorem Served.setCall (inv : Served c) {phase : CallPhase} (hphase : phase ≠ .awaitingStop)
    (hcallers : d.callers = c.callers.set n phase) (hlatch : d.latch = c.latch)
    (hstopper : d.stopper = c.stopper) (hstarter : d.starter = c.starter) : Served d := by
  refine inv.of_eq (by rw [hlatch]; exact inv.tended) (fun m hm => ?_) hstopper hstarter
  rw [hcallers, Roster.get?_set] at hm
  rw [hlatch]
  split at hm
  · exact absurd (Option.some.inj hm) hphase
  · exact inv.claimed m hm

theorem served_stopper (inv : Served c) (coherent : Coherent c) (h : StopperMove c d) :
    Served d := by
  have born (hh : c.handle = true) : c.starter ≠ .unborn := by
    intro hunborn
    have early := coherent.early_handle (by rw [hunborn]; rfl)
    simp [hh] at early
  have claimed (hcallers : d.callers = c.callers) (n : Nat)
      (hn : d.callers.get? n = some .awaitingStop) : d.latch.isClaimed = true := by
    rw [hcallers] at hn
    exact isClaimed_move (.stopper h) (inv.claimed n hn)
  have hframe := h.frame
  refine ⟨?_, claimed hframe.1, fun hshut => ?_⟩
  · cases h with
    | begins h ha => exact inv.tended.begin
    | ends hends =>
      rw [stopEnded_latch]
      exact inv.tended.finish _
    | crashes h => exact inv.tended.finish none
    | _ => exact inv.tended
  · rw [hframe.2.1]
    cases h with
    | shuts h hl hh => exact born hh
    | shutsAgain h hd hh => exact born hh
    | crashes h => exact inv.shut_born (.inr ⟨_, _, _, _, h⟩)
    | tells h => exact inv.shut_born hshut
    | _ => simp [stopEnded] at hshut

theorem served_caller (inv : Served c) (h : CallerMove c n d) : Served d := by
  obtain ⟨hstarter, hstopper, -, -, -, -, -, -, hlatch⟩ := h.frame
  refine inv.of_eq ?_ (fun m hm => ?_) hstopper hstarter
  · rcases hlatch with heq | heq
    · rw [heq]
      exact inv.tended
    · rw [heq]
      exact inv.tended.claim
  · by_cases hold : c.callers.get? m = some .awaitingStop
    · exact isClaimed_move (.caller h) (inv.claimed m hold)
    · -- The call waits for the stop from now on, so it has just claimed the latch.
      have hself : m = n := by
        by_contra hne
        rw [h.get?_of_ne hne] at hm
        exact hold hm
      subst hself
      cases h with
      | claimsStop h => exact isClaimed_claim c.latch
      | _ => simp [setCall, conclude, breakOff, cleanUp, ask] at hm

theorem served_move {e : Event} (h : Move c e d) (coherent : Coherent c) (inv : Served c) :
    Served d := by
  cases h with
  | starts h =>
    refine ⟨inv.tended, inv.claimed, fun _ => by simp⟩
  | arrives h => exact inv.setCall (by simp) rfl rfl rfl rfl
  | leaves n =>
    refine inv.of_eq inv.tended (fun m hm => ?_) rfl rfl
    simp only [leave, Roster.get?_erase] at hm
    split at hm
    · simp at hm
    · exact inv.claimed m hm
  | elapses ms => exact inv.of_eq inv.tended inv.claimed rfl rfl
  | starterAnswered he ha =>
    refine ⟨inv.tended, inv.claimed, fun hshut => ?_⟩
    simpa using inv.shut_born hshut
  | @stopperAnswered errand reply he ha =>
    refine ⟨inv.tended, inv.claimed, fun hshut => ?_⟩
    have shutting : ∃ prior last failures, c.stopper = .shutting prior last failures none := by
      simp only [errand?] at he
      split at he
      · next prior last failures hs => exact ⟨prior, last, failures, hs⟩
      · simp at he
    obtain ⟨prior, last, failures, hs⟩ := shutting
    exact inv.shut_born (.inr ⟨prior, last, failures, none, hs⟩)
  | @callerAnswered n phase errand reply hphase he ha =>
    have hcharge := CallPhase.charge?_isSome_of_errand? he
    rw [← CallPhase.charge?_take reply] at hcharge
    refine inv.setCall (fun heq => ?_) rfl rfl rfl rfl
    rw [heq] at hcharge
    simp [CallPhase.charge?] at hcharge
  | starter h =>
    obtain ⟨hcallers, -, hstopper, hlatch, -⟩ := h.frame
    have busy := h.isBusy
    refine ⟨by rw [hlatch]; exact inv.tended, by rw [hcallers, hlatch]; exact inv.claimed,
      fun _ hunborn => ?_⟩
    have unborn := unborn_of_move (.starter h) hunborn
    simp [unborn, StartPhase.isBusy] at busy
  | keeper =>
    exact inv.of_eq inv.tended.keep (fun m hm => isClaimed_keep (inv.claimed m hm)) rfl rfl
  | stopper h => exact served_stopper inv coherent h
  | caller h => exact served_caller inv h

/-! ## A stop that comes first -/

/-- A stop that found a cluster that was only planned does not wait for a launch. -/
def Prompt (phase : StopPhase) : Prop :=
  ∀ failures, phase ≠ .awaitingStart .created failures

theorem prompt_shutLast (c : Cluster) (prior : Lifecycle) (failures : List String) :
    Prompt (c.shutLast prior failures).stopper := by
  unfold shutLast
  split <;> simp [Prompt, ask, stopEnded]

theorem prompt_awaitStart (c : Cluster) (prior : Lifecycle) (failures : List String) :
    Prompt (c.awaitStart prior failures).stopper := by
  unfold awaitStart
  split
  · exact prompt_shutLast _ prior failures
  · next hprior =>
    split
    · exact prompt_shutLast c prior failures
    · intro others heq
      exact hprior (StopPhase.awaitingStart.inj heq).1

theorem prompt_shutFirst (c : Cluster) (prior : Lifecycle) :
    Prompt (c.shutFirst prior).stopper := by
  unfold shutFirst
  split
  · simp [Prompt, ask]
  · exact prompt_awaitStart c prior []

theorem prompt_shutDown (c : Cluster) (prior : Lifecycle) (last : Bool) (failures : List String) :
    Prompt (c.shutDown prior last failures).stopper := by
  unfold shutDown
  split
  · simp [Prompt, stopEnded]
  · exact prompt_awaitStart c prior failures

theorem prompt_pollStopper (inv : Prompt c.stopper) : Prompt c.pollStopper.stopper := by
  unfold pollStopper
  split
  · split
    · simp only
      split
      · exact prompt_shutFirst _ _
      · simp [Prompt]
    · exact inv
  · split
    · exact prompt_shutFirst _ _
    · exact inv
  · split
    · exact prompt_shutDown _ _ _ _
    · exact prompt_shutDown _ _ _ _
    · simp [Prompt]
  · split
    · exact prompt_shutLast _ _ _
    · exact inv
  · exact inv

/-- Within an event a stop may pass through the wait for a launch that there never was, but it does
not stay there. -/
theorem prompt_step (inv : Prompt c.stopper) (e : Event) : Prompt (c.step e).stopper := by
  by_cases he : e = .poll .stopper
  · subst he
    exact prompt_pollStopper inv
  · refine step_preserves (P := fun d => Prompt d.stopper) (fun {c d} h inv => ?_) c inv
    rcases stopper_of_ne h he with hsame | ⟨reply, -, htaken⟩
    · rw [hsame]
      exact inv
    · rw [htaken]
      unfold StopPhase.take
      split
      · simp [Prompt]
      · exact inv

theorem prompt_run (inv : Prompt c.stopper) (events : List Event) :
    Prompt (c.run events).stopper := by
  induction events generalizing c with
  | nil => exact inv
  | cons e rest ih => exact ih (prompt_step inv e)

/-! ## The invariants together -/

/-- Everybody who waits is attended to. -/
structure Attended (c : Cluster) : Prop extends Orderly c, Latched c, Lined c, Served c

theorem attended_move {e : Event} (h : Move c e d) (inv : Attended c) : Attended d where
  toOrderly := orderly_move h inv.toOrderly
  toLatched := latched_move h inv.toLatched
  toLined := lined_move h inv.toCustody inv.toLined
  toServed := served_move h inv.toCoherent inv.toServed

theorem attended_run (inv : Attended c) (events : List Event) : Attended (c.run events) :=
  run_preserves (fun _ _ _ _ h inv => attended_move h inv) c inv

theorem attended_of_plan {options : ClusterOptions} {params : StartParams} {pid : UInt32}
    {obstacle : Option IoError} (h : plan options params pid obstacle = .ok c) : Attended c where
  toOrderly := orderly_of_plan h
  toLatched := latched_of_plan h
  toLined := lined_of_plan h
  toServed := by
    obtain ⟨configs, -, rfl⟩ := plan_eq_ok h
    have nobody (n : Nat) : (Roster.get? {} n : Option CallPhase) = none := rfl
    refine ⟨⟨by simp, by simp⟩, fun n hn => ?_, by simp⟩
    simp [nobody] at hn

namespace Attended

/-- In a quiet cluster the lock is free, or the stop holds it. -/
theorem lock_of_quiet (inv : Attended c) (quiet : Quiet c) {w : Worker}
    (hw : c.lock.holder = some w) : w = .stopper := by
  have contends := (inv.mem_iff w).mp (FairLock.mem_line_of_holder hw)
  cases w with
  | stopper => rfl
  | starter => simp [Cluster.contends] at contends
  | keeper => simp [Cluster.contends] at contends
  | caller n =>
    cases hphase : c.callers.get? n with
    | none => simp [Cluster.contends, hphase] at contends
    | some phase =>
      rw [contends_caller hphase] at contends
      have idle := quiet.charge?_eq_none hphase
      have unready := (quiet.caller hphase).1
      -- The call does not change a node yet, so it can go on now that it has the lock.
      unfold CallPhase.contends at contends
      split at contends
      · simp [callerReady, hphase, FairLock.isHeldBy, hw] at unready
      · simp [idle] at contends

/-- In a quiet cluster whose launch has not broken down, no stop is under way. -/
theorem stopper_of_quiet (inv : Attended c) (quiet : Quiet c) (steady : Steady c.starter)
    (prompt : Prompt c.stopper) : c.stopper.prior? = none := by
  obtain ⟨unready, unasked⟩ := quiet.stopper
  cases hs : c.stopper with
  | unborn => rfl
  | ended => rfl
  | crashed => rfl
  | queued prior =>
    -- Whoever holds the lock would go on, and it is the stop itself.
    have contends : c.contends .stopper = true := by simp [Cluster.contends, hs, StopPhase.prior?]
    obtain ⟨holder, hholder⟩ := inv.tight.exists_holder ((inv.mem_iff _).mpr contends)
    obtain rfl := inv.lock_of_quiet quiet hholder
    simp [stopperReady, hs, FairLock.isHeldBy, hholder] at unready
  | shutting prior last failures reply =>
    cases reply <;> simp [stopperReady, errand?, hs] at unready unasked
  | awaitingStart prior failures =>
    have undone : c.startDone = false := by simpa [stopperReady, hs] using unready
    have hprior : prior ≠ .created := by
      rintro rfl
      exact prompt failures hs
    have born : c.starter ≠ .unborn := by
      intro hunborn
      exact hprior ((inv.prior_iff prior (by rw [hs]; rfl)).mpr hunborn)
    have ended := (quiet.launch steady).resolve_left born
    simp [inv.ended_done ended] at undone

/-- In a quiet cluster whose launch has not broken down, the lock is free and nobody wants it. -/
theorem contends_of_quiet (inv : Attended c) (quiet : Quiet c) (steady : Steady c.starter)
    (prompt : Prompt c.stopper) (w : Worker) : c.contends w = false := by
  have idle := inv.stopper_of_quiet quiet steady prompt
  by_contra hcontends
  obtain ⟨holder, hholder⟩ :=
    inv.tight.exists_holder ((inv.mem_iff w).mpr (by simpa using hcontends))
  obtain rfl := inv.lock_of_quiet quiet hholder
  have contends := (inv.mem_iff _).mp (FairLock.mem_line_of_holder hholder)
  simp [Cluster.contends, idle] at contends

/-- In a quiet cluster whose launch has not broken down, a latch that was claimed has published. -/
theorem latch_of_quiet (inv : Attended c) (quiet : Quiet c) (steady : Steady c.starter)
    (prompt : Prompt c.stopper) (hclaimed : c.latch.isClaimed = true) :
    c.latch.isFinished = true := by
  have unready := quiet.keeper
  cases hkeeper : c.latch.keeper with
  | absent =>
    have idle := inv.idle_iff.mpr hkeeper
    simp [Latch.isClaimed, idle] at hclaimed
  | spawned => simp [Latch.keeperReady, hkeeper] at unready
  | finished => exact inv.tended.finished hkeeper
  | waiting =>
    cases haction : c.latch.action with
    | absent => exact absurd haction (inv.tended.waiting hkeeper)
    | returned outcome => simp [Latch.keeperReady, hkeeper, haction] at unready
    | crashed => simp [Latch.keeperReady, hkeeper, haction] at unready
    | spawned =>
      -- The stop was set off and has not begun, so it can.
      have unborn := inv.unborn_iff.mpr (.inr haction)
      have idle := quiet.stopper.1
      simp [stopperReady, unborn, haction] at idle
    | running =>
      have underway := inv.running_iff.mp haction
      simp [inv.stopper_of_quiet quiet steady prompt] at underway

/-- In a quiet cluster in which a launch was asked for or a stop has taken effect, the launch is
said to be over, unless it broke down. -/
theorem startDone_of_quiet (inv : Attended c) (quiet : Quiet c) (steady : Steady c.starter)
    (prompt : Prompt c.stopper) (hbegun : c.starter ≠ .unborn ∨ c.stopSignal = true) :
    c.startDone = true := by
  rcases quiet.launch steady with hunborn | hended
  · have signal := hbegun.resolve_left (fun hborn => hborn hunborn)
    have idle := inv.stopper_of_quiet quiet steady prompt
    -- There never was a launch, so the stop had nothing to shut down and is over.
    have ended : c.stopper = .ended := by
      cases hs : c.stopper with
      | ended => rfl
      | unborn => simp [inv.stopper_unborn_iff.mp hs] at signal
      | crashed => exact absurd hunborn (inv.shut_born (.inl hs))
      | _ => simp [hs, StopPhase.prior?] at idle
    exact (inv.stopped_quiet (inv.stopper_ended_iff.mp ended)).1
  · exact inv.ended_done hended

/-- In a quiet cluster whose launch has not broken down, a call has been answered or was broken off,
or it waits for a start that nobody has asked for. -/
theorem phase_of_quiet (inv : Attended c) (quiet : Quiet c) (steady : Steady c.starter)
    (prompt : Prompt c.stopper) {phase : CallPhase} (hphase : c.callers.get? n = some phase) :
    (∃ result, phase = .returned result) ∨ phase = .crashed ∨
      phase = .awaitingReady ∧ c.startDone = false := by
  obtain ⟨unready, -⟩ := quiet.caller hphase
  have idle := quiet.charge?_eq_none hphase
  cases phase with
  | returned result => exact .inl ⟨result, rfl⟩
  | crashed => exact .inr (.inl rfl)
  | awaitingReady => exact .inr (.inr ⟨rfl, by simpa [callerReady, hphase] using unready⟩)
  | fresh call => simp [callerReady, hphase] at unready
  | awaitingStop =>
    have finished := inv.latch_of_quiet quiet steady prompt (inv.claimed n hphase)
    simp [callerReady, hphase, finished] at unready
  | queued m =>
    have contends := inv.contends_of_quiet quiet steady prompt (.caller n)
    rw [contends_caller hphase] at contends
    simp [CallPhase.contends] at contends
  | _ => simp [CallPhase.charge?] at idle

end Attended

/-! ## Main results -/

/-- In the course of a run the cluster was started, or a call has begun to stop it. -/
def Begun (c : Cluster) (events : List Event) : Prop :=
  .start ∈ events ∨ ∃ before n after, events = before ++ .poll (.caller n) :: after ∧
    (c.run before).callers.get? n = some (.fresh .stop)

theorem isClaimed_run (hl : c.latch.isClaimed = true) (events : List Event) :
    (c.run events).latch.isClaimed = true :=
  run_preserves (P := fun d => d.latch.isClaimed = true)
    (fun _ _ _ _ h hl => isClaimed_move h hl) c hl

theorem stopSignal_run (hs : c.stopSignal = true) (events : List Event) :
    (c.run events).stopSignal = true :=
  run_preserves (P := fun d => d.stopSignal = true) (fun _ _ _ _ h hs => stopSignal_move h hs) c hs

/-- After a start there is a launch, or a stop came first. -/
theorem born_of_start (order : Orderly c) {events : List Event} (hstart : .start ∈ events) :
    (c.run events).starter ≠ .unborn ∨ (c.run events).stopSignal = true := by
  obtain ⟨before, after, rfl⟩ := List.append_of_mem hstart
  by_cases hunborn : (c.run (before ++ .start :: after)).starter = .unborn
  · refine .inr ?_
    rw [run_append, run_cons] at hunborn ⊢
    have order' := orderly_run order before
    have unstarted : ((c.run before).step .start).starter = .unborn := unborn_of_run hunborn
    have unborn : (c.run before).starter = .unborn := @unborn_of_run (c.run before) [.start] unstarted
    rcases order'.unborn_state unborn with hcreated | hstopping
    · have started : ((c.run before).step .start).starter = .spawned := by
        simp [step, start, hcreated, Lifecycle.canAdvance]
      simp [started] at unstarted
    · have signal := order'.signal_iff.mpr hstopping
      exact stopSignal_run (stopSignal_run signal [.start]) after
  · exact .inl hunborn

/-- After a call has begun to stop the cluster, the latch is claimed. -/
theorem isClaimed_of_stop {before after : List Event}
    (hphase : (c.run before).callers.get? n = some (.fresh .stop)) :
    (c.run (before ++ .poll (.caller n) :: after)).latch.isClaimed = true := by
  rw [run_append, run_cons]
  have claimed : ((c.run before).step (.poll (.caller n))).latch.isClaimed = true := by
    have polled : (c.run before).step (.poll (.caller n)) =
        { c.run before with latch := (c.run before).latch.claim }.readStop n := by
      simp only [step, poll, pollCaller, hphase, beginCall]
    rw [polled]
    unfold readStop
    split <;> exact isClaimed_claim _
  exact isClaimed_run claimed after

/-- In a quiet cluster that was started or that a call has begun to stop, the launch is said to be
over, unless it broke down. -/
theorem Begun.startDone {events : List Event} (hbegun : Begun c events) (attended : Attended c)
    (quiet : Quiet (c.run events)) (steady : Steady (c.run events).starter)
    (prompt : Prompt (c.run events).stopper) : (c.run events).startDone = true := by
  have inv := attended_run attended events
  refine inv.startDone_of_quiet quiet steady prompt ?_
  rcases hbegun with hstart | ⟨before, n, after, rfl, hphase⟩
  · exact born_of_start attended.toOrderly hstart
  · refine .inr ?_
    have finished := inv.latch_of_quiet quiet steady prompt (isClaimed_of_stop hphase)
    -- What is published came out of a stop, so a stop has taken effect.
    by_contra hsignal
    have unborn := inv.stopper_unborn_iff.mpr (by simpa using hsignal)
    have action := inv.unborn_iff.mp unborn
    unfold Latch.isFinished at finished
    split at finished
    · next outcome hdone => simp [inv.done_action outcome hdone] at action
    · next hcrashed => simp [inv.crashed_action hcrashed] at action
    · simp at finished

/-- In every run of a planned cluster over whose launch the launcher does not break down, once
nothing goes on any more, every stop has returned, every call that waits for the start has returned
if the cluster was started or a call has begun to stop it, and every change of a node has returned
or was broken off because the launcher broke down over it. -/
theorem answered_of_quiet {options : ClusterOptions} {params : StartParams} {pid : UInt32}
    {obstacle : Option IoError} (h : plan options params pid obstacle = .ok c)
    {events : List Event} (unbroken : .answer .starter (.mishap .crashed) ∉ events)
    (quiet : Quiet (c.run events)) :
    (∀ n, CameIn c events n .stop → ∃ result, (c.run events).result? n = some result) ∧
    (∀ n, CameIn c events n .waitReady → Begun c events →
      ∃ result, (c.run events).result? n = some result) ∧
    (∀ n m, CameIn c events n (.mutate m) →
      (∃ result, (c.run events).result? n = some result) ∨
        (c.run events).callers.get? n = some .crashed) := by
  have attended := attended_of_plan h
  have inv := attended_run attended events
  have fresh : Steady c.starter ∧ Prompt c.stopper := by
    obtain ⟨configs, -, rfl⟩ := plan_eq_ok h
    exact ⟨trivial, by simp [Prompt]⟩
  have steady : Steady (c.run events).starter :=
    run_preserves (P := fun d => Steady d.starter)
      (fun e he _ _ hmove inv => steady_move hmove (ne_of_mem_of_not_mem he unbroken) inv)
      c fresh.1
  have prompt := prompt_run fresh.2 events
  have returned {n : Nat} {result : Outcome Snapshot}
      (hphase : (c.run events).callers.get? n = some (.returned result)) :
      ∃ result, (c.run events).result? n = some result := ⟨result, by simp [result?, hphase]⟩
  refine ⟨fun n hcame => ?_, fun n hcame hbegun => ?_, fun n m hcame => ?_⟩
  · obtain ⟨phase, hphase, suits⟩ := hcame.suits
    rcases inv.phase_of_quiet quiet steady prompt hphase with ⟨result, rfl⟩ | rfl | ⟨rfl, -⟩
    · exact returned hphase
    · exact absurd suits (by rintro (_ | _))
    · exact absurd suits.of_awaitingReady (by simp)
  · obtain ⟨phase, hphase, suits⟩ := hcame.suits
    have done := hbegun.startDone attended quiet steady prompt
    rcases inv.phase_of_quiet quiet steady prompt hphase with ⟨result, rfl⟩ | rfl | ⟨rfl, hundone⟩
    · exact returned hphase
    · exact absurd suits (by rintro (_ | _))
    · simp [done] at hundone
  · obtain ⟨phase, hphase, suits⟩ := hcame.suits
    rcases inv.phase_of_quiet quiet steady prompt hphase with ⟨result, rfl⟩ | rfl | ⟨rfl, -⟩
    · exact .inl (returned hphase)
    · exact .inr hphase
    · exact absurd suits.of_awaitingReady (by simp)

/-- A launch of the small cluster that fails while a call waits for it and another one stops the
cluster: when nothing goes on any more, both have returned. -/
theorem pair_answered :
    let events : List Event := [.call 1 .waitReady, .poll (.caller 1), .start, .poll .starter,
      .call 2 .stop, .poll (.caller 2), .poll .keeper, .poll .stopper,
      .answer .starter (.mishap (.failed .aborted)), .poll .starter, .poll .stopper, .poll .keeper,
      .poll (.caller 1), .poll (.caller 2)]
    (∃ result, (pair.run events).result? 1 = some result) ∧
      ∃ result, (pair.run events).result? 2 = some result := by
  intro events
  have unbroken : .answer .starter (.mishap .crashed) ∉ events := by decide
  have quiet : Quiet (pair.run events) := by decide
  obtain ⟨stops, waits, -⟩ := answered_of_quiet plan_pair unbroken quiet
  have begun : Begun pair events := .inl (by decide)
  have waiter : CameIn pair events 1 .waitReady := ⟨[], _, rfl, rfl, by decide⟩
  have stopCall : CameIn pair events 2 .stop :=
    ⟨[.call 1 .waitReady, .poll (.caller 1), .start, .poll .starter], _, rfl, rfl, by decide⟩
  exact ⟨waits 1 waiter begun, stops 2 stopCall⟩

/-- The launcher breaks down over the launch of the small cluster.  Nothing says that the launch is
over, so a call that waits for it and one that stops the cluster wait although nothing goes on. -/
theorem stuck_pair :
    ∃ events, .start ∈ events ∧ CameIn pair events 1 .waitReady ∧ CameIn pair events 2 .stop ∧
      Quiet (pair.run events) ∧ (pair.run events).result? 1 = none ∧
      (pair.run events).result? 2 = none := by
  let launch : List Event :=
    [.start, .poll .starter, .answer .starter (.mishap .crashed), .poll .starter]
  refine ⟨launch ++ [.call 1 .waitReady, .poll (.caller 1), .call 2 .stop, .poll (.caller 2),
    .poll .keeper, .poll .stopper], by decide, ⟨launch, _, rfl, rfl, by decide⟩,
    ⟨launch ++ [.call 1 .waitReady, .poll (.caller 1)], _, rfl, rfl, by decide⟩, by decide, rfl,
    rfl⟩

end Cluster
end ClusterControl
