import ClusterControl.Proofs.Cluster.Journal
import ClusterControl.Proofs.Cluster.StopCalls

/-!
# Launch and shutdown happen once

The nodes may come up before a stop looks for them, while it waits, or after it was requested, and
the stop looks for them twice.  This module counts, in the journal of what goes on with the
launcher, how often the nodes are launched and shut down.

* `launches`, `shutdowns`, `shutdownsOver`, `launched`, `shutdownFailures` — what the journal tells.
* `Audited` — the journal agrees with the phases of the launch and of the stop.
* `StoppedIn` — a stop took effect in this state, and comes out accordingly.
* `launch_and_shutdown_once` — nodes are launched at most once, what was launched is shut down
  exactly once before any stop returns, and all stops return the same.
-/

namespace ClusterControl

/-- How a stop comes out that took effect in this state, with these failures. -/
def stopOutcome (prior : Lifecycle) (failures : List String) (snapshot : Snapshot) : StopOutcome :=
  if failures.isEmpty || prior ≠ .healthy then .ok snapshot
  else .error (String.intercalate "; " failures)

namespace StartPhase

/-- The launcher was asked for the nodes. -/
def hasAsked : StartPhase → Bool
  | unborn => false
  | spawned => false
  | _ => true

/-- Whether the launcher has launched the nodes, as far as the phase of the launch tells. -/
def launched? : StartPhase → Option Bool
  | unborn => some false
  | spawned => some false
  | launching none => some false
  | launching (some (.ok ())) => some true
  | launching (some (.error _)) => some false
  | waiting _ _ => some true
  | ended => none
  | crashed => none

end StartPhase

namespace StopPhase

def isShutting : StopPhase → Bool
  | shutting _ _ _ none => true
  | _ => false

/-- The failures of the shutdowns so far, as far as the phase of the stop tells. -/
def failures? : StopPhase → Option (List String)
  | unborn => some []
  | queued _ => some []
  | shutting _ _ failures none => some failures
  | shutting _ _ failures (some reply) => some (tally failures reply)
  | awaitingStart _ failures => some failures
  | ended => none
  | crashed => none

end StopPhase

namespace Cluster

variable {c d : Cluster} {n : Nat}

/-- A journal agrees with the phases of the launch and of the stop, and with whether the launched
nodes are at hand. -/
structure Audit (j : Journal) (starter : StartPhase) (stopper : StopPhase) (handle : Bool) :
    Prop where
  launches_eq : j.launches = starter.hasAsked.toNat
  -- the launch knows whether the launcher has launched the nodes
  launched_eq : ∀ launched, starter.launched? = some launched → j.launched = launched
  -- nodes that were handed over are at hand, or were shut down
  shutdowns_eq : j.shutdowns + handle.toNat = (j.launched && !starter.isEarly).toNat
  over_eq : j.shutdownsOver + stopper.isShutting.toNat = j.shutdowns
  failures_eq : ∀ failures, stopper.failures? = some failures →
    j.shutdownFailures.map Failure.message = failures

abbrev Audited (c : Cluster) : Prop := Audit c.journal c.starter c.stopper c.handle

attribute [grind] StartPhase.hasAsked StartPhase.launched? StopPhase.isShutting StopPhase.failures?
attribute [grind cases] Audit

/-- That a minor errand begins or is answered does not matter for launches and shutdowns. -/
theorem Audit.minor {j : Journal} {starter : StartPhase} {stopper : StopPhase} {handle : Bool}
    {entry : JournalEntry} (inv : Audit j starter stopper handle)
    (h : entry.errand.isMinor = true) : Audit (entry :: j) starter stopper handle := by
  obtain ⟨h₁, h₂, h₃, h₄, h₅⟩ := Journal.minor_entry h
  constructor <;> grind

/-- A launch that is over, well or badly, stays audited, if it has handed over all nodes that the
launcher has launched. -/
theorem Audit.finish {j : Journal} {starter after : StartPhase} {stopper : StopPhase}
    {handle : Bool} (inv : Audit j starter stopper handle) (hasked : starter.hasAsked = true)
    (handed : Bool) (hnodes : j.shutdowns + handed.toNat = j.launched.toNat)
    (hafter : after = .ended ∨ after = .crashed) : Audit j after stopper handed where
  launches_eq := by rcases hafter with rfl | rfl <;> rw [inv.launches_eq, hasked] <;> rfl
  launched_eq _ h := by rcases hafter with rfl | rfl <;> simp [StartPhase.launched?] at h
  shutdowns_eq := by rcases hafter with rfl | rfl <;> simpa [StartPhase.isEarly] using hnodes
  over_eq := inv.over_eq
  failures_eq := inv.failures_eq

theorem audited_starter (inv : Audited c) (h : StarterMove c d) : Audited d := by
  -- Nothing was launched, or all that was launched has been handed over.
  have unlaunched (hl : c.starter.launched? = some false) :
      c.journal.shutdowns + c.handle.toNat = c.journal.launched.toNat := by
    simpa [inv.launched_eq false hl] using inv.shutdowns_eq
  have late (hl : c.starter.isEarly = false) :
      c.journal.shutdowns + c.handle.toNat = c.journal.launched.toNat := by
    simpa [hl] using inv.shutdowns_eq
  cases h with
  | asks h =>
    have unlaunched := inv.launched_eq false (by rw [h]; rfl)
    have unasked := inv.launches_eq
    have unshut := inv.shutdowns_eq
    simp only [h, StartPhase.hasAsked, StartPhase.isEarly, unlaunched] at unasked unshut
    exact {
      launches_eq := by simp [ask, unasked, JournalEntry.asksLaunch, StartPhase.hasAsked]
      launched_eq := by simp [ask, unlaunched, JournalEntry.isLaunched, StartPhase.launched?]
      shutdowns_eq := by simpa [ask, JournalEntry.asksShutdown, StartPhase.isEarly] using unshut
      over_eq := by
        simpa [ask, JournalEntry.endsShutdown, JournalEntry.asksShutdown] using inv.over_eq
      failures_eq := by simpa [ask, JournalEntry.shutdownFailure?] using inv.failures_eq }
  | waits h hj =>
    have launched := inv.launched_eq true (by rw [h]; rfl)
    have asked := inv.launches_eq
    have unshut := inv.shutdowns_eq
    simp only [h, StartPhase.hasAsked, StartPhase.isEarly, launched] at asked unshut
    have waiting : Audit c.journal (.waiting c.deadline none) c.stopper true := {
      launches_eq := asked
      launched_eq := by simp [launched, StartPhase.launched?]
      shutdowns_eq := by simp_all [StartPhase.isEarly]
      over_eq := inv.over_eq
      failures_eq := inv.failures_eq }
    exact waiting.minor rfl
  | givesUp h hj =>
    have launched := inv.launched_eq true (by rw [h]; rfl)
    have unshut := inv.shutdowns_eq
    simp only [h, StartPhase.isEarly, launched] at unshut
    exact inv.finish (by rw [h]; rfl) true (by simp_all) (.inl rfl)
  | launchFails h =>
    exact inv.finish (by rw [h]; rfl) c.handle (unlaunched (by rw [h]; rfl)) (.inl rfl)
  | waitFails h hj => exact inv.finish (by rw [h]; rfl) c.handle (late (by rw [h]; rfl)) (.inl rfl)
  | rejects h hj hp => exact inv.finish (by rw [h]; rfl) c.handle (late (by rw [h]; rfl)) (.inl rfl)
  | publishes h hj hp =>
    exact inv.finish (by rw [h]; rfl) c.handle (late (by rw [h]; rfl)) (.inl rfl)
  | launchCrashes h =>
    exact inv.finish (by rw [h]; rfl) c.handle (unlaunched (by rw [h]; rfl)) (.inr rfl)
  | waitCrashes h hj =>
    exact inv.finish (by rw [h]; rfl) c.handle (late (by rw [h]; rfl)) (.inr rfl)

theorem Audit.shuts {j : Journal} {starter : StartPhase} {stopper : StopPhase}
    (inv : Audit j starter stopper true) (prior : Lifecycle) (last : Bool) {failures : List String}
    (hidle : stopper.isShutting = false) (hfailures : stopper.failures? = some failures) :
    Audit (.asked .stopper .shutdown :: j) starter (.shutting prior last failures none) false where
  launches_eq := by simpa [JournalEntry.asksLaunch] using inv.launches_eq
  launched_eq := by simpa [JournalEntry.isLaunched] using inv.launched_eq
  shutdowns_eq := by
    simpa [JournalEntry.asksShutdown, JournalEntry.isLaunched] using inv.shutdowns_eq
  over_eq := by
    have settled := inv.over_eq
    simp only [hidle] at settled
    simp [JournalEntry.asksShutdown, JournalEntry.endsShutdown, StopPhase.isShutting, ← settled]
  failures_eq := by
    have known := inv.failures_eq failures hfailures
    simp [JournalEntry.shutdownFailure?, StopPhase.failures?, known]

/-- A stop that is not shutting nodes down may pass to a phase in which it is not either, as long as
it forgets no failure. -/
theorem Audit.passes {j : Journal} {starter : StartPhase} {stopper after : StopPhase}
    {handle : Bool} (inv : Audit j starter stopper handle) (hidle : stopper.isShutting = false)
    (hafter : after.isShutting = false)
    (hfailures : after.failures? = none ∨ after.failures? = stopper.failures?) :
    Audit j starter after handle :=
  { inv with
    over_eq := by rw [hafter, ← hidle, inv.over_eq]
    failures_eq := fun failures h => by
      rcases hfailures with hnone | hsame
      · simp [hnone] at h
      · exact inv.failures_eq failures (hsame ▸ h) }

theorem audited_stopper (inv : Audited c) (h : StopperMove c d) : Audited d := by
  cases h with
  | begins h ha => exact inv.passes (by rw [h]; rfl) rfl (.inr (by rw [h]; rfl))
  | @shuts prior h hl hh =>
    have handed : Audit c.journal c.starter c.stopper true := hh ▸ inv
    exact handed.shuts prior false (by rw [h]; rfl) (by rw [h]; rfl)
  | passes h hl hh => exact inv.passes (by rw [h]; rfl) rfl (.inr (by rw [h]; rfl))
  | goesOn h hr => exact inv.passes (by rw [h]; rfl) rfl (.inr (by rw [h]; rfl))
  | tells h => exact inv
  | @shutsAgain prior failures h hd hh =>
    have handed : Audit c.journal c.starter c.stopper true := hh ▸ inv
    exact handed.shuts prior true (by rw [h]; rfl) (by rw [h]; rfl)
  | ends hends =>
    have idle : c.stopper.isShutting = false := by
      cases hends <;> simp [*, StopPhase.isShutting]
    exact inv.passes idle rfl (.inl rfl)
  | crashes h => exact inv.passes (by rw [h]; rfl) rfl (.inl rfl)

theorem audited_starterAnswered (inv : Audited c) {errand : Errand} {reply : Reply}
    (he : c.errand? .starter = some errand) (ha : reply.answers errand = true) :
    Audit (.answered .starter errand reply :: c.journal) (c.starter.take reply) c.stopper
      c.handle := by
  simp only [errand?] at he
  split at he
  · next hs =>
    obtain rfl := Option.some.inj he
    have unlaunched := inv.launched_eq false (by rw [hs]; rfl)
    have asked := inv.launches_eq
    have unshut := inv.shutdowns_eq
    simp only [hs, StartPhase.hasAsked, StartPhase.isEarly, unlaunched] at asked unshut
    have answered : JournalEntry.isLaunched (.answered .starter (.launch c.registry.orderedConfigs)
        reply) = decide (reply.toDone = some (.ok ())) := by
      cases reply <;> simp_all [JournalEntry.isLaunched, Reply.toDone, Reply.answers]
    have phase : c.starter.take reply = .launching reply.toDone := by rw [hs]; rfl
    have heard : reply.toDone.isSome = true := by
      cases reply <;> simp_all [Reply.toDone, Reply.answers]
    rw [phase]
    exact {
      launches_eq := by simpa [JournalEntry.asksLaunch, StartPhase.hasAsked] using asked
      launched_eq := by
        rw [Journal.launched_cons, answered, unlaunched]
        cases hr : reply.toDone with
        | none => simp [hr] at heard
        | some r => cases r <;> simp [StartPhase.launched?]
      shutdowns_eq := by simpa [JournalEntry.asksShutdown, StartPhase.isEarly] using unshut
      over_eq := by
        simpa [JournalEntry.asksShutdown, JournalEntry.endsShutdown] using inv.over_eq
      failures_eq := by simpa [JournalEntry.shutdownFailure?] using inv.failures_eq }
  · next deadline hs =>
    obtain rfl := Option.some.inj he
    have waiting : Audit c.journal (c.starter.take reply) c.stopper c.handle := {
      inv with
      launches_eq := by rw [inv.launches_eq, hs]; rfl
      launched_eq := fun launched h => inv.launched_eq launched (by rw [hs] at h ⊢; exact h)
      shutdowns_eq := by rw [inv.shutdowns_eq, StartPhase.isEarly_take] }
    exact waiting.minor rfl
  · simp at he

theorem audited_stopperAnswered (inv : Audited c) {errand : Errand} {reply : Reply}
    (he : c.errand? .stopper = some errand) (ha : reply.answers errand = true) :
    Audit (.answered .stopper errand reply :: c.journal) c.starter (c.stopper.take reply)
      c.handle := by
  simp only [errand?] at he
  split at he
  · next prior last failures hs =>
    obtain rfl := Option.some.inj he
    have settled := inv.over_eq
    have known := inv.failures_eq failures (by rw [hs]; rfl)
    simp only [hs, StopPhase.isShutting] at settled
    have phase : c.stopper.take reply = .shutting prior last failures reply.toDone := by
      rw [hs]; rfl
    rw [phase]
    exact {
      launches_eq := by simpa [JournalEntry.asksLaunch] using inv.launches_eq
      launched_eq := by simpa [JournalEntry.isLaunched] using inv.launched_eq
      shutdowns_eq := by
        simpa [JournalEntry.asksShutdown, JournalEntry.isLaunched] using inv.shutdowns_eq
      over_eq := by
        cases reply <;> simp_all [JournalEntry.asksShutdown, JournalEntry.endsShutdown,
          StopPhase.isShutting, Reply.toDone, Reply.answers]
      failures_eq := by
        cases reply with
        | mishap why =>
          cases why <;> simp [JournalEntry.shutdownFailure?, StopPhase.failures?, Reply.toDone,
            tally, known]
        | done =>
          simp [JournalEntry.shutdownFailure?, StopPhase.failures?, Reply.toDone, tally, known]
        | _ => simp [Reply.answers] at ha }
  · simp at he

/-- Every move keeps the journal audited. -/
theorem audited_move {e : Event} (h : Move c e d) (coherent : Coherent c) (inv : Audited c) :
    Audited d := by
  cases h with
  | starts h =>
    have unborn := coherent.created_starter h
    exact { inv with
      launches_eq := by rw [inv.launches_eq, unborn]; rfl
      launched_eq := by rw [Audited, unborn] at inv; exact inv.launched_eq
      shutdowns_eq := by rw [inv.shutdowns_eq, unborn]; rfl }
  | starterAnswered he ha => exact audited_starterAnswered inv he ha
  | stopperAnswered he ha => exact audited_stopperAnswered inv he ha
  | callerAnswered h he ha =>
    exact inv.minor (CallPhase.isMinor_of_errand? he)
  | starter h => exact audited_starter inv h
  | stopper h => exact audited_stopper inv h
  | caller h =>
    obtain ⟨hstarter, hstopper, hhandle, -⟩ := h.frame
    rcases h.journal with hjournal | ⟨phase, errand, -, he, hjournal⟩
    · rw [Audited, hstarter, hstopper, hhandle, hjournal]
      exact inv
    · rw [Audited, hstarter, hstopper, hhandle, hjournal]
      exact inv.minor (CallPhase.isMinor_of_errand? he)
  | _ => exact inv

/-! ## How a stop comes out -/

/-- The cluster is in order, and the latch and the journal agree with it. -/
structure Booked (c : Cluster) : Prop extends Orderly c, Latched c where
  audited : Audited c

theorem booked_move {e : Event} (h : Move c e d) (inv : Booked c) : Booked d where
  toOrderly := orderly_move h inv.toOrderly
  toLatched := latched_move h inv.toLatched
  audited := audited_move h inv.toCoherent inv.audited

theorem booked_run (inv : Booked c) (events : List Event) : Booked (c.run events) :=
  run_preserves (fun _ _ _ _ h inv => booked_move h inv) c inv

theorem booked_of_plan {options : ClusterOptions} {params : StartParams} {pid : UInt32}
    {obstacle : Option IoError} (h : plan options params pid obstacle = .ok c) : Booked c where
  toOrderly := orderly_of_plan h
  toLatched := latched_of_plan h
  audited := by
    obtain ⟨configs, -, rfl⟩ := plan_eq_ok h
    constructor <;> simp [Journal.launches, Journal.launched, Journal.shutdowns,
      Journal.shutdownsOver, Journal.shutdownFailures, StartPhase.hasAsked, StartPhase.launched?,
      StopPhase.isShutting, StopPhase.failures?]

/-- Only the stop requests a stop. -/
theorem stopSignal_of_ne {e : Event} (h : Move c e d) (he : e ≠ .poll .stopper) :
    d.stopSignal = c.stopSignal := by
  cases h with
  | starter h => exact h.frame.2.2.2.2.1
  | stopper h => exact absurd rfl he
  | caller h => exact h.frame.2.2.2.1
  | _ => rfl

theorem stopSignal_step_of_ne {e : Event} (he : e ≠ .poll .stopper) :
    (c.step e).stopSignal = c.stopSignal :=
  step_preserves (P := fun d => d.stopSignal = c.stopSignal)
    (fun h hs => (stopSignal_of_ne h he).trans hs) c rfl

theorem stopSignal_move {e : Event} (h : Move c e d) (hs : c.stopSignal = true) :
    d.stopSignal = true := by
  cases h with
  | starter h => rw [h.frame.2.2.2.2.1, hs]
  | stopper h => cases h <;> first | exact hs | rfl
  | caller h => rw [h.frame.2.2.2.1, hs]
  | _ => exact hs

/-- A stop took effect in this state, and it comes out as that state and the failures of the
shutdowns have it. -/
structure StoppedIn (prior : Lifecycle) (c : Cluster) : Prop where
  signal : c.stopSignal = true
  prior_eq : ∀ found, c.stopper.prior? = some found → found = prior
  -- what came out of it is about the stopped cluster
  outcome_eq : ∀ outcome, c.latch.action = .returned outcome →
    c.registry.state = .stopped ∧
      outcome = stopOutcome prior (c.journal.shutdownFailures.map Failure.message) c.snapshot

/-- Once a stop is over, no more shutdowns fail. -/
theorem shutdownFailures_of_ended {e : Event} (h : Move c e d) (hs : c.stopper = .ended) :
    d.journal.shutdownFailures = c.journal.shutdownFailures := by
  cases h with
  | starterAnswered he ha =>
    simp only [errand?] at he
    split at he
    · obtain rfl := Option.some.inj he
      simp [JournalEntry.shutdownFailure?]
    · obtain rfl := Option.some.inj he
      simp [JournalEntry.shutdownFailure?]
    · simp at he
  | stopperAnswered he ha => simp [errand?, hs] at he
  | callerAnswered h he ha =>
    exact Journal.shutdownFailures_of_minor _ (CallPhase.isMinor_of_errand? he)
  | starter h => cases h <;> simp [startFailed, leaveReport, ask, JournalEntry.shutdownFailure?]
  | stopper h =>
    cases h with
    | ends hends => cases hends <;> simp_all
    | _ => simp_all
  | caller h =>
    rcases h.journal with hjournal | ⟨phase, errand, -, he, hjournal⟩
    · rw [hjournal]
    · rw [hjournal]
      exact Journal.shutdownFailures_of_minor _ (CallPhase.isMinor_of_errand? he)
  | _ => rfl

/-- Once a stop has begun, only the stop itself decides how it comes out. -/
theorem action_of_ne {e : Event} (h : Move c e d) (inv : Latched c) (hs : c.stopper ≠ .unborn)
    (he : e ≠ .poll .stopper) : d.latch.action = c.latch.action := by
  cases h with
  | starter h => rw [h.frame.2.2.2.1]
  | keeper =>
    have begun : c.latch.keeper ≠ .spawned := fun hkeeper =>
      hs (inv.unborn_iff.mpr (.inl (inv.early_action (.inr hkeeper))))
    unfold Latch.keep
    split
    · next hkeeper => exact absurd hkeeper begun
    · split <;> rfl
    · rfl
  | stopper h => exact absurd rfl he
  | caller h =>
    obtain ⟨-, -, -, -, -, -, -, -, hlatch | hlatch⟩ := h.frame
    · rw [hlatch]
    · rw [hlatch, Latch.claim]
      split <;> rfl
  | _ => rfl

/-- Only the stop moves the stop on; an answer to its errand does not change how far it is. -/
theorem stopper_of_ne {e : Event} (h : Move c e d) (he : e ≠ .poll .stopper) :
    d.stopper = c.stopper ∨
      ∃ reply, e = .answer .stopper reply ∧ d.stopper = c.stopper.take reply := by
  cases h with
  | stopperAnswered he ha => exact .inr ⟨_, rfl, rfl⟩
  | starter h => exact .inl h.frame.2.2.1
  | stopper h => exact absurd rfl he
  | caller h => exact .inl h.frame.2.1
  | _ => exact .inl rfl

theorem stoppedIn_stopper {prior : Lifecycle} (inv : Booked c) (st : StoppedIn prior c)
    (h : StopperMove c d) : StoppedIn prior d := by
  -- As long as the stop is under way, nothing has come out of it yet.
  have underway {found : Lifecycle} (hfound : c.stopper.prior? = some found)
      (hsignal : d.stopSignal = c.stopSignal) (hprior : d.stopper.prior? = some found)
      (hlatch : d.latch = c.latch) : StoppedIn prior d := by
    have running : c.latch.action = .running := inv.running_iff.mpr (by rw [hfound]; rfl)
    refine ⟨hsignal.trans st.signal, fun other hother => st.prior_eq other ?_, fun outcome ho => ?_⟩
    · rw [hfound, ← hprior, hother]
    · simp [hlatch, running] at ho
  cases h with
  | begins h ha =>
    have unsignalled := inv.stopper_unborn_iff.mp h
    simp [st.signal] at unsignalled
  | shuts h hl hh => exact underway (by rw [h]; rfl) rfl rfl rfl
  | passes h hl hh => exact underway (by rw [h]; rfl) rfl rfl rfl
  | goesOn h hr => exact underway (by rw [h]; rfl) rfl rfl rfl
  | tells h =>
    have hprior : c.stopper.prior? = some .created := by rw [h]; rfl
    exact underway hprior rfl hprior rfl
  | shutsAgain h hd hh => exact underway (by rw [h]; rfl) rfl rfl rfl
  | @ends found failures hends =>
    have hfound : c.stopper.prior? = some found := by cases hends <;> simp [*, StopPhase.prior?]
    have hfailures : c.stopper.failures? = some failures := by
      cases hends <;> simp [*, StopPhase.failures?]
    have running : c.latch.action = .running := inv.running_iff.mpr (by rw [hfound]; rfl)
    have stopping := inv.stopping_of_prior hfound
    refine ⟨st.signal, fun other ho => by simp [stopEnded, StopPhase.prior?] at ho,
      fun outcome ho => ?_⟩
    simp only [stopEnded, Latch.finish, running, ActionPhase.returned.injEq] at ho
    have stopped : c.registry.state.advance .stopped = .stopped := by rw [stopping]; rfl
    refine ⟨stopped, ?_⟩
    rw [← ho, ← st.prior_eq found hfound, stopOutcome]
    have told : (c.stopEnded found failures).journal.shutdownFailures.map Failure.message =
        failures := inv.audited.failures_eq failures hfailures
    rw [told]
    rfl
  | @crashes found last failures h =>
    have running : c.latch.action = .running := inv.running_iff.mpr (by rw [h]; rfl)
    refine ⟨st.signal, fun other ho => by simp [StopPhase.prior?] at ho, fun outcome ho => ?_⟩
    simp [Latch.finish, running] at ho

/-- Every move keeps to the state in which the stop took effect. -/
theorem stoppedIn_move {prior : Lifecycle} {e : Event} (h : Move c e d) (inv : Booked c)
    (st : StoppedIn prior c) : StoppedIn prior d := by
  by_cases he : e = .poll .stopper
  · subst he
    cases h with
    | stopper h => exact stoppedIn_stopper inv st h
  · have begun : c.stopper ≠ .unborn := by
      intro hunborn
      have unsignalled := inv.stopper_unborn_iff.mp hunborn
      simp [st.signal] at unsignalled
    refine ⟨stopSignal_move h st.signal, fun found hfound => st.prior_eq found ?_,
      fun outcome ho => ?_⟩
    · rcases stopper_of_ne h he with hsame | ⟨reply, -, htake⟩
      · rw [← hsame, hfound]
      · rw [htake, StopPhase.prior?_take] at hfound
        exact hfound
    · rw [action_of_ne h inv.toLatched begun he] at ho
      obtain ⟨stopped, heq⟩ := st.outcome_eq outcome ho
      have ended := inv.ended_iff.mp ⟨outcome, ho⟩
      rw [shutdownFailures_of_ended h ended, snapshot_of_stopped h inv.toOrderly stopped,
        registry_of_stopped h inv.toOrderly stopped]
      exact ⟨stopped, heq⟩

/-- A stop takes effect in the state in which it finds the cluster. -/
theorem stoppedIn_begins (inv : Booked c) (hsignal : c.stopSignal = false)
    (h : Move c (.poll .stopper) d) : StoppedIn c.registry.state d := by
  have unborn := inv.stopper_unborn_iff.mpr hsignal
  cases h with
  | stopper h =>
    cases h with
    | begins hs ha =>
      refine ⟨rfl, fun found hfound => (Option.some.inj hfound).symm, fun outcome ho => ?_⟩
      simp [Latch.begin, ha] at ho
    | ends hends => cases hends <;> simp_all
    | _ => simp_all

/-- The state in which a run finds the cluster when the first stop takes effect. -/
def stateAtStop? (c : Cluster) : List Event → Option Lifecycle
  | [] => none
  | e :: rest =>
    if (c.step e).stopSignal then some c.registry.state else (c.step e).stateAtStop? rest

/-- The event in which a stop takes effect finds the cluster in the state that it remembers. -/
theorem stoppedIn_step {e : Event} (inv : Booked c) (hbefore : c.stopSignal = false)
    (hafter : (c.step e).stopSignal = true) : StoppedIn c.registry.state (c.step e) := by
  by_cases he : e = .poll .stopper
  · subst he
    -- Either the stop has not taken effect yet in this event, or it has, in this state.
    have either := step_preserves (e := .poll .stopper)
      (P := fun d => Booked d ∧
        (d.stopSignal = false ∧ d.registry.state = c.registry.state ∨
          StoppedIn c.registry.state d))
      (fun {d d'} h both => by
        refine ⟨booked_move h both.1, ?_⟩
        rcases both.2 with ⟨hsignal, hstate⟩ | st
        · exact .inr (hstate ▸ stoppedIn_begins both.1 hsignal h)
        · exact .inr (stoppedIn_move h both.1 st))
      c ⟨inv, .inl ⟨hbefore, rfl⟩⟩
    rcases either.2 with ⟨hsignal, -⟩ | st
    · simp [hafter] at hsignal
    · exact st
  · rw [stopSignal_step_of_ne he, hbefore] at hafter
    simp at hafter

/-- Once a stop has taken effect, it comes out as the state in which it found the cluster has it. -/
theorem stoppedIn_run (inv : Booked c) (hbefore : c.stopSignal = false) (events : List Event)
    (hafter : (c.run events).stopSignal = true) :
    ∃ prior, c.stateAtStop? events = some prior ∧ StoppedIn prior (c.run events) := by
  induction events generalizing c with
  | nil => simp [hbefore] at hafter
  | cons e rest ih =>
    have inv' : Booked (c.step e) := step_preserves (fun h inv => booked_move h inv) c inv
    rw [run_cons] at hafter ⊢
    unfold stateAtStop?
    split
    · next hsignal =>
      refine ⟨c.registry.state, rfl, ?_⟩
      exact run_preserves_given booked_move (fun _ _ _ _ h inv st => stoppedIn_move h inv st)
        (c.step e) inv' (stoppedIn_step inv hbefore hsignal)
    · next hsignal => exact ih inv' (by simpa using hsignal) hafter

/-! ## A launcher that does not break down -/

/-- The launcher does not break down in this event. -/
def Event.isCalm : Event → Bool
  | .answer _ (.mishap .crashed) => false
  | _ => true

/-- The launcher has not broken down over a shutdown. -/
def Unbroken (c : Cluster) : Prop :=
  c.stopper ≠ .crashed ∧
    ∀ prior last failures, c.stopper ≠ .shutting prior last failures (some (.error .crashed))

/-- If the launcher does not break down, the stop does not either. -/
theorem unbroken_move {e : Event} (h : Move c e d) (calm : e.isCalm = true) (inv : Unbroken c) :
    Unbroken d := by
  by_cases he : e = .poll .stopper
  · subst he
    cases h with
    | stopper h =>
      cases h with
      | begins h ha => exact ⟨by simp, by simp⟩
      | shuts h hl hh => exact ⟨by simp [ask], by simp [ask]⟩
      | passes h hl hh => exact ⟨by simp, by simp⟩
      | goesOn h hr => exact ⟨by simp, by simp⟩
      | tells h => exact inv
      | shutsAgain h hd hh => exact ⟨by simp [ask], by simp [ask]⟩
      | ends hends => exact ⟨by simp [stopEnded], by simp [stopEnded]⟩
      | crashes h => exact absurd h (inv.2 _ _ _)
  · rcases stopper_of_ne h he with hsame | ⟨reply, rfl, htake⟩
    · unfold Unbroken
      rw [hsame]
      exact inv
    · refine ⟨by simpa [htake] using inv.1, fun prior last failures heq => ?_⟩
      rw [htake] at heq
      unfold StopPhase.take at heq
      split at heq
      · have crashed := Reply.eq_mishap_of_toDone (StopPhase.shutting.inj heq).2.2.2
        simp [crashed, Event.isCalm] at calm
      · exact inv.2 _ _ _ heq

theorem unbroken_run (inv : Unbroken c) {events : List Event}
    (calm : ∀ e ∈ events, e.isCalm = true) : Unbroken (c.run events) :=
  run_preserves (fun e he _ _ h inv => unbroken_move h (calm e he) inv) c inv

/-! ## Main results -/

/-- Only a start of a planned cluster begins a launch. -/
theorem unborn_move {e : Event} (h : Move c e d) (hs : c.starter = .unborn) :
    d.starter = .unborn ∨ e = .start ∧ c.registry.state = .created := by
  cases h with
  | starts h => exact .inr ⟨rfl, h⟩
  | starterAnswered _ _ => exact .inl (by simp [hs])
  | starter h => cases h <;> simp_all
  | stopper h => exact .inl (by rw [h.frame.2.1, hs])
  | caller h => exact .inl (by rw [h.frame.1, hs])
  | _ => exact .inl hs

theorem unborn_run (hs : c.starter = .unborn) {events : List Event} (hstart : .start ∉ events) :
    (c.run events).starter = .unborn :=
  run_preserves (P := fun d => d.starter = .unborn) (fun e he _ _ h hs => by
    rcases unborn_move h hs with hunborn | ⟨rfl, -⟩
    · exact hunborn
    · exact absurd he hstart) c hs

/-- If a stop takes effect first, there never is a launch. -/
theorem unborn_of_stopped_first (order : Orderly c) (hs : c.starter = .unborn)
    (hsignal : c.stopSignal = true) (events : List Event) : (c.run events).starter = .unborn :=
  (run_preserves_given (P := fun d => d.stopSignal = true ∧ d.starter = .unborn) orderly_move
    (fun _ _ _ _ h order both => by
      obtain ⟨hsignal, hs⟩ := both
      refine ⟨stopSignal_move h hsignal, ?_⟩
      rcases unborn_move h hs with hunborn | ⟨-, hcreated⟩
      · exact hunborn
      · have stopping := order.signal_iff.mp hsignal
        simp [hcreated, Lifecycle.isStopping] at stopping) c order ⟨hsignal, hs⟩).2

/-- What the latch has published stays so for the rest of a run. -/
theorem outcome?_run (inv : Latched c) {outcome : Option StopOutcome}
    (ho : c.latch.outcome? = some outcome) (events : List Event) :
    (c.run events).latch.outcome? = some outcome :=
  run_preserves_given latched_move (fun _ _ _ _ h inv ho => outcome?_move h inv ho) c inv ho

/-- Once a stop is over, all nodes that were ever launched have been shut down, once. -/
theorem shutdowns_of_ended (inv : Booked c) (hended : c.stopper = .ended) :
    c.journal.shutdowns = c.journal.launched.toNat ∧
      c.journal.shutdownsOver = c.journal.launched.toNat := by
  obtain ⟨done, unhanded⟩ := inv.stopped_quiet (inv.stopper_ended_iff.mp hended)
  have settled := inv.audited.over_eq
  have shut := inv.audited.shutdowns_eq
  simp only [hended, StopPhase.isShutting, Bool.toNat_false, Nat.add_zero] at settled
  simp only [unhanded, Bool.toNat_false, Nat.add_zero] at shut
  have all : c.journal.shutdowns = c.journal.launched.toNat := by
    rcases inv.starter_of_done done with hs | hs
    · simpa [hs, StartPhase.isEarly] using shut
    · have unlaunched := inv.audited.launched_eq false (by rw [hs]; rfl)
      simpa [hs, unlaunched] using shut
  exact ⟨all, settled.trans all⟩

/-- How a stop of a cluster comes out whose nodes were launched once at most: the one failure of
their shutdown is what the callers are told if the cluster was healthy. -/
theorem stopResult_stopOutcome (prior : Lifecycle) (snapshot : Snapshot) {failures : List Failure}
    (hone : failures.length ≤ 1) (hstopped : snapshot.state = .stopped) :
    if prior = .healthy ∧ failures ≠ [] then
      ∃ e, failures = [e] ∧
        stopResult (some (stopOutcome prior (failures.map Failure.message) snapshot)) =
          .error (.shutdown e.message)
    else
      ∃ s, stopResult (some (stopOutcome prior (failures.map Failure.message) snapshot)) = .ok s ∧
        s.state = .stopped := by
  match failures, hone with
  | [], _ => simp [stopOutcome, stopResult, hstopped]
  | [e], _ =>
    have single : String.intercalate "; " [e.message] = e.message := rfl
    by_cases hprior : prior = .healthy
    · simp [stopOutcome, stopResult, hprior, single]
    · simp [stopOutcome, stopResult, hprior, hstopped]

/-- In every run of a planned cluster whose launcher does not break down, the launcher is asked for
the nodes at most once, and never if a stop took effect before the first start; it is asked to shut
them down at most once, and only if it has launched them.  When any stop has returned, all that was
launched has been shut down, and the shutdown is over.  All stops return the same, now and later:
the failure of the shutdown if there was one and the cluster was healthy when the first stop took
effect, and otherwise a snapshot of the stopped cluster. -/
theorem launch_and_shutdown_once {options : ClusterOptions} {params : StartParams} {pid : UInt32}
    {obstacle : Option IoError} (h : plan options params pid obstacle = .ok c)
    {events : List Event} (calm : ∀ e ∈ events, e.isCalm = true) :
    (c.run events).journal.launches ≤ 1 ∧
    (∀ before, before <+: events → .start ∉ before → (c.run before).stopSignal = true →
      (c.run events).journal.launches = 0) ∧
    (c.run events).journal.shutdowns ≤ (c.run events).journal.launched.toNat ∧
    ∀ n result, CameIn c events n .stop → (c.run events).result? n = some result →
      (c.run events).journal.shutdowns = (c.run events).journal.launched.toNat ∧
      (c.run events).journal.shutdownsOver = (c.run events).journal.launched.toNat ∧
      (∀ later m other, CameIn c (events ++ later) m .stop →
        (c.run (events ++ later)).result? m = some other → other = result) ∧
      if c.stateAtStop? events = some .healthy ∧ (c.run events).journal.shutdownFailures ≠ [] then
        ∃ e, (c.run events).journal.shutdownFailures = [e] ∧
          result = .error (.shutdown e.message)
      else ∃ snapshot, result = .ok snapshot ∧ snapshot.state = .stopped := by
  have inv := booked_of_plan h
  have fresh : c.starter = .unborn ∧ c.stopSignal = false ∧ Unbroken c := by
    obtain ⟨configs, -, rfl⟩ := plan_eq_ok h
    exact ⟨rfl, rfl, by simp [Unbroken]⟩
  obtain ⟨unborn, unsignalled, unbroken⟩ := fresh
  have inv' := booked_run inv events
  refine ⟨?_, ?_, ?_, ?_⟩
  · rw [inv'.audited.launches_eq]
    exact Bool.toNat_le _
  · rintro before ⟨after, rfl⟩ hstart hsignal
    have stays := unborn_of_stopped_first (orderly_run inv.toOrderly before)
      (unborn_run unborn hstart) hsignal after
    rw [inv'.audited.launches_eq, run_append, stays]
    rfl
  · have shut := inv'.audited.shutdowns_eq
    have handed : ((c.run events).journal.launched && !(c.run events).starter.isEarly).toNat ≤
        (c.run events).journal.launched.toNat := by
      cases (c.run events).journal.launched <;> simp [Bool.toNat_le]
    omega
  · intro n result hcame hresult
    obtain ⟨outcome, ho, rfl⟩ := stop_result inv.toLatched hcame hresult
    cases outcome with
    | none =>
      exact absurd (inv'.crashed_of_outcome? ho) (unbroken_run unbroken calm).1
    | some outcome =>
      have returned := inv'.action_of_outcome? ho
      have ended := inv'.ended_iff.mp ⟨outcome, returned⟩
      obtain ⟨shut, settled⟩ := shutdowns_of_ended inv' ended
      have signalled : (c.run events).stopSignal = true := by
        by_contra hsignal
        simp [inv'.stopper_unborn_iff.mpr (by simpa using hsignal)] at ended
      obtain ⟨prior, hprior, st⟩ := stoppedIn_run inv unsignalled events signalled
      obtain ⟨stopped, rfl⟩ := st.outcome_eq outcome returned
      have one : (c.run events).journal.shutdownFailures.length ≤ 1 := by
        have few := (c.run events).journal.length_shutdownFailures_le
        have most := Bool.toNat_le (c.run events).journal.launched
        omega
      refine ⟨shut, settled, fun later m other hm hother => ?_, ?_⟩
      · obtain ⟨outcome', ho', rfl⟩ := stop_result inv.toLatched hm hother
        rw [run_append, outcome?_run inv'.toLatched ho later] at ho'
        rw [← Option.some.inj ho']
      · rw [hprior]
        simpa using stopResult_stopOutcome prior (c.run events).snapshot one stopped

/-- Two stops of the small cluster whose launcher fails to shut it down while it is not healthy yet:
the first one has returned, and the nodes were shut down once. -/
theorem pair_shut_down_once :
    let events : List Event := [.start, .poll .starter, .answer .starter .done, .poll .starter,
      .call 1 .stop, .call 2 .stop, .poll (.caller 1), .poll (.caller 2), .poll .keeper,
      .poll .stopper, .answer .stopper (.mishap (.failed .aborted)), .poll .stopper,
      .poll .starter, .poll .stopper, .poll .keeper, .poll (.caller 1)]
    ∃ snapshot, (pair.run events).result? 1 = some (.ok snapshot) ∧ snapshot.state = .stopped ∧
      (pair.run events).journal.shutdowns = 1 := by
  intro events
  have returned : ∃ result, (pair.run events).result? 1 = some result := ⟨_, rfl⟩
  obtain ⟨result, hresult⟩ := returned
  have calm : ∀ e ∈ events, e.isCalm = true := by decide
  obtain ⟨-, -, -, stops⟩ := launch_and_shutdown_once plan_pair calm
  have came : CameIn pair events 1 .stop :=
    ⟨[.start, .poll .starter, .answer .starter .done, .poll .starter], _, rfl, rfl, by decide⟩
  obtain ⟨hshut, -, -, houtcome⟩ := stops 1 result came hresult
  have launching : pair.stateAtStop? events = some .launching := rfl
  rw [launching] at houtcome
  obtain ⟨snapshot, rfl, hstopped⟩ := by simpa using houtcome
  exact ⟨snapshot, hresult, hstopped, hshut⟩

end Cluster
end ClusterControl
