import ClusterControl.Proofs.Cluster.Custody

/-!
# How the phases of a cluster fit together

The launch, the stop and the calls each have a phase of their own, and the registry has a state.
This module says which of them can go together.

* `Coherent` — the state of the registry, the phases of the launch and of the stop, the stop signal
  and the presence of the launched nodes agree with one another.
* `coherent_move` — every move preserves coherence, given that nodes are changed under the lock
  only.
* `Orderly`, `orderly_of_plan`, `orderly_run` — custody and coherence together, in every cluster
  that was planned and after every run.

In particular the launched nodes are at hand in a healthy cluster, a stop that has ended leaves no
launch under way, and a node is changed only in a cluster that is healthy or being stopped.
-/

namespace ClusterControl

namespace StartPhase

/-- The launch was asked for and is not over. -/
def isBusy : StartPhase → Bool
  | unborn => false
  | ended => false
  | _ => true

/-- The launcher has not handed the nodes over yet. -/
def isEarly : StartPhase → Bool
  | unborn => true
  | spawned => true
  | launching _ => true
  | _ => false

@[simp] theorem isBusy_take (reply : Reply) (phase : StartPhase) :
    (phase.take reply).isBusy = phase.isBusy := by
  unfold take
  split <;> rfl

@[simp] theorem isEarly_take (reply : Reply) (phase : StartPhase) :
    (phase.take reply).isEarly = phase.isEarly := by
  unfold take
  split <;> rfl

@[simp] theorem take_eq_unborn_iff (reply : Reply) (phase : StartPhase) :
    phase.take reply = unborn ↔ phase = unborn := by
  unfold take
  split <;> simp

@[simp] theorem take_eq_ended_iff (reply : Reply) (phase : StartPhase) :
    phase.take reply = ended ↔ phase = ended := by
  unfold take
  split <;> simp

@[simp] theorem take_eq_crashed_iff (reply : Reply) (phase : StartPhase) :
    phase.take reply = crashed ↔ phase = crashed := by
  unfold take
  split <;> simp

end StartPhase

namespace StopPhase

/-- The state that a stop under way has found. -/
def prior? : StopPhase → Option Lifecycle
  | queued prior => some prior
  | shutting prior _ _ _ => some prior
  | awaitingStart prior _ => some prior
  | _ => none

/-- The nodes are being shut down for the last time. -/
def isLast : StopPhase → Bool
  | shutting _ true _ _ => true
  | _ => false

@[simp] theorem prior?_take (reply : Reply) (phase : StopPhase) :
    (phase.take reply).prior? = phase.prior? := by
  unfold take
  split <;> rfl

@[simp] theorem isLast_take (reply : Reply) (phase : StopPhase) :
    (phase.take reply).isLast = phase.isLast := by
  unfold take
  split
  · next prior last failures => cases last <;> rfl
  · rfl

@[simp] theorem take_eq_unborn_iff (reply : Reply) (phase : StopPhase) :
    phase.take reply = unborn ↔ phase = unborn := by
  unfold take
  split <;> simp

@[simp] theorem take_eq_ended_iff (reply : Reply) (phase : StopPhase) :
    phase.take reply = ended ↔ phase = ended := by
  unfold take
  split <;> simp

@[simp] theorem take_eq_crashed_iff (reply : Reply) (phase : StopPhase) :
    phase.take reply = crashed ↔ phase = crashed := by
  unfold take
  split <;> simp

end StopPhase

namespace Cluster

variable {c d : Cluster} {n : Nat}

/-- The phases of the launch and of the stop fit the state of the cluster. -/
structure Coherent (c : Cluster) : Prop where
  signal_iff : c.stopSignal = true ↔ c.registry.state.isStopping = true
  stopper_unborn_iff : c.stopper = .unborn ↔ c.stopSignal = false
  stopper_ended_iff : c.stopper = .ended ↔ c.registry.state = .stopped
  created_starter : c.registry.state = .created → c.starter = .unborn
  -- a cluster without a launch is planned, or a stop came first
  unborn_state : c.starter = .unborn →
    c.registry.state = .created ∨ c.registry.state.isStopping = true
  -- a launch under way belongs to a cluster that is launching or being stopped
  busy_state : c.starter.isBusy = true →
    c.registry.state = .launching ∨ c.registry.state = .stopping
  launching_starter : c.registry.state = .launching → c.starter.isBusy = true
  busy_done : c.starter.isBusy = true → c.startDone = false
  ended_done : c.starter = .ended → c.startDone = true
  created_done : c.registry.state = .created → c.startDone = false
  -- a stop finds a planned cluster exactly if there never is a launch
  prior_iff : ∀ prior, c.stopper.prior? = some prior → (prior = .created ↔ c.starter = .unborn)
  -- no nodes are at hand before the launcher has handed them over
  early_handle : c.starter.isEarly = true → c.handle = false
  -- nodes that are waited for are at hand unless a stop was requested
  waiting_handle : c.starter.isBusy = true → c.starter.isEarly = false → c.starter ≠ .crashed →
    c.stopSignal = false → c.handle = true
  healthy_handle : c.registry.state = .healthy → c.handle = true
  -- when nodes are shut down for the last time, the launch is over and no more are at hand
  last_quiet : c.stopper.isLast = true → c.startDone = true ∧ c.handle = false
  stopped_quiet : c.registry.state = .stopped → c.startDone = true ∧ c.handle = false
  charge_state : ∀ n phase, c.callers.get? n = some phase → phase.charge?.isSome = true →
    c.registry.state = .healthy ∨ c.registry.state = .stopping

namespace Coherent

/-- A launch that is said to be over has ended, or there never is one. -/
theorem starter_of_done (inv : Coherent c) (h : c.startDone = true) :
    c.starter = .ended ∨ c.starter = .unborn := by
  by_contra hne
  have busy : c.starter.isBusy = true := by
    cases hs : c.starter <;> simp_all [StartPhase.isBusy]
  simp [inv.busy_done busy] at h

/-- As long as no stop was requested, a launch that waits for nodes is that of a cluster that is
launching. -/
theorem launching_of_waiting (inv : Coherent c) {deadline : Nat}
    {reply : Pending (Table NodeReport)} (h : c.starter = .waiting deadline reply)
    (hs : c.stopSignal = false) : c.registry.state = .launching := by
  rcases inv.busy_state (by rw [h]; rfl) with hl | hl
  · exact hl
  · have := inv.signal_iff.mpr (by rw [hl]; rfl)
    simp [hs] at this

/-- A stop that has taken effect and is not over belongs to a cluster that is being stopped. -/
theorem stopping_of_prior (inv : Coherent c) {prior : Lifecycle}
    (h : c.stopper.prior? = some prior) : c.registry.state = .stopping := by
  have signalled : c.stopSignal = true := by
    by_contra hs
    have := inv.stopper_unborn_iff.mpr (by simpa using hs)
    simp [this, StopPhase.prior?] at h
  have notOver : c.registry.state ≠ .stopped := by
    intro hs
    simp [inv.stopper_ended_iff.mpr hs, StopPhase.prior?] at h
  have stopping := inv.signal_iff.mp signalled
  cases hs : c.registry.state <;> simp_all [Lifecycle.isStopping]

/-- While a cluster is launching, no node is being changed. -/
theorem not_launching_of_charge (inv : Coherent c) {n : Nat} {phase : CallPhase}
    (hphase : c.callers.get? n = some phase) (hc : phase.charge?.isSome = true) :
    c.registry.state ≠ .launching := by
  intro launching
  rcases inv.charge_state n phase hphase hc with hs | hs <;> simp [launching] at hs

end Coherent

/-- A wait is judged to have been for something only while no stop is requested. -/
theorem stopSignal_of_reported {α : Type} {deadline : Nat} {reply : Pending α} {v : α}
    (h : c.judge deadline reply = .reported v) : c.stopSignal = false := by
  unfold judge at h
  split at h
  · simp at h
  · simpa using ‹¬ c.stopSignal = true›

theorem stopSignal_of_still {α : Type} {deadline : Nat} {reply : Pending α}
    (h : c.judge deadline reply = .still) : c.stopSignal = false := by
  unfold judge at h
  split at h
  · simp at h
  · simpa using ‹¬ c.stopSignal = true›

/-- A wait fails because a stop was requested, because the time is over, or because the launcher
says so, in this order. -/
theorem failed_of_judge {α : Type} {deadline : Nat} {reply : Pending α} {e : Failure}
    (h : c.judge deadline reply = .failed e) :
    c.stopSignal = true ∧ e = .aborted ∨
    c.stopSignal = false ∧ deadline ≤ c.now ∧ e = .healthTimeout c.healthTimeout ∨
    c.stopSignal = false ∧ c.now < deadline ∧ reply = some (.error (.failed e)) := by
  unfold judge at h
  split at h
  · next hs => exact .inl ⟨hs, (Verdict.failed.inj h).symm⟩
  · next hs =>
    split at h
    · next ht => exact .inr (.inl ⟨by simpa using hs, ht, (Verdict.failed.inj h).symm⟩)
    · next ht =>
      refine .inr (.inr ⟨by simpa using hs, Nat.not_le.mp ht, ?_⟩)
      split at h <;> simp_all

/-- A wait is judged to have been broken off only if the launcher broke down over it. -/
theorem eq_crashed_of_judge {α : Type} {deadline : Nat} {reply : Pending α}
    (h : c.judge deadline reply = .crashed) : reply = some (.error .crashed) := by
  unfold judge at h
  split at h
  · simp at h
  · split at h
    · simp at h
    · split at h <;> first | rfl | simp at h

attribute [grind] StartPhase.isBusy StartPhase.isEarly StopPhase.prior? StopPhase.isLast
attribute [grind] Lifecycle.isStopping
attribute [grind cases] Coherent

theorem advance_stopping {state : Lifecycle} (h : state.isStopping = false) :
    state.advance .stopping = .stopping := by
  cases state <;> first | rfl | simp [Lifecycle.isStopping] at h

/-- A report is taken over only by a launching cluster, which is healthy from then on and otherwise
keeps everything but what is known of its nodes. -/
theorem publish_eq_ok {r registry : Registry} {reports : Table NodeReport}
    (h : r.publish reports = .ok registry) :
    ∃ records, Registry.readyRecords reports r.names = .ok records ∧ r.state = .launching ∧
      registry = { r with state := .healthy, records := .ofList records } := by
  unfold Registry.publish at h
  cases hr : Registry.readyRecords reports r.names with
  | error e => simp [hr, bind, Except.bind] at h
  | ok records =>
    simp only [hr, bind, Except.bind] at h
    split at h
    · next hadvance =>
      refine ⟨records, rfl, ?_, (Except.ok.inj h).symm⟩
      cases hs : r.state <;> simp_all [Lifecycle.canAdvance]
    · simp at h

/-! ## The launch -/

/-- A launch that fails leaves the cluster coherent, whether or not it hands over nodes first. -/
theorem coherent_startFailed (inv : Coherent c) (hbusy : c.starter.isBusy = true) (handle : Bool)
    (e : Failure) : Coherent ({ c with handle := handle }.startFailed e) := by
  have hdone := inv.busy_done hbusy
  rcases inv.busy_state hbusy with hstate | hstate
  -- A launching cluster fails, and one that is being stopped stays so.
  · have hnext : c.registry.state.advance .failed = .failed := by rw [hstate]; rfl
    constructor <;> simp only [startFailed, leaveReport, Registry.advance, hnext] <;> grind
  · have hnext : c.registry.state.advance .failed = .stopping := by rw [hstate]; rfl
    constructor <;> simp only [startFailed, leaveReport, Registry.advance, hnext] <;> grind

theorem coherent_starter (inv : Coherent c) (h : StarterMove c d) : Coherent d := by
  cases h with
  | asks h =>
    constructor <;> simp only [ask] <;> grind
  | waits h hj =>
    have unsignalled := stopSignal_of_still hj
    have undone := inv.busy_done (by rw [h]; rfl)
    constructor <;> simp only [ask] <;> grind
  | givesUp h hj => exact coherent_startFailed inv (by rw [h]; rfl) true _
  | launchFails h => exact coherent_startFailed inv (by rw [h]; rfl) c.handle _
  | waitFails h hj => exact coherent_startFailed inv (by rw [h]; rfl) c.handle _
  | rejects h hj hp => exact coherent_startFailed inv (by rw [h]; rfl) c.handle _
  | publishes h hj hp =>
    have unsignalled := stopSignal_of_reported hj
    have handed := inv.waiting_handle (by rw [h]; rfl) (by rw [h]; rfl) (by simp [h]) unsignalled
    obtain ⟨records, -, hstate, rfl⟩ := publish_eq_ok hp
    constructor <;> grind
  | launchCrashes h => constructor <;> grind
  | waitCrashes h hj => constructor <;> grind

/-! ## The stop -/

theorem coherent_stopper (inv : Coherent c) (lock : Custody c) (h : StopperMove c d) :
    Coherent d := by
  cases h with
  | begins h ha =>
    have unsignalled := inv.stopper_unborn_iff.mp h
    have running : c.registry.state.isStopping = false := by
      by_contra hstopping
      simp [inv.signal_iff.mpr (by simpa using hstopping)] at unsignalled
    constructor <;> simp only [Registry.advance, advance_stopping running] <;> grind
  | shuts h hl hh =>
    have stopping := inv.stopping_of_prior (by rw [h]; rfl)
    constructor <;> simp only [ask] <;> grind
  | passes h hl hh => constructor <;> grind
  | goesOn h hr => constructor <;> grind
  | tells h =>
    have unborn := (inv.prior_iff .created (by rw [h]; rfl)).mp rfl
    have stopping := inv.stopping_of_prior (by rw [h]; rfl)
    constructor <;> simp only [leaveReport] <;> grind
  | shutsAgain h hd hh =>
    have stopping := inv.stopping_of_prior (by rw [h]; rfl)
    constructor <;> simp only [ask] <;> grind
  | @ends prior failures hends =>
    have hprior : c.stopper.prior? = some prior := by cases hends <;> simp [*, StopPhase.prior?]
    have stopping := inv.stopping_of_prior hprior
    have quiet : c.startDone = true ∧ c.handle = false := by
      cases hends with
      | empty h hd hh => exact ⟨hd, hh⟩
      | shut h hr hf => exact inv.last_quiet (by rw [h]; rfl)
    have unbusy : c.starter.isBusy = false := by
      by_contra hbusy
      simp [inv.busy_done (by simpa using hbusy)] at quiet
    -- Nobody is changing a node, since the stop has held the lock up to now.
    have holds : c.stopper.holds = true := by cases hends <;> simp [*, StopPhase.holds]
    have free : ∀ n phase, c.callers.get? n = some phase → phase.charge? = none :=
      fun n phase hphase => lock.charge?_eq_none holds hphase
    have hnext : c.registry.state.advance .stopped = .stopped := by rw [stopping]; rfl
    constructor <;> simp only [stopEnded, Registry.advance, hnext] <;> grind
  | crashes h =>
    have stopping := inv.stopping_of_prior (by rw [h]; rfl)
    constructor <;> grind

/-! ## Calls and events -/

/-- A change of a node begins only in a healthy cluster that does not lack its nodes. -/
theorem healthy_of_refusal? {name : String} (h : c.refusal? name = none) :
    c.registry.state = .healthy ∧ c.handle = true ∧ c.registry.records.contains name = true := by
  unfold refusal? at h
  split at h
  · simp at h
  · split at h
    · simp at h
    · split at h
      · simp at h
      · simp_all

/-- What a call does to the calls and to the nodes leaves the cluster coherent, as long as the state
stays and a node is changed only in a cluster that is healthy or being stopped. -/
theorem Coherent.of_calls (inv : Coherent c) (hstate : d.registry.state = c.registry.state)
    (hstarter : d.starter = c.starter) (hstopper : d.stopper = c.stopper)
    (hsignal : d.stopSignal = c.stopSignal) (hdone : d.startDone = c.startDone)
    (hhandle : d.handle = c.handle)
    (hcharge : ∀ n phase, d.callers.get? n = some phase → phase.charge?.isSome = true →
      d.registry.state = .healthy ∨ d.registry.state = .stopping) : Coherent d := by
  constructor <;> grind

theorem Coherent.setCall (inv : Coherent c) {phase : CallPhase}
    (hphase : phase.charge?.isSome = true →
      c.registry.state = .healthy ∨ c.registry.state = .stopping) :
    ∀ m p, (c.callers.set n phase).get? m = some p → p.charge?.isSome = true →
      c.registry.state = .healthy ∨ c.registry.state = .stopping := by
  intro m p hm hp
  rw [Roster.get?_set] at hm
  split at hm
  · obtain rfl := Option.some.inj hm
    exact hphase hp
  · exact inv.charge_state m p hm hp

theorem coherent_caller (inv : Coherent c) (h : CallerMove c n d) : Coherent d := by
  have idle {phase : CallPhase} (hphase : phase.charge? = none) :=
    @Coherent.setCall c n inv phase fun hc => by simp [hphase] at hc
  have busy {p phase : CallPhase} (hp : c.callers.get? n = some p) (hc : p.charge?.isSome = true) :=
    @Coherent.setCall c n inv phase fun _ => inv.charge_state n p hp hc
  cases h with
  | denied h ht => exact inv.of_calls rfl rfl rfl rfl rfl rfl (idle rfl)
  | signsUp h ht => exact inv.of_calls rfl rfl rfl rfl rfl rfl (idle rfl)
  | readsFailure h hd hr => exact inv.of_calls rfl rfl rfl rfl rfl rfl (idle rfl)
  | readsSuccess h hd hr => exact inv.of_calls rfl rfl rfl rfl rfl rfl (idle rfl)
  | claimsStop h => exact inv.of_calls rfl rfl rfl rfl rfl rfl (idle rfl)
  | readsStop h ho => exact inv.of_calls rfl rfl rfl rfl rfl rfl (idle rfl)
  | queues h hl => exact inv.of_calls rfl rfl rfl rfl rfl rfl (idle rfl)
  | @refused d m e ha he =>
    rw [ha.eq]
    exact inv.of_calls rfl rfl rfl rfl rfl rfl (idle rfl)
  | @unconfigured d name params ha he hc =>
    rw [ha.eq]
    exact inv.of_calls rfl rfl rfl rfl rfl rfl (idle rfl)
  | @removes d name ha he =>
    have healthy := (healthy_of_refusal? he).1
    rw [ha.eq] at healthy ⊢
    exact inv.of_calls rfl rfl rfl rfl rfl rfl (inv.setCall fun _ => .inl healthy)
  | @replaces d name params previous ha he hc =>
    have healthy := (healthy_of_refusal? he).1
    rw [ha.eq] at healthy ⊢
    exact inv.of_calls rfl rfl rfl rfl rfl rfl (inv.setCall fun _ => .inl healthy)
  | removed h => exact inv.of_calls rfl rfl rfl rfl rfl rfl (idle rfl)
  | removeFails h => exact inv.of_calls rfl rfl rfl rfl rfl rfl (idle rfl)
  | replaceFails h => exact inv.of_calls rfl rfl rfl rfl rfl rfl (idle rfl)
  | stopped h hs => exact inv.of_calls rfl rfl rfl rfl rfl rfl (busy h rfl)
  | adds h hs => exact inv.of_calls rfl rfl rfl rfl rfl rfl (busy h rfl)
  | awaitsNode h hj hp => exact inv.of_calls rfl rfl rfl rfl rfl rfl (busy h rfl)
  | awaitsAll h hj hp => exact inv.of_calls rfl rfl rfl rfl rfl rfl (busy h rfl)
  | cleans hset =>
    obtain ⟨phase, h, hc⟩ := hset.phase
    exact inv.of_calls rfl rfl rfl rfl rfl rfl (busy h (by simp [hc]))
  | recovers hrec => exact inv.of_calls rfl rfl rfl rfl rfl rfl (idle rfl)
  | cleaned h hr => exact inv.of_calls rfl rfl rfl rfl rfl rfl (idle rfl)
  | breaks hbreak => exact inv.of_calls rfl rfl rfl rfl rfl rfl (idle rfl)

/-- Every move preserves coherence, given that nodes are changed under the lock only. -/
theorem coherent_move {e : Event} (h : Move c e d) (lock : Custody c) (inv : Coherent c) :
    Coherent d := by
  cases h with
  | starts h =>
    have unborn := inv.created_starter h
    have hnext : c.registry.state.advance .launching = .launching := by rw [h]; rfl
    constructor <;> simp only [Registry.advance, hnext] <;> grind
  | arrives h =>
    exact inv.of_calls rfl rfl rfl rfl rfl rfl
      (inv.setCall fun hc => by simp [CallPhase.charge?] at hc)
  | leaves n =>
    refine inv.of_calls rfl rfl rfl rfl rfl rfl fun m phase hphase hc => ?_
    simp only [leave, Roster.get?_erase] at hphase
    split at hphase
    · simp at hphase
    · exact inv.charge_state m phase hphase hc
  | elapses ms => exact inv.of_calls rfl rfl rfl rfl rfl rfl inv.charge_state
  | starterAnswered he ha =>
    constructor <;> simp only [StartPhase.isBusy_take, StartPhase.isEarly_take,
      StartPhase.take_eq_unborn_iff, StartPhase.take_eq_ended_iff,
      StartPhase.take_eq_crashed_iff, ne_eq] <;> grind
  | stopperAnswered he ha =>
    constructor <;> simp only [StopPhase.prior?_take, StopPhase.isLast_take,
      StopPhase.take_eq_unborn_iff, StopPhase.take_eq_ended_iff] <;> grind
  | @callerAnswered n phase errand reply h he ha =>
    have hc := CallPhase.charge?_isSome_of_errand? he
    exact inv.of_calls rfl rfl rfl rfl rfl rfl (inv.setCall fun _ => inv.charge_state n phase h hc)
  | starter h => exact coherent_starter inv h
  | keeper => exact inv.of_calls rfl rfl rfl rfl rfl rfl inv.charge_state
  | stopper h => exact coherent_stopper inv lock h
  | caller h => exact coherent_caller inv h

/-! ## Runs of a planned cluster -/

/-- Nodes are changed under the lock only, and all phases fit together. -/
structure Orderly (c : Cluster) : Prop extends Custody c, Coherent c

theorem orderly_move {e : Event} (h : Move c e d) (inv : Orderly c) : Orderly d where
  toCustody := custody_move h inv.toCustody
  toCoherent := coherent_move h inv.toCustody inv.toCoherent

theorem orderly_run (inv : Orderly c) (events : List Event) : Orderly (c.run events) :=
  run_preserves (fun _ _ _ _ h inv => orderly_move h inv) c inv

/-- A planned cluster has the nodes that its plan lays out, and nothing has happened to it. -/
theorem plan_eq_ok {options : ClusterOptions} {params : StartParams} {pid : UInt32}
    {obstacle : Option IoError} (h : plan options params pid obstacle = .ok c) :
    ∃ configs, (options.plan params).build = .ok configs ∧
      c = { pid := pid, rootDir := options.rootDir, healthTimeout := options.healthTimeout,
            restartPolicy := options.restartPolicy, registry := .ofConfigs configs } := by
  unfold plan at h
  cases obstacle with
  | some cause => simp [bind, Except.bind] at h
  | none =>
    cases hbuild : (options.plan params).build with
    | error e => simp [hbuild, bind, Except.bind] at h
    | ok configs =>
      simp only [hbuild, bind, Except.bind] at h
      exact ⟨configs, rfl, (Except.ok.inj h).symm⟩

def pairOptions : ClusterOptions := { nodeCount := 2, rootDir := .ofText "/tmp/pair" }

def pairParams : StartParams := { execPath := .ofText "/bin/node" }

/-- A small cluster, of two nodes. -/
def pair : Cluster where
  pid := 1
  rootDir := pairOptions.rootDir
  healthTimeout := pairOptions.healthTimeout
  restartPolicy := pairOptions.restartPolicy
  registry := .ofConfigs
    [(pairOptions.plan pairParams).node 9650 0, (pairOptions.plan pairParams).node 9652 1]

theorem plan_pair : plan pairOptions pairParams 1 none = .ok pair := rfl

/-- What the launcher reports on the small cluster when both nodes are up. -/
def pairReports : Table NodeReport :=
  .ofList [("node1", ⟨"node1", "http://1", "A"⟩), ("node2", ⟨"node2", "http://2", "B"⟩)]

/-- The small cluster has become healthy. -/
def pairHealthy : List Event :=
  [.start, .poll .starter, .answer .starter .done, .poll .starter,
    .answer .starter (.nodes pairReports), .poll .starter]

theorem orderly_of_plan {options : ClusterOptions} {params : StartParams} {pid : UInt32}
    {obstacle : Option IoError} (h : plan options params pid obstacle = .ok c) : Orderly c := by
  obtain ⟨configs, -, rfl⟩ := plan_eq_ok h
  have nobody (n : Nat) : (Roster.get? {} n : Option CallPhase) = none := rfl
  constructor <;> constructor <;> simp [Registry.ofConfigs, StartPhase.isBusy, StartPhase.isEarly,
    StopPhase.prior?, StopPhase.isLast, StopPhase.holds, Lifecycle.isStopping, nobody]

end Cluster
end ClusterControl
