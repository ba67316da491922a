import ClusterControl.Cluster.Run
import Mathlib.Logic.Relation
import Mathlib.Tactic

/-!
# Moves of a cluster

A worker that goes on may pass through several phases before it has to wait again: a stop, for
instance, takes the lock, finds no nodes, learns that the launch is over, and ends, all in one
event.  This module cuts every event into moves, each of which is one such passage.  A move says
everything that a worker may do there, its guards included.

* `StarterMove`, `StopperMove`, `CallerMove` — the moves of the launch, of the stop and of a call.
* `Move` — the moves of a cluster, each under the event that it belongs to.
* `step_moves` — every event is a row of its moves; `step_move` — most events are one at most.
* `step_preserves`, `run_preserves`, `run_preserves_given` — what every move preserves holds after
  every run.
* `throughout`, `run_preserves_tested` — what the moves preserve whose events pass a test holds
  after every run that passes it throughout.

Nothing here says that a move keeps an invariant; that is the business of the modules that follow.
-/

namespace ClusterControl

/-- The failures of a shutdown so far, with the one that its answer tells of. -/
def tally (failures : List String) : Except Mishap Unit → List String
  | .error (.failed e) => failures ++ [e.message]
  | _ => failures

/-- The phase of a launch once a reply to its errand is there. -/
def StartPhase.take (reply : Reply) : StartPhase → StartPhase
  | .launching none => .launching reply.toDone
  | .waiting deadline none => .waiting deadline reply.toNodes
  | phase => phase

def StopPhase.take (reply : Reply) : StopPhase → StopPhase
  | .shutting prior last failures none => .shutting prior last failures reply.toDone
  | phase => phase

namespace CallPhase

/-- The phase of a call once a reply to its errand is there. -/
def take (reply : Reply) : CallPhase → CallPhase
  | removing name none => removing name reply.toDone
  | replacing name config none => replacing name config reply.toDone
  | adding name config none => adding name config reply.toDone
  | awaitingNode name deadline none => awaitingNode name deadline reply.toNode
  | awaitingAll name deadline none => awaitingAll name deadline reply.toNodes
  | cleaning name cause none => cleaning name cause reply.toDone
  | phase => phase

def errand? : CallPhase → Option Errand
  | removing name none => some (.remove name)
  | replacing name _ none => some (.remove name)
  | adding _ config none => some (.add config)
  | awaitingNode name _ none => some (.waitNode name)
  | awaitingAll _ _ none => some .waitHealthy
  | cleaning name _ none => some (.remove name)
  | _ => none

/-- The node that a call is changing at this moment. -/
def charge? : CallPhase → Option String
  | removing name _ => some name
  | replacing name _ _ => some name
  | adding name _ _ => some name
  | awaitingNode name _ _ => some name
  | awaitingAll name _ _ => some name
  | cleaning name _ _ => some name
  | _ => none

@[simp] theorem charge?_take (reply : Reply) (phase : CallPhase) :
    (phase.take reply).charge? = phase.charge? := by
  unfold take
  split <;> rfl

/-- Only a call that is changing a node has an errand in the air. -/
theorem charge?_isSome_of_errand? {phase : CallPhase} {errand : Errand}
    (h : phase.errand? = some errand) : phase.charge?.isSome = true := by
  unfold errand? at h
  split at h <;> first | rfl | simp at h

end CallPhase

namespace Cluster

variable {c : Cluster}

/-! ## The launch -/

/-- One move of the launch. -/
inductive StarterMove (c : Cluster) : Cluster → Prop
  | asks (h : c.starter = .spawned) :
      StarterMove c
        ({ c with starter := .launching none }.ask .starter (.launch c.registry.orderedConfigs))
  | waits (h : c.starter = .launching (some (.ok ())))
      (hj : c.judge c.deadline (none : Pending Unit) = .still) :
      StarterMove c
        ({ c with handle := true, starter := .waiting c.deadline none }.ask .starter .waitHealthy)
  -- The nodes are there, but there is no time left to wait for them
  | givesUp {e : Failure} (h : c.starter = .launching (some (.ok ())))
      (hj : c.judge c.deadline (none : Pending Unit) = .failed e) :
      StarterMove c ({ c with handle := true }.startFailed e)
  | launchFails {e : Failure} (h : c.starter = .launching (some (.error (.failed e)))) :
      StarterMove c (c.startFailed (launchFailure e))
  | waitFails {deadline : Nat} {reply : Pending (Table NodeReport)} {e : Failure}
      (h : c.starter = .waiting deadline reply) (hj : c.judge deadline reply = .failed e) :
      StarterMove c (c.startFailed e)
  -- The nodes have reported, but the report is not good enough
  | rejects {deadline : Nat} {reply : Pending (Table NodeReport)} {reports : Table NodeReport}
      {e : Failure} (h : c.starter = .waiting deadline reply)
      (hj : c.judge deadline reply = .reported reports)
      (hp : c.registry.publish reports = .error e) :
      StarterMove c (c.startFailed e)
  | publishes {deadline : Nat} {reply : Pending (Table NodeReport)} {reports : Table NodeReport}
      {registry : Registry} (h : c.starter = .waiting deadline reply)
      (hj : c.judge deadline reply = .reported reports)
      (hp : c.registry.publish reports = .ok registry) :
      StarterMove c { c with registry := registry, starter := .ended, startDone := true }
  | launchCrashes (h : c.starter = .launching (some (.error .crashed))) :
      StarterMove c { c with starter := .crashed }
  | waitCrashes {deadline : Nat} {reply : Pending (Table NodeReport)}
      (h : c.starter = .waiting deadline reply) (hj : c.judge deadline reply = .crashed) :
      StarterMove c { c with starter := .crashed }

/-- A wait that nobody has answered either goes on or has failed. -/
theorem judge_none {α : Type} (c : Cluster) (deadline : Nat) :
    c.judge deadline (none : Pending α) = .still ∨
      ∃ e, c.judge deadline (none : Pending α) = .failed e := by
  unfold judge
  split
  · exact .inr ⟨_, rfl⟩
  · split
    · exact .inr ⟨_, rfl⟩
    · exact .inl rfl

/-- The launch goes on by one move, or stays where it is. -/
theorem pollStarter_moves (c : Cluster) : c.pollStarter = c ∨ StarterMove c c.pollStarter := by
  unfold pollStarter
  split
  · next h => exact .inr (.asks h)
  · next h =>
    rcases judge_none (α := Unit) c c.deadline with hj | ⟨e, hj⟩
    · have hj' : ({ c with handle := true } : Cluster).judge c.deadline (none : Pending Unit) =
          .still := hj
      have hd : ({ c with handle := true } : Cluster).deadline = c.deadline := rfl
      simp only [hd, hj']
      exact .inr (.waits h hj)
    · have hj' : ({ c with handle := true } : Cluster).judge c.deadline (none : Pending Unit) =
          .failed e := hj
      have hd : ({ c with handle := true } : Cluster).deadline = c.deadline := rfl
      simp only [hd, hj']
      exact .inr (.givesUp h hj)
  · next h => exact .inr (.launchFails h)
  · next h => exact .inr (.launchCrashes h)
  · next deadline reply h =>
    unfold awaitHealthy
    cases hj : c.judge deadline reply with
    | still => exact .inl (by simp only [← h])
    | failed e => exact .inr (.waitFails h hj)
    | crashed => exact .inr (.waitCrashes h hj)
    | reported reports =>
      simp only [published]
      cases hp : c.registry.publish reports with
      | ok registry => exact .inr (.publishes h hj hp)
      | error e => exact .inr (.rejects h hj hp)
  · exact .inl rfl

/-! ## The stop -/

/-- The stop is at its end, with these failures. -/
inductive StopEnds (c : Cluster) (prior : Lifecycle) (failures : List String) : Prop
  | empty (h : c.stopper = .awaitingStart prior failures) (hd : c.startDone = true)
      (hh : c.handle = false)
  | shut {earlier : List String} {reply : Except Mishap Unit}
      (h : c.stopper = .shutting prior true earlier (some reply))
      (hr : reply ≠ .error .crashed) (hf : failures = tally earlier reply)

/-- One move of the stop. -/
inductive StopperMove (c : Cluster) : Cluster → Prop
  -- The stop takes effect: everybody is told, and it asks for the lock
  | begins (h : c.stopper = .unborn) (ha : c.latch.action = .spawned) :
      StopperMove c { c with
        latch := c.latch.begin
        registry := c.registry.advance .stopping
        stopSignal := true
        lock := c.lock.request .stopper
        stopper := .queued c.registry.state }
  | shuts {prior : Lifecycle} (h : c.stopper = .queued prior)
      (hl : c.lock.isHeldBy .stopper = true) (hh : c.handle = true) :
      StopperMove c
        ({ c with handle := false, stopper := .shutting prior false [] none }.ask
          .stopper .shutdown)
  | passes {prior : Lifecycle} (h : c.stopper = .queued prior)
      (hl : c.lock.isHeldBy .stopper = true) (hh : c.handle = false) :
      StopperMove c { c with stopper := .awaitingStart prior [] }
  | goesOn {prior : Lifecycle} {failures : List String} {reply : Except Mishap Unit}
      (h : c.stopper = .shutting prior false failures (some reply))
      (hr : reply ≠ .error .crashed) :
      StopperMove c { c with stopper := .awaitingStart prior (tally failures reply) }
  -- There never was a launch, and whoever waits for it is told
  | tells {failures : List String} (h : c.stopper = .awaitingStart .created failures) :
      StopperMove c { c.leaveReport .aborted with startDone := true }
  -- The launch has brought up nodes after the first look
  | shutsAgain {prior : Lifecycle} {failures : List String}
      (h : c.stopper = .awaitingStart prior failures) (hd : c.startDone = true)
      (hh : c.handle = true) :
      StopperMove c
        ({ c with handle := false, stopper := .shutting prior true failures none }.ask
          .stopper .shutdown)
  | ends {prior : Lifecycle} {failures : List String} (h : StopEnds c prior failures) :
      StopperMove c (c.stopEnded prior failures)
  | crashes {prior : Lifecycle} {last : Bool} {failures : List String}
      (h : c.stopper = .shutting prior last failures (some (.error .crashed))) :
      StopperMove c
        { c with stopper := .crashed, lock := c.lock.release, latch := c.latch.finish none }

abbrev StopperMoves : Cluster → Cluster → Prop :=
  Relation.ReflTransGen StopperMove

theorem shutLast_move {prior : Lifecycle} {failures : List String}
    (h : c.stopper = .awaitingStart prior failures) (hd : c.startDone = true) :
    StopperMove c (c.shutLast prior failures) := by
  unfold shutLast
  split
  · next hh => exact .shutsAgain h hd hh
  · next hh => exact .ends (.empty h hd (by simpa using hh))

theorem awaitStart_moves {prior : Lifecycle} {failures : List String}
    (h : c.stopper = .awaitingStart prior failures) :
    StopperMoves c (c.awaitStart prior failures) := by
  unfold awaitStart
  split
  · next hp =>
    subst hp
    have told : StopperMove c { c.leaveReport .aborted with startDone := true } := .tells h
    exact (Relation.ReflTransGen.single told).tail (shutLast_move h rfl)
  · split
    · next hd => exact .single (shutLast_move h hd)
    · rw [← h]

/-- The phase in which a stop looks for nodes for the last time does not matter for what it does. -/
theorem shutLast_stopper (c : Cluster) (phase : StopPhase) (prior : Lifecycle)
    (failures : List String) :
    { c with stopper := phase }.shutLast prior failures = c.shutLast prior failures := by
  unfold shutLast
  split <;> rfl

theorem awaitStart_stopper (c : Cluster) (phase : StopPhase) (prior : Lifecycle)
    (failures : List String) :
    { c with stopper := phase }.awaitStart prior failures = c.awaitStart prior failures := by
  simp only [awaitStart, shutLast_stopper]
  split
  · exact shutLast_stopper { c.leaveReport .aborted with startDone := true } phase prior failures
  · rfl

theorem shutFirst_moves {prior : Lifecycle} (h : c.stopper = .queued prior)
    (hl : c.lock.isHeldBy .stopper = true) : StopperMoves c (c.shutFirst prior) := by
  unfold shutFirst
  split
  · next hh => exact .single (.shuts h hl hh)
  · next hh =>
    have passed : StopperMove c { c with stopper := .awaitingStart prior [] } :=
      .passes h hl (by simpa using hh)
    rw [← awaitStart_stopper c (.awaitingStart prior [])]
    exact (Relation.ReflTransGen.single passed).trans (awaitStart_moves rfl)

theorem shutDown_moves {prior : Lifecycle} {last : Bool} {failures : List String}
    {reply : Except Mishap Unit} (h : c.stopper = .shutting prior last failures (some reply))
    (hr : reply ≠ .error .crashed) :
    StopperMoves c (c.shutDown prior last (tally failures reply)) := by
  unfold shutDown
  cases last with
  | true => exact .single (.ends (.shut h hr rfl))
  | false =>
    simp only [Bool.false_eq_true, if_false]
    rw [← awaitStart_stopper c (.awaitingStart prior (tally failures reply))]
    exact (Relation.ReflTransGen.single (.goesOn h hr)).trans (awaitStart_moves rfl)

theorem shutFirst_stopper (c : Cluster) (phase : StopPhase) (prior : Lifecycle) :
    { c with stopper := phase }.shutFirst prior = c.shutFirst prior := by
  simp only [shutFirst, awaitStart_stopper]

theorem pollStopper_moves (c : Cluster) : StopperMoves c c.pollStopper := by
  unfold pollStopper
  split
  · next h =>
    split
    · next ha =>
      have begun := StopperMove.begins h ha
      simp only
      split
      · next hl =>
        rw [← shutFirst_stopper _ (.queued c.registry.state)]
        exact (Relation.ReflTransGen.single begun).trans (shutFirst_moves rfl hl)
      · exact .single begun
    · exact .refl
  · next prior h =>
    split
    · next hl => exact shutFirst_moves h hl
    · exact .refl
  · next prior last failures reply h =>
    split
    · exact shutDown_moves h (by simp)
    · exact shutDown_moves h (by simp)
    · exact .single (.crashes h)
  · next prior failures h =>
    split
    · next hd => exact .single (shutLast_move h hd)
    · exact .refl
  · exact .refl

/-! ## Calls -/

/-- What a stop comes to for a call that waits for it. -/
def stopResult : Option StopOutcome → Outcome Snapshot
  | some (.ok snapshot) => .ok snapshot
  | some (.error message) => .error (.shutdown message)
  | none => .error (.internal "shutdown task panicked")

/-- A call has got the lock for its change of a node: a free lock at once, any other in its turn. -/
inductive Admitted (c : Cluster) (n : Nat) (m : Mutation) : Cluster → Prop
  | atOnce (h : c.callers.get? n = some (.fresh (.mutate m)))
      (hl : (c.lock.request (.caller n)).isHeldBy (.caller n) = true) :
      Admitted c n m { c with lock := c.lock.request (.caller n) }
  | inTurn (h : c.callers.get? n = some (.queued m))
      (hl : c.lock.isHeldBy (.caller n) = true) :
      Admitted c n m c

/-- Why a node that was removed cannot be launched anew. -/
inductive Setback (c : Cluster) (n : Nat) (name : String) : Failure → Prop
  | addFails {config : NodeConfig} {e : Failure}
      (h : c.callers.get? n = some (.adding name config (some (.error (.failed e))))) :
      Setback c n name e
  -- It was launched, but there is no time left to wait for it
  | givesUp {config : NodeConfig} {e : Failure}
      (h : c.callers.get? n = some (.adding name config (some (.ok ()))))
      (hj : c.judge c.deadline (none : Pending Unit) = .failed e) :
      Setback c n name e
  | nodeFails {deadline : Nat} {reply : Pending NodeReport} {e : Failure}
      (h : c.callers.get? n = some (.awaitingNode name deadline reply))
      (hj : c.judge deadline reply = .failed e) :
      Setback c n name e
  | allFail {deadline : Nat} {reply : Pending (Table NodeReport)} {e : Failure}
      (h : c.callers.get? n = some (.awaitingAll name deadline reply))
      (hj : c.judge deadline reply = .failed e) :
      Setback c n name e
  | missing {deadline : Nat} {reply : Pending (Table NodeReport)} {reports : Table NodeReport}
      (h : c.callers.get? n = some (.awaitingAll name deadline reply))
      (hj : c.judge deadline reply = .reported reports) (hr : reports.get? name = none) :
      Setback c n name (.missingNode name)
  -- It has reported, without a URI or without an identifier
  | nodeIncomplete {deadline : Nat} {reply : Pending NodeReport} {report : NodeReport} {e : Failure}
      (h : c.callers.get? n = some (.awaitingNode name deadline reply))
      (hj : c.judge deadline reply = .reported report) (he : report.endpoint = .error e) :
      Setback c n name e
  | allIncomplete {deadline : Nat} {reply : Pending (Table NodeReport)}
      {reports : Table NodeReport} {report : NodeReport} {e : Failure}
      (h : c.callers.get? n = some (.awaitingAll name deadline reply))
      (hj : c.judge deadline reply = .reported reports) (hr : reports.get? name = some report)
      (he : report.endpoint = .error e) :
      Setback c n name e

/-- A node that was launched anew has reported its endpoint. -/
inductive Recovery (c : Cluster) (n : Nat) (name : String) (e : Endpoint) : Prop
  | node {deadline : Nat} {reply : Pending NodeReport} {report : NodeReport}
      (h : c.callers.get? n = some (.awaitingNode name deadline reply))
      (hj : c.judge deadline reply = .reported report) (he : report.endpoint = .ok e)
  | all {deadline : Nat} {reply : Pending (Table NodeReport)} {reports : Table NodeReport}
      {report : NodeReport} (h : c.callers.get? n = some (.awaitingAll name deadline reply))
      (hj : c.judge deadline reply = .reported reports) (hr : reports.get? name = some report)
      (he : report.endpoint = .ok e)

/-- The launcher broke down over the change of a node. -/
inductive Breakdown (c : Cluster) (n : Nat) : Prop
  | removing {name : String}
      (h : c.callers.get? n = some (.removing name (some (.error .crashed))))
  | replacing {name : String} {config : NodeConfig}
      (h : c.callers.get? n = some (.replacing name config (some (.error .crashed))))
  | adding {name : String} {config : NodeConfig}
      (h : c.callers.get? n = some (.adding name config (some (.error .crashed))))
  | node {name : String} {deadline : Nat} {reply : Pending NodeReport}
      (h : c.callers.get? n = some (.awaitingNode name deadline reply))
      (hj : c.judge deadline reply = .crashed)
  | all {name : String} {deadline : Nat} {reply : Pending (Table NodeReport)}
      (h : c.callers.get? n = some (.awaitingAll name deadline reply))
      (hj : c.judge deadline reply = .crashed)
  | cleaning {name : String} {cause : Failure}
      (h : c.callers.get? n = some (.cleaning name cause (some (.error .crashed))))

/-- One move of a call. -/
inductive CallerMove (c : Cluster) (n : Nat) : Cluster → Prop
  -- The outcome of the start belongs to another call
  | denied (h : c.callers.get? n = some (.fresh .waitReady)) (ht : c.reportTaken = true) :
      CallerMove c n
        (c.setCall n (.returned (.error (.internal "start outcome already consumed"))))
  | signsUp (h : c.callers.get? n = some (.fresh .waitReady)) (ht : c.reportTaken = false) :
      CallerMove c n ({ c with reportTaken := true }.setCall n .awaitingReady)
  | readsFailure {e : Failure} (h : c.callers.get? n = some .awaitingReady)
      (hd : c.startDone = true) (hr : c.report = some e) :
      CallerMove c n { c.setCall n (.returned (.error e)) with report := none }
  | readsSuccess (h : c.callers.get? n = some .awaitingReady) (hd : c.startDone = true)
      (hr : c.report = none) :
      CallerMove c n (c.setCall n (.returned (.ok c.snapshot)))
  | claimsStop (h : c.callers.get? n = some (.fresh .stop)) :
      CallerMove c n ({ c with latch := c.latch.claim }.setCall n .awaitingStop)
  | readsStop {outcome : Option StopOutcome} (h : c.callers.get? n = some .awaitingStop)
      (ho : c.latch.outcome? = some outcome) :
      CallerMove c n (c.setCall n (.returned (stopResult outcome)))
  | queues {m : Mutation} (h : c.callers.get? n = some (.fresh (.mutate m)))
      (hl : (c.lock.request (.caller n)).isHeldBy (.caller n) = false) :
      CallerMove c n ({ c with lock := c.lock.request (.caller n) }.setCall n (.queued m))
  | refused {d : Cluster} {m : Mutation} {e : Failure} (ha : Admitted c n m d)
      (he : d.refusal? m.name = some e) :
      CallerMove c n (d.conclude n (.error e))
  -- The node is to be launched anew, but nobody knows how it is run
  | unconfigured {d : Cluster} {name : String} {params : StartParams}
      (ha : Admitted c n (.restart name params) d) (he : d.refusal? name = none)
      (hc : d.registry.configs.get? name = none) :
      CallerMove c n (d.conclude n (.error (.notFound name)))
  | removes {d : Cluster} {name : String} (ha : Admitted c n (.remove name) d)
      (he : d.refusal? name = none) :
      CallerMove c n ((d.setCall n (.removing name none)).ask (.caller n) (.remove name))
  | replaces {d : Cluster} {name : String} {params : StartParams} {previous : NodeConfig}
      (ha : Admitted c n (.restart name params) d) (he : d.refusal? name = none)
      (hc : d.registry.configs.get? name = some previous) :
      CallerMove c n
        ((d.setCall n (.replacing name (previous.relaunch params) none)).ask (.caller n)
          (.remove name))
  | removed {name : String} (h : c.callers.get? n = some (.removing name (some (.ok ())))) :
      CallerMove c n ({ c with registry := c.registry.forget name }.conclude n
        (.ok { c with registry := c.registry.forget name }.snapshot))
  | removeFails {name : String} {e : Failure}
      (h : c.callers.get? n = some (.removing name (some (.error (.failed e))))) :
      CallerMove c n (c.conclude n (.error e))
  | replaceFails {name : String} {config : NodeConfig} {e : Failure}
      (h : c.callers.get? n = some (.replacing name config (some (.error (.failed e))))) :
      CallerMove c n (c.conclude n (.error e))
  -- The node is gone, and a stop was requested meanwhile
  | stopped {name : String} {config : NodeConfig}
      (h : c.callers.get? n = some (.replacing name config (some (.ok ()))))
      (hs : c.stopSignal = true) :
      CallerMove c n
        ({ c with registry := c.registry.restarting name config }.cleanUp n name .aborted)
  | adds {name : String} {config : NodeConfig}
      (h : c.callers.get? n = some (.replacing name config (some (.ok ()))))
      (hs : c.stopSignal = false) :
      CallerMove c n
        (({ c with registry := c.registry.restarting name config }.setCall n
          (.adding name config none)).ask (.caller n) (.add config))
  | awaitsNode {name : String} {config : NodeConfig}
      (h : c.callers.get? n = some (.adding name config (some (.ok ()))))
      (hj : c.judge c.deadline (none : Pending Unit) = .still) (hp : c.restartPolicy = .node) :
      CallerMove c n
        ((c.setCall n (.awaitingNode name c.deadline none)).ask (.caller n) (.waitNode name))
  | awaitsAll {name : String} {config : NodeConfig}
      (h : c.callers.get? n = some (.adding name config (some (.ok ()))))
      (hj : c.judge c.deadline (none : Pending Unit) = .still)
      (hp : c.restartPolicy = .cluster) :
      CallerMove c n
        ((c.setCall n (.awaitingAll name c.deadline none)).ask (.caller n) .waitHealthy)
  | cleans {name : String} {cause : Failure} (h : Setback c n name cause) :
      CallerMove c n (c.cleanUp n name cause)
  | recovers {name : String} {e : Endpoint} (h : Recovery c n name e) :
      CallerMove c n ({ c with registry := c.registry.restarted name e }.conclude n
        (.ok { c with registry := c.registry.restarted name e }.snapshot))
  -- The node that could not be launched anew is gone, or it is given up as if it were
  | cleaned {name : String} {cause : Failure} {reply : Except Mishap Unit}
      (h : c.callers.get? n = some (.cleaning name cause (some reply)))
      (hr : reply ≠ .error .crashed) :
      CallerMove c n ({ c with registry := c.registry.forget name }.conclude n (.error cause))
  | breaks (h : Breakdown c n) : CallerMove c n (c.breakOff n)

abbrev CallerMoves (n : Nat) : Cluster → Cluster → Prop :=
  Relation.ReflTransGen fun c d => CallerMove c n d

/-- The outcome of the start, once a call waits for it, is read in one move. -/
theorem readReport_moves {n : Nat} (h : c.callers.get? n = some .awaitingReady) :
    CallerMoves n c (c.readReport n) := by
  unfold readReport
  split
  · next hd =>
    split
    · next hr => exact .single (.readsFailure h hd hr)
    · next hr => exact .single (.readsSuccess h hd hr)
  · unfold setCall
    rw [Roster.set_eq_self h]

theorem readStop_moves {n : Nat} (h : c.callers.get? n = some .awaitingStop) :
    CallerMoves n c (c.readStop n) := by
  unfold readStop
  split
  · next ho => exact .single (.readsStop h ho)
  · next ho => exact .single (.readsStop h ho)
  · next ho => exact .single (.readsStop h ho)
  · unfold setCall
    rw [Roster.set_eq_self h]

theorem readReport_setCall (c : Cluster) (n : Nat) (phase : CallPhase) :
    (c.setCall n phase).readReport n = c.readReport n := by
  simp only [readReport, setCall, Roster.set_set]
  rfl

theorem readStop_setCall (c : Cluster) (n : Nat) (phase : CallPhase) :
    (c.setCall n phase).readStop n = c.readStop n := by
  simp only [readStop, setCall, Roster.set_set]

theorem beginMutation_move {d : Cluster} {n : Nat} {m : Mutation} (ha : Admitted c n m d) :
    CallerMove c n (d.beginMutation n m) := by
  unfold beginMutation
  split
  · next he => exact .refused ha he
  · next he =>
    split
    · exact .removes ha he
    · split
      · next hc => exact .unconfigured ha he hc
      · next hc => exact .replaces ha he hc

theorem beginCall_moves {n : Nat} {call : ClusterCall}
    (h : c.callers.get? n = some (.fresh call)) : CallerMoves n c (c.beginCall n call) := by
  cases call with
  | waitReady =>
    simp only [beginCall]
    split
    · next ht => exact .single (.denied h ht)
    · next ht =>
      have signed := CallerMove.signsUp h (by simpa using ht)
      rw [← readReport_setCall _ n .awaitingReady]
      exact (Relation.ReflTransGen.single signed).trans (readReport_moves (by simp [setCall]))
  | stop =>
    simp only [beginCall]
    have claimed := CallerMove.claimsStop h
    rw [← readStop_setCall _ n .awaitingStop]
    exact (Relation.ReflTransGen.single claimed).trans (readStop_moves (by simp [setCall]))
  | mutate m =>
    simp only [beginCall]
    split
    · next hl => exact .single (beginMutation_move (.atOnce h hl))
    · next hl => exact .single (.queues h (by simpa using hl))

theorem restarted_move {n : Nat} {name : String} {report : NodeReport}
    (hok : ∀ e, report.endpoint = .ok e → Recovery c n name e)
    (herror : ∀ e, report.endpoint = .error e → Setback c n name e) :
    CallerMove c n (c.restarted n name report) := by
  unfold restarted
  split
  · next e he => exact .recovers (hok e he)
  · next e he => exact .cleans (herror e he)

theorem awaitNode_moves {n : Nat} {name : String} {deadline : Nat} {reply : Pending NodeReport}
    (h : c.callers.get? n = some (.awaitingNode name deadline reply)) :
    CallerMoves n c (c.awaitNode n name deadline reply) := by
  unfold awaitNode
  split
  · unfold setCall
    rw [Roster.set_eq_self h]
  · next report hj =>
    exact .single (restarted_move (fun _ he => .node h hj he) fun _ he => .nodeIncomplete h hj he)
  · next e hj => exact .single (.cleans (.nodeFails h hj))
  · next hj => exact .single (.breaks (.node h hj))

theorem awaitAll_moves {n : Nat} {name : String} {deadline : Nat}
    {reply : Pending (Table NodeReport)}
    (h : c.callers.get? n = some (.awaitingAll name deadline reply)) :
    CallerMoves n c (c.awaitAll n name deadline reply) := by
  unfold awaitAll
  split
  · unfold setCall
    rw [Roster.set_eq_self h]
  · next reports hj =>
    split
    · next report hr =>
      exact .single
        (restarted_move (fun _ he => .all h hj hr he) fun _ he => .allIncomplete h hj hr he)
    · next hr => exact .single (.cleans (.missing h hj hr))
  · next e hj => exact .single (.cleans (.allFail h hj))
  · next hj => exact .single (.breaks (.all h hj))

theorem awaitRestart_move {n : Nat} {name : String} {config : NodeConfig}
    (h : c.callers.get? n = some (.adding name config (some (.ok ())))) :
    CallerMove c n (c.awaitRestart n name) := by
  unfold awaitRestart
  rcases judge_none (α := Unit) c c.deadline with hj | ⟨e, hj⟩
  · simp only [hj]
    split
    · next hp => exact .awaitsNode h hj hp
    · next hp => exact .awaitsAll h hj hp
  · simp only [hj]
    exact .cleans (.givesUp h hj)

theorem pollCaller_moves (c : Cluster) (n : Nat) : CallerMoves n c (c.pollCaller n) := by
  unfold pollCaller
  split
  · next call h => exact beginCall_moves h
  · next h => exact readReport_moves h
  · next h => exact readStop_moves h
  · next m h =>
    split
    · next hl => exact .single (beginMutation_move (.inTurn h hl))
    · exact .refl
  · next name reply h =>
    split
    · exact .single (.removed h)
    · exact .single (.removeFails h)
    · exact .single (.breaks (.removing h))
  · next name config reply h =>
    split
    · simp only
      split
      · next hs => exact .single (.stopped h hs)
      · next hs => exact .single (.adds h (by simpa using hs))
    · exact .single (.replaceFails h)
    · exact .single (.breaks (.replacing h))
  · next name config reply h =>
    split
    · exact .single (awaitRestart_move h)
    · exact .single (.cleans (.addFails h))
    · exact .single (.breaks (.adding h))
  · next name deadline reply h => exact awaitNode_moves h
  · next name deadline reply h => exact awaitAll_moves h
  · next name cause reply h =>
    split
    · exact .single (.breaks (.cleaning h))
    · next hr => exact .single (.cleaned h (by simpa using hr))
  · exact .refl

/-! ## Events -/

/-- One move of a cluster, under the event that it belongs to. -/
inductive Move (c : Cluster) : Event → Cluster → Prop
  | starts (h : c.registry.state = .created) :
      Move c .start { c with registry := c.registry.advance .launching, starter := .spawned }
  | arrives {n : Nat} {call : ClusterCall} (h : c.callers.get? n = none) :
      Move c (.call n call) (c.setCall n (.fresh call))
  | leaves (n : Nat) : Move c (.leave n) (c.leave n)
  | elapses (ms : Nat) : Move c (.elapse ms) { c with now := c.now + ms }
  | starterAnswered {errand : Errand} {reply : Reply} (he : c.errand? .starter = some errand)
      (ha : reply.answers errand = true) :
      Move c (.answer .starter reply) { c with
        starter := c.starter.take reply
        journal := .answered .starter errand reply :: c.journal }
  | stopperAnswered {errand : Errand} {reply : Reply} (he : c.errand? .stopper = some errand)
      (ha : reply.answers errand = true) :
      Move c (.answer .stopper reply) { c with
        stopper := c.stopper.take reply
        journal := .answered .stopper errand reply :: c.journal }
  | callerAnswered {n : Nat} {phase : CallPhase} {errand : Errand} {reply : Reply}
      (h : c.callers.get? n = some phase) (he : phase.errand? = some errand)
      (ha : reply.answers errand = true) :
      Move c (.answer (.caller n) reply) { c with
        callers := c.callers.set n (phase.take reply)
        journal := .answered (.caller n) errand reply :: c.journal }
  | starter {d : Cluster} (h : StarterMove c d) : Move c (.poll .starter) d
  | keeper : Move c (.poll .keeper) { c with latch := c.latch.keep }
  | stopper {d : Cluster} (h : StopperMove c d) : Move c (.poll .stopper) d
  | caller {n : Nat} {d : Cluster} (h : CallerMove c n d) : Move c (.poll (.caller n)) d

abbrev Moves (e : Event) : Cluster → Cluster → Prop :=
  Relation.ReflTransGen fun c d => Move c e d

theorem errand?_caller (c : Cluster) (n : Nat) :
    c.errand? (.caller n) = (c.callers.get? n).bind CallPhase.errand? := by
  simp only [errand?]
  cases c.callers.get? n with
  | none => rfl
  | some phase => simp only [Option.bind_some]; unfold CallPhase.errand?; split <;> simp_all

theorem receive_starter (c : Cluster) (reply : Reply) :
    c.receive .starter reply = { c with starter := c.starter.take reply } := by
  simp only [receive, StartPhase.take]
  split <;> simp_all

theorem receive_stopper (c : Cluster) (reply : Reply) :
    c.receive .stopper reply = { c with stopper := c.stopper.take reply } := by
  simp only [receive, StopPhase.take]
  split <;> simp_all

theorem receive_caller {n : Nat} {phase : CallPhase} (h : c.callers.get? n = some phase)
    (reply : Reply) :
    c.receive (.caller n) reply = { c with callers := c.callers.set n (phase.take reply) } := by
  unfold receive
  simp only [h, setCall]
  unfold CallPhase.take
  split <;> first | rfl | simp_all [Roster.set_eq_self]

/-- The answer to an errand is one move, if it is one. -/
theorem answer_move (c : Cluster) (w : Worker) (reply : Reply) :
    c.answer w reply = c ∨ Move c (.answer w reply) (c.answer w reply) := by
  unfold answer
  split
  · next errand he =>
    split
    · next ha =>
      refine .inr ?_
      cases w with
      | starter => rw [receive_starter]; exact .starterAnswered he ha
      | keeper => simp [errand?] at he
      | stopper => rw [receive_stopper]; exact .stopperAnswered he ha
      | caller n =>
        rw [errand?_caller] at he
        obtain ⟨phase, h, he⟩ := Option.bind_eq_some_iff.mp he
        rw [receive_caller h]
        exact .callerAnswered h he ha
    · exact .inl rfl
  · exact .inl rfl

theorem start_move (c : Cluster) : c.start = c ∨ Move c .start c.start := by
  unfold start
  split
  · next h =>
    have created : c.registry.state = .created := by
      cases hs : c.registry.state <;> simp_all [Lifecycle.canAdvance]
    exact .inr (.starts created)
  · exact .inl rfl

theorem call_move (c : Cluster) (n : Nat) (call : ClusterCall) :
    c.call n call = c ∨ Move c (.call n call) (c.call n call) := by
  unfold Cluster.call
  split
  · exact .inl rfl
  · next h => exact .inr (.arrives h)

/-- Every event but that of a worker going on is one move at most. -/
theorem step_move (c : Cluster) {e : Event} (he : ∀ w, e ≠ .poll w) :
    c.step e = c ∨ Move c e (c.step e) := by
  cases e with
  | start => exact start_move c
  | call n call => exact call_move c n call
  | leave n => exact .inr (.leaves n)
  | poll w => exact absurd rfl (he w)
  | answer w reply => exact answer_move c w reply
  | elapse ms => exact .inr (.elapses ms)

/-- Every event is a row of its moves. -/
theorem step_moves (c : Cluster) (e : Event) : Moves e c (c.step e) := by
  by_cases he : ∃ w, e = .poll w
  · obtain ⟨w, rfl⟩ := he
    cases w with
    | starter =>
      rcases pollStarter_moves c with h | h
      · simp only [step, poll, h]
        exact .refl
      · exact .single (.starter h)
    | keeper => exact .single .keeper
    | stopper =>
      exact Relation.ReflTransGen.mono (fun _ _ h => Move.stopper h) _ _ (pollStopper_moves c)
    | caller n =>
      exact Relation.ReflTransGen.mono (fun _ _ h => Move.caller h) _ _ (pollCaller_moves c n)
  · rcases step_move c fun w heq => he ⟨w, heq⟩ with hsame | h
    · rw [hsame]
    · exact .single h

/-- What every move under an event preserves, the event preserves. -/
theorem step_preserves {P : Cluster → Prop} {e : Event}
    (hmove : ∀ {c d : Cluster}, Move c e d → P c → P d) (c : Cluster) (h : P c) :
    P (c.step e) := by
  have moves := step_moves c e
  generalize c.step e = d at moves ⊢
  induction moves with
  | refl => exact h
  | tail _ last ih => exact hmove last ih

/-- What every move under the events of a run preserves, the run preserves. -/
theorem run_preserves {P : Cluster → Prop} {events : List Event}
    (hmove : ∀ e ∈ events, ∀ {c d : Cluster}, Move c e d → P c → P d) (c : Cluster) (h : P c) :
    P (c.run events) := by
  induction events generalizing c with
  | nil => exact h
  | cons e rest ih =>
    have first : P (c.step e) := step_preserves (hmove e List.mem_cons_self) c h
    exact ih (fun e' he' => hmove e' (List.mem_cons_of_mem e he')) (c.step e) first

/-- What every move under the events of a run preserves as long as an invariant holds, the run
preserves too. -/
theorem run_preserves_given {I P : Cluster → Prop} {events : List Event}
    (hinv : ∀ {e : Event} {c d : Cluster}, Move c e d → I c → I d)
    (hmove : ∀ e ∈ events, ∀ {c d : Cluster}, Move c e d → I c → P c → P d) (c : Cluster)
    (inv : I c) (h : P c) : P (c.run events) :=
  (run_preserves (P := fun c => I c ∧ P c)
    (fun e he _ _ h both => ⟨hinv h both.1, hmove e he h both.1 both.2⟩) c ⟨inv, h⟩).2

@[simp] theorem run_nil (c : Cluster) : c.run [] = c := rfl

@[simp] theorem run_cons (c : Cluster) (e : Event) (rest : List Event) :
    c.run (e :: rest) = (c.step e).run rest := rfl

theorem run_append (c : Cluster) (first second : List Event) :
    c.run (first ++ second) = (c.run first).run second :=
  List.foldl_append

/-! ## Runs that pass a test -/

/-- Every event of a run passes a test in the state that it finds. -/
def throughout (c : Cluster) (test : Cluster → Event → Bool) : List Event → Bool
  | [] => true
  | e :: rest => test c e && (c.step e).throughout test rest

/-- What every move preserves whose event passes a test, an event preserves that does, if a worker
that goes on always passes it. -/
theorem step_preserves_tested {P : Cluster → Prop} {test : Cluster → Event → Bool}
    (hpoll : ∀ c w, test c (.poll w) = true)
    (hmove : ∀ {e : Event} {c d : Cluster}, Move c e d → test c e = true → P c → P d)
    {c : Cluster} {e : Event} (ht : test c e = true) (h : P c) : P (c.step e) := by
  by_cases he : ∃ w, e = .poll w
  · obtain ⟨w, rfl⟩ := he
    exact step_preserves (fun move => hmove move (hpoll _ w)) c h
  · rcases step_move c fun w heq => he ⟨w, heq⟩ with hsame | move
    · rw [hsame]
      exact h
    · exact hmove move ht h

/-- What every move preserves whose event passes a test, a run preserves that passes it
throughout. -/
theorem run_preserves_tested {P : Cluster → Prop} {test : Cluster → Event → Bool}
    (hpoll : ∀ c w, test c (.poll w) = true)
    (hmove : ∀ {e : Event} {c d : Cluster}, Move c e d → test c e = true → P c → P d)
    {c : Cluster} {events : List Event} (ht : c.throughout test events = true) (h : P c) :
    P (c.run events) := by
  induction events generalizing c with
  | nil => exact h
  | cons e rest ih =>
    simp only [throughout, Bool.and_eq_true] at ht
    obtain ⟨hfirst, hrest⟩ := ht
    have after : P (c.step e) := step_preserves_tested hpoll hmove hfirst h
    exact ih hrest after

end Cluster
end ClusterControl
