import ClusterControl.Proofs.Cluster.LaunchHistory
import ClusterControl.Proofs.Cluster.RegistrySound

/-!
# How a start comes out

The answer to the launch, the report on the nodes, the deadline and a stop race with one another,
and whoever waits for the start is told one outcome.  This module says which, in terms of what an
onlooker sees: the journal, the clock and the stop signal at the steps of the launch.

* `reportFlaw?` — what is wrong with a report on the nodes.
* `Decision` — how a start comes out that is decided at a given moment.
* `StartOutcome` — how the start comes out in the course of a run.
* `StartOutcome.unique` — there is only one way.
* `start_outcome` — the first call that waits is told just that.
-/

namespace ClusterControl

/-- What is wrong with a report on one node, if it lacks a URI or an identifier. -/
def NodeReport.flaw? (r : NodeReport) : Option String :=
  if r.uri = "" ∨ r.id = "" then some ("node " ++ r.name ++ " reported an incomplete endpoint")
  else none

/-- What is wrong with a report on nodes of these names, if one of them is missing or lacks a URI or
an identifier; of several the first one counts. -/
def reportFlaw? (reports : Table NodeReport) (names : List String) : Option String :=
  names.findSome? fun name =>
    match reports.get? name with
    | none => some ("node " ++ name ++ " missing from healthy cluster")
    | some report => report.flaw?

theorem NodeReport.endpoint_eq (r : NodeReport) :
    r.endpoint = match r.flaw? with
      | some message => .error (.launch message)
      | none => .ok ⟨r.uri, r.id⟩ := by
  unfold endpoint flaw?
  by_cases hflaw : r.uri = "" ∨ r.id = ""
  · have incomplete : (r.uri.isEmpty || r.id.isEmpty) = true := by simpa using hflaw
    simp [hflaw, incomplete]
  · have complete : (r.uri.isEmpty || r.id.isEmpty) = false := by simpa using hflaw
    simp [hflaw, complete]

/-- The records of nodes cannot be taken over from a report exactly if it has a flaw. -/
theorem Registry.readyRecords_eq_error_iff {reports : Table NodeReport} {names : List String}
    {e : Failure} : readyRecords reports names = .error e ↔
      ∃ message, reportFlaw? reports names = some message ∧ e = .launch message := by
  induction names with
  | nil => simp [readyRecords, reportFlaw?]
  | cons name rest ih =>
    unfold readyRecords reportFlaw?
    rw [List.findSome?_cons]
    cases hget : reports.get? name with
    | none => simp [Failure.missingNode, eq_comm]
    | some report =>
      cases hflaw : report.flaw? with
      | some message => simp [report.endpoint_eq, hflaw, bind, Except.bind, eq_comm]
      | none =>
        rw [reportFlaw?] at ih
        simp only [report.endpoint_eq, hflaw, bind, Except.bind, ← ih]
        cases readyRecords reports rest <;> simp

namespace Cluster

variable {c d : Cluster} {n : Nat}

/-! ## The one outcome -/

/-- How a start comes out that is decided at this moment: a stop goes before the deadline, and the
deadline before what the launcher has reported. -/
inductive Decision (c : Cluster) (deadline : Nat) (names : List String) : Option Failure → Prop
  | stopped (hs : c.stopSignal = true) : Decision c deadline names (some .aborted)
  | late (hs : c.stopSignal = false) (ht : deadline ≤ c.now) :
      Decision c deadline names (some (.healthTimeout c.healthTimeout))
  | failed {e : Failure} (hs : c.stopSignal = false) (ht : c.now < deadline)
      (hr : c.journal.healthReply? = some (.mishap (.failed e))) :
      Decision c deadline names (some e)
  | flawed {reports : Table NodeReport} {message : String} (hs : c.stopSignal = false)
      (ht : c.now < deadline) (hr : c.journal.healthReply? = some (.nodes reports))
      (hf : reportFlaw? reports names = some message) :
      Decision c deadline names (some (.launch message))
  | healthy {reports : Table NodeReport} (hs : c.stopSignal = false) (ht : c.now < deadline)
      (hr : c.journal.healthReply? = some (.nodes reports))
      (hf : reportFlaw? reports names = none) : Decision c deadline names none

/-- The launch is answered, and the wait for the nodes is decided: a stop was requested, the time is
over, or the launcher has reported. -/
def Decisive (deadline : Nat) (c : Cluster) : Prop :=
  LaunchAnswered c ∧
    (c.stopSignal = true ∨ deadline ≤ c.now ∨ c.journal.healthReply?.isSome = true)

/-- What is told of a launch that failed, whatever the launcher's failure is. -/
def launchMessage : Failure → String
  | .launch message => message
  | e => e.message

/-- How the start of a planned cluster comes out in the course of a run.  The time allowed for the
nodes to become healthy runs from the step in which the launch hears that they are launched. -/
inductive StartOutcome (c : Cluster) (events : List Event) : Option Failure → Prop
  | stoppedFirst {before : List Event} (within : before <+: events) (hstart : .start ∉ before)
      (hs : (c.run before).stopSignal = true) : StartOutcome c events (some .aborted)
  -- The launcher could not launch the nodes, whether or not a stop took effect meanwhile
  | launchFailed {launched : List Event} {e : Failure}
      (hlaunch : FirstStep c events launched LaunchAnswered)
      (hr : (c.run launched).journal.launchReply? = some (.mishap (.failed e))) :
      StartOutcome c events (some (.launch (launchMessage e)))
  -- The nodes were launched, and a later step, or the same, was the first one to find the wait for
  -- them decided
  | decided {launched before : List Event} {o : Option Failure}
      (hlaunch : FirstStep c events launched LaunchAnswered)
      (hr : (c.run launched).journal.launchReply? = some .done)
      (hdecided : FirstStep c events before (Decisive (c.run launched).deadline))
      (decision : Decision (c.run before) (c.run launched).deadline c.registry.names o) :
      StartOutcome c events o

theorem Decision.unique {deadline : Nat} {names : List String} {o o' : Option Failure}
    (h : Decision c deadline names o) (h' : Decision c deadline names o') : o = o' := by
  cases h <;> cases h' <;> grind

/-! ## Runs of a cluster that was only planned -/

/-- A cluster to which nothing has happened since it was planned with these nodes. -/
structure Untouched (planned : List NodeConfig) (c : Cluster) : Prop
    extends Followed c, Kept planned c where
  created : c.registry.state = .created
  unlocked : c.lock = {}
  unreported : c.report = none
  untaken : c.reportTaken = false
  uncalled : ∀ n, c.callers.get? n = none

theorem untouched_of_plan {options : ClusterOptions} {params : StartParams} {pid : UInt32}
    {obstacle : Option IoError} (h : plan options params pid obstacle = .ok c) :
    ∃ planned, Untouched planned c := by
  have followed := followed_of_plan h
  obtain ⟨planned, -, kept⟩ := kept_of_plan h
  obtain ⟨configs, -, rfl⟩ := plan_eq_ok h
  exact ⟨planned, { followed, kept with
    created := rfl, unlocked := rfl, unreported := rfl, untaken := rfl, uncalled := fun _ => rfl }⟩

namespace Untouched

variable {planned : List NodeConfig} {events before : List Event}

theorem unborn (inv : Untouched planned c) : c.starter = .unborn :=
  inv.created_starter inv.created

/-- As long as the launch waits for the nodes and no stop was requested, all planned nodes are
there. -/
theorem names_of_waiting (inv : Untouched planned c) {deadline : Nat}
    {reply : Pending (Table NodeReport)} (hs : (c.run before).starter = .waiting deadline reply)
    (hu : (c.run before).stopSignal = false) :
    (c.run before).registry.state = .launching ∧
      (c.run before).registry.names = c.registry.names := by
  have launching := (orderly_run inv.toOrderly before).launching_of_waiting hs hu
  refine ⟨launching, ?_⟩
  rw [(kept_run inv.toOrderly inv.toKept before).young_names (by rw [launching]; rfl),
    inv.young_names (by rw [inv.created]; rfl)]

end Untouched

/-! ## The step that decides -/

theorem undecided_of_judge {α : Type} {deadline : Nat} {reply : Pending α}
    (h : c.judge deadline reply = .still) :
    c.stopSignal = false ∧ c.now < deadline ∧ reply = none := by
  unfold judge at h
  split at h
  · simp at h
  · next hs =>
    split at h
    · simp at h
    · next ht => split at h <;> simp_all

/-- A launch that waits, and finds the wait decided when it is polled, is over. -/
theorem startDone_of_waiting {deadline : Nat} {reply : Pending (Table NodeReport)}
    (hs : c.starter = .waiting deadline reply) (steady : Steady c.starter)
    (hd : c.stopSignal = true ∨ deadline ≤ c.now ∨ reply.isSome = true) :
    (c.step (.poll .starter)).startDone = true := by
  have polled : c.step (.poll .starter) = c.awaitHealthy deadline reply := by
    simp only [step, poll, pollStarter, hs]
  rw [polled]
  unfold awaitHealthy
  cases hj : c.judge deadline reply with
  | still =>
    obtain ⟨hsignal, ht, rfl⟩ := undecided_of_judge hj
    simp [hsignal, Nat.not_le.mpr ht] at hd
  | reported reports =>
    simp only [published]
    split <;> rfl
  | failed e => rfl
  | crashed =>
    rw [hs, eq_crashed_of_judge hj] at steady
    exact steady.elim

/-- A launch that has heard of its nodes, and finds at once that it cannot wait for them, is
over. -/
theorem startDone_of_launched (hs : c.starter = .launching (some (.ok ())))
    (hd : c.stopSignal = true ∨ c.deadline ≤ c.now) :
    (c.step (.poll .starter)).startDone = true := by
  have polled : c.step (.poll .starter) = c.pollStarter := rfl
  rw [polled]
  rcases pollStarter_of_launched hs with ⟨e, -, heq⟩ | ⟨hj, -⟩
  · rw [heq]
    rfl
  · obtain ⟨hsignal, ht, -⟩ := undecided_of_judge hj
    simp [hsignal, Nat.not_le.mpr ht] at hd

section

variable {planned : List NodeConfig} {events launched before : List Event}

/-- A launch that waits allows the nodes the time that runs from the step in which it has heard of
them. -/
theorem deadline_of_waiting (inv : Untouched planned c) (calm : ∀ e ∈ events, e.isCalm = true)
    (hlaunch : FirstStep c events launched LaunchAnswered)
    (within : before ++ [.poll .starter] <+: events) {deadline : Nat}
    {reply : Pending (Table NodeReport)} (hs : (c.run before).starter = .waiting deadline reply) :
    deadline = (c.run launched).deadline := by
  obtain ⟨launched', hle, hs', hd⟩ :=
    launched_of_waiting (by rw [inv.unborn]; simp) hs
  have first := firstStep_of_launching inv.toFollowed calm hs'
    (hle.trans ((List.prefix_append before _).trans within))
  rw [hd, first.unique hlaunch]

/-- After a step of the launch that finds the wait for the nodes decided, the launch is over. -/
theorem startDone_of_decisive (inv : Untouched planned c) (calm : ∀ e ∈ events, e.isCalm = true)
    (hlaunch : FirstStep c events launched LaunchAnswered)
    (hr : (c.run launched).journal.launchReply? = some .done)
    (within : before ++ [.poll .starter] <+: events)
    (hd : Decisive (c.run launched).deadline (c.run before)) :
    (c.run (before ++ [.poll .starter])).startDone = true := by
  have followed := inv.upTo calm within
  rw [run_append, run_cons, run_nil]
  rcases followed.heard hd.1 with ⟨r, hs⟩ | hlate
  · obtain rfl := (firstStep_of_launching inv.toFollowed calm hs within).unique hlaunch
    obtain ⟨reply, hreply, htoDone⟩ := followed.launchReply?_of_launching hs
    rw [hr] at hreply
    obtain rfl := Option.some.inj hreply
    obtain rfl : .ok () = r := Option.some.inj htoDone
    refine startDone_of_launched hs (hd.2.imp_right fun hd => hd.resolve_right ?_)
    simp [followed.healthReply?_of_launching hs]
  · rcases followed.waits_or_done hlate with ⟨deadline, reply, hs⟩ | hdone
    · have hdeadline := deadline_of_waiting inv calm hlaunch within hs
      refine startDone_of_waiting hs followed.steady ?_
      rw [hdeadline]
      refine hd.2.imp_right fun hd => hd.imp_right fun hreported => ?_
      rcases followed.healthReply?_of_waiting hs with ⟨-, hquiet⟩ | ⟨r, report, rfl, -⟩
      · simp [hquiet] at hreported
      · rfl
    · exact startDone_run hdone [.poll .starter]

/-- As long as there is no launch, no step of it finds an answer of the launcher. -/
theorem unanswered_of_unborn (inv : Untouched planned c) (calm : ∀ e ∈ events, e.isCalm = true)
    (hu : (c.run events).starter = .unborn) : ¬ FirstStep c events launched LaunchAnswered := by
  intro hlaunch
  have unborn : (c.run launched).starter = .unborn := by
    obtain ⟨rest, heq⟩ := (List.prefix_append launched _).trans hlaunch.within
    rw [← heq, run_append] at hu
    exact unborn_of_run hu
  rcases (inv.upTo calm hlaunch.within).heard hlaunch.holds with ⟨r, hs⟩ | hlate
  · simp [unborn] at hs
  · simp [unborn, StartPhase.isEarly] at hlate

/-- If a stop takes effect before the first start, there is no launch in the course of the run. -/
theorem unborn_of_stoppedFirst (inv : Untouched planned c) (within : before <+: events)
    (hstart : .start ∉ before) (hs : (c.run before).stopSignal = true) :
    (c.run events).starter = .unborn := by
  obtain ⟨rest, rfl⟩ := within
  rw [run_append]
  exact unborn_of_stopped_first (orderly_run inv.toOrderly before)
    (unborn_run inv.unborn hstart) hs rest

/-- A start comes out in one way only. -/
theorem StartOutcome.unique {o o' : Option Failure} (inv : Untouched planned c)
    (calm : ∀ e ∈ events, e.isCalm = true) (h : StartOutcome c events o)
    (h' : StartOutcome c events o') : o = o' := by
  cases h with
  | stoppedFirst within hstart hs =>
    cases h' with
    | stoppedFirst _ _ _ => rfl
    | launchFailed hlaunch _ =>
      exact absurd hlaunch
        (unanswered_of_unborn inv calm (unborn_of_stoppedFirst inv within hstart hs))
    | decided hlaunch _ _ _ =>
      exact absurd hlaunch
        (unanswered_of_unborn inv calm (unborn_of_stoppedFirst inv within hstart hs))
  | launchFailed hlaunch hr =>
    cases h' with
    | stoppedFirst within hstart hs =>
      exact absurd hlaunch
        (unanswered_of_unborn inv calm (unborn_of_stoppedFirst inv within hstart hs))
    | launchFailed hlaunch' hr' =>
      obtain rfl := hlaunch.unique hlaunch'
      simp_all
    | decided hlaunch' hr' _ _ =>
      obtain rfl := hlaunch.unique hlaunch'
      simp_all
  | decided hlaunch hr hdecided decision =>
    cases h' with
    | stoppedFirst within hstart hs =>
      exact absurd hlaunch
        (unanswered_of_unborn inv calm (unborn_of_stoppedFirst inv within hstart hs))
    | launchFailed hlaunch' hr' =>
      obtain rfl := hlaunch.unique hlaunch'
      simp_all
    | decided hlaunch' hr' hdecided' decision' =>
      obtain rfl := hlaunch.unique hlaunch'
      obtain rfl := hdecided.unique hdecided'
      exact decision.unique decision'

/-- Once it is settled how a start comes out, the launch is said to be over. -/
theorem StartOutcome.startDone {o : Option Failure} (inv : Untouched planned c)
    (calm : ∀ e ∈ events, e.isCalm = true) (h : StartOutcome c events o) :
    (c.run events).startDone = true := by
  have lasts {part : List Event} (hle : part <+: events) (hd : (c.run part).startDone = true) :
      (c.run events).startDone = true := by
    obtain ⟨rest, rfl⟩ := hle
    rw [run_append]
    exact startDone_run hd rest
  cases h with
  | stoppedFirst within hstart hs =>
    exact lasts within
      (startDone_of_stopped_first inv.toOrderly inv.created (fun _ => inv.unlocked) hstart hs)
  | decided hlaunch hr hdecided decision =>
    exact lasts hdecided.within
      (startDone_of_decisive inv calm hlaunch hr hdecided.within hdecided.holds)
  | @launchFailed launched e hlaunch hr =>
    refine lasts hlaunch.within ?_
    have followed := inv.upTo calm hlaunch.within
    rw [run_append, run_cons, run_nil]
    rcases followed.heard hlaunch.holds with ⟨r, hs⟩ | hlate
    · obtain ⟨reply, hreply, htoDone⟩ := followed.launchReply?_of_launching hs
      rw [hr] at hreply
      obtain rfl := Option.some.inj hreply
      obtain rfl : .error (.failed e) = r := Option.some.inj htoDone
      simp only [step, poll, pollStarter, hs]
      rfl
    · rcases followed.waits_or_done hlate with ⟨deadline, reply, hs⟩ | hdone
      · have done := followed.launchReply?_of_waiting hs
        simp [hr] at done
      · exact startDone_run hdone [.poll .starter]

/-- A wait is over because the launcher has reported only if nothing goes before it. -/
theorem reported_of_judge {α : Type} {deadline : Nat} {reply : Pending α} {v : α}
    (h : c.judge deadline reply = .reported v) :
    c.stopSignal = false ∧ c.now < deadline ∧ reply = some (.ok v) := by
  unfold judge at h
  split at h
  · simp at h
  · next hs =>
    split at h
    · simp at h
    · next ht => split at h <;> simp_all

/-- A launch that waits, and finds the wait decided when it is polled, decides how the start comes
out. -/
theorem StartOutcome.of_waiting {o : Option Failure} (inv : Untouched planned c)
    (calm : ∀ e ∈ events, e.isCalm = true) (within : before ++ [.poll .starter] <+: events)
    (undone : (c.run before).startDone = false) {deadline : Nat}
    {reply : Pending (Table NodeReport)} (hs : (c.run before).starter = .waiting deadline reply)
    (hd : (c.run before).stopSignal = true ∨ deadline ≤ (c.run before).now ∨ reply.isSome = true)
    (decision : Decision (c.run before) deadline c.registry.names o) : StartOutcome c events o := by
  obtain ⟨launched, hle, hlaunching, rfl⟩ := launched_of_waiting (by rw [inv.unborn]; simp) hs
  have within' := hle.trans ((List.prefix_append before _).trans within)
  have hlaunch := firstStep_of_launching inv.toFollowed calm hlaunching within'
  have hr : (c.run launched).journal.launchReply? = some .done := by
    obtain ⟨reply, hreply, htoDone⟩ :=
      (inv.upTo calm within').launchReply?_of_launching hlaunching
    rw [hreply, Reply.eq_done_of_toDone htoDone]
  have followed := inv.upTo calm within
  refine .decided hlaunch hr ⟨within, ⟨?_, ?_⟩, fun earlier hearlier hdecisive => ?_⟩ decision
  · simp [LaunchAnswered, followed.launchReply?_of_waiting hs]
  · refine hd.imp_right fun hd => hd.imp_right fun hreported => ?_
    rcases followed.healthReply?_of_waiting hs with ⟨rfl, -⟩ | ⟨r, report, -, hreport, -⟩
    · simp at hreported
    · simp [hreport]
  · -- The launch would have been over since that earlier step.
    have done := startDone_of_decisive inv calm hlaunch hr
      (hearlier.trans ((List.prefix_append before _).trans within)) hdecisive
    obtain ⟨rest, rfl⟩ := hearlier
    rw [run_append, startDone_run done] at undone
    simp at undone

/-- A launch that has heard of its nodes, and finds at once that it cannot wait for them, decides
how the start comes out. -/
theorem StartOutcome.of_launched {o : Option Failure} (inv : Untouched planned c)
    (calm : ∀ e ∈ events, e.isCalm = true) (within : before ++ [.poll .starter] <+: events)
    (hs : (c.run before).starter = .launching (some (.ok ())))
    (hd : (c.run before).stopSignal = true ∨ (c.run before).deadline ≤ (c.run before).now)
    (decision : Decision (c.run before) (c.run before).deadline c.registry.names o) :
    StartOutcome c events o := by
  have hlaunch := firstStep_of_launching inv.toFollowed calm hs within
  obtain ⟨reply, hreply, htoDone⟩ := (inv.upTo calm within).launchReply?_of_launching hs
  rw [Reply.eq_done_of_toDone htoDone] at hreply
  exact .decided hlaunch hreply
    ⟨within, ⟨hlaunch.holds, hd.imp_right .inl⟩, fun earlier hle hdecisive =>
      hlaunch.first earlier hle hdecisive.1⟩ decision

theorem publish_eq_error {r : Registry} {reports : Table NodeReport} {e : Failure}
    (hstate : r.state = .launching) (h : r.publish reports = .error e) :
    Registry.readyRecords reports r.names = .error e := by
  unfold Registry.publish at h
  cases hr : Registry.readyRecords reports r.names with
  | error e' => simpa [hr, bind, Except.bind] using h
  | ok records => simp [hr, bind, Except.bind, hstate, Lifecycle.canAdvance] at h

theorem launchFailure_eq (e : Failure) : launchFailure e = .launch (launchMessage e) := by
  cases e <;> rfl

/-- A cluster whose launch has failed is not healthy, and the failure is left. -/
theorem startFailed_unhealthy (order : Orderly c) (hbusy : c.starter.isBusy = true)
    (hr : c.report = none) (handle : Bool) (e : Failure) :
    ({ c with handle := handle }.startFailed e).report = some e ∧
      ({ c with handle := handle }.startFailed e).registry.state ≠ .healthy := by
  refine ⟨by simp [startFailed, leaveReport, hr], ?_⟩
  rcases order.busy_state hbusy with hs | hs <;>
    simp [startFailed, Registry.advance, hs, Lifecycle.advance, Lifecycle.canAdvance]

/-- A move of the launch that ends it leaves what the start comes to, and the cluster is healthy
exactly if that is no failure. -/
theorem outcome_of_starter (inv : Untouched planned c) (calm : ∀ e ∈ events, e.isCalm = true)
    (within : before ++ [.poll .starter] <+: events)
    (undone : (c.run before).startDone = false) (silent : Silent (c.run before))
    (h : StarterMove (c.run before) d) (done : d.startDone = true) :
    StartOutcome c events d.report ∧ (d.report = none ↔ d.registry.state = .healthy) := by
  have followed := inv.upTo calm within
  have fails (handle : Bool) {e : Failure} (outcome : StartOutcome c events (some e)) :
      StartOutcome c events ({ c.run before with handle := handle }.startFailed e).report ∧
        (({ c.run before with handle := handle }.startFailed e).report = none ↔
          ({ c.run before with handle := handle }.startFailed e).registry.state = .healthy) := by
    obtain ⟨hreport, hstate⟩ :=
      startFailed_unhealthy followed.toOrderly h.isBusy (silent undone) handle e
    rw [hreport]
    exact ⟨outcome, by simp, fun healthy => absurd healthy hstate⟩
  cases h with
  | asks hs => exact absurd done (by rw [ask, undone]; simp)
  | waits hs hj => exact absurd done (by rw [ask, undone]; simp)
  | launchCrashes hs => exact absurd done (by rw [undone]; simp)
  | waitCrashes hs hj => exact absurd done (by rw [undone]; simp)
  | givesUp hs hj =>
    refine fails true ?_
    rcases failed_of_judge hj with ⟨hsignal, rfl⟩ | ⟨hsignal, ht, rfl⟩ | ⟨-, -, hreply⟩
    · exact .of_launched inv calm within hs (.inl hsignal) (.stopped hsignal)
    · exact .of_launched inv calm within hs (.inr ht) (.late hsignal ht)
    · simp at hreply
  | launchFails hs =>
    refine fails _ ?_
    obtain ⟨reply, hreply, htoDone⟩ := followed.launchReply?_of_launching hs
    rw [Reply.eq_mishap_of_toDone htoDone] at hreply
    rw [launchFailure_eq]
    exact .launchFailed (firstStep_of_launching inv.toFollowed calm hs within) hreply
  | waitFails hs hj =>
    refine fails _ ?_
    rcases failed_of_judge hj with ⟨hsignal, rfl⟩ | ⟨hsignal, ht, rfl⟩ | ⟨hsignal, ht, rfl⟩
    · exact .of_waiting inv calm within undone hs (.inl hsignal) (.stopped hsignal)
    · exact .of_waiting inv calm within undone hs (.inr (.inl ht)) (.late hsignal ht)
    · rcases followed.healthReply?_of_waiting hs with
        ⟨hnone, -⟩ | ⟨r, report, hr, hreport, htoNodes⟩
      · simp at hnone
      · obtain rfl := Option.some.inj hr
        rw [Reply.eq_mishap_of_toNodes htoNodes] at hreport
        exact .of_waiting inv calm within undone hs (.inr (.inr rfl)) (.failed hsignal ht hreport)
  | @rejects deadline reply reports e hs hj hp =>
    refine fails _ ?_
    obtain ⟨hsignal, ht, rfl⟩ := reported_of_judge hj
    have hreport := followed.healthReply?_of_reported hs
    obtain ⟨launching, hnames⟩ := inv.names_of_waiting hs hsignal
    have incomplete := publish_eq_error launching hp
    rw [hnames] at incomplete
    obtain ⟨message, hflaw, rfl⟩ := Registry.readyRecords_eq_error_iff.mp incomplete
    exact .of_waiting inv calm within undone hs (.inr (.inr rfl)) (.flawed hsignal ht hreport hflaw)
  | @publishes deadline reply reports registry hs hj hp =>
    obtain ⟨hsignal, ht, rfl⟩ := reported_of_judge hj
    have hreport := followed.healthReply?_of_reported hs
    obtain ⟨-, hnames⟩ := inv.names_of_waiting hs hsignal
    obtain ⟨records, hrecords, -, rfl⟩ := publish_eq_ok hp
    have flawless : reportFlaw? reports c.registry.names = none := by
      by_contra hne
      obtain ⟨message, hflaw⟩ := Option.ne_none_iff_exists'.mp hne
      rw [← hnames] at hflaw
      rw [Registry.readyRecords_eq_error_iff.mpr ⟨message, hflaw, rfl⟩] at hrecords
      simp at hrecords
    have quiet : (c.run before).report = none := silent undone
    simp only [quiet]
    exact ⟨.of_waiting inv calm within undone hs (.inr (.inr rfl))
      (.healthy hsignal ht hreport flawless), trivial⟩

/-- A stop that ends a launch which was never asked for has come before the first start, and leaves
just that. -/
theorem outcome_of_stopper (inv : Untouched planned c)
    (within : before ++ [.poll .stopper] <+: events)
    (undone : (c.run before).startDone = false) (silent : Silent (c.run before))
    (done : (c.run (before ++ [.poll .stopper])).startDone = true) :
    StartOutcome c events (c.run (before ++ [.poll .stopper])).report ∧
      ((c.run (before ++ [.poll .stopper])).report = none ↔
        (c.run (before ++ [.poll .stopper])).registry.state = .healthy) := by
  have order := orderly_run inv.toOrderly (before ++ [.poll .stopper])
  -- Either the launch is not said to be over yet in this event, or it is since there was none.
  have either := step_preserves (e := .poll .stopper)
    (P := fun d => Orderly d ∧ (d.startDone = false ∧ d.report = none ∨
      d.starter = .unborn ∧ d.stopSignal = true ∧ d.report = some .aborted))
    (fun {x y} h both => by
      obtain ⟨order, hcase⟩ := both
      refine ⟨orderly_move h order, ?_⟩
      cases h with
      | stopper h =>
        cases h with
        | tells hs =>
          have hprior : x.stopper.prior? = some .created := by rw [hs]; rfl
          have unborn := (order.prior_iff .created hprior).mp rfl
          have signalled := order.signal_iff.mpr (by rw [order.stopping_of_prior hprior]; rfl)
          refine .inr ⟨unborn, signalled, ?_⟩
          rcases hcase with ⟨-, hr⟩ | ⟨-, -, hr⟩ <;> simp [leaveReport, hr]
        | begins hs ha => exact hcase.imp_right fun told => ⟨told.1, rfl, told.2.2⟩
        | _ => exact hcase)
    (c.run before) ⟨orderly_run inv.toOrderly before, .inl ⟨undone, silent undone⟩⟩
  rw [← run_nil (c.run before |>.step (.poll .stopper)), ← run_cons, ← run_append] at either
  rcases either.2 with ⟨hundone, -⟩ | ⟨hunborn, hsignal, hreport⟩
  · simp [done] at hundone
  · rw [hreport]
    obtain ⟨first, hfirst, hstart, hs⟩ := stopped_first_of_unborn inv.toOrderly hunborn hsignal
    refine ⟨.stoppedFirst (hfirst.trans within) hstart hs, by simp, fun healthy => ?_⟩
    have stopping := order.signal_iff.mp hsignal
    simp [healthy, Lifecycle.isStopping] at stopping

/-- When the launch is said to be over, what the start comes to is left, and the cluster is healthy
exactly if that is no failure. -/
theorem outcome_of_launchOver (inv : Untouched planned c) (calm : ∀ e ∈ events, e.isCalm = true)
    {e : Event} (hover : LaunchOver c events before e) :
    StartOutcome c events (c.run (before ++ [e])).report ∧
      ((c.run (before ++ [e])).report = none ↔
        (c.run (before ++ [e])).registry.state = .healthy) := by
  have silent : Silent (c.run before) :=
    run_preserves (fun _ _ _ _ h inv => silent_move h inv) c fun _ => inv.unreported
  rcases hover.event with rfl | rfl
  · have done := hover.done
    have polled : c.run (before ++ [.poll .starter]) = (c.run before).pollStarter := by
      rw [run_append]
      rfl
    rw [polled] at done ⊢
    rcases pollStarter_moves (c.run before) with hsame | h
    · rw [hsame, hover.undone] at done
      simp at done
    · exact outcome_of_starter inv calm hover.within hover.undone silent h done
  · exact outcome_of_stopper inv hover.within hover.undone silent hover.done

/-- If there never was a launch, the start comes out as aborted. -/
theorem StartOutcome.aborted_of_unborn {o : Option Failure} (inv : Untouched planned c)
    (calm : ∀ e ∈ events, e.isCalm = true) (h : StartOutcome c events o)
    (hu : (c.run events).starter = .unborn) : o = some .aborted := by
  cases h with
  | stoppedFirst _ _ _ => rfl
  | launchFailed hlaunch _ => exact absurd hlaunch (unanswered_of_unborn inv calm hu)
  | decided hlaunch _ _ _ => exact absurd hlaunch (unanswered_of_unborn inv calm hu)

theorem advance_ne_healthy {state next : Lifecycle} (hstate : state ≠ .healthy)
    (hnext : next ≠ .healthy) : state.advance next ≠ .healthy := by
  unfold Lifecycle.advance
  split
  · exact hnext
  · exact hstate

theorem unhealthy_move {e : Event} (h : Move c e d) (order : Orderly c) (hdone : c.startDone = true)
    (hstate : c.registry.state ≠ .healthy) : d.registry.state ≠ .healthy := by
  cases h with
  | starts h => exact advance_ne_healthy hstate (by simp)
  | starter h => simp [order.busy_done h.isBusy] at hdone
  | stopper h =>
    cases h with
    | begins h ha => exact advance_ne_healthy hstate (by simp)
    | ends hends => exact advance_ne_healthy hstate (by simp)
    | _ => exact hstate
  | caller h => rwa [h.frame.2.2.2.2.2.2.2.1]
  | _ => exact hstate

/-- A cluster that is not healthy when its launch is over never will be. -/
theorem unhealthy_run (order : Orderly c) (hdone : c.startDone = true)
    (hstate : c.registry.state ≠ .healthy) (events : List Event) :
    (c.run events).registry.state ≠ .healthy :=
  (run_preserves_given (P := fun d => d.startDone = true ∧ d.registry.state ≠ .healthy) orderly_move
    (fun _ _ _ _ h order both =>
      ⟨startDone_move h both.1, unhealthy_move h order both.1 both.2⟩)
    c order ⟨hdone, hstate⟩).2

theorem startDone_of_healthy (order : Orderly c) (hstate : c.registry.state = .healthy) :
    c.startDone = true := by
  cases hs : c.starter with
  | ended => exact order.ended_done hs
  | unborn =>
    rcases order.unborn_state hs with hcreated | hstopping
    · simp [hstate] at hcreated
    · simp [hstate, Lifecycle.isStopping] at hstopping
  | _ =>
    rcases order.busy_state (by rw [hs]; rfl) with hbusy | hbusy <;> simp [hstate] at hbusy

/-- A start comes out well exactly if the cluster becomes healthy. -/
theorem StartOutcome.eq_none_iff {o : Option Failure} (inv : Untouched planned c)
    (calm : ∀ e ∈ events, e.isCalm = true) (h : StartOutcome c events o) :
    o = none ↔ ∃ before, before <+: events ∧ (c.run before).registry.state = .healthy := by
  obtain ⟨before, e, hover⟩ :=
    exists_launchOver (inv.created_done inv.created) (h.startDone inv calm)
  obtain ⟨outcome, hhealthy⟩ := outcome_of_launchOver inv calm hover
  obtain rfl := h.unique inv calm outcome
  refine hhealthy.trans ⟨fun hstate => ⟨_, hover.within, hstate⟩, ?_⟩
  rintro ⟨part, hpart, hstate⟩
  by_contra hne
  have done := startDone_of_healthy (orderly_run inv.toOrderly part) hstate
  rcases List.prefix_or_prefix_of_prefix hover.within hpart with ⟨rest, rfl⟩ | hle
  · rw [run_append] at hstate
    exact unhealthy_run (orderly_run inv.toOrderly _) hover.done hne rest hstate
  · rcases List.prefix_concat_iff.mp hle with rfl | ⟨rest, rfl⟩
    · exact hne hstate
    · have undone := hover.undone
      rw [run_append, startDone_run done] at undone
      simp at undone

end

/-! ## Main result -/

/-- In every run of a planned cluster whose launcher does not break down, the first call that waits
for the start is told how the start comes out, and nothing else; and as soon as that is settled, it
is told when it goes on.  A start comes out in one way only, and comes out well exactly if the
cluster becomes healthy. -/
theorem start_outcome {options : ClusterOptions} {params : StartParams} {pid : UInt32}
    {obstacle : Option IoError} (h : plan options params pid obstacle = .ok c)
    {events : List Event} (calm : ∀ e ∈ events, e.isCalm = true) {n : Nat}
    (first : FirstWaiter c events n) :
    (∀ r, (c.run events).result? n = some r → StartOutcome c events (failureOf r)) ∧
    ∀ o, StartOutcome c events o →
      (∃ r, ((c.run events).step (.poll (.caller n))).result? n = some r ∧ failureOf r = o) ∧
      (∀ o', StartOutcome c events o' → o' = o) ∧
      (o = none ↔ ∃ before, before <+: events ∧ (c.run before).registry.state = .healthy) := by
  obtain ⟨planned, inv⟩ := untouched_of_plan h
  have unread : Unread c := fun _ m hm => by simp [inv.uncalled m] at hm
  have claimed := first.claimed unread inv.untaken
  -- Once the launch is over, the call is told what was left, which is how the start comes out.
  have told (hdone : (c.run events).startDone = true) :
      ∃ o, StartOutcome c events o ∧ (c.run events).told? n = some o := by
    obtain ⟨before, e, hover⟩ := exists_launchOver (inv.created_done inv.created) hdone
    have calm' : ∀ e' ∈ before ++ [e], e'.isCalm = true :=
      fun e' he => calm e' (hover.within.subset he)
    have there : LaunchOver c (before ++ [e]) before e :=
      ⟨List.prefix_rfl, hover.undone, hover.done⟩
    have aborted : AbortedIfUnborn (c.run (before ++ [e])).report (c.run (before ++ [e])) :=
      (outcome_of_launchOver inv calm' there).1.aborted_of_unborn inv calm'
    exact ⟨_, (outcome_of_launchOver inv calm hover).1,
      told?_of_launchOver inv.toOrderly unread inv.untaken hover aborted first⟩
  refine ⟨fun r hr => ?_, fun o outcome => ⟨?_, fun o' h' => h'.unique inv calm outcome,
    outcome.eq_none_iff inv calm⟩⟩
  · have hdone : (c.run events).startDone = true := by
      rcases claimed.here with hwaits | ⟨hdone, -⟩
      · simp [result?, hwaits] at hr
      · exact hdone
    obtain ⟨o, outcome, htold⟩ := told hdone
    simp only [told?, hr, Option.some.injEq] at htold
    exact htold ▸ outcome
  · obtain ⟨o', outcome', htold⟩ := told (outcome.startDone inv calm)
    obtain rfl := outcome.unique inv calm outcome'
    exact claimed.result? htold

/-- A stop that takes effect while the small cluster waits for its nodes aborts the start, although
the launcher has reported by then that they are healthy. -/
theorem pair_start_aborted :
    let events : List Event := [.start, .poll .starter, .answer .starter .done, .poll .starter,
      .call 1 .waitReady, .poll (.caller 1),
      .answer .starter (.nodes (.ofList [("node1", ⟨"node1", "http://1", "A"⟩),
        ("node2", ⟨"node2", "http://2", "B"⟩)])),
      .call 2 .stop, .poll (.caller 2), .poll .keeper, .poll .stopper, .poll .starter,
      .poll (.caller 1)]
    (pair.run events).result? 1 = some (.error .aborted) ∧
      ∀ before, before <+: events → (pair.run before).registry.state ≠ .healthy := by
  intro events
  have calm : ∀ e ∈ events, e.isCalm = true := by decide
  have first : FirstWaiter pair events 1 := by
    refine ⟨[.start, .poll .starter, .answer .starter .done, .poll .starter, .call 1 .waitReady],
      _, rfl, rfl, fun earlier m hle => ?_, by decide⟩
    have polled := hle.subset (List.mem_append_right earlier (List.mem_singleton.mpr rfl))
    simp at polled
  have result : (pair.run events).result? 1 = some (.error .aborted) := rfl
  obtain ⟨outcome, settled⟩ := start_outcome plan_pair calm first
  obtain ⟨-, -, hhealthy⟩ := settled _ (outcome _ result)
  refine ⟨result, fun before hle hstate => ?_⟩
  exact absurd (hhealthy.mpr ⟨before, hle, hstate⟩) (by simp [failureOf])

end Cluster
end ClusterControl
