import ClusterControl.Proofs.Cluster.OneByOne
import ClusterControl.Proofs.Cluster.RestartCourse

/-!
# A restart is all or nothing

A restart leaves everything as it was, or has the node run in its new form, or takes the node out;
and which of the three it is depends on what the launcher answers and on when a stop is requested.
This module proves so for every healthy cluster, whatever else goes on there.

* `stage_removes`, `stage_adds`, `stage_waits`, `stage_cleans` — what one turn of the call does,
  stage by stage.
* `stage_turn`, `stage_step` — what one event does to a restart.
* `course_run` — where a restart stands after a run.
* `stage_of_begins` — how a restart begins.
* `restart_all_or_nothing` — the theorem.
-/

namespace ClusterControl

theorem Reply.eq_node_of_toNode {reply : Reply} {report : NodeReport}
    (h : reply.toNode = some (.ok report)) : reply = .node report := by
  cases reply with
  | node report' => simpa [toNode] using h
  | _ => simp [toNode] at h

namespace Cluster

/-- The wait for a node that was launched anew is over, with this outcome. -/
def settled (c : Cluster) (n : Nat) (name : String) : Outcome Endpoint → Cluster
  | .ok e => { c with registry := c.registry.restarted name e }.conclude n
      (.ok { c with registry := c.registry.restarted name e }.snapshot)
  | .error e => c.cleanUp n name e

theorem restarted_eq_settled (c : Cluster) (n : Nat) (name : String) (report : NodeReport) :
    c.restarted n name report = c.settled n name report.endpoint := by
  unfold Cluster.restarted
  split
  · next e he => rw [he]; rfl
  · next e he => rw [he]; rfl

namespace Restart

variable {t : Restart} {events : List Event} {e : Event} {phase : CallPhase}
  {nodes : Registry} {log : List JournalEntry} {reply? : Option Reply}

theorem after_turn (t : Restart) (events : List Event) :
    t.after (events ++ [t.turn]) = (t.after events).pollCaller t.caller :=
  t.after_concat events t.turn

/-! ## Turns -/

/-- A call that asks for an errand in its turn stands where it waits for the reply. -/
theorem Stands.ask (stands : t.Stands events phase nodes log) {r nodes' : Registry}
    {phase' : Option Reply → CallPhase} {errand : Errand}
    (hstep : t.after (events ++ [t.turn]) =
      (({ t.after events with registry := r } : Cluster).setCall t.caller (phase' none)).ask
        (.caller t.caller) errand)
    (hnodes : nodes'.SameNodes r) :
    t.Asks (events ++ [t.turn]) phase' nodes' log errand none := by
  have asked : (t.after (events ++ [t.turn])).dealings (.caller t.caller) =
      (t.after events).dealings (.caller t.caller) ++ [.asked (.caller t.caller) errand] := by
    rw [hstep]
    exact dealings_of_own rfl rfl
  refine ⟨⟨?_, ?_, ?_⟩, fun reply h => by simp at h⟩
  · rw [phase?, hstep]
    exact Roster.get?_set_self ..
  · rw [hstep]
    exact hnodes
  · rw [asked, stands.dealings, List.append_assoc]
    rfl

/-- A call that is over in its turn asks for nothing more. -/
theorem Stands.conclude (stands : t.Stands events phase nodes log) {r nodes' : Registry}
    {result : Outcome Snapshot}
    (hstep : t.after (events ++ [t.turn]) =
      ({ t.after events with registry := r } : Cluster).conclude t.caller result)
    (hnodes : nodes'.SameNodes r) :
    t.Stands (events ++ [t.turn]) (.returned result) nodes' log := by
  refine ⟨?_, ?_, ?_⟩
  · rw [phase?, hstep]
    exact Roster.get?_set_self ..
  · rw [hstep]
    exact hnodes
  · rw [← stands.dealings, hstep]
    exact dealings_of_eq rfl _

/-- A call that finds that its node cannot be launched anew has it removed. -/
theorem Stands.cleanUp {tried : List JournalEntry} {cause : Failure} {r : Registry}
    (stands : t.Stands events phase nodes log)
    (hlog : log = t.exchange (.remove t.name) (some .done) ++ tried)
    (thwarted : t.Thwarted events tried cause)
    (hstep : t.after (events ++ [t.turn]) =
      ({ t.after events with registry := r } : Cluster).cleanUp t.caller t.name cause)
    (hnodes : t.pending.SameNodes r) : t.Stage (events ++ [t.turn]) := by
  subst hlog
  exact .cleans List.prefix_rfl thwarted (stands.ask hstep hnodes)

/-- A turn in which nothing happens leaves a restart where it is. -/
theorem Asks.stays {phase : Option Reply → CallPhase} {errand : Errand}
    (asks : t.Asks events phase nodes log errand reply?)
    (hsame : t.after (events ++ [t.turn]) = t.after events) :
    t.Asks (events ++ [t.turn]) phase nodes log errand reply? := by
  obtain ⟨⟨hphase, hnodes, hdealings⟩, fits⟩ := asks
  refine ⟨⟨?_, ?_, ?_⟩, fits⟩
  · rw [phase?, hsame]
    exact hphase
  · rw [hsame]
    exact hnodes
  · rw [hsame]
    exact hdealings

/-- The launcher's reply to an errand that is only to be done. -/
theorem Asks.done_or_failed {phase : Option Reply → CallPhase} {errand : Errand} {reply : Reply}
    (asks : t.Asks events phase nodes log errand (some reply)) (h : errand.changesNode = true) :
    reply = .done ∨ ∃ cause, reply = .mishap (.failed cause) := by
  obtain ⟨ha, uncrashed⟩ := asks.fits reply rfl
  rcases Reply.answers_changesNode ha h with hdone | hfailed | hcrashed
  · exact .inl hdone
  · exact .inr hfailed
  · exact absurd hcrashed uncrashed

/-- Once the node is gone the call asks for it anew, unless a stop was requested; if it could not be
removed, that is the end. -/
theorem stage_removes
    (asks : t.Asks events t.removing t.found.registry [] (.remove t.name) reply?) :
    t.Stage (events ++ [t.turn]) ∨ t.Ends events := by
  have stands := asks.stands
  have hphase : (t.after events).callers.get? t.caller = some (t.removing reply?) := stands.phase
  cases reply? with
  | none =>
    refine .inl (.removes (asks.stays ?_))
    rw [after_turn]
    simp only [pollCaller, hphase, removing, Option.bind_none]
  | some reply =>
    rcases asks.done_or_failed rfl with rfl | ⟨cause, rfl⟩
    · have pending := stands.nodes.restarting t.name t.config
      by_cases signal : (t.after events).stopSignal = true
      · have hstep : t.after (events ++ [t.turn]) = ({ t.after events with
            registry := (t.after events).registry.restarting t.name t.config } : Cluster).cleanUp
              t.caller t.name .aborted := by
          rw [after_turn]
          simp only [pollCaller, hphase, removing, Option.bind_some, Reply.toDone, signal, if_true]
        exact .inl (stands.cleanUp (by simp) (.stopped stands.phase signal) hstep pending)
      · have hstep : t.after (events ++ [t.turn]) = (({ t.after events with
            registry := (t.after events).registry.restarting t.name t.config } : Cluster).setCall
              t.caller (t.adding none)).ask (.caller t.caller) (.add t.config) := by
          rw [after_turn]
          simp only [pollCaller, hphase, removing, Option.bind_some, Reply.toDone, signal]
          rfl
        have adds : t.Adds (events ++ [t.turn]) events :=
          ⟨List.prefix_rfl, stands.phase, by simpa using signal⟩
        exact .inl (.adds adds (stands.ask hstep pending))
    · have hstep : t.after (events ++ [t.turn]) =
          (t.after events).conclude t.caller (.error cause) := by
        rw [after_turn]
        simp only [pollCaller, hphase, removing, Option.bind_some, Reply.toDone]
      exact .inr (.kept (stands.conclude hstep stands.nodes))

/-- A wait fails because a stop was requested, because the time is over, or because the launcher
says so. -/
theorem Comes.of_failed {α : Type} {understand : Reply → Pending α} {since : Nat} {cause : Failure}
    (hmishap : ∀ reply why, understand reply = some (.error why) → reply = .mishap why)
    (h : (t.after events).judge (since + t.found.healthTimeout.ticks)
      (reply?.bind understand) = .failed cause) : t.Comes events since reply? (.error cause) := by
  rcases failed_of_judge h with ⟨signal, rfl⟩ | ⟨unsignalled, late, rfl⟩ | ⟨unsignalled, intime, hr⟩
  · exact .stopped signal
  · rw [healthTimeout_after]
    exact .late unsignalled late
  · obtain ⟨reply, rfl, hunderstood⟩ := Option.bind_eq_some_iff.mp hr
    obtain rfl := hmishap reply _ hunderstood
    exact .told unsignalled intime rfl rfl

/-- A wait over which the launcher does not break down goes on, fails, or tells of the node. -/
theorem comes_of_judge {α : Type} {understand : Reply → Pending α} {told : α → Outcome Endpoint}
    {since : Nat} (uncrashed : reply? ≠ some (.mishap .crashed))
    (hmishap : ∀ reply why, understand reply = some (.error why) → reply = .mishap why)
    (htold : ∀ reply v, understand reply = some (.ok v) →
      reply.endpointOf? t.name = some (told v)) :
    let verdict := (t.after events).judge (since + t.found.healthTimeout.ticks)
      (reply?.bind understand)
    verdict = .still ∨
      (∃ cause, verdict = .failed cause ∧ t.Comes events since reply? (.error cause)) ∨
      ∃ v, verdict = .reported v ∧ t.Comes events since reply? (told v) := by
  intro verdict
  cases hj : verdict with
  | still => exact .inl rfl
  | failed cause => exact .inr (.inl ⟨cause, rfl, .of_failed hmishap hj⟩)
  | reported v =>
    obtain ⟨unsignalled, intime, hr⟩ := reported_of_judge hj
    obtain ⟨reply, rfl, hunderstood⟩ := Option.bind_eq_some_iff.mp hr
    exact .inr (.inr ⟨v, rfl, .told unsignalled intime rfl (htold reply v hunderstood)⟩)
  | crashed =>
    obtain ⟨reply, rfl, hunderstood⟩ := Option.bind_eq_some_iff.mp (eq_crashed_of_judge hj)
    exact absurd (congrArg some (hmishap reply _ hunderstood)) uncrashed

theorem deadline_after (t : Restart) (events : List Event) :
    (t.after events).deadline = (t.after events).now + t.found.healthTimeout.ticks := by
  rw [deadline, healthTimeout_after]

/-- Once the node has been added the call waits for it, unless it is too late for that. -/
theorem stage_adds {gone : List Event} (adds : t.Adds events gone)
    (asks : t.Asks events t.adding t.pending (t.exchange (.remove t.name) (some .done))
      (.add t.config) reply?) : t.Stage (events ++ [t.turn]) := by
  have stands := asks.stands
  have hphase : (t.after events).callers.get? t.caller = some (t.adding reply?) := stands.phase
  cases reply? with
  | none =>
    refine .adds (adds.concat t.turn) (asks.stays ?_)
    rw [after_turn]
    simp only [pollCaller, hphase, adding, Option.bind_none]
  | some reply =>
    rcases asks.done_or_failed rfl with rfl | ⟨cause, rfl⟩
    · have added : t.Added events := ⟨⟨gone, adds⟩, stands.phase⟩
      have turned : t.after (events ++ [t.turn]) =
          (t.after events).awaitRestart t.caller t.name := by
        rw [after_turn]
        simp only [pollCaller, hphase, adding, Option.bind_some, Reply.toDone]
      rcases judge_none (α := Unit) (t.after events) (t.after events).deadline with
        still | ⟨cause, failed⟩
      · have hstep : t.after (events ++ [t.turn]) = ((t.after events).setCall t.caller
            (t.waiting ((t.after events).now + t.found.healthTimeout.ticks) none)).ask
              (.caller t.caller) t.wait := by
          rw [turned]
          simp only [awaitRestart, still, restartPolicy_after, ← deadline_after, waiting, wait]
          cases t.found.restartPolicy <;> rfl
        exact .waits List.prefix_rfl added (stands.ask hstep stands.nodes)
      · have hstep : t.after (events ++ [t.turn]) =
            (t.after events).cleanUp t.caller t.name cause := by
          rw [turned]
          simp only [awaitRestart, failed]
        -- A wait that is over before it begins is one in which nothing has been answered.
        have looked : (t.after events).judge (t.after events).deadline (none : Pending Unit) =
            (t.after events).judge ((t.after events).now + t.found.healthTimeout.ticks)
              ((none : Option Reply).bind Reply.toDone) := by
          rw [deadline_after]
          rfl
        have comes : t.Comes events (t.after events).now none (.error cause) :=
          .of_failed (fun reply why h => Reply.eq_mishap_of_toDone h) (looked.symm.trans failed)
        exact stands.cleanUp (by simp) (.waitFails (.begins added) comes) hstep stands.nodes
    · have hstep : t.after (events ++ [t.turn]) =
          (t.after events).cleanUp t.caller t.name cause := by
        rw [after_turn]
        simp only [pollCaller, hphase, adding, Option.bind_some, Reply.toDone]
      exact stands.cleanUp rfl (.addFails adds stands.phase) hstep stands.nodes

/-- A wait that is looked at goes on without an answer, or is over. -/
theorem settled_or_still {since : Nat}
    (hphase : t.phase? events = some (t.waiting (since + t.found.healthTimeout.ticks) reply?))
    (uncrashed : reply? ≠ some (.mishap .crashed)) :
    t.after (events ++ [t.turn]) = t.after events ∨
      ∃ outcome, t.Comes events since reply? outcome ∧
        t.after (events ++ [t.turn]) = (t.after events).settled t.caller t.name outcome := by
  have stays (p : CallPhase) (hp : (t.after events).callers.get? t.caller = some p) :
      (t.after events).setCall t.caller p = t.after events := by
    rw [setCall, Roster.set_eq_self hp]
  rw [after_turn]
  unfold phase? waiting at hphase
  cases hp : t.found.restartPolicy with
  | node =>
    simp only [hp] at hphase
    have told (reply : Reply) (report : NodeReport) (h : reply.toNode = some (.ok report)) :
        reply.endpointOf? t.name = some report.endpoint := by
      rw [Reply.eq_node_of_toNode h]
      rfl
    simp only [pollCaller, hphase, awaitNode]
    rcases comes_of_judge uncrashed (fun _ _ h => Reply.eq_mishap_of_toNode h) told with
      hj | ⟨cause, hj, comes⟩ | ⟨report, hj, comes⟩
    · rw [hj]
      exact .inl (stays _ hphase)
    · rw [hj]
      exact .inr ⟨_, comes, rfl⟩
    · rw [hj]
      exact .inr ⟨_, comes, restarted_eq_settled _ _ _ _⟩
  | cluster =>
    simp only [hp] at hphase
    have told (reply : Reply) (reports : Table NodeReport)
        (h : reply.toNodes = some (.ok reports)) :
        reply.endpointOf? t.name = some (reportedEndpoint reports t.name) := by
      rw [Reply.eq_nodes_of_toNodes h]
      rfl
    simp only [pollCaller, hphase, awaitAll]
    rcases comes_of_judge uncrashed (fun _ _ h => Reply.eq_mishap_of_toNodes h) told with
      hj | ⟨cause, hj, comes⟩ | ⟨reports, hj, comes⟩
    · rw [hj]
      exact .inl (stays _ hphase)
    · rw [hj]
      exact .inr ⟨_, comes, rfl⟩
    · rw [hj]
      refine .inr ⟨_, comes, ?_⟩
      cases hget : reports.get? t.name with
      | some report => simp only [reportedEndpoint, hget, restarted_eq_settled]
      | none => simp only [reportedEndpoint, hget, settled]

/-- Once the node is up it is back, and if it does not come up it is taken out. -/
theorem stage_waits {hearing : List Event} (within : hearing ++ [t.turn] <+: events)
    (added : t.Added hearing)
    (asks : t.Asks events (t.waiting ((t.after hearing).now + t.found.healthTimeout.ticks))
      t.pending
      (t.exchange (.remove t.name) (some .done) ++ t.exchange (.add t.config) (some .done))
      t.wait reply?) : t.Stage (events ++ [t.turn]) ∨ t.Ends events := by
  have stands := asks.stands
  have waits : t.Waits events (t.after hearing).now (t.exchange t.wait reply?) reply? :=
    .goesOn within added stands.phase
  have uncrashed : reply? ≠ some (.mishap .crashed) := fun h => (asks.fits _ h).2 rfl
  rcases settled_or_still stands.phase uncrashed with hsame | ⟨outcome, comes, hstep⟩
  · exact .inl (.waits (within.trans (List.prefix_append events [t.turn])) added (asks.stays hsame))
  · cases outcome with
    | error cause =>
      exact .inl (stands.cleanUp (List.append_assoc ..) (.waitFails waits comes) hstep stands.nodes)
    | ok e =>
      have nodes := stands.nodes.restarted t.name e
      rw [pending, Registry.restarted_restarting] at nodes
      have concluded := stands.conclude hstep nodes
      have told : (t.after (events ++ [t.turn])).snapshot = ({ t.after events with
          registry := (t.after events).registry.restarted t.name e } : Cluster).snapshot := by
        rw [hstep]
        rfl
      rw [← told] at concluded
      exact .inr (.back waits comes concluded)

/-- Once the launcher has answered, the node is gone, whatever the answer is. -/
theorem stage_cleans {finding : List Event} {tried : List JournalEntry} {cause : Failure}
    (within : finding ++ [t.turn] <+: events) (thwarted : t.Thwarted finding tried cause)
    (asks : t.Asks events (t.cleaning cause) t.pending
      (t.exchange (.remove t.name) (some .done) ++ tried) (.remove t.name) reply?) :
    t.Stage (events ++ [t.turn]) ∨ t.Ends events := by
  have stands := asks.stands
  have hphase : (t.after events).callers.get? t.caller = some (t.cleaning cause reply?) :=
    stands.phase
  cases reply? with
  | none =>
    refine .inl (.cleans (within.trans (List.prefix_append events [t.turn])) thwarted
      (asks.stays ?_))
    rw [after_turn]
    simp only [pollCaller, hphase, cleaning, Option.bind_none]
  | some reply =>
    have hstep : t.after (events ++ [t.turn]) = ({ t.after events with
        registry := (t.after events).registry.forget t.name } : Cluster).conclude t.caller
          (.error cause) := by
      rw [after_turn]
      rcases asks.done_or_failed rfl with rfl | ⟨refusal, rfl⟩
      · simp only [pollCaller, hphase, cleaning, Option.bind_some, Reply.toDone]
      · simp only [pollCaller, hphase, cleaning, Option.bind_some, Reply.toDone]
    have nodes := stands.nodes.forget t.name
    rw [pending, Registry.forget_restarting] at nodes
    exact .inr (.dropped within thwarted (stands.conclude hstep nodes))

/-- A turn of the call brings a restart to its next stage, or ends it. -/
theorem stage_turn (stage : t.Stage events) : t.Stage (events ++ [t.turn]) ∨ t.Ends events := by
  cases stage with
  | removes asks => exact stage_removes asks
  | adds adds asks => exact .inl (stage_adds adds asks)
  | waits within added asks => exact stage_waits within added asks
  | cleans within thwarted asks => exact stage_cleans within thwarted asks

/-! ## Runs -/

/-- One event leaves a restart under way, or ends it. -/
theorem stage_step (order : Orderly t.found) (stage : t.Stage events) (he : e ≠ .leave t.caller)
    (sound : e ≠ .answer (.caller t.caller) (.mishap .crashed)) :
    t.Stage (events ++ [e]) ∨ e = t.turn ∧ t.Ends events := by
  by_cases hturn : e = t.turn
  · subst hturn
    rcases stage_turn stage with later | ends
    · exact .inl later
    · exact .inr ⟨rfl, ends⟩
  · exact .inl (stage_calm order stage he hturn sound)

theorem stage_run (order : Orderly t.found) (begun : t.Stage []) {events : List Event}
    (stays : .leave t.caller ∉ events)
    (sound : .answer (.caller t.caller) (.mishap .crashed) ∉ events) :
    t.Stage events ∨
      ∃ before later, events = before ++ t.turn :: later ∧ t.Ends before := by
  induction events using List.reverseRecOn with
  | nil => exact .inl begun
  | append_singleton events e ih =>
    have earlier {e' : Event} (h : e' ∉ events ++ [e]) : e' ∉ events :=
      fun hmem => h (List.mem_append_left _ hmem)
    have last {e' : Event} (h : e' ∉ events ++ [e]) : e ≠ e' :=
      fun heq => h (heq ▸ List.mem_append_right _ List.mem_cons_self)
    rcases ih (earlier stays) (earlier sound) with stage | ⟨before, later, rfl, ends⟩
    · rcases stage_step order stage (last stays) (last sound) with next | ⟨rfl, ends⟩
      · exact .inl next
      · exact .inr ⟨events, [], rfl, ends⟩
    · exact .inr ⟨before, later ++ [e], by simp, ends⟩

/-- A restart under way waits for the launcher, or can go on. -/
theorem Asks.next {phase : Option Reply → CallPhase} {errand : Errand}
    (pends : t.Pends errand phase) (asks : t.Asks events phase nodes log errand reply?) :
    (t.after events).callerReady t.caller = true ∨
      ((t.after events).errand? (.caller t.caller)).isSome = true := by
  have hphase : (t.after events).callers.get? t.caller = some (phase reply?) := asks.stands.phase
  cases reply? with
  | none =>
    refine .inr ?_
    rw [errand?_caller, hphase, Option.bind_some, pends.asked]
    rfl
  | some reply => exact .inl (pends.ready _ _ reply (asks.fits reply rfl).1 hphase)

theorem Stage.next (stage : t.Stage events) :
    (t.after events).callerReady t.caller = true ∨
      ((t.after events).errand? (.caller t.caller)).isSome = true := by
  cases stage with
  | removes asks => exact asks.next t.pends_removing
  | adds adds asks => exact asks.next t.pends_adding
  | waits within added asks => exact asks.next (t.pends_waiting _)
  | cleans within thwarted asks => exact asks.next (t.pends_cleaning _)

theorem Stage.charge (stage : t.Stage events) :
    ∃ phase, t.phase? events = some phase ∧ phase.charge? = some t.name := by
  cases stage with
  | removes asks => exact ⟨_, asks.stands.phase, t.pends_removing.charge _⟩
  | adds adds asks => exact ⟨_, asks.stands.phase, t.pends_adding.charge _⟩
  | waits within added asks => exact ⟨_, asks.stands.phase, (t.pends_waiting _).charge _⟩
  | cleans within thwarted asks => exact ⟨_, asks.stands.phase, (t.pends_cleaning _).charge _⟩

/-- A call whose restart has ended has returned. -/
theorem Ends.returned (ends : t.Ends events) :
    ∃ result, t.phase? (events ++ [t.turn]) = some (.returned result) := by
  cases ends with
  | kept stands => exact ⟨_, stands.phase⟩
  | back waits comes stands => exact ⟨_, stands.phase⟩
  | dropped within thwarted stands => exact ⟨_, stands.phase⟩

/-- What has become of a restart after these events. -/
inductive Course (t : Restart) (events : List Event) : Prop
  -- It is under way.  It can go on or waits for the launcher, and needs eight such turns at most
  | underway (stage : t.Stage events)
      (next : (t.after events).callerReady t.caller = true ∨
        ((t.after events).errand? (.caller t.caller)).isSome = true)
      (turns : (t.after []).turns t.caller events < 8)
  | ended {before later : List Event} (split : events = before ++ t.turn :: later)
      (ends : t.Ends before)
      (stays : (t.after events).result? t.caller =
        (t.after (before ++ [t.turn])).result? t.caller)

theorem course_run (order : Orderly t.found)
    (begun : t.phase? [] = some (t.removing none)) (stage : t.Stage []) {events : List Event}
    (stays : .leave t.caller ∉ events)
    (sound : .answer (.caller t.caller) (.mishap .crashed) ∉ events) : t.Course events := by
  rcases stage_run order stage stays sound with stage | ⟨before, later, rfl, ends⟩
  · obtain ⟨phase, hphase, hcharge⟩ := stage.charge
    have under : phase.isOver = false := by
      cases phase <;> first | rfl | simp [CallPhase.charge?] at hcharge
    have turns : (t.after []).turns t.caller events < (t.removing none).left :=
      turns_lt (orderly_after order []) begun rfl stays hphase under
    exact .underway stage stage.next turns
  · obtain ⟨result, hresult⟩ := ends.returned
    have split : t.after (before ++ t.turn :: later) =
        (t.after (before ++ [t.turn])).run later := by
      rw [after, after, ← run_append, List.append_assoc]
      rfl
    have ended : ((t.after (before ++ [t.turn])).run later).callers.get? t.caller =
        some (.returned result) := by
      refine run_preserves (P := fun d => d.callers.get? t.caller = some (.returned result))
        (fun e hmem _ _ move h => over_move move ?_ h rfl) _ hresult
      rintro rfl
      exact stays (List.mem_append_right _ (List.mem_cons_of_mem _ hmem))
    have before' : (t.after (before ++ [t.turn])).callers.get? t.caller =
        some (.returned result) := hresult
    refine .ended rfl ends ?_
    rw [split]
    simp only [result?, ended, before']

end Restart

/-! ## The theorem -/

variable {c b : Cluster} {n : Nat} {name : String} {params : StartParams}

/-- A restart that begins in a healthy cluster, of a node that is there, has the node removed. -/
theorem stage_of_begins {planned : List NodeConfig} (order : Orderly b) (kept : Kept planned b)
    (healthy : b.registry.state = .healthy) (known : name ∈ b.registry.names)
    (begins : b.begins? (.poll (.caller n)) = some (n, .restart name params)) :
    ∃ previous, b.registry.configs.get? name = some previous ∧
      let t : Restart := ⟨b, n, name, previous.relaunch params⟩
      t.phase? [] = some (t.removing none) ∧ t.Stage [] := by
  have recorded : b.registry.records.contains name = true :=
    (Table.contains_iff_mem_names _ name).mpr ((kept.sound.records_names name).mpr known)
  have configured : b.registry.configs.contains name = true :=
    (Table.contains_iff_mem_names _ name).mpr ((kept.sound.configs_names name).mpr known)
  obtain ⟨previous, hprevious⟩ := Option.isSome_iff_exists.mp configured
  refine ⟨previous, hprevious, ?_⟩
  intro t
  obtain ⟨-, x, admitted, hstep⟩ := admitted_of_begins begins
  have accepted : x.refusal? name = none := by
    rw [admitted.eq]
    simp [refusal?, recorded, healthy, order.healthy_handle healthy]
  have configs : x.registry.configs.get? name = some previous := by
    rw [admitted.eq]
    exact hprevious
  have first : t.after [] = (x.setCall n (t.removing none)).ask (.caller n) (.remove name) := by
    have asked : b.step (.poll (.caller n)) =
        (x.setCall n (t.removing none)).ask (.caller n) (.remove name) := by
      rw [hstep]
      simp only [beginMutation, Mutation.name, accepted, configs]
      rfl
    exact asked
  have same : x.registry = b.registry ∧ x.journal = b.journal := by
    rw [admitted.eq]
    exact ⟨rfl, rfl⟩
  have phase : t.phase? [] = some (t.removing none) := by
    rw [Restart.phase?, first]
    exact Roster.get?_set_self ..
  refine ⟨phase, .removes ⟨⟨phase, ?_, ?_⟩, fun reply h => by simp at h⟩⟩
  · rw [first]
    exact .of_eq same.1
  · have asked : (t.after []).journal = .asked (.caller n) (.remove name) :: b.journal := by
      rw [first, ← same.2]
      rfl
    exact dealings_of_own asked rfl

/-- Whatever the launcher answers, whenever a stop is requested and whatever else goes on, a restart
that begins in a healthy cluster leaves the nodes as they are if the old node cannot be removed, and
otherwise has the node run in its new form or takes it out, with no other node touched.  It is over
as soon as it has been its turn, or the launcher's, often enough. -/
theorem restart_all_or_nothing {options : ClusterOptions} {start : StartParams} {pid : UInt32}
    {obstacle : Option IoError} (h : plan options start pid obstacle = .ok c)
    (opening later : List Event) (healthy : (c.run opening).registry.state = .healthy)
    (known : name ∈ (c.run opening).registry.names)
    (begins : (c.run opening).begins? (.poll (.caller n)) = some (n, .restart name params))
    (stays : .leave n ∉ later) (sound : .answer (.caller n) (.mishap .crashed) ∉ later) :
    ∃ previous, (c.run opening).registry.configs.get? name = some previous ∧
      Restart.Course ⟨c.run opening, n, name, previous.relaunch params⟩ later := by
  have planned := orderly_of_plan h
  have order : Orderly (c.run opening) := orderly_run planned opening
  obtain ⟨configs, -, kept⟩ := kept_of_plan h
  obtain ⟨previous, hprevious, phase, stage⟩ :=
    stage_of_begins order (kept_run planned kept opening) healthy known begins
  exact ⟨previous, hprevious, Restart.course_run order phase stage stays sound⟩

/-- A node of the small cluster is to be launched anew and is up again when a stop has been
requested, and then it cannot be removed. -/
def pairThwarted : List Event :=
  [.answer (.caller 1) .done, .poll (.caller 1), .answer (.caller 1) .done, .poll (.caller 1),
    .call 2 .stop, .poll (.caller 2), .poll .keeper, .poll .stopper,
    .answer (.caller 1) (.node ⟨"node1", "http://3", "C"⟩), .poll (.caller 1),
    .answer (.caller 1) (.mishap (.failed (.launch "no such process"))), .poll (.caller 1)]

/-- The restart is aborted, and its node is gone all the same. -/
theorem pair_restart_aborted :
    let opening := pairHealthy ++ [.call 1 (.mutate (.restart "node1" {}))]
    (∃ previous, (pair.run opening).registry.configs.get? "node1" = some previous ∧
      Restart.Course ⟨pair.run opening, 1, "node1", previous.relaunch {}⟩ pairThwarted) ∧
    ((pair.run opening).run (.poll (.caller 1) :: pairThwarted)).result? 1 =
      some (.error .aborted) ∧
    ((pair.run opening).run (.poll (.caller 1) :: pairThwarted)).registry.names = ["node2"] := by
  intro opening
  have begins : (pair.run opening).begins? (.poll (.caller 1)) =
      some (1, .restart "node1" {}) := by decide +kernel
  have healthy : (pair.run opening).registry.state = .healthy := by decide +kernel
  have known : "node1" ∈ (pair.run opening).registry.names := by decide +kernel
  exact ⟨restart_all_or_nothing plan_pair opening pairThwarted healthy known begins
    (by decide) (by decide), by decide +kernel, by decide +kernel⟩

end Cluster
end ClusterControl
