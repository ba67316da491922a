import ClusterControl.Nodes.Wait
import ClusterControl.Proofs.Nodes.Probes

/-!
# The course of a wait for one node

Of all that happens to a node while it is waited for, some events come in their turn and the others
do not count.  Those that count make up rounds, of which the last one tells what the wait has come
to.

* `NodeWait.course` — the events that count.
* `NodeWait.Rounds` — the rounds in which a node was running and not healthy yet, and the time from
  which on the next one may begin.
* `NodeWait.Succeeds`, `NodeWait.Fails` — the courses at whose end a wait is over.
* `NodeWait.Stands` — the phase of a wait, told from its course; `stands_step` and `stands_run`: it
  is kept by every event and so by every run.
* `NodeWait.succeeded_iff`, `NodeWait.failed_iff` — the two ways in which a wait comes to its end.
* `NodeWait.node_of_not_ready` — a node's handle is left alone until the wait succeeds.
* `NodeWait.result?_run_of_answering` — a wait that goes on succeeds with a node that answers in due
  form.
-/

namespace ClusterControl

/-! ## The course of a wait -/

namespace NodeWait

/-- It is an event's turn. -/
def awaits (w : NodeWait) (now : Nat) (e : NodeEvent) : Bool :=
  match w.phase, e with
  | .looking due, .look _ => due ≤ now
  | .probing, .health _ => true
  | .identifying, .identity _ => true
  | _, _ => false

/-- The events that come in their turn. -/
def course (interval : Nat) (w : NodeWait) : List (Nat × NodeEvent) → List (Nat × NodeEvent)
  | [] => []
  | e :: rest =>
    if w.awaits e.1 e.2 then e :: course interval (w.step interval e.1 e.2) rest
    else course interval w rest

/-- The course of a wait that begins with these events. -/
abbrev courseOf (interval : Nat) (node : NodeReport) (events : List (Nat × NodeEvent)) :
    List (Nat × NodeEvent) :=
  course interval { node } events

/-- Rounds in which the process was found running and the probe found the node not healthy, and the
time from which on the process is looked at again. -/
inductive Rounds (interval : Nat) : List (Nat × NodeEvent) → Nat → Prop
  | start : Rounds interval [] 0
  | again {rounds : List (Nat × NodeEvent)} {due t u : Nat} {health : HttpReply} :
      Rounds interval rounds due → due ≤ t → ¬ Probe.Healthy health →
      Rounds interval (rounds ++ [(t, .look .running), (u, .health health)]) (u + interval)

/-- After these rounds the process was found running and the probe found the node healthy. -/
inductive FoundHealthy (interval : Nat) : List (Nat × NodeEvent) → Prop
  | after {rounds : List (Nat × NodeEvent)} {due t u : Nat} {health : HttpReply} :
      Rounds interval rounds due → due ≤ t → Probe.Healthy health →
      FoundHealthy interval (rounds ++ [(t, .look .running), (u, .health health)])

/-- The node was found healthy and gave its identifier. -/
inductive Succeeds (interval : Nat) (node : NodeReport) :
    List (Nat × NodeEvent) → NodeReport → Prop
  | identified {moments : List (Nat × NodeEvent)} {t : Nat} {identity : HttpReply} {id : String} :
      FoundHealthy interval moments → Probe.Identifies identity id →
      Succeeds interval node (moments ++ [(t, .identity identity)]) { node with id := id }

/-- The process was gone before the node was found healthy, or the healthy node gave no
identifier. -/
inductive Fails (interval : Nat) (node : NodeReport) : List (Nat × NodeEvent) → Failure → Prop
  | exited {rounds : List (Nat × NodeEvent)} {due t : Nat} {status : ExitStatus} :
      Rounds interval rounds due → due ≤ t →
      Fails interval node (rounds ++ [(t, .look (.ended status))])
        (.launch ("node " ++ node.name ++ " exited: " ++ status.text))
  | stopped {rounds : List (Nat × NodeEvent)} {due t : Nat} :
      Rounds interval rounds due → due ≤ t →
      Fails interval node (rounds ++ [(t, .look .stopped)])
        (.launch ("node " ++ node.name ++ " was stopped"))
  | hidden {rounds : List (Nat × NodeEvent)} {due t : Nat} {cause : IoError} :
      Rounds interval rounds due → due ≤ t →
      Fails interval node (rounds ++ [(t, .look (.hidden cause))]) (.io cause)
  | unidentified {moments : List (Nat × NodeEvent)} {t : Nat} {identity : HttpReply}
      {cause : Failure} :
      FoundHealthy interval moments → (∀ id, ¬ Probe.Identifies identity id) →
      Probe.nodeId node.uri identity = .error cause →
      Fails interval node (moments ++ [(t, .identity identity)]) cause

/-- The phase of a wait, told from its course. -/
inductive Stands (interval : Nat) (node : NodeReport) : List (Nat × NodeEvent) → NodeWait → Prop
  | looking {rounds : List (Nat × NodeEvent)} {due : Nat} : Rounds interval rounds due →
      Stands interval node rounds ⟨node, .looking due⟩
  | probing {rounds : List (Nat × NodeEvent)} {due t : Nat} : Rounds interval rounds due → due ≤ t →
      Stands interval node (rounds ++ [(t, .look .running)]) ⟨node, .probing⟩
  | identifying {moments : List (Nat × NodeEvent)} : FoundHealthy interval moments →
      Stands interval node moments ⟨node, .identifying⟩
  | ready {moments : List (Nat × NodeEvent)} {report : NodeReport} :
      Succeeds interval node moments report → Stands interval node moments ⟨report, .ready⟩
  | failed {moments : List (Nat × NodeEvent)} {cause : Failure} :
      Fails interval node moments cause → Stands interval node moments ⟨node, .failed cause⟩

variable {interval now : Nat} {node report : NodeReport} {w : NodeWait} {e : NodeEvent}
  {moments : List (Nat × NodeEvent)} {cause : Failure}

/-- Other events do not count. -/
theorem step_of_not_awaits (h : w.awaits now e = false) : w.step interval now e = w := by
  obtain ⟨node, phase⟩ := w
  cases phase <;> cases e <;> simp_all [awaits, step]

/-- What a wait gives stays. -/
theorem step_of_result? (h : w.result? ≠ none) : w.step interval now e = w := by
  refine step_of_not_awaits ?_
  obtain ⟨node, phase⟩ := w
  cases phase with
  | ready => rfl
  | failed cause => rfl
  | looking due => exact absurd rfl h
  | probing => exact absurd rfl h
  | identifying => exact absurd rfl h

theorem run_of_result? (h : w.result? ≠ none) (events : List (Nat × NodeEvent)) :
    w.run interval events = w := by
  induction events with
  | nil => rfl
  | cons e rest ih => rw [run, List.foldl_cons, step_of_result? h, ← run, ih]

theorem run_append (interval : Nat) (w : NodeWait) (events more : List (Nat × NodeEvent)) :
    w.run interval (events ++ more) = (w.run interval events).run interval more :=
  List.foldl_append

/-- What a wait has come to is what it has come to after more events. -/
theorem result?_run_append {r : Outcome NodeReport} {events : List (Nat × NodeEvent)}
    (h : (w.run interval events).result? = some r) (more : List (Nat × NodeEvent)) :
    (w.run interval (events ++ more)).result? = some r := by
  rw [run_append, run_of_result? (by simp [h]), h]

/-- An event that comes in its turn leads from phase to phase. -/
theorem stands_step (h : Stands interval node moments w) (hturn : w.awaits now e = true) :
    Stands interval node (moments ++ [(now, e)]) (w.step interval now e) := by
  cases h with
  | looking rounds =>
    cases e with
    | look sight =>
      have hdue := of_decide_eq_true hturn
      simp only [step, Nat.not_lt.mpr hdue, if_false]
      cases sight with
      | running => exact .probing rounds hdue
      | ended status => exact .failed (.exited rounds hdue)
      | stopped => exact .failed (.stopped rounds hdue)
      | hidden cause => exact .failed (.hidden rounds hdue)
    | health reply => exact Bool.noConfusion hturn
    | identity reply => exact Bool.noConfusion hturn
  | probing rounds hdue =>
    cases e with
    | health reply =>
      rw [List.append_assoc]
      by_cases healthy : Probe.Healthy reply
      · simp only [step, Probe.isHealthy_iff.mpr healthy, if_true]
        exact .identifying (.after rounds hdue healthy)
      · simp only [step, mt Probe.isHealthy_iff.mp healthy]
        exact .looking (.again rounds hdue healthy)
    | look sight => exact Bool.noConfusion hturn
    | identity reply => exact Bool.noConfusion hturn
  | identifying healthy =>
    cases e with
    | identity reply =>
      cases given : Probe.nodeId node.uri reply with
      | ok id =>
        simp only [step, given]
        exact .ready (.identified healthy (Probe.nodeId_eq_ok_iff.mp given))
      | error cause =>
        have none_given : ∀ id, ¬ Probe.Identifies reply id := fun id identifies => by
          have ok := given.symm.trans (Probe.nodeId_eq_ok_iff.mpr identifies)
          cases ok
        simp only [step, given]
        exact .failed (.unidentified healthy none_given given)
    | look sight => exact Bool.noConfusion hturn
    | health reply => exact Bool.noConfusion hturn
  | ready succeeds => cases e <;> exact Bool.noConfusion hturn
  | failed fails => cases e <;> exact Bool.noConfusion hturn

theorem stands_run_from (h : Stands interval node moments w) (events : List (Nat × NodeEvent)) :
    Stands interval node (moments ++ course interval w events) (w.run interval events) := by
  induction events generalizing moments w with
  | nil => simpa [course, run] using h
  | cons e rest ih =>
    rw [course]
    by_cases hturn : w.awaits e.1 e.2 = true
    · rw [if_pos hturn, List.append_cons]
      exact ih (stands_step h hturn)
    · rw [if_neg hturn]
      have same : w.step interval e.1 e.2 = w :=
        step_of_not_awaits (Bool.eq_false_iff.mpr hturn)
      simpa [run, same] using ih h

theorem stands_run (interval : Nat) (node : NodeReport) (events : List (Nat × NodeEvent)) :
    Stands interval node (courseOf interval node events)
      ((⟨node, .looking 0⟩ : NodeWait).run interval events) :=
  stands_run_from (.looking .start) events

/-! ## How a wait ends -/

/-- What a wait has come to is told by the last event of its course. -/
def verdict? (node : NodeReport) (moments : List (Nat × NodeEvent)) :
    Option (Outcome NodeReport) :=
  match moments.getLast? with
  | some (_, .look sight) => (sight.fault? node.name).map .error
  | some (_, .identity reply) =>
    some ((Probe.nodeId node.uri reply).map fun id => { node with id := id })
  | _ => none

theorem verdict?_of_succeeds (h : Succeeds interval node moments report) :
    verdict? node moments = some (.ok report) := by
  cases h with
  | identified _ identifies =>
    simp [verdict?, Probe.nodeId_eq_ok_iff.mpr identifies, Except.map]

theorem verdict?_of_fails (h : Fails interval node moments cause) :
    verdict? node moments = some (.error cause) := by
  cases h with
  | exited => simp [verdict?, ProcessSight.fault?]
  | stopped => simp [verdict?, ProcessSight.fault?]
  | hidden => simp [verdict?, ProcessSight.fault?]
  | unidentified _ _ refused => simp [verdict?, refused, Except.map]

theorem result?_of_stands (h : Stands interval node moments w) :
    w.result? = verdict? node moments := by
  cases h with
  | looking rounds => cases rounds <;> simp [verdict?, result?]
  | probing => simp [verdict?, result?, ProcessSight.fault?]
  | identifying healthy =>
    cases healthy
    simp [verdict?, result?]
  | ready succeeds => exact (verdict?_of_succeeds succeeds).symm
  | failed fails => exact (verdict?_of_fails fails).symm

theorem succeeds_of_stands (h : Stands interval node moments w)
    (hw : w.result? = some (.ok report)) : Succeeds interval node moments report := by
  cases h with
  | ready succeeds =>
    obtain rfl := Except.ok.inj (Option.some.inj hw)
    exact succeeds
  | looking => cases hw
  | probing => cases hw
  | identifying => cases hw
  | failed => cases hw

theorem fails_of_stands (h : Stands interval node moments w)
    (hw : w.result? = some (.error cause)) : Fails interval node moments cause := by
  cases h with
  | failed fails =>
    obtain rfl := Except.error.inj (Option.some.inj hw)
    exact fails
  | looking => cases hw
  | probing => cases hw
  | identifying => cases hw
  | ready => cases hw

/-- A wait succeeds exactly with a node that was found healthy and gave its identifier. -/
theorem succeeded_iff (interval : Nat) (node report : NodeReport)
    (events : List (Nat × NodeEvent)) :
    (run interval { node } events).result? = some (.ok report) ↔
      Succeeds interval node (courseOf interval node events) report := by
  have stands := stands_run interval node events
  refine ⟨succeeds_of_stands stands, fun succeeds => ?_⟩
  rw [result?_of_stands stands, verdict?_of_succeeds succeeds]

/-- A wait fails exactly at a process that is gone or at a healthy node without an identifier. -/
theorem failed_iff (interval : Nat) (node : NodeReport) (events : List (Nat × NodeEvent))
    (cause : Failure) :
    (run interval { node } events).result? = some (.error cause) ↔
      Fails interval node (courseOf interval node events) cause := by
  have stands := stands_run interval node events
  refine ⟨fails_of_stands stands, fun fails => ?_⟩
  rw [result?_of_stands stands, verdict?_of_fails fails]

theorem name_of_stands (h : Stands interval node moments w) : w.node.name = node.name := by
  cases h with
  | ready succeeds =>
    cases succeeds
    rfl
  | looking => rfl
  | probing => rfl
  | identifying => rfl
  | failed => rfl

theorem node_of_result? (h : w.result? = some (.ok report)) : w.node = report := by
  obtain ⟨node, phase⟩ := w
  cases phase with
  | ready => exact Except.ok.inj (Option.some.inj h)
  | looking due => cases h
  | probing => cases h
  | identifying => cases h
  | failed cause => cases h

/-- No answer to the question whether a node is healthy ends a wait. -/
theorem result?_step_health (interval now : Nat) (w : NodeWait) (reply : HttpReply) :
    (w.step interval now (.health reply)).result? = w.result? := by
  obtain ⟨node, phase⟩ := w
  cases phase with
  | probing => cases h : Probe.isHealthy reply <;> simp [step, result?, h]
  | looking due => rfl
  | identifying => rfl
  | ready => rfl
  | failed cause => rfl

/-- After an answer that does not say that the node is healthy there is a rest, and then the node is
probed again. -/
theorem step_step_of_not_healthy (h : w.phase = .probing) {reply : HttpReply}
    (unhealthy : ¬ Probe.Healthy reply) (interval t u : Nat) :
    (w.step interval u (.health reply)).step interval t (.look .running) =
      { w with phase := if t < u + interval then .looking (u + interval) else .probing } := by
  obtain ⟨node, phase⟩ := w
  obtain rfl : phase = .probing := h
  have rests : (⟨node, .probing⟩ : NodeWait).step interval u (.health reply) =
      ⟨node, .looking (u + interval)⟩ := by
    simp [step, mt Probe.isHealthy_iff.mp unhealthy]
  rw [rests]
  by_cases early : t < u + interval <;> simp [step, early, ProcessSight.fault?]

/-- A wait that goes on succeeds with a node whose process is there at its next turn, and that says
then that it is healthy and gives its identifier. -/
theorem result?_run_of_answers {t u v : Nat} {health identity : HttpReply} {id : String}
    (h : w.result? = none) (hdue : ∀ due, w.phase = .looking due → due ≤ t)
    (healthy : Probe.Healthy health) (identifies : Probe.Identifies identity id) :
    (w.run interval [(t, .look .running), (u, .health health), (v, .identity identity)]).result? =
      some (.ok { w.node with id := id }) := by
  obtain ⟨node, phase⟩ := w
  have found := Probe.isHealthy_iff.mpr healthy
  have given : Probe.nodeId node.uri identity = .ok id := Probe.nodeId_eq_ok_iff.mpr identifies
  cases phase with
  | looking due =>
    have turn := hdue due rfl
    simp [run, step, Nat.not_lt.mpr turn, ProcessSight.fault?, found, given, result?]
  | probing => simp [run, step, found, given, result?]
  | identifying => simp [run, step, given, result?]
  | ready => cases h
  | failed cause => cases h

/-- Only a wait that succeeds sets the identifier of a node. -/
theorem node_of_not_ready (h : Stands interval node moments w) (hw : w.phase ≠ .ready) :
    w.node = node := by
  cases h with
  | ready => exact absurd rfl hw
  | looking => rfl
  | probing => rfl
  | identifying => rfl
  | failed => rfl

/-! ## Answers in due form -/

/-- A node is found running, says that it is healthy, under whatever status, and then gives its
identifier. -/
def answering (t u v healthStatus infoStatus : Nat) (id : String) : List (Nat × NodeEvent) :=
  [(t, .look .running),
    (u, .health (.ofJson healthStatus (.obj [("healthy", .bool true)]))),
    (v, .identity (.ofJson infoStatus (Probe.answered id)))]

/-- A wait that goes on succeeds with a node that is there at its next turn and then answers in due
form. -/
theorem result?_run_of_answering {events : List (Nat × NodeEvent)}
    {t u v healthStatus infoStatus : Nat} {id : String}
    (h : (run interval { node } events).result? = none)
    (hdue : ∀ due, (run interval { node } events).phase = .looking due → due ≤ t)
    (hstatus : Probe.isFailing infoStatus = false) (hid : id ≠ "") :
    (run interval { node } (events ++ answering t u v healthStatus infoStatus id)).result? =
      some (.ok { node with id := id }) := by
  have same : (run interval { node } events).node = node :=
    node_of_not_ready (stands_run interval node events) fun ready => by simp [result?, ready] at h
  rw [run_append, answering, result?_run_of_answers h hdue (Probe.healthy_ofJson _)
    (Probe.identifies_ofJson hstatus hid), same]

end NodeWait
end ClusterControl
