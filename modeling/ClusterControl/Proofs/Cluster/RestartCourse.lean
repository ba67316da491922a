import ClusterControl.Proofs.Cluster.NodeCharge
import ClusterControl.Proofs.Cluster.StartOutcome

/-!
# The course of a restart

A restart removes a node, adds it in its new form, waits until it is healthy, and takes it out again
if that comes to nothing.  Each of the four asks for one errand and goes on when it is answered.
This module says where a restart can stand and how it can come out, in terms of what an onlooker
sees: what it has asked of the launcher, the replies, the stop signal, the clock and the nodes.

* `Restart` — a restart, with the cluster that it has found when it got the lock.
* `Reply.endpointOf?` — what a reply tells of a node that is waited for.
* `Comes` — what the wait for the node comes to when it is looked at.
* `Thwarted` — why a node that was removed is not launched anew.
* `Stage`, `Ends` — where a restart stands, and how it ends.
* `stage_calm` — between two turns of the call a restart stays where it is.
-/

namespace ClusterControl

/-- The nodes, of which one is run in a new way and answers at an endpoint. -/
def Registry.relaunched (r : Registry) (name : String) (config : NodeConfig) (e : Endpoint) :
    Registry :=
  { r with
    records := r.records.insert name (.ready name e)
    configs := r.configs.insert name config }

theorem Registry.restarted_restarting (r : Registry) (name : String) (config : NodeConfig)
    (e : Endpoint) : (r.restarting name config).restarted name e = r.relaunched name config e := by
  simp only [restarting, restarted, relaunched, Table.insert_insert]

/-- A node that is forgotten is gone, whether or not it was to be run in a new way. -/
theorem Registry.forget_restarting (r : Registry) (name : String) (config : NodeConfig) :
    (r.restarting name config).forget name = r.forget name := by
  simp only [restarting, forget, Table.erase_insert]

/-- What a report on all nodes tells of one of them. -/
def reportedEndpoint (reports : Table NodeReport) (name : String) : Outcome Endpoint :=
  match reports.get? name with
  | some report => report.endpoint
  | none => .error (.missingNode name)

/-- What a reply tells of a node that is waited for: its endpoint, or what is wrong.  The reply may
be about this node or about all nodes. -/
def Reply.endpointOf? (name : String) : Reply → Option (Outcome Endpoint)
  | node report => some report.endpoint
  | nodes reports => some (reportedEndpoint reports name)
  | mishap (.failed e) => some (.error e)
  | _ => none

namespace Cluster

/-- A restart of a node. -/
structure Restart where
  -- the cluster that the call has found when it got the lock
  found : Cluster
  caller : Nat
  name : String
  -- how the node is to be run from now on
  config : NodeConfig

namespace Restart

/-- The call goes on. -/
def turn (t : Restart) : Event :=
  .poll (.caller t.caller)

/-- The cluster after the call has begun and these events have happened. -/
def after (t : Restart) (events : List Event) : Cluster :=
  (t.found.step t.turn).run events

/-- What the node is waited for with. -/
def wait (t : Restart) : Errand :=
  match t.found.restartPolicy with
  | .node => .waitNode t.name
  | .cluster => .waitHealthy

/-- An errand of the call, with the reply if it is there. -/
def exchange (t : Restart) (errand : Errand) (reply? : Option Reply) : List JournalEntry :=
  .asked (.caller t.caller) errand :: (reply?.map (.answered (.caller t.caller) errand)).toList

/-- The node is being removed in order to be launched anew. -/
def removing (t : Restart) (reply? : Option Reply) : CallPhase :=
  .replacing t.name t.config (reply?.bind Reply.toDone)

def adding (t : Restart) (reply? : Option Reply) : CallPhase :=
  .adding t.name t.config (reply?.bind Reply.toDone)

/-- The node is waited for until the deadline, as the policy says. -/
def waiting (t : Restart) (deadline : Nat) (reply? : Option Reply) : CallPhase :=
  match t.found.restartPolicy with
  | .node => .awaitingNode t.name deadline (reply?.bind Reply.toNode)
  | .cluster => .awaitingAll t.name deadline (reply?.bind Reply.toNodes)

/-- The node is being removed because it could not be launched anew. -/
def cleaning (t : Restart) (cause : Failure) (reply? : Option Reply) : CallPhase :=
  .cleaning t.name cause (reply?.bind Reply.toDone)

/-- The nodes, while this one is on its way to run in its new form. -/
def pending (t : Restart) : Registry :=
  t.found.registry.restarting t.name t.config

/-- The phase of the call after these events. -/
def phase? (t : Restart) (events : List Event) : Option CallPhase :=
  (t.after events).callers.get? t.caller

variable (t : Restart) (events : List Event)

/-! ## How a restart comes out -/

/-- The call has found the node gone and no stop requested, when it went on after the events `gone`,
and so has asked for the node to be added. -/
structure Adds (gone : List Event) : Prop where
  within : gone ++ [t.turn] <+: events
  phase : t.phase? gone = some (t.removing (some .done))
  unsignalled : (t.after gone).stopSignal = false

/-- When it goes on after these events the call learns that the node has been added. -/
structure Added : Prop where
  adds : ∃ gone, t.Adds events gone
  phase : t.phase? events = some (t.adding (some .done))

/-- The call has been waiting for the node since this time.  Unless it begins to do so just now, it
has asked for the node, and it may have got this reply. -/
inductive Waits : (since : Nat) → (asked : List JournalEntry) → (reply? : Option Reply) → Prop
  | begins (added : t.Added events) : Waits (t.after events).now [] none
  | goesOn {hearing : List Event} {reply? : Option Reply} (within : hearing ++ [t.turn] <+: events)
      (added : t.Added hearing)
      (phase : t.phase? events =
        some (t.waiting ((t.after hearing).now + t.found.healthTimeout.ticks) reply?)) :
      Waits (t.after hearing).now (t.exchange t.wait reply?) reply?

/-- What a wait since this time comes to when it is looked at.  A stop goes before the deadline, and
the deadline before the reply. -/
inductive Comes (since : Nat) (reply? : Option Reply) : Outcome Endpoint → Prop
  | stopped (signal : (t.after events).stopSignal = true) : Comes since reply? (.error .aborted)
  | late (unsignalled : (t.after events).stopSignal = false)
      (late : since + t.found.healthTimeout.ticks ≤ (t.after events).now) :
      Comes since reply? (.error (.healthTimeout t.found.healthTimeout))
  | told {reply : Reply} {outcome : Outcome Endpoint}
      (unsignalled : (t.after events).stopSignal = false)
      (intime : (t.after events).now < since + t.found.healthTimeout.ticks)
      (there : reply? = some reply) (told : reply.endpointOf? t.name = some outcome) :
      Comes since reply? outcome

/-- Why the node is not launched anew, as the call finds when it goes on after these events, and
what it has asked of the launcher to that end. -/
inductive Thwarted : List JournalEntry → Failure → Prop
  -- The node is gone, and a stop was requested meanwhile
  | stopped (phase : t.phase? events = some (t.removing (some .done)))
      (signal : (t.after events).stopSignal = true) : Thwarted [] .aborted
  | addFails {gone : List Event} {e : Failure} (adds : t.Adds events gone)
      (phase : t.phase? events = some (t.adding (some (.mishap (.failed e))))) :
      Thwarted (t.exchange (.add t.config) (some (.mishap (.failed e)))) e
  | waitFails {since : Nat} {asked : List JournalEntry} {reply? : Option Reply} {e : Failure}
      (waits : t.Waits events since asked reply?) (comes : t.Comes events since reply? (.error e)) :
      Thwarted (t.exchange (.add t.config) (some .done) ++ asked) e

/-- Where the call stands: its phase, the nodes, and what it has had to do with the launcher since
it began. -/
structure Stands (phase : CallPhase) (nodes : Registry) (log : List JournalEntry) : Prop where
  phase : t.phase? events = some phase
  nodes : nodes.SameNodes (t.after events).registry
  dealings : (t.after events).dealings (.caller t.caller) =
    t.found.dealings (.caller t.caller) ++ log

/-- The call stands where it waits for the reply to an errand, or has got it. -/
structure Asks (phase : Option Reply → CallPhase) (nodes : Registry) (log : List JournalEntry)
    (errand : Errand) (reply? : Option Reply) : Prop where
  stands : t.Stands events (phase reply?) nodes (log ++ t.exchange errand reply?)
  fits : ∀ reply, reply? = some reply → reply.answers errand = true ∧ reply ≠ .mishap .crashed

/-- Where a restart stands that is under way. -/
inductive Stage : Prop
  | removes {reply? : Option Reply}
      (asks : t.Asks events t.removing t.found.registry [] (.remove t.name) reply?)
  | adds {gone : List Event} {reply? : Option Reply} (adds : t.Adds events gone)
      (asks : t.Asks events t.adding t.pending (t.exchange (.remove t.name) (some .done))
        (.add t.config) reply?)
  | waits {hearing : List Event} {reply? : Option Reply} (within : hearing ++ [t.turn] <+: events)
      (added : t.Added hearing)
      (asks : t.Asks events (t.waiting ((t.after hearing).now + t.found.healthTimeout.ticks))
        t.pending
        (t.exchange (.remove t.name) (some .done) ++ t.exchange (.add t.config) (some .done))
        t.wait reply?)
  | cleans {finding : List Event} {tried : List JournalEntry} {cause : Failure}
      {reply? : Option Reply} (within : finding ++ [t.turn] <+: events)
      (thwarted : t.Thwarted finding tried cause)
      (asks : t.Asks events (t.cleaning cause) t.pending
        (t.exchange (.remove t.name) (some .done) ++ tried) (.remove t.name) reply?)

/-- How a restart ends when the call goes on after these events. -/
inductive Ends : Prop
  -- The node could not be removed, and all is as it was
  | kept {e : Failure} (stands : t.Stands (events ++ [t.turn]) (.returned (.error e))
      t.found.registry (t.exchange (.remove t.name) (some (.mishap (.failed e)))))
  -- The node runs in its new form
  | back {since : Nat} {asked : List JournalEntry} {reply? : Option Reply} {e : Endpoint}
      (waits : t.Waits events since asked reply?) (comes : t.Comes events since reply? (.ok e))
      (stands : t.Stands (events ++ [t.turn])
        (.returned (.ok (t.after (events ++ [t.turn])).snapshot))
        (t.found.registry.relaunched t.name t.config e)
        (t.exchange (.remove t.name) (some .done) ++ t.exchange (.add t.config) (some .done) ++
          asked))
  -- The node could not be launched anew and is gone, whatever became of its removal
  | dropped {finding : List Event} {tried : List JournalEntry} {cause : Failure} {reply : Reply}
      (within : finding ++ [t.turn] <+: events) (thwarted : t.Thwarted finding tried cause)
      (stands : t.Stands (events ++ [t.turn]) (.returned (.error cause))
        (t.found.registry.forget t.name)
        (t.exchange (.remove t.name) (some .done) ++ tried ++
          t.exchange (.remove t.name) (some reply)))

/-! ## Between two turns -/

variable {t events} {e : Event} {errand : Errand} {phase : Option Reply → CallPhase}
  {nodes : Registry} {log : List JournalEntry} {reply? : Option Reply}

theorem after_concat (t : Restart) (events : List Event) (e : Event) :
    t.after (events ++ [e]) = (t.after events).step e :=
  run_append _ events [e]

theorem orderly_after (order : Orderly t.found) (events : List Event) : Orderly (t.after events) :=
  orderly_run order (t.turn :: events)

theorem healthTimeout_after (t : Restart) (events : List Event) :
    (t.after events).healthTimeout = t.found.healthTimeout :=
  (settings_run t.found (t.turn :: events)).1

theorem restartPolicy_after (t : Restart) (events : List Event) :
    (t.after events).restartPolicy = t.found.restartPolicy :=
  (settings_run t.found (t.turn :: events)).2

theorem Adds.concat {gone : List Event} (h : t.Adds events gone) (e : Event) :
    t.Adds (events ++ [e]) gone :=
  ⟨h.within.trans (List.prefix_append events [e]), h.phase, h.unsignalled⟩

/-- A phase in which the call waits for the reply to an errand, or has got it. -/
structure Pends (t : Restart) (errand : Errand) (phase : Option Reply → CallPhase) : Prop where
  charge : ∀ reply?, (phase reply?).charge? = some t.name
  asked : (phase none).errand? = some errand
  answered : ∀ reply, reply.answers errand = true → (phase (some reply)).errand? = none
  take : ∀ reply, (phase none).take reply = phase (some reply)
  ready : ∀ (c : Cluster) (n : Nat) (reply : Reply), reply.answers errand = true →
    c.callers.get? n = some (phase (some reply)) → c.callerReady n = true

theorem pends_removing (t : Restart) : t.Pends (.remove t.name) t.removing where
  charge _ := rfl
  asked := rfl
  answered reply ha := by cases reply <;> first | rfl | simp [Reply.answers] at ha
  take _ := rfl
  ready c n reply ha h := by
    simp only [callerReady, h, removing, Option.bind_some]
    cases reply <;> first | rfl | simp [Reply.answers] at ha

theorem pends_adding (t : Restart) : t.Pends (.add t.config) t.adding where
  charge _ := rfl
  asked := rfl
  answered reply ha := by cases reply <;> first | rfl | simp [Reply.answers] at ha
  take _ := rfl
  ready c n reply ha h := by
    simp only [callerReady, h, adding, Option.bind_some]
    cases reply <;> first | rfl | simp [Reply.answers] at ha

theorem pends_waiting (t : Restart) (deadline : Nat) : t.Pends t.wait (t.waiting deadline) := by
  unfold wait waiting
  cases t.found.restartPolicy with
  | node =>
    refine ⟨fun _ => rfl, rfl, fun reply ha => ?_, fun _ => rfl, fun c n reply ha h => ?_⟩
    · cases reply <;> first | rfl | simp [Reply.answers] at ha
    · simp only [callerReady, h, Option.bind_some]
      cases reply <;> simp [Reply.answers, Reply.toNode] at ha ⊢
  | cluster =>
    refine ⟨fun _ => rfl, rfl, fun reply ha => ?_, fun _ => rfl, fun c n reply ha h => ?_⟩
    · cases reply <;> first | rfl | simp [Reply.answers] at ha
    · simp only [callerReady, h, Option.bind_some]
      cases reply <;> simp [Reply.answers, Reply.toNodes] at ha ⊢

theorem pends_cleaning (t : Restart) (cause : Failure) :
    t.Pends (.remove t.name) (t.cleaning cause) where
  charge _ := rfl
  asked := rfl
  answered reply ha := by cases reply <;> first | rfl | simp [Reply.answers] at ha
  take _ := rfl
  ready c n reply ha h := by
    simp only [callerReady, h, cleaning, Option.bind_some]
    cases reply <;> first | rfl | simp [Reply.answers] at ha

/-- As long as the call does not go on itself, the launcher's reply is all that it can get. -/
theorem asks_calm (order : Orderly t.found) (pends : t.Pends errand phase)
    (asks : t.Asks events phase nodes log errand reply?) (he : e ≠ .leave t.caller)
    (hturn : e ≠ t.turn) (sound : e ≠ .answer (.caller t.caller) (.mishap .crashed)) :
    ∃ reply?', t.Asks (events ++ [e]) phase nodes log errand reply?' := by
  obtain ⟨stands, fits⟩ := asks
  have hcharge : (phase reply?).charge?.isSome = true := by rw [pends.charge]; rfl
  rcases undisturbed_or_answered (orderly_after order events) stands.phase hcharge he hturn with
    calm | ⟨errand', reply, rfl, herrand, ha, hstep⟩
  · rw [← after_concat] at calm
    exact ⟨reply?, ⟨calm.phase.trans stands.phase, stands.nodes.trans calm.nodes,
      calm.dealings.trans stands.dealings⟩, fits⟩
  · rw [← after_concat] at hstep
    cases reply? with
    | some earlier =>
      -- The errand has been answered before.
      simp [pends.answered earlier (fits earlier rfl).1] at herrand
    | none =>
      obtain rfl : errand = errand' := Option.some.inj (pends.asked.symm.trans herrand)
      have own : (t.after (events ++ [.answer (.caller t.caller) reply])).dealings
          (.caller t.caller) = (t.after events).dealings (.caller t.caller) ++
            [.answered (.caller t.caller) errand reply] := by
        rw [hstep]
        exact dealings_of_own rfl rfl
      refine ⟨some reply, ⟨?_, ?_, ?_⟩, ?_⟩
      · rw [phase?, hstep, ← pends.take]
        exact Roster.get?_set_self ..
      · rw [hstep]
        exact stands.nodes
      · rw [own, stands.dealings]
        simp [exchange]
      · rintro reply' heq
        obtain rfl := Option.some.inj heq
        exact ⟨ha, fun hcrashed => sound (by rw [hcrashed])⟩

/-- Between two turns of the call a restart stays where it is. -/
theorem stage_calm (order : Orderly t.found) (stage : t.Stage events) (he : e ≠ .leave t.caller)
    (hturn : e ≠ t.turn) (sound : e ≠ .answer (.caller t.caller) (.mishap .crashed)) :
    t.Stage (events ++ [e]) := by
  have longer : events <+: events ++ [e] := List.prefix_append events [e]
  cases stage with
  | removes asks =>
    obtain ⟨_, later⟩ := asks_calm order t.pends_removing asks he hturn sound
    exact .removes later
  | adds adds asks =>
    obtain ⟨_, later⟩ := asks_calm order t.pends_adding asks he hturn sound
    exact .adds (adds.concat e) later
  | waits within added asks =>
    obtain ⟨_, later⟩ := asks_calm order (t.pends_waiting _) asks he hturn sound
    exact .waits (within.trans longer) added later
  | @cleans _ _ cause _ within thwarted asks =>
    obtain ⟨_, later⟩ := asks_calm order (t.pends_cleaning cause) asks he hturn sound
    exact .cleans (within.trans longer) thwarted later

end Restart
end Cluster
end ClusterControl
