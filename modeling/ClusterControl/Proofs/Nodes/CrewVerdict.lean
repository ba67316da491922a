import ClusterControl.Proofs.Nodes.JointWait

/-!
# What a wait for several nodes gives

A wait for several nodes succeeds when each of them has been found running and then healthy and has
given its identifier, and it fails as soon as one of them cannot.  All of this is told from the
courses of the single waits, so a wait for one node gives what this node's part of the whole wait
gives.

* `CrewWait.ok_iff_ready` — a joint wait succeeds exactly if all single waits do.
* `CrewWait.error_iff_first` — it fails exactly at the first event at which a single wait does.
* `CrewWait.result?_concat_health`, `CrewWait.get?_of_not_healthy` — an answer that does not say
  that a node is healthy ends nothing; there is a rest, and then another probe.
* `CrewWait.get?_of_not_ready` — the handle of a node is left alone until the node has succeeded.
* `CrewWait.nodes_awaited` — all of this together.
-/

namespace ClusterControl
namespace CrewWait

open NodeWait (Succeeds Fails courseOf succeeded_iff failed_iff)

variable {join : Joining NodeReport} {interval t : Nat} {handles reports : Table NodeReport}
  {name : String} {node : NodeReport} {before after events : List (Nat × String × NodeEvent)}
  {e : NodeEvent} {cause : Failure}

/-- A handle stands under the name of its node. -/
def Named (handles : Table NodeReport) : Prop :=
  ∀ name node, handles.get? name = some node → node.name = name

/-- The wait for one node alone, over what happens at this node. -/
abbrev alone (interval : Nat) (node : NodeReport) (name : String)
    (events : List (Nat × String × NodeEvent)) : NodeWait :=
  NodeWait.run interval { node } (partOf name events)

/-- What counts of what happens at this node. -/
abbrev courseAt (interval : Nat) (node : NodeReport) (name : String)
    (events : List (Nat × String × NodeEvent)) : List (Nat × NodeEvent) :=
  courseOf interval node (partOf name events)

theorem get?_apart_eq_some {w : NodeWait} :
    (apart interval handles events).get? name = some w ↔
      ∃ node, handles.get? name = some node ∧ alone interval node name events = w := by
  rw [get?_apart, Option.map_eq_some_iff]

theorem named_apart (named : Named handles) {w : NodeWait}
    (h : (apart interval handles events).get? name = some w) : w.node.name = name := by
  obtain ⟨node, hnode, rfl⟩ := get?_apart_eq_some.mp h
  rw [NodeWait.name_of_stands (NodeWait.stands_run interval node _), named name node hnode]

/-- What a wait for one node has come to stays. -/
theorem alone_append {r : Outcome NodeReport}
    (h : (alone interval node name before).result? = some r)
    (after : List (Nat × String × NodeEvent)) :
    (alone interval node name (before ++ after)).result? = some r := by
  rw [alone, partOf_append]
  exact NodeWait.result?_run_append h _

/-- No node has failed. -/
def Sound (interval : Nat) (handles : Table NodeReport)
    (events : List (Nat × String × NodeEvent)) : Prop :=
  ∀ name node cause, handles.get? name = some node →
    ¬ Fails interval node (courseAt interval node name events) cause

/-- Every node has succeeded. -/
def Ready (interval : Nat) (handles : Table NodeReport)
    (events : List (Nat × String × NodeEvent)) : Prop :=
  ∀ name node, handles.get? name = some node →
    (alone interval node name events).result? = some (.ok (alone interval node name events).node)

theorem sound_of_pending (laws : Joins join) (sorted : handles.Sorted)
    (h : (whole join interval handles events).result? = none) : Sound interval handles events := by
  intro name node cause hnode fails
  have hnodes := nodes_of_pending sorted h
  rw [result?_whole, hnodes] at h
  exact not_failed laws (sorted_apart sorted _ _) h (get?_apart_eq_some.mpr ⟨node, hnode, rfl⟩)
    ((failed_iff interval node _ cause).mpr fails)

/-- A joint wait that goes on fails at an event exactly if the wait for the event's node does. -/
theorem error_of_pending (laws : Joins join) (sorted : handles.Sorted)
    (h : (whole join interval handles before).result? = none)
    (hnode : handles.get? name = some node)
    (hfailed : (alone interval node name (before ++ [(t, name, e)])).result? =
      some (.error cause)) :
    (whole join interval handles (before ++ [(t, name, e)])).result? = some (.error cause) := by
  rw [result?_whole, nodes_next sorted h]
  refine joined_eq_error laws (sorted_apart sorted _ _)
    (get?_apart_eq_some.mpr ⟨node, hnode, rfl⟩) hfailed fun other x first hx hfirst => ?_
  obtain ⟨n, hn, rfl⟩ := get?_apart_eq_some.mp hx
  -- at any other node nothing has happened
  by_contra hother
  rw [alone, partOf_append, partOf_singleton_of_ne (Ne.symm hother), List.append_nil] at hfirst
  exact sound_of_pending laws sorted h other n first hn
    ((failed_iff interval n _ first).mp hfirst)

theorem exists_error (laws : Joins join) (sorted : handles.Sorted)
    (h : (whole join interval handles events).result? = some (.error cause)) :
    ∃ before t name e after node, events = before ++ (t, name, e) :: after ∧
      handles.get? name = some node ∧ Sound interval handles before ∧
      Fails interval node (courseAt interval node name (before ++ [(t, name, e)])) cause := by
  obtain ⟨ended, after, rfl, hnodes, hresult, hpending⟩ := ends_at sorted h
  rw [result?_whole, hnodes] at hresult
  obtain ⟨name, w, hw, hfailed⟩ := exists_failed laws (sorted_apart sorted _ _) hresult
  obtain ⟨node, hnode, rfl⟩ := get?_apart_eq_some.mp hw
  cases ended using List.reverseRecOn with
  | nil => cases hfailed
  | append_singleton before last =>
    obtain ⟨t, other, e⟩ := last
    have sound := sound_of_pending laws sorted (hpending before _ rfl)
    -- the node that fails is the one where the last event happens
    have here : other = name := by
      by_contra hother
      rw [alone, partOf_append, partOf_singleton_of_ne hother, List.append_nil] at hfailed
      exact sound name node cause hnode ((failed_iff interval node _ cause).mp hfailed)
    subst here
    exact ⟨before, t, other, e, after, node, by simp, hnode, sound,
      (failed_iff interval node _ cause).mp hfailed⟩

theorem ok_iff_of_nodes (laws : Joins join) (sorted : handles.Sorted) (named : Named handles)
    (hnodes : (whole join interval handles events).nodes = apart interval handles events) :
    (whole join interval handles events).result? = some (.ok reports) ↔
      Ready interval handles events ∧
        reports = (apart interval handles events).map NodeWait.node := by
  rw [result?_whole, hnodes,
    joined_ok_iff laws (sorted_apart sorted _ _) (fun name w => named_apart named)]
  refine and_congr_left fun _ => ⟨fun h name node hnode => ?_, fun h name w hw => ?_⟩
  · exact h name _ (get?_apart_eq_some.mpr ⟨node, hnode, rfl⟩)
  · obtain ⟨node, hnode, rfl⟩ := get?_apart_eq_some.mp hw
    exact h name node hnode

theorem ready_append (h : Ready interval handles before)
    (after : List (Nat × String × NodeEvent)) : Ready interval handles (before ++ after) := by
  intro name node hnode
  have done := alone_append (h name node hnode) after
  rw [done, NodeWait.node_of_result? done]

/-- Once all nodes have succeeded nothing that happens counts any more. -/
theorem apart_append_of_ready (sorted : handles.Sorted) (h : Ready interval handles before)
    (after : List (Nat × String × NodeEvent)) :
    apart interval handles (before ++ after) = apart interval handles before := by
  refine Table.eq_of_get? (sorted_apart sorted _ _) (sorted_apart sorted _ _) fun name => ?_
  rw [get?_apart, get?_apart]
  refine Option.map_congr fun node hnode => ?_
  have done := h name node hnode
  rw [partOf_append, NodeWait.run_append, NodeWait.run_of_result? (by rw [done]; simp)]

/-- A joint wait succeeds exactly if all single waits do. -/
theorem ok_iff_ready (laws : Joins join) (sorted : handles.Sorted) (named : Named handles) :
    (whole join interval handles events).result? = some (.ok reports) ↔
      Ready interval handles events ∧
        reports = (apart interval handles events).map NodeWait.node := by
  have forward : ∀ {r}, (whole join interval handles events).result? = some (.ok r) →
      Ready interval handles events ∧ r = (apart interval handles events).map NodeWait.node := by
    intro r h
    obtain ⟨before, after, rfl, hnodes, hresult, -⟩ := ends_at sorted h
    obtain ⟨ready, rfl⟩ := (ok_iff_of_nodes laws sorted named hnodes).mp hresult
    exact ⟨ready_append ready after, by rw [apart_append_of_ready sorted ready after]⟩
  refine ⟨forward, fun ⟨ready, hreports⟩ => ?_⟩
  rcases hresult : (whole join interval handles events).result? with _ | cause | given
  · have hnodes := nodes_of_pending sorted hresult
    rw [← hresult]
    exact (ok_iff_of_nodes laws sorted named hnodes).mpr ⟨ready, hreports⟩
  · obtain ⟨before, t, name, e, after, node, heq, hnode, -, fails⟩ :=
      exists_error laws sorted hresult
    have failed := alone_append ((failed_iff interval node _ cause).mpr fails) after
    rw [List.append_assoc, List.singleton_append, ← heq, ready name node hnode] at failed
    cases failed
  · rw [hreports, (forward hresult).2]

/-- A joint wait fails exactly at the first event at which a single wait does. -/
theorem error_iff_first (laws : Joins join) (sorted : handles.Sorted) (named : Named handles) :
    (whole join interval handles events).result? = some (.error cause) ↔
      ∃ before t name e after node, events = before ++ (t, name, e) :: after ∧
        handles.get? name = some node ∧ Sound interval handles before ∧
        Fails interval node (courseAt interval node name (before ++ [(t, name, e)])) cause := by
  refine ⟨exists_error laws sorted, ?_⟩
  rintro ⟨before, t, name, e, after, node, rfl, hnode, sound, fails⟩
  have hfailed := (failed_iff interval node _ cause).mpr fails
  have pending : (whole join interval handles before).result? = none := by
    rcases hresult : (whole join interval handles before).result? with _ | first | reports
    · rfl
    · obtain ⟨early, u, other, e', late, n, rfl, hn, -, hfirst⟩ := exists_error laws sorted hresult
      have failed := alone_append ((failed_iff interval n _ first).mpr hfirst) late
      rw [List.append_assoc, List.singleton_append] at failed
      exact absurd ((failed_iff interval n _ first).mp failed) (sound other n first hn)
    · have ready := ((ok_iff_ready laws sorted named).mp hresult).1
      rw [alone_append (ready name node hnode)] at hfailed
      cases hfailed
  have failed := error_of_pending laws sorted pending hnode hfailed
  rw [List.append_cons, whole_append, run_of_result? (by simp [failed]), failed]

/-! ## The answers of nodes that are not healthy -/

theorem pending_of_append (h : (whole join interval handles (before ++ after)).result? = none) :
    (whole join interval handles before).result? = none := by
  by_contra hover
  rw [whole_append, run_of_result? hover] at h
  exact hover h

theorem result?_alone_health (t : Nat) (other : String) (reply : HttpReply) :
    (alone interval node name (events ++ [(t, other, .health reply)])).result? =
      (alone interval node name events).result? := by
  rw [alone, partOf_append, NodeWait.run_append]
  by_cases h : other = name
  · subst h
    rw [partOf_cons_self]
    exact NodeWait.result?_step_health interval t _ reply
  · rw [partOf_singleton_of_ne h]
    rfl

/-- No answer to the question whether a node is healthy ends a joint wait. -/
theorem result?_concat_health (sorted : handles.Sorted) (t : Nat) (name : String)
    (reply : HttpReply) :
    (whole join interval handles (events ++ [(t, name, .health reply)])).result? =
      (whole join interval handles events).result? := by
  by_cases h : (whole join interval handles events).result? = none
  · have parts : (apart interval handles (events ++ [(t, name, .health reply)])).values.map
        NodeWait.result? = (apart interval handles events).values.map NodeWait.result? := by
      simp only [apart, Table.values, List.map_map]
      exact List.map_congr_left fun handle _ => result?_alone_health t name reply
    rw [result?_whole, result?_whole, nodes_next sorted h, nodes_of_pending sorted h, joined, parts,
      joined]
  · rw [whole_concat, step_of_result? h]

/-- A node that was found not healthy is probed again, as soon as the interval has passed. -/
theorem get?_of_not_healthy (sorted : handles.Sorted) {u : Nat} {reply : HttpReply}
    {others : List (Nat × String × NodeEvent)} {w : NodeWait}
    (hw : (whole join interval handles events).nodes.get? name = some w)
    (hprobing : w.phase = .probing) (unhealthy : ¬ Probe.Healthy reply)
    (hothers : partOf name others = [])
    (hpending : (whole join interval handles
      (events ++ (u, name, .health reply) :: others)).result? = none) :
    (whole join interval handles
      (events ++ (u, name, .health reply) :: others ++ [(t, name, .look .running)])).nodes.get?
        name =
      some { w with phase := if t < u + interval then .looking (u + interval) else .probing } := by
  rw [nodes_of_pending sorted (pending_of_append hpending)] at hw
  obtain ⟨node, hnode, rfl⟩ := get?_apart_eq_some.mp hw
  have part : partOf name (events ++ (u, name, .health reply) :: others ++
      [(t, name, .look .running)]) =
      partOf name events ++ [(u, .health reply), (t, .look .running)] := by
    rw [partOf_append, partOf_append, partOf_cons_self, partOf_cons_self, hothers,
      List.append_assoc]
    rfl
  rw [nodes_next sorted hpending, get?_apart, hnode, part, Option.map_some, NodeWait.run_append]
  exact congrArg some (NodeWait.step_step_of_not_healthy hprobing unhealthy interval t u)

/-- At any time the single waits are those for each node alone, up to some moment. -/
theorem exists_apart (join : Joining NodeReport) (interval : Nat) (sorted : handles.Sorted)
    (events : List (Nat × String × NodeEvent)) :
    ∃ before after, events = before ++ after ∧
      (whole join interval handles events).nodes = apart interval handles before := by
  cases hresult : (whole join interval handles events).result? with
  | none => exact ⟨events, [], (List.append_nil _).symm, nodes_of_pending sorted hresult⟩
  | some r =>
    obtain ⟨before, after, rfl, hnodes, hbefore, -⟩ := ends_at sorted hresult
    refine ⟨before, after, rfl, ?_⟩
    rw [whole_append, run_of_result? (by simp [hbefore]), hnodes]

/-- Only a node that was found healthy and gave its identifier has its handle changed. -/
theorem get?_of_not_ready (sorted : handles.Sorted) {w : NodeWait}
    (hw : (whole join interval handles events).nodes.get? name = some w)
    (hphase : w.phase ≠ .ready) : handles.get? name = some w.node := by
  obtain ⟨before, after, rfl, hnodes⟩ := exists_apart join interval sorted events
  rw [hnodes] at hw
  obtain ⟨node, hnode, rfl⟩ := get?_apart_eq_some.mp hw
  rw [NodeWait.node_of_not_ready (NodeWait.stands_run interval node _) hphase, hnode]

/-! ## The theorem -/

/-- What waits for nodes come to, for all of them at once and for single ones. -/
structure Awaited (join : Joining NodeReport) (interval : Nat) (handles : Table NodeReport) :
    Prop where
  -- a single node is waited for if it has a handle, and the handle is the one for its name
  found : ∀ name node, handles.get? name = some node →
    NodeWait.create handles name = .ok { node } ∧ node.name = name
  missing : ∀ name, handles.get? name = none →
    NodeWait.create handles name = .error (.notFound name)
  -- such a wait succeeds or fails by the course of its node
  single_ok : ∀ node report events,
    (NodeWait.run interval { node } events).result? = some (.ok report) ↔
      Succeeds interval node (courseOf interval node events) report
  single_error : ∀ node cause events,
    (NodeWait.run interval { node } events).result? = some (.error cause) ↔
      Fails interval node (courseOf interval node events) cause
  -- as long as it goes on, it succeeds with a node that is there at its next turn and answers then
  single_answered : ∀ node events t u v healthStatus infoStatus id,
    (NodeWait.run interval { node } events).result? = none →
    (∀ due, (NodeWait.run interval { node } events).phase = .looking due → due ≤ t) →
    Probe.isFailing infoStatus = false → id ≠ "" →
    (NodeWait.run interval { node } (events ++
      NodeWait.answering t u v healthStatus infoStatus id)).result? =
        some (.ok { node with id := id })
  -- up to the event that ends the wait for all, each node is where the wait for it alone is
  shared : ∀ events, (whole join interval handles events.dropLast).result? = none →
    ∀ name node, handles.get? name = some node →
      (whole join interval handles events).nodes.get? name =
        some (alone interval node name events)
  -- the wait for all succeeds when each node has, and gives the handles as they are then
  ok : ∀ events reports,
    (whole join interval handles events).result? = some (.ok reports) ↔
      reports.names = handles.names ∧
      ∀ name node, handles.get? name = some node → ∃ report,
        reports.get? name = some report ∧
        Succeeds interval node (courseAt interval node name events) report
  -- it fails as soon as a node does, for the reason of the first one
  error : ∀ events cause,
    (whole join interval handles events).result? = some (.error cause) ↔
      ∃ before t name e after node, events = before ++ (t, name, e) :: after ∧
        handles.get? name = some node ∧ Sound interval handles before ∧
        Fails interval node (courseAt interval node name (before ++ [(t, name, e)])) cause
  -- no answer to the question whether a node is healthy ends it
  patient : ∀ events t name reply,
    (whole join interval handles (events ++ [(t, name, .health reply)])).result? =
      (whole join interval handles events).result?
  -- one that does not say so leads to another probe after the interval
  again : ∀ events others u t name w reply,
    (whole join interval handles events).nodes.get? name = some w → w.phase = .probing →
    ¬ Probe.Healthy reply → partOf name others = [] →
    (whole join interval handles
      (events ++ (u, name, .health reply) :: others)).result? = none →
    (whole join interval handles
      (events ++ (u, name, .health reply) :: others ++ [(t, name, .look .running)])).nodes.get?
        name =
      some { w with phase := if t < u + interval then .looking (u + interval) else .probing }
  -- a node that has not succeeded has its handle as it was
  kept : ∀ events name w, (whole join interval handles events).nodes.get? name = some w →
    w.phase ≠ .ready → handles.get? name = some w.node

theorem named_table (nodes : List NodeReport) : Named (NodeReport.table nodes) := by
  intro name node h
  have hmem := Table.mem_of_mem_ofList (Table.mem_entries_of_get? h)
  obtain ⟨n, -, heq⟩ := List.mem_map.mp hmem
  obtain ⟨rfl, rfl⟩ := Prod.mk.inj heq
  rfl

/-- All nodes have succeeded with these reports. -/
theorem ready_iff_succeeds (sorted : handles.Sorted) :
    (Ready interval handles events ∧ reports = (apart interval handles events).map NodeWait.node) ↔
      reports.names = handles.names ∧
      ∀ name node, handles.get? name = some node → ∃ report,
        reports.get? name = some report ∧
        Succeeds interval node (courseAt interval node name events) report := by
  constructor
  · rintro ⟨ready, rfl⟩
    refine ⟨by rw [Table.names_map, names_apart], fun name node hnode => ?_⟩
    refine ⟨(alone interval node name events).node, ?_, ?_⟩
    · rw [Table.get?_map, get?_apart, hnode]
      rfl
    · exact (succeeded_iff _ _ _ _).mp (ready name node hnode)
  · rintro ⟨names, succeeds⟩
    have done : ∀ name node, handles.get? name = some node →
        (alone interval node name events).result? =
          some (.ok (alone interval node name events).node) ∧
        reports.get? name = some (alone interval node name events).node := by
      intro name node hnode
      obtain ⟨report, hreport, hsucceeds⟩ := succeeds name node hnode
      have ok := (succeeded_iff interval node report _).mpr hsucceeds
      rw [NodeWait.node_of_result? ok]
      exact ⟨ok, hreport⟩
    refine ⟨fun name node hnode => (done name node hnode).1, ?_⟩
    have sorted_reports : reports.Sorted := by
      rw [Table.Sorted, names]
      exact sorted
    refine Table.eq_of_get? sorted_reports
      (Table.sorted_map (sorted_apart sorted _ _) _) fun name => ?_
    rw [Table.get?_map, get?_apart]
    cases hnode : handles.get? name with
    | some node => exact (done name node hnode).2
    | none =>
      have absent : name ∉ reports.names := by
        rw [names, ← Table.contains_iff_mem_names, Table.contains, hnode]
        exact Bool.false_ne_true
      rw [← Table.contains_iff_mem_names, Table.contains] at absent
      simpa using absent

/-- **Waits for nodes**: whatever happens at the spawned nodes, and in whichever way waits are
joined that fails with the first failure and otherwise gives what all of them give, the wait for all
of them succeeds when each was found running, then healthy, and gave its identifier, and fails as
soon as one of them cannot. -/
theorem nodes_awaited (laws : Joins join) (interval : Nat) (nodes : List NodeReport) :
    Awaited join interval (NodeReport.table nodes) := by
  have sorted : (NodeReport.table nodes).Sorted := Table.sorted_ofList _
  have named := named_table nodes
  exact {
    found := fun name node hnode => ⟨by simp [NodeWait.create, hnode], named name node hnode⟩
    missing := fun name hnone => by simp [NodeWait.create, hnone]
    single_ok := fun node report events => succeeded_iff interval node report events
    single_error := fun node cause events => failed_iff interval node events cause
    single_answered := fun node events t u v healthStatus infoStatus id =>
      NodeWait.result?_run_of_answering
    shared := fun events hpending name node hnode => by
      rw [nodes_of_dropLast sorted hpending, get?_apart, hnode]
      rfl
    ok := fun events reports => (ok_iff_ready laws sorted named).trans (ready_iff_succeeds sorted)
    error := fun events cause => error_iff_first laws sorted named
    patient := fun events t name reply => result?_concat_health sorted t name reply
    again := fun events others u t name w reply => get?_of_not_healthy sorted
    kept := fun events name w => get?_of_not_ready sorted }

/-- Two nodes. -/
def pair : List NodeReport :=
  [⟨"node1", "http://127.0.0.1:9650", ""⟩, ⟨"node2", "http://127.0.0.1:9652", ""⟩]

/-- Two nodes, waited for with the first failure in their order first. -/
theorem pair_awaited : Joins (joinAll : Joining NodeReport) ∧
    Awaited joinAll 5 (NodeReport.table pair) :=
  ⟨joins_joinAll, nodes_awaited joins_joinAll 5 pair⟩

/-- The first one does not answer a probe, and answers the next one under a failing status. -/
example :
    (whole joinAll 5 (NodeReport.table pair) [
      (0, "node1", .look .running), (0, "node2", .look .running), (1, "node1", .health .nothing),
      (1, "node2", .health (.ofJson 200 (.obj [("healthy", .bool true)]))),
      (2, "node2", .identity (.ofJson 200 (Probe.answered "NodeID-2"))),
      (6, "node1", .look .running),
      (7, "node1", .health (.ofJson 503 (.obj [("healthy", .bool true)]))),
      (8, "node1", .identity (.ofJson 200 (Probe.answered "NodeID-1")))]).result? =
      some (.ok (NodeReport.table [⟨"node1", "http://127.0.0.1:9650", "NodeID-1"⟩,
        ⟨"node2", "http://127.0.0.1:9652", "NodeID-2"⟩])) := by
  decide +kernel

/-- The second one is stopped while the first one does not answer yet. -/
example :
    (whole joinAll 5 (NodeReport.table pair) [
      (0, "node1", .look .running), (0, "node2", .look .running), (1, "node1", .health .nothing),
      (1, "node2", .health .nothing), (6, "node2", .look .stopped)]).result? =
      some (.error (.launch "node node2 was stopped")) := by
  decide

end CrewWait
end ClusterControl
