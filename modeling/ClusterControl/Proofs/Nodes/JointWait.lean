import ClusterControl.Proofs.Nodes.NodeCourse
import ClusterControl.Proofs.Table

/-!
# Waiting for several nodes

A wait for several nodes is made up of waits for the single ones.  Until it is over each of them is
where a wait for its node alone would be after what has happened at that node; so what the whole
wait gives is told from the courses of the single waits.

* `Joins` — what a way to join tasks promises; `joins_joinAll`: the one at hand keeps to it.
* `CrewWait.partOf`, `CrewWait.apart` — what happens at one node, and the waits for each node alone.
* `CrewWait.nodes_of_pending`, `CrewWait.nodes_next` — a whole wait is made up of these.
* `CrewWait.ends_at` — the moment at which a whole wait comes to its end.
* `CrewWait.exists_failed`, `CrewWait.joined_eq_error`, `CrewWait.joined_ok_iff` — what the single
  waits come to together.
-/

namespace ClusterControl

/-! ## Joined tasks -/

/-- What is known of a way to join tasks.  These laws are the documented contract of a function that
joins, and not its implementation for many tasks: which of them it looks at when, and where it keeps
what they gave, is not said here. -/
structure Joins {α : Type} (join : Joining α) : Prop where
  -- as soon as a task has failed the whole fails, for the reason of one that has
  fails : ∀ parts cause, some (.error cause) ∈ parts →
    ∃ first, some (.error first) ∈ parts ∧ join parts = some (.error first)
  -- it gives what the tasks have given, in their order, when all have
  succeeds : ∀ results, join (results.map fun a => some (.ok a)) = some (.ok results)
  -- it goes on while a task does and none has failed
  waits : ∀ parts, none ∈ parts → (∀ cause, some (.error cause) ∉ parts) → join parts = none

section Joined

variable {α : Type} {join : Joining α} {parts : List (Option (Outcome α))} {results : List α}
  {cause : Failure}

/-- Tasks of which none goes on and none has failed have all given something. -/
theorem exists_results (ended : none ∉ parts) (sound : ∀ cause, some (.error cause) ∉ parts) :
    ∃ results : List α, parts = results.map fun a => some (.ok a) := by
  induction parts with
  | nil => exact ⟨[], rfl⟩
  | cons part rest ih =>
    obtain ⟨results, rfl⟩ := ih (mt (List.mem_cons_of_mem _) ended)
      fun cause => mt (List.mem_cons_of_mem _) (sound cause)
    match part with
    | none => exact absurd List.mem_cons_self ended
    | some (.error cause) => exact absurd List.mem_cons_self (sound cause)
    | some (.ok a) => exact ⟨a :: results, rfl⟩

/-- Joined tasks are in one of three ways. -/
theorem Joins.cases (laws : Joins join) (parts : List (Option (Outcome α))) :
    (∃ cause, some (.error cause) ∈ parts ∧ join parts = some (.error cause)) ∨
    ((∀ cause, some (.error cause) ∉ parts) ∧ join parts = none) ∨
    ∃ results, parts = results.map (fun a => some (.ok a)) ∧ join parts = some (.ok results) := by
  by_cases failing : ∃ cause, some (.error cause) ∈ parts
  · obtain ⟨cause, hcause⟩ := failing
    exact .inl (laws.fails parts cause hcause)
  · have sound := not_exists.mp failing
    by_cases going : none ∈ parts
    · exact .inr (.inl ⟨sound, laws.waits parts going sound⟩)
    · obtain ⟨results, rfl⟩ := exists_results going sound
      exact .inr (.inr ⟨results, rfl, laws.succeeds results⟩)

theorem Joins.mem_of_error (laws : Joins join) (h : join parts = some (.error cause)) :
    some (.error cause) ∈ parts := by
  obtain ⟨first, hmem, hjoin⟩ | ⟨-, hjoin⟩ | ⟨results, -, hjoin⟩ := laws.cases parts
  · rw [hjoin] at h
    obtain rfl := Except.error.inj (Option.some.inj h)
    exact hmem
  · exact absurd (hjoin.symm.trans h) (by simp)
  · exact absurd (hjoin.symm.trans h) (by simp)

theorem Joins.not_mem_of_none (laws : Joins join) (h : join parts = none) (cause : Failure) :
    some (.error cause) ∉ parts := fun hmem => by
  obtain ⟨first, -, hjoin⟩ := laws.fails parts cause hmem
  exact absurd (hjoin.symm.trans h) (by simp)

theorem Joins.ok_iff (laws : Joins join) :
    join parts = some (.ok results) ↔ parts = results.map fun a => some (.ok a) := by
  refine ⟨fun h => ?_, fun h => h ▸ laws.succeeds results⟩
  obtain ⟨first, -, hjoin⟩ | ⟨-, hjoin⟩ | ⟨given, hparts, hjoin⟩ := laws.cases parts
  · exact absurd (hjoin.symm.trans h) (by simp)
  · exact absurd (hjoin.symm.trans h) (by simp)
  · rw [hjoin] at h
    obtain rfl := Except.ok.inj (Option.some.inj h)
    exact hparts

theorem mem_of_joinAll_error (h : joinAll parts = some (.error cause)) :
    some (.error cause) ∈ parts := by
  induction parts with
  | nil => cases h
  | cons part rest ih =>
    match part with
    | some (.error first) =>
      obtain rfl := Except.error.inj (Option.some.inj h)
      exact List.mem_cons_self
    | some (.ok a) =>
      refine List.mem_cons_of_mem _ (ih ?_)
      obtain ⟨all, hrest, hall⟩ := Option.map_eq_some_iff.mp h
      cases all with
      | error other =>
        obtain rfl := Except.error.inj hall
        exact hrest
      | ok all => cases hall
    | none =>
      refine List.mem_cons_of_mem _ (ih ?_)
      unfold joinAll at h
      split at h
      · next other hrest =>
        obtain rfl := Except.error.inj (Option.some.inj h)
        exact hrest
      · cases h

theorem joins_joinAll : Joins (joinAll : Joining α) where
  fails parts cause hmem := by
    have failed : ∃ first, joinAll parts = some (.error first) := by
      induction parts with
      | nil => exact absurd hmem List.not_mem_nil
      | cons part rest ih =>
        match part with
        | some (.error first) => exact ⟨first, rfl⟩
        | some (.ok a) =>
          obtain ⟨first, hrest⟩ := ih (by simpa using hmem)
          exact ⟨first, by simp [joinAll, hrest, Except.map]⟩
        | none =>
          obtain ⟨first, hrest⟩ := ih (by simpa using hmem)
          exact ⟨first, by simp [joinAll, hrest]⟩
    obtain ⟨first, hfirst⟩ := failed
    exact ⟨first, mem_of_joinAll_error hfirst, hfirst⟩
  succeeds results := by
    induction results with
    | nil => rfl
    | cons a rest ih => simp [joinAll, ih, Except.map]
  waits parts going sound := by
    induction parts with
    | nil => exact absurd going List.not_mem_nil
    | cons part rest ih =>
      have sound_rest : ∀ cause, some (.error cause) ∉ rest :=
        fun cause => mt (List.mem_cons_of_mem _) (sound cause)
      match part with
      | some (.error first) => exact absurd List.mem_cons_self (sound first)
      | some (.ok a) => simp [joinAll, ih (by simpa using going) sound_rest]
      | none =>
        unfold joinAll
        split
        · next cause hrest => exact absurd (mem_of_joinAll_error hrest) (sound_rest cause)
        · rfl

end Joined

/-! ## What a joint wait is made up of -/

namespace CrewWait

/-- What happens at one node. -/
def partOf (name : String) (events : List (Nat × String × NodeEvent)) : List (Nat × NodeEvent) :=
  events.filterMap fun e => if e.2.1 = name then some (e.1, e.2.2) else none

/-- The waits for each of the nodes alone. -/
def apart (interval : Nat) (handles : Table NodeReport)
    (events : List (Nat × String × NodeEvent)) : Table NodeWait :=
  ⟨handles.entries.map fun e => (e.1, NodeWait.run interval { node := e.2 } (partOf e.1 events))⟩

/-- A wait for several nodes from its beginning on. -/
abbrev whole (join : Joining NodeReport) (interval : Nat) (handles : Table NodeReport)
    (events : List (Nat × String × NodeEvent)) : CrewWait :=
  (create join handles).run join interval events

variable {join : Joining NodeReport} {interval t : Nat} {handles : Table NodeReport}
  {name other : String} {node : NodeReport} {w : CrewWait} {waits : Table NodeWait}
  {events : List (Nat × String × NodeEvent)} {e : NodeEvent} {cause : Failure}

theorem partOf_append (name : String) (events more : List (Nat × String × NodeEvent)) :
    partOf name (events ++ more) = partOf name events ++ partOf name more :=
  List.filterMap_append

theorem partOf_cons_self (name : String) (t : Nat) (e : NodeEvent)
    (rest : List (Nat × String × NodeEvent)) :
    partOf name ((t, name, e) :: rest) = (t, e) :: partOf name rest := by
  simp [partOf]

theorem partOf_singleton_of_ne (h : other ≠ name) (t : Nat) (e : NodeEvent) :
    partOf name [(t, other, e)] = [] := by
  simp [partOf, h]

theorem get?_apart (interval : Nat) (handles : Table NodeReport) (name : String)
    (events : List (Nat × String × NodeEvent)) :
    (apart interval handles events).get? name =
      (handles.get? name).map fun node => NodeWait.run interval { node } (partOf name events) :=
  Table.lookup_map (fun name node => NodeWait.run interval { node } (partOf name events))
    handles.entries name

theorem names_apart (interval : Nat) (handles : Table NodeReport)
    (events : List (Nat × String × NodeEvent)) :
    (apart interval handles events).names = handles.names := by
  simp [apart, Table.names]

theorem sorted_apart (sorted : handles.Sorted) (interval : Nat)
    (events : List (Nat × String × NodeEvent)) : (apart interval handles events).Sorted := by
  rw [Table.Sorted, names_apart]
  exact sorted

/-- An event at one of the nodes is an event of its own wait. -/
theorem apart_concat (sorted : handles.Sorted) (h : handles.get? name = some node) :
    apart interval handles (events ++ [(t, name, e)]) =
      (apart interval handles events).insert name
        ((NodeWait.run interval { node } (partOf name events)).step interval t e) := by
  refine Table.eq_of_get? (sorted_apart sorted _ _)
    (Table.sorted_insert (sorted_apart sorted _ _) _ _) fun other => ?_
  rw [Table.get?_insert, get?_apart, partOf_append]
  by_cases hother : other = name
  · subst hother
    rw [if_pos rfl, h, partOf_cons_self, Option.map_some, NodeWait.run_append]
    rfl
  · rw [if_neg hother, partOf_singleton_of_ne (Ne.symm hother), List.append_nil, get?_apart]

theorem apart_concat_of_none (sorted : handles.Sorted) (h : handles.get? name = none) :
    apart interval handles (events ++ [(t, name, e)]) = apart interval handles events := by
  refine Table.eq_of_get? (sorted_apart sorted _ _) (sorted_apart sorted _ _) fun other => ?_
  rw [get?_apart, get?_apart, partOf_append]
  by_cases hother : other = name
  · rw [hother, h]
    rfl
  · rw [partOf_singleton_of_ne (Ne.symm hother), List.append_nil]

theorem whole_append (join : Joining NodeReport) (interval : Nat) (handles : Table NodeReport)
    (events more : List (Nat × String × NodeEvent)) :
    whole join interval handles (events ++ more) =
      (whole join interval handles events).run join interval more :=
  List.foldl_append

theorem whole_concat (join : Joining NodeReport) (interval : Nat) (handles : Table NodeReport)
    (events : List (Nat × String × NodeEvent)) (t : Nat) (name : String) (e : NodeEvent) :
    whole join interval handles (events ++ [(t, name, e)]) =
      (whole join interval handles events).step join interval t name e :=
  whole_append join interval handles events _

/-- What a joint wait has come to stays. -/
theorem step_of_result? (h : w.result? ≠ none) : w.step join interval t name e = w := by
  obtain ⟨r, hr⟩ := Option.ne_none_iff_exists'.mp h
  simp [step, hr]

theorem run_of_result? (h : w.result? ≠ none) (events : List (Nat × String × NodeEvent)) :
    w.run join interval events = w := by
  induction events with
  | nil => rfl
  | cons e rest ih => rw [run, List.foldl_cons, step_of_result? h, ← run, ih]

theorem result?_step (h : w.result? = joined join w.nodes) :
    (w.step join interval t name e).result? =
      joined join (w.step join interval t name e).nodes := by
  unfold step
  split
  · rfl
  · exact h

/-- What a joint wait has come to is what the single waits come to together. -/
theorem result?_whole (join : Joining NodeReport) (interval : Nat) (handles : Table NodeReport)
    (events : List (Nat × String × NodeEvent)) :
    (whole join interval handles events).result? =
      joined join (whole join interval handles events).nodes := by
  induction events using List.reverseRecOn with
  | nil => rfl
  | append_singleton events e ih =>
    rw [whole_concat]
    exact result?_step ih

/-- A joint wait that goes on is made up of the waits for each of the nodes alone, and so it is
after one more event. -/
theorem nodes_step (sorted : handles.Sorted) (h : w.nodes = apart interval handles events)
    (hw : w.result? = none) :
    (w.step join interval t name e).nodes =
      apart interval handles (events ++ [(t, name, e)]) := by
  have part := get?_apart interval handles name events
  rw [← h] at part
  cases hnode : handles.get? name with
  | none =>
    rw [hnode, Option.map_none] at part
    simp only [step, hw, part]
    rw [h, apart_concat_of_none sorted hnode]
  | some node =>
    rw [hnode, Option.map_some] at part
    simp only [step, hw, part]
    rw [h, apart_concat sorted hnode]

theorem nodes_of_pending (sorted : handles.Sorted)
    (h : (whole join interval handles events).result? = none) :
    (whole join interval handles events).nodes = apart interval handles events := by
  induction events using List.reverseRecOn with
  | nil => rfl
  | append_singleton events e ih =>
    rw [whole_concat] at h ⊢
    have before : (whole join interval handles events).result? = none := by
      by_contra hover
      exact hover (step_of_result? hover ▸ h)
    exact nodes_step sorted (ih before) before

/-- The single waits are those for each node alone up to the event that ends the joint wait. -/
theorem nodes_next (sorted : handles.Sorted)
    (h : (whole join interval handles events).result? = none) (t : Nat) (name : String)
    (e : NodeEvent) :
    (whole join interval handles (events ++ [(t, name, e)])).nodes =
      apart interval handles (events ++ [(t, name, e)]) := by
  rw [whole_concat]
  exact nodes_step sorted (nodes_of_pending sorted h) h

theorem nodes_of_dropLast (sorted : handles.Sorted)
    (h : (whole join interval handles events.dropLast).result? = none) :
    (whole join interval handles events).nodes = apart interval handles events := by
  cases events using List.reverseRecOn with
  | nil => rfl
  | append_singleton events e =>
    rw [List.dropLast_concat] at h
    exact nodes_next sorted h _ _ _

/-- A joint wait that is over came to its end at an event, or was over from its beginning on. -/
theorem ends_at (sorted : handles.Sorted) {r : Outcome (Table NodeReport)}
    (h : (whole join interval handles events).result? = some r) :
    ∃ before after, events = before ++ after ∧
      (whole join interval handles before).nodes = apart interval handles before ∧
      (whole join interval handles before).result? = some r ∧
      ∀ first last, before = first ++ [last] →
        (whole join interval handles first).result? = none := by
  induction events using List.reverseRecOn with
  | nil => exact ⟨[], [], rfl, rfl, h, fun first last heq => absurd heq (by simp)⟩
  | append_singleton events e ih =>
    cases hbefore : (whole join interval handles events).result? with
    | none =>
      refine ⟨events ++ [e], [], (List.append_nil _).symm, nodes_next sorted hbefore _ _ _, h,
        fun first last heq => ?_⟩
      obtain ⟨rfl, -⟩ := List.append_inj' heq rfl
      exact hbefore
    | some other =>
      have same : (whole join interval handles events).result? = some r := by
        rw [whole_concat, step_of_result? (by simp [hbefore])] at h
        exact h
      obtain ⟨before, after, heq, hnodes, hresult, hpending⟩ := ih same
      exact ⟨before, after ++ [e], by rw [heq, List.append_assoc], hnodes, hresult, hpending⟩

/-! ## What single waits come to together -/

theorem mem_parts (sorted : waits.Sorted) {part : Option (Outcome NodeReport)} :
    part ∈ waits.values.map NodeWait.result? ↔
      ∃ name w, waits.get? name = some w ∧ w.result? = part := by
  constructor
  · intro hpart
    obtain ⟨w, hw, rfl⟩ := List.mem_map.mp hpart
    obtain ⟨e, he, rfl⟩ := List.mem_map.mp hw
    exact ⟨e.1, e.2, Table.get?_of_mem_entries sorted he, rfl⟩
  · rintro ⟨name, w, hw, rfl⟩
    exact List.mem_map_of_mem (List.mem_map_of_mem (Table.mem_entries_of_get? hw))

theorem joined_eq_error_iff : joined join waits = some (.error cause) ↔
    join (waits.values.map NodeWait.result?) = some (.error cause) := by
  unfold joined
  rcases join (waits.values.map NodeWait.result?) with _ | _ | results <;> simp [Except.map]

theorem joined_eq_ok_iff {reports : Table NodeReport} : joined join waits = some (.ok reports) ↔
    ∃ results, join (waits.values.map NodeWait.result?) = some (.ok results) ∧
      NodeReport.table results = reports := by
  unfold joined
  rcases join (waits.values.map NodeWait.result?) with _ | _ | results <;> simp [Except.map]

/-- A single wait has failed where they all fail together, for the same reason. -/
theorem exists_failed (laws : Joins join) (sorted : waits.Sorted)
    (h : joined join waits = some (.error cause)) :
    ∃ name w, waits.get? name = some w ∧ w.result? = some (.error cause) :=
  (mem_parts sorted).mp (laws.mem_of_error (joined_eq_error_iff.mp h))

theorem not_failed (laws : Joins join) (sorted : waits.Sorted) (h : joined join waits = none)
    {w : NodeWait} (hw : waits.get? name = some w) : w.result? ≠ some (.error cause) :=
  fun hfailed => laws.not_mem_of_none (Option.map_eq_none_iff.mp h) cause
    ((mem_parts sorted).mpr ⟨name, w, hw, hfailed⟩)

/-- All fail together where just one of them has failed. -/
theorem joined_eq_error (laws : Joins join) (sorted : waits.Sorted) {w : NodeWait}
    (hw : waits.get? name = some w) (hfailed : w.result? = some (.error cause))
    (only : ∀ other x first, waits.get? other = some x → x.result? = some (.error first) →
      other = name) : joined join waits = some (.error cause) := by
  obtain ⟨first, hmem, hjoin⟩ :=
    laws.fails _ cause ((mem_parts sorted).mpr ⟨name, w, hw, hfailed⟩)
  obtain ⟨other, x, hx, hfirst⟩ := (mem_parts sorted).mp hmem
  obtain rfl := only other x first hx hfirst
  obtain rfl := Option.some.inj (hx.symm.trans hw)
  obtain rfl := Except.error.inj (Option.some.inj (hfirst.symm.trans hfailed))
  exact joined_eq_error_iff.mpr hjoin

/-- The reports of nodes under their names are the table of the reports. -/
theorem table_values (sorted : waits.Sorted)
    (named : ∀ name w, waits.get? name = some w → w.node.name = name) :
    NodeReport.table (waits.values.map NodeWait.node) = waits.map NodeWait.node := by
  have same : (waits.values.map NodeWait.node).map (fun node => (node.name, node)) =
      (waits.map NodeWait.node).entries := by
    rw [Table.values, List.map_map, List.map_map, Table.map]
    refine List.map_congr_left fun e he => ?_
    exact Prod.ext (named e.1 e.2 (Table.get?_of_mem_entries sorted he)) rfl
  rw [NodeReport.table, same, Table.ofList_entries (Table.sorted_map sorted _)]

/-- They succeed together when each of them has succeeded. -/
theorem joined_ok_iff (laws : Joins join) (sorted : waits.Sorted)
    (named : ∀ name w, waits.get? name = some w → w.node.name = name)
    {reports : Table NodeReport} :
    joined join waits = some (.ok reports) ↔
      (∀ name w, waits.get? name = some w → w.result? = some (.ok w.node)) ∧
        reports = waits.map NodeWait.node := by
  rw [joined_eq_ok_iff]
  have parts_of_ready (h : ∀ name w, waits.get? name = some w → w.result? = some (.ok w.node)) :
      waits.values.map NodeWait.result? =
        (waits.values.map NodeWait.node).map fun node => some (.ok node) := by
    rw [List.map_map]
    refine List.map_congr_left fun w hw => ?_
    obtain ⟨e, he, rfl⟩ := List.mem_map.mp hw
    exact h e.1 e.2 (Table.get?_of_mem_entries sorted he)
  constructor
  · rintro ⟨results, hjoin, rfl⟩
    have parts := laws.ok_iff.mp hjoin
    have ready : ∀ name w, waits.get? name = some w → w.result? = some (.ok w.node) := by
      intro name w hw
      have hmem := (mem_parts sorted).mpr ⟨name, w, hw, rfl⟩
      rw [parts] at hmem
      obtain ⟨report, -, hreport⟩ := List.mem_map.mp hmem
      rw [NodeWait.node_of_result? hreport.symm, hreport]
    have same : results = waits.values.map NodeWait.node :=
      (List.map_inj_right fun _ _ h => Except.ok.inj (Option.some.inj h)).mp
        (parts.symm.trans (parts_of_ready ready))
    exact ⟨ready, same ▸ table_values sorted named⟩
  · rintro ⟨ready, rfl⟩
    exact ⟨_, laws.ok_iff.mpr (parts_of_ready ready), table_values sorted named⟩

end CrewWait
end ClusterControl
