import ClusterControl.Nodes.Crew
import ClusterControl.Proofs.Table

/-!
# No process is lost

Each process that a crew has started is in one of two places: it runs under the name of its node, or
it was handed over to be ended.  Attempts to start a process fail, and so do attempts to end one,
but no failure takes a process out of the books or enters it twice.

* `Accounted` — what runs and what was handed over are together what was started.
* `accounted_spawnAll`, `accounted_perform`, `accounted_run` — a launch ends accounted, and so does
  whatever is done to the crew afterwards.
* `Accounted.placed` — what that means for one process.
* `spawnAll_of_some` — a launch that fails ends what it has started.
* `shutdown_result` — whose processes a shutdown complains about.
* `processes_accounted` — the theorem.
-/

namespace ClusterControl
namespace Crew

variable {host : ProcessHost} {c : Crew} {config : NodeConfig} {configs : List NodeConfig}
  {name : String} {n : Nat}

/-! ## Starting processes -/

/-- The crew after an attempt to start a process has failed. -/
def tried (c : Crew) : Crew :=
  { c with attempts := c.attempts + 1 }

/-- The crew after the process of a node has been started. -/
def started (c : Crew) (config : NodeConfig) : Crew :=
  { c.tried with
    running := c.running.insert config.name c.attempts
    spawned := c.spawned ++ [(config.name, c.attempts)] }

theorem spawn_of_none (h : host.spawnFault c.attempts config = none) :
    c.spawn host config = (.ok (), c.started config) := by
  simp only [spawn, h]
  rfl

theorem spawn_of_some {e : Failure} (h : host.spawnFault c.attempts config = some e) :
    c.spawn host config = (.error e, c.tried) := by
  simp only [spawn, h]
  rfl

/-- The names of nodes with the numbers of the attempts to start them, from some number on. -/
def numbered (configs : List NodeConfig) (first : Nat) : List (String × Nat) :=
  (configs.zipIdx first).map fun p => (p.1.name, p.2)

theorem spawned_foldl_started (configs : List NodeConfig) (c : Crew) :
    (configs.foldl started c).spawned = c.spawned ++ numbered configs c.attempts := by
  induction configs generalizing c with
  | nil => exact (List.append_nil _).symm
  | cons config rest ih =>
    rw [List.foldl_cons, ih]
    exact List.append_assoc c.spawned [(config.name, c.attempts)] (numbered rest (c.attempts + 1))

theorem dismissed_foldl_started (configs : List NodeConfig) (c : Crew) :
    (configs.foldl started c).dismissed = c.dismissed := by
  induction configs generalizing c with
  | nil => rfl
  | cons config rest ih => exact ih (c.started config)

/-- A launch that can start all processes starts all of them. -/
theorem spawnAll_of_none
    (h : ∀ k config, configs[k]? = some config → host.spawnFault (c.attempts + k) config = none) :
    spawnAll host configs c = (.ok (), configs.foldl started c) := by
  induction configs generalizing c with
  | nil => rfl
  | cons config rest ih =>
    have first : host.spawnFault c.attempts config = none := h 0 config rfl
    have others : ∀ k other, rest[k]? = some other →
        host.spawnFault ((c.started config).attempts + k) other = none := by
      intro k other hk
      have later := h (k + 1) other hk
      rwa [show c.attempts + (k + 1) = (c.started config).attempts + k by
        show _ = c.attempts + 1 + k
        omega] at later
    rw [spawnAll, spawn_of_none first]
    exact ih others

/-- A launch that cannot start a process says why, and ends those that it has started. -/
theorem spawnAll_of_some {before rest : List NodeConfig} {e : Failure}
    (hbefore : ∀ k other, before[k]? = some other →
      host.spawnFault (c.attempts + k) other = none)
    (h : host.spawnFault (c.attempts + before.length) config = some e) :
    spawnAll host (before ++ config :: rest) c =
      (.error e, ((before.foldl started c).tried.shutdown host).2) := by
  induction before generalizing c with
  | nil =>
    rw [List.nil_append, spawnAll, spawn_of_some h]
    rfl
  | cons first before ih =>
    have now : host.spawnFault c.attempts first = none := hbefore 0 first rfl
    have shift (k : Nat) : c.attempts + (k + 1) = (c.started first).attempts + k := by
      show _ = c.attempts + 1 + k
      omega
    rw [List.cons_append, spawnAll, spawn_of_none now]
    refine ih (fun k other hk => ?_) ?_
    · have later := hbefore (k + 1) other hk
      rwa [shift] at later
    · rwa [List.length_cons, shift] at h

/-! ## The books of a crew -/

/-- The processes that run and those that were handed over to be ended are together those that were
started, each of which has a number of its own. -/
structure Accounted (c : Crew) : Prop where
  sorted : c.running.Sorted
  divided : (c.running.entries ++ c.dismissed).Perm c.spawned
  numbers_nodup : (c.spawned.map Prod.snd).Nodup
  numbers_lt : ∀ p ∈ c.spawned, p.2 < c.attempts

theorem accounted_empty : Accounted {} :=
  ⟨List.Pairwise.nil, .refl _, List.nodup_nil, fun _ hp => absurd hp List.not_mem_nil⟩

theorem Accounted.tried (h : Accounted c) : Accounted c.tried :=
  { h with numbers_lt := fun p hp => Nat.lt_succ_of_lt (h.numbers_lt p hp) }

/-- A process that is started under a name that is free stands beside the others. -/
theorem Accounted.started (h : Accounted c) (free : config.name ∉ c.running.names) :
    Accounted (c.started config) where
  sorted := Table.sorted_insert h.sorted config.name c.attempts
  divided := by
    have put : (c.running.insert config.name c.attempts).entries.Perm
        ((config.name, c.attempts) :: c.running.entries) := Table.perm_insertEntry free
    calc (c.running.insert config.name c.attempts).entries ++ c.dismissed
        |>.Perm ((config.name, c.attempts) :: (c.running.entries ++ c.dismissed)) :=
          put.append_right c.dismissed
      _ |>.Perm ((config.name, c.attempts) :: c.spawned) := h.divided.cons _
      _ |>.Perm (c.spawned ++ [(config.name, c.attempts)]) :=
          (List.perm_append_singleton _ _).symm
  numbers_nodup := by
    have unused : c.attempts ∉ c.spawned.map Prod.snd := by
      intro hmem
      obtain ⟨p, hp, heq⟩ := List.mem_map.mp hmem
      have := h.numbers_lt p hp
      omega
    show ((c.spawned ++ [(config.name, c.attempts)]).map Prod.snd).Nodup
    rw [List.map_append, List.map_singleton]
    exact h.numbers_nodup.append (List.nodup_singleton _) (by simpa using unused)
  numbers_lt := by
    intro p hp
    show p.2 < c.attempts + 1
    rcases List.mem_append.mp hp with hp | hp
    · exact Nat.lt_succ_of_lt (h.numbers_lt p hp)
    · rw [List.mem_singleton.mp hp]
      exact Nat.lt_succ_self c.attempts

theorem Accounted.spawn (h : Accounted c) (free : config.name ∉ c.running.names) :
    Accounted (c.spawn host config).2 := by
  cases hfault : host.spawnFault c.attempts config with
  | none =>
    rw [spawn_of_none hfault]
    exact h.started free
  | some e =>
    rw [spawn_of_some hfault]
    exact h.tried

theorem Accounted.shutdown (h : Accounted c) (host : ProcessHost) :
    Accounted (c.shutdown host).2 where
  sorted := List.Pairwise.nil
  divided := by
    have swapped : (c.dismissed ++ c.running.entries).Perm (c.running.entries ++ c.dismissed) :=
      List.perm_append_comm
    exact swapped.trans h.divided
  numbers_nodup := h.numbers_nodup
  numbers_lt := h.numbers_lt

theorem Accounted.removeNode (h : Accounted c) : Accounted (c.removeNode host name).2 := by
  unfold Crew.removeNode
  split
  · exact h
  · next n hn =>
    have taken := Table.perm_erase h.sorted hn
    refine { h with sorted := Table.sorted_erase h.sorted name, divided := ?_ }
    calc (c.running.erase name).entries ++ (c.dismissed ++ [(name, n)])
        |>.Perm (((name, n) :: (c.running.erase name).entries) ++ c.dismissed) := by
          rw [← List.append_assoc]
          exact List.perm_append_singleton _ _
      _ |>.Perm (c.running.entries ++ c.dismissed) := taken.symm.append_right c.dismissed
      _ |>.Perm c.spawned := h.divided

theorem Accounted.addNode (h : Accounted c) : Accounted (c.addNode host config).2 := by
  unfold Crew.addNode
  split
  · exact h
  · next hfree => exact h.spawn (mt (Table.contains_iff_mem_names _ _).mpr hfree)

/-- Whatever is done to a crew keeps it accounted. -/
theorem accounted_perform (h : Accounted c) (t : Task) : Accounted (c.perform host t).2 := by
  cases t with
  | add config => exact h.addNode
  | remove name => exact h.removeNode
  | shutdown => exact h.shutdown host

theorem accounted_run (h : Accounted c) (tasks : List Task) : Accounted (c.run host tasks) := by
  induction tasks generalizing c with
  | nil => exact h
  | cons t tasks ih => exact ih (accounted_perform h t)

/-- A launch of nodes with names of their own ends accounted, however it ends. -/
theorem accounted_spawnAll (h : Accounted c) (distinct : (configs.map NodeConfig.name).Nodup)
    (free : ∀ config ∈ configs, config.name ∉ c.running.names) :
    Accounted (spawnAll host configs c).2 := by
  induction configs generalizing c with
  | nil => exact h
  | cons config rest ih =>
    obtain ⟨hfirst, hrest⟩ := List.nodup_cons.mp distinct
    have here := free config List.mem_cons_self
    rw [spawnAll]
    cases hfault : host.spawnFault c.attempts config with
    | some e =>
      rw [spawn_of_some hfault]
      exact h.tried.shutdown host
    | none =>
      rw [spawn_of_none hfault]
      refine ih (h.started here) hrest fun other hother => ?_
      have later := free other (List.mem_cons_of_mem config hother)
      show other.name ∉ (c.running.insert config.name c.attempts).names
      rw [Table.mem_names_insert]
      rintro (heq | hmem)
      · exact hfirst (heq ▸ List.mem_map_of_mem hother)
      · exact later hmem

theorem accounted_launch (distinct : (configs.map NodeConfig.name).Nodup) :
    Accounted (launch host configs).2 :=
  accounted_spawnAll accounted_empty distinct fun _ _ => List.not_mem_nil

/-! ## The place of a process -/

/-- How often a process was handed over to be ended. -/
def timesDismissed (c : Crew) (n : Nat) : Nat :=
  (c.dismissed.map Prod.snd).count n

/-- Each process is the one entry under the name of its node, or it was handed over to be ended,
once. -/
structure Placed (c : Crew) : Prop where
  place : ∀ name n, (name, n) ∈ c.spawned →
    (c.running.get? name = some n ∧ (∀ other, c.running.get? other = some n → other = name) ∧
      c.timesDismissed n = 0) ∨
    ((∀ other, c.running.get? other ≠ some n) ∧ c.timesDismissed n = 1)
  -- and there is nothing else that runs or was handed over
  running : ∀ name n, c.running.get? name = some n → (name, n) ∈ c.spawned
  dismissed : ∀ p ∈ c.dismissed, p ∈ c.spawned

/-- A number belongs to one process only. -/
theorem Accounted.name_eq (h : Accounted c) {other : String} (hn : (name, n) ∈ c.spawned)
    (hother : (other, n) ∈ c.spawned) : other = name := by
  have pair := List.inj_on_of_nodup_map h.numbers_nodup hother hn rfl
  exact congrArg Prod.fst pair

theorem Accounted.mem_spawned_of_get? (h : Accounted c) (hn : c.running.get? name = some n) :
    (name, n) ∈ c.spawned :=
  h.divided.mem_iff.mp (List.mem_append_left _ (Table.mem_entries_of_get? hn))

/-- A process is in one of its two places, and there it is once. -/
theorem Accounted.count_eq_one (h : Accounted c) (hn : (name, n) ∈ c.spawned) :
    (c.running.entries.map Prod.snd).count n + c.timesDismissed n = 1 := by
  have once : (c.spawned.map Prod.snd).count n = 1 :=
    List.count_eq_one_of_mem h.numbers_nodup (List.mem_map_of_mem hn)
  rw [← once, timesDismissed, ← List.count_append, ← List.map_append]
  exact (h.divided.map Prod.snd).count_eq n

theorem Accounted.placed (h : Accounted c) : Placed c where
  place name n hn := by
    have total := h.count_eq_one hn
    by_cases hrun : n ∈ c.running.entries.map Prod.snd
    · left
      have counted := List.count_pos_iff.mpr hrun
      obtain ⟨⟨owner, m⟩, hmem, rfl⟩ := List.mem_map.mp hrun
      have hget := Table.get?_of_mem_entries h.sorted hmem
      obtain rfl := h.name_eq hn (h.mem_spawned_of_get? hget)
      refine ⟨hget, fun other hother => h.name_eq hn (h.mem_spawned_of_get? hother), ?_⟩
      omega
    · right
      have none := List.count_eq_zero.mpr hrun
      refine ⟨fun other hother => hrun ?_, by omega⟩
      exact List.mem_map_of_mem (f := Prod.snd) (Table.mem_entries_of_get? hother)
  running _ _ hn := h.mem_spawned_of_get? hn
  dismissed p hp := h.divided.mem_iff.mp (List.mem_append_right _ hp)

/-! ## Shutting down -/

/-- The nodes whose processes cannot be ended, and why. -/
def failing (host : ProcessHost) (c : Crew) : List (String × Failure) :=
  c.running.entries.filterMap fun p => (host.endFault p.2).map fun e => (p.1, e)

theorem mem_failing (h : Accounted c) {e : Failure} :
    (name, e) ∈ c.failing host ↔ ∃ n, c.running.get? name = some n ∧ host.endFault n = some e := by
  simp only [failing, List.mem_filterMap, Option.map_eq_some_iff, Prod.mk.injEq, Prod.exists]
  constructor
  · rintro ⟨owner, n, hmem, e', he, rfl, rfl⟩
    exact ⟨n, Table.get?_of_mem_entries h.sorted hmem, he⟩
  · rintro ⟨n, hn, he⟩
    exact ⟨name, n, Table.mem_entries_of_get? hn, e, he, rfl, rfl⟩

/-- They come in the order of their names. -/
theorem sorted_failing (h : Accounted c) :
    (c.failing host).Pairwise fun p q => p.1 < q.1 := by
  refine (List.pairwise_map.mp h.sorted).filterMap _ fun p q hpq p' hp' q' hq' => ?_
  obtain ⟨e, -, rfl⟩ := Option.map_eq_some_iff.mp hp'
  obtain ⟨e', -, rfl⟩ := Option.map_eq_some_iff.mp hq'
  exact hpq

theorem complaints_eq (host : ProcessHost) (c : Crew) :
    complaints host c.running.entries =
      (c.failing host).map fun p => p.1 ++ ": " ++ p.2.message := by
  rw [failing, List.map_filterMap]
  simp only [complaints, Option.map_map]
  rfl

/-- A shutdown complains about those and no others. -/
theorem shutdown_result (host : ProcessHost) (c : Crew) : (c.shutdown host).1 =
    if c.failing host = [] then .ok ()
    else .error (.shutdown
      ("; ".intercalate ((c.failing host).map fun p => p.1 ++ ": " ++ p.2.message))) := by
  simp only [shutdown, complaints_eq, List.isEmpty_iff, List.map_eq_nil_iff]

/-- After a shutdown there is nothing left to be shut down. -/
theorem shutdown_of_empty (h : c.running = {}) : c.shutdown host = (.ok (), c) := by
  obtain ⟨running, attempts, spawned, dismissed⟩ := c
  obtain rfl : running = {} := h
  exact congrArg (Prod.mk _) (congrArg (Crew.mk _ _ _) (List.append_nil _))

/-! ## The theorem -/

/-- What holds of a crew that was launched for these nodes, whatever was done to it then. -/
structure Account (host : ProcessHost) (configs : List NodeConfig) : Prop where
  placed : ∀ tasks, Placed ((launch host configs).2.run host tasks)
  -- a launch that can start all processes does so
  launched : (∀ k config, configs[k]? = some config → host.spawnFault k config = none) →
    (launch host configs).1 = .ok () ∧
    (launch host configs).2.spawned = numbered configs 0 ∧
    (launch host configs).2.dismissed = []
  -- a launch that fails to start one says why, and ends those before it
  failed : ∀ before config rest e, configs = before ++ config :: rest →
    (∀ k other, before[k]? = some other → host.spawnFault k other = none) →
    host.spawnFault before.length config = some e →
    (launch host configs).1 = .error e ∧
    (launch host configs).2.spawned = numbered before 0 ∧
    (launch host configs).2.running = {} ∧
    (launch host configs).2.dismissed.Perm (numbered before 0)
  -- under a name that is taken no process is started
  refused : ∀ tasks config n, ((launch host configs).2.run host tasks).running.get? config.name =
      some n →
    ((launch host configs).2.run host tasks).addNode host config =
      (.error (.launch ("node " ++ config.name ++ " is already running")),
        (launch host configs).2.run host tasks)
  -- a shutdown hands every process over, whatever comes of that, and complains about those that
  -- could not be ended, in the order of their names
  shutdown : ∀ tasks c, (launch host configs).2.run host tasks = c →
    (c.shutdown host).2.running = {} ∧
    (c.shutdown host).2.dismissed = c.dismissed ++ c.running.entries ∧
    ∃ failing : List (String × Failure),
      (∀ name e, (name, e) ∈ failing ↔
        ∃ n, c.running.get? name = some n ∧ host.endFault n = some e) ∧
      (failing.Pairwise fun p q => p.1 < q.1) ∧
      (c.shutdown host).1 =
        if failing = [] then .ok ()
        else .error (.shutdown
          ("; ".intercalate (failing.map fun p => p.1 ++ ": " ++ p.2.message)))
  -- and another one does nothing
  again : ∀ tasks c, (launch host configs).2.run host tasks = c →
    (c.shutdown host).2.shutdown host = (.ok (), (c.shutdown host).2)

/-- **No process is lost**: for nodes with names of their own, whichever attempts to start or to end
a process fail, each process runs under the name of its node or was handed over to be ended,
once. -/
theorem processes_accounted (host : ProcessHost) (configs : List NodeConfig)
    (distinct : (configs.map NodeConfig.name).Nodup) : Account host configs where
  placed tasks := (accounted_run (accounted_launch distinct) tasks).placed
  launched h := by
    have all : launch host configs = (.ok (), configs.foldl Crew.started {}) :=
      spawnAll_of_none fun k config hk => by simpa using h k config hk
    rw [all, spawned_foldl_started, dismissed_foldl_started]
    exact ⟨rfl, rfl, rfl⟩
  failed before config rest e heq hbefore he := by
    have books : Accounted (launch host configs).2 := accounted_launch distinct
    have stopped : launch host configs =
        (.error e, ((before.foldl Crew.started {}).tried.shutdown host).2) := by
      rw [heq]
      refine spawnAll_of_some (fun k other hk => ?_) ?_
      · simpa using hbefore k other hk
      · simpa using he
    rw [stopped] at books ⊢
    have spawned : (before.foldl Crew.started {}).spawned = numbered before 0 :=
      spawned_foldl_started before {}
    exact ⟨rfl, spawned, rfl, spawned ▸ books.divided⟩
  refused tasks config n hn := by
    have taken : ((launch host configs).2.run host tasks).running.contains config.name = true := by
      rw [Table.contains, hn]
      rfl
    rw [addNode, if_pos taken]
  shutdown := by
    rintro tasks c rfl
    have books : Accounted ((launch host configs).2.run host tasks) :=
      accounted_run (accounted_launch distinct) tasks
    exact ⟨rfl, rfl, _, fun _ _ => mem_failing books, sorted_failing books, shutdown_result host _⟩
  again _ _ _ := shutdown_of_empty rfl

/-- Three nodes. -/
def trio : List NodeConfig :=
  ["node1", "node2", "node3"].map fun name => { (default : NodeConfig) with name := name }

/-- The process of the second node cannot be ended, and no fourth process can be started. -/
def faultyHost : ProcessHost where
  spawnFault n _ := if n = 3 then some (.launch "no more processes") else none
  parting n := if n = 1 then { gone := .error (.system 10) } else {}

/-- Three nodes on such a host. -/
theorem trio_accounted : (trio.map NodeConfig.name).Nodup ∧ Account faultyHost trio :=
  ⟨by decide, processes_accounted faultyHost trio (by decide)⟩

/-- They are all handed over, although one of them cannot be ended. -/
example : ((launch faultyHost trio).2.shutdown faultyHost).1 =
      .error (.shutdown "node2: IO error: No child processes (os error 10)") ∧
    ((launch faultyHost trio).2.shutdown faultyHost).2.dismissed =
      [("node1", 0), ("node2", 1), ("node3", 2)] := by
  decide

end Crew
end ClusterControl
