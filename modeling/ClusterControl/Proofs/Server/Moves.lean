import ClusterControl.Proofs.Cluster.Moves
import ClusterControl.Server.Run

/-!
# Moves of a server

A call that goes on may do several things in one event: a stop, for instance, calls upon the cluster
in the slot, learns that it is stopped already, and empties the slot.  As the events of a cluster are
cut into moves, this module cuts those of a server.  Whatever a worker of a cluster does is a move of
the server, one for each move of the cluster.

* `startup?`, `cluster?_onCluster`, `startup?_setStartup` — what is to be seen of a tenancy, and what
  the operations of a server do to it.
* `Move` — the moves of a server, each under the event that it belongs to.
* `step_moves` — every event is a row of its moves.
* `step_preserves`, `run_preserves` — what every move preserves holds after every run.
* `throughout`, `run_preserves_tested` — the same for runs in which callers go away only when a test
  admits it.
-/

namespace ClusterControl
namespace Server

variable {s : Server} {g n : Nat}

/-! ## Tenancies -/

/-- How far the task is that sees the start of a cluster through. -/
def startup? (s : Server) (g : Nat) : Option StartupPhase :=
  (s.tenancies[g]?).map Tenancy.startup

theorem cluster?_eq_none_iff (s : Server) (g : Nat) :
    s.cluster? g = none ↔ s.tenancies.length ≤ g := by
  simp [cluster?]

theorem lt_length_of_cluster? {c : Cluster} (hc : s.cluster? g = some c) :
    g < s.tenancies.length := by
  by_contra hge
  have gone := (cluster?_eq_none_iff s g).mpr (by omega)
  simp [hc] at gone

theorem startup?_eq_none_iff (s : Server) (g : Nat) :
    s.startup? g = none ↔ s.tenancies.length ≤ g := by
  simp [startup?]

/-- A cluster is there exactly if the task beside it is. -/
theorem startup?_isSome (s : Server) (g : Nat) :
    (s.startup? g).isSome = (s.cluster? g).isSome := by
  unfold startup? cluster?
  cases s.tenancies[g]? <;> rfl

@[simp] theorem cluster?_onCluster (s : Server) (g k : Nat) (f : Cluster → Cluster) :
    (s.onCluster g f).cluster? k = if k = g then (s.cluster? g).map f else s.cluster? k := by
  simp only [cluster?, onCluster, List.getElem?_modify]
  by_cases h : k = g
  · subst h
    cases s.tenancies[k]? <;> simp
  · rw [if_neg h]
    cases s.tenancies[k]? <;> simp [Ne.symm h]

@[simp] theorem startup?_onCluster (s : Server) (g k : Nat) (f : Cluster → Cluster) :
    (s.onCluster g f).startup? k = s.startup? k := by
  simp only [startup?, onCluster, List.getElem?_modify]
  by_cases h : g = k
  · cases s.tenancies[k]? <;> simp [h]
  · cases s.tenancies[k]? <;> simp [h]

@[simp] theorem cluster?_setStartup (s : Server) (g k : Nat) (phase : StartupPhase) :
    (s.setStartup g phase).cluster? k = s.cluster? k := by
  simp only [cluster?, setStartup, List.getElem?_modify]
  by_cases h : g = k
  · cases s.tenancies[k]? <;> simp [h]
  · cases s.tenancies[k]? <;> simp [h]

@[simp] theorem startup?_setStartup (s : Server) (g k : Nat) (phase : StartupPhase) :
    (s.setStartup g phase).startup? k =
      if k = g then (s.startup? g).map fun _ => phase else s.startup? k := by
  simp only [startup?, setStartup, List.getElem?_modify]
  by_cases h : k = g
  · subst h
    cases s.tenancies[k]? <;> simp
  · rw [if_neg h]
    cases s.tenancies[k]? <;> simp [Ne.symm h]

@[simp] theorem slot_release (s : Server) (g : Nat) :
    (s.release g).slot = if s.slot = some g then none else s.slot := by
  unfold release
  split <;> rfl

@[simp] theorem calls_release (s : Server) (g : Nat) : (s.release g).calls = s.calls := by
  unfold release
  split <;> rfl

@[simp] theorem tenancies_release (s : Server) (g : Nat) :
    (s.release g).tenancies = s.tenancies := by
  unfold release
  split <;> rfl

@[simp] theorem cluster?_release (s : Server) (g k : Nat) :
    (s.release g).cluster? k = s.cluster? k := by
  simp only [cluster?, tenancies_release]

@[simp] theorem startup?_release (s : Server) (g k : Nat) :
    (s.release g).startup? k = s.startup? k := by
  simp only [startup?, tenancies_release]

@[simp] theorem cluster?_setCall (s : Server) (n k : Nat) (phase : ServerPhase) :
    (s.setCall n phase).cluster? k = s.cluster? k := rfl

@[simp] theorem startup?_setCall (s : Server) (n k : Nat) (phase : ServerPhase) :
    (s.setCall n phase).startup? k = s.startup? k := rfl

/-- A caller that goes away drops the call that was made on a cluster for it. -/
theorem cluster?_leave (s : Server) (n k : Nat) :
    (s.leave n).cluster? k =
      if s.calls.get? n = some (.stopping k) ∨ s.calls.get? n = some (.mutating k) then
        (s.cluster? k).map (·.leave (inner n))
      else s.cluster? k := by
  have erased : ∀ (s : Server) (calls : Roster ServerPhase),
      ({ s with calls := calls } : Server).cluster? k = s.cluster? k := fun _ _ => rfl
  simp only [leave, erased]
  split
  · next g hg =>
    by_cases hk : k = g
    · simp [hk, hg]
    · simp [hk, hg, Ne.symm hk]
  · next g hg =>
    by_cases hk : k = g
    · simp [hk, hg]
    · simp [hk, hg, Ne.symm hk]
  · next hstop hmutate =>
    rw [if_neg (by rintro (h | h); exacts [hstop k h, hmutate k h])]

@[simp] theorem startup?_leave (s : Server) (n k : Nat) :
    (s.leave n).startup? k = s.startup? k := by
  have erased : ∀ (s : Server) (calls : Roster ServerPhase),
      ({ s with calls := calls } : Server).startup? k = s.startup? k := fun _ _ => rfl
  simp only [leave, erased]
  split <;> simp

@[simp] theorem slot_leave (s : Server) (n : Nat) : (s.leave n).slot = s.slot := by
  unfold leave
  simp only
  split <;> rfl

@[simp] theorem calls_leave (s : Server) (n : Nat) : (s.leave n).calls = s.calls.erase n := by
  unfold leave
  simp only
  split <;> rfl

@[simp] theorem cluster?_elapse (s : Server) (ms k : Nat) :
    (s.elapse ms).cluster? k = (s.cluster? k).map (·.step (.elapse ms)) := by
  simp only [cluster?, elapse, List.getElem?_map, Option.map_map]
  rfl

@[simp] theorem startup?_elapse (s : Server) (ms k : Nat) :
    (s.elapse ms).startup? k = s.startup? k := by
  simp only [startup?, elapse, List.getElem?_map, Option.map_map]
  rfl

/-- Of two changes of a cluster each is made. -/
theorem onCluster_onCluster (s : Server) (g : Nat) (first second : Cluster → Cluster) :
    (s.onCluster g first).onCluster g second = s.onCluster g (second ∘ first) := by
  simp only [onCluster, List.modify_modify_eq]
  rfl

/-- Of two phases into which a task is put the later one counts. -/
theorem setStartup_setStartup (s : Server) (g : Nat) (first second : StartupPhase) :
    (s.setStartup g first).setStartup g second = s.setStartup g second := by
  simp only [setStartup, List.modify_modify_eq]
  rfl

theorem onCluster_setStartup (s : Server) (g : Nat) (phase : StartupPhase)
    (f : Cluster → Cluster) :
    (s.setStartup g phase).onCluster g f = (s.onCluster g f).setStartup g phase := by
  simp only [onCluster, setStartup, List.modify_modify_eq]
  rfl

theorem release_setStartup (s : Server) (g k : Nat) (phase : StartupPhase) :
    (s.setStartup g phase).release k = (s.release k).setStartup g phase := by
  unfold release setStartup
  split <;> rfl

/-- Changes of a cluster that come to the same for the cluster that it is come to the same. -/
theorem onCluster_congr {first second : Cluster → Cluster}
    (h : (s.cluster? g).map first = (s.cluster? g).map second) :
    s.onCluster g first = s.onCluster g second := by
  have same : s.tenancies.modify g (fun t => { t with cluster := first t.cluster }) =
      s.tenancies.modify g (fun t => { t with cluster := second t.cluster }) := by
    refine List.ext_getElem? fun k => ?_
    simp only [List.getElem?_modify]
    by_cases hk : g = k
    · subst hk
      unfold cluster? at h
      cases ht : s.tenancies[g]? with
      | none => rfl
      | some t => simpa [ht] using h
    · simp [hk]
  unfold onCluster
  rw [same]

/-- Putting a task into the phase that it is in changes nothing. -/
theorem setStartup_eq_self {phase : StartupPhase} (h : s.startup? g = some phase) :
    s.setStartup g phase = s := by
  have same : s.tenancies.modify g (fun t => { t with startup := phase }) = s.tenancies := by
    refine List.ext_getElem? fun k => ?_
    rw [List.getElem?_modify]
    by_cases hk : g = k
    · subst hk
      unfold startup? at h
      cases ht : s.tenancies[g]? with
      | none => simp [ht] at h
      | some t =>
        obtain rfl : t.startup = phase := by simpa [ht] using h
        simp
    · simp [hk]
  unfold setStartup
  rw [same]

theorem setCall_eq_self {phase : ServerPhase} (h : s.calls.get? n = some phase) :
    s.setCall n phase = s := by
  unfold setCall
  rw [Roster.set_eq_self h]

/-! ## Moves -/

/-- An event in which a task or a call goes on. -/
def Event.isPoll : Event → Bool
  | .pollCall _ => true
  | .pollStartup _ => true
  | .pollWorker _ _ => true
  | _ => false

/-- The last snapshot to be kept, after a stop has come out in this way. -/
def keepLast (last : Option Snapshot) : Outcome Snapshot → Option Snapshot
  | .ok snapshot => some snapshot
  | .error _ => last

/-- What a stop returns that finds no cluster. -/
def remembered : Option Snapshot → Outcome Snapshot
  | some snapshot => .ok snapshot
  | none => .error noCluster

/-- The server with a new cluster in its slot. -/
def withCluster (s : Server) (c : Cluster) : Server :=
  { s with
    tenancies := s.tenancies ++ [{ cluster := { c with now := s.now }.start }]
    slot := some s.tenancies.length }

@[simp] theorem cluster?_withCluster (s : Server) (c : Cluster) (k : Nat) :
    (s.withCluster c).cluster? k =
      if k = s.tenancies.length then some { c with now := s.now }.start else s.cluster? k := by
  unfold withCluster cluster?
  by_cases h : k = s.tenancies.length
  · simp [h]
  · rw [if_neg h]
    rcases Nat.lt_or_gt_of_ne h with hlt | hgt
    · rw [List.getElem?_append_left hlt]
    · rw [List.getElem?_eq_none (by simp; omega), List.getElem?_eq_none (by omega)]

@[simp] theorem startup?_withCluster (s : Server) (c : Cluster) (k : Nat) :
    (s.withCluster c).startup? k =
      if k = s.tenancies.length then some .spawned else s.startup? k := by
  unfold withCluster startup?
  by_cases h : k = s.tenancies.length
  · simp [h]
  · rw [if_neg h]
    rcases Nat.lt_or_gt_of_ne h with hlt | hgt
    · rw [List.getElem?_append_left hlt]
    · rw [List.getElem?_eq_none (by simp; omega), List.getElem?_eq_none (by omega)]

/-- One move of a server, under the event that it belongs to. -/
inductive Move (s : Server) : Event → Server → Prop
  | arrives {n : Nat} {call : ServerCall} (h : s.calls.get? n = none) :
      Move s (.call n call) (s.setCall n (.fresh call))
  | leaves (n : Nat) : Move s (.leave n) (s.leave n)
  | elapses (ms : Nat) : Move s (.elapse ms) (s.elapse ms)
  | answered {g : Nat} {w : Worker} {reply : Reply} {c d : Cluster} (hc : s.cluster? g = some c)
      (h : Cluster.Move c (.answer w reply) d) :
      Move s (.answer g w reply) (s.onCluster g fun _ => d)
  -- A worker of a cluster goes on, perhaps on behalf of a task or of a call of the server
  | works {e : Event} {g : Nat} {w : Worker} {c d : Cluster} (he : e.isPoll = true)
      (hc : s.cluster? g = some c) (h : Cluster.Move c (.poll w) d) :
      Move s e (s.onCluster g fun _ => d)
  | asksReady {g : Nat} (h : s.startup? g = some .spawned) :
      Move s (.pollStartup g) ((s.onCluster g (·.call 0 .waitReady)).setStartup g .awaitingReady)
  | seesReady {g : Nat} {c : Cluster} {snapshot : Snapshot} (h : s.startup? g = some .awaitingReady)
      (hc : s.cluster? g = some c) (hr : c.result? 0 = some (.ok snapshot)) :
      Move s (.pollStartup g) (s.setStartup g (.ended (.ok snapshot)))
  | seesFailure {g : Nat} {c : Cluster} {cause : Failure} (h : s.startup? g = some .awaitingReady)
      (hc : s.cluster? g = some c) (hr : c.result? 0 = some (.error cause)) :
      Move s (.pollStartup g) ((s.onCluster g (·.call 1 .stop)).setStartup g (.awaitingStop cause))
  | tearsDown {g : Nat} {c : Cluster} {cause : Failure} {result : Outcome Snapshot}
      (h : s.startup? g = some (.awaitingStop cause)) (hc : s.cluster? g = some c)
      (hr : c.result? 1 = some result) :
      Move s (.pollStartup g) ((s.release g).setStartup g (.ended (.error cause)))
  | refused {n : Nat} {params : StartParams} (h : s.calls.get? n = some (.fresh (.start params)))
      (hs : s.slot.isSome = true) :
      Move s (.pollCall n) (s.setCall n (.returned (.error .alreadyExists)))
  | rejected {n : Nat} {params : StartParams} {e : Failure}
      (h : s.calls.get? n = some (.fresh (.start params))) (hs : s.slot = none)
      (hp : Cluster.plan s.options params s.pid s.obstacle = .error e) :
      Move s (.pollCall n) (s.setCall n (.returned (.error e)))
  | claims {n : Nat} {params : StartParams} {c : Cluster}
      (h : s.calls.get? n = some (.fresh (.start params))) (hs : s.slot = none)
      (hp : Cluster.plan s.options params s.pid s.obstacle = .ok c) :
      Move s (.pollCall n) ((s.withCluster c).setCall n (.starting s.tenancies.length))
  | reports {n g : Nat} {result : Outcome Snapshot} (h : s.calls.get? n = some (.starting g))
      (hr : s.startup? g = some (.ended result)) :
      Move s (.pollCall n) (s.setCall n (.returned result))
  | asksStop {n g : Nat} (h : s.calls.get? n = some (.fresh .stop)) (hs : s.slot = some g) :
      Move s (.pollCall n) ((s.onCluster g (·.call (inner n) .stop)).setCall n (.stopping g))
  | stops {n g : Nat} {c : Cluster} {result : Outcome Snapshot}
      (h : s.calls.get? n = some (.stopping g)) (hc : s.cluster? g = some c)
      (hr : c.result? (inner n) = some result) :
      Move s (.pollCall n)
        { ((s.onCluster g (·.leave (inner n))).release g).setCall n (.returned result) with
          lastStopped := keepLast s.lastStopped result }
  -- There is nothing to be stopped, and the last snapshot is handed out if there is one
  | recalls {n : Nat} (h : s.calls.get? n = some (.fresh .stop)) (hs : s.slot = none) :
      Move s (.pollCall n) (s.setCall n (.returned (remembered s.lastStopped)))
  | asksMutation {n g : Nat} {m : Mutation} (h : s.calls.get? n = some (.fresh (.mutate m)))
      (hs : s.slot = some g) :
      Move s (.pollCall n)
        ((s.onCluster g (·.call (inner n) (.mutate m))).setCall n (.mutating g))
  | mutates {n g : Nat} {c : Cluster} {result : Outcome Snapshot}
      (h : s.calls.get? n = some (.mutating g)) (hc : s.cluster? g = some c)
      (hr : c.result? (inner n) = some result) :
      Move s (.pollCall n)
        ((s.onCluster g (·.leave (inner n))).setCall n (.returned result))
  | lacks {n : Nat} {m : Mutation} (h : s.calls.get? n = some (.fresh (.mutate m)))
      (hs : s.slot = none) :
      Move s (.pollCall n) (s.setCall n (.returned (.error noCluster)))

abbrev Moves (e : Event) : Server → Server → Prop :=
  Relation.ReflTransGen fun s s' => Move s e s'

/-! ## Workers of clusters -/

/-- What moves on a cluster moves on the server. -/
theorem onCluster_moves {e : Event} {c d : Cluster} {ce : Cluster.Event}
    (lift : ∀ {s : Server} {c d : Cluster}, s.cluster? g = some c → Cluster.Move c ce d →
      Move s e (s.onCluster g fun _ => d))
    (hc : s.cluster? g = some c) (moves : Cluster.Moves ce c d) :
    Moves e s (s.onCluster g fun _ => d) := by
  induction moves with
  | refl =>
    have same : s.onCluster g (fun _ => c) = s.onCluster g id := onCluster_congr (by simp [hc])
    have unchanged : s.onCluster g id = s := by
      unfold onCluster
      rw [show (fun t : Tenancy => { t with cluster := id t.cluster }) = id from rfl,
        List.modify_id]
    rw [same, unchanged]
  | @tail mid d _ last ih =>
    have there : (s.onCluster g fun _ => mid).cluster? g = some mid := by simp [hc]
    have moved := lift there last
    rw [onCluster_onCluster] at moved
    exact ih.tail moved

/-- A worker of a cluster that goes on is a row of moves of the server. -/
theorem poll_moves (s : Server) (g : Nat) (w : Worker) {e : Event} (he : e.isPoll = true) :
    Moves e s (s.onCluster g (·.poll w)) := by
  cases hc : s.cluster? g with
  | none =>
    have unchanged : s.onCluster g (·.poll w) = s := by
      unfold onCluster
      rw [List.modify_eq_self ((cluster?_eq_none_iff s g).mp hc)]
    rw [unchanged]
  | some c =>
    have there : s.onCluster g (·.poll w) = s.onCluster g fun _ => c.poll w :=
      onCluster_congr (by simp [hc])
    rw [there]
    exact onCluster_moves (.works he) hc (Cluster.step_moves c (.poll w))

/-- An answer to an errand of a cluster is one move at most. -/
theorem answer_moves (s : Server) (g : Nat) (w : Worker) (reply : Reply) :
    Moves (.answer g w reply) s (s.onCluster g (·.answer w reply)) := by
  cases hc : s.cluster? g with
  | none =>
    have unchanged : s.onCluster g (·.answer w reply) = s := by
      unfold onCluster
      rw [List.modify_eq_self ((cluster?_eq_none_iff s g).mp hc)]
    rw [unchanged]
  | some c =>
    have there : s.onCluster g (·.answer w reply) = s.onCluster g fun _ => c.answer w reply :=
      onCluster_congr (by simp [hc])
    rw [there]
    exact onCluster_moves .answered hc (Cluster.step_moves c (.answer w reply))

/-! ## The task beside a cluster -/

theorem checkTeardown_setStartup (s : Server) (g : Nat) (phase : StartupPhase) (cause : Failure) :
    (s.setStartup g phase).checkTeardown g cause = s.checkTeardown g cause := by
  simp only [checkTeardown, onCluster_setStartup, cluster?_setStartup, release_setStartup,
    setStartup_setStartup]

theorem checkTeardown_moves {cause : Failure} (h : s.startup? g = some (.awaitingStop cause)) :
    Moves (.pollStartup g) s (s.checkTeardown g cause) := by
  have polled := poll_moves s g (.caller 1) (e := .pollStartup g) rfl
  have still : (s.onCluster g (·.poll (.caller 1))).startup? g = some (.awaitingStop cause) := by
    rw [startup?_onCluster, h]
  unfold checkTeardown
  generalize s.onCluster g (·.poll (.caller 1)) = s' at polled still ⊢
  simp only
  split
  · next result hr =>
    obtain ⟨c, hc, hresult⟩ := Option.bind_eq_some_iff.mp hr
    exact polled.tail (.tearsDown still hc hresult)
  · rw [setStartup_eq_self still]
    exact polled

theorem checkReady_setStartup (s : Server) (g : Nat) (phase : StartupPhase) :
    (s.setStartup g phase).checkReady g = s.checkReady g := by
  simp only [checkReady, onCluster_setStartup, cluster?_setStartup, checkTeardown_setStartup,
    setStartup_setStartup]

theorem checkReady_moves (h : s.startup? g = some .awaitingReady) :
    Moves (.pollStartup g) s (s.checkReady g) := by
  have polled := poll_moves s g (.caller 0) (e := .pollStartup g) rfl
  have still : (s.onCluster g (·.poll (.caller 0))).startup? g = some .awaitingReady := by
    rw [startup?_onCluster, h]
  unfold checkReady
  generalize s.onCluster g (·.poll (.caller 0)) = s' at polled still ⊢
  simp only
  split
  · next snapshot hr =>
    obtain ⟨c, hc, hresult⟩ := Option.bind_eq_some_iff.mp hr
    exact polled.tail (.seesReady still hc hresult)
  · next cause hr =>
    obtain ⟨c, hc, hresult⟩ := Option.bind_eq_some_iff.mp hr
    have seen := polled.tail (.seesFailure still hc hresult)
    have waits : ((s'.onCluster g (·.call 1 .stop)).setStartup g (.awaitingStop cause)).startup? g =
        some (.awaitingStop cause) := by
      simp [still]
    rw [← checkTeardown_setStartup _ g (.awaitingStop cause)]
    exact seen.trans (checkTeardown_moves waits)
  · rw [setStartup_eq_self still]
    exact polled

theorem pollStartup_moves (s : Server) (g : Nat) :
    Moves (.pollStartup g) s (s.pollStartup g) := by
  unfold pollStartup
  split
  · next h =>
    have asked : Moves (.pollStartup g) s
        ((s.onCluster g (·.call 0 .waitReady)).setStartup g .awaitingReady) :=
      .single (.asksReady h)
    have waits : ((s.onCluster g (·.call 0 .waitReady)).setStartup g .awaitingReady).startup? g =
        some .awaitingReady := by
      have spawned : s.startup? g = some .spawned := h
      simp [spawned]
    rw [← checkReady_setStartup _ g .awaitingReady]
    exact asked.trans (checkReady_moves waits)
  · next h => exact checkReady_moves h
  · next cause h => exact checkTeardown_moves h
  · exact .refl

/-! ## Calls -/

theorem checkStart_moves (h : s.calls.get? n = some (.starting g)) :
    Moves (.pollCall n) s (s.checkStart n g) := by
  unfold checkStart
  split
  · next result hr => exact .single (.reports h hr)
  · rw [setCall_eq_self h]

theorem checkStop_setCall (s : Server) (n g : Nat) (phase : ServerPhase) :
    (s.setCall n phase).checkStop n g = s.checkStop n g := by
  have released : ∀ (s : Server) (k : Nat), (s.setCall n phase).release k =
      (s.release k).setCall n phase := by
    intro s k
    unfold release setCall
    split <;> rfl
  have changed : ∀ f : Cluster → Cluster, (s.setCall n phase).onCluster g f =
      (s.onCluster g f).setCall n phase := fun _ => rfl
  have twice : ∀ (s : Server) (later : ServerPhase), (s.setCall n phase).setCall n later =
      s.setCall n later := by
    intro s later
    simp only [setCall, Roster.set_set]
  simp only [checkStop, changed, show ∀ (s : Server) (k : Nat),
    (s.setCall n phase).cluster? k = s.cluster? k from fun _ _ => rfl, twice]
  split
  · next result hr =>
    rw [show ((s.onCluster g (·.poll (.caller (inner n)))).setCall n phase).onCluster g
        (·.leave (inner n)) = ((s.onCluster g (·.poll (.caller (inner n)))).onCluster g
        (·.leave (inner n))).setCall n phase from rfl, released, twice]
  · rfl

theorem checkStop_moves (h : s.calls.get? n = some (.stopping g)) :
    Moves (.pollCall n) s (s.checkStop n g) := by
  have polled := poll_moves s g (.caller (inner n)) (e := .pollCall n) rfl
  have still : (s.onCluster g (·.poll (.caller (inner n)))).calls.get? n = some (.stopping g) := h
  unfold checkStop
  generalize s.onCluster g (·.poll (.caller (inner n))) = s' at polled still ⊢
  simp only
  split
  · next result hr =>
    obtain ⟨c, hc, hresult⟩ := Option.bind_eq_some_iff.mp hr
    have told := polled.tail (.stops still hc hresult)
    cases result with
    | ok snapshot => exact told
    | error e =>
      have kept : ∀ s : Server, (s.release g).lastStopped = s.lastStopped := by
        intro s
        unfold release
        split <;> rfl
      have same : (((s'.onCluster g (·.leave (inner n))).release g).setCall n
          (.returned (.error e))).lastStopped = s'.lastStopped := kept _
      simp only [keepLast, ← same] at told
      exact told
  · rw [setCall_eq_self still]
    exact polled

theorem checkMutation_setCall (s : Server) (n g : Nat) (phase : ServerPhase) :
    (s.setCall n phase).checkMutation n g = s.checkMutation n g := by
  have twice : ∀ (s : Server) (later : ServerPhase), (s.setCall n phase).setCall n later =
      s.setCall n later := by
    intro s later
    simp only [setCall, Roster.set_set]
  have changed : ∀ (s : Server) (f : Cluster → Cluster), (s.setCall n phase).onCluster g f =
      (s.onCluster g f).setCall n phase := fun _ _ => rfl
  have seen : ∀ (s : Server) (k : Nat), (s.setCall n phase).cluster? k = s.cluster? k :=
    fun _ _ => rfl
  simp only [checkMutation, changed, seen, twice]

theorem checkMutation_moves (h : s.calls.get? n = some (.mutating g)) :
    Moves (.pollCall n) s (s.checkMutation n g) := by
  have polled := poll_moves s g (.caller (inner n)) (e := .pollCall n) rfl
  have still : (s.onCluster g (·.poll (.caller (inner n)))).calls.get? n = some (.mutating g) := h
  unfold checkMutation
  generalize s.onCluster g (·.poll (.caller (inner n))) = s' at polled still ⊢
  simp only
  split
  · next result hr =>
    obtain ⟨c, hc, hresult⟩ := Option.bind_eq_some_iff.mp hr
    exact polled.tail (.mutates still hc hresult)
  · rw [setCall_eq_self still]
    exact polled

/-- A start puts a new cluster into an empty slot, if its parameters make one. -/
theorem claim_eq (s : Server) (params : StartParams) :
    s.claim params =
      if s.slot.isSome then .error .alreadyExists
      else (Cluster.plan s.options params s.pid s.obstacle).map fun c =>
        (s.tenancies.length, s.withCluster c) := by
  unfold claim
  split
  · rfl
  · cases Cluster.plan s.options params s.pid s.obstacle <;> rfl

/-- A start that finds a cluster in the slot is refused. -/
theorem beginCall_occupied (params : StartParams) (n : Nat) (hs : s.slot.isSome = true) :
    s.beginCall n (.start params) = s.setCall n (.returned (.error .alreadyExists)) := by
  simp only [beginCall, claim_eq, hs, if_true]

/-- A start whose parameters make no cluster leaves nothing behind. -/
theorem beginCall_unplanned {params : StartParams} {e : Failure} (n : Nat) (hs : s.slot = none)
    (hp : Cluster.plan s.options params s.pid s.obstacle = .error e) :
    s.beginCall n (.start params) = s.setCall n (.returned (.error e)) := by
  simp only [beginCall, claim_eq, hs, Option.isSome_none, Bool.false_eq_true, if_false, hp,
    Except.map]

/-- A start whose parameters make a cluster puts it into the empty slot, and waits for it. -/
theorem beginCall_planned {params : StartParams} {c : Cluster} (n : Nat) (hs : s.slot = none)
    (hp : Cluster.plan s.options params s.pid s.obstacle = .ok c) :
    s.beginCall n (.start params) =
      (s.withCluster c).setCall n (.starting s.tenancies.length) := by
  have spawned : (s.withCluster c).startup? s.tenancies.length = some .spawned := by simp
  unfold startup? at spawned
  simp only [beginCall, claim_eq, hs, Option.isSome_none, Bool.false_eq_true, if_false, hp,
    Except.map, checkStart, spawned]

theorem beginCall_moves {call : ServerCall} (h : s.calls.get? n = some (.fresh call)) :
    Moves (.pollCall n) s (s.beginCall n call) := by
  cases call with
  | start params =>
    by_cases hs : s.slot.isSome = true
    · rw [beginCall_occupied params n hs]
      exact .single (.refused h hs)
    · have empty : s.slot = none := by simpa using hs
      cases hp : Cluster.plan s.options params s.pid s.obstacle with
      | error e =>
        rw [beginCall_unplanned n empty hp]
        exact .single (.rejected h empty hp)
      | ok c =>
        rw [beginCall_planned n empty hp]
        exact .single (.claims h empty hp)
  | stop =>
    simp only [beginCall]
    cases hs : s.slot with
    | some g =>
      simp only
      rw [← checkStop_setCall _ n g (.stopping g)]
      exact (Relation.ReflTransGen.single (.asksStop h hs)).trans
        (checkStop_moves (Roster.get?_set_self ..))
    | none =>
      have recalled := Move.recalls h hs
      cases hl : s.lastStopped with
      | some snapshot =>
        rw [hl] at recalled
        exact .single recalled
      | none =>
        rw [hl] at recalled
        exact .single recalled
  | mutate m =>
    simp only [beginCall]
    cases hs : s.slot with
    | some g =>
      simp only
      rw [← checkMutation_setCall _ n g (.mutating g)]
      exact (Relation.ReflTransGen.single (.asksMutation h hs)).trans
        (checkMutation_moves (Roster.get?_set_self ..))
    | none => exact .single (.lacks h hs)

theorem pollCall_fresh {call : ServerCall} (h : s.calls.get? n = some (.fresh call)) :
    s.pollCall n = s.beginCall n call := by
  unfold pollCall
  simp only [h]

theorem pollCall_moves (s : Server) (n : Nat) : Moves (.pollCall n) s (s.pollCall n) := by
  unfold pollCall
  split
  · next call h => exact beginCall_moves h
  · next g h => exact checkStart_moves h
  · next g h => exact checkStop_moves h
  · next g h => exact checkMutation_moves h
  · exact .refl

/-! ## Events -/

theorem call_moves (s : Server) (n : Nat) (call : ServerCall) :
    Moves (.call n call) s (s.call n call) := by
  unfold Server.call
  split
  · exact .refl
  · next h => exact .single (.arrives h)

/-- Every event is a row of its moves. -/
theorem step_moves (s : Server) (e : Event) : Moves e s (s.step e) := by
  cases e with
  | call n call => exact call_moves s n call
  | leave n => exact .single (.leaves n)
  | pollCall n => exact pollCall_moves s n
  | pollStartup g => exact pollStartup_moves s g
  | pollWorker g w => exact poll_moves s g w rfl
  | answer g w reply => exact answer_moves s g w reply
  | elapse ms => exact .single (.elapses ms)

@[simp] theorem run_nil (s : Server) : s.run [] = s := rfl

@[simp] theorem run_cons (s : Server) (e : Event) (rest : List Event) :
    s.run (e :: rest) = (s.step e).run rest := rfl

theorem run_append (s : Server) (first second : List Event) :
    s.run (first ++ second) = (s.run first).run second :=
  List.foldl_append

/-- What every move under an event preserves, the event preserves. -/
theorem step_preserves {P : Server → Prop} {e : Event}
    (hmove : ∀ {s s' : Server}, Move s e s' → P s → P s') (s : Server) (h : P s) :
    P (s.step e) := by
  have moves := step_moves s e
  generalize s.step e = s' at moves ⊢
  induction moves with
  | refl => exact h
  | tail _ last ih => exact hmove last ih

/-- What every move under the events of a run preserves, the run preserves. -/
theorem run_preserves {P : Server → Prop} {events : List Event}
    (hmove : ∀ e ∈ events, ∀ {s s' : Server}, Move s e s' → P s → P s') (s : Server) (h : P s) :
    P (s.run events) := by
  induction events generalizing s with
  | nil => exact h
  | cons e rest ih =>
    have first : P (s.step e) := step_preserves (hmove e List.mem_cons_self) s h
    exact ih (fun e' he' => hmove e' (List.mem_cons_of_mem e he')) (s.step e) first

/-! ## Runs that pass a test -/

/-- Every caller that goes away in a run passes a test, in the state in which it goes. -/
def throughout (s : Server) (test : Server → Nat → Bool) : List Event → Bool
  | [] => true
  | .leave n :: rest => test s n && (s.step (.leave n)).throughout test rest
  | e :: rest => (s.step e).throughout test rest

theorem throughout_cons (s : Server) (test : Server → Nat → Bool) (e : Event)
    (rest : List Event) :
    s.throughout test (e :: rest) = true ↔
      (∀ n, e = .leave n → test s n = true) ∧ (s.step e).throughout test rest = true := by
  cases e with
  | leave n => simp [throughout]
  | _ => simp [throughout]

/-- What every move preserves, if the callers that go away pass a test, an event preserves. -/
theorem step_preserves_tested {P : Server → Prop} {test : Server → Nat → Bool}
    (hmove : ∀ {e : Event} {s s' : Server}, Move s e s' →
      (∀ n, e = .leave n → test s n = true) → P s → P s')
    {e : Event} (ht : ∀ n, e = .leave n → test s n = true) (h : P s) : P (s.step e) := by
  by_cases he : ∃ n, e = .leave n
  · obtain ⟨n, rfl⟩ := he
    exact hmove (.leaves n) ht h
  · have stays {s : Server} (n : Nat) (heq : e = .leave n) : test s n = true :=
      absurd ⟨n, heq⟩ he
    exact step_preserves (fun move => hmove move stays) s h

/-- What every move preserves, if the callers that go away pass a test, a run preserves. -/
theorem run_preserves_tested {P : Server → Prop} {test : Server → Nat → Bool}
    (hmove : ∀ {e : Event} {s s' : Server}, Move s e s' →
      (∀ n, e = .leave n → test s n = true) → P s → P s')
    {events : List Event} (ht : s.throughout test events = true) (h : P s) :
    P (s.run events) := by
  induction events generalizing s with
  | nil => exact h
  | cons e rest ih =>
    obtain ⟨hfirst, hrest⟩ := (throughout_cons s test e rest).mp ht
    have first : P (s.step e) := step_preserves_tested hmove hfirst h
    exact ih hrest first

end Server
end ClusterControl
