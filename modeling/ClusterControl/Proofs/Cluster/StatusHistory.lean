import ClusterControl.Proofs.Cluster.CallHistory
import ClusterControl.Proofs.Cluster.RegistrySound
import ClusterControl.Proofs.Feed.Passage

/-!
# The history that a status feed tells

A subscriber is not shown all that happens to a cluster: its feed samples the cluster now and then,
a sample that it is too slow for is replaced by a newer one, and the end of the feed may come
between any two of them.  This module proves that what it is shown is one history of the cluster all
the same.

* `Snapshot.Leads`, `leads_move` — no move of a cluster leads back to an earlier snapshot.
* `Snapshot.Truthful`, `truthful_snapshot` — a snapshot that says healthy is right.
* `Broadcast` — a cluster with its subscribers, and everything that can happen to them.
* `Consistent`, `consistent_poll`, `consistent_receive` — what a subscriber has been told and what
  waits for it are one history that leads to the cluster as it is.
* `status_history` — the theorem.
-/

namespace ClusterControl

/-! ## Snapshots in their order -/

/-- The later snapshot may follow the earlier one: the cluster is in the same state or further along,
and its nodes are some of those that it had, in their order. -/
structure Snapshot.Leads (earlier later : Snapshot) : Prop where
  state : later.state = earlier.state ∨ earlier.state.rank < later.state.rank
  names : later.names.Sublist earlier.names

/-- If the cluster is said to be healthy, it is in that state and every node is ready. -/
def Snapshot.Truthful (s : Snapshot) : Prop :=
  s.healthy = true → s.state = .healthy ∧
    ∀ name ∈ s.names, ∃ record, s.record? name = some record ∧ record.isReady = true

namespace Snapshot.Leads

variable {s t u : Snapshot}

theorem refl (s : Snapshot) : s.Leads s :=
  ⟨.inl rfl, .refl _⟩

theorem trans (first : s.Leads t) (second : t.Leads u) : s.Leads u where
  state := by
    rcases first.state with h | h <;> rcases second.state with h' | h'
    · exact .inl (h'.trans h)
    · exact .inr (h ▸ h')
    · exact .inr (h' ▸ h)
    · exact .inr (h.trans h')
  names := second.names.trans first.names

end Snapshot.Leads

theorem Lifecycle.advance_cases (state next : Lifecycle) :
    state.advance next = state ∨ state.rank < (state.advance next).rank := by
  unfold advance
  split
  · next h => exact .inr (rank_lt_of_canAdvance h)
  · exact .inl rfl

namespace Cluster

variable {c d : Cluster} {n : Nat} {e : Event} {planned : List NodeConfig}

/-- A cluster that has been told to move on, and has the same nodes. -/
theorem leads_of_advance {next : Lifecycle} (h : d.registry = c.registry.advance next) :
    c.snapshot.Leads d.snapshot where
  state := by
    simp only [snapshot, h]
    exact c.registry.state.advance_cases next
  names := by simp [snapshot, h, Registry.advance]

theorem leads_of_registry (h : d.registry = c.registry) : c.snapshot.Leads d.snapshot :=
  ⟨.inl (by simp [snapshot, h]), by simp [snapshot, h]⟩

theorem leads_starter (h : StarterMove c d) : c.snapshot.Leads d.snapshot := by
  cases h with
  | givesUp h hj => exact leads_of_advance rfl
  | launchFails h => exact leads_of_advance rfl
  | waitFails h hj => exact leads_of_advance rfl
  | rejects h hj hp => exact leads_of_advance rfl
  | publishes h hj hp =>
    obtain ⟨records, -, launching, rfl⟩ := publish_eq_ok hp
    exact ⟨.inr (by simp [snapshot, launching, Lifecycle.rank]), .refl _⟩
  | _ => exact leads_of_registry rfl

theorem leads_stopper (h : StopperMove c d) : c.snapshot.Leads d.snapshot := by
  cases h with
  | begins h ha => exact leads_of_advance rfl
  | ends h => exact leads_of_advance rfl
  | _ => exact leads_of_registry rfl

theorem leads_caller (h : CallerMove c n d) : c.snapshot.Leads d.snapshot := by
  rcases h.registry_cases with hsame | ⟨phase, name, -, -, agree⟩
  · exact leads_of_registry hsame
  · exact ⟨.inl agree.state, agree.names_sublist⟩

/-- No move leads back to an earlier snapshot. -/
theorem leads_move (h : Move c e d) : c.snapshot.Leads d.snapshot := by
  cases h with
  | starts h => exact leads_of_advance rfl
  | starter h => exact leads_starter h
  | stopper h => exact leads_stopper h
  | caller h => exact leads_caller h
  | _ => exact leads_of_registry rfl

theorem leads_step (c : Cluster) (e : Event) : c.snapshot.Leads (c.step e).snapshot :=
  step_preserves (P := fun d => c.snapshot.Leads d.snapshot)
    (fun h leads => leads.trans (leads_move h)) c (.refl _)

/-- A snapshot of a cluster whose registry is sound does not say healthy unless it is. -/
theorem truthful_snapshot (kept : Kept planned c) : c.snapshot.Truthful := by
  intro hhealthy
  simp only [snapshot, Registry.isHealthy, Bool.and_eq_true, decide_eq_true_eq] at hhealthy
  obtain ⟨state, ready⟩ := hhealthy
  refine ⟨state, fun name hname => ?_⟩
  obtain ⟨⟨_, record⟩, hmem, rfl⟩ := List.mem_map.mp ((kept.sound.records_names name).mpr hname)
  exact ⟨record, Table.get?_of_mem_entries kept.sound.records_sorted hmem,
    List.all_eq_true.mp ready record (List.mem_map_of_mem hmem)⟩

end Cluster

/-! ## Subscribers -/

/-- A subscriber with all that it has received so far, oldest first. -/
structure Subscriber where
  feed : Feed Snapshot
  received : List Snapshot := []

namespace Subscriber

/-- What the subscriber has received, and what waits for it. -/
def told (s : Subscriber) : List Snapshot :=
  s.received ++ s.feed.slot.value.toList

/-- The subscriber receives, if there is something to receive. -/
def receive (s : Subscriber) : Subscriber :=
  match s.feed.receive with
  | (some (some snapshot), feed) => { feed := feed, received := s.received ++ [snapshot] }
  | (_, feed) => { s with feed := feed }

/-- The subscriber receives what waits for it, and nothing else changes. -/
theorem receive_eq (s : Subscriber) : s.receive =
    { feed := { s.feed with slot := { s.feed.slot with value := none } }, received := s.told } := by
  obtain ⟨⟨interval, ⟨value, sender, receiver⟩, cancel, phase⟩, received⟩ := s
  cases value with
  | some snapshot => rfl
  | none => cases sender <;> simp [receive, Feed.receive, Slot.take, told]

end Subscriber

/-- A cluster with the subscribers of its status. -/
structure Broadcast where
  cluster : Cluster
  subscribers : Roster Subscriber := {}

namespace Broadcast

/-- What can happen to a cluster and to those who are told about it. -/
inductive Event
  | cluster (e : Cluster.Event)
  | subscribe (n interval : Nat) (cancel : Signal)
  -- A feed goes on, and may not have noticed yet that the cluster is to stop
  | poll (n : Nat) (unaware : Bool)
  | receive (n : Nat)
  | cancel (n : Nat)
  -- A subscriber gives up the means to cancel its feed
  | abandon (n : Nat)
  | disconnect (n : Nat)

/-- Changes the subscriber of a number, if there is one. -/
def onSubscriber (b : Broadcast) (n : Nat) (f : Subscriber → Subscriber) : Broadcast :=
  match b.subscribers.get? n with
  | some s => { b with subscribers := b.subscribers.set n (f s) }
  | none => b

/-- A subscriber begins under a number that is free. -/
def subscribe (b : Broadcast) (n interval : Nat) (cancel : Signal) : Broadcast :=
  match b.subscribers.get? n, Feed.create interval cancel with
  | none, .ok feed => { b with subscribers := b.subscribers.set n { feed := feed } }
  | _, _ => b

/-- One event. -/
def step (b : Broadcast) : Event → Broadcast
  | .cluster e => { b with cluster := b.cluster.step e }
  | .subscribe n interval cancel => b.subscribe n interval cancel
  | .poll n unaware => b.onSubscriber n fun s =>
    { s with feed := (s.feed.poll b.cluster.now (b.cluster.stopSignal && !unaware)
        b.cluster.snapshot).1 }
  | .receive n => b.onSubscriber n Subscriber.receive
  | .cancel n => b.onSubscriber n fun s => { s with feed := s.feed.cancelled }
  | .abandon n => b.onSubscriber n fun s => { s with feed := s.feed.uncancellable }
  | .disconnect n => b.onSubscriber n fun s => { s with feed := s.feed.disconnected }

/-- Many events, one after the other. -/
def run (b : Broadcast) (events : List Event) : Broadcast :=
  events.foldl step b

end Broadcast

/-! ## One history -/

/-- The snapshots are in the order of one history of a cluster, which leads to the last one. -/
structure History (told : List Snapshot) (last : Snapshot) : Prop where
  ordered : told.Pairwise Snapshot.Leads
  leads : ∀ s ∈ told, s.Leads last
  truthful : ∀ s ∈ told, s.Truthful

namespace History

variable {told fewer : List Snapshot} {last later : Snapshot}

theorem nil (last : Snapshot) : History [] last := by
  constructor <;> simp

theorem sublist (h : History told last) (hsub : fewer.Sublist told) : History fewer last where
  ordered := h.ordered.sublist hsub
  leads s hs := h.leads s (hsub.subset hs)
  truthful s hs := h.truthful s (hsub.subset hs)

theorem trans (h : History told last) (hlater : last.Leads later) : History told later :=
  { h with leads := fun s hs => (h.leads s hs).trans hlater }

/-- The snapshot that a history leads to may be told next. -/
theorem concat (h : History told last) (truthful : last.Truthful) :
    History (told ++ [last]) last where
  ordered := List.pairwise_append.mpr ⟨h.ordered, List.pairwise_singleton _ _, fun s hs t ht => by
    rw [List.mem_singleton.mp ht]
    exact h.leads s hs⟩
  leads s hs := by
    rcases List.mem_append.mp hs with hs | hs
    · exact h.leads s hs
    · rw [List.mem_singleton.mp hs]
      exact .refl _
  truthful s hs := by
    rcases List.mem_append.mp hs with hs | hs
    · exact h.truthful s hs
    · rw [List.mem_singleton.mp hs]
      exact truthful

end History

/-- A subscriber is told a history of the cluster, up to its end unless somebody ends the feed
before. -/
structure Consistent (c : Cluster) (s : Subscriber) : Prop where
  history : History s.told c.snapshot
  -- as long as the feed has not ended there may be more to come
  sender : s.feed.slot.senderAlive = false → ∃ why, s.feed.phase = .ended why
  cancelled : s.feed.phase = .ended .cancelled → s.feed.cancel.isSettled = true
  disconnected : s.feed.phase = .ended .disconnected → s.feed.slot.receiverAlive = false
  final : s.feed.phase = .ended .sourceStopped → s.feed.slot.receiverAlive = true →
    ∃ last, s.told.getLast? = some last ∧ last.state.isStopping = true

variable {c d : Cluster} {s : Subscriber} {planned : List NodeConfig}

theorem consistent_create {interval : Nat} {cancel : Signal} {feed : Feed Snapshot}
    (h : Feed.create interval cancel = .ok feed) (c : Cluster) :
    Consistent c { feed := feed } := by
  unfold Feed.create at h
  split at h
  · simp at h
  · obtain rfl := Except.ok.inj h
    refine ⟨.nil _, ?_, ?_, ?_, ?_⟩ <;> simp

/-- The cluster goes on. -/
theorem Consistent.goesOn (inv : Consistent c s) (h : c.snapshot.Leads d.snapshot) :
    Consistent d s :=
  { inv with history := inv.history.trans h }

/-- A sample takes the place of what waits for the subscriber. -/
theorem Subscriber.told_put (s : Subscriber) (sample : Snapshot) :
    Subscriber.told { s with feed := s.feed.put sample } =
      if s.feed.slot.receiverAlive then s.received ++ [sample] else s.told := by
  unfold Subscriber.told
  rw [Feed.put_slot]
  split <;> rfl

theorem Consistent.history_put (inv : Consistent c s) (truthful : c.snapshot.Truthful) :
    History (Subscriber.told { s with feed := s.feed.put c.snapshot }) c.snapshot := by
  rw [Subscriber.told_put]
  split
  · exact (inv.history.sublist (List.sublist_append_left _ _)).concat truthful
  · exact inv.history

/-- A feed that goes on goes on with the history that it tells. -/
theorem consistent_poll (inv : Consistent c s) (truthful : c.snapshot.Truthful) {stopped : Bool}
    (hstopped : stopped = true → c.registry.state.isStopping = true) (now : Nat) :
    Consistent c { s with feed := (s.feed.poll now stopped c.snapshot).1 } := by
  have passage := s.feed.passage_poll now stopped c.snapshot
  generalize s.feed.poll now stopped c.snapshot = answer at passage ⊢
  obtain ⟨g, sampled⟩ := answer
  cases passage with
  | rests => exact inv
  | cancelled _ _ hc =>
    exact ⟨inv.history, fun _ => ⟨_, rfl⟩, fun _ => hc, by simp, by simp⟩
  | sourceStopped _ _ _ hs =>
    refine ⟨inv.history_put truthful, fun _ => ⟨_, rfl⟩, by simp,
      by simp, fun _ hr => ⟨c.snapshot, ?_, hstopped hs⟩⟩
    have alive : s.feed.slot.receiverAlive = true := by
      simp only [Slot.dropSender, Feed.put_slot] at hr
      split at hr <;> assumption
    exact (congrArg List.getLast? (s.told_put c.snapshot)).trans (by simp [alive])
  | disconnected _ _ _ _ hr =>
    exact ⟨inv.history, fun _ => ⟨_, rfl⟩, by simp, fun _ => hr, by simp⟩
  | samples _ hdue =>
    refine ⟨inv.history_put truthful, fun hsender => ?_, by simp, by simp, by simp⟩
    have dead : s.feed.slot.senderAlive = false := by
      simp only [Feed.put_slot] at hsender
      split at hsender <;> exact hsender
    obtain ⟨why, hwhy⟩ := inv.sender dead
    exact absurd hwhy (Feed.not_ended_of_due? hdue why)
  | waits _ hdue =>
    refine ⟨inv.history, fun hsender => ?_, by simp, by simp, by simp⟩
    obtain ⟨why, hwhy⟩ := inv.sender hsender
    exact absurd hwhy (Feed.not_ended_of_due? hdue why)

/-- What waits for a subscriber is received in its turn. -/
theorem consistent_receive (inv : Consistent c s) : Consistent c s.receive := by
  have told : Subscriber.told s.receive = s.told := by
    rw [Subscriber.receive_eq]
    simp [Subscriber.told]
  refine ⟨told ▸ inv.history, ?_, ?_, ?_, ?_⟩ <;> rw [Subscriber.receive_eq]
  · exact inv.sender
  · exact inv.cancelled
  · exact inv.disconnected
  · intro hphase hr
    obtain ⟨last, hlast, hstopping⟩ := inv.final hphase hr
    exact ⟨last, by simpa [Subscriber.told] using hlast, hstopping⟩

theorem Signal.isSettled_raise (s : Signal) : s.raise.isSettled = true := by
  cases s <;> rfl

theorem Signal.isSettled_abandon (s : Signal) : s.abandon.isSettled = true := by
  cases s <;> rfl

theorem consistent_cancelled (inv : Consistent c s) :
    Consistent c { s with feed := s.feed.cancelled } :=
  { inv with cancelled := fun _ => s.feed.cancel.isSettled_raise }

theorem consistent_uncancellable (inv : Consistent c s) :
    Consistent c { s with feed := s.feed.uncancellable } :=
  { inv with cancelled := fun _ => s.feed.cancel.isSettled_abandon }

/-- A subscriber that goes away receives nothing more. -/
theorem consistent_disconnected (inv : Consistent c s) :
    Consistent c { s with feed := s.feed.disconnected } where
  history := inv.history.sublist (by simp [Subscriber.told, Feed.disconnected, Slot.dropReceiver])
  sender := inv.sender
  cancelled := inv.cancelled
  disconnected _ := rfl
  final _ hr := by simp [Feed.disconnected, Slot.dropReceiver] at hr

namespace Broadcast

variable {b : Broadcast}

/-- A cluster that is in order, with subscribers that are told its history. -/
structure Sound (planned : List NodeConfig) (b : Broadcast) : Prop where
  orderly : Cluster.Orderly b.cluster
  kept : Cluster.Kept planned b.cluster
  subscribers : ∀ n s, b.subscribers.get? n = some s → Consistent b.cluster s

theorem Sound.set (inv : Sound planned b) {n : Nat} (h : Consistent b.cluster s) :
    Sound planned { b with subscribers := b.subscribers.set n s } where
  orderly := inv.orderly
  kept := inv.kept
  subscribers m t ht := by
    rw [Roster.get?_set] at ht
    split at ht
    · exact Option.some.inj ht ▸ h
    · exact inv.subscribers m t ht

theorem Sound.onSubscriber (inv : Sound planned b) {f : Subscriber → Subscriber}
    (hf : ∀ s, Consistent b.cluster s → Consistent b.cluster (f s)) (n : Nat) :
    Sound planned (b.onSubscriber n f) := by
  unfold Broadcast.onSubscriber
  split
  · next s hs => exact inv.set (hf s (inv.subscribers n s hs))
  · exact inv

theorem sound_step (inv : Sound planned b) (e : Event) : Sound planned (b.step e) := by
  cases e with
  | cluster e =>
    refine ⟨Cluster.step_preserves Cluster.orderly_move _ inv.orderly,
      Cluster.kept_run inv.orderly inv.kept [e], fun n s hs => ?_⟩
    exact (inv.subscribers n s hs).goesOn (Cluster.leads_step b.cluster e)
  | subscribe n interval cancel =>
    show Sound planned (b.subscribe n interval cancel)
    unfold subscribe
    split
    · next feed hfree hfeed => exact inv.set (consistent_create hfeed _)
    · exact inv
  | poll n unaware =>
    refine inv.onSubscriber (fun s hs => ?_) n
    refine consistent_poll hs (Cluster.truthful_snapshot inv.kept) (fun hstopped => ?_) _
    exact inv.orderly.signal_iff.mp (Bool.and_eq_true_iff.mp hstopped).1
  | receive n => exact inv.onSubscriber (fun s hs => consistent_receive hs) n
  | cancel n => exact inv.onSubscriber (fun s hs => consistent_cancelled hs) n
  | abandon n => exact inv.onSubscriber (fun s hs => consistent_uncancellable hs) n
  | disconnect n => exact inv.onSubscriber (fun s hs => consistent_disconnected hs) n

theorem sound_run (inv : Sound planned b) (events : List Event) : Sound planned (b.run events) := by
  induction events generalizing b with
  | nil => exact inv
  | cons e rest ih => exact ih (sound_step inv e)

/-- Whatever happens to a planned cluster and to its subscribers, each of them receives one history
of the cluster, and if its feed ends before it cancels it, gives up the means to do so or goes away,
then the last thing that it has received is that the cluster is to stop. -/
theorem status_history {options : ClusterOptions} {params : StartParams} {pid : UInt32}
    {obstacle : Option IoError} (h : Cluster.plan options params pid obstacle = .ok c)
    (events : List Event) {n : Nat}
    (hs : (run { cluster := c } events).subscribers.get? n = some s) :
    s.received.Pairwise Snapshot.Leads ∧
      (∀ snapshot ∈ s.received, snapshot.Truthful) ∧
      (s.feed.receive.1 = some none → s.feed.slot.receiverAlive = true →
        (s.feed.end? = some .cancelled ∧ s.feed.cancel.isSettled = true) ∨
          ∃ last, s.received.getLast? = some last ∧ last.state.isStopping = true) := by
  obtain ⟨planned, -, kept⟩ := Cluster.kept_of_plan h
  have begun : Sound planned { cluster := c } :=
    ⟨Cluster.orderly_of_plan h, kept, fun n s hs => by simp [Roster.get?] at hs⟩
  have inv := (sound_run begun events).subscribers n s hs
  have received := inv.history.sublist (List.sublist_append_left s.received _)
  refine ⟨received.ordered, received.truthful, fun hend alive => ?_⟩
  obtain ⟨nothing, dead⟩ := Feed.receive_eq_end_iff.mp hend
  obtain ⟨why, hwhy⟩ := inv.sender dead
  cases why with
  | cancelled => exact .inl ⟨by simp [Feed.end?, hwhy], inv.cancelled hwhy⟩
  | sourceStopped =>
    obtain ⟨last, hlast, hstopping⟩ := inv.final hwhy alive
    exact .inr ⟨last, by simpa [Subscriber.told, nothing] using hlast, hstopping⟩
  | disconnected => simp [inv.disconnected hwhy] at alive

/-- A subscriber of the small cluster who sees it planned and healthy, is too slow for what becomes of
its nodes, and is told that it is to stop. -/
def pairStatus : List Event :=
  .subscribe 1 1000 .pending :: .poll 1 false :: .receive 1 ::
    (Cluster.pairHealthy.map .cluster).append
      [.cluster (.elapse 1000), .poll 1 false, .receive 1,
        .cluster (.call 1 (.mutate (.remove "node1"))), .cluster (.poll (.caller 1)),
        .cluster (.answer (.caller 1) .done), .cluster (.poll (.caller 1)),
        .cluster (.elapse 1000), .poll 1 false, .cluster (.call 2 .stop),
        .cluster (.poll (.caller 2)), .cluster (.poll .keeper), .cluster (.poll .stopper),
        .poll 1 false, .receive 1]

theorem pair_status_told : ∃ s, (run { cluster := Cluster.pair } pairStatus).subscribers.get? 1 =
      some s ∧
    s.received.map (fun snapshot => (snapshot.state, snapshot.names)) =
      [(.created, ["node1", "node2"]), (.healthy, ["node1", "node2"]), (.stopping, ["node2"])] ∧
    s.received.Pairwise Snapshot.Leads ∧
    ∃ last, s.received.getLast? = some last ∧ last.state.isStopping = true := by
  have seen : ((run { cluster := Cluster.pair } pairStatus).subscribers.get? 1).map (fun s =>
      (s.received.map (fun snapshot => (snapshot.state, snapshot.names)),
        s.feed.receive.1.isEqSome none, s.feed.slot.receiverAlive, s.feed.end?)) =
      some ([(.created, ["node1", "node2"]), (.healthy, ["node1", "node2"]),
        (.stopping, ["node2"])], true, true, some .sourceStopped) := by
    decide +kernel
  obtain ⟨s, hs, heq⟩ := Option.map_eq_some_iff.mp seen
  simp only [Prod.mk.injEq] at heq
  obtain ⟨received, ended, alive, why⟩ := heq
  obtain ⟨ordered, -, last⟩ := status_history Cluster.plan_pair pairStatus hs
  refine ⟨s, hs, received, ordered, ?_⟩
  exact (last (by simpa using ended) alive).resolve_left (by simp [why])

end Broadcast
end ClusterControl
