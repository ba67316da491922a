import ClusterControl.Proofs.Feed.Passage
import ClusterControl.Proofs.Mailbox.Ledger
import ClusterControl.Roster

/-!
# The schedule of a feed

The feeds of one source run side by side on one clock, and a tick, a stop of the source and whatever a
subscriber does may come at the same time, in any order.  Time is virtual: it passes only while no feed
can go on, and never past the next tick of one.  This module proves that every feed keeps to its
schedule until it ends, that it ends for the right reason, and what its subscriber gets.  The unit of
the clock is free: no sample is late in virtual time, so that `Feed.grace` does not come in.

* `Listener`, `Station` — the subscribers of a source with all that their feeds have done, and
  everything that can happen to them.
* `Paced`, `paced_poll` — where a feed is on its schedule.
* `Booked`, `booked_poll`, `booked_receive` — what of its samples the subscriber has received.
* `OnSchedule`, `feed_schedule` — the theorem.
-/

namespace ClusterControl

/-! ## Listeners -/

/-- A subscriber with its feed and all that has happened between the two.  Times are in the unit of
the clock, whichever it is. -/
structure Listener (α : Type) where
  feed : Feed α
  -- when it subscribed
  since : Nat
  -- the samples that the feed has taken, each with its time
  samples : List (Nat × α) := []
  -- what the subscriber has received, each with the number of the newest sample at that time
  received : List (Nat × α) := []
  endedAt : Option Nat := none
deriving Repr, DecidableEq

namespace Listener

variable {α : Type}

/-- The feed goes on, at a time at which the source stands at `sample`. -/
def poll (l : Listener α) (now : Nat) (stopped : Bool) (sample : α) : Listener α :=
  let (feed, sampled) := l.feed.poll now stopped sample
  { l with feed := feed,
           samples := if sampled then l.samples ++ [(now, sample)] else l.samples,
           endedAt := l.endedAt.or (feed.end?.map fun _ => now) }

/-- The number of the newest sample. -/
def newest (l : Listener α) : Nat :=
  l.samples.length - 1

/-- The subscriber receives, if there is something to receive. -/
def receive (l : Listener α) : Listener α :=
  match l.feed.receive with
  | (some (some sample), feed) =>
    { l with feed := feed, received := l.received ++ [(l.newest, sample)] }
  | (_, feed) => { l with feed := feed }

/-- When the sample of a number is due. -/
def tick (l : Listener α) (k : Nat) : Nat :=
  l.since + k * l.feed.interval

/-- When the first so many samples are due. -/
def ticks (l : Listener α) (k : Nat) : List Nat :=
  (List.range k).map l.tick

/-- What ends the feed when it goes on, if anything does. -/
def reason? (l : Listener α) (source : Signal) : Option FeedEnd :=
  if l.feed.cancel.isSettled then some .cancelled
  else if source.isSettled then some .sourceStopped
  else if l.feed.slot.receiverAlive then none
  else some .disconnected

end Listener

/-! ## What can happen to a source and its listeners -/

/-- A source on a clock, with its listeners.  Its signal tells that it has stopped, or that nobody is
left to stop it. -/
structure Station (α : Type) where
  now : Nat := 0
  source : Signal := .pending
  listeners : Roster (Listener α) := {}
deriving Repr, DecidableEq

namespace Station

variable {α : Type}

/-- What can happen to a source and its listeners. -/
inductive Event (α : Type)
  | subscribe (n interval : Nat) (cancel : Signal)
  -- a feed goes on while the source stands at the sample
  | poll (n : Nat) (sample : α)
  | receive (n : Nat)
  | cancel (n : Nat)
  -- a subscriber gives up the means to cancel its feed
  | abandon (n : Nat)
  | disconnect (n : Nat)
  | stop
  -- nobody is left to stop the source
  | lose
  | elapse (span : Nat)

/-- Changes the listener of a number, if there is one. -/
def onListener (s : Station α) (n : Nat) (f : Listener α → Listener α) : Station α :=
  match s.listeners.get? n with
  | some l => { s with listeners := s.listeners.set n (f l) }
  | none => s

/-- A subscriber begins under a number that is free. -/
def subscribe (s : Station α) (n interval : Nat) (cancel : Signal) : Station α :=
  match s.listeners.get? n, Feed.create interval cancel with
  | none, .ok feed => { s with listeners := s.listeners.set n { feed := feed, since := s.now } }
  | _, _ => s

/-- So much time may pass: no feed can go on before, and none wants to go on in between. -/
def mayElapse (s : Station α) (span : Nat) : Bool :=
  s.listeners.entries.all fun (_, l) =>
    !l.feed.ready s.now s.source.isSettled && l.feed.alarm.all (s.now + span ≤ ·)

/-- One event. -/
def step (s : Station α) : Event α → Station α
  | .subscribe n interval cancel => s.subscribe n interval cancel
  | .poll n sample => s.onListener n (·.poll s.now s.source.isSettled sample)
  | .receive n => s.onListener n Listener.receive
  | .cancel n => s.onListener n fun l => { l with feed := l.feed.cancelled }
  | .abandon n => s.onListener n fun l => { l with feed := l.feed.uncancellable }
  | .disconnect n => s.onListener n fun l => { l with feed := l.feed.disconnected }
  | .stop => { s with source := s.source.raise }
  | .lose => { s with source := s.source.abandon }
  | .elapse span => if s.mayElapse span then { s with now := s.now + span } else s

/-- Many events, one after the other. -/
def run (s : Station α) (events : List (Event α)) : Station α :=
  events.foldl step s

end Station

/-! ## The schedule -/

namespace Listener

variable {α : Type} {l : Listener α} {now due k : Nat} {stopped : Bool} {sample : α}

/-- Where a feed is on its schedule. -/
inductive Paced (now : Nat) (l : Listener α) : FeedPhase → Prop
  | fresh (hsince : l.since = now) (hs : l.samples = []) (he : l.endedAt = none) :
      Paced now l .fresh
  | running (k : Nat) (hs : l.samples.map Prod.fst = l.ticks k) (hlast : ∀ j < k, l.tick j ≤ now)
      (hnext : now ≤ l.tick k) (he : l.endedAt = none) : Paced now l (.running (l.tick k))
  | ended (why : FeedEnd) (k t : Nat)
      (hs : l.samples.map Prod.fst = l.ticks k ++ if why = .sourceStopped then [t] else [])
      (hlast : ∀ j < k, l.tick j ≤ t) (hnext : t ≤ l.tick k) (ht : t ≤ now)
      (he : l.endedAt = some t) : Paced now l (.ended why)

/-- A feed that has not ended has taken the samples that were due and waits for the next one. -/
theorem Paced.of_due (h : l.Paced now l.feed.phase) (hdue : l.feed.due? now = some due) :
    l.endedAt = none ∧ ∃ k, due = l.tick k ∧ l.samples.map Prod.fst = l.ticks k ∧
      (∀ j < k, l.tick j ≤ now) ∧ now ≤ l.tick k := by
  generalize hphase : l.feed.phase = phase at h
  simp only [Feed.due?, hphase] at hdue
  cases h with
  | fresh hsince hs he =>
    obtain rfl := Option.some.inj hdue
    exact ⟨he, 0, by simp [tick, hsince], by simp [hs, ticks], by simp, by simp [tick, hsince]⟩
  | running k hs hlast hnext he =>
    exact ⟨he, k, (Option.some.inj hdue).symm, hs, hlast, hnext⟩
  | ended why k t hs hlast hnext ht he => simp at hdue

/-- A feed that has nothing to do has ended, and it is known when. -/
theorem Paced.of_rests (h : l.Paced now l.feed.phase) (hdue : l.feed.due? now = none)
    (time : Option Nat) : l.endedAt.or time = l.endedAt := by
  generalize hphase : l.feed.phase = phase at h
  cases h with
  | ended why k t hs hlast hnext ht he => simp [he]
  | _ => simp [Feed.due?, hphase] at hdue

theorem ticks_succ (l : Listener α) (k : Nat) : l.ticks (k + 1) = l.ticks k ++ [l.tick k] := by
  simp [ticks, List.range_succ]

theorem tick_succ (l : Listener α) (k : Nat) : l.tick (k + 1) = l.tick k + l.feed.interval := by
  simp [tick, Nat.add_mul, Nat.add_assoc]

/-- Two listeners that agree in all that the schedule is about are on it alike. -/
theorem Paced.congr {m : Listener α} {phase : FeedPhase} (h : l.Paced now phase)
    (hsince : m.since = l.since) (hinterval : m.feed.interval = l.feed.interval)
    (hsamples : m.samples = l.samples) (hended : m.endedAt = l.endedAt) : m.Paced now phase := by
  have htick (k : Nat) : m.tick k = l.tick k := by simp [tick, hsince, hinterval]
  have hticks (k : Nat) : m.ticks k = l.ticks k := by simp [ticks, funext htick]
  cases h with
  | fresh since samples ended =>
    exact .fresh (hsince.trans since) (hsamples.trans samples) (hended.trans ended)
  | running k samples last next ended =>
    rw [← htick]
    exact .running k (by rw [hsamples, hticks, samples]) (fun j hj => htick j ▸ last j hj)
      (htick k ▸ next) (hended.trans ended)
  | ended why k t samples last next past ended =>
    exact .ended why k t (by rw [hsamples, hticks, samples]) (fun j hj => htick j ▸ last j hj)
      (htick k ▸ next) past (hended.trans ended)

/-- A feed that goes on stays on its schedule. -/
theorem paced_poll (h : l.Paced now l.feed.phase) (stopped : Bool) (sample : α) :
    (l.poll now stopped sample).Paced now (l.poll now stopped sample).feed.phase := by
  have passage := l.feed.passage_poll now stopped sample
  unfold poll
  generalize l.feed.poll now stopped sample = answer at passage ⊢
  obtain ⟨g, sampled⟩ := answer
  cases passage with
  | rests hdue =>
    exact h.congr rfl rfl (by simp) (h.of_rests hdue _)
  | cancelled due hdue hc =>
    obtain ⟨he, k, -, hs, hlast, hnext⟩ := h.of_due hdue
    exact .ended .cancelled k now (show _ = l.ticks k ++ _ by simpa using hs) hlast hnext le_rfl
      (by simp [he, Feed.end?])
  | sourceStopped due hdue hc hst =>
    obtain ⟨he, k, -, hs, hlast, hnext⟩ := h.of_due hdue
    rw [Feed.put_eq]
    exact .ended .sourceStopped k now (show _ = l.ticks k ++ _ by simpa using hs) hlast hnext
      le_rfl (by simp [he, Feed.end?])
  | disconnected due hdue hc hst hr =>
    obtain ⟨he, k, -, hs, hlast, hnext⟩ := h.of_due hdue
    exact .ended .disconnected k now (show _ = l.ticks k ++ _ by simpa using hs) hlast hnext
      le_rfl (by simp [he, Feed.end?])
  | samples due hdue goesOn hle =>
    obtain ⟨he, k, rfl, hs, hlast, hnext⟩ := h.of_due hdue
    obtain rfl : now = l.tick k := le_antisymm hnext hle
    rw [Feed.put_eq, Feed.following, if_pos (Nat.le_add_right _ _), ← tick_succ]
    refine .running (k + 1) ?_ (fun j hj => ?_) ?_ ?_
    · exact (by simpa using hs : _ = l.ticks k ++ [l.tick k]).trans (l.ticks_succ k).symm
    · rcases Nat.lt_succ_iff_lt_or_eq.mp hj with hj | rfl
      · exact hlast j hj
      · exact le_rfl
    · exact l.tick_succ k ▸ Nat.le_add_right _ _
    · simp [he, Feed.end?]
  | waits due hdue goesOn hlt =>
    obtain ⟨he, k, rfl, hs, hlast, hnext⟩ := h.of_due hdue
    exact .running k hs hlast hnext (by simp [he, Feed.end?])

/-! ## What a subscriber receives -/

/-- What a feed has posted, and what its subscriber has received of it. -/
structure Booked (l : Listener α) : Prop where
  sender : l.feed.slot.senderAlive = false ↔ ∃ why, l.feed.phase = .ended why
  -- the final sample of a feed without a subscriber is taken all the same
  ledger : ∃ ledger : Ledger α, ledger.Agrees l.feed.slot ∧ ledger.taken = l.received ∧
    ledger.posted.map Prod.fst <+: l.samples.map Prod.snd ∧
    (l.feed.slot.receiverAlive = true → ledger.posted.map Prod.fst = l.samples.map Prod.snd)

/-- A sample that is taken is posted if there is a subscriber. -/
theorem Booked.put (h : l.Booked) (now : Nat) (sample : α) :
    ∃ ledger : Ledger α, ledger.Agrees (l.feed.put sample).slot ∧ ledger.taken = l.received ∧
      ledger.posted.map Prod.fst <+: (l.samples ++ [(now, sample)]).map Prod.snd ∧
      ((l.feed.put sample).slot.receiverAlive = true →
        ledger.posted.map Prod.fst = (l.samples ++ [(now, sample)]).map Prod.snd) := by
  obtain ⟨ledger, agrees, taken, before, same⟩ := h.ledger
  rw [Feed.put_slot]
  split
  · next alive =>
    have posts : l.feed.slot.post sample =
        .ok (l.feed.slot.value.isSome, { l.feed.slot with value := some sample }) := by
      simp [Slot.post, alive]
    refine ⟨ledger.post sample l.feed.slot.value.isSome, Ledger.agrees_post agrees posts, taken, ?_⟩
    simp [Ledger.post, same alive]
  · next gone =>
    refine ⟨ledger, agrees, taken, ?_, fun alive => absurd alive gone⟩
    rw [List.map_append]
    exact before.trans (List.prefix_append _ _)

theorem booked_poll (h : l.Booked) (now : Nat) (stopped : Bool) (sample : α) :
    (l.poll now stopped sample).Booked := by
  have passage := l.feed.passage_poll now stopped sample
  unfold poll
  generalize l.feed.poll now stopped sample = answer at passage ⊢
  obtain ⟨g, sampled⟩ := answer
  have running {due : Nat} (hdue : l.feed.due? now = some due) : l.feed.slot.senderAlive = true := by
    by_contra dead
    obtain ⟨why, hwhy⟩ := h.sender.mp (by simpa using dead)
    exact Feed.not_ended_of_due? hdue why hwhy
  cases passage with
  | rests hdue => exact ⟨h.sender, h.ledger⟩
  | cancelled due hdue hc | disconnected due hdue hc hst hr =>
    obtain ⟨ledger, agrees, rest⟩ := h.ledger
    exact ⟨⟨fun _ => ⟨_, rfl⟩, fun _ => rfl⟩, ledger, Ledger.agrees_dropSender agrees, rest⟩
  | sourceStopped due hdue hc hst =>
    obtain ⟨ledger, agrees, rest⟩ := h.put now sample
    exact ⟨⟨fun _ => ⟨_, rfl⟩, fun _ => rfl⟩, ledger, Ledger.agrees_dropSender agrees, rest⟩
  | samples due hdue goesOn hle =>
    refine ⟨?_, h.put now sample⟩
    simp [Feed.put_slot, goesOn.subscriber, running hdue]
  | waits due hdue goesOn hlt => exact ⟨by simp [running hdue], h.ledger⟩

/-- A subscriber that receives takes what waits for it, and nothing else changes. -/
theorem receive_eq (l : Listener α) : l.receive =
    { l with feed := { l.feed with slot := l.feed.slot.take.2 },
             received := l.received ++ l.feed.slot.value.toList.map (l.newest, ·) } := by
  obtain ⟨⟨interval, ⟨value, sender, receiver⟩, cancel, phase⟩, since, samples, received, ended⟩ := l
  cases value with
  | some sample => rfl
  | none => cases sender <;> simp [receive, Feed.receive, Slot.take]

/-- As long as there is a subscriber, the newest sample is the last one in the ledger. -/
theorem newest_eq {ledger : Ledger α}
    (same : ledger.posted.map Prod.fst = l.samples.map Prod.snd) : ledger.last = l.newest := by
  have := congrArg List.length same
  simp only [List.length_map] at this
  simp only [Ledger.last, newest, this]

theorem booked_receive (h : l.Booked) : l.receive.Booked := by
  obtain ⟨ledger, agrees, taken, before, same⟩ := h.ledger
  rw [receive_eq]
  refine ⟨h.sender, ledger.collect l.feed.slot.value, Ledger.agrees_collect agrees, ?_, ?_⟩
  · cases hv : l.feed.slot.value with
    | none => simpa [Ledger.collect] using taken
    | some v => simp [Ledger.collect, taken, newest_eq (same (agrees.waiting v hv).1)]
  · cases l.feed.slot.value <;> exact ⟨before, same⟩

theorem booked_disconnected (h : l.Booked) :
    Booked { l with feed := l.feed.disconnected } := by
  obtain ⟨ledger, agrees, taken, before, -⟩ := h.ledger
  refine ⟨h.sender, ledger.discard l.feed.slot.value, Ledger.agrees_dropReceiver agrees, ?_⟩
  cases l.feed.slot.value <;> exact ⟨taken, before, by simp [Feed.disconnected, Slot.dropReceiver]⟩

/-! ## What holds of a listener -/

/-- A feed is on its schedule, and its subscriber gets of the samples what it is to get. -/
structure OnSchedule (source : Signal) (now : Nat) (l : Listener α) : Prop where
  -- until it ends it takes a sample at each tick, and no other one
  running : l.feed.end? = none → ∃ k, l.samples.map Prod.fst = l.ticks k ∧
    (∀ j < k, l.tick j ≤ now) ∧ now ≤ l.tick k ∧
    (l.feed.ready now source.isSettled = false → now < l.tick k)
  -- as it ends it takes another one only if the source has stopped
  ended : ∀ why, l.feed.end? = some why → ∃ k t, l.endedAt = some t ∧ t ≤ now ∧
    l.samples.map Prod.fst = l.ticks k ++ (if why = .sourceStopped then [t] else []) ∧
    (∀ j < k, l.tick j ≤ t) ∧ t ≤ l.tick k
  -- it ends as soon as it goes on after something has ended it, and for the first reason
  reason : l.feed.end? = none → ∀ sample,
    (l.poll now source.isSettled sample).feed.end? = l.reason? source
  in_order : (l.received.map Prod.fst).Pairwise (· < ·)
  received : ∀ k sample, (k, sample) ∈ l.received → (l.samples.map Prod.snd)[k]? = some sample
  -- what the subscriber gets next is the newest sample, which it has not got yet
  next : ∀ sample, l.feed.receive.1 = some (some sample) →
    (l.samples.map Prod.snd).getLast? = some sample ∧ l.newest ∉ l.received.map Prod.fst
  -- it is told that there will be no more only when it is so
  told : l.feed.receive.1 = some none → l.feed.end?.isSome = true
  -- the final sample is the last one that it gets before that
  final : l.feed.end? = some .sourceStopped → l.feed.slot.receiverAlive = true →
    ∃ t sample, l.endedAt = some t ∧ l.samples.getLast? = some (t, sample) ∧
      (l.feed.receive.1 = some (some sample) ∧ l.receive.feed.receive.1 = some none ∨
        l.received.getLast? = some (l.newest, sample) ∧ l.feed.receive.1 = some none)

/-- A feed that goes on ends for the first reason that there is. -/
theorem end?_poll (hend : l.feed.end? = none) (now : Nat) (source : Signal) (sample : α) :
    (l.poll now source.isSettled sample).feed.end? = l.reason? source := by
  have passage := l.feed.passage_poll now source.isSettled sample
  unfold poll
  generalize l.feed.poll now source.isSettled sample = answer at passage ⊢
  obtain ⟨g, sampled⟩ := answer
  cases passage with
  | rests hdue =>
    cases hphase : l.feed.phase <;> simp [Feed.due?, Feed.end?, hphase] at hdue hend
  | cancelled due hdue hc => simp [reason?, hc, Feed.end?]
  | sourceStopped due hdue hc hst => simp [reason?, hc, hst, Feed.end?]
  | disconnected due hdue hc hst hr => simp [reason?, hc, hst, hr, Feed.end?]
  | samples due hdue goesOn hle | waits due hdue goesOn hle =>
    simp [reason?, goesOn.cancel, goesOn.source, goesOn.subscriber, Feed.end?]

theorem Paced.running_of_end? (h : l.Paced now l.feed.phase) (hend : l.feed.end? = none)
    (stopped : Bool) :
    ∃ k, l.samples.map Prod.fst = l.ticks k ∧ (∀ j < k, l.tick j ≤ now) ∧ now ≤ l.tick k ∧
      (l.feed.ready now stopped = false → now < l.tick k) := by
  obtain ⟨due, hdue⟩ : ∃ due, l.feed.due? now = some due := by
    cases hphase : l.feed.phase <;> simp [Feed.due?, Feed.end?, hphase] at hend ⊢
  obtain ⟨-, k, rfl, hs, hlast, hnext⟩ := h.of_due hdue
  refine ⟨k, hs, hlast, hnext, fun quiet => ?_⟩
  simp only [Feed.ready, hdue, Bool.or_eq_false_iff, decide_eq_false_iff_not] at quiet
  exact Nat.lt_of_not_le quiet.2

theorem Paced.of_end? (h : l.Paced now l.feed.phase) {why : FeedEnd}
    (hend : l.feed.end? = some why) : ∃ k t, l.endedAt = some t ∧ t ≤ now ∧
      l.samples.map Prod.fst = l.ticks k ++ (if why = .sourceStopped then [t] else []) ∧
      (∀ j < k, l.tick j ≤ t) ∧ t ≤ l.tick k := by
  rw [Feed.end?_eq_some_iff.mp hend] at h
  cases h with
  | ended _ k t hs hlast hnext ht he => exact ⟨k, t, he, ht, hs, hlast, hnext⟩

/-- The final sample is on its way to the subscriber, or is the last thing that it has got. -/
theorem final_of_ended (paced : l.Paced now l.feed.phase) (booked : l.Booked)
    (hend : l.feed.end? = some .sourceStopped) (alive : l.feed.slot.receiverAlive = true) :
    ∃ t sample, l.endedAt = some t ∧ l.samples.getLast? = some (t, sample) ∧
      (l.feed.receive.1 = some (some sample) ∧ l.receive.feed.receive.1 = some none ∨
        l.received.getLast? = some (l.newest, sample) ∧ l.feed.receive.1 = some none) := by
  obtain ⟨k, t, he, -, hs, -, -⟩ := paced.of_end? hend
  obtain ⟨ledger, agrees, taken, -, same⟩ := booked.ledger
  have same := same alive
  have silent : l.feed.slot.senderAlive = false :=
    booked.sender.mpr ⟨.sourceStopped, Feed.end?_eq_some_iff.mp hend⟩
  obtain ⟨⟨time, sample⟩, hlast⟩ : ∃ last, l.samples.getLast? = some last := by
    cases hsamples : l.samples with
    | nil => simp [hsamples] at hs
    | cons first rest => exact ⟨_, List.getLast?_eq_some_getLast (by simp)⟩
  obtain rfl : time = t := by
    have := congrArg List.getLast? hs
    simpa [List.getLast?_map, hlast] using this
  -- the last sample is the last one that went through the slot
  have newest {v : α} {replaced : Bool} (hv : ledger.posted[ledger.last]? = some (v, replaced)) :
      v = sample := by
    have hposted : (ledger.posted.map Prod.fst).getLast? = some v := by
      rw [List.getLast?_eq_getElem?, List.length_map, List.getElem?_map]
      exact congrArg (Option.map Prod.fst) hv
    rw [same, List.getLast?_map, hlast] at hposted
    exact (Option.some.inj hposted).symm
  refine ⟨time, sample, he, hlast, ?_⟩
  cases hv : l.feed.slot.value with
  | some v =>
    obtain ⟨-, ⟨replaced, hposted⟩, -⟩ := agrees.waiting v hv
    refine .inl ⟨Feed.receive_eq_some_iff.mpr (newest hposted ▸ hv), ?_⟩
    rw [receive_eq]
    exact Feed.receive_eq_end_iff.mpr ⟨rfl, silent⟩
  | none =>
    refine .inr ⟨?_, Feed.receive_eq_end_iff.mpr ⟨hv, silent⟩⟩
    have collected : ledger.last ∈ ledger.takenNumbers := by
      rcases agrees.empty hv with hnil | hmem | hgone
      · rw [hnil] at same
        rw [List.map_eq_nil_iff.mp same.symm] at hlast
        simp at hlast
      · exact hmem
      · simp [(agrees.discarded _ hgone).1] at alive
    obtain ⟨v, replaced, hgot, hposted⟩ := agrees.getLast?_taken collected
    rw [← taken, hgot, newest_eq same, newest hposted]

theorem onSchedule (paced : l.Paced now l.feed.phase) (booked : l.Booked) (source : Signal) :
    l.OnSchedule source now := by
  obtain ⟨ledger, agrees, taken, before, same⟩ := booked.ledger
  exact {
    running := fun hend => paced.running_of_end? hend source.isSettled
    ended := fun why hend => paced.of_end? hend
    reason := fun hend sample => end?_poll hend now source sample
    in_order := taken ▸ agrees.increasing
    received := fun k sample hmem => by
      obtain ⟨replaced, hposted⟩ := agrees.values k sample (taken ▸ hmem)
      obtain ⟨rest, heq⟩ := before
      have hk : k < (ledger.posted.map Prod.fst).length := by
        simpa using (List.getElem?_eq_some_iff.mp hposted).1
      rw [← heq, List.getElem?_append_left hk, List.getElem?_map, hposted]
      rfl
    next := fun sample hnext => by
      obtain ⟨alive, ⟨replaced, hposted⟩, untaken⟩ :=
        agrees.waiting sample (Feed.receive_eq_some_iff.mp hnext)
      have same := same alive
      rw [← newest_eq same, ← taken, ← same, List.getLast?_eq_getElem?, List.length_map,
        List.getElem?_map]
      exact ⟨congrArg (Option.map Prod.fst) hposted, untaken⟩
    told := fun htold => by
      obtain ⟨why, hwhy⟩ := booked.sender.mp (Feed.receive_eq_end_iff.mp htold).2
      simp [Feed.end?_eq_some_iff.mpr hwhy]
    final := final_of_ended paced booked }

end Listener

/-! ## Runs -/

namespace Station

variable {α : Type} {s : Station α} {n : Nat} {l : Listener α}

/-- Every feed is on its schedule, and books what it has posted. -/
structure Sound (s : Station α) : Prop where
  paced : ∀ n l, s.listeners.get? n = some l → l.Paced s.now l.feed.phase
  booked : ∀ n l, s.listeners.get? n = some l → l.Booked

theorem sound_init : Sound ({} : Station α) := by
  constructor <;> simp [Roster.get?]

theorem Sound.set (sound : Sound s) (paced : l.Paced s.now l.feed.phase) (booked : l.Booked)
    (n : Nat) : Sound { s with listeners := s.listeners.set n l } := by
  constructor <;> intro m k hk <;> rw [Roster.get?_set] at hk <;> split at hk
  · exact Option.some.inj hk ▸ paced
  · exact sound.paced m k hk
  · exact Option.some.inj hk ▸ booked
  · exact sound.booked m k hk

theorem Sound.onListener (sound : Sound s) {f : Listener α → Listener α}
    (paced : ∀ l, l.Paced s.now l.feed.phase → (f l).Paced s.now (f l).feed.phase)
    (booked : ∀ l, l.Booked → (f l).Booked) (n : Nat) : Sound (s.onListener n f) := by
  unfold Station.onListener
  split
  · next l hl => exact sound.set (paced l (sound.paced n l hl)) (booked l (sound.booked n l hl)) n
  · exact sound

theorem sound_subscribe (sound : Sound s) (n interval : Nat) (cancel : Signal) :
    Sound (s.subscribe n interval cancel) := by
  unfold subscribe
  split
  · next feed hfree hfeed =>
    unfold Feed.create at hfeed
    split at hfeed
    · simp at hfeed
    · obtain rfl := Except.ok.inj hfeed
      refine sound.set ?_ ?_ n
      · exact .fresh rfl rfl rfl
      · exact ⟨by simp, {}, Ledger.agrees_empty, rfl, by simp, by simp⟩
  · exact sound

/-- Time passes only up to the next tick of each feed. -/
theorem sound_elapse (sound : Sound s) {span : Nat} (h : s.mayElapse span = true) :
    Sound { s with now := s.now + span } where
  paced n l hl := by
    have paced := sound.paced n l hl
    have quiet := List.all_eq_true.mp h _ (Roster.mem_entries_of_get? hl)
    simp only [Bool.and_eq_true, Bool.not_eq_true'] at quiet
    obtain ⟨unready, unasked⟩ := quiet
    generalize hphase : l.feed.phase = phase at paced ⊢
    cases paced with
    | fresh hsince hs he => simp [Feed.ready, Feed.due?, hphase] at unready
    | running k hs hlast hnext he =>
      refine .running k hs (fun j hj => (hlast j hj).trans (Nat.le_add_right _ _)) ?_ he
      simpa [Feed.alarm, hphase] using unasked
    | ended why k t hs hlast hnext ht he =>
      exact .ended why k t hs hlast hnext (ht.trans (Nat.le_add_right _ _)) he
  booked := sound.booked

theorem sound_step (sound : Sound s) (e : Event α) : Sound (s.step e) := by
  cases e with
  | subscribe n interval cancel => exact sound_subscribe sound n interval cancel
  | poll n sample =>
    exact sound.onListener (fun l paced => Listener.paced_poll paced _ sample)
      (fun l booked => Listener.booked_poll booked _ _ sample) n
  | receive n =>
    refine sound.onListener (fun l paced => ?_) (fun l booked => Listener.booked_receive booked) n
    rw [Listener.receive_eq]
    exact paced.congr rfl rfl rfl rfl
  | cancel n | abandon n =>
    refine sound.onListener (fun l paced => ?_) (fun l booked => ?_) n
    · exact paced.congr rfl rfl rfl rfl
    · exact ⟨booked.sender, booked.ledger⟩
  | disconnect n =>
    refine sound.onListener (fun l paced => ?_) (fun l booked => ?_) n
    · exact paced.congr rfl rfl rfl rfl
    · exact Listener.booked_disconnected booked
  | stop | lose => exact ⟨sound.paced, sound.booked⟩
  | elapse span =>
    simp only [step]
    split
    · next h => exact sound_elapse sound h
    · exact sound

theorem sound_run (sound : Sound s) (events : List (Event α)) : Sound (s.run events) := by
  induction events generalizing s with
  | nil => exact sound
  | cons e rest ih => exact ih (sound_step sound e)

/-- A feed that has ended in this way, at this time and with these samples. -/
structure EndedAs (s : Station α) (n : Nat) (why : FeedEnd) (time : Option Nat)
    (samples : List (Nat × α)) (l : Listener α) : Prop where
  listener : s.listeners.get? n = some l
  why : l.feed.end? = some why
  time : l.endedAt = time
  samples : l.samples = samples

/-- A feed that has ended has ended for good, and takes no sample any more. -/
theorem endedAs_step {why : FeedEnd} {time : Option Nat} {samples : List (Nat × α)}
    (sound : Sound s) (h : s.EndedAs n why time samples l) (e : Event α) :
    ∃ next, (s.step e).EndedAs n why time samples next := by
  have kept {m : Nat} {f : Listener α → Listener α}
      (hf : (f l).feed.end? = l.feed.end? ∧ (f l).endedAt = l.endedAt ∧ (f l).samples = l.samples) :
      ∃ next, (s.onListener m f).EndedAs n why time samples next := by
    obtain ⟨hwhy, htime, hsamples⟩ := hf
    unfold onListener
    split
    · next k hk =>
      by_cases hm : n = m
      · subst hm
        obtain rfl := Option.some.inj (hk.symm.trans h.listener)
        exact ⟨f k, by simp, hwhy.trans h.why, htime.trans h.time, hsamples.trans h.samples⟩
      · exact ⟨l, by simp [hm, h.listener], h.why, h.time, h.samples⟩
    · exact ⟨l, h⟩
  cases e with
  | subscribe m interval cancel =>
    simp only [step, subscribe]
    split
    · next feed hfree hfeed =>
      have hm : n ≠ m := by
        rintro rfl
        simp [h.listener] at hfree
      exact ⟨l, by simp [hm, h.listener], h.why, h.time, h.samples⟩
    · exact ⟨l, h⟩
  | poll m sample =>
    refine kept ?_
    have hended := Feed.end?_eq_some_iff.mp h.why
    obtain ⟨k, t, ht, -⟩ := (sound.paced n l h.listener).of_end? h.why
    simp [Listener.poll, Feed.poll, Feed.due?, hended, ht]
  | receive m =>
    refine kept ?_
    rw [Listener.receive_eq]
    exact ⟨rfl, rfl, rfl⟩
  | cancel m | abandon m | disconnect m => exact kept ⟨rfl, rfl, rfl⟩
  | stop | lose => exact ⟨l, h.listener, h.why, h.time, h.samples⟩
  | elapse span =>
    simp only [step]
    split
    · exact ⟨l, h.listener, h.why, h.time, h.samples⟩
    · exact ⟨l, h⟩

theorem endedAs_run {why : FeedEnd} {time : Option Nat} {samples : List (Nat × α)}
    (sound : Sound s) (h : s.EndedAs n why time samples l) (events : List (Event α)) :
    ∃ next, (s.run events).EndedAs n why time samples next := by
  induction events generalizing s l with
  | nil => exact ⟨l, h⟩
  | cons e rest ih =>
    obtain ⟨next, hnext⟩ := endedAs_step sound h e
    exact ih (sound_step sound e) hnext

/-- Every feed of a source keeps to its schedule, and an end is an end. -/
structure Punctual (s : Station α) : Prop where
  onSchedule : ∀ n l, s.listeners.get? n = some l → l.OnSchedule s.source s.now
  stays : ∀ n l why, s.listeners.get? n = some l → l.feed.end? = some why → ∀ more,
    ∃ next, (s.run more).EndedAs n why l.endedAt l.samples next

/-- **Feeds keep to their schedule**: whatever happens to a source and to its listeners, and whatever
happens at the same time. -/
theorem feed_schedule (events : List (Event α)) : Punctual (run ({} : Station α) events) where
  onSchedule n l hl := by
    have sound := sound_run sound_init events
    exact Listener.onSchedule (sound.paced n l hl) (sound.booked n l hl) _
  stays n l why hl hend more :=
    endedAs_run (sound_run sound_init events) ⟨hl, hend, rfl, rfl⟩ more

/-- At its second tick the source has stopped and the first subscriber has cancelled its feed: the
first feed ends without a sample, and the second one with a final one, which is received late. -/
example : (((run {} [.subscribe 1 20 .pending, .subscribe 2 20 .pending, .poll 1 'a', .poll 2 'a',
    .receive 1, .elapse 20, .stop, .cancel 1, .poll 1 'b', .poll 2 'b', .elapse 50,
    .receive 2]).listeners.entries.map fun (_, l) => (l.samples, l.received, l.feed.end?)) :
      List (List (Nat × Char) × List (Nat × Char) × Option FeedEnd)) =
    [([(0, 'a')], [(0, 'a')], some .cancelled),
      ([(0, 'a'), (20, 'b')], [(1, 'b')], some .sourceStopped)] := by
  decide

end Station
end ClusterControl
