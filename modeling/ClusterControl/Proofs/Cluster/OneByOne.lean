import ClusterControl.Proofs.Cluster.SoloCalls

/-!
# Changes of nodes one after the other

Many callers may ask for changes of nodes at the same time.  Their calls come in, wait for the lock,
and are carried out as their answers come and time passes, all mixed up.  This module takes such a
run apart and puts it together again so that every call comes in only when its turn has come, and
shows that nobody could tell the difference.

* `begins?` — the change that begins in an event, because its call has got the lock.
* `order` — the changes of a run in the order in which their calls got the lock.
* `serial` — the run in which every call comes in when its change begins, and all else is as it was.
* `filterMap_serial`, `filter_serial` — the serial run asks for the same changes, in their order, and
  nothing else in it is different.
* `Shadows` — a cluster without those of another one's calls that have not got the lock yet.
* `shadows_step`, `shadows_run` — the serial run shadows the run that it was made of.
* `oneByOne_serial` — in the serial run a call comes in only when all others are over.
-/

namespace ClusterControl

/-- The call has not got the lock yet. -/
def CallPhase.isAhead : CallPhase → Bool
  | fresh _ => true
  | queued _ => true
  | _ => false

theorem CallPhase.not_isAhead_of_charge {phase : CallPhase} (h : phase.charge?.isSome = true) :
    phase.isAhead = false := by
  cases phase <;> simp [charge?, isAhead] at h ⊢

theorem CallPhase.not_isAhead_of_isOver {phase : CallPhase} (h : phase.isOver = true) :
    phase.isAhead = false := by
  cases phase <;> simp [isOver, isAhead] at h ⊢

theorem CallPhase.contends_of_isOver {phase : CallPhase} (h : phase.isOver = true) :
    phase.contends = false := by
  cases phase <;> simp [isOver, contends, charge?] at h ⊢

/-- A change of a node waits for the lock, is being made, or is over. -/
theorem CallPhase.Suits.cases_of_mutate {m : Mutation} {phase : CallPhase}
    (h : phase.Suits (.mutate m)) :
    phase.isAhead = true ∨ phase.charge?.isSome = true ∨ phase.isOver = true := by
  cases h with
  | fresh => exact .inl rfl
  | queued => exact .inl rfl
  | changing hc => exact .inr (.inl (by simp [hc]))
  | returned => exact .inr (.inr rfl)
  | crashed => exact .inr (.inr rfl)

namespace Cluster

/-- The change of a node that is asked for in an event. -/
def Event.change? : Event → Option (Nat × Mutation)
  | .call n (.mutate m) => some (n, m)
  | _ => none

variable {c d : Cluster} {n : Nat} {e : Event} {m : Mutation} {planned : List NodeConfig}

/-- The change of a node that begins in an event, because its call has got the lock: at once if the
lock is free, else in its turn. -/
def begins? (c : Cluster) : Event → Option (Nat × Mutation)
  | .poll (.caller n) =>
    match c.callers.get? n with
    | some (.fresh (.mutate m)) =>
      if (c.lock.request (.caller n)).isHeldBy (.caller n) then some (n, m) else none
    | some (.queued m) => if c.lock.isHeldBy (.caller n) then some (n, m) else none
    | _ => none
  | _ => none

/-- What is left of an event if calls come in only when their changes begin. -/
def inTurn (c : Cluster) (e : Event) : List Event :=
  match c.begins? e with
  | some (n, m) => [.call n (.mutate m), e]
  | none => if e.change?.isSome then [] else [e]

/-- The changes of a run in the order in which their calls got the lock. -/
def order (c : Cluster) : List Event → List (Nat × Mutation)
  | [] => []
  | e :: rest => (c.begins? e).toList ++ (c.step e).order rest

/-- The run in which every call comes in when its change begins. -/
def serial (c : Cluster) : List Event → List Event
  | [] => []
  | e :: rest => c.inTurn e ++ (c.step e).serial rest

/-- No call is under way. -/
def Idle (c : Cluster) : Prop :=
  ∀ n phase, c.callers.get? n = some phase → phase.isOver = true

/-- Every change of a node is asked for when no call is under way. -/
def OneByOne (c : Cluster) : List Event → Prop
  | [] => True
  | e :: rest => (e.change?.isSome = true → c.Idle) ∧ (c.step e).OneByOne rest

theorem oneByOne_append {first second : List Event} (hfirst : c.OneByOne first)
    (hsecond : (c.run first).OneByOne second) : c.OneByOne (first ++ second) := by
  induction first generalizing c with
  | nil => exact hsecond
  | cons e rest ih => exact ⟨hfirst.1, ih hfirst.2 hsecond⟩

/-- A change begins when its call has got the lock. -/
theorem admitted_of_begins (h : c.begins? e = some (n, m)) :
    e = .poll (.caller n) ∧ ∃ x, Admitted c n m x ∧ c.step e = x.beginMutation n m := by
  unfold begins? at h
  split at h
  · next k =>
    split at h
    · next m' hphase =>
      split at h
      · next hl =>
        obtain ⟨rfl, rfl⟩ := Prod.mk.inj (Option.some.inj h)
        refine ⟨rfl, _, .atOnce hphase hl, ?_⟩
        simp only [step, poll, pollCaller, hphase, beginCall, hl, if_true]
      · simp at h
    · next m' hphase =>
      split at h
      · next hl =>
        obtain ⟨rfl, rfl⟩ := Prod.mk.inj (Option.some.inj h)
        refine ⟨rfl, _, .inTurn hphase hl, ?_⟩
        simp only [step, poll, pollCaller, hphase, hl, if_true]
      · simp at h
    · simp at h
  · simp at h

theorem ahead_of_begins (h : c.begins? e = some (n, m)) :
    ∃ phase, c.callers.get? n = some phase ∧ phase.isAhead = true ∧ phase.Suits (.mutate m) := by
  obtain ⟨-, x, ha, -⟩ := admitted_of_begins h
  cases ha with
  | atOnce hphase hl => exact ⟨_, hphase, rfl, .fresh _⟩
  | inTurn hphase hl => exact ⟨_, hphase, rfl, .queued m⟩

/-- The changes that are asked for in the serial run are those of the run, in their order. -/
theorem filterMap_serial (c : Cluster) (events : List Event) :
    (c.serial events).filterMap Event.change? = c.order events := by
  induction events generalizing c with
  | nil => rfl
  | cons e rest ih =>
    have first : (c.inTurn e).filterMap Event.change? = (c.begins? e).toList := by
      unfold inTurn
      split
      · next n m h =>
        obtain ⟨rfl, -⟩ := admitted_of_begins h
        simp [h, Event.change?]
      · next h =>
        rw [h]
        split
        · rfl
        · next hne => simpa using hne
    rw [serial, order, List.filterMap_append, first, ih]

/-- Nothing but when calls come in is different in the serial run. -/
theorem filter_serial (c : Cluster) (events : List Event) :
    (c.serial events).filter (fun e => e.change?.isNone) =
      events.filter fun e => e.change?.isNone := by
  induction events generalizing c with
  | nil => rfl
  | cons e rest ih =>
    have first : (c.inTurn e).filter (fun e => e.change?.isNone) =
        [e].filter fun e => e.change?.isNone := by
      unfold inTurn
      split
      · rfl
      · split
        · next hcall => simp [Option.isSome_iff_ne_none.mp hcall]
        · rfl
    rw [serial, List.filter_append, first, ih, ← List.filter_append, List.singleton_append]

theorem onlyChanges_inTurn (he : e.onlyChanges = true) :
    ∀ e' ∈ c.inTurn e, e'.onlyChanges = true := by
  intro e' hmem
  unfold inTurn at hmem
  split at hmem
  · rcases List.mem_pair.mp hmem with rfl | rfl
    · rfl
    · exact he
  · split at hmem
    · simp at hmem
    · obtain rfl := List.mem_singleton.mp hmem
      exact he

/-! ## Shadows -/

/-- The second cluster is the first one without the calls that have not got the lock yet. -/
structure Shadows (c d : Cluster) : Prop where
  eq : d = c.withCalls d.callers d.lock
  callers : ∀ n, d.callers.get? n = (c.callers.get? n).filter fun phase => !phase.isAhead

namespace Shadows

theorem get?_of_ahead (h : Shadows c d) {phase : CallPhase} (hphase : c.callers.get? n = some phase)
    (hahead : phase.isAhead = true) : d.callers.get? n = none := by
  simp [h.callers, hphase, hahead]

theorem get?_of_not_ahead (h : Shadows c d) {phase : CallPhase}
    (hphase : c.callers.get? n = some phase) (hahead : phase.isAhead = false) :
    d.callers.get? n = some phase := by
  simp [h.callers, hphase, hahead]

theorem of_get? (h : Shadows c d) {phase : CallPhase} (hphase : d.callers.get? n = some phase) :
    c.callers.get? n = some phase ∧ phase.isAhead = false := by
  rw [h.callers] at hphase
  simpa [Option.filter_eq_some_iff] using hphase

/-- The calls of an idle cluster have all got their turn. -/
theorem refl (idle : c.Idle) : Shadows c c where
  eq := rfl
  callers n := by
    cases hphase : c.callers.get? n with
    | none => rfl
    | some phase =>
      simp [Option.filter, CallPhase.not_isAhead_of_isOver (idle n phase hphase)]

theorem snapshot_eq (h : Shadows c d) : d.snapshot = c.snapshot := by
  rw [h.eq]
  rfl

/-- A call that is over has the same result in both clusters. -/
theorem get?_iff_of_isOver (h : Shadows c d) {phase : CallPhase} (hover : phase.isOver = true) :
    d.callers.get? n = some phase ↔ c.callers.get? n = some phase :=
  ⟨fun hphase => (h.of_get? hphase).1,
    fun hphase => h.get?_of_not_ahead hphase (CallPhase.not_isAhead_of_isOver hover)⟩

theorem result?_eq (h : Shadows c d) : d.result? n = c.result? n := by
  have hphase := h.callers n
  unfold result?
  cases hc : c.callers.get? n with
  | none => simp [hphase, hc]
  | some phase => cases phase <;> simp [hphase, hc, Option.filter, CallPhase.isAhead]

/-- One call takes the same turn in both clusters. -/
theorem turn {t : Turn} (fair : t.Fair) {callers callers' : Roster CallPhase}
    (lock lock' : FairLock Worker) (h : ∀ k, k ≠ n → callers'.get? k =
      (callers.get? k).filter fun phase => !phase.isAhead) :
    Shadows (t.on n callers lock) (t.on n callers' lock') where
  eq := rfl
  callers k := by
    have behind : t.phase.isAhead = false := by
      unfold Turn.Fair at fair
      split at fair
      · exact CallPhase.not_isAhead_of_isOver fair
      · exact CallPhase.not_isAhead_of_charge fair
    simp only [Turn.on, withCalls, Roster.get?_set]
    split
    · simp [Option.filter, behind]
    · next hk => exact h k hk

end Shadows

/-- If no call is changing a node, a cluster of which all calls have got their turn has a free
lock. -/
theorem Serving.holder_eq_none (inv : Serving planned c)
    (h : ∀ n phase, c.callers.get? n = some phase → phase.contends = false) :
    c.lock.holder = none := by
  refine inv.toLined.free_of_idle fun w => ?_
  cases w with
  | starter => rfl
  | keeper => rfl
  | stopper => simp [contends, inv.stopper, StopPhase.prior?]
  | caller k =>
    cases hphase : c.callers.get? k with
    | none => simp [contends, hphase]
    | some phase => rw [contends_caller hphase, h k phase hphase]

/-- When a change begins, all calls of the shadow are over. -/
theorem Shadows.idle_of_begins (r : Shadows c d) (hc : Serving planned c)
    (h : c.begins? e = some (n, m)) : d.Idle := by
  intro k phase hphase
  obtain ⟨hthere, behind⟩ := r.of_get? hphase
  obtain ⟨-, x, ha, -⟩ := admitted_of_begins h
  obtain ⟨p, hp, hahead, -⟩ := ahead_of_begins h
  have other : k ≠ n := by
    rintro rfl
    obtain rfl := Option.some.inj (hp.symm.trans hthere)
    simp [hahead] at behind
  have uncharged := (hc.toCustody.alone_of_admitted ha).others k phase other hthere
  rcases hc.calls k phase hthere with hover | ⟨m', suits⟩
  · exact hover
  · rcases suits.cases_of_mutate with hahead' | hcharge | hover
    · simp [behind] at hahead'
    · simp [uncharged] at hcharge
    · exact hover

/-- A call that comes in when the lock is free begins as soon as it goes on. -/
theorem run_call (hfree : d.callers.get? n = none) (hlock : d.lock.holder = none) (m : Mutation) :
    d.run [.call n (.mutate m), .poll (.caller n)] =
      (d.withCalls (d.callers.set n (.fresh (.mutate m)))
        (d.lock.request (.caller n))).beginMutation n m := by
  have held : (d.lock.request (.caller n)).isHeldBy (.caller n) = true := by
    simp [FairLock.request, hlock, FairLock.isHeldBy]
  simp only [run_cons, run_nil, step, Cluster.call, hfree, poll, pollCaller, setCall,
    Roster.get?_set_self, beginCall, held, if_true]
  rfl

theorem shadows_begins (hc : Serving planned c) (hd : Serving planned d) (r : Shadows c d)
    (h : c.begins? e = some (n, m)) : Shadows (c.step e) (d.run [.call n (.mutate m), e]) := by
  obtain ⟨rfl, x, ha, hstep⟩ := admitted_of_begins h
  obtain ⟨phase, hphase, hahead, -⟩ := ahead_of_begins h
  have idle := r.idle_of_begins hc h
  have free := hd.holder_eq_none fun k p hp => CallPhase.contends_of_isOver (idle k p hp)
  obtain ⟨t, fair, same⟩ := takesTurn_beginMutation c n m
  have first : c.step (.poll (.caller n)) = t.on n c.callers x.lock := by
    rw [hstep, ha.eq]
    exact same c.callers x.lock
  have moved (callers : Roster CallPhase) (lock : FairLock Worker) :
      (d.withCalls callers lock).beginMutation n m = t.on n callers lock := by
    rw [r.eq]
    exact same callers lock
  rw [first, run_call (r.get?_of_ahead hphase hahead) free m, moved]
  refine Shadows.turn fair _ _ fun k hk => ?_
  rw [Roster.get?_set, if_neg hk, r.callers]

/-- A call that goes on without beginning its change. -/
theorem shadows_pollCaller (hc : Serving planned c) (r : Shadows c d)
    (h : c.begins? (.poll (.caller n)) = none) :
    Shadows (c.pollCaller n) (d.pollCaller n) := by
  cases hphase : c.callers.get? n with
  | none =>
    have free : d.callers.get? n = none := by simp [r.callers, hphase]
    simpa only [pollCaller, hphase, free] using r
  | some phase =>
    by_cases hahead : phase.isAhead = true
    · have free := r.get?_of_ahead hphase hahead
      have idle : d.pollCaller n = d := by simp only [pollCaller, free]
      rw [idle]
      cases phase with
      | fresh call =>
        obtain ⟨m, rfl⟩ : ∃ m, call = .mutate m := by
          rcases hc.calls n _ hphase with hover | ⟨m, suits⟩
          · simp [CallPhase.isOver] at hover
          · exact ⟨m, suits.of_fresh.symm⟩
        simp only [begins?, hphase] at h
        split at h
        · simp at h
        · next hl =>
          have queues : c.pollCaller n =
              { c with lock := c.lock.request (.caller n) }.setCall n (.queued m) := by
            simp only [pollCaller, hphase, beginCall]
            exact if_neg hl
          rw [queues]
          refine ⟨r.eq, fun k => ?_⟩
          simp only [setCall, Roster.get?_set]
          split
          · next hk => simp [hk, free, Option.filter, CallPhase.isAhead]
          · exact r.callers k
      | queued m =>
        simp only [begins?, hphase] at h
        split at h
        · simp at h
        · next hl =>
          have waits : c.pollCaller n = c := by
            simp only [pollCaller, hphase]
            exact if_neg hl
          rw [waits]
          exact r
      | _ => simp [CallPhase.isAhead] at hahead
    · have behind : phase.isAhead = false := by simpa using hahead
      have there := r.get?_of_not_ahead hphase behind
      by_cases hcharge : phase.charge?.isSome = true
      · obtain ⟨t, fair, same⟩ := exists_turn c n hcharge
        have first : c.pollCaller n = t.on n c.callers c.lock := same c.callers c.lock hphase
        have second : d.pollCaller n = t.on n d.callers d.lock := by
          rw [← same d.callers d.lock there, ← r.eq]
        rw [first, second]
        exact Shadows.turn fair _ _ fun k _ => r.callers k
      · have ended : phase.isOver = true := by
          rcases hc.calls n phase hphase with hover | ⟨m, suits⟩
          · exact hover
          · exact (suits.cases_of_mutate.resolve_left hahead).resolve_left hcharge
        have first : c.pollCaller n = c := by
          cases phase <;> simp [CallPhase.isOver] at ended <;> simp only [pollCaller, hphase]
        have second : d.pollCaller n = d := by
          cases phase <;> simp [CallPhase.isOver] at ended <;> simp only [pollCaller, there]
        rw [first, second]
        exact r

/-- The answer to an errand is there. -/
theorem shadows_answer (hc : Serving planned c) (hd : Serving planned d) (r : Shadows c d)
    (w : Worker) (reply : Reply) : Shadows (c.answer w reply) (d.answer w reply) := by
  have ignored {b : Cluster} (h : b.errand? w = none) : b.answer w reply = b := by
    simp only [answer, h]
  cases w with
  | starter =>
    rw [ignored (by simp only [errand?, hc.starter]), ignored (by simp only [errand?, hd.starter])]
    exact r
  | keeper => exact r
  | stopper =>
    rw [ignored (by simp only [errand?, hc.stopper]), ignored (by simp only [errand?, hd.stopper])]
    exact r
  | caller k =>
    cases herrand : c.errand? (.caller k) with
    | none =>
      have nothing : d.errand? (.caller k) = none := by
        rw [errand?_caller] at herrand ⊢
        cases hphase : d.callers.get? k with
        | none => rfl
        | some phase => simpa [(r.of_get? hphase).1] using herrand
      rw [ignored herrand, ignored nothing]
      exact r
    | some errand =>
      obtain ⟨phase, hphase, he⟩ :=
        Option.bind_eq_some_iff.mp ((errand?_caller c k).symm.trans herrand)
      have charged := CallPhase.charge?_isSome_of_errand? he
      have there := r.get?_of_not_ahead hphase (CallPhase.not_isAhead_of_charge charged)
      have herrand' : d.errand? (.caller k) = some errand := by
        rw [errand?_caller, there, Option.bind_some, he]
      simp only [answer, herrand, herrand', receive_caller hphase, receive_caller there]
      split
      · -- The call that has its answer is changing a node in both clusters.
        let t : Turn := ⟨{ c with journal := .answered (.caller k) errand reply :: c.journal },
          phase.take reply, false⟩
        have turn : Shadows (t.on k c.callers c.lock) (t.on k d.callers d.lock) :=
          .turn (by simpa [Turn.Fair, t] using charged) c.lock d.lock fun j _ => r.callers j
        have second : t.on k d.callers d.lock = { d with
            callers := d.callers.set k (phase.take reply)
            journal := .answered (.caller k) errand reply :: d.journal } := by
          rw [r.eq]
          rfl
        rw [second] at turn
        exact turn
      · exact r

/-- In every event the serial run keeps step. -/
theorem shadows_step (hc : Serving planned c) (hd : Serving planned d) (r : Shadows c d)
    (he : e.onlyChanges = true) : Shadows (c.step e) (d.run (c.inTurn e)) := by
  unfold inTurn
  split
  · next n m h => exact shadows_begins hc hd r h
  · next h =>
    cases e with
    | start =>
      have same {b : Cluster} (hb : b.registry.state = .healthy) : b.step .start = b := by
        simp [step, start, hb, Lifecycle.canAdvance]
      simpa [Event.change?, same hc.healthy, same hd.healthy] using r
    | call k call =>
      cases call with
      | mutate m =>
        simp only [Event.change?, Option.isSome_some, if_true, run_nil, step, Cluster.call]
        split
        · exact r
        · next hfree =>
          refine ⟨r.eq, fun j => ?_⟩
          simp only [setCall, Roster.get?_set]
          split
          · next hj => simp [hj, r.callers, hfree, Option.filter, CallPhase.isAhead]
          · exact r.callers j
      | waitReady => simp [Event.onlyChanges] at he
      | stop => simp [Event.onlyChanges] at he
    | leave k => simp [Event.onlyChanges] at he
    | poll w =>
      simp only [Event.change?, Option.isSome_none, Bool.false_eq_true, if_false, run_cons, run_nil]
      cases w with
      | starter =>
        have same {b : Cluster} (hb : b.starter = .ended) : b.step (.poll .starter) = b := by
          simp only [step, poll, pollStarter, hb]
        rw [same hc.starter, same hd.starter]
        exact r
      | keeper =>
        refine ⟨?_, r.callers⟩
        simp only [step, poll]
        rw [r.eq]
        rfl
      | stopper => simp [Event.onlyChanges] at he
      | caller k => exact shadows_pollCaller hc r h
    | answer w reply =>
      simp only [Event.change?, Option.isSome_none, Bool.false_eq_true, if_false, run_cons, run_nil]
      exact shadows_answer hc hd r w reply
    | elapse ms =>
      simp only [Event.change?, Option.isSome_none, Bool.false_eq_true, if_false, run_cons, run_nil]
      refine ⟨?_, r.callers⟩
      simp only [step]
      rw [r.eq]
      rfl

/-- The serial run shadows the run that it was made of. -/
theorem shadows_run {events : List Event} (hc : Serving planned c) (hd : Serving planned d)
    (r : Shadows c d) (he : ∀ e ∈ events, e.onlyChanges = true) :
    Shadows (c.run events) (d.run (c.serial events)) := by
  induction events generalizing c d with
  | nil => exact r
  | cons e rest ih =>
    have first := he e List.mem_cons_self
    rw [serial, run_append, run_cons]
    exact ih (serving_step hc first) (serving_run hd (onlyChanges_inTurn first))
      (shadows_step hc hd r first) fun e' he' => he e' (List.mem_cons_of_mem e he')

/-- In the serial run every change is asked for when no call is under way. -/
theorem oneByOne_serial {events : List Event} (hc : Serving planned c) (hd : Serving planned d)
    (r : Shadows c d) (he : ∀ e ∈ events, e.onlyChanges = true) :
    d.OneByOne (c.serial events) := by
  induction events generalizing c d with
  | nil => trivial
  | cons e rest ih =>
    have first := he e List.mem_cons_self
    refine oneByOne_append ?_ (ih (serving_step hc first)
      (serving_run hd (onlyChanges_inTurn first)) (shadows_step hc hd r first)
      fun e' he' => he e' (List.mem_cons_of_mem e he'))
    unfold inTurn
    split
    · next n m h =>
      obtain ⟨rfl, -⟩ := admitted_of_begins h
      exact ⟨fun _ => r.idle_of_begins hc h, by simp [Event.change?], trivial⟩
    · split
      · trivial
      · next hcall => exact ⟨fun h => absurd h hcall, trivial⟩

end Cluster
end ClusterControl
