import ClusterControl.Proofs.Cluster.Custody

/-!
# The history of one call

Many calls go on at the same time.  This module follows one of them: a call stays where it is unless
it is polled, an errand of its own is answered, or its caller goes away.

* `CallerMove.callers_eq`, `CallerMove.frame`, `CallerMove.journal` — what a move of one call leaves
  alone, and what it notes.
* `Registry.AgreeBut`, `CallerMove.registry_cases` — a call changes no node but its own.
* `Move.phase_cases` — what one move does to one call whose caller stays.
* `CallPhase.Suits`, `suits_move` — the phases that a call can be in, by what it is about.
* `CameIn` — a call came in, and its caller has stayed since.
* `CameIn.split` — the run since a call came in.
-/

namespace ClusterControl

namespace Registry

variable {r r' r'' : Registry} {name : String}

/-- All that the registries know of nodes other than this one is the same, and so is their order. -/
structure AgreeBut (name : String) (r r' : Registry) : Prop where
  state : r'.state = r.state
  names : r'.names = r.names ∨ r'.names = r.names.filter (· != name)
  records : ∀ other, other ≠ name → r'.records.get? other = r.records.get? other
  configs : ∀ other, other ≠ name → r'.configs.get? other = r.configs.get? other

namespace AgreeBut

theorem refl (name : String) (r : Registry) : AgreeBut name r r :=
  ⟨rfl, .inl rfl, fun _ _ => rfl, fun _ _ => rfl⟩

theorem trans (first : AgreeBut name r r') (second : AgreeBut name r' r'') :
    AgreeBut name r r'' where
  state := second.state.trans first.state
  names := by
    rcases first.names with h | h <;> rcases second.names with h' | h' <;> rw [h', h]
    · exact .inl rfl
    · exact .inr rfl
    · exact .inr rfl
    · exact .inr (by rw [List.filter_filter]; simp)
  records other hne := (second.records other hne).trans (first.records other hne)
  configs other hne := (second.configs other hne).trans (first.configs other hne)

theorem forget (r : Registry) (name : String) : AgreeBut name r (r.forget name) :=
  ⟨rfl, .inr rfl, fun other hne => by simp [Registry.forget, hne],
    fun other hne => by simp [Registry.forget, hne]⟩

theorem restarting (r : Registry) (name : String) (config : NodeConfig) :
    AgreeBut name r (r.restarting name config) :=
  ⟨rfl, .inl rfl, fun other hne => by simp [Registry.restarting, hne],
    fun other hne => by simp [Registry.restarting, hne]⟩

theorem restarted (r : Registry) (name : String) (e : Endpoint) :
    AgreeBut name r (r.restarted name e) :=
  ⟨rfl, .inl rfl, fun other hne => by simp [Registry.restarted, hne], fun _ _ => rfl⟩

theorem names_sublist (h : AgreeBut name r r') : r'.names.Sublist r.names := by
  rcases h.names with h | h
  · rw [h]
  · rw [h]
    exact List.filter_sublist

end AgreeBut
end Registry

/-- The phases that a call can be in, by what it is about. -/
inductive CallPhase.Suits : ClusterCall → CallPhase → Prop
  | fresh (call : ClusterCall) : Suits call (.fresh call)
  | awaitingReady : Suits .waitReady .awaitingReady
  | awaitingStop : Suits .stop .awaitingStop
  | queued (m : Mutation) : Suits (.mutate m) (.queued m)
  | changing {m : Mutation} {phase : CallPhase} (h : phase.charge? = some m.name) :
      Suits (.mutate m) phase
  | returned (call : ClusterCall) (result : Outcome Snapshot) : Suits call (.returned result)
  | crashed (m : Mutation) : Suits (.mutate m) .crashed

namespace CallPhase.Suits

variable {call : ClusterCall}

/-- A call that is changing a node is a change of that node. -/
theorem mutation {phase : CallPhase} {name : String} (h : Suits call phase)
    (hc : phase.charge? = some name) : ∃ m, call = .mutate m ∧ m.name = name := by
  cases h with
  | changing hown =>
    rw [hown, Option.some.injEq] at hc
    exact ⟨_, rfl, hc⟩
  | _ => simp [charge?] at hc

theorem of_fresh {other : ClusterCall} (h : Suits call (.fresh other)) : call = other := by
  cases h with
  | fresh => rfl
  | changing hc => simp [charge?] at hc

theorem of_queued {m : Mutation} (h : Suits call (.queued m)) : call = .mutate m := by
  cases h with
  | queued => rfl
  | changing hc => simp [charge?] at hc

theorem of_awaitingReady (h : Suits call .awaitingReady) : call = .waitReady := by
  cases h with
  | awaitingReady => rfl
  | changing hc => simp [charge?] at hc

/-- A call that goes on with its change of a node is still about that node. -/
theorem proceed {phase after : CallPhase} {name : String} (h : Suits call phase)
    (hc : phase.charge? = some name) (hafter : after.charge? = some name) : Suits call after := by
  obtain ⟨m, rfl, rfl⟩ := h.mutation hc
  exact .changing hafter

end CallPhase.Suits

namespace Cluster

variable {c d : Cluster} {n : Nat}

/-- A move of one call leaves all other calls alone, and that call has begun from then on. -/
theorem CallerMove.callers_eq (h : CallerMove c n d) :
    ∃ phase, d.callers = c.callers.set n phase ∧ ∀ call, phase ≠ .fresh call := by
  cases h with
  | refused ha he => rw [ha.eq]; exact ⟨_, rfl, by simp⟩
  | unconfigured ha he hc => rw [ha.eq]; exact ⟨_, rfl, by simp⟩
  | removes ha he => rw [ha.eq]; exact ⟨_, rfl, by simp⟩
  | replaces ha he hc => rw [ha.eq]; exact ⟨_, rfl, by simp⟩
  | _ => exact ⟨_, rfl, by simp⟩

theorem CallerMove.get?_of_ne {m : Nat} (h : CallerMove c m d) (hne : n ≠ m) :
    d.callers.get? n = c.callers.get? n := by
  obtain ⟨phase, heq, -⟩ := h.callers_eq
  rw [heq, Roster.get?_set, if_neg hne]

/-- A call leaves the launch, the stop and the launched nodes alone, and the latch too unless it
claims it. -/
theorem CallerMove.frame (h : CallerMove c n d) :
    d.starter = c.starter ∧ d.stopper = c.stopper ∧ d.handle = c.handle ∧
      d.stopSignal = c.stopSignal ∧ d.startDone = c.startDone ∧ d.now = c.now ∧
      d.healthTimeout = c.healthTimeout ∧
      d.registry.state = c.registry.state ∧ (d.latch = c.latch ∨ d.latch = c.latch.claim) := by
  cases h with
  | claimsStop h => exact ⟨rfl, rfl, rfl, rfl, rfl, rfl, rfl, rfl, .inr rfl⟩
  | refused ha he => rw [ha.eq]; exact ⟨rfl, rfl, rfl, rfl, rfl, rfl, rfl, rfl, .inl rfl⟩
  | unconfigured ha he hc => rw [ha.eq]; exact ⟨rfl, rfl, rfl, rfl, rfl, rfl, rfl, rfl, .inl rfl⟩
  | removes ha he => rw [ha.eq]; exact ⟨rfl, rfl, rfl, rfl, rfl, rfl, rfl, rfl, .inl rfl⟩
  | replaces ha he hc => rw [ha.eq]; exact ⟨rfl, rfl, rfl, rfl, rfl, rfl, rfl, rfl, .inl rfl⟩
  | _ => exact ⟨rfl, rfl, rfl, rfl, rfl, rfl, rfl, rfl, .inl rfl⟩

/-- A call notes nothing in the journal, or that an errand of its own begins. -/
theorem CallerMove.journal (h : CallerMove c n d) :
    d.journal = c.journal ∨ ∃ phase errand, d.callers.get? n = some phase ∧
      phase.errand? = some errand ∧ d.journal = .asked (.caller n) errand :: c.journal := by
  cases h with
  | refused ha he => rw [ha.eq]; exact .inl rfl
  | unconfigured ha he hc => rw [ha.eq]; exact .inl rfl
  | removes ha he =>
    rw [ha.eq]
    exact .inr ⟨_, _, Roster.get?_set_self .., rfl, rfl⟩
  | replaces ha he hc =>
    rw [ha.eq]
    exact .inr ⟨_, _, Roster.get?_set_self .., rfl, rfl⟩
  | stopped h hs => exact .inr ⟨_, _, Roster.get?_set_self .., rfl, rfl⟩
  | adds h hs => exact .inr ⟨_, _, Roster.get?_set_self .., rfl, rfl⟩
  | awaitsNode h hj hp => exact .inr ⟨_, _, Roster.get?_set_self .., rfl, rfl⟩
  | awaitsAll h hj hp => exact .inr ⟨_, _, Roster.get?_set_self .., rfl, rfl⟩
  | cleans hset => exact .inr ⟨_, _, Roster.get?_set_self .., rfl, rfl⟩
  | _ => exact .inl rfl

/-- A move of a call that changes the registry changes it for the node that the call is changing. -/
theorem CallerMove.registry_cases (h : CallerMove c n d) :
    d.registry = c.registry ∨ ∃ phase name, c.callers.get? n = some phase ∧
      phase.charge? = some name ∧ c.registry.AgreeBut name d.registry := by
  cases h with
  | removed h => exact .inr ⟨_, _, h, rfl, .forget _ _⟩
  | stopped h hs => exact .inr ⟨_, _, h, rfl, .restarting _ _ _⟩
  | adds h hs => exact .inr ⟨_, _, h, rfl, .restarting _ _ _⟩
  | recovers hrec =>
    obtain ⟨phase, hphase, hcharge⟩ := hrec.phase
    exact .inr ⟨phase, _, hphase, hcharge, .restarted _ _ _⟩
  | cleaned h hr => exact .inr ⟨_, _, h, rfl, .forget _ _⟩
  | refused ha he => rw [ha.eq]; exact .inl rfl
  | unconfigured ha he hc => rw [ha.eq]; exact .inl rfl
  | removes ha he => rw [ha.eq]; exact .inl rfl
  | replaces ha he hc => rw [ha.eq]; exact .inl rfl
  | _ => exact .inl rfl

/-- The stop does not put a call into another phase, and leaves the launch alone. -/
theorem StopperMove.frame (h : StopperMove c d) :
    d.callers = c.callers ∧ d.starter = c.starter ∧ d.now = c.now ∧
      d.healthTimeout = c.healthTimeout ∧ d.reportTaken = c.reportTaken := by
  cases h <;> exact ⟨rfl, rfl, rfl, rfl, rfl⟩

/-- What one move does to one call whose caller stays: nothing, or it is the call's own move, or the
answer to its errand is there. -/
theorem Move.phase_cases {e : Event} {phase : CallPhase} (h : Move c e d)
    (hphase : c.callers.get? n = some phase) (he : e ≠ .leave n) :
    d.callers.get? n = some phase ∨ e = .poll (.caller n) ∧ CallerMove c n d ∨
      ∃ errand reply, phase.errand? = some errand ∧ reply.answers errand = true ∧
        e = .answer (.caller n) reply ∧ d.callers.get? n = some (phase.take reply) := by
  cases h with
  | starts h => exact .inl hphase
  | @arrives m call h =>
    refine .inl ?_
    have hne : n ≠ m := by
      rintro rfl
      simp [h] at hphase
    simpa [setCall, hne] using hphase
  | leaves m =>
    refine .inl ?_
    have hne : n ≠ m := fun heq => he (by rw [heq])
    simpa [leave, hne] using hphase
  | elapses ms => exact .inl hphase
  | starterAnswered he ha => exact .inl hphase
  | stopperAnswered he ha => exact .inl hphase
  | @callerAnswered m p errand reply h herrand ha =>
    by_cases hne : n = m
    · subst hne
      obtain rfl := Option.some.inj (h.symm.trans hphase)
      exact .inr (.inr ⟨errand, reply, herrand, ha, rfl, by simp⟩)
    · exact .inl (by simpa [hne] using hphase)
  | starter h => exact .inl (by rw [h.frame.1, hphase])
  | keeper => exact .inl hphase
  | stopper h => exact .inl (by rw [h.frame.1, hphase])
  | @caller m d h =>
    by_cases hne : n = m
    · subst hne
      exact .inr (.inl ⟨rfl, h⟩)
    · exact .inl ((h.get?_of_ne hne).trans hphase)

attribute [grind cases] Admitted Setback Recovery Breakdown

theorem CallerMove.of_fresh_stop (h : CallerMove c n d)
    (hphase : c.callers.get? n = some (.fresh .stop)) :
    d = { c with latch := c.latch.claim }.setCall n .awaitingStop := by
  cases h with
  | claimsStop _ => rfl
  | _ => grind

theorem CallerMove.of_awaitingStop (h : CallerMove c n d)
    (hphase : c.callers.get? n = some .awaitingStop) :
    ∃ outcome, c.latch.outcome? = some outcome ∧
      d = c.setCall n (.returned (stopResult outcome)) := by
  cases h with
  | readsStop _ ho => exact ⟨_, ho, rfl⟩
  | _ => grind

theorem CallerMove.not_of_returned {result : Outcome Snapshot}
    (hphase : c.callers.get? n = some (.returned result)) : ¬ CallerMove c n d := by
  intro h
  cases h with
  | _ => grind

theorem CallerMove.not_of_crashed (hphase : c.callers.get? n = some .crashed) :
    ¬ CallerMove c n d := by
  intro h
  cases h with
  | _ => grind

/-- A call that removes a node because it could not be launched anew returns why it could not,
unless the launcher breaks down. -/
theorem CallerMove.of_cleaning (h : CallerMove c n d) {name : String} {cause : Failure}
    {reply : Pending Unit} (hphase : c.callers.get? n = some (.cleaning name cause reply)) :
    d = { c with registry := c.registry.forget name }.conclude n (.error cause) ∨
      reply = some (.error .crashed) ∧ d = c.breakOff n := by
  cases h with
  | cleaned h hr =>
    obtain ⟨rfl, rfl, -⟩ := CallPhase.cleaning.inj (Option.some.inj (h.symm.trans hphase))
    exact .inl rfl
  | breaks hbreak => exact .inr ⟨by grind, rfl⟩
  | _ => grind

theorem Admitted.suits {m : Mutation} {call : ClusterCall} {phase : CallPhase}
    (h : Admitted c n m d) (hphase : c.callers.get? n = some phase) (hs : phase.Suits call) :
    call = .mutate m := by
  cases h with
  | atOnce h hl =>
    obtain rfl := Option.some.inj (h.symm.trans hphase)
    exact hs.of_fresh
  | inTurn h hl =>
    obtain rfl := Option.some.inj (h.symm.trans hphase)
    exact hs.of_queued

/-- A call that goes on stays about what it is about. -/
theorem CallerMove.suits {call : ClusterCall} {phase : CallPhase} (h : CallerMove c n d)
    (hphase : c.callers.get? n = some phase) (hs : phase.Suits call) :
    ∃ after, d.callers.get? n = some after ∧ after.Suits call := by
  have here {before : CallPhase} (hbefore : c.callers.get? n = some before) :
      before.Suits call := by
    obtain rfl := Option.some.inj (hbefore.symm.trans hphase)
    exact hs
  cases h with
  | denied h ht => exact ⟨_, Roster.get?_set_self .., .returned _ _⟩
  | signsUp h ht =>
    obtain rfl := (here h).of_fresh
    exact ⟨_, Roster.get?_set_self .., .awaitingReady⟩
  | readsFailure h hd hr => exact ⟨_, Roster.get?_set_self .., .returned _ _⟩
  | readsSuccess h hd hr => exact ⟨_, Roster.get?_set_self .., .returned _ _⟩
  | claimsStop h =>
    obtain rfl := (here h).of_fresh
    exact ⟨_, Roster.get?_set_self .., .awaitingStop⟩
  | readsStop h ho => exact ⟨_, Roster.get?_set_self .., .returned _ _⟩
  | queues h hl =>
    obtain rfl := (here h).of_fresh
    exact ⟨_, Roster.get?_set_self .., .queued _⟩
  | refused ha he => exact ⟨_, Roster.get?_set_self .., .returned _ _⟩
  | unconfigured ha he hc => exact ⟨_, Roster.get?_set_self .., .returned _ _⟩
  | removes ha he =>
    obtain rfl := ha.suits hphase hs
    exact ⟨_, Roster.get?_set_self .., .changing rfl⟩
  | replaces ha he hc =>
    obtain rfl := ha.suits hphase hs
    exact ⟨_, Roster.get?_set_self .., .changing rfl⟩
  | removed h => exact ⟨_, Roster.get?_set_self .., .returned _ _⟩
  | removeFails h => exact ⟨_, Roster.get?_set_self .., .returned _ _⟩
  | replaceFails h => exact ⟨_, Roster.get?_set_self .., .returned _ _⟩
  | stopped h _ => exact ⟨_, Roster.get?_set_self .., (here h).proceed rfl rfl⟩
  | adds h _ => exact ⟨_, Roster.get?_set_self .., (here h).proceed rfl rfl⟩
  | awaitsNode h hj hp => exact ⟨_, Roster.get?_set_self .., (here h).proceed rfl rfl⟩
  | awaitsAll h hj hp => exact ⟨_, Roster.get?_set_self .., (here h).proceed rfl rfl⟩
  | cleans hset =>
    obtain ⟨before, h, hc⟩ := hset.phase
    exact ⟨_, Roster.get?_set_self .., (here h).proceed hc rfl⟩
  | recovers hrec => exact ⟨_, Roster.get?_set_self .., .returned _ _⟩
  | cleaned h hr => exact ⟨_, Roster.get?_set_self .., .returned _ _⟩
  | breaks hbreak =>
    obtain ⟨before, h, hc⟩ := hbreak.phase
    obtain ⟨name, hname⟩ := Option.isSome_iff_exists.mp hc
    obtain ⟨m, rfl, -⟩ := (here h).mutation hname
    exact ⟨_, Roster.get?_set_self .., .crashed m⟩

/-- As long as its caller stays, a call is in a phase that suits it. -/
theorem suits_move {e : Event} {call : ClusterCall} (h : Move c e d) (he : e ≠ .leave n)
    (inv : ∃ phase, c.callers.get? n = some phase ∧ phase.Suits call) :
    ∃ phase, d.callers.get? n = some phase ∧ phase.Suits call := by
  obtain ⟨phase, hphase, hs⟩ := inv
  rcases h.phase_cases hphase he with hsame | ⟨-, hown⟩ | ⟨errand, reply, herrand, -, -, htaken⟩
  · exact ⟨phase, hsame, hs⟩
  · exact hown.suits hphase hs
  · obtain ⟨name, hc⟩ := Option.isSome_iff_exists.mp (CallPhase.charge?_isSome_of_errand? herrand)
    have still : (phase.take reply).charge? = some name := by rw [CallPhase.charge?_take, hc]
    exact ⟨phase.take reply, htaken, hs.proceed hc still⟩

/-- A call came in under this number in the course of a run, and its caller has stayed since. -/
def CameIn (c : Cluster) (events : List Event) (n : Nat) (call : ClusterCall) : Prop :=
  ∃ before after, events = before ++ .call n call :: after ∧
    (c.run before).callers.get? n = none ∧ .leave n ∉ after

/-- A run in which a call came in is a run that ends with the call before it, and a run after that
in which its caller stays. -/
theorem CameIn.split {events : List Event} {call : ClusterCall} (h : CameIn c events n call) :
    ∃ before after, events = before ++ after ∧
      (c.run before).callers.get? n = some (.fresh call) ∧ ∀ e ∈ after, e ≠ .leave n := by
  obtain ⟨before, after, rfl, hfree, hstays⟩ := h
  refine ⟨before ++ [.call n call], after, by simp, ?_, ?_⟩
  · rw [run_append, run_cons, run_nil]
    simp [step, Cluster.call, hfree, setCall]
  · rintro e he rfl
    exact hstays he

/-- What holds when a call has come in, and is preserved as long as its caller stays, holds after
the run. -/
theorem CameIn.run_preserves {events : List Event} {call : ClusterCall} {P : Cluster → Prop}
    (h : CameIn c events n call)
    (hfresh : ∀ before, before <+: events →
      (c.run before).callers.get? n = some (.fresh call) → P (c.run before))
    (hmove : ∀ e, e ≠ .leave n → ∀ {c d : Cluster}, Move c e d → P c → P d) :
    P (c.run events) := by
  obtain ⟨before, after, rfl, hphase, hstays⟩ := h.split
  rw [run_append]
  exact Cluster.run_preserves (fun e he => hmove e (hstays e he)) (c.run before)
    (hfresh before (List.prefix_append before after) hphase)

/-- A call whose caller has stayed is in a phase that suits it. -/
theorem CameIn.suits {events : List Event} {call : ClusterCall} (h : CameIn c events n call) :
    ∃ phase, (c.run events).callers.get? n = some phase ∧ phase.Suits call :=
  h.run_preserves (fun _ _ hfresh => ⟨.fresh call, hfresh, .fresh call⟩)
    fun _ he _ _ hmove inv => suits_move hmove he inv

end Cluster
end ClusterControl
