import ClusterControl.Proofs.Cluster.ShutdownOnce

/-!
# A stop and changes of nodes take turns

A stop may be asked for while nodes are being changed, and nodes while the cluster is being stopped.
This module proves that the launcher never has to do both at once.

* `Closed` — once a stop has got the lock, nobody is changing a node, and nobody ever will be.
* `Aborting` — where a restart stands that found a stop requested when its node was gone.
* `stop_serialised` — changes of nodes and the stop of a cluster are made one after the other, and
  a stopped cluster stays as it is.
-/

namespace ClusterControl

/-- The stop has got the lock, whatever it has done with it since. -/
def StopPhase.isAdmitted : StopPhase → Bool
  | unborn => false
  | queued _ => false
  | _ => true

@[simp] theorem StopPhase.isAdmitted_take (reply : Reply) (phase : StopPhase) :
    (phase.take reply).isAdmitted = phase.isAdmitted := by
  unfold take
  split <;> rfl

namespace Cluster

variable {c d : Cluster} {n : Nat}

/-- Once a stop has got the lock, no node is changed any more. -/
structure Closed (c : Cluster) : Prop where
  quiet : c.stopper.isAdmitted = true →
    ∀ n phase, c.callers.get? n = some phase → phase.charge? = none
  asked_admitted : 0 < c.journal.shutdowns → c.stopper.isAdmitted = true

/-- A call that is not changing a node does not begin to unless the cluster is healthy. -/
theorem CallerMove.charge?_eq_none (h : CallerMove c n d) {phase : CallPhase}
    (hphase : c.callers.get? n = some phase) (hc : phase.charge? = none)
    (hstate : c.registry.state ≠ .healthy) :
    ∃ after, d.callers = c.callers.set n after ∧ after.charge? = none := by
  have same {p : CallPhase} (hp : c.callers.get? n = some p) (hcharge : p.charge?.isSome = true) :
      False := by
    obtain rfl := Option.some.inj (hp.symm.trans hphase)
    simp [hc] at hcharge
  cases h with
  | refused ha he => rw [ha.eq]; exact ⟨_, rfl, rfl⟩
  | unconfigured ha he hc => rw [ha.eq]; exact ⟨_, rfl, rfl⟩
  | removes ha he =>
    have healthy := (healthy_of_refusal? he).1
    rw [ha.eq] at healthy
    exact absurd healthy hstate
  | replaces ha he hc =>
    have healthy := (healthy_of_refusal? he).1
    rw [ha.eq] at healthy
    exact absurd healthy hstate
  | stopped h hs => exact (same h rfl).elim
  | adds h hs => exact (same h rfl).elim
  | awaitsNode h hj hp => exact (same h rfl).elim
  | awaitsAll h hj hp => exact (same h rfl).elim
  | cleans hset =>
    obtain ⟨p, hp, hcharge⟩ := hset.phase
    exact (same hp (by simp [hcharge])).elim
  | _ => exact ⟨_, rfl, rfl⟩

theorem CallerMove.phase (h : CallerMove c n d) : ∃ phase, c.callers.get? n = some phase := by
  cases h with
  | refused ha he => obtain ⟨p, hp, -⟩ := ha.phase; exact ⟨p, hp⟩
  | unconfigured ha he hc => obtain ⟨p, hp, -⟩ := ha.phase; exact ⟨p, hp⟩
  | removes ha he => obtain ⟨p, hp, -⟩ := ha.phase; exact ⟨p, hp⟩
  | replaces ha he hc => obtain ⟨p, hp, -⟩ := ha.phase; exact ⟨p, hp⟩
  | cleans hset => obtain ⟨p, hp, -⟩ := hset.phase; exact ⟨p, hp⟩
  | recovers hrec => obtain ⟨p, hp, -⟩ := hrec.phase; exact ⟨p, hp⟩
  | breaks hbreak => obtain ⟨p, hp, -⟩ := hbreak.phase; exact ⟨p, hp⟩
  | _ h => exact ⟨_, h⟩

/-- Only the stop asks for a shutdown. -/
theorem shutdowns_of_ne {e : Event} (h : Move c e d) (he : e ≠ .poll .stopper) :
    d.journal.shutdowns = c.journal.shutdowns := by
  cases h with
  | starterAnswered _ _ => simp [JournalEntry.asksShutdown]
  | stopperAnswered _ _ => simp [JournalEntry.asksShutdown]
  | callerAnswered _ _ _ => simp [JournalEntry.asksShutdown]
  | starter h => cases h <;> simp [startFailed, leaveReport, ask, JournalEntry.asksShutdown]
  | stopper h => exact absurd rfl he
  | caller h =>
    rcases h.journal with hjournal | ⟨phase, errand, -, herrand, hjournal⟩
    · rw [hjournal]
    · rw [hjournal]
      exact Journal.shutdowns_of_minor _ (CallPhase.isMinor_of_errand? herrand)
  | _ => rfl

theorem isAdmitted_move {e : Event} (h : Move c e d) (ha : c.stopper.isAdmitted = true) :
    d.stopper.isAdmitted = true := by
  by_cases he : e = .poll .stopper
  · subst he
    cases h with
    | stopper h =>
      cases h with
      | begins h _ => simp [h, StopPhase.isAdmitted] at ha
      | tells h => exact ha
      | _ => rfl
  · rcases stopper_of_ne h he with hsame | ⟨reply, -, htake⟩
    · rw [hsame, ha]
    · rw [htake, StopPhase.isAdmitted_take, ha]

theorem closed_stopper (order : Orderly c) (inv : Closed c) (h : StopperMove c d) : Closed d := by
  have free (hl : c.lock.isHeldBy .stopper = true) (n : Nat) (phase : CallPhase)
      (hphase : c.callers.get? n = some phase) : phase.charge? = none := by
    by_contra hcharge
    have holds := order.charge_holds n phase hphase (Option.isSome_iff_ne_none.mpr hcharge)
    simp [FairLock.isHeldBy_iff.mp hl] at holds
  cases h with
  | begins h ha =>
    exact ⟨fun hadmitted => by simp [StopPhase.isAdmitted] at hadmitted,
      fun hasked => by simpa [h, StopPhase.isAdmitted] using inv.asked_admitted hasked⟩
  | shuts h hl hh => exact ⟨fun _ => free hl, fun _ => rfl⟩
  | passes h hl hh => exact ⟨fun _ => free hl, fun _ => rfl⟩
  | goesOn h hr => exact ⟨fun _ => inv.quiet (by rw [h]; rfl), fun _ => rfl⟩
  | tells h => exact ⟨inv.quiet, inv.asked_admitted⟩
  | shutsAgain h hd hh => exact ⟨fun _ => inv.quiet (by rw [h]; rfl), fun _ => rfl⟩
  | ends hends =>
    have admitted : c.stopper.isAdmitted = true := by
      cases hends <;> simp [*, StopPhase.isAdmitted]
    exact ⟨fun _ => inv.quiet admitted, fun _ => rfl⟩
  | crashes h => exact ⟨fun _ => inv.quiet (by rw [h]; rfl), fun _ => rfl⟩

/-- Once a stop has got the lock, no move changes a node. -/
theorem closed_move {e : Event} (h : Move c e d) (order : Orderly c) (inv : Closed c) :
    Closed d := by
  by_cases he : e = .poll .stopper
  · subst he
    cases h with
    | stopper h => exact closed_stopper order inv h
  · have admitted_iff : d.stopper.isAdmitted = c.stopper.isAdmitted := by
      rcases stopper_of_ne h he with hsame | ⟨reply, -, htake⟩
      · rw [hsame]
      · rw [htake, StopPhase.isAdmitted_take]
    refine ⟨fun hadmitted n phase hphase => ?_, fun hasked => ?_⟩
    · rw [admitted_iff] at hadmitted
      have quiet := inv.quiet hadmitted
      have unhealthy : c.registry.state ≠ .healthy := by
        intro hhealthy
        have unsignalled : c.stopSignal = false := by
          by_contra hsignal
          have stopping := order.signal_iff.mp (by simpa using hsignal)
          simp [hhealthy, Lifecycle.isStopping] at stopping
        simp [order.stopper_unborn_iff.mpr unsignalled, StopPhase.isAdmitted] at hadmitted
      cases h with
      | @arrives m call hfree =>
        simp only [setCall, Roster.get?_set] at hphase
        split at hphase
        · obtain rfl := Option.some.inj hphase
          rfl
        · exact quiet n phase hphase
      | leaves m =>
        simp only [leave, Roster.get?_erase] at hphase
        split at hphase
        · simp at hphase
        · exact quiet n phase hphase
      | @callerAnswered m p errand reply hp herrand ha =>
        simp only [Roster.get?_set] at hphase
        split at hphase
        · obtain rfl := Option.some.inj hphase
          rw [CallPhase.charge?_take]
          exact quiet m p hp
        · exact quiet n phase hphase
      | starter h =>
        rw [h.frame.1] at hphase
        exact quiet n phase hphase
      | stopper h => exact absurd rfl he
      | @caller m d h =>
        obtain ⟨before, hbefore⟩ := h.phase
        obtain ⟨after, hcallers, hafter⟩ :=
          h.charge?_eq_none hbefore (quiet m before hbefore) unhealthy
        rw [hcallers, Roster.get?_set] at hphase
        split at hphase
        · obtain rfl := Option.some.inj hphase
          exact hafter
        · exact quiet n phase hphase
      | _ => exact quiet n phase hphase
    · rw [shutdowns_of_ne h he] at hasked
      rw [admitted_iff]
      exact inv.asked_admitted hasked

theorem closed_of_plan {options : ClusterOptions} {params : StartParams} {pid : UInt32}
    {obstacle : Option IoError} (h : plan options params pid obstacle = .ok c) : Closed c := by
  obtain ⟨configs, -, rfl⟩ := plan_eq_ok h
  constructor <;> simp [StopPhase.isAdmitted, Journal.shutdowns]

/-- Once a stop has got the lock, the launcher is never asked to change a node again. -/
theorem nodeChanges_move {e : Event} (h : Move c e d) (order : Orderly c) (inv : Closed c)
    (ha : c.stopper.isAdmitted = true) : d.journal.nodeChanges = c.journal.nodeChanges := by
  have quiet := (closed_move h order inv).quiet (isAdmitted_move h ha)
  cases h with
  | starterAnswered _ _ => simp [JournalEntry.asksChange]
  | stopperAnswered _ _ => simp [JournalEntry.asksChange]
  | callerAnswered _ _ _ => simp [JournalEntry.asksChange]
  | starter h =>
    cases h <;> simp [startFailed, leaveReport, ask, JournalEntry.asksChange, Errand.changesNode]
  | stopper h =>
    cases h <;> simp [stopEnded, leaveReport, ask, JournalEntry.asksChange, Errand.changesNode]
  | caller h =>
    rcases h.journal with hjournal | ⟨phase, errand, hphase, herrand, -⟩
    · rw [hjournal]
    · have charged := CallPhase.charge?_isSome_of_errand? herrand
      simp [quiet _ phase hphase] at charged
  | _ => rfl

/-- Only calls have errands in the air that change a node, and only calls that are changing one. -/
theorem charge_of_changesNode {w : Worker} {errand : Errand} (h : c.errand? w = some errand)
    (hchange : errand.changesNode = true) :
    ∃ n phase, w = .caller n ∧ c.callers.get? n = some phase ∧ phase.charge?.isSome = true := by
  cases w with
  | starter =>
    simp only [errand?] at h
    split at h
    · obtain rfl := Option.some.inj h
      simp [Errand.changesNode] at hchange
    · obtain rfl := Option.some.inj h
      simp [Errand.changesNode] at hchange
    · simp at h
  | keeper => simp [errand?] at h
  | stopper =>
    simp only [errand?] at h
    split at h
    · obtain rfl := Option.some.inj h
      simp [Errand.changesNode] at hchange
    · simp at h
  | caller n =>
    rw [errand?_caller] at h
    obtain ⟨phase, hphase, herrand⟩ := Option.bind_eq_some_iff.mp h
    exact ⟨n, phase, rfl, hphase, CallPhase.charge?_isSome_of_errand? herrand⟩

/-! ## A restart that finds a stop -/

/-- Where a restart stands that found a stop requested when its node was gone, given whether the
launcher has broken down over it since. -/
inductive Aborting (name : String) (broken : Prop) : CallPhase → Prop
  | cleaning {reply : Pending Unit} (h : reply = some (.error .crashed) → broken) :
      Aborting name broken (.cleaning name .aborted reply)
  | returned : Aborting name broken (.returned (.error .aborted))
  | crashed (h : broken) : Aborting name broken .crashed

/-- A call asks for a node only when it goes on. -/
theorem addsBy_of_ne {e : Event} (h : Move c e d) (he : e ≠ .poll (.caller n)) :
    d.journal.addsBy n = c.journal.addsBy n := by
  cases h with
  | starterAnswered _ _ => simp [JournalEntry.asksAdd]
  | stopperAnswered _ _ => simp [JournalEntry.asksAdd]
  | callerAnswered _ _ _ => simp [JournalEntry.asksAdd]
  | starter h => cases h <;> simp [startFailed, leaveReport, ask, JournalEntry.asksAdd]
  | stopper h => cases h <;> simp [stopEnded, leaveReport, ask, JournalEntry.asksAdd]
  | @caller m d h =>
    rcases h.journal with hjournal | ⟨phase, errand, -, -, hjournal⟩
    · rw [hjournal]
    · have other : m ≠ n := fun heq => he (by rw [heq])
      rw [hjournal]
      cases errand <;> simp [JournalEntry.asksAdd, other]
  | _ => rfl

/-- A restart that was aborted returns that it was, and never asks for its node. -/
theorem aborting_move {e : Event} {name : String} {broken : Prop} (h : Move c e d)
    (he : e ≠ .leave n) (hbroken : e = .answer (.caller n) (.mishap .crashed) → broken)
    (ha : ∃ phase, c.callers.get? n = some phase ∧ Aborting name broken phase) :
    d.journal.addsBy n = c.journal.addsBy n ∧
      ∃ phase, d.callers.get? n = some phase ∧ Aborting name broken phase := by
  obtain ⟨phase, hphase, ha⟩ := ha
  by_cases hown : e = .poll (.caller n)
  · subst hown
    cases h with
    | caller h =>
      cases ha with
      | cleaning hcrashed =>
        rcases h.of_cleaning hphase with rfl | ⟨hreply, rfl⟩
        · exact ⟨rfl, _, Roster.get?_set_self .., .returned⟩
        · exact ⟨rfl, _, Roster.get?_set_self .., .crashed (hcrashed hreply)⟩
      | returned => exact absurd h (CallerMove.not_of_returned hphase)
      | crashed => exact absurd h (CallerMove.not_of_crashed hphase)
  · refine ⟨addsBy_of_ne h hown, ?_⟩
    rcases h.phase_cases hphase he with hsame | ⟨heq, -⟩ | ⟨errand, reply, herrand, -, heq, htake⟩
    · exact ⟨phase, hsame, ha⟩
    · exact absurd heq hown
    · refine ⟨_, htake, ?_⟩
      cases ha with
      | @cleaning before hcrashed =>
        cases before with
        | none =>
          exact .cleaning fun hreply => hbroken (by rw [heq, Reply.eq_mishap_of_toDone hreply])
        | some reply => simp [CallPhase.errand?] at herrand
      | returned => simp [CallPhase.errand?] at herrand
      | crashed => simp [CallPhase.errand?] at herrand

/-- A number that is free stays free until a call comes in under it. -/
theorem Move.stays_free {e : Event} (h : Move c e d) (hfree : c.callers.get? n = none)
    (hcall : ∀ call, e ≠ .call n call) :
    d.callers.get? n = none ∧ e ≠ .poll (.caller n) := by
  cases h with
  | @arrives m call hm =>
    have hne : n ≠ m := fun heq => hcall call (by rw [heq])
    simpa [setCall, hne] using hfree
  | leaves m => simp [leave, hfree]
  | @callerAnswered m phase errand reply hm he ha =>
    have hne : n ≠ m := by
      rintro rfl
      simp [hm] at hfree
    simpa [hne] using hfree
  | stopper h => exact ⟨by rw [h.frame.1, hfree], by simp⟩
  | starter h => exact ⟨by rw [h.frame.1, hfree], by simp⟩
  | @caller m d h =>
    have hne : n ≠ m := by
      rintro rfl
      obtain ⟨phase, hphase⟩ := h.phase
      simp [hphase] at hfree
    exact ⟨(h.get?_of_ne hne).trans hfree, fun heq => hne (by cases heq; rfl)⟩
  | _ => exact ⟨hfree, by simp⟩

/-- A restart that was aborted never asks for its node, whether or not its caller goes away, as long
as no other call comes in under its number. -/
theorem aborting_or_gone_move {e : Event} {name : String} (h : Move c e d)
    (hcall : ∀ call, e ≠ .call n call)
    (ha : ∀ phase, c.callers.get? n = some phase → Aborting name True phase) :
    d.journal.addsBy n = c.journal.addsBy n ∧
      ∀ phase, d.callers.get? n = some phase → Aborting name True phase := by
  by_cases hleave : e = .leave n
  · subst hleave
    cases h with
    | leaves => exact ⟨rfl, by simp [leave]⟩
  · cases hphase : c.callers.get? n with
    | some phase =>
      obtain ⟨hadds, after, hafter, aborting⟩ :=
        aborting_move h hleave (fun _ => trivial) ⟨phase, hphase, ha phase hphase⟩
      refine ⟨hadds, fun phase' hphase' => ?_⟩
      rw [hafter] at hphase'
      exact Option.some.inj hphase' ▸ aborting
    | none =>
      obtain ⟨free, hown⟩ := h.stays_free hphase hcall
      exact ⟨addsBy_of_ne h hown, by simp [free]⟩

/-- A restart that is aborted removes the node for good, and does not ask for it. -/
theorem aborting_cleanUp (n : Nat) (name : String) (c : Cluster) (broken : Prop) :
    (c.cleanUp n name .aborted).journal.addsBy n = c.journal.addsBy n ∧
      ∃ phase, (c.cleanUp n name .aborted).callers.get? n = some phase ∧
        Aborting name broken phase :=
  ⟨by simp [cleanUp, ask, setCall, JournalEntry.asksAdd], _, Roster.get?_set_self ..,
    .cleaning (by simp)⟩

theorem aborting_run {name : String} {broken : Prop} {events : List Event}
    (hstays : .leave n ∉ events)
    (hbroken : .answer (.caller n) (.mishap .crashed) ∈ events → broken)
    (ha : ∃ phase, c.callers.get? n = some phase ∧ Aborting name broken phase) :
    (c.run events).journal.addsBy n = c.journal.addsBy n ∧
      ∃ phase, (c.run events).callers.get? n = some phase ∧ Aborting name broken phase :=
  run_preserves (P := fun d => d.journal.addsBy n = c.journal.addsBy n ∧
      ∃ phase, d.callers.get? n = some phase ∧ Aborting name broken phase)
    (fun e he _ _ h both => by
      obtain ⟨hadds, hphase⟩ := aborting_move h (fun heq => hstays (heq ▸ he))
        (fun heq => hbroken (heq ▸ he)) both.2
      exact ⟨hadds.trans both.1, hphase⟩) c ⟨rfl, ha⟩

theorem aborting_or_gone_run {name : String} {events : List Event}
    (hcall : ∀ call, .call n call ∉ events)
    (ha : ∀ phase, c.callers.get? n = some phase → Aborting name True phase) :
    (c.run events).journal.addsBy n = c.journal.addsBy n ∧
      ∀ phase, (c.run events).callers.get? n = some phase → Aborting name True phase :=
  run_preserves (P := fun d => d.journal.addsBy n = c.journal.addsBy n ∧
      ∀ phase, d.callers.get? n = some phase → Aborting name True phase)
    (fun e he _ _ h both => by
      obtain ⟨hadds, aborting⟩ :=
        aborting_or_gone_move h (fun call heq => hcall call (heq ▸ he)) both.2
      exact ⟨hadds.trans both.1, aborting⟩) c ⟨rfl, ha⟩

/-- A restart that finds a stop requested when its node is gone removes the node for good. -/
theorem step_replacing_of_stopSignal {name : String} {config : NodeConfig}
    (hphase : c.callers.get? n = some (.replacing name config (some (.ok ()))))
    (hs : c.stopSignal = true) :
    c.step (.poll (.caller n)) =
      { c with registry := c.registry.restarting name config }.cleanUp n name .aborted := by
  simp [step, poll, pollCaller, hphase, hs]

theorem result?_of_cleaning {name : String} {reply : Except Mishap Unit}
    (hphase : c.callers.get? n = some (.cleaning name .aborted (some reply)))
    (hr : reply ≠ .error .crashed) :
    (c.step (.poll (.caller n))).result? n = some (.error .aborted) := by
  simp only [step, poll, pollCaller, hphase]
  simp [conclude, setCall, result?]

/-- A restart that finds a stop requested when its node is gone never asks for the node, whatever
happens as long as no other call comes in under its number. -/
theorem restart_adds_nothing {name : String} {config : NodeConfig}
    (hphase : c.callers.get? n = some (.replacing name config (some (.ok ()))))
    (hs : c.stopSignal = true) {later : List Event} (hcall : ∀ call, .call n call ∉ later) :
    (c.run (.poll (.caller n) :: later)).journal.addsBy n = c.journal.addsBy n := by
  rw [run_cons, step_replacing_of_stopSignal hphase hs]
  obtain ⟨hbegun, phase, hcleaning, aborting⟩ := aborting_cleanUp n name
    { c with registry := c.registry.restarting name config } True
  have only (other : CallPhase) (hother : _ = some other) : Aborting name True other :=
    Option.some.inj (hcleaning.symm.trans hother) ▸ aborting
  exact (aborting_or_gone_run hcall only).1.trans hbegun

/-- A restart that finds a stop requested when its node is gone is aborted, whatever happens as long
as its caller stays. -/
theorem restart_aborted {name : String} {config : NodeConfig}
    (hphase : c.callers.get? n = some (.replacing name config (some (.ok ()))))
    (hs : c.stopSignal = true) {later : List Event} (hstays : .leave n ∉ later) :
    (c.run (.poll (.caller n) :: later)).journal.addsBy n = c.journal.addsBy n ∧
      ∃ phase, (c.run (.poll (.caller n) :: later)).callers.get? n = some phase ∧
        Aborting name (.answer (.caller n) (.mishap .crashed) ∈ later) phase ∧
        ∀ reply, phase = .cleaning name .aborted (some reply) → reply ≠ .error .crashed →
          ((c.run (.poll (.caller n) :: later)).step (.poll (.caller n))).result? n =
            some (.error .aborted) := by
  rw [run_cons, step_replacing_of_stopSignal hphase hs]
  obtain ⟨hbegun, aborting⟩ := aborting_cleanUp n name
    { c with registry := c.registry.restarting name config }
    (.answer (.caller n) (.mishap .crashed) ∈ later)
  obtain ⟨hadds, phase, hafter, ha⟩ := aborting_run hstays id aborting
  refine ⟨hadds.trans hbegun, phase, hafter, ha, fun reply heq hr => ?_⟩
  subst heq
  exact result?_of_cleaning hafter hr

/-! ## Main results -/

/-- The launcher is asked to shut the nodes down only while it is not asked to change one. -/
theorem shutdown_begins_alone (order : Orderly c) (closed : Closed c) {e : Event}
    (hbegins : c.journal.shutdowns < (c.step e).journal.shutdowns) {w : Worker} {errand : Errand}
    (h : c.errand? w = some errand) : errand.changesNode = false := by
  by_cases he : e = .poll .stopper
  · subst he
    have after := step_preserves (e := .poll .stopper)
      (P := fun d => d.callers = c.callers ∧ Orderly d ∧ Closed d)
      (fun h both => by
        obtain ⟨hcallers, order, closed⟩ := both
        refine ⟨?_, orderly_move h order, closed_move h order closed⟩
        cases h with
        | stopper h => exact h.frame.1.trans hcallers) c ⟨rfl, order, closed⟩
    obtain ⟨hcallers, -, closed'⟩ := after
    by_contra hchange
    obtain ⟨n, phase, -, hphase, hcharge⟩ := charge_of_changesNode h (by simpa using hchange)
    have admitted := closed'.asked_admitted (Nat.lt_of_le_of_lt (Nat.zero_le _) hbegins)
    rw [← hcallers] at hphase
    simp [closed'.quiet admitted n phase hphase] at hcharge
  · have same := step_preserves (e := e)
      (P := fun d => d.journal.shutdowns = c.journal.shutdowns)
      (fun h hs => (shutdowns_of_ne h he).trans hs) c rfl
    omega

/-- At most one call has an errand in the air that changes a node. -/
theorem changesNode_unique (order : Orderly c) {v w : Worker} {e f : Errand}
    (hv : c.errand? v = some e) (he : e.changesNode = true) (hw : c.errand? w = some f)
    (hf : f.changesNode = true) : v = w := by
  obtain ⟨n, p, rfl, hp, hpc⟩ := charge_of_changesNode hv he
  obtain ⟨m, q, rfl, hq, hqc⟩ := charge_of_changesNode hw hf
  rw [order.charge_unique hp hpc hq hqc]

/-- Once the launcher was asked for a shutdown, it is never asked to change a node again. -/
theorem nodeChanges_run (order : Orderly c) (closed : Closed c) (ha : c.stopper.isAdmitted = true)
    (later : List Event) : (c.run later).journal.nodeChanges = c.journal.nodeChanges :=
  (run_preserves_given (P := fun d => Closed d ∧ d.stopper.isAdmitted = true ∧
      d.journal.nodeChanges = c.journal.nodeChanges) orderly_move
    (fun _ _ _ _ h order both => by
      obtain ⟨closed, ha, hsame⟩ := both
      exact ⟨closed_move h order closed, isAdmitted_move h ha,
        (nodeChanges_move h order closed ha).trans hsame⟩) c order ⟨closed, ha, rfl⟩).2.2

theorem stopped_run (order : Orderly c) (hs : c.registry.state = .stopped) (later : List Event) :
    (c.run later).registry = c.registry ∧ (c.run later).snapshot = c.snapshot :=
  run_preserves_given (P := fun d => d.registry = c.registry ∧ d.snapshot = c.snapshot) orderly_move
    (fun _ _ _ _ h order both => by
      obtain ⟨hregistry, hsnapshot⟩ := both
      have stopped := hregistry ▸ hs
      exact ⟨(registry_of_stopped h order stopped).trans hregistry,
        (snapshot_of_stopped h order stopped).trans hsnapshot⟩) c order ⟨rfl, rfl⟩

/-- What a stop gives its caller, if all went well, is the stopped cluster. -/
theorem stop_snapshot {events : List Event} {snapshot : Snapshot} (inv : Booked c)
    (hunstopped : c.stopSignal = false) (hcame : CameIn c events n .stop)
    (hresult : (c.run events).result? n = some (.ok snapshot)) :
    (c.run events).registry.state = .stopped ∧ snapshot = (c.run events).snapshot := by
  have inv' := booked_run inv events
  obtain ⟨outcome, ho, htold⟩ := stop_result inv.toLatched hcame hresult
  match outcome, ho, htold with
  | some (.ok told), ho, htold =>
    obtain rfl := Except.ok.inj htold
    have returned := inv'.action_of_outcome? ho
    have ended := inv'.ended_iff.mp ⟨_, returned⟩
    have signalled : (c.run events).stopSignal = true := by
      by_contra hsignal
      simp [inv'.stopper_unborn_iff.mpr (by simpa using hsignal)] at ended
    obtain ⟨prior, -, st⟩ := stoppedIn_run inv hunstopped events signalled
    obtain ⟨stopped, heq⟩ := st.outcome_eq _ returned
    unfold stopOutcome at heq
    split at heq
    · exact ⟨stopped, Except.ok.inj heq⟩
    · simp at heq
  | some (.error message), ho, htold => simp [stopResult] at htold
  | none, ho, htold => simp [stopResult] at htold

/-- In every run of a planned cluster, at most one errand that changes a node is in the air at a
time; a shutdown begins only while there is none, and none begins after it; a restart that finds a
stop requested when its node is gone never asks for the node, and is aborted if its caller stays;
and once the cluster is stopped it stays as every stop that went well has reported it. -/
theorem stop_serialised {options : ClusterOptions} {params : StartParams} {pid : UInt32}
    {obstacle : Option IoError} (h : plan options params pid obstacle = .ok c)
    (events : List Event) :
    (∀ v w e f, (c.run events).errand? v = some e → e.changesNode = true →
      (c.run events).errand? w = some f → f.changesNode = true → v = w) ∧
    (∀ e, (c.run events).journal.shutdowns < ((c.run events).step e).journal.shutdowns →
      ∀ w errand, (c.run events).errand? w = some errand → errand.changesNode = false) ∧
    (0 < (c.run events).journal.shutdowns → ∀ later,
      (c.run (events ++ later)).journal.nodeChanges = (c.run events).journal.nodeChanges) ∧
    (∀ n name config,
      (c.run events).callers.get? n = some (.replacing name config (some (.ok ()))) →
      (c.run events).stopSignal = true → ∀ later,
      ((∀ call, .call n call ∉ later) →
        (c.run (events ++ .poll (.caller n) :: later)).journal.addsBy n =
          (c.run events).journal.addsBy n) ∧
      (.leave n ∉ later →
        (c.run (events ++ .poll (.caller n) :: later)).journal.addsBy n =
          (c.run events).journal.addsBy n ∧
        ∃ phase, (c.run (events ++ .poll (.caller n) :: later)).callers.get? n = some phase ∧
          Aborting name (.answer (.caller n) (.mishap .crashed) ∈ later) phase ∧
          ∀ reply, phase = .cleaning name .aborted (some reply) → reply ≠ .error .crashed →
            ((c.run (events ++ .poll (.caller n) :: later)).step (.poll (.caller n))).result? n =
              some (.error .aborted))) ∧
    ((c.run events).registry.state = .stopped → ∀ later,
      (c.run (events ++ later)).registry = (c.run events).registry) ∧
    (∀ n snapshot, CameIn c events n .stop → (c.run events).result? n = some (.ok snapshot) →
      (c.run events).registry.state = .stopped ∧
        ∀ later, (c.run (events ++ later)).snapshot = snapshot) := by
  have inv := booked_of_plan h
  have unstopped : c.stopSignal = false := by
    obtain ⟨configs, -, rfl⟩ := plan_eq_ok h
    rfl
  have order := orderly_run inv.toOrderly events
  have closed : Closed (c.run events) :=
    run_preserves_given orderly_move (fun _ _ _ _ h order closed => closed_move h order closed) c
      inv.toOrderly (closed_of_plan h)
  refine ⟨fun v w e f => changesNode_unique order, fun e hbegins w errand =>
    shutdown_begins_alone order closed hbegins, fun hasked later => ?_,
    fun n name config hphase hs later => ⟨fun hcall => ?_, fun hstays => ?_⟩, fun hs later => ?_,
    fun n snapshot hcame hresult => ?_⟩
  · rw [run_append]
    exact nodeChanges_run order closed (closed.asked_admitted hasked) later
  · rw [run_append]
    exact restart_adds_nothing hphase hs hcall
  · rw [run_append]
    exact restart_aborted hphase hs hstays
  · rw [run_append]
    exact (stopped_run order hs later).1
  · obtain ⟨stopped, rfl⟩ := stop_snapshot inv unstopped hcame hresult
    refine ⟨stopped, fun later => ?_⟩
    rw [run_append]
    exact (stopped_run order stopped later).2

/-- A restart in the small cluster, which a stop finds at work: the stop waits for it to be over,
and the restart does not ask for its node. -/
theorem pair_stop_serialised :
    let events : List Event := [.start, .poll .starter, .answer .starter .done, .poll .starter,
      .answer .starter (.nodes (.ofList [("node1", ⟨"node1", "http://1", "A"⟩),
        ("node2", ⟨"node2", "http://2", "B"⟩)])), .poll .starter,
      .call 1 (.mutate (.restart "node1" {})), .poll (.caller 1), .call 2 .stop, .poll (.caller 2),
      .poll .keeper, .poll .stopper, .answer (.caller 1) .done]
    (pair.run (events ++ [.poll (.caller 1)])).journal.addsBy 1 = 0 ∧
      ∃ phase, (pair.run (events ++ [.poll (.caller 1)])).callers.get? 1 = some phase ∧
        Aborting "node1" False phase := by
  intro events
  obtain ⟨-, -, -, restart, -⟩ := stop_serialised plan_pair events
  obtain ⟨hadds, phase, hphase, haborting, -⟩ := (restart 1 "node1" _ rfl rfl []).2 (by simp)
  exact ⟨hadds, phase, hphase, by simpa using haborting⟩

end Cluster
end ClusterControl
