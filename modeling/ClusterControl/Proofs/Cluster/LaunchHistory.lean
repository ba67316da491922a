import ClusterControl.Proofs.Cluster.StartReport

/-!
# The history of a launch

A launch asks the launcher for the nodes, then for their health, and each time goes on only when it
is polled again.  This module ties the phase of a launch to what an onlooker sees: the journal, the
clock and the stop signal.

* `Informed` — a launch knows just the answers that the journal tells of.
* `Steady` — a launch over which the launcher has not broken down.
* `FirstStep` — the first step of the launch in a run that finds the cluster in a given condition.
* `firstStep_of_launching`, `launched_of_waiting` — a launch hears of its nodes in one step only,
  and the time that it allows them runs from there.
* `startDone_of_stopped_first`, `stopped_first_of_unborn` — a stop that comes before the first start
  is all that ever happens to the launch.
-/

namespace ClusterControl

namespace Cluster

variable {c d : Cluster} {n : Nat}

/-! ## What a launch has heard -/

/-- A launch in this phase knows just the answers that the journal tells of. -/
def Informed (j : Journal) : StartPhase → Prop
  | .unborn => j.launchReply? = none ∧ j.healthReply? = none
  | .spawned => j.launchReply? = none ∧ j.healthReply? = none
  | .launching none => j.launchReply? = none ∧ j.healthReply? = none
  | .launching (some r) =>
    (∃ reply, j.launchReply? = some reply ∧ reply.toDone = some r) ∧ j.healthReply? = none
  | .waiting _ none => j.launchReply? = some .done ∧ j.healthReply? = none
  | .waiting _ (some r) =>
    j.launchReply? = some .done ∧ ∃ reply, j.healthReply? = some reply ∧ reply.toNodes = some r
  | .ended => True
  | .crashed => True

/-- Only the answer to an errand of the launch is one. -/
theorem replies_of_ne {e : Event} (h : Move c e d) (he : ∀ reply, e ≠ .answer .starter reply) :
    d.journal.launchReply? = c.journal.launchReply? ∧
      d.journal.healthReply? = c.journal.healthReply? := by
  cases h with
  | starterAnswered _ _ => exact absurd rfl (he _)
  | starter h => cases h <;> exact ⟨rfl, rfl⟩
  | stopper h => cases h <;> exact ⟨rfl, rfl⟩
  | caller h =>
    rcases h.journal with hsame | ⟨phase, errand, -, -, hasked⟩
    · rw [hsame]
      exact ⟨rfl, rfl⟩
    · rw [hasked]
      exact ⟨rfl, rfl⟩
  | _ => exact ⟨rfl, rfl⟩

theorem informed_answered {errand : Errand} {reply : Reply}
    (he : c.errand? .starter = some errand) (ha : reply.answers errand = true)
    (inv : Informed c.journal c.starter) :
    Informed (.answered .starter errand reply :: c.journal) (c.starter.take reply) := by
  simp only [errand?] at he
  split at he
  · next hs =>
    obtain rfl := Option.some.inj he
    rw [hs] at inv ⊢
    cases reply with
    | done => exact ⟨⟨.done, rfl, rfl⟩, inv.2⟩
    | mishap why => exact ⟨⟨.mishap why, rfl, rfl⟩, inv.2⟩
    | nodes reports => simp [Reply.answers] at ha
    | node report => simp [Reply.answers] at ha
  · next deadline hs =>
    obtain rfl := Option.some.inj he
    rw [hs] at inv ⊢
    cases reply with
    | nodes reports => exact ⟨inv.1, .nodes reports, rfl, rfl⟩
    | mishap why => exact ⟨inv.1, .mishap why, rfl, rfl⟩
    | done => simp [Reply.answers] at ha
    | node report => simp [Reply.answers] at ha
  · simp at he

/-- Other entries of the journal do not matter for what a launch knows. -/
theorem Informed.of_replies {j j' : Journal} {phase : StartPhase} (inv : Informed j phase)
    (hl : j'.launchReply? = j.launchReply?) (hh : j'.healthReply? = j.healthReply?) :
    Informed j' phase := by
  unfold Informed
  simp only [hl, hh]
  exact inv

theorem informed_move {e : Event} (h : Move c e d) (coherent : Coherent c)
    (inv : Informed c.journal c.starter) : Informed d.journal d.starter := by
  by_cases he : ∃ reply, e = .answer .starter reply
  · obtain ⟨reply, rfl⟩ := he
    cases h with
    | starterAnswered he ha => exact informed_answered he ha inv
  · obtain ⟨hlaunch, hhealth⟩ := replies_of_ne h fun reply heq => he ⟨reply, heq⟩
    cases h with
    | starterAnswered _ _ => exact absurd ⟨_, rfl⟩ he
    | starts h =>
      rw [coherent.created_starter h] at inv
      exact inv
    | starter h =>
      cases h with
      | asks hs =>
        rw [hs] at inv
        exact inv
      | waits hs hj =>
        rw [hs] at inv
        obtain ⟨⟨reply, hanswer, hreply⟩, hquiet⟩ := inv
        rw [Reply.eq_done_of_toDone hreply] at hanswer
        exact ⟨hanswer, hquiet⟩
      | _ => trivial
    | stopper h =>
      rw [h.frame.2.1]
      exact inv.of_replies hlaunch hhealth
    | caller h =>
      rw [h.frame.1]
      exact inv.of_replies hlaunch hhealth
    | _ => exact inv.of_replies hlaunch hhealth

/-! ## A launch that does not break down -/

/-- The launcher has not broken down over a launch in this phase. -/
def Steady : StartPhase → Prop
  | .launching (some (.error .crashed)) => False
  | .waiting _ (some (.error .crashed)) => False
  | .crashed => False
  | _ => True

theorem steady_take {reply : Reply} {phase : StartPhase} (hreply : reply ≠ .mishap .crashed)
    (inv : Steady phase) : Steady (phase.take reply) := by
  unfold StartPhase.take
  split
  · cases reply with
    | mishap why =>
      cases why with
      | failed e => trivial
      | crashed => exact absurd rfl hreply
    | _ => trivial
  · cases reply with
    | mishap why =>
      cases why with
      | failed e => trivial
      | crashed => exact absurd rfl hreply
    | _ => trivial
  · exact inv

theorem steady_move {e : Event} (h : Move c e d) (he : e ≠ .answer .starter (.mishap .crashed))
    (inv : Steady c.starter) : Steady d.starter := by
  cases h with
  | starts h => trivial
  | starterAnswered _ _ => exact steady_take (fun hcrashed => he (by rw [hcrashed])) inv
  | starter h =>
    cases h with
    | launchCrashes hs =>
      rw [hs] at inv
      exact inv
    | @waitCrashes deadline reply hs hj =>
      rw [hs, eq_crashed_of_judge hj] at inv
      exact inv
    | _ => trivial
  | stopper h => rwa [h.frame.2.1]
  | caller h => rwa [h.frame.1]
  | _ => exact inv

/-- A cluster in order whose launch has not broken down and knows what the journal tells. -/
structure Followed (c : Cluster) : Prop extends Booked c where
  informed : Informed c.journal c.starter
  steady : Steady c.starter

theorem followed_run (inv : Followed c) {events : List Event}
    (calm : ∀ e ∈ events, e.isCalm = true) : Followed (c.run events) :=
  run_preserves (fun e he _ _ h inv =>
    ⟨booked_move h inv.toBooked, informed_move h inv.toCoherent inv.informed,
      steady_move h (fun heq => by simpa [heq, Event.isCalm] using calm e he) inv.steady⟩) c inv

theorem followed_of_plan {options : ClusterOptions} {params : StartParams} {pid : UInt32}
    {obstacle : Option IoError} (h : plan options params pid obstacle = .ok c) : Followed c where
  toBooked := booked_of_plan h
  informed := by
    obtain ⟨configs, -, rfl⟩ := plan_eq_ok h
    exact ⟨rfl, rfl⟩
  steady := by
    obtain ⟨configs, -, rfl⟩ := plan_eq_ok h
    trivial

/-! ## Steps of a launch -/

theorem late_move {e : Event} (h : Move c e d) (coherent : Coherent c)
    (hl : c.starter.isEarly = false) : d.starter.isEarly = false := by
  cases h with
  | starts h =>
    rw [coherent.created_starter h] at hl
    simp [StartPhase.isEarly] at hl
  | starterAnswered _ _ => simpa using hl
  | starter h =>
    cases h with
    | asks hs => simp [hs, StartPhase.isEarly] at hl
    | _ => rfl
  | stopper h => rw [h.frame.2.1, hl]
  | caller h => rw [h.frame.1, hl]
  | _ => exact hl

theorem early_of_run (order : Orderly c) {events : List Event}
    (hl : (c.run events).starter.isEarly = true) : c.starter.isEarly = true := by
  by_contra hlate
  have late : (c.run events).starter.isEarly = false :=
    run_preserves_given (P := fun d => d.starter.isEarly = false) orderly_move
      (fun _ _ _ _ h order hl => late_move h order.toCoherent hl) c order (by simpa using hlate)
  simp [hl] at late

/-- The launcher has come to an end with launching the nodes, well or badly. -/
def LaunchAnswered (c : Cluster) : Prop :=
  c.journal.launchReply?.isSome = true

/-- The first step of the launch in a run that finds the cluster in this condition comes after the
events before it. -/
structure FirstStep (c : Cluster) (events before : List Event) (P : Cluster → Prop) : Prop where
  within : before ++ [.poll .starter] <+: events
  holds : P (c.run before)
  -- no earlier step of the launch does
  first : ∀ earlier, earlier ++ [.poll .starter] <+: before → ¬ P (c.run earlier)

/-- There is only one first step. -/
theorem FirstStep.unique {events before other : List Event} {P : Cluster → Prop}
    (h : FirstStep c events before P) (h' : FirstStep c events other P) : before = other := by
  rcases List.prefix_or_prefix_of_prefix h.within h'.within with hle | hle
  · rcases List.prefix_concat_iff.mp hle with heq | hlt
    · exact (List.append_inj' heq rfl).1
    · exact absurd h.holds (h'.first before hlt)
  · rcases List.prefix_concat_iff.mp hle with heq | hlt
    · exact (List.append_inj' heq rfl).1.symm
    · exact absurd h'.holds (h.first other hlt)

/-- A launch that is polled once its nodes are there is over, or waits for them from then on. -/
theorem pollStarter_of_launched (hs : c.starter = .launching (some (.ok ()))) :
    (∃ e, c.judge c.deadline (none : Pending Unit) = .failed e ∧
        c.pollStarter = { c with handle := true }.startFailed e) ∨
      c.judge c.deadline (none : Pending Unit) = .still ∧
        c.pollStarter.starter = .waiting c.deadline none := by
  have judged (phase : StartPhase) : ({ c with handle := true, starter := phase } : Cluster).judge
      ({ c with handle := true, starter := phase } : Cluster).deadline (none : Pending Unit) =
      c.judge c.deadline (none : Pending Unit) := rfl
  rcases judge_none (α := Unit) c c.deadline with hj | ⟨e, hj⟩
  · exact .inr ⟨hj, by simp only [pollStarter, hs, judged, hj]; rfl⟩
  · exact .inl ⟨e, hj, by simp only [pollStarter, hs, judged, hj, startFailed, leaveReport]⟩

theorem late_of_launching {r : Except Mishap Unit} (hs : c.starter = .launching (some r)) :
    (c.step (.poll .starter)).starter.isEarly = false := by
  show c.pollStarter.starter.isEarly = false
  cases r with
  | ok _ =>
    rcases pollStarter_of_launched hs with ⟨e, -, heq⟩ | ⟨-, heq⟩
    · rw [heq]
      rfl
    · rw [heq]
      rfl
  | error why =>
    cases why with
    | failed e =>
      simp only [pollStarter, hs]
      rfl
    | crashed =>
      simp only [pollStarter, hs]
      rfl

/-- A launch of which the launcher has answered the first errand has heard of it. -/
theorem Followed.heard (inv : Followed c) (ha : LaunchAnswered c) :
    (∃ r, c.starter = .launching (some r)) ∨ c.starter.isEarly = false := by
  have informed := inv.informed
  have answered : c.journal.launchReply? ≠ none := Option.isSome_iff_ne_none.mp ha
  cases hs : c.starter with
  | launching reply =>
    cases reply with
    | some r => exact .inl ⟨r, rfl⟩
    | none =>
      rw [hs] at informed
      exact absurd informed.1 answered
  | unborn =>
    rw [hs] at informed
    exact absurd informed.1 answered
  | spawned =>
    rw [hs] at informed
    exact absurd informed.1 answered
  | _ => exact .inr rfl

/-- A launch that has heard that its errand is done was told so by the launcher. -/
theorem Followed.launchReply?_of_launching (inv : Followed c) {r : Except Mishap Unit}
    (hs : c.starter = .launching (some r)) :
    ∃ reply, c.journal.launchReply? = some reply ∧ reply.toDone = some r := by
  have informed := inv.informed
  rw [hs] at informed
  exact informed.1

theorem Followed.healthReply?_of_launching (inv : Followed c) {r : Except Mishap Unit}
    (hs : c.starter = .launching (some r)) : c.journal.healthReply? = none := by
  have informed := inv.informed
  rw [hs] at informed
  exact informed.2

theorem Followed.launchReply?_of_waiting (inv : Followed c) {deadline : Nat}
    {reply : Pending (Table NodeReport)} (hs : c.starter = .waiting deadline reply) :
    c.journal.launchReply? = some .done := by
  have informed := inv.informed
  rw [hs] at informed
  cases reply with
  | none => exact informed.1
  | some r => exact informed.1

/-- A launch that waits for its nodes has heard just what the launcher has reported. -/
theorem Followed.healthReply?_of_waiting (inv : Followed c) {deadline : Nat}
    {reply : Pending (Table NodeReport)} (hs : c.starter = .waiting deadline reply) :
    (reply = none ∧ c.journal.healthReply? = none) ∨
      ∃ r report, reply = some r ∧ c.journal.healthReply? = some report ∧
        report.toNodes = some r := by
  have informed := inv.informed
  rw [hs] at informed
  cases reply with
  | none => exact .inl ⟨rfl, informed.2⟩
  | some r =>
    obtain ⟨-, report, hreport, htoNodes⟩ := informed
    exact .inr ⟨r, report, rfl, hreport, htoNodes⟩

/-- A launch that waits for its nodes has heard of a report just if the launcher has made it. -/
theorem Followed.healthReply?_of_reported (inv : Followed c) {deadline : Nat}
    {reports : Table NodeReport} (hs : c.starter = .waiting deadline (some (.ok reports))) :
    c.journal.healthReply? = some (.nodes reports) := by
  rcases inv.healthReply?_of_waiting hs with ⟨hnone, -⟩ | ⟨r, report, hr, hreport, htoNodes⟩
  · simp at hnone
  · obtain rfl := Option.some.inj hr
    rw [hreport, Reply.eq_nodes_of_toNodes htoNodes]

/-- A launch that is not early any more waits for its nodes, or is over. -/
theorem Followed.waits_or_done (inv : Followed c) (hlate : c.starter.isEarly = false) :
    (∃ deadline reply, c.starter = .waiting deadline reply) ∨ c.startDone = true := by
  cases hs : c.starter with
  | waiting deadline reply => exact .inl ⟨deadline, reply, rfl⟩
  | ended => exact .inr (inv.ended_done hs)
  | crashed =>
    have steady := inv.steady
    rw [hs] at steady
    exact steady.elim
  | _ => simp [hs, StartPhase.isEarly] at hlate

/-- A launch of which the launcher has answered the first errand is late after its next step. -/
theorem Followed.late (inv : Followed c) (ha : LaunchAnswered c) :
    (c.step (.poll .starter)).starter.isEarly = false := by
  rcases inv.heard ha with ⟨r, hs⟩ | hlate
  · exact late_of_launching hs
  · by_contra hearly
    have early : (c.run [.poll .starter]).starter.isEarly = true := by simpa using hearly
    simp [early_of_run inv.toOrderly early] at hlate

section

variable {events before : List Event}

/-- Up to any of its steps, a run in which the launcher does not break down can be followed. -/
theorem Followed.upTo (inv : Followed c) (calm : ∀ e ∈ events, e.isCalm = true)
    (within : before ++ [.poll .starter] <+: events) : Followed (c.run before) :=
  followed_run inv fun e he => calm e (within.subset (List.mem_append_left _ he))

/-- The step in which a launch hears of its nodes is the first one after the launcher answered. -/
theorem firstStep_of_launching (inv : Followed c) (calm : ∀ e ∈ events, e.isCalm = true)
    {r : Except Mishap Unit} (hs : (c.run before).starter = .launching (some r))
    (within : before ++ [.poll .starter] <+: events) :
    FirstStep c events before LaunchAnswered := by
  refine ⟨within, ?_, fun earlier hle ha => ?_⟩
  · obtain ⟨reply, hreply, -⟩ := (inv.upTo calm within).launchReply?_of_launching hs
    simp [LaunchAnswered, hreply]
  · -- The launch has heard of the answer in that earlier step, and has passed on since.
    have past := inv.upTo calm (hle.trans ((List.prefix_append before _).trans within))
    have late := past.late ha
    obtain ⟨rest, rfl⟩ := hle
    rw [run_append, run_append, run_cons, run_nil] at hs
    have order : Orderly ((c.run earlier).step (.poll .starter)) :=
      orderly_run past.toOrderly [.poll .starter]
    rw [early_of_run order (by rw [hs]; rfl)] at late
    simp at late

/-- A launch does not begin to wait for its nodes unless it is polled, and then it has heard of
them, and the time that it allows them runs from there. -/
theorem waiting_of_move {e : Event} (h : Move c e d) {deadline : Nat}
    {reply : Pending (Table NodeReport)} (hs : d.starter = .waiting deadline reply) :
    (∃ r, c.starter = .waiting deadline r) ∨
      e = .poll .starter ∧ c.starter = .launching (some (.ok ())) ∧ deadline = c.deadline := by
  cases h with
  | starts h => simp at hs
  | starterAnswered _ _ =>
    simp only [StartPhase.take] at hs
    split at hs
    · simp at hs
    · next dl hx =>
      obtain ⟨rfl, -⟩ := StartPhase.waiting.inj hs
      exact .inl ⟨none, hx⟩
    · exact .inl ⟨reply, hs⟩
  | starter h =>
    cases h with
    | waits hl hj =>
      simp only [ask, StartPhase.waiting.injEq] at hs
      exact .inr ⟨rfl, hl, hs.1.symm⟩
    | _ => simp [ask, startFailed] at hs
  | stopper h =>
    rw [h.frame.2.1] at hs
    exact .inl ⟨reply, hs⟩
  | caller h =>
    rw [h.frame.1] at hs
    exact .inl ⟨reply, hs⟩
  | _ => exact .inl ⟨reply, hs⟩

/-- A launch that waits for its nodes did so before, or has heard of them in this very step. -/
theorem waiting_of_step {e : Event} {deadline : Nat} {reply : Pending (Table NodeReport)}
    (hs : (c.step e).starter = .waiting deadline reply) :
    (∃ r, c.starter = .waiting deadline r) ∨
      e = .poll .starter ∧ c.starter = .launching (some (.ok ())) ∧ deadline = c.deadline := by
  by_cases he : e = .poll .starter
  · subst he
    have polled : c.step (.poll .starter) = c.pollStarter := rfl
    rw [polled] at hs
    rcases pollStarter_moves c with hsame | h
    · exact .inl ⟨reply, hsame ▸ hs⟩
    · exact waiting_of_move (.starter h) hs
  · refine .inl ?_
    -- Every move before this one in the same event found the launch waiting, too.
    revert reply
    refine step_preserves (P := fun d => ∀ {reply}, d.starter = .waiting deadline reply →
      ∃ r, c.starter = .waiting deadline r) (fun h before _ hs => ?_) c fun hs => ⟨_, hs⟩
    rcases waiting_of_move h hs with ⟨r, hr⟩ | ⟨heq, -⟩
    · exact before hr
    · exact absurd heq he

/-- A launch that waits for its nodes has heard of them in a step of the run, and the time that it
allows them runs from there. -/
theorem launched_of_waiting (hc : ∀ deadline reply, c.starter ≠ .waiting deadline reply)
    {deadline : Nat} {reply : Pending (Table NodeReport)}
    (hs : (c.run before).starter = .waiting deadline reply) :
    ∃ launched, launched ++ [.poll .starter] <+: before ∧
      (c.run launched).starter = .launching (some (.ok ())) ∧
      deadline = (c.run launched).deadline := by
  induction before using List.reverseRecOn generalizing reply with
  | nil => exact absurd hs (hc deadline reply)
  | append_singleton before e ih =>
    rw [run_append, run_cons, run_nil] at hs
    rcases waiting_of_step hs with ⟨r, hr⟩ | ⟨rfl, hl, hd⟩
    · obtain ⟨launched, hle, hlaunched⟩ := ih hr
      exact ⟨launched, hle.trans (List.prefix_append before [e]), hlaunched⟩
    · exact ⟨before, List.prefix_rfl, hl, hd⟩

end

/-! ## A stop that comes first -/

/-- Nobody holds the lock of a cluster that was only planned, or stands in line for it. -/
def Unlocked (c : Cluster) : Prop :=
  c.registry.state = .created → c.lock = {}

/-- A call on a planned cluster gives the lock back at once, since it cannot change a node there. -/
theorem unlocked_caller (order : Orderly c) (inv : Unlocked c) (h : CallerMove c n d) :
    Unlocked d := by
  intro hd
  have created : c.registry.state = .created := h.frame.2.2.2.2.2.2.2.1.symm.trans hd
  have free := inv created
  have quiet {phase : CallPhase} (hphase : c.callers.get? n = some phase)
      (hc : phase.charge?.isSome = true) : False := by
    rcases order.charge_state n phase hphase hc with hs | hs <;> simp [created] at hs
  have unhealthy {x : Cluster} {m : Mutation} (ha : Admitted c n m x)
      (he : x.refusal? m.name = none) : False := by
    have healthy := (healthy_of_refusal? he).1
    rw [ha.eq] at healthy
    simp [created] at healthy
  cases h with
  | queues h hl => simp [free, FairLock.request, FairLock.isHeldBy] at hl
  | refused ha he =>
    cases ha with
    | atOnce h hl =>
      show (c.lock.request (.caller n)).release = {}
      rw [free]
      rfl
    | inTurn h hl => simp [free, FairLock.isHeldBy] at hl
  | unconfigured ha he hc => exact (unhealthy ha he).elim
  | removes ha he => exact (unhealthy ha he).elim
  | replaces ha he hc => exact (unhealthy ha he).elim
  | removed h => exact (quiet h rfl).elim
  | removeFails h => exact (quiet h rfl).elim
  | replaceFails h => exact (quiet h rfl).elim
  | recovers hrec =>
    obtain ⟨phase, hphase, hc⟩ := hrec.phase
    exact (quiet hphase (by simp [hc])).elim
  | cleaned h hr => exact (quiet h rfl).elim
  | breaks hbreak =>
    obtain ⟨phase, hphase, hc⟩ := hbreak.phase
    exact (quiet hphase hc).elim
  | _ => exact free

theorem unlocked_move {e : Event} (h : Move c e d) (order : Orderly c) (inv : Unlocked c) :
    Unlocked d := by
  have order' := orderly_move h order
  cases h with
  | leaves n =>
    intro hd
    show c.lock.leave (.caller n) = {}
    rw [inv hd]
    rfl
  | starts h =>
    intro hd
    simp [Registry.advance, h, Lifecycle.advance, Lifecycle.canAdvance] at hd
  | starter h =>
    intro hd
    have unborn := unborn_of_move (.starter h) (order'.created_starter hd)
    have busy := h.isBusy
    simp [unborn, StartPhase.isBusy] at busy
  | stopper h =>
    intro hd
    -- A stop that has taken effect has moved the cluster on.
    have unsignalled : d.stopSignal = false := by
      by_contra hs
      have stopping := order'.signal_iff.mp (by simpa using hs)
      simp [hd, Lifecycle.isStopping] at stopping
    have unborn := order'.stopper_unborn_iff.mpr unsignalled
    cases h with
    | tells hs => simp [leaveReport, hs] at unborn
    | _ => simp [ask, stopEnded] at unborn
  | caller h => exact unlocked_caller order inv h
  | _ => exact inv

/-- A stop of a cluster that was only planned is over in one event, and whoever waits for the start
is told in it. -/
theorem startDone_of_begins (order : Orderly c) (hcreated : c.registry.state = .created)
    (inv : Unlocked c) (hs : (c.step (.poll .stopper)).stopSignal = true) :
    (c.step (.poll .stopper)).startDone = true := by
  have unsignalled : c.stopSignal = false := by
    by_contra hsignal
    have stopping := order.signal_iff.mp (by simpa using hsignal)
    simp [hcreated, Lifecycle.isStopping] at stopping
  have unborn := order.stopper_unborn_iff.mpr unsignalled
  have unhanded := order.early_handle (by rw [order.created_starter hcreated]; rfl)
  have polled : c.step (.poll .stopper) = c.pollStopper := rfl
  rw [polled] at hs ⊢
  unfold pollStopper at hs ⊢
  simp only [unborn] at hs ⊢
  split at hs
  · next ha =>
    simp [ha, inv hcreated, FairLock.request, FairLock.isHeldBy, shutFirst, unhanded, awaitStart,
      hcreated, shutLast, leaveReport, stopEnded]
  · simp [unsignalled] at hs

/-- If a stop takes effect before the first start, the launch is said to be over at once. -/
theorem startDone_of_stopped_first (order : Orderly c) (hcreated : c.registry.state = .created)
    (inv : Unlocked c) {events : List Event} (hstart : .start ∉ events)
    (hs : (c.run events).stopSignal = true) : (c.run events).startDone = true := by
  induction events using List.reverseRecOn with
  | nil =>
    have stopping := order.signal_iff.mp hs
    simp [hcreated, Lifecycle.isStopping] at stopping
  | append_singleton events e ih =>
    have quiet : .start ∉ events := fun hmem => hstart (List.mem_append_left _ hmem)
    rw [run_append, run_cons, run_nil] at hs ⊢
    have order' := orderly_run order events
    have free : Unlocked (c.run events) :=
      run_preserves_given orderly_move (fun _ _ _ _ h order inv => unlocked_move h order inv)
        c order inv
    cases hsignal : (c.run events).stopSignal with
    | true =>
      exact startDone_run (ih quiet hsignal) [e]
    | false =>
      have polled : e = .poll .stopper := by
        by_contra hne
        simp [stopSignal_step_of_ne hne, hsignal] at hs
      subst polled
      have unborn := unborn_run (order.created_starter hcreated) quiet
      have created : (c.run events).registry.state = .created := by
        refine (order'.unborn_state unborn).resolve_right fun hstopping => ?_
        simp [order'.signal_iff.mpr hstopping] at hsignal
      exact startDone_of_begins order' created free hs

/-- If there never was a launch although a stop has taken effect, the stop came before the first
start. -/
theorem stopped_first_of_unborn (order : Orderly c) {events : List Event}
    (hu : (c.run events).starter = .unborn) (hs : (c.run events).stopSignal = true) :
    ∃ before, before <+: events ∧ .start ∉ before ∧ (c.run before).stopSignal = true := by
  by_cases hstart : .start ∈ events
  · obtain ⟨before, after, rfl, hfirst⟩ := List.eq_append_cons_of_mem hstart
    refine ⟨before, List.prefix_append before _, hfirst, ?_⟩
    rw [run_append, run_cons] at hu
    have unstarted : ((c.run before).step .start).starter = .unborn := unborn_of_run hu
    have order' := orderly_run order before
    have unborn := @unborn_of_run (c.run before) [.start] unstarted
    rcases order'.unborn_state unborn with hcreated | hstopping
    · have started : ((c.run before).step .start).starter = .spawned := by
        simp [step, start, hcreated, Lifecycle.canAdvance]
      simp [started] at unstarted
    · exact order'.signal_iff.mpr hstopping
  · exact ⟨events, List.prefix_rfl, hstart, hs⟩

end Cluster
end ClusterControl
