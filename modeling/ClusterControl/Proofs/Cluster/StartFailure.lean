import ClusterControl.Proofs.Cluster.Serialised
import ClusterControl.Proofs.Cluster.StartOutcome
import ClusterControl.Proofs.Plan

/-!
# Why a start fails

Whoever sees a start through knows nothing of it but the result of the one call that waits for it.
This module says what that result is worth.

* `SoleWaiter` — one call, and no other, waits for the start.
* `Fault` — why a launch may fail at this moment.
* `Telling`, `telling_move` — what one move does to the failure that is left and to the result of
  the call.
* `Candid` — a cluster that has failed does not hide it; `Candid.healthy` — one whose start is said
  to have come out well is healthy until it is stopped.
* `Justified` — a failure is one of the cluster's own, or the launcher reported it.
-/

namespace ClusterControl

/-- A failure in a cluster's own words: they are not those of the launcher. -/
def Failure.isOwn : Failure → Bool
  | aborted => true
  | healthTimeout _ => true
  | launch _ => true
  | internal _ => true
  | _ => false

namespace Cluster

variable {c d : Cluster} {n : Nat} {e : Event} {f : Failure}

theorem journal_move {entry : JournalEntry} (h : Move c e d) (hentry : entry ∈ c.journal) :
    entry ∈ d.journal := by
  cases h with
  | starterAnswered he ha => exact List.mem_cons_of_mem _ hentry
  | stopperAnswered he ha => exact List.mem_cons_of_mem _ hentry
  | callerAnswered h he ha => exact List.mem_cons_of_mem _ hentry
  | starter h => cases h <;> first | exact hentry | exact List.mem_cons_of_mem _ hentry
  | stopper h => cases h <;> first | exact hentry | exact List.mem_cons_of_mem _ hentry
  | caller h =>
    rcases h.journal with hjournal | ⟨phase, errand, -, -, hjournal⟩
    · rw [hjournal]
      exact hentry
    · rw [hjournal]
      exact List.mem_cons_of_mem _ hentry
  | _ => exact hentry

/-- A cluster cannot be planned only on account of how it is to be run. -/
theorem plan_eq_error {options : ClusterOptions} {params : StartParams} {pid : UInt32}
    {obstacle : Option IoError} (h : plan options params pid obstacle = .error f) :
    ∃ cause, f = .config cause := by
  unfold plan at h
  cases obstacle with
  | some cause => exact ⟨_, (Except.error.inj h).symm⟩
  | none =>
    cases hbuild : (options.plan params).build with
    | ok configs => simp [hbuild, bind, Except.bind] at h
    | error f' =>
      obtain rfl : f' = f := by simpa [hbuild, bind, Except.bind] using h
      exact Plan.build_eq_error hbuild

/-! ## The call that waits for the start -/

/-- The call under this number waits for the start or for nothing, and no other call waits for the
start. -/
structure SoleWaiter (n : Nat) (c : Cluster) : Prop where
  only : ∀ m, c.callers.get? m = some .awaitingReady → m = n
  suits : ∀ phase, c.callers.get? n = some phase → phase.Suits .waitReady

theorem CallerMove.of_fresh_waitReady (h : CallerMove c n d)
    (hphase : c.callers.get? n = some (.fresh .waitReady)) :
    d = c.setCall n (.returned (.error (.internal "start outcome already consumed"))) ∨
      d = { c with reportTaken := true }.setCall n .awaitingReady := by
  cases h with
  | denied _ _ => exact .inl rfl
  | signsUp _ _ => exact .inr rfl
  | _ => grind

/-- Why a launch may fail at this moment. -/
inductive Fault (c : Cluster) : Failure → Prop
  | aborted : Fault c .aborted
  | late : Fault c (.healthTimeout c.healthTimeout)
  | launch (message : String) : Fault c (.launch message)
  -- The launcher has said so of the health of the nodes
  | unhealthy {deadline : Nat} {e : Failure}
      (h : c.starter = .waiting deadline (some (.error (.failed e)))) : Fault c e

/-- What one move does to the failure that is left, and to the result of the call that is to be told
of it. -/
inductive Telling (n : Nat) (c d : Cluster) : Prop
  | keeps (hreport : d.report = c.report) (hresult : d.result? n = c.result? n)
  | leaves {e : Failure} (he : Fault c e) (hreport : d.report = some (c.report.getD e))
      (hresult : d.result? n = c.result? n)
  | fails {e : Failure} (hleft : c.report = some e) (hreport : d.report = none)
      (hresult : d.result? n = some (.error e))
  | succeeds {snapshot : Snapshot} (hdone : c.startDone = true) (hleft : c.report = none)
      (hwaits : c.result? n = none) (hreport : d.report = none)
      (hresult : d.result? n = some (.ok snapshot))
  | denied {message : String} (hreport : d.report = c.report)
      (hresult : d.result? n = some (.error (.internal message)))

theorem result?_congr (h : d.callers.get? n = c.callers.get? n) : d.result? n = c.result? n := by
  unfold result?
  rw [h]

theorem result?_returned (c : Cluster) (n : Nat) (result : Outcome Snapshot) :
    (c.setCall n (.returned result)).result? n = some result := by
  simp [result?, setCall]

/-- The result of a call stays, as long as its caller does. -/
theorem result?_move {result : Outcome Snapshot} (h : Move c e d) (he : e ≠ .leave n)
    (hr : c.result? n = some result) : d.result? n = some result := by
  have returned : c.callers.get? n = some (.returned result) := by
    unfold result? at hr
    split at hr
    · next hphase => rw [hphase, Option.some.inj hr]
    · simp at hr
  rcases h.phase_cases returned he with hsame | ⟨-, hown⟩ | ⟨errand, reply, herrand, -⟩
  · simp [result?, hsame]
  · exact absurd hown (CallerMove.not_of_returned returned)
  · simp [CallPhase.errand?] at herrand

theorem fault_of_judge {deadline : Nat} {reply : Pending (Table NodeReport)} {e : Failure}
    (hs : c.starter = .waiting deadline reply) (hj : c.judge deadline reply = .failed e) :
    Fault c e := by
  rcases failed_of_judge hj with ⟨-, rfl⟩ | ⟨-, -, rfl⟩ | ⟨-, -, rfl⟩
  · exact .aborted
  · exact .late
  · exact .unhealthy hs

theorem telling_starter (h : StarterMove c d) : Telling n c d := by
  have same : d.result? n = c.result? n := result?_congr (by rw [h.frame.1])
  cases h with
  | givesUp hs hj =>
    rcases failed_of_judge hj with ⟨-, rfl⟩ | ⟨-, -, rfl⟩ | ⟨-, -, hreply⟩
    · exact .leaves .aborted rfl same
    · exact .leaves .late rfl same
    · simp at hreply
  | launchFails hs =>
    rw [launchFailure_eq] at same ⊢
    exact .leaves (.launch _) rfl same
  | waitFails hs hj => exact .leaves (fault_of_judge hs hj) rfl same
  | @rejects deadline reply reports e hs hj hp =>
    have faulty : Fault c e := by
      unfold Registry.publish at hp
      cases hr : Registry.readyRecords reports c.registry.names with
      | error e' =>
        obtain ⟨message, -, rfl⟩ := Registry.readyRecords_eq_error_iff.mp hr
        obtain rfl : Failure.launch message = e := by simpa [hr, bind, Except.bind] using hp
        exact .launch message
      | ok records =>
        simp only [hr, bind, Except.bind] at hp
        split at hp
        · simp at hp
        · obtain rfl := Except.error.inj hp
          exact .aborted
    exact .leaves faulty rfl same
  | _ => exact .keeps rfl same

theorem telling_stopper (h : StopperMove c d) : Telling n c d := by
  have same : d.result? n = c.result? n := result?_congr (by rw [h.frame.1])
  cases h with
  | tells h => exact .leaves .aborted rfl same
  | _ => exact .keeps rfl same

theorem telling_caller {m : Nat} (sole : SoleWaiter n c) (h : CallerMove c m d) :
    Telling n c d := by
  by_cases hm : n = m
  · subst hm
    obtain ⟨phase, hphase⟩ := h.phase
    cases sole.suits phase hphase with
    | fresh =>
      rcases h.of_fresh_waitReady hphase with rfl | rfl
      · exact .denied rfl (result?_returned c n _)
      · exact .keeps rfl (by simp [result?, setCall, hphase])
    | awaitingReady =>
      have untold : c.result? n = none := by simp [result?, hphase]
      cases h with
      | readsFailure hw hd hr => exact .fails hr rfl (result?_returned c n _)
      | readsSuccess hw hd hr => exact .succeeds hd hr untold hr (result?_returned c n _)
      | _ => grind
    | returned result => exact absurd h (CallerMove.not_of_returned hphase)
  · have same : d.result? n = c.result? n := result?_congr (h.get?_of_ne hm)
    have elsewhere : c.callers.get? m ≠ some .awaitingReady := fun hw => hm (sole.only m hw).symm
    rcases h.of_not_awaitingReady elsewhere with ⟨-, -, rfl⟩ | ⟨_, -, -, hreport, -⟩
    · exact .keeps rfl same
    · exact .keeps hreport same

/-- Every move leaves the failure and the result alone, or tells the one by the other. -/
theorem telling_move (h : Move c e d) (sole : SoleWaiter n c) (he : e ≠ .leave n) :
    Telling n c d := by
  cases h with
  | starter h => exact telling_starter h
  | stopper h => exact telling_stopper h
  | caller h => exact telling_caller sole h
  | @arrives m call hfree =>
    refine .keeps rfl ?_
    by_cases hm : n = m
    · subst hm
      simp [result?, setCall, hfree]
    · exact result?_congr (by simp [setCall, hm])
  | leaves m =>
    have other : n ≠ m := fun heq => he (by rw [heq])
    exact .keeps rfl (result?_congr (by simp [leave, other]))
  | @callerAnswered m phase errand reply hphase herrand ha =>
    refine .keeps rfl (result?_congr ?_)
    have other : n ≠ m := by
      rintro rfl
      have suits := sole.suits phase hphase
      obtain ⟨name, hc⟩ :=
        Option.isSome_iff_exists.mp (CallPhase.charge?_isSome_of_errand? herrand)
      obtain ⟨mutation, hcall, -⟩ := suits.mutation hc
      simp at hcall
    simp [other]
  | _ => exact .keeps rfl rfl

/-! ## A failed cluster does not hide it -/

/-- A failed cluster has left a failure or told it, and one that is said to have come up has not
failed. -/
structure Candid (n : Nat) (c : Cluster) : Prop where
  failed : c.registry.state = .failed →
    c.report.isSome = true ∨ ∃ e, c.result? n = some (.error e)
  ready : ∀ snapshot, c.result? n = some (.ok snapshot) →
    c.startDone = true ∧ c.registry.state ≠ .failed

/-- A cluster fails only when its launch is under way. -/
theorem failed_of_move (h : Move c e d) (coherent : Coherent c)
    (hd : d.registry.state = .failed) :
    c.registry.state = .failed ∨ c.starter.isBusy = true ∧ d.report.isSome = true := by
  cases h with
  | starts h =>
    simp [Registry.advance, Lifecycle.advance, Lifecycle.canAdvance, h] at hd
  | starter h =>
    have busy := h.isBusy
    cases h with
    | publishes hs hj hp =>
      obtain ⟨records, -, -, rfl⟩ := publish_eq_ok hp
      simp at hd
    | asks hs => exact .inl hd
    | waits hs hj => exact .inl hd
    | launchCrashes hs => exact .inl hd
    | waitCrashes hs hj => exact .inl hd
    | _ => exact .inr ⟨busy, rfl⟩
  | stopper h =>
    refine .inl ?_
    cases h with
    | begins hs ha =>
      have hd' : c.registry.state.advance .stopping = .failed := hd
      cases hstate : c.registry.state <;>
        simp [hstate, Lifecycle.advance, Lifecycle.canAdvance] at hd'
    | @ends prior failures hends =>
      have hprior : c.stopper.prior? = some prior := by cases hends <;> simp [*, StopPhase.prior?]
      have stopping := coherent.stopping_of_prior hprior
      have hd' : c.registry.state.advance .stopped = .failed := hd
      simp [stopping, Lifecycle.advance, Lifecycle.canAdvance] at hd'
    | _ => exact hd
  | caller h => exact .inl (h.frame.2.2.2.2.2.2.2.1 ▸ hd)
  | _ => exact .inl hd

theorem candid_move (h : Move c e d) (coherent : Coherent c) (sole : SoleWaiter n c)
    (he : e ≠ .leave n) (inv : Candid n c) : Candid n d where
  failed hd := by
    rcases failed_of_move h coherent hd with hc | ⟨-, hreport⟩
    · cases telling_move h sole he with
      | keeps hreport hresult =>
        rw [hreport, hresult]
        exact inv.failed hc
      | leaves _ hreport _ => exact .inl (by simp [hreport])
      | fails _ _ hresult => exact .inr ⟨_, hresult⟩
      | succeeds _ hleft hwaits _ _ =>
        rcases inv.failed hc with hsome | ⟨e, htold⟩
        · simp [hleft] at hsome
        · simp [hwaits] at htold
      | denied _ hresult => exact .inr ⟨_, hresult⟩
    · exact .inl hreport
  ready snapshot hd := by
    have still (hready : c.startDone = true ∧ c.registry.state ≠ .failed) :
        d.startDone = true ∧ d.registry.state ≠ .failed := by
      refine ⟨startDone_move h hready.1, fun hfailed => ?_⟩
      rcases failed_of_move h coherent hfailed with hc | ⟨hbusy, -⟩
      · exact hready.2 hc
      · simp [coherent.busy_done hbusy] at hready
    cases telling_move h sole he with
    | keeps _ hresult => exact still (inv.ready snapshot (hresult ▸ hd))
    | leaves _ _ hresult => exact still (inv.ready snapshot (hresult ▸ hd))
    | fails _ _ hresult => simp [hresult] at hd
    | succeeds hdone hleft hwaits _ _ =>
      refine still ⟨hdone, fun hfailed => ?_⟩
      rcases inv.failed hfailed with hsome | ⟨e, htold⟩
      · simp [hleft] at hsome
      · simp [hwaits] at htold
    | denied _ hresult => simp [hresult] at hd

theorem candid_of_plan {options : ClusterOptions} {params : StartParams} {pid : UInt32}
    {obstacle : Option IoError} (h : plan options params pid obstacle = .ok c) (now : Nat) :
    Candid n (c.run [.elapse now, .start]) := by
  obtain ⟨configs, -, rfl⟩ := plan_eq_ok h
  exact ⟨by simp [step, start, Registry.ofConfigs, Registry.advance, Lifecycle.advance,
    Lifecycle.canAdvance], by simp [result?, step, start, Registry.ofConfigs, Registry.advance,
    Lifecycle.advance, Lifecycle.canAdvance, Roster.get?]⟩

/-- A cluster whose launch is over and has not failed is healthy until it is stopped. -/
theorem Coherent.healthy_of_done (inv : Coherent c) (done : c.startDone = true)
    (unfailed : c.registry.state ≠ .failed) :
    c.registry.state = .healthy ∨ c.registry.state.isStopping = true := by
  have uncreated : c.registry.state ≠ .created := by
    intro hstate
    simp [inv.created_done hstate] at done
  have unlaunched : c.registry.state ≠ .launching := by
    intro hstate
    have busy := inv.launching_starter hstate
    simp [inv.busy_done busy] at done
  cases hstate : c.registry.state <;> simp_all [Lifecycle.isStopping]

/-- A cluster whose start is said to have come out well is healthy, as long as no stop takes
effect. -/
theorem Candid.healthy (inv : Candid n c) (coherent : Coherent c) {snapshot : Snapshot}
    (hresult : c.result? n = some (.ok snapshot)) (hs : c.stopSignal = false) :
    c.registry.state = .healthy := by
  obtain ⟨done, unfailed⟩ := inv.ready snapshot hresult
  refine (coherent.healthy_of_done done unfailed).resolve_right fun hstopping => ?_
  simp [coherent.signal_iff.mpr hstopping] at hs

/-! ## Failures and their causes -/

/-- A failure is one of the cluster's own, or the launcher has reported it of the health of the
nodes. -/
def Blamed (j : Journal) (e : Failure) : Prop :=
  e.isOwn = true ∨ .answered .starter .waitHealthy (.mishap (.failed e)) ∈ j

/-- Every failure that is left or told has a cause. -/
structure Justified (n : Nat) (c : Cluster) : Prop where
  heard : ∀ deadline e, c.starter = .waiting deadline (some (.error (.failed e))) →
    .answered .starter .waitHealthy (.mishap (.failed e)) ∈ c.journal
  report : ∀ e, c.report = some e → Blamed c.journal e
  result : ∀ e, c.result? n = some (.error e) → Blamed c.journal e

theorem Blamed.move (h : Move c e d) (hf : Blamed c.journal f) :
    Blamed d.journal f :=
  hf.imp_right (journal_move h)

theorem Fault.blamed (hf : Fault c f) (inv : Justified n c) :
    Blamed c.journal f := by
  cases hf with
  | aborted => exact .inl rfl
  | late => exact .inl rfl
  | launch message => exact .inl rfl
  | unhealthy h => exact .inr (inv.heard _ _ h)

/-- A launch hears of the health of its nodes only from the launcher. -/
theorem heard_move (h : Move c e d) {deadline : Nat}
    (hd : d.starter = .waiting deadline (some (.error (.failed f)))) :
    c.starter = .waiting deadline (some (.error (.failed f))) ∨
      .answered .starter .waitHealthy (.mishap (.failed f)) ∈ d.journal := by
  cases h with
  | starts h => simp at hd
  | @starterAnswered errand reply he ha =>
    simp only [errand?] at he
    split at he
    · next hs => simp [hs, StartPhase.take] at hd
    · next hs =>
      obtain rfl := Option.some.inj he
      rw [hs] at hd
      have told : reply.toNodes = some (.error (.failed f)) := (StartPhase.waiting.inj hd).2
      rw [Reply.eq_mishap_of_toNodes told]
      exact .inr List.mem_cons_self
    · simp at he
  | starter h => cases h <;> simp [startFailed, leaveReport, ask] at hd
  | stopper h => exact .inl (h.frame.2.1 ▸ hd)
  | caller h => exact .inl (h.frame.1 ▸ hd)
  | _ => exact .inl hd

theorem justified_move (h : Move c e d) (sole : SoleWaiter n c) (he : e ≠ .leave n)
    (inv : Justified n c) : Justified n d where
  heard deadline f hd := by
    rcases heard_move h hd with hc | hentry
    · exact journal_move h (inv.heard deadline f hc)
    · exact hentry
  report f hd := by
    cases telling_move h sole he with
    | keeps hreport _ => exact (inv.report f (hreport ▸ hd)).move h
    | @leaves fault hfault hreport _ =>
      rw [hreport, Option.some.injEq] at hd
      cases hleft : c.report with
      | none =>
        obtain rfl : fault = f := by simpa [hleft] using hd
        exact (hfault.blamed inv).move h
      | some earlier =>
        obtain rfl : earlier = f := by simpa [hleft] using hd
        exact (inv.report earlier hleft).move h
    | fails _ hreport _ => simp [hreport] at hd
    | succeeds _ _ _ hreport _ => simp [hreport] at hd
    | denied hreport _ => exact (inv.report f (hreport ▸ hd)).move h
  result f hd := by
    cases telling_move h sole he with
    | keeps _ hresult => exact (inv.result f (hresult ▸ hd)).move h
    | leaves _ _ hresult => exact (inv.result f (hresult ▸ hd)).move h
    | @fails told hleft _ hresult =>
      obtain rfl : told = f := by simpa [hresult] using hd
      exact (inv.report told hleft).move h
    | succeeds _ _ _ _ hresult => simp [hresult] at hd
    | @denied message _ hresult =>
      obtain rfl : .internal message = f := by simpa [hresult] using hd
      exact .inl rfl

theorem justified_of_plan {options : ClusterOptions} {params : StartParams} {pid : UInt32}
    {obstacle : Option IoError} (h : plan options params pid obstacle = .ok c) (now : Nat) :
    Justified n (c.run [.elapse now, .start]) := by
  obtain ⟨configs, -, rfl⟩ := plan_eq_ok h
  constructor <;> simp [result?, step, start, Registry.ofConfigs, Registry.advance,
    Lifecycle.advance, Lifecycle.canAdvance, Roster.get?]

end Cluster
end ClusterControl
