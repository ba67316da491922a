import ClusterControl.Proofs.Cluster.Quiescence
import ClusterControl.Proofs.Cluster.StartFailure
import ClusterControl.Proofs.Server.Accounts

/-!
# A slot is not left to a dead cluster

A start is refused as long as there is a cluster in the slot, so whoever puts an end to a cluster has
to empty the slot.  The task beside a cluster does so after a start that failed, whether or not
anybody still waits for it.  A stop does so as well, but in the course of the call: if its caller goes
away before the cluster is stopped, nobody empties the slot.  This module proves that nothing else
leaves a dead cluster in the slot.

* `Wanted` — a cluster in the slot is stopped only on the account of one who will empty the slot.
* `Resting` — no start and no stop is under way.
* `healthy_of_resting` — in a server at rest the slot is empty or holds a healthy cluster, unless the
  caller of a stop went away before its cluster was stopped.
* `wedged_server` — such a caller goes away, and the server refuses every start on account of a
  cluster that is stopped.
-/

namespace ClusterControl

namespace Cluster

variable {c d : Cluster} {e : Event}

/-- A latch is claimed only by a call that stops the cluster. -/
theorem isClaimed_of_move (h : Move c e d) (inv : Latched c) (hd : d.latch.isClaimed = true) :
    c.latch.isClaimed = true ∨ ∃ m, c.callers.get? m = some (.fresh .stop) := by
  by_cases hphase : c.latch.phase = .idle
  · have absent := inv.idle_iff.mp hphase
    have unclaimed : c.latch.isClaimed = false := by simp [Latch.isClaimed, hphase]
    have action := inv.early_action (.inl absent)
    have kept : c.latch.keep = c.latch := by simp [Latch.keep, absent]
    have begun : c.latch.begin = c.latch := by simp [Latch.begin, action]
    have finished (outcome : Option StopOutcome) : c.latch.finish outcome = c.latch := by
      simp [Latch.finish, action]
    cases h with
    | keeper => exact .inl (kept ▸ hd)
    | starter h => exact .inl (h.frame.2.2.2.1 ▸ hd)
    | stopper h =>
      cases h with
      | begins hs ha => exact .inl (begun ▸ hd)
      | ends hends => exact .inl (finished _ ▸ hd)
      | crashes hs => exact .inl (finished _ ▸ hd)
      | _ => exact .inl hd
    | caller h =>
      cases h with
      | claimsStop hm => exact .inr ⟨_, hm⟩
      | refused ha he => rw [ha.eq] at hd; exact .inl hd
      | unconfigured ha he hc => rw [ha.eq] at hd; exact .inl hd
      | removes ha he => rw [ha.eq] at hd; exact .inl hd
      | replaces ha he hc => rw [ha.eq] at hd; exact .inl hd
      | _ => exact .inl hd
    | _ => exact .inl hd
  · refine .inl ?_
    unfold Latch.isClaimed
    split
    · next hidle => exact absurd hidle hphase
    · rfl

/-- No stop takes effect in a cluster whose latch nobody has claimed. -/
theorem stopSignal_of_unclaimed (latched : Latched c) (coherent : Coherent c)
    (h : c.latch.isClaimed = false) : c.stopSignal = false := by
  have idle : c.latch.phase = .idle := by
    unfold Latch.isClaimed at h
    split at h
    · assumption
    · simp at h
  have absent := latched.early_action (.inl (latched.idle_iff.mp idle))
  exact coherent.stopper_unborn_iff.mp (latched.unborn_iff.mpr (.inl absent))

end Cluster

/-- A start or a stop, and it has not returned. -/
def ServerPhase.isUnderway : ServerPhase → Bool
  | fresh (.start _) => true
  | fresh .stop => true
  | starting _ => true
  | stopping _ => true
  | _ => false

namespace Server

variable {s s' : Server} {g n : Nat} {e : Event}

theorem candid_clusters_move (h : Move s e s') (managed : Managed s)
    (inv : ∀ g c, s.cluster? g = some c → Cluster.Candid 0 c) :
    ∀ g d, s'.cluster? g = some d → Cluster.Candid 0 d :=
  clusters_preserve h (fun now hp => Cluster.candid_of_plan hp now)
    (fun hc hconveys hmove candid =>
      Cluster.candid_move hmove (managed.booked _ _ hc).toCoherent
        (managed.accounted _ _ hc).soleWaiter hconveys.stays candid) inv

/-! ## Who stops the cluster in the slot -/

/-- The cluster in the slot is stopped only on the account of one who will empty the slot. -/
def Wanted (s : Server) : Prop :=
  ∀ g c, s.slot = some g → s.cluster? g = some c → c.latch.isClaimed = true →
    ∃ m, Account s g m .stop

/-- The caller with this number does not wait for a cluster to be stopped. -/
def awaitsNoStop (s : Server) (n : Nat) : Bool :=
  match s.calls.get? n with
  | some (.stopping _) => false
  | _ => true

theorem wanted_move (h : Move s e s') (managed : Managed s)
    (stays : ∀ n, e = .leave n → s.awaitsNoStop n = true) (inv : Wanted s) : Wanted s' := by
  intro g d hs hd hclaimed
  cases hc : s.cluster? g with
  | none =>
    -- Nobody has called upon a new cluster.
    have unclaimed : d.latch.isClaimed = false :=
      (h.cluster?_new hc hd).of_plan (P := fun d => d.latch.isClaimed = false) fun now hp => by
        obtain ⟨configs, -, rfl⟩ := Cluster.plan_eq_ok hp
        simp only [Cluster.run_cons, Cluster.run_nil, Cluster.step, Cluster.start]
        split <;> rfl
    simp [unclaimed] at hclaimed
  | some c =>
    have before : s.slot = some g := by
      rcases h.slot_cases with hslot | ⟨-, hslot, -⟩ | ⟨k, released⟩
      · exact hslot.symm.trans hs
      · have new : s.tenancies.length = g := Option.some.inj (hslot.symm.trans hs)
        have gone := (cluster?_eq_none_iff s g).mpr (Nat.le_of_eq new)
        simp [hc] at gone
      · simp [released.after] at hs
    have account : ∃ m, Account s g m .stop := by
      obtain ⟨d', hd', hcd⟩ := h.cluster?_some hc
      obtain rfl := Option.some.inj (hd.symm.trans hd')
      rcases hcd with rfl | ⟨ce, -, hmove⟩
      · exact inv g _ before hc hclaimed
      · rcases Cluster.isClaimed_of_move hmove (managed.booked g c hc).toLatched hclaimed with
          hclaimed | ⟨m, hm⟩
        · exact inv g c before hc hclaimed
        · obtain ⟨call, ha, stands⟩ := managed.accounted g c hc m _ hm
          obtain rfl := stands.suits.of_fresh
          exact ⟨m, ha⟩
    obtain ⟨m, ha⟩ := account
    rcases ha.move h with hstands | ⟨-, hwhy⟩
    · exact ⟨m, hstands⟩
    · rcases hwhy rfl with hslot | ⟨n, rfl, hn⟩
      · exact absurd hs hslot
      · have left := stays n rfl
        simp [awaitsNoStop, hn] at left

/-! ## Servers at rest -/

/-- No start and no stop is under way, and every start was seen through. -/
structure Resting (s : Server) : Prop where
  calls : ∀ n phase, s.calls.get? n = some phase → phase.isUnderway = false
  startups : ∀ g phase, s.startup? g = some phase → ∃ result, phase = .ended result

/-- The server is in order, no cluster hides that it has failed, and the cluster in the slot is
stopped only on the account of one who will empty the slot. -/
structure Tidy (s : Server) : Prop extends Managed s where
  candid : ∀ g c, s.cluster? g = some c → Cluster.Candid 0 c
  wanted : Wanted s

theorem tidy_move (h : Move s e s') (stays : ∀ n, e = .leave n → s.awaitsNoStop n = true)
    (inv : Tidy s) : Tidy s' where
  toManaged := managed_move h inv.toManaged
  candid := candid_clusters_move h inv.toManaged inv.candid
  wanted := wanted_move h inv.toManaged stays inv.wanted

theorem tidy_init (pid : UInt32) (options : ClusterOptions) (obstacle : Option IoError) :
    Tidy { pid := pid, options := options, obstacle := obstacle } where
  toManaged := managed_init pid options obstacle
  candid := by simp [cluster?]
  wanted := by simp [Wanted]

/-- The cluster in the slot of a tidy server at rest is healthy. -/
theorem Tidy.healthy (inv : Tidy s) (resting : Resting s) (hs : s.slot = some g) :
    ∃ c, s.cluster? g = some c ∧ c.registry.state = .healthy := by
  obtain ⟨c, hc⟩ := inv.held g hs
  obtain ⟨phase, hphase⟩ := inv.startup? hs
  obtain ⟨result, rfl⟩ := resting.startups g phase hphase
  refine ⟨c, hc, ?_⟩
  cases result with
  | error cause => exact absurd hs (inv.vacated g cause hphase)
  | ok snapshot =>
    have booked := inv.booked g c hc
    have unclaimed : c.latch.isClaimed = false := by
      by_contra hclaimed
      obtain ⟨m, ha⟩ := inv.wanted g c hs hc (by simpa using hclaimed)
      cases ha with
      | teardown h hf =>
        obtain rfl := Option.some.inj (h.symm.trans hphase)
        simp [StartupPhase.hasFailed] at hf
      | stop hn =>
        have idle := resting.calls _ _ hn
        simp [ServerPhase.isUnderway] at idle
    have unsignalled := Cluster.stopSignal_of_unclaimed booked.toLatched booked.toCoherent unclaimed
    exact (inv.candid g c hc).healthy booked.toCoherent (inv.told g c _ _ hc hphase rfl)
      unsignalled

/-- A start that is refused at once, because there is a cluster already, finds one in the slot. -/
theorem slot_of_refused {params : StartParams}
    (h : s.calls.get? n = some (.fresh (.start params)))
    (hr : (s.pollCall n).result? n = some (.error .alreadyExists)) : ∃ g, s.slot = some g := by
  rw [pollCall_fresh h] at hr
  cases hs : s.slot with
  | some g => exact ⟨g, rfl⟩
  | none =>
    cases hp : Cluster.plan s.options params s.pid s.obstacle with
    | error e =>
      obtain ⟨cause, rfl⟩ := Cluster.plan_eq_error hp
      rw [beginCall_unplanned n hs hp] at hr
      simp [result?, setCall] at hr
    | ok c =>
      rw [beginCall_planned n hs hp] at hr
      simp [result?, setCall] at hr

/-- In every run of a server in which no caller of a stop goes away before its cluster is stopped,
whenever no start and no stop is under way, the slot is empty or holds a healthy cluster.  A start
that is refused then because there is a cluster already is refused on account of a healthy one. -/
theorem healthy_of_resting {pid : UInt32} {options : ClusterOptions} {obstacle : Option IoError}
    {events : List Event}
    (stays : ({ pid := pid, options := options, obstacle := obstacle } : Server).throughout
      awaitsNoStop events = true)
    (resting : Resting
      (({ pid := pid, options := options, obstacle := obstacle } : Server).run events)) :
    let s := ({ pid := pid, options := options, obstacle := obstacle } : Server).run events
    (s.slot = none ∨
      ∃ g c, s.slot = some g ∧ s.cluster? g = some c ∧ c.registry.state = .healthy) ∧
    ∀ n params, s.calls.get? n = none →
      (s.run [.call n (.start params), .pollCall n]).result? n = some (.error .alreadyExists) →
      ∃ g c, s.slot = some g ∧ s.cluster? g = some c ∧ c.registry.state = .healthy := by
  intro s
  have tidy : Tidy s :=
    run_preserves_tested (fun h stays inv => tidy_move h stays inv) stays
      (tidy_init pid options obstacle)
  refine ⟨?_, fun n params hn hrefused => ?_⟩
  · cases hs : s.slot with
    | none => exact .inl rfl
    | some g =>
      obtain ⟨c, hc, hstate⟩ := tidy.healthy resting hs
      exact .inr ⟨g, c, rfl, hc, hstate⟩
  · have came : s.call n (.start params) = s.setCall n (.fresh (.start params)) := by
      simp [Server.call, hn]
    have begins : ((s.setCall n (.fresh (.start params))).pollCall n).result? n =
        some (.error .alreadyExists) := by
      rw [← came]
      exact hrefused
    obtain ⟨g, hs⟩ := slot_of_refused (Roster.get?_set_self ..) begins
    obtain ⟨c, hc, hstate⟩ := tidy.healthy resting hs
    exact ⟨g, c, hs, hc, hstate⟩

/-- A small cluster has been stopped by a caller who stayed, and the next one is up. -/
theorem pair_up_again :
    let events := pairUp 0 ++ pairDown 0 ++ pairUp 1
    ∃ c, (pairServer.run events).cluster? 1 = some c ∧ c.registry.state = .healthy := by
  intro events
  have stays : pairServer.throughout awaitsNoStop events = true := by decide
  have nobody : (pairServer.run events).calls = {} := by decide
  have two : (pairServer.run events).tenancies.length = 2 := by decide
  have ended (g : Nat) (hg : g < 2) :
      ∃ result, (pairServer.run events).startup? g = some (.ended result) := by
    match g, hg with
    | 0, _ => exact ⟨_, rfl⟩
    | 1, _ => exact ⟨_, rfl⟩
  have resting : Resting (pairServer.run events) := by
    refine ⟨fun n phase hn => ?_, fun g phase hp => ?_⟩
    · rw [nobody] at hn
      simp [Roster.get?] at hn
    · have hg : g < 2 := by
        by_contra hge
        have gone := (startup?_eq_none_iff (pairServer.run events) g).mpr (by omega)
        simp [hp] at gone
      obtain ⟨result, hresult⟩ := ended g hg
      exact ⟨result, Option.some.inj (hp.symm.trans hresult)⟩
  have slot : (pairServer.run events).slot = some 1 := by decide
  rcases (healthy_of_resting stays resting).1 with hempty | ⟨g, c, hs, hc, hstate⟩
  · exact absurd (hempty.symm.trans slot) (by simp)
  · obtain rfl : g = 1 := Option.some.inj (hs.symm.trans slot)
    exact ⟨c, hc, hstate⟩

/-- The caller of a stop goes away while the nodes are being shut down.  When nothing goes on any
more, the cluster is stopped and still in the slot, and a start is refused on its account. -/
theorem wedged_server :
    ∃ events, (∀ e ∈ events, e.isCalm = true) ∧ (pairServer.run events).calls = {} ∧
      (∃ result, (pairServer.run events).startup? 0 = some (.ended result)) ∧
      (pairServer.run events).slot = some 0 ∧
      (∃ c, (pairServer.run events).cluster? 0 = some c ∧ c.registry.state = .stopped ∧
        Cluster.Quiet c) ∧
      ((pairServer.run events).run [.call 3 (.start Cluster.pairParams), .pollCall 3]).result? 3 =
        some (.error .alreadyExists) := by
  refine ⟨pairUp 0 ++ [.call 2 .stop, .pollCall 2, .pollWorker 0 .keeper, .pollWorker 0 .stopper,
    .leave 2, .answer 0 .stopper .done, .pollWorker 0 .stopper, .pollWorker 0 .keeper],
    by decide, by decide, ⟨_, rfl⟩, by decide, ⟨_, rfl, by decide, by decide⟩, by decide⟩

end Server
end ClusterControl
