import ClusterControl.Proofs.Cluster.CallHistory
import ClusterControl.Proofs.Cluster.Coherence

/-!
# The line for the lock

The lock of a cluster has a holder and a queue.  Custody says who works under the lock; this module
says who is in line for it: exactly the calls that wait for their turn or are changing a node, and
the stop from the moment when it takes effect.  Nobody is in line who has forgotten about it, so the
lock always comes round.

* `FairLock.line` — the holder and the queue, in the order in which they asked.
* `FairLock.line_request`, `FairLock.line_leave` — one joins at the end, one drops out.
* `Lined` — a free lock has no queue, nobody is in line twice, and who is in line contends.
* `Lined.joins`, `Lined.drops`, `Lined.stays` — what a worker may do to the line.
* `lined_move`, `lined_run` — the line is kept by every move, hence by every run.
-/

namespace ClusterControl

namespace FairLock

variable {τ : Type}

/-- The holder of a lock and those who stand in line for it, in the order in which they asked. -/
def line (l : FairLock τ) : List τ :=
  l.holder.toList ++ l.queue

/-- Nobody stands in line for a lock that is free. -/
def Tight (l : FairLock τ) : Prop :=
  l.holder = none → l.queue = []

theorem mem_line_of_holder {l : FairLock τ} {party : τ} (h : l.holder = some party) :
    party ∈ l.line := by
  simp [line, h]

/-- Somebody in line means that somebody holds the lock. -/
theorem Tight.exists_holder {l : FairLock τ} {party : τ} (h : l.Tight) (hmem : party ∈ l.line) :
    ∃ holder, l.holder = some holder := by
  cases hl : l.holder with
  | some holder => exact ⟨holder, rfl⟩
  | none =>
    have empty : l.line = [] := by simp [line, hl, h hl]
    rw [empty] at hmem
    exact absurd hmem List.not_mem_nil

theorem tight_request (l : FairLock τ) (party : τ) : (l.request party).Tight := by
  intro h
  cases hl : l.holder with
  | none => simp [request, hl] at h
  | some holder => simp [request, hl] at h

theorem Tight.line_request {l : FairLock τ} (h : l.Tight) (party : τ) :
    (l.request party).line = l.line ++ [party] := by
  cases hl : l.holder with
  | none => simp [request, line, hl, h hl]
  | some holder => simp [request, line, hl]

theorem tight_release (l : FairLock τ) : l.release.Tight := by
  intro h
  have empty : l.queue = [] := List.head?_eq_none_iff.mp h
  simp [release, empty]

theorem line_release (l : FairLock τ) : l.release.line = l.queue := by
  cases hq : l.queue with
  | nil => simp [release, line, hq]
  | cons party rest => simp [release, line, hq]

variable [DecidableEq τ]

theorem Tight.leave {l : FairLock τ} (h : l.Tight) (party : τ) : (l.leave party).Tight := by
  unfold FairLock.leave
  split
  · exact tight_release l
  · intro hfree
    have empty : l.queue = [] := h hfree
    simp [empty]

theorem Tight.line_leave {l : FairLock τ} (h : l.Tight) (party : τ) :
    (l.leave party).line = l.line.erase party := by
  unfold FairLock.leave
  split
  · next hheld =>
    have holds := isHeldBy_iff.mp hheld
    rw [line_release]
    simp [line, holds]
  · next hheld =>
    have other : l.holder ≠ some party := fun holds => hheld (isHeldBy_iff.mpr holds)
    cases hl : l.holder with
    | none => simp [line, hl, h hl]
    | some holder =>
      have hne : holder ≠ party := fun heq => other (by rw [hl, heq])
      simp [line, hl, hne]

/-- The holder of a lock that gives it back drops out of the line. -/
theorem release_eq_leave {l : FairLock τ} {party : τ} (h : l.holder = some party) :
    l.release = l.leave party := by
  rw [FairLock.leave, if_pos (isHeldBy_iff.mpr h)]

/-- A party that gets a lock at once and gives it back leaves it as it was. -/
theorem Tight.release_request {l : FairLock τ} {party : τ} (h : l.Tight)
    (hout : party ∉ l.line) (hheld : (l.request party).isHeldBy party = true) :
    (l.request party).release = l := by
  cases hl : l.holder with
  | none =>
    have empty : l.queue = [] := h hl
    obtain ⟨holder, queue⟩ := l
    simp_all [request, release]
  | some holder =>
    have holds := isHeldBy_iff.mp hheld
    rw [request_holder_of_some hl] at holds
    exact absurd (mem_line_of_holder (hl.trans holds)) hout

end FairLock

namespace CallPhase

/-- A call that waits for its turn, or is changing a node. -/
def contends : CallPhase → Bool
  | queued _ => true
  | phase => phase.charge?.isSome

theorem contends_of_charge? {phase : CallPhase} (h : phase.charge?.isSome = true) :
    phase.contends = true := by
  unfold contends
  split
  · rfl
  · exact h

theorem contends_take (reply : Reply) (phase : CallPhase) :
    (phase.take reply).contends = phase.contends := by
  unfold take
  split <;> rfl

end CallPhase

namespace Cluster

variable {c d : Cluster} {n : Nat}

/-- A worker that holds the lock or waits for it. -/
def contends (c : Cluster) : Worker → Bool
  | .starter => false
  | .keeper => false
  | .stopper => c.stopper.prior?.isSome
  | .caller n => (c.callers.get? n).any CallPhase.contends

theorem contends_caller {phase : CallPhase} (h : c.callers.get? n = some phase) :
    c.contends (.caller n) = phase.contends := by
  simp [contends, h]

/-- Putting one call into a phase leaves all other workers where they are. -/
theorem contends_of_set {phase : CallPhase} (hcallers : d.callers = c.callers.set n phase)
    (hstopper : d.stopper = c.stopper) (w : Worker) :
    d.contends w = if w = .caller n then phase.contends else c.contends w := by
  cases w with
  | starter => rfl
  | keeper => rfl
  | stopper => simp [contends, hstopper]
  | caller m =>
    by_cases hm : m = n
    · simp [contends, hcallers, hm]
    · simp [contends, hcallers, hm]

/-- Who is in line for the lock. -/
structure Lined (c : Cluster) : Prop where
  tight : c.lock.Tight
  nodup : c.lock.line.Nodup
  mem_iff : ∀ w, w ∈ c.lock.line ↔ c.contends w = true

namespace Lined

/-- A move in which nobody joins the line or drops out of it. -/
theorem stays (inv : Lined c) (hlock : d.lock = c.lock)
    (hsame : ∀ w, d.contends w = c.contends w) : Lined d where
  tight := by rw [hlock]; exact inv.tight
  nodup := by rw [hlock]; exact inv.nodup
  mem_iff w := by rw [hlock, hsame]; exact inv.mem_iff w

/-- One worker joins the line. -/
theorem joins (inv : Lined c) {w : Worker} (hout : c.contends w = false)
    (hlock : d.lock = c.lock.request w) (hself : d.contends w = true)
    (hothers : ∀ v, v ≠ w → d.contends v = c.contends v) : Lined d where
  tight := by rw [hlock]; exact FairLock.tight_request c.lock w
  nodup := by
    have absent : w ∉ c.lock.line := by
      intro hmem
      simp [(inv.mem_iff w).mp hmem] at hout
    rw [hlock, inv.tight.line_request, ← List.concat_eq_append]
    exact inv.nodup.concat absent
  mem_iff v := by
    rw [hlock, inv.tight.line_request, List.mem_append, inv.mem_iff v, List.mem_singleton]
    by_cases hv : v = w
    · subst hv
      simp [hself]
    · simp [hothers v hv, hv]

/-- One worker drops out of the line, whether it held the lock or not. -/
theorem drops (inv : Lined c) {w : Worker} (hlock : d.lock = c.lock.leave w)
    (hself : d.contends w = false) (hothers : ∀ v, v ≠ w → d.contends v = c.contends v) :
    Lined d where
  tight := by rw [hlock]; exact inv.tight.leave w
  nodup := by
    rw [hlock, inv.tight.line_leave]
    exact inv.nodup.erase w
  mem_iff v := by
    rw [hlock, inv.tight.line_leave, inv.nodup.mem_erase_iff, inv.mem_iff v]
    by_cases hv : v = w
    · subst hv
      simp [hself]
    · simp [hothers v hv, hv]

/-- A call goes on without joining the line or dropping out of it. -/
theorem setCall (inv : Lined c) {before phase : CallPhase}
    (hbefore : c.callers.get? n = some before) (hcallers : d.callers = c.callers.set n phase)
    (hphase : phase.contends = before.contends) (hstopper : d.stopper = c.stopper)
    (hlock : d.lock = c.lock) : Lined d := by
  refine inv.stays hlock fun w => ?_
  rw [contends_of_set hcallers hstopper]
  split
  · next hw => rw [hw, contends_caller hbefore, hphase]
  · rfl

/-- A call that did not contend joins the line. -/
theorem joins_call (inv : Lined c) {before phase : CallPhase}
    (hbefore : c.callers.get? n = some before) (hidle : before.contends = false)
    (hcallers : d.callers = c.callers.set n phase) (hphase : phase.contends = true)
    (hstopper : d.stopper = c.stopper) (hlock : d.lock = c.lock.request (.caller n)) :
    Lined d := by
  refine inv.joins (w := .caller n) ?_ hlock ?_ fun v hv => ?_
  · rw [contends_caller hbefore, hidle]
  · rw [contends_of_set hcallers hstopper, if_pos rfl, hphase]
  · rw [contends_of_set hcallers hstopper, if_neg hv]

/-- A call that holds the lock gives it back. -/
theorem conclude (inv : Lined c) (hholder : c.lock.holder = some (.caller n)) {phase : CallPhase}
    (hcallers : d.callers = c.callers.set n phase) (hphase : phase.contends = false)
    (hstopper : d.stopper = c.stopper) (hlock : d.lock = c.lock.release) : Lined d := by
  refine inv.drops (w := .caller n) ?_ ?_ fun v hv => ?_
  · rw [hlock, FairLock.release_eq_leave hholder]
  · rw [contends_of_set hcallers hstopper, if_pos rfl, hphase]
  · rw [contends_of_set hcallers hstopper, if_neg hv]

/-- A call that was changing a node is over with it. -/
theorem conclude_charge (inv : Lined c) (custody : Custody c) {before phase : CallPhase}
    (hbefore : c.callers.get? n = some before) (hcharge : before.charge?.isSome = true)
    (hcallers : d.callers = c.callers.set n phase) (hphase : phase.contends = false)
    (hstopper : d.stopper = c.stopper) (hlock : d.lock = c.lock.release) : Lined d :=
  inv.conclude (custody.charge_holds n before hbefore hcharge) hcallers hphase hstopper hlock

/-- A call that has got the lock begins to change a node. -/
theorem admitted (inv : Lined c) {x : Cluster} {m : Mutation} (ha : Admitted c n m x)
    {phase : CallPhase} (hcallers : d.callers = c.callers.set n phase)
    (hphase : phase.contends = true) (hstopper : d.stopper = c.stopper)
    (hlock : d.lock = x.lock) : Lined d := by
  cases ha with
  | atOnce h hl => exact inv.joins_call h rfl hcallers hphase hstopper hlock
  | inTurn h hl => exact inv.setCall h hcallers hphase hstopper hlock

/-- A call that has got the lock gives it back at once. -/
theorem refused (inv : Lined c) {x : Cluster} {m : Mutation} (ha : Admitted c n m x)
    {phase : CallPhase} (hcallers : d.callers = c.callers.set n phase)
    (hphase : phase.contends = false) (hstopper : d.stopper = c.stopper)
    (hlock : d.lock = x.lock.release) : Lined d := by
  cases ha with
  | atOnce h hl =>
    have idle : c.contends (.caller n) = false := contends_caller h
    have absent : .caller n ∉ c.lock.line := by
      intro hmem
      simp [(inv.mem_iff _).mp hmem] at idle
    have hsame : d.lock = c.lock := by rw [hlock, inv.tight.release_request absent hl]
    exact inv.setCall h hcallers hphase hstopper hsame
  | inTurn h hl => exact inv.conclude (FairLock.isHeldBy_iff.mp hl) hcallers hphase hstopper hlock

/-- A lock that nobody wants is free. -/
theorem free_of_idle (inv : Lined c) (idle : ∀ w, c.contends w = false) : c.lock.holder = none := by
  cases hl : c.lock.holder with
  | none => rfl
  | some w =>
    have contends := (inv.mem_iff w).mp (FairLock.mem_line_of_holder hl)
    simp [idle w] at contends

end Lined

theorem lined_stopper (inv : Lined c) (custody : Custody c) (h : StopperMove c d) : Lined d := by
  have others {v : Worker} (hv : v ≠ .stopper) : d.contends v = c.contends v := by
    cases v with
    | stopper => exact absurd rfl hv
    | caller n => simp [contends, h.frame.1]
    | _ => rfl
  -- A stop that goes on under the lock neither joins the line nor drops out.
  have goesOn (hlock : d.lock = c.lock) (hbefore : c.stopper.prior?.isSome = true)
      (hafter : d.stopper.prior?.isSome = true) : Lined d := by
    refine inv.stays hlock fun w => ?_
    by_cases hw : w = .stopper
    · subst hw
      simp only [contends, hbefore, hafter]
    · exact others hw
  have quits (hlock : d.lock = c.lock.release) (hholds : c.stopper.holds = true)
      (hafter : d.stopper.prior?.isSome = false) : Lined d := by
    refine inv.drops (w := .stopper) ?_ hafter fun v hv => others hv
    rw [hlock, FairLock.release_eq_leave (custody.stopper_holds hholds)]
  cases h with
  | begins h ha =>
    refine inv.joins (w := .stopper) ?_ rfl rfl fun v hv => others hv
    simp [contends, h, StopPhase.prior?]
  | shuts h hl hh => exact goesOn rfl (by rw [h]; rfl) rfl
  | passes h hl hh => exact goesOn rfl (by rw [h]; rfl) rfl
  | goesOn h hr => exact goesOn rfl (by rw [h]; rfl) rfl
  | tells h => exact goesOn rfl (by rw [h]; rfl) (by simp [leaveReport, h, StopPhase.prior?])
  | shutsAgain h hd hh => exact goesOn rfl (by rw [h]; rfl) rfl
  | ends hends =>
    have holds : c.stopper.holds = true := by cases hends <;> simp [*, StopPhase.holds]
    exact quits rfl holds rfl
  | crashes h => exact quits rfl (by rw [h]; rfl) rfl

theorem lined_caller (inv : Lined c) (custody : Custody c) (h : CallerMove c n d) : Lined d := by
  cases h with
  | denied h ht => exact inv.setCall h rfl rfl rfl rfl
  | signsUp h ht => exact inv.setCall h rfl rfl rfl rfl
  | readsFailure h hd hr => exact inv.setCall h rfl rfl rfl rfl
  | readsSuccess h hd hr => exact inv.setCall h rfl rfl rfl rfl
  | claimsStop h => exact inv.setCall h rfl rfl rfl rfl
  | readsStop h ho => exact inv.setCall h rfl rfl rfl rfl
  | queues h hl => exact inv.joins_call h rfl rfl rfl rfl rfl
  | refused ha he => exact inv.refused ha (by rw [ha.eq]; rfl) rfl (by rw [ha.eq]; rfl) rfl
  | unconfigured ha he hc =>
    exact inv.refused ha (by rw [ha.eq]; rfl) rfl (by rw [ha.eq]; rfl) rfl
  | removes ha he => exact inv.admitted ha (by rw [ha.eq]; rfl) rfl (by rw [ha.eq]; rfl) rfl
  | replaces ha he hc => exact inv.admitted ha (by rw [ha.eq]; rfl) rfl (by rw [ha.eq]; rfl) rfl
  | removed h => exact inv.conclude_charge custody h rfl rfl rfl rfl rfl
  | removeFails h => exact inv.conclude_charge custody h rfl rfl rfl rfl rfl
  | replaceFails h => exact inv.conclude_charge custody h rfl rfl rfl rfl rfl
  | stopped h hs => exact inv.setCall h rfl rfl rfl rfl
  | adds h hs => exact inv.setCall h rfl rfl rfl rfl
  | awaitsNode h hj hp => exact inv.setCall h rfl rfl rfl rfl
  | awaitsAll h hj hp => exact inv.setCall h rfl rfl rfl rfl
  | cleans hset =>
    obtain ⟨phase, h, hc⟩ := hset.phase
    have contended : phase.contends = true := CallPhase.contends_of_charge? (by simp [hc])
    exact inv.setCall h rfl (by rw [contended]; rfl) rfl rfl
  | recovers hrec =>
    obtain ⟨phase, h, hc⟩ := hrec.phase
    exact inv.conclude_charge custody h (by simp [hc]) rfl rfl rfl rfl
  | cleaned h hr => exact inv.conclude_charge custody h rfl rfl rfl rfl rfl
  | breaks hbreak =>
    obtain ⟨phase, h, hc⟩ := hbreak.phase
    exact inv.conclude_charge custody h hc rfl rfl rfl rfl

theorem lined_leave (inv : Lined c) (n : Nat) : Lined (c.leave n) := by
  refine inv.drops (w := .caller n) rfl ?_ fun v hv => ?_
  · simp [contends, leave]
  · cases v with
    | caller m =>
      have hm : m ≠ n := fun heq => hv (by rw [heq])
      simp [contends, leave, hm]
    | _ => rfl

theorem lined_move {e : Event} (h : Move c e d) (custody : Custody c) (inv : Lined c) :
    Lined d := by
  cases h with
  | @arrives n call h =>
    refine inv.stays rfl fun w => ?_
    have arrived := contends_of_set (c := c) (d := c.setCall n (.fresh call)) rfl rfl w
    rw [arrived]
    split
    · next hw => simp [hw, contends, h, CallPhase.contends, CallPhase.charge?]
    · rfl
  | leaves n => exact lined_leave inv n
  | stopperAnswered he ha =>
    refine inv.stays rfl fun w => ?_
    cases w with
    | stopper => simp [contends]
    | _ => rfl
  | callerAnswered h he ha => exact inv.setCall h rfl (CallPhase.contends_take _ _) rfl rfl
  | starter h =>
    obtain ⟨hcallers, hlock, hstopper, -⟩ := h.frame
    refine inv.stays hlock fun w => ?_
    cases w with
    | stopper => simp [contends, hstopper]
    | caller n => simp [contends, hcallers]
    | _ => rfl
  | stopper h => exact lined_stopper inv custody h
  | caller h => exact lined_caller inv custody h
  | _ => exact inv.stays rfl fun w => by cases w <;> rfl

theorem lined_run (custody : Custody c) (inv : Lined c) (events : List Event) :
    Lined (c.run events) :=
  run_preserves_given (fun h custody => custody_move h custody)
    (fun _ _ _ _ h custody inv => lined_move h custody inv) c custody inv

theorem lined_of_plan {options : ClusterOptions} {params : StartParams} {pid : UInt32}
    {obstacle : Option IoError} (h : plan options params pid obstacle = .ok c) : Lined c := by
  obtain ⟨configs, -, rfl⟩ := plan_eq_ok h
  have nobody (n : Nat) : (Roster.get? {} n : Option CallPhase) = none := rfl
  refine ⟨fun _ => rfl, List.nodup_nil, fun w => ?_⟩
  cases w <;> simp [FairLock.line, contends, StopPhase.prior?, nobody]

end Cluster
end ClusterControl
