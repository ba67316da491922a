import ClusterControl.Proofs.Cluster.Moves

/-!
# Custody of the lock

Whoever changes a node, and a stop from the moment when it looks for nodes, works under the lock.
This module proves that at every moment at most one of them does.

* `Custody` — a call that is changing a node holds the lock, and so does a stop at work.
* `Custody.alone` — while a call holds the lock, every other call and the stop keep their hands off.
* `custody_move`, `custody_run` — custody is preserved by every move, hence by every run.
-/

namespace ClusterControl

/-- The stop works on the nodes, or waits for the launch in order to do so. -/
def StopPhase.holds : StopPhase → Bool
  | .shutting _ _ _ _ => true
  | .awaitingStart _ _ => true
  | _ => false

@[simp] theorem StopPhase.holds_take (reply : Reply) (phase : StopPhase) :
    (phase.take reply).holds = phase.holds := by
  unfold take
  split <;> rfl

namespace FairLock

variable {τ : Type} [DecidableEq τ]

omit [DecidableEq τ] in
theorem request_holder_of_some {l : FairLock τ} {party holder : τ} (h : l.holder = some holder) :
    (l.request party).holder = some holder := by
  simp [request, h]

/-- A party that asks for a lock and does not get it has not changed who holds it. -/
theorem request_holder_of_not_held {l : FairLock τ} {party : τ}
    (h : (l.request party).isHeldBy party = false) : (l.request party).holder = l.holder := by
  cases hl : l.holder with
  | none => simp [request, hl, isHeldBy] at h
  | some holder => rw [request_holder_of_some hl]

theorem leave_holder_of_ne {l : FairLock τ} {party : τ} (h : l.holder ≠ some party) :
    (l.leave party).holder = l.holder := by
  simp [leave, isHeldBy, h]

theorem isHeldBy_iff {l : FairLock τ} {party : τ} :
    l.isHeldBy party = true ↔ l.holder = some party := by
  simp [isHeldBy]

end FairLock

namespace Cluster

variable {c d : Cluster} {n : Nat}

/-- Nodes are changed under the lock only. -/
structure Custody (c : Cluster) : Prop where
  charge_holds : ∀ n phase, c.callers.get? n = some phase → phase.charge?.isSome = true →
    c.lock.holder = some (.caller n)
  stopper_holds : c.stopper.holds = true → c.lock.holder = some .stopper

/-- Nobody but this call is changing a node, and the stop does not work on the nodes. -/
structure Alone (c : Cluster) (n : Nat) : Prop where
  others : ∀ m phase, m ≠ n → c.callers.get? m = some phase → phase.charge? = none
  stopper : c.stopper.holds = false

theorem Admitted.holder {m : Mutation} (h : Admitted c n m d) :
    d.lock.holder = some (.caller n) := by
  cases h with
  | atOnce h hl => exact FairLock.isHeldBy_iff.mp hl
  | inTurn h hl => exact FairLock.isHeldBy_iff.mp hl

/-- Getting the lock changes nothing but the lock. -/
theorem Admitted.eq {m : Mutation} (h : Admitted c n m d) : d = { c with lock := d.lock } := by
  cases h <;> rfl

theorem Admitted.phase {m : Mutation} (h : Admitted c n m d) :
    ∃ phase, c.callers.get? n = some phase ∧ phase.charge? = none := by
  cases h with
  | atOnce h hl => exact ⟨_, h, rfl⟩
  | inTurn h hl => exact ⟨_, h, rfl⟩

/-- A call for which a new launch fails is changing that node. -/
theorem Setback.phase {name : String} {cause : Failure} (h : Setback c n name cause) :
    ∃ phase, c.callers.get? n = some phase ∧ phase.charge? = some name := by
  cases h <;> exact ⟨_, by assumption, rfl⟩

theorem Recovery.phase {name : String} {e : Endpoint} (h : Recovery c n name e) :
    ∃ phase, c.callers.get? n = some phase ∧ phase.charge? = some name := by
  cases h <;> exact ⟨_, by assumption, rfl⟩

theorem Breakdown.phase (h : Breakdown c n) :
    ∃ phase, c.callers.get? n = some phase ∧ phase.charge?.isSome = true := by
  cases h <;> exact ⟨_, by assumption, rfl⟩

namespace Custody

/-- While a call holds the lock, all others keep their hands off. -/
theorem alone (inv : Custody c) (h : c.lock.holder = some (.caller n)) : Alone c n where
  others m phase hm hphase := by
    by_contra hcharge
    have holds := inv.charge_holds m phase hphase (Option.isSome_iff_ne_none.mpr hcharge)
    rw [h] at holds
    simp only [Option.some.injEq, Worker.caller.injEq] at holds
    exact hm holds.symm
  stopper := by
    by_contra hholds
    have holds := inv.stopper_holds (by simpa using hholds)
    simp [h] at holds

theorem alone_of_charge (inv : Custody c) {phase : CallPhase} (h : c.callers.get? n = some phase)
    (hc : phase.charge?.isSome = true) : Alone c n :=
  inv.alone (inv.charge_holds n phase h hc)

theorem alone_of_admitted (inv : Custody c) {m : Mutation} (h : Admitted c n m d) : Alone c n := by
  cases h with
  | inTurn h hl => exact inv.alone (FairLock.isHeldBy_iff.mp hl)
  | atOnce h hl =>
    cases hholder : c.lock.holder with
    | some w =>
      -- The lock is not free, so the one who holds it has to be the call itself.
      have held := FairLock.isHeldBy_iff.mp hl
      rw [FairLock.request_holder_of_some hholder] at held
      exact inv.alone (hholder.trans held)
    | none =>
      refine ⟨fun m phase _ hphase => ?_, ?_⟩
      · by_contra hcharge
        have := inv.charge_holds m phase hphase (Option.isSome_iff_ne_none.mpr hcharge)
        simp [hholder] at this
      · by_contra hholds
        have := inv.stopper_holds (by simpa using hholds)
        simp [hholder] at this

/-- While the stop works on the nodes, no call is changing one. -/
theorem charge?_eq_none (inv : Custody c) (h : c.stopper.holds = true) {phase : CallPhase}
    (hphase : c.callers.get? n = some phase) : phase.charge? = none := by
  by_contra hcharge
  have holds := inv.charge_holds n phase hphase (Option.isSome_iff_ne_none.mpr hcharge)
  simp [inv.stopper_holds h] at holds

theorem charge_unique (inv : Custody c) {m : Nat} {p q : CallPhase}
    (hp : c.callers.get? n = some p) (hpc : p.charge?.isSome = true)
    (hq : c.callers.get? m = some q) (hqc : q.charge?.isSome = true) : n = m := by
  have hn := inv.charge_holds n p hp hpc
  rw [inv.charge_holds m q hq hqc] at hn
  simpa using hn.symm

theorem setIdle (inv : Custody c) {phase : CallPhase} (hphase : phase.charge? = none)
    (hcallers : d.callers = c.callers.set n phase) (hlock : d.lock.holder = c.lock.holder)
    (hstopper : d.stopper = c.stopper) : Custody d where
  charge_holds m p hm hp := by
    rw [hcallers, Roster.get?_set] at hm
    split at hm
    · obtain rfl := Option.some.inj hm
      simp [hphase] at hp
    · exact hlock ▸ inv.charge_holds m p hm hp
  stopper_holds h := hlock ▸ inv.stopper_holds (hstopper ▸ h)

end Custody

/-- A call that is alone may change a node under the lock. -/
theorem Alone.proceed (h : Alone c n) {phase : CallPhase}
    (hcallers : d.callers = c.callers.set n phase) (hlock : d.lock.holder = some (.caller n))
    (hstopper : d.stopper = c.stopper) : Custody d where
  charge_holds m p hm hp := by
    rw [hcallers, Roster.get?_set] at hm
    split at hm
    · next heq => exact heq ▸ hlock
    · next hne => simp [h.others m p hne hm] at hp
  stopper_holds hs := by simp [hstopper, h.stopper] at hs

/-- A call that is alone may give the lock back once it does not change a node any more. -/
theorem Alone.conclude (h : Alone c n) {phase : CallPhase} (hphase : phase.charge? = none)
    (hcallers : d.callers = c.callers.set n phase) (hstopper : d.stopper = c.stopper) :
    Custody d where
  charge_holds m p hm hp := by
    rw [hcallers, Roster.get?_set] at hm
    split at hm
    · obtain rfl := Option.some.inj hm
      simp [hphase] at hp
    · next hne => simp [h.others m p hne hm] at hp
  stopper_holds hs := by simp [hstopper, h.stopper] at hs

theorem StarterMove.frame (h : StarterMove c d) :
    d.callers = c.callers ∧ d.lock = c.lock ∧ d.stopper = c.stopper ∧ d.latch = c.latch ∧
      d.stopSignal = c.stopSignal ∧ d.now = c.now ∧ d.reportTaken = c.reportTaken := by
  cases h <;> exact ⟨rfl, rfl, rfl, rfl, rfl, rfl, rfl⟩

theorem custody_stopper (inv : Custody c) (h : StopperMove c d) : Custody d := by
  cases h with
  | begins hs ha =>
    refine ⟨fun n phase hphase hc => ?_, fun hholds => by simp [StopPhase.holds] at hholds⟩
    exact FairLock.request_holder_of_some (inv.charge_holds n phase hphase hc)
  | shuts hs hl hh => exact ⟨inv.charge_holds, fun _ => FairLock.isHeldBy_iff.mp hl⟩
  | passes hs hl hh => exact ⟨inv.charge_holds, fun _ => FairLock.isHeldBy_iff.mp hl⟩
  | goesOn hs hr =>
    exact ⟨inv.charge_holds, fun _ => inv.stopper_holds (by simp [hs, StopPhase.holds])⟩
  | tells hs => exact ⟨inv.charge_holds, inv.stopper_holds⟩
  | shutsAgain hs hd hh =>
    exact ⟨inv.charge_holds, fun _ => inv.stopper_holds (by simp [hs, StopPhase.holds])⟩
  | ends hends =>
    have holds : c.stopper.holds = true := by
      cases hends <;> simp [*, StopPhase.holds]
    refine ⟨fun n phase hphase hc => ?_, fun hholds => by
      simp [stopEnded, StopPhase.holds] at hholds⟩
    simp [inv.charge?_eq_none holds hphase] at hc
  | crashes hs =>
    refine ⟨fun n phase hphase hc => ?_, fun hholds => by simp [StopPhase.holds] at hholds⟩
    simp [inv.charge?_eq_none (by simp [hs, StopPhase.holds]) hphase] at hc

theorem custody_caller (inv : Custody c) (h : CallerMove c n d) : Custody d := by
  cases h with
  | denied h ht => exact inv.setIdle rfl rfl rfl rfl
  | signsUp h ht => exact inv.setIdle rfl rfl rfl rfl
  | readsFailure h hd hr => exact inv.setIdle rfl rfl rfl rfl
  | readsSuccess h hd hr => exact inv.setIdle rfl rfl rfl rfl
  | claimsStop h => exact inv.setIdle rfl rfl rfl rfl
  | readsStop h ho => exact inv.setIdle rfl rfl rfl rfl
  | queues h hl => exact inv.setIdle rfl rfl (FairLock.request_holder_of_not_held hl) rfl
  | @refused d m e ha he =>
    rw [ha.eq]
    exact (inv.alone_of_admitted ha).conclude rfl rfl rfl
  | @unconfigured d name params ha he hc =>
    rw [ha.eq]
    exact (inv.alone_of_admitted ha).conclude rfl rfl rfl
  | @removes d name ha he =>
    have hholder := ha.holder
    rw [ha.eq]
    exact (inv.alone_of_admitted ha).proceed rfl hholder rfl
  | @replaces d name params previous ha he hc =>
    have hholder := ha.holder
    rw [ha.eq]
    exact (inv.alone_of_admitted ha).proceed rfl hholder rfl
  | removed h => exact (inv.alone_of_charge h rfl).conclude rfl rfl rfl
  | removeFails h => exact (inv.alone_of_charge h rfl).conclude rfl rfl rfl
  | replaceFails h => exact (inv.alone_of_charge h rfl).conclude rfl rfl rfl
  | stopped h hs => exact (inv.alone_of_charge h rfl).proceed rfl (inv.charge_holds n _ h rfl) rfl
  | adds h hs => exact (inv.alone_of_charge h rfl).proceed rfl (inv.charge_holds n _ h rfl) rfl
  | awaitsNode h hj hp =>
    exact (inv.alone_of_charge h rfl).proceed rfl (inv.charge_holds n _ h rfl) rfl
  | awaitsAll h hj hp =>
    exact (inv.alone_of_charge h rfl).proceed rfl (inv.charge_holds n _ h rfl) rfl
  | cleans hset =>
    obtain ⟨phase, h, hc⟩ := hset.phase
    have hsome : phase.charge?.isSome = true := by simp [hc]
    exact (inv.alone_of_charge h hsome).proceed rfl (inv.charge_holds n phase h hsome) rfl
  | recovers hrec =>
    obtain ⟨phase, h, hc⟩ := hrec.phase
    exact (inv.alone_of_charge h (by simp [hc])).conclude rfl rfl rfl
  | cleaned h hr => exact (inv.alone_of_charge h rfl).conclude rfl rfl rfl
  | breaks hbreak =>
    obtain ⟨phase, h, hc⟩ := hbreak.phase
    exact (inv.alone_of_charge h hc).conclude rfl rfl rfl

theorem custody_leave (inv : Custody c) (n : Nat) : Custody (c.leave n) := by
  by_cases hn : c.lock.holder = some (.caller n)
  · have alone := inv.alone hn
    refine ⟨fun m phase hphase hc => ?_, fun hs => ?_⟩
    · simp only [leave, Roster.get?_erase] at hphase
      split at hphase
      · simp at hphase
      · next hne => simp [alone.others m phase hne hphase] at hc
    · have : c.stopper.holds = true := hs
      simp [alone.stopper] at this
  · have hlock : (c.leave n).lock.holder = c.lock.holder := FairLock.leave_holder_of_ne hn
    refine ⟨fun m phase hphase hc => ?_, fun hs => hlock ▸ inv.stopper_holds hs⟩
    simp only [leave, Roster.get?_erase] at hphase
    split at hphase
    · simp at hphase
    · exact hlock ▸ inv.charge_holds m phase hphase hc

theorem custody_move {e : Event} (h : Move c e d) (inv : Custody c) : Custody d := by
  cases h with
  | starts h => exact ⟨inv.charge_holds, inv.stopper_holds⟩
  | arrives h => exact inv.setIdle rfl rfl rfl rfl
  | leaves n => exact custody_leave inv n
  | elapses ms => exact ⟨inv.charge_holds, inv.stopper_holds⟩
  | starterAnswered he ha => exact ⟨inv.charge_holds, inv.stopper_holds⟩
  | stopperAnswered he ha =>
    exact ⟨inv.charge_holds, fun hs => inv.stopper_holds (by simpa using hs)⟩
  | @callerAnswered n phase errand reply h he ha =>
    have hsome := CallPhase.charge?_isSome_of_errand? he
    exact (inv.alone_of_charge h hsome).proceed rfl (inv.charge_holds n phase h hsome) rfl
  | starter h =>
    obtain ⟨hcallers, hlock, hstopper, -⟩ := h.frame
    refine ⟨?_, ?_⟩
    · rw [hcallers, hlock]
      exact inv.charge_holds
    · rw [hstopper, hlock]
      exact inv.stopper_holds
  | keeper => exact ⟨inv.charge_holds, inv.stopper_holds⟩
  | stopper h => exact custody_stopper inv h
  | caller h => exact custody_caller inv h

end Cluster
end ClusterControl
