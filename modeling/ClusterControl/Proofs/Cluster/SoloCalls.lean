import ClusterControl.Proofs.Cluster.LockLine
import ClusterControl.Proofs.Cluster.RegistrySound
import ClusterControl.Proofs.Cluster.Serialised

/-!
# Changes of nodes by themselves

A healthy cluster whose stop does not begin does nothing but change nodes for its callers.  A call
that has the lock then depends neither on the other calls nor on who stands in line for the lock.
This module proves so, and that a cluster stays such a one as long as nodes are changed only.

* `Event.onlyChanges` — changes of nodes come in and are carried out, and nobody goes away.
* `Serving`, `serving_move` — a healthy cluster with no calls but changes of nodes.
* `Turn` — what a call does in one go: to the rest of the cluster, to its own phase, to the lock.
* `takesTurn_beginMutation`, `exists_turn` — a call that has the lock takes the same turn, whatever
  the other calls are and whoever stands in line.
-/

namespace ClusterControl

/-- The call is over. -/
def CallPhase.isOver : CallPhase → Bool
  | returned _ => true
  | crashed => true
  | _ => false

namespace Cluster

/-- Changes of nodes come in and are carried out; nobody goes away, and nothing else is asked for or
begins. -/
def Event.onlyChanges : Event → Bool
  | .call _ (.mutate _) => true
  | .call _ _ => false
  | .leave _ => false
  | .poll .stopper => false
  | _ => true

variable {c d : Cluster} {n : Nat} {e : Event} {planned : List NodeConfig}

/-- A healthy cluster of whose calls all that are not over are changes of nodes. -/
structure Serving (planned : List NodeConfig) (c : Cluster) : Prop extends
    Orderly c, Lined c, Kept planned c where
  healthy : c.registry.state = .healthy
  calls : ∀ n phase, c.callers.get? n = some phase →
    phase.isOver = true ∨ ∃ m, phase.Suits (.mutate m)

namespace Serving

theorem unsignalled (inv : Serving planned c) : c.stopSignal = false := by
  by_contra hsignal
  have stopping := inv.signal_iff.mp (by simpa using hsignal)
  simp [inv.healthy, Lifecycle.isStopping] at stopping

theorem stopper (inv : Serving planned c) : c.stopper = .unborn :=
  inv.stopper_unborn_iff.mpr inv.unsignalled

theorem not_busy (inv : Serving planned c) : c.starter.isBusy = false := by
  by_contra hbusy
  rcases inv.busy_state (by simpa using hbusy) with hstate | hstate
  · simp [inv.healthy] at hstate
  · simp [inv.healthy] at hstate

/-- The launch is over. -/
theorem starter (inv : Serving planned c) : c.starter = .ended := by
  have born : c.starter ≠ .unborn := by
    intro hunborn
    rcases inv.unborn_state hunborn with hstate | hstate
    · simp [inv.healthy] at hstate
    · simp [inv.healthy, Lifecycle.isStopping] at hstate
  have quiet := inv.not_busy
  cases hs : c.starter <;> simp_all [StartPhase.isBusy]

end Serving

theorem not_move_of_isOver {phase : CallPhase} (hphase : c.callers.get? n = some phase)
    (hover : phase.isOver = true) : ¬ CallerMove c n d := by
  unfold CallPhase.isOver at hover
  split at hover
  · exact CallerMove.not_of_returned hphase
  · exact CallerMove.not_of_crashed hphase
  · simp at hover

/-- A call that is over stays so, as long as its caller stays. -/
theorem over_move {phase : CallPhase} (h : Move c e d) (he : e ≠ .leave n)
    (hphase : c.callers.get? n = some phase) (hover : phase.isOver = true) :
    d.callers.get? n = some phase := by
  rcases h.phase_cases hphase he with hsame | ⟨-, hown⟩ | ⟨errand, reply, herrand, -⟩
  · exact hsame
  · exact absurd hown (not_move_of_isOver hphase hover)
  · cases phase <;> simp [CallPhase.isOver, CallPhase.errand?] at hover herrand

/-- What a call is about is what it came in for, from when it came in. -/
theorem calls_move (h : Move c e d) (he : e.onlyChanges = true)
    (calls : ∀ n phase, c.callers.get? n = some phase →
      phase.isOver = true ∨ ∃ m, phase.Suits (.mutate m)) (n : Nat) (phase : CallPhase)
    (hd : d.callers.get? n = some phase) :
    phase.isOver = true ∨ ∃ m, phase.Suits (.mutate m) := by
  have stays : e ≠ .leave n := by
    rintro rfl
    simp [Event.onlyChanges] at he
  cases hphase : c.callers.get? n with
  | none =>
    by_cases hcall : ∃ call, e = .call n call
    · obtain ⟨call, rfl⟩ := hcall
      cases h with
      | arrives hfree =>
        obtain rfl : .fresh call = phase := by simpa [setCall] using hd
        cases call with
        | mutate m => exact .inr ⟨m, .fresh _⟩
        | waitReady => simp [Event.onlyChanges] at he
        | stop => simp [Event.onlyChanges] at he
    · simp [(h.stays_free hphase fun call heq => hcall ⟨call, heq⟩).1] at hd
  | some before =>
    rcases calls n before hphase with hover | ⟨m, suits⟩
    · obtain rfl := Option.some.inj ((over_move h stays hphase hover).symm.trans hd)
      exact .inl hover
    · obtain ⟨_, hthere, suits'⟩ := suits_move h stays ⟨before, hphase, suits⟩
      obtain rfl := Option.some.inj (hthere.symm.trans hd)
      exact .inr ⟨m, suits'⟩

/-- As long as nodes are changed only, the cluster stays healthy. -/
theorem serving_move (h : Move c e d) (he : e.onlyChanges = true) (inv : Serving planned c) :
    Serving planned d := by
  have kept : d.registry.state = .healthy := by
    have healthy := inv.healthy
    cases h with
    | starts h => simp [healthy] at h
    | starter h =>
      have busy := h.isBusy
      simp [inv.not_busy] at busy
    | stopper h => simp [Event.onlyChanges] at he
    | caller h => exact h.frame.2.2.2.2.2.2.2.1.trans healthy
    | _ => exact healthy
  exact ⟨orderly_move h inv.toOrderly, lined_move h inv.toCustody inv.toLined,
    kept_move h inv.toOrderly inv.toKept, kept, calls_move h he inv.calls⟩

theorem serving_step (inv : Serving planned c) (he : e.onlyChanges = true) :
    Serving planned (c.step e) :=
  step_preserves (fun h inv => serving_move h he inv) c inv

theorem serving_run (inv : Serving planned c) {events : List Event}
    (he : ∀ e ∈ events, e.onlyChanges = true) : Serving planned (c.run events) :=
  run_preserves (fun e hmem _ _ h inv => serving_move h (he e hmem) inv) c inv

/-! ## Turns -/

/-- A cluster with other calls, and with another line for its lock. -/
def withCalls (c : Cluster) (callers : Roster CallPhase) (lock : FairLock Worker) : Cluster :=
  { c with callers := callers, lock := lock }

/-- What a call does in one go: the rest of the cluster after it, the phase of the call, and whether
it gives the lock back. -/
structure Turn where
  rest : Cluster
  phase : CallPhase
  gives : Bool

namespace Turn

/-- The cluster after the turn of a call, with these calls and this line for the lock before. -/
def on (t : Turn) (n : Nat) (callers : Roster CallPhase) (lock : FairLock Worker) : Cluster :=
  t.rest.withCalls (callers.set n t.phase) (if t.gives then lock.release else lock)

/-- The call gives the lock back when it is over, and not before. -/
def Fair (t : Turn) : Prop :=
  if t.gives then t.phase.isOver = true else t.phase.charge?.isSome = true

end Turn

/-- What a call does in one go under the lock is a turn, whatever the other calls are. -/
def TakesTurn (c : Cluster) (n : Nat) (f : Cluster → Cluster) : Prop :=
  ∃ t : Turn, t.Fair ∧ ∀ callers lock, f (c.withCalls callers lock) = t.on n callers lock

theorem takesTurn_conclude (c : Cluster) (n : Nat) (result : Outcome Snapshot) :
    c.TakesTurn n (·.conclude n result) :=
  ⟨⟨c, .returned result, true⟩, rfl, fun _ _ => rfl⟩

theorem takesTurn_breakOff (c : Cluster) (n : Nat) : c.TakesTurn n (·.breakOff n) :=
  ⟨⟨c, .crashed, true⟩, rfl, fun _ _ => rfl⟩

theorem takesTurn_cleanUp (c : Cluster) (n : Nat) (name : String) (cause : Failure) :
    c.TakesTurn n (·.cleanUp n name cause) :=
  ⟨⟨c.ask (.caller n) (.remove name), .cleaning name cause none, false⟩, rfl, fun _ _ => rfl⟩

/-- A call that has the lock begins with a turn. -/
theorem takesTurn_beginMutation (c : Cluster) (n : Nat) (m : Mutation) :
    c.TakesTurn n (·.beginMutation n m) := by
  have refused (callers : Roster CallPhase) (lock : FairLock Worker) :
      (c.withCalls callers lock).refusal? m.name = c.refusal? m.name := rfl
  cases hr : c.refusal? m.name with
  | some f =>
    refine ⟨⟨c, .returned (.error f), true⟩, rfl, fun callers lock => ?_⟩
    simp only [beginMutation, refused, hr]
    rfl
  | none =>
    cases m with
    | remove name =>
      refine ⟨⟨c.ask (.caller n) (.remove name), .removing name none, false⟩, rfl,
        fun callers lock => ?_⟩
      simp only [beginMutation, refused, hr]
      rfl
    | restart name params =>
      have known (callers : Roster CallPhase) (lock : FairLock Worker) :
          (c.withCalls callers lock).registry.configs.get? name =
            c.registry.configs.get? name := rfl
      cases hc : c.registry.configs.get? name with
      | none =>
        refine ⟨⟨c, .returned (.error (.notFound name)), true⟩, rfl, fun callers lock => ?_⟩
        simp only [beginMutation, refused, hr, known, hc]
        rfl
      | some previous =>
        refine ⟨⟨c.ask (.caller n) (.remove name), .replacing name (previous.relaunch params) none,
          false⟩, rfl, fun callers lock => ?_⟩
        simp only [beginMutation, refused, hr, known, hc]
        rfl

theorem takesTurn_restarted (c : Cluster) (n : Nat) (name : String) (report : NodeReport) :
    c.TakesTurn n (·.restarted n name report) := by
  unfold restarted
  cases report.endpoint with
  | ok e =>
    exact ⟨⟨{ c with registry := c.registry.restarted name e },
      .returned (.ok { c with registry := c.registry.restarted name e }.snapshot), true⟩, rfl,
      fun _ _ => rfl⟩
  | error f => exact takesTurn_cleanUp c n name f

theorem judge_withCalls {α : Type} (c : Cluster) (callers : Roster CallPhase)
    (lock : FairLock Worker) (deadline : Nat) (reply : Pending α) :
    (c.withCalls callers lock).judge deadline reply = c.judge deadline reply :=
  rfl

theorem takesTurn_awaitNode (c : Cluster) (n : Nat) (name : String) (deadline : Nat)
    (reply : Pending NodeReport) : c.TakesTurn n (·.awaitNode n name deadline reply) := by
  unfold awaitNode
  simp only [TakesTurn, judge_withCalls]
  cases c.judge deadline reply with
  | still => exact ⟨⟨c, .awaitingNode name deadline reply, false⟩, rfl, fun _ _ => rfl⟩
  | reported report => exact takesTurn_restarted c n name report
  | failed f => exact takesTurn_cleanUp c n name f
  | crashed => exact takesTurn_breakOff c n

theorem takesTurn_awaitAll (c : Cluster) (n : Nat) (name : String) (deadline : Nat)
    (reply : Pending (Table NodeReport)) :
    c.TakesTurn n (·.awaitAll n name deadline reply) := by
  unfold awaitAll
  simp only [TakesTurn, judge_withCalls]
  cases c.judge deadline reply with
  | still => exact ⟨⟨c, .awaitingAll name deadline reply, false⟩, rfl, fun _ _ => rfl⟩
  | reported reports =>
    simp only
    cases reports.get? name with
    | some report => exact takesTurn_restarted c n name report
    | none => exact takesTurn_cleanUp c n name _
  | failed f => exact takesTurn_cleanUp c n name f
  | crashed => exact takesTurn_breakOff c n

theorem takesTurn_awaitRestart (c : Cluster) (n : Nat) (name : String) :
    c.TakesTurn n (·.awaitRestart n name) := by
  have same (callers : Roster CallPhase) (lock : FairLock Worker) :
      (c.withCalls callers lock).judge (c.withCalls callers lock).deadline
        (none : Pending Unit) = c.judge c.deadline none := rfl
  have policy (callers : Roster CallPhase) (lock : FairLock Worker) :
      (c.withCalls callers lock).restartPolicy = c.restartPolicy := rfl
  unfold awaitRestart
  simp only [TakesTurn, same, policy]
  split
  · exact takesTurn_cleanUp c n name _
  · split
    · exact ⟨⟨c.ask (.caller n) (.waitNode name), .awaitingNode name c.deadline none, false⟩, rfl,
        fun _ _ => rfl⟩
    · exact ⟨⟨c.ask (.caller n) .waitHealthy, .awaitingAll name c.deadline none, false⟩, rfl,
        fun _ _ => rfl⟩

/-- A node is gone, and the call that removed it is over. -/
theorem takesTurn_removed (c : Cluster) (n : Nat) (name : String) :
    c.TakesTurn n fun c =>
      let c := { c with registry := c.registry.forget name }
      c.conclude n (.ok c.snapshot) :=
  ⟨⟨{ c with registry := c.registry.forget name },
    .returned (.ok { c with registry := c.registry.forget name }.snapshot), true⟩, rfl,
    fun _ _ => rfl⟩

/-- A node is gone that could not be launched anew. -/
theorem takesTurn_cleaned (c : Cluster) (n : Nat) (name : String) (cause : Failure) :
    c.TakesTurn n fun c =>
      ({ c with registry := c.registry.forget name } : Cluster).conclude n (.error cause) :=
  ⟨⟨{ c with registry := c.registry.forget name }, .returned (.error cause), true⟩, rfl,
    fun _ _ => rfl⟩

/-- A node is gone and is to be launched anew, unless a stop was requested. -/
theorem takesTurn_restarting (c : Cluster) (n : Nat) (name : String) (config : NodeConfig) :
    c.TakesTurn n fun c =>
      let c := { c with registry := c.registry.restarting name config }
      if c.stopSignal then c.cleanUp n name .aborted
      else (c.setCall n (.adding name config none)).ask (.caller n) (.add config) := by
  cases hs : c.stopSignal with
  | true =>
    refine ⟨⟨{ c with registry := c.registry.restarting name config }.ask (.caller n) (.remove name),
      .cleaning name .aborted none, false⟩, rfl, fun callers lock => ?_⟩
    have signalled : (c.withCalls callers lock).stopSignal = true := hs
    show (if (c.withCalls callers lock).stopSignal = true then _ else _) = _
    rw [if_pos signalled]
    rfl
  | false =>
    refine ⟨⟨{ c with registry := c.registry.restarting name config }.ask (.caller n) (.add config),
      .adding name config none, false⟩, rfl, fun callers lock => ?_⟩
    have unsignalled : (c.withCalls callers lock).stopSignal = false := hs
    show (if (c.withCalls callers lock).stopSignal = true then _ else _) = _
    rw [if_neg (by simp [unsignalled])]
    rfl

/-- A call that is changing a node goes on with a turn. -/
theorem exists_turn {phase : CallPhase} (c : Cluster) (n : Nat) (hc : phase.charge?.isSome = true) :
    ∃ t : Turn, t.Fair ∧ ∀ callers lock, callers.get? n = some phase →
      (c.withCalls callers lock).pollCaller n = t.on n callers lock := by
  have goesOn {f : Cluster → Cluster} (turn : c.TakesTurn n f)
      (h : ∀ b : Cluster, b.callers.get? n = some phase → b.pollCaller n = f b) :
      ∃ t : Turn, t.Fair ∧ ∀ callers lock, callers.get? n = some phase →
        (c.withCalls callers lock).pollCaller n = t.on n callers lock := by
    obtain ⟨t, fair, same⟩ := turn
    exact ⟨t, fair, fun callers lock hphase => (h _ hphase).trans (same callers lock)⟩
  -- A call whose answer is not there yet stays where it is.  An answer is a failure of the launcher,
  -- its breakdown, or a success.
  have stays (h : ∀ b : Cluster, b.callers.get? n = some phase → b.pollCaller n = b) :
      ∃ t : Turn, t.Fair ∧ ∀ callers lock, callers.get? n = some phase →
        (c.withCalls callers lock).pollCaller n = t.on n callers lock := by
    refine ⟨⟨c, phase, false⟩, hc, fun callers lock hphase => (h _ hphase).trans ?_⟩
    simp [Turn.on, Roster.set_eq_self hphase]
  cases phase with
  | removing name reply =>
    rcases reply with _ | ((f | _) | _)
    · exact stays fun b hb => by simp only [pollCaller, hb]
    · exact goesOn (takesTurn_conclude c n (.error f)) fun b hb => by simp only [pollCaller, hb]
    · exact goesOn (takesTurn_breakOff c n) fun b hb => by simp only [pollCaller, hb]
    · exact goesOn (takesTurn_removed c n name) fun b hb => by simp only [pollCaller, hb]
  | replacing name config reply =>
    rcases reply with _ | ((f | _) | _)
    · exact stays fun b hb => by simp only [pollCaller, hb]
    · exact goesOn (takesTurn_conclude c n (.error f)) fun b hb => by simp only [pollCaller, hb]
    · exact goesOn (takesTurn_breakOff c n) fun b hb => by simp only [pollCaller, hb]
    · exact goesOn (takesTurn_restarting c n name config) fun b hb => by simp only [pollCaller, hb]
  | adding name config reply =>
    rcases reply with _ | ((f | _) | _)
    · exact stays fun b hb => by simp only [pollCaller, hb]
    · exact goesOn (takesTurn_cleanUp c n name f) fun b hb => by simp only [pollCaller, hb]
    · exact goesOn (takesTurn_breakOff c n) fun b hb => by simp only [pollCaller, hb]
    · exact goesOn (takesTurn_awaitRestart c n name) fun b hb => by simp only [pollCaller, hb]
  | awaitingNode name deadline reply =>
    exact goesOn (takesTurn_awaitNode c n name deadline reply)
      fun b hb => by simp only [pollCaller, hb]
  | awaitingAll name deadline reply =>
    exact goesOn (takesTurn_awaitAll c n name deadline reply)
      fun b hb => by simp only [pollCaller, hb]
  | cleaning name cause reply =>
    rcases reply with _ | ((f | _) | _)
    · exact stays fun b hb => by simp only [pollCaller, hb]
    · exact goesOn (takesTurn_cleaned c n name cause) fun b hb => by simp only [pollCaller, hb]
    · exact goesOn (takesTurn_breakOff c n) fun b hb => by simp only [pollCaller, hb]
    · exact goesOn (takesTurn_cleaned c n name cause) fun b hb => by simp only [pollCaller, hb]
  | _ => simp [CallPhase.charge?] at hc

end Cluster
end ClusterControl
