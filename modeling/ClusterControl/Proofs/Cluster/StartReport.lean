import ClusterControl.Proofs.Cluster.ShutdownOnce

/-!
# Who is told how a start came out

When the launch is over, well or badly, it says so, and leaves the failure if there was one.  The
outcome belongs to one call, the first one that waits for it, which may come before or after that.
This module proves that this call is told just what was left.

* `left?`, `told?` — what there is to be told, and what a call is told of it.
* `Claimed` — one call is the only reader of what is left.
* `FirstWaiter` — a call is the first of a run that waits for the start.
* `LaunchOver` — the event of a run in which the launch is said to be over.
* `told?_of_launchOver` — the first call that waits is told what was left in that event.
-/

namespace ClusterControl
namespace Cluster

variable {c d : Cluster} {n : Nat}

/-- What there is to be told of the start, once the launch is over: the failure that was left, if
there is one. -/
def left? (c : Cluster) : Option (Option Failure) :=
  if c.startDone then some c.report else none

/-- The failure that a caller was told of, if it was one. -/
def failureOf : Outcome Snapshot → Option Failure
  | .ok _ => none
  | .error e => some e

/-- What a call is told of the start, or was told. -/
def told? (c : Cluster) (n : Nat) : Option (Option Failure) :=
  match c.result? n with
  | some result => some (failureOf result)
  | none => c.left?

/-! ## What one move does to it -/

/-- Only the launch and the stop say that the launch is over. -/
theorem startDone_of_ne {e : Event} (h : Move c e d) (hs : e ≠ .poll .starter)
    (ht : e ≠ .poll .stopper) : d.startDone = c.startDone := by
  cases h with
  | starter h => exact absurd rfl hs
  | stopper h => exact absurd rfl ht
  | caller h => exact h.frame.2.2.2.2.1
  | _ => rfl

theorem startDone_move {e : Event} (h : Move c e d) (hd : c.startDone = true) :
    d.startDone = true := by
  cases h with
  | starter h => cases h <;> first | exact hd | rfl
  | stopper h => cases h <;> first | exact hd | rfl
  | caller h => rw [h.frame.2.2.2.2.1, hd]
  | _ => exact hd

theorem startDone_run (hd : c.startDone = true) (events : List Event) :
    (c.run events).startDone = true :=
  run_preserves (P := fun d => d.startDone = true) (fun _ _ _ _ h hd => startDone_move h hd) c hd

/-- No failure is left before the launch is over. -/
def Silent (c : Cluster) : Prop :=
  c.startDone = false → c.report = none

/-- A call that waits for the start is told what is left, once the launch is over. -/
theorem CallerMove.of_awaitingReady (h : CallerMove c n d)
    (hphase : c.callers.get? n = some .awaitingReady) :
    c.startDone = true ∧ d.reportTaken = c.reportTaken ∧
      ((∃ e, c.report = some e ∧ d.callers = c.callers.set n (.returned (.error e))) ∨
        (c.report = none ∧ d.callers = c.callers.set n (.returned (.ok c.snapshot)))) := by
  cases h with
  | readsFailure _ hd hr => exact ⟨hd, rfl, .inl ⟨_, hr, rfl⟩⟩
  | readsSuccess _ hd hr => exact ⟨hd, rfl, .inr ⟨hr, rfl⟩⟩
  | _ => grind

/-- A call that does not wait for the start yet either claims its outcome, or leaves it alone. -/
theorem CallerMove.of_not_awaitingReady (h : CallerMove c n d)
    (hphase : c.callers.get? n ≠ some .awaitingReady) :
    (c.callers.get? n = some (.fresh .waitReady) ∧ c.reportTaken = false ∧
        d = { c with reportTaken := true }.setCall n .awaitingReady) ∨
      (∃ phase, d.callers = c.callers.set n phase ∧ phase ≠ .awaitingReady ∧
        d.report = c.report ∧ d.reportTaken = c.reportTaken) := by
  cases h with
  | signsUp h ht => exact .inl ⟨h, ht, rfl⟩
  | readsFailure h _ _ => exact absurd h hphase
  | readsSuccess h _ _ => exact absurd h hphase
  | refused ha he => rw [ha.eq]; exact .inr ⟨_, rfl, by simp, rfl, rfl⟩
  | unconfigured ha he hc => rw [ha.eq]; exact .inr ⟨_, rfl, by simp, rfl, rfl⟩
  | removes ha he => rw [ha.eq]; exact .inr ⟨_, rfl, by simp, rfl, rfl⟩
  | replaces ha he hc => rw [ha.eq]; exact .inr ⟨_, rfl, by simp, rfl, rfl⟩
  | _ => exact .inr ⟨_, rfl, by simp, rfl, rfl⟩

/-- No move leaves a failure without saying that the launch is over. -/
theorem silent_move {e : Event} (h : Move c e d) (inv : Silent c) : Silent d := by
  intro hd
  cases h with
  | starter h =>
    cases h with
    | asks h => exact inv hd
    | waits h hj => exact inv hd
    | publishes h hj hp => simp at hd
    | launchCrashes h => exact inv hd
    | waitCrashes h hj => exact inv hd
    | _ => simp [startFailed] at hd
  | stopper h =>
    cases h with
    | tells h => simp at hd
    | _ => exact inv hd
  | @caller m d h =>
    have undone : c.startDone = false := by rw [← h.frame.2.2.2.2.1, hd]
    by_cases hphase : c.callers.get? m = some .awaitingReady
    · have done := (h.of_awaitingReady hphase).1
      simp [undone] at done
    · rcases h.of_not_awaitingReady hphase with ⟨-, -, rfl⟩ | ⟨phase, -, -, hreport, -⟩
      · exact inv undone
      · rw [hreport]
        exact inv undone
  | _ => exact inv hd

theorem reportTaken_move {e : Event} (h : Move c e d) (ht : c.reportTaken = true) :
    d.reportTaken = true := by
  cases h with
  | starter h => rw [h.frame.2.2.2.2.2.2, ht]
  | stopper h => rw [h.frame.2.2.2.2, ht]
  | @caller m d h =>
    by_cases hphase : c.callers.get? m = some .awaitingReady
    · rw [(h.of_awaitingReady hphase).2.1, ht]
    · rcases h.of_not_awaitingReady hphase with ⟨-, -, rfl⟩ | ⟨phase, -, -, -, htaken⟩
      · rfl
      · rw [htaken, ht]
  | _ => exact ht

/-- A failure that was left because a stop came first stays, as long as nobody reads it. -/
theorem report_of_done {e : Event} {o : Option Failure} (h : Move c e d) (inv : Coherent c)
    (hd : c.startDone = true) (hr : c.report = o) (hu : c.starter = .unborn → o = some .aborted)
    (hquiet : ∀ m, e ≠ .poll (.caller m)) : d.report = o := by
  cases h with
  | starter h => simp [inv.busy_done h.isBusy] at hd
  | stopper h =>
    cases h with
    | tells h =>
      have unborn := (inv.prior_iff .created (by rw [h]; rfl)).mp rfl
      simp [leaveReport, hr, hu unborn]
    | _ => exact hr
  | caller h => exact absurd rfl (hquiet _)
  | _ => exact hr

/-! ## Before the outcome is claimed -/

/-- Nobody waits for the start whose outcome nobody has claimed. -/
def Unread (c : Cluster) : Prop :=
  c.reportTaken = false → ∀ m, c.callers.get? m ≠ some .awaitingReady

/-- A call that waits for the start did so before, or has just claimed its outcome. -/
theorem awaitingReady_of_move {e : Event} {m : Nat} (h : Move c e d)
    (hm : d.callers.get? m = some .awaitingReady) :
    c.callers.get? m = some .awaitingReady ∨ c.reportTaken = false ∧ d.reportTaken = true := by
  cases h with
  | @arrives k call hfree =>
    simp only [setCall, Roster.get?_set] at hm
    split at hm
    · simp at hm
    · exact .inl hm
  | leaves k =>
    simp only [leave, Roster.get?_erase] at hm
    split at hm
    · simp at hm
    · exact .inl hm
  | @callerAnswered k phase errand reply hphase herrand ha =>
    simp only [Roster.get?_set] at hm
    split at hm
    · have charged := CallPhase.charge?_isSome_of_errand? herrand
      rw [← CallPhase.charge?_take reply, Option.some.inj hm] at charged
      simp [CallPhase.charge?] at charged
    · exact .inl hm
  | starter h => exact .inl (h.frame.1 ▸ hm)
  | stopper h => exact .inl (h.frame.1 ▸ hm)
  | @caller k d h =>
    by_cases hk : c.callers.get? k = some .awaitingReady
    · obtain ⟨-, -, ⟨e, -, hcallers⟩ | ⟨-, hcallers⟩⟩ := h.of_awaitingReady hk
      · rw [hcallers, Roster.get?_set] at hm
        split at hm
        · simp at hm
        · exact .inl hm
      · rw [hcallers, Roster.get?_set] at hm
        split at hm
        · simp at hm
        · exact .inl hm
    · rcases h.of_not_awaitingReady hk with ⟨-, htaken, rfl⟩ | ⟨phase, hcallers, hphase, -, -⟩
      · exact .inr ⟨htaken, rfl⟩
      · rw [hcallers, Roster.get?_set] at hm
        split at hm
        · exact absurd (Option.some.inj hm) hphase
        · exact .inl hm
  | _ => exact .inl hm

theorem reportTaken_of_move {e : Event} (h : Move c e d) (ht : d.reportTaken = false) :
    c.reportTaken = false := by
  by_contra htaken
  simp [reportTaken_move h (by simpa using htaken)] at ht

theorem unread_move {e : Event} (h : Move c e d) (inv : Unread c) : Unread d := by
  intro ht m hm
  rcases awaitingReady_of_move h hm with hwaits | ⟨-, htaken⟩
  · exact inv (reportTaken_of_move h ht) m hwaits
  · simp [ht] at htaken

/-- As long as nobody claims it, what is left stays. -/
theorem left?_move {e : Event} {o : Option Failure} (h : Move c e d) (inv : Coherent c)
    (unread : Unread c) (ht : d.reportTaken = false) (hu : c.starter = .unborn → o = some .aborted)
    (hleft : c.left? = some o) : d.left? = some o := by
  have untaken := reportTaken_of_move h ht
  unfold left? at hleft ⊢
  split at hleft
  · next hdone =>
    have hreport := Option.some.inj hleft
    rw [startDone_move h hdone]
    by_cases hcall : ∃ m, e = .poll (.caller m)
    · obtain ⟨m, rfl⟩ := hcall
      cases h with
      | caller h =>
        rcases h.of_not_awaitingReady (unread untaken m) with ⟨-, -, rfl⟩ | ⟨phase, -, -, heq, -⟩
        · simp [setCall] at ht
        · simp [heq, hreport]
    · have quiet : ∀ m, e ≠ .poll (.caller m) := fun m heq => hcall ⟨m, heq⟩
      simp [report_of_done h inv hdone hreport hu quiet]
  · simp at hleft

/-! ## After the outcome was claimed -/

/-- One call has claimed the outcome of the start, and waits for it or was told it. -/
structure Claimed (n : Nat) (c : Cluster) : Prop where
  taken : c.reportTaken = true
  only : ∀ m, c.callers.get? m = some .awaitingReady → m = n
  -- the call waits for it, or was told it when the launch was over
  here : c.callers.get? n = some .awaitingReady ∨
    (c.startDone = true ∧ ∃ r, c.callers.get? n = some (.returned r))

/-- A call goes on waiting for the start, or is told, as long as its caller stays. -/
theorem claimed_move {e : Event} (h : Move c e d) (he : e ≠ .leave n) (inv : Claimed n c) :
    Claimed n d where
  taken := reportTaken_move h inv.taken
  only m hm := by
    rcases awaitingReady_of_move h hm with hwaits | ⟨htaken, -⟩
    · exact inv.only m hwaits
    · simp [inv.taken] at htaken
  here := by
    rcases inv.here with hwaits | ⟨hdone, r, hreturned⟩
    · rcases h.phase_cases hwaits he with hsame | ⟨-, hown⟩ | ⟨errand, reply, herrand, -⟩
      · exact .inl hsame
      · obtain ⟨hdone, -, ⟨e, -, hcallers⟩ | ⟨-, hcallers⟩⟩ := hown.of_awaitingReady hwaits
        · exact .inr ⟨startDone_move h hdone, _, by rw [hcallers]; exact Roster.get?_set_self ..⟩
        · exact .inr ⟨startDone_move h hdone, _, by rw [hcallers]; exact Roster.get?_set_self ..⟩
      · simp [CallPhase.errand?] at herrand
    · rcases h.phase_cases hreturned he with hsame | ⟨-, hown⟩ | ⟨errand, reply, herrand, -⟩
      · exact .inr ⟨startDone_move h hdone, r, hsame⟩
      · exact absurd hown (CallerMove.not_of_returned hreturned)
      · simp [CallPhase.errand?] at herrand

theorem told?_of_returned {r : Outcome Snapshot} (h : c.callers.get? n = some (.returned r)) :
    c.told? n = some (failureOf r) := by
  simp [told?, result?, h]

theorem told?_of_awaitingReady (h : c.callers.get? n = some .awaitingReady) :
    c.told? n = c.left? := by
  simp [told?, result?, h]

/-- What a call that has claimed the outcome is told is what was left for it. -/
theorem told?_move {e : Event} {o : Option Failure} (h : Move c e d) (inv : Coherent c)
    (claimed : Claimed n c) (he : e ≠ .leave n) (hu : c.starter = .unborn → o = some .aborted)
    (htold : c.told? n = some o) : d.told? n = some o := by
  rcases claimed.here with hwaits | ⟨hdone, r, hreturned⟩
  · rw [told?_of_awaitingReady hwaits, left?] at htold
    split at htold
    · next hdone =>
      have hreport := Option.some.inj htold
      rcases h.phase_cases hwaits he with hsame | ⟨-, hown⟩ | ⟨errand, reply, herrand, -⟩
      · rw [told?_of_awaitingReady hsame, left?, startDone_move h hdone, if_pos rfl]
        by_cases hcall : ∃ m, e = .poll (.caller m)
        · obtain ⟨m, rfl⟩ := hcall
          cases h with
          | caller h =>
            by_cases hm : c.callers.get? m = some .awaitingReady
            · -- The call that goes on is the one that waits, so it does not wait any more.
              obtain rfl := claimed.only m hm
              obtain ⟨-, -, ⟨e, -, hcallers⟩ | ⟨-, hcallers⟩⟩ := h.of_awaitingReady hm
              · rw [hcallers, Roster.get?_set_self] at hsame
                simp at hsame
              · rw [hcallers, Roster.get?_set_self] at hsame
                simp at hsame
            · rcases h.of_not_awaitingReady hm with ⟨-, htaken, -⟩ | ⟨phase, -, -, heq, -⟩
              · simp [claimed.taken] at htaken
              · rw [heq, hreport]
        · have quiet : ∀ m, e ≠ .poll (.caller m) := fun m heq => hcall ⟨m, heq⟩
          rw [report_of_done h inv hdone hreport hu quiet]
      · obtain ⟨-, -, ⟨e, hr, hcallers⟩ | ⟨hr, hcallers⟩⟩ := hown.of_awaitingReady hwaits
        · rw [told?_of_returned (by rw [hcallers]; exact Roster.get?_set_self ..), ← hreport, hr]
          rfl
        · rw [told?_of_returned (by rw [hcallers]; exact Roster.get?_set_self ..), ← hreport, hr]
          rfl
      · simp [CallPhase.errand?] at herrand
    · simp at htold
  · rcases h.phase_cases hreturned he with hsame | ⟨-, hown⟩ | ⟨errand, reply, herrand, -⟩
    · rw [told?_of_returned hsame, ← told?_of_returned hreturned, htold]
    · exact absurd hown (CallerMove.not_of_returned hreturned)
    · simp [CallPhase.errand?] at herrand

/-! ## The first call that waits -/

/-- A call is the first one of a run to wait for the start, and its caller has stayed since. -/
def FirstWaiter (c : Cluster) (events : List Event) (n : Nat) : Prop :=
  ∃ before after, events = before ++ .poll (.caller n) :: after ∧
    (c.run before).callers.get? n = some (.fresh .waitReady) ∧
    (∀ earlier m, earlier ++ [.poll (.caller m)] <+: before →
      (c.run earlier).callers.get? m ≠ some (.fresh .waitReady)) ∧
    .leave n ∉ after

/-- An event in which no call begins to wait for the start leaves its outcome unclaimed. -/
theorem reportTaken_step {e : Event} (ht : c.reportTaken = false)
    (he : ∀ m, e = .poll (.caller m) → c.callers.get? m ≠ some (.fresh .waitReady)) :
    (c.step e).reportTaken = false := by
  refine (step_preserves (e := e) (P := fun d => d.reportTaken = false ∧
    ∀ m, e = .poll (.caller m) → d.callers.get? m ≠ some (.fresh .waitReady)) ?_ c ⟨ht, he⟩).1
  intro c d h both
  obtain ⟨ht, he⟩ := both
  cases h with
  | starter h => exact ⟨h.frame.2.2.2.2.2.2.trans ht, by simp⟩
  | stopper h => exact ⟨h.frame.2.2.2.2.trans ht, by simp⟩
  | @caller m d h =>
    refine ⟨?_, fun k hk => ?_⟩
    · by_cases hphase : c.callers.get? m = some .awaitingReady
      · exact (h.of_awaitingReady hphase).2.1.trans ht
      · rcases h.of_not_awaitingReady hphase with ⟨hfresh, -, -⟩ | ⟨phase, -, -, -, htaken⟩
        · exact absurd hfresh (he m rfl)
        · exact htaken.trans ht
    · obtain ⟨phase, hcallers, hbegun⟩ := h.callers_eq
      obtain rfl : m = k := by simpa using hk
      rw [hcallers, Roster.get?_set_self]
      simpa using hbegun .waitReady
  | _ => exact ⟨ht, by simp⟩

/-- As long as no call has begun to wait for the start, its outcome is unclaimed. -/
theorem reportTaken_run (ht : c.reportTaken = false) {events : List Event}
    (he : ∀ earlier m, earlier ++ [.poll (.caller m)] <+: events →
      (c.run earlier).callers.get? m ≠ some (.fresh .waitReady)) :
    (c.run events).reportTaken = false := by
  induction events using List.reverseRecOn with
  | nil => exact ht
  | append_singleton events e ih =>
    rw [run_append]
    refine reportTaken_step (ih fun earlier m hm => ?_) fun m hm => ?_
    · exact he earlier m (hm.trans (List.prefix_append events [e]))
    · exact he events m (by rw [hm])

/-- A call that claims the outcome of the start is told what is left, or waits. -/
theorem claimed_of_claim (unread : Unread c) (ht : c.reportTaken = false)
    (hphase : c.callers.get? n = some (.fresh .waitReady)) :
    Claimed n (c.step (.poll (.caller n))) ∧ (c.step (.poll (.caller n))).told? n = c.left? := by
  have nobody := unread ht
  have step_eq : c.step (.poll (.caller n)) = { c with reportTaken := true }.readReport n := by
    simp [step, poll, pollCaller, hphase, beginCall, ht]
  rw [step_eq]
  have others {phase : CallPhase} (m : Nat)
      (hm : (c.callers.set n phase).get? m = some .awaitingReady) : m = n := by
    by_contra hne
    rw [Roster.get?_set, if_neg hne] at hm
    exact nobody m hm
  unfold readReport
  split
  · next hdone =>
    have done : c.startDone = true := hdone
    split
    · next e hr =>
      have left : c.report = some e := hr
      refine ⟨⟨rfl, others, .inr ⟨done, _, Roster.get?_set_self ..⟩⟩, ?_⟩
      rw [told?_of_returned (Roster.get?_set_self ..), left?, done, left]
      rfl
    · next hr =>
      have left : c.report = none := hr
      refine ⟨⟨rfl, others, .inr ⟨done, _, Roster.get?_set_self ..⟩⟩, ?_⟩
      rw [told?_of_returned (Roster.get?_set_self ..), left?, done, left]
      rfl
  · refine ⟨⟨rfl, others, .inl (Roster.get?_set_self ..)⟩, ?_⟩
    rw [told?_of_awaitingReady (Roster.get?_set_self ..)]
    rfl

/-! ## The event in which the launch is over -/

/-- The event of a run in which the launch is said to be over. -/
structure LaunchOver (c : Cluster) (events before : List Event) (e : Event) : Prop where
  within : before ++ [e] <+: events
  undone : (c.run before).startDone = false
  done : (c.run (before ++ [e])).startDone = true

theorem exists_launchOver (hc : c.startDone = false) {events : List Event}
    (hd : (c.run events).startDone = true) : ∃ before e, LaunchOver c events before e := by
  induction events using List.reverseRecOn with
  | nil => simp [hc] at hd
  | append_singleton events e ih =>
    cases hbefore : (c.run events).startDone with
    | false => exact ⟨events, e, List.prefix_rfl, hbefore, hd⟩
    | true =>
      obtain ⟨before, e', h⟩ := ih hbefore
      exact ⟨before, e', h.within.trans (List.prefix_append events [e]), h.undone, h.done⟩

/-- The event in which the launch is said to be over is one of the launch or of the stop. -/
theorem LaunchOver.event {events before : List Event} {e : Event}
    (h : LaunchOver c events before e) : e = .poll .starter ∨ e = .poll .stopper := by
  by_contra hne
  obtain ⟨hs, ht⟩ := not_or.mp hne
  have undone := step_preserves (e := e) (P := fun d => d.startDone = false)
    (fun h hd => (startDone_of_ne h hs ht).trans hd) (c.run before) h.undone
  have done := h.done
  rw [run_append] at done
  exact absurd done (by simpa using undone)

/-! ## Whole runs -/

/-- A launch that was asked for stays so. -/
theorem unborn_of_move {e : Event} (h : Move c e d) (hu : d.starter = .unborn) :
    c.starter = .unborn := by
  cases h with
  | starts h => simp at hu
  | starterAnswered _ _ => simpa using hu
  | starter h => cases h <;> simp [ask, startFailed] at hu
  | stopper h => exact h.frame.2.1 ▸ hu
  | caller h => exact h.frame.1 ▸ hu
  | _ => exact hu

theorem unborn_of_run {events : List Event} (hu : (c.run events).starter = .unborn) :
    c.starter = .unborn := by
  by_contra hborn
  exact run_preserves (P := fun d => d.starter ≠ .unborn)
    (fun _ _ _ _ h hborn hu => hborn (unborn_of_move h hu)) c hborn hu

/-- The failure that counts if there never was a launch is that a stop came first. -/
def AbortedIfUnborn (o : Option Failure) (c : Cluster) : Prop :=
  c.starter = .unborn → o = some .aborted

theorem left?_run {o : Option Failure} (order : Orderly c) (unread : Unread c)
    (hu : AbortedIfUnborn o c) (hleft : c.left? = some o) {events : List Event}
    (ht : (c.run events).reportTaken = false) : (c.run events).left? = some o := by
  have kept : Unread (c.run events) ∧ AbortedIfUnborn o (c.run events) ∧
      ((c.run events).reportTaken = false → (c.run events).left? = some o) :=
    run_preserves_given orderly_move
      (P := fun d => Unread d ∧ AbortedIfUnborn o d ∧ (d.reportTaken = false → d.left? = some o))
      (fun e _ c d h order inv => by
        obtain ⟨unread, hu, hleft⟩ := inv
        refine ⟨unread_move h unread, fun hd => hu (unborn_of_move h hd), fun ht => ?_⟩
        exact left?_move h order.toCoherent unread ht hu (hleft (reportTaken_of_move h ht)))
      c order ⟨unread, hu, fun _ => hleft⟩
  exact kept.2.2 ht

theorem claimed_run (claimed : Claimed n c) {events : List Event} (hstays : .leave n ∉ events) :
    Claimed n (c.run events) :=
  run_preserves (fun _ he _ _ h inv => claimed_move h (ne_of_mem_of_not_mem he hstays) inv) c
    claimed

theorem told?_run {o : Option Failure} (order : Orderly c) (claimed : Claimed n c)
    (hu : AbortedIfUnborn o c) (htold : c.told? n = some o) {events : List Event}
    (hstays : .leave n ∉ events) : (c.run events).told? n = some o := by
  have kept : Claimed n (c.run events) ∧ AbortedIfUnborn o (c.run events) ∧
      (c.run events).told? n = some o :=
    run_preserves_given orderly_move
      (P := fun d => Claimed n d ∧ AbortedIfUnborn o d ∧ d.told? n = some o)
      (fun e he c d h order inv => by
        obtain ⟨claimed, hu, htold⟩ := inv
        have hne := ne_of_mem_of_not_mem he hstays
        exact ⟨claimed_move h hne claimed, fun hd => hu (unborn_of_move h hd),
          told?_move h order.toCoherent claimed hne hu htold⟩)
      c order ⟨claimed, hu, htold⟩
  exact kept.2.2

theorem unread_run (unread : Unread c) (events : List Event) : Unread (c.run events) :=
  run_preserves (fun _ _ _ _ h inv => unread_move h inv) c unread

/-- The first call that waits for the start claims its outcome, and waits for it or has been told
it. -/
theorem FirstWaiter.claimed {events : List Event} (unread : Unread c) (ht : c.reportTaken = false)
    (first : FirstWaiter c events n) : Claimed n (c.run events) := by
  obtain ⟨calls, after, rfl, hphase, hfirst, hstays⟩ := first
  have claimed := (claimed_of_claim (unread_run unread calls) (reportTaken_run ht hfirst) hphase).1
  rw [run_append, run_cons]
  exact claimed_run claimed hstays

/-- A call that has claimed the outcome is told it as soon as it goes on once there is something to
be told. -/
theorem Claimed.result? {o : Option Failure} (claimed : Claimed n c) (htold : c.told? n = some o) :
    ∃ r, (c.step (.poll (.caller n))).result? n = some r ∧ failureOf r = o := by
  rcases claimed.here with hwaits | ⟨-, r, hreturned⟩
  · rw [told?_of_awaitingReady hwaits, left?] at htold
    have polled : c.step (.poll (.caller n)) = c.readReport n := by
      simp only [step, poll, pollCaller, hwaits]
    rw [polled]
    split at htold
    · next hdone =>
      rw [readReport, if_pos hdone]
      cases hr : c.report with
      | none =>
        refine ⟨.ok c.snapshot, by simp [Cluster.result?, setCall], ?_⟩
        rw [← Option.some.inj htold, hr]
        rfl
      | some e =>
        refine ⟨.error e, by simp [Cluster.result?, setCall], ?_⟩
        rw [← Option.some.inj htold, hr]
        rfl
    · simp at htold
  · have polled : c.step (.poll (.caller n)) = c := by
      simp only [step, poll, pollCaller, hreturned]
    rw [told?_of_returned hreturned] at htold
    rw [polled]
    exact ⟨r, by simp [Cluster.result?, hreturned], Option.some.inj htold⟩

/-- The event in which the launch is said to be over leaves the calls alone. -/
theorem LaunchOver.callers_eq {events before : List Event} {e : Event}
    (h : LaunchOver c events before e) :
    (c.run (before ++ [e])).callers = (c.run before).callers := by
  rw [run_append]
  refine step_preserves (P := fun d => d.callers = (c.run before).callers) (fun hmove hd => ?_)
    (c.run before) rfl
  rcases h.event with rfl | rfl
  · cases hmove with
    | starter hmove => rw [hmove.frame.1, hd]
  · cases hmove with
    | stopper hmove => rw [hmove.frame.1, hd]

/-- The first call that waits for the start is told just what was left when the launch was over. -/
theorem told?_of_launchOver {events before : List Event} {e : Event} (order : Orderly c)
    (unread : Unread c) (ht : c.reportTaken = false) (hover : LaunchOver c events before e)
    (hu : AbortedIfUnborn (c.run (before ++ [e])).report (c.run (before ++ [e])))
    (first : FirstWaiter c events n) :
    (c.run events).told? n = some (c.run (before ++ [e])).report := by
  obtain ⟨calls, after, rfl, hphase, hfirst, hstays⟩ := first
  have left : (c.run (before ++ [e])).left? = some (c.run (before ++ [e])).report := by
    simp [left?, hover.done]
  have unclaimed := reportTaken_run ht hfirst
  obtain ⟨claimed, told⟩ := claimed_of_claim (unread_run unread calls) unclaimed hphase
  have claims : (c.run calls).step (.poll (.caller n)) = c.run (calls ++ [.poll (.caller n)]) := by
    rw [run_append, run_cons, run_nil]
  rw [claims] at claimed told
  have whole : calls ++ .poll (.caller n) :: after = calls ++ [.poll (.caller n)] ++ after := by
    simp
  rw [whole] at hover ⊢
  have unequal : before ++ [e] ≠ calls ++ [.poll (.caller n)] := by
    intro heq
    obtain ⟨-, hlast⟩ := List.append_inj' heq rfl
    rcases hover.event with he | he <;> simp [he] at hlast
  rcases List.prefix_or_prefix_of_prefix hover.within (List.prefix_append _ after) with hle | hle
  · -- The launch is over when the call begins to wait.
    obtain ⟨rest, rfl⟩ := (List.prefix_concat_iff.mp hle).resolve_left unequal
    have unborn_of_claim (hd : (c.run (before ++ [e] ++ rest ++ [.poll (.caller n)])).starter =
        .unborn) : (c.run (before ++ [e])).starter = .unborn := by
      rw [List.append_assoc, run_append] at hd
      exact unborn_of_run hd
    rw [run_append c (before ++ [e])] at unclaimed told
    rw [left?_run (orderly_run order _) (unread_run unread _) hu left unclaimed] at told
    rw [run_append]
    exact told?_run (orderly_run order _) claimed (fun hd => hu (unborn_of_claim hd)) told hstays
  · -- The call waits when the launch is over, since it cannot have been told anything before.
    obtain ⟨rest, rfl⟩ := (List.prefix_concat_iff.mp hle).resolve_left unequal.symm
    obtain ⟨last, hafter⟩ := hover.within
    simp only [List.append_assoc, List.append_cancel_left_eq] at hafter
    rw [← hafter] at hstays ⊢
    simp only [List.mem_append, not_or] at hstays
    have claimed := claimed_run claimed hstays.1
    rw [← run_append] at claimed
    have waits := claimed.here.resolve_right fun told =>
      absurd told.1 (by rw [hover.undone]; exact Bool.false_ne_true)
    have told : (c.run (calls ++ [.poll (.caller n)] ++ rest ++ [e])).told? n = some _ :=
      (told?_of_awaitingReady (hover.callers_eq ▸ waits)).trans left
    have claimed := claimed_run claimed hstays.2.1
    rw [← run_append] at claimed
    rw [← List.append_assoc, ← List.append_assoc, run_append _ (_ ++ [e])]
    exact told?_run (orderly_run order _) claimed hu told hstays.2.2

end Cluster
end ClusterControl
