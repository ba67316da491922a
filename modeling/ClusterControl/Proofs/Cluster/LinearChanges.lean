import ClusterControl.Proofs.Cluster.OneByOne

/-!
# What concurrent changes of nodes come to

A run in which many callers change nodes at once comes to the same as the run in which they do so one
after the other.  This module says what that is: which calls take part and in which order, what one
of them may do to the nodes of the others, and what a call returns that has removed a node.

* `mem_order_iff`, `cameIn_of_begins`, `order_nodup` — every call takes part once, if it came in.
* `agreeBut_poll` — a call changes no node but its own; `names_run` — no node ever comes back.
* `CameIn.mem_order` — every change that is over has begun in its turn.
* `Removal`, `removal_move`, `removal_run` — how far a call is that removes a node, against the
  registry that it has found; `removed_once` — no node is removed twice.
* `Linearizable`, `changes_linearizable` — what all of this comes to for the callers.
-/

namespace ClusterControl

namespace Cluster

variable {c d : Cluster} {n k : Nat} {e : Event} {m : Mutation} {planned : List NodeConfig}
  {events : List Event}

/-! ## The calls that take part -/

theorem order_append (c : Cluster) (first second : List Event) :
    c.order (first ++ second) = c.order first ++ (c.run first).order second := by
  induction first generalizing c with
  | nil => rfl
  | cons e rest ih => simp only [List.cons_append, order, run_cons, ih, List.append_assoc]

/-- The changes of a run are those that begin in one of its events. -/
theorem mem_order_iff :
    (n, m) ∈ c.order events ↔ ∃ before after, events = before ++ .poll (.caller n) :: after ∧
      (c.run before).begins? (.poll (.caller n)) = some (n, m) := by
  induction events generalizing c with
  | nil => simp [order]
  | cons e rest ih =>
    rw [order, List.mem_append, Option.mem_toList, ih]
    constructor
    · rintro (h | ⟨before, after, rfl, h⟩)
      · obtain ⟨rfl, -⟩ := admitted_of_begins h
        exact ⟨[], rest, rfl, h⟩
      · exact ⟨e :: before, after, rfl, h⟩
    · rintro ⟨before, after, heq, h⟩
      cases before with
      | nil =>
        obtain ⟨rfl, rfl⟩ := List.cons.inj heq
        exact .inl h
      | cons e' before =>
        obtain ⟨rfl, rfl⟩ := List.cons.inj heq
        exact .inr ⟨before, after, rfl, h⟩

theorem CameIn.append {call : ClusterCall} {later : List Event} (h : CameIn c events n call)
    (he : ∀ e ∈ later, e ≠ .leave n) : CameIn c (events ++ later) n call := by
  obtain ⟨before, after, rfl, hfree, stays⟩ := h
  refine ⟨before, after ++ later, by simp, hfree, fun hmem => ?_⟩
  rcases List.mem_append.mp hmem with h | h
  · exact stays h
  · exact he _ h rfl

theorem ne_leave_of_onlyChanges (he : e.onlyChanges = true) (n : Nat) : e ≠ .leave n := by
  rintro rfl
  simp [Event.onlyChanges] at he

/-- In a run that begins with no call under way, every call under way is a change that came in. -/
theorem cameIn_of_run (idle : c.Idle) (he : ∀ e ∈ events, e.onlyChanges = true)
    {phase : CallPhase} (hphase : (c.run events).callers.get? n = some phase)
    (under : phase.isOver = false) :
    ∃ m, CameIn c events n (.mutate m) ∧ phase.Suits (.mutate m) := by
  induction events using List.reverseRecOn generalizing phase with
  | nil => simp [idle n phase hphase] at under
  | append_singleton events e ih =>
    have he' : ∀ e ∈ events, e.onlyChanges = true := fun e hmem => he e (by simp [hmem])
    have last : e.onlyChanges = true := he e (by simp)
    have stays := ne_leave_of_onlyChanges last n
    rw [run_append, run_cons, run_nil] at hphase
    cases hbefore : (c.run events).callers.get? n with
    | none =>
      by_cases hcall : ∃ call, e = .call n call
      · obtain ⟨call, rfl⟩ := hcall
        obtain rfl : .fresh call = phase := by
          simpa [step, Cluster.call, hbefore, setCall] using hphase
        cases call with
        | mutate m => exact ⟨m, ⟨events, [], rfl, hbefore, by simp⟩, .fresh _⟩
        | waitReady => simp [Event.onlyChanges] at last
        | stop => simp [Event.onlyChanges] at last
      · have free := step_preserves (P := fun d => d.callers.get? n = none)
          (fun move free => (move.stays_free free fun call heq => hcall ⟨call, heq⟩).1) _ hbefore
        simp [free] at hphase
    | some before =>
      cases hover : before.isOver with
      | true =>
        have same := step_preserves (P := fun d => d.callers.get? n = some before)
          (fun move h => over_move move stays h hover) _ hbefore
        obtain rfl := Option.some.inj (same.symm.trans hphase)
        simp [hover] at under
      | false =>
        obtain ⟨m, came, suits⟩ := ih he' hbefore hover
        obtain ⟨_, hthere, suits'⟩ := step_preserves (P := fun d =>
          ∃ phase, d.callers.get? n = some phase ∧ phase.Suits (.mutate m))
          (fun move h => suits_move move stays h) _ ⟨before, hbefore, suits⟩
        obtain rfl := Option.some.inj (hthere.symm.trans hphase)
        exact ⟨m, came.append (by simpa using stays), suits'⟩

/-- The changes that begin in a run are changes that came in. -/
theorem cameIn_of_begins (idle : c.Idle) (he : ∀ e ∈ events, e.onlyChanges = true)
    (h : (c.run events).begins? e = some (n, m)) : CameIn c events n (.mutate m) := by
  obtain ⟨phase, hphase, hahead, suits⟩ := ahead_of_begins h
  have under : phase.isOver = false := by
    cases phase <;> simp [CallPhase.isAhead, CallPhase.isOver] at hahead ⊢
  obtain ⟨m', came, suits'⟩ := cameIn_of_run idle he hphase under
  have same : m' = m := by
    cases phase with
    | fresh call => simpa using suits'.of_fresh.trans suits.of_fresh.symm
    | queued m₀ => simpa using suits'.of_queued.trans suits.of_queued.symm
    | _ => simp [CallPhase.isAhead] at hahead
  exact same ▸ came

/-- A call whose change has begun goes on with it, or is over. -/
theorem begun_step {phase : CallPhase} (he : e ≠ .leave n) (hphase : c.callers.get? n = some phase)
    (begun : phase.charge?.isSome = true ∨ phase.isOver = true) :
    ∃ after, (c.step e).callers.get? n = some after ∧
      (after.charge?.isSome = true ∨ after.isOver = true) := by
  by_cases hpoll : e = .poll (.caller n)
  · subst hpoll
    rcases begun with hcharge | hover
    · obtain ⟨t, fair, same⟩ := exists_turn c n hcharge
      have turn : c.step (.poll (.caller n)) = t.on n c.callers c.lock :=
        same c.callers c.lock hphase
      refine ⟨t.phase, by rw [turn]; exact Roster.get?_set_self .., ?_⟩
      unfold Turn.Fair at fair
      split at fair
      · exact .inr fair
      · exact .inl fair
    · have same := step_preserves (P := fun d => d.callers.get? n = some phase)
        (fun move h => over_move move he h hover) _ hphase
      exact ⟨phase, same, .inr hover⟩
  · refine step_preserves (P := fun d => ∃ after, d.callers.get? n = some after ∧
      (after.charge?.isSome = true ∨ after.isOver = true)) (fun move inv => ?_) c
      ⟨phase, hphase, begun⟩
    obtain ⟨before, hbefore, begun⟩ := inv
    rcases move.phase_cases hbefore he with hsame | ⟨heq, -⟩ | ⟨errand, reply, herrand, -, -, htaken⟩
    · exact ⟨before, hsame, begun⟩
    · exact absurd heq hpoll
    · refine ⟨_, htaken, .inl ?_⟩
      rw [CallPhase.charge?_take]
      exact CallPhase.charge?_isSome_of_errand? herrand

theorem begun_of_begins (h : c.begins? e = some (n, m)) :
    ∃ after, (c.step e).callers.get? n = some after ∧
      (after.charge?.isSome = true ∨ after.isOver = true) := by
  obtain ⟨-, x, ha, hstep⟩ := admitted_of_begins h
  obtain ⟨t, fair, same⟩ := takesTurn_beginMutation x n m
  have turn : c.step e = t.on n x.callers x.lock := hstep.trans (same x.callers x.lock)
  refine ⟨t.phase, by rw [turn]; exact Roster.get?_set_self .., ?_⟩
  unfold Turn.Fair at fair
  split at fair
  · exact .inr fair
  · exact .inl fair

/-- A call that has begun is in the order, and does not begin again. -/
theorem begun_of_order (he : ∀ e ∈ events, e.onlyChanges = true) (h : (n, m) ∈ c.order events) :
    ∃ phase, (c.run events).callers.get? n = some phase ∧
      (phase.charge?.isSome = true ∨ phase.isOver = true) := by
  induction events using List.reverseRecOn with
  | nil => simp [order] at h
  | append_singleton events e ih =>
    have last : e.onlyChanges = true := he e (by simp)
    rw [run_append, run_cons, run_nil]
    rw [order_append, List.mem_append] at h
    rcases h with h | h
    · obtain ⟨phase, hphase, begun⟩ := ih (fun e hmem => he e (by simp [hmem])) h
      exact begun_step (ne_leave_of_onlyChanges last n) hphase begun
    · simp only [order, List.append_nil, Option.mem_toList] at h
      exact begun_of_begins h

/-- Every call begins once at most. -/
theorem order_nodup (he : ∀ e ∈ events, e.onlyChanges = true) :
    ((c.order events).map Prod.fst).Nodup := by
  induction events using List.reverseRecOn with
  | nil => simp [order]
  | append_singleton events e ih =>
    have he' : ∀ e ∈ events, e.onlyChanges = true := fun e hmem => he e (by simp [hmem])
    rw [order_append, List.map_append]
    refine List.nodup_append.mpr ⟨ih he', ?_, ?_⟩
    · simp only [order, List.append_nil]
      cases (c.run events).begins? e <;> simp
    · rintro n hn _ hlast rfl
      obtain ⟨⟨_, m⟩, hmem, rfl⟩ := List.mem_map.mp hn
      obtain ⟨⟨_, m'⟩, hbegins, rfl⟩ := List.mem_map.mp hlast
      simp only [order, List.append_nil, Option.mem_toList] at hbegins
      obtain ⟨phase, hphase, begun⟩ := begun_of_order he' hmem
      obtain ⟨before, hbefore, hahead, -⟩ := ahead_of_begins hbegins
      obtain rfl := Option.some.inj (hphase.symm.trans hbefore)
      cases phase <;> simp [CallPhase.isAhead, CallPhase.charge?, CallPhase.isOver] at hahead begun

/-! ## What a call does to the nodes -/

/-- As long as nodes are changed only, only the call that is changing a node changes the registry. -/
theorem registry_cases_move (h : Move c e d) (he : e.onlyChanges = true)
    (inv : Serving planned c) :
    d.registry = c.registry ∨ ∃ n phase name, e = .poll (.caller n) ∧
      c.callers.get? n = some phase ∧ phase.charge? = some name ∧
      c.registry.AgreeBut name d.registry := by
  cases h with
  | starts h => simp [inv.healthy] at h
  | starter h =>
    have busy := h.isBusy
    simp [inv.not_busy] at busy
  | stopper h => simp [Event.onlyChanges] at he
  | @caller n d h =>
    rcases h.registry_cases with hsame | ⟨phase, name, hphase, hcharge, agree⟩
    · exact .inl hsame
    · exact .inr ⟨n, phase, name, rfl, hphase, hcharge, agree⟩
  | _ => exact .inl rfl

/-- A call that goes on changes no node but its own. -/
theorem agreeBut_poll (inv : Serving planned c) {phase : CallPhase}
    (hphase : c.callers.get? n = some phase) (suits : phase.Suits (.mutate m)) :
    c.registry.AgreeBut m.name (c.step (.poll (.caller n))).registry := by
  refine (step_preserves (P := fun d => Serving planned d ∧ (∃ phase, d.callers.get? n =
    some phase ∧ phase.Suits (.mutate m)) ∧ c.registry.AgreeBut m.name d.registry)
    (fun move held => ?_) c ⟨inv, ⟨phase, hphase, suits⟩, .refl _ _⟩).2.2
  obtain ⟨serving, hsuits, agree⟩ := held
  refine ⟨serving_move move rfl serving, suits_move move (by simp) hsuits, ?_⟩
  rcases registry_cases_move move rfl serving with hsame | ⟨k, p, name, hk, hp, hcharge, agree'⟩
  · rw [hsame]
    exact agree
  · obtain rfl : n = k := by simpa using hk
    obtain ⟨p', hp', suits'⟩ := hsuits
    obtain rfl := Option.some.inj (hp.symm.trans hp')
    obtain ⟨m', hm, rfl⟩ := suits'.mutation hcharge
    obtain rfl : m = m' := by simpa using hm
    exact agree.trans agree'

/-- Only a call that goes on changes the registry. -/
theorem registry_step (inv : Serving planned c) (he : e.onlyChanges = true) :
    (c.step e).registry = c.registry ∨ ∃ n phase, e = .poll (.caller n) ∧
      c.callers.get? n = some phase ∧ phase.isOver = false := by
  by_cases hpoll : ∃ n phase, e = .poll (.caller n) ∧ c.callers.get? n = some phase ∧
      phase.isOver = false
  · exact .inr hpoll
  · refine .inl (step_preserves (P := fun d => Serving planned d ∧ d.registry = c.registry ∧
      ∀ n, e = .poll (.caller n) → d.callers.get? n = c.callers.get? n)
      (fun move held => ?_) c ⟨inv, rfl, fun _ _ => rfl⟩).2.1
    obtain ⟨serving, same, callers⟩ := held
    have ended (n : Nat) (heq : e = .poll (.caller n)) (phase : CallPhase)
        (hphase : c.callers.get? n = some phase) : phase.isOver = true := by
      by_contra hover
      exact hpoll ⟨n, phase, heq, hphase, by simpa using hover⟩
    refine ⟨serving_move move he serving, ?_, fun n heq => ?_⟩
    · rcases registry_cases_move move he serving with
        hsame | ⟨n, phase, name, heq, hphase, hcharge, -⟩
      · exact hsame.trans same
      · have hover := ended n heq phase (callers n heq ▸ hphase)
        cases phase <;> simp [CallPhase.isOver, CallPhase.charge?] at hover hcharge
    · subst heq
      cases move with
      | caller h =>
        obtain ⟨phase, hphase⟩ := h.phase
        have hover := ended n rfl phase (callers n rfl ▸ hphase)
        exact absurd h (not_move_of_isOver hphase hover)

/-- A node that is gone does not come back. -/
theorem names_run (inv : Serving planned c) (he : ∀ e ∈ events, e.onlyChanges = true) :
    (c.run events).registry.names.Sublist c.registry.names := by
  induction events generalizing c with
  | nil => exact .refl _
  | cons e rest ih =>
    have first := he e List.mem_cons_self
    have later := ih (serving_step inv first) fun e' he' => he e' (List.mem_cons_of_mem e he')
    rcases registry_step inv first with hsame | ⟨n, phase, rfl, hphase, hover⟩
    · rw [hsame] at later
      exact later
    · obtain ⟨m, suits⟩ := (inv.calls n phase hphase).resolve_left (by simp [hover])
      exact later.trans (agreeBut_poll inv hphase suits).names_sublist

/-! ## Every change that is over has begun -/

/-- A call that has not got the lock yet begins in an event, or still has not got it. -/
theorem ahead_step {phase : CallPhase} (he : e ≠ .leave n) (hphase : c.callers.get? n = some phase)
    (ahead : phase.isAhead = true) (suits : phase.Suits (.mutate m)) :
    c.begins? e = some (n, m) ∨ ∃ after, (c.step e).callers.get? n = some after ∧
      after.isAhead = true ∧ after.Suits (.mutate m) := by
  by_cases hpoll : e = .poll (.caller n)
  · subst hpoll
    cases phase with
    | fresh call =>
      obtain rfl := suits.of_fresh
      by_cases hl : (c.lock.request (.caller n)).isHeldBy (.caller n) = true
      · exact .inl (by simp [begins?, hphase, hl])
      · refine .inr ⟨.queued m, ?_, rfl, .queued m⟩
        simp [step, poll, pollCaller, hphase, beginCall, hl, setCall]
    | queued m' =>
      obtain rfl : m = m' := by simpa using suits.of_queued
      by_cases hl : c.lock.isHeldBy (.caller n) = true
      · exact .inl (by simp [begins?, hphase, hl])
      · refine .inr ⟨.queued m, ?_, rfl, suits⟩
        simp [step, poll, pollCaller, hphase, hl]
    | _ => simp [CallPhase.isAhead] at ahead
  · refine .inr ⟨phase, ?_, ahead, suits⟩
    refine step_preserves (P := fun d => d.callers.get? n = some phase) (fun move h => ?_) c hphase
    rcases move.phase_cases h he with hsame | ⟨heq, -⟩ | ⟨errand, reply, herrand, -⟩
    · exact hsame
    · exact absurd heq hpoll
    · cases phase <;> simp [CallPhase.isAhead, CallPhase.errand?] at ahead herrand

theorem mem_order_of_ahead (he : ∀ e ∈ events, e.onlyChanges = true) {phase : CallPhase}
    (hphase : c.callers.get? n = some phase) (ahead : phase.isAhead = true)
    (suits : phase.Suits (.mutate m)) :
    (n, m) ∈ c.order events ∨ ∃ after, (c.run events).callers.get? n = some after ∧
      after.isAhead = true := by
  induction events generalizing c phase with
  | nil => exact .inr ⟨phase, hphase, ahead⟩
  | cons e rest ih =>
    rw [order, List.mem_append, Option.mem_toList]
    rcases ahead_step (ne_leave_of_onlyChanges (he e List.mem_cons_self) n) hphase ahead suits
      with hbegins | ⟨after, hafter, ahead', suits'⟩
    · exact .inl (.inl hbegins)
    · rcases ih (fun e' he' => he e' (List.mem_cons_of_mem e he')) hafter ahead' suits' with h | h
      · exact .inl (.inr h)
      · exact .inr h

/-- A change that came in and is over has begun. -/
theorem CameIn.mem_order (h : CameIn c events n (.mutate m))
    (he : ∀ e ∈ events, e.onlyChanges = true) {phase : CallPhase}
    (hphase : (c.run events).callers.get? n = some phase) (hover : phase.isOver = true) :
    (n, m) ∈ c.order events := by
  obtain ⟨before, after, rfl, hfresh, -⟩ := h.split
  rw [order_append, List.mem_append]
  rw [run_append] at hphase
  rcases mem_order_of_ahead (fun e hmem => he e (List.mem_append_right before hmem)) hfresh rfl
    (.fresh _) with h | ⟨p, hp, ahead⟩
  · exact .inr h
  · obtain rfl := Option.some.inj (hp.symm.trans hphase)
    simp [CallPhase.not_isAhead_of_isOver hover] at ahead

/-! ## What a removal returns -/

/-- A call that is removing a node goes on when the answer is there. -/
theorem CallerMove.of_removing (h : CallerMove c n d) {name : String} {reply : Pending Unit}
    (hphase : c.callers.get? n = some (.removing name reply)) :
    d = { c with registry := c.registry.forget name }.conclude n
        (.ok { c with registry := c.registry.forget name }.snapshot) ∨
      (∃ f, d = c.conclude n (.error f)) ∨ d = c.breakOff n := by
  cases h with
  | removed h =>
    obtain ⟨rfl, -⟩ := CallPhase.removing.inj (Option.some.inj (h.symm.trans hphase))
    exact .inl rfl
  | removeFails h => exact .inr (.inl ⟨_, rfl⟩)
  | breaks hbreak => exact .inr (.inr rfl)
  | _ => grind

/-- While a call is changing a node, nobody else changes the registry. -/
theorem registry_of_charge (h : Move c e d) (he : e.onlyChanges = true) (inv : Serving planned c)
    {phase : CallPhase} (hphase : c.callers.get? n = some phase)
    (hcharge : phase.charge?.isSome = true) (hpoll : e ≠ .poll (.caller n)) :
    d.registry = c.registry := by
  rcases registry_cases_move h he inv with hsame | ⟨k, p, name, rfl, hp, hname, -⟩
  · exact hsame
  · have other : k ≠ n := fun heq => hpoll (by rw [heq])
    simp [(inv.toCustody.alone_of_charge hphase hcharge).others k p other hp] at hname

/-- What a snapshot tells once a node is gone from this registry. -/
structure Snapshot.Without (name : String) (r : Registry) (s : Snapshot) : Prop where
  names : s.names = r.names.filter (· != name)
  records : s.records = r.records.erase name
  configs : s.configs = r.configs.erase name

/-- How far a call is that removes a node, against the registry that it has found: the registry is
still that one, or the call is over, and then the node is gone unless the call has failed. -/
def Removal (n : Nat) (name : String) (r : Registry) (c : Cluster) : Prop :=
  (∃ reply, c.callers.get? n = some (.removing name reply) ∧ c.registry = r) ∨
    ∃ phase, c.callers.get? n = some phase ∧ phase.isOver = true ∧
      ∀ s, phase = .returned (.ok s) →
        name ∈ r.names ∧ Snapshot.Without name r s ∧ name ∉ c.registry.names

theorem removal_move {name : String} {r : Registry} (h : Move c e d) (he : e.onlyChanges = true)
    (inv : Serving planned c) (removal : Removal n name r c) : Removal n name r d := by
  have stays := ne_leave_of_onlyChanges he n
  rcases removal with ⟨reply, hphase, hregistry⟩ | ⟨phase, hphase, hover, gone⟩
  · by_cases hpoll : e = .poll (.caller n)
    · subst hpoll
      refine .inr ?_
      cases h with
      | caller own =>
        rcases own.of_removing hphase with rfl | ⟨f, rfl⟩ | rfl
        · have known := inv.charge_known n _ name hphase rfl
          refine ⟨_, Roster.get?_set_self .., rfl, fun s hs => ?_⟩
          obtain rfl : { c with registry := c.registry.forget name }.snapshot = s := by
            simpa using hs
          subst hregistry
          exact ⟨known, ⟨rfl, rfl, rfl⟩, by simp [conclude, setCall, Registry.forget]⟩
        · exact ⟨_, Roster.get?_set_self .., rfl, by simp⟩
        · exact ⟨_, Roster.get?_set_self .., rfl, by simp⟩
    · have same := (registry_of_charge h he inv hphase rfl hpoll).trans hregistry
      refine .inl ?_
      rcases h.phase_cases hphase stays with hsame | ⟨heq, -⟩ | ⟨errand, answer, herrand, -, -, htaken⟩
      · exact ⟨reply, hsame, same⟩
      · exact absurd heq hpoll
      · cases reply with
        | none => exact ⟨_, htaken, same⟩
        | some reply => simp [CallPhase.errand?] at herrand
  · refine .inr ⟨phase, over_move h stays hphase hover, hover, fun s hs => ?_⟩
    obtain ⟨known, without, absent⟩ := gone s hs
    refine ⟨known, without, fun hmem => absent ?_⟩
    rcases registry_cases_move h he inv with hsame | ⟨_, _, _, -, -, -, agree⟩
    · rwa [hsame] at hmem
    · exact agree.names_sublist.subset hmem

theorem removal_run {name : String} {r : Registry} (he : ∀ e ∈ events, e.onlyChanges = true)
    (inv : Serving planned c) (removal : Removal n name r c) : Removal n name r (c.run events) :=
  (run_preserves (P := fun d => Serving planned d ∧ Removal n name r d)
    (fun e hmem _ _ h held => ⟨serving_move h (he e hmem) held.1,
      removal_move h (he e hmem) held.1 held.2⟩) c ⟨inv, removal⟩).2

/-- A call that removes a node begins against the registry that is there. -/
theorem removal_of_begins {name : String} (h : c.begins? e = some (n, .remove name)) :
    Removal n name c.registry (c.step e) := by
  obtain ⟨-, x, ha, hstep⟩ := admitted_of_begins h
  rw [hstep, ha.eq]
  unfold beginMutation
  split
  · exact .inr ⟨_, Roster.get?_set_self .., rfl, by simp⟩
  · exact .inl ⟨none, Roster.get?_set_self .., rfl⟩

theorem mem_callers_of_result? {result : Outcome Snapshot} (h : c.result? n = some result) :
    c.callers.get? n = some (.returned result) := by
  unfold result? at h
  split at h
  · next hphase => rw [hphase, Option.some.inj h]
  · simp at h

theorem removal_since {name : String} (before after : List Event) (inv : Serving planned c)
    (he : ∀ e ∈ before ++ .poll (.caller n) :: after, e.onlyChanges = true)
    (h : (c.run before).begins? (.poll (.caller n)) = some (n, .remove name)) :
    Removal n name (c.run before).registry (c.run (before ++ .poll (.caller n) :: after)) := by
  have served : Serving planned ((c.run before).step (.poll (.caller n))) :=
    serving_step (serving_run inv fun e hmem => he e (by simp [hmem])) rfl
  rw [run_append, run_cons]
  exact removal_run (fun e hmem => he e (by simp [hmem])) served (removal_of_begins h)

/-- A removal that has succeeded has found the node. -/
theorem Removal.of_result? {name : String} {r : Registry} {s : Snapshot} (h : Removal n name r c)
    (hresult : c.result? n = some (.ok s)) :
    name ∈ r.names ∧ Snapshot.Without name r s ∧ name ∉ c.registry.names := by
  have hphase := mem_callers_of_result? hresult
  rcases h with ⟨reply, hthere, -⟩ | ⟨phase, hthere, -, gone⟩
  · simp [hphase] at hthere
  · exact gone s (Option.some.inj (hthere.symm.trans hphase))

/-- While the removal of a node that succeeds is under way, no other one begins, and from then on no
other one of this node succeeds. -/
theorem not_removed_again {name : String} {r : Registry} {s s' : Snapshot}
    (inv : Serving planned c) (he : ∀ e ∈ .poll (.caller k) :: events, e.onlyChanges = true)
    (removal : Removal n name r c)
    (h : c.begins? (.poll (.caller k)) = some (k, .remove name)) (hne : n ≠ k)
    (hn : (c.run (.poll (.caller k) :: events)).result? n = some (.ok s))
    (hk : (c.run (.poll (.caller k) :: events)).result? k = some (.ok s')) : False := by
  have again : Removal k name c.registry (c.run (.poll (.caller k) :: events)) :=
    removal_since [] events inv he h
  have known := (again.of_result? hk).1
  rcases removal with ⟨reply, hphase, -⟩ | ⟨phase, hphase, hover, gone⟩
  · obtain ⟨-, x, ha, -⟩ := admitted_of_begins h
    simpa [CallPhase.charge?] using
      (inv.toCustody.alone_of_admitted ha).others n _ hne hphase
  · have same := run_preserves (P := fun d => d.callers.get? n = some phase)
      (fun e hmem _ _ move h => over_move move (ne_leave_of_onlyChanges (he e hmem) n) h hover) c
      hphase
    have ended := Option.some.inj (same.symm.trans (mem_callers_of_result? hn))
    exact (gone s ended).2.2 known

/-- No node is removed twice. -/
theorem removed_once {name : String} {s s' : Snapshot} (inv : Serving planned c)
    (he : ∀ e ∈ events, e.onlyChanges = true)
    (hn : CameIn c events n (.mutate (.remove name)))
    (hk : CameIn c events k (.mutate (.remove name)))
    (resultn : (c.run events).result? n = some (.ok s))
    (resultk : (c.run events).result? k = some (.ok s')) : n = k := by
  by_contra hne
  obtain ⟨b, a, heq, first⟩ :=
    mem_order_iff.mp (hn.mem_order he (mem_callers_of_result? resultn) rfl)
  obtain ⟨b', a', heq', second⟩ :=
    mem_order_iff.mp (hk.mem_order he (mem_callers_of_result? resultk) rfl)
  wlog hle : b.length ≤ b'.length generalizing n k s s' b b' a a'
  · exact this hk hn resultk resultn (Ne.symm hne) b' a' heq' second b a heq first (by omega)
  obtain ⟨m, rfl⟩ : b <+: b' :=
    List.prefix_of_prefix_length_le ⟨_, heq.symm⟩ ⟨_, heq'.symm⟩ hle
  rw [List.append_assoc] at heq'
  have hm := List.append_cancel_left (heq.symm.trans heq')
  cases m with
  | nil =>
    have same : n = k := by simpa using (List.cons.inj hm).1
    exact hne same
  | cons e m =>
    obtain ⟨rfl, rfl⟩ := List.cons.inj hm
    have early : ∀ e ∈ b ++ .poll (.caller n) :: m, e.onlyChanges = true :=
      fun e hmem => he e (by rw [heq', ← List.append_assoc]; exact List.mem_append_left _ hmem)
    rw [heq', ← List.append_assoc, run_append] at resultn resultk
    exact not_removed_again (serving_run inv early)
      (fun e hmem => he e (by rw [heq', ← List.append_assoc]; exact List.mem_append_right _ hmem))
      (removal_since b m inv early first) second hne resultn resultk

/-! ## The theorem -/

theorem serving_of_plan {options : ClusterOptions} {params : StartParams} {pid : UInt32}
    {obstacle : Option IoError} (h : plan options params pid obstacle = .ok c)
    (opening : List Event) (healthy : (c.run opening).registry.state = .healthy)
    (idle : (c.run opening).Idle) :
    ∃ planned, Serving planned (c.run opening) := by
  have order := orderly_of_plan h
  obtain ⟨planned, -, kept⟩ := kept_of_plan h
  exact ⟨planned, orderly_run order opening, lined_run order.toCustody (lined_of_plan h) opening,
    kept_run order kept opening, healthy, fun n phase hphase => .inl (idle n phase hphase)⟩

/-- In a run of many changes of nodes at once, every result and the nodes in the end are those of a
run in which the same changes are made one after the other. -/
structure Linearizable (c : Cluster) (events : List Event) : Prop where
  -- the changes are made in the order in which their calls got the lock, each of them once
  cameIn : ∀ n m, (n, m) ∈ c.order events → CameIn c events n (.mutate m)
  once : ((c.order events).map Prod.fst).Nodup
  begun : ∀ n m phase, CameIn c events n (.mutate m) →
    (c.run events).callers.get? n = some phase → phase.isOver = true → (n, m) ∈ c.order events
  -- in the serial run they come in in this order, each when all others are over, and nothing else
  -- is different
  changes : (c.serial events).filterMap Event.change? = c.order events
  oneByOne : c.OneByOne (c.serial events)
  others : (c.serial events).filter (fun e => e.change?.isNone) =
    events.filter fun e => e.change?.isNone
  -- and nobody can tell
  snapshot : (c.run (c.serial events)).snapshot = (c.run events).snapshot
  result : ∀ n, (c.run (c.serial events)).result? n = (c.run events).result? n
  crashed : ∀ n, (c.run (c.serial events)).callers.get? n = some .crashed ↔
    (c.run events).callers.get? n = some .crashed
  -- a change of one node leaves the others as they are
  agree : ∀ before e after, events = before ++ e :: after →
    (c.run (before ++ [e])).registry = (c.run before).registry ∨
      ∃ n m, e = .poll (.caller n) ∧ CameIn c before n (.mutate m) ∧
        (c.run before).registry.AgreeBut m.name (c.run (before ++ [e])).registry
  -- a node that is gone stays so, whatever else is launched anew
  gone : ∀ before after, events = before ++ after →
    (c.run events).registry.names.Sublist (c.run before).registry.names
  -- a node is removed once at most, and what its removal returns is all the others
  removed_once : ∀ n k name s s', CameIn c events n (.mutate (.remove name)) →
    CameIn c events k (.mutate (.remove name)) → (c.run events).result? n = some (.ok s) →
    (c.run events).result? k = some (.ok s') → n = k
  removed : ∀ n name s, CameIn c events n (.mutate (.remove name)) →
    (c.run events).result? n = some (.ok s) →
    ∃ before after, events = before ++ .poll (.caller n) :: after ∧
      (c.run before).begins? (.poll (.caller n)) = some (n, .remove name) ∧
      name ∈ (c.run before).registry.names ∧
      Snapshot.Without name (c.run before).registry s ∧ name ∉ (c.run events).registry.names

/-- Changes of nodes that many callers ask for at the same time on a healthy cluster come to the same
as if they were made one after the other, in the order in which they have got the lock: whatever the
launcher answers, however the calls, the answers and the time get mixed up, and whenever somebody
looks. -/
theorem changes_linearizable {options : ClusterOptions} {params : StartParams} {pid : UInt32}
    {obstacle : Option IoError} (h : plan options params pid obstacle = .ok c)
    (opening events : List Event) (healthy : (c.run opening).registry.state = .healthy)
    (idle : (c.run opening).Idle) (changes : ∀ e ∈ events, e.onlyChanges = true) :
    (c.run opening).Linearizable events := by
  obtain ⟨planned, inv⟩ := serving_of_plan h opening healthy idle
  generalize c.run opening = c at inv idle
  have shadows := shadows_run inv inv (.refl idle) changes
  refine {
    cameIn := fun n m hmem => ?_
    once := order_nodup changes
    begun := fun n m phase came hphase hover => came.mem_order changes hphase hover
    changes := filterMap_serial c events
    oneByOne := oneByOne_serial inv inv (.refl idle) changes
    others := filter_serial c events
    snapshot := shadows.snapshot_eq
    result := fun n => shadows.result?_eq
    crashed := fun n => shadows.get?_iff_of_isOver rfl
    agree := ?_
    gone := ?_
    removed_once := fun n k name s s' => removed_once inv changes
    removed := fun n name s came hresult => ?_ }
  · obtain ⟨before, after, rfl, hbegins⟩ := mem_order_iff.mp hmem
    have came := cameIn_of_begins idle (fun e hmem => changes e (by simp [hmem])) hbegins
    exact came.append fun e hmem => ne_leave_of_onlyChanges (changes e (by simp [hmem])) n
  · rintro before e after rfl
    have early : ∀ e ∈ before, e.onlyChanges = true := fun e hmem => changes e (by simp [hmem])
    rw [run_append, run_cons, run_nil]
    have served := serving_run inv early
    rcases registry_step served (changes e (by simp)) with hsame | ⟨n, phase, rfl, hphase, hover⟩
    · exact .inl hsame
    · obtain ⟨m, came, suits⟩ := cameIn_of_run idle early hphase hover
      exact .inr ⟨n, m, rfl, came, agreeBut_poll served hphase suits⟩
  · rintro before after rfl
    rw [run_append]
    exact names_run (serving_run inv fun e hmem => changes e (by simp [hmem]))
      fun e hmem => changes e (by simp [hmem])
  · obtain ⟨before, after, rfl, hbegins⟩ :=
      mem_order_iff.mp (came.mem_order changes (mem_callers_of_result? hresult) rfl)
    obtain ⟨known, without, gone⟩ := (removal_since before after inv changes hbegins).of_result? hresult
    exact ⟨before, after, rfl, hbegins, known, without, gone⟩

/-- Two callers who want one node of the small cluster launched anew and removed, of whom the second
one gets the lock. -/
def pairChanges : List Event :=
  [.call 1 (.mutate (.restart "node1" {})), .call 2 (.mutate (.remove "node1")),
    .poll (.caller 2), .poll (.caller 1), .answer (.caller 2) .done, .poll (.caller 2),
    .poll (.caller 1)]

/-- The node is removed, and then there is none to be launched anew. -/
theorem pair_linearizable :
    (pair.run pairHealthy).Linearizable pairChanges ∧
      (pair.run pairHealthy).order pairChanges =
        [(2, .remove "node1"), (1, .restart "node1" {})] ∧
      ((pair.run pairHealthy).run pairChanges).result? 1 = some (.error (.notFound "node1")) ∧
      ((pair.run pairHealthy).run pairChanges).registry.names = ["node2"] := by
  have idle : (pair.run pairHealthy).Idle := fun n phase hphase => by
    have nobody : (pair.run pairHealthy).callers = {} := by decide +kernel
    rw [nobody] at hphase
    simp [Roster.get?] at hphase
  exact ⟨changes_linearizable plan_pair pairHealthy pairChanges (by decide +kernel) idle
    (by decide), by decide +kernel, by decide +kernel, by decide +kernel⟩

end Cluster
end ClusterControl
