import ClusterControl.Sync.LatchCalls
import Mathlib.Tactic

/-!
# One action for everyone

Calls at a latch come and go in any order, and each step of each of them, of the keeper and of the
action may be followed by any step of another one.  This module proves that all the same one action
runs, that it runs to its end, and that everybody gets what it gives.

* `LatchRun` — a latch with its calls and the actions that have begun, and everything that can happen
  to it.
* `Stage` — how far a latch is, from idle to published.
* `Fits`, `fits_step` — where the calls are, by the stage of the latch, and that no event sets it back.
* `turns`, `published_of_turns` — once claimed, a latch is finished as soon as all who carry the action
  have had their turns.
* `IsHere`, `get?_ne_none_iff_isHere` — the calls at a latch are those that have come in and not left.
* `latch_runs_once` — the theorem.
-/

namespace ClusterControl

/-- An action that has ended, with a value or by breaking down. -/
def ActionPhase.ofOutcome {α : Type} : Option α → ActionPhase α
  | some value => .returned value
  | none => .crashed

/-- A latch whose callers can see how the action has ended. -/
def LatchPhase.ofOutcome {α : Type} : Option α → LatchPhase α
  | some value => .done value
  | none => .crashed

/-! ## What can happen to a latch -/

/-- A latch with the callers whose actions have begun, the first one first. -/
structure LatchRun (α : Type) where
  hall : LatchCalls α := {}
  begun : List Nat := []
deriving Repr, DecidableEq

namespace LatchRun

variable {α : Type}

/-- What can happen to a latch. -/
inductive Event
  -- a call comes in under a number that is free, takes a step, or is given up
  | call (n : Nat)
  | advance (n : Nat)
  | leave (n : Nat)
  | keep
  -- the action begins, and ends
  | begin
  | finish
deriving Repr, DecidableEq

/-- One event, where the action of each call gives this, or nothing if it breaks down.  Between its
claim and the keeper there is nothing that a call would wait for, so it cannot be given up there. -/
def step (actions : Nat → Option α) (r : LatchRun α) : Event → LatchRun α
  | .call n =>
    match r.hall.calls.get? n with
    | none => { r with hall := r.hall.call n }
    | some _ => r
  | .advance n => { r with hall := r.hall.advance n }
  | .leave n =>
    match r.hall.calls.get? n with
    | some .claiming => r
    | _ => { r with hall := r.hall.leave n }
  | .keep => { r with hall := { r.hall with latch := r.hall.latch.keep } }
  | .begin =>
    match r.hall.latch.action with
    | .spawned =>
      { hall := { r.hall with latch := r.hall.latch.begin },
        begun := r.begun ++ r.hall.claimer.toList }
    | _ => r
  | .finish =>
    match r.hall.claimer with
    | some n => { r with hall := { r.hall with latch := r.hall.latch.finish (actions n) } }
    | none => r

/-- Many events, one after the other. -/
def run (actions : Nat → Option α) (r : LatchRun α) (events : List Event) : LatchRun α :=
  events.foldl (step actions) r

/-- No task can run: no call can take a step, and neither can the keeper nor an action that has not
begun. -/
def Still (r : LatchRun α) : Prop :=
  (∀ n, r.hall.canAdvance n = false) ∧ r.hall.latch.keeperReady = false ∧
    r.hall.latch.action ≠ .spawned

variable {actions : Nat → Option α} {r : LatchRun α} {k n : Nat}

theorem run_append (actions : Nat → Option α) (r : LatchRun α) (events more : List Event) :
    r.run actions (events ++ more) = (r.run actions events).run actions more :=
  List.foldl_append

/-! ## The stages of a latch -/

/-- How far a latch is, with the caller that has claimed it and the actions that have begun. -/
inductive Stage (actions : Nat → Option α) : Nat → Latch α → Option Nat → List Nat → Prop
  | idle : Stage actions 0 ⟨.idle, .absent, .absent⟩ none []
  | claimed (n : Nat) : Stage actions 1 ⟨.running, .absent, .absent⟩ (some n) []
  | kept (n : Nat) : Stage actions 2 ⟨.running, .spawned, .absent⟩ (some n) []
  | setOff (n : Nat) : Stage actions 3 ⟨.running, .waiting, .spawned⟩ (some n) []
  | underWay (n : Nat) : Stage actions 4 ⟨.running, .waiting, .running⟩ (some n) [n]
  | ended (n : Nat) : Stage actions 5 ⟨.running, .waiting, .ofOutcome (actions n)⟩ (some n) [n]
  | published (n : Nat) :
      Stage actions 6 ⟨.ofOutcome (actions n), .finished, .ofOutcome (actions n)⟩ (some n) [n]

/-- The turns that carry the action of a caller from its claim to the end, one for each stage. -/
def turns (n : Nat) : List Event :=
  [.advance n, .keep, .begin, .finish, .keep]

/-- The calls are where the stage of the latch lets them be. -/
structure Fits (actions : Nat → Option α) (r : LatchRun α) (k : Nat) : Prop where
  stage : Stage actions k r.hall.latch r.hall.claimer r.begun
  -- the claimer has the keeper to set off as long as it is not set off
  claiming : ∀ n, r.hall.calls.get? n = some .claiming ↔ r.hall.claimer = some n ∧ k = 1
  waiting : ∀ n, r.hall.calls.get? n = some .waiting → 0 < k
  returned : ∀ n outcome, r.hall.calls.get? n = some (.returned outcome) →
    k = 6 ∧ r.hall.claimer.bind actions = outcome

/-- It is the turn of this event at a stage of a latch that the caller has claimed. -/
def IsTurn (n k : Nat) (e : Event) : Prop :=
  0 < k ∧ (turns n)[k - 1]? = some e

/-- After one event a latch is at the same stage or a later one, with the same claimer if it had one;
it is at a later one for certain if it was the turn of the event. -/
structure After (actions : Nat → Option α) (r : LatchRun α) (k : Nat) (e : Event)
    (next : LatchRun α) (k' : Nat) : Prop where
  fits : Fits actions next k'
  le : k ≤ k'
  claimer : ∀ n, r.hall.claimer = some n → next.hall.claimer = some n
  turn : ∀ n, r.hall.claimer = some n → IsTurn n k e → k < k'

theorem Stage.le_six {latch : Latch α} {claimer : Option Nat} {begun : List Nat}
    (h : Stage actions k latch claimer begun) : k ≤ 6 := by
  cases h <;> decide

/-- A caller has claimed a latch exactly if it is past its first stage. -/
theorem Stage.isClaimed_iff {latch : Latch α} {claimer : Option Nat} {begun : List Nat}
    (h : Stage actions k latch claimer begun) : latch.isClaimed = true ↔ 0 < k := by
  cases h with
  | published n => cases hn : actions n <;> simp [Latch.isClaimed, LatchPhase.ofOutcome]
  | _ => simp [Latch.isClaimed]

/-- A latch is finished exactly if it is at its last stage. -/
theorem Stage.isFinished_iff {latch : Latch α} {claimer : Option Nat} {begun : List Nat}
    (h : Stage actions k latch claimer begun) : latch.isFinished = true ↔ k = 6 := by
  cases h with
  | published n => cases hn : actions n <;> simp [Latch.isFinished, LatchPhase.ofOutcome]
  | _ => simp [Latch.isFinished]

theorem Stage.outcome?_eq {latch : Latch α} {claimer : Option Nat} {begun : List Nat}
    (h : Stage actions k latch claimer begun) :
    latch.outcome? = if k = 6 then some (claimer.bind actions) else none := by
  cases h with
  | published n => cases hn : actions n <;> simp [Latch.outcome?, LatchPhase.ofOutcome, hn]
  | _ => rfl

theorem Stage.exists_claimer {latch : Latch α} {claimer : Option Nat} {begun : List Nat}
    (h : Stage actions k latch claimer begun) (hk : 0 < k) : ∃ n, claimer = some n := by
  cases h with
  | idle => exact absurd hk (Nat.lt_irrefl 0)
  | _ n => exact ⟨n, rfl⟩

section Fits

variable {calls : Roster (LatchCall α)} {call : LatchCall α} {latch : Latch α}
  {begun : List Nat}

/-- A call that does not claim goes on to a place that its latch lets it be. -/
theorem Fits.setCall (h : Fits actions r k) (hn : r.hall.calls.get? n ≠ some .claiming)
    (hcall : call = .fresh ∨ call = .waiting ∧ 0 < k ∨
      call = .returned (r.hall.claimer.bind actions) ∧ k = 6) :
    Fits actions { r with hall := { r.hall with calls := r.hall.calls.set n call } } k where
  stage := h.stage
  claiming m := by
    simp only [Roster.get?_set]
    split
    · next hm =>
      subst hm
      rw [← h.claiming m]
      rcases hcall with rfl | ⟨rfl, -⟩ | ⟨rfl, -⟩ <;> simp [hn]
    · exact h.claiming m
  waiting m hm := by
    simp only [Roster.get?_set] at hm
    split at hm
    · rcases hcall with rfl | ⟨-, hk⟩ | ⟨-, hk⟩
      · simp at hm
      · exact hk
      · exact hk ▸ Nat.succ_pos 5
    · exact h.waiting m hm
  returned m outcome hm := by
    simp only [Roster.get?_set] at hm
    split at hm
    · rcases hcall with rfl | ⟨rfl, -⟩ | ⟨rfl, hk⟩
      · simp at hm
      · simp at hm
      · exact ⟨hk, by simpa using hm⟩
    · exact h.returned m outcome hm

theorem Fits.erase (h : Fits actions r k) (hn : r.hall.calls.get? n ≠ some .claiming) :
    Fits actions { r with hall := r.hall.leave n } k where
  stage := h.stage
  claiming m := by
    simp only [LatchCalls.leave, Roster.get?_erase]
    split
    · next hm =>
      subst hm
      rw [← h.claiming m]
      simp [hn]
    · exact h.claiming m
  waiting m hm := by
    simp only [LatchCalls.leave, Roster.get?_erase] at hm
    split at hm
    · simp at hm
    · exact h.waiting m hm
  returned m outcome hm := by
    simp only [LatchCalls.leave, Roster.get?_erase] at hm
    split at hm
    · simp at hm
    · exact h.returned m outcome hm

/-- The latch goes on to its next stage once the keeper is set off. -/
theorem Fits.goesOn (h : Fits actions r k) (hk : 1 < k) (hlast : k < 6)
    (stage : Stage actions (k + 1) latch r.hall.claimer begun) :
    Fits actions { hall := { r.hall with latch := latch }, begun := begun } (k + 1) where
  stage := stage
  claiming m := by
    rw [h.claiming m]
    constructor <;> rintro ⟨-, heq⟩ <;> omega
  waiting m _ := Nat.succ_pos k
  returned m outcome hm := absurd (h.returned m outcome hm).1 (by omega)

theorem Fits.pos_of_claimer (h : Fits actions r k) (hn : r.hall.claimer = some n) : 0 < k := by
  obtain ⟨⟨latch, claimer, calls⟩, begun⟩ := r
  have stage := h.stage
  dsimp only at stage hn
  cases stage with
  | idle => simp at hn
  | _ => decide

theorem After.rests {next : LatchRun α} {e : Event} (h : Fits actions next k)
    (hclaimer : next.hall.claimer = r.hall.claimer)
    (hturn : ∀ n, r.hall.claimer = some n → ¬ IsTurn n k e) : After actions r k e next k :=
  ⟨h, Nat.le_refl k, fun _ hn => hclaimer.trans hn, fun n hn ht => absurd ht (hturn n hn)⟩

theorem After.later {next : LatchRun α} {e : Event} (h : Fits actions next (k + 1))
    (hclaimer : next.hall.claimer = r.hall.claimer) : After actions r k e next (k + 1) :=
  ⟨h, Nat.le_succ k, fun _ hn => hclaimer.trans hn, fun _ _ _ => Nat.lt_succ_self k⟩

theorem isTurn_advance_iff {m : Nat} : IsTurn n k (.advance m) ↔ k = 1 ∧ m = n := by
  rcases k with _ | _ | _ | _ | _ | _ | k <;> simp [IsTurn, turns, eq_comm]

/-- The first call that looks at the latch claims it. -/
theorem Fits.claims (h : Fits actions r k) (hidle : ¬ r.hall.latch.isClaimed = true) (n : Nat) :
    k = 0 ∧ Fits actions
      { r with hall := ⟨r.hall.latch.occupy, some n, r.hall.calls.set n .claiming⟩ } 1 := by
  obtain ⟨⟨latch, claimer, calls⟩, begun⟩ := r
  have stage := h.stage
  dsimp only at stage hidle ⊢
  rw [stage.isClaimed_iff] at hidle
  obtain rfl : k = 0 := Nat.eq_zero_of_not_pos hidle
  cases stage
  refine ⟨rfl, .claimed n, fun m => ?_, fun _ _ => Nat.one_pos, fun m outcome hm => ?_⟩
  · have others := h.claiming m
    dsimp only at others
    simp only [Roster.get?_set]
    split
    · next hm => simp [hm]
    · next hm => simp [others, Ne.symm hm]
  · simp only [Roster.get?_set] at hm
    split at hm
    · simp at hm
    · exact absurd (h.returned m outcome hm).1 (by decide)

/-- The claimer sets the keeper off, and waits like the others. -/
theorem Fits.sends (h : Fits actions r k) (hn : r.hall.calls.get? n = some .claiming) :
    k = 1 ∧ Fits actions { r with hall := { r.hall with
      latch := r.hall.latch.sendKeeper, calls := r.hall.calls.set n .waiting } } 2 := by
  obtain ⟨hclaimer, rfl⟩ := (h.claiming n).mp hn
  obtain ⟨⟨latch, claimer, calls⟩, begun⟩ := r
  have stage := h.stage
  dsimp only at stage
  cases stage
  obtain rfl := Option.some.inj hclaimer
  refine ⟨rfl, .kept _, fun m => ?_, fun _ _ => Nat.two_pos, fun m outcome hm => ?_⟩
  · have others := h.claiming m
    dsimp only at others
    simp only [Roster.get?_set]
    split
    · simp
    · next hm => simp [others, Ne.symm hm]
  · simp only [Roster.get?_set] at hm
    split at hm
    · simp at hm
    · exact absurd (h.returned m outcome hm).1 (by decide)

/-- A call that takes a step. -/
theorem after_advance (h : Fits actions r k) (n : Nat) :
    ∃ k', After actions r k (.advance n) (r.step actions (.advance n)) k' := by
  have rests (hne : r.hall.calls.get? n ≠ some .claiming) (m : Nat)
      (hm : r.hall.claimer = some m) : ¬ IsTurn m k (.advance n) := fun ht => by
    obtain ⟨rfl, rfl⟩ := isTurn_advance_iff.mp ht
    exact hne ((h.claiming n).mpr ⟨hm, rfl⟩)
  simp only [step, LatchCalls.advance]
  cases hcall : r.hall.calls.get? n with
  | none => exact ⟨k, .rests h rfl (rests (by simp [hcall]))⟩
  | some call =>
    have waits (hk : 0 < k) (hne : r.hall.calls.get? n ≠ some .claiming) :
        Fits actions { r with hall := { r.hall with calls := r.hall.calls.set n .waiting } } k :=
      h.setCall hne (.inr (.inl ⟨rfl, hk⟩))
    cases call with
    | fresh =>
      have hne : r.hall.calls.get? n ≠ some .claiming := by simp [hcall]
      simp only
      split
      · next hc =>
        have hk := h.stage.isClaimed_iff.mp hc
        exact ⟨k, .rests (waits hk hne) rfl (rests hne)⟩
      · next hc =>
        obtain ⟨rfl, claimed⟩ := h.claims hc n
        have unclaimed (m : Nat) (hm : r.hall.claimer = some m) : False :=
          Nat.lt_irrefl 0 (h.pos_of_claimer hm)
        exact ⟨1, claimed, Nat.zero_le 1, fun m hm => (unclaimed m hm).elim,
          fun m hm => (unclaimed m hm).elim⟩
    | claiming =>
      obtain ⟨rfl, kept⟩ := h.sends hcall
      exact ⟨2, .later kept rfl⟩
    | waiting =>
      have hne : r.hall.calls.get? n ≠ some .claiming := by simp [hcall]
      simp only [h.stage.outcome?_eq]
      by_cases hk : k = 6
      · rw [if_pos hk]
        exact ⟨k, .rests (h.setCall hne (.inr (.inr ⟨rfl, hk⟩))) rfl (rests hne)⟩
      · rw [if_neg hk]
        exact ⟨k, .rests h rfl (rests hne)⟩
    | returned outcome => exact ⟨k, .rests h rfl (rests (by simp [hcall]))⟩

/-- The keeper goes on. -/
theorem after_keep (h : Fits actions r k) :
    ∃ k', After actions r k .keep (r.step actions .keep) k' := by
  obtain ⟨⟨latch, claimer, calls⟩, begun⟩ := r
  have stage := h.stage
  dsimp only at stage
  cases stage with
  | kept n => exact ⟨3, .later (h.goesOn (by decide) (by decide) (.setOff n)) rfl⟩
  | ended n =>
    refine ⟨6, .later ?_ rfl⟩
    have published := h.goesOn (by decide) (by decide) (.published n)
    cases hn : actions n <;>
      simpa [step, Latch.keep, ActionPhase.ofOutcome, LatchPhase.ofOutcome, hn] using published
  | _ => exact ⟨_, .rests h rfl (by simp [IsTurn, turns])⟩

/-- The action begins. -/
theorem after_begin (h : Fits actions r k) :
    ∃ k', After actions r k .begin (r.step actions .begin) k' := by
  obtain ⟨⟨latch, claimer, calls⟩, begun⟩ := r
  have stage := h.stage
  dsimp only at stage
  cases stage with
  | setOff n => exact ⟨4, .later (h.goesOn (by decide) (by decide) (.underWay n)) rfl⟩
  | ended n | published n =>
    have rests := After.rests (e := .begin) h rfl (by simp [IsTurn, turns])
    exact ⟨_, by cases hn : actions n <;> simpa [step, ActionPhase.ofOutcome, hn] using rests⟩
  | _ => exact ⟨_, .rests h rfl (by simp [IsTurn, turns])⟩

/-- The action ends. -/
theorem after_finish (h : Fits actions r k) :
    ∃ k', After actions r k .finish (r.step actions .finish) k' := by
  obtain ⟨⟨latch, claimer, calls⟩, begun⟩ := r
  have stage := h.stage
  dsimp only at stage
  cases stage with
  | underWay n => exact ⟨5, .later (h.goesOn (by decide) (by decide) (.ended n)) rfl⟩
  | ended n | published n =>
    have rests := After.rests (e := .finish) h rfl (by simp [IsTurn, turns])
    exact ⟨_, by
      cases hn : actions n <;> simpa [step, Latch.finish, ActionPhase.ofOutcome, hn] using rests⟩
  | _ => exact ⟨_, .rests h rfl (by simp [IsTurn, turns])⟩

/-- A call comes in or is given up. -/
theorem after_come_and_go (h : Fits actions r k) (n : Nat) :
    After actions r k (.call n) (r.step actions (.call n)) k ∧
      After actions r k (.leave n) (r.step actions (.leave n)) k := by
  have hcall (m : Nat) (_ : r.hall.claimer = some m) : ¬ IsTurn m k (.call n) := by
    rcases k with _ | _ | _ | _ | _ | _ | k <;> simp [IsTurn, turns]
  have hleave (m : Nat) (_ : r.hall.claimer = some m) : ¬ IsTurn m k (.leave n) := by
    rcases k with _ | _ | _ | _ | _ | _ | k <;> simp [IsTurn, turns]
  simp only [step]
  cases hn : r.hall.calls.get? n with
  | none =>
    exact ⟨.rests (h.setCall (by simp [hn]) (.inl rfl)) rfl hcall,
      .rests (h.erase (by simp [hn])) rfl hleave⟩
  | some call =>
    refine ⟨.rests h rfl hcall, ?_⟩
    cases call with
    | claiming => exact .rests h rfl hleave
    | _ => exact .rests (h.erase (by simp [hn])) rfl hleave

/-- No event sets a latch back. -/
theorem fits_step (h : Fits actions r k) (e : Event) :
    ∃ k', After actions r k e (r.step actions e) k' := by
  cases e with
  | call n => exact ⟨k, (after_come_and_go h n).1⟩
  | advance n => exact after_advance h n
  | leave n => exact ⟨k, (after_come_and_go h n).2⟩
  | keep => exact after_keep h
  | begin => exact after_begin h
  | finish => exact after_finish h

end Fits

/-! ## Runs -/

/-- Nobody has called an idle latch. -/
theorem fits_init (actions : Nat → Option α) : Fits actions ({} : LatchRun α) 0 where
  stage := .idle
  claiming n := by simp [Roster.get?]
  waiting n h := by simp [Roster.get?] at h
  returned n outcome h := by simp [Roster.get?] at h

/-- A latch that goes on keeps its claimer, and does not go back. -/
theorem fits_run (h : Fits actions r k) (events : List Event) :
    ∃ k', Fits actions (r.run actions events) k' ∧ k ≤ k' ∧
      ∀ n, r.hall.claimer = some n → (r.run actions events).hall.claimer = some n := by
  induction events generalizing r k with
  | nil => exact ⟨k, h, Nat.le_refl k, fun _ => id⟩
  | cons e events ih =>
    obtain ⟨k', after⟩ := fits_step h e
    obtain ⟨last, hfits, hle, hclaimer⟩ := ih after.fits
    exact ⟨last, hfits, after.le.trans hle, fun n hn => hclaimer n (after.claimer n hn)⟩

/-- A claimed latch is finished once all who carry the action have had the turns that are left. -/
theorem published_of_turns {more : List Event} (h : Fits actions r k) (hk : 0 < k)
    (hn : r.hall.claimer = some n) (hturns : ((turns n).drop (k - 1)).Sublist more) :
    Fits actions (r.run actions more) 6 := by
  induction more generalizing r k with
  | nil =>
    have hnone : 5 ≤ k - 1 := by simpa [turns] using hturns
    have hle := h.stage.le_six
    obtain rfl : k = 6 := by omega
    exact h
  | cons e more ih =>
    obtain ⟨k', after⟩ := fits_step h e
    have hle := after.le
    refine ih after.fits (by omega) (after.claimer n hn) ?_
    rcases Nat.lt_or_ge (k - 1) (turns n).length with hlt | hge
    · rw [List.drop_eq_getElem_cons hlt] at hturns
      rcases List.sublist_cons_iff.mp hturns with hlater | ⟨rest, heq, hrest⟩
      · rw [← List.drop_eq_getElem_cons hlt] at hlater
        exact (List.drop_sublist_drop_left _ (by omega)).trans hlater
      · obtain ⟨rfl, rfl⟩ := List.cons.inj heq
        have hnext := after.turn n hn ⟨hk, by simp [hlt]⟩
        exact (List.drop_sublist_drop_left _ (by omega)).trans hrest
    · rw [List.drop_eq_nil_of_le (by omega)]
      exact List.nil_sublist more

/-- The call of this number came in, somewhere in these events, and has not left since: when it was
to be given up, it was between its claim and the keeper. -/
def IsHere (actions : Nat → Option α) (events : List Event) (n : Nat) : Prop :=
  ∃ before after, events = before ++ .call n :: after ∧
    ∀ middle rest, after = middle ++ .leave n :: rest →
      (run actions {} (before ++ .call n :: middle)).hall.calls.get? n = some .claiming

/-- A call is there after one more event if it comes in with it, or was there and does not leave. -/
theorem isHere_concat (actions : Nat → Option α) (events : List Event) (e : Event) (n : Nat) :
    IsHere actions (events ++ [e]) n ↔ e = .call n ∨ IsHere actions events n ∧
      (e = .leave n → (run actions {} events).hall.calls.get? n = some .claiming) := by
  constructor
  · rintro ⟨before, after, heq, hleave⟩
    rcases List.eq_nil_or_concat' after with rfl | ⟨after, last, rfl⟩
    · exact .inl (List.singleton_inj.mp (List.append_inj' heq rfl).2)
    · rw [← List.cons_append, ← List.append_assoc] at heq
      obtain ⟨rfl, hlast⟩ := List.append_inj' heq rfl
      obtain rfl := List.singleton_inj.mp hlast
      refine .inr ⟨⟨before, after, rfl, fun middle rest h => ?_⟩, ?_⟩
      · exact hleave middle (rest ++ [e]) (by simp [h])
      · rintro rfl
        exact hleave after [] rfl
  · rintro (rfl | ⟨⟨before, after, rfl, hleave⟩, hlast⟩)
    · exact ⟨events, [], rfl, by simp⟩
    · refine ⟨before, after ++ [e], by simp, fun middle rest h => ?_⟩
      rcases List.eq_nil_or_concat' rest with rfl | ⟨rest, last, rfl⟩
      · obtain ⟨rfl, he⟩ := List.append_inj' h rfl
        exact hlast (List.singleton_inj.mp he)
      · rw [← List.cons_append, ← List.append_assoc] at h
        exact hleave middle rest (List.append_inj' h rfl).1

/-- A call that takes a step stays where it is, and no other one comes or goes. -/
theorem get?_advance_eq_none_iff (l : LatchCalls α) (m n : Nat) :
    (l.advance m).calls.get? n = none ↔ l.calls.get? n = none := by
  have moved (call : LatchCall α) (h : l.calls.get? m ≠ none) :
      (l.calls.set m call).get? n = none ↔ l.calls.get? n = none := by
    rw [Roster.get?_set]
    split
    · next hm => simp [hm, h]
    · rfl
  unfold LatchCalls.advance
  cases hm : l.calls.get? m with
  | none => rfl
  | some call =>
    cases call with
    | fresh => dsimp only; split <;> exact moved _ (by simp [hm])
    | claiming => exact moved _ (by simp [hm])
    | waiting =>
      dsimp only
      split
      · exact moved _ (by simp [hm])
      · rfl
    | returned outcome => rfl

/-- A call is there after a step if it comes in with it, or was there and does not leave. -/
theorem get?_step_ne_none_iff (actions : Nat → Option α) (r : LatchRun α) (e : Event) (n : Nat) :
    (r.step actions e).hall.calls.get? n ≠ none ↔ e = .call n ∨ r.hall.calls.get? n ≠ none ∧
      (e = .leave n → r.hall.calls.get? n = some .claiming) := by
  cases e with
  | call m =>
    simp only [step]
    by_cases hm : n = m
    · subst hm
      cases hn : r.hall.calls.get? n <;> simp [hn, LatchCalls.call]
    · cases r.hall.calls.get? m <;> simp [LatchCalls.call, hm, Ne.symm hm]
  | advance m => simp [step, get?_advance_eq_none_iff]
  | leave m =>
    simp only [step]
    by_cases hm : n = m
    · subst hm
      split
      · next hn => simp [hn]
      · next hn =>
        have hne : r.hall.calls.get? n ≠ some .claiming := hn
        simp [LatchCalls.leave, hne]
    · split <;> simp [LatchCalls.leave, hm, Ne.symm hm]
  | keep => simp [step]
  | begin | finish => simp only [step]; split <;> simp

/-- The calls at a latch are those that have come in and not left. -/
theorem get?_ne_none_iff_isHere (actions : Nat → Option α) (events : List Event) (n : Nat) :
    (run actions {} events).hall.calls.get? n ≠ none ↔ IsHere actions events n := by
  induction events using List.reverseRecOn with
  | nil => simp [run, Roster.get?, IsHere]
  | append_singleton events e ih =>
    rw [isHere_concat, ← ih, run_append]
    exact get?_step_ne_none_iff actions (run actions {} events) e n

/-- The call of this number found the latch idle, somewhere in these events. -/
def FoundIdle (actions : Nat → Option α) (events : List Event) (n : Nat) : Prop :=
  ∃ before after, events = before ++ .advance n :: after ∧
    (run actions {} before).hall.latch.isClaimed = false ∧
    (run actions {} before).hall.calls.get? n = some .fresh

/-- Only a call that finds the latch idle becomes the claimer. -/
theorem claimer_step (actions : Nat → Option α) (r : LatchRun α) (e : Event) :
    (r.step actions e).hall.claimer = r.hall.claimer ∨
      ∃ n, e = .advance n ∧ r.hall.latch.isClaimed = false ∧
        r.hall.calls.get? n = some .fresh ∧ (r.step actions e).hall.claimer = some n := by
  cases e with
  | advance n =>
    simp only [step, LatchCalls.advance]
    cases hcall : r.hall.calls.get? n with
    | none => exact .inl rfl
    | some call =>
      cases call with
      | fresh =>
        cases hc : r.hall.latch.isClaimed with
        | true => exact .inl rfl
        | false => exact .inr ⟨n, rfl, rfl, hcall, rfl⟩
      | waiting => cases r.hall.latch.outcome? <;> exact .inl rfl
      | _ => exact .inl rfl
  | keep => exact .inl rfl
  | call n | leave n | begin | finish => simp only [step]; split <;> exact .inl rfl

/-- The claimer is the call that found the latch idle. -/
theorem claimer_eq_some_iff (actions : Nat → Option α) (events : List Event) (n : Nat) :
    (run actions {} events).hall.claimer = some n ↔ FoundIdle actions events n := by
  constructor
  · induction events using List.reverseRecOn with
    | nil => simp [run]
    | append_singleton events e ih =>
      intro hn
      have later (h : FoundIdle actions events n) : FoundIdle actions (events ++ [e]) n := by
        obtain ⟨before, after, rfl, hidle, hfresh⟩ := h
        exact ⟨before, after ++ [e], by simp, hidle, hfresh⟩
      rw [run_append] at hn
      rcases claimer_step actions (run actions {} events) e with hsame | ⟨m, rfl, hidle, hfresh, hm⟩
      · exact later (ih (hsame ▸ hn))
      · obtain rfl : m = n := Option.some.inj (hm.symm.trans hn)
        exact ⟨events, [], rfl, hidle, hfresh⟩
  · rintro ⟨before, after, rfl, hidle, hfresh⟩
    obtain ⟨k, hfits, -, -⟩ := fits_run (fits_init actions) before
    obtain ⟨k', hnext⟩ := fits_step hfits (.advance n)
    rw [run_append]
    exact (fits_run hnext.fits after).choose_spec.2.2 n (by
      simp [step, LatchCalls.advance, hfresh, hidle])

/-- What holds of a latch after these events. -/
structure RunsOnce (actions : Nat → Option α) (events : List Event) : Prop where
  -- the calls are those that have come in and not left
  here : ∀ m, (run actions {} events).hall.calls.get? m ≠ none ↔ IsHere actions events m
  -- none of them has looked at a latch that is idle, so the first one to look claims it
  fresh : (run actions {} events).hall.latch.isClaimed = false → ∀ m, IsHere actions events m →
    (run actions {} events).hall.calls.get? m = some .fresh
  -- a claimed latch was found idle by one call
  claimed : (run actions {} events).hall.latch.isClaimed = true ↔
    ∃! n, FoundIdle actions events n
  -- if nobody comes in between, it claims the latch and sets off the keeper at once
  whole : (run actions {} events).hall.latch.isClaimed = false → ∀ m, IsHere actions events m →
    (run actions {} (events ++ [.advance m, .advance m])).hall.latch =
      (run actions {} events).hall.latch.claim
  -- no action begins but that of this call, and it begins once
  begun : (run actions {} events).begun = [] ∨
    ∃ n, FoundIdle actions events n ∧ (run actions {} events).begun = [n]
  -- it runs to its end, whoever leaves
  ends : ∀ n more, FoundIdle actions events n → (turns n).Sublist more →
    (run actions {} (events ++ more)).begun = [n] ∧
    (run actions {} (events ++ more)).hall.latch.action = .ofOutcome (actions n) ∧
    (run actions {} (events ++ more)).hall.latch.isFinished = true
  -- a call returns what that action gave, and only after it has ended
  returned : ∀ m outcome,
    (run actions {} events).hall.calls.get? m = some (.returned outcome) →
    ∃ n, FoundIdle actions events n ∧ (run actions {} events).begun = [n] ∧
      (run actions {} events).hall.latch.action = .ofOutcome (actions n) ∧
      outcome = actions n
  claimed_stays : ∀ more, (run actions {} events).hall.latch.isClaimed = true →
    (run actions {} (events ++ more)).hall.latch.isClaimed = true
  finished_stays : ∀ more, (run actions {} events).hall.latch.isFinished = true →
    (run actions {} (events ++ more)).hall.latch.isFinished = true
  -- nobody waits for an action that has ended, unless something is still to happen
  nobody_waits : ∀ outcome, (run actions {} events).hall.latch.action = .ofOutcome outcome →
    Still (run actions {} events) → ∀ m call,
    (run actions {} events).hall.calls.get? m = some call → ∃ result, call = .returned result

/-- An action has ended at the last two stages only. -/
theorem Stage.of_ended {latch : Latch α} {claimer : Option Nat} {begun : List Nat}
    {outcome : Option α} (h : Stage actions k latch claimer begun)
    (hended : latch.action = .ofOutcome outcome) : k = 5 ∨ k = 6 := by
  cases h with
  | ended n => exact .inl rfl
  | published n => exact .inr rfl
  | _ => cases outcome <;> simp [ActionPhase.ofOutcome] at hended

/-- The calls at an idle latch have not looked at it. -/
theorem Fits.fresh_of_idle (h : Fits actions r k) (hidle : r.hall.latch.isClaimed = false)
    (hn : r.hall.calls.get? n ≠ none) : r.hall.calls.get? n = some .fresh := by
  have hk : ¬ 0 < k := fun hpos => by simp [h.stage.isClaimed_iff.mpr hpos] at hidle
  obtain ⟨call, hcall⟩ := Option.ne_none_iff_exists'.mp hn
  cases call with
  | fresh => exact hcall
  | claiming => exact absurd ((h.claiming n).mp hcall).2 (by omega)
  | waiting => exact absurd (h.waiting n hcall) hk
  | returned outcome => exact absurd (h.returned n outcome hcall).1 (by omega)

/-- The first call that looks at an idle latch has claimed it after two steps. -/
theorem latch_advance_advance {hall : LatchCalls α} (hidle : hall.latch.isClaimed = false)
    (hn : hall.calls.get? n = some .fresh) :
    ((hall.advance n).advance n).latch = hall.latch.claim := by
  rw [Latch.claim_eq hidle]
  simp [LatchCalls.advance, hn, hidle]

/-- At its last stage a latch has run the action of its claimer. -/
theorem Fits.published (h : Fits actions r 6) (hn : r.hall.claimer = some n) :
    r.begun = [n] ∧ r.hall.latch.action = .ofOutcome (actions n) ∧
      r.hall.latch.isFinished = true := by
  have hfinished := h.stage.isFinished_iff.mpr rfl
  obtain ⟨⟨latch, claimer, calls⟩, begun⟩ := r
  have stage := h.stage
  dsimp only at stage hn
  cases stage
  obtain rfl := Option.some.inj hn
  exact ⟨rfl, rfl, hfinished⟩

/-- The actions that have begun are that of the claimer, or none. -/
theorem Fits.begun_eq (h : Fits actions r k) :
    r.begun = [] ∨ ∃ n, r.hall.claimer = some n ∧ r.begun = [n] := by
  obtain ⟨⟨latch, claimer, calls⟩, begun⟩ := r
  have stage := h.stage
  dsimp only at stage ⊢
  cases stage with
  | idle | claimed n | kept n | setOff n => exact .inl rfl
  | underWay n | ended n | published n => exact .inr ⟨n, rfl, rfl⟩

/-- Where nothing can go on, an action that has ended leaves no call waiting. -/
theorem Fits.returned_of_still (h : Fits actions r k) {outcome : Option α}
    (hended : r.hall.latch.action = .ofOutcome outcome) (hstill : Still r) {m : Nat}
    {call : LatchCall α} (hcall : r.hall.calls.get? m = some call) :
    ∃ result, call = .returned result := by
  obtain ⟨hcalls, hkeeper, -⟩ := hstill
  have hm := hcalls m
  have hlast : k = 6 := by
    rcases h.stage.of_ended hended with rfl | rfl
    · -- the keeper has the outcome to publish
      obtain ⟨⟨latch, claimer, calls⟩, begun⟩ := r
      have stage := h.stage
      dsimp only at stage
      cases stage
      next n =>
        cases hn : actions n <;>
          simp [Latch.keeperReady, ActionPhase.ofOutcome, hn] at hkeeper
    · rfl
  have hfinished := h.stage.isFinished_iff.mpr hlast
  simp only [LatchCalls.canAdvance, hcall] at hm
  cases call with
  | returned result => exact ⟨result, rfl⟩
  | fresh | claiming => simp at hm
  | waiting => rw [hfinished] at hm; simp at hm

/-- **A latch runs one action for everyone**: for any number of calls with any actions, in any order of
their steps, whoever leaves on the way. -/
theorem latch_runs_once (actions : Nat → Option α) (events : List Event) :
    RunsOnce actions events := by
  obtain ⟨k, hfits, -, -⟩ := fits_run (fits_init actions) events
  have found (n : Nat) := claimer_eq_some_iff actions events n
  have fresh (hidle : (run actions {} events).hall.latch.isClaimed = false) (m : Nat)
      (hm : IsHere actions events m) := hfits.fresh_of_idle hidle
    ((get?_ne_none_iff_isHere actions events m).mpr hm)
  have hstage := hfits.stage
  exact {
    here := get?_ne_none_iff_isHere actions events
    fresh := fresh
    claimed := by
      rw [hstage.isClaimed_iff]
      constructor
      · intro hk
        obtain ⟨n, hn⟩ := hstage.exists_claimer hk
        refine ⟨n, (found n).mp hn, fun m hm => ?_⟩
        exact Option.some.inj (((found m).mpr hm).symm.trans hn)
      · rintro ⟨n, hn, -⟩
        exact hfits.pos_of_claimer ((found n).mpr hn)
    whole := fun hidle m hm => by
      rw [run_append]
      exact latch_advance_advance hidle (fresh hidle m hm)
    begun := hfits.begun_eq.imp_right fun ⟨n, hn, heq⟩ => ⟨n, (found n).mp hn, heq⟩
    ends := fun n more hn hturns => by
      have hclaimer := (found n).mpr hn
      obtain ⟨-, -, -, hkept⟩ := fits_run hfits more
      have hk := hfits.pos_of_claimer hclaimer
      rw [run_append]
      exact (published_of_turns hfits hk hclaimer
        ((List.drop_sublist _ _).trans hturns)).published (hkept n hclaimer)
    returned := fun m outcome hm => by
      obtain ⟨rfl, houtcome⟩ := hfits.returned m outcome hm
      obtain ⟨n, hn⟩ := hstage.exists_claimer (by decide)
      obtain ⟨hbegun, haction, -⟩ := hfits.published hn
      exact ⟨n, (found n).mp hn, hbegun, haction, by simpa [hn] using houtcome.symm⟩
    claimed_stays := fun more hc => by
      obtain ⟨k', hlater, hle, -⟩ := fits_run hfits more
      rw [run_append, hlater.stage.isClaimed_iff]
      exact (hstage.isClaimed_iff.mp hc).trans_le hle
    finished_stays := fun more hf => by
      obtain ⟨k', hlater, hle, -⟩ := fits_run hfits more
      rw [run_append, hlater.stage.isFinished_iff]
      have hk := hstage.isFinished_iff.mp hf
      have hsix := hlater.stage.le_six
      omega
    nobody_waits := fun outcome hended hstill m call hm =>
      hfits.returned_of_still hended hstill hm }

end LatchRun
end ClusterControl
