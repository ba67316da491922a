import ClusterControl.Client.Scope
import ClusterControl.Proofs.Roster
import Mathlib.Tactic

/-!
# What can happen to scopes

Scopes are made from one another in any order and share the handles of those that they come from,
while handles are used and given up and time passes.

* `Descent` — how a scope was made.
* `deadline_scope` — of all deadlines on the way the least is kept.
* `ScopeRun` — scopes, the handles that are held and the calls that wait, and everything that can
  happen to them.
* `scopesTurn_step`, `mem_held_step`, `made_step` — what one event can do.
* `sound_step`, `sound_run` — a scope is what its descent says.
* `isUsed_run` — only a handle that somebody holds is ever used.
* `ended_run`, `unused_run` — what stays as it is: scopes that have ended, and handles that nobody
  holds any more.
-/

namespace ClusterControl

/-! ## Looking at a scope -/

namespace Scope

variable {s : Scope} {used : Bool} {now later : Nat} {reason : ScopeEnd}

theorem isOverdue_iff : s.isOverdue now = true ↔ ∃ d ∈ s.deadline, d ≤ now := by
  unfold isOverdue
  cases s.deadline <;> simp

theorem isOverdue_mono (hle : now ≤ later) (h : s.isOverdue now = true) :
    s.isOverdue later = true := by
  obtain ⟨d, hd, hnow⟩ := isOverdue_iff.mp h
  exact isOverdue_iff.mpr ⟨d, hd, hnow.trans hle⟩

@[simp]
theorem end?_eq_cancelled_iff : s.end? used now = some .cancelled ↔ used = true := by
  cases used <;> cases h : s.isOverdue now <;> simp [end?, h]

@[simp]
theorem end?_eq_deadlineExceeded_iff :
    s.end? used now = some .deadlineExceeded ↔ used = false ∧ s.isOverdue now = true := by
  cases used <;> cases h : s.isOverdue now <;> simp [end?, h]

theorem isSome_end?_iff :
    (s.end? used now).isSome = true ↔ used = true ∨ s.isOverdue now = true := by
  cases used <;> cases h : s.isOverdue now <;> simp [end?, h]

/-- A call that waits may be told what the scope reports. -/
theorem mayEnd_of_end? (h : s.end? used now = some reason) : s.mayEnd used now reason = true := by
  cases reason with
  | cancelled => exact end?_eq_cancelled_iff.mp h
  | deadlineExceeded => exact (end?_eq_deadlineExceeded_iff.mp h).2

/-- A call that waits is told something only if the scope has ended. -/
theorem isSome_end?_of_mayEnd (h : s.mayEnd used now reason = true) :
    (s.end? used now).isSome = true := by
  cases reason with
  | cancelled => exact isSome_end?_iff.mpr (.inl h)
  | deadlineExceeded => exact isSome_end?_iff.mpr (.inr h)

end Scope

namespace Scopes

theorem isUsed_create (s : Scopes) (h : Nat) : s.create.2.isUsed h = s.isUsed h := by
  show (s.handles ++ [false]).getD h false = s.handles.getD h false
  rw [List.getD_eq_getElem?_getD, List.getD_eq_getElem?_getD, List.getElem?_append]
  split
  · rfl
  · next hge =>
    rw [List.getElem?_eq_none (Nat.le_of_not_lt hge)]
    cases h - s.handles.length <;> rfl

theorem isUsed_cancel {s : Scopes} {g : Nat} (hg : g < s.handles.length) (h : Nat) :
    (s.cancel g).isUsed h = true ↔ s.isUsed h = true ∨ g = h := by
  show (s.handles.set g true).getD h false = true ↔ s.handles.getD h false = true ∨ g = h
  rw [List.getD_eq_getElem?_getD, List.getD_eq_getElem?_getD, List.getElem?_set]
  by_cases heq : g = h
  · subst heq
    simp [hg]
  · simp [heq]

end Scopes

/-! ## How a scope was made -/

/-- How a scope was made: with a handle of its own, as a copy of another one, or from another one
with a deadline. -/
inductive Descent
  | root (handle : Nat)
  | copy (source : Descent)
  | bounded (source : Descent) (deadline : Nat)
deriving Repr, DecidableEq

namespace Descent

/-- The handle of the scope that all comes from. -/
def handle : Descent → Nat
  | root handle => handle
  | copy source => source.handle
  | bounded source _ => source.handle

/-- The deadlines that were given on the way, the last one first. -/
def deadlines : Descent → List Nat
  | root _ => []
  | copy source => source.deadlines
  | bounded source deadline => deadline :: source.deadlines

/-- The scope that was made. -/
def scope : Descent → Scope
  | root handle => { handle }
  | copy source => source.scope
  | bounded source deadline => source.scope.withDeadline deadline

/-- A scope comes from another one, at any distance. -/
inductive From (source : Descent) : Descent → Prop
  | self : From source source
  | copy {d : Descent} (h : From source d) : From source d.copy
  | bounded {d : Descent} (h : From source d) (deadline : Nat) : From source (d.bounded deadline)

@[simp]
theorem handle_scope (d : Descent) : d.scope.handle = d.handle := by
  induction d with
  | root handle => rfl
  | copy source ih => exact ih
  | bounded source deadline ih => exact ih

/-- Of all deadlines that were given on the way a scope keeps the least. -/
theorem deadline_scope (d : Descent) : d.scope.deadline = d.deadlines.min? := by
  induction d with
  | root handle => rfl
  | copy source ih => exact ih
  | bounded source deadline ih =>
    show some _ = (deadline :: source.deadlines).min?
    rw [List.min?_cons, ih]
    cases source.deadlines.min? with
    | none => rfl
    | some least => exact congrArg some (Nat.min_comm least deadline)

/-- A scope is overdue if one of the deadlines that were given on the way has come. -/
theorem isOverdue_scope {d : Descent} {now : Nat} :
    d.scope.isOverdue now = true ↔ ∃ deadline ∈ d.deadlines, deadline ≤ now := by
  rw [Scope.isOverdue_iff, deadline_scope]
  constructor
  · rintro ⟨least, hleast, hnow⟩
    exact ⟨least, List.min?_mem hleast, hnow⟩
  · rintro ⟨deadline, hmem, hnow⟩
    cases hmin : d.deadlines.min? with
    | none =>
      rw [List.min?_eq_none_iff.mp hmin] at hmem
      exact absurd hmem List.not_mem_nil
    | some least =>
      have hle := (List.min?_eq_some_iff.mp hmin).2 deadline hmem
      exact ⟨least, rfl, hle.trans hnow⟩

variable {source d : Descent}

theorem From.handle_eq (h : source.From d) : d.handle = source.handle := by
  induction h with
  | self => rfl
  | copy _ ih => exact ih
  | bounded _ _ ih => exact ih

theorem From.deadlines_subset (h : source.From d) : source.deadlines ⊆ d.deadlines := by
  induction h with
  | self => exact List.Subset.refl _
  | copy _ ih => exact ih
  | bounded _ deadline ih => exact List.subset_cons_of_subset deadline ih

end Descent

/-! ## What can happen to scopes -/

/-- A call that waits for the end of a scope, since when, and what it has been told and when. -/
structure Vigil where
  scope : Scope
  since : Nat
  told : Option (Nat × ScopeEnd) := none
deriving Repr, DecidableEq

/-- Scopes and all that has to do with them. -/
structure ScopeRun where
  scopes : Scopes := {}
  -- the scopes that were made, and how each of them was made
  made : List (Scope × Descent) := []
  -- the handles that somebody holds, once for each copy
  held : List Nat := []
  vigils : Roster Vigil := {}
deriving Repr, DecidableEq

namespace ScopeRun

/-- What can happen to scopes. -/
inductive Event
  -- a scope is made: that nobody can cancel, with its handle, or from one that was made before
  | background
  | withCancel
  | clone (i : Nat)
  | withTimeout (i ms : Nat)
  | withDeadline (i deadline : Nat)
  -- a handle is used, copied, or given up, by somebody who holds it
  | cancel (handle : Nat)
  | cloneHandle (handle : Nat)
  | dropHandle (handle : Nat)
  | elapse (ms : Nat)
  -- a call waits under a number that is free, looks and finds this, or is given up
  | wait (n i : Nat)
  | look (n : Nat) (reason : ScopeEnd)
  | leave (n : Nat)
deriving Repr, DecidableEq

/-- A call that waits for the end of a scope may be told this if it looks. -/
def mayEnd (r : ScopeRun) (scope : Scope) (reason : ScopeEnd) : Bool :=
  scope.mayEnd (r.scopes.isUsed scope.handle) r.scopes.now reason

/-- A call that waits would be told something if it looked. -/
def canLook (r : ScopeRun) (n : Nat) : Bool :=
  match r.vigils.get? n with
  | some v =>
    v.told.isNone && (r.mayEnd v.scope .cancelled || r.mayEnd v.scope .deadlineExceeded)
  | none => false

/-- No call can go on. -/
def isStill (r : ScopeRun) : Bool :=
  r.vigils.numbers.all fun n => !r.canLook n

/-- A scope with a handle of its own. -/
def create (r : ScopeRun) : ScopeRun :=
  let (scope, scopes) := r.scopes.create
  { r with scopes, made := r.made ++ [(scope, .root scope.handle)] }

/-- A scope made from one that was made before, if there is one. -/
def derive (r : ScopeRun) (i : Nat) (f : Scope → Scope) (g : Descent → Descent) : ScopeRun :=
  match r.made[i]? with
  | some (scope, descent) => { r with made := r.made ++ [(f scope, g descent)] }
  | none => r

/-- One event.  Time passes only while no call can go on. -/
def step (r : ScopeRun) : Event → ScopeRun
  | .background => r.create
  | .withCancel => { r.create with held := r.scopes.handles.length :: r.held }
  | .clone i => r.derive i id .copy
  | .withTimeout i ms =>
    r.derive i (·.withTimeout r.scopes.now ms) (.bounded · (r.scopes.now + ms))
  | .withDeadline i deadline => r.derive i (·.withDeadline deadline) (.bounded · deadline)
  | .cancel handle =>
    if handle ∈ r.held then { r with scopes := r.scopes.cancel handle } else r
  | .cloneHandle handle => if handle ∈ r.held then { r with held := handle :: r.held } else r
  | .dropHandle handle => { r with held := r.held.erase handle }
  | .elapse ms =>
    if r.isStill then { r with scopes := { r.scopes with now := r.scopes.now + ms } } else r
  | .wait n i =>
    match r.vigils.get? n, r.made[i]? with
    | none, some (scope, _) =>
      { r with vigils := r.vigils.set n { scope, since := r.scopes.now } }
    | _, _ => r
  | .look n reason =>
    match r.vigils.get? n with
    | some v =>
      if v.told.isNone && r.mayEnd v.scope reason then
        { r with vigils := r.vigils.set n { v with told := some (r.scopes.now, reason) } }
      else r
    | none => r
  | .leave n => { r with vigils := r.vigils.erase n }

/-- Many events, one after the other. -/
def run (r : ScopeRun) (events : List Event) : ScopeRun :=
  events.foldl step r

theorem run_append (r : ScopeRun) (events more : List Event) :
    r.run (events ++ more) = (r.run events).run more :=
  List.foldl_append

theorem run_concat (r : ScopeRun) (events : List Event) (e : Event) :
    r.run (events ++ [e]) = (r.run events).step e := by
  rw [run_append]
  rfl

variable {r : ScopeRun} {e : Event} {events : List Event} {s : Scope} {h : Nat}

section Derive

variable (r : ScopeRun) (i : Nat) (f : Scope → Scope) (g : Descent → Descent)

@[simp]
theorem scopes_derive : (r.derive i f g).scopes = r.scopes := by
  unfold derive
  split <;> rfl

@[simp]
theorem held_derive : (r.derive i f g).held = r.held := by
  unfold derive
  split <;> rfl

@[simp]
theorem vigils_derive : (r.derive i f g).vigils = r.vigils := by
  unfold derive
  split <;> rfl

theorem made_derive : (r.derive i f g).made = r.made ∨
    ∃ s d, (s, d) ∈ r.made ∧ (r.derive i f g).made = r.made ++ [(f s, g d)] := by
  unfold derive
  split
  · next s d hi => exact .inr ⟨s, d, List.mem_of_getElem? hi, rfl⟩
  · exact .inl rfl

end Derive

/-! ## What one event can do -/

/-- What one event can do to the handles and the clock. -/
inductive ScopesTurn (r : ScopeRun) (e : Event) : Scopes → Prop
  | rests (hcancel : ∀ h, e = .cancel h → h ∉ r.held) : ScopesTurn r e r.scopes
  | creates (hcancel : ∀ h, e ≠ .cancel h) : ScopesTurn r e r.scopes.create.2
  | cancels (h : Nat) (heq : e = .cancel h) (hheld : h ∈ r.held) :
      ScopesTurn r e (r.scopes.cancel h)
  | passes (ms : Nat) (heq : e = .elapse ms) (hstill : r.isStill = true) :
      ScopesTurn r e { r.scopes with now := r.scopes.now + ms }

theorem scopesTurn_step (r : ScopeRun) (e : Event) : ScopesTurn r e (r.step e).scopes := by
  cases e with
  | background | withCancel => exact .creates fun _ => Event.noConfusion
  | cancel h =>
    simp only [step]
    split
    · next hheld => exact .cancels h rfl hheld
    · next hheld =>
      refine .rests fun g heq => ?_
      obtain rfl := Event.cancel.inj heq
      exact hheld
  | elapse ms =>
    simp only [step]
    split
    · next hstill => exact .passes ms rfl hstill
    · exact .rests fun _ => Event.noConfusion
  | _ =>
    simp only [step, scopes_derive]
    repeat' split
    all_goals exact .rests fun _ => Event.noConfusion

/-- Whoever holds a handle after an event held it before, or has just been given a new one. -/
theorem mem_held_step (hh : h ∈ (r.step e).held) :
    h ∈ r.held ∨ e = .withCancel ∧ h = r.scopes.handles.length := by
  cases e with
  | withCancel =>
    rcases List.mem_cons.mp hh with rfl | hheld
    · exact .inr ⟨rfl, rfl⟩
    · exact .inl hheld
  | cloneHandle g =>
    simp only [step] at hh
    split at hh
    · next hg =>
      rcases List.mem_cons.mp hh with rfl | hheld
      · exact .inl hg
      · exact .inl hheld
    · exact .inl hh
  | dropHandle g => exact .inl (List.mem_of_mem_erase hh)
  | _ =>
    left
    simp only [step, held_derive] at hh
    repeat' split at hh
    all_goals exact hh

/-- A scope was made as its descent says, and its handle is one that was given out. -/
def Made (handles : Nat) (p : Scope × Descent) : Prop :=
  p.1 = p.2.scope ∧ p.2.handle < handles

/-- All scopes were made as their descents say, and all handles that are held were given out. -/
structure Sound (r : ScopeRun) : Prop where
  made : ∀ p ∈ r.made, Made r.scopes.handles.length p
  held : ∀ h ∈ r.held, h < r.scopes.handles.length

/-- What may be added to the scopes that were made. -/
theorem made_step (r : ScopeRun) (e : Event) :
    (r.step e).made = r.made ∨ ∃ p, (r.step e).made = r.made ++ [p] ∧
      (Sound r → Made (r.step e).scopes.handles.length p) := by
  have derived (i : Nat) (f : Scope → Scope) (g : Descent → Descent)
      (hfg : ∀ d, f d.scope = (g d).scope) (hg : ∀ d, (g d).handle = d.handle) :
      (r.derive i f g).made = r.made ∨ ∃ p, (r.derive i f g).made = r.made ++ [p] ∧
        (Sound r → Made (r.derive i f g).scopes.handles.length p) := by
    rcases made_derive r i f g with hsame | ⟨s, d, hmem, hadded⟩
    · exact .inl hsame
    · refine .inr ⟨(f s, g d), hadded, fun hr => ?_⟩
      have hs : s = d.scope := (hr.made (s, d) hmem).1
      rw [scopes_derive]
      exact ⟨hs ▸ hfg d, (hg d).symm ▸ (hr.made (s, d) hmem).2⟩
  cases e with
  | background | withCancel =>
    refine .inr ⟨_, rfl, fun _ => ⟨rfl, ?_⟩⟩
    simp [step, create, Scopes.create, Descent.handle]
  | clone i => exact derived i id .copy (fun _ => rfl) fun _ => rfl
  | withTimeout i ms => exact derived i _ _ (fun _ => rfl) fun _ => rfl
  | withDeadline i deadline => exact derived i _ _ (fun _ => rfl) fun _ => rfl
  | _ =>
    left
    simp only [step]
    repeat' split
    all_goals rfl

/-! ## The scopes that are made -/

theorem length_handles_step (r : ScopeRun) (e : Event) :
    r.scopes.handles.length ≤ (r.step e).scopes.handles.length := by
  have turn := scopesTurn_step r e
  generalize (r.step e).scopes = next at turn ⊢
  cases turn with
  | rests _ => exact Nat.le_refl _
  | creates _ => simp [Scopes.create]
  | cancels h _ _ => exact (List.length_set).ge
  | passes ms _ _ => exact Nat.le_refl _

theorem mem_made_step {p : Scope × Descent} (hp : p ∈ r.made) (e : Event) :
    p ∈ (r.step e).made := by
  rcases made_step r e with hsame | ⟨q, hadded, -⟩
  · exact hsame ▸ hp
  · exact hadded ▸ List.mem_append_left [q] hp

theorem sound_init : Sound {} where
  made := by simp
  held := by simp

theorem sound_step (hr : Sound r) (e : Event) : Sound (r.step e) where
  made p hp := by
    have kept (hmem : p ∈ r.made) : Made (r.step e).scopes.handles.length p :=
      ⟨(hr.made p hmem).1, (hr.made p hmem).2.trans_le (length_handles_step r e)⟩
    rcases made_step r e with hsame | ⟨q, hadded, hq⟩
    · exact kept (hsame ▸ hp)
    · rw [hadded, List.mem_append, List.mem_singleton] at hp
      rcases hp with hmem | rfl
      · exact kept hmem
      · exact hq hr
  held h hh := by
    rcases mem_held_step hh with hheld | ⟨rfl, rfl⟩
    · exact (hr.held h hheld).trans_le (length_handles_step r e)
    · simp [step, create, Scopes.create]

theorem sound_run (hr : Sound r) (events : List Event) : Sound (r.run events) := by
  induction events generalizing r with
  | nil => exact hr
  | cons e events ih => exact ih (sound_step hr e)

/-! ## The handles that are used -/

/-- A handle is used by somebody who holds it, and in no other way. -/
theorem isUsed_step (hr : Sound r) (e : Event) (h : Nat) :
    (r.step e).scopes.isUsed h = true ↔
      r.scopes.isUsed h = true ∨ e = .cancel h ∧ h ∈ r.held := by
  have turn := scopesTurn_step r e
  generalize (r.step e).scopes = next at turn ⊢
  cases turn with
  | rests hcancel =>
    have never : ¬ (e = .cancel h ∧ h ∈ r.held) := fun ⟨heq, hheld⟩ => hcancel h heq hheld
    rw [or_iff_left never]
  | creates hcancel =>
    have never : ¬ (e = .cancel h ∧ h ∈ r.held) := fun ⟨heq, _⟩ => hcancel h heq
    rw [or_iff_left never, Scopes.isUsed_create]
  | cancels g heq hheld =>
    rw [Scopes.isUsed_cancel (hr.held g hheld) h, heq, Event.cancel.injEq]
    exact or_congr_right ⟨fun hg => ⟨hg, hg ▸ hheld⟩, And.left⟩
  | passes ms heq _ =>
    have never : ¬ (e = .cancel h ∧ h ∈ r.held) := fun ⟨hcancel, _⟩ => by
      rw [heq] at hcancel
      exact Event.noConfusion hcancel
    rw [or_iff_left never]
    rfl

/-- The handle was used by somebody who held it, somewhere in these events. -/
def Fired (events : List Event) (h : Nat) : Prop :=
  ∃ before after, events = before ++ .cancel h :: after ∧ h ∈ (run {} before).held

theorem fired_concat :
    Fired (events ++ [e]) h ↔ Fired events h ∨ e = .cancel h ∧ h ∈ (run {} events).held := by
  constructor
  · rintro ⟨before, after, heq, hheld⟩
    rcases List.eq_nil_or_concat after with rfl | ⟨after, last, rfl⟩
    · obtain ⟨rfl, hlast⟩ := List.append_inj' heq rfl
      exact .inr ⟨(List.cons.inj hlast).1, hheld⟩
    · rw [List.concat_eq_append, ← List.cons_append, ← List.append_assoc] at heq
      obtain ⟨hevents, -⟩ := List.append_inj' heq rfl
      exact .inl ⟨before, after, hevents, hheld⟩
  · rintro (⟨before, after, rfl, hheld⟩ | ⟨rfl, hheld⟩)
    · exact ⟨before, after ++ [e], by simp, hheld⟩
    · exact ⟨events, [], rfl, hheld⟩

/-- The handles that are used are those that were used by somebody who held them. -/
theorem isUsed_run (events : List Event) (h : Nat) :
    (run {} events).scopes.isUsed h = true ↔ Fired events h := by
  induction events using List.reverseRecOn with
  | nil => simp [run, Scopes.isUsed, Fired]
  | append_singleton events e ih =>
    rw [run_concat, isUsed_step (sound_run sound_init events), fired_concat, ih]

/-- A handle that everybody has given up is never used any more. -/
theorem unused_run (hr : Sound r) (hh : h ∉ r.held) (hlt : h < r.scopes.handles.length)
    (hunused : ¬ r.scopes.isUsed h = true) (more : List Event) :
    ¬ (r.run more).scopes.isUsed h = true := by
  induction more generalizing r with
  | nil => exact hunused
  | cons e more ih =>
    apply ih (sound_step hr e)
    · intro hheld
      rcases mem_held_step hheld with hbefore | ⟨-, rfl⟩
      · exact hh hbefore
      · exact Nat.lt_irrefl _ hlt
    · exact hlt.trans_le (length_handles_step r e)
    · rw [isUsed_step hr e h]
      rintro (hused | ⟨-, hheld⟩)
      · exact hunused hused
      · exact hh hheld

/-! ## Time -/

/-- Time passes only while no call can go on. -/
theorem now_step (r : ScopeRun) (e : Event) :
    (r.step e).scopes.now = r.scopes.now ∨
      r.isStill = true ∧ r.scopes.now ≤ (r.step e).scopes.now := by
  have turn := scopesTurn_step r e
  generalize (r.step e).scopes = next at turn ⊢
  cases turn with
  | rests _ => exact .inl rfl
  | creates _ => exact .inl rfl
  | cancels h _ _ => exact .inl rfl
  | passes ms _ hstill => exact .inr ⟨hstill, Nat.le_add_right _ ms⟩

theorem now_le_step (r : ScopeRun) (e : Event) : r.scopes.now ≤ (r.step e).scopes.now := by
  rcases now_step r e with hsame | ⟨-, hle⟩
  · exact hsame.ge
  · exact hle

theorem now_le_run (r : ScopeRun) (events : List Event) :
    r.scopes.now ≤ (r.run events).scopes.now := by
  induction events generalizing r with
  | nil => exact Nat.le_refl _
  | cons e events ih => exact (now_le_step r e).trans (ih (r.step e))

/-- A scope that has ended has ended for good. -/
theorem ended_step (hr : Sound r) (e : Event) (hs : (r.scopes.end? s).isSome = true) :
    ((r.step e).scopes.end? s).isSome = true := by
  apply Scope.isSome_end?_iff.mpr
  rcases Scope.isSome_end?_iff.mp hs with hused | hover
  · exact .inl ((isUsed_step hr e s.handle).mpr (.inl hused))
  · exact .inr (Scope.isOverdue_mono (now_le_step r e) hover)

theorem ended_run (hr : Sound r) (events : List Event) (hs : (r.scopes.end? s).isSome = true) :
    ((r.run events).scopes.end? s).isSome = true := by
  induction events generalizing r with
  | nil => exact hs
  | cons e events ih => exact ih (sound_step hr e) (ended_step hr e hs)

end ScopeRun
end ClusterControl
