import ClusterControl.Proofs.Client.ScopeCourse

/-!
# The ends of scopes

Why a scope has ended is found out in two places: by a look at its handle and at its deadline, in
this order, and by the calls that wait for its end, which take the two in any order.  This module
proves when scopes end, and what the two have in common.

* `At`, `ReportsAt`, `EndedAt` — what a scope reports at an instant of a run.
* `Fits`, `fits_run` — a call that waits is told at the first instant at which its scope has ended,
  and not before.
* `reports_or_coincide` — it is told what the scope reports, unless its handle was used and its
  deadline had come by then.
* `exists_settled` — before time passes every call that can be told gets its turn.
* `scopes_end` — the theorem.
* `told_otherwise` — what may be told if both happened.
-/

namespace ClusterControl
namespace ScopeRun

variable {r : ScopeRun} {e : Event} {events : List Event} {s : Scope} {d : Descent}
  {n t : Nat} {reason : ScopeEnd}

/-! ## Instants -/

/-- At some moment of this instant the scopes were like that. -/
def At (events : List Event) (t : Nat) (p : ScopeRun → Prop) : Prop :=
  ∃ before after, events = before ++ after ∧ (run {} before).scopes.now = t ∧ p (run {} before)

/-- At some moment of this instant the scope reported this. -/
def ReportsAt (events : List Event) (s : Scope) (t : Nat) (reason : ScopeEnd) : Prop :=
  At events t fun r => r.scopes.end? s = some reason

/-- At some moment of this instant the scope had ended. -/
def EndedAt (events : List Event) (s : Scope) (t : Nat) : Prop :=
  ∃ reason, ReportsAt events s t reason

/-- By some moment of this instant the handle was used and the deadline had come. -/
def CoincideAt (events : List Event) (s : Scope) (t : Nat) : Prop :=
  At events t fun r => r.scopes.isUsed s.handle = true ∧ s.isOverdue t = true

theorem at_self {p : ScopeRun → Prop} (hp : p (run {} events)) :
    At events (run {} events).scopes.now p :=
  ⟨events, [], (List.append_nil events).symm, rfl, hp⟩

/-- One event adds one moment. -/
theorem at_concat {p : ScopeRun → Prop} : At (events ++ [e]) t p ↔
    At events t p ∨ ((run {} events).step e).scopes.now = t ∧ p ((run {} events).step e) := by
  rw [← run_concat]
  constructor
  · rintro ⟨before, after, heq, hmoment⟩
    rcases List.eq_nil_or_concat after with rfl | ⟨after, last, rfl⟩
    · rw [List.append_nil] at heq
      exact .inr (heq ▸ hmoment)
    · rw [List.concat_eq_append, ← List.append_assoc] at heq
      obtain ⟨hevents, -⟩ := List.append_inj' heq rfl
      exact .inl ⟨before, after, hevents, hmoment⟩
  · rintro (⟨before, after, rfl, hmoment⟩ | hmoment)
    · exact ⟨before, after ++ [e], List.append_assoc before after [e], hmoment⟩
    · exact ⟨events ++ [e], [], (List.append_nil _).symm, hmoment⟩

theorem le_of_at {p : ScopeRun → Prop} (h : At events t p) : t ≤ (run {} events).scopes.now := by
  obtain ⟨before, after, rfl, rfl, -⟩ := h
  rw [run_append]
  exact now_le_run _ after

theorem endedAt_iff :
    EndedAt events s t ↔ At events t fun r => (r.scopes.end? s).isSome = true := by
  constructor
  · rintro ⟨reason, before, after, heq, hnow, hreason⟩
    exact ⟨before, after, heq, hnow, Option.isSome_iff_exists.mpr ⟨reason, hreason⟩⟩
  · rintro ⟨before, after, heq, hnow, hended⟩
    obtain ⟨reason, hreason⟩ := Option.isSome_iff_exists.mp hended
    exact ⟨reason, before, after, heq, hnow, hreason⟩

/-- A scope that had ended at some instant has ended now. -/
theorem ended_of_endedAt (h : EndedAt events s t) :
    ((run {} events).scopes.end? s).isSome = true := by
  obtain ⟨before, after, rfl, -, hended⟩ := endedAt_iff.mp h
  rw [run_append]
  exact ended_run (sound_run sound_init before) after hended

theorem endedAt_concat : EndedAt (events ++ [e]) s t ↔
    EndedAt events s t ∨ ((run {} events).step e).scopes.now = t ∧
      (((run {} events).step e).scopes.end? s).isSome = true := by
  rw [endedAt_iff, endedAt_iff, at_concat]

/-- What may be told at an instant is what the scope reports then, unless its handle was used and its
deadline had come by then. -/
theorem reports_or_coincide (h : At events t fun r => r.mayEnd s reason = true) :
    (∀ other, ReportsAt events s t other ↔ other = reason) ∨ CoincideAt events s t := by
  by_cases hboth : CoincideAt events s t
  · exact .inr hboth
  left
  have apart {before after : List Event} (heq : events = before ++ after)
      (hnow : (run {} before).scopes.now = t)
      (hused : (run {} before).scopes.isUsed s.handle = true) : s.isOverdue t = false := by
    by_contra hover
    exact hboth ⟨before, after, heq, hnow, hused, by simpa using hover⟩
  obtain ⟨before, after, heq, hnow, hmay⟩ := h
  intro other
  cases reason with
  | cancelled =>
    have hover := apart heq hnow hmay
    constructor
    · rintro ⟨early, rest, hearly, hthen, hother⟩
      cases other with
      | cancelled => rfl
      | deadlineExceeded =>
        obtain ⟨-, hcome⟩ := Scope.end?_eq_deadlineExceeded_iff.mp hother
        rw [hthen, hover] at hcome
        exact absurd hcome Bool.false_ne_true
    · rintro rfl
      exact ⟨before, after, heq, hnow, Scope.end?_eq_cancelled_iff.mpr hmay⟩
  | deadlineExceeded =>
    have hcome : s.isOverdue t = true := hnow ▸ hmay
    have unused {early rest : List Event} (hearly : events = early ++ rest)
        (hthen : (run {} early).scopes.now = t) :
        (run {} early).scopes.isUsed s.handle = false := by
      by_contra hused
      rw [apart hearly hthen (by simpa using hused)] at hcome
      exact Bool.false_ne_true hcome
    constructor
    · rintro ⟨early, rest, hearly, hthen, hother⟩
      cases other with
      | deadlineExceeded => rfl
      | cancelled =>
        have hused := Scope.end?_eq_cancelled_iff.mp hother
        rw [unused hearly hthen] at hused
        exact absurd hused Bool.false_ne_true
    · rintro rfl
      exact ⟨before, after, heq, hnow,
        Scope.end?_eq_deadlineExceeded_iff.mpr ⟨unused heq hnow, hmay⟩⟩

/-! ## The calls that wait -/

/-- How far the calls that wait may get with one event. -/
inductive VigilTurn (r : ScopeRun) (e : Event) (n : Nat) (v : Vigil) : Prop
  | kept (h : r.vigils.get? n = some v)
  | begun (d : Descent) (hmade : (v.scope, d) ∈ r.made) (hsince : v.since = r.scopes.now)
      (htold : v.told = none) (hsame : (r.step e).scopes = r.scopes)
  | heard (earlier : Vigil) (reason : ScopeEnd) (h : r.vigils.get? n = some earlier)
      (hearlier : earlier.told = none) (hmay : r.mayEnd earlier.scope reason = true)
      (heq : v = { earlier with told := some (r.scopes.now, reason) })
      (hsame : (r.step e).scopes = r.scopes)

theorem vigilTurn_step {v : Vigil} (h : (r.step e).vigils.get? n = some v) :
    VigilTurn r e n v := by
  cases e with
  | wait m i =>
    simp only [step] at h
    split at h
    · next s d hm hi =>
      rw [Roster.get?_set] at h
      split at h
      · next hn =>
        obtain rfl := Option.some.inj h
        refine .begun d (List.mem_of_getElem? hi) rfl rfl ?_
        simp [step, hm, hi]
      · exact .kept h
    · exact .kept h
  | look m reason =>
    simp only [step] at h
    split at h
    · next earlier hm =>
      split at h
      · next hlook =>
        rw [Roster.get?_set] at h
        split at h
        · next hn =>
          subst hn
          obtain rfl := Option.some.inj h
          obtain ⟨hnone, hmay⟩ := Bool.and_eq_true_iff.mp hlook
          refine .heard earlier reason hm (Option.isNone_iff_eq_none.mp hnone) hmay rfl ?_
          simp [step, hm, hlook]
        · exact .kept h
      · exact .kept h
    · exact .kept h
  | leave m =>
    simp only [step, Roster.get?_erase] at h
    split at h
    · exact absurd h (Option.some_ne_none v).symm
    · exact .kept h
  | _ =>
    apply VigilTurn.kept
    simp only [step, create, vigils_derive] at h
    repeat' split at h
    all_goals exact h

/-- The instant up to which a call has waited. -/
def waitedTo (v : Vigil) (now : Nat) : Nat :=
  match v.told with
  | some (t, _) => t
  | none => now

theorem waitedTo_of_told {v : Vigil} (h : v.told = some (t, reason)) (now : Nat) :
    waitedTo v now = t := by
  rw [waitedTo, h]

theorem waitedTo_of_untold {v : Vigil} (h : v.told = none) (now : Nat) : waitedTo v now = now := by
  rw [waitedTo, h]

/-- A call has waited for a scope that was made, up to the first instant at which it had ended. -/
structure Fits (events : List Event) (v : Vigil) : Prop where
  made : ∃ d, (v.scope, d) ∈ (run {} events).made
  since_le : v.since ≤ waitedTo v (run {} events).scopes.now
  first : ∀ t, v.since ≤ t → EndedAt events v.scope t → waitedTo v (run {} events).scopes.now ≤ t
  told : ∀ t reason, v.told = some (t, reason) → At events t fun r => r.mayEnd v.scope reason = true

theorem not_ended_of_canLook {v : Vigil} (h : r.vigils.get? n = some v) (htold : v.told = none)
    (hlook : r.canLook n = false) : (r.scopes.end? v.scope).isSome = false := by
  by_contra hended
  obtain ⟨reason, hreason⟩ := Option.isSome_iff_exists.mp ((Bool.not_eq_false _).mp hended)
  have hmay : r.mayEnd v.scope reason = true := Scope.mayEnd_of_end? hreason
  simp only [canLook, h, htold, Option.isNone_none, Bool.true_and, Bool.or_eq_false_iff] at hlook
  cases reason with
  | cancelled => exact Bool.false_ne_true (hlook.1.symm.trans hmay)
  | deadlineExceeded => exact Bool.false_ne_true (hlook.2.symm.trans hmay)

theorem isStill_iff : r.isStill = true ↔ ∀ n, r.canLook n = false := by
  simp only [isStill, List.all_eq_true, Bool.not_eq_true']
  refine ⟨fun h n => ?_, fun h n _ => h n⟩
  cases hv : r.vigils.get? n with
  | none => simp [canLook, hv]
  | some v => exact h n (List.mem_map_of_mem (f := Prod.fst) (Roster.mem_entries_of_get? hv))

/-- A call that has been told is not concerned by later ends. -/
theorem Fits.first_told {v : Vigil} (h : Fits events v) (htold : v.told = some (t, reason))
    {e : Event} {u : Nat} (hsince : v.since ≤ u) (hended : EndedAt (events ++ [e]) v.scope u) :
    t ≤ u := by
  have hpast : t ≤ (run {} events).scopes.now := le_of_at (h.told t reason htold)
  rcases endedAt_concat.mp hended with hearlier | ⟨rfl, -⟩
  · have hfirst := h.first u hsince hearlier
    rwa [waitedTo_of_told htold] at hfirst
  · exact hpast.trans (now_le_step (run {} events) e)

/-- A call that has not been told does not let time pass once its scope has ended. -/
theorem Fits.first_untold {v : Vigil} (h : Fits events v)
    (hv : (run {} events).vigils.get? n = some v) (htold : v.told = none) {e : Event} {u : Nat}
    (hsince : v.since ≤ u) (hended : EndedAt (events ++ [e]) v.scope u) :
    ((run {} events).step e).scopes.now ≤ u := by
  rcases endedAt_concat.mp hended with hearlier | ⟨rfl, -⟩
  · have hfirst := h.first u hsince hearlier
    rw [waitedTo_of_untold htold] at hfirst
    rcases now_step (run {} events) e with hsame | ⟨hstill, -⟩
    · exact hsame ▸ hfirst
    · -- time passes, so the call cannot go on, and its scope has not ended
      have hlive := not_ended_of_canLook hv htold (isStill_iff.mp hstill n)
      rw [ended_of_endedAt hearlier] at hlive
      exact absurd hlive.symm Bool.false_ne_true
  · exact Nat.le_refl _

theorem Fits.made_concat {v : Vigil} (h : Fits events v) (e : Event) :
    ∃ d, (v.scope, d) ∈ (run {} (events ++ [e])).made := by
  obtain ⟨d, hd⟩ := h.made
  rw [run_concat]
  exact ⟨d, mem_made_step hd e⟩

/-- A call that is left alone fits on. -/
theorem fits_kept {v : Vigil} (hv : (run {} events).vigils.get? n = some v) (h : Fits events v)
    (e : Event) : Fits (events ++ [e]) v := by
  have since := h.since_le
  cases htold : v.told with
  | some told =>
    obtain ⟨t, reason⟩ := told
    rw [waitedTo_of_told htold] at since
    refine ⟨h.made_concat e, ?_, fun u hsince hended => ?_, fun u other heq => ?_⟩
    · rwa [waitedTo_of_told htold]
    · rw [waitedTo_of_told htold]
      exact h.first_told htold hsince hended
    · exact at_concat.mpr (.inl (h.told u other heq))
  | none =>
    rw [waitedTo_of_untold htold] at since
    refine ⟨h.made_concat e, ?_, fun u hsince hended => ?_, fun u other heq => ?_⟩
    · rw [waitedTo_of_untold htold, run_concat]
      exact since.trans (now_le_step (run {} events) e)
    · rw [waitedTo_of_untold htold, run_concat]
      exact h.first_untold hv htold hsince hended
    · rw [htold] at heq
      exact absurd heq (Option.some_ne_none _).symm

/-- A call that begins to wait fits, since its first instant has just come. -/
theorem fits_begun {v : Vigil} (hmade : (v.scope, d) ∈ (run {} events).made)
    (hsince : v.since = (run {} events).scopes.now) (htold : v.told = none)
    (hsame : ((run {} events).step e).scopes = (run {} events).scopes) :
    Fits (events ++ [e]) v := by
  have hnow : waitedTo v (run {} (events ++ [e])).scopes.now = v.since := by
    rw [waitedTo_of_untold htold, run_concat, hsame, hsince]
  refine ⟨⟨d, ?_⟩, hnow.ge, fun u hu _ => hnow.le.trans hu, fun u other heq => ?_⟩
  · rw [run_concat]
    exact mem_made_step hmade e
  · rw [htold] at heq
    exact absurd heq (Option.some_ne_none _).symm

/-- A call that is told fits, since its scope had not ended at any instant before. -/
theorem fits_heard {earlier : Vigil} (h : Fits events earlier) (hearlier : earlier.told = none)
    (hmay : (run {} events).mayEnd earlier.scope reason = true)
    (hsame : ((run {} events).step e).scopes = (run {} events).scopes) :
    Fits (events ++ [e])
      { earlier with told := some ((run {} events).scopes.now, reason) } := by
  have since := h.since_le
  rw [waitedTo_of_untold hearlier] at since
  refine ⟨h.made_concat e, since, fun u hsince hended => ?_, fun u other heq => ?_⟩
  · rcases endedAt_concat.mp hended with hbefore | ⟨hnow, -⟩
    · have hfirst := h.first u hsince hbefore
      rwa [waitedTo_of_untold hearlier] at hfirst
    · rw [hsame] at hnow
      exact hnow.le
  · obtain ⟨rfl, rfl⟩ := Prod.mk.inj (Option.some.inj heq)
    exact at_concat.mpr (.inl (at_self hmay))

/-- Every call that waits fits the run. -/
theorem fits_run (events : List Event) :
    ∀ n v, (run {} events).vigils.get? n = some v → Fits events v := by
  induction events using List.reverseRecOn with
  | nil =>
    intro n v hv
    exact absurd hv (Option.some_ne_none v).symm
  | append_singleton events e ih =>
    intro n v hv
    rw [run_concat] at hv
    cases vigilTurn_step hv with
    | kept h => exact fits_kept h (ih n v h) e
    | begun d hmade hsince htold hsame => exact fits_begun hmade hsince htold hsame
    | heard earlier reason h hearlier hmay heq hsame =>
      subst heq
      exact fits_heard (ih n earlier h) hearlier hmay hsame

/-! ## All calls get their turns -/

/-- A call that looks is told, and nothing else changes. -/
theorem exists_look (r : ScopeRun) (n : Nat) (h : r.canLook n = true) :
    ∃ reason, (r.step (.look n reason)).canLook n = false ∧
      ∀ m, m ≠ n → (r.step (.look n reason)).canLook m = r.canLook m := by
  unfold canLook at h
  split at h
  · next v hv =>
    obtain ⟨hnone, hmay⟩ := Bool.and_eq_true_iff.mp h
    obtain ⟨reason, hreason⟩ : ∃ reason, r.mayEnd v.scope reason = true := by
      rcases Bool.or_eq_true_iff.mp hmay with hc | hd
      · exact ⟨_, hc⟩
      · exact ⟨_, hd⟩
    have hstep : r.step (.look n reason) =
        { r with vigils := r.vigils.set n { v with told := some (r.scopes.now, reason) } } := by
      simp [step, hv, hnone, hreason]
    refine ⟨reason, ?_, fun m hm => ?_⟩
    · simp [hstep, canLook]
    · simp only [hstep, canLook, Roster.get?_set, if_neg hm]
      rfl
  · exact absurd h Bool.false_ne_true

/-- Calls take their turns until none of these can go on. -/
theorem exists_looks (r : ScopeRun) (ns : List Nat) :
    ∃ looks, (∀ e ∈ looks, ∃ n reason, e = .look n reason) ∧
      ∀ n, (r.run looks).canLook n = true → r.canLook n = true ∧ n ∉ ns := by
  induction ns generalizing r with
  | nil => exact ⟨[], by simp, fun n h => ⟨h, List.not_mem_nil⟩⟩
  | cons m ns ih =>
    cases hm : r.canLook m with
    | false =>
      obtain ⟨looks, hlooks, hrest⟩ := ih r
      refine ⟨looks, hlooks, fun n hn => ?_⟩
      obtain ⟨hcan, hns⟩ := hrest n hn
      refine ⟨hcan, fun hmem => ?_⟩
      rcases List.mem_cons.mp hmem with rfl | hlater
      · exact Bool.false_ne_true (hm.symm.trans hcan)
      · exact hns hlater
    | true =>
      obtain ⟨reason, hself, hothers⟩ := exists_look r m hm
      obtain ⟨looks, hlooks, hrest⟩ := ih (r.step (.look m reason))
      refine ⟨.look m reason :: looks, ?_, fun n hn => ?_⟩
      · intro e he
        rcases List.mem_cons.mp he with rfl | hlater
        · exact ⟨m, reason, rfl⟩
        · exact hlooks e hlater
      · obtain ⟨hcan, hns⟩ := hrest n hn
        have hne : n ≠ m := by
          rintro rfl
          exact Bool.false_ne_true (hself.symm.trans hcan)
        refine ⟨hothers n hne ▸ hcan, fun hmem => ?_⟩
        exact (List.mem_cons.mp hmem).elim hne hns

theorem exists_still (r : ScopeRun) :
    ∃ looks, (∀ e ∈ looks, ∃ n reason, e = .look n reason) ∧ (r.run looks).isStill = true := by
  obtain ⟨looks, hlooks, hrest⟩ := exists_looks r r.vigils.numbers
  refine ⟨looks, hlooks, isStill_iff.mpr fun n => ?_⟩
  by_contra hn
  obtain ⟨hcan, hns⟩ := hrest n (by simpa using hn)
  apply hns
  unfold canLook at hcan
  split at hcan
  · next v hv =>
    exact List.mem_map_of_mem (f := Prod.fst) (Roster.mem_entries_of_get? hv)
  · exact absurd hcan Bool.false_ne_true

theorem scopes_look (r : ScopeRun) (n : Nat) (reason : ScopeEnd) :
    (r.step (.look n reason)).scopes = r.scopes := by
  simp only [step]
  repeat' split
  all_goals rfl

theorem scopes_looks {looks : List Event} (h : ∀ e ∈ looks, ∃ n reason, e = .look n reason)
    (r : ScopeRun) : (r.run looks).scopes = r.scopes := by
  induction looks generalizing r with
  | nil => rfl
  | cons e looks ih =>
    obtain ⟨n, reason, rfl⟩ := h e List.mem_cons_self
    have hrest := ih (fun e he => h e (List.mem_cons_of_mem _ he)) (r.step (.look n reason))
    exact hrest.trans (scopes_look r n reason)

/-- Before time passes every call can be told whose scope has ended. -/
theorem exists_settled (r : ScopeRun) : ∃ looks, (∀ e ∈ looks, ∃ n reason, e = .look n reason) ∧
    (r.run looks).scopes = r.scopes ∧
    ∀ n v, (r.run looks).vigils.get? n = some v → v.told = none →
      r.scopes.end? v.scope = none := by
  obtain ⟨looks, hlooks, hstill⟩ := exists_still r
  have hscopes := scopes_looks hlooks r
  refine ⟨looks, hlooks, hscopes, fun n v hv htold => ?_⟩
  have hlive := not_ended_of_canLook hv htold (isStill_iff.mp hstill n)
  rw [hscopes] at hlive
  simpa using hlive

/-- A call was told at the first instant at which its scope had ended. -/
theorem Fits.isLeast {v : Vigil} (h : Fits events v) (htold : v.told = some (t, reason)) :
    IsLeast {t' | v.since ≤ t' ∧ EndedAt events v.scope t'} t := by
  have hto := waitedTo_of_told htold (run {} events).scopes.now
  constructor
  · obtain ⟨before, after, heq, hnow, hmay⟩ := h.told t reason htold
    have hended := endedAt_iff.mpr ⟨before, after, heq, hnow, Scope.isSome_end?_of_mayEnd hmay⟩
    exact ⟨hto ▸ h.since_le, hended⟩
  · rintro other ⟨hsince, hended⟩
    exact hto ▸ h.first other hsince hended

/-! ## What a scope reports -/

theorem scope_of_made (h : (s, d) ∈ (run {} events).made) : s = d.scope :=
  ((sound_run sound_init events).made (s, d) h).1

theorem cancelled_iff (h : (s, d) ∈ (run {} events).made) :
    (run {} events).scopes.end? s = some .cancelled ↔ Fired events d.handle := by
  rw [scope_of_made h, Scopes.end?, Scope.end?_eq_cancelled_iff, Descent.handle_scope, isUsed_run]

theorem deadlineExceeded_iff (h : (s, d) ∈ (run {} events).made) :
    (run {} events).scopes.end? s = some .deadlineExceeded ↔
      ¬ Fired events d.handle ∧ ∃ least ∈ d.deadlines.min?, least ≤ (run {} events).scopes.now := by
  rw [scope_of_made h, Scopes.end?, Scope.end?_eq_deadlineExceeded_iff, Descent.handle_scope,
    ← Bool.not_eq_true, isUsed_run, Scope.isOverdue_iff, Descent.deadline_scope]

/-- The order of the deadlines on the way makes no difference. -/
theorem end?_perm {d' : Descent} (hhandle : d.handle = d'.handle)
    (hperm : d.deadlines.Perm d'.deadlines) (scopes : Scopes) :
    scopes.end? d.scope = scopes.end? d'.scope := by
  have hover : d.scope.isOverdue scopes.now = d'.scope.isOverdue scopes.now := by
    rw [Bool.eq_iff_iff, Descent.isOverdue_scope, Descent.isOverdue_scope]
    simp only [hperm.mem_iff]
  simp only [Scopes.end?, Scope.end?, Descent.handle_scope, hhandle, hover]

/-- What comes from a scope has ended if the scope has. -/
theorem ended_of_from {d' : Descent} (hfrom : d.From d') {scopes : Scopes}
    (hended : (scopes.end? d.scope).isSome = true) : (scopes.end? d'.scope).isSome = true := by
  apply Scope.isSome_end?_iff.mpr
  rcases Scope.isSome_end?_iff.mp hended with hused | hover
  · left
    rwa [Descent.handle_scope, hfrom.handle_eq, ← Descent.handle_scope d]
  · right
    obtain ⟨deadline, hd, hcome⟩ := Descent.isOverdue_scope.mp hover
    exact Descent.isOverdue_scope.mpr ⟨deadline, hfrom.deadlines_subset hd, hcome⟩

/-! ## The theorem -/

/-- What holds of scopes after these events. -/
structure Ends (events : List Event) : Prop where
  -- a scope was cancelled if the handle that it comes from was used
  cancelled : ∀ s d, (s, d) ∈ (run {} events).made →
    ((run {} events).scopes.end? s = some .cancelled ↔ Fired events d.handle)
  -- else its time is over when the least of all deadlines on the way has come
  deadlineExceeded : ∀ s d, (s, d) ∈ (run {} events).made →
    ((run {} events).scopes.end? s = some .deadlineExceeded ↔
      ¬ Fired events d.handle ∧ ∃ least ∈ d.deadlines.min?, least ≤ (run {} events).scopes.now)
  -- in whatever order the deadlines were given
  reordered : ∀ s d s' d', (s, d) ∈ (run {} events).made → (s', d') ∈ (run {} events).made →
    d.handle = d'.handle → d.deadlines.Perm d'.deadlines →
    (run {} events).scopes.end? s = (run {} events).scopes.end? s'
  -- what comes from a scope ends with it at the latest
  derived : ∀ s d s' d', (s, d) ∈ (run {} events).made → (s', d') ∈ (run {} events).made →
    d.From d' → ((run {} events).scopes.end? s).isSome = true →
    ((run {} events).scopes.end? s').isSome = true
  stays : ∀ more s, ((run {} events).scopes.end? s).isSome = true →
    ((run {} (events ++ more)).scopes.end? s).isSome = true
  -- a handle that is given up ends nothing, neither then nor later
  dropped : ∀ h s, (run {} (events ++ [.dropHandle h])).scopes.end? s =
    (run {} events).scopes.end? s
  abandoned : ∀ more s d, (s, d) ∈ (run {} events).made → d.handle ∉ (run {} events).held →
    ¬ Fired events d.handle → (run {} (events ++ more)).scopes.end? s ≠ some .cancelled
  -- a call that has not been told waits for a scope that had not ended at any instant before
  waits : ∀ n v, (run {} events).vigils.get? n = some v → v.told = none →
    ∀ t, v.since ≤ t → EndedAt events v.scope t → t = (run {} events).scopes.now
  -- and it is told at this one, since it can have its turn before time passes
  settles : ∃ looks, (∀ e ∈ looks, ∃ n reason, e = .look n reason) ∧
    (run {} (events ++ looks)).scopes = (run {} events).scopes ∧
    ∀ n v, (run {} (events ++ looks)).vigils.get? n = some v → v.told = none →
      (run {} events).scopes.end? v.scope = none
  -- a call is told at the first instant at which its scope had ended, and is told what the scope
  -- reports, unless its handle was used and its deadline had come by then
  told : ∀ n v t reason, (run {} events).vigils.get? n = some v → v.told = some (t, reason) →
    IsLeast {t' | v.since ≤ t' ∧ EndedAt events v.scope t'} t ∧
      ((∀ other, ReportsAt events v.scope t other ↔ other = reason) ∨
        CoincideAt events v.scope t)

/-- **Scopes end as they were made**: for scopes made from one another in any way, handles used and
given up in any order, and calls that wait, look and go away while time passes. -/
theorem scopes_end (events : List Event) : Ends events := by
  have sound := sound_run sound_init events
  constructor
  case cancelled => exact fun _ _ => cancelled_iff
  case deadlineExceeded => exact fun _ _ => deadlineExceeded_iff
  case reordered =>
    intro s d s' d' h h' hhandle hperm
    rw [scope_of_made h, scope_of_made h']
    exact end?_perm hhandle hperm _
  case derived =>
    intro s d s' d' h h' hfrom hended
    rw [scope_of_made h] at hended
    rw [scope_of_made h']
    exact ended_of_from hfrom hended
  case stays =>
    intro more s hended
    rw [run_append]
    exact ended_run sound more hended
  case dropped =>
    intro h s
    rw [run_concat]
    rfl
  case abandoned =>
    intro more s d h hheld hfired
    rw [scope_of_made h, Ne, Scopes.end?, Scope.end?_eq_cancelled_iff, Descent.handle_scope,
      run_append]
    have hlt : d.handle < (run {} events).scopes.handles.length := (sound.made (s, d) h).2
    exact unused_run sound hheld hlt (mt (isUsed_run events d.handle).mp hfired) more
  case waits =>
    intro n v hv htold t hsince hended
    have hfirst := (fits_run events n v hv).first t hsince hended
    rw [waitedTo_of_untold htold] at hfirst
    obtain ⟨reason, hreport⟩ := hended
    exact Nat.le_antisymm (le_of_at hreport) hfirst
  case settles =>
    simp only [run_append]
    exact exists_settled (run {} events)
  case told =>
    intro n v t reason hv htold
    have fits := fits_run events n v hv
    exact ⟨fits.isLeast htold, reports_or_coincide (fits.told t reason htold)⟩

/-- A scope with a deadline of 50 is cancelled at that instant, and then a call waits for it. -/
def lateWait : List Event :=
  [.withCancel, .withTimeout 0 50, .elapse 50, .cancel 0, .wait 0 1]

/-- The same, with a call that waits from the beginning and has looked when the deadline came. -/
def earlyWait : List Event :=
  [.withCancel, .withTimeout 0 50, .wait 0 1, .elapse 50, .look 0 .deadlineExceeded, .cancel 0]

/-- **What may be told if both happened**: a call is told that the time is over where the scope
reports, at the same instant, that it was cancelled. -/
theorem told_otherwise :
    ((run {} lateWait).scopes.end? ⟨0, some 50⟩ = some .cancelled ∧
      (run {} (lateWait ++ [.look 0 .deadlineExceeded])).vigils.get? 0 =
        some ⟨⟨0, some 50⟩, 50, some (50, .deadlineExceeded)⟩ ∧
      (run {} (lateWait ++ [.look 0 .deadlineExceeded])).scopes.end? ⟨0, some 50⟩ =
        some .cancelled) ∧
    (run {} earlyWait).vigils.get? 0 = some ⟨⟨0, some 50⟩, 0, some (50, .deadlineExceeded)⟩ ∧
    (run {} earlyWait).scopes.now = 50 ∧
    (run {} earlyWait).scopes.end? ⟨0, some 50⟩ = some .cancelled := by
  decide

end ScopeRun
end ClusterControl
