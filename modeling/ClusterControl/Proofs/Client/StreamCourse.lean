import ClusterControl.Client.StatusReader
import Mathlib.Tactic

/-!
# The reports of a stream

The loop that reads a status stream reads what comes over the connection in order and hands over
what it has read, at whatever pace the consumer takes it.

* `reportsBefore`, `ending?` — what a sequence of arrivals comes to: the reports before its end, and
  the end.
* `Tells` — what each arrival says of the end of a stream; `news_ending_iff`.
* `Ends`, `Waits` — when the loop ends at its next step, and why, and when it has none; `poll_cases`
  says what else it can do.
* `Course` — what was read was handed over; `course_step` and `course_run`.
-/

namespace ClusterControl
namespace StatusReader

variable {r : StatusReader} {e : Event} {events : List Event} {why : Termination}
  {heard more : List Arrival}

/-! ## What comes in -/

/-- What comes in with an event. -/
def Event.arrival? : Event → Option Arrival
  | arrive a => some a
  | _ => none

/-- What comes in, in order. -/
def arrivals (events : List Event) : List Arrival :=
  events.filterMap Event.arrival?

/-- The end that the first arrival with one brings. -/
def ending? : List Arrival → Option StreamEnd
  | [] => none
  | a :: rest =>
    match a.news with
    | .ending met => some met
    | _ => ending? rest

/-- The reports that come before the end. -/
def reportsBefore : List Arrival → List ClusterInfo
  | [] => []
  | a :: rest =>
    match a.news with
    | .report info => info :: reportsBefore rest
    | .nothing => reportsBefore rest
    | .ending _ => []

/-- What an arrival says of the end of a stream. -/
inductive Tells : Arrival → StreamEnd → Prop
  | closeFrame : Tells (.frame .close) .closed
  | ended : Tells .ended .closed
  | connectionClosed : Tells (.failed .closed) .closed
  | alreadyClosed : Tells (.failed .alreadyClosed) .closed
  | failed {cause : SocketFailure} (h : cause ≠ .closed ∧ cause ≠ .alreadyClosed) :
      Tells (.failed cause) (.failed ⟨.unavailable, cause.message⟩)
  | refused {text : String} {status : Status} (h : Response.parse text = .ok (.error status)) :
      Tells (.frame (.text text)) (.failed status)
  | foreign {text : String} {response : Response} (h : Response.parse text = .ok response)
      (other : (∀ info, response ≠ .cluster info) ∧ ∀ status, response ≠ .error status) :
      Tells (.frame (.text text))
        (.failed ⟨.internal, "unexpected frame on status stream: " ++ response.describe⟩)
  | malformed {text : String} {fault : JsonError} (h : Response.parse text = .error fault) :
      Tells (.frame (.text text)) (.failed ⟨.internal, "malformed status frame: " ++ fault.message⟩)

theorem arrivals_append (events more : List Event) :
    arrivals (events ++ more) = arrivals events ++ arrivals more :=
  List.filterMap_append

theorem ending?_append (heard more : List Arrival) :
    ending? (heard ++ more) = (ending? heard).or (ending? more) := by
  induction heard with
  | nil => rfl
  | cons a heard ih =>
    simp only [List.cons_append, ending?]
    cases a.news with
    | ending met => rfl
    | _ => exact ih

/-- Nothing counts that comes after the end. -/
theorem reportsBefore_append (heard more : List Arrival) :
    reportsBefore (heard ++ more) = reportsBefore heard ++
      match ending? heard with
      | some _ => []
      | none => reportsBefore more := by
  induction heard with
  | nil => rfl
  | cons a heard ih =>
    simp only [List.cons_append, ending?, reportsBefore]
    cases a.news with
    | ending met => rfl
    | nothing => exact ih
    | report info => exact congrArg _ ih

/-- What the consumer takes with an event. -/
def Event.took (r : StatusReader) : Event → List ClusterInfo
  | take => r.handover.toList
  | _ => []

theorem taken_cons (r : StatusReader) (e : Event) (events : List Event) :
    r.taken (e :: events) = e.took r ++ (r.step e).taken events := by
  cases e <;> rfl

theorem taken_append (r : StatusReader) (events more : List Event) :
    r.taken (events ++ more) = r.taken events ++ (r.run events).taken more := by
  induction events generalizing r with
  | nil => rfl
  | cons e events ih =>
    rw [List.cons_append, taken_cons, taken_cons, ih, List.append_assoc]
    rfl

theorem run_append (r : StatusReader) (events more : List Event) :
    r.run (events ++ more) = (r.run events).run more :=
  List.foldl_append

/-! ## What the loop can do -/

/-- The loop ends at its next step, and why. -/
inductive Ends (r : StatusReader) : Termination → Prop
  | givenUp (live : ∀ why, r.phase ≠ .ended why) (h : r.givenUp = true) : Ends r .callerCancelled
  | consumerGone (info : ClusterInfo) (phase : r.phase = .delivering info)
      (live : r.givenUp = false) (h : r.consumerGone = true) : Ends r .callerCancelled
  | met (met : StreamEnd) (phase : r.phase = .closing met) (live : r.givenUp = false) :
      Ends r (.classify false met)

/-- The loop has ended or waits: for something to come in, or for room for a report. -/
inductive Waits (r : StatusReader) : Prop
  | ended (why : Termination) (phase : r.phase = .ended why)
  | reading (phase : r.phase = .reading) (live : r.givenUp = false) (empty : r.inbox = [])
  | delivering (info : ClusterInfo) (phase : r.phase = .delivering info) (live : r.givenUp = false)
      (there : r.consumerGone = false) (full : r.handover ≠ none)

/-- What the loop can do at a time. -/
theorem poll_cases (r : StatusReader) :
    (Waits r ∧ r.poll = r) ∨
    (∃ why, Ends r why ∧ r.poll = r.finish why) ∨
    (∃ a rest, r.phase = .reading ∧ r.givenUp = false ∧ r.inbox = a :: rest ∧
      r.poll = { r with inbox := rest }.read a) ∨
    (∃ info, r.phase = .delivering info ∧ r.givenUp = false ∧ r.consumerGone = false ∧
      r.handover = none ∧ r.poll = { r with handover := some info, phase := .reading }) := by
  unfold poll
  cases phase : r.phase with
  | ended why => exact .inl ⟨.ended why phase, rfl⟩
  | closing met =>
    refine .inr (.inl ?_)
    cases live : r.givenUp with
    | true => exact ⟨_, .givenUp (by simp [phase]) live, rfl⟩
    | false => exact ⟨_, .met met phase live, rfl⟩
  | reading =>
    cases live : r.givenUp with
    | true => exact .inr (.inl ⟨_, .givenUp (by simp [phase]) live, rfl⟩)
    | false =>
      cases inbox : r.inbox with
      | nil => exact .inl ⟨.reading phase live inbox, by simp⟩
      | cons a rest => exact .inr (.inr (.inl ⟨a, rest, rfl, rfl, rfl, by simp⟩))
  | delivering info =>
    cases live : r.givenUp with
    | true => exact .inr (.inl ⟨_, .givenUp (by simp [phase]) live, rfl⟩)
    | false =>
      cases there : r.consumerGone with
      | true => exact .inr (.inl ⟨_, .consumerGone info phase live there, by simp⟩)
      | false =>
        cases room : r.handover with
        | some waiting => exact .inl ⟨.delivering info phase live there (by simp [room]), by simp⟩
        | none => exact .inr (.inr (.inr ⟨info, rfl, rfl, rfl, rfl, by simp⟩))

/-! ## What was read was handed over -/

/-- How what was read, what was handed over of it and how far the loop is go together. -/
def Standing (read : List Arrival) (handed : List ClusterInfo) : ReaderPhase → Prop
  | .reading => ending? read = none ∧ reportsBefore read = handed
  | .delivering info => ending? read = none ∧ reportsBefore read = handed ++ [info]
  | .closing met => ending? read = some met ∧ reportsBefore read = handed
  | .ended _ => handed <+: reportsBefore read

/-- The course of a loop after these events, in which the consumer has taken these reports. -/
structure Course (events : List Event) (got : List ClusterInfo) (r : StatusReader) : Prop where
  heard : ∃ read handed, arrivals events = read ++ r.inbox ∧ Standing read handed r.phase ∧
    got ++ r.handover.toList <+: handed ∧
    (r.consumerGone = false → got ++ r.handover.toList = handed)
  gone : r.consumerGone = true → r.handover = none

section Course

variable {got : List ClusterInfo}

theorem prefix_of_standing {read : List Arrival} {handed : List ClusterInfo} {phase : ReaderPhase}
    (h : Standing read handed phase) : handed <+: reportsBefore read := by
  cases phase with
  | reading => exact h.2 ▸ List.prefix_refl _
  | delivering info => exact h.2 ▸ List.prefix_append _ _
  | closing met => exact h.2 ▸ List.prefix_refl _
  | ended why => exact h

theorem course_poll (h : Course events got r) : Course events got r.poll := by
  obtain ⟨read, handed, split, standing, taken, all⟩ := h.heard
  obtain ⟨-, heq⟩ | ⟨why, -, heq⟩ | ⟨a, rest, phase, live, inbox, heq⟩ |
    ⟨info, phase, live, there, room, heq⟩ := poll_cases r
  · rwa [heq]
  · rw [heq]
    exact ⟨⟨read, handed, split, prefix_of_standing standing, taken, all⟩, h.gone⟩
  · rw [phase] at standing
    obtain ⟨goes, reports⟩ := standing
    have split : arrivals events = (read ++ [a]) ++ rest := by simpa [inbox] using split
    have end_more := ending?_append read [a]
    have reports_more := reportsBefore_append read [a]
    rw [goes] at end_more reports_more
    rw [heq]
    unfold StatusReader.read
    cases news : a.news with
    | report info =>
      refine ⟨⟨read ++ [a], handed, split, ⟨?_, ?_⟩, taken, all⟩, h.gone⟩
      · simpa [ending?, news] using end_more
      · simpa [reportsBefore, news, reports] using reports_more
    | nothing =>
      refine ⟨⟨read ++ [a], handed, split, ?_, taken, all⟩, h.gone⟩
      simp only [phase]
      refine ⟨?_, ?_⟩
      · simpa [ending?, news] using end_more
      · simpa [reportsBefore, news, reports] using reports_more
    | ending met =>
      refine ⟨⟨read ++ [a], handed, split, ⟨?_, ?_⟩, taken, all⟩, h.gone⟩
      · simpa [ending?, news] using end_more
      · simpa [reportsBefore, news, reports] using reports_more
  · rw [phase] at standing
    obtain ⟨goes, reports⟩ := standing
    have before : got = handed := by simpa [room] using all there
    rw [heq]
    refine ⟨⟨read, handed ++ [info], split, ⟨goes, reports⟩, ?_, fun _ => ?_⟩, ?_⟩
    · simp [before]
    · simp [before]
    · simp [there]

theorem course_step (h : Course events got r) (e : Event) :
    Course (events ++ [e]) (got ++ e.took r) (r.step e) := by
  obtain ⟨read, handed, split, standing, taken, all⟩ := h.heard
  have later {r' : StatusReader} (h : Course events got r') (ha : e.arrival? = none)
      (ht : e.took r = []) : Course (events ++ [e]) (got ++ e.took r) r' := by
    obtain ⟨heard, gone⟩ := h
    refine ⟨?_, gone⟩
    rw [ht, List.append_nil, arrivals_append]
    simpa [arrivals, ha] using heard
  cases e with
  | arrive a =>
    refine ⟨⟨read, handed, ?_, standing, ?_, ?_⟩, h.gone⟩
    · rw [arrivals_append, split]
      exact List.append_assoc _ _ _
    · simpa [Event.took, step] using taken
    · simpa [Event.took, step] using all
  | take =>
    refine ⟨⟨read, handed, ?_, standing, ?_, ?_⟩, fun _ => rfl⟩
    · rw [arrivals_append, split]
      exact List.append_nil _
    · simpa [Event.took, step] using taken
    · simpa [Event.took, step] using all
  | consumerGone =>
    refine later ⟨⟨read, handed, split, standing, ?_, nofun⟩, fun _ => rfl⟩ rfl rfl
    simpa [step] using (List.prefix_append _ _).trans taken
  | poll => exact later (course_poll h) rfl rfl
  | _ => exact later ⟨⟨read, handed, split, standing, taken, all⟩, h.gone⟩ rfl rfl

theorem course_run (events : List Event) :
    Course events (taken {} events) (run {} events) := by
  induction events using List.reverseRecOn with
  | nil => exact ⟨⟨[], [], rfl, ⟨rfl, rfl⟩, List.prefix_refl _, fun _ => rfl⟩, fun _ => rfl⟩
  | append_singleton events e ih =>
    rw [run_append, taken_append, taken_cons, taken, List.append_nil]
    exact course_step ih e

end Course

end StatusReader
end ClusterControl
