import ClusterControl.Server.Connection
import Mathlib.Tactic

/-!
# Streams on a connection

A stream on a connection of a control server: the reports that go out, and the watcher that waits
for the caller to leave meanwhile.

* `request?` — the request is the first text that comes in, unless the caller leaves before it.
* `outbound` — what goes out.
* `pollWatcher_cases`, `poll_streaming` — what the watcher and the stream can do at a time.
* `Streaming` — what holds of a stream at any time; `streaming_step` carries it over one event.
-/

namespace ClusterControl
namespace Connection

variable {c : Connection} {e : Event} {events later : List Event}

/-! ## What comes in and what goes out -/

/-- What comes in with an event. -/
def Event.arrival? : Event → Option Arrival
  | arrive a => some a
  | _ => none

/-- The snapshot that an event puts into the feed. -/
def Event.offer? : Event → Option Snapshot
  | offer s => some s
  | _ => none

/-- The response that an operation gives with an event. -/
def Event.response? : Event → Option Response
  | answer r => some r
  | _ => none

/-- What comes in, in order. -/
def arrivals (events : List Event) : List Arrival :=
  events.filterMap Event.arrival?

/-- The snapshots that the feed has had, in order. -/
def offers (events : List Event) : List Snapshot :=
  events.filterMap Event.offer?

/-- The first text that comes in, unless the caller leaves before it, and what comes in after it. -/
def request? : List Arrival → Option (String × List Arrival)
  | [] => none
  | a :: rest =>
    match a.text? with
    | some text => some (text, rest)
    | none => if a.isDeparture then none else request? rest

/-- What goes out: the responses, and then the close. -/
def outbound (c : Connection) : List Frame :=
  c.sent.map (fun r => .text r.frame) ++ if c.closed then [.close] else []

/-- The report that is being sent, if any. -/
def underway (c : Connection) : List Snapshot :=
  match c.phase with
  | .sending s => [s]
  | _ => []

/-- The response that reports a snapshot. -/
def report (s : Snapshot) : Response :=
  .cluster s.info

/-- What comes in says nothing: there is no text, and the caller stays. -/
def Idle (heard : List Arrival) : Prop :=
  ∀ a ∈ heard, a.text? = none ∧ a.isDeparture = false

theorem request?_idle {idle : List Arrival} (h : Idle idle) (rest : List Arrival) :
    request? (idle ++ rest) = request? rest := by
  induction idle with
  | nil => rfl
  | cons a idle ih =>
    obtain ⟨text, stays⟩ := h a List.mem_cons_self
    simp only [List.cons_append, request?, text, stays]
    exact ih fun b hb => h b (List.mem_cons_of_mem _ hb)

theorem request?_append {heard after : List Arrival} {text : String}
    (h : request? heard = some (text, after)) (more : List Arrival) :
    request? (heard ++ more) = some (text, after ++ more) := by
  induction heard with
  | nil => simp [request?] at h
  | cons a heard ih =>
    simp only [List.cons_append, request?] at h ⊢
    split at h
    · next t ht =>
      obtain ⟨rfl, rfl⟩ := Prod.mk.inj (Option.some.inj h)
      rfl
    · next ht =>
      split at h
      · simp at h
      · next stays => rw [if_neg stays]; exact ih h

theorem arrivals_append (events more : List Event) :
    arrivals (events ++ more) = arrivals events ++ arrivals more :=
  List.filterMap_append

theorem offers_append (events more : List Event) :
    offers (events ++ more) = offers events ++ offers more :=
  List.filterMap_append

theorem run_append (c : Connection) (events more : List Event) :
    c.run (events ++ more) = (c.run events).run more :=
  List.foldl_append

/-! ## The watcher -/

/-- What the reader that watches the caller can do. -/
theorem pollWatcher_cases (c : Connection) :
    (c.pollWatcher = c ∧ (c.watching = false ∨ c.inbox = [])) ∨
    (c.watching = true ∧ ∃ a rest, c.inbox = a :: rest ∧
      (a.isDeparture = true ∧
          c.pollWatcher = { c with inbox := rest, cancelled := true, watching := false } ∨
        a.isDeparture = false ∧ c.pollWatcher = { c with inbox := rest })) := by
  unfold pollWatcher
  cases hwatching : c.watching with
  | false => simp
  | true =>
    cases hinbox : c.inbox with
    | nil => simp
    | cons a rest => cases hleaves : a.isDeparture <;> simp [hleaves]

/-- The watcher does nothing for the caller but to cancel the feed. -/
theorem pollWatcher_frame (c : Connection) :
    c.pollWatcher.phase = c.phase ∧ c.pollWatcher.sent = c.sent ∧ c.pollWatcher.closed = c.closed ∧
      c.pollWatcher.invoked = c.invoked ∧ c.pollWatcher.taken = c.taken ∧
      c.pollWatcher.pending = c.pending ∧ c.pollWatcher.stopping = c.stopping ∧
      c.pollWatcher.feedEnded = c.feedEnded := by
  obtain ⟨heq, -⟩ | ⟨-, a, rest, -, ⟨-, heq⟩ | ⟨-, heq⟩⟩ := pollWatcher_cases c <;> simp [heq]

/-! ## Connections that are over -/

/-- On a connection that is over nothing more is done for the caller. -/
theorem step_over (h : c.phase = .over) (e : Event) :
    (c.step e).phase = .over ∧ (c.step e).sent = c.sent ∧ (c.step e).closed = c.closed ∧
      (c.step e).invoked = c.invoked ∧ (c.step e).taken = c.taken := by
  cases e with
  | pollWatcher =>
    obtain ⟨phase, sent, closed, invoked, taken, -⟩ := pollWatcher_frame c
    exact ⟨phase.trans h, sent, closed, invoked, taken⟩
  | _ => simp [step, poll, answer, flush, h]

theorem outbound_eq {d : Connection} (sent : d.sent = c.sent) (closed : d.closed = c.closed) :
    d.outbound = c.outbound := by
  rw [outbound, outbound, sent, closed]

/-! ## Streams -/

/-- What can happen when a stream goes on. -/
theorem poll_streaming (h : c.phase = .streaming) (feed : Outcome Unit) :
    (c.stopping = true ∨ c.feedEnded = true) ∧ c.poll feed = c.finish none ∨
    (∃ s, c.stopping = false ∧ c.pending = some s ∧
      c.poll feed = { c with pending := none, taken := c.taken ++ [s], phase := .sending s }) ∨
    (c.stopping = false ∧ c.feedEnded = false ∧ c.pending = none ∧ c.poll feed = c) := by
  unfold poll
  rw [h]
  cases hstop : c.stopping with
  | true => simp
  | false =>
    cases hpending : c.pending with
    | some s => simp
    | none => cases hended : c.feedEnded <;> simp

/-- What holds of a stream at any time, when these events have happened and this came in after the
request. -/
structure Streaming (events : List Event) (after : List Arrival) (c : Connection) : Prop where
  phase : c.phase = .streaming ∨ (∃ s, c.phase = .sending s) ∨ c.phase = .over
  -- one report a snapshot, in the order in which they were taken
  reports : ∃ shown, c.taken = shown ++ c.underway ∧ c.sent = shown.map report
  offered : (c.taken ++ c.pending.toList).Sublist (offers events)
  closed : c.closed = true ↔ c.phase = .over
  ending : c.phase = .over → c.stopping = true ∨ c.feedEnded = true
  -- nobody but the watcher reads, and it has not seen the caller leave as long as it watches
  seen : ∃ seen, after = seen ++ c.inbox ∧
    (c.watching = true → c.cancelled = false ∧ ∀ a ∈ seen, a.isDeparture = false)
  resting : c.phase = .over → c.watching = false
  idle : c.watching = false → c.cancelled = true ∨ c.phase = .over
  cause : c.cancelled = true → ∃ a ∈ after, a.isDeparture = true

section Streaming

variable {after : List Arrival}

/-- A stream that ends does not take back anything. -/
theorem streaming_finish (h : Streaming events after c) (live : c.phase = .streaming)
    (why : c.stopping = true ∨ c.feedEnded = true) : Streaming events after (c.finish none) where
  phase := .inr (.inr rfl)
  reports := by
    obtain ⟨shown, taken, sent⟩ := h.reports
    exact ⟨shown, by simpa [underway, live, finish] using taken, by simpa [finish] using sent⟩
  offered := h.offered
  closed := by simp [finish]
  ending _ := why
  seen := by
    obtain ⟨seen, heard, -⟩ := h.seen
    exact ⟨seen, heard, by simp [finish]⟩
  resting _ := rfl
  idle _ := .inr rfl
  cause := h.cause

theorem streaming_poll (h : Streaming events after c) (feed : Outcome Unit) :
    Streaming events after (c.poll feed) := by
  obtain live | ⟨s, sending⟩ | ended := h.phase
  · obtain ⟨why, heq⟩ | ⟨s, -, pending, heq⟩ | ⟨-, -, -, heq⟩ := poll_streaming live feed
    · exact heq ▸ streaming_finish h live why
    · rw [heq]
      refine { h with
        phase := .inr (.inl ⟨s, rfl⟩), reports := ?_, offered := ?_, closed := ?_
        ending := ?_, resting := ?_, idle := ?_ }
      · obtain ⟨shown, taken, sent⟩ := h.reports
        have all : c.taken = shown := by simpa [underway, live] using taken
        exact ⟨shown, by simp [underway, all], sent⟩
      · have offered := h.offered
        rw [pending] at offered
        simpa using offered
      · have closed := h.closed
        simpa [live] using closed
      · simp
      · simp
      · have idle := h.idle
        simpa [live] using idle
    · rwa [heq]
  · have heq : c.poll feed = c := by simp [poll, sending]
    rwa [heq]
  · have heq : c.poll feed = c := by simp [poll, ended]
    rwa [heq]

theorem streaming_pollWatcher (h : Streaming events after c) :
    Streaming events after c.pollWatcher := by
  obtain ⟨seen, heard, watched⟩ := h.seen
  obtain ⟨heq, -⟩ | ⟨watching, a, rest, inbox, ⟨leaves, heq⟩ | ⟨stays, heq⟩⟩ := pollWatcher_cases c
  · rwa [heq]
  · rw [heq]
    refine { h with
      seen := ⟨seen ++ [a], by simpa [inbox] using heard, nofun⟩
      resting := fun _ => rfl
      idle := fun _ => .inl rfl
      cause := fun _ => ⟨a, ?_, leaves⟩ }
    simp [heard, inbox]
  · rw [heq]
    refine { h with
      seen := ⟨seen ++ [a], by simpa [inbox] using heard, fun hw => ⟨(watched hw).1, ?_⟩⟩ }
    intro b hb
    rcases List.mem_append.mp hb with hb | hb
    · exact (watched hw).2 b hb
    · exact List.mem_singleton.mp hb ▸ stays

theorem streaming_flush (h : Streaming events after c) : Streaming events after c.flush := by
  obtain live | ⟨s, sending⟩ | ended := h.phase
  · have heq : c.flush = c := by simp [flush, live]
    rwa [heq]
  · have heq : c.flush = { c with sent := c.sent ++ [report s], phase := .streaming } := by
      simp [flush, sending, report]
    rw [heq]
    refine { h with
      phase := .inl rfl, reports := ?_, closed := ?_, ending := ?_, resting := ?_, idle := ?_ }
    · obtain ⟨shown, taken, sent⟩ := h.reports
      have all : c.taken = shown ++ [s] := by simpa [underway, sending] using taken
      exact ⟨shown ++ [s], by simp [underway, all], by simp [sent]⟩
    · have closed := h.closed
      simpa [sending] using closed
    · simp
    · simp
    · have idle := h.idle
      simpa [sending] using idle
  · have heq : c.flush = c := by simp [flush, ended]
    rwa [heq]

/-- What holds of a stream holds after one more event. -/
theorem streaming_step (h : Streaming events after c) (e : Event) :
    Streaming (events ++ [e]) (after ++ arrivals [e]) (c.step e) := by
  have more : (offers events).Sublist (offers (events ++ [e])) := by
    rw [offers_append]
    exact List.sublist_append_left _ _
  have silent (hn : e.arrival? = none) : after ++ arrivals [e] = after := by
    simp [arrivals, hn]
  have later {d : Connection} (hd : Streaming events after d) (hn : e.arrival? = none) :
      Streaming (events ++ [e]) (after ++ arrivals [e]) d := by
    rw [silent hn]
    exact { hd with offered := hd.offered.trans more }
  cases e with
  | arrive a =>
    obtain ⟨seen, heard, watched⟩ := h.seen
    refine { h with
      offered := h.offered.trans more, seen := ⟨seen, ?_, watched⟩, cause := fun hc => ?_ }
    · simp [arrivals, Event.arrival?, step, heard]
    · obtain ⟨a, ha, leaves⟩ := h.cause hc
      exact ⟨a, List.mem_append_left _ ha, leaves⟩
  | poll feed => exact later (streaming_poll h feed) rfl
  | pollWatcher => exact later (streaming_pollWatcher h) rfl
  | answer r =>
    have heq : c.step (.answer r) = c := by
      obtain live | ⟨s, sending⟩ | ended := h.phase <;> simp [step, answer, *]
    rw [heq]
    exact later h rfl
  | offer s =>
    rw [silent rfl]
    refine { h with offered := ?_ }
    have taken : c.taken.Sublist (offers events) :=
      (List.sublist_append_left _ _).trans h.offered
    simpa [offers_append, offers, Event.offer?, step] using taken.append (List.Sublist.refl [s])
  | feedEnds =>
    rw [silent rfl]
    exact { h with offered := h.offered.trans more, ending := fun _ => .inr rfl }
  | flush => exact later (streaming_flush h) rfl
  | shutDown =>
    rw [silent rfl]
    exact { h with offered := h.offered.trans more, ending := fun _ => .inl rfl }

end Streaming

end Connection
end ClusterControl
