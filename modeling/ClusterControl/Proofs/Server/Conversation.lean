import ClusterControl.Proofs.Server.Streaming

/-!
# Conversations on a connection

What a control server does on one connection, whatever comes in, whatever the operations give and
whenever the server shuts down, as long as what it sends goes out.

* `Answered` — what the server has done for a request: one response and the close, or a stream;
  `answered_serve` and `answered_step` say that it does so at once and for good.
* `Stage` — a connection listens, was left, or has read its request at one of its polls;
  `stage_step` and `stage_run` carry this through a conversation.
* `AtRest`, `exists_atRest` — by itself a connection comes to rest.
* `Conduct`, `conduct_run` — the theorem.
-/

namespace ClusterControl
namespace Connection

variable {c : Connection} {e : Event} {events later : List Event}

/-! ## Requests -/

/-- Nothing has been done for the caller. -/
structure Quiet (c : Connection) : Prop where
  sent : c.sent = []
  closed : c.closed = false
  invoked : c.invoked = []
  taken : c.taken = []
  cancelled : c.cancelled = false
  watching : c.watching = false

/-- The caller was sent this one response, and then the close. -/
def Told (c : Connection) (r : Response) : Prop :=
  c.phase = .over ∧ c.outbound = [.text r.frame, .close]

/-- What was done for a request of an operation, when these events have happened since. -/
def Operated (request : Request) (later : List Event) (c : Connection) : Prop :=
  c.invoked = [request] ∧
    match later.findSome? Event.response? with
    | none => c.phase = .operating request ∧ c.outbound = []
    | some r => c.Told r

/-- What was done for a request, when these events have happened since it was read; `feed` is what
the server said to a request for a stream, and `going` is what holds of a stream. -/
def Answered (going : Prop) (feed : Outcome Unit) (later : List Event) (c : Connection) :
    Except JsonError Request → Prop
  | .error fault => c.invoked = [] ∧ c.Told (.error ⟨.invalidArgument,
      "invalid argument: malformed request: " ++ fault.message⟩)
  | .ok (.streamStatus ms) =>
    if ms = 0 then c.invoked = [] ∧ c.Told (.error ⟨.invalidArgument,
      "invalid argument: push_interval_ms must be greater than zero"⟩)
    else c.invoked = [.streamStatus ms] ∧
      match feed with
      | .error e => c.Told (.error e.status)
      | .ok () => going
  | .ok request => c.Operated request later

theorem outbound_eq_nil : c.outbound = [] ↔ c.sent = [] ∧ c.closed = false := by
  simp [outbound]

theorem told_finish (sent : c.sent = []) (r : Response) : (c.finish (some r)).Told r :=
  ⟨rfl, by simp [outbound, finish, sent]⟩

theorem told_step {r : Response} (h : c.Told r) (e : Event) :
    (c.step e).Told r ∧ (c.step e).invoked = c.invoked := by
  obtain ⟨ended, out⟩ := h
  obtain ⟨phase, sent, closed, invoked, -⟩ := step_over ended e
  exact ⟨⟨phase, (outbound_eq sent closed).trans out⟩, invoked⟩

/-- Nothing more is asked of the server once the request was read. -/
theorem step_invoked (h : c.phase ≠ .listening) (e : Event) :
    (c.step e).invoked = c.invoked := by
  cases e with
  | poll feed =>
    cases phase : c.phase with
    | listening => exact absurd phase h
    | streaming =>
      obtain ⟨-, heq⟩ | ⟨s, -, -, heq⟩ | ⟨-, -, -, heq⟩ := poll_streaming phase feed <;>
        simp [step, heq, finish]
    | _ => simp [step, poll, phase]
  | pollWatcher => exact (pollWatcher_frame c).2.2.2.1
  | answer r => cases phase : c.phase <;> simp [step, answer, phase, finish]
  | flush => cases phase : c.phase <;> simp [step, flush, phase]
  | _ => rfl

/-- An operation goes on until it gives its response. -/
theorem step_operating {request : Request} (h : c.phase = .operating request) (e : Event) :
    (c.step e).invoked = c.invoked ∧ (c.step e).taken = c.taken ∧
      match e.response? with
      | none => (c.step e).phase = .operating request ∧ (c.step e).sent = c.sent ∧
          (c.step e).closed = c.closed
      | some r => c.step e = c.finish (some r) := by
  cases e with
  | pollWatcher =>
    obtain ⟨phase, sent, closed, invoked, taken, -⟩ := pollWatcher_frame c
    exact ⟨invoked, taken, phase.trans h, sent, closed⟩
  | _ => simp [step, poll, answer, flush, h, Event.response?, finish]

section Requests

variable {after : List Arrival} {feed : Outcome Unit}

/-- What is done for a request at once. -/
theorem answered_serve (quiet : Quiet c) (offered : c.pending.toList.Sublist (offers events))
    (text : String) :
    Answered (Streaming events c.inbox (c.serve feed (.ofText text))) feed []
      (c.serve feed (.ofText text)) (Request.parse text) := by
  unfold Opening.ofText
  cases Request.parse text with
  | error fault => exact ⟨quiet.invoked, told_finish quiet.sent _⟩
  | ok request =>
    have operates (r : Request) (d : Connection)
        (hd : d = { c with phase := .operating r, invoked := c.invoked ++ [r] }) :
        d.invoked = [r] ∧ d.phase = .operating r ∧ d.outbound = [] := by
      subst hd
      exact ⟨by simp [quiet.invoked], rfl, outbound_eq_nil.mpr ⟨quiet.sent, quiet.closed⟩⟩
    cases request with
    | streamStatus ms =>
      by_cases hms : ms = 0
      · simp only [Opening.ofRequest, if_pos hms, Answered]
        exact ⟨quiet.invoked, told_finish quiet.sent _⟩
      · simp only [Opening.ofRequest, if_neg hms, Answered]
        cases feed with
        | error e =>
          refine ⟨by simp [serve, finish, quiet.invoked], told_finish quiet.sent _⟩
        | ok =>
          refine ⟨by simp [serve, quiet.invoked], ?_⟩
          exact {
            phase := .inl rfl
            reports := ⟨[], by simp [serve, underway, quiet.taken], quiet.sent⟩
            offered := by simpa [serve, quiet.taken] using offered
            closed := by simp [serve, quiet.closed]
            ending := by simp [serve]
            seen := ⟨[], rfl, fun _ => ⟨quiet.cancelled, by simp⟩⟩
            resting := by simp [serve]
            idle := by simp [serve]
            cause := by simp [serve, quiet.cancelled] }
    | _ => exact operates _ _ rfl

theorem operated_step {request : Request} (h : c.Operated request later) (e : Event) :
    (c.step e).Operated request (later ++ [e]) := by
  obtain ⟨asked, h⟩ := h
  unfold Operated
  rw [List.findSome?_append]
  cases hlater : later.findSome? Event.response? with
  | some response =>
    rw [hlater] at h
    exact ⟨(told_step h e).2.trans asked, (told_step h e).1⟩
  | none =>
    rw [hlater] at h
    obtain ⟨sent, closed⟩ := outbound_eq_nil.mp h.2
    obtain ⟨invoked, -, went⟩ := step_operating h.1 e
    refine ⟨invoked.trans asked, ?_⟩
    cases hresponse : e.response? with
    | none =>
      rw [hresponse] at went
      simpa [hresponse, outbound_eq_nil, sent, closed] using went
    | some response =>
      rw [hresponse] at went
      simpa [hresponse, went] using told_finish sent response

/-- What was done for a request stands after one more event. -/
theorem answered_step {request : Except JsonError Request}
    (h : Answered (Streaming events after c) feed later c request) (e : Event) :
    Answered (Streaming (events ++ [e]) (after ++ arrivals [e]) (c.step e)) feed (later ++ [e])
      (c.step e) request := by
  have told {asked : List Request} {r : Response} (h : c.invoked = asked ∧ c.Told r) :
      (c.step e).invoked = asked ∧ (c.step e).Told r :=
    ⟨(told_step h.2 e).2.trans h.1, (told_step h.2 e).1⟩
  cases request with
  | error fault => exact told h
  | ok request =>
    cases request with
    | streamStatus ms =>
      by_cases hms : ms = 0
      · simp only [Answered, if_pos hms] at h ⊢
        exact told h
      · simp only [Answered, if_neg hms] at h ⊢
        cases feed with
        | error e => exact told h
        | ok =>
          obtain ⟨asked, going⟩ := h
          have reading : c.phase ≠ .listening := by
            obtain live | ⟨s, sending⟩ | ended := going.phase <;> simp [*]
          exact ⟨(step_invoked reading e).trans asked, streaming_step going e⟩
    | _ => exact operated_step h e

end Requests

theorem answered_imp {going going' : Prop} (h : going → going') {feed : Outcome Unit}
    {request : Except JsonError Request} (answered : Answered going feed later c request) :
    Answered going' feed later c request := by
  cases request with
  | error fault => exact answered
  | ok request =>
    cases request with
    | streamStatus ms =>
      by_cases hms : ms = 0
      · simpa only [Answered, if_pos hms] using answered
      · simp only [Answered, if_neg hms] at answered ⊢
        cases feed with
        | error e => exact answered
        | ok => exact ⟨answered.1, h answered.2⟩
    | _ => exact answered

theorem operated_cases {request : Request} (h : c.Operated request later) :
    (∃ r, c.Told r) ∨ (∃ q, c.phase = .operating q ∧ c.outbound = []) := by
  obtain ⟨-, h⟩ := h
  cases hresponse : later.findSome? Event.response? with
  | none =>
    rw [hresponse] at h
    exact .inr ⟨request, h⟩
  | some response =>
    rw [hresponse] at h
    exact .inl ⟨response, h⟩

/-- Whatever the request, there is one response, none as yet, or a stream. -/
theorem answered_cases {going : Prop} {feed : Outcome Unit} {request : Except JsonError Request}
    (answered : Answered going feed later c request) :
    ((∃ r, c.Told r) ∨ (∃ q, c.phase = .operating q ∧ c.outbound = []) ∨ going) ∧
      (c.invoked = [] ∨ ∃ q, request = .ok q ∧ c.invoked = [q]) := by
  cases request with
  | error fault => exact ⟨.inl ⟨_, answered.2⟩, .inl answered.1⟩
  | ok request =>
    cases request with
    | streamStatus ms =>
      by_cases hms : ms = 0
      · simp only [Answered, if_pos hms] at answered
        exact ⟨.inl ⟨_, answered.2⟩, .inl answered.1⟩
      · simp only [Answered, if_neg hms] at answered
        refine ⟨?_, .inr ⟨_, rfl, answered.1⟩⟩
        cases feed with
        | error e => exact .inl ⟨_, answered.2⟩
        | ok => exact .inr (.inr answered.2)
    | _ => exact ⟨(operated_cases answered).imp id .inl, .inr ⟨_, rfl, answered.1⟩⟩

/-! ## Conversations -/

/-- The connection reads its request when it goes on after these events. -/
def ReadsAfter (before : List Event) (feed : Outcome Unit) : Prop :=
  (run {} before).phase = .listening ∧ ((run {} before).poll feed).phase ≠ .listening

/-- How far a conversation is. -/
inductive Stage (events : List Event) (c : Connection) : Prop
  | listening (phase : c.phase = .listening) (quiet : Quiet c) (idle : List Arrival)
      (silence : Idle idle) (heard : arrivals events = idle ++ c.inbox)
      (offered : c.pending.toList.Sublist (offers events))
  | left (phase : c.phase = .over) (quiet : Quiet c) (idle : List Arrival) (silence : Idle idle)
      (last : Arrival) (leaves : last.text? = none ∧ last.isDeparture = true)
      (heard : ∃ rest, arrivals events = idle ++ last :: rest)
  | served (before later : List Event) (feed : Outcome Unit) (text : String) (after : List Arrival)
      (course : events = before ++ .poll feed :: later) (reads : ReadsAfter before feed)
      (heard : request? (arrivals events) = some (text, after))
      (answered : Answered (Streaming events after c) feed later c (Request.parse text))
      (taken : c.taken = [] ∨ Streaming events after c)

/-- A connection that listens reads what has come in. -/
theorem poll_listening (phase : c.phase = .listening) (feed : Outcome Unit) :
    (c.inbox = [] ∧ c.poll feed = c) ∨
    ∃ a rest, c.inbox = a :: rest ∧
      ((∃ text, a.text? = some text ∧
          c.poll feed = { c with inbox := rest }.serve feed (.ofText text)) ∨
        (a.text? = none ∧ a.isDeparture = true ∧
          c.poll feed = { c with inbox := rest, phase := .over }) ∨
        (a.text? = none ∧ a.isDeparture = false ∧ c.poll feed = { c with inbox := rest })) := by
  unfold poll
  rw [phase]
  cases hinbox : c.inbox with
  | nil => simp
  | cons a rest =>
    cases htext : a.text? with
    | some text => simp [listen, htext]
    | none => cases hleaves : a.isDeparture <;> simp [listen, htext, hleaves]

theorem taken_serve (c : Connection) (feed : Outcome Unit) (asked : Opening) :
    (c.serve feed asked).taken = c.taken := by
  unfold serve
  split
  · rfl
  · rfl
  · cases feed <;> rfl

theorem serve_phase (c : Connection) (feed : Outcome Unit) (asked : Opening) :
    (c.serve feed asked).phase ≠ .listening := by
  unfold serve
  split
  · simp [finish]
  · simp
  · cases feed <;> simp [finish]

theorem stage_poll (hc : c = run {} events) (phase : c.phase = .listening) (quiet : Quiet c)
    {idle : List Arrival} (silence : Idle idle) (heard : arrivals events = idle ++ c.inbox)
    (offered : c.pending.toList.Sublist (offers events)) (feed : Outcome Unit) :
    Stage (events ++ [.poll feed]) (c.poll feed) := by
  have heard : arrivals (events ++ [.poll feed]) = idle ++ c.inbox := by
    rw [arrivals_append, heard]
    simp [arrivals, Event.arrival?]
  have offered : c.pending.toList.Sublist (offers (events ++ [.poll feed])) := by
    rw [offers_append]
    exact offered.trans (List.sublist_append_left _ _)
  obtain ⟨-, heq⟩ | ⟨a, rest, inbox, more⟩ := poll_listening phase feed
  · rw [heq]
    exact .listening phase quiet idle silence heard offered
  · rw [inbox] at heard
    have silent : Quiet { c with inbox := rest } :=
      ⟨quiet.sent, quiet.closed, quiet.invoked, quiet.taken, quiet.cancelled, quiet.watching⟩
    obtain ⟨text, htext, heq⟩ | ⟨htext, leaves, heq⟩ | ⟨htext, stays, heq⟩ := more
    · rw [heq]
      refine .served events [] feed text rest rfl ⟨hc ▸ phase, ?_⟩ ?_ ?_ (.inl ?_)
      · rw [← hc, heq]
        exact serve_phase _ _ _
      · rw [heard, request?_idle silence]
        simp [request?, htext]
      · exact answered_serve silent offered text
      · exact (taken_serve _ _ _).trans quiet.taken
    · rw [heq]
      exact .left rfl { silent with } idle silence a ⟨htext, leaves⟩ ⟨rest, heard⟩
    · rw [heq]
      refine .listening phase silent (idle ++ [a]) ?_ (by simpa using heard) offered
      intro b hb
      rcases List.mem_append.mp hb with hb | hb
      · exact silence b hb
      · exact List.mem_singleton.mp hb ▸ ⟨htext, stays⟩

/-- A connection that does nothing for the caller only takes in what comes. -/
theorem step_quiet (quiet : Quiet c)
    (h : c.phase = .over ∨ c.phase = .listening ∧ ∀ feed, e ≠ .poll feed) :
    Quiet (c.step e) ∧ (c.step e).phase = c.phase ∧ (c.step e).inbox = c.inbox ++ arrivals [e] ∧
      (c.step e).pending.toList.Sublist (c.pending.toList ++ offers [e]) := by
  have same (heq : c.step e = c) (hn : arrivals [e] = []) :
      Quiet (c.step e) ∧ (c.step e).phase = c.phase ∧ (c.step e).inbox = c.inbox ++ arrivals [e] ∧
        (c.step e).pending.toList.Sublist (c.pending.toList ++ offers [e]) := by
    rw [heq, hn]
    exact ⟨quiet, rfl, by simp, List.sublist_append_left _ _⟩
  cases e with
  | arrive a => exact ⟨{ quiet with }, rfl, rfl, by simp [offers, Event.offer?, step]⟩
  | poll feed =>
    obtain ended | ⟨-, poll⟩ := h
    · exact same (by simp [step, poll, ended]) rfl
    · exact absurd rfl (poll feed)
  | pollWatcher => exact same (by simp [step, pollWatcher, quiet.watching]) rfl
  | answer r =>
    refine same ?_ rfl
    obtain ended | ⟨listens, -⟩ := h <;> simp [step, answer, *]
  | offer s =>
    exact ⟨{ quiet with }, rfl, by simp [arrivals, Event.arrival?, step],
      by simp [offers, Event.offer?, step]⟩
  | flush =>
    refine same ?_ rfl
    obtain ended | ⟨listens, -⟩ := h <;> simp [step, flush, *]
  | _ =>
    exact ⟨{ quiet with }, rfl, by simp [arrivals, Event.arrival?, step],
      List.sublist_append_left _ _⟩

/-- A conversation goes on by one event. -/
theorem stage_step (hc : c = run {} events) (h : Stage events c) (e : Event) :
    Stage (events ++ [e]) (c.step e) := by
  have more : arrivals (events ++ [e]) = arrivals events ++ arrivals [e] :=
    arrivals_append events [e]
  cases h with
  | listening phase quiet idle silence heard offered =>
    by_cases he : ∃ feed, e = .poll feed
    · obtain ⟨feed, rfl⟩ := he
      exact stage_poll hc phase quiet silence heard offered feed
    · obtain ⟨quiet, same, inbox, pending⟩ :=
        step_quiet quiet (.inr ⟨phase, fun feed h => he ⟨feed, h⟩⟩)
      refine .listening (same.trans phase) quiet idle silence ?_ ?_
      · rw [more, heard, inbox, List.append_assoc]
      · rw [offers_append]
        exact pending.trans (offered.append (.refl _))
  | left phase quiet idle silence last leaves heard =>
    obtain ⟨rest, heard⟩ := heard
    obtain ⟨quiet, same, -⟩ := step_quiet (e := e) quiet (.inl phase)
    refine .left (same.trans phase) quiet idle silence last leaves ⟨rest ++ arrivals [e], ?_⟩
    rw [more, heard, List.append_assoc, List.cons_append]
  | served before later feed text after course reads heard answered taken =>
    refine .served before (later ++ [e]) feed text (after ++ arrivals [e]) (by simp [course]) reads
      (more ▸ request?_append heard _) (answered_step answered e) ?_
    obtain none_taken | going := taken
    · obtain ⟨r, ended, -⟩ | ⟨q, operating, -⟩ | going := (answered_cases answered).1
      · obtain ⟨-, -, -, -, taken⟩ := step_over ended e
        exact .inl (taken.trans none_taken)
      · exact .inl ((step_operating operating e).2.1.trans none_taken)
      · exact .inr (streaming_step going e)
    · exact .inr (streaming_step going e)

theorem stage_run (events : List Event) : Stage events (run {} events) := by
  induction events using List.reverseRecOn with
  | nil =>
    exact .listening rfl ⟨rfl, rfl, rfl, rfl, rfl, rfl⟩ [] (by simp [Idle]) rfl
      (List.nil_sublist _)
  | append_singleton events e ih =>
    rw [run_append]
    exact stage_step rfl ih e

/-! ## What one event leaves as it is -/

theorem poll_keeps (c : Connection) (feed : Outcome Unit) :
    (c.poll feed).stopping = c.stopping ∧ (c.poll feed).feedEnded = c.feedEnded ∧
      (c.stopping = true → (c.poll feed).taken = c.taken) ∧ c.sent <+: (c.poll feed).sent := by
  cases phase : c.phase with
  | listening =>
    obtain ⟨-, heq⟩ | ⟨a, rest, -, ⟨text, -, heq⟩ | ⟨-, -, heq⟩ | ⟨-, -, heq⟩⟩ :=
      poll_listening phase feed
    · simp [heq]
    · rw [heq]
      unfold serve
      split
      · simp [finish]
      · simp
      · cases feed <;> simp [finish]
    · simp [heq]
    · simp [heq]
  | streaming =>
    obtain ⟨-, heq⟩ | ⟨s, live, -, heq⟩ | ⟨-, -, -, heq⟩ := poll_streaming phase feed
    · simp [heq, finish]
    · simp [heq, live]
    · simp [heq]
  | _ => simp [poll, phase]

/-- The server shuts down at one event, the feed ends at another one, no snapshot is taken while the
server shuts down, and nothing that was sent is taken back. -/
theorem step_keeps (c : Connection) (e : Event) :
    (c.step e).stopping = (c.stopping || decide (e = .shutDown)) ∧
      (c.step e).feedEnded = (c.feedEnded || decide (e = .feedEnds)) ∧
      (c.stopping = true → (c.step e).taken = c.taken) ∧ c.sent <+: (c.step e).sent := by
  cases e with
  | poll feed => simpa [step] using poll_keeps c feed
  | pollWatcher =>
    obtain ⟨-, sent, -, -, taken, -, stopping, ended⟩ := pollWatcher_frame c
    simp [step, taken, stopping, ended, sent]
  | answer r => cases phase : c.phase <;> simp [step, answer, phase, finish]
  | flush => cases phase : c.phase <;> simp [step, flush, phase]
  | _ => simp [step]

theorem stopping_run (c : Connection) (events : List Event) :
    (c.run events).stopping = true ↔ c.stopping = true ∨ .shutDown ∈ events := by
  induction events generalizing c with
  | nil => simp [run]
  | cons e events ih =>
    have first := (step_keeps c e).1
    rw [show c.run (e :: events) = (c.step e).run events from rfl, ih, first]
    simp [or_assoc, eq_comm (a := e) (b := .shutDown)]

theorem feedEnded_run (c : Connection) (events : List Event) :
    (c.run events).feedEnded = true ↔ c.feedEnded = true ∨ .feedEnds ∈ events := by
  induction events generalizing c with
  | nil => simp [run]
  | cons e events ih =>
    have first := (step_keeps c e).2.1
    rw [show c.run (e :: events) = (c.step e).run events from rfl, ih, first]
    simp [or_assoc, eq_comm (a := e) (b := .feedEnds)]

theorem taken_run (h : c.stopping = true) (events : List Event) :
    (c.run events).taken = c.taken := by
  induction events generalizing c with
  | nil => rfl
  | cons e events ih =>
    obtain ⟨stopping, -, taken, -⟩ := step_keeps c e
    exact (ih (stopping.trans (by simp [h]))).trans (taken h)

/-! ## Coming to rest -/

/-- The connection has nothing to do for now: there is nothing to read, to take or to send. -/
structure AtRest (c : Connection) : Prop where
  poll : ∀ feed, c.poll feed = c
  pollWatcher : c.pollWatcher = c
  flush : c.flush = c

/-- The connection goes on by itself with this event, and needs nobody else for it. -/
def Event.isTurn : Event → Bool
  | poll _ => true
  | pollWatcher => true
  | flush => true
  | _ => false

/-- How much the connection may still do by itself. -/
def rank (c : Connection) : Nat :=
  2 * c.inbox.length + 2 * c.pending.toList.length +
    match c.phase with
    | .sending _ => 2
    | .streaming => 1
    | _ => 0

theorem rank_serve (c : Connection) (feed : Outcome Unit) (asked : Opening) :
    (c.serve feed asked).rank ≤ 2 * c.inbox.length + 2 * c.pending.toList.length + 1 := by
  unfold serve
  split
  · simp [rank, finish]
  · simp [rank]
  · cases feed <;> simp [rank, finish]

theorem rank_step (turn : e.isTurn = true) (h : c.step e ≠ c) : (c.step e).rank < c.rank := by
  cases e with
  | poll feed =>
    replace h : c.poll feed ≠ c := h
    show (c.poll feed).rank < c.rank
    cases phase : c.phase with
    | listening =>
      obtain ⟨-, heq⟩ | ⟨a, rest, inbox, ⟨text, -, heq⟩ | ⟨-, -, heq⟩ | ⟨-, -, heq⟩⟩ :=
        poll_listening phase feed
      · exact absurd heq h
      · have serve := rank_serve { c with inbox := rest } feed (.ofText text)
        rw [heq]
        simp only [rank, phase, inbox, List.length_cons] at serve ⊢
        omega
      · simp [heq, rank, phase, inbox]
      · simp [heq, rank, phase, inbox]
    | streaming =>
      obtain ⟨-, heq⟩ | ⟨s, -, pending, heq⟩ | ⟨-, -, -, heq⟩ := poll_streaming phase feed
      · simp [heq, finish, rank, phase]
      · simp [heq, rank, phase, pending]
      · exact absurd heq h
    | _ => simp [poll, phase] at h
  | pollWatcher =>
    replace h : c.pollWatcher ≠ c := h
    show c.pollWatcher.rank < c.rank
    obtain ⟨heq, -⟩ | ⟨-, a, rest, inbox, ⟨-, heq⟩ | ⟨-, heq⟩⟩ := pollWatcher_cases c
    · exact absurd heq h
    all_goals simp [heq, rank, inbox]
  | flush =>
    cases phase : c.phase with
    | sending s => simp [step, flush, rank, phase]
    | _ => simp [step, flush, phase] at h
  | _ => simp [Event.isTurn] at turn

/-- By its own turns a connection comes to rest. -/
theorem exists_atRest (c : Connection) :
    ∃ turns : List Event, (∀ e ∈ turns, e.isTurn = true) ∧ (c.run turns).AtRest := by
  induction hn : c.rank using Nat.strong_induction_on generalizing c with
  | _ n ih =>
    by_cases moves : ∃ e : Event, e.isTurn = true ∧ c.step e ≠ c
    · obtain ⟨e, turn, h⟩ := moves
      obtain ⟨turns, own, rest⟩ := ih _ (hn ▸ rank_step turn h) (c.step e) rfl
      exact ⟨e :: turns, List.forall_mem_cons.mpr ⟨turn, own⟩, rest⟩
    · simp only [not_exists, not_and, not_not] at moves
      exact ⟨[], by simp, fun feed => moves (.poll feed) rfl, moves .pollWatcher rfl,
        moves .flush rfl⟩

/-! ## What a caller can count on -/

/-- What a stream comes to, when these events have happened and this came in after the request. -/
structure Streamed (events : List Event) (after : List Arrival) (c : Connection) : Prop where
  -- reports and nothing else, one for each snapshot that was taken, in that order; then the close
  outbound : ∃ shown, c.taken = shown ++ c.underway ∧ c.sent = shown.map report ∧
    c.outbound = shown.map (fun s => .text (report s).frame) ++
      if c.phase = .over then [.close] else []
  offered : c.taken.Sublist (offers events)
  ending : c.phase = .over → .shutDown ∈ events ∨ .feedEnds ∈ events
  -- it goes on for as long as there is a reason to
  waiting : c.AtRest → c.phase ≠ .over →
    c.pending = none ∧ .shutDown ∉ events ∧ .feedEnds ∉ events
  -- the caller who leaves is seen to leave, also while a report is being sent
  cancels : c.pollWatcher = c → c.phase ≠ .over →
    (c.cancelled = true ↔ ∃ a ∈ after, a.isDeparture = true)
  cause : c.cancelled = true → ∃ a ∈ after, a.isDeparture = true
  -- once the server shuts down, only what is being sent then still goes out
  stops : ∀ earlier rest, events = earlier ++ rest → .shutDown ∈ earlier →
    c.sent <+: (run {} earlier).sent ++ (run {} earlier).underway.map report

/-- How a server conducts itself on a connection on which these events have happened. -/
structure Conduct (events : List Event) (c : Connection) : Prop where
  -- nothing that was sent is taken back, and nothing follows the close
  appends : ∀ more, c.outbound <+: (c.run more).outbound
  closes : c.closed = true → ∀ more, (c.run more).outbound = c.outbound
  invokes : c.invoked.length ≤ 1 ∧ ∀ request ∈ c.invoked, ∃ text after,
    request? (arrivals events) = some (text, after) ∧ Request.parse text = .ok request
  silent : request? (arrivals events) = none → c.outbound = [] ∧ c.invoked = []
  answers : ∀ text after, request? (arrivals events) = some (text, after) →
    (c.phase = .listening ∧ ¬ c.AtRest ∧ c.outbound = [] ∧ c.invoked = []) ∨
    ∃ before feed later, events = before ++ .poll feed :: later ∧ ReadsAfter before feed ∧
      Answered (Streamed events after c) feed later c (Request.parse text)
  rests : ∃ turns : List Event, (∀ e ∈ turns, e.isTurn = true) ∧ (c.run turns).AtRest
  ordered : ∀ before r rest, c.sent = before ++ r :: rest → (∃ info, .cluster info ∈ before) →
    ∀ status, r ≠ .error status

theorem told_sent {r : Response} (h : c.Told r) : c.sent.length = 1 ∧ c.closed = true := by
  have out := h.2
  cases closed : c.closed with
  | true =>
    have length := congrArg List.length out
    simp only [outbound, closed, if_true, List.length_append, List.length_map, List.length_cons,
      List.length_nil] at length
    exact ⟨by omega, rfl⟩
  | false =>
    have close : Frame.close ∈ c.outbound := by simp [out]
    simp [outbound, closed] at close

/-- A connection is closed only when it is over. -/
theorem over_of_closed (h : Stage events c) (closed : c.closed = true) : c.phase = .over := by
  cases h with
  | listening _ quiet => exact absurd closed (by simp [quiet.closed])
  | left phase => exact phase
  | served before later feed text after course reads heard answered taken =>
    obtain ⟨r, told⟩ | ⟨q, -, out⟩ | going := (answered_cases answered).1
    · exact told.1
    · exact absurd closed (by simp [(outbound_eq_nil.mp out).2])
    · exact going.closed.mp closed

theorem run_over (h : c.phase = .over) (events : List Event) :
    (c.run events).outbound = c.outbound := by
  induction events generalizing c with
  | nil => rfl
  | cons e events ih =>
    obtain ⟨phase, sent, closed, -⟩ := step_over h e
    exact (ih phase).trans (outbound_eq sent closed)

theorem outbound_step (h : Stage events c) (e : Event) : c.outbound <+: (c.step e).outbound := by
  cases closed : c.closed with
  | true =>
    obtain ⟨-, sent, same, -⟩ := step_over (over_of_closed h closed) e
    rw [outbound_eq sent same]
  | false =>
    have before : c.outbound = c.sent.map fun r => .text r.frame := by simp [outbound, closed]
    rw [before]
    exact (((step_keeps c e).2.2.2.map _)).trans (List.prefix_append _ _)

theorem outbound_run (events more : List Event) :
    (run {} events).outbound <+: (run {} (events ++ more)).outbound := by
  induction more using List.reverseRecOn with
  | nil => simp
  | append_singleton more e ih =>
    rw [← List.append_assoc, run_append {} (events ++ more)]
    exact ih.trans (outbound_step (stage_run _) e)

/-- What was taken from the feed was sent or is being sent. -/
theorem prefix_of_taken (h : Stage events c) :
    c.taken.map report <+: c.sent ++ c.underway.map report := by
  cases h with
  | listening _ quiet => simp [quiet.taken]
  | left _ quiet => simp [quiet.taken]
  | served before later feed text after course reads heard answered taken =>
    obtain none_taken | going := taken
    · simp [none_taken]
    · obtain ⟨shown, taken, sent⟩ := going.reports
      simp [taken, sent]

theorem streamed_of_streaming {after : List Arrival} (hc : c = run {} events)
    (h : Streaming events after c) : Streamed events after c := by
  obtain ⟨shown, taken, sent⟩ := h.reports
  have stopping : c.stopping = true ↔ .shutDown ∈ events := by
    rw [hc, stopping_run]
    simp
  have feedEnded : c.feedEnded = true ↔ .feedEnds ∈ events := by
    rw [hc, feedEnded_run]
    simp
  exact {
    outbound := by
      refine ⟨shown, taken, sent, ?_⟩
      simp only [outbound, h.closed, sent, List.map_map]
      rfl
    offered := (List.sublist_append_left _ _).trans h.offered
    ending := fun ended => (h.ending ended).imp stopping.mp feedEnded.mp
    waiting := by
      intro rest live
      obtain streaming | ⟨s, sending⟩ | ended := h.phase
      · obtain ⟨-, heq⟩ | ⟨s, -, -, heq⟩ | ⟨stays, more, pending, -⟩ :=
          poll_streaming streaming (.ok ())
        · have phase := congrArg Connection.phase heq
          rw [rest.poll] at phase
          exact absurd phase live
        · have phase := congrArg Connection.phase heq
          rw [rest.poll, streaming] at phase
          exact absurd phase (by simp)
        · refine ⟨pending, fun hs => ?_, fun hf => ?_⟩
          · exact absurd (stopping.mpr hs) (by simp [stays])
          · exact absurd (feedEnded.mpr hf) (by simp [more])
      · have phase := congrArg Connection.phase rest.flush
        simp [flush, sending] at phase
      · exact absurd ended live
    cancels := by
      intro rest live
      refine ⟨h.cause, fun left => ?_⟩
      obtain ⟨seen, heard, watched⟩ := h.seen
      obtain ⟨-, resting | empty⟩ | ⟨-, a, inbox, hinbox, ⟨-, heq⟩ | ⟨-, heq⟩⟩ :=
        pollWatcher_cases c
      · exact (h.idle resting).resolve_right live
      · -- the watcher has read all that came in, so it has seen the caller leave
        refine (h.idle ?_).resolve_right live
        by_contra watching
        obtain ⟨a, ha, leaves⟩ := left
        rw [heard, empty, List.append_nil] at ha
        have stays := (watched (by simpa using watching)).2 a ha
        exact absurd leaves (by simp [stays])
      all_goals
        have inbox := congrArg Connection.inbox heq
        rw [rest, hinbox] at inbox
        simp at inbox
    cause := h.cause
    stops := by
      intro earlier rest course began
      have stopped : (run {} earlier).stopping = true := (stopping_run _ _).mpr (.inr began)
      have same : c.taken = (run {} earlier).taken := by
        rw [hc, course, run_append]
        exact taken_run stopped rest
      calc c.sent
        _ <+: c.taken.map report := by simp [sent, taken]
        _ = (run {} earlier).taken.map report := by rw [same]
        _ <+: _ := prefix_of_taken (stage_run earlier) }

theorem request?_left {idle rest : List Arrival} {last : Arrival} (silence : Idle idle)
    (leaves : last.text? = none ∧ last.isDeparture = true) :
    request? (idle ++ last :: rest) = none := by
  rw [request?_idle silence]
  simp [request?, leaves]

/-- A connection that still listens although its request has come in has it to read. -/
theorem restless {idle : List Arrival} {heard : String × List Arrival}
    (phase : c.phase = .listening) (silence : Idle idle)
    (asked : request? (idle ++ c.inbox) = some heard) : ¬ c.AtRest := by
  intro rest
  rw [request?_idle silence] at asked
  obtain ⟨empty, -⟩ | ⟨a, later, inbox, ⟨text, -, heq⟩ | ⟨-, -, heq⟩ | ⟨-, -, heq⟩⟩ :=
    poll_listening phase (.ok ())
  · simp [empty, request?] at asked
  · exact serve_phase _ _ _ ((congrArg Connection.phase (heq.symm.trans (rest.poll _))).trans phase)
  all_goals
    have same := congrArg Connection.inbox (heq.symm.trans (rest.poll _))
    simp [inbox] at same

theorem outbound_grows (events more : List Event) :
    (run {} events).outbound <+: ((run {} events).run more).outbound := by
  rw [← run_append]
  exact outbound_run events more

/-- A server that has done nothing has conducted itself well if there is no request, or one that is
still to be read. -/
theorem conduct_of_quiet (quiet : Quiet (run {} events))
    (unread : ∀ heard, request? (arrivals events) = some heard →
      (run {} events).phase = .listening ∧ ¬ (run {} events).AtRest) :
    Conduct events (run {} events) := by
  have out := outbound_eq_nil.mpr ⟨quiet.sent, quiet.closed⟩
  exact {
    appends := outbound_grows events
    closes := fun closed => absurd closed (by simp [quiet.closed])
    invokes := by simp [quiet.invoked]
    silent := fun _ => ⟨out, quiet.invoked⟩
    answers := fun text after asked =>
      .inl ⟨(unread _ asked).1, (unread _ asked).2, out, quiet.invoked⟩
    rests := exists_atRest _
    ordered := by simp [quiet.sent] }

/-- No failure is told after a report. -/
theorem reports_only {events' : List Event} {after : List Arrival}
    (outcome : (∃ r, c.Told r) ∨ (∃ q, c.phase = .operating q ∧ c.outbound = []) ∨
      Streaming events' after c) {first rest : List Response} {r : Response}
    (sent : c.sent = first ++ r :: rest) (reported : ∃ info, Response.cluster info ∈ first)
    (status : Status) : r ≠ .error status := by
  rintro rfl
  obtain ⟨info, hinfo⟩ := reported
  obtain ⟨r, told⟩ | ⟨q, -, out⟩ | going := outcome
  · have one := (told_sent told).1
    rw [sent, List.length_append, List.length_cons] at one
    have none_first : first = [] := List.length_eq_zero_iff.mp (by omega)
    simp [none_first] at hinfo
  · simp [(outbound_eq_nil.mp out).1] at sent
  · obtain ⟨shown, -, reports⟩ := going.reports
    have mem : Response.error status ∈ shown.map report := by
      rw [← reports, sent]
      simp
    simp [report] at mem

/-- **What a server does on a connection.**  Whatever happens on it, in whatever order, the server
answers the first text that comes in and nothing else: with one response and the close, or with
reports and the close. -/
theorem conduct_run (events : List Event) : Conduct events (run {} events) := by
  cases stage_run events with
  | listening phase quiet idle silence heard offered =>
    exact conduct_of_quiet quiet fun _ asked => ⟨phase, restless phase silence (heard ▸ asked)⟩
  | left phase quiet idle silence last leaves heard =>
    obtain ⟨rest, heard⟩ := heard
    refine conduct_of_quiet quiet fun _ asked => ?_
    rw [heard, request?_left silence leaves] at asked
    exact absurd asked (by simp)
  | served before later feed text after course reads heard answered taken =>
    obtain ⟨outcome, invoked⟩ := answered_cases answered
    exact {
      appends := outbound_grows events
      closes := fun closed => run_over (over_of_closed (stage_run events) closed)
      invokes := by
        obtain none_invoked | ⟨q, parsed, one⟩ := invoked
        · simp [none_invoked]
        · simp [one, heard, parsed]
      silent := fun silent => by simp [silent] at heard
      answers := fun text' after' asked => by
        obtain ⟨rfl, rfl⟩ := Prod.mk.inj (Option.some.inj (heard.symm.trans asked))
        exact .inr ⟨before, feed, later, course, reads,
          answered_imp (streamed_of_streaming rfl) answered⟩
      rests := exists_atRest _
      ordered := fun _ _ _ sent reported => reports_only outcome sent reported }

end Connection
end ClusterControl
