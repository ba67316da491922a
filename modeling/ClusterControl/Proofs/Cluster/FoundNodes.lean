import ClusterControl.Proofs.Cluster.KnownNodes

/-!
# Changes of nodes find their node

A call that removes a node or launches it anew is told that there is no such node if the registry
does not list it, or if the launcher does not find it.  This module proves that with a launcher that
is honest about what it knows neither happens to a node that the registry lists, as long as no change
of it was cut short before.

* `CallPhase.Unmissed` — a call has not failed to find its node.
* `honest` — the launcher says that it does not find a node only if it does not know it.
* `unmissed_move` — a call that finds its node at a known stage goes on finding it.
* `no_node_left_behind` — in a healthy cluster in which no node is being changed, every node is ready
  and known, and its next change finds it, unless a change of it was cut short.
* `left_behind_pair` — a caller goes away while a node is being launched anew, and leaves behind a
  node that the registry lists and the launcher does not know.
-/

namespace ClusterControl

/-- The launcher says that it does not find a node. -/
def misses {α : Type} : Pending α → Bool
  | some (.error (.failed (.notFound _))) => true
  | _ => false

/-- A call in this phase has not failed to find its node, and will not on account of anything that it
has heard. -/
def CallPhase.Unmissed : CallPhase → Prop
  | .removing _ reply => misses reply = false
  | .replacing _ _ reply => misses reply = false
  | .adding _ _ reply => misses reply = false
  | .awaitingNode _ _ reply => misses reply = false
  | .awaitingAll _ _ reply => misses reply = false
  | .cleaning _ cause _ => ∀ missing, cause ≠ .notFound missing
  | .returned result => ∀ missing, result ≠ .error (.notFound missing)
  | .crashed => True
  | _ => False

/-- The node that the launcher has to know in order to run an errand. -/
def Errand.needs? : Errand → Option String
  | .remove name => some name
  | .waitNode name => some name
  | _ => none

namespace Cluster

variable {c d : Cluster} {n : Nat} {name : String} {planned : List NodeConfig}

/-- If the launcher says in this event that it does not find a node, then it does not know the one
that it was asked about. -/
def honest (c : Cluster) : Event → Bool
  | .answer w (.mishap (.failed (.notFound _))) =>
    (c.errand? w).all fun errand => errand.needs?.any fun name => !c.journal.knows name
  | _ => true

theorem not_notFound_of_judge {α : Type} {deadline : Nat} {reply : Pending α} {e : Failure}
    (h : c.judge deadline reply = .failed e) (hreply : misses reply = false) (missing : String) :
    e ≠ .notFound missing := by
  rintro rfl
  rcases failed_of_judge h with ⟨-, heq⟩ | ⟨-, -, heq⟩ | ⟨-, -, heq⟩
  · simp at heq
  · simp at heq
  · simp [misses, heq] at hreply

theorem not_notFound_of_endpoint {report : NodeReport} {e : Failure}
    (h : report.endpoint = .error e) (missing : String) : e ≠ .notFound missing := by
  rintro rfl
  unfold NodeReport.endpoint at h
  split at h <;> simp at h

/-- A restart fails for a reason that it was told, or for one of its own. -/
theorem Setback.unmissed {own : String} {cause : Failure} (h : Setback c n own cause)
    {phase : CallPhase} (hphase : c.callers.get? n = some phase) (hu : phase.Unmissed)
    (missing : String) : cause ≠ .notFound missing := by
  cases h with
  | addFails h =>
    obtain rfl := Option.some.inj (h.symm.trans hphase)
    rintro rfl
    simp [CallPhase.Unmissed, misses] at hu
  | givesUp h hj => exact not_notFound_of_judge hj rfl missing
  | nodeFails h hj =>
    obtain rfl := Option.some.inj (h.symm.trans hphase)
    exact not_notFound_of_judge hj hu missing
  | allFail h hj =>
    obtain rfl := Option.some.inj (h.symm.trans hphase)
    exact not_notFound_of_judge hj hu missing
  | missing h hj hr => simp [Failure.missingNode]
  | nodeIncomplete h hj he => exact not_notFound_of_endpoint he missing
  | allIncomplete h hj hr he => exact not_notFound_of_endpoint he missing

/-- A call under way does not fail to find its node unless it is told so. -/
theorem unmissed_caller {phase : CallPhase} (h : CallerMove c n d)
    (hphase : c.callers.get? n = some phase) (hu : phase.Unmissed) :
    ∃ after, d.callers.get? n = some after ∧ after.Unmissed := by
  have here {before : CallPhase} (hbefore : c.callers.get? n = some before) : before.Unmissed := by
    rw [Option.some.inj (hbefore.symm.trans hphase)]
    exact hu
  -- A call that has just got the lock was not under way before.
  have pending {x : Cluster} {m : Mutation} (ha : Admitted c n m x) : False := by
    cases ha with
    | atOnce h hl => exact here h
    | inTurn h hl => exact here h
  cases h with
  | denied h ht => exact (here h).elim
  | signsUp h ht => exact (here h).elim
  | readsFailure h hd hr => exact (here h).elim
  | readsSuccess h hd hr => exact (here h).elim
  | claimsStop h => exact (here h).elim
  | readsStop h ho => exact (here h).elim
  | queues h hl => exact (here h).elim
  | refused ha he => exact (pending ha).elim
  | unconfigured ha he hc => exact (pending ha).elim
  | removes ha he => exact (pending ha).elim
  | replaces ha he hc => exact (pending ha).elim
  | removed h => exact ⟨_, Roster.get?_set_self .., by simp [CallPhase.Unmissed]⟩
  | removeFails h =>
    have heard := here h
    refine ⟨_, Roster.get?_set_self .., fun missing heq => ?_⟩
    simp [CallPhase.Unmissed, misses, Except.error.inj heq] at heard
  | replaceFails h =>
    have heard := here h
    refine ⟨_, Roster.get?_set_self .., fun missing heq => ?_⟩
    simp [CallPhase.Unmissed, misses, Except.error.inj heq] at heard
  | stopped h hs => exact ⟨_, Roster.get?_set_self .., by simp [CallPhase.Unmissed]⟩
  | adds h hs => exact ⟨_, Roster.get?_set_self .., rfl⟩
  | awaitsNode h hj hp => exact ⟨_, Roster.get?_set_self .., rfl⟩
  | awaitsAll h hj hp => exact ⟨_, Roster.get?_set_self .., rfl⟩
  | cleans hset => exact ⟨_, Roster.get?_set_self .., hset.unmissed hphase hu⟩
  | recovers hrec => exact ⟨_, Roster.get?_set_self .., by simp [CallPhase.Unmissed]⟩
  | cleaned h hr =>
    have heard := here h
    refine ⟨_, Roster.get?_set_self .., fun missing heq => ?_⟩
    exact heard missing (Except.error.inj heq)
  | breaks hbreak => exact ⟨_, Roster.get?_set_self .., trivial⟩

/-- A reply that misses nothing is not understood as one that does. -/
theorem misses_of_ne {reply : Reply}
    (h : ∀ missing, reply ≠ .mishap (.failed (.notFound missing))) :
    misses reply.toDone = false ∧ misses reply.toNode = false ∧ misses reply.toNodes = false := by
  cases reply with
  | mishap why =>
    cases why with
    | crashed => exact ⟨rfl, rfl, rfl⟩
    | failed e =>
      cases e with
      | notFound missing => exact absurd rfl (h missing)
      | _ => exact ⟨rfl, rfl, rfl⟩
  | _ => exact ⟨rfl, rfl, rfl⟩

/-- An honest launcher finds the node that a call is changing, as long as it is at a known stage. -/
theorem unmissed_take {phase : CallPhase} {errand : Errand} {reply : Reply}
    (hphase : c.callers.get? n = some phase) (he : phase.errand? = some errand)
    (honestly : honest c (.answer (.caller n) reply) = true)
    (hc : phase.charge? = some name) (stage : Stage name c phase) (hu : phase.Unmissed) :
    (phase.take reply).Unmissed := by
  have asked : c.errand? (.caller n) = some errand := by
    rw [errand?_caller, hphase]
    exact he
  -- What the launcher needs to know for this errand it knows, so it does not miss anything.
  have told (hneeds : ∀ own, errand.needs? = some own → c.journal.knows own = true) :
      misses reply.toDone = false ∧ misses reply.toNode = false ∧
        misses reply.toNodes = false := by
    refine misses_of_ne fun missing heq => ?_
    subst heq
    simp only [honest, asked, Option.all_some] at honestly
    cases hneed : errand.needs? with
    | none => simp [hneed] at honestly
    | some own => simp [hneed, hneeds own hneed] at honestly
  unfold CallPhase.errand? at he
  split at he
  · obtain rfl := Option.some.inj he
    obtain rfl := Option.some.inj hc
    have known : c.journal.knows _ = true := Intact.known stage
    exact (told fun other hother => Option.some.inj hother ▸ known).1
  · obtain rfl := Option.some.inj he
    obtain rfl := Option.some.inj hc
    have known : c.journal.knows _ = true := Intact.known stage
    exact (told fun other hother => Option.some.inj hother ▸ known).1
  · obtain rfl := Option.some.inj he
    exact (told (by simp [Errand.needs?])).1
  · obtain rfl := Option.some.inj he
    obtain rfl := Option.some.inj hc
    exact (told fun other hother => Option.some.inj hother ▸ stage.1).2.1
  · obtain rfl := Option.some.inj he
    exact (told (by simp [Errand.needs?])).2.2
  · exact hu
  · simp at he

/-! ## Whole runs -/

/-- A call that changes this node is under way or over, and has not failed to find it. -/
def Finding (n : Nat) (m : Mutation) (c : Cluster) : Prop :=
  ∃ phase, c.callers.get? n = some phase ∧ phase.Suits (.mutate m) ∧ phase.Unmissed

/-- In this event the caller stays, no change of the node is cut short, and the launcher is honest. -/
def undisturbed (n : Nat) (name : String) (c : Cluster) (e : Event) : Bool :=
  e != .leave n && spares name c e && honest c e

theorem finding_move {e : Event} {m : Mutation} (h : Move c e d)
    (ht : undisturbed n m.name c e = true)
    (inv : Watched planned m.name c ∧ Finding n m c) :
    Watched planned m.name d ∧ Finding n m d := by
  simp only [undisturbed, Bool.and_eq_true, bne_iff_ne, ne_eq] at ht
  obtain ⟨⟨stays, hspares⟩, honestly⟩ := ht
  obtain ⟨watched, phase, hphase, suits, unmissed⟩ := inv
  refine ⟨watched_move h hspares watched, ?_⟩
  rcases h.phase_cases hphase stays with hsame | ⟨-, hown⟩ | ⟨errand, reply, he, -, rfl, htaken⟩
  · exact ⟨phase, hsame, suits, unmissed⟩
  · obtain ⟨after, hafter, still⟩ := hown.suits hphase suits
    obtain ⟨after', hafter', found⟩ := unmissed_caller hown hphase unmissed
    obtain rfl := Option.some.inj (hafter.symm.trans hafter')
    exact ⟨after, hafter, still, found⟩
  · obtain ⟨name, hc⟩ := Option.isSome_iff_exists.mp (CallPhase.charge?_isSome_of_errand? he)
    obtain ⟨m', heq, hname⟩ := suits.mutation hc
    obtain rfl := ClusterCall.mutate.inj heq
    rw [← hname] at hc
    have stage := watched.minded.changing n phase hphase hc
    exact ⟨phase.take reply, htaken, suits.proceed hc (by rw [CallPhase.charge?_take, hc]),
      unmissed_take hphase he honestly hc stage unmissed⟩

/-- A change of a node that is listed begins at once if the cluster is healthy and nobody is in line
for the lock. -/
theorem finding_of_call (watched : Watched planned name c) (lined : Lined c)
    (healthy : c.registry.state = .healthy) (free : c.callers.get? n = none)
    (idle : ∀ k phase, c.callers.get? k = some phase → phase.contends = false) {m : Mutation}
    (hname : m.name ∈ c.registry.names) :
    Finding n m ((c.step (.call n (.mutate m))).step (.poll (.caller n))) := by
  have unstopped : c.stopper.prior? = none := by
    by_contra hprior
    obtain ⟨prior, hprior⟩ := Option.ne_none_iff_exists'.mp hprior
    have stopping := watched.stopping_of_prior hprior
    simp [healthy] at stopping
  have nobody (w : Worker) : c.contends w = false := by
    cases w with
    | starter => rfl
    | keeper => rfl
    | stopper => simp [Cluster.contends, unstopped]
    | caller k =>
      cases hk : c.callers.get? k with
      | none => simp [Cluster.contends, hk]
      | some phase => rw [contends_caller hk, idle k phase hk]
  have unlocked := lined.free_of_idle nobody
  have listed : c.registry.records.contains m.name = true :=
    (Table.contains_iff_mem_names _ _).mpr ((watched.sound.records_names m.name).mpr hname)
  have handed : c.handle = true := watched.healthy_handle healthy
  obtain ⟨previous, hprevious⟩ : ∃ previous, c.registry.configs.get? m.name = some previous :=
    Option.isSome_iff_exists.mp ((Table.contains_iff_mem_names c.registry.configs m.name).mpr
      ((watched.sound.configs_names m.name).mpr hname))
  -- Nobody is in line for the lock, so the call has it at once.
  have begun : (c.step (.call n (.mutate m))).step (.poll (.caller n)) =
      ({ c.setCall n (.fresh (.mutate m)) with
        lock := c.lock.request (.caller n) } : Cluster).beginMutation n m := by
    simp [step, Cluster.call, free, poll, pollCaller, setCall, beginCall, FairLock.request, unlocked,
      FairLock.isHeldBy]
  have accepted : ({ c.setCall n (.fresh (.mutate m)) with
      lock := c.lock.request (.caller n) } : Cluster).refusal? m.name = none := by
    simp [refusal?, setCall, listed, healthy, handed]
  rw [begun]
  unfold beginMutation
  simp only [accepted]
  cases m with
  | remove own => exact ⟨_, Roster.get?_set_self .., .changing rfl, rfl⟩
  | restart own params =>
    have configured : ({ c.setCall n (.fresh (.mutate (.restart own params))) with
        lock := c.lock.request (.caller n) } : Cluster).registry.configs.get? own =
          some previous := hprevious
    simp only [configured]
    exact ⟨_, Roster.get?_set_self .., .changing rfl, rfl⟩

/-- In every run of a planned cluster in which no change of a node that is still listed was cut
short, whenever the cluster is healthy and no call is changing a node or waits to do so, every node
is ready, as the snapshot says, and the launcher knows every node that is listed.  The next change of
such a node is then not told that there is no such node, as long as it is not cut short either and
the launcher is honest. -/
theorem no_node_left_behind {options : ClusterOptions} {params : StartParams} {pid : UInt32}
    {obstacle : Option IoError} (h : plan options params pid obstacle = .ok c)
    {events : List Event} (healthy : (c.run events).registry.state = .healthy)
    (idle : ∀ k phase, (c.run events).callers.get? k = some phase → phase.contends = false)
    (whole : ∀ name ∈ (c.run events).registry.names, c.throughout (spares name) events = true) :
    (c.run events).snapshot.healthy = true ∧
    (∀ name ∈ (c.run events).registry.names, (c.run events).journal.knows name = true) ∧
    ∀ n m later missing, (c.run events).callers.get? n = none →
      m.name ∈ (c.run events).registry.names →
      (c.run events).throughout (undisturbed n m.name)
        (.call n (.mutate m) :: .poll (.caller n) :: later) = true →
      ((c.run events).run (.call n (.mutate m) :: .poll (.caller n) :: later)).result? n ≠
        some (.error (.notFound missing)) := by
  obtain ⟨planned, -, kept⟩ := kept_of_plan h
  have order := orderly_of_plan h
  have watched (name : String) (hname : name ∈ (c.run events).registry.names) :
      Watched planned name (c.run events) :=
    watched_run (watched_of_plan h kept name) (whole name hname)
  have uncharged (k : Nat) (phase : CallPhase) (hphase : (c.run events).callers.get? k = some phase) :
      phase.charge? = none := by
    by_contra hc
    have contends := CallPhase.contends_of_charge? (Option.isSome_iff_ne_none.mpr hc)
    simp [idle k phase hphase] at contends
  have intact (name : String) (hname : name ∈ (c.run events).registry.names) :
      Intact name (c.run events) := (watched name hname).intact healthy hname uncharged
  refine ⟨snapshot_healthy (kept_run order kept events) healthy intact,
    fun name hname => (intact name hname).known,
    fun n m later missing free hname fairly hresult => ?_⟩
  have lined := lined_run order.toCustody (lined_of_plan h) events
  have found := finding_of_call (watched m.name hname) lined healthy free idle hname
  have begun : Watched planned m.name
      ((c.run events).run [.call n (.mutate m), .poll (.caller n)]) :=
    watched_run (watched m.name hname) (by simp [throughout, spares, cutShort?])
  simp only [throughout, Bool.and_eq_true] at fairly
  obtain ⟨-, -, fairly⟩ := fairly
  obtain ⟨-, phase, hphase, -, unmissed⟩ := run_preserves_tested
    (P := fun d => Watched planned m.name d ∧ Finding n m d)
    (fun _ _ => by simp [undisturbed, spares, cutShort?, honest]) finding_move fairly ⟨begun, found⟩
  rw [run_cons, run_cons, result?, hphase] at hresult
  split at hresult
  · next result heq =>
    rw [Option.some.inj heq] at unmissed
    exact unmissed missing (Option.some.inj hresult)
  · simp at hresult

/-- The first node of the small cluster is launched anew, and removed after that. -/
theorem pair_node_found :
    let events := pairHealthy ++ [.call 1 (.mutate (.restart "node1" {})), .poll (.caller 1),
      .answer (.caller 1) .done, .poll (.caller 1), .answer (.caller 1) .done, .poll (.caller 1),
      .answer (.caller 1) (.node ⟨"node1", "http://3", "C"⟩), .poll (.caller 1), .leave 1]
    let removal : List Event := [.call 2 (.mutate (.remove "node1")), .poll (.caller 2),
      .answer (.caller 2) .done, .poll (.caller 2)]
    (pair.run events).snapshot.healthy = true ∧
      (pair.run events).journal.knows "node1" = true ∧
      ∀ missing, ((pair.run events).run removal).result? 2 ≠ some (.error (.notFound missing)) := by
  intro events removal
  have nobody : (pair.run events).callers = {} := by decide
  have idle (k : Nat) (phase : CallPhase) (hphase : (pair.run events).callers.get? k = some phase) :
      phase.contends = false := by
    rw [nobody] at hphase
    simp [Roster.get?] at hphase
  have names : (pair.run events).registry.names = ["node1", "node2"] := by decide
  have whole : ∀ name ∈ (pair.run events).registry.names,
      pair.throughout (spares name) events = true := by
    rw [names]
    decide
  obtain ⟨healthy, known, finds⟩ := no_node_left_behind plan_pair (by decide) idle whole
  refine ⟨healthy, known "node1" (by rw [names]; decide), fun missing => ?_⟩
  have free : (pair.run events).callers.get? 2 = none := by rw [nobody]; rfl
  exact finds 2 (.remove "node1") _ missing free (by rw [names]; decide) (by decide)

/-- The first node of the small cluster is launched anew, and the caller goes away before the launcher
is done.  The cluster stays healthy and nobody is changing a node any more, but this one is not
ready, the launcher does not know it, and the next call that removes it is told, by an honest
launcher, that there is no such node. -/
theorem left_behind_pair :
    ∃ events removal, (pair.run events).registry.state = .healthy ∧
      (pair.run events).callers = {} ∧ "node1" ∈ (pair.run events).registry.names ∧
      (pair.run events).snapshot.healthy = false ∧
      (pair.run events).journal.knows "node1" = false ∧
      (pair.run events).throughout (undisturbed 2 "node1") removal = true ∧
      ((pair.run events).run removal).result? 2 = some (.error (.notFound "node1")) := by
  refine ⟨pairHealthy ++ [.call 1 (.mutate (.restart "node1" {})), .poll (.caller 1),
    .answer (.caller 1) .done, .poll (.caller 1), .leave 1],
    [.call 2 (.mutate (.remove "node1")), .poll (.caller 2),
      .answer (.caller 2) (.mishap (.failed (.notFound "node1"))), .poll (.caller 2)], ?_⟩
  decide

end Cluster
end ClusterControl
