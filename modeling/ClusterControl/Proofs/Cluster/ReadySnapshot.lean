import ClusterControl.Proofs.Cluster.RegistrySound
import ClusterControl.Proofs.Cluster.StartFailure

/-!
# What a start that came out well reports

The outcome of a start travels to the call that waits for it in two pieces: that the launch is over,
and the failure if there was one.  When there was none, the call takes a snapshot of the cluster at
the moment when it goes on.  This module proves that the snapshot is that of a healthy and complete
cluster if the cluster is still as the launch has left it.

* `Snapshot.Complete` — a healthy cluster with all its nodes, each of which says where and who it is.
* `AsLaunched` — no stop has taken effect, and no node was removed in order to be changed.
* `Whole`, `whole_move` — a cluster from which no node was removed has all its planned nodes.
* `Expecting`, `expecting_move` — a failure of the launch stays until the call reads it that waits.
* `Reports` — what a cluster reports when its start is said to have come out well.
* `Hopeful`, `Hopeful.reports` — a call is told so only by a cluster that reports it.
* `reports_of_run` — so it is for every call of a run that waits for the start.
-/

namespace ClusterControl

/-- A snapshot of a healthy cluster that has just these nodes, each with a URI and an identifier. -/
structure Snapshot.Complete (names : List String) (s : Snapshot) : Prop where
  state : s.state = .healthy
  healthy : s.healthy = true
  names_eq : s.names = names
  ready : ∀ name ∈ s.names, ∃ record, s.record? name = some record ∧ record.uri ≠ "" ∧
    record.id ≠ ""

/-- As far as a call knows, the launcher has removed no node for it. -/
def CallPhase.isEarly : CallPhase → Bool
  | removing _ (some (.ok ())) => false
  | removing _ _ => true
  | replacing _ _ (some (.ok ())) => false
  | replacing _ _ _ => true
  | phase => !phase.charge?.isSome

/-- The launcher has removed a node that a call changes. -/
def JournalEntry.isRemoval : JournalEntry → Bool
  | .answered (.caller _) (.remove _) .done => true
  | _ => false

/-- The launcher has removed nodes that calls change. -/
def Journal.removed (j : Journal) : Bool :=
  j.any JournalEntry.isRemoval

/-- A call that has an answer other than that its node is removed is as early as before. -/
theorem CallPhase.isEarly_take {phase : CallPhase} {errand : Errand} {reply : Reply} {n : Nat}
    (he : phase.errand? = some errand) (ha : reply.answers errand = true)
    (hentry : JournalEntry.isRemoval (.answered (.caller n) errand reply) = false)
    (h : phase.isEarly = true) : (phase.take reply).isEarly = true := by
  unfold errand? at he
  split at he
  · obtain rfl := Option.some.inj he
    cases reply <;> simp_all [take, Reply.toDone, Reply.answers, isEarly, JournalEntry.isRemoval]
  · obtain rfl := Option.some.inj he
    cases reply <;> simp_all [take, Reply.toDone, Reply.answers, isEarly, JournalEntry.isRemoval]
  · simp [isEarly, charge?] at h
  · simp [isEarly, charge?] at h
  · simp [isEarly, charge?] at h
  · simp [isEarly, charge?] at h
  · simp at he

namespace Cluster

variable {c d : Cluster} {n : Nat} {e : Event} {planned : List NodeConfig}

/-- No stop has taken effect, and the launcher has removed no node that a call changes. -/
def AsLaunched (c : Cluster) : Prop :=
  c.stopSignal = false ∧ c.journal.removed = false

instance (c : Cluster) : Decidable c.AsLaunched :=
  inferInstanceAs (Decidable (_ ∧ _))

/-- All planned nodes are there, and all of them are ready once the cluster is healthy. -/
structure Whole (planned : List NodeConfig) (c : Cluster) : Prop where
  names : c.registry.names = planned.map NodeConfig.name
  ready : c.registry.state = .healthy → ∀ name record,
    (name, record) ∈ c.registry.records.entries → record.isReady = true
  early : ∀ n phase, c.callers.get? n = some phase → phase.isEarly = true

theorem removed_of_move (h : Move c e d) (hd : d.journal.removed = false) :
    c.journal.removed = false := by
  unfold Journal.removed at hd ⊢
  rw [List.any_eq_false] at hd ⊢
  exact fun entry hentry => hd entry (journal_move h hentry)

namespace Whole

/-- A move that leaves the nodes alone. -/
theorem of_advance (inv : Whole planned c) (next : Lifecycle) (hnext : next ≠ .healthy)
    (hcallers : d.callers = c.callers) (hregistry : d.registry = c.registry.advance next) :
    Whole planned d where
  names := by rw [hregistry]; exact inv.names
  ready hstate := by
    rw [hregistry] at hstate ⊢
    refine inv.ready ?_
    have hstate' : c.registry.state.advance next = .healthy := hstate
    unfold Lifecycle.advance at hstate'
    split at hstate'
    · exact absurd hstate' hnext
    · exact hstate'
  early := by rw [hcallers]; exact inv.early

theorem of_eq (inv : Whole planned c) (hcallers : d.callers = c.callers)
    (hregistry : d.registry = c.registry) : Whole planned d where
  names := by rw [hregistry]; exact inv.names
  ready := by rw [hregistry]; exact inv.ready
  early := by rw [hcallers]; exact inv.early

/-- A call passes on to an early phase without changing the nodes. -/
theorem setCall (inv : Whole planned c) (phase : CallPhase) (hphase : phase.isEarly = true)
    (hcallers : d.callers = c.callers.set n phase) (hregistry : d.registry = c.registry) :
    Whole planned d where
  names := by rw [hregistry]; exact inv.names
  ready := by rw [hregistry]; exact inv.ready
  early m p hm := by
    rw [hcallers, Roster.get?_set] at hm
    split at hm
    · obtain rfl := Option.some.inj hm
      exact hphase
    · exact inv.early m p hm

end Whole

theorem whole_starter (inv : Whole planned c) (h : StarterMove c d) : Whole planned d := by
  cases h with
  | asks h => exact inv.of_eq rfl rfl
  | waits h hj => exact inv.of_eq rfl rfl
  | launchCrashes h => exact inv.of_eq rfl rfl
  | waitCrashes h hj => exact inv.of_eq rfl rfl
  | givesUp h hj => exact inv.of_advance .failed (by simp) rfl rfl
  | launchFails h => exact inv.of_advance .failed (by simp) rfl rfl
  | waitFails h hj => exact inv.of_advance .failed (by simp) rfl rfl
  | rejects h hj hp => exact inv.of_advance .failed (by simp) rfl rfl
  | publishes h hj hp =>
    obtain ⟨records, hrecords, -, rfl⟩ := publish_eq_ok hp
    refine ⟨inv.names, fun _ name record hmem => ?_, inv.early⟩
    obtain ⟨e, heq, -⟩ := (Registry.readyRecords_eq_ok hrecords).2 _ (Table.mem_of_mem_ofList hmem)
    have ready : record = .ready name e := heq
    rw [ready]
    rfl

theorem whole_stopper (inv : Whole planned c) (h : StopperMove c d) : Whole planned d := by
  cases h with
  | begins h ha => exact inv.of_advance .stopping (by simp) rfl rfl
  | ends hends => exact inv.of_advance .stopped (by simp) rfl rfl
  | _ => exact inv.of_eq rfl rfl

theorem whole_caller (inv : Whole planned c) (h : CallerMove c n d) : Whole planned d := by
  -- No call has come to where a node is removed, let alone launched anew.
  have late {phase : CallPhase} (hphase : c.callers.get? n = some phase)
      (hlate : phase.isEarly = false) : Whole planned d := by
    simp [inv.early n phase hphase] at hlate
  cases h with
  | refused ha he => rw [ha.eq]; exact inv.setCall (.returned _) rfl rfl rfl
  | unconfigured ha he hc => rw [ha.eq]; exact inv.setCall (.returned _) rfl rfl rfl
  | removes ha he => rw [ha.eq]; exact inv.setCall (.removing _ none) rfl rfl rfl
  | replaces ha he hc =>
    rw [ha.eq]
    exact inv.setCall (.replacing _ _ none) rfl rfl rfl
  | removed h => exact late h rfl
  | stopped h hs => exact late h rfl
  | adds h hs => exact late h rfl
  | awaitsNode h hj hp => exact late h rfl
  | awaitsAll h hj hp => exact late h rfl
  | cleans hset => cases hset <;> exact late (by assumption) rfl
  | recovers hrec => cases hrec <;> exact late (by assumption) rfl
  | cleaned h hr => exact late h rfl
  | _ => exact inv.setCall _ rfl rfl rfl

/-- As long as the launcher removes no node that a call changes, all planned nodes are there. -/
theorem whole_move (h : Move c e d) (hd : d.journal.removed = false) (inv : Whole planned c) :
    Whole planned d := by
  cases h with
  | starts h => exact inv.of_advance .launching (by simp) rfl rfl
  | arrives h => exact inv.setCall (.fresh _) rfl rfl rfl
  | leaves n =>
    refine ⟨inv.names, inv.ready, fun m phase hm => ?_⟩
    simp only [leave, Roster.get?_erase] at hm
    split at hm
    · simp at hm
    · exact inv.early m phase hm
  | callerAnswered h he ha =>
    have fine := (List.any_eq_false.mp hd) _ List.mem_cons_self
    exact inv.setCall _
      (CallPhase.isEarly_take he ha (by simpa using fine) (inv.early _ _ h)) rfl rfl
  | starter h => exact whole_starter inv h
  | stopper h => exact whole_stopper inv h
  | caller h => exact whole_caller inv h
  | _ => exact inv.of_eq rfl rfl

/-! ## Failures that nobody has read -/

/-- A call that begins to wait for the start does so when it goes on. -/
theorem poll_of_awaitingReady (h : Move c e d) (hd : d.callers.get? n = some .awaitingReady)
    (hc : c.callers.get? n ≠ some .awaitingReady) : e = .poll (.caller n) := by
  have stays : e ≠ .leave n := by
    rintro rfl
    cases h with
    | leaves => simp [leave] at hd
  cases hphase : c.callers.get? n with
  | none =>
    by_cases hcall : ∃ call, e = .call n call
    · obtain ⟨call, rfl⟩ := hcall
      cases h with
      | arrives => simp [setCall] at hd
    · simp [(h.stays_free hphase fun call heq => hcall ⟨call, heq⟩).1] at hd
  | some phase =>
    rcases h.phase_cases hphase stays with hsame | ⟨rfl, -⟩ | ⟨errand, reply, herrand, -, -, htaken⟩
    · exact absurd (hphase.trans (hsame.symm.trans hd)) hc
    · rfl
    · have charged := CallPhase.charge?_isSome_of_errand? herrand
      rw [← CallPhase.charge?_take reply, Option.some.inj (htaken.symm.trans hd)] at charged
      simp [CallPhase.charge?] at charged

/-- A failure that is left goes away only when a call that waits for the start reads it. -/
theorem report_of_move (h : Move c e d) (hc : c.report.isSome = true) :
    d.report.isSome = true ∨ ∃ m result, c.callers.get? m = some .awaitingReady ∧
      d.callers = c.callers.set m (.returned result) ∧ d.reportTaken = c.reportTaken := by
  cases h with
  | starter h => cases h <;> first | exact .inl hc | exact .inl rfl
  | stopper h => cases h <;> first | exact .inl hc | exact .inl rfl
  | @caller m d h =>
    by_cases hm : c.callers.get? m = some .awaitingReady
    · obtain ⟨-, taken, ⟨f, -, hcallers⟩ | ⟨-, hcallers⟩⟩ := h.of_awaitingReady hm
      · exact .inr ⟨m, _, hm, hcallers, taken⟩
      · exact .inr ⟨m, _, hm, hcallers, taken⟩
    · rcases h.of_not_awaitingReady hm with ⟨-, -, rfl⟩ | ⟨phase, -, -, hreport, -⟩
      · exact .inl hc
      · exact .inl (hreport ▸ hc)
  | _ => exact .inl hc

/-- One call at most waits for the start, and a failure of the launch is left for it. -/
structure Expecting (c : Cluster) : Prop where
  unread : Unread c
  sole : ∀ m k, c.callers.get? m = some .awaitingReady →
    c.callers.get? k = some .awaitingReady → m = k
  left : c.registry.state = .failed →
    (c.reportTaken = false ∨ ∃ m, c.callers.get? m = some .awaitingReady) → c.report.isSome = true

theorem expecting_move (h : Move c e d) (coherent : Coherent c) (inv : Expecting c) :
    Expecting d where
  unread := unread_move h inv.unread
  sole m k hm hk := by
    by_cases hcm : c.callers.get? m = some .awaitingReady
    · by_cases hck : c.callers.get? k = some .awaitingReady
      · exact inv.sole m k hcm hck
      · obtain ⟨untaken, -⟩ := (awaitingReady_of_move h hk).resolve_left hck
        exact absurd hcm (inv.unread untaken m)
    · by_cases hck : c.callers.get? k = some .awaitingReady
      · obtain ⟨untaken, -⟩ := (awaitingReady_of_move h hm).resolve_left hcm
        exact absurd hck (inv.unread untaken k)
      · have goesOn := poll_of_awaitingReady h hm hcm
        rw [poll_of_awaitingReady h hk hck] at goesOn
        simpa using goesOn.symm
  left hd who := by
    rcases failed_of_move h coherent hd with hc | ⟨-, hreport⟩
    · have before : c.reportTaken = false ∨ ∃ m, c.callers.get? m = some .awaitingReady := by
        rcases who with untaken | ⟨m, hm⟩
        · exact .inl (reportTaken_of_move h untaken)
        · rcases awaitingReady_of_move h hm with waits | ⟨untaken, -⟩
          · exact .inr ⟨m, waits⟩
          · exact .inl untaken
      rcases report_of_move h (inv.left hc before) with hsome | ⟨m, result, hm, hcallers, taken⟩
      · exact hsome
      · -- The one call that waits has read the failure, so nobody waits any more.
        rcases who with untaken | ⟨k, hk⟩
        · exact absurd hm (inv.unread (taken ▸ untaken) m)
        · rw [hcallers, Roster.get?_set] at hk
          split at hk
          · simp at hk
          · next hne => exact absurd (inv.sole k m hk hm) hne
    · exact hreport

theorem expecting_of_plan {options : ClusterOptions} {params : StartParams} {pid : UInt32}
    {obstacle : Option IoError} (h : plan options params pid obstacle = .ok c) : Expecting c := by
  obtain ⟨configs, -, rfl⟩ := plan_eq_ok h
  constructor <;> simp [Unread, Registry.ofConfigs, Roster.get?]

/-! ## What the outcome is read from -/

/-- What a cluster reports when its start is said to have come out well: itself at this moment. -/
structure Reports (names : List String) (c : Cluster) (s : Snapshot) : Prop where
  eq : s = c.snapshot
  launched : c.startDone = true
  state : s.state = .healthy ∨ s.state.isStopping = true
  names_sublist : s.names.Sublist names
  complete : c.AsLaunched → s.Complete names

/-- What is known of every cluster that was planned with these nodes. -/
structure Hopeful (planned : List NodeConfig) (c : Cluster) : Prop extends
    Orderly c, Kept planned c, Expecting c where
  whole : c.journal.removed = false → Whole planned c

theorem hopeful_move (h : Move c e d) (inv : Hopeful planned c) : Hopeful planned d where
  toOrderly := orderly_move h inv.toOrderly
  toKept := kept_move h inv.toOrderly inv.toKept
  toExpecting := expecting_move h inv.toCoherent inv.toExpecting
  whole hd := whole_move h hd (inv.whole (removed_of_move h hd))

theorem hopeful_run (inv : Hopeful planned c) (events : List Event) :
    Hopeful planned (c.run events) :=
  run_preserves (fun _ _ _ _ h inv => hopeful_move h inv) c inv

theorem hopeful_of_plan {options : ClusterOptions} {params : StartParams} {pid : UInt32}
    {obstacle : Option IoError} (h : plan options params pid obstacle = .ok c) :
    ∃ planned, planned.map NodeConfig.name = (List.range options.nodeCount).map Plan.nodeName ∧
      Hopeful planned c := by
  obtain ⟨planned, hbuild, kept⟩ := kept_of_plan h
  refine ⟨planned, ?_, orderly_of_plan h, kept, expecting_of_plan h, fun _ => ?_⟩
  · rw [Plan.names_of_build hbuild, Plan.length_of_build hbuild]
    rfl
  · obtain ⟨configs, hconfigs, rfl⟩ := plan_eq_ok h
    obtain rfl := Except.ok.inj (hconfigs.symm.trans hbuild)
    exact ⟨rfl, by simp [Registry.ofConfigs], by simp [Roster.get?]⟩

/-- A call is about to be told that the start came out well. -/
structure Reads (n : Nat) (c : Cluster) : Prop where
  launched : c.startDone = true
  unfailed : c.report = none
  waits : c.callers.get? n = some .awaitingReady ∨ c.reportTaken = false

namespace Hopeful

/-- A cluster that is healthy and unchanged is complete. -/
theorem complete (inv : Hopeful planned c) (healthy : c.registry.state = .healthy)
    (intact : c.journal.removed = false) :
    c.snapshot.Complete (planned.map NodeConfig.name) := by
  have whole := inv.whole intact
  have ready : c.registry.records.values.all NodeRecord.isReady = true := by
    refine List.all_eq_true.mpr fun record hrecord => ?_
    obtain ⟨⟨name, found⟩, hmem, rfl⟩ := List.mem_map.mp hrecord
    exact whole.ready healthy name found hmem
  refine ⟨healthy, by simp [snapshot, Registry.isHealthy, healthy, ready], whole.names,
    fun name hname => ?_⟩
  obtain ⟨⟨_, record⟩, hmem, rfl⟩ := List.mem_map.mp ((inv.sound.records_names name).mpr hname)
  have endpoint := whole.ready healthy _ _ hmem
  obtain ⟨e, he⟩ := Option.isSome_iff_exists.mp endpoint
  obtain ⟨uri, id⟩ := inv.sound.endpoint_complete _ _ e hmem he
  exact ⟨record, Table.get?_of_mem_entries inv.sound.records_sorted hmem,
    by simpa [NodeRecord.uri, he] using uri, by simpa [NodeRecord.id, he] using id⟩

/-- A cluster that tells a call that the start came out well has not failed. -/
theorem reports (inv : Hopeful planned c) (reads : Reads n c) :
    Reports (planned.map NodeConfig.name) c c.snapshot := by
  have unfailed : c.registry.state ≠ .failed := by
    intro hfailed
    have left := inv.left hfailed (reads.waits.symm.imp_right fun hn => ⟨n, hn⟩)
    simp [reads.unfailed] at left
  have settled := inv.toCoherent.healthy_of_done reads.launched unfailed
  refine ⟨rfl, reads.launched, settled, inv.sound.names_sublist, fun unchanged => ?_⟩
  refine inv.complete (settled.resolve_right fun hstopping => ?_) unchanged.2
  have signalled := inv.signal_iff.mpr hstopping
  simp [unchanged.1] at signalled

end Hopeful

/-! ## When the outcome is read -/

/-- A call that has no result has none until it goes on. -/
theorem result?_of_move (h : Move c e d) (he : e ≠ .poll (.caller n)) (hn : c.result? n = none) :
    d.result? n = none := by
  have unanswered {phase : CallPhase} (hphase : c.callers.get? n = some phase)
      (result : Outcome Snapshot) : phase ≠ .returned result := by
    rintro rfl
    simp [result?, hphase] at hn
  by_cases stays : e = .leave n
  · subst stays
    cases h with
    | leaves => simp [result?, leave]
  cases hphase : c.callers.get? n with
  | none =>
    by_cases hcall : ∃ call, e = .call n call
    · obtain ⟨call, rfl⟩ := hcall
      cases h with
      | arrives => simp [result?, setCall]
    · simp [result?, (h.stays_free hphase fun call heq => hcall ⟨call, heq⟩).1]
  | some phase =>
    rcases h.phase_cases hphase stays with hsame | ⟨heq, -⟩ | ⟨errand, reply, herrand, -, -, htaken⟩
    · rw [result?_congr (hsame.trans hphase.symm), hn]
    · exact absurd heq he
    · unfold result?
      rw [htaken]
      split
      · next result hreturned =>
        have charged := CallPhase.charge?_isSome_of_errand? herrand
        rw [← CallPhase.charge?_take reply, Option.some.inj hreturned] at charged
        simp [CallPhase.charge?] at charged
      · rfl

theorem result?_of_step (he : e ≠ .poll (.caller n)) (hn : c.result? n = none) :
    (c.step e).result? n = none :=
  step_preserves (P := fun d => d.result? n = none) (fun h hn => result?_of_move h he hn) c hn

/-- A call that waits for the start and is told in an event that it came out well has read so in the
state before that event. -/
theorem reads_of_result {s : Snapshot}
    (suits : ∀ phase, c.callers.get? n = some phase → phase.Suits .waitReady)
    (hn : c.result? n = none) (hd : (c.step e).result? n = some (.ok s)) :
    e = .poll (.caller n) ∧ Reads n c ∧ s = c.snapshot := by
  have goesOn : e = .poll (.caller n) := by
    by_contra he
    simp [result?_of_step he hn] at hd
  subst goesOn
  refine ⟨rfl, ?_⟩
  have readReport {b : Cluster} (hb : b.result? n = none)
      (hd : (b.readReport n).result? n = some (.ok s)) :
      b.startDone = true ∧ b.report = none ∧ s = b.snapshot := by
    unfold Cluster.readReport at hd
    split at hd
    · next hdone =>
      split at hd
      · simp [result?, setCall] at hd
      · next hreport =>
        rw [result?_returned] at hd
        simp only [Option.some.injEq, Except.ok.injEq] at hd
        exact ⟨hdone, hreport, hd.symm⟩
    · simp [result?, setCall] at hd
  cases hphase : c.callers.get? n with
  | none =>
    have idle : c.step (.poll (.caller n)) = c := by simp [step, poll, pollCaller, hphase]
    simp [idle, hn] at hd
  | some phase =>
    cases suits phase hphase with
    | fresh =>
      simp only [step, poll, pollCaller, hphase, beginCall] at hd
      split at hd
      · simp [result?_returned] at hd
      · next untaken =>
        obtain ⟨launched, unfailed, eq⟩ := readReport (by simpa [result?] using hn) hd
        exact ⟨⟨launched, unfailed, .inr (by simpa using untaken)⟩, eq⟩
    | awaitingReady =>
      simp only [step, poll, pollCaller, hphase] at hd
      obtain ⟨launched, unfailed, eq⟩ := readReport hn hd
      exact ⟨⟨launched, unfailed, .inl hphase⟩, eq⟩
    | returned result => simp [result?, hphase] at hn

/-- A call that waits for the start and was told in the course of a run that it came out well has
read so at some moment. -/
theorem exists_reads {events : List Event} {s : Snapshot}
    (waits : ∃ phase, c.callers.get? n = some phase ∧ phase.Suits .waitReady)
    (hn : c.result? n = none) (stays : .leave n ∉ events)
    (hr : (c.run events).result? n = some (.ok s)) :
    ∃ before after, events = before ++ .poll (.caller n) :: after ∧
      (c.run before).result? n = none ∧ Reads n (c.run before) ∧ s = (c.run before).snapshot := by
  induction events using List.reverseRecOn with
  | nil => simp [hn] at hr
  | append_singleton events e ih =>
    have stays' : .leave n ∉ events := fun hmem => stays (by simp [hmem])
    have last : (c.run (events ++ [e])) = (c.run events).step e := by simp [run_append]
    cases hbefore : (c.run events).result? n with
    | none =>
      obtain ⟨phase, hphase, suits⟩ := run_preserves (P := fun d =>
        ∃ phase, d.callers.get? n = some phase ∧ phase.Suits .waitReady) (fun e he _ _ h inv =>
          suits_move h (ne_of_mem_of_not_mem he stays') inv) c waits
      obtain ⟨rfl, reads, eq⟩ := reads_of_result
        (fun p hp => Option.some.inj (hphase.symm.trans hp) ▸ suits) hbefore (last ▸ hr)
      exact ⟨events, [], rfl, hbefore, reads, eq⟩
    | some result =>
      have leaves : e ≠ .leave n := fun heq => stays (by simp [heq])
      have same := step_preserves (fun h => result?_move h leaves) (c.run events) hbefore
      rw [← last, hr] at same
      obtain ⟨before, after, rfl, untold, reads, eq⟩ := ih stays' (by rw [hbefore, same])
      exact ⟨before, after ++ [e], by simp, untold, reads, eq⟩

/-- A call that has waited for the start of a planned cluster, and was told that it came out well, was
told what the cluster reported when it went on. -/
theorem reports_of_run {events : List Event} {s : Snapshot} (inv : Hopeful planned c)
    (came : CameIn c events n .waitReady) (hr : (c.run events).result? n = some (.ok s)) :
    ∃ before after, events = before ++ .poll (.caller n) :: after ∧
      (c.run before).result? n = none ∧
      Reports (planned.map NodeConfig.name) (c.run before) s := by
  obtain ⟨first, later, rfl, hfresh, stays⟩ := came.split
  rw [run_append] at hr
  obtain ⟨before, after, rfl, untold, reads, rfl⟩ :=
    exists_reads ⟨_, hfresh, .fresh .waitReady⟩ (by simp [result?, hfresh])
      (fun hmem => stays _ hmem rfl) hr
  rw [← run_append] at untold reads ⊢
  exact ⟨first ++ before, after, by simp, untold, (hopeful_run inv _).reports reads⟩

end Cluster
end ClusterControl
