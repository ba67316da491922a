import ClusterControl.Proofs.Cluster.Journal
import ClusterControl.Proofs.Cluster.LockLine
import ClusterControl.Proofs.Cluster.RegistrySound
import ClusterControl.Proofs.Cluster.StopCalls

/-!
# The launcher knows every node of a healthy cluster

A node that is launched anew is first unknown to the launcher, then without an endpoint, and only
then as before.  A change that comes to an end sees to it that the registry and the launcher agree
again.  One that is cut short, because its caller has gone away or the launcher broke down over it,
may leave a node behind that the registry lists and the launcher does not know.  This module proves
that it is only such a node that is left behind.

* `Journal.knows` — the launcher knows a node, as far as the journal tells.
* `cutShort?` — the node whose change an event cuts short.
* `Stage` — what is true of a node while a call is changing it.
* `Minded`, `minded_move` — a node is either being changed, and that at a known stage, or it is ready
  and known; every move preserves this unless it cuts a change of the node short.
* `watched_run`, `Watched.intact` — after every run that cuts no change of a node short, the node is
  minded; so it is ready and known in a healthy cluster in which no node is being changed.
-/

namespace ClusterControl

/-! ## What the launcher knows -/

/-- What an entry tells of whether the launcher knows this node. -/
def JournalEntry.knows? (name : String) : JournalEntry → Option Bool
  | answered _ (.launch configs) .done =>
    if configs.any fun config => config.name = name then some true else none
  | answered _ (.remove other) .done => if other = name then some false else none
  | answered _ (.add config) .done => if config.name = name then some true else none
  | _ => none

namespace Journal

/-- The launcher knows this node: it was launched or added, and has not been removed since. -/
def knows (name : String) (j : Journal) : Bool :=
  (j.findSome? (JournalEntry.knows? name)).getD false

theorem knows_cons (name : String) (entry : JournalEntry) (j : Journal) :
    knows name (entry :: j) = (entry.knows? name).getD (knows name j) := by
  cases h : entry.knows? name <;> simp [knows, h]

@[simp] theorem knows_asked (name : String) (w : Worker) (errand : Errand) (j : Journal) :
    knows name (.asked w errand :: j) = knows name j :=
  knows_cons name _ j

/-- Only the word that an errand is done tells of it. -/
theorem knows_of_ne_done {reply : Reply} (name : String) (w : Worker) (errand : Errand) (j : Journal)
    (h : reply ≠ .done) : knows name (.answered w errand reply :: j) = knows name j := by
  rw [knows_cons]
  cases reply with
  | done => exact absurd rfl h
  | _ => simp [JournalEntry.knows?]

/-- An errand about another node tells nothing of this one. -/
theorem knows_of_other {name : String} {errand : Errand} (w : Worker) (reply : Reply) (j : Journal)
    (hlaunch : ∀ configs, errand ≠ .launch configs) (hremove : errand ≠ .remove name)
    (hadd : ∀ config, errand = .add config → config.name ≠ name) :
    knows name (.answered w errand reply :: j) = knows name j := by
  rw [knows_cons]
  cases reply with
  | done =>
    cases errand with
    | launch configs => exact absurd rfl (hlaunch configs)
    | remove other =>
      have hne : other ≠ name := fun heq => hremove (by rw [heq])
      simp [JournalEntry.knows?, hne]
    | add config => simp [JournalEntry.knows?, hadd config rfl]
    | _ => rfl
  | _ => simp [JournalEntry.knows?]

/-- A launch makes the launcher forget no node. -/
theorem knows_launched {name : String} {j : Journal} (w : Worker) (configs : List NodeConfig)
    (reply : Reply) (h : knows name j = true) :
    knows name (.answered w (.launch configs) reply :: j) = true := by
  by_cases hdone : reply = .done
  · rw [hdone, knows_cons, JournalEntry.knows?]
    split
    · rfl
    · exact h
  · rw [knows_of_ne_done name w _ j hdone, h]

end Journal

/-- An attempt to move on to another state does not bring about this one. -/
theorem Lifecycle.eq_of_advance {state next last : Lifecycle} (h : state.advance next = last)
    (hnext : next ≠ last) : state = last := by
  unfold advance at h
  split at h
  · exact absurd h hnext
  · exact h

/-- The launcher has launched the nodes, and they are waited for or about to be. -/
def StartPhase.hasNodes : StartPhase → Bool
  | .launching (some (.ok ())) => true
  | .waiting _ _ => true
  | _ => false

/-- The errand of a call is about the node that it is changing. -/
theorem CallPhase.errand_cases {phase : CallPhase} {errand : Errand}
    (h : phase.errand? = some errand) :
    ∃ own, phase.charge? = some own ∧
      (errand = .remove own ∨ errand = .waitNode own ∨ errand = .waitHealthy ∨
        ∃ config, phase = .adding own config none ∧ errand = .add config) := by
  unfold errand? at h
  split at h
  · next own => exact ⟨own, rfl, .inl (Option.some.inj h).symm⟩
  · next own config => exact ⟨own, rfl, .inl (Option.some.inj h).symm⟩
  · next own config =>
    exact ⟨own, rfl, .inr (.inr (.inr ⟨config, rfl, (Option.some.inj h).symm⟩))⟩
  · next own deadline => exact ⟨own, rfl, .inr (.inl (Option.some.inj h).symm)⟩
  · next own deadline => exact ⟨own, rfl, .inr (.inr (.inl (Option.some.inj h).symm))⟩
  · next own cause => exact ⟨own, rfl, .inl (Option.some.inj h).symm⟩
  · simp at h

namespace Cluster

variable {c d : Cluster} {n : Nat} {name : String} {planned : List NodeConfig}

/-- Only the answers to a launch and to errands of calls tell of it. -/
theorem knows_of_move {e : Event} (h : Move c e d) (hstarter : ∀ reply, e ≠ .answer .starter reply)
    (hcaller : ∀ n reply, e ≠ .answer (.caller n) reply) :
    d.journal.knows name = c.journal.knows name := by
  cases h with
  | starterAnswered he ha => exact absurd rfl (hstarter _)
  | callerAnswered h he ha => exact absurd rfl (hcaller _ _)
  | stopperAnswered he ha =>
    simp only [errand?] at he
    split at he
    · obtain rfl := Option.some.inj he
      exact Journal.knows_of_other _ _ _ (by simp) (by simp) (by simp)
    · simp at he
  | starter h => cases h <;> simp [ask, startFailed, leaveReport]
  | stopper h => cases h <;> simp [ask, stopEnded, leaveReport]
  | caller h =>
    rcases h.journal with hjournal | ⟨phase, errand, -, -, hjournal⟩
    · rw [hjournal]
    · rw [hjournal, Journal.knows_asked]
  | _ => rfl

/-! ## Changes that are cut short -/

/-- The node whose change this event cuts short: its caller goes away, or the launcher breaks down
over it. -/
def cutShort? (c : Cluster) : Event → Option String
  | .leave n => (c.callers.get? n).bind CallPhase.charge?
  | .answer (.caller n) (.mishap .crashed) => (c.callers.get? n).bind CallPhase.charge?
  | _ => none

/-- This event does not cut a change of this node short. -/
def spares (name : String) (c : Cluster) (e : Event) : Bool :=
  c.cutShort? e ≠ some name

theorem spares_poll (name : String) (c : Cluster) (w : Worker) : spares name c (.poll w) = true := by
  simp [spares, cutShort?]

/-! ## A node that is being changed -/

/-- Nothing that is known of this node lacks an endpoint, and the launcher knows it. -/
structure Intact (name : String) (c : Cluster) : Prop where
  ready : ∀ record, c.registry.records.get? name = some record → record.isReady = true
  known : c.journal.knows name = true

/-- What is true of a node while a call in this phase is changing it. -/
def Stage (name : String) (c : Cluster) : CallPhase → Prop
  | .removing _ none => Intact name c
  | .removing _ (some (.ok ())) => True
  | .removing _ (some (.error (.failed _))) => Intact name c
  | .replacing _ _ none => Intact name c
  | .replacing _ _ (some (.ok ())) => True
  | .replacing _ _ (some (.error (.failed _))) => Intact name c
  | .adding _ _ none => True
  | .adding _ _ (some (.ok ())) => c.journal.knows name = true
  | .adding _ _ (some (.error (.failed _))) => True
  | .awaitingNode _ _ reply =>
    c.journal.knows name = true ∧ reply ≠ some (.error .crashed)
  | .awaitingAll _ _ reply =>
    c.journal.knows name = true ∧ reply ≠ some (.error .crashed)
  | .cleaning _ _ reply => reply ≠ some (.error .crashed)
  -- the launcher broke down over the change, which is cut short
  | _ => False

/-- This node is in the registry as it was, and the launcher knows of it what it knew. -/
structure Alike (name : String) (c d : Cluster) : Prop where
  names : name ∈ d.registry.names → name ∈ c.registry.names
  records : ∀ record, d.registry.records.get? name = some record →
    c.registry.records.get? name = some record
  known : c.journal.knows name = true → d.journal.knows name = true

namespace Alike

theorem of_registry (hregistry : d.registry = c.registry)
    (hknown : d.journal.knows name = c.journal.knows name) : Alike name c d :=
  ⟨by rw [hregistry]; exact id, by rw [hregistry]; exact fun _ => id, hknown.trans⟩

theorem intact (alike : Alike name c d) (h : Intact name c) : Intact name d where
  ready record hmem := h.ready record (alike.records record hmem)
  known := alike.known h.known

theorem stage (alike : Alike name c d) {phase : CallPhase} (h : Stage name c phase) :
    Stage name d phase := by
  unfold Stage at h ⊢
  split at h
  all_goals first
    | exact alike.intact h
    | exact alike.known h
    | exact ⟨alike.known h.1, h.2⟩
    | exact h

/-- Forgetting a node leaves all others as they are. -/
theorem forget {other : String} (hregistry : d.registry = c.registry.forget other)
    (hknown : d.journal.knows name = c.journal.knows name) : Alike name c d where
  names h := by
    rw [hregistry] at h
    exact (List.mem_filter.mp h).1
  records record h := by
    rw [hregistry] at h
    simp only [Registry.forget, Table.get?_erase] at h
    split at h
    · simp at h
    · exact h
  known := hknown.trans

/-- Launching another node anew. -/
theorem restarting {other : String} {config : NodeConfig} (hne : other ≠ name)
    (hregistry : d.registry = c.registry.restarting other config)
    (hknown : d.journal.knows name = c.journal.knows name) : Alike name c d where
  names h := by
    rw [hregistry] at h
    exact h
  records record h := by
    rw [hregistry] at h
    simpa [Registry.restarting, hne.symm] using h
  known := hknown.trans

/-- Another node has come to answer. -/
theorem restarted {other : String} {e : Endpoint} (hne : other ≠ name)
    (hregistry : d.registry = c.registry.restarted other e)
    (hknown : d.journal.knows name = c.journal.knows name) : Alike name c d where
  names h := by
    rw [hregistry] at h
    exact h
  records record h := by
    rw [hregistry] at h
    simpa [Registry.restarted, hne.symm] using h
  known := hknown.trans

end Alike

/-- A node is being changed, at a known stage, or it is ready and the launcher knows it. -/
structure Minded (name : String) (c : Cluster) : Prop where
  -- a call that adds a node adds the one that it is changing
  adds : ∀ n other config reply, c.callers.get? n = some (.adding other config reply) →
    config.name = other
  launched : c.registry.state = .launching → StartPhase.hasNodes c.starter = true →
    name ∈ c.registry.names → c.journal.knows name = true
  changing : ∀ n phase, c.callers.get? n = some phase → phase.charge? = some name →
    Stage name c phase
  settled : c.registry.state = .healthy → name ∈ c.registry.names →
    (∀ n phase, c.callers.get? n = some phase → phase.charge? ≠ some name) → Intact name c

namespace Minded

/-- A move that leaves the calls and this node alone. -/
theorem of_alike (inv : Minded name c) (alike : Alike name c d) (hcallers : d.callers = c.callers)
    (hlaunched : d.registry.state = .launching → StartPhase.hasNodes d.starter = true →
      c.registry.state = .launching ∧ StartPhase.hasNodes c.starter = true)
    (hhealthy : d.registry.state = .healthy → c.registry.state = .healthy) : Minded name d where
  adds := by rw [hcallers]; exact inv.adds
  launched hstate hnodes hname := by
    obtain ⟨before, nodes⟩ := hlaunched hstate hnodes
    exact alike.known (inv.launched before nodes (alike.names hname))
  changing n phase hphase hc := by
    rw [hcallers] at hphase
    exact alike.stage (inv.changing n phase hphase hc)
  settled hstate hname hfree := by
    rw [hcallers] at hfree
    exact alike.intact (inv.settled (hhealthy hstate) (alike.names hname) hfree)

/-- A call that is not changing a node goes on, and does not begin to. -/
theorem setIdle (inv : Minded name c) {phase : CallPhase}
    (hidle : ∀ before, c.callers.get? n = some before → before.charge? = none)
    (hcallers : d.callers = c.callers.set n phase) (hphase : phase.charge? = none)
    (hregistry : d.registry = c.registry) (hstarter : d.starter = c.starter)
    (hknown : d.journal.knows name = c.journal.knows name) : Minded name d := by
  have alike : Alike name c d := .of_registry hregistry hknown
  refine ⟨fun m other config reply hm => ?_, fun hstate hnodes hname => ?_,
    fun m p hp hc => ?_, fun hstate hname hfree => ?_⟩
  · rw [hcallers, Roster.get?_set] at hm
    split at hm
    · rw [Option.some.inj hm] at hphase
      simp [CallPhase.charge?] at hphase
    · exact inv.adds m other config reply hm
  · rw [hknown]
    rw [hregistry] at hstate hname
    exact inv.launched hstate (hstarter ▸ hnodes) hname
  · rw [hcallers, Roster.get?_set] at hp
    split at hp
    · obtain rfl := Option.some.inj hp
      simp [hphase] at hc
    · exact alike.stage (inv.changing m p hp hc)
  · rw [hregistry] at hstate hname
    refine alike.intact (inv.settled hstate hname fun m p hp hc => ?_)
    by_cases hm : m = n
    · subst hm
      simp [hidle p hp] at hc
    · exact hfree m p (by rw [hcallers, Roster.get?_set, if_neg hm, hp]) hc

/-- While one call is alone in changing nodes, this node is intact if it is not the one. -/
theorem intact_of_alone (inv : Minded name c) (alone : Alone c n) {before : CallPhase}
    (hbefore : c.callers.get? n = some before) (hc : before.charge? ≠ some name)
    (hstate : c.registry.state = .healthy) (hname : name ∈ c.registry.names) : Intact name c := by
  refine inv.settled hstate hname fun m phase hphase => ?_
  by_cases hm : m = n
  · subst hm
    obtain rfl := Option.some.inj (hbefore.symm.trans hphase)
    exact hc
  · simp [alone.others m phase hm hphase]

/-- A call that is alone in changing nodes goes on: with this node from a known stage to another, or
with another one that leaves this one alone. -/
theorem turn (inv : Minded name c) (alone : Alone c n) {before after : CallPhase}
    (hbefore : c.callers.get? n = some before) (hcallers : d.callers = c.callers.set n after)
    (hstate : d.registry.state = c.registry.state) (hrunning : c.registry.state ≠ .launching)
    (hadds : ∀ other config reply, after = .adding other config reply → config.name = other)
    (hstage : after.charge? = some name → Stage name d after)
    (hother : before.charge? ≠ some name → Alike name c d)
    (hself : before.charge? = some name → after.charge? ≠ some name → name ∈ d.registry.names →
      Intact name d) : Minded name d := by
  refine ⟨fun m other config reply hm => ?_, fun hlaunching => ?_, fun m p hp hc => ?_,
    fun hhealthy hname hfree => ?_⟩
  · rw [hcallers, Roster.get?_set] at hm
    split at hm
    · exact hadds other config reply (Option.some.inj hm)
    · exact inv.adds m other config reply hm
  · exact absurd (hstate ▸ hlaunching) hrunning
  · rw [hcallers, Roster.get?_set] at hp
    split at hp
    · obtain rfl := Option.some.inj hp
      exact hstage hc
    · next hne => simp [alone.others m p hne hp] at hc
  · have finished : after.charge? ≠ some name :=
      hfree n after (by rw [hcallers]; exact Roster.get?_set_self ..)
    by_cases hc : before.charge? = some name
    · exact hself hc finished hname
    · have alike := hother hc
      exact alike.intact
        (inv.intact_of_alone alone hbefore hc (hstate ▸ hhealthy) (alike.names hname))

end Minded

theorem minded_starter (inv : Minded name c) (order : Orderly c) (h : StarterMove c d) :
    Minded name d := by
  have hcallers := h.frame.1
  have hknown : d.journal.knows name = c.journal.knows name :=
    knows_of_move (.starter h) (by simp) (by simp)
  cases h with
  | publishes h hj hp =>
    have waiting : StartPhase.hasNodes c.starter = true := by rw [h]; rfl
    have signal := stopSignal_of_reported hj
    have launching := order.launching_of_waiting h signal
    have quiet {n : Nat} {phase : CallPhase} (hphase : c.callers.get? n = some phase) :
        phase.charge? = none := by
      by_contra hc
      exact order.not_launching_of_charge hphase (Option.isSome_iff_ne_none.mpr hc) launching
    obtain ⟨records, hrecords, -, rfl⟩ := publish_eq_ok hp
    refine ⟨inv.adds, by simp, fun n phase hphase hc => ?_, fun _ hname _ => ⟨?_, ?_⟩⟩
    · simp [quiet hphase] at hc
    · intro record hrecord
      obtain ⟨-, hcomplete⟩ := Registry.readyRecords_eq_ok hrecords
      have hmem := Table.mem_of_mem_ofList (Table.mem_entries_of_get? hrecord)
      obtain ⟨e, heq, -⟩ := hcomplete _ hmem
      have ready : record = .ready name e := heq
      rw [ready]
      rfl
    · exact inv.launched launching waiting hname
  | asks h =>
    exact inv.of_alike (.of_registry rfl hknown) hcallers (by simp [ask, StartPhase.hasNodes]) id
  | waits h hj =>
    exact inv.of_alike (.of_registry rfl hknown) hcallers
      (fun hstate _ => ⟨hstate, by rw [h]; rfl⟩) id
  | launchCrashes h =>
    exact inv.of_alike (.of_registry rfl hknown) hcallers (by simp [StartPhase.hasNodes]) id
  | waitCrashes h hj =>
    exact inv.of_alike (.of_registry rfl hknown) hcallers (by simp [StartPhase.hasNodes]) id
  | _ =>
    exact inv.of_alike ⟨id, fun _ => id, hknown.trans⟩ hcallers
      (by simp [startFailed, StartPhase.hasNodes])
      fun hstate => Lifecycle.eq_of_advance hstate (by simp)

theorem minded_stopper (inv : Minded name c) (h : StopperMove c d) : Minded name d := by
  have hknown : d.journal.knows name = c.journal.knows name :=
    knows_of_move (.stopper h) (by simp) (by simp)
  obtain ⟨hcallers, hstarter, -⟩ := h.frame
  have same (hregistry : d.registry = c.registry) : Minded name d := by
    refine inv.of_alike (.of_registry hregistry hknown) hcallers (fun hstate hnodes => ?_)
      fun hstate => ?_
    · rw [hregistry] at hstate
      exact ⟨hstate, hstarter ▸ hnodes⟩
    · rw [hregistry] at hstate
      exact hstate
  have advanced (next : Lifecycle) (hregistry : d.registry = c.registry.advance next)
      (hlaunching : next ≠ .launching) (hhealthy : next ≠ .healthy) : Minded name d := by
    have alike : Alike name c d :=
      ⟨by rw [hregistry]; exact id, by rw [hregistry]; exact fun _ => id, hknown.trans⟩
    refine inv.of_alike alike hcallers (fun hstate hnodes => ?_) fun hstate => ?_
    · rw [hregistry] at hstate
      exact ⟨Lifecycle.eq_of_advance hstate hlaunching, hstarter ▸ hnodes⟩
    · rw [hregistry] at hstate
      exact Lifecycle.eq_of_advance hstate hhealthy
  cases h with
  | begins h ha => exact advanced .stopping rfl (by simp) (by simp)
  | ends hends => exact advanced .stopped rfl (by simp) (by simp)
  | _ => exact same rfl

/-- A call that has got the lock begins to change a node, or finds that it cannot. -/
theorem minded_admitted (inv : Minded name c) (order : Orderly c) (kept : Kept planned c)
    {x : Cluster} {m : Mutation} (ha : Admitted c n m x) (he : x.refusal? m.name = none)
    {after : CallPhase} (hcallers : d.callers = c.callers.set n after)
    (hregistry : d.registry = c.registry)
    (hknown : d.journal.knows name = c.journal.knows name)
    (hafter : after.charge? = some m.name)
    (hadds : ∀ other config reply, after ≠ .adding other config reply)
    (hstage : Intact m.name d → Stage m.name d after) : Minded name d := by
  obtain ⟨before, hbefore, hidle⟩ := ha.phase
  have alone := order.alone_of_admitted ha
  have alike : Alike name c d := .of_registry hregistry hknown
  obtain ⟨healthy, -, contained⟩ := healthy_of_refusal? he
  rw [ha.eq] at healthy contained
  have running : c.registry.state ≠ .launching := by
    intro hlaunching
    have state : c.registry.state = .healthy := healthy
    simp [hlaunching] at state
  refine inv.turn alone hbefore hcallers (by rw [hregistry]) running
    (fun other config reply heq => absurd heq (hadds other config reply)) (fun hc => ?_)
    (fun _ => alike) (fun hc => by simp [hidle] at hc)
  -- The node that is to be changed is as it should be until now.
  obtain rfl : m.name = name := Option.some.inj (hafter.symm.trans hc)
  have listed : m.name ∈ c.registry.names :=
    (kept.sound.records_names m.name).mp ((Table.contains_iff_mem_names _ _).mp contained)
  have intact := inv.intact_of_alone alone hbefore (by simp [hidle]) healthy listed
  exact hstage (alike.intact intact)

/-- The launcher has not broken down over a change of a node that is at a known stage. -/
theorem Breakdown.not_stage (h : Breakdown c n) {phase : CallPhase}
    (hphase : c.callers.get? n = some phase) : ¬ Stage name c phase := by
  intro stage
  cases h with
  | node h hj =>
    rw [eq_crashed_of_judge hj] at h
    obtain rfl := Option.some.inj (h.symm.trans hphase)
    exact stage.2 rfl
  | all h hj =>
    rw [eq_crashed_of_judge hj] at h
    obtain rfl := Option.some.inj (h.symm.trans hphase)
    exact stage.2 rfl
  | cleaning h =>
    obtain rfl := Option.some.inj (h.symm.trans hphase)
    exact stage rfl
  | _ h =>
    obtain rfl := Option.some.inj (h.symm.trans hphase)
    exact stage

theorem minded_caller (inv : Minded name c) (order : Orderly c) (kept : Kept planned c)
    (h : CallerMove c n d) : Minded name d := by
  have hknown : d.journal.knows name = c.journal.knows name :=
    knows_of_move (.caller h) (by simp) (by simp)
  have charged {before : CallPhase} (hbefore : c.callers.get? n = some before)
      (hc : before.charge?.isSome = true) : Alone c n ∧ c.registry.state ≠ .launching :=
    ⟨order.alone_of_charge hbefore hc, order.not_launching_of_charge hbefore hc⟩
  have idle {before : CallPhase} (hbefore : c.callers.get? n = some before)
      (hidle : before.charge? = none) (p : CallPhase) (hp : c.callers.get? n = some p) :
      p.charge? = none := by
    rw [Option.some.inj (hp.symm.trans hbefore), hidle]
  -- A node that was removed is not in the registry any more.
  have forgotten {other : String} (hregistry : d.registry = c.registry.forget other)
      (hown : some other = some name) (hname : name ∈ d.registry.names) : Intact name d := by
    rw [hregistry, Option.some.inj hown] at hname
    simp [Registry.forget] at hname
  -- A change that the launcher refuses leaves its node as it was.
  have failed {before : CallPhase} {e : Failure} (hbefore : c.callers.get? n = some before)
      (hc : before.charge?.isSome = true)
      (hcallers : d.callers = c.callers.set n (.returned (.error e)))
      (hregistry : d.registry = c.registry) (hstage : Stage name c before → Intact name c) :
      Minded name d := by
    have alike : Alike name c d := .of_registry hregistry hknown
    obtain ⟨alone, running⟩ := charged hbefore hc
    refine inv.turn alone hbefore hcallers (by rw [hregistry]) running (by simp)
      (by simp [CallPhase.charge?]) (fun _ => alike) fun hown _ _ => ?_
    exact alike.intact (hstage (inv.changing n before hbefore hown))
  cases h with
  | denied h ht => exact inv.setIdle (idle h rfl) rfl rfl rfl rfl hknown
  | signsUp h ht => exact inv.setIdle (idle h rfl) rfl rfl rfl rfl hknown
  | readsFailure h hd hr => exact inv.setIdle (idle h rfl) rfl rfl rfl rfl hknown
  | readsSuccess h hd hr => exact inv.setIdle (idle h rfl) rfl rfl rfl rfl hknown
  | claimsStop h => exact inv.setIdle (idle h rfl) rfl rfl rfl rfl hknown
  | readsStop h ho => exact inv.setIdle (idle h rfl) rfl rfl rfl rfl hknown
  | queues h hl => exact inv.setIdle (idle h rfl) rfl rfl rfl rfl hknown
  | refused ha he =>
    obtain ⟨before, hbefore, hidle⟩ := ha.phase
    rw [ha.eq] at hknown ⊢
    exact inv.setIdle (idle hbefore hidle) rfl rfl rfl rfl hknown
  | unconfigured ha he hc =>
    obtain ⟨before, hbefore, hidle⟩ := ha.phase
    rw [ha.eq] at hknown ⊢
    exact inv.setIdle (idle hbefore hidle) rfl rfl rfl rfl hknown
  | removes ha he =>
    rw [ha.eq] at hknown ⊢
    exact minded_admitted inv order kept ha he rfl rfl hknown rfl (by simp) id
  | replaces ha he hc =>
    rw [ha.eq] at hknown ⊢
    exact minded_admitted inv order kept ha he rfl rfl hknown rfl (by simp) id
  | removed h =>
    obtain ⟨alone, running⟩ := charged h rfl
    exact inv.turn alone h rfl rfl running (by simp) (by simp [CallPhase.charge?])
      (fun _ => .forget rfl hknown) fun hown _ hname => forgotten rfl hown hname
  | removeFails h => exact failed h rfl rfl rfl id
  | replaceFails h => exact failed h rfl rfl rfl id
  | stopped h hs =>
    obtain ⟨alone, running⟩ := charged h rfl
    exact inv.turn alone h rfl rfl running (by simp) (fun _ => by simp [Stage])
      (fun hne => .restarting (fun heq => hne (by rw [heq]; rfl)) rfl hknown)
      fun hown hnone => absurd hown hnone
  | adds h hs =>
    obtain ⟨alone, running⟩ := charged h rfl
    refine inv.turn alone h rfl rfl running (fun other config reply heq => ?_) (fun _ => trivial)
      (fun hne => .restarting (fun heq => hne (by rw [heq]; rfl)) rfl hknown)
      fun hown hnone => absurd hown hnone
    obtain ⟨rfl, rfl, -⟩ := CallPhase.adding.inj heq
    exact (kept.replacing_place n _ _ _ h).1
  | awaitsNode h hj hp =>
    obtain ⟨alone, running⟩ := charged h rfl
    refine inv.turn alone h rfl rfl running (by simp) (fun hc => ?_)
      (fun _ => .of_registry rfl hknown) fun hown hnone => absurd hown hnone
    have known : c.journal.knows name = true := inv.changing n _ h hc
    exact ⟨hknown.trans known, by simp⟩
  | awaitsAll h hj hp =>
    obtain ⟨alone, running⟩ := charged h rfl
    refine inv.turn alone h rfl rfl running (by simp) (fun hc => ?_)
      (fun _ => .of_registry rfl hknown) fun hown hnone => absurd hown hnone
    have known : c.journal.knows name = true := inv.changing n _ h hc
    exact ⟨hknown.trans known, by simp⟩
  | cleans hset =>
    obtain ⟨before, h, hc⟩ := hset.phase
    obtain ⟨alone, running⟩ := charged h (by simp [hc])
    exact inv.turn alone h rfl rfl running (by simp) (fun _ => by simp [Stage])
      (fun _ => .of_registry rfl hknown) fun hown hnone => absurd (hc.symm.trans hown) hnone
  | @recovers own e hrec =>
    obtain ⟨before, h, hc⟩ := hrec.phase
    obtain ⟨alone, running⟩ := charged h (by simp [hc])
    refine inv.turn alone h rfl rfl running (by simp) (by simp [CallPhase.charge?]) (fun hne => ?_)
      fun hown _ _ => ?_
    · exact .restarted (fun heq => hne (by rw [hc, heq])) rfl hknown
    · obtain rfl : own = name := Option.some.inj (hc.symm.trans hown)
      have known : c.journal.knows own = true := by
        have stage := inv.changing n before h hown
        cases hrec with
        | node hphase hj he =>
          obtain rfl := Option.some.inj (hphase.symm.trans h)
          exact stage.1
        | all hphase hj hr he =>
          obtain rfl := Option.some.inj (hphase.symm.trans h)
          exact stage.1
      refine ⟨fun record hrecord => ?_, hknown.trans known⟩
      have restarted : some (NodeRecord.ready own e) = some record := by
        simpa [conclude, setCall, Registry.restarted] using hrecord
      rw [← Option.some.inj restarted]
      rfl
  | cleaned h hr =>
    obtain ⟨alone, running⟩ := charged h rfl
    exact inv.turn alone h rfl rfl running (by simp) (by simp [CallPhase.charge?])
      (fun _ => .forget rfl hknown) fun hown _ hname => forgotten rfl hown hname
  | breaks hbreak =>
    obtain ⟨before, h, hc⟩ := hbreak.phase
    obtain ⟨alone, running⟩ := charged h hc
    exact inv.turn alone h rfl rfl running (by simp) (by simp [CallPhase.charge?])
      (fun _ => .of_registry rfl hknown)
      fun hown _ _ => (hbreak.not_stage h (inv.changing n before h hown)).elim

/-- The answer to an errand of a call that is changing this node brings it to another stage. -/
theorem stage_answered {phase : CallPhase} {errand : Errand} {reply : Reply}
    (he : phase.errand? = some errand) (ha : reply.answers errand = true)
    (hreply : reply ≠ .mishap .crashed) (hc : phase.charge? = some name)
    (hadds : ∀ other config r, phase = .adding other config r → config.name = other)
    (stage : Stage name c phase) (hregistry : d.registry = c.registry)
    (hjournal : d.journal = .answered (.caller n) errand reply :: c.journal) :
    Stage name d (phase.take reply) := by
  -- Unless something is done the launcher knows of the node what it knew.
  have same (hdone : reply ≠ .done) : Alike name c d := by
    refine .of_registry hregistry ?_
    rw [hjournal, Journal.knows_of_ne_done _ _ _ _ hdone]
  unfold CallPhase.errand? at he
  split at he
  · obtain rfl := Option.some.inj he
    rcases Reply.answers_changesNode ha rfl with rfl | ⟨e, rfl⟩ | hcrashed
    · trivial
    · exact (same (by simp)).intact stage
    · exact absurd hcrashed hreply
  · obtain rfl := Option.some.inj he
    rcases Reply.answers_changesNode ha rfl with rfl | ⟨e, rfl⟩ | hcrashed
    · trivial
    · exact (same (by simp)).intact stage
    · exact absurd hcrashed hreply
  · next own config =>
    obtain rfl := Option.some.inj he
    rcases Reply.answers_changesNode ha rfl with rfl | ⟨e, rfl⟩ | hcrashed
    · have own_name : config.name = name :=
        (hadds own config none rfl).trans (Option.some.inj hc)
      show d.journal.knows name = true
      rw [hjournal, Journal.knows_cons]
      simp [JournalEntry.knows?, own_name]
    · trivial
    · exact absurd hcrashed hreply
  · obtain rfl := Option.some.inj he
    have hdone : reply ≠ .done := by
      rintro rfl
      simp [Reply.answers] at ha
    exact ⟨(same hdone).known stage.1, fun h => hreply (Reply.eq_mishap_of_toNode h)⟩
  · obtain rfl := Option.some.inj he
    have hdone : reply ≠ .done := by
      rintro rfl
      simp [Reply.answers] at ha
    exact ⟨(same hdone).known stage.1, fun h => hreply (Reply.eq_mishap_of_toNodes h)⟩
  · show reply.toDone ≠ some (.error .crashed)
    exact fun h => hreply (Reply.eq_mishap_of_toDone h)
  · simp at he

/-- What a call hears of another node does not matter for this one. -/
theorem knows_of_errand {phase : CallPhase} {errand : Errand} (reply : Reply) (w : Worker)
    (j : Journal) (he : phase.errand? = some errand) (hc : phase.charge? ≠ some name)
    (hadds : ∀ other config r, phase = .adding other config r → config.name = other) :
    Journal.knows name (.answered w errand reply :: j) = Journal.knows name j := by
  obtain ⟨own, hown, herrand⟩ := CallPhase.errand_cases he
  have hne : own ≠ name := fun heq => hc (by rw [hown, heq])
  rcases herrand with rfl | rfl | rfl | ⟨config, hphase, rfl⟩
  · exact Journal.knows_of_other w reply j (by simp) (by simpa using hne) (by simp)
  · exact Journal.knows_of_other w reply j (by simp) (by simp) (by simp)
  · exact Journal.knows_of_other w reply j (by simp) (by simp) (by simp)
  · refine Journal.knows_of_other w reply j (by simp) (by simp) fun other heq => ?_
    rw [← Errand.add.inj heq, hadds own config none hphase]
    exact hne

theorem minded_callerAnswered (inv : Minded name c) (order : Orderly c) {phase : CallPhase}
    {errand : Errand} {reply : Reply} (hphase : c.callers.get? n = some phase)
    (he : phase.errand? = some errand) (ha : reply.answers errand = true)
    (hspares : spares name c (.answer (.caller n) reply) = true)
    (hcallers : d.callers = c.callers.set n (phase.take reply)) (hregistry : d.registry = c.registry)
    (hjournal : d.journal = .answered (.caller n) errand reply :: c.journal) : Minded name d := by
  have hcharge := CallPhase.charge?_isSome_of_errand? he
  have running := order.not_launching_of_charge hphase hcharge
  have hadds (other : String) (config : NodeConfig) (r : Pending Unit)
      (heq : phase = .adding other config r) : config.name = other :=
    inv.adds n other config r (by rw [hphase, heq])
  refine inv.turn (order.alone_of_charge hphase hcharge) hphase hcallers (by rw [hregistry])
    running (fun other config r heq => ?_) (fun hc => ?_) (fun hc => ?_) fun hown hnone => ?_
  · have added : ∃ before, phase = .adding other config before := by
      unfold CallPhase.take at heq
      split at heq
      · simp at heq
      · simp at heq
      · obtain ⟨rfl, rfl, -⟩ := CallPhase.adding.inj heq
        exact ⟨none, rfl⟩
      · simp at heq
      · simp at heq
      · simp at heq
      · exact ⟨r, heq⟩
    obtain ⟨before, rfl⟩ := added
    exact hadds other config before rfl
  · rw [CallPhase.charge?_take] at hc
    have hreply : reply ≠ .mishap .crashed := by
      rintro rfl
      simp [spares, cutShort?, hphase, hc] at hspares
    exact stage_answered he ha hreply hc hadds (inv.changing n phase hphase hc) hregistry hjournal
  · refine .of_registry hregistry ?_
    rw [hjournal, knows_of_errand reply (.caller n) c.journal he hc hadds]
  · rw [CallPhase.charge?_take] at hnone
    exact absurd hown hnone

/-- A launcher that has launched the nodes knows all of them. -/
theorem minded_starterAnswered (inv : Minded name c) (order : Orderly c) (kept : Kept planned c)
    {errand : Errand} {reply : Reply} (he : c.errand? .starter = some errand)
    (ha : reply.answers errand = true) :
    Minded name { c with
      starter := c.starter.take reply
      journal := .answered .starter errand reply :: c.journal } := by
  simp only [errand?] at he
  split at he
  · next hs =>
    obtain rfl := Option.some.inj he
    have told (hdone : reply = .done) (hname : name ∈ c.registry.names) :
        (c.registry.orderedConfigs.any fun config => config.name = name) = true := by
      have listed := (kept.sound.configs_names name).mpr hname
      obtain ⟨config, hconfig⟩ := Option.isSome_iff_exists.mp
        ((Table.contains_iff_mem_names c.registry.configs name).mpr listed)
      have own := (kept.sound.config_place name config (Table.mem_entries_of_get? hconfig)).1
      refine List.any_eq_true.mpr ⟨config, ?_, by simp [own]⟩
      exact List.mem_filterMap.mpr ⟨name, hname, hconfig⟩
    have unhealthy : c.registry.state ≠ .healthy := by
      intro hhealthy
      rcases order.busy_state (by rw [hs]; rfl) with hstate | hstate <;> simp [hhealthy] at hstate
    have alike : Alike name c { c with
        starter := c.starter.take reply
        journal := .answered .starter (.launch c.registry.orderedConfigs) reply :: c.journal } :=
      ⟨id, fun _ => id, Journal.knows_launched .starter _ reply⟩
    refine ⟨inv.adds, fun hstate hnodes hname => ?_, fun n phase hphase hc => ?_,
      fun hhealthy => absurd hhealthy unhealthy⟩
    · have done : reply = .done := Reply.eq_done_of_toDone (by
        simp only [hs, StartPhase.take] at hnodes
        unfold StartPhase.hasNodes at hnodes
        split at hnodes <;> simp_all)
      show Journal.knows name (.answered .starter _ reply :: c.journal) = true
      rw [done, Journal.knows_cons, JournalEntry.knows?, if_pos (told done hname)]
      rfl
    · exact alike.stage (inv.changing n phase hphase hc)
  · next deadline hs =>
    obtain rfl := Option.some.inj he
    refine inv.of_alike (.of_registry rfl ?_) rfl (fun hstate _ => ⟨hstate, by rw [hs]; rfl⟩) id
    exact Journal.knows_of_other _ _ _ (by simp) (by simp) (by simp)
  · simp at he

theorem minded_leave (inv : Minded name c) (hspares : spares name c (.leave n) = true) :
    Minded name (c.leave n) := by
  have alike : Alike name c (c.leave n) := .of_registry rfl rfl
  have here {m : Nat} {phase : CallPhase} (hm : (c.leave n).callers.get? m = some phase) :
      c.callers.get? m = some phase := by
    simp only [leave, Roster.get?_erase] at hm
    split at hm
    · simp at hm
    · exact hm
  refine ⟨fun m other config reply hm => inv.adds m other config reply (here hm), inv.launched,
    fun m phase hm hc => alike.stage (inv.changing m phase (here hm) hc),
    fun hstate hname hfree => alike.intact (inv.settled hstate hname fun m phase hm hc => ?_)⟩
  by_cases heq : m = n
  · subst heq
    simp [spares, cutShort?, hm, hc] at hspares
  · exact hfree m phase (by simp [leave, heq, hm]) hc

/-- Every move that does not cut a change of this node short minds it. -/
theorem minded_move {e : Event} (h : Move c e d) (order : Orderly c) (kept : Kept planned c)
    (hspares : spares name c e = true) (inv : Minded name c) : Minded name d := by
  cases h with
  | starts h =>
    have alike : Alike name c { c with
        registry := c.registry.advance .launching, starter := .spawned } :=
      ⟨id, fun _ => id, id⟩
    refine inv.of_alike alike rfl (by simp [StartPhase.hasNodes]) fun hstate => ?_
    exact Lifecycle.eq_of_advance hstate (by simp)
  | arrives h => exact inv.setIdle (by simp [h]) rfl rfl rfl rfl rfl
  | leaves n => exact minded_leave inv hspares
  | starterAnswered he ha => exact minded_starterAnswered inv order kept he ha
  | stopperAnswered he ha =>
    have hknown := @knows_of_move c _ name _ (.stopperAnswered he ha) (by simp) (by simp)
    exact inv.of_alike (.of_registry rfl hknown) rfl (fun hstate hnodes => ⟨hstate, hnodes⟩) id
  | callerAnswered hphase he ha =>
    exact minded_callerAnswered inv order hphase he ha hspares rfl rfl rfl
  | starter h => exact minded_starter inv order h
  | stopper h => exact minded_stopper inv h
  | caller h => exact minded_caller inv order kept h
  | _ => exact inv.of_alike (.of_registry rfl rfl) rfl (fun hstate hnodes => ⟨hstate, hnodes⟩) id

/-! ## Whole runs -/

/-- A cluster in order that minds this node. -/
structure Watched (planned : List NodeConfig) (name : String) (c : Cluster) : Prop
    extends Orderly c, Kept planned c where
  minded : Minded name c

theorem watched_move {e : Event} (h : Move c e d) (hspares : spares name c e = true)
    (inv : Watched planned name c) : Watched planned name d where
  toOrderly := orderly_move h inv.toOrderly
  toKept := kept_move h inv.toOrderly inv.toKept
  minded := minded_move h inv.toOrderly inv.toKept hspares inv.minded

theorem watched_run {events : List Event} (inv : Watched planned name c)
    (hspares : c.throughout (spares name) events = true) : Watched planned name (c.run events) :=
  run_preserves_tested (spares_poll name) watched_move hspares inv

theorem watched_of_plan {options : ClusterOptions} {params : StartParams} {pid : UInt32}
    {obstacle : Option IoError} (h : plan options params pid obstacle = .ok c)
    (kept : Kept planned c) (name : String) : Watched planned name c where
  toOrderly := orderly_of_plan h
  toKept := kept
  minded := by
    obtain ⟨configs, -, rfl⟩ := plan_eq_ok h
    have nobody (n : Nat) : (Roster.get? {} n : Option CallPhase) = none := rfl
    refine ⟨fun n other config reply hn => ?_, fun hstate => ?_, fun n phase hn => ?_,
      fun hstate => ?_⟩
    · simp [nobody] at hn
    · simp [Registry.ofConfigs] at hstate
    · simp [nobody] at hn
    · simp [Registry.ofConfigs] at hstate

/-- In a healthy cluster every node that is not being changed is ready, and the launcher knows it. -/
theorem Watched.intact (inv : Watched planned name c) (healthy : c.registry.state = .healthy)
    (hname : name ∈ c.registry.names)
    (idle : ∀ n phase, c.callers.get? n = some phase → phase.charge? = none) : Intact name c :=
  inv.minded.settled healthy hname fun n phase hphase => by simp [idle n phase hphase]

/-- If all nodes of a healthy cluster are ready, its snapshot says so. -/
theorem snapshot_healthy (kept : Kept planned c) (healthy : c.registry.state = .healthy)
    (intact : ∀ name ∈ c.registry.names, Intact name c) : c.snapshot.healthy = true := by
  have ready : c.registry.records.values.all NodeRecord.isReady = true := by
    refine List.all_eq_true.mpr fun record hrecord => ?_
    obtain ⟨⟨name, found⟩, hmem, rfl⟩ := List.mem_map.mp hrecord
    have listed : name ∈ c.registry.names :=
      (kept.sound.records_names name).mp (List.mem_map_of_mem hmem)
    exact (intact name listed).ready found
      (Table.get?_of_mem_entries kept.sound.records_sorted hmem)
  simp [snapshot, Registry.isHealthy, healthy, ready]

end Cluster
end ClusterControl
