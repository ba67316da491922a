import ClusterControl.Proofs.Cluster.Coherence
import ClusterControl.Proofs.Plan
import ClusterControl.Proofs.Table

/-!
# The registry of a cluster is sound

A registry keeps the names of its nodes, how each is run and what is known of each in three places.
They are changed by the report on a healthy cluster, by the removal of a node, by both halves of a
restart, and by the removal of a node that could not be launched anew, and other calls run in
between.  This module proves that the three always tell of the same nodes.

* `Registry.Sound` — what a registry is like, given the planned nodes.
* `Sound.publish`, `Sound.forget`, `Sound.restarting`, `Sound.restarted`, `Sound.advance` — every
  operation on a registry keeps it sound.
* `Kept` — a sound registry, together with what the calls that are changing a node remember.
* `registry_sound_of_run` — whatever happens to a planned cluster, its registry is sound.
-/

namespace ClusterControl

/-- Two configurations put the same node in the same place. -/
structure NodeConfig.SamePlace (a b : NodeConfig) : Prop where
  name : a.name = b.name
  logDir : a.logDir = b.logDir
  dbDir : a.dbDir = b.dbDir
  httpPort : a.httpPort = b.httpPort
  stakingPort : a.stakingPort = b.stakingPort

/-- A node that is launched anew stays in its place, whatever it is asked to do there. -/
theorem NodeConfig.SamePlace.relaunch {a b : NodeConfig} (h : a.SamePlace b)
    (params : StartParams) : (a.relaunch params).SamePlace b :=
  ⟨h.name, h.logDir, h.dbDir, h.httpPort, h.stakingPort⟩

/-- An endpoint that says where and who. -/
def Endpoint.Complete (e : Endpoint) : Prop :=
  e.uri ≠ "" ∧ e.id ≠ ""

theorem NodeReport.complete_of_endpoint {report : NodeReport} {e : Endpoint}
    (h : report.endpoint = .ok e) : e.Complete := by
  unfold endpoint at h
  split at h
  · simp at h
  · next hboth =>
    obtain rfl := Except.ok.inj h
    simp only [Bool.or_eq_true, String.isEmpty_iff, not_or] at hboth
    exact hboth

namespace Lifecycle

/-- A cluster in this state has not reported healthy. -/
def isUnready : Lifecycle → Bool
  | created => true
  | launching => true
  | failed => true
  | _ => false

/-- A cluster in this state has never been changed. -/
def isYoung : Lifecycle → Bool
  | created => true
  | launching => true
  | _ => false

theorem isUnready_of_advance {state next : Lifecycle} (h : (state.advance next).isUnready = true) :
    state.isUnready = true := by
  cases state <;> cases next <;> first | rfl | exact absurd h (by decide)

theorem isYoung_of_advance {state next : Lifecycle} (h : (state.advance next).isYoung = true) :
    state.isYoung = true := by
  cases state <;> cases next <;> first | rfl | exact absurd h (by decide)

end Lifecycle

namespace Registry

/-- A registry whose parts tell of the same nodes, all of them among the planned ones. -/
structure Sound (planned : List NodeConfig) (r : Registry) : Prop where
  names_nodup : r.names.Nodup
  -- the names are planned ones, in the planned order
  names_sublist : r.names.Sublist (planned.map NodeConfig.name)
  -- the records are in name order, one for each name
  records_sorted : r.records.Sorted
  configs_sorted : r.configs.Sorted
  -- the nodes of which something is known are the nodes that there are
  records_names : ∀ name, name ∈ r.records.names ↔ name ∈ r.names
  configs_names : ∀ name, name ∈ r.configs.names ↔ name ∈ r.names
  -- a record is about the node under whose name it is kept
  record_name : ∀ name record, (name, record) ∈ r.records.entries → record.name = name
  -- a configuration is that of the node under whose name it is kept, and in the planned place
  config_place : ∀ name config, (name, config) ∈ r.configs.entries →
    config.name = name ∧ ∃ p ∈ planned, config.SamePlace p
  endpoint_complete : ∀ name record e, (name, record) ∈ r.records.entries →
    record.endpoint = some e → e.Complete
  -- before a cluster was healthy, and after a launch that failed, no endpoint is known
  unready_pending : r.state = .created ∨ r.state = .launching ∨ r.state = .failed →
    ∀ name record, (name, record) ∈ r.records.entries → record = .pending name

/-- The records that are taken over from a report are those of the nodes asked for, in their order,
and all of them are complete. -/
theorem readyRecords_eq_ok {reports : Table NodeReport} {names : List String}
    {records : List (String × NodeRecord)} (h : readyRecords reports names = .ok records) :
    records.map Prod.fst = names ∧
      ∀ p ∈ records, ∃ e : Endpoint, p.2 = .ready p.1 e ∧ e.Complete := by
  induction names generalizing records with
  | nil =>
    obtain rfl := Except.ok.inj h
    simp
  | cons name rest ih =>
    unfold readyRecords at h
    split at h
    · simp at h
    · next report _ =>
      cases he : report.endpoint with
      | error e => simp [he, bind, Except.bind] at h
      | ok e =>
        cases hrest : readyRecords reports rest with
        | error e => simp [he, hrest, bind, Except.bind] at h
        | ok others =>
          simp only [he, hrest, bind, Except.bind] at h
          obtain rfl := Except.ok.inj h
          obtain ⟨hnames, hcomplete⟩ := ih hrest
          refine ⟨by rw [List.map_cons, hnames], fun p hp => ?_⟩
          rcases List.mem_cons.mp hp with rfl | hp
          · exact ⟨e, rfl, NodeReport.complete_of_endpoint he⟩
          · exact hcomplete p hp

namespace Sound

variable {planned : List NodeConfig} {r : Registry}

/-- The registry of planned nodes is sound, if no two of them have the same name. -/
theorem ofConfigs (h : (planned.map NodeConfig.name).Nodup) :
    (ofConfigs planned).Sound planned := by
  have pending {name : String} {record : NodeRecord}
      (hmem : (name, record) ∈ (Registry.ofConfigs planned).records.entries) :
      record = .pending name := by
    obtain ⟨config, -, heq⟩ := List.mem_map.mp (Table.mem_of_mem_ofList hmem)
    simp only [Prod.mk.injEq] at heq
    rw [← heq.1, ← heq.2]
  refine {
    names_nodup := h
    names_sublist := List.Sublist.refl _
    records_sorted := Table.sorted_ofList _
    configs_sorted := Table.sorted_ofList _
    records_names := fun name => ?_
    configs_names := fun name => ?_
    record_name := fun name record hmem => by rw [pending hmem]; rfl
    config_place := fun name config hmem => ?_
    endpoint_complete := fun name record e hmem he => by
      rw [pending hmem] at he
      simp [NodeRecord.pending] at he
    unready_pending := fun _ name record hmem => pending hmem }
  · simp [Registry.ofConfigs, Table.mem_names_ofList]
  · simp [Registry.ofConfigs, Table.mem_names_ofList]
  · obtain ⟨p, hp, heq⟩ := List.mem_map.mp (Table.mem_of_mem_ofList hmem)
    simp only [Prod.mk.injEq] at heq
    obtain ⟨rfl, rfl⟩ := heq
    exact ⟨rfl, p, hp, ⟨rfl, rfl, rfl, rfl, rfl⟩⟩

theorem advance (h : r.Sound planned) (next : Lifecycle) : (r.advance next).Sound planned :=
  { h with
    unready_pending := fun hstate => by
      have unready : (r.state.advance next).isUnready = true := by
        rcases hstate with hs | hs | hs <;> simp only [Registry.advance] at hs <;> rw [hs] <;> rfl
      have before := Lifecycle.isUnready_of_advance unready
      refine h.unready_pending ?_
      cases hs : r.state <;> simp_all [Lifecycle.isUnready] }

theorem publish {reports : Table NodeReport} {registry : Registry} (h : r.Sound planned)
    (hp : r.publish reports = .ok registry) : registry.Sound planned := by
  obtain ⟨records, hrecords, -, rfl⟩ := Cluster.publish_eq_ok hp
  obtain ⟨hnames, hcomplete⟩ := readyRecords_eq_ok hrecords
  refine { h with
    records_sorted := Table.sorted_ofList _
    records_names := fun name => by rw [Table.mem_names_ofList, hnames]
    record_name := fun name record hmem => ?_
    endpoint_complete := fun name record e hmem he => ?_
    unready_pending := fun hstate => by simp at hstate }
  · obtain ⟨e, heq, -⟩ := hcomplete _ (Table.mem_of_mem_ofList hmem)
    have ready : record = .ready name e := heq
    rw [ready]
    rfl
  · obtain ⟨e', heq, complete⟩ := hcomplete _ (Table.mem_of_mem_ofList hmem)
    have ready : record = .ready name e' := heq
    rw [ready] at he
    obtain rfl := Option.some.inj he
    exact complete

theorem forget (h : r.Sound planned) (name : String) : (r.forget name).Sound planned where
  names_nodup := h.names_nodup.filter _
  names_sublist := List.filter_sublist.trans h.names_sublist
  records_sorted := Table.sorted_erase h.records_sorted name
  configs_sorted := Table.sorted_erase h.configs_sorted name
  records_names other := by
    simp [Registry.forget, Table.mem_names_erase, h.records_names]
  configs_names other := by
    simp [Registry.forget, Table.mem_names_erase, h.configs_names]
  record_name other record hmem := h.record_name other record (Table.mem_erase.mp hmem).1
  config_place other config hmem := h.config_place other config (Table.mem_erase.mp hmem).1
  endpoint_complete other record e hmem :=
    h.endpoint_complete other record e (Table.mem_erase.mp hmem).1
  unready_pending hstate other record hmem :=
    h.unready_pending hstate other record (Table.mem_erase.mp hmem).1

/-- A registry one of whose nodes is on its way to run in a new way stays sound, if the node keeps
its place. -/
theorem restarting {name : String} {config : NodeConfig} (h : r.Sound planned)
    (hname : name ∈ r.names) (hconfig : config.name = name ∧ ∃ p ∈ planned, config.SamePlace p) :
    (r.restarting name config).Sound planned where
  names_nodup := h.names_nodup
  names_sublist := h.names_sublist
  records_sorted := Table.sorted_insert h.records_sorted name _
  configs_sorted := Table.sorted_insert h.configs_sorted name _
  records_names other := by
    simp only [Registry.restarting, Table.mem_names_insert, h.records_names, or_iff_right_iff_imp]
    rintro rfl
    exact hname
  configs_names other := by
    simp only [Registry.restarting, Table.mem_names_insert, h.configs_names, or_iff_right_iff_imp]
    rintro rfl
    exact hname
  record_name other record hmem := by
    rcases Table.mem_insert hmem with ⟨rfl, rfl⟩ | hmem
    · rfl
    · exact h.record_name other record hmem
  config_place other c hmem := by
    rcases Table.mem_insert hmem with ⟨rfl, rfl⟩ | hmem
    · exact hconfig
    · exact h.config_place other c hmem
  endpoint_complete other record e hmem he := by
    rcases Table.mem_insert hmem with ⟨rfl, rfl⟩ | hmem
    · simp [NodeRecord.pending] at he
    · exact h.endpoint_complete other record e hmem he
  unready_pending hstate other record hmem := by
    rcases Table.mem_insert hmem with ⟨rfl, rfl⟩ | hmem
    · rfl
    · exact h.unready_pending hstate other record hmem

/-- A registry one of whose nodes has come to answer at a complete endpoint stays sound, if the
cluster has been healthy. -/
theorem restarted {name : String} {e : Endpoint} (h : r.Sound planned) (hname : name ∈ r.names)
    (he : e.Complete) (hstate : r.state = .healthy ∨ r.state = .stopping) :
    (r.restarted name e).Sound planned :=
  { h with
    records_sorted := Table.sorted_insert h.records_sorted name _
    records_names := fun other => by
      simp only [Registry.restarted, Table.mem_names_insert, h.records_names,
        or_iff_right_iff_imp]
      rintro rfl
      exact hname
    record_name := fun other record hmem => by
      rcases Table.mem_insert hmem with ⟨rfl, rfl⟩ | hmem
      · rfl
      · exact h.record_name other record hmem
    endpoint_complete := fun other record e' hmem he' => by
      rcases Table.mem_insert hmem with ⟨rfl, rfl⟩ | hmem
      · obtain rfl := Option.some.inj he'
        exact he
      · exact h.endpoint_complete other record e' hmem he'
    unready_pending := fun hunready => by
      have state : r.state = .created ∨ r.state = .launching ∨ r.state = .failed := hunready
      rcases hstate with hs | hs <;> simp [hs] at state }

end Sound
end Registry

/-- A reply finds a call as it leaves it, removing a node in order to launch it anew. -/
theorem CallPhase.replacing_of_take {phase : CallPhase} {reply : Reply} {name : String}
    {config : NodeConfig} {after : Pending Unit}
    (h : phase.take reply = replacing name config after) :
    ∃ before, phase = replacing name config before := by
  unfold take at h
  split at h
  · simp at h
  · obtain ⟨rfl, rfl, -⟩ := replacing.inj h
    exact ⟨none, rfl⟩
  · simp at h
  · simp at h
  · simp at h
  · simp at h
  · exact ⟨after, h⟩

namespace Cluster

variable {c d : Cluster} {n : Nat} {planned : List NodeConfig}

/-- The registry is sound, and the calls that are changing a node agree with it. -/
structure Kept (planned : List NodeConfig) (c : Cluster) : Prop where
  sound : c.registry.Sound planned
  -- all planned nodes are there until the cluster is healthy or has failed
  young_names : c.registry.state.isYoung = true → c.registry.names = planned.map NodeConfig.name
  charge_known : ∀ n phase name, c.callers.get? n = some phase → phase.charge? = some name →
    name ∈ c.registry.names
  -- a node that is to be launched anew will be in its place
  replacing_place : ∀ n name config reply,
    c.callers.get? n = some (.replacing name config reply) →
    config.name = name ∧ ∃ p ∈ planned, config.SamePlace p

namespace Kept

/-- What is done to a registry without changing the names, and to nothing else but what the calls do
not see, keeps it. -/
theorem of_registry (inv : Kept planned c) (hcallers : d.callers = c.callers)
    (hsound : d.registry.Sound planned) (hnames : d.registry.names = c.registry.names)
    (hyoung : d.registry.state.isYoung = true → c.registry.state.isYoung = true) :
    Kept planned d where
  sound := hsound
  young_names h := hnames.trans (inv.young_names (hyoung h))
  charge_known n phase name hphase hc := by
    rw [hcallers] at hphase
    rw [hnames]
    exact inv.charge_known n phase name hphase hc
  replacing_place n name config reply hphase := by
    rw [hcallers] at hphase
    exact inv.replacing_place n name config reply hphase

theorem advance (inv : Kept planned c) (next : Lifecycle) (hcallers : d.callers = c.callers)
    (hregistry : d.registry = c.registry.advance next) : Kept planned d := by
  refine inv.of_registry hcallers ?_ ?_ fun hyoung => ?_
  · exact hregistry ▸ inv.sound.advance next
  · rw [hregistry]
    rfl
  · rw [hregistry] at hyoung
    exact Lifecycle.isYoung_of_advance hyoung

/-- A call passes on to another phase, and may change the registry as it does. -/
theorem setCall (inv : Kept planned c) {phase : CallPhase}
    (hcallers : d.callers = c.callers.set n phase) (hsound : d.registry.Sound planned)
    (hyoung : d.registry.state.isYoung = true → d.registry.names = planned.map NodeConfig.name)
    (hothers : ∀ m p name, m ≠ n → c.callers.get? m = some p → p.charge? = some name →
      name ∈ d.registry.names)
    (hcharge : ∀ name, phase.charge? = some name → name ∈ d.registry.names)
    (hplace : ∀ name config reply, phase = .replacing name config reply →
      config.name = name ∧ ∃ p ∈ planned, config.SamePlace p) : Kept planned d where
  sound := hsound
  young_names := hyoung
  charge_known m p name hp hc := by
    rw [hcallers, Roster.get?_set] at hp
    split at hp
    · obtain rfl := Option.some.inj hp
      exact hcharge name hc
    · next hne => exact hothers m p name hne hp hc
  replacing_place m name config reply hp := by
    rw [hcallers, Roster.get?_set] at hp
    split at hp
    · exact hplace name config reply (Option.some.inj hp)
    · exact inv.replacing_place m name config reply hp

theorem setCall_names (inv : Kept planned c) {phase : CallPhase}
    (hcallers : d.callers = c.callers.set n phase) (hsound : d.registry.Sound planned)
    (hnames : d.registry.names = c.registry.names)
    (hstate : d.registry.state = c.registry.state)
    (hcharge : ∀ name, phase.charge? = some name → name ∈ c.registry.names)
    (hplace : ∀ name config reply, phase = .replacing name config reply →
      config.name = name ∧ ∃ p ∈ planned, config.SamePlace p) : Kept planned d := by
  refine inv.setCall hcallers hsound (fun hyoung => ?_) (fun m p name _ hp hc => ?_)
    (fun name hc => ?_) hplace
  · rw [hnames]
    exact inv.young_names (hstate ▸ hyoung)
  · rw [hnames]
    exact inv.charge_known m p name hp hc
  · rw [hnames]
    exact hcharge name hc

theorem setIdle (inv : Kept planned c) {phase : CallPhase} (hphase : phase.charge? = none)
    (hcallers : d.callers = c.callers.set n phase) (hregistry : d.registry = c.registry) :
    Kept planned d :=
  inv.setCall_names hcallers (hregistry ▸ inv.sound) (by rw [hregistry]) (by rw [hregistry])
    (fun name hc => by simp [hphase] at hc)
    (fun name config reply heq => by simp [heq, CallPhase.charge?] at hphase)

theorem forget (inv : Kept planned c) (alone : Alone c n) {name : String}
    {result : Outcome Snapshot}
    (hstate : c.registry.state = .healthy ∨ c.registry.state = .stopping)
    (hcallers : d.callers = c.callers.set n (.returned result))
    (hregistry : d.registry = c.registry.forget name) : Kept planned d := by
  refine inv.setCall hcallers (hregistry ▸ inv.sound.forget name) (fun hyoung => ?_)
    (fun m p other hne hp hc => ?_) (fun other hc => by simp [CallPhase.charge?] at hc)
    (fun other config reply heq => by simp at heq)
  · have state : d.registry.state = c.registry.state := by rw [hregistry]; rfl
    rcases hstate with hs | hs <;> simp [state, hs, Lifecycle.isYoung] at hyoung
  · simp [alone.others m p hne hp] at hc

end Kept

theorem kept_starter (inv : Kept planned c) (h : StarterMove c d) : Kept planned d := by
  cases h with
  | asks h => exact inv.of_registry rfl inv.sound rfl id
  | waits h hj => exact inv.of_registry rfl inv.sound rfl id
  | givesUp h hj => exact inv.advance .failed rfl rfl
  | launchFails h => exact inv.advance .failed rfl rfl
  | waitFails h hj => exact inv.advance .failed rfl rfl
  | rejects h hj hp => exact inv.advance .failed rfl rfl
  | publishes h hj hp =>
    have sound := inv.sound.publish hp
    obtain ⟨records, -, -, rfl⟩ := publish_eq_ok hp
    exact inv.of_registry rfl sound rfl fun hyoung => by simp [Lifecycle.isYoung] at hyoung
  | launchCrashes h => exact inv.of_registry rfl inv.sound rfl id
  | waitCrashes h hj => exact inv.of_registry rfl inv.sound rfl id

theorem kept_stopper (inv : Kept planned c) (h : StopperMove c d) : Kept planned d := by
  cases h with
  | begins h ha => exact inv.advance .stopping rfl rfl
  | shuts h hl hh => exact inv.of_registry rfl inv.sound rfl id
  | passes h hl hh => exact inv.of_registry rfl inv.sound rfl id
  | goesOn h hr => exact inv.of_registry rfl inv.sound rfl id
  | tells h => exact inv.of_registry rfl inv.sound rfl id
  | shutsAgain h hd hh => exact inv.of_registry rfl inv.sound rfl id
  | ends hends => exact inv.advance .stopped rfl rfl
  | crashes h => exact inv.of_registry rfl inv.sound rfl id

theorem kept_caller (inv : Kept planned c) (order : Orderly c) (h : CallerMove c n d) :
    Kept planned d := by
  -- A call that goes on with the node that it is changing knows that node already.
  have known {phase : CallPhase} {name : String} (hp : c.callers.get? n = some phase)
      (hc : phase.charge? = some name) : ∀ other, some name = some other →
        other ∈ c.registry.names := fun other heq =>
    Option.some.inj heq ▸ inv.charge_known n phase name hp hc
  have registered {d : Cluster} {m : Mutation} {name : String} (ha : Admitted c n m d)
      (he : d.refusal? name = none) : ∀ other, some name = some other →
        other ∈ c.registry.names := fun other heq => by
    have contained := (healthy_of_refusal? he).2.2
    rw [ha.eq] at contained
    rw [← Option.some.inj heq]
    exact (inv.sound.records_names name).mp ((Table.contains_iff_mem_names _ _).mp contained)
  cases h with
  | denied h ht => exact inv.setIdle rfl rfl rfl
  | signsUp h ht => exact inv.setIdle rfl rfl rfl
  | readsFailure h hd hr => exact inv.setIdle rfl rfl rfl
  | readsSuccess h hd hr => exact inv.setIdle rfl rfl rfl
  | claimsStop h => exact inv.setIdle rfl rfl rfl
  | readsStop h ho => exact inv.setIdle rfl rfl rfl
  | queues h hl => exact inv.setIdle rfl rfl rfl
  | @refused d m e ha he =>
    rw [ha.eq]
    exact inv.setIdle rfl rfl rfl
  | @unconfigured d name params ha he hc =>
    rw [ha.eq]
    exact inv.setIdle rfl rfl rfl
  | @removes d name ha he =>
    have hknown := registered ha he
    rw [ha.eq]
    exact inv.setCall_names rfl inv.sound rfl rfl hknown fun _ _ _ heq => by simp at heq
  | @replaces d name params previous ha he hc =>
    have hknown := registered ha he
    rw [ha.eq] at hc ⊢
    obtain ⟨hname, p, hp, hplace⟩ :=
      inv.sound.config_place name previous (Table.mem_entries_of_get? hc)
    refine inv.setCall_names rfl inv.sound rfl rfl hknown fun other config reply heq => ?_
    obtain ⟨rfl, rfl, -⟩ := CallPhase.replacing.inj heq
    exact ⟨hname, p, hp, hplace.relaunch params⟩
  | removed h =>
    exact inv.forget (order.alone_of_charge h rfl) (order.charge_state n _ h rfl) rfl rfl
  | removeFails h => exact inv.setIdle rfl rfl rfl
  | replaceFails h => exact inv.setIdle rfl rfl rfl
  | @stopped name config h hs =>
    have hname := inv.charge_known n _ name h rfl
    have sound := inv.sound.restarting hname (inv.replacing_place n name config _ h)
    exact inv.setCall_names rfl sound rfl rfl (known h rfl) fun _ _ _ heq => by simp at heq
  | @adds name config h hs =>
    have hname := inv.charge_known n _ name h rfl
    have sound := inv.sound.restarting hname (inv.replacing_place n name config _ h)
    exact inv.setCall_names rfl sound rfl rfl (known h rfl) fun _ _ _ heq => by simp at heq
  | awaitsNode h hj hp =>
    exact inv.setCall_names rfl inv.sound rfl rfl (known h rfl) fun _ _ _ heq => by simp at heq
  | awaitsAll h hj hp =>
    exact inv.setCall_names rfl inv.sound rfl rfl (known h rfl) fun _ _ _ heq => by simp at heq
  | cleans hset =>
    obtain ⟨phase, h, hc⟩ := hset.phase
    exact inv.setCall_names rfl inv.sound rfl rfl (known h hc) fun _ _ _ heq => by simp at heq
  | @recovers name e hrec =>
    obtain ⟨phase, h, hc⟩ := hrec.phase
    have complete : e.Complete := by
      cases hrec with
      | node _ _ he => exact NodeReport.complete_of_endpoint he
      | all _ _ _ he => exact NodeReport.complete_of_endpoint he
    have sound := inv.sound.restarted (inv.charge_known n phase name h hc) complete
      (order.charge_state n phase h (by simp [hc]))
    exact inv.setCall_names rfl sound rfl rfl (fun _ heq => by simp [CallPhase.charge?] at heq)
      fun _ _ _ heq => by simp at heq
  | cleaned h hr =>
    exact inv.forget (order.alone_of_charge h rfl) (order.charge_state n _ h rfl) rfl rfl
  | breaks hbreak => exact inv.setIdle rfl rfl rfl

/-- Every move keeps the registry of an orderly cluster. -/
theorem kept_move {e : Event} (h : Move c e d) (order : Orderly c) (inv : Kept planned c) :
    Kept planned d := by
  cases h with
  | starts h => exact inv.advance .launching rfl rfl
  | arrives h => exact inv.setIdle rfl rfl rfl
  | leaves n =>
    refine ⟨inv.sound, inv.young_names, fun m p name hp hc => ?_, fun m name config reply hp => ?_⟩
    · simp only [leave, Roster.get?_erase] at hp
      split at hp
      · simp at hp
      · exact inv.charge_known m p name hp hc
    · simp only [leave, Roster.get?_erase] at hp
      split at hp
      · simp at hp
      · exact inv.replacing_place m name config reply hp
  | elapses ms => exact inv.of_registry rfl inv.sound rfl id
  | starterAnswered he ha => exact inv.of_registry rfl inv.sound rfl id
  | stopperAnswered he ha => exact inv.of_registry rfl inv.sound rfl id
  | @callerAnswered n phase errand reply h he ha =>
    refine inv.setCall_names rfl inv.sound rfl rfl (fun name hc => ?_) fun name config r heq => ?_
    · exact inv.charge_known n phase name h (by simpa using hc)
    · obtain ⟨before, rfl⟩ := CallPhase.replacing_of_take heq
      exact inv.replacing_place n name config before h
  | starter h => exact kept_starter inv h
  | keeper => exact inv.of_registry rfl inv.sound rfl id
  | stopper h => exact kept_stopper inv h
  | caller h => exact kept_caller inv order h

theorem kept_run (order : Orderly c) (inv : Kept planned c) (events : List Event) :
    Kept planned (c.run events) :=
  run_preserves_given orderly_move (fun _ _ _ _ h order inv => kept_move h order inv) c order inv

/-- The registry of a planned cluster is kept. -/
theorem kept_of_plan {options : ClusterOptions} {params : StartParams} {pid : UInt32}
    {obstacle : Option IoError} (h : plan options params pid obstacle = .ok c) :
    ∃ planned, (options.plan params).build = .ok planned ∧ Kept planned c := by
  obtain ⟨planned, hbuild, rfl⟩ := plan_eq_ok h
  have nobody (n : Nat) : (Roster.get? {} n : Option CallPhase) = none := rfl
  refine ⟨planned, hbuild, .ofConfigs (Plan.names_nodup_of_build hbuild), fun _ => rfl, ?_, ?_⟩
  · intro n phase name hphase
    simp [nobody] at hphase
  · intro n name config reply hphase
    simp [nobody] at hphase

/-- Whatever happens to a planned cluster, its registry is sound with respect to the nodes that were
planned.  Its nodes are at hand whenever it is healthy, so that a change of a node is never refused
because the cluster is not ready while it is healthy. -/
theorem registry_sound_of_run {options : ClusterOptions} {params : StartParams} {pid : UInt32}
    {obstacle : Option IoError} (h : plan options params pid obstacle = .ok c)
    (events : List Event) :
    ∃ planned, (options.plan params).build = .ok planned ∧
      (c.run events).registry.Sound planned ∧
      ((c.run events).registry.state = .healthy → (c.run events).handle = true) ∧
      ∀ name, (c.run events).refusal? name ≠ some (.notReady .healthy) := by
  have order := orderly_of_plan h
  obtain ⟨planned, hbuild, kept⟩ := kept_of_plan h
  refine ⟨planned, hbuild, (kept_run order kept events).sound,
    (orderly_run order events).healthy_handle, fun name hrefused => ?_⟩
  have handed := (orderly_run order events).healthy_handle
  unfold refusal? at hrefused
  split at hrefused
  · simp at hrefused
  · split at hrefused
    · next hstate =>
      simp only [Option.some.injEq, Failure.notReady.injEq] at hrefused
      exact hstate hrefused
    · next hstate => simp [handed (not_not.mp hstate)] at hrefused

/-- The registry of the small cluster is sound when its launcher has launched one of its nodes anew
and the caller has gone away meanwhile. -/
theorem registry_sound_of_pair :
    ∃ planned, (pairOptions.plan pairParams).build = .ok planned ∧
      (pair.run [.start, .poll .starter, .answer .starter .done, .poll .starter,
        .answer .starter (.nodes (.ofList [("node1", ⟨"node1", "http://1", "A"⟩),
          ("node2", ⟨"node2", "http://2", "B"⟩)])), .poll .starter,
        .call 1 (.mutate (.restart "node1" {})), .poll (.caller 1), .answer (.caller 1) .done,
        .poll (.caller 1), .leave 1]).registry.Sound planned := by
  obtain ⟨planned, hbuild, sound, -⟩ := registry_sound_of_run plan_pair
    [.start, .poll .starter, .answer .starter .done, .poll .starter,
      .answer .starter (.nodes (.ofList [("node1", ⟨"node1", "http://1", "A"⟩),
        ("node2", ⟨"node2", "http://2", "B"⟩)])), .poll .starter,
      .call 1 (.mutate (.restart "node1" {})), .poll (.caller 1), .answer (.caller 1) .done,
      .poll (.caller 1), .leave 1]
  exact ⟨planned, hbuild, sound⟩

end Cluster
end ClusterControl
