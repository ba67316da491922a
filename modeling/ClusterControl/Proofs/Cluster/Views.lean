import ClusterControl.Proofs.Cluster.StatusHistory
import ClusterControl.Wire.ClusterInfo

/-!
# The views of a cluster agree

A remote caller sees a cluster in three ways: as a report with one entry for each node, as the list
of the URIs at which nodes answer, and as the word whether all is well.  Each is worked out from a
snapshot on its own, and each passes over what it does not find.  This module proves that nothing is
ever passed over that another view shows.

* `Snapshot.WellKept`, `wellKept_snapshot` — what a snapshot of a sound registry has.
* `names_entries`, `get?_info` — the report has one entry per node, which tells of that node.
* `uris_eq`, `length_uris` — the URIs are those of the report, and all of them when all is well.
* `views_agree` — so it is for every snapshot of a planned cluster, whatever happens to it.
-/

namespace ClusterControl

/-! ## What a record shows -/

namespace NodeRecord

variable {r : NodeRecord}

/-- A node whose endpoint says where and who shows a URI if and only if it is ready. -/
theorem uri_ne_empty_iff (h : ∀ e, r.endpoint = some e → e.Complete) :
    r.uri ≠ "" ↔ r.isReady = true := by
  cases he : r.endpoint with
  | none => simp [uri, isReady, he]
  | some e => simp [uri, isReady, he, (h e he).1]

/-- A node whose endpoint says where and who shows an identifier if and only if it is ready. -/
theorem id_ne_empty_iff (h : ∀ e, r.endpoint = some e → e.Complete) :
    r.id ≠ "" ↔ r.isReady = true := by
  cases he : r.endpoint with
  | none => simp [id, isReady, he]
  | some e => simp [id, isReady, he, (h e he).2]

end NodeRecord

namespace Snapshot

variable {s : Snapshot} {name : String} {info : NodeInfo}

/-- A snapshot that knows each of its nodes, and where it answers together with who it is. -/
structure WellKept (s : Snapshot) : Prop where
  names_nodup : s.names.Nodup
  known : ∀ name ∈ s.names, ∃ config record,
    s.config? name = some config ∧ s.record? name = some record
  complete : ∀ name record e, s.record? name = some record → record.endpoint = some e → e.Complete

/-- The views of a snapshot tell the same. -/
structure Agreed (s : Snapshot) : Prop where
  -- the report names the nodes in their order, and has one entry for each and no other
  names : s.info.names = s.names
  entries : s.info.nodes.names.Perm s.names
  entries_nodup : s.info.nodes.names.Nodup
  -- an entry is about the node under whose name it stands
  entry_name : ∀ name info, s.info.nodes.get? name = some info → info.name = name
  -- the URIs are those that the report shows, in the order of the names
  uris : s.uris = ((s.info.names.filterMap s.info.nodes.get?).map NodeInfo.uri).filter (· ≠ "")
  -- where a node answers and who it is are shown together or not at all
  entry_whole : ∀ name info, s.info.nodes.get? name = some info →
    info.uri ≠ "" ∧ info.id ≠ "" ∨ info.uri = "" ∧ info.id = ""
  healthy : s.info.healthy = s.healthy
  healthy_uris : s.healthy = true → s.uris.length = s.names.length

/-! ## The report -/

/-- The entries of a report, in launch order. -/
def entries (s : Snapshot) : List (String × NodeInfo) :=
  s.names.filterMap fun name => (s.nodeInfo? name).map (name, ·)

/-- A node is reported if and only if its configuration and its record are known, and what is shown
of it is what the record shows. -/
theorem nodeInfo?_eq_some (h : s.nodeInfo? name = some info) :
    info.name = name ∧ ∃ record, s.record? name = some record ∧
      info.uri = record.uri ∧ info.id = record.id := by
  unfold nodeInfo? at h
  cases hconfig : s.config? name with
  | none => simp [hconfig] at h
  | some config =>
    cases hrecord : s.record? name with
    | none => simp [hconfig, hrecord] at h
    | some record =>
      simp only [hconfig, hrecord, Option.bind_eq_bind, Option.bind_some, Option.some.injEq] at h
      subst h
      exact ⟨rfl, record, rfl, rfl, rfl⟩

theorem WellKept.reported (h : s.WellKept) (hname : name ∈ s.names) :
    ∃ info, s.nodeInfo? name = some info := by
  obtain ⟨config, record, hconfig, hrecord⟩ := h.known name hname
  simp [nodeInfo?, hconfig, hrecord]

theorem mem_entries_iff : (name, info) ∈ s.entries ↔
    name ∈ s.names ∧ s.nodeInfo? name = some info := by
  simp only [entries, List.mem_filterMap, Option.map_eq_some_iff, Prod.mk.injEq]
  constructor
  · rintro ⟨other, hother, i, hi, rfl, rfl⟩
    exact ⟨hother, hi⟩
  · rintro ⟨hname, hi⟩
    exact ⟨name, hname, info, hi, rfl, rfl⟩

/-- There is an entry for each node, and no other. -/
theorem names_entries (h : s.WellKept) : s.entries.map Prod.fst = s.names := by
  have found : ∀ name ∈ s.names,
      ((s.nodeInfo? name).map (name, ·)).map Prod.fst = some name := by
    intro name hname
    obtain ⟨info, hinfo⟩ := h.reported hname
    rw [hinfo]
    rfl
  calc s.entries.map Prod.fst
      = s.names.filterMap fun name => ((s.nodeInfo? name).map (name, ·)).map Prod.fst :=
        List.map_filterMap ..
    _ = s.names.filterMap some := List.filterMap_congr found
    _ = s.names := List.filterMap_some

theorem perm_entries (h : s.WellKept) : s.info.nodes.entries.Perm s.entries :=
  Table.perm_ofList ((names_entries h).symm ▸ h.names_nodup)

theorem perm_names (h : s.WellKept) : s.info.nodes.names.Perm s.names := by
  have perm := (perm_entries h).map Prod.fst
  rw [names_entries h] at perm
  exact perm

/-- The report has for a name what the snapshot knows of the node. -/
theorem get?_info (h : s.WellKept) : s.info.nodes.get? name = some info ↔
    name ∈ s.names ∧ s.nodeInfo? name = some info := by
  rw [← mem_entries_iff]
  constructor
  · intro hget
    exact Table.mem_of_mem_ofList (Table.mem_entries_of_get? hget)
  · intro hmem
    exact Table.get?_of_mem_entries (Table.sorted_ofList _) ((perm_entries h).mem_iff.mpr hmem)

/-! ## The URIs -/

/-- The URIs of some of the nodes are those that the report shows of them. -/
theorem uris_of_names (h : s.WellKept) {names : List String}
    (hnames : ∀ name ∈ names, name ∈ s.names) :
    ((names.filterMap s.record?).filter NodeRecord.isReady).map NodeRecord.uri =
      ((names.filterMap s.info.nodes.get?).map NodeInfo.uri).filter (· ≠ "") := by
  induction names with
  | nil => rfl
  | cons name rest ih =>
    have hrest := ih fun other hother => hnames other (List.mem_cons_of_mem name hother)
    have hname := hnames name List.mem_cons_self
    obtain ⟨info, hinfo⟩ := h.reported hname
    obtain ⟨-, record, hrecord, huri, -⟩ := nodeInfo?_eq_some hinfo
    have hget : s.info.nodes.get? name = some info := (get?_info h).mpr ⟨hname, hinfo⟩
    have shown := NodeRecord.uri_ne_empty_iff fun e => h.complete name record e hrecord
    rw [List.filterMap_cons_some hrecord, List.filterMap_cons_some hget, List.map_cons, huri]
    cases hready : record.isReady with
    | true =>
      have hne := shown.mpr hready
      rw [List.filter_cons_of_pos hready, List.filter_cons_of_pos (by simpa using hne),
        List.map_cons, hrest]
    | false =>
      have hempty : ¬ record.uri ≠ "" := fun hne => by simp [shown.mp hne] at hready
      rw [List.filter_cons_of_neg (by simp [hready]),
        List.filter_cons_of_neg (by simpa using hempty), hrest]

theorem uris_eq (h : s.WellKept) :
    s.uris = ((s.info.names.filterMap s.info.nodes.get?).map NodeInfo.uri).filter (· ≠ "") :=
  uris_of_names h fun _ hname => hname

/-- Nodes that are all ready have one URI each. -/
theorem length_uris_of_ready {names : List String} (h : ∀ name ∈ names, ∃ record,
    s.record? name = some record ∧ record.isReady = true) :
    (((names.filterMap s.record?).filter NodeRecord.isReady).map NodeRecord.uri).length =
      names.length := by
  induction names with
  | nil => rfl
  | cons name rest ih =>
    obtain ⟨record, hrecord, hready⟩ := h name List.mem_cons_self
    have hrest := ih fun other hother => h other (List.mem_cons_of_mem name hother)
    rw [List.filterMap_cons_some hrecord, List.filter_cons_of_pos hready, List.map_cons,
      List.length_cons, hrest, List.length_cons]

theorem length_uris (h : s.Truthful) (healthy : s.healthy = true) :
    s.uris.length = s.names.length :=
  length_uris_of_ready (h healthy).2

/-! ## All views -/

theorem WellKept.agreed (h : s.WellKept) (truthful : s.Truthful) : s.Agreed where
  names := rfl
  entries := perm_names h
  entries_nodup := (perm_names h).nodup_iff.mpr h.names_nodup
  entry_name name info hget := (nodeInfo?_eq_some ((get?_info h).mp hget).2).1
  uris := uris_eq h
  entry_whole name info hget := by
    obtain ⟨-, record, hrecord, huri, hid⟩ := nodeInfo?_eq_some ((get?_info h).mp hget).2
    have uri := NodeRecord.uri_ne_empty_iff fun e => h.complete name record e hrecord
    have id := NodeRecord.id_ne_empty_iff fun e => h.complete name record e hrecord
    rw [huri, hid]
    cases hready : record.isReady with
    | true => exact Or.inl ⟨uri.mpr hready, id.mpr hready⟩
    | false => exact Or.inr (by simpa [hready] using And.intro uri id)
  healthy := rfl
  healthy_uris := length_uris truthful

end Snapshot

namespace Cluster

variable {c : Cluster} {planned : List NodeConfig}

/-- A cluster with a sound registry shows snapshots that know each of their nodes. -/
theorem wellKept_snapshot (h : c.registry.Sound planned) : c.snapshot.WellKept where
  names_nodup := h.names_nodup
  known name hname := by
    have hconfig := (Table.contains_iff_mem_names _ _).mpr ((h.configs_names name).mpr hname)
    have hrecord := (Table.contains_iff_mem_names _ _).mpr ((h.records_names name).mpr hname)
    obtain ⟨config, hconfig⟩ := Option.isSome_iff_exists.mp hconfig
    obtain ⟨record, hrecord⟩ := Option.isSome_iff_exists.mp hrecord
    exact ⟨config, record, hconfig, hrecord⟩
  complete name record e hrecord he :=
    h.endpoint_complete name record e (Table.mem_entries_of_get? hrecord) he

/-- Whatever happens to a planned cluster, all views of it agree: the report has exactly one entry per
node, the URIs are those that the report shows, in launch order, a node is shown with its URI and its
identifier or with neither, and a healthy cluster has as many URIs as nodes. -/
theorem views_agree {options : ClusterOptions} {params : StartParams} {pid : UInt32}
    {obstacle : Option IoError} (h : plan options params pid obstacle = .ok c)
    (events : List Event) : (c.run events).snapshot.Agreed := by
  obtain ⟨planned, -, kept⟩ := kept_of_plan h
  have later := kept_run (orderly_of_plan h) kept events
  exact (wellKept_snapshot later.sound).agreed (truthful_snapshot later)

/-- The views of the small cluster agree while one of its nodes is launched anew: both nodes are
reported, and only the other one has a URI. -/
theorem pair_views_agree :
    let s := (pair.run [.start, .poll .starter, .answer .starter .done, .poll .starter,
      .answer .starter (.nodes (.ofList [("node1", ⟨"node1", "http://1", "A"⟩),
        ("node2", ⟨"node2", "http://2", "B"⟩)])), .poll .starter,
      .call 1 (.mutate (.restart "node1" {})), .poll (.caller 1), .answer (.caller 1) .done,
      .poll (.caller 1)]).snapshot
    s.Agreed ∧ s.info.nodes.names = ["node1", "node2"] ∧ s.uris = ["http://2"] ∧
      s.state = .healthy ∧ s.healthy = false := by
  intro s
  exact ⟨views_agree plan_pair _, by decide +kernel, by decide +kernel, by decide +kernel,
    by decide +kernel⟩

end Cluster
end ClusterControl
