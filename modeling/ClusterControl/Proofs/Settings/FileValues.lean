import ClusterControl.Proofs.Table
import ClusterControl.Settings
import Mathlib.Data.List.Induction

/-!
# What a configuration file says

A file may leave out every setting and every table of settings.  Its tables are read into records
whose fields have values before, key by key, so that what comes out depends on all that is read.
This module proves that it depends, for each setting, on what the file says about that setting and
on nothing else: the setting is read from there, or it has its default.

* `given?` — what a table or a sequence says about a field.
* `Governs` — a field of a record is set under its name, and kept under all other names.
* `takes_readInto`, `takes_setting` — a field that is read has what the file says about it.
* `fromFile_of_read?` — all settings of a file.
-/

namespace ClusterControl
namespace Settings

variable {ρ σ α : Type}

/-! ## What a value says about a field -/

/-- What a table or a sequence says, by the names of the fields. -/
def spelled (fields : List (FieldOf ρ)) : Toml → List (String × Toml)
  | .table _ entries => entries
  | .list items => (fields.zip items).map fun p => (p.1.name, p.2)
  | .tables items => (fields.zip (items.map (Toml.table .header))).map fun p => (p.1.name, p.2)
  | _ => []

/-- What a table or a sequence says about a field; of several entries the last one counts. -/
def given? (fields : List (FieldOf ρ)) (name : String) (value : Toml) : Option Toml :=
  (spelled fields value).reverse.lookup name

/-- A field has what a value is read as, or what it had before if there is no value. -/
def Takes (read : Toml → Option α) (value : Option Toml) (before after : α) : Prop :=
  match value with
  | some v => read v = some after
  | none => after = before

/-! ## Fields of a record -/

/-- Setting a field comes to reading a part of the record, whatever the record was. -/
def FieldOf.Sets (f : FieldOf ρ) (get : ρ → α) (read : Toml → Option α) : Prop :=
  ∀ v r, (f.set v r).map get = read v

/-- Setting a field keeps a part of the record. -/
def FieldOf.Keeps (f : FieldOf ρ) (get : ρ → α) : Prop :=
  ∀ v r r', f.set v r = some r' → get r' = get r

/-- A part of a record is set by the field of this name and by no other one. -/
structure Governs (fields : List (FieldOf ρ)) (name : String) (get : ρ → α)
    (read : Toml → Option α) : Prop where
  named : name ∈ fields.map FieldOf.name
  sets : ∀ f ∈ fields, f.name = name → f.Sets get read
  keeps : ∀ f ∈ fields, f.name ≠ name → f.Keeps get

variable {fields : List (FieldOf ρ)} {name : String} {get : ρ → α} {read : Toml → Option α}
  {r r' : ρ}

/-- If every step with a value under the name reads the part, and every other step keeps it, the
part is what the last value under the name is read as. -/
theorem takes_fold {β : Type} {key : β → String × Toml} {step : ρ → β → Option ρ}
    {bs : List β}
    (hsets : ∀ b ∈ bs, ∀ r r', (key b).1 = name → step r b = some r' →
      read (key b).2 = some (get r'))
    (hkeeps : ∀ b ∈ bs, ∀ r r', (key b).1 ≠ name → step r b = some r' → get r' = get r)
    (h : bs.foldlM step r = some r') :
    Takes read ((bs.map key).reverse.lookup name) (get r) (get r') := by
  induction bs using List.reverseRecOn generalizing r' with
  | nil =>
    obtain rfl : r = r' := Option.some.inj h
    exact rfl
  | append_singleton rest b ih =>
    rw [List.foldlM_append] at h
    obtain ⟨between, hrest, hlast⟩ := Option.bind_eq_some_iff.mp h
    have hlast : step between b = some r' := by simpa using hlast
    have member : b ∈ rest ++ [b] := List.mem_append_right rest List.mem_cons_self
    rw [List.map_append, List.map_singleton, List.reverse_append, List.reverse_singleton,
      List.singleton_append, Table.lookup_entry]
    split
    · next hname => exact hsets b member between r' hname.symm hlast
    · next hname =>
      rw [hkeeps b member between r' (Ne.symm hname) hlast]
      exact ih (fun b' hb' => hsets b' (List.mem_append_left _ hb'))
        (fun b' hb' => hkeeps b' (List.mem_append_left _ hb')) hrest

/-- The values of a sequence are those of the fields in their order. -/
theorem takes_items (gov : Governs fields name get read) {items : List Toml}
    (h : (fields.zip items).foldlM (fun r p => p.1.set p.2 r) r = some r') :
    Takes read (((fields.zip items).map fun p => (p.1.name, p.2)).reverse.lookup name)
      (get r) (get r') := by
  refine takes_fold (fun p hp r r' hname hset => ?_) (fun p hp r r' hname hset => ?_) h
  · rw [← gov.sets p.1 (List.of_mem_zip hp).1 hname p.2 r, hset, Option.map_some]
  · exact gov.keeps p.1 (List.of_mem_zip hp).1 hname p.2 r r' hset

/-- The values of a table are those of the fields with their names. -/
theorem takes_entries (gov : Governs fields name get read) {entries : List (String × Toml)}
    (h : entries.foldlM (fun r e =>
      match fields.find? fun f => f.name = e.1 with
      | some f => f.set e.2 r
      | none => some r) r = some r') :
    Takes read (entries.reverse.lookup name) (get r) (get r') := by
  rw [← List.map_id entries]
  refine takes_fold (fun e _ r r' hname hset => ?_) (fun e _ r r' hname hset => ?_) h
  · split at hset
    · next f hfind =>
      have hf : f.name = e.1 := by simpa using List.find?_some hfind
      rw [id, ← gov.sets f (List.mem_of_find?_eq_some hfind) (hf.trans hname) e.2 r, hset,
        Option.map_some]
    · next hfind =>
      -- the name is that of a field
      obtain ⟨f, hf, hfname⟩ := List.mem_map.mp gov.named
      have missing := List.find?_eq_none.mp hfind f hf
      exact absurd (hfname.trans hname.symm) (by simpa using missing)
  · split at hset
    · next f hfind =>
      have hf : f.name = e.1 := by simpa using List.find?_some hfind
      have hne : f.name ≠ name := fun heq => hname (hf.symm.trans heq)
      exact gov.keeps f (List.mem_of_find?_eq_some hfind) hne e.2 r r' hset
    · exact congrArg get (Option.some.inj hset).symm

/-- A part of a record that is read has what is said about it, or what it had before. -/
theorem takes_readInto (gov : Governs fields name get read) {value : Toml}
    (h : readInto fields value r = some r') :
    Takes read (given? fields name value) (get r) (get r') := by
  cases value with
  | table origin entries => exact takes_entries gov h
  | list items => exact takes_items gov h
  | tables items => exact takes_items gov h
  | _ => simp [readInto] at h

/-! ## Settings of a file -/

/-- What a file says about a setting of one of its tables. -/
def fileValue? (entries : Toml.Entries) (table : String) (fields : List (FieldOf σ))
    (name : String) : Option Toml :=
  (given? Settings.fields table (.table .header entries)).bind (given? fields name)

/-- A setting has what the file says about it, or its default. -/
theorem takes_setting {entries : Toml.Entries} {s : Settings} {table : String}
    {part : Settings → σ} {fields : List (FieldOf σ)} {get : σ → α}
    (outer : Governs Settings.fields table part fun v => readInto fields v (part {}))
    (inner : Governs fields name get read)
    (h : readInto Settings.fields (.table .header entries) {} = some s) :
    Takes read (fileValue? entries table fields name) (get (part {})) (get (part s)) := by
  have whole := takes_readInto outer h
  unfold fileValue?
  cases hgiven : given? Settings.fields table (.table .header entries) with
  | none =>
    rw [hgiven] at whole
    exact congrArg get whole
  | some v =>
    rw [hgiven] at whole
    exact takes_readInto inner whole

/-- Every setting has what the file says about it, or its default. -/
structure FromFile (entries : Toml.Entries) (s : Settings) : Prop where
  listen : Takes textOf? (fileValue? entries "server" serverFields "listen")
    "127.0.0.1:8080" s.server.listen
  gateway : Takes textOf? (fileValue? entries "server" serverFields "gateway")
    "127.0.0.1:8081" s.server.gateway
  dialTimeout : Takes (numberOf? maxWord)
    (fileValue? entries "server" serverFields "dial_timeout_secs") 10 s.server.dialTimeoutSecs
  level : Takes textOf? (fileValue? entries "logging" logFields "level") "info" s.logging.level
  format : Takes textOf? (fileValue? entries "logging" logFields "format")
    "pretty" s.logging.format
  nodeCount : Takes (numberOf? maxWord) (fileValue? entries "cluster" clusterFields "node_count")
    5 s.cluster.nodeCount
  healthTimeout : Takes (numberOf? maxWord)
    (fileValue? entries "cluster" clusterFields "health_timeout_secs")
    120 s.cluster.healthTimeoutSecs
  basePort : Takes (numberOf? 65535)
    (fileValue? entries "cluster" clusterFields "base_http_port") 9650 s.cluster.basePort
  rootDir : Takes (fun v => do some (some (← textOf? v)))
    (fileValue? entries "cluster" clusterFields "root_dir") none s.cluster.rootDir
  restartPolicy : Takes policyOf?
    (fileValue? entries "cluster" clusterFields "restart_policy") .node s.cluster.restartPolicy

/-! Each field is read on its own and put into its own place of the record. -/

theorem governs_tables :
    (Governs Settings.fields "server" Settings.server fun v => readInto serverFields v {}) ∧
    (Governs Settings.fields "logging" Settings.logging fun v => readInto logFields v {}) ∧
    Governs Settings.fields "cluster" Settings.cluster fun v => readInto clusterFields v {} := by
  refine ⟨?_, ?_, ?_⟩ <;> constructor <;>
    simp +contextual [Settings.fields, FieldOf.Sets, FieldOf.Keeps, Option.bind_eq_some_iff,
      Option.map_bind]

theorem governs_server :
    Governs serverFields "listen" ServerSettings.listen textOf? ∧
    Governs serverFields "gateway" ServerSettings.gateway textOf? ∧
    Governs serverFields "dial_timeout_secs" ServerSettings.dialTimeoutSecs
      (numberOf? maxWord) := by
  refine ⟨?_, ?_, ?_⟩ <;> constructor <;>
    simp +contextual [serverFields, FieldOf.Sets, FieldOf.Keeps, Option.bind_eq_some_iff,
      Option.map_bind]

theorem governs_log :
    Governs logFields "level" LogSettings.level textOf? ∧
    Governs logFields "format" LogSettings.format textOf? := by
  refine ⟨?_, ?_⟩ <;> constructor <;>
    simp +contextual [logFields, FieldOf.Sets, FieldOf.Keeps, Option.bind_eq_some_iff,
      Option.map_bind]

theorem governs_cluster :
    Governs clusterFields "node_count" ClusterSettings.nodeCount (numberOf? maxWord) ∧
    Governs clusterFields "health_timeout_secs" ClusterSettings.healthTimeoutSecs
      (numberOf? maxWord) ∧
    Governs clusterFields "base_http_port" ClusterSettings.basePort (numberOf? 65535) ∧
    (Governs clusterFields "root_dir" ClusterSettings.rootDir fun v => do
      some (some (← textOf? v))) ∧
    Governs clusterFields "restart_policy" ClusterSettings.restartPolicy policyOf? := by
  refine ⟨?_, ?_, ?_, ?_, ?_⟩ <;> constructor <;>
    simp +contextual [clusterFields, FieldOf.Sets, FieldOf.Keeps, Option.bind_eq_some_iff,
      Option.map_bind]

/-- What is read from a file has what the file says, setting by setting. -/
theorem fromFile_of_readInto {entries : Toml.Entries} {s : Settings}
    (h : readInto Settings.fields (.table .header entries) {} = some s) : s.FromFile entries := by
  obtain ⟨server, logging, cluster⟩ := governs_tables
  obtain ⟨listen, gateway, dialTimeout⟩ := governs_server
  obtain ⟨level, format⟩ := governs_log
  obtain ⟨nodeCount, healthTimeout, basePort, rootDir, restartPolicy⟩ := governs_cluster
  exact {
    listen := takes_setting server listen h
    gateway := takes_setting server gateway h
    dialTimeout := takes_setting server dialTimeout h
    level := takes_setting logging level h
    format := takes_setting logging format h
    nodeCount := takes_setting cluster nodeCount h
    healthTimeout := takes_setting cluster healthTimeout h
    basePort := takes_setting cluster basePort h
    rootDir := takes_setting cluster rootDir h
    restartPolicy := takes_setting cluster restartPolicy h }

/-- The settings that a file spells out have what it says. -/
theorem fromFile_of_read? {content : String} {s : Settings} (h : read? content = some s) :
    ∃ entries, Toml.parse? content = some entries ∧ s.FromFile entries := by
  obtain ⟨entries, hentries, hread⟩ := Option.bind_eq_some_iff.mp h
  exact ⟨entries, hentries, fromFile_of_readInto hread⟩

end Settings
end ClusterControl
