import ClusterControl.Proofs.Json.Indented
import ClusterControl.Proofs.Json.Members
import ClusterControl.Proofs.Plan
import ClusterControl.Proofs.Text.Blank
import ClusterControl.Proofs.Text.Utf8

/-!
# Laying out a plan

A plan is laid out node by node, and the first node that gets no ports ends it.  This module says for
which plans that succeeds, how many nodes are looked at, and what the nodes are like then.

* `build_eq` — what becomes of a plan.
* `nodesSeen`, `nodesSeen_eq` — the nodes that are looked at, one by one.
* `wordPorts_eq` — sixteen bits are enough for the ports, and sixty-four for the index.
* `join_inj`, `dirs_nodup` — no directory is used twice.
* `described_render` — a configuration file says what it was made of.
* `build_exact` — all of this for the settings that can be asked for.
-/

namespace ClusterControl

/-! ## Directories -/

namespace Path

/-- What stands before an entry of a directory. -/
def stem (p : Path) : List UInt8 :=
  if p.isEmpty || p.bytes.getLast? = some separator then p.bytes else p.bytes ++ [separator]

theorem bytes_join (p : Path) {part : String} (h : (Utf8.encode part).head? ≠ some separator) :
    (p.join part).bytes = p.stem ++ Utf8.encode part := by
  unfold join stem
  rw [if_neg h]
  split
  · rfl
  · simp

/-- A directory whose name is a text has entries whose names are texts. -/
theorem join_ofText (root part : String) : ∃ s, (ofText root).join part = ofText s := by
  unfold join
  dsimp only
  split
  · exact ⟨part, rfl⟩
  split
  · exact ⟨root ++ part, by simp [ofText, Utf8.encode_append]⟩
  · refine ⟨root ++ ("/" ++ part), ?_⟩
    have hslash : Utf8.encode "/" = [separator] := by decide
    simp [ofText, Utf8.encode_append, hslash]

theorem encode_injective : Function.Injective Utf8.encode := by
  intro s t h
  rw [← Utf8.decodeLossy_encode s, h, Utf8.decodeLossy_encode]

end Path

namespace Plan

theorem toList_nodeName (index : Nat) :
    (nodeName index).toList = ['n', 'o', 'd', 'e'] ++ Nat.toDigits 10 (index + 1) := by
  show ("node" ++ (index + 1).repr).toList = _
  rw [String.toList_append, Nat.toList_repr]
  rfl

/-- The name of a node is one part of a path. -/
theorem separator_not_mem_nodeName (index : Nat) :
    Path.separator ∉ Utf8.encode (nodeName index) := by
  intro hmem
  obtain ⟨c, hc, hbyte⟩ := List.mem_flatMap.mp hmem
  obtain rfl := Utf8.slash_of_mem_encodeChar hbyte
  rw [toList_nodeName, List.mem_append] at hc
  rcases hc with hc | hc
  · simp at hc
  · have hdigit := Nat.isDigit_of_mem_toDigits (by decide) (by decide) hc
    simp [Char.isDigit] at hdigit

theorem encode_nodeName_ne_nil (index : Nat) : Utf8.encode (nodeName index) ≠ [] := by
  intro h
  have hname : nodeName index = "" := Path.encode_injective h
  have hlist := congrArg String.toList hname
  rw [toList_nodeName] at hlist
  simp at hlist

theorem bytes_nodeDir (p : Plan) (index : Nat) :
    (p.nodeDir index).bytes = p.rootDir.stem ++ Utf8.encode (nodeName index) := by
  apply Path.bytes_join
  intro hhead
  exact separator_not_mem_nodeName index (List.mem_of_mem_head? hhead)

/-- What is in the directory of a node has the node's name between separators in its path. -/
theorem bytes_join_nodeDir (p : Plan) (index : Nat) {entry : String}
    (h : (Utf8.encode entry).head? ≠ some Path.separator) :
    ((p.nodeDir index).join entry).bytes =
      p.rootDir.stem ++ (Utf8.encode (nodeName index) ++ Path.separator :: Utf8.encode entry) := by
  have hname := encode_nodeName_ne_nil index
  have hfull : (p.nodeDir index).isEmpty = false := by
    simp [Path.isEmpty, bytes_nodeDir, hname]
  have hlast : (p.nodeDir index).bytes.getLast? ≠ some Path.separator := by
    rw [bytes_nodeDir, List.getLast?_append_of_ne_nil _ hname]
    intro hend
    exact separator_not_mem_nodeName index (List.mem_of_getLast? hend)
  rw [Path.bytes_join _ h, Path.stem, if_neg (by simp [hfull, hlast]), bytes_nodeDir]
  simp

/-- Of what is in the directories of the nodes, each path is that of one entry of one node. -/
theorem join_inj (p : Plan) {i j : Nat} {entry other : String}
    (he : Path.separator ∉ Utf8.encode entry) (ho : Path.separator ∉ Utf8.encode other)
    (h : (p.nodeDir i).join entry = (p.nodeDir j).join other) : i = j ∧ entry = other := by
  have hbytes := congrArg Path.bytes h
  rw [bytes_join_nodeDir p i fun hhead => he (List.mem_of_mem_head? hhead),
    bytes_join_nodeDir p j fun hhead => ho (List.mem_of_mem_head? hhead)] at hbytes
  have htail := List.append_cancel_left hbytes
  obtain ⟨hname, -, hentry⟩ :=
    (List.append_cons_inj_of_notMem (separator_not_mem_nodeName i) he).mp htail
  have hindex : nodeName i = nodeName j := Path.encode_injective hname
  exact ⟨nodeName_injective hindex, Path.encode_injective hentry⟩

/-! ## Ports -/

/-- The complaint that there are not enough ports. -/
def noRoom (p : Plan) : Failure :=
  .config (.invalidValue "base_http_port" ("no room for " ++ toString p.nodeCount ++ " nodes"))

theorem httpPort_eq (p : Plan) (index : Nat) :
    p.httpPort index = if p.basePort + 2 * index + 1 ≤ maxPort then .ok (p.basePort + 2 * index)
      else .error p.noRoom :=
  rfl

/-- There are ports for a row of nodes exactly if there are ports for the last one. -/
theorem httpPortsFrom_eq (p : Plan) (left index : Nat) :
    p.httpPortsFrom left index =
      if left = 0 ∨ p.basePort + 2 * (index + left) - 1 ≤ maxPort then
        .ok ((List.range' index left).map fun i => p.basePort + 2 * i)
      else .error p.noRoom := by
  induction left generalizing index with
  | zero => rfl
  | succ left ih =>
    rw [httpPortsFrom, httpPort_eq]
    by_cases hfirst : p.basePort + 2 * index + 1 ≤ maxPort
    · rw [if_pos hfirst]
      dsimp only
      rw [ih (index + 1)]
      by_cases hrest : left = 0 ∨ p.basePort + 2 * (index + 1 + left) - 1 ≤ maxPort
      · have hall : left + 1 = 0 ∨ p.basePort + 2 * (index + (left + 1)) - 1 ≤ maxPort := by
          right
          rcases hrest with rfl | hrest
          · omega
          · omega
        rw [if_pos hrest, if_pos hall]
        rfl
      · have hall : ¬ (left + 1 = 0 ∨ p.basePort + 2 * (index + (left + 1)) - 1 ≤ maxPort) := by
          omega
        rw [if_neg hrest, if_neg hall]
        rfl
    · have hall : ¬ (left + 1 = 0 ∨ p.basePort + 2 * (index + (left + 1)) - 1 ≤ maxPort) := by
        omega
      rw [if_neg hfirst, if_neg hall]

/-- The nodes of a plan for which there are ports. -/
def nodes (p : Plan) : List NodeConfig :=
  (List.range p.nodeCount).map fun i => p.node (p.basePort + 2 * i) i

/-- What becomes of a plan: the first thing that is wrong with it, or its nodes. -/
theorem build_eq (p : Plan) :
    p.build =
      if p.execPath.isEmpty then .error (.config (.missingField "exec_path"))
      else if p.nodeCount = 0 then
        .error (.config (.invalidValue "node_count" "must be greater than 0"))
      else if p.basePort + 2 * p.nodeCount - 1 ≤ maxPort then .ok p.nodes
      else .error p.noRoom := by
  unfold build
  by_cases hexec : p.execPath.isEmpty = true
  · rw [if_pos hexec, if_pos hexec]
  rw [if_neg hexec, if_neg hexec]
  by_cases hcount : p.nodeCount = 0
  · rw [if_pos hcount, if_pos hcount]
  rw [if_neg hcount, if_neg hcount, httpPortsFrom_eq, Nat.zero_add]
  by_cases hroom : p.basePort + 2 * p.nodeCount - 1 ≤ maxPort
  · rw [if_pos (Or.inr hroom), if_pos hroom]
    show Except.ok _ = Except.ok _
    congr 1
    apply List.ext_getElem
    · simp [nodes]
    · intro i hi hi'
      simp [nodes]
  · have hneither : ¬ (p.nodeCount = 0 ∨ p.basePort + 2 * p.nodeCount - 1 ≤ maxPort) := by
      rintro (h | h)
      · exact hcount h
      · exact hroom h
    rw [if_neg hneither, if_neg hroom]
    rfl

theorem eq_nodes_of_build {p : Plan} {configs : List NodeConfig} (h : p.build = .ok configs) :
    configs = p.nodes ∧ p.basePort + 2 * p.nodeCount - 1 ≤ maxPort := by
  rw [build_eq] at h
  split at h
  · simp at h
  split at h
  · simp at h
  split at h
  · next hroom => exact ⟨(Except.ok.inj h).symm, hroom⟩
  · simp at h

/-! ## The nodes that are looked at -/

/-- The nodes of a plan one by one, from the one with this index on, with the indices of those that
are looked at: a node without ports is the last one. -/
def nodesSeen (p : Plan) : Nat → Nat → List Nat × Outcome (List NodeConfig)
  | 0, _ => ([], .ok [])
  | left + 1, index =>
    match p.httpPort index with
    | .error e => ([index], .error e)
    | .ok port =>
      let (seen, rest) := p.nodesSeen left (index + 1)
      (index :: seen, rest.map (p.node port index :: ·))

/-- A plan laid out node by node, with the indices of the nodes that are looked at. -/
def buildSeen (p : Plan) : List Nat × Outcome (List NodeConfig) :=
  if p.execPath.isEmpty then ([], .error (.config (.missingField "exec_path")))
  else if p.nodeCount = 0 then
    ([], .error (.config (.invalidValue "node_count" "must be greater than 0")))
  else p.nodesSeen p.nodeCount 0

theorem nodesSeen_eq (p : Plan) (left index : Nat) :
    (p.nodesSeen left index).2 =
      (p.httpPortsFrom left index).map fun ports =>
        ports.mapIdx fun i port => p.node port (index + i) := by
  induction left generalizing index with
  | zero => rfl
  | succ left ih =>
    unfold nodesSeen httpPortsFrom
    cases p.httpPort index with
    | error e => rfl
    | ok port =>
      dsimp only
      rw [ih (index + 1)]
      cases p.httpPortsFrom left (index + 1) with
      | error e => rfl
      | ok ports =>
        simp only [Except.map, List.mapIdx_cons, Nat.add_zero, Nat.add_assoc, Nat.add_comm 1]

/-- To look at the nodes one by one comes to the same. -/
theorem buildSeen_eq (p : Plan) : p.buildSeen.2 = p.build := by
  unfold buildSeen build
  split
  · rfl
  split
  · rfl
  · rw [nodesSeen_eq]
    simp only [Nat.zero_add]

/-- Whoever is looked at comes next in line, and those before have ports. -/
theorem seen_eq_range' (p : Plan) (left index : Nat) :
    ∃ count, (p.nodesSeen left index).1 = List.range' index count ∧ count ≤ left ∧
      ∀ i, i + 1 < count → p.basePort + 2 * (index + i) + 1 ≤ maxPort := by
  induction left generalizing index with
  | zero => exact ⟨0, rfl, Nat.le_refl 0, fun i hi => absurd hi (Nat.not_lt_zero _)⟩
  | succ left ih =>
    unfold nodesSeen
    rw [httpPort_eq]
    by_cases hfirst : p.basePort + 2 * index + 1 ≤ maxPort
    · rw [if_pos hfirst]
      obtain ⟨count, hseen, hcount, hroom⟩ := ih (index + 1)
      refine ⟨count + 1, ?_, Nat.succ_le_succ hcount, fun i hi => ?_⟩
      · show index :: (p.nodesSeen left (index + 1)).1 = _
        rw [hseen]
        rfl
      · cases i with
        | zero => exact hfirst
        | succ i =>
          have hnext := hroom i (by omega)
          omega
    · rw [if_neg hfirst]
      exact ⟨1, rfl, Nat.succ_le_succ (Nat.zero_le left), fun i hi => absurd hi (by omega)⟩

/-- However many nodes are asked for, there are ports for no more than so many. -/
theorem buildSeen_bound (p : Plan) :
    p.buildSeen.1.length ≤ 32769 ∧ ∀ i ∈ p.buildSeen.1, i < p.nodeCount ∧ i ≤ 32768 := by
  have hrow : (p.nodesSeen p.nodeCount 0).1.length ≤ 32769 ∧
      ∀ i ∈ (p.nodesSeen p.nodeCount 0).1, i < p.nodeCount ∧ i ≤ 32768 := by
    obtain ⟨count, hseen, hcount, hroom⟩ := p.seen_eq_range' p.nodeCount 0
    have hbound : count ≤ 32769 := by
      rcases Nat.lt_or_ge count 2 with hsmall | hlarge
      · omega
      · have hlast := hroom (count - 2) (by omega)
        unfold maxPort at hlast
        omega
    rw [hseen, List.length_range']
    refine ⟨hbound, fun i hi => ?_⟩
    have hmem := List.mem_range'_1.mp hi
    omega
  have hnone : ([] : List Nat).length ≤ 32769 ∧ ∀ i ∈ ([] : List Nat), i < p.nodeCount ∧ i ≤ 32768 :=
    ⟨Nat.zero_le _, fun i hi => absurd hi List.not_mem_nil⟩
  unfold buildSeen
  split
  · exact hnone
  split
  · exact hnone
  · exact hrow

/-! ## Machine words -/

/-- The sum of two words of sixteen bits, if it is one. -/
def checkedAdd (a b : UInt16) : Option UInt16 :=
  if a.toNat + b.toNat < UInt16.size then some (a + b) else none

/-- The two ports of a node as a machine works them out: the product may wrap around, the sums may
not. -/
def wordPorts (base : UInt16) (index : UInt64) : Option (UInt16 × UInt16) :=
  let offset := index * 2
  if offset.toNat < UInt16.size then do
    let http ← checkedAdd base offset.toUInt16
    let staking ← checkedAdd http 1
    some (http, staking)
  else none

theorem checkedAdd_of_lt {a b : UInt16} (h : a.toNat + b.toNat < UInt16.size) :
    ∃ sum, checkedAdd a b = some sum ∧ sum.toNat = a.toNat + b.toNat := by
  refine ⟨a + b, if_pos h, ?_⟩
  rw [UInt16.toNat_add]
  exact Nat.mod_eq_of_lt h

/-- While the product does not wrap around, the words hold the ports. -/
theorem wordPorts_eq {p : Plan} {base : UInt16} (hbase : p.basePort = base.toNat) {index : UInt64}
    (h : 2 * index.toNat < UInt64.size) :
    (wordPorts base index).map (fun ports => (ports.1.toNat, ports.2.toNat)) =
      (p.httpPort index.toNat).toOption.map fun port => (port, port + 1) := by
  have hoffset : (index * 2).toNat = 2 * index.toNat := by
    rw [UInt64.toNat_mul, Nat.mul_comm]
    exact Nat.mod_eq_of_lt h
  have hone : (1 : UInt16).toNat = 1 := rfl
  have hsize : UInt16.size = maxPort + 1 := rfl
  rw [httpPort_eq, hbase]
  unfold wordPorts
  dsimp only
  rw [hoffset]
  by_cases hsmall : 2 * index.toNat < UInt16.size
  · have hword : (index * 2).toUInt16.toNat = 2 * index.toNat := by
      rw [UInt64.toNat_toUInt16, hoffset]
      exact Nat.mod_eq_of_lt hsmall
    rw [if_pos hsmall]
    generalize (index * 2).toUInt16 = offset at hword ⊢
    by_cases hsum : base.toNat + 2 * index.toNat < UInt16.size
    · obtain ⟨http, hhttp, hvalue⟩ := checkedAdd_of_lt (hword.symm ▸ hsum)
      rw [hword] at hvalue
      by_cases hroom : base.toNat + 2 * index.toNat + 1 ≤ maxPort
      · have hnext : http.toNat + (1 : UInt16).toNat < UInt16.size := by omega
        obtain ⟨staking, hstaking, hvalue'⟩ := checkedAdd_of_lt hnext
        rw [hvalue, hone] at hvalue'
        simp [hhttp, hstaking, hroom, hvalue, hvalue', Except.toOption]
      · have hlast : checkedAdd http 1 = none := if_neg (by omega)
        simp [hhttp, hlast, hroom, Except.toOption]
    · have hnone : checkedAdd base offset = none := if_neg (by omega)
      have hroom : ¬ base.toNat + 2 * index.toNat + 1 ≤ maxPort := by omega
      simp [hnone, hroom, Except.toOption]
  · have hroom : ¬ base.toNat + 2 * index.toNat + 1 ≤ maxPort := by omega
    simp [hsmall, hroom, Except.toOption]

/-! ## Nodes that share nothing -/

theorem nodup_pairs {β : Type} {f g : Nat → β} (hf : Function.Injective f)
    (hg : Function.Injective g) (hfg : ∀ i j, f i ≠ g j) (n : Nat) :
    ((List.range n).flatMap fun i => [f i, g i]).Nodup := by
  rw [List.nodup_flatMap]
  constructor
  · intro i _
    simpa using hfg i i
  · refine List.nodup_range.imp fun {i j} hne => ?_
    have hother (i j : Nat) : g i ≠ f j := (hfg j i).symm
    simp [Function.onFun, List.disjoint_left, hf.eq_iff, hg.eq_iff, hfg, hother, hne]

/-- No port is given twice. -/
theorem ports_nodup (p : Plan) :
    (p.nodes.flatMap fun c => [c.httpPort, c.stakingPort]).Nodup := by
  rw [nodes, List.flatMap_map]
  apply nodup_pairs (f := fun i => p.basePort + 2 * i) (g := fun i => p.basePort + 2 * i + 1)
  · intro i j h
    dsimp only at h
    omega
  · intro i j h
    dsimp only at h
    omega
  · intro i j
    omega

/-- No directory is given twice. -/
theorem dirs_nodup (p : Plan) : (p.nodes.flatMap fun c => [c.logDir, c.dbDir]).Nodup := by
  have hlog : Path.separator ∉ Utf8.encode "log" := by decide
  have hdb : Path.separator ∉ Utf8.encode "db-dir" := by decide
  rw [nodes, List.flatMap_map]
  apply nodup_pairs (f := fun i => (p.nodeDir i).join "log") (g := fun i => (p.nodeDir i).join "db-dir")
  · intro i j h
    exact (p.join_inj hlog hlog h).1
  · intro i j h
    exact (p.join_inj hdb hdb h).1
  · intro i j h
    exact absurd (p.join_inj hlog hdb h).2 (by decide)

end Plan

/-! ## Configuration files -/

namespace NodeFile

theorem render_eq (f : NodeFile) : f.render = Utf8.encode f.toJson.indented := by
  simp [render, Utf8.encode, Json.indented]

theorem plain_toJson {f : NodeFile} (hhttp : f.httpPort ≤ Plan.maxPort)
    (hstaking : f.stakingPort ≤ Plan.maxPort) : f.toJson.Plain 1 := by
  have port {n : Nat} (hn : n ≤ Plan.maxPort) : (Json.num n).Plain 0 :=
    .nat (hn.trans (by decide))
  apply Json.plain_table
  simp [port hhttp, port hstaking]

/-- These bytes are the JSON text of an object that says what the file says. -/
def Described (f : NodeFile) (payload : List UInt8) : Prop :=
  ∃ text j, Utf8.decode? payload = some text ∧ Json.parse text = .ok j ∧
    Json.Lookup.str? j "log-level" = some f.logLevel ∧
    Json.Lookup.str? j "log-dir" = some f.logDir.text ∧
    Json.Lookup.str? j "db-dir" = some f.dbDir.text ∧
    Json.Lookup.str? j "whitelisted-subnets" = some f.subnets ∧
    Json.Lookup.nat? j "http-port" = some f.httpPort ∧
    Json.Lookup.nat? j "staking-port" = some f.stakingPort

/-- A written file says what it was made of. -/
theorem described_render {f : NodeFile} (hhttp : f.httpPort ≤ Plan.maxPort)
    (hstaking : f.stakingPort ≤ Plan.maxPort) : f.Described f.render := by
  refine ⟨f.toJson.indented, f.toJson, ?_, ?_, ?_⟩
  · rw [render_eq, Utf8.decode?_encode]
  · exact Json.parse_indented (plain_toJson hhttp hstaking) (by decide)
  · unfold Json.Lookup.str? Json.Lookup.nat?
    simp [toJson, Json.Lookup.field_table, Json.member?, Json.Lookup.strOf?, Json.Lookup.natOf?]

end NodeFile

/-- A log level is written without blanks around it and in upper case, and as `INFO` if there is nothing
but blanks. -/
def WrittenLevel (level written : String) : Prop :=
  ∃ word, Trimmed level.toList word ∧
    written = if word = [] then "INFO" else upperAscii (String.ofList word)

theorem writtenLevel_normalLogLevel (level : String) :
    WrittenLevel level (normalLogLevel level) := by
  refine ⟨trimChars level.toList, trimmed_trimChars level.toList, ?_⟩
  unfold normalLogLevel trimText defaultLogLevel
  dsimp only
  by_cases h : trimChars level.toList = []
  · rw [h]
    rfl
  · have hsome : (String.ofList (trimChars level.toList)).isEmpty = false := by
      simpa using h
    rw [if_neg h, if_neg (by simp [hsome])]

/-! ## The nodes of a plan -/

/-- What a node's file says, with this log level. -/
def NodeConfig.file (c : NodeConfig) (logLevel : String) : NodeFile where
  logLevel := logLevel
  logDir := c.logDir
  dbDir := c.dbDir
  subnets := c.subnets
  httpPort := c.httpPort
  stakingPort := c.stakingPort

/-- What the bytes of a configuration say is what the configuration says, with this log level, and the
directories can be told from their texts. -/
def NodeConfig.Documented (c : NodeConfig) (level : String) : Prop :=
  ∃ written, WrittenLevel level written ∧ (c.file written).Described c.payload ∧
    Path.ofText c.logDir.text = c.logDir ∧ Path.ofText c.dbDir.text = c.dbDir

namespace Plan

section Node

variable (p : Plan) (port index : Nat)

theorem name_node : (p.node port index).name = nodeName index := by
  simp only [node]

theorem logDir_node : (p.node port index).logDir = (p.nodeDir index).join "log" := by
  simp only [node]

theorem dbDir_node : (p.node port index).dbDir = (p.nodeDir index).join "db-dir" := by
  simp only [node]

theorem payload_node :
    (p.node port index).payload = ((p.node port index).file p.logLevel).render := by
  simp only [node, NodeConfig.file]

end Node

/-- The plan with these settings, as they are asked for in words of a machine. -/
def asked (p : Plan) (level : String) (count : UInt64) (base : UInt16) : Plan :=
  { p with logLevel := normalLogLevel level, nodeCount := count.toNat, basePort := base.toNat }

/-- The configurations are the nodes of the plan, in launch order, and no two of them share anything
that is their own. -/
structure LaidOut (p : Plan) (level : String) (configs : List NodeConfig) : Prop where
  count : configs.length = p.nodeCount
  named : ∀ i c, configs[i]? = some c → c.name = "node" ++ toString (i + 1)
  ports : ∀ i c, configs[i]? = some c →
    c.httpPort = p.basePort + 2 * i ∧ c.stakingPort = c.httpPort + 1 ∧ c.stakingPort ≤ 65535
  dirs : ∀ c ∈ configs, c.logDir = (p.rootDir.join c.name).join "log" ∧
    c.dbDir = (p.rootDir.join c.name).join "db-dir"
  carried : ∀ c ∈ configs, c.execPath = p.execPath ∧ c.subnets = p.subnets
  names_differ : (configs.map NodeConfig.name).Nodup
  ports_differ : (configs.flatMap fun c => [c.httpPort, c.stakingPort]).Nodup
  dirs_differ : (configs.flatMap fun c => [c.logDir, c.dbDir]).Nodup
  documented : ∀ root, p.rootDir = Path.ofText root → ∀ c ∈ configs, c.Documented level

theorem getElem?_nodes {p : Plan} {i : Nat} {c : NodeConfig} (h : p.nodes[i]? = some c) :
    i < p.nodeCount ∧ c = p.node (p.basePort + 2 * i) i := by
  unfold nodes at h
  rw [List.getElem?_map, Option.map_eq_some_iff] at h
  obtain ⟨j, hj, rfl⟩ := h
  obtain ⟨hlt, rfl⟩ := List.getElem?_eq_some_iff.mp hj
  rw [List.length_range] at hlt
  rw [List.getElem_range]
  exact ⟨hlt, rfl⟩

/-- A node's file can be read back if the directory of all nodes is a text. -/
theorem documented_node {p : Plan} {root : String} (hroot : p.rootDir = Path.ofText root)
    {level : String} (hlevel : p.logLevel = normalLogLevel level) {port : Nat}
    (hport : port + 1 ≤ maxPort) (index : Nat) : (p.node port index).Documented level := by
  obtain ⟨dir, hdir⟩ := Path.join_ofText root (nodeName index)
  have entry (part : String) :
      Path.ofText ((p.nodeDir index).join part).text = (p.nodeDir index).join part := by
    have hjoin : p.nodeDir index = Path.ofText dir := by rw [nodeDir, hroot, hdir]
    obtain ⟨s, hs⟩ := Path.join_ofText dir part
    rw [hjoin, hs, Path.text_ofText]
  refine ⟨p.logLevel, ?_, ?_, ?_, ?_⟩
  · rw [hlevel]
    exact writtenLevel_normalLogLevel level
  · rw [payload_node]
    exact NodeFile.described_render (Nat.le_of_succ_le hport) hport
  · rw [logDir_node, entry]
  · rw [dbDir_node, entry]

theorem laidOut_nodes {p : Plan} {level : String} (hlevel : p.logLevel = normalLogLevel level)
    (hroom : p.basePort + 2 * p.nodeCount - 1 ≤ maxPort) (hbuild : p.build = .ok p.nodes) :
    p.LaidOut level p.nodes where
  count := by simp [nodes]
  named i c hc := by
    obtain ⟨-, rfl⟩ := getElem?_nodes hc
    rfl
  ports i c hc := by
    obtain ⟨hlt, rfl⟩ := getElem?_nodes hc
    refine ⟨rfl, rfl, ?_⟩
    unfold maxPort at hroom
    show p.basePort + 2 * i + 1 ≤ 65535
    omega
  dirs c hc := by
    obtain ⟨i, hi⟩ := List.getElem?_of_mem hc
    obtain ⟨-, rfl⟩ := getElem?_nodes hi
    rw [name_node, logDir_node, dbDir_node, nodeDir]
    exact ⟨rfl, rfl⟩
  carried c hc := by
    obtain ⟨i, hi⟩ := List.getElem?_of_mem hc
    obtain ⟨-, rfl⟩ := getElem?_nodes hi
    exact ⟨rfl, rfl⟩
  names_differ := names_nodup_of_build hbuild
  ports_differ := p.ports_nodup
  dirs_differ := p.dirs_nodup
  documented root hroot c hc := by
    obtain ⟨i, hi⟩ := List.getElem?_of_mem hc
    obtain ⟨hlt, rfl⟩ := getElem?_nodes hi
    exact documented_node hroot hlevel (by omega) i

/-- **A plan is laid out exactly**: it succeeds if there are an executable, a node and enough ports, and
else names the first of these that is missing; it never looks at more than 32769 nodes, and no word
overflows meanwhile; and its nodes are what was asked for. -/
theorem build_exact (p : Plan) (level : String) (count : UInt64) (base : UInt16) :
    let q := p.asked level count base
    ((∃ configs, q.build = .ok configs) ↔
      p.execPath.isEmpty = false ∧ 1 ≤ count.toNat ∧ base.toNat + 2 * count.toNat - 1 ≤ 65535) ∧
    (p.execPath.isEmpty = true → q.build = .error (.config (.missingField "exec_path"))) ∧
    (p.execPath.isEmpty = false → count.toNat = 0 →
      q.build = .error (.config (.invalidValue "node_count" "must be greater than 0"))) ∧
    (p.execPath.isEmpty = false → 1 ≤ count.toNat → 65535 < base.toNat + 2 * count.toNat - 1 →
      q.build = .error (.config (.invalidValue "base_http_port"
        ("no room for " ++ toString count.toNat ++ " nodes")))) ∧
    (q.buildSeen.2 = q.build ∧ q.buildSeen.1.length ≤ 32769 ∧
      ∀ i ∈ q.buildSeen.1, i < count.toNat ∧ (UInt64.ofNat i * 2).toNat = 2 * i ∧
        (wordPorts base (UInt64.ofNat i)).map (fun ports => (ports.1.toNat, ports.2.toNat)) =
          (q.httpPort i).toOption.map fun port => (port, port + 1)) ∧
    ∀ configs, q.build = .ok configs → q.LaidOut level configs := by
  intro q
  have hbuild := q.build_eq
  have hexec : q.execPath = p.execPath := by simp only [q, asked]
  have hlevel : q.logLevel = normalLogLevel level := by simp only [q, asked]
  have hcount : q.nodeCount = count.toNat := by simp only [q, asked]
  have hbase : q.basePort = base.toNat := by simp only [q, asked]
  rw [hexec, hcount, hbase] at hbuild
  refine ⟨⟨?_, ?_⟩, ?_, ?_, ?_, ⟨q.buildSeen_eq, q.buildSeen_bound.1, ?_⟩, ?_⟩
  · rintro ⟨configs, hok⟩
    rw [hok] at hbuild
    split at hbuild
    · simp at hbuild
    split at hbuild
    · simp at hbuild
    split at hbuild
    · next hsome hpos hroom => exact ⟨by simpa using hsome, by omega, hroom⟩
    · simp at hbuild
  · rintro ⟨hsome, hpos, hroom⟩
    have hfits : base.toNat + 2 * count.toNat - 1 ≤ maxPort := hroom
    rw [hbuild, if_neg (by simp [hsome]), if_neg (by omega), if_pos hfits]
    exact ⟨_, rfl⟩
  · intro hnone
    rw [hbuild, if_pos hnone]
  · intro hsome hzero
    rw [hbuild, if_neg (by simp [hsome]), if_pos hzero]
  · intro hsome hpos hfull
    rw [hbuild, if_neg (by simp [hsome]), if_neg (by omega), if_neg (by unfold maxPort; omega),
      noRoom, hcount]
  · intro i hi
    obtain ⟨hlt, hsmall⟩ := q.buildSeen_bound.2 i hi
    have hsize : UInt64.size = 18446744073709551616 := rfl
    have hindex : (UInt64.ofNat i).toNat = i := UInt64.toNat_ofNat_of_lt (by omega)
    refine ⟨hlt, ?_, ?_⟩
    · have htwo : (2 : UInt64).toNat = 2 := rfl
      rw [UInt64.toNat_mul, hindex, htwo]
      omega
    · have hports := @wordPorts_eq q base hbase (UInt64.ofNat i) (by omega)
      rw [hindex] at hports
      exact hports
  · intro configs hok
    obtain ⟨rfl, hroom⟩ := eq_nodes_of_build hok
    exact laidOut_nodes hlevel hroom hok

/-- Two nodes at the last ports there are. -/
theorem last_ports_laidOut :
    ∃ configs, (asked ⟨.ofText "/bin/node", .ofText "/tmp", "", "INFO", 5, 9650⟩ " debug" 2
        65532).build = .ok configs ∧
      (asked ⟨.ofText "/bin/node", .ofText "/tmp", "", "INFO", 5, 9650⟩ " debug" 2 65532).LaidOut
        " debug" configs := by
  obtain ⟨hsucceeds, -, -, -, -, hlaidOut⟩ :=
    build_exact ⟨.ofText "/bin/node", .ofText "/tmp", "", "INFO", 5, 9650⟩ " debug" 2 65532
  obtain ⟨configs, hbuild⟩ := hsucceeds.mpr (by decide)
  exact ⟨configs, hbuild, hlaidOut configs hbuild⟩

end Plan
end ClusterControl
