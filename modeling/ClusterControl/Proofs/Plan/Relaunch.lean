import ClusterControl.Proofs.Plan.Layout

/-!
# Nodes that are launched anew

The configuration of a node that is launched anew is put together from the one that it had and from new
parameters, and a planned one from the settings of the plan.  This module compares the two.

* `relaunch_node` — a planned node with new parameters is a node of the plan with these parameters.
* `relaunch_of_build` — with the parameters of the plan it stays as it is.
* `Relaunched`, `relaunched_step`, `relaunched_foldl` — what is left of a row of parameters.
* `relaunch_agrees` — the theorem.
-/

namespace ClusterControl

/-- The log level that parameters ask for, as it is written in a configuration file. -/
def StartParams.writtenLevel (params : StartParams) : String :=
  normalLogLevel (params.logLevel.getD "")

/-- The last of these paths that is one; none if none of them is. -/
def lastPath (paths : List Path) : Path :=
  (paths.filter fun path => !path.isEmpty).getLastD {}

theorem eq_empty_of_isEmpty {path : Path} (h : path.isEmpty = true) : path = {} := by
  obtain ⟨bytes⟩ := path
  exact congrArg Path.mk (List.isEmpty_iff.mp h)

theorem lastPath_singleton (path : Path) : lastPath [path] = path := by
  cases h : path.isEmpty with
  | true => simp [lastPath, eq_empty_of_isEmpty h, Path.isEmpty]
  | false => simp [lastPath, h]

theorem lastPath_append (paths : List Path) (path : Path) :
    lastPath (paths ++ [path]) = if path.isEmpty then lastPath paths else path := by
  unfold lastPath
  rw [List.filter_append]
  cases h : path.isEmpty <;> simp [h]

namespace Plan

/-- The plan with what these parameters ask for. -/
def renewed (p : Plan) (params : StartParams) : Plan :=
  { p with
    execPath := if params.execPath.isEmpty then p.execPath else params.execPath
    subnets := params.subnets
    logLevel := params.writtenLevel }

/-- A node of a plan that is launched anew is the same node of the plan with the new parameters. -/
theorem relaunch_node (p : Plan) (port index : Nat) (params : StartParams) :
    (p.node port index).relaunch params = (p.renewed params).node port index := by
  simp only [NodeConfig.relaunch, node, renewed, nodeDir, StartParams.writtenLevel]

theorem renewed_ofParams {params : StartParams} (h : params.execPath.isEmpty = false) (root : Path)
    (count base : Nat) :
    ({ ofParams params root with nodeCount := count, basePort := base } : Plan).renewed params =
      { ofParams params root with nodeCount := count, basePort := base } := by
  simp only [renewed, ofParams, h, StartParams.writtenLevel, Bool.false_eq_true, if_false]

/-- A planned node stays as it is if it is launched anew with what it was planned for. -/
theorem relaunch_of_build {params : StartParams} (h : params.execPath.isEmpty = false) {root : Path}
    {count base : Nat} {configs : List NodeConfig}
    (hbuild : ({ ofParams params root with nodeCount := count, basePort := base } : Plan).build =
      .ok configs) {c : NodeConfig} (hc : c ∈ configs) : c.relaunch params = c := by
  obtain ⟨rfl, -⟩ := eq_nodes_of_build hbuild
  obtain ⟨i, hi⟩ := List.getElem?_of_mem hc
  obtain ⟨-, rfl⟩ := getElem?_nodes hi
  rw [relaunch_node, renewed_ofParams h]

/-- What a plan writes for a node is what the node's configuration says. -/
theorem payload_of_build {p : Plan} {configs : List NodeConfig} (h : p.build = .ok configs)
    {c : NodeConfig} (hc : c ∈ configs) : c.payload = (c.file p.logLevel).render := by
  obtain ⟨rfl, -⟩ := eq_nodes_of_build h
  obtain ⟨i, hi⟩ := List.getElem?_of_mem hc
  obtain ⟨-, rfl⟩ := getElem?_nodes hi
  exact payload_node p _ i

end Plan

namespace NodeConfig

/-- What is left of a configuration after a row of parameters: what belongs to the node itself, what the
last ones ask for, and the last executable that was named. -/
structure Relaunched (c : NodeConfig) (earlier : List StartParams) (last : StartParams)
    (result : NodeConfig) : Prop where
  name : result.name = c.name
  logDir : result.logDir = c.logDir
  dbDir : result.dbDir = c.dbDir
  httpPort : result.httpPort = c.httpPort
  stakingPort : result.stakingPort = c.stakingPort
  subnets : result.subnets = last.subnets
  execPath : result.execPath =
    lastPath (c.execPath :: (earlier ++ [last]).map StartParams.execPath)
  payload : result.payload = (result.file last.writtenLevel).render

theorem relaunched_single (c : NodeConfig) (params : StartParams) :
    Relaunched c [] params (c.relaunch params) where
  name := rfl
  logDir := rfl
  dbDir := rfl
  httpPort := rfl
  stakingPort := rfl
  subnets := rfl
  execPath := by
    show (if params.execPath.isEmpty then c.execPath else params.execPath) =
      lastPath ([c.execPath] ++ [params.execPath])
    rw [lastPath_append, lastPath_singleton]
  payload := by simp only [relaunch, file, StartParams.writtenLevel]

/-- One more launch keeps what belongs to the node, and takes the rest from its parameters. -/
theorem relaunched_step {c result : NodeConfig} {earlier : List StartParams} {last : StartParams}
    (h : Relaunched c earlier last result) (params : StartParams) :
    Relaunched c (earlier ++ [last]) params (result.relaunch params) where
  name := h.name
  logDir := h.logDir
  dbDir := h.dbDir
  httpPort := h.httpPort
  stakingPort := h.stakingPort
  subnets := rfl
  execPath := by
    rw [List.map_append, ← List.cons_append]
    show (if params.execPath.isEmpty then result.execPath else params.execPath) =
      lastPath (c.execPath :: (earlier ++ [last]).map StartParams.execPath ++ [params.execPath])
    rw [lastPath_append, h.execPath]
  payload := by simp only [relaunch, file, StartParams.writtenLevel]

theorem relaunched_foldl (c : NodeConfig) (earlier : List StartParams) (last : StartParams) :
    Relaunched c earlier last ((earlier ++ [last]).foldl relaunch c) := by
  induction earlier using List.reverseRecOn generalizing last with
  | nil => exact relaunched_single c last
  | append_singleton front params ih =>
    rw [List.foldl_append]
    exact relaunched_step (ih params) last

/-- A planned node with the same values has the same file. -/
theorem Relaunched.payload_eq {c result : NodeConfig} {earlier : List StartParams}
    {last : StartParams} (h : Relaunched c earlier last result) {p : Plan}
    {configs : List NodeConfig} (hbuild : p.build = .ok configs)
    (hlevel : p.logLevel = last.writtenLevel) {d : NodeConfig} (hd : d ∈ configs)
    (same : d.file last.writtenLevel = result.file last.writtenLevel) :
    d.payload = result.payload := by
  rw [Plan.payload_of_build hbuild hd, hlevel, same, h.payload]

/-- To launch a node anew twice with the same parameters is to do so once. -/
theorem relaunch_relaunch (c : NodeConfig) (params : StartParams) :
    (c.relaunch params).relaunch params = c.relaunch params := by
  cases h : params.execPath.isEmpty with
  | true => simp only [relaunch, h, if_true]
  | false => simp only [relaunch, h, Bool.false_eq_true, if_false]

end NodeConfig

/-- **Launching anew agrees with planning**: with the parameters of its plan a planned node stays as it
is; and after any row of parameters a node has kept what belongs to it, has what the last ones ask for
and the last executable that was named, and its file is what a plan for these values writes. -/
theorem relaunch_agrees :
    (∀ (params : StartParams) (root : Path) (count base : Nat) (configs : List NodeConfig),
      params.execPath.isEmpty = false →
        ({ Plan.ofParams params root with nodeCount := count, basePort := base } : Plan).build =
          .ok configs →
        ∀ c ∈ configs, c.relaunch params = c) ∧
    (∀ (c : NodeConfig) (earlier : List StartParams) (last : StartParams),
      let result := (earlier ++ [last]).foldl NodeConfig.relaunch c
      NodeConfig.Relaunched c earlier last result ∧
        ∀ (p : Plan) (configs : List NodeConfig), p.build = .ok configs →
          p.logLevel = last.writtenLevel → ∀ d ∈ configs,
            d.logDir = result.logDir → d.dbDir = result.dbDir → d.subnets = result.subnets →
            d.httpPort = result.httpPort → d.stakingPort = result.stakingPort →
              d.payload = result.payload) ∧
    ∀ (c : NodeConfig) (params : StartParams),
      (c.relaunch params).relaunch params = c.relaunch params := by
  refine ⟨?_, ?_, NodeConfig.relaunch_relaunch⟩
  · intro params root count base configs hexec hbuild c hc
    exact Plan.relaunch_of_build hexec hbuild hc
  · intro c earlier last result
    have relaunched := NodeConfig.relaunched_foldl c earlier last
    refine ⟨relaunched, ?_⟩
    intro p configs hbuild hlevel d hd hlog hdb hsubnets hhttp hstaking
    apply relaunched.payload_eq hbuild hlevel hd
    simp only [NodeConfig.file, hlog, hdb, hsubnets, hhttp, hstaking, result]

/-- Parameters that name an executable. -/
def bareParams : StartParams := { execPath := .ofText "/bin/node" }

/-- Two nodes for them. -/
def barePlan : Plan :=
  { Plan.ofParams bareParams (.ofText "/tmp") with nodeCount := 2, basePort := 9650 }

theorem bare_nodes_relaunched :
    barePlan.build = .ok barePlan.nodes ∧
      (∀ c ∈ barePlan.nodes, c.relaunch bareParams = c) ∧
      ∀ c ∈ barePlan.nodes, c.payload = (([] ++ [bareParams]).foldl NodeConfig.relaunch c).payload := by
  have hexec : bareParams.execPath.isEmpty = false := by decide
  have hbuild : barePlan.build = .ok barePlan.nodes := by
    rw [Plan.build_eq, if_neg (by decide), if_neg (by decide), if_pos (by decide)]
  obtain ⟨planned, later, -⟩ := relaunch_agrees
  refine ⟨hbuild, planned bareParams (.ofText "/tmp") 2 9650 _ hexec hbuild, fun c hc => ?_⟩
  obtain ⟨relaunched, written⟩ := later c [] bareParams
  have hsame : c.subnets = bareParams.subnets := by
    obtain ⟨i, hi⟩ := List.getElem?_of_mem hc
    obtain ⟨-, rfl⟩ := Plan.getElem?_nodes hi
    rfl
  exact written barePlan barePlan.nodes hbuild rfl c hc relaunched.logDir.symm relaunched.dbDir.symm
    (hsame.trans relaunched.subnets.symm) relaunched.httpPort.symm relaunched.stakingPort.symm

end ClusterControl
