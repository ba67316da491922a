import ClusterControl.Plan
import Mathlib.Tactic

/-!
# Planned nodes

The nodes of a plan are numbered, and a node's number is part of its name.  So no two nodes of a
plan have the same name, however many there are.  A plan that cannot be laid out is at fault itself.
-/

namespace ClusterControl
namespace Plan

/-- Nodes with different numbers have different names. -/
theorem nodeName_injective : Function.Injective nodeName := by
  intro i j h
  have suffixes : (i + 1).repr = (j + 1).repr :=
    String.append_right_inj "node" |>.mp h
  have numbers : i + 1 = j + 1 := by
    have digits := congrArg String.toList suffixes
    rw [Nat.toList_repr, Nat.toList_repr] at digits
    have values := congrArg (Nat.ofDigitChars 10 · 0) digits
    simpa [Nat.ofDigitChars_toDigits] using values
  omega

/-- The nodes of a plan are named by their numbers, in launch order. -/
theorem names_of_build {p : Plan} {configs : List NodeConfig} (h : p.build = .ok configs) :
    configs.map NodeConfig.name = (List.range configs.length).map nodeName := by
  unfold build at h
  split at h
  · simp at h
  · split at h
    · simp at h
    · cases hports : p.httpPortsFrom p.nodeCount 0 with
      | error e => simp [hports, Except.map] at h
      | ok ports =>
        rw [hports] at h
        obtain rfl := Except.ok.inj h
        refine List.ext_getElem (by simp) fun i hi hi' => ?_
        simp [node]

theorem length_of_httpPortsFrom {p : Plan} {left index : Nat} {ports : List Nat}
    (h : p.httpPortsFrom left index = .ok ports) : ports.length = left := by
  induction left generalizing index ports with
  | zero =>
    obtain rfl := Except.ok.inj h
    rfl
  | succ left ih =>
    unfold httpPortsFrom at h
    split at h
    · simp at h
    · cases hrest : p.httpPortsFrom left (index + 1) with
      | error e => simp [hrest, Except.map] at h
      | ok rest =>
        rw [hrest] at h
        obtain rfl := Except.ok.inj h
        simp [ih hrest]

/-- A plan has as many nodes as were asked for. -/
theorem length_of_build {p : Plan} {configs : List NodeConfig} (h : p.build = .ok configs) :
    configs.length = p.nodeCount := by
  unfold build at h
  split at h
  · simp at h
  · split at h
    · simp at h
    · cases hports : p.httpPortsFrom p.nodeCount 0 with
      | error e => simp [hports, Except.map] at h
      | ok ports =>
        rw [hports] at h
        obtain rfl := Except.ok.inj h
        simp [length_of_httpPortsFrom hports]

/-- No two nodes of a plan have the same name. -/
theorem names_nodup_of_build {p : Plan} {configs : List NodeConfig} (h : p.build = .ok configs) :
    (configs.map NodeConfig.name).Nodup := by
  rw [names_of_build h]
  exact List.nodup_range.map nodeName_injective

theorem httpPort_eq_error {p : Plan} {index : Nat} {e : Failure}
    (h : p.httpPort index = .error e) : ∃ cause, e = .config cause := by
  unfold httpPort at h
  simp only at h
  split at h
  · simp at h
  · exact ⟨_, (Except.error.inj h).symm⟩

theorem httpPortsFrom_eq_error {p : Plan} {left index : Nat} {e : Failure}
    (h : p.httpPortsFrom left index = .error e) : ∃ cause, e = .config cause := by
  induction left generalizing index with
  | zero => simp [httpPortsFrom] at h
  | succ left ih =>
    unfold httpPortsFrom at h
    split at h
    · next e' hport =>
      obtain rfl := Except.error.inj h
      exact httpPort_eq_error hport
    · cases hrest : p.httpPortsFrom left (index + 1) with
      | ok ports => simp [hrest, Except.map] at h
      | error e' =>
        rw [hrest] at h
        obtain rfl := Except.error.inj h
        exact ih hrest

/-- Only what is asked for can make it impossible to lay out a plan. -/
theorem build_eq_error {p : Plan} {e : Failure} (h : p.build = .error e) :
    ∃ cause, e = .config cause := by
  unfold build at h
  split at h
  · exact ⟨_, (Except.error.inj h).symm⟩
  · split at h
    · exact ⟨_, (Except.error.inj h).symm⟩
    · cases hports : p.httpPortsFrom p.nodeCount 0 with
      | ok ports => simp [hports, Except.map] at h
      | error e' =>
        rw [hports] at h
        obtain rfl := Except.error.inj h
        exact httpPortsFrom_eq_error hports

end Plan
end ClusterControl
