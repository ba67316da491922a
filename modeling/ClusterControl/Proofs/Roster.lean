import ClusterControl.Roster
import Mathlib.Data.List.Nodup

/-!
# Counting in rosters

The numbers of a roster whose values are of some kind, and how many there are after a value has been
put in or taken out.

* `numbers_set`, `nodup_set`, `nodup_erase` — no number comes in twice.
* `mem_pick` — a number is picked for the value that it has.
* `length_pick_set`, `length_pick_erase` — what a change does to the count.
-/

namespace ClusterControl
namespace Roster

variable {α : Type}

/-- The numbers with values of a kind, in order of arrival. -/
def pick (p : α → Bool) (r : Roster α) : List Nat :=
  (r.entries.filter fun e => p e.2).map Prod.fst

/-! ## Numbers -/

theorem numbers_setEntry (n : Nat) (value : α) (entries : List (Nat × α)) :
    (setEntry n value entries).map Prod.fst =
      if n ∈ entries.map Prod.fst then entries.map Prod.fst
      else entries.map Prod.fst ++ [n] := by
  induction entries with
  | nil => simp [setEntry]
  | cons e rest ih =>
    obtain ⟨m, v⟩ := e
    by_cases h : n = m
    · simp [setEntry, h]
    · unfold setEntry
      rw [if_neg h, List.map_cons, List.map_cons, ih]
      by_cases hn : n ∈ rest.map Prod.fst
      · rw [if_pos hn, if_pos (List.mem_cons_of_mem m hn)]
      · rw [if_neg hn, if_neg (by simpa [h] using hn), List.cons_append]

/-- A value that is put in brings its number with it, unless the number is there. -/
theorem numbers_set (r : Roster α) (n : Nat) (value : α) :
    (r.set n value).numbers = if n ∈ r.numbers then r.numbers else r.numbers ++ [n] :=
  numbers_setEntry n value r.entries

theorem nodup_set {r : Roster α} (hr : r.numbers.Nodup) (n : Nat) (value : α) :
    (r.set n value).numbers.Nodup := by
  rw [numbers_set]
  split
  · exact hr
  · next hn =>
    have hone : [n].Nodup := List.nodup_singleton n
    exact List.Nodup.append hr hone (by simpa using hn)

theorem nodup_erase {r : Roster α} (hr : r.numbers.Nodup) (n : Nat) :
    (r.erase n).numbers.Nodup :=
  hr.sublist (List.Sublist.map Prod.fst List.filter_sublist)

/-- In a roster that has no number twice each entry counts. -/
theorem get?_of_mem_entries {r : Roster α} (hr : r.numbers.Nodup) {n : Nat} {value : α}
    (h : (n, value) ∈ r.entries) : r.get? n = some value := by
  obtain ⟨entries⟩ := r
  induction entries with
  | nil => simp at h
  | cons e rest ih =>
    obtain ⟨m, v⟩ := e
    obtain ⟨hm, hrest⟩ := List.nodup_cons.mp hr
    show ((m, v) :: rest).lookup n = some value
    rw [lookup_number]
    rcases List.mem_cons.mp h with heq | hmem
    · obtain ⟨rfl, rfl⟩ := Prod.mk.inj heq
      simp
    · have hn : n ∈ rest.map Prod.fst := List.mem_map_of_mem (f := Prod.fst) hmem
      have hne : n ≠ m := by
        rintro rfl
        exact hm hn
      rw [if_neg hne]
      exact ih hrest hmem

/-! ## Numbers of a kind -/

variable {p : α → Bool} {r : Roster α}

theorem mem_pick (hr : r.numbers.Nodup) {n : Nat} :
    n ∈ r.pick p ↔ (r.get? n).any p = true := by
  constructor
  · intro h
    obtain ⟨⟨m, value⟩, hmem, rfl⟩ := List.mem_map.mp h
    obtain ⟨hentry, hp⟩ := List.mem_filter.mp hmem
    simpa [get?_of_mem_entries hr hentry] using hp
  · intro h
    cases hvalue : r.get? n with
    | none => simp [hvalue] at h
    | some value =>
      have hp : p value = true := by simpa [hvalue] using h
      have hentry := mem_entries_of_get? hvalue
      exact List.mem_map.mpr ⟨(n, value), List.mem_filter.mpr ⟨hentry, hp⟩, rfl⟩

/-- Kinds that agree on the values of a roster pick the same numbers. -/
theorem pick_congr {q : α → Bool} (hr : r.numbers.Nodup)
    (h : ∀ n value, r.get? n = some value → p value = q value) : r.pick p = r.pick q := by
  unfold pick
  rw [List.filter_congr fun e he => h e.1 e.2 (get?_of_mem_entries hr he)]

/-- A value that is put in counts for the one that the number had. -/
theorem length_pick_set (p : α → Bool) (r : Roster α) (n : Nat) (value : α) :
    ((r.set n value).pick p).length + ((r.get? n).any p).toNat =
      (r.pick p).length + (p value).toNat := by
  obtain ⟨entries⟩ := r
  simp only [pick, set, get?, List.length_map]
  induction entries with
  | nil => cases hp : p value <;> simp [setEntry, hp]
  | cons e rest ih =>
    obtain ⟨m, v⟩ := e
    rw [lookup_number]
    by_cases h : n = m
    · cases hp : p value <;> cases hv : p v <;> simp [setEntry, h, hp, hv]
    · rw [if_neg h]
      simp only [setEntry, if_neg h]
      cases hv : p v with
      | false => simpa [hv] using ih
      | true =>
        simp only [List.filter_cons, hv, if_true, List.length_cons]
        omega

/-- A number that is taken out takes its value with it. -/
theorem length_pick_erase (p : α → Bool) (hr : r.numbers.Nodup) (n : Nat) :
    ((r.erase n).pick p).length + ((r.get? n).any p).toNat = (r.pick p).length := by
  obtain ⟨entries⟩ := r
  simp only [pick, erase, get?, List.length_map]
  induction entries with
  | nil => simp
  | cons e rest ih =>
    obtain ⟨m, v⟩ := e
    obtain ⟨hm, hrest⟩ := List.nodup_cons.mp hr
    rw [lookup_number]
    by_cases h : n = m
    · subst h
      have hkept : rest.filter (fun e => e.1 != n) = rest := by
        apply List.filter_eq_self.mpr
        intro e he
        have hmem : e.1 ∈ rest.map Prod.fst := List.mem_map_of_mem (f := Prod.fst) he
        have hne : e.1 ≠ n := fun heq => hm (heq ▸ hmem)
        simpa using hne
      rw [List.filter_cons_of_neg (by simp), hkept]
      cases hv : p v <;> simp [hv]
    · rw [List.filter_cons_of_pos (by simpa using Ne.symm h), if_neg h]
      have hcount := ih hrest
      cases hv : p v with
      | false => simpa [hv] using hcount
      | true =>
        simp only [List.filter_cons, hv, if_true, List.length_cons]
        omega

end Roster
end ClusterControl
