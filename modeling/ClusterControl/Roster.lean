/-!
# Rosters

A roster holds one value per number, in the order in which the numbers came.  Calls are kept in
rosters under the numbers that they are given when they begin.
-/

namespace ClusterControl

/-- One value per number, in order of arrival. -/
structure Roster (α : Type) where
  entries : List (Nat × α) := []
deriving Repr, DecidableEq, Inhabited

namespace Roster

variable {α : Type}

/-- Puts a value into a list of entries: in the place of the number's value, else at the end. -/
def setEntry (n : Nat) (value : α) : List (Nat × α) → List (Nat × α)
  | [] => [(n, value)]
  | (m, v) :: rest => if n = m then (m, value) :: rest else (m, v) :: setEntry n value rest

/-- The roster with this value for a number. -/
def set (r : Roster α) (n : Nat) (value : α) : Roster α :=
  ⟨setEntry n value r.entries⟩

/-- The value for a number. -/
def get? (r : Roster α) (n : Nat) : Option α :=
  r.entries.lookup n

/-- The roster without a number. -/
def erase (r : Roster α) (n : Nat) : Roster α :=
  ⟨r.entries.filter fun e => e.1 != n⟩

/-- The numbers, in order of arrival. -/
def numbers (r : Roster α) : List Nat :=
  r.entries.map Prod.fst

/-- Looking up looks at the first entry first. -/
theorem lookup_number (m n : Nat) (v : α) (rest : List (Nat × α)) :
    ((m, v) :: rest).lookup n = if n = m then some v else rest.lookup n := by
  rw [List.lookup_cons]
  by_cases h : n = m
  · simp [h]
  · rw [if_neg h, beq_false_of_ne h]

/-- Looking up in a list of entries after putting one in. -/
theorem lookup_setEntry (n other : Nat) (value : α) (entries : List (Nat × α)) :
    (setEntry n value entries).lookup other =
      if other = n then some value else entries.lookup other := by
  induction entries with
  | nil => simp [setEntry, lookup_number]
  | cons e rest ih =>
    obtain ⟨m, v⟩ := e
    unfold setEntry
    split
    · next h =>
      subst h
      simp only [lookup_number]
      split <;> rfl
    · next h =>
      simp only [lookup_number, ih]
      by_cases hm : other = m
      · simp [hm, Ne.symm h]
      · simp [hm]

/-- A roster holds what it gives back. -/
theorem mem_entries_of_get? {r : Roster α} {n : Nat} {value : α} (h : r.get? n = some value) :
    (n, value) ∈ r.entries := by
  obtain ⟨before, after, heq, -⟩ := List.lookup_eq_some_iff.mp h
  simp [heq]

/-- A roster gives back what was put in for a number, and keeps all else. -/
@[simp]
theorem get?_set (r : Roster α) (n other : Nat) (value : α) :
    (r.set n value).get? other = if other = n then some value else r.get? other :=
  lookup_setEntry n other value r.entries

/-- A roster gives back what was put in for a number. -/
theorem get?_set_self (r : Roster α) (n : Nat) (value : α) :
    (r.set n value).get? n = some value := by
  simp

/-- Of two values put in for a number the later one counts. -/
theorem setEntry_setEntry (n : Nat) (first second : α) (entries : List (Nat × α)) :
    setEntry n second (setEntry n first entries) = setEntry n second entries := by
  induction entries with
  | nil => simp [setEntry]
  | cons e rest ih =>
    obtain ⟨m, v⟩ := e
    by_cases h : n = m
    · simp [setEntry, h]
    · simp [setEntry, h, ih]

/-- Of two values put in for a number the later one counts. -/
@[simp]
theorem set_set (r : Roster α) (n : Nat) (first second : α) :
    (r.set n first).set n second = r.set n second := by
  simp [set, setEntry_setEntry]

/-- Putting in what a list of entries has for a number changes nothing. -/
theorem setEntry_eq_self {n : Nat} {value : α} {entries : List (Nat × α)}
    (h : entries.lookup n = some value) : setEntry n value entries = entries := by
  induction entries with
  | nil => simp at h
  | cons e rest ih =>
    obtain ⟨m, v⟩ := e
    rw [lookup_number] at h
    by_cases hm : n = m
    · rw [if_pos hm, Option.some.injEq] at h
      simp [setEntry, hm, h]
    · rw [if_neg hm] at h
      simp [setEntry, hm, ih h]

/-- Putting in what a roster has for a number changes nothing. -/
theorem set_eq_self {r : Roster α} {n : Nat} {value : α} (h : r.get? n = some value) :
    r.set n value = r := by
  unfold set
  rw [setEntry_eq_self h]

/-- Looking up in a list of entries after taking a number out. -/
theorem lookup_filter_number (n other : Nat) (entries : List (Nat × α)) :
    (entries.filter fun e => e.1 != n).lookup other =
      if other = n then none else entries.lookup other := by
  induction entries with
  | nil => simp
  | cons e rest ih =>
    obtain ⟨m, v⟩ := e
    by_cases hm : m = n
    · subst hm
      rw [List.filter_cons_of_neg (by simp), ih, lookup_number]
      split <;> rfl
    · rw [List.filter_cons_of_pos (by simpa using hm), lookup_number, lookup_number, ih]
      by_cases h : other = m
      · simp [h, hm]
      · simp [h]

/-- An erased number is gone, and all else stays. -/
@[simp]
theorem get?_erase (r : Roster α) (n other : Nat) :
    (r.erase n).get? other = if other = n then none else r.get? other :=
  lookup_filter_number n other r.entries

end Roster
end ClusterControl
