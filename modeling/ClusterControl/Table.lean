/-!
# Tables by name

A table holds one value per name, in the order of the names.  The order shows wherever a table is
written out, so it is part of the value.
-/

namespace ClusterControl

/-- One value per name, in name order. -/
structure Table (α : Type) where
  entries : List (String × α) := []
deriving Repr, DecidableEq, Inhabited

namespace Table

variable {α β : Type}

/-- The table without entries. -/
def empty : Table α := ⟨[]⟩

/-- Puts a value into a list of entries, before the first larger name. -/
def insertEntry (name : String) (value : α) : List (String × α) → List (String × α)
  | [] => [(name, value)]
  | (n, v) :: rest =>
    if name = n then (name, value) :: rest
    else if name < n then (name, value) :: (n, v) :: rest
    else (n, v) :: insertEntry name value rest

/-- The table with this value for a name. -/
def insert (t : Table α) (name : String) (value : α) : Table α :=
  ⟨insertEntry name value t.entries⟩

/-- The value for a name. -/
def get? (t : Table α) (name : String) : Option α :=
  t.entries.lookup name

/-- The table has a value for a name. -/
def contains (t : Table α) (name : String) : Bool :=
  (t.get? name).isSome

/-- The table without a name. -/
def erase (t : Table α) (name : String) : Table α :=
  ⟨t.entries.filter fun e => e.1 != name⟩

/-- The names, in order. -/
def names (t : Table α) : List String :=
  t.entries.map Prod.fst

/-- The values, in the order of their names. -/
def values (t : Table α) : List α :=
  t.entries.map Prod.snd

/-- The table with a function applied to every value. -/
def map (f : α → β) (t : Table α) : Table β :=
  ⟨t.entries.map fun e => (e.1, f e.2)⟩

/-- The table of a list of entries; of two values for a name the later one counts. -/
def ofList (entries : List (String × α)) : Table α :=
  entries.foldl (fun t e => t.insert e.1 e.2) empty

/-- Looking up looks at the first entry first. -/
theorem lookup_entry (n other : String) (v : α) (rest : List (String × α)) :
    ((n, v) :: rest).lookup other = if other = n then some v else rest.lookup other := by
  rw [List.lookup_cons]
  by_cases h : other = n
  · simp [h]
  · rw [if_neg h, beq_false_of_ne h]

/-- Looking up in a list of entries after putting one in. -/
theorem lookup_insertEntry (name other : String) (value : α) (entries : List (String × α)) :
    (insertEntry name value entries).lookup other =
      if other = name then some value else entries.lookup other := by
  induction entries with
  | nil => simp [insertEntry, lookup_entry]
  | cons e rest ih =>
    obtain ⟨n, v⟩ := e
    unfold insertEntry
    split
    · next h =>
      subst h
      simp only [lookup_entry]
      split <;> rfl
    · next h =>
      split
      · simp only [lookup_entry]
      · simp only [lookup_entry, ih]
        by_cases hn : other = n
        · have hne : ¬ other = name := fun hx => h (hx.symm.trans hn)
          simp [hn, Ne.symm h]
        · simp [hn]

/-- A table gives back what was put in for a name, and keeps all else. -/
@[simp]
theorem get?_insert (t : Table α) (name other : String) (value : α) :
    (t.insert name value).get? other = if other = name then some value else t.get? other :=
  lookup_insertEntry name other value t.entries

/-- Looking up in a list of entries after taking a name out. -/
theorem lookup_filter_ne (name other : String) (entries : List (String × α)) :
    (entries.filter fun e => e.1 != name).lookup other =
      if other = name then none else entries.lookup other := by
  induction entries with
  | nil => simp
  | cons e rest ih =>
    obtain ⟨n, v⟩ := e
    by_cases hn : n = name
    · subst hn
      rw [List.filter_cons_of_neg (by simp), ih, lookup_entry]
      split <;> rfl
    · rw [List.filter_cons_of_pos (by simpa using hn), lookup_entry, lookup_entry, ih]
      by_cases h : other = n
      · simp [h, hn]
      · simp [h]

/-- An erased name is gone, and all else stays. -/
@[simp]
theorem get?_erase (t : Table α) (name other : String) :
    (t.erase name).get? other = if other = name then none else t.get? other :=
  lookup_filter_ne name other t.entries

end Table
end ClusterControl
