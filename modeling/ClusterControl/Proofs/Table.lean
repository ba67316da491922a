import ClusterControl.Table
import Mathlib.Tactic

/-!
# What a table holds

The lookup laws of tables stand beside their definition.  This module is about the entries
themselves: which ones are there after a table was changed, and in which order they stand.

* `Table.Sorted` — the names stand in strict order, so none comes twice.
* `sorted_insert`, `sorted_erase`, `sorted_ofList` — every table that is made by these is sorted.
* `get?_of_mem_entries` — such a table gives back what it holds.
* `ofList_entries`, `ofList_of_perm` — such a table is the table of its entries, in whatever order they
  come.
* `eq_of_get?` — such tables are equal if they give the same for every name.
* `mem_names_insert`, `mem_names_erase`, `mem_names_ofList` — the names that such a table has.
* `insert_insert`, `erase_insert` — what was put in for a name counts no more once the name is put in
  again or erased.
* `perm_insertEntry`, `perm_erase` — one entry comes or goes, and the others stay.
-/

namespace ClusterControl
namespace Table

variable {α : Type}

/-- The names of a table stand in strict order. -/
def Sorted (t : Table α) : Prop :=
  t.names.Pairwise (· < ·)

theorem mem_entries_of_get? {t : Table α} {name : String} {value : α}
    (h : t.get? name = some value) : (name, value) ∈ t.entries := by
  obtain ⟨before, after, heq, -⟩ := List.lookup_eq_some_iff.mp h
  simp [heq]

/-- A sorted table gives back what it holds. -/
theorem get?_of_mem_entries {t : Table α} (h : t.Sorted) {name : String} {value : α}
    (hmem : (name, value) ∈ t.entries) : t.get? name = some value := by
  obtain ⟨entries⟩ := t
  have sorted : (entries.map Prod.fst).Pairwise (· < ·) := h
  show entries.lookup name = some value
  induction entries with
  | nil => exact absurd hmem List.not_mem_nil
  | cons head rest ih =>
    obtain ⟨n, v⟩ := head
    obtain ⟨hhead, hrest⟩ := List.pairwise_cons.mp sorted
    rw [lookup_entry]
    rcases List.mem_cons.mp hmem with heq | hmem
    · obtain ⟨rfl, rfl⟩ := Prod.mk.inj heq
      exact if_pos rfl
    · have later : n < name := hhead name (List.mem_map_of_mem hmem)
      have hne : name ≠ n := by
        rintro rfl
        exact String.lt_irrefl _ later
      rw [if_neg hne]
      exact ih hrest hmem hrest

/-- A table has a value for a name exactly if the name is one of its own. -/
theorem contains_iff_mem_names (t : Table α) (name : String) :
    t.contains name = true ↔ name ∈ t.names := by
  simp only [contains, get?, List.lookup_isSome_iff, beq_iff_eq, names, List.mem_map]
  constructor
  · rintro ⟨e, he, rfl⟩
    exact ⟨e, he, rfl⟩
  · rintro ⟨e, he, rfl⟩
    exact ⟨e, he, rfl⟩

theorem mem_insertEntry {name : String} {value : α} {entries : List (String × α)}
    {e : String × α} (h : e ∈ insertEntry name value entries) :
    e = (name, value) ∨ e ∈ entries := by
  induction entries with
  | nil => exact .inl (List.mem_singleton.mp h)
  | cons head rest ih =>
    obtain ⟨n, v⟩ := head
    unfold insertEntry at h
    split at h
    · rcases List.mem_cons.mp h with rfl | h
      · exact .inl rfl
      · exact .inr (List.mem_cons_of_mem _ h)
    · split at h
      · rcases List.mem_cons.mp h with rfl | h
        · exact .inl rfl
        · exact .inr h
      · rcases List.mem_cons.mp h with rfl | h
        · exact .inr List.mem_cons_self
        · exact (ih h).imp id (List.mem_cons_of_mem _)

theorem mem_insert {t : Table α} {name other : String} {value v : α}
    (h : (other, v) ∈ (t.insert name value).entries) :
    (other = name ∧ v = value) ∨ (other, v) ∈ t.entries :=
  (mem_insertEntry h).imp Prod.mk.inj id

theorem mem_names_insert (t : Table α) (name other : String) (value : α) :
    other ∈ (t.insert name value).names ↔ other = name ∨ other ∈ t.names := by
  rw [← contains_iff_mem_names, ← contains_iff_mem_names]
  by_cases h : other = name <;> simp [contains, h]

theorem mem_erase {t : Table α} {name : String} {e : String × α} :
    e ∈ (t.erase name).entries ↔ e ∈ t.entries ∧ e.1 ≠ name := by
  simp [erase]

theorem mem_names_erase (t : Table α) (name other : String) :
    other ∈ (t.erase name).names ↔ other ∈ t.names ∧ other ≠ name := by
  rw [← contains_iff_mem_names, ← contains_iff_mem_names]
  by_cases h : other = name <;> simp [contains, h]

/-- Of two values put into a list of entries for a name the later one counts. -/
theorem insertEntry_insertEntry (name : String) (first second : α) (entries : List (String × α)) :
    insertEntry name second (insertEntry name first entries) = insertEntry name second entries := by
  induction entries with
  | nil => simp [insertEntry]
  | cons head rest ih =>
    obtain ⟨n, v⟩ := head
    by_cases heq : name = n
    · simp [insertEntry, heq]
    · by_cases hlt : name < n
      · simp [insertEntry, heq, hlt]
      · simp [insertEntry, heq, hlt, ih]

/-- Of two values put in for a name the later one counts. -/
theorem insert_insert (t : Table α) (name : String) (first second : α) :
    (t.insert name first).insert name second = t.insert name second :=
  congrArg Table.mk (insertEntry_insertEntry name first second t.entries)

/-- Taking out of a list of entries what was put in takes out what was there for the name, too. -/
theorem filter_insertEntry (name : String) (value : α) (entries : List (String × α)) :
    (insertEntry name value entries).filter (fun e => e.1 != name) =
      entries.filter fun e => e.1 != name := by
  induction entries with
  | nil => simp [insertEntry]
  | cons head rest ih =>
    obtain ⟨n, v⟩ := head
    by_cases heq : name = n
    · simp [insertEntry, heq]
    · by_cases hlt : name < n
      · simp [insertEntry, heq, hlt]
      · simp [insertEntry, heq, hlt, ih, List.filter_cons]

/-- A name that is erased is gone, whatever was put in for it before. -/
theorem erase_insert (t : Table α) (name : String) (value : α) :
    (t.insert name value).erase name = t.erase name :=
  congrArg Table.mk (filter_insertEntry name value t.entries)

theorem sorted_insertEntry (name : String) (value : α) (entries : List (String × α))
    (h : (entries.map Prod.fst).Pairwise (· < ·)) :
    ((insertEntry name value entries).map Prod.fst).Pairwise (· < ·) := by
  induction entries with
  | nil => simp [insertEntry]
  | cons head rest ih =>
    obtain ⟨n, v⟩ := head
    obtain ⟨hhead, hrest⟩ := List.pairwise_cons.mp h
    unfold insertEntry
    split
    · next heq =>
      subst heq
      exact h
    · next hne =>
      split
      · next hlt =>
        refine List.pairwise_cons.mpr ⟨fun m hm => ?_, h⟩
        rcases List.mem_cons.mp hm with rfl | hm
        · exact hlt
        · exact String.lt_trans hlt (hhead m hm)
      · next hge =>
        have hlt : n < name :=
          String.not_le.mp fun hle => hne (String.le_antisymm hle (String.not_lt.mp hge))
        refine List.pairwise_cons.mpr ⟨fun m hm => ?_, ih hrest⟩
        obtain ⟨e, he, rfl⟩ := List.mem_map.mp hm
        rcases mem_insertEntry he with rfl | he
        · exact hlt
        · exact hhead e.1 (List.mem_map_of_mem he)

theorem sorted_insert {t : Table α} (h : t.Sorted) (name : String) (value : α) :
    (t.insert name value).Sorted :=
  sorted_insertEntry name value t.entries h

theorem sorted_erase {t : Table α} (h : t.Sorted) (name : String) : (t.erase name).Sorted :=
  h.sublist (List.filter_sublist.map Prod.fst)

/-- A value that is taken out of a sorted list of entries was the only one for its name. -/
theorem perm_filter_ne {name : String} {value : α} {entries : List (String × α)}
    (h : (entries.map Prod.fst).Pairwise (· < ·)) (hmem : (name, value) ∈ entries) :
    entries.Perm ((name, value) :: entries.filter fun e => e.1 != name) := by
  induction entries with
  | nil => exact absurd hmem List.not_mem_nil
  | cons head rest ih =>
    obtain ⟨n, v⟩ := head
    obtain ⟨hhead, hrest⟩ := List.pairwise_cons.mp h
    rcases List.mem_cons.mp hmem with heq | hmem
    · obtain ⟨rfl, rfl⟩ := Prod.mk.inj heq
      have kept : rest.filter (fun e => e.1 != name) = rest := by
        apply List.filter_eq_self.mpr
        intro e he
        have later : name < e.1 := hhead e.1 (List.mem_map_of_mem he)
        exact bne_iff_ne.mpr (String.ne_of_lt later).symm
      rw [List.filter_cons_of_neg (by simp), kept]
    · have later : n < name := hhead name (List.mem_map_of_mem hmem)
      rw [List.filter_cons_of_pos (by simpa using String.ne_of_lt later)]
      exact ((ih hrest hmem).cons (n, v)).trans (.swap (name, value) (n, v) _)

/-- What a sorted table held and what is left after a name was erased. -/
theorem perm_erase {t : Table α} (h : t.Sorted) {name : String} {value : α}
    (hget : t.get? name = some value) :
    t.entries.Perm ((name, value) :: (t.erase name).entries) :=
  perm_filter_ne h (mem_entries_of_get? hget)

/-- What is preserved by putting entries of a list in holds of the list's table, if it holds of the
empty table. -/
theorem ofList_induction {P : Table α → Prop} {entries : List (String × α)} (hempty : P empty)
    (hinsert : ∀ t, ∀ e ∈ entries, P t → P (t.insert e.1 e.2)) : P (ofList entries) :=
  List.foldlRecOn entries _ hempty fun t ht e he => hinsert t e he ht

theorem sorted_ofList (entries : List (String × α)) : (ofList entries).Sorted :=
  ofList_induction List.Pairwise.nil fun _ e _ h => sorted_insert h e.1 e.2

theorem perm_insertEntry {name : String} {value : α} {entries : List (String × α)}
    (h : name ∉ entries.map Prod.fst) :
    (insertEntry name value entries).Perm ((name, value) :: entries) := by
  induction entries with
  | nil => exact .refl _
  | cons head rest ih =>
    obtain ⟨n, v⟩ := head
    simp only [List.map_cons, List.mem_cons, not_or] at h
    rw [insertEntry, if_neg h.1]
    split
    · exact .refl _
    · exact ((ih h.2).cons (n, v)).trans (.swap (name, value) (n, v) rest)

theorem perm_ofList {entries : List (String × α)} (h : (entries.map Prod.fst).Nodup) :
    (ofList entries).entries.Perm entries := by
  have grows : ∀ rest : List (String × α), ∀ t : Table α,
      ((t.entries ++ rest).map Prod.fst).Nodup →
        (rest.foldl (fun t e => t.insert e.1 e.2) t).entries.Perm (t.entries ++ rest) := by
    intro rest
    induction rest with
    | nil => simp
    | cons e rest ih =>
      intro t nodup
      have fresh : e.1 ∉ t.entries.map Prod.fst := by
        rw [List.map_append, List.nodup_append] at nodup
        exact fun hmem => nodup.2.2 e.1 hmem e.1 (by simp) rfl
      have put : (t.insert e.1 e.2).entries.Perm (e :: t.entries) := perm_insertEntry fresh
      have all : ((t.insert e.1 e.2).entries ++ rest).Perm (t.entries ++ e :: rest) :=
        (put.append_right rest).trans List.perm_middle.symm
      exact (ih _ ((all.map Prod.fst).nodup_iff.mpr nodup)).trans all
  exact grows entries empty h

/-- A sorted table is the table of its entries, in whatever order they come. -/
theorem ofList_of_perm {t : Table α} (h : t.Sorted) {entries : List (String × α)}
    (perm : entries.Perm t.entries) : ofList entries = t := by
  have distinct : t.names.Nodup := List.Pairwise.imp (fun hlt heq => String.ne_of_lt hlt heq) h
  have nodup : (entries.map Prod.fst).Nodup := (perm.map Prod.fst).nodup_iff.mpr distinct
  have sorted := List.pairwise_map.mp (sorted_ofList entries)
  have same : (ofList entries).entries = t.entries :=
    ((perm_ofList nodup).trans perm).eq_of_pairwise
      (fun a b _ _ hab hba => absurd hba (String.lt_asymm hab)) sorted (List.pairwise_map.mp h)
  exact congrArg Table.mk same

/-- A sorted table is the table of its entries. -/
theorem ofList_entries {t : Table α} (h : t.Sorted) : ofList t.entries = t :=
  ofList_of_perm h (.refl _)

/-- Sorted tables that give the same for every name are equal. -/
theorem eq_of_get? {s t : Table α} (hs : s.Sorted) (ht : t.Sorted)
    (h : ∀ name, s.get? name = t.get? name) : s = t := by
  have nodup : ∀ {r : Table α}, r.Sorted → r.entries.Nodup := fun hr =>
    List.Nodup.of_map Prod.fst (List.Pairwise.imp (fun hlt heq => String.ne_of_lt hlt heq) hr)
  have perm : s.entries.Perm t.entries := by
    refine (List.perm_ext_iff_of_nodup (nodup hs) (nodup ht)).mpr fun e => ?_
    constructor
    · intro he
      exact mem_entries_of_get? ((h e.1).symm.trans (get?_of_mem_entries hs he))
    · intro he
      exact mem_entries_of_get? ((h e.1).trans (get?_of_mem_entries ht he))
  rw [← ofList_entries ht, ofList_of_perm hs perm.symm]

/-- Looking up in a list of entries after a function was applied to each. -/
theorem lookup_map {β : Type} (f : String → α → β) (entries : List (String × α)) (name : String) :
    (entries.map fun e => (e.1, f e.1 e.2)).lookup name = (entries.lookup name).map (f name) := by
  induction entries with
  | nil => rfl
  | cons e rest ih =>
    obtain ⟨n, v⟩ := e
    rw [List.map_cons, lookup_entry, lookup_entry, ih]
    by_cases h : name = n
    · simp [h]
    · simp [h]

theorem get?_map {β : Type} (f : α → β) (t : Table α) (name : String) :
    (t.map f).get? name = (t.get? name).map f :=
  lookup_map (fun _ => f) t.entries name

theorem names_map {β : Type} (f : α → β) (t : Table α) : (t.map f).names = t.names := by
  simp [names, map]

theorem sorted_map {β : Type} {t : Table α} (h : t.Sorted) (f : α → β) : (t.map f).Sorted := by
  rw [Sorted, names_map]
  exact h

theorem mem_of_mem_ofList {entries : List (String × α)} {e : String × α}
    (h : e ∈ (ofList entries).entries) : e ∈ entries := by
  have entries_of_insert : ∀ t : Table α, ∀ e' ∈ entries, (e ∈ t.entries → e ∈ entries) →
      e ∈ (t.insert e'.1 e'.2).entries → e ∈ entries := by
    intro t e' he' ih hmem
    rcases mem_insertEntry hmem with rfl | hmem
    · exact he'
    · exact ih hmem
  exact ofList_induction (P := fun t => e ∈ t.entries → e ∈ entries)
    (fun h => absurd h List.not_mem_nil) entries_of_insert h

theorem mem_names_ofList (entries : List (String × α)) (name : String) :
    name ∈ (ofList entries).names ↔ name ∈ entries.map Prod.fst := by
  have names_foldl : ∀ t : Table α,
      name ∈ (entries.foldl (fun t e => t.insert e.1 e.2) t).names ↔
        name ∈ entries.map Prod.fst ∨ name ∈ t.names := by
    induction entries with
    | nil => simp
    | cons e rest ih =>
      intro t
      rw [List.foldl_cons, ih, mem_names_insert, List.map_cons, List.mem_cons]
      tauto
  rw [ofList, names_foldl]
  simp [empty, names]

end Table
end ClusterControl
