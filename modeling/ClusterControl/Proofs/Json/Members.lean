import ClusterControl.Json.Lookup
import ClusterControl.Proofs.Json.RoundTrip
import ClusterControl.Proofs.Table

/-!
# Members of an object

An object that is made of a table has one member per key, in key order, and what it has at a key is
what was given for that key last.

* `table_eq_ofList` — such an object has the entries of a table.
* `member?_entries` — the members of a sorted table are what the table gives back.
* `member?_table`, `Lookup.field_table` — what stands at a key.
* `plain_table` — an object of plain values is plain.
-/

namespace ClusterControl
namespace Json

theorem insertMember_eq_insertEntry (key : String) (value : Json) (ms : List (String × Json)) :
    insertMember key value ms = Table.insertEntry key value ms := by
  induction ms with
  | nil => rfl
  | cons m rest ih =>
    obtain ⟨k, v⟩ := m
    simp only [insertMember, Table.insertEntry, ih]
    by_cases heq : key = k
    · subst heq
      rw [if_neg (String.lt_irrefl key), if_pos rfl, if_pos rfl]
    · rw [if_neg heq, if_neg heq]

/-- The object of a table has the table's entries for its members. -/
theorem table_eq_ofList (ms : List (String × Json)) :
    table ms = .obj (Table.ofList ms).entries := by
  have grows (t : Table Json) :
      ms.foldl (fun acc m => insertMember m.1 m.2 acc) t.entries =
        (ms.foldl (fun t e => t.insert e.1 e.2) t).entries := by
    induction ms generalizing t with
    | nil => rfl
    | cons m rest ih =>
      rw [List.foldl_cons, List.foldl_cons, insertMember_eq_insertEntry]
      exact ih (t.insert m.1 m.2)
  exact congrArg obj (grows Table.empty)

/-! ## What stands at a key -/

/-- Of the members with a key the last one counts. -/
theorem member?_append (ms : List (String × Json)) (k : String) (v : Json) (key : String) :
    member? (ms ++ [(k, v)]) key = if key = k then some v else member? ms key := by
  unfold member?
  rw [List.reverse_append, List.reverse_singleton, List.singleton_append, List.find?_cons]
  by_cases h : key = k
  · simp [h]
  · have hne : decide (k = key) = false := decide_eq_false (Ne.symm h)
    simp [hne, h]

/-- A table gives back the last value that was given for a name. -/
theorem get?_ofList (ms : List (String × Json)) (key : String) :
    (Table.ofList ms).get? key = member? ms key := by
  induction ms using List.reverseRecOn with
  | nil => rfl
  | append_singleton rest m ih =>
    obtain ⟨k, v⟩ := m
    have hlast : Table.ofList (rest ++ [(k, v)]) = (Table.ofList rest).insert k v := by
      unfold Table.ofList
      rw [List.foldl_append]
      rfl
    rw [hlast, Table.get?_insert, ih, member?_append]

theorem member?_entries {t : Table Json} (h : t.Sorted) (key : String) :
    member? t.entries key = t.get? key := by
  cases hfound : member? t.entries key with
  | none =>
    cases hvalue : t.get? key with
    | none => rfl
    | some value =>
      have hmem := Table.mem_entries_of_get? hvalue
      have hnone := Option.map_eq_none_iff.mp hfound
      have hne := List.find?_eq_none.mp hnone (key, value) (List.mem_reverse.mpr hmem)
      simp at hne
  | some value =>
    obtain ⟨⟨k, v⟩, hfind, rfl⟩ := Option.map_eq_some_iff.mp hfound
    have hkey : k = key := by simpa using List.find?_some hfind
    have hmem := List.mem_reverse.mp (List.mem_of_find?_eq_some hfind)
    rw [hkey] at hmem
    exact (Table.get?_of_mem_entries h hmem).symm

/-- What a table's object has at a key is what was given for it last. -/
theorem member?_table (ms : List (String × Json)) (key : String) :
    member? (Table.ofList ms).entries key = member? ms key := by
  rw [member?_entries (Table.sorted_ofList ms), get?_ofList]

theorem Lookup.field_table (ms : List (String × Json)) (key : String) :
    Lookup.field (table ms) key = (member? ms key).getD .null := by
  rw [table_eq_ofList]
  show (member? (Table.ofList ms).entries key).getD .null = _
  rw [member?_table]

/-- An object of values that have an exact written form has one, too. -/
theorem plain_table {k : Nat} {ms : List (String × Json)} (h : ∀ m ∈ ms, Plain k m.2) :
    Plain (k + 1) (table ms) := by
  rw [table_eq_ofList]
  exact .obj fun m hm => h m (Table.mem_of_mem_ofList hm)

end Json
end ClusterControl
