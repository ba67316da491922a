import ClusterControl.Proofs.Json.Readable

/-!
# Indented values read back

The indented form of a value has line breaks and blanks between its parts, which the reader of
documents passes over.  So it is read back as the value, like the compact form.

* `skipSpace_newline` — a line break and the blanks after it.
* `lexItems_indented`, `lexMembers_indented` — the parts of a sequence and of an object.
* `lexValue_indented`, `ofText_indented` — all values that have an exact written form.
* `parse_indented` — such a value is what its indented form stands for.
-/

namespace ClusterControl
namespace Doc

/-! ## Line breaks -/

theorem skipSpace_newline (level : Nat) (cs : List Char) :
    skipSpace (Json.newline level ++ cs) = skipSpace cs := by
  have blanks (n : Nat) : skipSpace (List.replicate n ' ' ++ cs) = skipSpace cs := by
    induction n with
    | zero => rfl
    | succ n ih => exact ih
  exact blanks (2 * level)

theorem stops_newline (level : Nat) (cs : List Char) : Stops (Json.newline level ++ cs) :=
  .lineBreak _

/-- A blank before a value is passed over. -/
theorem lexValue_blank {fuel : Nat} (hfuel : 0 < fuel) (cs : List Char) :
    lexValue fuel (' ' :: cs) = lexValue fuel cs := by
  obtain ⟨n, rfl⟩ := Nat.exists_eq_succ_of_ne_zero (Nat.ne_of_gt hfuel)
  rfl

theorem starts_writeIndented {k : Nat} {j : Json} (h : j.Plain k) (level : Nat) :
    Starts (Json.writeIndented level j) := by
  have compact := starts_write h
  cases h with
  | @arr _ xs h => cases xs <;> exact ⟨_, _, rfl, by decide, by decide⟩
  | @obj _ ms h => cases ms <;> exact ⟨_, _, rfl, by decide, by decide⟩
  | _ => exact compact

theorem head?_writeIndentedMember (level : Nat) (m : String × Json) (rest : List Char) :
    (Json.writeIndentedMember level m ++ rest).head? = some '"' := by
  obtain ⟨key, value⟩ := m
  rfl

/-! ## Values -/

/-- The indented form of the value reads back on a line of any level. -/
def ReadsBackIndented (j : Json) : Prop :=
  ∀ level fuel rest, (Json.writeIndented level j).length ≤ fuel → Stops rest →
    lexValue fuel (Json.writeIndented level j ++ rest) = (j.toDoc, rest)

/-- The items of a sequence read back if each of them does. -/
theorem lexItems_indented {x : Json} {xs : List Json} {k : Nat} (plain : ∀ y ∈ xs, y.Plain k)
    (reads : ∀ y ∈ x :: xs, ReadsBackIndented y) (level : Nat) {fuel : Nat}
    (hfuel : (Json.writeIndented (level + 1) x).length +
      (Json.writeIndentedItems (level + 1) xs).length < fuel) (rest : List Char) :
    lexItems fuel (Json.writeIndented (level + 1) x ++ (Json.writeIndentedItems (level + 1) xs ++
        (Json.newline level ++ ']' :: rest))) =
      (Json.itemsToDoc (x :: xs), none, rest) := by
  induction xs generalizing x fuel with
  | nil =>
    obtain ⟨n, rfl⟩ := Nat.exists_eq_succ_of_ne_zero (by omega : fuel ≠ 0)
    have last := reads x (by simp) (level + 1) n (Json.newline level ++ ']' :: rest) (by omega)
      (stops_newline level _)
    exact lexItems_last last (skipSpace_newline level _)
  | cons y ys ih =>
    obtain ⟨n, rfl⟩ := Nat.exists_eq_succ_of_ne_zero (by omega : fuel ≠ 0)
    simp only [Json.writeIndentedItems, List.length_cons, List.length_append, List.cons_append,
      List.append_assoc] at hfuel ⊢
    have first := reads x (by simp) (level + 1) n (',' :: (Json.newline (level + 1) ++
      (Json.writeIndented (level + 1) y ++ (Json.writeIndentedItems (level + 1) ys ++
        (Json.newline level ++ ']' :: rest))))) (by omega) (.comma _)
    have later := ih (fun z hz => plain z (List.mem_cons_of_mem _ hz))
      (fun z hz => reads z (List.mem_cons_of_mem _ hz)) (show _ < n by omega)
    have starts := (starts_writeIndented (plain y (by simp)) (level + 1)).append
      (Json.writeIndentedItems (level + 1) ys ++ (Json.newline level ++ ']' :: rest))
    rw [lexItems_comma first ((skipSpace_newline _ _).trans starts.skipSpace) starts, later]
    rfl

/-- The members of an object read back if the value of each of them does. -/
theorem lexMembers_indented {m : String × Json} {ms : List (String × Json)}
    (reads : ∀ n ∈ m :: ms, ReadsBackIndented n.2) (level : Nat) {fuel : Nat}
    (hfuel : (Json.writeIndentedMember (level + 1) m).length +
      (Json.writeIndentedMembers (level + 1) ms).length < fuel) (rest : List Char) :
    lexMembers fuel (Json.writeIndentedMember (level + 1) m ++
        (Json.writeIndentedMembers (level + 1) ms ++ (Json.newline level ++ '}' :: rest))) =
      (Json.membersToDoc (m :: ms), none, rest) := by
  induction ms generalizing m fuel with
  | nil =>
    obtain ⟨n, rfl⟩ := Nat.exists_eq_succ_of_ne_zero (by omega : fuel ≠ 0)
    obtain ⟨key, value⟩ := m
    simp only [Json.writeIndentedMember, Json.writeIndentedMembers, List.length_append,
      List.length_cons, List.append_assoc, List.cons_append] at hfuel ⊢
    have last := reads (key, value) (by simp) (level + 1) n (Json.newline level ++ '}' :: rest)
      (by simp only; omega) (stops_newline level _)
    have behind := lexValue_blank (show 0 < n by omega) (Json.writeIndented (level + 1) value ++
      (Json.newline level ++ '}' :: rest))
    exact lexMembers_last key (behind.trans last) (skipSpace_newline level _)
  | cons next ms ih =>
    obtain ⟨n, rfl⟩ := Nat.exists_eq_succ_of_ne_zero (by omega : fuel ≠ 0)
    have room : (Json.writeIndentedMember (level + 1) next).length +
        (Json.writeIndentedMembers (level + 1) ms).length < n := by
      simp only [Json.writeIndentedMembers, List.length_cons, List.length_append] at hfuel
      omega
    have later := ih (fun o ho => reads o (List.mem_cons_of_mem _ ho)) room
    have quote := head?_writeIndentedMember (level + 1) next
      (Json.writeIndentedMembers (level + 1) ms ++ (Json.newline level ++ '}' :: rest))
    obtain ⟨key, value⟩ := m
    rw [Json.writeIndentedMember] at hfuel ⊢
    simp only [Json.writeIndentedMembers, List.length_cons, List.length_append, List.cons_append,
      List.append_assoc] at hfuel ⊢
    have first := reads (key, value) (by simp) (level + 1) n (',' :: (Json.newline (level + 1) ++
      (Json.writeIndentedMember (level + 1) next ++ (Json.writeIndentedMembers (level + 1) ms ++
        (Json.newline level ++ '}' :: rest))))) (by simp only; omega) (.comma _)
    have behind := (lexValue_blank (show 0 < n by omega) _).trans first
    rw [lexMembers_comma key behind ((skipSpace_newline _ _).trans (skipSpace_of_quote quote)) quote,
      later]
    rfl

/-- **Indented values read back**: the reader of documents makes of the indented form of a value that
value, and goes on behind it. -/
theorem lexValue_indented {k : Nat} {j : Json} (h : j.Plain k) : ReadsBackIndented j := by
  induction h with
  | null => exact fun _ => lexValue_write (.null (k := 0))
  | bool b => exact fun _ => lexValue_write (.bool (k := 0) b)
  | nat h => exact fun _ => lexValue_write (.nat (k := 0) h)
  | negative hpos h => exact fun _ => lexValue_write (.negative (k := 0) hpos h)
  | str s => exact fun _ => lexValue_write (.str (k := 0) s)
  | @arr k xs plain ih =>
    intro level fuel rest hfuel hrest
    cases xs with
    | nil =>
      obtain ⟨n, rfl⟩ := exists_fuel hfuel
      rfl
    | cons x xs =>
      simp only [Json.writeIndented, List.length_cons, List.length_append, List.cons_append,
        List.append_assoc, List.nil_append] at hfuel ⊢
      obtain ⟨n, rfl⟩ := Nat.exists_eq_succ_of_ne_zero (by omega : fuel ≠ 0)
      have items := lexItems_indented (fun y hy => plain y (List.mem_cons_of_mem _ hy)) ih level
        (show _ < n by omega) rest
      have starts := (starts_writeIndented (plain x (by simp)) (level + 1)).append
        (Json.writeIndentedItems (level + 1) xs ++ (Json.newline level ++ ']' :: rest))
      rw [lexValue_bracket ((skipSpace_newline _ _).trans starts.skipSpace) starts, items]
      rfl
  | @obj k ms plain ih =>
    intro level fuel rest hfuel hrest
    cases ms with
    | nil =>
      obtain ⟨n, rfl⟩ := exists_fuel hfuel
      rfl
    | cons m ms =>
      simp only [Json.writeIndented, List.length_cons, List.length_append, List.cons_append,
        List.append_assoc, List.nil_append] at hfuel ⊢
      obtain ⟨n, rfl⟩ := Nat.exists_eq_succ_of_ne_zero (by omega : fuel ≠ 0)
      have members := lexMembers_indented ih level (show _ < n by omega) rest
      have quote := head?_writeIndentedMember (level + 1) m
        (Json.writeIndentedMembers (level + 1) ms ++ (Json.newline level ++ '}' :: rest))
      rw [lexValue_brace ((skipSpace_newline _ _).trans (skipSpace_of_quote quote)) quote, members]
      rfl

/-- An indented value is all that there is in its text. -/
theorem ofText_indented {k : Nat} {j : Json} (h : j.Plain k) :
    ofText j.indented = (j.toDoc, false) := by
  have reads := lexValue_indented h 0 (2 * (Json.writeIndented 0 j).length + 2) [] (by omega) .nil
  rw [List.append_nil] at reads
  simp [ofText, ofChars, Json.indented, reads, skipSpace]

end Doc

/-- A value is what its indented form stands for. -/
theorem Json.parse_indented {k : Nat} {j : Json} (plain : j.Plain k) (hk : k ≤ maxDepth) :
    Json.parse j.indented = .ok j := by
  have reads := reads_toJson plain (.document 0) (by simpa [Form.HasRoom] using hk)
  simp only [Form.source] at reads
  simp [Json.parse, readText, Doc.ofText_indented plain, reads]

end ClusterControl
