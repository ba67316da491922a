import ClusterControl.Json.Document
import Mathlib.Tactic

/-!
# Written values read back

What the compact form of a value is turned into by the reader of documents: the value itself, seen as a
document.

* `readText_escape`, `skipText_escape`, `lexText_escape` — texts.
* `lexUnsigned_digits` — integers.
* `Plain` — the values that have an exact written form, with a bound on their depth.
* `lexValue_write`, `ofText_compact` — all values of this kind.
-/

namespace ClusterControl

/-- What succeeds hands its value on. -/
@[simp]
theorem ok_bind {ε α β : Type} (a : α) (f : α → Except ε β) : (Except.ok a >>= f) = f a :=
  rfl

@[simp]
theorem bind_ok {ε α : Type} (x : Except ε α) : (x >>= fun a => Except.ok a) = x :=
  bind_pure x

theorem bind_eq_ok {ε σ α : Type} {x : Except ε σ} {g : σ → Except ε α} {v : α} :
    (x >>= g) = .ok v ↔ ∃ s, x = .ok s ∧ g s = .ok v := by
  cases x <;> simp [bind, Except.bind]

/-- A step that gives nothing but its success. -/
theorem bind_unit_eq_ok {ε α : Type} {x : Except ε Unit} {g : Unit → Except ε α} {v : α} :
    (x >>= g) = .ok v ↔ x = .ok () ∧ g () = .ok v := by
  cases x <;> simp [bind, Except.bind]

namespace Doc

/-! ## Texts -/

theorem hexDigit?_digitChar {d : Nat} (h : d < 16) : hexDigit? (Nat.digitChar d) = some d := by
  have all : ∀ d < 16, hexDigit? (Nat.digitChar d) = some d := by decide
  exact all d h

theorem hexFour_hex4 {n : Nat} (h : n < 65536) (cs : List Char) :
    hexFour (Json.hex4 n ++ cs) = .ok (n, cs) := by
  have digit (k : Nat) : hexDigit? (Nat.digitChar (k % 16)) = some (k % 16) :=
    hexDigit?_digitChar (Nat.mod_lt k (by decide))
  have parts : n / 4096 % 16 * 4096 + n / 256 % 16 * 256 + n / 16 % 16 * 16 + n % 16 = n := by
    omega
  simp [Json.hex4, hexFour, digit, parts]

/-- An escaped character below the blank. -/
theorem escapedNumber_control {n : Nat} (h : n < 0x20) (cs : List Char) :
    escapedNumber n cs = .ok (Char.ofNat n, cs) := by
  unfold escapedNumber
  rw [if_neg (by omega), if_neg (by omega)]

/-- The written forms of a character: itself, with one letter after a backslash, or by its number. -/
inductive Escaped (c : Char) : List Char → Prop
  | plain (hquote : c ≠ '"') (hslash : c ≠ '\\') (hcontrol : ¬ c.toNat < 0x20) : Escaped c [c]
  | letter (e : Char) (hu : e ≠ 'u') (he : escapeLetter? e = some c) : Escaped c ['\\', e]
  | number (hcontrol : c.toNat < 0x20) : Escaped c ('\\' :: 'u' :: Json.hex4 c.toNat)

theorem Escaped.length_pos {c : Char} {form : List Char} (h : Escaped c form) :
    0 < form.length := by
  cases h <;> simp

theorem escaped_escapeChar (c : Char) : Escaped c (Json.escapeChar c) := by
  have named {n : Nat} (h : c.toNat = n) : Char.ofNat n = c := h ▸ Char.ofNat_toNat c
  unfold Json.escapeChar
  split
  · next h => exact .letter '"' (by decide) (by simp [escapeLetter?, h])
  split
  · next h => exact .letter '\\' (by decide) (by simp [escapeLetter?, h])
  split
  · next h => exact .letter 'n' (by decide) (by simp [escapeLetter?, h])
  split
  · next h => exact .letter 'r' (by decide) (by simp [escapeLetter?, h])
  split
  · next h => exact .letter 't' (by decide) (by simp [escapeLetter?, h])
  split
  · next h => exact .letter 'b' (by decide) (by simpa [escapeLetter?] using named h)
  split
  · next h => exact .letter 'f' (by decide) (by simpa [escapeLetter?] using named h)
  split
  · next h => exact .number h
  · next hquote hslash _ _ _ _ _ hcontrol => exact .plain hquote hslash hcontrol

theorem readText_escapeChar (c : Char) (fuel : Nat) (cs : List Char) :
    readText (fuel + 1) (Json.escapeChar c ++ cs) =
      (readText fuel cs).map fun (xs, rest) => (c :: xs, rest) := by
  have written := escaped_escapeChar c
  generalize Json.escapeChar c = form at written
  cases written with
  | plain hquote hslash hcontrol =>
    simp only [List.singleton_append, readText, hquote, hslash, hcontrol, if_false]
    cases readText fuel cs <;> rfl
  | letter e hu he =>
    simp only [List.cons_append, List.nil_append, readText, hu, he]
    cases readText fuel cs <;> rfl
  | number hcontrol =>
    simp [readText, hexFour_hex4 (show c.toNat < 65536 by omega), escapedNumber_control hcontrol]
    cases readText fuel cs <;> rfl

theorem skipText_escapeChar (c : Char) (fuel : Nat) (cs : List Char) :
    skipText (fuel + 1) (Json.escapeChar c ++ cs) = skipText fuel cs := by
  have written := escaped_escapeChar c
  generalize Json.escapeChar c = form at written
  cases written with
  | plain hquote hslash hcontrol =>
    simp only [List.singleton_append, skipText, hquote, hslash, hcontrol, if_false]
  | letter e hu he => simp [skipText, hu, he]
  | number hcontrol =>
    simp [skipText, hexFour_hex4 (show c.toNat < 65536 by omega)]

theorem readText_escape (cs : List Char) {fuel : Nat} (hfuel : cs.length < fuel)
    (rest : List Char) :
    readText fuel (cs.flatMap Json.escapeChar ++ '"' :: rest) = .ok (cs, rest) := by
  induction cs generalizing fuel with
  | nil =>
    obtain ⟨n, rfl⟩ := Nat.exists_eq_add_of_lt hfuel
    simp [readText]
  | cons c cs ih =>
    obtain ⟨n, rfl⟩ := Nat.exists_eq_add_of_lt hfuel
    rw [List.flatMap_cons, List.append_assoc, readText_escapeChar,
      ih (by simp only [List.length_cons]; omega)]
    rfl

theorem skipText_escape (cs : List Char) {fuel : Nat} (hfuel : cs.length < fuel)
    (rest : List Char) :
    skipText fuel (cs.flatMap Json.escapeChar ++ '"' :: rest) = .ok rest := by
  induction cs generalizing fuel with
  | nil =>
    obtain ⟨n, rfl⟩ := Nat.exists_eq_add_of_lt hfuel
    simp [skipText]
  | cons c cs ih =>
    obtain ⟨n, rfl⟩ := Nat.exists_eq_add_of_lt hfuel
    rw [List.flatMap_cons, List.append_assoc, skipText_escapeChar]
    exact ih (by simp only [List.length_cons]; omega)

theorem length_le_escape (cs : List Char) : cs.length ≤ (cs.flatMap Json.escapeChar).length := by
  induction cs with
  | nil => simp
  | cons c cs ih =>
    have nonempty := (escaped_escapeChar c).length_pos
    simp only [List.flatMap_cons, List.length_append, List.length_cons]
    omega

/-- A written text after its opening quote. -/
theorem lexText_escape (s : String) (rest : List Char) :
    lexText (s.toList.flatMap Json.escapeChar ++ '"' :: rest) = .ok (some s, rest) := by
  have fuel : s.toList.length < (s.toList.flatMap Json.escapeChar ++ '"' :: rest).length := by
    have := length_le_escape s.toList
    simp only [List.length_append, List.length_cons]
    omega
  simp only [lexText, readText_escape _ fuel, skipText_escape _ fuel, String.ofList_toList]

/-! ## Integers -/

/-- What may come after a value: its end, the end of what it stands in, or a line break. -/
inductive Stops : List Char → Prop
  | nil : Stops []
  | lineBreak (cs : List Char) : Stops ('\n' :: cs)
  | comma (cs : List Char) : Stops (',' :: cs)
  | bracket (cs : List Char) : Stops (']' :: cs)
  | brace (cs : List Char) : Stops ('}' :: cs)

theorem isDigit_iff (c : Char) : isDigit c = c.isDigit := by
  rfl

theorem takeWhile_digits {ds cs : List Char} (hds : ∀ d ∈ ds, isDigit d = true) (h : Stops cs) :
    (ds ++ cs).takeWhile isDigit = ds ∧ (ds ++ cs).dropWhile isDigit = cs := by
  have stop : cs.takeWhile isDigit = [] ∧ cs.dropWhile isDigit = cs := by
    cases h <;> simp [isDigit]
  rw [List.takeWhile_append_of_pos hds, List.dropWhile_append_of_pos hds, stop.1, stop.2]
  simp

theorem isDigit_of_mem_toDigits {n : Nat} {d : Char} (h : d ∈ Nat.toDigits 10 n) :
    isDigit d = true :=
  (isDigit_iff d).trans (Nat.isDigit_of_mem_toDigits (by decide) (by decide) h)

theorem value_toDigits (n : Nat) :
    (Nat.toDigits 10 n).foldl (fun n d => n * 10 + digitValue d) 0 = n := by
  have digits := Nat.ofDigitChars_toDigits (n := n) (show 1 < 10 by decide) (by decide)
  simpa [Nat.ofDigitChars, digitValue, Nat.mul_comm] using digits

/-- A written number begins with a zero only if it is zero. -/
theorem toDigits_eq_cons (n : Nat) :
    ∃ d ds, Nat.toDigits 10 n = d :: ds ∧ (d = '0' → ds = []) := by
  induction n using Nat.strongRecOn with
  | ind n ih =>
    rcases Nat.lt_or_ge n 10 with h | h
    · exact ⟨_, [], Nat.toDigits_of_lt_base h, fun _ => rfl⟩
    · obtain ⟨d, ds, heq, hzero⟩ := ih (n / 10) (by omega)
      refine ⟨d, ds ++ [Nat.digitChar (n % 10)], ?_, fun hd => ?_⟩
      · rw [Nat.toDigits_of_base_le (by decide) h, heq, List.cons_append]
      · -- only zero itself would begin with a zero
        rw [hzero hd, hd, ← Nat.toDigits_zero 10] at heq
        have zero := congrArg (Nat.ofDigitChars 10 · 0) heq
        simp only [Nat.ofDigitChars_toDigits (show 1 < 10 by decide) (show 10 ≤ 10 by decide)] at zero
        omega

theorem lexFraction_stops (negative : Bool) (whole : List Char) {cs : List Char} (h : Stops cs) :
    lexFraction negative whole cs = .ok (integerOf negative whole, cs) := by
  cases h <;> rfl

/-- A written integer after its sign. -/
theorem lexUnsigned_toDigits (negative : Bool) (n : Nat) {cs : List Char} (h : Stops cs) :
    lexUnsigned negative (Nat.toDigits 10 n ++ cs) =
      .ok (integerOf negative (Nat.toDigits 10 n), cs) := by
  have digits : ∀ d ∈ Nat.toDigits 10 n, isDigit d = true := fun d => isDigit_of_mem_toDigits
  obtain ⟨d, ds, heq, hzero⟩ := toDigits_eq_cons n
  rw [heq] at digits ⊢
  by_cases hd : d = '0'
  · obtain rfl := hzero hd
    subst hd
    rw [← lexFraction_stops negative ['0'] h]
    cases h <;> rfl
  · have split := takeWhile_digits (fun e he => digits e (List.mem_cons_of_mem d he)) h
    have first : isDigit d = true := digits d List.mem_cons_self
    rw [List.cons_append, lexUnsigned.eq_def]
    simp [first, split.1, split.2, lexFraction_stops _ _ h]

theorem integerOf_toDigits {n : Nat} (h : n ≤ maxUnsigned) :
    integerOf false (Nat.toDigits 10 n) = some (.num n) := by
  simp [integerOf, value_toDigits, h]

theorem integerOf_negative {n : Nat} (hpos : 0 < n) (h : n ≤ UInt64.size / 2) :
    integerOf true (Nat.toDigits 10 n) = some (.num (-n)) := by
  simp only [integerOf, value_toDigits]
  exact (if_pos trivial).trans (if_pos ⟨hpos, h⟩)

end Doc

/-! ## Values -/

namespace Json

mutual

/-- A value as a document. -/
def toDoc : Json → Doc
  | null => .null
  | bool b => .bool b
  | num i => .number (some (.num i))
  | real bits => .number (some (.real bits))
  | str s => .text (some s)
  | arr xs => .items (itemsToDoc xs) none
  | obj ms => .members (membersToDoc ms) none

/-- The items of a sequence as documents. -/
def itemsToDoc : List Json → List Doc
  | [] => []
  | x :: xs => toDoc x :: itemsToDoc xs

/-- The members of an object as documents. -/
def membersToDoc : List (String × Json) → List (Option String × Doc)
  | [] => []
  | (key, value) :: ms => (some key, toDoc value) :: membersToDoc ms

end

/-- The values whose written form is exact: their numbers are integers of sixty-four bits.  At most so
many sequences and objects lie within one another. -/
inductive Plain : Nat → Json → Prop
  | null {k : Nat} : Plain k .null
  | bool {k : Nat} (b : Bool) : Plain k (.bool b)
  | nat {k n : Nat} (h : n ≤ Doc.maxUnsigned) : Plain k (.num n)
  | negative {k n : Nat} (hpos : 0 < n) (h : n ≤ UInt64.size / 2) : Plain k (.num (-n))
  | str {k : Nat} (s : String) : Plain k (.str s)
  | arr {k : Nat} {xs : List Json} (h : ∀ x ∈ xs, Plain k x) : Plain (k + 1) (.arr xs)
  | obj {k : Nat} {ms : List (String × Json)} (h : ∀ m ∈ ms, Plain k m.2) :
      Plain (k + 1) (.obj ms)

namespace Plain

variable {k : Nat}

attribute [simp] Plain.null Plain.bool Plain.str

@[simp]
theorem arr_iff {xs : List Json} : Plain (k + 1) (.arr xs) ↔ ∀ x ∈ xs, Plain k x :=
  ⟨fun h => by cases h; assumption, .arr⟩

@[simp]
theorem obj_iff {ms : List (String × Json)} : Plain (k + 1) (.obj ms) ↔ ∀ m ∈ ms, Plain k m.2 :=
  ⟨fun h => by cases h; assumption, .obj⟩

theorem mono {l : Nat} {j : Json} (h : Plain k j) (hkl : k ≤ l) : Plain l j := by
  induction h generalizing l with
  | null => exact .null
  | bool b => exact .bool b
  | nat h => exact .nat h
  | negative hpos h => exact .negative hpos h
  | str s => exact .str s
  | arr _ ih =>
    obtain ⟨m, rfl⟩ := Nat.exists_eq_add_of_le' (Nat.one_le_of_lt hkl)
    exact .arr fun x hx => ih x hx (Nat.le_of_succ_le_succ hkl)
  | obj _ ih =>
    obtain ⟨m, rfl⟩ := Nat.exists_eq_add_of_le' (Nat.one_le_of_lt hkl)
    exact .obj fun x hx => ih x hx (Nat.le_of_succ_le_succ hkl)

end Plain

end Json

namespace Doc

/-- What a written value begins with. -/
structure Begins (c : Char) : Prop where
  space : isSpace c = false
  bracket : c ≠ ']'

/-- A text that begins with a written value. -/
def Starts (cs : List Char) : Prop :=
  ∃ c rest, cs = c :: rest ∧ Begins c

theorem Starts.append {cs : List Char} (h : Starts cs) (rest : List Char) : Starts (cs ++ rest) := by
  obtain ⟨c, cs, rfl, hc⟩ := h
  exact ⟨c, cs ++ rest, rfl, hc⟩

theorem begins_of_isDigit {c : Char} (h : isDigit c = true) : Begins c := by
  simp only [isDigit, Bool.and_eq_true, decide_eq_true_eq] at h
  constructor
  · simp only [isSpace, Bool.or_eq_false_iff, decide_eq_false_iff_not]
    refine ⟨⟨⟨?_, ?_⟩, ?_⟩, ?_⟩ <;> rintro rfl <;> exact absurd h (by decide)
  · rintro rfl
    exact absurd h (by decide)

theorem starts_write {k : Nat} {j : Json} (h : j.Plain k) : Starts j.write := by
  cases h with
  | null => exact ⟨_, _, rfl, by decide, by decide⟩
  | bool b => cases b <;> exact ⟨_, _, rfl, by decide, by decide⟩
  | @nat _ n h =>
    obtain ⟨d, ds, heq, -⟩ := toDigits_eq_cons n
    refine ⟨d, ds, by simp [Json.write, Json.intChars, heq], ?_⟩
    exact begins_of_isDigit (isDigit_of_mem_toDigits (n := n) (by simp [heq]))
  | @negative _ n hpos h =>
    exact ⟨'-', Nat.toDigits 10 n, by simp [Json.write, Json.intChars, hpos], by decide, by decide⟩
  | str s => exact ⟨_, _, rfl, by decide, by decide⟩
  | @arr _ xs h => cases xs <;> exact ⟨_, _, rfl, by decide, by decide⟩
  | @obj _ ms h => cases ms <;> exact ⟨_, _, rfl, by decide, by decide⟩

theorem Starts.skipSpace {cs : List Char} (h : Starts cs) : skipSpace cs = cs := by
  obtain ⟨c, cs, rfl, hc⟩ := h
  simp [Doc.skipSpace, hc.space]

theorem skipSpace_of_quote {cs : List Char} (h : cs.head? = some '"') : skipSpace cs = cs := by
  obtain ⟨cs, rfl⟩ : ∃ text, cs = '"' :: text := ⟨_, List.eq_cons_of_mem_head? h⟩
  rfl

/-! What the reader does at the separators, whatever blanks follow them.  Here `fuel` is what is left
for the values in between. -/

section Separators

variable {fuel : Nat} {cs tail more rest : List Char} {x value : Doc}

theorem lexValue_bracket (gap : skipSpace tail = cs) (h : Starts cs) :
    lexValue (fuel + 1) ('[' :: tail) =
      (.items (lexItems fuel cs).1 (lexItems fuel cs).2.1, (lexItems fuel cs).2.2) := by
  have skip : skipSpace ('[' :: tail) = '[' :: tail := rfl
  obtain ⟨c, cs, rfl, hc⟩ := h
  simp [lexValue, skip, gap, hc.bracket]

theorem lexValue_brace (gap : skipSpace tail = cs) (h : cs.head? = some '"') :
    lexValue (fuel + 1) ('{' :: tail) =
      (.members (lexMembers fuel cs).1 (lexMembers fuel cs).2.1, (lexMembers fuel cs).2.2) := by
  have skip : skipSpace ('{' :: tail) = '{' :: tail := rfl
  obtain ⟨cs, rfl⟩ : ∃ text, cs = '"' :: text := ⟨_, List.eq_cons_of_mem_head? h⟩
  simp [lexValue, skip, gap]

theorem lexItems_last (h : lexValue fuel cs = (x, tail)) (gap : skipSpace tail = ']' :: rest) :
    lexItems (fuel + 1) cs = ([x], none, rest) := by
  simp [lexItems, h, gap]

theorem lexItems_comma (h : lexValue fuel cs = (x, ',' :: tail)) (gap : skipSpace tail = more)
    (hmore : Starts more) :
    lexItems (fuel + 1) cs = (x :: (lexItems fuel more).1, (lexItems fuel more).2) := by
  have skip : skipSpace (',' :: tail) = ',' :: tail := rfl
  obtain ⟨c, more, rfl, hc⟩ := hmore
  simp [lexItems, h, skip, gap, hc.bracket]

theorem lexMembers_last (key : String) (h : lexValue fuel cs = (value, tail))
    (gap : skipSpace tail = '}' :: rest) :
    lexMembers (fuel + 1) (Json.escape key ++ ':' :: cs) = ([(some key, value)], none, rest) := by
  have skip : skipSpace (':' :: cs) = ':' :: cs := rfl
  simp [Json.escape, lexMembers, lexText_escape, h, skip, gap]

theorem lexMembers_comma (key : String) (h : lexValue fuel cs = (value, ',' :: tail))
    (gap : skipSpace tail = more) (hmore : more.head? = some '"') :
    lexMembers (fuel + 1) (Json.escape key ++ ':' :: cs) =
      ((some key, value) :: (lexMembers fuel more).1, (lexMembers fuel more).2) := by
  obtain ⟨more, rfl⟩ : ∃ text, more = '"' :: text := ⟨_, List.eq_cons_of_mem_head? hmore⟩
  have skip : skipSpace (':' :: cs) = ':' :: cs := rfl
  have skip' : skipSpace (',' :: tail) = ',' :: tail := rfl
  simp [Json.escape, lexMembers, lexText_escape, h, skip, skip', gap]

end Separators

/-- The value reads back with this fuel, whatever follows. -/
def ReadsBack (j : Json) : Prop :=
  ∀ fuel rest, j.write.length ≤ fuel → Stops rest → lexValue fuel (j.write ++ rest) = (j.toDoc, rest)

/-- The items of a sequence read back if each of them does. -/
theorem lexItems_write {x : Json} {xs : List Json} {k : Nat} (plain : ∀ y ∈ xs, y.Plain k)
    (reads : ∀ y ∈ x :: xs, ReadsBack y) {fuel : Nat}
    (hfuel : x.write.length + (Json.writeItems xs).length < fuel) (rest : List Char) :
    lexItems fuel (x.write ++ (Json.writeItems xs ++ ']' :: rest)) =
      (Json.itemsToDoc (x :: xs), none, rest) := by
  induction xs generalizing x fuel with
  | nil =>
    obtain ⟨n, rfl⟩ := Nat.exists_eq_succ_of_ne_zero (by omega : fuel ≠ 0)
    exact lexItems_last (reads x (by simp) n _ (by omega) (.bracket rest)) rfl
  | cons y ys ih =>
    obtain ⟨n, rfl⟩ := Nat.exists_eq_succ_of_ne_zero (by omega : fuel ≠ 0)
    simp only [Json.writeItems, List.length_cons, List.length_append, List.cons_append,
      List.append_assoc] at hfuel ⊢
    have first := reads x (by simp) n (',' :: (y.write ++ (Json.writeItems ys ++ ']' :: rest)))
      (by omega) (.comma _)
    have later := ih (fun z hz => plain z (List.mem_cons_of_mem _ hz))
      (fun z hz => reads z (List.mem_cons_of_mem _ hz)) (show _ < n by omega)
    have starts : Starts (y.write ++ (Json.writeItems ys ++ ']' :: rest)) :=
      (starts_write (plain y (by simp))).append _
    rw [lexItems_comma first starts.skipSpace starts, later]
    rfl

theorem head?_writeMember (m : String × Json) (rest : List Char) :
    (Json.writeMember m ++ rest).head? = some '"' := by
  obtain ⟨key, value⟩ := m
  rfl

/-- The members of an object read back if the value of each of them does. -/
theorem lexMembers_write {m : String × Json} {ms : List (String × Json)}
    (reads : ∀ n ∈ m :: ms, ReadsBack n.2) {fuel : Nat}
    (hfuel : (Json.writeMember m).length + (Json.writeMembers ms).length < fuel)
    (rest : List Char) :
    lexMembers fuel (Json.writeMember m ++ (Json.writeMembers ms ++ '}' :: rest)) =
      (Json.membersToDoc (m :: ms), none, rest) := by
  induction ms generalizing m fuel with
  | nil =>
    obtain ⟨n, rfl⟩ := Nat.exists_eq_succ_of_ne_zero (by omega : fuel ≠ 0)
    obtain ⟨key, value⟩ := m
    simp only [Json.writeMember, Json.writeMembers, List.length_append, List.length_cons,
      List.append_assoc, List.cons_append] at hfuel ⊢
    exact lexMembers_last key
      (reads (key, value) (by simp) n _ (by simp only; omega) (.brace rest)) rfl
  | cons next ms ih =>
    obtain ⟨n, rfl⟩ := Nat.exists_eq_succ_of_ne_zero (by omega : fuel ≠ 0)
    have room : (Json.writeMember next).length + (Json.writeMembers ms).length < n := by
      simp only [Json.writeMembers, List.length_cons, List.length_append] at hfuel
      omega
    have later := ih (fun o ho => reads o (List.mem_cons_of_mem _ ho)) room
    have quote := head?_writeMember next (Json.writeMembers ms ++ '}' :: rest)
    obtain ⟨key, value⟩ := m
    rw [Json.writeMember] at hfuel ⊢
    simp only [Json.writeMembers, List.length_cons, List.length_append, List.cons_append,
      List.append_assoc] at hfuel ⊢
    have first := reads (key, value) (by simp) n
      (',' :: (Json.writeMember next ++ (Json.writeMembers ms ++ '}' :: rest)))
      (by simp only; omega) (.comma _)
    rw [lexMembers_comma key first (skipSpace_of_quote quote) quote, later]
    rfl

/-- What takes fuel has some. -/
theorem exists_fuel {c : Char} {cs : List Char} {fuel : Nat} (h : (c :: cs).length ≤ fuel) :
    ∃ n, fuel = n + 1 :=
  Nat.exists_eq_succ_of_ne_zero (Nat.ne_of_gt (Nat.lt_of_lt_of_le (Nat.succ_pos _) h))

theorem lexWord_append (value : Doc) (word rest : List Char) :
    lexWord value word (word ++ rest) = (value, rest) := by
  induction word with
  | nil => cases rest <;> rfl
  | cons c word ih => simpa [lexWord] using ih

/-- The value that is made of what was read at the head of a text, and the rest. -/
def lexed {α : Type} (make : α → Doc) : Except (Fault × Fault) (α × List Char) → Doc × List Char
  | .ok (value, rest) => (make value, rest)
  | .error (read, skip) => (fault read skip, [])

theorem lexValue_quote (fuel : Nat) (cs : List Char) :
    lexValue (fuel + 1) ('"' :: cs) = lexed text (lexText cs) := by
  have atom : lexValue (fuel + 1) ('"' :: cs) = lexAtom '"' cs := rfl
  rw [atom, lexAtom]
  cases lexText cs <;> rfl

theorem lexValue_minus (fuel : Nat) (cs : List Char) :
    lexValue (fuel + 1) ('-' :: cs) = lexed number (lexUnsigned true cs) := by
  have atom : lexValue (fuel + 1) ('-' :: cs) = lexAtom '-' cs := rfl
  rw [atom, lexAtom]
  cases lexUnsigned true cs <;> rfl

/-- A digit begins a number and nothing else. -/
theorem lexValue_digit {c : Char} (hc : isDigit c = true) (fuel : Nat) (cs : List Char) :
    lexValue (fuel + 1) (c :: cs) = lexed number (lexUnsigned false (c :: cs)) := by
  have other {d : Char} (hd : isDigit d = false) : c ≠ d := by
    rintro rfl
    simp [hc] at hd
  have atom : lexValue (fuel + 1) (c :: cs) = lexAtom c cs := by
    have skip := Starts.skipSpace ⟨c, cs, rfl, begins_of_isDigit hc⟩
    rw [lexValue, skip]
    simp [other (d := '[') (by decide), other (d := '{') (by decide)]
  rw [atom, lexAtom, if_neg (other (by decide)), if_neg (other (by decide)),
    if_neg (other (by decide)), if_neg (other (by decide)), if_pos (.inr hc),
    if_neg (other (by decide))]
  cases lexUnsigned false (c :: cs) <;> rfl

/-- **Written values read back**: the reader of documents makes of the compact form of a value that
value, and goes on behind it. -/
theorem lexValue_write {k : Nat} {j : Json} (h : j.Plain k) : ReadsBack j := by
  induction h with
  | null =>
    intro fuel rest hfuel hrest
    obtain ⟨n, rfl⟩ := exists_fuel hfuel
    exact lexWord_append .null ['u', 'l', 'l'] rest
  | bool b =>
    intro fuel rest hfuel hrest
    cases b with
    | true =>
      obtain ⟨n, rfl⟩ := exists_fuel hfuel
      exact lexWord_append (.bool true) ['r', 'u', 'e'] rest
    | false =>
      obtain ⟨n, rfl⟩ := exists_fuel hfuel
      exact lexWord_append (.bool false) ['a', 'l', 's', 'e'] rest
  | @nat _ n h =>
    intro fuel rest hfuel hrest
    have number := lexUnsigned_toDigits false n hrest
    have first (d : Char) (hd : d ∈ Nat.toDigits 10 n) := isDigit_of_mem_toDigits hd
    obtain ⟨d, ds, heq, -⟩ := toDigits_eq_cons n
    have written : (Json.num n).write = d :: ds := by simp [Json.write, Json.intChars, heq]
    rw [written] at hfuel ⊢
    rw [integerOf_toDigits h, heq] at number
    rw [heq] at first
    obtain ⟨m, rfl⟩ := exists_fuel hfuel
    rw [List.cons_append] at number ⊢
    rw [lexValue_digit (first d List.mem_cons_self), number]
    rfl
  | @negative _ n hpos h =>
    intro fuel rest hfuel hrest
    have number := lexUnsigned_toDigits true n hrest
    rw [integerOf_negative hpos h] at number
    have written : (Json.num (-n)).write = '-' :: Nat.toDigits 10 n := by
      simp [Json.write, Json.intChars, hpos]
    rw [written] at hfuel ⊢
    obtain ⟨m, rfl⟩ := exists_fuel hfuel
    rw [List.cons_append, lexValue_minus, number]
    rfl
  | str s =>
    intro fuel rest hfuel hrest
    obtain ⟨n, rfl⟩ := exists_fuel hfuel
    simp only [Json.write, Json.escape, List.cons_append, List.append_assoc, List.nil_append]
    rw [lexValue_quote, lexText_escape]
    rfl
  | @arr k xs plain ih =>
    intro fuel rest hfuel hrest
    cases xs with
    | nil =>
      obtain ⟨n, rfl⟩ := exists_fuel hfuel
      rfl
    | cons x xs =>
      simp only [Json.write, List.length_cons, List.length_append, List.cons_append, List.append_assoc,
        List.nil_append] at hfuel ⊢
      obtain ⟨n, rfl⟩ := Nat.exists_eq_succ_of_ne_zero (by omega : fuel ≠ 0)
      have items := lexItems_write (fun y hy => plain y (List.mem_cons_of_mem _ hy)) ih
        (show _ < n by omega) rest
      have starts : Starts (x.write ++ (Json.writeItems xs ++ ']' :: rest)) :=
        (starts_write (plain x (by simp))).append _
      rw [lexValue_bracket starts.skipSpace starts, items]
      rfl
  | @obj k ms plain ih =>
    intro fuel rest hfuel hrest
    cases ms with
    | nil =>
      obtain ⟨n, rfl⟩ := exists_fuel hfuel
      rfl
    | cons m ms =>
      simp only [Json.write, List.length_cons, List.length_append, List.cons_append, List.append_assoc,
        List.nil_append] at hfuel ⊢
      obtain ⟨n, rfl⟩ := Nat.exists_eq_succ_of_ne_zero (by omega : fuel ≠ 0)
      have members := lexMembers_write ih (show _ < n by omega) rest
      have quote := head?_writeMember m (Json.writeMembers ms ++ '}' :: rest)
      rw [lexValue_brace (skipSpace_of_quote quote) quote, members]
      rfl

/-- A written value is all that there is in its text. -/
theorem ofText_compact {k : Nat} {j : Json} (h : j.Plain k) :
    ofText j.compact = (j.toDoc, false) := by
  have reads := lexValue_write h (2 * j.write.length + 2) [] (by omega) .nil
  rw [List.append_nil] at reads
  simp [ofText, ofChars, Json.compact, reads, skipSpace]

end Doc
end ClusterControl
