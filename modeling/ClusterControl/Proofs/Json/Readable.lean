import ClusterControl.Json.Reading
import ClusterControl.Proofs.Json.RoundTrip
import ClusterControl.Proofs.Text.Utf8

/-!
# Values that a reader takes

A typed reader finds a value in one of two forms: still as a document, so many levels deep, or set
aside.  This module says for each of the readers that others are made of which value it takes for
what, whatever the form.

* `Form`, `Form.source` — the forms of a value.
* `Reads` — a reader takes a value for something, wherever there is room for its levels.
* `reads_toJson`, `reads_list`, `reads_table`, `record_source` — values of any shape, sequences,
  tables and records.
* `readText_compact` — a reader takes the compact form of a value for what it takes the value for.
* `readBytes_encode` — a reader takes the bytes of a text for what it takes the text for.
-/

namespace ClusterControl

/-- How a reader may find a value: as a document inside so many sequences and objects, or set
aside. -/
inductive Form
  | document (depth : Nat)
  | value

namespace Form

/-- What a reader of a value in this form reads from. -/
def source : Form → Json → Source
  | document depth, j => .document j.toDoc depth
  | value, j => .value j

/-- The form of what stands in a value of this form. -/
def inner : Form → Form
  | document depth => document (depth + 1)
  | value => value

/-- There is room for so many levels. -/
def HasRoom (k : Nat) : Form → Prop
  | document depth => depth + k ≤ maxDepth
  | value => True

variable {form : Form} {k : Nat}

theorem HasRoom.inner (h : form.HasRoom (k + 1)) : form.inner.HasRoom k := by
  cases form with
  | document depth => exact (Nat.add_right_comm depth 1 k).trans_le h
  | value => trivial

theorem HasRoom.mono {l : Nat} (h : form.HasRoom l) (hkl : k ≤ l) : form.HasRoom k := by
  cases form with
  | document depth => exact (Nat.add_le_add_left hkl depth).trans h
  | value => trivial

end Form

/-- A reader takes a value for this wherever there is room for so many levels. -/
def Reads {α : Type} (read : Source → Reading α) (k : Nat) (j : Json) (v : α) : Prop :=
  ∀ form : Form, form.HasRoom k → read (form.source j) = .ok v

theorem Reads.mono {α : Type} {read : Source → Reading α} {k l : Nat} {j : Json} {v : α}
    (h : Reads read k j v) (hkl : k ≤ l) : Reads read l j v :=
  fun form room => h form (room.mono hkl)

/-! ## Values of any shape -/

theorem Json.itemsToDoc_eq_map (xs : List Json) : itemsToDoc xs = xs.map toDoc := by
  induction xs with
  | nil => rfl
  | cons x xs ih => simp [itemsToDoc, ih]

theorem Json.membersToDoc_eq_map (ms : List (String × Json)) :
    membersToDoc ms = ms.map fun m => (some m.1, m.2.toDoc) := by
  induction ms with
  | nil => rfl
  | cons m ms ih => simp [membersToDoc, ih]

theorem checkDepth_of_le {depth k : Nat} (h : depth + (k + 1) ≤ maxDepth) :
    checkDepth depth = .ok () :=
  if_pos (by omega)

theorem itemsToJson_eq {depth : Nat} {xs : List Json}
    (h : ∀ x ∈ xs, x.toDoc.toJson depth = .ok x) :
    Doc.itemsToJson depth (Json.itemsToDoc xs) = .ok xs := by
  induction xs with
  | nil => rfl
  | cons x xs ih =>
    simp [Json.itemsToDoc, Doc.itemsToJson, h x (by simp), ih fun y hy => h y (by simp [hy])]

theorem membersToJson_eq {depth : Nat} {ms : List (String × Json)}
    (h : ∀ m ∈ ms, m.2.toDoc.toJson depth = .ok m.2) :
    Doc.membersToJson depth (Json.membersToDoc ms) = .ok ms := by
  induction ms with
  | nil => rfl
  | cons m ms ih =>
    simp [Json.membersToDoc, Doc.membersToJson, readKey, h m (by simp),
      ih fun n hn => h n (by simp [hn])]

/-- The value of a document is the value that the document was made of. -/
theorem toJson_toDoc {k : Nat} {j : Json} (h : j.Plain k) {depth : Nat}
    (room : depth + k ≤ maxDepth) : j.toDoc.toJson depth = .ok j := by
  induction h generalizing depth with
  | @arr k xs _ ih =>
    have items : Doc.itemsToJson (depth + 1) (Json.itemsToDoc xs) = .ok xs :=
      itemsToJson_eq fun x hx => ih x hx (by omega)
    simp [Json.toDoc, Doc.toJson, checkDepth_of_le room, checkClose, items]
  | @obj k ms _ ih =>
    have members : Doc.membersToJson (depth + 1) (Json.membersToDoc ms) = .ok ms :=
      membersToJson_eq fun m hm => ih m hm (by omega)
    simp [Json.toDoc, Doc.toJson, checkDepth_of_le room, checkClose, members]
  | _ => rfl

theorem reads_toJson {k : Nat} {j : Json} (h : j.Plain k) : Reads Source.toJson k j j := by
  intro form room
  cases form with
  | document depth => exact toJson_toDoc h room
  | value => rfl

/-! ## Readers of one value -/

section Readers

variable {form : Form} {k : Nat} {α : Type} {read : Source → Reading α}

/-- What a reader sees of a value. -/
@[simp]
theorem seen_source (form : Form) (j : Json) : (form.source j).seen = .ok j.seen := by
  cases form <;> cases j <;> rfl

@[simp]
theorem text_source (form : Form) (s : String) : (form.source (.str s)).text = .ok s := by
  simp [Source.text, Json.seen]

@[simp]
theorem bool_source (form : Form) (b : Bool) : (form.source (.bool b)).bool = .ok b := by
  simp [Source.bool, Json.seen]

theorem unsigned_source (form : Form) {n max : Nat} (h : n ≤ max) (name : String) :
    (form.source (.num n)).unsigned max name = .ok n := by
  simp [Source.unsigned, Json.seen, h]

@[simp]
theorem option_text_source (form : Form) (s : String) :
    (form.source (.str s)).option Source.text = .ok (some s) := by
  simp [Source.option, Json.seen, Except.map]

@[simp]
theorem variant_source (form : Form) (known : List (String × α)) (name : String) :
    (form.source (.str name)).variant known = readVariant known name := by
  cases form <;> rfl

@[simp]
theorem tag_source (form : Form) (known : List (String × α)) (name : String) :
    (form.source (.str name)).tag known = readVariant known name := by
  simp [Source.tag, Json.seen]

theorem reads_text (k : Nat) (s : String) : Reads Source.text k (.str s) s :=
  fun form _ => text_source form s

theorem mapM_map_ok {β : Type} {f : β → Json} {g : Json → Reading α} {h : β → α} {xs : List β}
    (hg : ∀ x ∈ xs, g (f x) = .ok (h x)) : (xs.map f).mapM g = .ok (xs.map h) := by
  induction xs with
  | nil => rfl
  | cons x xs ih =>
    simp [List.mapM_cons, hg x (by simp), ih fun y hy => hg y (by simp [hy])]

/-- A sequence is read item by item. -/
theorem list_source (room : form.HasRoom (k + 1)) (xs : List Json) :
    (form.source (.arr xs)).list read = xs.mapM fun x => read (form.inner.source x) := by
  cases form with
  | document depth =>
    simp [Form.source, Form.inner, Json.toDoc, Source.list, checkDepth_of_le room, checkClose,
      Json.itemsToDoc_eq_map, List.mapM_map]
    rfl
  | value => rfl

theorem reads_list {f : α → Json} {xs : List α} (h : ∀ x ∈ xs, Reads read k (f x) x) :
    Reads (Source.list read) (k + 1) (.arr (xs.map f)) xs := by
  intro form room
  rw [list_source room]
  simpa using mapM_map_ok (g := fun x => read (form.inner.source x)) (h := id)
    fun x hx => h x hx form.inner room.inner

/-- A table is read member by member. -/
theorem table_source (room : form.HasRoom (k + 1)) (ms : List (String × Json)) :
    (form.source (.obj ms)).table read = ms.mapM (fun m => do
      let v ← read (form.inner.source m.2)
      .ok (m.1, v)) := by
  cases form with
  | document depth =>
    simp [Form.source, Form.inner, Json.toDoc, Source.table, checkDepth_of_le room, checkClose,
      Json.membersToDoc_eq_map, List.mapM_map]
    rfl
  | value => rfl

theorem reads_table {f : α → Json} {entries : List (String × α)}
    (h : ∀ e ∈ entries, Reads read k (f e.2) e.2) :
    Reads (Source.table read) (k + 1) (.obj (entries.map fun e => (e.1, f e.2))) entries := by
  intro form room
  rw [table_source room]
  induction entries with
  | nil => rfl
  | cons e entries ih =>
    simp [List.mapM_cons, h e (by simp) form.inner room.inner, ih fun e he => h e (by simp [he])]

/-- A record is read member by member. -/
theorem record_source {ρ : Type} (room : form.HasRoom (k + 1)) (what : String)
    (fields : List (FieldReader ρ)) (empty : ρ) (ms : List (String × Json)) :
    (form.source (.obj ms)).record what fields empty =
      ms.foldlM (fun r m => readMember fields r m.1 (form.inner.source m.2)) empty := by
  cases form with
  | document depth =>
    simp [Form.source, Form.inner, Json.toDoc, Source.record, checkDepth_of_le room, checkClose,
      Json.membersToDoc_eq_map, List.foldlM_map, readKey]
  | value => rfl

end Readers

/-- A reader takes the compact form of a value for what it takes the value for. -/
theorem readText_compact {α : Type} {read : Source → Reading α} {k : Nat} {j : Json} {v : α}
    (plain : j.Plain k) (h : Reads read k j v) (hk : k ≤ maxDepth) :
    readText read j.compact = .ok v := by
  have reads := h (.document 0) (by simpa [Form.HasRoom] using hk)
  simp only [Form.source] at reads
  simp [readText, Doc.ofText_compact plain, reads]

theorem charsOfBytes_go_encodeChars (cs : List Char) {fuel : Nat} (escaped : Bool)
    (hfuel : (Utf8.encodeChars cs).length ≤ fuel) :
    Doc.charsOfBytes.go fuel escaped (Utf8.encodeChars cs) = cs := by
  induction cs generalizing fuel escaped with
  | nil => cases fuel <;> rfl
  | cons c cs ih =>
    have nonempty := Utf8.length_encodeChar_pos c
    simp only [Utf8.encodeChars, List.flatMap_cons, List.length_append] at hfuel ⊢
    obtain ⟨n, rfl⟩ := Nat.exists_eq_succ_of_ne_zero (by omega : fuel ≠ 0)
    rw [Doc.charsOfBytes.go, Utf8.lead_encodeChar]
    simp only [Utf8.drop_encodeChar]
    rw [← Utf8.encodeChars, ih _ (by simp only [Utf8.encodeChars]; omega)]

/-- A reader takes the bytes of a text for what it takes the text for. -/
theorem readBytes_encode {α : Type} (read : Source → Reading α) (s : String) :
    readBytes read (Utf8.encode s) = readText read s := by
  rw [readBytes, readText, Doc.ofBytes, Doc.ofText, Doc.charsOfBytes, Utf8.encode,
    charsOfBytes_go_encodeChars _ _ (Nat.le_refl _)]

end ClusterControl
