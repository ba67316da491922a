import ClusterControl.Proofs.Json.Readable

/-!
# The order of members

An object is written with its members in some order, and the order means nothing: a reader takes a
value for the same thing when the members of any of its objects stand in another order.  This module
says when two values differ in nothing else, and proves that a record is read alike from both.

* `Json.Reordered` — one value is the other one with its members in another order, at any depth.
* `foldlM_perm` — a fold whose steps may be swapped comes to the same in any order.
* `FieldReader.Apart`, `swaps_readMember` — the fields of a record are read apart from each other,
  so their members may be swapped.
* `ReadsAnyhow`, `readsAnyhow_record`, `table_reordered` — a reader takes a value for something,
  whatever the order of its members.
-/

namespace ClusterControl

/-! ## Values in another order -/

/-- The second value is the first one with the members of its objects in another order, at any
depth. -/
inductive Json.Reordered : Json → Json → Prop
  | same (j : Json) : Reordered j j
  | arr {xs ys : List Json} (items : List.Forall₂ Reordered xs ys) : Reordered (.arr xs) (.arr ys)
  -- first the values of the members, and then the members themselves
  | obj {ms ns os : List (String × Json)} (keys : ms.map Prod.fst = ns.map Prod.fst)
      (values : List.Forall₂ Reordered (ms.map Prod.snd) (ns.map Prod.snd)) (order : ns.Perm os) :
      Reordered (.obj ms) (.obj os)

theorem exists_mem_of_forall₂ {α β : Type} {R : α → β → Prop} {xs : List α} {ys : List β}
    (h : List.Forall₂ R xs ys) {y : β} (hy : y ∈ ys) : ∃ x ∈ xs, R x y := by
  induction h with
  | nil => simp at hy
  | cons head _ ih =>
    rcases List.mem_cons.mp hy with rfl | hy
    · exact ⟨_, List.mem_cons_self, head⟩
    · obtain ⟨x, hx, hxy⟩ := ih hy
      exact ⟨x, List.mem_cons_of_mem _ hx, hxy⟩

namespace Json

/-- Two members with the same key, whose values differ only in the order of their members. -/
def Alike (m n : String × Json) : Prop :=
  m.1 = n.1 ∧ m.2.Reordered n.2

/-- There is nothing in the value whose order could be another one. -/
def Rigid (j : Json) : Prop :=
  ∀ ⦃other⦄, j.Reordered other → other = j

variable {j : Json} {xs : List Json} {ms ns : List (String × Json)}

theorem reordered_arr (h : (arr xs).Reordered j) :
    ∃ ys, j = .arr ys ∧ List.Forall₂ Reordered xs ys := by
  cases h with
  | same => exact ⟨xs, rfl, List.forall₂_same.mpr fun x _ => .same x⟩
  | arr items => exact ⟨_, rfl, items⟩

theorem forall₂_alike (keys : ms.map Prod.fst = ns.map Prod.fst)
    (values : List.Forall₂ Reordered (ms.map Prod.snd) (ns.map Prod.snd)) :
    List.Forall₂ Alike ms ns := by
  induction ms generalizing ns with
  | nil =>
    obtain rfl : ns = [] := List.map_eq_nil_iff.mp keys.symm
    exact .nil
  | cons m ms ih =>
    cases ns with
    | nil => simp at keys
    | cons n ns =>
      simp only [List.map_cons, List.cons.injEq, List.forall₂_cons] at keys values
      exact .cons ⟨keys.1, values.1⟩ (ih keys.2 values.2)

theorem reordered_obj (h : (obj ms).Reordered j) :
    ∃ ns os, j = .obj os ∧ List.Forall₂ Alike ms ns ∧ ns.Perm os := by
  cases h with
  | same => exact ⟨ms, ms, rfl, List.forall₂_same.mpr fun m _ => ⟨rfl, .same m.2⟩, .refl ms⟩
  | @obj _ ns os keys values order => exact ⟨ns, os, rfl, forall₂_alike keys values, order⟩

theorem keys_of_alike (h : List.Forall₂ Alike ms ns) : ns.map Prod.fst = ms.map Prod.fst := by
  induction h with
  | nil => rfl
  | cons alike _ ih => rw [List.map_cons, List.map_cons, alike.1, ih]

theorem reordered_of_alike {os : List (String × Json)} (h : List.Forall₂ Alike ms ns)
    (order : ns.Perm os) : (obj ms).Reordered (.obj os) := by
  refine .obj (keys_of_alike h).symm ?_ order
  rw [List.forall₂_map_left_iff, List.forall₂_map_right_iff]
  exact h.imp fun _ _ alike => alike.2

@[simp]
theorem rigid_str (s : String) : Rigid (.str s) := by
  rintro _ ⟨⟩
  rfl

@[simp]
theorem rigid_num (i : Int) : Rigid (.num i) := by
  rintro _ ⟨⟩
  rfl

@[simp]
theorem rigid_bool (b : Bool) : Rigid (.bool b) := by
  rintro _ ⟨⟩
  rfl

theorem rigid_arr (h : ∀ x ∈ xs, Rigid x) : Rigid (.arr xs) := by
  intro other hother
  obtain ⟨ys, rfl, items⟩ := reordered_arr hother
  congr 1
  induction items with
  | nil => rfl
  | cons item items ih =>
    rw [h _ List.mem_cons_self item]
    rw [ih (fun x hx => h x (List.mem_cons_of_mem _ hx)) (.arr items)]

/-- A value keeps its depth when its members are reordered, and its written form stays exact. -/
theorem Plain.reordered {k : Nat} (plain : Plain k j) {other : Json} (h : j.Reordered other) :
    Plain k other := by
  induction plain generalizing other with
  | arr _ ih =>
    obtain ⟨ys, rfl, items⟩ := reordered_arr h
    refine .arr fun y hy => ?_
    obtain ⟨x, hx, item⟩ := exists_mem_of_forall₂ items hy
    exact ih x hx item
  | obj _ ih =>
    obtain ⟨ns, os, rfl, members, order⟩ := reordered_obj h
    refine .obj fun n hn => ?_
    obtain ⟨m, hm, alike⟩ := exists_mem_of_forall₂ members (order.mem_iff.mpr hn)
    exact ih m hm alike.2
  | null => cases h; exact .null
  | bool b => cases h; exact .bool b
  | nat bound => cases h; exact .nat bound
  | negative hpos bound => cases h; exact .negative hpos bound
  | str s => cases h; exact .str s

end Json

/-! ## Folds in any order -/

section Folds

variable {ε β σ : Type} {f : σ → β → Except ε σ}

/-- Two steps of a fold come to the same in either order, if they succeed. -/
def Swaps (f : σ → β → Except ε σ) (a b : β) : Prop :=
  ∀ r v, (f r a >>= fun s => f s b) = .ok v ↔ (f r b >>= fun s => f s a) = .ok v

/-- A fold whose steps may be swapped comes to the same in any order. -/
theorem foldlM_perm {l l' : List β} (h : l.Perm l') (swaps : l.Pairwise (Swaps f)) {r v : σ}
    (hl : l.foldlM f r = .ok v) : l'.foldlM f r = .ok v := by
  induction h generalizing r with
  | nil => exact hl
  | cons a _ ih =>
    rw [List.foldlM_cons, bind_eq_ok] at hl ⊢
    obtain ⟨s, ha, hs⟩ := hl
    exact ⟨s, ha, ih swaps.of_cons hs⟩
  | swap a b l =>
    have pair : Swaps f b a := List.rel_of_pairwise_cons swaps List.mem_cons_self
    simp only [List.foldlM_cons, ← bind_assoc] at hl ⊢
    obtain ⟨s, hs, hl⟩ := bind_eq_ok.mp hl
    exact bind_eq_ok.mpr ⟨s, (pair r s).mp hs, hl⟩
  | trans first _ ih ih' =>
    refine ih' (first.pairwise swaps fun h => ?_) (ih swaps hl)
    exact fun r v => (h r v).symm

end Folds

/-! ## Records -/

section Records

variable {ρ : Type} {fields : List (FieldReader ρ)} {f g : FieldReader ρ}

namespace FieldReader

/-- Two fields of a record are read apart from each other: neither is there because the other one
is, and they may be read in either order. -/
structure Apart (f g : FieldReader ρ) : Prop where
  left : ∀ r s r', f.read r s = .ok r' → g.isSet r' = g.isSet r
  right : ∀ r s r', g.read r s = .ok r' → f.isSet r' = f.isSet r
  swap : ∀ r s t v, (f.read r s >>= fun r => g.read r t) = .ok v ↔
    (g.read r t >>= fun r => f.read r s) = .ok v

theorem Apart.symm (h : Apart f g) : Apart g f :=
  ⟨h.right, h.left, fun r s t v => (h.swap r t s v).symm⟩

/-- Fields are read apart from each other if each puts what it has read in a place of its own. -/
theorem apart_of_put {α β : Type} {readF : Source → Reading α} {readG : Source → Reading β}
    {putF : α → ρ → ρ} {putG : β → ρ → ρ}
    (hf : ∀ r s, f.read r s = (readF s >>= fun a => .ok (putF a r)))
    (hg : ∀ r s, g.read r s = (readG s >>= fun b => .ok (putG b r)))
    (left : ∀ a r, g.isSet (putF a r) = g.isSet r) (right : ∀ b r, f.isSet (putG b r) = f.isSet r)
    (swap : ∀ a b r, putG b (putF a r) = putF a (putG b r)) : Apart f g where
  left r s r' h := by
    rw [hf] at h
    obtain ⟨a, -, h⟩ := bind_eq_ok.mp h
    exact Except.ok.inj h ▸ left a r
  right r s r' h := by
    rw [hg] at h
    obtain ⟨b, -, h⟩ := bind_eq_ok.mp h
    exact Except.ok.inj h ▸ right b r
  swap r s t v := by
    simp only [hf, hg, bind_assoc, ok_bind, bind_eq_ok, swap]
    constructor
    · rintro ⟨a, ha, b, hb, h⟩
      exact ⟨b, hb, a, ha, h⟩
    · rintro ⟨b, hb, a, ha, h⟩
      exact ⟨a, ha, b, hb, h⟩

instance : Std.Symm (Apart (ρ := ρ)) :=
  ⟨fun _ _ => Apart.symm⟩

end FieldReader

theorem readMember_of_find? {key : String} (h : fields.find? (fun f => f.name = key) = some f)
    {r v : ρ} {s : Source} :
    readMember fields r key s = .ok v ↔ f.isSet r = false ∧ f.read r s = .ok v := by
  unfold readMember
  rw [h]
  cases hset : f.isSet r <;> simp [ShapeError.raise, hset]

/-- A member that is no field is passed over. -/
theorem readMember_of_unknown {key : String} (h : fields.find? (fun f => f.name = key) = none)
    (s : Source) : ∃ passed : Reading Unit, ∀ r,
      readMember fields r key s = (passed >>= fun _ => .ok r) := by
  unfold readMember
  rw [h]
  cases s with
  | document d depth => exact ⟨d.skip, fun r => rfl⟩
  | value j => exact ⟨.ok (), fun r => rfl⟩

/-- Members with different keys may be read in either order. -/
theorem swaps_readMember (apart : fields.Pairwise FieldReader.Apart) {m n : String × Source}
    (hkey : m.1 ≠ n.1) : Swaps (fun r m => readMember fields r m.1 m.2) m n := by
  intro r v
  cases hm : fields.find? (fun f => f.name = m.1) with
  | none =>
    obtain ⟨passed, h⟩ := readMember_of_unknown hm m.2
    simp only [h]
    cases passed <;> simp [bind_eq_ok]
  | some f =>
    cases hn : fields.find? (fun f => f.name = n.1) with
    | none =>
      obtain ⟨passed, h⟩ := readMember_of_unknown hn n.2
      simp only [h]
      cases passed <;> simp [bind_eq_ok]
    | some g =>
      have hne : f ≠ g := by
        rintro rfl
        have hf := List.find?_some hm
        have hg := List.find?_some hn
        simp only [decide_eq_true_eq] at hf hg
        exact hkey (hf.symm.trans hg)
      have pair : f.Apart g :=
        apart.forall (List.mem_of_find?_eq_some hm) (List.mem_of_find?_eq_some hn) hne
      have swap := pair.swap r m.2 n.2 v
      simp only [bind_eq_ok, readMember_of_find? hm, readMember_of_find? hn] at swap ⊢
      constructor
      · rintro ⟨s, ⟨hf, hs⟩, hg, hv⟩
        obtain ⟨t, ht, hv⟩ := swap.mp ⟨s, hs, hv⟩
        exact ⟨t, ⟨pair.left r _ s hs ▸ hg, ht⟩, pair.right r _ t ht ▸ hf, hv⟩
      · rintro ⟨t, ⟨hg, ht⟩, hf, hv⟩
        obtain ⟨s, hs, hv⟩ := swap.mpr ⟨t, ht, hv⟩
        exact ⟨s, ⟨pair.right r _ t ht ▸ hf, hs⟩, pair.left r _ s hs ▸ hg, hv⟩

end Records

/-! ## Readers -/

/-- A reader takes a value for this, in whatever order the members of its objects stand. -/
def ReadsAnyhow {α : Type} (read : Source → Reading α) (k : Nat) (j : Json) (v : α) : Prop :=
  ∀ ⦃other⦄, j.Reordered other → Reads read k other v

theorem Json.Rigid.readsAnyhow {α : Type} {read : Source → Reading α} {k : Nat} {j : Json} {v : α}
    (rigid : j.Rigid) (reads : Reads read k j v) : ReadsAnyhow read k j v := by
  intro other h
  rwa [rigid h]

section Readers

variable {α ρ : Type} {fields : List (FieldReader ρ)} {k : Nat} {m : String × Json}
  {read : Source → Reading α}

theorem ReadsAnyhow.mono {l : Nat} {j : Json} {v : α} (h : ReadsAnyhow read k j v) (hkl : k ≤ l) :
    ReadsAnyhow read l j v :=
  fun _ reordered => (h reordered).mono hkl

/-- What is made of a value that is read does not ask for the order either. -/
theorem ReadsAnyhow.bind {β : Type} {j : Json} {v : α} (h : ReadsAnyhow read k j v)
    {f : α → Reading β} {w : β} (hf : f v = .ok w) :
    ReadsAnyhow (fun s => read s >>= f) k j w := by
  intro other reordered form room
  exact bind_eq_ok.mpr ⟨v, h reordered form room, hf⟩

/-- A record takes the same from a member, in whatever order the members of its value stand. -/
def Blind (fields : List (FieldReader ρ)) (k : Nat) (m : String × Json) : Prop :=
  ∀ ⦃other⦄, m.2.Reordered other → ∀ form : Form, form.HasRoom k → ∀ r,
    readMember fields r m.1 (form.source other) = readMember fields r m.1 (form.source m.2)

theorem Json.Rigid.blind (rigid : m.2.Rigid) (fields : List (FieldReader ρ)) (k : Nat) :
    Blind fields k m := by
  intro other h form room r
  rw [rigid h]

/-- A field whose own reader is indifferent to the order. -/
theorem blind_of_readsAnyhow {f : FieldReader ρ} {v : α} {put : α → ρ → ρ}
    (hf : fields.find? (fun f => f.name = m.1) = some f)
    (hread : ∀ r s, f.read r s = (read s >>= fun a => .ok (put a r)))
    (h : ReadsAnyhow read k m.2 v) : Blind fields k m := by
  intro other hother form room r
  unfold readMember
  simp only [hf, hread, h hother form room, h (.same _) form room]

theorem foldlM_alike {ms ns : List (String × Json)} (alike : List.Forall₂ Json.Alike ms ns)
    (blind : ∀ m ∈ ms, Blind fields k m) {form : Form} (room : form.HasRoom k) (r : ρ) :
    ns.foldlM (fun r m => readMember fields r m.1 (form.source m.2)) r =
      ms.foldlM (fun r m => readMember fields r m.1 (form.source m.2)) r := by
  induction alike generalizing r with
  | nil => rfl
  | cons first _ ih =>
    have same := blind _ List.mem_cons_self first.2 form room r
    rw [List.foldlM_cons, List.foldlM_cons, ← first.1, same]
    congr 1
    exact funext fun r => ih (fun m hm => blind m (List.mem_cons_of_mem _ hm)) r

/-- A record is read alike in whatever order its members stand. -/
theorem readsAnyhow_record {what : String} {empty : ρ} {finish : ρ → Reading α} {v : α}
    {ms : List (String × Json)} (apart : fields.Pairwise FieldReader.Apart)
    (distinct : (ms.map Prod.fst).Nodup) (blind : ∀ m ∈ ms, Blind fields k m)
    (reads : Reads (fun s => s.record what fields empty >>= finish) (k + 1) (.obj ms) v) :
    ReadsAnyhow (fun s => s.record what fields empty >>= finish) (k + 1) (.obj ms) v := by
  intro other h form room
  obtain ⟨ns, os, rfl, members, order⟩ := Json.reordered_obj h
  obtain ⟨r, hr, hv⟩ := bind_eq_ok.mp (reads form room)
  refine bind_eq_ok.mpr ⟨r, ?_, hv⟩
  rw [record_source room] at hr ⊢
  rw [← foldlM_alike members blind room.inner] at hr
  let opened (m : String × Json) : String × Source := (m.1, form.inner.source m.2)
  have swaps : (ns.map opened).Pairwise (Swaps fun r m => readMember fields r m.1 m.2) := by
    rw [← Json.keys_of_alike members] at distinct
    refine List.pairwise_map.mpr ((List.pairwise_map.mp distinct).imp fun hkey => ?_)
    exact swaps_readMember apart hkey
  have given : (ns.map opened).foldlM (fun r m => readMember fields r m.1 m.2) empty = .ok r := by
    rwa [List.foldlM_map]
  have reordered := foldlM_perm (order.map opened) swaps given
  rwa [List.foldlM_map] at reordered

theorem mapM_of_forall₂ {β γ : Type} {g : β → Reading γ} {xs : List β} {ys : List γ}
    (h : List.Forall₂ (fun x y => g x = .ok y) xs ys) : xs.mapM g = .ok ys := by
  induction h with
  | nil => rfl
  | cons first _ ih =>
    rw [List.mapM_cons, first, ih]
    rfl

/-- The members of a table are read alike in whatever order they stand. -/
theorem table_reordered {f : α → Json} {entries : List (String × α)}
    (h : ∀ e ∈ entries, ReadsAnyhow read k (f e.2) e.2) {other : Json}
    (reordered : (Json.obj (entries.map fun e => (e.1, f e.2))).Reordered other) {form : Form}
    (room : form.HasRoom (k + 1)) :
    ∃ found : List (String × α), (form.source other).table read = .ok found ∧
      found.Perm entries := by
  obtain ⟨ns, os, rfl, members, order⟩ := Json.reordered_obj reordered
  have given : List.Forall₂ (fun n e => (do
      let v ← read (form.inner.source n.2)
      .ok (n.1, v) : Reading (String × α)) = .ok e) ns entries := by
    rw [List.forall₂_map_left_iff] at members
    refine (List.forall₂_iff_get.mpr ⟨members.length_eq.symm, fun i hn he => ?_⟩)
    obtain ⟨key, value⟩ := members.get he hn
    have reads := h _ (List.get_mem entries ⟨i, he⟩) value form.inner room.inner
    rw [reads, ok_bind, ← key]
  obtain ⟨found, given, same⟩ := List.perm_comp_forall₂ order.symm given
  refine ⟨found, ?_, same⟩
  rw [table_source room]
  exact mapM_of_forall₂ given

end Readers
end ClusterControl
