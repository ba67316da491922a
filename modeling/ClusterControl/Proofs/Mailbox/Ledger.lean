import ClusterControl.Mailbox.Slot
import Mathlib.Tactic

/-!
# What goes through a slot

A slot forgets: of all the values that were put in it keeps the newest one, and that only until it is
taken out.  A ledger keeps book of what went in and what came out, and this module says what the two
have in common whatever is done to the slot.

* `Ledger` — the values put in and the values taken out, under numbers.
* `Ledger.Agrees` — what a ledger and its slot have in common.
* `agrees_post`, `agrees_collect`, `agrees_dropSender`, `agrees_dropReceiver` — whatever is done to the
  slot, the ledger that keeps book of it goes on to agree with it.
* `existsUnique_fate` — what can become of a value, and that it is always exactly one of these.
-/

namespace ClusterControl

/-- The book of a slot.  The values that are put in get numbers from zero on. -/
structure Ledger (α : Type) where
  -- the values put in, each with whether it took another one's place
  posted : List (α × Bool) := []
  -- the values taken out, each with the number of the value that had been put in last by then
  taken : List (Nat × α) := []
  -- the number of the value that went away with the receiver
  discarded : Option Nat := none
deriving Repr, DecidableEq

namespace Ledger

variable {α : Type}

/-- The number of the value that was put in last. -/
def last (l : Ledger α) : Nat :=
  l.posted.length - 1

/-- The numbers of the values taken out. -/
def takenNumbers (l : Ledger α) : List Nat :=
  l.taken.map Prod.fst

/-- A value is put in. -/
def post (l : Ledger α) (v : α) (replaced : Bool) : Ledger α :=
  { l with posted := l.posted ++ [(v, replaced)] }

/-- The slot is looked into, and what is found there is taken out. -/
def collect (l : Ledger α) : Option α → Ledger α
  | some v => { l with taken := l.taken ++ [(l.last, v)] }
  | none => l

/-- The receiver goes away, with what is found in the slot. -/
def discard (l : Ledger α) : Option α → Ledger α
  | some _ => { l with discarded := some l.last }
  | none => l

/-- What a ledger and its slot have in common. -/
structure Agrees (l : Ledger α) (s : Slot α) : Prop where
  -- what came out, and then what waits, is in the order in which it went in
  order : (l.taken.map Prod.snd ++ s.value.toList).Sublist (l.posted.map Prod.fst)
  increasing : l.takenNumbers.Pairwise (· < ·)
  values : ∀ k v, (k, v) ∈ l.taken → ∃ replaced, l.posted[k]? = some (v, replaced)
  -- a value that waits is the newest one, and nobody has got it
  waiting : ∀ v, s.value = some v → s.receiverAlive = true ∧
    (∃ replaced, l.posted[l.last]? = some (v, replaced)) ∧ l.last ∉ l.takenNumbers
  empty : s.value = none →
    l.posted = [] ∨ l.last ∈ l.takenNumbers ∨ l.discarded = some l.last
  discarded : ∀ k, l.discarded = some k →
    s.receiverAlive = false ∧ k + 1 = l.posted.length ∧ k ∉ l.takenNumbers
  -- a value takes the place of the one before it exactly if nobody has got that one
  replaced : ∀ k v replaced, l.posted[k + 1]? = some (v, replaced) →
    (replaced = true ↔ k ∉ l.takenNumbers)
  first : ∀ v replaced, l.posted[0]? = some (v, replaced) → replaced = false

variable {l : Ledger α} {s : Slot α}

theorem Agrees.lt_length (h : l.Agrees s) {k : Nat} (hk : k ∈ l.takenNumbers) :
    k < l.posted.length := by
  obtain ⟨⟨_, v⟩, hmem, rfl⟩ := List.mem_map.mp hk
  obtain ⟨replaced, heq⟩ := h.values _ _ hmem
  exact (List.getElem?_eq_some_iff.mp heq).1

theorem Agrees.posted_ne_nil (h : l.Agrees s) {v : α} (hv : s.value = some v) :
    l.posted ≠ [] := by
  obtain ⟨-, ⟨replaced, heq⟩, -⟩ := h.waiting v hv
  rintro hnil
  simp [hnil] at heq

theorem agrees_empty : ({} : Ledger α).Agrees ({} : Slot α) := by
  constructor <;> simp [takenNumbers]

@[simp]
theorem last_post (l : Ledger α) (v : α) (replaced : Bool) :
    (l.post v replaced).last = l.posted.length := by
  simp [last, post]

@[simp]
theorem takenNumbers_post (l : Ledger α) (v : α) (replaced : Bool) :
    (l.post v replaced).takenNumbers = l.takenNumbers :=
  rfl

@[simp]
theorem takenNumbers_collect (l : Ledger α) (v : α) :
    (l.collect (some v)).takenNumbers = l.takenNumbers ++ [l.last] := by
  simp [takenNumbers, collect]

theorem posted_post (l : Ledger α) (v : α) (replaced : Bool) (k : Nat) :
    (l.post v replaced).posted[k]? =
      if k = l.posted.length then some (v, replaced) else l.posted[k]? := by
  simp only [post, List.getElem?_append]
  split
  · next h => rw [if_neg (by omega)]
  · next h =>
    split
    · next h => simp [h]
    · next hne => rw [List.getElem?_eq_none (by simp; omega), List.getElem?_eq_none (by omega)]

/-- A value is put in and, where one waits, takes its place. -/
theorem agrees_post (h : l.Agrees s) {v : α} {replaced : Bool} {s' : Slot α}
    (hpost : s.post v = .ok (replaced, s')) : (l.post v replaced).Agrees s' := by
  unfold Slot.post at hpost
  split at hpost
  · next alive =>
    obtain ⟨rfl, rfl⟩ := Prod.mk.inj (Except.ok.inj hpost)
    have undiscarded (k : Nat) : l.discarded ≠ some k := fun hk => by
      simp [(h.discarded k hk).1] at alive
    refine ⟨?_, h.increasing, ?_, ?_, by simp, ?_, ?_, ?_⟩
    · have taken := (List.sublist_append_left _ _).trans h.order
      simpa [post] using taken.append_right [v]
    · intro k w hmem
      rw [posted_post, if_neg (Nat.ne_of_lt (h.lt_length (List.mem_map_of_mem hmem)))]
      exact h.values k w hmem
    · rintro w hw
      obtain rfl := Option.some.inj hw
      refine ⟨alive, ⟨s.value.isSome, by simp [posted_post]⟩, fun hk => ?_⟩
      simpa using h.lt_length hk
    · exact fun k hk => absurd hk (undiscarded k)
    · intro k w r heq
      rw [posted_post] at heq
      split at heq
      · next hk =>
        have klast : k = l.last := by simp [last, ← hk]
        obtain ⟨-, rfl⟩ := Prod.mk.inj (Option.some.inj heq)
        subst klast
        cases hv : s.value with
        | some u => simpa using (h.waiting u hv).2.2
        | none =>
          rcases h.empty hv with hnil | htaken | hdiscarded
          · simp [hnil] at hk
          · simpa using htaken
          · exact absurd hdiscarded (undiscarded _)
      · exact h.replaced k w r heq
    · intro w r heq
      rw [posted_post] at heq
      split at heq
      · next hk =>
        obtain ⟨-, rfl⟩ := Prod.mk.inj (Option.some.inj heq)
        cases hv : s.value with
        | some u => exact absurd (List.eq_nil_of_length_eq_zero hk.symm) (h.posted_ne_nil hv)
        | none => rfl
      · exact h.first w r heq
  · simp at hpost

/-- What waits is taken out. -/
theorem agrees_collect (h : l.Agrees s) : (l.collect s.value).Agrees s.take.2 := by
  obtain ⟨value, sender, receiver⟩ := s
  cases value with
  | none => exact h
  | some v =>
    obtain ⟨alive, ⟨replaced, hlast⟩, untaken⟩ := h.waiting v rfl
    have newest : ∀ k ∈ l.takenNumbers, k < l.last := fun k hk =>
      Nat.lt_of_le_of_ne (Nat.le_sub_one_of_lt (h.lt_length hk)) fun heq => untaken (heq ▸ hk)
    refine ⟨?_, ?_, ?_, by simp [Slot.take], fun _ => .inr (.inl ?_), ?_, ?_, h.first⟩
    · simpa [collect, Slot.take] using h.order
    · rw [takenNumbers_collect, List.pairwise_append]
      exact ⟨h.increasing, List.pairwise_singleton _ _, fun k hk _ hlast =>
        List.mem_singleton.mp hlast ▸ newest k hk⟩
    · intro k w hmem
      rcases List.mem_append.mp hmem with hmem | hmem
      · exact h.values k w hmem
      · obtain ⟨rfl, rfl⟩ := Prod.mk.inj (List.mem_singleton.mp hmem)
        exact ⟨replaced, hlast⟩
    · rw [takenNumbers_collect]
      exact List.mem_append_right _ List.mem_cons_self
    · intro k hk
      have gone := (h.discarded k hk).1
      exact absurd (gone.symm.trans alive) (by simp)
    · intro k w r heq
      have hne : k ≠ l.last := fun hk => by
        have := (List.getElem?_eq_some_iff.mp heq).1
        simp only [collect, hk, last] at this
        omega
      simpa [hne] using h.replaced k w r heq

/-- The sender goes away. -/
theorem agrees_dropSender (h : l.Agrees s) : l.Agrees s.dropSender :=
  ⟨h.order, h.increasing, h.values, h.waiting, h.empty, h.discarded, h.replaced, h.first⟩

/-- The receiver goes away, with what waits for it. -/
theorem agrees_dropReceiver (h : l.Agrees s) : (l.discard s.value).Agrees s.dropReceiver := by
  have shorter := (List.sublist_append_left _ s.value.toList).trans h.order
  cases hv : s.value with
  | none =>
    refine ⟨by simpa [Slot.dropReceiver, discard] using shorter, h.increasing, h.values,
      by simp [Slot.dropReceiver], fun _ => h.empty hv, fun k hk => ⟨rfl, (h.discarded k hk).2⟩,
      h.replaced, h.first⟩
  | some v =>
    obtain ⟨-, -, untaken⟩ := h.waiting v hv
    have posted := List.length_pos_of_ne_nil (h.posted_ne_nil hv)
    refine ⟨by simpa [Slot.dropReceiver, discard] using shorter, h.increasing, h.values,
      by simp [Slot.dropReceiver], fun _ => .inr (.inr rfl), fun k hk => ?_,
      h.replaced, h.first⟩
    obtain rfl := Option.some.inj hk
    exact ⟨rfl, Nat.sub_add_cancel posted, untaken⟩

/-- If the newest value was taken out, it was taken out last. -/
theorem Agrees.getLast?_taken (h : l.Agrees s) (hlast : l.last ∈ l.takenNumbers) :
    ∃ v replaced, l.taken.getLast? = some (l.last, v) ∧ l.posted[l.last]? = some (v, replaced) := by
  have nonempty : l.taken ≠ [] := by
    rintro hnil
    simp [takenNumbers, hnil] at hlast
  obtain ⟨init, ⟨m, v⟩, heq⟩ := l.taken.eq_nil_or_concat'.resolve_left nonempty
  have increasing := h.increasing
  simp only [takenNumbers, heq, List.map_append, List.map_cons, List.map_nil, List.mem_append,
    List.mem_singleton, List.pairwise_append] at increasing hlast
  have bound : m < l.posted.length := h.lt_length (by simp [takenNumbers, heq])
  obtain rfl : m = l.last := by
    rcases hlast with hbefore | hm
    · have := increasing.2.2 _ hbefore m rfl
      simp only [last] at this
      omega
    · exact hm.symm
  obtain ⟨replaced, hv⟩ := h.values l.last v (by simp [heq])
  exact ⟨v, replaced, by simp [heq], hv⟩

/-- What can have become of a value that was put in. -/
inductive Fate
  | received
  | overwritten
  | pending
  | discarded
deriving Repr, DecidableEq

/-- This has become of the value of a number. -/
def HasFate (l : Ledger α) (s : Slot α) (k : Nat) : Fate → Prop
  | .received => k ∈ l.takenNumbers
  -- whoever put the next value in was told that it took the place of this one
  | .overwritten => (l.posted[k + 1]?).map Prod.snd = some true
  | .pending => k + 1 = l.posted.length ∧ s.value.isSome = true
  | .discarded => l.discarded = some k

/-- Of the things that can become of a value, exactly one has become of each. -/
theorem existsUnique_fate (h : l.Agrees s) {k : Nat} (hk : k < l.posted.length) :
    ∃! fate, l.HasFate s k fate := by
  by_cases later : k + 1 < l.posted.length
  · -- a newer value was put in, and it was told what had become of this one
    obtain ⟨⟨v, replaced⟩, heq⟩ : ∃ e, l.posted[k + 1]? = some e :=
      ⟨_, List.getElem?_eq_getElem later⟩
    have told := h.replaced k v replaced heq
    have undiscarded : l.discarded ≠ some k := fun hd => by
      have := (h.discarded k hd).2.1
      omega
    by_cases taken : k ∈ l.takenNumbers
    · refine ⟨.received, taken, fun fate hfate => ?_⟩
      cases fate with
      | received => rfl
      | overwritten => simp [HasFate, heq, told, taken] at hfate
      | pending => exact absurd hfate.1 (Nat.ne_of_lt later)
      | discarded => exact absurd hfate undiscarded
    · refine ⟨.overwritten, by simp [HasFate, heq, told, taken], fun fate hfate => ?_⟩
      cases fate with
      | received => exact absurd hfate taken
      | overwritten => rfl
      | pending => exact absurd hfate.1 (Nat.ne_of_lt later)
      | discarded => exact absurd hfate undiscarded
  · -- no newer value was put in
    have newest : k = l.last := by simp only [last]; omega
    have notOverwritten : ¬ l.HasFate s k .overwritten := fun hfate => by
      simp [HasFate, List.getElem?_eq_none (Nat.le_of_not_lt later)] at hfate
    cases hv : s.value with
    | some v =>
      obtain ⟨alive, -, untaken⟩ := h.waiting v hv
      refine ⟨.pending, ⟨by omega, by simp [hv]⟩, fun fate hfate => ?_⟩
      cases fate with
      | received => exact absurd hfate (newest ▸ untaken)
      | overwritten => exact absurd hfate notOverwritten
      | pending => rfl
      | discarded => simp [(h.discarded k hfate).1] at alive
    | none =>
      rcases h.empty hv with hnil | taken | discarded
      · simp [hnil] at hk
      · refine ⟨.received, show k ∈ _ from newest ▸ taken, fun fate hfate => ?_⟩
        cases fate with
        | received => rfl
        | overwritten => exact absurd hfate notOverwritten
        | pending => simp [HasFate, hv] at hfate
        | discarded => exact absurd (newest ▸ taken) (h.discarded k hfate).2.2
      · refine ⟨.discarded, show l.discarded = some k from newest ▸ discarded, fun fate hfate => ?_⟩
        cases fate with
        | received => exact absurd hfate (newest ▸ (h.discarded _ discarded).2.2)
        | overwritten => exact absurd hfate notOverwritten
        | pending => simp [HasFate, hv] at hfate
        | discarded => rfl

end Ledger
end ClusterControl
