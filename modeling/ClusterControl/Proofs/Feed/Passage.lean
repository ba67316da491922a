import ClusterControl.Feed

/-!
# What a feed may do

A feed goes on in one of six ways, and this module says which one when.

* `Passage`, `passage_poll` — the six ways, each with all that it depends on.
* `put_slot`, `receive_eq_some_iff`, `receive_eq_end_iff` — what happens to the slot between a feed
  and its subscriber.
-/

namespace ClusterControl

namespace Feed

variable {α : Type} {f : Feed α} {now due : Nat} {stopped : Bool} {sample : α}

theorem put_slot (f : Feed α) (sample : α) : (f.put sample).slot =
    if f.slot.receiverAlive then { f.slot with value := some sample } else f.slot := by
  unfold put Slot.post
  by_cases h : f.slot.receiverAlive = true <;> simp [h]

theorem put_eq (f : Feed α) (sample : α) :
    f.put sample = { f with slot := (f.put sample).slot } := by
  unfold put
  split <;> rfl

/-- Nothing has happened that would end a feed. -/
structure GoesOn (f : Feed α) (stopped : Bool) : Prop where
  cancel : f.cancel.isSettled = false
  source : stopped = false
  subscriber : f.slot.receiverAlive = true

/-- What a feed may do when it goes on, and whether it takes a sample then. -/
inductive Passage (f : Feed α) (now : Nat) (stopped : Bool) (sample : α) : Feed α → Bool → Prop
  | rests (h : f.due? now = none) : Passage f now stopped sample f false
  | cancelled (due : Nat) (hdue : f.due? now = some due) (hc : f.cancel.isSettled = true) :
      Passage f now stopped sample (f.finish .cancelled) false
  -- the source has stopped, and the last sample is the final one
  | sourceStopped (due : Nat) (hdue : f.due? now = some due) (hc : f.cancel.isSettled = false)
      (hs : stopped = true) :
      Passage f now stopped sample ((f.put sample).finish .sourceStopped) true
  | disconnected (due : Nat) (hdue : f.due? now = some due) (hc : f.cancel.isSettled = false)
      (hs : stopped = false) (hr : f.slot.receiverAlive = false) :
      Passage f now stopped sample (f.finish .disconnected) false
  | samples (due : Nat) (hdue : f.due? now = some due) (h : f.GoesOn stopped) (hle : due ≤ now) :
      Passage f now stopped sample
        { f.put sample with phase := .running (f.following due now) } true
  | waits (due : Nat) (hdue : f.due? now = some due) (h : f.GoesOn stopped) (hlt : now < due) :
      Passage f now stopped sample { f with phase := .running due } false

theorem passage_poll (f : Feed α) (now : Nat) (stopped : Bool) (sample : α) :
    f.Passage now stopped sample (f.poll now stopped sample).1 (f.poll now stopped sample).2 := by
  unfold poll
  split
  · next hdue => exact .rests hdue
  · next due hdue =>
    split
    · next hc => exact .cancelled due hdue hc
    · next hc =>
      have hc : f.cancel.isSettled = false := by simpa using hc
      split
      · next hs => exact .sourceStopped due hdue hc hs
      · next hs =>
        have hs : stopped = false := by simpa using hs
        split
        · next hr => exact .disconnected due hdue hc hs (by simpa using hr)
        · next hr =>
          have goesOn : f.GoesOn stopped := ⟨hc, hs, by simpa using hr⟩
          split
          · next hle => exact .samples due hdue goesOn hle
          · next hlt => exact .waits due hdue goesOn (Nat.lt_of_not_le hlt)

/-- A feed that has something to do has not ended. -/
theorem not_ended_of_due? (h : f.due? now = some due) (why : FeedEnd) : f.phase ≠ .ended why := by
  intro hended
  simp [due?, hended] at h

theorem end?_eq_some_iff {why : FeedEnd} : f.end? = some why ↔ f.phase = .ended why := by
  cases hphase : f.phase <;> simp [end?, hphase]

/-- The subscriber receives what waits for it. -/
theorem receive_eq_some_iff : f.receive.1 = some (some sample) ↔ f.slot.value = some sample := by
  unfold receive Slot.take
  cases hv : f.slot.value with
  | some waiting => simp
  | none => cases f.slot.senderAlive <;> simp

/-- The subscriber learns that there will be no more samples when none waits and none can come. -/
theorem receive_eq_end_iff :
    f.receive.1 = some none ↔ f.slot.value = none ∧ f.slot.senderAlive = false := by
  unfold receive Slot.take
  cases hv : f.slot.value with
  | some waiting => simp
  | none => cases f.slot.senderAlive <;> simp

end Feed
end ClusterControl
