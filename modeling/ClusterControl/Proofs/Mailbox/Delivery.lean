import ClusterControl.Mailbox.Exchange
import ClusterControl.Proofs.Mailbox.Ledger

/-!
# Delivery by a mailbox

The slot of a mailbox and the signals that tell its two sides of a change are separate things: whoever
changes the slot signals afterwards, whoever finds nothing in it gets ready to wait afterwards, and
in between the others go on.  This module proves that nothing is lost in between.

* `Mailroom` — a mailbox with the signals that are owed and the ledger of its slot, and everything that
  can happen to it.
* `agrees_move` — the ledger goes on to agree with the slot.
* `Attending`, `attended_move` — a receiver that waits has been told of all news, or is about to be.
* `mailbox_delivery` — the theorem.
-/

namespace ClusterControl

/-! ## What can happen to a mailbox -/

/-- A call waits for a value. -/
def MailCall.isReceiving {α : Type} : MailCall α → Bool
  | .receiving _ => true
  | _ => false

/-- What a call takes out of the slot if it goes on. -/
def Exchange.takes? {α : Type} (x : Exchange α) (n : Nat) : Option α :=
  match x.calls.get? n with
  | some (.receiving .looking) => x.slot.value
  | _ => none

/-- A mailbox with those who have changed its slot and have not told the other side yet. -/
structure Mailroom (α : Type) where
  exchange : Exchange α := {}
  -- how often the receiver has to be told yet
  owedReceiver : Nat := 0
  -- how often the holders of the sender have to be told yet
  owedSender : Nat := 0
  ledger : Ledger α := {}
deriving Repr, DecidableEq

namespace Mailroom

variable {α : Type}

/-- The receiver is there and not in use: it is with one call at a time. -/
def receiverIsFree (m : Mailroom α) : Bool :=
  m.exchange.slot.receiverAlive && !m.exchange.calls.entries.any fun e => e.2.isReceiving

/-- What can happen to a mailbox.  Posts and calls come from any number of tasks. -/
inductive Event (α : Type)
  | post (v : α)
  | tryTake
  | dropSender
  | dropReceiver
  -- somebody who has changed the slot goes on to tell the other side
  | tellReceiver
  | tellSender
  -- a call begins under a number that is free, takes a step, or is given up
  | receive (n : Nat)
  | watch (n : Nat)
  | advance (n : Nat)
  | leave (n : Nat)

/-- One event.  Nobody posts who has no sender, and nobody receives who has no receiver. -/
def step (m : Mailroom α) : Event α → Mailroom α
  | .post v =>
    if m.exchange.slot.senderAlive then
      match m.exchange.deposit v with
      | (.ok replaced, x) =>
        { m with exchange := x, owedReceiver := m.owedReceiver + 1,
                 ledger := m.ledger.post v replaced }
      | (.error _, x) => { m with exchange := x }
    else m
  | .tryTake =>
    if m.receiverIsFree then
      { m with exchange := m.exchange.tryTake.2, ledger := m.ledger.collect m.exchange.tryTake.1 }
    else m
  | .dropSender =>
    if m.exchange.slot.senderAlive then
      { m with exchange := m.exchange.withdrawSender, owedReceiver := m.owedReceiver + 1 }
    else m
  | .dropReceiver =>
    if m.receiverIsFree then
      { m with exchange := m.exchange.withdrawReceiver, owedSender := m.owedSender + 1,
               ledger := m.ledger.discard m.exchange.slot.value }
    else m
  | .tellReceiver =>
    if 0 < m.owedReceiver then
      { m with exchange := m.exchange.tellReceiver, owedReceiver := m.owedReceiver - 1 }
    else m
  | .tellSender =>
    if 0 < m.owedSender then
      { m with exchange := m.exchange.tellSender, owedSender := m.owedSender - 1 }
    else m
  | .receive n =>
    if m.receiverIsFree && (m.exchange.calls.get? n).isNone then
      { m with exchange := m.exchange.receive n }
    else m
  | .watch n =>
    if (m.exchange.calls.get? n).isNone then { m with exchange := m.exchange.watch n } else m
  | .advance n =>
    { m with exchange := m.exchange.advance n,
             ledger := m.ledger.collect (m.exchange.takes? n) }
  | .leave n => { m with exchange := m.exchange.leave n }

/-- Many events, one after the other. -/
def run (m : Mailroom α) (events : List (Event α)) : Mailroom α :=
  events.foldl step m

/-- No task can run: nobody has to tell anybody, and no call can take a step. -/
def Still (m : Mailroom α) : Prop :=
  m.owedReceiver = 0 ∧ m.owedSender = 0 ∧ ∀ n, m.exchange.canAdvance n = false

variable {m : Mailroom α}

/-- A post, told at once, is the two events of it in a row. -/
theorem run_post (m : Mailroom α) (v : α) (hs : m.exchange.slot.senderAlive = true)
    (hr : m.exchange.slot.receiverAlive = true) :
    (m.run [.post v, .tellReceiver]).exchange = (m.exchange.post v).2 := by
  simp [run, step, hs, Exchange.post, Exchange.deposit, Slot.post, hr]

/-! ## One step of a call -/

/-- What a call may do when it goes on, and what it takes out of the slot. -/
inductive Advance (x : Exchange α) (n : Nat) : Option α → Exchange α → Prop
  | rests : Advance x n none x
  | takes (v : α) (h : x.calls.get? n = some (.receiving .looking)) (hv : x.slot.value = some v) :
      Advance x n (some v)
        { x with slot := x.slot.take.2, calls := x.calls.set n (.received (some v)) }
  | learns (h : x.calls.get? n = some (.receiving .looking)) (hv : x.slot.value = none)
      (hs : x.slot.senderAlive = false) :
      Advance x n none { x with calls := x.calls.set n (.received none) }
  | turns (h : x.calls.get? n = some (.receiving .looking)) (hv : x.slot.value = none)
      (hs : x.slot.senderAlive = true) :
      Advance x n none { x with calls := x.calls.set n (.receiving .arming) }
  -- it has been told before it has begun to wait
  | returns (h : x.calls.get? n = some (.receiving .arming)) (hp : x.toReceiver.permit = true) :
      Advance x n none
        { x with toReceiver := { x.toReceiver with permit := false },
                 calls := x.calls.set n (.receiving .looking) }
  | waits (h : x.calls.get? n = some (.receiving .arming)) (hp : x.toReceiver.permit = false) :
      Advance x n none
        { x with toReceiver := { x.toReceiver with waiting := x.toReceiver.waiting ++ [n] },
                 calls := x.calls.set n (.receiving .waiting) }
  | wakes (h : x.calls.get? n = some (.receiving .waiting))
      (hw : x.toReceiver.isWoken n = true) :
      Advance x n none
        { x with toReceiver := x.toReceiver.proceed n,
                 calls := x.calls.set n (.receiving .looking) }
  -- a call that does not receive goes on, whatever it does
  | watches (pace : Pace) (call : MailCall α) (notify : Notify)
      (h : x.calls.get? n = some (.watching pace)) (hc : call = .told ∨ ∃ p, call = .watching p) :
      Advance x n none { x with toSender := notify, calls := x.calls.set n call }

theorem advance_cases (x : Exchange α) (n : Nat) : Advance x n (x.takes? n) (x.advance n) := by
  unfold Exchange.advance Exchange.takes?
  cases h : x.calls.get? n with
  | none => exact .rests
  | some call =>
    cases call with
    | receiving pace =>
      cases pace with
      | looking =>
        cases hv : x.slot.value with
        | some v => exact .takes v h hv
        | none =>
          cases hs : x.slot.senderAlive with
          | true => exact .turns h hv hs
          | false => exact .learns h hv hs
      | arming =>
        cases hp : x.toReceiver.permit with
        | true => simpa [Notify.arm, hp] using Advance.returns h hp
        | false => simpa [Notify.arm, hp] using Advance.waits h hp
      | waiting =>
        cases hw : x.toReceiver.isWoken n with
        | true => exact .wakes h hw
        | false => exact .rests
    | watching pace =>
      cases pace with
      | looking =>
        cases x.slot.receiverAlive with
        | true => exact .watches _ _ x.toSender h (.inr ⟨_, rfl⟩)
        | false => exact .watches _ _ x.toSender h (.inl rfl)
      | arming => exact .watches _ _ _ h (.inr ⟨_, rfl⟩)
      | waiting =>
        cases x.toSender.isWoken n with
        | true => exact .watches _ _ _ h (.inr ⟨_, rfl⟩)
        | false => exact .rests
    | received value => exact .rests
    | told => exact .rests

theorem slot_leave (x : Exchange α) (n : Nat) : (x.leave n).slot = x.slot := by
  unfold Exchange.leave
  split <;> rfl

theorem calls_leave (x : Exchange α) (n : Nat) : (x.leave n).calls = x.calls.erase n := by
  unfold Exchange.leave
  split <;> rfl

theorem toReceiver_leave {x : Exchange α} {n : Nat}
    (h : x.calls.get? n = some (.receiving .waiting)) :
    (x.leave n).toReceiver = x.toReceiver.leave n := by
  simp [Exchange.leave, h]

theorem toReceiver_leave_of_ne {x : Exchange α} {n : Nat}
    (h : x.calls.get? n ≠ some (.receiving .waiting)) : (x.leave n).toReceiver = x.toReceiver := by
  unfold Exchange.leave
  split
  · next hn => exact absurd hn h
  · rfl
  · rfl

/-- What an event may do to a mailbox. -/
inductive Move (m : Mailroom α) : Mailroom α → Prop
  | stays : Move m m
  | posts (v : α) (replaced : Bool) (slot : Slot α) (hs : m.exchange.slot.senderAlive = true)
      (h : m.exchange.slot.post v = .ok (replaced, slot)) :
      Move m { m with exchange := { m.exchange with slot := slot },
                      owedReceiver := m.owedReceiver + 1, ledger := m.ledger.post v replaced }
  | takes (hfree : m.receiverIsFree = true) :
      Move m { m with exchange := { m.exchange with slot := m.exchange.slot.take.2 },
                      ledger := m.ledger.collect m.exchange.slot.value }
  | losesSender (hs : m.exchange.slot.senderAlive = true) :
      Move m { m with exchange := m.exchange.withdrawSender, owedReceiver := m.owedReceiver + 1 }
  | losesReceiver (hfree : m.receiverIsFree = true) :
      Move m { m with exchange := m.exchange.withdrawReceiver, owedSender := m.owedSender + 1,
                      ledger := m.ledger.discard m.exchange.slot.value }
  | tellsReceiver (howed : 0 < m.owedReceiver) :
      Move m { m with exchange := m.exchange.tellReceiver, owedReceiver := m.owedReceiver - 1 }
  | tellsSender (howed : 0 < m.owedSender) :
      Move m { m with exchange := m.exchange.tellSender, owedSender := m.owedSender - 1 }
  | receives (n : Nat) (hfree : m.receiverIsFree = true) (hn : m.exchange.calls.get? n = none) :
      Move m { m with exchange := m.exchange.receive n }
  | watches (n : Nat) (hn : m.exchange.calls.get? n = none) :
      Move m { m with exchange := m.exchange.watch n }
  | advances (n : Nat) (taken : Option α) (x : Exchange α) (h : Advance m.exchange n taken x) :
      Move m { m with exchange := x, ledger := m.ledger.collect taken }
  | leaves (n : Nat) : Move m { m with exchange := m.exchange.leave n }

theorem move_step (m : Mailroom α) (e : Event α) : Move m (m.step e) := by
  cases e with
  | post v =>
    simp only [step, Exchange.deposit]
    split
    · next hs =>
      cases h : m.exchange.slot.post v with
      | ok answer => exact .posts v answer.1 answer.2 hs h
      | error _ => exact .stays
    · exact .stays
  | tryTake =>
    simp only [step]
    split
    · next hfree => exact .takes hfree
    · exact .stays
  | dropSender =>
    simp only [step]
    split
    · next hs => exact .losesSender hs
    · exact .stays
  | dropReceiver =>
    simp only [step]
    split
    · next hfree => exact .losesReceiver hfree
    · exact .stays
  | tellReceiver =>
    simp only [step]
    split
    · next howed => exact .tellsReceiver howed
    · exact .stays
  | tellSender =>
    simp only [step]
    split
    · next howed => exact .tellsSender howed
    · exact .stays
  | receive n =>
    simp only [step]
    split
    · next h =>
      simp only [Bool.and_eq_true, Option.isNone_iff_eq_none] at h
      exact .receives n h.1 h.2
    · exact .stays
  | watch n =>
    simp only [step]
    split
    · next h => exact .watches n (by simpa using h)
    · exact .stays
  | advance n => exact .advances n _ _ (advance_cases m.exchange n)
  | leave n => exact .leaves n

/-! ## The ledger -/

/-- The ledger goes on to agree with the slot. -/
theorem agrees_move {next : Mailroom α} (h : Move m next)
    (agrees : m.ledger.Agrees m.exchange.slot) : next.ledger.Agrees next.exchange.slot := by
  cases h with
  | posts v replaced slot _ h => exact Ledger.agrees_post agrees h
  | takes => exact Ledger.agrees_collect agrees
  | losesSender => exact Ledger.agrees_dropSender agrees
  | losesReceiver => exact Ledger.agrees_dropReceiver agrees
  | advances n taken x h =>
    cases h with
    | takes v _ hv => exact hv ▸ Ledger.agrees_collect agrees
    | _ => exact agrees
  | leaves n =>
    rw [slot_leave]
    exact agrees
  | _ => exact agrees

/-! ## The receiver and what it is told -/

/-- Of all calls this one receives, and it is as far as this; or none does. -/
def Receives (calls : Roster (MailCall α)) (r : Option (Nat × Pace)) : Prop :=
  ∀ n pace, calls.get? n = some (.receiving pace) ↔ r = some (n, pace)

/-- There is something for the receiver: a value, or that there will be none. -/
def HasNews (x : Exchange α) : Prop :=
  x.slot.value.isSome = true ∨ x.slot.senderAlive = false

/-- The receiver is where it says it is, and as long as it does not look it has been told of all news
or is going to be, so many times. -/
inductive Attending (x : Exchange α) (owed : Nat) : Option (Nat × Pace) → Prop
  | away (hq : x.toReceiver.waiting = []) (hw : x.toReceiver.woken = []) : Attending x owed none
  | looking (n : Nat) (hq : x.toReceiver.waiting = []) (hw : x.toReceiver.woken = []) :
      Attending x owed (some (n, .looking))
  | arming (n : Nat) (hq : x.toReceiver.waiting = []) (hw : x.toReceiver.woken = [])
      (news : HasNews x → x.toReceiver.permit = true ∨ 0 < owed) :
      Attending x owed (some (n, .arming))
  | asleep (n : Nat) (hq : x.toReceiver.waiting = [n]) (hw : x.toReceiver.woken = [])
      (news : HasNews x → 0 < owed) : Attending x owed (some (n, .waiting))
  | called (n : Nat) (hq : x.toReceiver.waiting = []) (hw : x.toReceiver.woken = [n]) :
      Attending x owed (some (n, .waiting))

/-- The receiver is with one call at a time, and attends to the slot. -/
structure Attended (m : Mailroom α) (r : Option (Nat × Pace)) : Prop where
  receives : Receives m.exchange.calls r
  alive : r.isSome = true → m.exchange.slot.receiverAlive = true
  attending : Attending m.exchange m.owedReceiver r

section Receives

variable {calls : Roster (MailCall α)} {r : Option (Nat × Pace)} {n : Nat} {call : MailCall α}

theorem Receives.begins (h : Receives calls none) (n : Nat) (pace : Pace) :
    Receives (calls.set n (.receiving pace)) (some (n, pace)) := by
  intro k p
  rw [Roster.get?_set]
  split
  · next hk => simp [hk]
  · next hk => simp [h k p, Ne.symm hk]

theorem Receives.goesOn {pace : Pace} (h : Receives calls (some (n, pace))) (next : Pace) :
    Receives (calls.set n (.receiving next)) (some (n, next)) := by
  intro k p
  rw [Roster.get?_set]
  split
  · next hk => simp [hk]
  · next hk => simp [h k p, Ne.symm hk]

theorem Receives.ends {pace : Pace} (h : Receives calls (some (n, pace)))
    (hc : call.isReceiving = false) : Receives (calls.set n call) none := by
  intro k p
  rw [Roster.get?_set]
  split
  · cases call <;> simp_all [MailCall.isReceiving]
  · next hk => simp [h k p, Ne.symm hk]

theorem Receives.other (h : Receives calls r) (hn : ∀ pace, r ≠ some (n, pace))
    (hc : call.isReceiving = false) : Receives (calls.set n call) r := by
  intro k p
  rw [Roster.get?_set]
  split
  · next hk =>
    subst hk
    cases call <;> simp_all [MailCall.isReceiving]
  · exact h k p

theorem Receives.erase (h : Receives calls r) (hn : ∀ pace, r ≠ some (n, pace)) :
    Receives (calls.erase n) r := by
  intro k p
  rw [Roster.get?_erase]
  split
  · next hk => simp [hk, hn p]
  · exact h k p

theorem Receives.gives {pace : Pace} (h : Receives calls (some (n, pace))) :
    Receives (calls.erase n) none := by
  intro k p
  rw [Roster.get?_erase]
  split
  · simp
  · next hk => simp [h k p, Ne.symm hk]

theorem Receives.absent (h : Receives calls r)
    (hfree : (calls.entries.any fun e => e.2.isReceiving) = false) : r = none := by
  cases r with
  | none => rfl
  | some at' =>
    obtain ⟨n, pace⟩ := at'
    have hmem := Roster.mem_entries_of_get? ((h n pace).mpr rfl)
    exact absurd (List.any_eq_false.mp hfree _ hmem) (by simp [MailCall.isReceiving])

end Receives

/-- A mailbox that is changed without waking anybody, and with as many signals owed as the change
asks for. -/
theorem Attending.stays {x y : Exchange α} {owed owed' : Nat} {r : Option (Nat × Pace)}
    (h : Attending x owed r) (same : y.toReceiver = x.toReceiver)
    (news : HasNews y → 0 < owed' ∨ HasNews x ∧ owed ≤ owed') : Attending y owed' r := by
  have owes (hnews : HasNews x → 0 < owed) (hy : HasNews y) : 0 < owed' := by
    rcases news hy with hpos | ⟨hx, hle⟩
    · exact hpos
    · exact Nat.lt_of_lt_of_le (hnews hx) hle
  cases h with
  | away hq hw => exact .away (same ▸ hq) (same ▸ hw)
  | looking n hq hw => exact .looking n (same ▸ hq) (same ▸ hw)
  | arming n hq hw hnews =>
    refine .arming n (same ▸ hq) (same ▸ hw) fun hy => ?_
    rcases news hy with hpos | ⟨hx, hle⟩
    · exact .inr hpos
    · rw [same]
      exact (hnews hx).imp_right fun hpos => Nat.lt_of_lt_of_le hpos hle
  | asleep n hq hw hnews => exact .asleep n (same ▸ hq) (same ▸ hw) (owes hnews)
  | called n hq hw => exact .called n (same ▸ hq) (same ▸ hw)

/-- A signal reaches a receiver that sleeps, and is kept for one that is about to. -/
theorem Attending.told {x : Exchange α} {owed : Nat} {r : Option (Nat × Pace)}
    (h : Attending x owed r) : Attending x.tellReceiver (owed - 1) r := by
  have signal (hq : x.toReceiver.waiting = []) :
      x.tellReceiver.toReceiver = { x.toReceiver with permit := true } := by
    simp [Exchange.tellReceiver, Notify.signal, hq]
  cases h with
  | away hq hw => exact .away (by simp [signal hq, hq]) (by simp [signal hq, hw])
  | looking n hq hw => exact .looking n (by simp [signal hq, hq]) (by simp [signal hq, hw])
  | arming n hq hw _ =>
    exact .arming n (by simp [signal hq, hq]) (by simp [signal hq, hw])
      fun _ => .inl (by simp [signal hq])
  | asleep n hq hw _ =>
    exact .called n (by simp [Exchange.tellReceiver, Notify.signal, hq])
      (by simp [Exchange.tellReceiver, Notify.signal, hq, hw])
  | called n hq hw => exact .called n (by simp [signal hq, hq]) (by simp [signal hq, hw])

variable {r : Option (Nat × Pace)}

theorem Attended.absent (h : Attended m r) (hfree : m.receiverIsFree = true) :
    r = none ∧ m.exchange.slot.receiverAlive = true := by
  simp only [receiverIsFree, Bool.and_eq_true, Bool.not_eq_true'] at hfree
  exact ⟨h.receives.absent hfree.2, hfree.1⟩

theorem Attended.at_call (h : Attended m r) {n : Nat} {pace : Pace}
    (hn : m.exchange.calls.get? n = some (.receiving pace)) : r = some (n, pace) :=
  (h.receives n pace).mp hn

theorem Attended.not_at (h : Attended m r) {n : Nat}
    (hn : ∀ pace, m.exchange.calls.get? n ≠ some (.receiving pace)) (pace : Pace) :
    r ≠ some (n, pace) :=
  fun hr => hn pace ((h.receives n pace).mpr hr)

/-- A call that goes on goes on to attend. -/
theorem attended_advance {n : Nat} {taken : Option α} {x : Exchange α}
    (h : Advance m.exchange n taken x) (attended : Attended m r) (l : Ledger α) :
    ∃ r, Attended { m with exchange := x, ledger := l } r := by
  cases h with
  | rests => exact ⟨r, attended.receives, attended.alive, attended.attending⟩
  | takes v h hv =>
    obtain rfl := attended.at_call h
    cases attended.attending with
    | looking _ hq hw => exact ⟨none, attended.receives.ends rfl, by simp, .away hq hw⟩
  | learns h hv hs =>
    obtain rfl := attended.at_call h
    cases attended.attending with
    | looking _ hq hw => exact ⟨none, attended.receives.ends rfl, by simp, .away hq hw⟩
  | turns h hv hs =>
    obtain rfl := attended.at_call h
    cases attended.attending with
    | looking _ hq hw =>
      refine ⟨_, attended.receives.goesOn .arming, fun _ => attended.alive rfl,
        .arming n hq hw fun hnews => ?_⟩
      simp [HasNews, hv, hs] at hnews
  | returns h hp =>
    obtain rfl := attended.at_call h
    cases attended.attending with
    | arming _ hq hw _ =>
      exact ⟨_, attended.receives.goesOn .looking, fun _ => attended.alive rfl, .looking n hq hw⟩
  | waits h hp =>
    obtain rfl := attended.at_call h
    cases attended.attending with
    | arming _ hq hw hnews =>
      refine ⟨_, attended.receives.goesOn .waiting, fun _ => attended.alive rfl,
        .asleep n (by simp [hq]) hw fun hx => ?_⟩
      simpa [hp] using hnews hx
  | wakes h hw =>
    obtain rfl := attended.at_call h
    refine ⟨_, attended.receives.goesOn .looking, fun _ => attended.alive rfl, ?_⟩
    cases attended.attending with
    | asleep _ hq hwoken _ => simp [Notify.isWoken, hwoken] at hw
    | called _ hq hwoken =>
      exact .looking n hq (by simp [Notify.proceed, hwoken])
  | watches pace call notify h hc =>
    have other : call.isReceiving = false := by
      rcases hc with rfl | ⟨p, rfl⟩ <;> rfl
    exact ⟨r, attended.receives.other (attended.not_at (by simp [h])) other, attended.alive,
      attended.attending.stays rfl fun hnews => .inr ⟨hnews, Nat.le_refl _⟩⟩

/-- A call that is given up leaves nobody waiting in vain. -/
theorem attended_leave (attended : Attended m r) (n : Nat) :
    ∃ r, Attended { m with exchange := m.exchange.leave n } r := by
  by_cases hn : ∃ pace, m.exchange.calls.get? n = some (.receiving pace)
  · obtain ⟨pace, hn⟩ := hn
    obtain rfl := attended.at_call hn
    refine ⟨none, ?_, by simp, ?_⟩
    · rw [calls_leave]
      exact attended.receives.gives
    · cases attended.attending with
      | looking _ hq hw | arming _ hq hw _ =>
        have same := toReceiver_leave_of_ne (x := m.exchange) (n := n) (by simp [hn])
        exact .away (same ▸ hq) (same ▸ hw)
      | asleep _ hq hw _ =>
        constructor <;> simp [toReceiver_leave hn, Notify.leave, Notify.isWoken, hq, hw]
      | called _ hq hw =>
        constructor <;>
          simp [toReceiver_leave hn, Notify.leave, Notify.isWoken, Notify.proceed, Notify.signal,
            hq, hw]
  · have hn (pace : Pace) : m.exchange.calls.get? n ≠ some (.receiving pace) :=
      fun h => hn ⟨pace, h⟩
    refine ⟨r, ?_, fun hr => ?_, attended.attending.stays ?_ fun hnews => .inr ⟨?_, Nat.le_refl _⟩⟩
    · rw [calls_leave]
      exact attended.receives.erase (attended.not_at hn)
    · rw [slot_leave]
      exact attended.alive hr
    · exact toReceiver_leave_of_ne (hn _)
    · simpa [HasNews, slot_leave] using hnews

/-- The receiver goes on to attend to the slot. -/
theorem attended_move {next : Mailroom α} (h : Move m next) (attended : Attended m r) :
    ∃ r, Attended next r := by
  cases h with
  | stays => exact ⟨r, attended⟩
  | posts v replaced slot hs h =>
    have alive : slot.receiverAlive = m.exchange.slot.receiverAlive := by
      unfold Slot.post at h
      split at h
      · exact (Prod.mk.inj (Except.ok.inj h)).2 ▸ rfl
      · simp at h
    exact ⟨r, attended.receives, fun hr => alive.trans (attended.alive hr),
      attended.attending.stays rfl fun _ => .inl (Nat.succ_pos _)⟩
  | takes hfree =>
    obtain ⟨rfl, -⟩ := attended.absent hfree
    cases attended.attending with
    | away hq hw => exact ⟨none, attended.receives, by simp, .away hq hw⟩
  | losesSender hs =>
    exact ⟨r, attended.receives, attended.alive,
      attended.attending.stays rfl fun _ => .inl (Nat.succ_pos _)⟩
  | losesReceiver hfree =>
    obtain ⟨rfl, -⟩ := attended.absent hfree
    cases attended.attending with
    | away hq hw => exact ⟨none, attended.receives, by simp, .away hq hw⟩
  | tellsReceiver howed => exact ⟨r, attended.receives, attended.alive, attended.attending.told⟩
  | tellsSender howed =>
    exact ⟨r, attended.receives, attended.alive,
      attended.attending.stays rfl fun hnews => .inr ⟨hnews, Nat.le_refl _⟩⟩
  | receives n hfree hn =>
    obtain ⟨rfl, alive⟩ := attended.absent hfree
    cases attended.attending with
    | away hq hw => exact ⟨_, attended.receives.begins n _, fun _ => alive, .looking n hq hw⟩
  | watches n hn =>
    exact ⟨r, attended.receives.other (attended.not_at (by simp [hn])) rfl, attended.alive,
      attended.attending.stays rfl fun hnews => .inr ⟨hnews, Nat.le_refl _⟩⟩
  | advances n taken x h => exact attended_advance h attended _
  | leaves n => exact attended_leave attended n

/-! ## What the receiver learns -/

/-- There is nothing more to come: the sender is gone, and the receiver has got what was posted last. -/
def Drained (m : Mailroom α) : Prop :=
  m.exchange.slot.senderAlive = false ∧ m.exchange.slot.value = none ∧
    (m.ledger.posted = [] ∨ m.ledger.last ∈ m.ledger.takenNumbers)

/-- What the calls that receive give back is right. -/
structure Honest (m : Mailroom α) : Prop where
  value : ∀ n v, m.exchange.calls.get? n = some (.received (some v)) →
    v ∈ m.ledger.taken.map Prod.snd
  ended : ∀ n, m.exchange.calls.get? n = some (.received none) → m.Drained

theorem drained_move {next : Mailroom α} (h : Move m next) (drained : m.Drained) :
    next.Drained := by
  obtain ⟨dead, nothing, got⟩ := drained
  cases h with
  | posts _ _ _ hs _ => simp [dead] at hs
  | takes hfree => exact ⟨dead, rfl, by simpa [nothing, Ledger.collect] using got⟩
  | losesSender hs => simp [dead] at hs
  | losesReceiver hfree => exact ⟨dead, rfl, by simpa [nothing, Ledger.discard] using got⟩
  | advances n taken x h =>
    cases h with
    | takes v _ hv => simp [nothing] at hv
    | _ => exact ⟨dead, nothing, got⟩
  | leaves n => simpa [Drained, slot_leave] using ⟨dead, nothing, got⟩
  | _ => exact ⟨dead, nothing, got⟩

theorem taken_collect (l : Ledger α) (v : Option α) : l.taken ⊆ (l.collect v).taken := by
  cases v with
  | none => exact fun _ => id
  | some v => exact List.subset_append_left _ _

theorem taken_move {next : Mailroom α} (h : Move m next) :
    m.ledger.taken ⊆ next.ledger.taken := by
  cases h with
  | takes hfree => exact taken_collect _ _
  | losesReceiver hfree => cases m.exchange.slot.value <;> exact fun _ => id
  | advances n taken x h => exact taken_collect _ _
  | _ => exact fun _ => id

/-- A call gives back what it takes, and nothing only if there is nothing more to come. -/
theorem result_move {next : Mailroom α} (h : Move m next) (attended : Attended m r)
    (agrees : m.ledger.Agrees m.exchange.slot) {n : Nat} {value : Option α}
    (hn : next.exchange.calls.get? n = some (.received value)) :
    m.exchange.calls.get? n = some (.received value) ∨
      (∀ v, value = some v → v ∈ next.ledger.taken.map Prod.snd) ∧
        (value = none → next.Drained) := by
  cases h with
  | receives k hfree _ =>
    simp only [Exchange.receive, Roster.get?_set] at hn
    split at hn
    · simp at hn
    · exact .inl hn
  | watches k _ =>
    simp only [Exchange.watch, Roster.get?_set] at hn
    split at hn
    · simp at hn
    · exact .inl hn
  | advances k taken x h =>
    cases h with
    | rests => exact .inl hn
    | takes v _ hv =>
      simp only [Roster.get?_set] at hn
      split at hn
      · obtain rfl : some v = value := by simpa using hn
        exact .inr ⟨fun w hw => by simp [Ledger.collect, Option.some.inj hw], by simp⟩
      · exact .inl hn
    | learns h hv hs =>
      simp only [Roster.get?_set] at hn
      split at hn
      · obtain rfl : none = value := by simpa using hn
        obtain rfl := attended.at_call h
        refine .inr ⟨by simp, fun _ => ⟨hs, hv, ?_⟩⟩
        rcases agrees.empty hv with hnil | htaken | hdiscarded
        · exact .inl hnil
        · exact .inr htaken
        · exact absurd (attended.alive rfl) (by simp [(agrees.discarded _ hdiscarded).1])
      · exact .inl hn
    | watches pace call notify h hc =>
      simp only [Roster.get?_set] at hn
      split at hn
      · rcases hc with rfl | ⟨p, rfl⟩ <;> simp at hn
      · exact .inl hn
    | _ =>
      simp only [Roster.get?_set] at hn
      split at hn
      · simp at hn
      · exact .inl hn
  | leaves k =>
    simp only [calls_leave, Roster.get?_erase] at hn
    split at hn
    · simp at hn
    · exact .inl hn
  | _ => exact .inl hn

theorem honest_move {next : Mailroom α} (h : Move m next) (attended : Attended m r)
    (agrees : m.ledger.Agrees m.exchange.slot) (honest : Honest m) : Honest next where
  value n v hn := by
    rcases result_move h attended agrees hn with hn | ⟨hv, -⟩
    · exact List.map_subset _ (taken_move h) (honest.value n v hn)
    · exact hv v rfl
  ended n hn := by
    rcases result_move h attended agrees hn with hn | ⟨-, drained⟩
    · exact drained_move h (honest.ended n hn)
    · exact drained rfl

/-! ## Every run -/

/-- What holds of a mailbox at any time. -/
structure Sound (m : Mailroom α) : Prop where
  agrees : m.ledger.Agrees m.exchange.slot
  attended : ∃ r, Attended m r
  honest : Honest m

theorem sound_init : Sound ({} : Mailroom α) where
  agrees := Ledger.agrees_empty
  attended := ⟨none, fun n pace => by simp [Roster.get?], by simp, .away rfl rfl⟩
  honest := ⟨by simp [Roster.get?], by simp [Roster.get?]⟩

theorem sound_move {next : Mailroom α} (h : Move m next) (sound : Sound m) : Sound next := by
  obtain ⟨r, attended⟩ := sound.attended
  exact ⟨agrees_move h sound.agrees, attended_move h attended,
    honest_move h attended sound.agrees sound.honest⟩

theorem sound_run (events : List (Event α)) (sound : Sound m) : Sound (m.run events) := by
  induction events generalizing m with
  | nil => exact sound
  | cons e rest ih => exact ih (sound_move (move_step m e) sound)

/-- Once no task can run, a receiver that still waits has nothing to wait for but what nobody has
posted yet. -/
theorem no_news_of_still (sound : Sound m) (still : m.Still) {n : Nat} {pace : Pace}
    (hn : m.exchange.calls.get? n = some (.receiving pace)) : ¬ HasNews m.exchange := by
  obtain ⟨r, attended⟩ := sound.attended
  obtain ⟨noneOwed, -, stuck⟩ := still
  have stuck := stuck n
  obtain rfl := attended.at_call hn
  cases attended.attending with
  | looking _ _ _ | arming _ _ _ _ => simp [Exchange.canAdvance, hn] at stuck
  | asleep _ _ _ news =>
    intro hnews
    exact absurd (news hnews) (by simp [noneOwed])
  | called _ _ hw => simp [Exchange.canAdvance, hn, Notify.isWoken, hw] at stuck

/-- What a mailbox promises to those who post and to the one who receives. -/
structure Delivers (m : Mailroom α) : Prop where
  -- what was received is some of what was posted, in that order and nothing twice
  in_order : (m.ledger.taken.map Prod.snd).Sublist (m.ledger.posted.map Prod.fst)
  none_twice : m.ledger.takenNumbers.Pairwise (· < ·)
  -- each of it was the newest value when it was taken out
  newest : ∀ k v, (k, v) ∈ m.ledger.taken → ∃ replaced, m.ledger.posted[k]? = some (v, replaced)
  received : ∀ n v, m.exchange.calls.get? n = some (.received (some v)) →
    v ∈ m.ledger.taken.map Prod.snd
  -- one thing has become of each value, and whoever overwrote one was told so and nobody else
  fate : ∀ k < m.ledger.posted.length, ∃! fate, m.ledger.HasFate m.exchange.slot k fate
  first : ∀ v replaced, m.ledger.posted[0]? = some (v, replaced) → replaced = false
  -- a post is told of at once if nobody comes in between
  whole : m.exchange.slot.senderAlive = true → m.exchange.slot.receiverAlive = true →
    ∀ v, (m.run [.post v, .tellReceiver]).exchange = (m.exchange.post v).2
  -- a post is refused exactly if the receiver is gone, and then hands its value back
  refused : ∀ v w, (m.exchange.post v).1 = .error w ↔
    m.exchange.slot.receiverAlive = false ∧ w = v
  -- nobody is told that there will be no more before it is so
  ended : ∀ n, m.exchange.calls.get? n = some (.received none) → m.Drained
  -- nobody waits in vain
  prompt : m.Still → ∀ n pace, m.exchange.calls.get? n = some (.receiving pace) →
    m.exchange.slot.value = none ∧ m.exchange.slot.senderAlive = true

theorem post_eq_error_iff (x : Exchange α) (v w : α) :
    (x.post v).1 = .error w ↔ x.slot.receiverAlive = false ∧ w = v := by
  cases hr : x.slot.receiverAlive <;>
    simp [Exchange.post, Exchange.deposit, Slot.post, hr, eq_comm]

/-- Whatever happens to a mailbox, in whatever order, it delivers: the receiver gets some of the posted
values in their order, each at a time when it was the newest one; of every value it is known what
became of it; and the receiver never waits while there is something for it. -/
theorem mailbox_delivery (events : List (Event α)) : Delivers (run ({} : Mailroom α) events) := by
  have sound := sound_run events sound_init
  generalize run ({} : Mailroom α) events = m at sound
  have agrees := sound.agrees
  exact {
    in_order := (List.sublist_append_left _ _).trans agrees.order
    none_twice := agrees.increasing
    newest := agrees.values
    received := sound.honest.value
    fate := fun _ hk => Ledger.existsUnique_fate agrees hk
    first := agrees.first
    whole := fun hs hr v => run_post m v hs hr
    refused := post_eq_error_iff m.exchange
    ended := sound.honest.ended
    prompt := fun still n pace hn => by
      simpa [HasNews] using no_news_of_still sound still hn }

/-- A receiver that is about to wait when a value is posted, and finds it. -/
example : (run ({} : Mailroom Nat)
    [.receive 1, .advance 1, .post 7, .post 8, .tellReceiver, .advance 1, .advance 1]).ledger =
      { posted := [(7, false), (8, true)], taken := [(1, 8)] } := by
  decide

end Mailroom
end ClusterControl
