import ClusterControl.Proofs.Mailbox.Delivery
import ClusterControl.Proofs.Roster

/-!
# The departure of a mailbox's receiver

Any number of calls may wait for the receiver of one mailbox to go away.  Each looks whether it is
still there, gets ready to wait, waits, and looks again when it is woken; the receiver gives one
signal when it goes.  A signal wakes one call, and a call that has been woken finds the receiver
gone and passes nothing on.  So the signal serves one of the calls that had found the receiver
there, and this module counts what that leaves.

* `Turn`, `turn_step` — what an event may do to those who watch the receiver.
* `Lined`, `lined_turn` — the calls that wait are those in line and those that have been woken.
* `tidings`, `heralded_turn` — no signal before the departure, and one in all.
* `balance_turn` — a call that is past its check gets on for one signal, or goes away.
* `late_run` — the count, over any run after the departure.
* `watchers_told` — who is told, and who waits in vain.
* `watcher_left_waiting` — a call that waits in vain.
-/

namespace ClusterControl

/-! ## Lines of waiting calls -/

namespace Notify

/-- Those who wait and those who have been woken and have not gone on. -/
def line (n : Notify) : List Nat :=
  n.waiting ++ n.woken

/-- The signals that have been given and that no call has gone on for. -/
def signals (n : Notify) : Nat :=
  n.permit.toNat + n.woken.length

/-- A signal is kept only while nobody waits. -/
def Kept (n : Notify) : Prop :=
  n.permit = true → n.waiting = []

variable {n : Notify} {t : Nat}

theorem line_signal (n : Notify) : n.signal.line.Perm n.line := by
  unfold signal line
  split
  · exact List.Perm.refl _
  · next t rest h =>
    rw [h, ← List.append_assoc]
    exact List.perm_append_singleton t (rest ++ n.woken)

theorem line_proceed (hw : t ∈ n.woken) : (t :: (n.proceed t).line).Perm n.line := by
  show (t :: (n.waiting ++ n.woken.erase t)).Perm (n.waiting ++ n.woken)
  calc (t :: (n.waiting ++ n.woken.erase t)).Perm (n.waiting ++ t :: n.woken.erase t) :=
        List.perm_middle.symm
    _ |>.Perm (n.waiting ++ n.woken) := (List.perm_cons_erase hw).symm.append_left n.waiting

theorem line_leave (h : t ∈ n.line) : (t :: (n.leave t).line).Perm n.line := by
  unfold leave isWoken
  split
  · next hw =>
    have hw : t ∈ n.woken := by simpa using hw
    exact ((line_signal _).cons t).trans (line_proceed hw)
  · next hw =>
    have hw : t ∉ n.woken := by simpa using hw
    have hq : t ∈ n.waiting := (List.mem_append.mp h).resolve_right hw
    show (t :: n.waiting.erase t ++ n.woken).Perm (n.waiting ++ n.woken)
    exact (List.perm_cons_erase hq).symm.append_right n.woken

theorem kept_signal (h : n.Kept) : n.signal.Kept := by
  unfold signal
  split
  · next hq => exact fun _ => hq
  · next t rest hq =>
    intro hp
    have hnil := h hp
    simp [hq] at hnil

theorem kept_leave (h : n.Kept) (t : Nat) : (n.leave t).Kept := by
  unfold leave
  split
  · exact kept_signal h
  · intro hp
    show n.waiting.erase t = []
    rw [h hp, List.erase_nil]

theorem signals_signal (hp : n.permit = false) : n.signal.signals = n.signals + 1 := by
  unfold signal signals
  split
  · simp [hp]
    omega
  · simp
    omega

theorem signals_proceed (hw : t ∈ n.woken) : (n.proceed t).signals + 1 = n.signals := by
  have hlen := List.length_erase_of_mem hw
  have hpos := List.length_pos_of_mem hw
  simp only [signals, proceed, hlen]
  omega

/-- Whoever leaves takes no signal along. -/
theorem signals_leave (h : n.signals ≤ 1) (t : Nat) : (n.leave t).signals = n.signals := by
  unfold leave isWoken
  split
  · next hw =>
    have hw : t ∈ n.woken := by simpa using hw
    have hone := signals_proceed hw
    have hpos := List.length_pos_of_mem hw
    have hp : (n.proceed t).permit = false := by
      cases hpermit : n.permit with
      | false => exact hpermit
      | true =>
        simp only [signals, hpermit, Bool.toNat_true] at h
        omega
    rw [signals_signal hp]
    exact hone
  · rfl

end Notify

/-! ## Those who watch the receiver -/

section Watching

variable {α : Type}

/-- A call has found the receiver there, and has not looked again since. -/
def MailCall.isPastCheck : MailCall α → Bool
  | .watching .arming => true
  | .watching .waiting => true
  | _ => false

/-- A call waits until the receiver goes away. -/
def MailCall.isWaiter : MailCall α → Bool
  | .watching .waiting => true
  | _ => false

/-- The calls that have found the receiver there, and have not looked again since. -/
def Exchange.pastCheck (x : Exchange α) : List Nat :=
  x.calls.pick MailCall.isPastCheck

/-- The calls that wait until the receiver goes away. -/
def Exchange.waiters (x : Exchange α) : List Nat :=
  x.calls.pick MailCall.isWaiter

end Watching

namespace Mailroom

variable {α : Type}

/-- Whom an event takes away. -/
def Event.leaver? : Event α → Option Nat
  | .leave n => some n
  | _ => none

/-- The signals of the departure that no call has gone on for, given already or still owed. -/
def tidings (m : Mailroom α) : Nat :=
  m.owedSender + m.exchange.toSender.signals

/-- What an event may do to those who watch the receiver, and whom it takes away. -/
inductive Turn (m : Mailroom α) : Option Nat → Mailroom α → Prop
  -- the slot's value or its sender changes, or the receiver is told something
  | aside (slot : Slot α) (notify : Notify) (owed : Nat) (ledger : Ledger α)
      (h : slot.receiverAlive = m.exchange.slot.receiverAlive) :
      Turn m none { m with exchange := { m.exchange with slot := slot, toReceiver := notify },
                           owedReceiver := owed, ledger := ledger }
  -- a call begins or goes on that neither was past its check nor gets there
  | elsewhere (n : Nat) (call : MailCall α) (slot : Slot α) (notify : Notify) (ledger : Ledger α)
      (h : slot.receiverAlive = m.exchange.slot.receiverAlive)
      (hn : (m.exchange.calls.get? n).any MailCall.isPastCheck = false)
      (hc : call.isPastCheck = false)
      (ht : call = .told → m.exchange.slot.receiverAlive = false) :
      Turn m none { m with exchange := { m.exchange with slot := slot, toReceiver := notify,
                                                         calls := m.exchange.calls.set n call },
                           ledger := ledger }
  | departs (ledger : Ledger α) (h : m.exchange.slot.receiverAlive = true) :
      Turn m none { m with exchange := m.exchange.withdrawReceiver,
                           owedSender := m.owedSender + 1, ledger := ledger }
  | tells (howed : 0 < m.owedSender) :
      Turn m none { m with exchange := m.exchange.tellSender, owedSender := m.owedSender - 1 }
  | passes (n : Nat) (ledger : Ledger α) (h : m.exchange.slot.receiverAlive = true)
      (hn : m.exchange.calls.get? n = some (.watching .looking)) :
      Turn m none { m with exchange := { m.exchange with
                                         calls := m.exchange.calls.set n (.watching .arming) },
                           ledger := ledger }
  -- it has been told before it has begun to wait
  | returns (n : Nat) (ledger : Ledger α) (hp : m.exchange.toSender.permit = true)
      (hn : m.exchange.calls.get? n = some (.watching .arming)) :
      Turn m none { m with exchange := { m.exchange with
                                         toSender := { m.exchange.toSender with permit := false },
                                         calls := m.exchange.calls.set n (.watching .looking) },
                           ledger := ledger }
  | waits (n : Nat) (ledger : Ledger α) (hp : m.exchange.toSender.permit = false)
      (hn : m.exchange.calls.get? n = some (.watching .arming)) :
      Turn m none { m with exchange := { m.exchange with
                                         toSender := { m.exchange.toSender with
                                           waiting := m.exchange.toSender.waiting ++ [n] },
                                         calls := m.exchange.calls.set n (.watching .waiting) },
                           ledger := ledger }
  | wakes (n : Nat) (ledger : Ledger α) (hw : n ∈ m.exchange.toSender.woken)
      (hn : m.exchange.calls.get? n = some (.watching .waiting)) :
      Turn m none { m with exchange := { m.exchange with
                                         toSender := m.exchange.toSender.proceed n,
                                         calls := m.exchange.calls.set n (.watching .looking) },
                           ledger := ledger }
  | leaves (n : Nat) (notify : Notify)
      (hn : m.exchange.calls.get? n ≠ some (.watching .waiting)) :
      Turn m (some n) { m with exchange := { m.exchange with toReceiver := notify,
                                                             calls := m.exchange.calls.erase n } }
  -- a call that waits is given up, and passes on the signal that it may have got
  | forsakes (n : Nat) (hn : m.exchange.calls.get? n = some (.watching .waiting)) :
      Turn m (some n) { m with exchange := { m.exchange with
                                             toSender := m.exchange.toSender.leave n,
                                             calls := m.exchange.calls.erase n } }

variable {m next : Mailroom α} {leaver : Option Nat}

theorem Turn.stays (m : Mailroom α) (ledger : Ledger α) : Turn m none { m with ledger := ledger } :=
  .aside m.exchange.slot m.exchange.toReceiver m.owedReceiver ledger rfl

theorem turn_advance (m : Mailroom α) (n : Nat) (ledger : Ledger α) :
    Turn m none { m with exchange := m.exchange.advance n, ledger := ledger } := by
  unfold Exchange.advance
  cases hn : m.exchange.calls.get? n with
  | none => exact .stays m ledger
  | some call =>
    cases call with
    | receiving pace =>
      have other : (m.exchange.calls.get? n).any MailCall.isPastCheck = false := by
        rw [hn]
        rfl
      cases pace with
      | looking =>
        cases m.exchange.slot.value with
        | some v =>
          exact .elsewhere n _ m.exchange.slot.take.2 m.exchange.toReceiver ledger rfl other rfl
            (by simp)
        | none =>
          cases m.exchange.slot.senderAlive with
          | true =>
            exact .elsewhere n _ m.exchange.slot m.exchange.toReceiver ledger rfl other rfl
              (by simp)
          | false =>
            exact .elsewhere n _ m.exchange.slot m.exchange.toReceiver ledger rfl other rfl
              (by simp)
      | arming => exact .elsewhere n _ m.exchange.slot _ ledger rfl other rfl (by simp)
      | waiting =>
        cases m.exchange.toReceiver.isWoken n with
        | true => exact .elsewhere n _ m.exchange.slot _ ledger rfl other rfl (by simp)
        | false => exact .stays m ledger
    | watching pace =>
      cases pace with
      | looking =>
        cases hr : m.exchange.slot.receiverAlive with
        | true => exact .passes n ledger hr hn
        | false =>
          have other : (m.exchange.calls.get? n).any MailCall.isPastCheck = false := by
            rw [hn]
            rfl
          exact .elsewhere n .told m.exchange.slot m.exchange.toReceiver ledger rfl other rfl
            fun _ => hr
      | arming =>
        cases hp : m.exchange.toSender.permit with
        | true => simpa [Notify.arm, hp] using Turn.returns n ledger hp hn
        | false => simpa [Notify.arm, hp] using Turn.waits n ledger hp hn
      | waiting =>
        cases hw : m.exchange.toSender.isWoken n with
        | true => exact .wakes n ledger (by simpa [Notify.isWoken] using hw) hn
        | false => exact .stays m ledger
    | received value => exact .stays m ledger
    | told => exact .stays m ledger

theorem turn_leave (m : Mailroom α) (n : Nat) :
    Turn m (some n) { m with exchange := m.exchange.leave n } := by
  unfold Exchange.leave
  split
  · next hn => exact .leaves n _ (by simp [hn])
  · next hn => exact .forsakes n hn
  · next hn => exact .leaves n _ hn

theorem turn_step (m : Mailroom α) (e : Event α) : Turn m e.leaver? (m.step e) := by
  cases e with
  | post v =>
    simp only [step, Exchange.deposit, Slot.post]
    cases m.exchange.slot.senderAlive with
    | false => exact .stays m m.ledger
    | true =>
      cases hr : m.exchange.slot.receiverAlive with
      | false => exact .stays m m.ledger
      | true => exact .aside _ m.exchange.toReceiver _ _ hr.symm
  | tryTake =>
    simp only [step]
    split
    · exact .aside m.exchange.slot.take.2 m.exchange.toReceiver m.owedReceiver _ rfl
    · exact .stays m m.ledger
  | dropSender =>
    simp only [step]
    split
    · exact .aside m.exchange.slot.dropSender m.exchange.toReceiver _ m.ledger rfl
    · exact .stays m m.ledger
  | dropReceiver =>
    simp only [step]
    split
    · next hfree =>
      simp only [receiverIsFree, Bool.and_eq_true] at hfree
      exact .departs _ hfree.1
    · exact .stays m m.ledger
  | tellReceiver =>
    simp only [step]
    split
    · exact .aside m.exchange.slot m.exchange.toReceiver.signal _ m.ledger rfl
    · exact .stays m m.ledger
  | tellSender =>
    simp only [step]
    split
    · next howed => exact .tells howed
    · exact .stays m m.ledger
  | receive n =>
    simp only [step]
    split
    · next h =>
      simp only [Bool.and_eq_true, Option.isNone_iff_eq_none] at h
      exact .elsewhere n (.receiving .looking) m.exchange.slot m.exchange.toReceiver m.ledger rfl
        (by simp [h.2]) rfl (by simp)
    · exact .stays m m.ledger
  | watch n =>
    simp only [step]
    split
    · next h =>
      have h : m.exchange.calls.get? n = none := by simpa using h
      exact .elsewhere n (.watching .looking) m.exchange.slot m.exchange.toReceiver m.ledger rfl
        (by simp [h]) rfl (by simp)
    · exact .stays m m.ledger
  | advance n => exact turn_advance m n _
  | leave n => exact turn_leave m n

/-! ## The line and the signals -/

/-- Those who wait are in line or have been woken, each once. -/
structure Lined (x : Exchange α) : Prop where
  numbered : x.calls.numbers.Nodup
  once : x.toSender.line.Nodup
  inLine : ∀ n, n ∈ x.toSender.line ↔ x.calls.get? n = some (.watching .waiting)
  kept : x.toSender.Kept

theorem mem_pastCheck {x : Exchange α} (lined : Lined x) {n : Nat} :
    n ∈ x.pastCheck ↔ (x.calls.get? n).any MailCall.isPastCheck = true :=
  Roster.mem_pick lined.numbered

/-- A call that was not in line and does not get there leaves the line as it is. -/
theorem Lined.goesBy {x y : Exchange α} (lined : Lined x) {n : Nat} {call : MailCall α}
    (hn : x.calls.get? n ≠ some (.watching .waiting)) (hc : call ≠ .watching .waiting)
    (hcalls : y.calls = x.calls.set n call) (hline : y.toSender.line = x.toSender.line)
    (hkept : y.toSender.Kept) : Lined y where
  numbered := by
    rw [hcalls]
    exact Roster.nodup_set lined.numbered n call
  once := hline ▸ lined.once
  inLine k := by
    rw [hline, lined.inLine, hcalls, Roster.get?_set]
    split
    · next hk =>
      subst hk
      exact iff_of_false hn (by simpa using hc)
    · exact Iff.rfl
  kept := hkept

/-- A call that leaves the line is no longer waiting. -/
theorem Lined.getsOut {x y : Exchange α} (lined : Lined x) {n : Nat}
    (hline : (n :: y.toSender.line).Perm x.toSender.line)
    (hcalls : ∀ k, y.calls.get? k = some (.watching .waiting) ↔
      k ≠ n ∧ x.calls.get? k = some (.watching .waiting))
    (hnumbered : y.calls.numbers.Nodup) (hkept : y.toSender.Kept) : Lined y where
  numbered := hnumbered
  once := (List.nodup_cons.mp (hline.nodup_iff.mpr lined.once)).2
  inLine k := by
    have hout : n ∉ y.toSender.line := (List.nodup_cons.mp (hline.nodup_iff.mpr lined.once)).1
    have hmem : k = n ∨ k ∈ y.toSender.line ↔ k ∈ x.toSender.line := by
      rw [← List.mem_cons]
      exact hline.mem_iff
    rw [hcalls, ← lined.inLine, ← hmem]
    constructor
    · intro hk
      exact ⟨fun heq => hout (heq ▸ hk), .inr hk⟩
    · rintro ⟨hne, heq | hk⟩
      · exact absurd heq hne
      · exact hk
  kept := hkept

theorem lined_turn (h : Turn m leaver next) (lined : Lined m.exchange) : Lined next.exchange := by
  cases h with
  | aside slot notify owed ledger h =>
    exact ⟨lined.numbered, lined.once, lined.inLine, lined.kept⟩
  | elsewhere n call slot notify ledger h hn hc ht =>
    refine lined.goesBy ?_ ?_ rfl rfl lined.kept
    · intro hwait
      simp [hwait, MailCall.isPastCheck] at hn
    · rintro rfl
      simp [MailCall.isPastCheck] at hc
  | departs ledger h => exact ⟨lined.numbered, lined.once, lined.inLine, lined.kept⟩
  | tells howed =>
    have hperm := Notify.line_signal m.exchange.toSender
    exact {
      numbered := lined.numbered
      once := hperm.nodup_iff.mpr lined.once
      inLine := fun n => hperm.mem_iff.trans (lined.inLine n)
      kept := Notify.kept_signal lined.kept }
  | passes n ledger h hn => exact lined.goesBy (by simp [hn]) (by simp) rfl rfl lined.kept
  | returns n ledger hp hn =>
    exact lined.goesBy (by simp [hn]) (by simp) rfl rfl (by simp [Notify.Kept])
  | waits n ledger hp hn =>
    have hout : n ∉ m.exchange.toSender.line := by simp [lined.inLine, hn]
    have hperm : (m.exchange.toSender.waiting ++ [n] ++ m.exchange.toSender.woken).Perm
        (n :: m.exchange.toSender.line) := by
      rw [List.append_assoc]
      exact List.perm_middle
    refine ⟨Roster.nodup_set lined.numbered n _, ?_, fun k => ?_, ?_⟩
    · exact hperm.nodup_iff.mpr (List.nodup_cons.mpr ⟨hout, lined.once⟩)
    · refine hperm.mem_iff.trans ?_
      rw [List.mem_cons, lined.inLine, Roster.get?_set]
      split
      · next hk => simp [hk]
      · next hk => simp [hk]
    · intro hpermit
      simp [hp] at hpermit
  | wakes n ledger hw hn =>
    refine lined.getsOut (Notify.line_proceed hw) (fun k => ?_)
      (Roster.nodup_set lined.numbered n _) lined.kept
    rw [Roster.get?_set]
    split
    · next hk => simp [hk]
    · next hk => simp [hk]
  | leaves n notify hn =>
    refine ⟨Roster.nodup_erase lined.numbered n, lined.once, fun k => ?_, lined.kept⟩
    rw [lined.inLine, Roster.get?_erase]
    split
    · next hk => simp [hk, hn]
    · exact Iff.rfl
  | forsakes n hn =>
    refine lined.getsOut (Notify.line_leave ((lined.inLine n).mpr hn)) (fun k => ?_)
      (Roster.nodup_erase lined.numbered n) (Notify.kept_leave lined.kept n)
    rw [Roster.get?_erase]
    split
    · next hk => simp [hk]
    · next hk => simp [hk]

/-- Nobody is told before the receiver is gone, and there is one signal of it in all. -/
structure Heralded (m : Mailroom α) : Prop where
  told : ∀ n, m.exchange.calls.get? n = some .told → m.exchange.slot.receiverAlive = false
  silent : m.exchange.slot.receiverAlive = true → m.tidings = 0
  single : m.tidings ≤ 1

theorem told_turn (h : Turn m leaver next)
    (told : ∀ n, m.exchange.calls.get? n = some .told → m.exchange.slot.receiverAlive = false)
    {n : Nat} (hn : next.exchange.calls.get? n = some .told) :
    next.exchange.slot.receiverAlive = false := by
  cases h with
  | aside slot notify owed ledger h => exact h.trans (told n hn)
  | elsewhere k call slot notify ledger h _ _ ht =>
    rw [Roster.get?_set] at hn
    split at hn
    · exact h.trans (ht (Option.some.inj hn))
    · exact h.trans (told n hn)
  | departs ledger h => rfl
  | tells howed => exact told n hn
  | passes k _ _ _ | returns k _ _ _ | waits k _ _ _ | wakes k _ _ _ =>
    rw [Roster.get?_set] at hn
    split at hn
    · simp at hn
    · exact told n hn
  | leaves k _ _ | forsakes k _ =>
    rw [Roster.get?_erase] at hn
    split at hn
    · simp at hn
    · exact told n hn

/-- A signal that is owed, or has woken somebody, is the only one. -/
theorem permit_eq_false (hm : m.tidings ≤ 1)
    (h : 0 < m.owedSender ∨ 0 < m.exchange.toSender.woken.length) :
    m.exchange.toSender.permit = false := by
  cases hp : m.exchange.toSender.permit with
  | false => rfl
  | true =>
    simp only [tidings, Notify.signals, hp, Bool.toNat_true] at hm
    omega

/-- What a call past its check gets on for is a signal; those that look again have used it up. -/
theorem balance_turn (h : Turn m leaver next) (lined : Lined m.exchange) (hm : m.tidings ≤ 1)
    (gone : m.exchange.slot.receiverAlive = false) :
    next.exchange.pastCheck.length + m.tidings +
        ((leaver.bind m.exchange.calls.get?).any MailCall.isPastCheck).toNat =
      m.exchange.pastCheck.length + next.tidings := by
  have set (n : Nat) (call : MailCall α) :=
    Roster.length_pick_set MailCall.isPastCheck m.exchange.calls n call
  have erase (n : Nat) := Roster.length_pick_erase MailCall.isPastCheck lined.numbered n
  cases h with
  | aside slot notify owed ledger h => rfl
  | elsewhere n call slot notify ledger h hn hc ht =>
    have hset := set n call
    simp only [hn, hc] at hset
    simp only [Exchange.pastCheck, tidings, Option.bind_none, Option.any_none,
      Bool.toNat_false] at hset ⊢
    omega
  | departs ledger h => simp [gone] at h
  | tells howed =>
    have hp := permit_eq_false hm (.inl howed)
    have hsignal := Notify.signals_signal hp
    simp only [Exchange.pastCheck, tidings, Exchange.tellSender, hsignal, Option.bind_none,
      Option.any_none, Bool.toNat_false]
    omega
  | passes n ledger h hn => simp [gone] at h
  | returns n ledger hp hn =>
    have hset := set n (.watching .looking)
    simp only [hn, Option.any_some, MailCall.isPastCheck] at hset
    simp only [Exchange.pastCheck, tidings, Notify.signals, hp, Option.bind_none,
      Option.any_none, Bool.toNat_false, Bool.toNat_true] at hset ⊢
    omega
  | waits n ledger hp hn =>
    have hset := set n (.watching .waiting)
    simp only [hn, Option.any_some, MailCall.isPastCheck] at hset
    simp only [Exchange.pastCheck, tidings, Notify.signals, Option.bind_none, Option.any_none,
      Bool.toNat_false] at hset ⊢
    omega
  | wakes n ledger hw hn =>
    have hset := set n (.watching .looking)
    have hsignal := Notify.signals_proceed hw
    simp only [hn, Option.any_some, MailCall.isPastCheck] at hset
    simp only [Exchange.pastCheck, tidings, Option.bind_none, Option.any_none, Bool.toNat_false,
      Bool.toNat_true] at hset ⊢
    omega
  | leaves n notify hn =>
    have herase := erase n
    simp only [Exchange.pastCheck, tidings, Option.bind_some]
    omega
  | forsakes n hn =>
    have herase := erase n
    have hsignal : (m.exchange.toSender.leave n).signals = m.exchange.toSender.signals := by
      apply Notify.signals_leave
      unfold tidings at hm
      omega
    simp only [Exchange.pastCheck, tidings, Option.bind_some, hsignal]
    omega

theorem heralded_turn (h : Turn m leaver next) (heralded : Heralded m) : Heralded next := by
  obtain ⟨told, silent, single⟩ := heralded
  have held (same : next.exchange.slot.receiverAlive = m.exchange.slot.receiverAlive)
      (hle : next.tidings ≤ m.tidings) : Heralded next := by
    refine ⟨fun n => told_turn h told, fun alive => ?_, Nat.le_trans hle single⟩
    have hzero := silent (same ▸ alive)
    omega
  cases h with
  | aside slot notify owed ledger h => exact held h (Nat.le_refl _)
  | elsewhere n call slot notify ledger h _ _ _ => exact held h (Nat.le_refl _)
  | departs ledger h =>
    have hzero := silent h
    refine ⟨fun n _ => rfl, fun alive => (nomatch alive), ?_⟩
    unfold tidings at hzero ⊢
    show m.owedSender + 1 + m.exchange.toSender.signals ≤ 1
    omega
  | tells howed =>
    have hsignal := Notify.signals_signal (permit_eq_false single (.inl howed))
    refine held rfl ?_
    simp only [tidings, Exchange.tellSender, hsignal]
    omega
  | passes n ledger _ _ => exact held rfl (Nat.le_refl _)
  | returns n ledger hp _ =>
    refine held rfl ?_
    simp only [tidings, Notify.signals, hp, Bool.toNat_true, Bool.toNat_false]
    omega
  | waits n ledger _ _ => exact held rfl (Nat.le_refl _)
  | wakes n ledger hw _ =>
    have hsignal := Notify.signals_proceed hw
    refine held rfl ?_
    simp only [tidings]
    omega
  | leaves n notify _ => exact held rfl (Nat.le_refl _)
  | forsakes n _ =>
    have hsignal : (m.exchange.toSender.leave n).signals = m.exchange.toSender.signals := by
      apply Notify.signals_leave
      unfold tidings at single
      omega
    refine held rfl ?_
    simp only [tidings, hsignal]
    omega

/-! ## Every run -/

/-- What holds at any time of those who watch the receiver. -/
structure Watched (m : Mailroom α) : Prop where
  lined : Lined m.exchange
  heralded : Heralded m

theorem watched_init : Watched ({} : Mailroom α) where
  lined := ⟨List.nodup_nil, List.nodup_nil, fun n => by simp [Notify.line, Roster.get?],
    fun _ => rfl⟩
  heralded := ⟨fun n => by simp [Roster.get?], fun _ => rfl, Nat.zero_le _⟩

theorem watched_step (watched : Watched m) (e : Event α) : Watched (m.step e) :=
  ⟨lined_turn (turn_step m e) watched.lined, heralded_turn (turn_step m e) watched.heralded⟩

theorem watched_run (events : List (Event α)) (watched : Watched m) : Watched (m.run events) := by
  induction events generalizing m with
  | nil => exact watched
  | cons e rest ih => exact ih (watched_step watched e)

/-- After the departure of a receiver that these calls had found there: no others are past their
check, and they are fewer than they were, unless the signal has not served any of them yet. -/
structure Late (late : List Nat) (m : Mailroom α) : Prop where
  gone : m.exchange.slot.receiverAlive = false
  among : m.exchange.pastCheck ⊆ late
  count : m.exchange.pastCheck.length + 1 ≤ late.length + m.tidings

theorem gone_turn (h : Turn m leaver next) (gone : m.exchange.slot.receiverAlive = false) :
    next.exchange.slot.receiverAlive = false := by
  cases h with
  | aside _ _ _ _ h => exact h.trans gone
  | elsewhere _ _ _ _ _ h _ _ _ => exact h.trans gone
  | departs _ _ => rfl
  | _ => exact gone

/-- No call gets past its check once the receiver is gone. -/
theorem pastCheck_turn (h : Turn m leaver next) (lined : Lined m.exchange)
    (gone : m.exchange.slot.receiverAlive = false) :
    next.exchange.pastCheck ⊆ m.exchange.pastCheck := by
  have lined' := lined_turn h lined
  intro k hk
  rw [mem_pastCheck lined'] at hk
  rw [mem_pastCheck lined]
  cases h with
  | aside _ _ _ _ _ => exact hk
  | elsewhere n call _ _ _ _ _ hc _ =>
    rw [Roster.get?_set] at hk
    split at hk
    · simp [hc] at hk
    · exact hk
  | departs _ h => simp [gone] at h
  | tells _ => exact hk
  | passes _ _ h _ => simp [gone] at h
  | waits n _ _ hn =>
    rw [Roster.get?_set] at hk
    split at hk
    · next heq => simp [heq, hn, MailCall.isPastCheck]
    · exact hk
  | returns n _ _ _ | wakes n _ _ _ =>
    rw [Roster.get?_set] at hk
    split at hk
    · simp [MailCall.isPastCheck] at hk
    · exact hk
  | leaves n _ _ | forsakes n _ =>
    rw [Roster.get?_erase] at hk
    split at hk
    · simp at hk
    · exact hk

variable {late : List Nat}

theorem late_turn (h : Turn m leaver next) (watched : Watched m) (past : Late late m) :
    Late late next where
  gone := gone_turn h past.gone
  among := fun _ hk => past.among (pastCheck_turn h watched.lined past.gone hk)
  count := by
    have hbalance := balance_turn h watched.lined watched.heralded.single past.gone
    have hcount := past.count
    omega

/-- While none of the calls goes away that were past their check, the count is exact. -/
theorem count_turn (h : Turn m leaver next) (watched : Watched m) (past : Late late m)
    (stay : ∀ n ∈ late, leaver ≠ some n)
    (full : m.exchange.pastCheck.length + 1 = late.length + m.tidings) :
    next.exchange.pastCheck.length + 1 = late.length + next.tidings := by
  have hbalance := balance_turn h watched.lined watched.heralded.single past.gone
  have hnone : (leaver.bind m.exchange.calls.get?).any MailCall.isPastCheck = false := by
    cases leaver with
    | none => rfl
    | some n =>
      have hn : n ∉ m.exchange.pastCheck := fun hmem => stay n (past.among hmem) rfl
      rw [mem_pastCheck watched.lined] at hn
      simpa using hn
  rw [hnone] at hbalance
  simp only [Bool.toNat_false] at hbalance
  omega

theorem late_run (events : List (Event α)) (watched : Watched m) (past : Late late m) :
    Late late (m.run events) := by
  induction events generalizing m with
  | nil => exact past
  | cons e rest ih =>
    exact ih (watched_step watched e) (late_turn (turn_step m e) watched past)

theorem count_run (events : List (Event α)) (watched : Watched m) (past : Late late m)
    (stay : ∀ n ∈ late, Event.leave n ∉ events)
    (full : m.exchange.pastCheck.length + 1 = late.length + m.tidings) :
    (m.run events).exchange.pastCheck.length + 1 = late.length + (m.run events).tidings := by
  induction events generalizing m with
  | nil => exact full
  | cons e rest ih =>
    have turn := turn_step m e
    have hstay : ∀ n ∈ late, e.leaver? ≠ some n := by
      intro n hn heq
      have hleave : e = .leave n := by
        cases e with
        | leave k => exact congrArg Event.leave (Option.some.inj heq)
        | _ => cases heq
      exact stay n hn (hleave ▸ List.mem_cons_self)
    refine ih (watched_step watched e) (late_turn turn watched past) ?_
      (count_turn turn watched past hstay full)
    exact fun n hn hmem => stay n hn (List.mem_cons_of_mem e hmem)

/-- The receiver has just gone: there is one signal for those that had found it there. -/
theorem late_departure (watched : Watched m) (hfree : m.receiverIsFree = true) :
    Late m.exchange.pastCheck (m.step .dropReceiver) ∧
      (m.step .dropReceiver).exchange.pastCheck.length + 1 =
        m.exchange.pastCheck.length + (m.step .dropReceiver).tidings := by
  have alive : m.exchange.slot.receiverAlive = true := by
    simp only [receiverIsFree, Bool.and_eq_true] at hfree
    exact hfree.1
  have hzero := watched.heralded.silent alive
  have hone : (m.step .dropReceiver).tidings = 1 := by
    simp only [tidings] at hzero
    simp only [step, if_pos hfree, tidings, Exchange.withdrawReceiver]
    omega
  have hsame : (m.step .dropReceiver).exchange.pastCheck = m.exchange.pastCheck := by
    simp only [step, if_pos hfree, Exchange.withdrawReceiver, Exchange.pastCheck]
  refine ⟨⟨?_, hsame ▸ List.Subset.refl _, ?_⟩, ?_⟩
  · simp only [step, if_pos hfree]
    rfl
  · rw [hone, hsame]
  · rw [hone, hsame]

/-! ## When no task can run -/

/-- A call that watches and cannot go on waits. -/
theorem pace_of_still (still : m.Still) {n : Nat} {pace : Pace}
    (hn : m.exchange.calls.get? n = some (.watching pace)) : pace = .waiting := by
  have stuck := still.2.2 n
  cases pace with
  | looking => simp [Exchange.canAdvance, hn] at stuck
  | arming => simp [Exchange.canAdvance, hn] at stuck
  | waiting => rfl

theorem waiters_of_still (watched : Watched m) (still : m.Still) :
    m.exchange.waiters = m.exchange.pastCheck := by
  apply Roster.pick_congr watched.lined.numbered
  intro n call hn
  cases call with
  | watching pace =>
    obtain rfl := pace_of_still still hn
    rfl
  | _ => rfl

/-- Nobody has been woken who has not gone on. -/
theorem woken_of_still (watched : Watched m) (still : m.Still) :
    m.exchange.toSender.woken = [] := by
  apply List.eq_nil_iff_forall_not_mem.mpr
  intro n hn
  have hwait := (watched.lined.inLine n).mp (List.mem_append_right _ hn)
  have stuck := still.2.2 n
  simp [Exchange.canAdvance, hwait, Notify.isWoken, hn] at stuck

/-- Either the signal has served somebody, or it is kept since nobody waits. -/
theorem tidings_of_still (watched : Watched m) (still : m.Still) :
    m.tidings = 0 ∨ m.tidings = 1 ∧ m.exchange.pastCheck = [] := by
  have hwoken := woken_of_still watched still
  have howed : m.owedSender = 0 := still.2.1
  cases hp : m.exchange.toSender.permit with
  | false =>
    left
    simp [tidings, Notify.signals, howed, hp, hwoken]
  | true =>
    right
    refine ⟨by simp [tidings, Notify.signals, howed, hp, hwoken], ?_⟩
    have hline : m.exchange.toSender.line = [] := by
      rw [Notify.line, watched.lined.kept hp, hwoken, List.append_nil]
    rw [← waiters_of_still watched still]
    apply List.eq_nil_iff_forall_not_mem.mpr
    intro n hn
    have hwait : m.exchange.calls.get? n = some (.watching .waiting) := by
      have hany := (Roster.mem_pick watched.lined.numbered).mp hn
      revert hany
      unfold MailCall.isWaiter
      cases hcall : m.exchange.calls.get? n with
      | none => simp
      | some call =>
        cases call with
        | watching pace => cases pace <;> simp
        | _ => simp
    have hmem := (watched.lined.inLine n).mpr hwait
    simp [hline] at hmem

/-- What is left of those that watched a receiver, when these calls had found it there last. -/
structure Departed (late : List Nat) (m : Mailroom α) : Prop where
  gone : m.exchange.slot.receiverAlive = false
  -- who waits in vain had found the receiver there before it went
  waits : ∀ n pace, m.exchange.calls.get? n = some (.watching pace) → pace = .waiting ∧ n ∈ late
  fewer : m.exchange.waiters.length ≤ late.length - 1
  -- nobody waits in vain if there was one such call at most
  served : late.length ≤ 1 → ∀ n pace, m.exchange.calls.get? n ≠ some (.watching pace)

theorem departed_of_still (watched : Watched m) (past : Late late m) (still : m.Still) :
    Departed late m := by
  have hfewer : m.exchange.waiters.length ≤ late.length - 1 := by
    rw [waiters_of_still watched still]
    have hcount := past.count
    rcases tidings_of_still watched still with hzero | ⟨hone, hnil⟩
    · omega
    · simp [hnil]
  have hmem (n : Nat) (pace : Pace) (hn : m.exchange.calls.get? n = some (.watching pace)) :
      pace = .waiting ∧ n ∈ m.exchange.waiters := by
    obtain rfl := pace_of_still still hn
    exact ⟨rfl, (Roster.mem_pick watched.lined.numbered).mpr (by simp [hn, MailCall.isWaiter])⟩
  refine ⟨past.gone, fun n pace hn => ?_, hfewer, fun hlate n pace hn => ?_⟩
  · obtain ⟨hpace, hwaits⟩ := hmem n pace hn
    rw [waiters_of_still watched still] at hwaits
    exact ⟨hpace, past.among hwaits⟩
  · have hpos := List.length_pos_of_mem (hmem n pace hn).2
    omega

/-- Nobody who watches the receiver is told before it is gone.  Once it is gone and no task can run, a
call waits in vain only if it had found the receiver there before; one of these calls at least does
not, whatever happens, and all but one do if none of them is given up. -/
theorem watchers_told (events later : List (Event α)) :
    let m := run ({} : Mailroom α) events
    let left := m.run (.dropReceiver :: later)
    (∀ n, m.exchange.calls.get? n = some .told → m.exchange.slot.receiverAlive = false) ∧
      (m.receiverIsFree = true → left.Still →
        Departed m.exchange.pastCheck left ∧
          ((∀ n ∈ m.exchange.pastCheck, .leave n ∉ later) →
            left.exchange.waiters.length = m.exchange.pastCheck.length - 1)) := by
  intro m left
  have watched : Watched m := watched_run events watched_init
  refine ⟨watched.heralded.told, fun hfree still => ?_⟩
  obtain ⟨past, full⟩ := late_departure watched hfree
  have watchedDrop := watched_step watched .dropReceiver
  have watchedLeft : Watched left := watched_run later watchedDrop
  have lateLeft : Late m.exchange.pastCheck left := late_run later watchedDrop past
  refine ⟨departed_of_still watchedLeft lateLeft still, fun stay => ?_⟩
  have hcount : left.exchange.pastCheck.length + 1 = m.exchange.pastCheck.length + left.tidings :=
    count_run later watchedDrop past stay full
  rw [waiters_of_still watchedLeft still]
  rcases tidings_of_still watchedLeft still with hzero | ⟨hone, hnil⟩
  · omega
  · rw [hnil, List.length_nil] at hcount ⊢
    omega

/-! ## Two calls and one signal -/

/-- A mailbox is still if none of its calls can take a step. -/
theorem still_of_numbers (hreceiver : m.owedReceiver = 0) (hsender : m.owedSender = 0)
    (h : ∀ n ∈ m.exchange.calls.numbers, m.exchange.canAdvance n = false) : m.Still := by
  refine ⟨hreceiver, hsender, fun n => ?_⟩
  by_cases hn : n ∈ m.exchange.calls.numbers
  · exact h n hn
  · have hnone : m.exchange.calls.get? n = none := by
      cases hcall : m.exchange.calls.get? n with
      | none => rfl
      | some call =>
        have hmem := List.mem_map_of_mem (f := Prod.fst) (Roster.mem_entries_of_get? hcall)
        exact absurd hmem hn
    simp [Exchange.canAdvance, hnone]

/-- Two calls wait for the receiver to go away. -/
def pairWatching : List (Event Nat) :=
  [.watch 1, .watch 2, .advance 1, .advance 1, .advance 2, .advance 2]

/-- Its signal wakes the one that came first. -/
def firstTold : List (Event Nat) :=
  [.tellSender, .advance 1, .advance 1]

theorem still_firstTold :
    ((run {} pairWatching).run (.dropReceiver :: firstTold)).Still :=
  still_of_numbers (by decide) (by decide) (by decide)

theorem pair_watching_told :
    ((run {} pairWatching).run (.dropReceiver :: firstTold)).exchange.waiters.length = 1 := by
  have hfree : (run {} pairWatching).receiverIsFree = true := by decide
  have stay : ∀ n ∈ (run {} pairWatching).exchange.pastCheck, .leave n ∉ firstTold := by
    simp [firstTold]
  exact ((watchers_told pairWatching firstTold).2 hfree still_firstTold).2 stay

/-- The receiver is gone and no task can run, and a call still waits to be told. -/
theorem watcher_left_waiting :
    ∃ events : List (Event Nat), (run {} events).Still ∧
      (run {} events).exchange.slot.receiverAlive = false ∧
      ∃ n, (run {} events).exchange.calls.get? n = some (.watching .waiting) :=
  ⟨pairWatching ++ .dropReceiver :: firstTold, still_firstTold, by decide, 2, by decide⟩

end Mailroom
end ClusterControl
