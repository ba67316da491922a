import ClusterControl.Proofs.Cluster.SoloCalls

/-!
# Calls in charge of a node

From when a call has got the lock until it is over, it alone changes the nodes, however many others
stand in line and whether or not a stop has been requested meanwhile.  This module follows such a
call from one of its turns to the next.

* `Registry.SameNodes` — two registries tell the same of the nodes.
* `dealings` — what went on between one worker and the launcher.
* `sameNodes_move`, `dealings_move` — nobody else touches the nodes, or speaks for the call.
* `undisturbed_or_answered` — between two turns of the call nothing happens to it but that an errand
  of its own is answered.
* `turns`, `proceeds_step`, `proceeds_run`, `turns_lt` — how often a call gets on before it is over.
-/

namespace ClusterControl

namespace Registry

/-- The registries tell the same of the nodes, whatever state the cluster is in. -/
structure SameNodes (r r' : Registry) : Prop where
  names : r'.names = r.names
  records : r'.records = r.records
  configs : r'.configs = r.configs

namespace SameNodes

variable {r r' r'' : Registry}

theorem refl (r : Registry) : r.SameNodes r :=
  ⟨rfl, rfl, rfl⟩

theorem trans (first : r.SameNodes r') (second : r'.SameNodes r'') : r.SameNodes r'' :=
  ⟨second.names.trans first.names, second.records.trans first.records,
    second.configs.trans first.configs⟩

theorem of_eq (h : r' = r) : r.SameNodes r' := by
  subst h
  exact refl r'

theorem restarting (h : r.SameNodes r') (name : String) (config : NodeConfig) :
    (r.restarting name config).SameNodes (r'.restarting name config) := by
  refine ⟨h.names, ?_, ?_⟩
  · simp only [Registry.restarting, h.records]
  · simp only [Registry.restarting, h.configs]

theorem restarted (h : r.SameNodes r') (name : String) (e : Endpoint) :
    (r.restarted name e).SameNodes (r'.restarted name e) := by
  refine ⟨h.names, ?_, h.configs⟩
  simp only [Registry.restarted, h.records]

theorem forget (h : r.SameNodes r') (name : String) :
    (r.forget name).SameNodes (r'.forget name) := by
  refine ⟨?_, ?_, ?_⟩
  · simp only [Registry.forget, h.names]
  · simp only [Registry.forget, h.records]
  · simp only [Registry.forget, h.configs]

end SameNodes
end Registry

/-- Whose errand an entry is about. -/
def JournalEntry.worker : JournalEntry → Worker
  | asked w _ => w
  | answered w _ _ => w

namespace Cluster

variable {c d : Cluster} {n : Nat} {e : Event} {phase : CallPhase}

/-! ## The launcher and one worker -/

/-- What went on between a worker and the launcher, oldest first. -/
def dealings (c : Cluster) (w : Worker) : List JournalEntry :=
  (c.journal.filter fun entry => entry.worker = w).reverse

theorem dealings_of_eq (h : d.journal = c.journal) (w : Worker) : d.dealings w = c.dealings w := by
  simp only [dealings, h]

theorem dealings_of_own {entry : JournalEntry} {w : Worker}
    (h : d.journal = entry :: c.journal) (hown : entry.worker = w) :
    d.dealings w = c.dealings w ++ [entry] := by
  simp [dealings, h, hown]

theorem dealings_of_other {entry : JournalEntry} {w : Worker}
    (h : d.journal = entry :: c.journal) (hother : entry.worker ≠ w) :
    d.dealings w = c.dealings w := by
  simp [dealings, h, hother]

/-- Nobody but a worker itself, and who answers its errands, adds to its dealings. -/
theorem dealings_move {w : Worker} (h : Move c e d) (hpoll : e ≠ .poll w)
    (hanswer : ∀ reply, e ≠ .answer w reply) : d.dealings w = c.dealings w := by
  have notPolled {v : Worker} (heq : e = .poll v) : v ≠ w := fun hv => hpoll (by rw [heq, hv])
  have notAnswered {v : Worker} {reply : Reply} (heq : e = .answer v reply) : v ≠ w :=
    fun hv => hanswer reply (by rw [heq, hv])
  cases h with
  | starterAnswered _ _ => exact dealings_of_other rfl (notAnswered rfl)
  | stopperAnswered _ _ => exact dealings_of_other rfl (notAnswered rfl)
  | callerAnswered _ _ _ => exact dealings_of_other rfl (notAnswered rfl)
  | starter h =>
    cases h with
    | asks _ => exact dealings_of_other rfl (notPolled rfl)
    | waits _ _ => exact dealings_of_other rfl (notPolled rfl)
    | _ => exact dealings_of_eq rfl w
  | stopper h =>
    cases h with
    | shuts _ _ _ => exact dealings_of_other rfl (notPolled rfl)
    | shutsAgain _ _ _ => exact dealings_of_other rfl (notPolled rfl)
    | _ => exact dealings_of_eq rfl w
  | caller h =>
    rcases h.journal with hjournal | ⟨_, errand, -, -, hjournal⟩
    · exact dealings_of_eq hjournal w
    · exact dealings_of_other hjournal (notPolled rfl)
  | _ => exact dealings_of_eq rfl w

/-- How long nodes are waited for, and in which way, does not change. -/
theorem settings_move (h : Move c e d) :
    d.healthTimeout = c.healthTimeout ∧ d.restartPolicy = c.restartPolicy := by
  cases h with
  | starter h => cases h <;> exact ⟨rfl, rfl⟩
  | stopper h => cases h <;> exact ⟨rfl, rfl⟩
  | caller h =>
    cases h with
    | refused ha _ => rw [ha.eq]; exact ⟨rfl, rfl⟩
    | unconfigured ha _ _ => rw [ha.eq]; exact ⟨rfl, rfl⟩
    | removes ha _ => rw [ha.eq]; exact ⟨rfl, rfl⟩
    | replaces ha _ _ => rw [ha.eq]; exact ⟨rfl, rfl⟩
    | _ => exact ⟨rfl, rfl⟩
  | _ => exact ⟨rfl, rfl⟩

theorem settings_run (c : Cluster) (events : List Event) :
    (c.run events).healthTimeout = c.healthTimeout ∧
      (c.run events).restartPolicy = c.restartPolicy := by
  refine run_preserves (P := fun d => d.healthTimeout = c.healthTimeout ∧
    d.restartPolicy = c.restartPolicy) (fun e _ b d h same => ?_) c ⟨rfl, rfl⟩
  obtain ⟨timeout, policy⟩ := settings_move h
  exact ⟨timeout.trans same.1, policy.trans same.2⟩

/-! ## From one turn to the next -/

/-- While a call is changing a node, nobody else touches the nodes. -/
theorem sameNodes_move (h : Move c e d) (order : Orderly c)
    (hphase : c.callers.get? n = some phase) (hcharge : phase.charge?.isSome = true)
    (hpoll : e ≠ .poll (.caller n)) : c.registry.SameNodes d.registry := by
  cases h with
  | starter h =>
    cases h with
    | publishes _ _ hp =>
      -- A report is only taken over while the cluster is launching.
      obtain ⟨_, -, launching, -⟩ := publish_eq_ok hp
      exact absurd launching (order.not_launching_of_charge hphase hcharge)
    | _ => exact ⟨rfl, rfl, rfl⟩
  | stopper h => cases h <;> exact ⟨rfl, rfl, rfl⟩
  | @caller m d h =>
    have other : m ≠ n := fun heq => hpoll (by rw [heq])
    rcases h.registry_cases with hsame | ⟨p, name, hp, hname, -⟩
    · exact .of_eq hsame
    · simp [(order.alone_of_charge hphase hcharge).others m p other hp] at hname
  | _ => exact ⟨rfl, rfl, rfl⟩

/-- As far as a call and the nodes are concerned, nothing has happened. -/
structure Undisturbed (n : Nat) (c d : Cluster) : Prop where
  phase : d.callers.get? n = c.callers.get? n
  nodes : c.registry.SameNodes d.registry
  dealings : d.dealings (.caller n) = c.dealings (.caller n)

theorem Undisturbed.refl (n : Nat) (c : Cluster) : Undisturbed n c c :=
  ⟨rfl, .refl _, rfl⟩

/-- The cluster in which the errand of a call has been answered. -/
def answeredCall (c : Cluster) (n : Nat) (phase : CallPhase) (errand : Errand) (reply : Reply) :
    Cluster :=
  { c with
    callers := c.callers.set n (phase.take reply)
    journal := .answered (.caller n) errand reply :: c.journal }

/-- An answer to the errand of a call is taken. -/
theorem answer_of_errand {errand : Errand} {reply : Reply} (hphase : c.callers.get? n = some phase)
    (herrand : phase.errand? = some errand) (ha : reply.answers errand = true) :
    c.answer (.caller n) reply = c.answeredCall n phase errand reply := by
  have own : c.errand? (.caller n) = some errand := by simpa [errand?_caller, hphase] using herrand
  simp only [answer, own, ha, if_true, receive_caller hphase]
  rfl

/-- What comes in as an answer for a call is none, or its errand has been answered. -/
theorem answer_caller (hphase : c.callers.get? n = some phase) (reply : Reply) :
    c.answer (.caller n) reply = c ∨ ∃ errand, phase.errand? = some errand ∧
      reply.answers errand = true ∧
      c.answer (.caller n) reply = c.answeredCall n phase errand reply := by
  have own : c.errand? (.caller n) = phase.errand? := by simp [errand?_caller, hphase]
  cases herrand : phase.errand? with
  | none => exact .inl (by simp only [answer, own, herrand])
  | some errand =>
    by_cases ha : reply.answers errand = true
    · exact .inr ⟨errand, rfl, ha, answer_of_errand hphase herrand ha⟩
    · exact .inl (by simp only [answer, own, herrand, if_neg ha])

/-- Between two turns of a call that is changing a node nothing happens to it but that its errand is
answered. -/
theorem undisturbed_or_answered (order : Orderly c) (hphase : c.callers.get? n = some phase)
    (hcharge : phase.charge?.isSome = true) (he : e ≠ .leave n)
    (hpoll : e ≠ .poll (.caller n)) :
    Undisturbed n c (c.step e) ∨ ∃ errand reply, e = .answer (.caller n) reply ∧
      phase.errand? = some errand ∧ reply.answers errand = true ∧
      c.step e = c.answeredCall n phase errand reply := by
  by_cases hanswer : ∃ reply, e = .answer (.caller n) reply
  · obtain ⟨reply, rfl⟩ := hanswer
    rcases answer_caller hphase reply with hsame | ⟨errand, herrand, ha, heq⟩
    · refine .inl ?_
      rw [step, hsame]
      exact .refl n c
    · exact .inr ⟨errand, reply, rfl, herrand, ha, heq⟩
  · have others : ∀ reply, e ≠ .answer (.caller n) reply := fun reply heq => hanswer ⟨reply, heq⟩
    refine .inl (step_preserves (P := fun d => Orderly d ∧ Undisturbed n c d)
      (fun move held => ?_) c ⟨order, .refl n c⟩).2
    obtain ⟨order, calm⟩ := held
    have there := calm.phase.trans hphase
    refine ⟨orderly_move move order, ?_, ?_, ?_⟩
    · rcases move.phase_cases there he with hsame | ⟨heq, -⟩ | ⟨_, reply, -, -, heq, -⟩
      · exact hsame.trans hphase.symm
      · exact absurd heq hpoll
      · exact absurd heq (others reply)
    · exact calm.nodes.trans (sameNodes_move move order there hcharge hpoll)
    · exact (dealings_move move hpoll others).trans calm.dealings

end Cluster

/-! ## How often a call gets on -/

/-- How often a call that is changing a node gets on before it is over, at most. -/
def CallPhase.left : CallPhase → Nat
  | replacing _ _ none => 8
  | replacing _ _ (some _) => 7
  | adding _ _ none => 6
  | adding _ _ (some _) => 5
  | awaitingNode _ _ none => 4
  | awaitingNode _ _ (some _) => 3
  | awaitingAll _ _ none => 4
  | awaitingAll _ _ (some _) => 3
  | cleaning _ _ none => 2
  | cleaning _ _ (some _) => 1
  | removing _ none => 2
  | removing _ (some _) => 1
  | _ => 0

namespace Cluster

variable {c d : Cluster} {n : Nat} {e : Event} {phase : CallPhase}

/-- A call gets on in an event: it goes on and can, or its errand is answered. -/
def getsOn (c : Cluster) (n : Nat) : Event → Bool
  | .poll (.caller k) => k = n && c.callerReady n
  | .answer (.caller k) reply => k = n && (c.errand? (.caller n)).any reply.answers
  | _ => false

/-- How often a call gets on in the course of a run. -/
def turns (c : Cluster) (n : Nat) : List Event → Nat
  | [] => 0
  | e :: rest => (c.getsOn n e).toNat + (c.step e).turns n rest

/-- A wait goes on only if no stop is requested, there is time, and there is no answer. -/
theorem still_of_judge {α : Type} {deadline : Nat} {reply : Pending α}
    (h : c.judge deadline reply = .still) :
    c.stopSignal = false ∧ c.now < deadline ∧ reply = none := by
  unfold judge at h
  split at h
  · simp at h
  · next hs =>
    split at h
    · simp at h
    · next ht =>
      refine ⟨by simpa using hs, Nat.not_le.mp ht, ?_⟩
      split at h <;> first | rfl | simp at h

/-- A call that has waited long enough is not kept by its wait. -/
theorem ready_of_still {α : Type} {deadline : Nat} {reply : Pending α}
    (h : c.judge deadline reply = .still) :
    (c.stopSignal || deadline ≤ c.now || reply.isSome) = false := by
  obtain ⟨unsignalled, intime, rfl⟩ := still_of_judge h
  simp [unsignalled, intime]

/-- A call that is changing a node goes on with that, or is over. -/
def Proceeds (n : Nat) (bound : Nat) (c : Cluster) : Prop :=
  ∃ phase, c.callers.get? n = some phase ∧
    (phase.charge?.isSome = true ∨ phase.isOver = true) ∧ phase.left ≤ bound

theorem Proceeds.conclude {bound : Nat} (c : Cluster) (n : Nat) (result : Outcome Snapshot) :
    Proceeds n bound (c.conclude n result) :=
  ⟨_, Roster.get?_set_self .., .inr rfl, Nat.zero_le _⟩

theorem Proceeds.breakOff {bound : Nat} (c : Cluster) (n : Nat) :
    Proceeds n bound (c.breakOff n) :=
  ⟨_, Roster.get?_set_self .., .inr rfl, Nat.zero_le _⟩

theorem Proceeds.cleanUp {bound : Nat} (h : 2 ≤ bound) (c : Cluster) (n : Nat) (name : String)
    (cause : Failure) : Proceeds n bound (c.cleanUp n name cause) :=
  ⟨_, Roster.get?_set_self .., .inl rfl, h⟩

theorem Proceeds.restarted {bound : Nat} (h : 2 ≤ bound) (c : Cluster) (n : Nat) (name : String)
    (report : NodeReport) : Proceeds n bound (c.restarted n name report) := by
  unfold Cluster.restarted
  split
  · exact .conclude _ n _
  · exact .cleanUp h c n name _

theorem Proceeds.awaitRestart {bound : Nat} (h : 4 ≤ bound) (c : Cluster) (n : Nat)
    (name : String) : Proceeds n bound (c.awaitRestart n name) := by
  unfold Cluster.awaitRestart
  split
  · exact .cleanUp (by omega) c n name _
  · split
    · exact ⟨_, Roster.get?_set_self .., .inl rfl, h⟩
    · exact ⟨_, Roster.get?_set_self .., .inl rfl, h⟩

/-- A wait that is looked at goes on as it is, or the call has at most to take its node out. -/
theorem Proceeds.wait {α : Type} {deadline : Nat} {reply : Pending α}
    (hcharge : phase.charge?.isSome = true) (three : 3 ≤ phase.left)
    (h : c.judge deadline reply = .still ∧ d = c.setCall n phase ∨ Proceeds n 2 d) :
    Proceeds n (phase.left - (c.stopSignal || deadline ≤ c.now || reply.isSome).toNat) d := by
  rcases h with ⟨still, rfl⟩ | ⟨after, hafter, begun, left⟩
  · refine ⟨phase, Roster.get?_set_self .., .inl hcharge, ?_⟩
    rw [ready_of_still still]
    exact Nat.le_refl _
  · refine ⟨after, hafter, begun, ?_⟩
    have one : (c.stopSignal || deadline ≤ c.now || reply.isSome).toNat ≤ 1 := Bool.toNat_le _
    omega

/-- Whether an errand that is only to be done has been answered, and how. -/
theorem pending_cases (reply : Pending Unit) : reply = none ∨ reply = some (.ok ()) ∨
    (∃ e, reply = some (.error (.failed e))) ∨ reply = some (.error .crashed) := by
  cases reply with
  | none => exact .inl rfl
  | some answer =>
    cases answer with
    | ok done => exact .inr (.inl rfl)
    | error why =>
      cases why with
      | failed e => exact .inr (.inr (.inl ⟨e, rfl⟩))
      | crashed => exact .inr (.inr (.inr rfl))

/-- A call that is changing a node and can go on gets on. -/
theorem proceeds_poll (hphase : c.callers.get? n = some phase)
    (hcharge : phase.charge?.isSome = true) :
    Proceeds n (phase.left - (c.callerReady n).toNat) (c.pollCaller n) := by
  unfold pollCaller callerReady
  simp only [hphase]
  cases phase with
  | removing name reply =>
    rcases pending_cases reply with rfl | rfl | ⟨e, rfl⟩ | rfl
    · exact ⟨_, hphase, .inl rfl, Nat.le_refl _⟩
    · exact .conclude _ n _
    · exact .conclude c n _
    · exact .breakOff c n
  | replacing name config reply =>
    rcases pending_cases reply with rfl | rfl | ⟨e, rfl⟩ | rfl
    · exact ⟨_, hphase, .inl rfl, Nat.le_refl _⟩
    · simp only
      split
      · exact .cleanUp (by simp [CallPhase.left]) _ n name _
      · exact ⟨_, Roster.get?_set_self .., .inl rfl, Nat.le_refl _⟩
    · exact .conclude c n _
    · exact .breakOff c n
  | adding name config reply =>
    rcases pending_cases reply with rfl | rfl | ⟨e, rfl⟩ | rfl
    · exact ⟨_, hphase, .inl rfl, Nat.le_refl _⟩
    · exact .awaitRestart (by simp [CallPhase.left]) c n name
    · exact .cleanUp (by simp [CallPhase.left]) c n name e
    · exact .breakOff c n
  | awaitingNode name deadline reply =>
    refine .wait rfl (by cases reply <;> simp [CallPhase.left]) ?_
    simp only [awaitNode]
    cases hj : c.judge deadline reply with
    | still => exact .inl ⟨rfl, rfl⟩
    | reported report => exact .inr (.restarted (Nat.le_refl 2) c n name report)
    | failed e => exact .inr (.cleanUp (Nat.le_refl 2) c n name e)
    | crashed => exact .inr (.breakOff c n)
  | awaitingAll name deadline reply =>
    refine .wait rfl (by cases reply <;> simp [CallPhase.left]) ?_
    simp only [awaitAll]
    cases hj : c.judge deadline reply with
    | still => exact .inl ⟨rfl, rfl⟩
    | reported reports =>
      simp only
      split
      · next report _ => exact .inr (.restarted (Nat.le_refl 2) c n name report)
      · exact .inr (.cleanUp (Nat.le_refl 2) c n name _)
    | failed e => exact .inr (.cleanUp (Nat.le_refl 2) c n name e)
    | crashed => exact .inr (.breakOff c n)
  | cleaning name cause reply =>
    rcases pending_cases reply with rfl | rfl | ⟨e, rfl⟩ | rfl
    · exact ⟨_, hphase, .inl rfl, Nat.le_refl _⟩
    · exact .conclude _ n _
    · exact .conclude _ n _
    · exact .breakOff c n
  | _ => simp [CallPhase.charge?] at hcharge

/-- An answer that is taken brings a call on. -/
theorem left_take {errand : Errand} {reply : Reply} (h : phase.errand? = some errand)
    (ha : reply.answers errand = true) : (phase.take reply).left + 1 ≤ phase.left := by
  unfold CallPhase.errand? at h
  split at h
  all_goals first | obtain rfl := Option.some.inj h | simp at h
  all_goals
    cases reply <;>
      simp [Reply.answers, CallPhase.take, Reply.toDone, Reply.toNode, Reply.toNodes,
        CallPhase.left] at ha ⊢

theorem Proceeds.mono {bound bound' : Nat} (h : Proceeds n bound c) (hle : bound ≤ bound') :
    Proceeds n bound' c := by
  obtain ⟨phase, hphase, begun, left⟩ := h
  exact ⟨phase, hphase, begun, by omega⟩

/-- What brings a call on in an event other than its own turn is the answer to its errand. -/
theorem answered_of_getsOn (hphase : c.callers.get? n = some phase)
    (h : c.getsOn n e = true) (hpoll : e ≠ .poll (.caller n)) :
    ∃ errand reply, phase.errand? = some errand ∧ reply.answers errand = true ∧
      c.step e = c.answeredCall n phase errand reply := by
  unfold getsOn at h
  split at h
  · next k =>
    obtain ⟨hk, -⟩ := Bool.and_eq_true_iff.mp h
    exact absurd (by rw [of_decide_eq_true hk]) hpoll
  · next k reply =>
    obtain ⟨hk, hany⟩ := Bool.and_eq_true_iff.mp h
    obtain rfl := of_decide_eq_true hk
    have own : c.errand? (.caller k) = phase.errand? := by simp [errand?_caller, hphase]
    rw [own] at hany
    cases herrand : phase.errand? with
    | none => simp [herrand] at hany
    | some errand =>
      have ha : reply.answers errand = true := by simpa [herrand] using hany
      exact ⟨errand, reply, rfl, ha, answer_of_errand hphase herrand ha⟩
  · simp at h

theorem Proceeds.answered {errand : Errand} {reply : Reply} (herrand : phase.errand? = some errand)
    (ha : reply.answers errand = true) :
    Proceeds n (phase.left - 1) (c.answeredCall n phase errand reply) := by
  have fewer := left_take herrand ha
  refine ⟨_, Roster.get?_set_self .., .inl ?_, by omega⟩
  rw [CallPhase.charge?_take]
  exact CallPhase.charge?_isSome_of_errand? herrand

/-- A call that is changing a node, and gets on in an event, has one time less before it. -/
theorem proceeds_step {bound : Nat} (order : Orderly c) (h : Proceeds n bound c)
    (he : e ≠ .leave n) : Proceeds n (bound - (c.getsOn n e).toNat) (c.step e) := by
  obtain ⟨phase, hphase, begun, left⟩ := h
  rcases begun with hcharge | hover
  · by_cases hpoll : e = .poll (.caller n)
    · subst hpoll
      have same : c.getsOn n (.poll (.caller n)) = c.callerReady n := by simp [getsOn]
      rw [same]
      exact (proceeds_poll hphase hcharge).mono (by omega)
    · cases hgets : c.getsOn n e with
      | true =>
        obtain ⟨errand, reply, herrand, ha, heq⟩ := answered_of_getsOn hphase hgets hpoll
        rw [heq]
        exact (Proceeds.answered herrand ha).mono (Nat.sub_le_sub_right left 1)
      | false =>
        rcases undisturbed_or_answered order hphase hcharge he hpoll with
          calm | ⟨errand, reply, -, herrand, ha, heq⟩
        · exact ⟨phase, calm.phase.trans hphase, .inl hcharge, left⟩
        · have fewer : phase.left - 1 ≤ bound := (Nat.sub_le _ _).trans left
          rw [heq]
          exact (Proceeds.answered herrand ha).mono fewer
  · -- A call that is over stays so, and has nothing before it.
    have done : phase.left = 0 := by
      cases phase <;> first | rfl | simp [CallPhase.isOver] at hover
    have stays := step_preserves (P := fun d => d.callers.get? n = some phase)
      (fun move h => over_move move he h hover) c hphase
    exact ⟨phase, stays, .inr hover, by omega⟩

theorem proceeds_run {bound : Nat} (order : Orderly c) (h : Proceeds n bound c)
    {events : List Event} (stays : .leave n ∉ events) :
    Proceeds n (bound - c.turns n events) (c.run events) := by
  induction events generalizing c bound with
  | nil => exact h
  | cons e rest ih =>
    have first : e ≠ .leave n := fun heq => stays (heq ▸ List.mem_cons_self)
    have later : .leave n ∉ rest := fun hmem => stays (List.mem_cons_of_mem e hmem)
    have ordered : Orderly (c.step e) := orderly_run order [e]
    refine (ih ordered (proceeds_step order h first) later).mono ?_
    simp only [turns]
    omega

/-- A call that is changing a node is over once it has got on as often as it can. -/
theorem turns_lt (order : Orderly c) {before : CallPhase}
    (hbefore : c.callers.get? n = some before) (hcharge : before.charge?.isSome = true)
    {events : List Event} (stays : .leave n ∉ events)
    (hphase : (c.run events).callers.get? n = some phase) (under : phase.isOver = false) :
    c.turns n events < before.left := by
  have start : Proceeds n before.left c := ⟨before, hbefore, .inl hcharge, Nat.le_refl _⟩
  obtain ⟨after, hafter, begun, left⟩ := proceeds_run order start stays
  obtain rfl := Option.some.inj (hafter.symm.trans hphase)
  have pending : after.charge?.isSome = true := begun.resolve_right (by simp [under])
  have more : 1 ≤ after.left := by
    cases after with
    | removing _ reply => cases reply <;> simp [CallPhase.left]
    | replacing _ _ reply => cases reply <;> simp [CallPhase.left]
    | adding _ _ reply => cases reply <;> simp [CallPhase.left]
    | awaitingNode _ _ reply => cases reply <;> simp [CallPhase.left]
    | awaitingAll _ _ reply => cases reply <;> simp [CallPhase.left]
    | cleaning _ _ reply => cases reply <;> simp [CallPhase.left]
    | _ => simp [CallPhase.charge?] at pending
  omega

end Cluster
end ClusterControl
