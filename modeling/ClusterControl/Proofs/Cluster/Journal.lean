import ClusterControl.Proofs.Cluster.Coherence

/-!
# What the journal tells

The journal of a cluster lists what its launcher was asked and how it answered, newest first.  This
module reads off it how often the nodes were launched, changed and shut down, and with what
success.

* `Journal.launches`, `Journal.launched`, `Journal.launchReply?`, `Journal.healthReply?` — what the
  journal tells of the launch.
* `Journal.shutdowns`, `Journal.shutdownsOver`, `Journal.shutdownFailures` — what it tells of the
  shutdowns.
* `Journal.nodeChanges`, `Journal.addsBy` — what it tells of changes of nodes.
* `Journal.minor_entry` — what a call asks for changes none of this.
-/

namespace ClusterControl

/-- Neither a launch nor a shutdown. -/
def Errand.isMinor : Errand → Bool
  | launch _ => false
  | shutdown => false
  | _ => true

def Errand.changesNode : Errand → Bool
  | remove _ => true
  | add _ => true
  | _ => false

/-- What a call asks for is neither a launch nor a shutdown. -/
theorem CallPhase.isMinor_of_errand? {phase : CallPhase} {errand : Errand}
    (h : phase.errand? = some errand) : errand.isMinor = true := by
  unfold errand? at h
  split at h <;> first | (obtain rfl := Option.some.inj h; rfl) | simp at h

namespace Reply

/-- Only that an errand is done is understood as such. -/
theorem eq_done_of_toDone {reply : Reply} (h : reply.toDone = some (.ok ())) :
    reply = .done := by
  cases reply with
  | done => rfl
  | _ => simp [toDone] at h

theorem eq_nodes_of_toNodes {reply : Reply} {reports : Table NodeReport}
    (h : reply.toNodes = some (.ok reports)) : reply = .nodes reports := by
  cases reply with
  | nodes reports' => simpa [toNodes] using h
  | _ => simp [toNodes] at h

theorem eq_mishap_of_toDone {reply : Reply} {why : Mishap}
    (h : reply.toDone = some (.error why)) : reply = .mishap why := by
  cases reply with
  | mishap why' => simpa [toDone] using h
  | _ => simp [toDone] at h

theorem eq_mishap_of_toNodes {reply : Reply} {why : Mishap}
    (h : reply.toNodes = some (.error why)) : reply = .mishap why := by
  cases reply with
  | mishap why' => simpa [toNodes] using h
  | _ => simp [toNodes] at h

theorem eq_mishap_of_toNode {reply : Reply} {why : Mishap}
    (h : reply.toNode = some (.error why)) : reply = .mishap why := by
  cases reply with
  | mishap why' => simpa [toNode] using h
  | _ => simp [toNode] at h

/-- A change of the nodes that is answered is done, or was refused, or the launcher broke down. -/
theorem answers_changesNode {reply : Reply} {errand : Errand} (ha : reply.answers errand = true)
    (herrand : errand.changesNode = true) :
    reply = .done ∨ (∃ e, reply = .mishap (.failed e)) ∨ reply = .mishap .crashed := by
  cases reply with
  | done => exact .inl rfl
  | mishap why =>
    cases why with
    | failed e => exact .inr (.inl ⟨e, rfl⟩)
    | crashed => exact .inr (.inr rfl)
  | _ => cases errand <;> simp_all [answers, Errand.changesNode]

end Reply

namespace JournalEntry

def errand : JournalEntry → Errand
  | asked _ errand => errand
  | answered _ errand _ => errand

def asksLaunch : JournalEntry → Bool
  | asked _ (.launch _) => true
  | _ => false

def asksShutdown : JournalEntry → Bool
  | asked _ .shutdown => true
  | _ => false

/-- The launcher is done with shutting the nodes down, well or badly. -/
def endsShutdown : JournalEntry → Bool
  | answered _ .shutdown _ => true
  | _ => false

def asksChange : JournalEntry → Bool
  | asked _ errand => errand.changesNode
  | _ => false

def asksAdd (n : Nat) : JournalEntry → Bool
  | asked (.caller m) (.add _) => m = n
  | _ => false

def isLaunched : JournalEntry → Bool
  | answered _ (.launch _) .done => true
  | _ => false

/-- The launcher could not shut the nodes down, for this reason. -/
def shutdownFailure? : JournalEntry → Option Failure
  | answered _ .shutdown (.mishap (.failed e)) => some e
  | _ => none

/-- How the launcher answered the launch of all nodes. -/
def launchReply? : JournalEntry → Option Reply
  | answered .starter (.launch _) reply => some reply
  | _ => none

/-- How the launcher answered the question for the health of all nodes, if the launch asked it. -/
def healthReply? : JournalEntry → Option Reply
  | answered .starter .waitHealthy reply => some reply
  | _ => none

end JournalEntry

namespace Journal

def launches (j : Journal) : Nat := j.countP JournalEntry.asksLaunch

def shutdowns (j : Journal) : Nat := j.countP JournalEntry.asksShutdown

/-- How often the launcher has come to an end with shutting the nodes down. -/
def shutdownsOver (j : Journal) : Nat := j.countP JournalEntry.endsShutdown

def launched (j : Journal) : Bool := j.any JournalEntry.isLaunched

/-- Why the launcher could not shut the nodes down, in the order in which it failed. -/
def shutdownFailures (j : Journal) : List Failure :=
  (j.filterMap JournalEntry.shutdownFailure?).reverse

def nodeChanges (j : Journal) : Nat := j.countP JournalEntry.asksChange

def addsBy (n : Nat) (j : Journal) : Nat := j.countP (JournalEntry.asksAdd n)

/-- How the launcher answered the launch of all nodes, if it has. -/
def launchReply? (j : Journal) : Option Reply := j.findSome? JournalEntry.launchReply?

/-- What the launcher reported on the health of all nodes to the launch, if it has. -/
def healthReply? (j : Journal) : Option Reply := j.findSome? JournalEntry.healthReply?

variable (entry : JournalEntry) (j : Journal)

@[simp, grind =] theorem launches_cons :
    launches (entry :: j) = launches j + entry.asksLaunch.toNat := by
  cases h : entry.asksLaunch <;> simp [launches, h]

@[simp, grind =] theorem shutdowns_cons :
    shutdowns (entry :: j) = shutdowns j + entry.asksShutdown.toNat := by
  cases h : entry.asksShutdown <;> simp [shutdowns, h]

@[simp, grind =] theorem shutdownsOver_cons :
    shutdownsOver (entry :: j) = shutdownsOver j + entry.endsShutdown.toNat := by
  cases h : entry.endsShutdown <;> simp [shutdownsOver, h]

@[simp, grind =] theorem launched_cons :
    launched (entry :: j) = (entry.isLaunched || launched j) := by
  simp [launched]

@[simp, grind =] theorem shutdownFailures_cons :
    shutdownFailures (entry :: j) = shutdownFailures j ++ entry.shutdownFailure?.toList := by
  cases h : entry.shutdownFailure? <;> simp [shutdownFailures, h]

@[simp] theorem nodeChanges_cons :
    nodeChanges (entry :: j) = nodeChanges j + entry.asksChange.toNat := by
  cases h : entry.asksChange <;> simp [nodeChanges, h]

@[simp] theorem addsBy_cons (n : Nat) :
    addsBy n (entry :: j) = addsBy n j + (entry.asksAdd n).toNat := by
  cases h : entry.asksAdd n <;> simp [addsBy, h]

/-- A shutdown that failed is over. -/
theorem length_shutdownFailures_le : (shutdownFailures j).length ≤ shutdownsOver j := by
  induction j with
  | nil => exact Nat.le_refl 0
  | cons entry rest ih =>
    rw [shutdownFailures_cons, shutdownsOver_cons, List.length_append]
    have one : entry.shutdownFailure?.toList.length ≤ entry.endsShutdown.toNat := by
      unfold JournalEntry.shutdownFailure?
      split
      · exact Nat.le_refl 1
      · exact Nat.zero_le _
    omega

/-- An entry about a minor errand tells of no launch and of no shutdown. -/
theorem minor_entry {entry : JournalEntry} (h : entry.errand.isMinor = true) :
    entry.asksLaunch = false ∧ entry.asksShutdown = false ∧ entry.endsShutdown = false ∧
      entry.isLaunched = false ∧ entry.shutdownFailure? = none := by
  cases entry with
  | asked w errand =>
    cases errand <;> first | exact ⟨rfl, rfl, rfl, rfl, rfl⟩ | exact absurd h Bool.false_ne_true
  | answered w errand reply =>
    cases errand <;> first | exact ⟨rfl, rfl, rfl, rfl, rfl⟩ | exact absurd h Bool.false_ne_true

theorem shutdowns_of_minor {entry : JournalEntry} (j : Journal)
    (h : entry.errand.isMinor = true) : shutdowns (entry :: j) = shutdowns j := by
  rw [shutdowns_cons, (minor_entry h).2.1]
  rfl

theorem shutdownFailures_of_minor {entry : JournalEntry} (j : Journal)
    (h : entry.errand.isMinor = true) : shutdownFailures (entry :: j) = shutdownFailures j := by
  rw [shutdownFailures_cons, (minor_entry h).2.2.2.2]
  exact List.append_nil _

end Journal

attribute [grind] JournalEntry.asksLaunch JournalEntry.asksShutdown JournalEntry.endsShutdown
attribute [grind] JournalEntry.isLaunched JournalEntry.shutdownFailure?

end ClusterControl
