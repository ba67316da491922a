import ClusterControl.Nodes.Probe
import ClusterControl.Proofs.Json.Readable

/-!
# What nodes answer

A node is healthy if the body of its answer says so, whatever the status, and has the identifier
that the body of an answer without a failing status gives, if that is not empty.

* `Probe.Healthy`, `Probe.Identifies` — these answers.
* `Probe.isHealthy_iff`, `Probe.nodeId_eq_ok_iff` — a probe finds exactly these.
* `Probe.healthy_ofJson`, `Probe.identifies_ofJson` — the answers of nodes in due form are
  among them.
-/

namespace ClusterControl

/-- An answer with a value in compact form as its body. -/
def HttpReply.ofJson (status : Nat) (j : Json) : HttpReply :=
  .answer status (Utf8.encode j.compact)

namespace Probe

variable {uri id : String} {reply : HttpReply}

/-- An answer which says that the node is healthy, under whatever status. -/
def Healthy (reply : HttpReply) : Prop :=
  ∃ status body, reply = .answer status body ∧ readBody readHealth body = some true

/-- An answer which gives an identifier. -/
def Identifies (reply : HttpReply) (id : String) : Prop :=
  ∃ status body info, reply = .answer status body ∧ isFailing status = false ∧
    readBody readInfo body = some info ∧ info.result = some (some id) ∧ id ≠ ""

theorem isHealthy_iff : isHealthy reply = true ↔ Healthy reply := by
  cases reply with
  | nothing => simp [isHealthy, Healthy]
  | answer status body => cases h : readBody readHealth body <;> simp [isHealthy, Healthy, h]

theorem nodeId_eq_ok_iff : nodeId uri reply = .ok id ↔ Identifies reply id := by
  cases reply with
  | nothing => simp [nodeId, Identifies]
  | answer status body =>
    cases hstatus : isFailing status with
    | true => simp [nodeId, Identifies, hstatus]
    | false =>
      cases hinfo : readBody readInfo body with
      | none => simp [nodeId, Identifies, hstatus, hinfo]
      | some info =>
        have identifies : Identifies (.answer status body) id ↔
            info.result = some (some id) ∧ id ≠ "" := by
          simp [Identifies, hstatus, hinfo]
        have nodeId_eq : nodeId uri (.answer status body) = .ok id ↔
            info.result.join.getD "" = id ∧ id ≠ "" := by
          simp only [nodeId, hstatus, hinfo]
          by_cases given : info.result.join.getD "" = ""
          · cases info.error.join <;> simp [given, eq_comm]
          · simp only [given, ne_eq, not_false_eq_true, if_true, Bool.false_eq_true, if_false,
              Except.ok.injEq]
            exact ⟨fun h => ⟨h, h ▸ given⟩, And.left⟩
        rw [nodeId_eq, identifies]
        refine and_congr_left fun hid => ?_
        rcases info.result with _ | _ | given <;> simp [Ne.symm hid]

/-! ## Answers in due form -/

theorem readBody_compact {α : Type} {read : Source → Reading α} {k : Nat} {j : Json} {v : α}
    (plain : j.Plain k) (h : Reads read k j v) (hk : k ≤ maxDepth) :
    readBody read (Utf8.encode j.compact) = some v := by
  rw [readBody, readBytes_encode, readText_compact plain h hk]
  rfl

theorem reads_health (healthy : Bool) :
    Reads readHealth 1 (.obj [("healthy", .bool healthy)]) healthy := by
  intro form room
  unfold readHealth
  rw [record_source room]
  simp [readMember, required]

/-- A node that answers that it is healthy is found healthy. -/
theorem healthy_ofJson (status : Nat) :
    Healthy (.ofJson status (.obj [("healthy", .bool true)])) :=
  ⟨status, _, rfl, readBody_compact (by simp) (reads_health true) (by decide)⟩

/-- The answer to the question for the identifier. -/
def answered (id : String) : Json :=
  .obj [("id", .num 1), ("jsonrpc", .str "2.0"), ("result", .obj [("nodeID", .str id)])]

theorem plain_answered (id : String) : (answered id).Plain 2 := by
  have one : Json.Plain 1 (.num 1) := Json.Plain.nat (n := 1) (by decide)
  unfold answered
  simp [Json.Plain.obj_iff, one]

theorem reads_id (id : String) : Reads readId 1 (.obj [("nodeID", .str id)]) id := by
  intro form room
  unfold readId
  rw [record_source room]
  simp [readMember, required]

theorem reads_info (id : String) :
    Reads readInfo 2 (answered id) { result := some (some id) } := by
  intro form room
  have inner := reads_id id form.inner room.inner
  unfold readInfo answered
  rw [record_source room]
  -- in a document the members that nobody asks for are skipped
  cases form <;>
    simp_all [readMember, Form.source, Form.inner, Source.option, Source.seen, Json.toDoc, Doc.skip,
      Json.seen, Except.map]

/-- A node that answers with an identifier has it. -/
theorem identifies_ofJson {status : Nat} (hstatus : isFailing status = false) {id : String}
    (hid : id ≠ "") : Identifies (.ofJson status (answered id)) id :=
  ⟨status, _, _, rfl, hstatus, readBody_compact (plain_answered id) (reads_info id) (by decide),
    rfl, hid⟩

end Probe
end ClusterControl
