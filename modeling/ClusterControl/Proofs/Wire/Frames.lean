import ClusterControl.Proofs.Json.Readable
import ClusterControl.Proofs.Table
import ClusterControl.Wire.Request
import ClusterControl.Wire.Response

/-!
# Frames read back

The text that a client sends for a request is read by the server as that request, and the text that a
server sends for a response is read by the client as that response.

* `reads_request`, `parse_frame_request` — requests, with whatever parameters their methods take.
* `Response.InOrder` — the one condition on a response: the nodes that it reports stand in the order in
  which a table has them.
* `reads_response`, `parse_frame_response` — responses.  The content of one comes after its type or
  before it; what comes before is set aside until the type is known.
-/

namespace ClusterControl

variable {form : Form} {k : Nat}

/-! ## Requests -/

theorem plain_startRequest (r : StartRequest) : r.toJson.Plain 1 := by
  obtain ⟨execPath, subnets, logLevel⟩ := r
  cases subnets <;> cases logLevel <;> simp [StartRequest.toJson, optionalMember]

theorem reads_startRequest (r : StartRequest) : Reads StartRequest.read 1 r.toJson r := by
  intro form room
  obtain ⟨execPath, subnets, logLevel⟩ := r
  unfold StartRequest.read StartRequest.toJson
  rw [record_source room]
  cases subnets <;> cases logLevel <;> simp [optionalMember, readMember, required]

theorem reads_interval (ms : UInt64) :
    Reads readInterval 1 (.obj [("push_interval_ms", .num ms.toNat)]) ms := by
  intro form room
  have bound : ms.toNat ≤ maxInterval := Nat.le_sub_one_of_lt ms.toNat_lt
  unfold readInterval
  rw [record_source room]
  simp [readMember, unsigned_source _ bound, required]

theorem reads_nodeName (name : String) :
    Reads readNodeName 1 (.obj [("name", .str name)]) name := by
  intro form room
  unfold readNodeName
  rw [record_source room]
  simp [readMember, required]

theorem reads_restart (name : String) (r : StartRequest) :
    Reads readRestart 2 (.obj [("name", .str name), ("start", r.toJson)]) (name, r) := by
  intro form room
  unfold readRestart
  rw [record_source room]
  simp [readMember, reads_startRequest r form.inner room.inner, required]

theorem plain_interval (ms : UInt64) : Json.Plain k (.num ms.toNat) :=
  .nat (Nat.le_sub_one_of_lt ms.toNat_lt)

/-- The parameters of a request read back. -/
theorem reads_params {r : Request} {params : Json} (h : r.paramsJson? = some params) :
    params.Plain 2 ∧ Reads (Request.readParams r.method) 2 params r := by
  cases r with
  | start r =>
    obtain rfl := Option.some.inj h
    refine ⟨(plain_startRequest r).mono (by decide), fun form room => ?_⟩
    simp [Request.readParams, Request.method, reads_startRequest r form (room.mono (by decide))]
  | streamStatus ms =>
    obtain rfl := Option.some.inj h
    refine ⟨by simp [plain_interval], fun form room => ?_⟩
    simp [Request.readParams, Request.method, reads_interval ms form (room.mono (by decide))]
  | removeNode name =>
    obtain rfl := Option.some.inj h
    refine ⟨by simp, fun form room => ?_⟩
    simp [Request.readParams, Request.method, reads_nodeName name form (room.mono (by decide))]
  | restartNode name r =>
    obtain rfl := Option.some.inj h
    refine ⟨by simp [plain_startRequest], fun form room => ?_⟩
    simp [Request.readParams, Request.method, reads_restart name r form room]
  | _ => simp [Request.paramsJson?] at h

/-- A request is read member by member. -/
theorem request_source (room : form.HasRoom (k + 1)) (ms : List (String × Json)) :
    Request.read (form.source (.obj ms)) = (do
      let p ← ms.foldlM (fun p m => Request.readMember p m.1 (form.inner.source m.2)) .nothing
      p.finish) := by
  cases form with
  | document depth =>
    simp [Form.source, Form.inner, Json.toDoc, Request.read, checkDepth_of_le room, checkClose,
      Json.membersToDoc_eq_map, List.foldlM_map, readKey]
  | value => rfl

theorem readMember_method (s : Source) : Request.readMember .nothing "method" s = (do
    .ok (.named (← s.variant Method.known))) :=
  rfl

theorem readMember_params (m : Method) (s : Source) :
    Request.readMember (.named m) "params" s = (do
      .ok (.complete (← Request.readParams m s))) :=
  rfl

theorem readVariant_method (m : Method) : readVariant Method.known m.word = .ok m := by
  cases m <;> rfl

/-- A method that takes no parameters is a request. -/
theorem withoutParams_method {r : Request} (h : r.paramsJson? = none) :
    Request.withoutParams r.method = .ok r := by
  cases r <;> first | rfl | simp [Request.paramsJson?] at h

theorem plain_request (r : Request) : r.toJson.Plain 3 := by
  unfold Request.toJson
  cases h : r.paramsJson? with
  | none => simp
  | some params => simp [(reads_params h).1]

/-- A request reads back. -/
theorem reads_request (r : Request) : Reads Request.read 3 r.toJson r := by
  intro form room
  unfold Request.toJson
  rw [request_source room]
  cases h : r.paramsJson? with
  | none =>
    simp [readMember_method, readVariant_method, Request.Progress.finish, withoutParams_method h]
  | some params =>
    simp [readMember_method, readMember_params, readVariant_method, Request.Progress.finish,
      (reads_params h).2 form.inner room.inner]

/-- **Requests read back**: the server reads the request that the client sent. -/
theorem parse_frame_request (r : Request) : Request.parse r.frame = .ok r :=
  readText_compact (plain_request r) (reads_request r) (by decide)

/-! ## Responses -/

theorem readVariant_code (c : Code) :
    readVariant (Code.all.map fun c => (c.word, c)) c.word = .ok c := by
  cases c <;> rfl

theorem reads_status (s : Status) : Reads Status.read 1 s.toJson s := by
  intro form room
  unfold Status.read Status.toJson
  rw [record_source room]
  simp [readMember, readVariant_code, required]

theorem reads_byte (b : UInt8) : Reads readByteValue k (.num b.toNat) b := by
  intro form room
  have bound : b.toNat ≤ 255 := Nat.le_of_lt_succ b.toNat_lt
  simp [readByteValue, unsigned_source _ bound]

theorem reads_pid (pid : UInt32) : Reads readPid k (.num pid.toNat) pid := by
  intro form room
  have bound : pid.toNat ≤ UInt32.size - 1 := Nat.le_sub_one_of_lt pid.toNat_lt
  rw [readPid, unsigned_source _ bound]
  simp

theorem reads_bytes (bytes : List UInt8) :
    Reads (Source.list readByteValue) 1 (.arr (bytes.map fun b => .num b.toNat)) bytes :=
  reads_list fun b _ => reads_byte b

theorem reads_texts (texts : List String) :
    Reads (Source.list Source.text) 1 (.arr (texts.map .str)) texts :=
  reads_list fun s _ => reads_text 0 s

theorem reads_node (n : NodeInfo) : Reads NodeInfo.read 2 n.toJson n := by
  intro form room
  unfold NodeInfo.read NodeInfo.toJson
  rw [record_source room]
  simp [readMember, reads_bytes n.config form.inner room.inner, required]

theorem reads_nodes {nodes : Table NodeInfo} :
    Reads (Source.table NodeInfo.read) 3 (.obj (nodes.entries.map fun e => (e.1, e.2.toJson)))
      nodes.entries :=
  reads_table fun e _ => reads_node e.2

/-- A report whose nodes are in order reads back. -/
theorem reads_cluster {info : ClusterInfo} (h : info.nodes.Sorted) :
    Reads ClusterInfo.read 4 info.toJson info := by
  intro form room
  unfold ClusterInfo.read ClusterInfo.toJson
  rw [record_source room]
  simp [readMember, reads_texts info.names form.inner (room.inner.mono (by decide)),
    reads_nodes form.inner room.inner, reads_pid info.pid form.inner room.inner,
    Table.ofList_entries h, required]

/-- The nodes of a reported cluster are in the order of a table. -/
def Response.InOrder : Response → Prop
  | .cluster info => info.nodes.Sorted
  | _ => True

theorem reads_field {α : Type} {read : Source → Reading α} {j : Json} {v : α}
    (h : Reads read k j v) (what field : String) :
    Reads (Response.readField what field read) (k + 1) (.obj [(field, j)]) v := by
  intro form room
  unfold Response.readField
  rw [record_source room]
  simp [readMember, h form.inner room.inner, required]

/-- The content of an answer reads back once its kind is known. -/
theorem readContent_members {r : Response} (h : r.InOrder) :
    Response.readContent (.value (.obj r.members)) r.kind = .ok r := by
  have aside (k : Nat) : Form.value.HasRoom k := trivial
  cases r with
  | ping pid =>
    have reads := reads_field (reads_pid (k := 0) pid) "Ping" "pid" .value (aside _)
    simp only [Form.source] at reads
    simp [Response.readContent, Response.members, Response.kind, reads]
  | cluster info =>
    have reads := reads_field (reads_cluster h) "Cluster" "cluster_info" .value (aside _)
    simp only [Form.source] at reads
    simp [Response.readContent, Response.members, Response.kind, reads]
  | uris list =>
    have reads := reads_field (reads_texts list) "Uris" "uris" .value (aside _)
    simp only [Form.source] at reads
    simp [Response.readContent, Response.members, Response.kind, reads]
  | error status =>
    have reads := reads_status status .value (aside _)
    simp only [Form.source, Status.toJson] at reads
    simp [Response.readContent, Response.members, Response.kind, reads]

theorem plain_node (n : NodeInfo) : n.toJson.Plain 2 := by
  have byte (b : UInt8) : Json.Plain 0 (.num b.toNat) :=
    .nat (Nat.le_trans (Nat.le_of_lt b.toNat_lt) (by decide))
  simp [NodeInfo.toJson, byte]

theorem plain_pid (pid : UInt32) : Json.Plain k (.num pid.toNat) :=
  .nat (Nat.le_trans (Nat.le_of_lt pid.toNat_lt) (by decide))

theorem plain_cluster (info : ClusterInfo) : info.toJson.Plain 4 := by
  have names : Json.Plain 3 (.arr (info.names.map .str)) := by simp
  have nodes : Json.Plain 3 (.obj (info.nodes.entries.map fun e => (e.1, e.2.toJson))) := by
    refine .obj fun m hm => ?_
    obtain ⟨e, -, rfl⟩ := List.mem_map.mp hm
    exact plain_node e.2
  simp [ClusterInfo.toJson, names, nodes, plain_pid]

theorem plain_members (r : Response) : ∀ m ∈ r.members, m.1 ≠ "type" ∧ m.2.Plain 4 := by
  cases r with
  | ping pid => simp [Response.members, plain_pid]
  | cluster info => simp [Response.members, plain_cluster]
  | uris list => simp [Response.members]
  | error status => simp [Response.members]

theorem plain_response (r : Response) : r.toJson.Plain 5 := by
  refine .obj fun m hm => ?_
  rcases List.mem_cons.mp hm with rfl | hm
  · exact .str _
  · exact (plain_members r m hm).2

/-- An answer is read member by member. -/
theorem response_source (room : form.HasRoom (k + 1)) (ms : List (String × Json)) :
    Response.read (form.source (.obj ms)) = (do
      let p ← ms.foldlM (fun p m => Response.readMember p m.1 (form.inner.source m.2)) (none, [])
      let kind ← required "type" p.1
      Response.readContent (.value (.obj p.2)) kind) := by
  cases form with
  | document depth =>
    simp [Form.source, Form.inner, Json.toDoc, Response.read, checkDepth_of_le room, checkClose,
      Json.membersToDoc_eq_map, List.foldlM_map, readKey]
  | value => rfl

/-- Members that are not the type are set aside. -/
theorem foldlM_setAside (room : form.HasRoom k) {ms : List (String × Json)}
    (h : ∀ m ∈ ms, m.1 ≠ "type" ∧ m.2.Plain k) (kind : Option ResponseKind)
    (rest : List (String × Json)) :
    ms.foldlM (fun p m => Response.readMember p m.1 (form.source m.2)) (kind, rest) =
      .ok (kind, rest ++ ms) := by
  induction ms generalizing rest with
  | nil => simp; rfl
  | cons m ms ih =>
    obtain ⟨hkey, plain⟩ := h m List.mem_cons_self
    have first : Response.readMember (kind, rest) m.1 (form.source m.2) =
        .ok (kind, rest ++ [m]) := by
      simp [Response.readMember, hkey, reads_toJson plain form room]
    rw [List.foldlM_cons, first, ok_bind, ih fun n hn => h n (List.mem_cons_of_mem _ hn)]
    simp

theorem readVariant_kind (k : ResponseKind) : readVariant ResponseKind.known k.word = .ok k := by
  cases k <;> rfl

/-- An answer reads back. -/
theorem reads_response {r : Response} (h : r.InOrder) : Reads Response.read 5 r.toJson r := by
  intro form room
  unfold Response.toJson
  rw [response_source room, List.foldlM_cons]
  have type : Response.readMember (none, []) "type" (form.inner.source (.str r.kind.word)) =
      .ok (some r.kind, []) := by
    simp [Response.readMember, readVariant_kind]
  rw [type, ok_bind, foldlM_setAside room.inner (plain_members r)]
  simp [required, readContent_members h]

/-- **Responses read back**: the client reads the response that the server sent. -/
theorem parse_frame_response {r : Response} (h : r.InOrder) : Response.parse r.frame = .ok r :=
  readText_compact (plain_response r) (reads_response h) (by decide)

end ClusterControl
