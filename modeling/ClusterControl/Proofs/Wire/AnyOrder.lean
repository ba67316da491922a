import ClusterControl.Proofs.Json.Reordering
import ClusterControl.Proofs.Wire.Frames

/-!
# Frames read back in any order

A frame may have been written by somebody who puts the members of an object in another order.
This module goes through the records of the wire format once more and proves that each is read alike
in whatever order its members stand, at any depth.

* `request_readsAnyhow` — requests.  Parameters that come before their method are set aside until
  the method is known.
* `response_readsAnyhow` — responses.  The type may come first, last or between the members of the
  content.
* `parse_reordered` — both as texts.
-/

namespace ClusterControl

variable {k : Nat} {j : Json}

/-! ## What requests are made of -/

theorem startRequest_readsAnyhow (r : StartRequest) :
    ReadsAnyhow StartRequest.read 1 r.toJson r := by
  refine readsAnyhow_record ?apart ?distinct ?blind (reads_startRequest r)
  case apart =>
    simp only [List.pairwise_cons, List.forall_mem_cons, List.not_mem_nil, false_imp_iff,
      implies_true, List.Pairwise.nil, and_true]
    and_intros <;> exact FieldReader.apart_of_put (fun _ _ => rfl) (fun _ _ => rfl)
      (fun _ _ => rfl) (fun _ _ => rfl) (fun _ _ _ => rfl)
  case distinct =>
    obtain ⟨execPath, subnets, logLevel⟩ := r
    cases subnets <;> cases logLevel <;> simp [optionalMember]
  case blind =>
    obtain ⟨execPath, subnets, logLevel⟩ := r
    cases subnets <;> cases logLevel <;> simp [optionalMember, Json.Rigid.blind]

theorem interval_readsAnyhow (ms : UInt64) :
    ReadsAnyhow readInterval 1 (.obj [("push_interval_ms", .num ms.toNat)]) ms :=
  readsAnyhow_record (List.pairwise_singleton _ _) (List.nodup_singleton _)
    (List.forall_mem_singleton.mpr (Json.Rigid.blind (Json.rigid_num _) _ _)) (reads_interval ms)

theorem nodeName_readsAnyhow (name : String) :
    ReadsAnyhow readNodeName 1 (.obj [("name", .str name)]) name :=
  readsAnyhow_record (List.pairwise_singleton _ _) (List.nodup_singleton _)
    (List.forall_mem_singleton.mpr (Json.Rigid.blind (Json.rigid_str _) _ _)) (reads_nodeName name)

theorem restart_readsAnyhow (name : String) (r : StartRequest) :
    ReadsAnyhow readRestart 2 (.obj [("name", .str name), ("start", r.toJson)]) (name, r) := by
  refine readsAnyhow_record ?apart (by simp) ?blind (reads_restart name r)
  case apart =>
    simp only [List.pairwise_cons, List.forall_mem_cons, List.not_mem_nil, false_imp_iff,
      implies_true, List.Pairwise.nil, and_true]
    exact FieldReader.apart_of_put (fun _ _ => rfl) (fun _ _ => rfl) (fun _ _ => rfl)
      (fun _ _ => rfl) (fun _ _ _ => rfl)
  case blind =>
    refine List.forall_mem_cons.mpr ⟨Json.Rigid.blind (Json.rigid_str _) _ _,
      List.forall_mem_singleton.mpr ?_⟩
    exact blind_of_readsAnyhow rfl (fun _ _ => rfl) (startRequest_readsAnyhow r)

/-- The parameters of a request read back in any order. -/
theorem params_readsAnyhow {r : Request} {params : Json} (h : r.paramsJson? = some params) :
    ReadsAnyhow (Request.readParams r.method) 2 params r := by
  cases r with
  | start r =>
    obtain rfl := Option.some.inj h
    exact ((startRequest_readsAnyhow r).mono (by decide)).bind rfl
  | streamStatus ms =>
    obtain rfl := Option.some.inj h
    exact ((interval_readsAnyhow ms).mono (by decide)).bind rfl
  | removeNode name =>
    obtain rfl := Option.some.inj h
    exact ((nodeName_readsAnyhow name).mono (by decide)).bind rfl
  | restartNode name r =>
    obtain rfl := Option.some.inj h
    exact (restart_readsAnyhow name r).bind rfl
  | _ => simp [Request.paramsJson?] at h

/-! ## Requests -/

theorem readMember_aside (s : Source) : Request.readMember .nothing "params" s = (do
    .ok (.given (← s.toJson))) :=
  rfl

theorem readMember_late (params : Json) (s : Source) :
    Request.readMember (.given params) "method" s = (do
      .ok (.complete (← Request.readParams (← s.variant Method.known) (.value params)))) :=
  rfl

/-- A member whose value is rigid is the only one like it. -/
theorem alike_of_rigid {m n : String × Json} (alike : Json.Alike m n) (rigid : m.2.Rigid) : n = m :=
  Prod.ext alike.1.symm (rigid alike.2)

/-- A request reads back in any order. -/
theorem request_readsAnyhow (r : Request) : ReadsAnyhow Request.read 3 r.toJson r := by
  intro other reordered form room
  unfold Request.toJson at reordered
  obtain ⟨ns, os, rfl, members, order⟩ := Json.reordered_obj reordered
  rw [request_source room]
  cases h : r.paramsJson? with
  | none =>
    rw [h] at members
    obtain ⟨method, _, named, ⟨⟩, rfl⟩ := List.forall₂_cons_left_iff.mp members
    obtain rfl := alike_of_rigid named (Json.rigid_str _)
    obtain rfl := List.perm_singleton.mp order.symm
    simp [readMember_method, readVariant_method, Request.Progress.finish, withoutParams_method h]
  | some params =>
    rw [h] at members
    obtain ⟨method, _, named, rest, rfl⟩ := List.forall₂_cons_left_iff.mp members
    obtain ⟨⟨key, given⟩, _, ⟨rfl, moved⟩, ⟨⟩, rfl⟩ := List.forall₂_cons_left_iff.mp rest
    obtain rfl := alike_of_rigid named (Json.rigid_str _)
    rcases List.pair_perm.mp order with rfl | rfl
    · simp [readMember_method, readMember_params, readVariant_method, Request.Progress.finish,
        params_readsAnyhow h moved form.inner room.inner]
    · -- the parameters are set aside, so that they are read as a value
      have aside := reads_toJson ((reads_params h).1.reordered moved) form.inner room.inner
      have later := params_readsAnyhow h moved .value trivial
      simp only [Form.source] at later
      simp [readMember_aside, aside, readMember_late, readVariant_method, later,
        Request.Progress.finish]

/-! ## What responses are made of -/

theorem status_readsAnyhow (s : Status) : ReadsAnyhow Status.read 1 s.toJson s := by
  refine readsAnyhow_record ?apart (by simp) ?blind (reads_status s)
  case apart =>
    simp only [List.pairwise_cons, List.forall_mem_cons, List.not_mem_nil, false_imp_iff,
      implies_true, List.Pairwise.nil, and_true]
    exact FieldReader.apart_of_put (fun _ _ => rfl) (fun _ _ => rfl) (fun _ _ => rfl)
      (fun _ _ => rfl) (fun _ _ _ => rfl)
  case blind => simp [Json.Rigid.blind]

theorem rigid_bytes (bytes : List UInt8) :
    (Json.arr (bytes.map fun b => .num b.toNat)).Rigid :=
  Json.rigid_arr fun x hx => by
    obtain ⟨b, -, rfl⟩ := List.mem_map.mp hx
    exact Json.rigid_num _

theorem rigid_texts (texts : List String) : (Json.arr (texts.map .str)).Rigid :=
  Json.rigid_arr fun x hx => by
    obtain ⟨s, -, rfl⟩ := List.mem_map.mp hx
    exact Json.rigid_str s

theorem node_readsAnyhow (n : NodeInfo) : ReadsAnyhow NodeInfo.read 2 n.toJson n := by
  refine readsAnyhow_record ?apart (by simp) ?blind (reads_node n)
  case apart =>
    simp only [List.pairwise_cons, List.forall_mem_cons, List.not_mem_nil, false_imp_iff,
      implies_true, List.Pairwise.nil, and_true]
    and_intros <;> exact FieldReader.apart_of_put (fun _ _ => rfl) (fun _ _ => rfl)
      (fun _ _ => rfl) (fun _ _ => rfl) (fun _ _ _ => rfl)
  case blind => simp [Json.Rigid.blind, rigid_bytes]

/-- The table of the nodes is the same in whatever order they come. -/
theorem nodes_readsAnyhow {nodes : Table NodeInfo} (h : nodes.Sorted) :
    ReadsAnyhow (fun s => do .ok (Table.ofList (← s.table NodeInfo.read))) 3
      (.obj (nodes.entries.map fun e => (e.1, e.2.toJson))) nodes := by
  intro other reordered form room
  obtain ⟨found, hfound, order⟩ :=
    table_reordered (fun e _ => node_readsAnyhow e.2) reordered room
  simp only [hfound, ok_bind]
  exact congrArg _ (Table.ofList_of_perm h order)

theorem cluster_readsAnyhow {info : ClusterInfo} (h : info.nodes.Sorted) :
    ReadsAnyhow ClusterInfo.read 4 info.toJson info := by
  refine readsAnyhow_record ?apart (by simp) ?blind (reads_cluster h)
  case apart =>
    simp only [List.pairwise_cons, List.forall_mem_cons, List.not_mem_nil, false_imp_iff,
      implies_true, List.Pairwise.nil, and_true]
    and_intros <;> exact FieldReader.apart_of_put (fun _ _ => rfl) (fun _ _ => rfl)
      (fun _ _ => rfl) (fun _ _ => rfl) (fun _ _ _ => rfl)
  case blind =>
    have put (r : ClusterFields) (s : Source) : (do
        .ok { r with nodes := some (.ofList (← s.table NodeInfo.read)) } : Reading ClusterFields) =
          ((do .ok (Table.ofList (← s.table NodeInfo.read)) : Reading (Table NodeInfo)) >>=
            fun nodes => .ok { r with nodes := some nodes }) := by
      simp
    refine List.forall_mem_cons.mpr ⟨(rigid_texts _).blind _ _, List.forall_mem_cons.mpr ⟨?_, ?_⟩⟩
    · exact blind_of_readsAnyhow rfl put (nodes_readsAnyhow h)
    · simp [Json.Rigid.blind]

theorem field_readsAnyhow {α : Type} {read : Source → Reading α} {v : α}
    (h : ReadsAnyhow read k j v) (what field : String) :
    ReadsAnyhow (Response.readField what field read) (k + 1) (.obj [(field, j)]) v := by
  refine readsAnyhow_record (List.pairwise_singleton _ _) (List.nodup_singleton _)
    (List.forall_mem_singleton.mpr ?_) (reads_field (h (.same j)) what field)
  exact blind_of_readsAnyhow (List.find?_cons_of_pos (decide_eq_true rfl)) (fun _ _ => rfl) h

/-! ## Responses -/

/-- The content of an answer reads back once its kind is known. -/
theorem content_readsAnyhow {r : Response} (h : r.InOrder) :
    ReadsAnyhow (fun s => Response.readContent s r.kind) 5 (.obj r.members) r := by
  cases r with
  | ping pid =>
    have pid := (Json.rigid_num _).readsAnyhow (reads_pid (k := 4) pid)
    exact (field_readsAnyhow pid "Ping" "pid").bind rfl
  | cluster info =>
    exact (field_readsAnyhow (cluster_readsAnyhow h) "Cluster" "cluster_info").bind rfl
  | uris list =>
    have uris := (rigid_texts list).readsAnyhow (reads_texts list)
    exact ((field_readsAnyhow uris "Uris" "uris").mono (by decide)).bind rfl
  | error status => exact ((status_readsAnyhow status).mono (by decide)).bind rfl

/-- A response reads back in any order: what stands before its type is set aside, and so is what
stands behind it. -/
theorem response_readsAnyhow {r : Response} (h : r.InOrder) :
    ReadsAnyhow Response.read 5 r.toJson r := by
  intro other reordered form room
  unfold Response.toJson at reordered
  obtain ⟨ns, os, rfl, members, order⟩ := Json.reordered_obj reordered
  obtain ⟨type, content, named, alike, rfl⟩ := List.forall₂_cons_left_iff.mp members
  obtain rfl := alike_of_rigid named (Json.rigid_str _)
  obtain ⟨before, after, rfl⟩ := List.append_of_mem (order.mem_iff.mp List.mem_cons_self)
  have order : content.Perm (before ++ after) := (order.trans List.perm_middle).cons_inv
  have plain : ∀ m ∈ before ++ after, m.1 ≠ "type" ∧ m.2.Plain 4 := by
    intro n hn
    obtain ⟨m, hm, key, value⟩ := exists_mem_of_forall₂ alike (order.mem_iff.mpr hn)
    obtain ⟨hkey, plain⟩ := plain_members r m hm
    exact ⟨key ▸ hkey, plain.reordered value⟩
  rw [List.forall_mem_append] at plain
  have type : Response.readMember (none, [] ++ before) "type"
      (form.inner.source (.str r.kind.word)) = .ok (some r.kind, [] ++ before) := by
    simp [Response.readMember, readVariant_kind]
  rw [response_source room, List.foldlM_append, foldlM_setAside room.inner plain.1, ok_bind,
    List.foldlM_cons, type, ok_bind, foldlM_setAside room.inner plain.2]
  have content := content_readsAnyhow h (Json.reordered_of_alike alike order) .value trivial
  simp only [Form.source] at content
  simp [required, content]

/-! ## Texts -/

theorem parse_request_reordered {r : Request} (h : r.toJson.Reordered j) :
    Request.parse j.compact = .ok r :=
  readText_compact ((plain_request r).reordered h) (request_readsAnyhow r h) (by decide)

theorem parse_response_reordered {s : Response} (hs : s.InOrder) (h : s.toJson.Reordered j) :
    Response.parse j.compact = .ok s :=
  readText_compact ((plain_response s).reordered h) (response_readsAnyhow hs h) (by decide)

/-- **Frames read back in any order.**  A request and a response are read from what they are written
as, and from the same with the members of any of its objects in another order.  So no two requests
and no two responses share a text: fields that are left out, empty or anything else stay apart. -/
theorem parse_reordered {r : Request} {s : Response} (hs : s.InOrder) {asked answered : Json}
    (hr : r.toJson.Reordered asked) (hsr : s.toJson.Reordered answered) :
    (Request.parse r.frame = .ok r ∧ Request.parse asked.compact = .ok r) ∧
      (Response.parse s.frame = .ok s ∧ Response.parse answered.compact = .ok s) ∧
      (∀ (r' : Request) (j : Json), r'.toJson.Reordered j → j.compact = asked.compact → r' = r) ∧
      (∀ (s' : Response) (j : Json), s'.InOrder → s'.toJson.Reordered j →
        j.compact = answered.compact → s' = s) := by
  have request := parse_request_reordered hr
  have response := parse_response_reordered hs hsr
  refine ⟨⟨parse_frame_request r, request⟩, ⟨parse_frame_response hs, response⟩, ?_, ?_⟩
  · intro r' j hj heq
    have other := parse_request_reordered hj
    rw [heq, request] at other
    exact (Except.ok.inj other).symm
  · intro s' j hs' hj heq
    have other := parse_response_reordered hs' hj
    rw [heq, response] at other
    exact (Except.ok.inj other).symm

/-- A start with its parameters before its method, and a report with its type at the end and its
nodes in the wrong order. -/
theorem parse_reordered_start_and_report :
    Request.parse (Json.obj [
      ("params", .obj [("whitelisted_subnets", .str ""), ("exec_path", .str "/opt/n\"\u00e9")]),
      ("method", .str "start")]).compact = .ok (.start ⟨"/opt/n\"\u00e9", some "", none⟩) ∧
    Response.parse (Json.obj [
      ("cluster_info", .obj [
        ("node_names", .arr []),
        ("node_infos", .obj [
          ("b", (default : NodeInfo).toJson), ("a", (default : NodeInfo).toJson)]),
        ("pid", .num 7), ("root_data_dir", .str "/tmp"), ("healthy", .bool true)]),
      ("type", .str "cluster")]).compact =
        .ok (.cluster ⟨[], ⟨[("a", default), ("b", default)]⟩, 7, "/tmp", true⟩) := by
  have sorted : (Response.cluster
      ⟨[], ⟨[("a", default), ("b", default)]⟩, 7, "/tmp", true⟩).InOrder :=
    List.pairwise_pair.mpr (by decide)
  have same (ms : List (String × Json)) : List.Forall₂ Json.Alike ms ms :=
    List.forall₂_same.mpr fun m _ => ⟨rfl, .same m.2⟩
  have member (key : String) {x y : Json} (h : x.Reordered y) : Json.Alike (key, x) (key, y) :=
    ⟨rfl, h⟩
  have swapped (m n : String × Json) : (Json.obj [m, n]).Reordered (.obj [n, m]) :=
    Json.reordered_of_alike (same _) (.swap n m [])
  have start : (Request.start ⟨"/opt/n\"\u00e9", some "", none⟩).toJson.Reordered _ :=
    Json.reordered_of_alike (.cons (member "method" (.same _))
      (.cons (member "params" (swapped _ _)) .nil)) (.swap _ _ [])
  have report : (Response.cluster
      ⟨[], ⟨[("a", default), ("b", default)]⟩, 7, "/tmp", true⟩).toJson.Reordered _ :=
    Json.reordered_of_alike (.cons (member "type" (.same _)) (.cons (member "cluster_info"
      (Json.reordered_of_alike (.cons (member "node_names" (.same _)) (.cons
        (member "node_infos" (swapped _ _)) (same _))) (.refl _))) .nil)) (.swap _ _ [])
  have both := parse_reordered sorted start report
  exact ⟨both.1.2, both.2.1.2⟩

end ClusterControl
