import ClusterControl.Proofs.Wire.Transparency
import ClusterControl.Server.Gateway

/-!
# The gateway and the message server

A call can come to the operations of a control server in two ways: as a text over a message
connection, which names its method, or as the body of an HTTP call to the method's route.  This
module compares what the two make of the same parameters.

* `DepthFree` — a reader takes a document for the same however deep it lies; so the parameters are
  read alike inside a request and alone.
* `SameRequest` — a call to the gateway and a text for the message server ask for the same.
* `bridge_answers` — the theorem.
-/

namespace ClusterControl

variable {α ρ : Type} {k : Nat}

/-! ## Readers and depth -/

/-- A reader takes a document for the same at any depth with room for so many levels. -/
def DepthFree (read : Source → Reading α) (k : Nat) : Prop :=
  ∀ d a b, a + k ≤ maxDepth → b + k ≤ maxDepth → read (.document d a) = read (.document d b)

theorem DepthFree.mono {read : Source → Reading α} {l : Nat} (h : DepthFree read k) (hkl : k ≤ l) :
    DepthFree read l :=
  fun d a b ha hb => h d a b (by omega) (by omega)

theorem seen_depth (d : Doc) (a b : Nat) :
    (Source.document d a).seen = (Source.document d b).seen := by
  cases d with
  | number value => cases value <;> rfl
  | text value => cases value <;> rfl
  | _ => rfl

theorem depthFree_text : DepthFree Source.text 0 := by
  intro d a b _ _
  rw [Source.text, Source.text, seen_depth d a b]

theorem depthFree_option {read : Source → Reading α} (h : DepthFree read k) :
    DepthFree (Source.option read) k := by
  intro d a b ha hb
  rw [Source.option, Source.option, seen_depth d a b, h d a b ha hb]

section Records

variable {fields : List (FieldReader ρ)}

theorem readMember_depth (h : ∀ f ∈ fields, ∀ r, DepthFree (f.read r) k) (r : ρ) (key : String)
    {d : Doc} {a b : Nat} (ha : a + k ≤ maxDepth) (hb : b + k ≤ maxDepth) :
    readMember fields r key (.document d a) = readMember fields r key (.document d b) := by
  unfold readMember
  split
  · next f found => rw [h f (List.mem_of_find?_eq_some found) r d a b ha hb]
  · rfl

/-- Of the items that are left over only this counts, that there are any. -/
theorem readItems_depth (h : ∀ f ∈ fields, ∀ r, DepthFree (f.read r) k) (what : String)
    (total : Nat) {a b : Nat} (ha : a + k ≤ maxDepth) (hb : b + k ≤ maxDepth) (ended : Reading Unit)
    (i : Nat) (r : ρ) (xs : List Doc) :
    (readItems what total fields i r (xs.map fun x => .document x a) ended).map
        (fun p => (p.1, p.2.isEmpty)) =
      (readItems what total fields i r (xs.map fun x => .document x b) ended).map
        (fun p => (p.1, p.2.isEmpty)) := by
  induction fields generalizing i r xs with
  | nil => cases xs <;> rfl
  | cons f fields ih =>
    cases xs with
    | nil => rfl
    | cons x xs =>
      simp only [List.map_cons, readItems]
      rw [h f List.mem_cons_self r x a b ha hb]
      cases f.read r (.document x b) with
      | error e => rfl
      | ok r => exact ih (fun g hg => h g (List.mem_cons_of_mem _ hg)) (i + 1) r xs

theorem bind_leftover {x y : Reading (ρ × List Source)}
    (h : x.map (fun p => (p.1, p.2.isEmpty)) = y.map (fun p => (p.1, p.2.isEmpty)))
    (f : ρ → Bool → Reading α) :
    (x >>= fun p => f p.1 p.2.isEmpty) = (y >>= fun p => f p.1 p.2.isEmpty) := by
  have through (z : Reading (ρ × List Source)) : (z >>= fun p => f p.1 p.2.isEmpty) =
      (z.map (fun p => (p.1, p.2.isEmpty)) >>= fun q => f q.1 q.2) := by
    cases z <;> rfl
  rw [through x, through y, h]

/-- A record is read alike at any depth if its fields are. -/
theorem depthFree_record (h : ∀ f ∈ fields, ∀ r, DepthFree (f.read r) k) (what : String)
    (empty : ρ) : DepthFree (Source.record what fields empty) (k + 1) := by
  intro d a b ha hb
  have inner (r : ρ) (key : String) (d : Doc) :
      readMember fields r key (.document d (a + 1)) =
        readMember fields r key (.document d (b + 1)) :=
    readMember_depth h r key (by omega) (by omega)
  cases d with
  | members ms close =>
    simp only [Source.record, checkDepth_of_le ha, checkDepth_of_le hb, inner]
  | items xs close =>
    have items := readItems_depth h what fields.length (a := a + 1) (b := b + 1) (by omega)
      (by omega) (checkClose close) 0 empty xs
    simp only [Source.record, checkDepth_of_le ha, checkDepth_of_le hb, ok_bind]
    exact bind_leftover items fun r all => do
      if all then checkClose close else Fault.malformed.raise
      .ok r
  | _ => simp only [Source.record, Source.wrongType, seen_depth _ a b]

end Records

/-- What is done with a value does not ask how deep it lay. -/
theorem DepthFree.bind {β : Type} {read : Source → Reading α} (h : DepthFree read k)
    (f : α → Reading β) : DepthFree (fun s => read s >>= f) k :=
  fun d a b ha hb => congrArg (· >>= f) (h d a b ha hb)

theorem depthFree_startRequest : DepthFree StartRequest.read 1 := by
  refine (depthFree_record (List.forall_mem_cons.mpr ⟨fun r => ?_,
    List.forall_mem_cons.mpr ⟨fun r => ?_, List.forall_mem_singleton.mpr fun r => ?_⟩⟩) _ _).bind _
  · exact depthFree_text.bind _
  · exact (depthFree_option depthFree_text).bind _
  · exact (depthFree_option depthFree_text).bind _

theorem depthFree_interval : DepthFree readInterval 1 := by
  refine (depthFree_record (List.forall_mem_singleton.mpr fun _ => DepthFree.bind ?_ _) _ _).bind _
  intro d a b _ _
  rw [Source.unsigned, Source.unsigned, seen_depth d a b]

theorem depthFree_nodeName : DepthFree readNodeName 1 :=
  (depthFree_record (List.forall_mem_singleton.mpr fun _ => depthFree_text.bind _) _ _).bind _

theorem depthFree_restart : DepthFree readRestart 2 := by
  refine (depthFree_record (List.forall_mem_cons.mpr ⟨fun r => ?_,
    List.forall_mem_singleton.mpr fun r => ?_⟩) _ _).bind _
  · exact (depthFree_text.mono (by decide)).bind _
  · exact depthFree_startRequest.bind _

/-! ## The two ways of a request -/

/-- The method has parameters. -/
def Method.takesParams : Method → Bool
  | start => true
  | streamStatus => true
  | removeNode => true
  | restartNode => true
  | _ => false

/-- The gateway gets as far as reading the body. -/
structure HttpCall.Readable (call : HttpCall) : Prop where
  json : (call.contentType.bind MediaType.parse?).any MediaType.isJson = true
  short : call.body.utf8ByteSize ≤ Gateway.maxBody

/-- A text for the message server names a method, and gives it the parameters that stand in the body
of a call to the gateway; no parameters are an empty body. -/
structure SameParams (call : HttpCall) (text : String) (method : Method) (params : Option Doc) :
    Prop where
  named : Doc.ofText text = (.members ((some "method", .text (some method.word)) ::
    params.toList.map fun d => (some "params", d)) none, false)
  body : method.takesParams = true → call.Readable ∧
    (Doc.ofText call.body).1 = params.getD (.fault .truncated .truncated)

/-- The refusal of a body that cannot be read. -/
def JsonError.refusal : JsonError → Refusal
  | fault _ => .malformed
  | shape _ => .wrongShape

section Bridge

variable {call : HttpCall} {text : String} {method : Method} {params : Option Doc}

theorem readBody_eq {read : Source → Reading α} (h : call.Readable) :
    Gateway.readBody read call =
      (read (.document (Doc.ofText call.body).1 0)).mapError JsonError.refusal := by
  have short : ¬ Gateway.maxBody < call.body.utf8ByteSize := not_lt.mpr h.short
  have head : readHead read call.body = read (.document (Doc.ofText call.body).1 0) := rfl
  unfold Gateway.readBody
  rw [h.json, if_neg (by simp), if_neg short, head]
  cases read (.document (Doc.ofText call.body).1 0) with
  | ok v => rfl
  | error e => cases e <;> rfl

/-- What the message server reads. -/
theorem parse_named (h : SameParams call text method params) :
    Request.parse text =
      match params with
      | none => Request.withoutParams method
      | some d => Request.readParams method (.document d 1) := by
  have variant :
      Source.variant Method.known (.document (.text (some method.word)) 1) = .ok method :=
    readVariant_method method
  unfold Request.parse readText
  rw [h.named]
  cases params with
  | none =>
    simp [Request.read, checkDepth, maxDepth, readKey, readMember_method, variant, checkClose,
      Request.Progress.finish]
  | some d =>
    simp [Request.read, checkDepth, maxDepth, readKey, readMember_method, readMember_params,
      variant, checkClose, Request.Progress.finish]

theorem depthFree_params (method : Method) : DepthFree (Request.readParams method) 2 := by
  have unit (expected : String) : DepthFree (Source.unit expected) 2 := by
    intro d a b _ _
    rw [Source.unit, Source.unit, seen_depth d a b]
  cases method with
  | start => exact (depthFree_startRequest.mono (by decide)).bind _
  | streamStatus => exact (depthFree_interval.mono (by decide)).bind _
  | removeNode => exact (depthFree_nodeName.mono (by decide)).bind _
  | restartNode => exact depthFree_restart.bind _
  | _ => exact (unit _).bind _

/-- A method with parameters is asked for with what its reader takes from the body. -/
theorem requestFor_read (hmethod : method.takesParams = true) (hroute : method ≠ .streamStatus) :
    ∃ (α : Type) (read : Source → Reading α) (make : α → Request),
      (∀ v, (make v).method = method) ∧
      (∀ s, Request.readParams method s = (read s >>= fun v => .ok (make v))) ∧
      ∀ call, Gateway.requestFor call method = (Gateway.readBody read call).map make := by
  cases method with
  | start => exact ⟨_, StartRequest.read, .start, fun _ => rfl, fun _ => rfl, fun _ => rfl⟩
  | removeNode => exact ⟨_, readNodeName, .removeNode, fun _ => rfl, fun _ => rfl, fun _ => rfl⟩
  | restartNode =>
    exact ⟨_, readRestart, fun p => .restartNode p.1 p.2, fun _ => rfl, fun _ => rfl, fun _ => rfl⟩
  | streamStatus => exact absurd rfl hroute
  | _ => simp [Method.takesParams] at hmethod

/-- A method without parameters is asked for whatever stands in the body, and by a text with none or
with nothing for them. -/
theorem requestFor_plain (hmethod : method.takesParams = false) :
    ∃ q, q.method = method ∧ Request.withoutParams method = .ok q ∧
      (∃ expected, ∀ s,
        Request.readParams method s = (Source.unit expected s >>= fun _ => .ok q)) ∧
      ∀ call, Gateway.requestFor call method = .ok q := by
  cases method with
  | start => simp [Method.takesParams] at hmethod
  | streamStatus => simp [Method.takesParams] at hmethod
  | removeNode => simp [Method.takesParams] at hmethod
  | restartNode => simp [Method.takesParams] at hmethod
  | _ => exact ⟨_, rfl, rfl, ⟨_, fun _ => rfl⟩, fun _ => rfl⟩

/-- A method with parameters is asked for with the parameters that stand in the body. -/
theorem requestFor_params (hmethod : method.takesParams = true) (hroute : method ≠ .streamStatus)
    (readable : call.Readable) :
    Gateway.requestFor call method =
      (Request.readParams method (.document (Doc.ofText call.body).1 0)).mapError
        JsonError.refusal := by
  obtain ⟨α, read, make, -, params, route⟩ := requestFor_read hmethod hroute
  rw [route, params, readBody_eq readable]
  cases read (.document (Doc.ofText call.body).1 0) <;> rfl

/-- A call by a route is a call of its method. -/
theorem request_routed (posted : call.method = "POST")
    (routed : Gateway.routes.lookup (Gateway.pathOf call.target) = some method) :
    Gateway.request call = Gateway.requestFor call method := by
  unfold Gateway.request
  rw [routed]
  exact if_pos posted

theorem routed_ne_stream
    (routed : Gateway.routes.lookup (Gateway.pathOf call.target) = some method) :
    method ≠ .streamStatus := by
  obtain ⟨before, after, routes, -⟩ := List.lookup_eq_some_iff.mp routed
  have mem : (Gateway.pathOf call.target, method) ∈ Gateway.routes := by simp [routes]
  rintro rfl
  simp [Gateway.routes] at mem

/-- A method without parameters that is given none is asked for. -/
theorem withoutParams_of_read (hmethod : method.takesParams = false) {s : Source} {q : Request}
    (h : Request.readParams method s = .ok q) : Request.withoutParams method = .ok q := by
  obtain ⟨q', -, plain, ⟨expected, unit⟩, -⟩ := requestFor_plain hmethod
  rw [unit] at h
  cases hunit : Source.unit expected s with
  | error e =>
    rw [hunit] at h
    cases h
  | ok =>
    rw [hunit] at h
    exact Except.ok.inj h ▸ plain

theorem withoutParams_error (hmethod : method.takesParams = true) (q : Request) :
    Request.withoutParams method ≠ .ok q := by
  cases method <;> simp [Request.withoutParams, ShapeError.raise, Method.takesParams] at hmethod ⊢

/-- Parameters that are read make the same request by either way. -/
theorem requestFor_ok (h : SameParams call text method params) (hroute : method ≠ .streamStatus)
    {q : Request} (hq : Request.parse text = .ok q) : Gateway.requestFor call method = .ok q := by
  rw [parse_named h] at hq
  cases hmethod : method.takesParams with
  | true =>
    obtain ⟨readable, body⟩ := h.body hmethod
    rw [requestFor_params hmethod hroute readable, body]
    cases params with
    | none => exact absurd hq (withoutParams_error hmethod q)
    | some d =>
      have same := depthFree_params method d 0 1 (by decide) (by decide)
      simp only [Option.getD_some, same, hq]
      rfl
  | false =>
    obtain ⟨q', -, plain, -, heq⟩ := requestFor_plain hmethod
    have same : Request.withoutParams method = .ok q := by
      cases params with
      | none => exact hq
      | some d => exact withoutParams_of_read hmethod hq
    rw [heq, Except.ok.inj (plain.symm.trans same)]

/-- Parameters that cannot be read are refused by the gateway. -/
theorem requestFor_error (h : SameParams call text method params) (hroute : method ≠ .streamStatus)
    (hmethod : method.takesParams = true) {fault : JsonError}
    (hfault : Request.parse text = .error fault) :
    ∃ why, (why = .malformed ∨ why = .wrongShape) ∧
      Gateway.requestFor call method = .error why := by
  have refusal (e : JsonError) : e.refusal = .malformed ∨ e.refusal = .wrongShape := by
    cases e
    · exact .inl rfl
    · exact .inr rfl
  rw [parse_named h] at hfault
  obtain ⟨readable, body⟩ := h.body hmethod
  rw [requestFor_params hmethod hroute readable, body]
  cases params with
  | none =>
    cases method with
    | start => exact ⟨_, .inl rfl, rfl⟩
    | removeNode => exact ⟨_, .inl rfl, rfl⟩
    | restartNode => exact ⟨_, .inl rfl, rfl⟩
    | streamStatus => exact absurd rfl hroute
    | _ => simp [Method.takesParams] at hmethod
  | some d =>
    have same := depthFree_params method d 0 1 (by decide) (by decide)
    simp only [Option.getD_some, same, hfault]
    exact ⟨_, refusal fault, rfl⟩

/-! ## What comes back -/

/-- What a gateway makes of a call by one of its routes, next to what the message server makes of
the same request. -/
structure Bridged {m : Type → Type} [Functor m] [Pure m] (api : Api m) (call : HttpCall)
    (method : Method) : Prop where
  -- a response comes as it is, with the code of its status if it is a failure
  told : ∀ r, (HttpAnswer.answered r).body? = some r.frame ∧
    ((∀ status, r ≠ .error status) → (HttpAnswer.answered r).httpStatus = 200) ∧
    ∀ status, r = .error status → (HttpAnswer.answered r).httpStatus = status.code.httpStatus
  bare : ∀ why, (HttpAnswer.refused why).body? = none
  -- the method of the route is carried out, or its parameters are refused
  answers : (∃ q, q.method = method ∧
      api.answer call = HttpAnswer.answered <$> api.dispatch q) ∨
    method.takesParams = true ∧ ∃ why, api.answer call = pure (.refused why) ∧
      why ∈ [Refusal.wrongKind, .tooLong, .malformed, .wrongShape]
  plain : method.takesParams = false → ∃ q, Request.withoutParams method = .ok q ∧
    api.answer call = HttpAnswer.answered <$> api.dispatch q
  -- parameters that can be read have the same response as on a message connection
  agrees : ∀ text params q, SameParams call text method params → Request.parse text = .ok q →
    api.respond text = some (api.dispatch q) ∧
      api.answer call = HttpAnswer.answered <$> api.dispatch q
  -- others have a status there, and are refused without one here
  differs : ∀ text params fault, SameParams call text method params →
    Request.parse text = .error fault →
      api.respond text = some (pure (.error ⟨.invalidArgument,
        "invalid argument: malformed request: " ++ fault.message⟩)) ∧
      (method.takesParams = true → ∃ why, (why = .malformed ∨ why = .wrongShape) ∧
        api.answer call = pure (.refused why))

theorem answer_of_ok {m : Type → Type} [Functor m] [Pure m] (api : Api m) {q : Request}
    (h : Gateway.request call = .ok q) :
    api.answer call = HttpAnswer.answered <$> api.dispatch q := by
  rw [Api.answer, h]

theorem answer_of_error {m : Type → Type} [Functor m] [Pure m] (api : Api m) {why : Refusal}
    (h : Gateway.request call = .error why) : api.answer call = pure (.refused why) := by
  rw [Api.answer, h]

/-- The message server carries out a request that it reads. -/
theorem respond_of_ok {m : Type → Type} [Functor m] [Pure m] (api : Api m) {q : Request}
    (h : Request.parse text = .ok q) (hunary : q.method ≠ .streamStatus) :
    api.respond text = some (api.dispatch q) := by
  have unary : Opening.ofRequest q = .operation q := by
    cases q with
    | streamStatus ms => exact absurd rfl hunary
    | _ => rfl
  unfold Api.respond Opening.ofText
  rw [h]
  simp only [unary]

/-- The message server answers a text that it cannot read with a status that says so. -/
theorem respond_of_error {m : Type → Type} [Functor m] [Pure m] (api : Api m) {fault : JsonError}
    (h : Request.parse text = .error fault) :
    api.respond text = some (pure (.error ⟨.invalidArgument,
      "invalid argument: malformed request: " ++ fault.message⟩)) := by
  unfold Api.respond Opening.ofText
  rw [h]
  rfl

/-- What a body can come to. -/
theorem readBody_cases (read : Source → Reading α) (call : HttpCall) :
    (∃ v, Gateway.readBody read call = .ok v) ∨
      ∃ why ∈ [Refusal.wrongKind, .tooLong, .malformed, .wrongShape],
        Gateway.readBody read call = .error why := by
  unfold Gateway.readBody
  split
  · exact .inr ⟨_, by simp, rfl⟩
  · split
    · exact .inr ⟨_, by simp, rfl⟩
    · split
      · exact .inl ⟨_, rfl⟩
      · exact .inr ⟨_, by simp, rfl⟩
      · exact .inr ⟨_, by simp, rfl⟩

/-- A method with parameters is carried out, or its parameters are refused. -/
theorem requestFor_cases (hmethod : method.takesParams = true) (hroute : method ≠ .streamStatus)
    (call : HttpCall) :
    (∃ q, q.method = method ∧ Gateway.requestFor call method = .ok q) ∨
      ∃ why ∈ [Refusal.wrongKind, .tooLong, .malformed, .wrongShape],
        Gateway.requestFor call method = .error why := by
  obtain ⟨α, read, make, same, -, route⟩ := requestFor_read hmethod hroute
  obtain ⟨v, h⟩ | ⟨why, hwhy, h⟩ := readBody_cases read call
  · exact .inl ⟨make v, same v, by simp [route, h, Except.map]⟩
  · exact .inr ⟨why, hwhy, by simp [route, h, Except.map]⟩

theorem method_of_requestFor (hroute : method ≠ .streamStatus) {q : Request}
    (h : Gateway.requestFor call method = .ok q) : q.method = method := by
  cases hmethod : method.takesParams with
  | true =>
    obtain ⟨q', same, heq⟩ | ⟨why, -, heq⟩ := requestFor_cases hmethod hroute call
    · exact Except.ok.inj (heq.symm.trans h) ▸ same
    · rw [heq] at h
      cases h
  | false =>
    obtain ⟨q', same, -, -, heq⟩ := requestFor_plain hmethod
    exact Except.ok.inj ((heq call).symm.trans h) ▸ same

/-- **The gateway next to the message server.**  Whatever stands in the body of a call by a route
and whatever the operations give, the caller gets the response that the message server would send
for the method with these parameters, if they can be read; if not, the caller gets no response. -/
theorem bridge_answers {m : Type → Type} [Functor m] [Pure m] (api : Api m)
    (posted : call.method = "POST")
    (routed : Gateway.routes.lookup (Gateway.pathOf call.target) = some method) :
    Bridged api call method := by
  have hroute := routed_ne_stream routed
  have request := request_routed posted routed
  have plain (hmethod : method.takesParams = false) : ∃ q, q.method = method ∧
      Request.withoutParams method = .ok q ∧
        api.answer call = HttpAnswer.answered <$> api.dispatch q := by
    obtain ⟨q, same, plain, -, heq⟩ := requestFor_plain hmethod
    exact ⟨q, same, plain, answer_of_ok api (request.trans (heq call))⟩
  exact {
    told := fun r => ⟨rfl, by
      cases r with
      | error status => exact fun h => absurd rfl (h status)
      | _ => exact fun _ => rfl, by
      rintro status rfl
      rfl⟩
    bare := fun _ => rfl
    answers := by
      cases hmethod : method.takesParams with
      | false =>
        obtain ⟨q, same, -, answer⟩ := plain hmethod
        exact .inl ⟨q, same, answer⟩
      | true =>
        obtain ⟨q, same, heq⟩ | ⟨why, hwhy, heq⟩ := requestFor_cases hmethod hroute call
        · exact .inl ⟨q, same, answer_of_ok api (request.trans heq)⟩
        · exact .inr ⟨rfl, why, answer_of_error api (request.trans heq), hwhy⟩
    plain := fun hmethod => by
      obtain ⟨q, -, same, answer⟩ := plain hmethod
      exact ⟨q, same, answer⟩
    agrees := by
      intro text params q h hq
      have heq := requestFor_ok h hroute hq
      have same := method_of_requestFor hroute heq
      exact ⟨respond_of_ok api hq (same ▸ hroute), answer_of_ok api (request.trans heq)⟩
    differs := by
      intro text params fault h hfault
      refine ⟨respond_of_error api hfault, fun hmethod => ?_⟩
      obtain ⟨why, hwhy, heq⟩ := requestFor_error h hroute hmethod hfault
      exact ⟨why, hwhy, answer_of_error api (request.trans heq)⟩ }

end Bridge

/-! ## A start by either way -/

theorem parse?_json : MediaType.parse? "application/json" = some ⟨"application", "json", none⟩ := by
  have slash : MediaType.isToken '/' = false := by simp [MediaType.isToken]
  have letter {c : Char} (h : c.isAlphanum = true) : MediaType.isToken c = true := by
    simp [MediaType.isToken, h]
  have kind : "application/json".toList.takeWhile MediaType.isToken = "application".toList := by
    simp [List.takeWhile, slash, letter]
  have rest : "application/json".toList.dropWhile MediaType.isToken = '/' :: "json".toList := by
    simp [List.dropWhile, slash, letter]
  have sub : "json".toList.takeWhile MediaType.isToken = "json".toList := by
    simp [List.takeWhile, letter]
  have last : "json".toList.dropWhile MediaType.isToken = [] := by
    simp [List.dropWhile, letter]
  unfold MediaType.parse?
  simp only [kind, rest, sub, last]
  decide

/-- The call by the route of a start with this body. -/
def HttpCall.start (body : Json) : HttpCall :=
  ⟨"POST", "/v1/control/start", some "application/json", body.compact⟩

/-- The same parameters as a text for the message server. -/
def startText (body : Json) : String :=
  (Json.obj [("method", .str "start"), ("params", body)]).compact

theorem sameParams_start {k : Nat} {body : Json} (plain : body.Plain k)
    (short : body.compact.utf8ByteSize ≤ Gateway.maxBody) :
    SameParams (.start body) (startText body) .start (some body.toDoc) where
  named := by
    have whole : (Json.obj [("method", .str "start"), ("params", body)]).Plain (k + 1) := by
      simp [plain]
    exact Doc.ofText_compact whole
  body _ := ⟨⟨by simp [HttpCall.start, parse?_json, MediaType.isJson], short⟩,
    congrArg Prod.fst (Doc.ofText_compact plain)⟩

theorem routed_start :
    Gateway.routes.lookup (Gateway.pathOf "/v1/control/start") = some .start := by
  decide +kernel

/-- A server that has no room for a cluster says so by either way. -/
theorem bridge_answers_start :
    Gateway.routes.lookup (Gateway.pathOf "/v1/control/start") = some .start ∧
      Api.vacant.respond (startText (.obj [("exec_path", .str "/bin/node")])) =
        some (Response.error (Failure.launch "no space left").status) ∧
      Api.vacant.answer (.start (.obj [("exec_path", .str "/bin/node")])) =
        HttpAnswer.answered (.error (Failure.launch "no space left").status) := by
  have posted : (HttpCall.start (.obj [("exec_path", .str "/bin/node")])).method = "POST" := rfl
  have same := sameParams_start (plain_startRequest ⟨"/bin/node", none, none⟩) (by decide +kernel)
  have parsed := parse_frame_request (.start ⟨"/bin/node", none, none⟩)
  exact ⟨routed_start, (bridge_answers Api.vacant posted routed_start).agrees _ _ _ same parsed⟩

/-- A start without an executable gets a status from the message server, and from the gateway a code
and nothing else. -/
theorem bare_refusal :
    startText (.obj []) = "\x7b\"method\":\"start\",\"params\":\x7b\x7d\x7d" ∧
      Api.vacant.respond (startText (.obj [])) = some (Response.error ⟨.invalidArgument,
        "invalid argument: malformed request: missing field `exec_path`"⟩) ∧
      Api.vacant.answer (.start (.obj [])) = HttpAnswer.refused .wrongShape ∧
      (HttpAnswer.refused .wrongShape).body? = none ∧
      (HttpAnswer.refused .wrongShape).httpStatus ≠ Code.invalidArgument.httpStatus := by
  have plain : Json.Plain 1 (.obj []) := by simp
  have same := sameParams_start plain (by decide +kernel)
  have parsed : Request.parse (startText (.obj [])) = .error (.shape (.missingField "exec_path")) :=
    (parse_named same).trans rfl
  have request : Gateway.request (.start (.obj [])) = .error .wrongShape := by
    obtain ⟨readable, body⟩ := same.body rfl
    have shapeless : (Request.readParams .start (.document (Json.obj []).toDoc 0)).mapError
      JsonError.refusal = .error .wrongShape := rfl
    have takes : Method.start.takesParams = true := rfl
    have read := requestFor_params takes (by decide) readable
    rw [body, Option.getD_some, shapeless] at read
    have posted : (HttpCall.start (.obj [])).method = "POST" := rfl
    have routed := request_routed posted routed_start
    exact routed.trans read
  refine ⟨by decide +kernel, ?_, answer_of_error Api.vacant request, rfl, by decide⟩
  unfold Api.respond Opening.ofText
  rw [parsed]
  rfl

end ClusterControl
