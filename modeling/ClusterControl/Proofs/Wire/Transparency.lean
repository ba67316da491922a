import ClusterControl.Client.Ask
import ClusterControl.Proofs.Text.Utf8
import ClusterControl.Proofs.Wire.Frames
import ClusterControl.Server.Connection

/-!
# Calls over the wire

A call of a client is written as a frame, read and carried out by a server, and its outcome comes back
the same way.  This module proves that nothing of this shows: the one operation that the call names is
carried out once, with the parameters that the caller gave, and the caller gets the outcome of it; a
failure comes with its status, and keeps it however often it is passed on.

* `Api.carry` — a call from its caller to the operations of a server and back.
* `carry_eq` — what the caller gets, by the operation that the server carries out.
* `Api.noting` — operations that keep book of the calls they get.
* `Relay`, `Api.behind` — servers that pass their calls on to other servers.
* `carries_behind` — a call by way of any number of servers.
* `wire_transparency` — the theorem.
-/

namespace ClusterControl

/-! ## Calls from end to end -/

section Carry

variable {m : Type → Type} {α β : Type}

/-- What a caller gets when the server sends this response, if any, and closes the connection. -/
def Ask.told (ask : Ask α) (sent : Option Response) : Outcome α :=
  (ask.result? ((sent.map fun response => .frame (.text response.frame)).toList ++
    [.frame .close])).getD (.error (Ask.closedEarly ask.request.method))

/-- A call from its caller to the operations of a server and back. -/
def Api.carry [Functor m] [Pure m] (api : Api m) (ask : Ask α) : m (Outcome α) :=
  match api.respond ask.request.frame with
  | some response => (fun r => ask.told (some r)) <$> response
  | none => pure (ask.told none)

/-- The outcome of an operation as its remote caller gets it: what is reported of its value, or the
status of its failure. -/
def carried (report : β → α) : Outcome β → Outcome α
  | .ok v => .ok (report v)
  | .error e => .error (.remote e.status)

/-- The parameters of the operation that a caller asks for. -/
def StartOptions.params (o : StartOptions) (execPath : String) : StartParams where
  execPath := .ofText execPath
  subnets := o.subnets.getD ""
  logLevel := o.logLevel

theorem params_request (o : StartOptions) (execPath : String) :
    (o.request (.ofText execPath)).params = o.params execPath := by
  simp [StartOptions.request, StartRequest.params, StartOptions.params]

/-- A request that is not for a stream asks for an operation. -/
theorem ofText_frame {r : Request} (h : ∀ ms, r ≠ .streamStatus ms) :
    Opening.ofText r.frame = .operation r := by
  rw [Opening.ofText, parse_frame_request]
  cases r with
  | streamStatus ms => exact absurd rfl (h ms)
  | _ => rfl

/-- The caller takes the response that the server sends. -/
theorem told_eq_take {r : Response} (h : r.InOrder) (ask : Ask α) :
    ask.told (some r) = ask.take r := by
  simp only [Ask.told, Ask.result?, Ask.reply?, Option.map_some, Option.toList_some,
    List.singleton_append, parse_frame_response h]
  rfl

variable [Functor m] [Pure m] [LawfulFunctor m] {api : Api m} {ask : Ask α}

/-- What the caller gets, by the operation that the server carries out. -/
theorem carry_eq {operation : m β} {respond : β → Response} {get : β → Outcome α}
    (hunary : ∀ ms, ask.request ≠ .streamStatus ms)
    (hdispatch : api.dispatch ask.request = respond <$> operation)
    (hget : ∀ b, (respond b).InOrder ∧ ask.take (respond b) = get b) :
    api.carry ask = get <$> operation := by
  have answered : api.respond ask.request.frame = some (respond <$> operation) := by
    unfold Api.respond
    rw [ofText_frame hunary]
    rw [← hdispatch]
  unfold Api.carry
  rw [answered]
  refine (Functor.map_map _ _ _).trans ?_
  exact map_congr fun b => (told_eq_take (hget b).1 ask).trans (hget b).2

theorem inOrder_ofSnapshot (outcome : Outcome Snapshot) :
    (Response.ofSnapshot outcome).InOrder := by
  cases outcome with
  | ok s => exact Table.sorted_ofList _
  | error e => trivial

theorem take_ofSnapshot (outcome : Outcome Snapshot) :
    (Response.ofSnapshot outcome).cluster? = carried Snapshot.info outcome := by
  cases outcome <;> rfl

theorem take_ofUris (outcome : Outcome (List String)) :
    (Response.ofOutcome Response.uris outcome).InOrder ∧
      (Response.ofOutcome Response.uris outcome).uris? = carried id outcome := by
  cases outcome <;> exact ⟨trivial, rfl⟩

/-- A call that asks for a report. -/
theorem carry_snapshot {operation : m (Outcome Snapshot)} {request : Request}
    (hunary : ∀ ms, request ≠ .streamStatus ms)
    (hdispatch : api.dispatch request = Response.ofSnapshot <$> operation) :
    api.carry ⟨request, Response.cluster?⟩ = carried Snapshot.info <$> operation :=
  carry_eq hunary hdispatch fun outcome => ⟨inOrder_ofSnapshot outcome, take_ofSnapshot outcome⟩

theorem carry_ping (api : Api m) : api.carry .ping = Except.ok <$> api.ping :=
  carry_eq (by simp [Ask.ping]) rfl fun _ => ⟨trivial, rfl⟩

theorem carry_uris (api : Api m) : api.carry .uris = carried id <$> api.uris :=
  carry_eq (by simp [Ask.uris]) rfl take_ofUris

theorem carry_start (api : Api m) (execPath : String) (options : StartOptions) :
    api.carry (.start (.ofText execPath) options) =
      carried Snapshot.info <$> api.start (options.params execPath) := by
  rw [← params_request]
  exact carry_snapshot (by simp) rfl

theorem carry_health (api : Api m) : api.carry .health = carried Snapshot.info <$> api.health :=
  carry_snapshot (by simp) rfl

theorem carry_status (api : Api m) : api.carry .status = carried Snapshot.info <$> api.status :=
  carry_snapshot (by simp) rfl

theorem carry_removeNode (api : Api m) (name : String) :
    api.carry (.removeNode name) = carried Snapshot.info <$> api.removeNode name :=
  carry_snapshot (by simp) rfl

theorem carry_restartNode (api : Api m) (name execPath : String) (options : StartOptions) :
    api.carry (.restartNode name (.ofText execPath) options) =
      carried Snapshot.info <$> api.restartNode name (options.params execPath) := by
  rw [← params_request]
  exact carry_snapshot (by simp) rfl

theorem carry_stop (api : Api m) : api.carry .stop = carried Snapshot.info <$> api.stop :=
  carry_snapshot (by simp) rfl

end Carry

/-! ## Book of the calls -/

/-- A call of an operation. -/
inductive ApiCall
  | ping
  | start (params : StartParams)
  | health
  | uris
  | status
  | removeNode (name : String)
  | restartNode (name : String) (params : StartParams)
  | stop
deriving Repr, DecidableEq

section Noting

variable {m : Type → Type} [Monad m]

/-- Notes a call, and then carries the operation out. -/
def noted {α : Type} (call : ApiCall) (operation : m α) : StateT (List ApiCall) m α :=
  fun calls => (fun a => (a, calls ++ [call])) <$> operation

/-- The same operations, with a book of the calls that they get. -/
def Api.noting (api : Api m) : Api (StateT (List ApiCall) m) where
  ping := noted .ping api.ping
  start params := noted (.start params) (api.start params)
  health := noted .health api.health
  uris := noted .uris api.uris
  status := noted .status api.status
  removeNode name := noted (.removeNode name) (api.removeNode name)
  restartNode name params := noted (.restartNode name params) (api.restartNode name params)
  stop := noted .stop api.stop

end Noting

/-! ## Servers that pass their calls on -/

/-- What a server that passes its calls on to another one does by itself: it tells its own process, and
makes a snapshot of each report that it gets. -/
structure Relay (m : Type → Type) where
  ping : m UInt32
  rebuild : ClusterInfo → Snapshot

section Relays

variable {m : Type → Type} [Functor m]

/-- The operations of a server that passes its calls on. -/
def Api.relayed [Pure m] (api : Api m) (r : Relay m) : Api m where
  ping := r.ping
  start params := Except.map r.rebuild <$>
    api.carry (.start params.execPath ⟨some params.subnets, params.logLevel⟩)
  health := Except.map r.rebuild <$> api.carry .health
  uris := api.carry .uris
  status := Except.map r.rebuild <$> api.carry .status
  removeNode name := Except.map r.rebuild <$> api.carry (.removeNode name)
  restartNode name params := Except.map r.rebuild <$>
    api.carry (.restartNode name params.execPath ⟨some params.subnets, params.logLevel⟩)
  stop := Except.map r.rebuild <$> api.carry .stop

/-- The operations of a server behind which there are others, down to one that carries them out. -/
def Api.behind [Pure m] (api : Api m) : List (Relay m) → Api m
  | [] => api
  | r :: rest => (api.behind rest).relayed r

/-- The report of a snapshot that comes by way of these servers. -/
def Relay.report : List (Relay m) → Snapshot → ClusterInfo
  | [] => Snapshot.info
  | r :: rest => fun s => (r.rebuild (report rest s)).info

omit [Functor m] in
/-- A failure that is passed on keeps its status. -/
theorem carried_relay (r : Relay m) (rest : List (Relay m)) (outcome : Outcome Snapshot) :
    carried Snapshot.info (Except.map r.rebuild (carried (Relay.report rest) outcome)) =
      carried (Relay.report (r :: rest)) outcome := by
  cases outcome <;> rfl

theorem carried_uris (outcome : Outcome (List String)) :
    carried id (carried id outcome) = carried id outcome := by
  cases outcome <;> rfl

variable [LawfulFunctor m]

/-- One server more on the way. -/
theorem carried_step (r : Relay m) {rest : List (Relay m)} {call : m (Outcome ClusterInfo)}
    {operation : m (Outcome Snapshot)} (h : call = carried (Relay.report rest) <$> operation) :
    carried Snapshot.info <$> Except.map r.rebuild <$> call =
      carried (Relay.report (r :: rest)) <$> operation := by
  rw [h, Functor.map_map, Functor.map_map]
  exact map_congr (carried_relay r rest)

/-- What a call comes to that is carried over the wire, by way of any number of servers. -/
structure Carries [Pure m] (api : Api m) (relays : List (Relay m)) : Prop where
  start : ∀ execPath options, (api.behind relays).carry (.start (.ofText execPath) options) =
    carried (Relay.report relays) <$> api.start (options.params execPath)
  health : (api.behind relays).carry .health = carried (Relay.report relays) <$> api.health
  uris : (api.behind relays).carry .uris = carried id <$> api.uris
  status : (api.behind relays).carry .status = carried (Relay.report relays) <$> api.status
  removeNode : ∀ name, (api.behind relays).carry (.removeNode name) =
    carried (Relay.report relays) <$> api.removeNode name
  restartNode : ∀ name execPath options,
    (api.behind relays).carry (.restartNode name (.ofText execPath) options) =
      carried (Relay.report relays) <$> api.restartNode name (options.params execPath)
  stop : (api.behind relays).carry .stop = carried (Relay.report relays) <$> api.stop

/-- A call comes to the same over any number of servers. -/
theorem carries_behind [Pure m] (api : Api m) (relays : List (Relay m)) : Carries api relays := by
  induction relays with
  | nil =>
    exact {
      start := carry_start api
      health := carry_health api
      uris := carry_uris api
      status := carry_status api
      removeNode := carry_removeNode api
      restartNode := carry_restartNode api
      stop := carry_stop api }
  | cons r rest ih =>
    exact {
      start := by
        intro execPath o
        rw [carry_start]
        exact carried_step r (ih.start execPath ⟨some (o.subnets.getD ""), o.logLevel⟩)
      health := by
        rw [carry_health]
        exact carried_step r ih.health
      uris := by
        have passed : (api.behind (r :: rest)).uris = (api.behind rest).carry .uris := by
          simp only [Api.behind, Api.relayed]
        rw [carry_uris, passed, ih.uris, Functor.map_map]
        exact map_congr carried_uris
      status := by
        rw [carry_status]
        exact carried_step r ih.status
      removeNode := by
        intro name
        rw [carry_removeNode]
        exact carried_step r (ih.removeNode name)
      restartNode := by
        intro name execPath o
        rw [carry_restartNode]
        exact carried_step r
          (ih.restartNode name execPath ⟨some (o.subnets.getD ""), o.logLevel⟩)
      stop := by
        rw [carry_stop]
        exact carried_step r ih.stop }

end Relays

/-! ## The theorem -/

section Transparency

variable {m : Type → Type} [Monad m] {α β : Type}

/-- What a call comes to: this operation is carried out once, after all the calls before it, and the
caller gets this of its result. -/
structure Api.Answers (api : Api m) (ask : Ask α) (call : ApiCall) (operation : m β)
    (get : β → Outcome α) : Prop where
  outcome : api.carry ask = get <$> operation
  once : ∀ calls, (api.noting.carry ask).run calls =
    (fun b => (get b, calls ++ [call])) <$> operation

variable [LawfulMonad m] {api : Api m}

/-- A call that is noted where it is carried out is carried out once. -/
theorem answers_of_carry {ask : Ask α} {call : ApiCall} {operation : m β} {get : β → Outcome α}
    (plain : api.carry ask = get <$> operation)
    (book : api.noting.carry ask = get <$> noted call operation) :
    api.Answers ask call operation get where
  outcome := plain
  once calls := by
    rw [book, StateT.run_map]
    exact Functor.map_map _ _ _

/-- What the calls of a client come to. -/
structure Api.Transparent (api : Api m) : Prop where
  ping : api.Answers .ping .ping api.ping .ok
  start : ∀ execPath options, api.Answers (.start (.ofText execPath) options)
    (.start (options.params execPath)) (api.start (options.params execPath))
    (carried Snapshot.info)
  health : api.Answers .health .health api.health (carried Snapshot.info)
  uris : api.Answers .uris .uris api.uris (carried id)
  status : api.Answers .status .status api.status (carried Snapshot.info)
  removeNode : ∀ name, api.Answers (.removeNode name) (.removeNode name) (api.removeNode name)
    (carried Snapshot.info)
  restartNode : ∀ name execPath options,
    api.Answers (.restartNode name (.ofText execPath) options)
      (.restartNode name (options.params execPath))
      (api.restartNode name (options.params execPath)) (carried Snapshot.info)
  stop : api.Answers .stop .stop api.stop (carried Snapshot.info)
  -- a failure that is passed on keeps its status, once and any number of times
  remote : ∀ s, (Failure.remote s).status = s
  relays : ∀ relays, Carries api relays

/-- Each call of a client comes to one run of the operation it names, with the parameters that the
caller gave, and to the outcome of it; a failure keeps its status on the way, by way of any number
of servers. -/
theorem wire_transparency (api : Api m) : api.Transparent where
  ping := answers_of_carry (carry_ping api) (carry_ping _)
  start execPath o := answers_of_carry (carry_start api execPath o) (carry_start _ execPath o)
  health := answers_of_carry (carry_health api) (carry_health _)
  uris := answers_of_carry (carry_uris api) (carry_uris _)
  status := answers_of_carry (carry_status api) (carry_status _)
  removeNode name := answers_of_carry (carry_removeNode api name) (carry_removeNode _ name)
  restartNode name execPath o :=
    answers_of_carry (carry_restartNode api name execPath o) (carry_restartNode _ name execPath o)
  stop := answers_of_carry (carry_stop api) (carry_stop _)
  remote _ := rfl
  relays := carries_behind api

end Transparency

/-- The operations of a server that has no cluster. -/
def Api.vacant : Api Id where
  ping := 1
  start _ := .error (.launch "no space left")
  health := .error (.notReady .stopped)
  uris := .error (.notReady .stopped)
  status := .error (.notReady .stopped)
  removeNode name := .error (.notFound name)
  restartNode name _ := .error (.notFound name)
  stop := .error (.notReady .stopped)

/-- A server that passes its calls on and keeps of a report what it says of the cluster as a whole. -/
def Relay.summary : Relay Id where
  ping := 2
  rebuild c := ⟨c.names, .ofList [], .ofList [], c.pid, .ofText c.rootDir, .healthy, c.healthy⟩

/-- The call for a node that is not there: it is made once, and fails with the same status for a
caller next to the server and for one with two other servers in between. -/
theorem wire_transparency_vacant :
    LawfulMonad Id ∧
      (Api.vacant.noting.carry (.removeNode "node-1")).run [.ping] =
        (.error (.remote ⟨.notFound, "node not found: node-1"⟩), [.ping, .removeNode "node-1"]) ∧
      (Api.vacant.behind [.summary, .summary]).carry (.removeNode "node-1") =
        Except.error (.remote ⟨.notFound, "node not found: node-1"⟩) := by
  have transparent := wire_transparency Api.vacant
  exact ⟨inferInstance, (transparent.removeNode "node-1").once [.ping],
    (transparent.relays _).removeNode "node-1"⟩

end ClusterControl
