import ClusterControl.Program
import ClusterControl.Proofs.Net.AddressText
import ClusterControl.Proofs.Settings.FileValues
import ClusterControl.Proofs.Text.Utf8

/-!
# Settings of a server

A server takes its settings from a file and from the command line, which goes before the file.  A
port on the command line changes a part of an address, which is read from its text, changed, written
down and read once more.  This module proves what comes out: when there are settings at all, and
where each of them comes from.

* `validate_eq_ok_iff` — which settings are allowed.
* `Moved`, `moved_override` — an address whose port is changed stays at its place.
* `ServerFlags.Overrides` — what settings are that the command line has changed.
* `settings_resolved` — the settings of a server by its command line and its file.
-/

namespace ClusterControl

/-- The place of an address: the machine, with the scope in which it is meant. -/
def SocketAddress.host : SocketAddress → IPv4 ⊕ IPv6 × UInt32
  | v4 ip _ => .inl ip
  | v6 ip scope _ => .inr (ip, scope)

@[simp]
theorem SocketAddress.host_withPort (a : SocketAddress) (port : UInt16) :
    (a.withPort port).host = a.host := by
  cases a <;> rfl

@[simp]
theorem SocketAddress.port_withPort (a : SocketAddress) (port : UInt16) :
    (a.withPort port).port = port := by
  cases a <;> rfl

namespace Settings

/-! ## Which settings are allowed -/

theorem address_eq_ok_iff {field value : String} {a : SocketAddress} :
    address field value = .ok a ↔ SocketAddress.parse? value = some a := by
  unfold address
  cases SocketAddress.parse? value <;> simp

theorem checkPositive_eq_ok_iff {field : String} {n : Nat} :
    checkPositive field n = .ok () ↔ n ≠ 0 := by
  unfold checkPositive
  split <;> simp_all

theorem checkFormat_eq_ok_iff {format : String} :
    checkFormat format = .ok () ↔ format = "pretty" ∨ format = "json" := by
  unfold checkFormat
  split <;> simp_all

/-- Settings are allowed if both addresses can be read, no number is zero that must not be, and the
log has one of its two forms. -/
structure Allowed (s : Settings) : Prop where
  listen : ∃ a, s.listenAddress = .ok a
  gateway : ∃ a, s.gatewayAddress = .ok a
  dialTimeout : s.server.dialTimeoutSecs ≠ 0
  nodeCount : s.cluster.nodeCount ≠ 0
  healthTimeout : s.cluster.healthTimeoutSecs ≠ 0
  format : s.logging.format = "pretty" ∨ s.logging.format = "json"

theorem validate_eq_ok_iff (s : Settings) : s.validate = .ok () ↔ s.Allowed := by
  unfold validate
  simp only [bind_eq_ok (σ := SocketAddress), bind_unit_eq_ok, checkPositive_eq_ok_iff,
    checkFormat_eq_ok_iff]
  constructor
  · rintro ⟨listen, hlisten, gateway, hgateway, hdial, hnodes, hhealth, hformat⟩
    exact ⟨⟨listen, hlisten⟩, ⟨gateway, hgateway⟩, hdial, hnodes, hhealth, hformat⟩
  · rintro ⟨⟨listen, hlisten⟩, ⟨gateway, hgateway⟩, hdial, hnodes, hhealth, hformat⟩
    exact ⟨listen, hlisten, gateway, hgateway, hdial, hnodes, hhealth, hformat⟩

/-- A file gives the settings that it spells out, if they are allowed. -/
theorem parse_eq_ok_iff {content : String} {s : Settings} :
    parse content = .ok s ↔ read? content = some s ∧ s.Allowed := by
  unfold parse
  cases read? content with
  | none => simp
  | some t =>
    simp only [bind_unit_eq_ok, validate_eq_ok_iff, Except.ok.injEq, Option.some.injEq]
    constructor
    · rintro ⟨allowed, rfl⟩
      exact ⟨rfl, allowed⟩
    · rintro ⟨rfl, allowed⟩
      exact ⟨allowed, rfl⟩

theorem allowed_default : ({} : Settings).Allowed := by
  rw [← validate_eq_ok_iff]
  decide +kernel

end Settings

/-! ## What the command line changes -/

/-- An address that could be read before can be read afterwards, stands for the same place, and has
the port that the command line gives, if it gives one. -/
def SocketAddress.Moved (port : Option UInt16) (before after : Outcome SocketAddress) : Prop :=
  ∃ a b, before = .ok a ∧ after = .ok b ∧ b.host = a.host ∧ b.port = port.getD a.port

/-- The command line changes the port of an address that can be read, and what it writes down for
that can be read again. -/
theorem SocketAddress.moved_override {field current : String} {a : SocketAddress}
    (h : Settings.address field current = .ok a) (port : Option UInt16) :
    ∃ text, override port current (Settings.address field current) = .ok text ∧
      (port = none → text = current) ∧
      Moved port (Settings.address field current) (Settings.address field text) := by
  cases port with
  | none => exact ⟨current, rfl, fun _ => rfl, a, a, h, h, rfl, rfl⟩
  | some port =>
    have again : Settings.address field (a.withPort port).text = .ok (a.withPort port) :=
      Settings.address_eq_ok_iff.mpr (parse?_text (a.withPort port))
    refine ⟨(a.withPort port).text, ?_, fun heq => ?_, a, a.withPort port, h, again, ?_, ?_⟩
    · rw [override, h]
      rfl
    · simp at heq
    · exact host_withPort a port
    · exact port_withPort a port

/-- Settings that the command line has changed: what it says counts, and what it does not say stays
as it was. -/
structure ServerFlags.Overrides (flags : ServerFlags) (base s : Settings) : Prop where
  listen : SocketAddress.Moved flags.port base.listenAddress s.listenAddress
  listen_text : flags.port = none → s.server.listen = base.server.listen
  gateway : SocketAddress.Moved flags.gatewayPort base.gatewayAddress s.gatewayAddress
  gateway_text : flags.gatewayPort = none → s.server.gateway = base.server.gateway
  dialTimeout : s.server.dialTimeoutSecs = flags.dialTimeout.getD base.server.dialTimeoutSecs
  level : s.logging.level = flags.logLevel.getD base.logging.level
  format : s.logging.format = flags.logFormat.getD base.logging.format
  cluster : s.cluster = base.cluster
  valid : s.validate = .ok ()

namespace ServerFlags

/-- The command line may be used with allowed settings: it does not forbid to wait at all, and names
one of the two forms of the log if it names one. -/
def Acceptable (flags : ServerFlags) : Prop :=
  flags.dialTimeout ≠ some 0 ∧
    (flags.logFormat = none ∨ flags.logFormat = some "pretty" ∨ flags.logFormat = some "json")

/-- What the command line makes of allowed settings before they are checked once more. -/
theorem resolve_allowed {base : Settings} (h : base.Allowed) (flags : ServerFlags)
    {file : Option (Outcome Settings)} (hfile : file.getD (.ok {}) = .ok base) :
    ∃ s : Settings, (flags.resolve file = do s.validate; .ok s) ∧
      SocketAddress.Moved flags.port base.listenAddress s.listenAddress ∧
      (flags.port = none → s.server.listen = base.server.listen) ∧
      SocketAddress.Moved flags.gatewayPort base.gatewayAddress s.gatewayAddress ∧
      (flags.gatewayPort = none → s.server.gateway = base.server.gateway) ∧
      s.server.dialTimeoutSecs = flags.dialTimeout.getD base.server.dialTimeoutSecs ∧
      s.logging.level = flags.logLevel.getD base.logging.level ∧
      s.logging.format = flags.logFormat.getD base.logging.format ∧
      s.cluster = base.cluster := by
  obtain ⟨a, ha⟩ := h.listen
  obtain ⟨b, hb⟩ := h.gateway
  obtain ⟨listen, hlisten, listenText, listenMoved⟩ :=
    SocketAddress.moved_override ha flags.port
  obtain ⟨gateway, hgateway, gatewayText, gatewayMoved⟩ :=
    SocketAddress.moved_override hb flags.gatewayPort
  refine ⟨{
    server := {
      listen := listen
      gateway := gateway
      dialTimeoutSecs := flags.dialTimeout.getD base.server.dialTimeoutSecs }
    logging := {
      level := flags.logLevel.getD base.logging.level
      format := flags.logFormat.getD base.logging.format }
    cluster := base.cluster }, ?_, listenMoved, listenText, gatewayMoved, gatewayText, rfl, rfl, rfl,
    rfl⟩
  unfold resolve Settings.listenAddress Settings.gatewayAddress
  rw [hfile, ok_bind, hlisten, ok_bind, hgateway, ok_bind]

/-- A file that is refused leaves nothing to change. -/
theorem resolve_refused {file : Option (Outcome Settings)} {e : Failure}
    (h : file.getD (.ok {}) = .error e) (flags : ServerFlags) : flags.resolve file = .error e := by
  unfold resolve
  rw [h]
  rfl

/-- A number that must not be zero is not, unless the command line makes it so. -/
theorem dialTimeout_ne_zero_iff {given : Option Nat} {before : Nat} (h : before ≠ 0) :
    given.getD before ≠ 0 ↔ given ≠ some 0 := by
  cases given <;> simp [h]

theorem format_iff {given : Option String} {before : String}
    (h : before = "pretty" ∨ before = "json") :
    (given.getD before = "pretty" ∨ given.getD before = "json") ↔
      (given = none ∨ given = some "pretty" ∨ given = some "json") := by
  cases given <;> simp [h]

/-- Allowed settings can be changed by the command line if and only if it is acceptable, and then
what it says counts. -/
theorem resolve_iff {base : Settings} (h : base.Allowed) (flags : ServerFlags)
    {file : Option (Outcome Settings)} (hfile : file.getD (.ok {}) = .ok base) :
    ((∃ s, flags.resolve file = .ok s) ↔ flags.Acceptable) ∧
      ∀ s, flags.resolve file = .ok s → flags.Overrides base s := by
  obtain ⟨t, heq, listen, listenText, gateway, gatewayText, dial, level, format, cluster⟩ :=
    resolve_allowed h flags hfile
  have done {s : Settings} : flags.resolve file = .ok s ↔ t.validate = .ok () ∧ t = s := by
    rw [heq, bind_unit_eq_ok, Except.ok.injEq]
  have allowed : t.Allowed ↔ flags.Acceptable := by
    unfold Acceptable
    rw [← dialTimeout_ne_zero_iff h.dialTimeout, ← format_iff h.format, ← dial, ← format]
    constructor
    · intro ht
      exact ⟨ht.dialTimeout, ht.format⟩
    · rintro ⟨hdial, hformat⟩
      obtain ⟨-, b, -, hlisten, -⟩ := listen
      obtain ⟨-, d, -, hgateway, -⟩ := gateway
      exact ⟨⟨b, hlisten⟩, ⟨d, hgateway⟩, hdial, cluster ▸ h.nodeCount, cluster ▸ h.healthTimeout,
        hformat⟩
  refine ⟨⟨?_, ?_⟩, ?_⟩
  · rintro ⟨s, hs⟩
    exact allowed.mp ((Settings.validate_eq_ok_iff t).mp (done.mp hs).1)
  · intro acceptable
    exact ⟨t, done.mpr ⟨(Settings.validate_eq_ok_iff t).mpr (allowed.mpr acceptable), rfl⟩⟩
  · intro s hs
    obtain ⟨valid, rfl⟩ := done.mp hs
    exact ⟨listen, listenText, gateway, gatewayText, dial, level, format, cluster, valid⟩

end ServerFlags

/-! ## The settings of a server -/

namespace ProgramRun

/-- What the settings of a server are before the command line changes them: those of the file that it
names, or the default ones if it names none. -/
def fileSettings (m : Machine) (flags : ServerFlags) : Outcome Settings :=
  match flags.config with
  | none => .ok {}
  | some path =>
    match m.fileAt path with
    | .ok bytes => Settings.ofBytes bytes
    | .error cause => .error (.config (.unreadable cause))

theorem settings_eq (m : Machine) (flags : ServerFlags) :
    ∃ file : Option (Outcome Settings),
      settings m flags = flags.resolve file ∧ file.getD (.ok {}) = fileSettings m flags := by
  refine ⟨_, rfl, ?_⟩
  unfold fileSettings
  cases flags.config <;> rfl

/-- The bytes of a file give the settings that their text spells out. -/
theorem ofBytes_eq_ok {bytes : List UInt8} {base : Settings}
    (h : Settings.ofBytes bytes = .ok base) :
    ∃ content entries, Utf8.decode? bytes = some content ∧ Settings.parse content = .ok base ∧
      Toml.parse? content = some entries ∧ base.FromFile entries := by
  unfold Settings.ofBytes at h
  cases hcontent : Utf8.decode? bytes with
  | none => simp [hcontent] at h
  | some content =>
    rw [hcontent] at h
    obtain ⟨entries, hentries, said⟩ :=
      Settings.fromFile_of_read? (Settings.parse_eq_ok_iff.mp h).1
    exact ⟨content, entries, rfl, h, hentries, said⟩

theorem allowed_of_fileSettings {m : Machine} {flags : ServerFlags} {base : Settings}
    (h : fileSettings m flags = .ok base) : base.Allowed := by
  unfold fileSettings at h
  split at h
  · obtain rfl := Except.ok.inj h
    exact Settings.allowed_default
  · split at h
    · obtain ⟨content, entries, -, hparse, -⟩ := ofBytes_eq_ok h
      exact (Settings.parse_eq_ok_iff.mp hparse).2
    · simp at h

/-- The settings of a server come from its file and its command line.  A file that is refused leaves
no settings, whatever the command line says.  With a file that is accepted, or without one, there are
settings if and only if the command line is acceptable, and then each of them is what the command line
says, else what the file says, else its default; a port on the command line replaces nothing but the
port of an address, which can be read again. -/
theorem settings_resolved (m : Machine) (flags : ServerFlags) :
    (∀ path bytes e, flags.config = some path → m.fileAt path = .ok bytes →
      Settings.ofBytes bytes = .error e → settings m flags = .error e) ∧
    (∀ bytes base, Settings.ofBytes bytes = .ok base →
      ∃ content entries, Utf8.decode? bytes = some content ∧ Settings.parse content = .ok base ∧
        Toml.parse? content = some entries ∧ base.FromFile entries) ∧
    ∀ base, fileSettings m flags = .ok base →
      ((∃ s, settings m flags = .ok s) ↔ flags.Acceptable) ∧
      ∀ s, settings m flags = .ok s → flags.Overrides base s := by
  refine ⟨fun path bytes e hpath hbytes he => ?_, fun bytes base h => ofBytes_eq_ok h,
    fun base hbase => ?_⟩
  · obtain ⟨file, heq, hfile⟩ := settings_eq m flags
    have refused : fileSettings m flags = .error e := by
      simp [fileSettings, hpath, hbytes, he]
    rw [heq]
    exact ServerFlags.resolve_refused (hfile.trans refused) flags
  · obtain ⟨file, heq, hfile⟩ := settings_eq m flags
    rw [heq]
    exact ServerFlags.resolve_iff (allowed_of_fileSettings hbase) flags (hfile.trans hbase)

/-- A machine with one file. -/
def fileMachine (content : String) : Machine where
  reach := .isolated
  fileAt _ := .ok (Utf8.encode content)
  pid := "1"

/-- A file that puts a server at an address of the longer kind that maps a shorter one, in a scope. -/
def scopedFile : String :=
  "[server]\nlisten = \"[0:0::ffff:102:304%7]:7000\"\n[cluster]\nnode_count = 3\n"

/-- A command line that names a file, another port and the form of the log. -/
def portFlags : ServerFlags :=
  { config := some {}, port := some 7100, logFormat := some "json" }

theorem ofBytes_encode (content : String) :
    Settings.ofBytes (Utf8.encode content) = Settings.parse content := by
  unfold Settings.ofBytes
  rw [Utf8.decode?_encode]

/-- A port on the command line takes the place of the file's, and the address keeps its scope; a file
that plans no nodes is refused with the same command line. -/
theorem scoped_settings_resolved :
    (∃ base s, fileSettings (fileMachine scopedFile) portFlags = .ok base ∧
      settings (fileMachine scopedFile) portFlags = .ok s ∧ portFlags.Overrides base s ∧
      s.server.listen = "[::ffff:1.2.3.4%7]:7100" ∧ s.cluster.nodeCount = 3) ∧
    settings (fileMachine "[cluster]\nnode_count = 0\n") portFlags =
      .error (.config (.invalidValue "cluster.node_count" "must be greater than 0")) := by
  refine ⟨?_, ?_⟩
  · let base : Settings :=
      { server := { listen := "[0:0::ffff:102:304%7]:7000" }, cluster := { nodeCount := 3 } }
    have hbase : fileSettings (fileMachine scopedFile) portFlags = .ok base := by
      refine (ofBytes_encode scopedFile).trans ?_
      decide +kernel
    obtain ⟨exist, overrides⟩ :=
      (settings_resolved (fileMachine scopedFile) portFlags).2.2 base hbase
    obtain ⟨s, hs⟩ := exist.mpr ⟨by decide, Or.inr (Or.inr rfl)⟩
    have changed := overrides s hs
    refine ⟨base, s, hbase, hs, changed, ?_, ?_⟩
    · have listen : (settings (fileMachine scopedFile) portFlags).map (·.server.listen) =
          .ok "[::ffff:1.2.3.4%7]:7100" := by
        decide +kernel
      rw [hs] at listen
      exact Except.ok.inj listen
    · rw [changed.cluster]
  · refine (settings_resolved _ portFlags).1 {} _ _ rfl rfl ((ofBytes_encode _).trans ?_)
    decide +kernel

end ProgramRun
end ClusterControl
