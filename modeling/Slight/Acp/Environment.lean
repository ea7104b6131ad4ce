import Slight.Acp.Types
import Slight.Support.Upsert
import Slight.Support.Utf8

/-!
# Slight.Acp.Environment

The environment of an agent process: the allowed variables of the host, and over them
what the adapter's configuration and the launch ask for.

The variables of the host are bytes under a name.  `std::env::var` does not give those
that are no UTF-8, and so they are not passed on, allowed or not.
-/

namespace Slight

open Support Pairs

namespace Acp

/-- A path or a value of the platform. -/
abbrev OsString := List UInt8

def osString (text : String) : OsString := utf8 text.toList

/-- The variables of a process. -/
abbrev Environment := String → Option OsString

/-- `std::env::var`, where it is `Ok`. -/
def Environment.var (host : Environment) (key : String) : Option String :=
  (host key).bind fromUtf8?

def defaultEnvAllowlist : List String :=
  ["PATH", "HOME", "USER", "LOGNAME", "SHELL", "TMPDIR", "LANG", "LC_ALL", "LC_CTYPE", "TERM",
    "XDG_CONFIG_HOME", "XDG_DATA_HOME", "XDG_CACHE_HOME", "XDG_STATE_HOME", "XDG_RUNTIME_DIR"]

/-- The first pair of the key gets the value; if there is none, a new one is pushed. -/
def upsert (environment : List (String × String)) (key value : String) :
    List (String × String) :=
  match environment.findIdx? (·.1 = key) with
  | some index => environment.modify index fun (existing, _) => (existing, value)
  | none => environment ++ [(key, value)]

def sanitizedEnvironment (host : Environment) (allowlist : List String)
    (configEnvironment launchEnvironment : List (String × String)) : List (String × String) :=
  let environment := allowlist.foldl (fun environment key =>
    match host.var key with
    | some value => upsert environment key value
    | none => environment) []
  let environment := configEnvironment.foldl (fun environment (key, value) =>
    upsert environment key value) environment
  launchEnvironment.foldl (fun environment (key, value) => upsert environment key value)
    environment

/-! ## launching the broker -/

structure ChildSpec where
  program : OsString
  args : List String
  workingDirectory : Option OsString
  environment : List (String × String)
  inheritStderr : Bool
  envClear : Bool
  captureStderr : Bool

namespace ChildSpec

def new (program : OsString) : ChildSpec where
  program := program
  args := []
  workingDirectory := none
  environment := []
  inheritStderr := false
  envClear := false
  captureStderr := false

def addEnvironment (spec : ChildSpec) (key value : String) : ChildSpec :=
  { spec with environment := spec.environment ++ [(key, value)] }

/-- The environment `spawn` gives the child: `Command::env` for one pair after the other. -/
def childEnvironment (spec : ChildSpec) (host : Environment) : Environment :=
  spec.environment.foldl (fun child (key, value) =>
    Function.update child key (some (osString value)))
    (if spec.envClear then fun _ => none else host)

end ChildSpec

/-- What `build_spec` reads of an adapter's configuration. -/
structure CodexConfig where
  environment : List (String × String)
  extraArgs : List String

/-- What `build_spec` reads of a launch. -/
structure AgentLaunchConfig where
  environment : List (String × String)

/-- A resolved command line; a bundle brings variables of its own. -/
structure CodexLaunch where
  program : OsString
  args : List String
  environment : List (String × String)

/-- `resolved` is what `resolve_launch` has found. -/
def buildSpec (resolved : Except AcpError CodexLaunch) (host : Environment) (config : CodexConfig)
    (launch : AgentLaunchConfig) (cwd : Option OsString) : Except AcpError ChildSpec := do
  let resolved ← resolved
  let spec := { ChildSpec.new resolved.program with
    args := resolved.args ++ config.extraArgs, envClear := true, captureStderr := true }
  let spec := match cwd with
    | some cwd => { spec with workingDirectory := some cwd }
    | none => spec
  let spec := resolved.environment.foldl (fun spec (key, value) => spec.addEnvironment key value)
    spec
  let sanitized := sanitizedEnvironment host defaultEnvAllowlist config.environment
    launch.environment
  pure (sanitized.foldl (fun spec (key, value) => spec.addEnvironment key value) spec)

/-! ## what the environment says -/

theorem upsert_eq (environment : List (String × String)) (key value : String) :
    upsert environment key value = Pairs.upsert key value environment := by
  unfold upsert
  induction environment with
  | nil => rfl
  | cons pair environment ih =>
      obtain ⟨key', value'⟩ := pair
      rw [List.findIdx?_cons, Pairs.upsert]
      by_cases h : key' = key
      · rw [if_pos (decide_eq_true h), if_pos h]
        rfl
      · rw [if_neg (by simpa using h), if_neg h, ← ih]
        cases environment.findIdx? (·.1 = key) <;> rfl

/-- The allowed variables of the host that can be read. -/
def inherited (host : Environment) (allowlist : List String) : List (String × String) :=
  allowlist.filterMap fun key => (host.var key).map fun value => (key, value)

/-- The environment is one list of updates. -/
theorem sanitizedEnvironment_eq (host : Environment) (allowlist : List String)
    (configEnvironment launchEnvironment : List (String × String)) :
    sanitizedEnvironment host allowlist configEnvironment launchEnvironment =
      upsertAll (upsertAll (upsertAll [] (inherited host allowlist)) configEnvironment)
        launchEnvironment := by
  have hallowed : ∀ environment : List (String × String),
      allowlist.foldl (fun environment key =>
        match host.var key with
        | some value => upsert environment key value
        | none => environment) environment = upsertAll environment (inherited host allowlist) := by
    induction allowlist with
    | nil => exact fun _ => rfl
    | cons key allowlist ih =>
        intro environment
        rw [List.foldl_cons, ih, inherited, inherited, List.filterMap_cons]
        cases host.var key with
        | none => rfl
        | some value =>
            show upsertAll (upsert environment key value) _ = _
            rw [upsert_eq]
            rfl
  unfold sanitizedEnvironment
  rw [hallowed]
  simp only [upsert_eq]
  rfl

theorem lastValue_inherited (host : Environment) (allowlist : List String) (key : String) :
    lastValue (inherited host allowlist) key = if key ∈ allowlist then host.var key else none := by
  induction allowlist with
  | nil => rfl
  | cons key' allowlist ih =>
      rw [inherited, List.filterMap_cons, ← inherited]
      by_cases hkey : key = key'
      · rw [if_pos (List.mem_cons.mpr (.inl hkey)), ← hkey]
        cases hvar : host.var key with
        | none =>
            show lastValue (inherited host allowlist) key = none
            rw [ih, hvar, ite_self]
        | some value =>
            show lastValue ((key, value) :: inherited host allowlist) key = some value
            rw [lastValue_cons, ih, hvar, if_pos rfl]
            split <;> rfl
      · have hmem : key ∈ key' :: allowlist ↔ key ∈ allowlist :=
          ⟨fun h => (List.mem_cons.mp h).resolve_left hkey, List.mem_cons_of_mem _⟩
        rw [if_congr hmem rfl rfl, ← ih]
        cases host.var key' with
        | none => rfl
        | some value =>
            show lastValue ((key', value) :: inherited host allowlist) key = _
            rw [lastValue_cons, if_neg hkey, Option.or_none]

section

variable (host : Environment) (allowlist : List String)
  (configEnvironment launchEnvironment : List (String × String))

theorem nodup_keys_sanitizedEnvironment :
    (keys (sanitizedEnvironment host allowlist configEnvironment launchEnvironment)).Nodup := by
  have hnil : (keys ([] : List (String × String))).Nodup := List.nodup_nil
  rw [sanitizedEnvironment_eq]
  exact nodup_keys_upsertAll (nodup_keys_upsertAll (nodup_keys_upsertAll hnil _) _) _

/-- **Precedence**: the launch over the configuration over the host. -/
theorem lookup_sanitizedEnvironment (key : String) :
    (sanitizedEnvironment host allowlist configEnvironment launchEnvironment).lookup key =
      (lastValue launchEnvironment key).or ((lastValue configEnvironment key).or
        (if key ∈ allowlist then host.var key else none)) := by
  rw [sanitizedEnvironment_eq, lookup_upsertAll, lookup_upsertAll, lookup_upsertAll,
    lastValue_inherited, List.lookup_nil, Option.or_none]

theorem mem_keys_sanitizedEnvironment (key : String) :
    key ∈ keys (sanitizedEnvironment host allowlist configEnvironment launchEnvironment) ↔
      key ∈ keys launchEnvironment ∨ key ∈ keys configEnvironment ∨
        key ∈ allowlist ∧ (host.var key).isSome := by
  rw [← isSome_lookup, lookup_sanitizedEnvironment, Option.isSome_or, Option.isSome_or,
    Bool.or_eq_true, Bool.or_eq_true, isSome_lastValue, isSome_lastValue]
  by_cases hallowed : key ∈ allowlist <;> simp [hallowed]

/-- The list depends on the allowed variables of the host only. -/
theorem sanitizedEnvironment_congr {host' : Environment}
    (h : ∀ key ∈ allowlist, host'.var key = host.var key) :
    sanitizedEnvironment host' allowlist configEnvironment launchEnvironment =
      sanitizedEnvironment host allowlist configEnvironment launchEnvironment := by
  have hinherited : inherited host' allowlist = inherited host allowlist :=
    List.filterMap_congr fun key hkey => by rw [h key hkey]
  rw [sanitizedEnvironment_eq, sanitizedEnvironment_eq, hinherited]

end

/-! ## what the agent gets -/

/-- The last pair of a key counts, and what is there before is kept otherwise. -/
theorem foldl_update (pairs : List (String × String)) (base : Environment) (key : String) :
    pairs.foldl (fun child (key, value) =>
      Function.update child key (some (osString value))) base key =
      ((lastValue pairs key).map osString).or (base key) := by
  induction pairs generalizing base with
  | nil => rfl
  | cons pair pairs ih =>
      obtain ⟨key', value⟩ := pair
      rw [List.foldl_cons, ih, lastValue_cons]
      dsimp only
      cases lastValue pairs key with
      | some last => rfl
      | none =>
          by_cases hkey : key = key'
          · rw [hkey, Function.update_self, if_pos rfl]
            rfl
          · rw [Function.update_of_ne hkey, if_neg hkey]
            rfl

theorem foldl_addEnvironment (pairs : List (String × String)) (spec : ChildSpec) :
    pairs.foldl (fun spec (key, value) => spec.addEnvironment key value) spec =
      { spec with environment := spec.environment ++ pairs } := by
  induction pairs generalizing spec with
  | nil => rw [List.append_nil]; rfl
  | cons pair pairs ih =>
      rw [List.foldl_cons, ih]
      show ({ spec with environment := spec.environment ++ [pair] ++ pairs } : ChildSpec) = _
      rw [List.append_assoc, List.singleton_append]

/-- A spec lists the variables of the bundle first, and the host's are cleared. -/
theorem buildSpec_environment {resolved : CodexLaunch} {host : Environment} {config : CodexConfig}
    {launch : AgentLaunchConfig} {cwd : Option OsString} {spec : ChildSpec}
    (h : buildSpec (.ok resolved) host config launch cwd = .ok spec) :
    spec.envClear = true ∧ spec.environment = resolved.environment ++
      sanitizedEnvironment host defaultEnvAllowlist config.environment launch.environment := by
  have hspec := Except.ok.inj h
  rw [foldl_addEnvironment, foldl_addEnvironment] at hspec
  rw [← hspec]
  cases cwd <;> exact ⟨rfl, rfl⟩

/-- **The bundle's variables are defaults**: the agent gets the sanitized environment,
the bundle's value where that has none, and nothing else. -/
theorem childEnvironment_buildSpec {resolved : CodexLaunch} {host : Environment}
    {config : CodexConfig} {launch : AgentLaunchConfig} {cwd : Option OsString} {spec : ChildSpec}
    (h : buildSpec (.ok resolved) host config launch cwd = .ok spec) (key : String) :
    spec.childEnvironment host key =
      (((sanitizedEnvironment host defaultEnvAllowlist config.environment
        launch.environment).lookup key).or (lastValue resolved.environment key)).map osString := by
  obtain ⟨hclear, henvironment⟩ := buildSpec_environment h
  rw [ChildSpec.childEnvironment, foldl_update, henvironment, lastValue_append, hclear,
    lastValue_eq_lookup (nodup_keys_sanitizedEnvironment _ _ _ _)]
  exact Option.or_none

/-- **The agent's environment is the allowed one**: each key is there once; it is one that
the launch or the configuration gives, or an allowed one under which the host has a value
that is text; its value is the last one of the launch, else of the configuration, else the
host's; nothing else of the host matters; and in a bundle's launch the agent gets these
values, over the bundle's own. -/
theorem sanitizedEnvironment_exact (host : Environment) (allowlist : List String)
    (configEnvironment launchEnvironment : List (String × String)) :
    (keys (sanitizedEnvironment host allowlist configEnvironment launchEnvironment)).Nodup ∧
    (∀ key, key ∈ keys (sanitizedEnvironment host allowlist configEnvironment launchEnvironment) ↔
      key ∈ keys launchEnvironment ∨ key ∈ keys configEnvironment ∨
        key ∈ allowlist ∧ (host.var key).isSome) ∧
    (∀ key value,
      (key, value) ∈ sanitizedEnvironment host allowlist configEnvironment launchEnvironment ↔
        (lastValue launchEnvironment key).or ((lastValue configEnvironment key).or
          (if key ∈ allowlist then host.var key else none)) = some value) ∧
    (∀ host' : Environment, (∀ key ∈ allowlist, host'.var key = host.var key) →
      sanitizedEnvironment host' allowlist configEnvironment launchEnvironment =
        sanitizedEnvironment host allowlist configEnvironment launchEnvironment) ∧
    ∀ (resolved : CodexLaunch) (extraArgs : List String) (cwd : Option OsString),
      ∃ spec, buildSpec (.ok resolved) host ⟨configEnvironment, extraArgs⟩
        ⟨launchEnvironment⟩ cwd = .ok spec ∧
      ∀ key, spec.childEnvironment host key =
        (((sanitizedEnvironment host defaultEnvAllowlist configEnvironment
          launchEnvironment).lookup key).or (lastValue resolved.environment key)).map osString := by
  have hnodup := nodup_keys_sanitizedEnvironment host allowlist configEnvironment launchEnvironment
  refine ⟨hnodup, mem_keys_sanitizedEnvironment host allowlist _ _, fun key value => ?_,
    fun host' h => sanitizedEnvironment_congr host allowlist _ _ h,
    fun resolved extraArgs cwd => ⟨_, rfl, childEnvironment_buildSpec rfl⟩⟩
  rw [mem_iff_lookup hnodup, lookup_sanitizedEnvironment]

/-- A host whose `PATH` is set, to a byte that is no text. -/
theorem sanitizedEnvironment_not_text :
    ¬ ∀ (host : Environment) (allowlist : List String)
      (configEnvironment launchEnvironment : List (String × String)) (key : String),
      key ∈ keys (sanitizedEnvironment host allowlist configEnvironment launchEnvironment) ↔
        key ∈ keys launchEnvironment ∨ key ∈ keys configEnvironment ∨
          key ∈ allowlist ∧ (host key).isSome := by
  intro h
  have hpath := (h (fun key => if key = "PATH" then some [0xFF] else none) ["PATH"] [] []
    "PATH").mpr (by decide)
  revert hpath
  decide +kernel

end Acp

end Slight
