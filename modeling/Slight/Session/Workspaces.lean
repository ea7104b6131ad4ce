import Slight.Session.Lifecycle
import Slight.Session.Reads

/-!
# Slight.Session.Workspaces

The directories the manager knows of.  Two loops fill one list of distinct paths,
and each checks the bound after it has added a path: what `pushPaths` adds
(`pushPaths_eq`) is at least one path, whatever the limit, if there is a new one.
-/

namespace Slight

open Support Program

variable {S C : Type}

/-! ## one loop -/

/-- The paths that are not there yet, each once, in order. -/
def newPaths (paths more : List String) : List String :=
  (more.filter fun path => path ∉ paths).eraseDups

theorem nodup_newPaths (paths more : List String) : (newPaths paths more).Nodup :=
  nodup_eraseDups _

theorem mem_newPaths {paths more : List String} {path : String} :
    path ∈ newPaths paths more ↔ path ∈ more ∧ path ∉ paths := by
  rw [newPaths, List.mem_eraseDups, List.mem_filter, decide_eq_true_eq]

theorem newPaths_eq_nil {paths more : List String} :
    newPaths paths more = [] ↔ ∀ path ∈ more, path ∈ paths := by
  rw [List.eq_nil_iff_forall_not_mem]
  constructor
  · intro h path hpath
    by_contra hnew
    exact h path (mem_newPaths.mpr ⟨hpath, hnew⟩)
  · intro h path hpath
    obtain ⟨hmore, hnew⟩ := mem_newPaths.mp hpath
    exact hnew (h path hmore)

theorem newPaths_cons_of_mem {paths more : List String} {path : String} (h : path ∈ paths) :
    newPaths paths (path :: more) = newPaths paths more := by
  rw [newPaths, List.filter_cons_of_neg (by simp [h]), newPaths]

theorem newPaths_cons_of_notMem {paths more : List String} {path : String} (h : path ∉ paths) :
    newPaths paths (path :: more) = path :: newPaths (paths ++ [path]) more := by
  rw [newPaths, List.filter_cons_of_pos (by simp [h]), List.eraseDups_cons, List.filter_filter,
    newPaths]
  refine congrArg (path :: List.eraseDups ·) (List.filter_congr fun other _ => ?_)
  by_cases heq : other = path <;> simp [heq]

/-- **One loop** adds the new paths up to the limit, and the first one in any case. -/
theorem pushPaths_eq (limit : Nat) (paths more : List String) :
    (pushPaths limit paths more).1 =
      paths ++ (newPaths paths more).take (max 1 (limit - paths.length)) := by
  induction more generalizing paths with
  | nil =>
      rw [pushPaths, newPaths, List.filter_nil, List.eraseDups_nil, List.take_nil, List.append_nil]
  | cons path more ih =>
      rw [pushPaths]
      by_cases hmem : path ∈ paths
      · rw [if_pos hmem, ih, newPaths_cons_of_mem hmem]
      · rw [if_neg hmem, newPaths_cons_of_notMem hmem]
        rw [List.length_append, List.length_singleton]
        split
        · next hfull =>
            have hone : max 1 (limit - paths.length) = 1 := by omega
            rw [hone, List.take_succ_cons, List.take_zero]
        · next hroom =>
            have hnext : max 1 (limit - paths.length) =
                max 1 (limit - (paths.length + 1)) + 1 := by omega
            rw [ih, List.length_append, List.length_singleton, hnext, List.take_succ_cons,
              List.append_assoc, List.singleton_append]

/-- Stopping at the limit is stopping for good. -/
theorem pushPaths_append (limit : Nat) (paths more others : List String) :
    (pushPaths limit paths (more ++ others)).1 =
      match pushPaths limit paths more with
      | (paths, true) => paths
      | (paths, false) => (pushPaths limit paths others).1 := by
  induction more generalizing paths with
  | nil => rfl
  | cons path more ih =>
      rw [List.cons_append, pushPaths, pushPaths]
      split
      · exact ih paths
      · split
        · rfl
        · exact ih (paths ++ [path])

/-- Distinct paths stay distinct. -/
theorem nodup_pushPaths {paths : List String} (h : paths.Nodup) (limit : Nat)
    (more : List String) : (pushPaths limit paths more).1.Nodup := by
  rw [pushPaths_eq]
  refine List.nodup_append.mpr ⟨h, (nodup_newPaths paths more).sublist (List.take_sublist _ _), ?_⟩
  intro path hpath other hother heq
  exact (mem_newPaths.mp (List.mem_of_mem_take hother)).2 (heq ▸ hpath)

/-! ## both loops -/

/-- The directories of sessions, the most recently active first. -/
def recentLabels (summaries : List SessionSummary) : List String :=
  ((byActivity summaries).map (·.workingDirectoryLabel)).eraseDups

theorem perm_byActivity (summaries : List SessionSummary) :
    (byActivity summaries).Perm summaries :=
  List.perm_insertionSort _ summaries

theorem pairwise_byActivity (summaries : List SessionSummary) :
    (byActivity summaries).Pairwise fun a b => b.lastActivityAtMs ≤ a.lastActivityAtMs := by
  have htotal : Std.Total fun a b : SessionSummary => b.lastActivityAtMs ≤ a.lastActivityAtMs :=
    ⟨fun a b => Int.le_total b.lastActivityAtMs a.lastActivityAtMs⟩
  have htrans : IsTrans SessionSummary fun a b => b.lastActivityAtMs ≤ a.lastActivityAtMs :=
    ⟨fun _ _ _ hab hbc => Int.le_trans hbc hab⟩
  exact List.pairwise_insertionSort _ summaries

theorem recentLabels_eq_nil {summaries : List SessionSummary} :
    recentLabels summaries = [] ↔ summaries = [] := by
  rw [List.eq_nil_iff_forall_not_mem, List.eq_nil_iff_forall_not_mem]
  constructor
  · intro h summary hsummary
    refine h summary.workingDirectoryLabel (List.mem_eraseDups.mpr (List.mem_map.mpr ?_))
    exact ⟨summary, (perm_byActivity summaries).mem_iff.mpr hsummary, rfl⟩
  · intro h label hlabel
    obtain ⟨summary, hsummary, -⟩ := List.mem_map.mp (List.mem_eraseDups.mp hlabel)
    exact h summary ((perm_byActivity summaries).mem_iff.mp hsummary)

/-- What the list of directories should be: at most `limit`, distinct, those of the
sessions first, by newest activity and as many as fit, and then only what agents
advertise. -/
structure RecentFirst (limit : Nat) (summaries : List SessionSummary)
    (advertised paths : List String) : Prop where
  bounded : paths.length ≤ limit
  distinct : paths.Nodup
  recent : ∃ (newest : List SessionSummary) (others : List String), newest.Perm summaries ∧
    (newest.Pairwise fun a b => b.lastActivityAtMs ≤ a.lastActivityAtMs) ∧
    paths = ((newest.map (·.workingDirectoryLabel)).eraseDups).take limit ++ others ∧
    ∀ path ∈ others, path ∈ advertised

/-- The first loop, over the sessions. -/
theorem pushPaths_labels (limit : Nat) (summaries : List SessionSummary) :
    (pushPaths limit [] ((byActivity summaries).map (·.workingDirectoryLabel))).1 =
      (recentLabels summaries).take (max 1 limit) := by
  rw [pushPaths_eq, newPaths, List.filter_eq_self.mpr (by simp), List.nil_append,
    List.length_nil, Nat.sub_zero, recentLabels]

/-- A limit of 0 that meets no path is kept by the first loop. -/
theorem take_labels {limit : Nat} {summaries : List SessionSummary}
    (hnone : limit = 0 → summaries = []) :
    (recentLabels summaries).take (max 1 limit) = (recentLabels summaries).take limit := by
  by_cases hzero : limit = 0
  · rw [recentLabels_eq_nil.mpr (hnone hzero), List.take_nil, List.take_nil]
  · rw [max_eq_right (by omega)]

/-- **Both loops**: the list is what it should be exactly if the second loop adds
nothing to a list that the first has filled, and a limit of 0 meets no path at
all. -/
theorem recentFirst_iff (limit : Nat) (summaries : List SessionSummary)
    (advertised : List String) :
    RecentFirst limit summaries advertised
        (pushPaths limit ((recentLabels summaries).take (max 1 limit)) advertised).1 ↔
      (limit = 0 → summaries = []) ∧
        (limit ≤ (recentLabels summaries).length →
          ∀ path ∈ advertised, path ∈ (recentLabels summaries).take limit) := by
  constructor
  · intro h
    have hbounded := h.bounded
    rw [pushPaths_eq, List.length_append, List.length_take, List.length_take] at hbounded
    have hnone : limit = 0 → summaries = [] := by
      rintro rfl
      refine recentLabels_eq_nil.mp (List.length_eq_zero_iff.mp ?_)
      omega
    refine ⟨hnone, fun hfull => ?_⟩
    rw [take_labels hnone] at hbounded
    refine newPaths_eq_nil.mp (List.length_eq_zero_iff.mp ?_)
    omega
  · rintro ⟨hnone, hfull⟩
    rw [take_labels hnone]
    refine ⟨?_, ?_, byActivity summaries, _, perm_byActivity summaries,
      pairwise_byActivity summaries, pushPaths_eq limit _ advertised, fun path hpath => ?_⟩
    · rw [pushPaths_eq, List.length_append, List.length_take, List.length_take]
      by_cases hroom : limit ≤ (recentLabels summaries).length
      · rw [newPaths_eq_nil.mpr (hfull hroom), List.length_nil]
        omega
      · omega
    · refine nodup_pushPaths ?_ limit advertised
      exact (nodup_eraseDups _).sublist (List.take_sublist _ _)
    · exact (mem_newPaths.mp (List.mem_of_mem_take hpath)).1

/-! ## the agents -/

namespace Manager

section

variable [AcpSession C] [AcpDiscovery C]

/-- What some agents advertise, asked one after the other. -/
def pathsOfAgents : List AgentKind → Manager S C (List String)
  | [] => pure []
  | agent :: agents => do
      match ← (listAgentSessions agent none none).attempt with
      | .error _ => pathsOfAgents agents
      | .ok page => do
          let others ← pathsOfAgents agents
          pure (page.sessions.map (·.cwd) ++ others)

/-- What the available agents advertise. -/
def advertisedPaths : Manager S C (List String) := do
  let agents ← availableKinds
  pathsOfAgents agents

/-- Asking agents does not fail. -/
theorem completes_pathsOfAgents (agents : List AgentKind) :
    (pathsOfAgents agents : Manager S C _).Completes fun _ => True := by
  induction agents with
  | nil => exact completes_pure _
  | cons agent agents ih =>
      refine completes_bind (completes_attempt fun _ _ => trivial) fun outcome => ?_
      cases outcome with
      | error error => exact ih
      | ok page => exact completes_bind ih fun _ => completes_pure _

/-- The second loop goes over all that is advertised, though it asks no agent after
it has stopped. -/
theorem result_addAgentPaths (limit : Nat) (agents : List AgentKind) (paths : List String)
    (world : World S C) {advertised : List String}
    (h : (pathsOfAgents agents).result world = .ok advertised) :
    (addAgentPaths limit agents paths).result world =
      .ok (pushPaths limit paths advertised).1 := by
  induction agents generalizing paths world advertised with
  | nil =>
      obtain rfl := Except.ok.inj h
      rfl
  | cons agent agents ih =>
      rw [result, pathsOfAgents, exec_bind, exec_attempt] at h
      rw [result, addAgentPaths, exec_bind, exec_attempt]
      dsimp only at h ⊢
      cases hpage : (listAgentSessions agent none none).result world with
      | error error =>
          rw [hpage] at h
          exact ih paths _ h
      | ok page =>
          rw [hpage] at h
          dsimp only at h ⊢
          obtain ⟨others, world', hothers, -⟩ := completes_pathsOfAgents agents
            ((listAgentSessions agent none none).final world) trivial
          rw [exec_bind, hothers] at h
          obtain rfl := Except.ok.inj h
          rw [pushPaths_append]
          cases pushPaths limit paths (page.sessions.map (·.cwd)) with
          | mk paths' stopped =>
              cases stopped with
              | true => rfl
              | false => exact ih paths' _ (congrArg Prod.fst hothers)

/-- The directories are what two loops make of the sessions and of what is
advertised. -/
theorem result_workspacePaths (limit : Nat) (world : World S C) :
    ∃ advertised, advertisedPaths.result world = .ok advertised ∧
      (workspacePaths limit).result world =
        .ok (pushPaths limit ((recentLabels world.inner.summaries).take (max 1 limit))
          advertised).1 := by
  obtain ⟨kinds, world', hkinds⟩ : ∃ kinds world',
      (availableKinds : Manager S C _).exec world = (.ok kinds, world') := ⟨_, _, rfl⟩
  obtain ⟨advertised, world'', hadvertised, -⟩ := completes_pathsOfAgents kinds world' trivial
  refine ⟨advertised, ?_, ?_⟩
  · rw [result, advertisedPaths, exec_bind, hkinds]
    exact congrArg Prod.fst hadvertised
  · rw [result, workspacePaths, exec_bind]
    show (((availableKinds : Manager S C _) >>= fun agents => addAgentPaths limit agents
      (pushPaths limit []
        ((byActivity world.inner.summaries).map (·.workingDirectoryLabel))).1).exec world).1 = _
    rw [exec_bind, hkinds, pushPaths_labels]
    exact result_addAgentPaths limit kinds _ world' (congrArg Prod.fst hadvertised)

end

end Manager

section

variable [AcpSession C] [AcpDiscovery C]

/-- **Workspace paths** are bounded, distinct and recent first exactly if no agent
advertises a path that is new to a list the sessions have filled, and a limit of 0
meets neither sessions nor advertised paths. -/
theorem workspace_paths_recent_iff (world : World S C) (limit : Nat) :
    ∃ paths advertised, (Manager.workspacePaths limit).result world = .ok paths ∧
      Manager.advertisedPaths.result world = .ok advertised ∧
      (RecentFirst limit world.inner.summaries advertised paths ↔
        (limit = 0 → world.inner.summaries = []) ∧
          (limit ≤ (recentLabels world.inner.summaries).length →
            ∀ path ∈ advertised, path ∈ (recentLabels world.inner.summaries).take limit)) := by
  obtain ⟨advertised, hadvertised, hpaths⟩ := Manager.result_workspacePaths limit world
  exact ⟨_, advertised, hpaths, hadvertised, recentFirst_iff limit world.inner.summaries advertised⟩

end

/-! ## twenty sessions and an agent -/

/-- An agent that advertises a session in each of some directories. -/
structure ListingAgent where
  paths : List String

namespace ListingAgent

instance : AcpSession ListingAgent where
  initializeAgent agent :=
    (.ok {
      protocolVersion := 1
      agentName := none
      agentTitle := none
      agentVersion := none
      agentCapabilities := { loadSession := false, sessionList := true, sessionResume := false } },
      agent)
  newSession agent _ := (.ok (ScriptedAgent.metadata "native"), agent)
  loadSession agent agentSessionId _ := (.ok (ScriptedAgent.metadata agentSessionId), agent)
  resumeSession agent agentSessionId _ := (.ok (ScriptedAgent.metadata agentSessionId), agent)
  prompt agent _ := (.ok (), agent)
  cancel agent := (.ok (), agent)
  respondPermission agent _ := (.ok (), agent)
  setMode agent _ := (.ok (), agent)
  setConfigOption agent _ _ := (.ok [], agent)
  drain agent := ([], agent)
  isRunning agent := (true, agent)

instance : AcpDiscovery ListingAgent where
  listSessions agent _ _ :=
    (.ok {
      sessions := agent.paths.map fun path => {
        agentSessionId := "native"
        cwd := path
        additionalDirectories := []
        title := none
        updatedAt := none }
      nextCursor := none }, agent)
  isAvailable _ _ := true

def adapter (paths : List String) : AgentAdapter ListingAgent where
  kind := .fake
  descriptor := { kind := .fake, displayName := "Fake", version := none }
  spawnSession _ _ := .ok ⟨paths⟩

end ListingAgent

/-- A manager with recovered sessions in the directories `a`, `aa` and so on, and an
agent that advertises `b`. -/
def sampleWorkspaces (sessions : Nat) : World SqliteStore ListingAgent :=
  let world : World SqliteStore ListingAgent :=
    SessionManager.new sampleEnv 0 [ListingAgent.adapter ["b"]] (SqliteStore.empty 0) 1
  let lost (n : Nat) : RecoveredSession := {
    summary := { sampleSummary with workingDirectoryLabel := String.ofList (List.replicate n 'a') }
    descriptor := { kind := .fake, displayName := "Fake", version := none }
    agentSessionId := none
    journal := [] }
  { world with
    inner := { world.inner with
      recovered := (List.range' 1 sessions).foldl
        (fun recovered n => recovered.insert (String.ofList (List.replicate n 's')) (lost n)) ∅ } }

/-- The gateway asks for 20 directories.  With 20 directories of sessions it gets one
more. -/
theorem workspace_paths_exceed :
    ((Manager.workspacePaths 20).result (sampleWorkspaces 20)).toOption.map (·.length) =
        some 21 ∧
      ∀ paths, (Manager.workspacePaths 20).result (sampleWorkspaces 20) = .ok paths →
        ∀ advertised, ¬ RecentFirst 20 (sampleWorkspaces 20).inner.summaries advertised paths := by
  have hlength : ((Manager.workspacePaths 20).result (sampleWorkspaces 20)).toOption.map
      (·.length) = some 21 := by decide +kernel
  refine ⟨hlength, fun paths hpaths advertised h => ?_⟩
  rw [hpaths] at hlength
  have hbounded := h.bounded
  have hpaths : paths.length = 21 := Option.some.inj hlength
  omega

end Slight
