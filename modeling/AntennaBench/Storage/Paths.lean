import AntennaBench.Storage.Env

/-!
# Bundle paths and streams

Resolution of the file names a manifest declares, the active plan generation,
and the seven JSONL streams.
-/

namespace AntennaBench

inductive LiveStreamV2 where
  | adapterRecords
  | observations
  | events
  | rig
  | propagation
  | runtimeContexts
  | diagnostics
  deriving DecidableEq

namespace LiveStreamV2

def checkpointName : LiveStreamV2 → String
  | adapterRecords => "adapter_records"
  | observations => "observations"
  | events => "events"
  | rig => "rig"
  | propagation => "propagation"
  | runtimeContexts => "runtimeContexts"
  | diagnostics => "diagnostics"

end LiveStreamV2

/-- The five evidence streams every schema has, in the order of the source. -/
def allStreams : List LiveStreamV2 :=
  [.adapterRecords, .observations, .events, .rig, .propagation]

def operationalStreams : List LiveStreamV2 := [.runtimeContexts, .diagnostics]

/-- Splits a path text at its slashes. -/
def splitSlashes : List Char → List (List Char)
  | [] => [[]]
  | c :: rest =>
    if c = '/' then [] :: splitSlashes rest
    else match splitSlashes rest with
    | [] => [[c]]
    | part :: parts => (c :: part) :: parts

/-- `bundle_path`: the name must be one normal path component. -/
def bundlePath (relativePath : String) : Except BundleStoreError Path :=
  let parts := splitSlashes relativePath.toList
  if relativePath.toList.head? = some '/' ∨ ['.', '.'] ∈ parts then
    .error (.invalidBundlePath relativePath)
  else match parts.filter fun part => part ≠ [] ∧ part ≠ ['.'] with
  | [name] => .ok (.root (String.ofList name))
  | _ => .error (.invalidBundlePath relativePath)

structure ResolvedBundlePathsV2 where
  manifest : Path
  sessionState : Path
  station : Path
  antennas : Path
  schedule : Path
  events : Path
  observations : Path
  adapterRecords : Path
  rig : Path
  propagation : Path
  analysis : Path
  runtimeContexts : Option Path
  diagnostics : Option Path
  attachmentsDir : Path
  deriving DecidableEq

namespace ResolvedBundlePathsV2

def rootFiles (paths : ResolvedBundlePathsV2) : List Path :=
  [paths.manifest, paths.sessionState, paths.station, paths.antennas, paths.schedule,
    paths.events, paths.observations, paths.adapterRecords, paths.rig, paths.propagation,
    paths.analysis] ++ paths.runtimeContexts.toList ++ paths.diagnostics.toList

/-- What `ensure_unique` establishes. -/
def Unique (paths : ResolvedBundlePathsV2) : Prop :=
  (paths.rootFiles ++ [paths.attachmentsDir]).Nodup

instance (paths : ResolvedBundlePathsV2) : Decidable paths.Unique :=
  inferInstanceAs (Decidable (List.Nodup _))

/-- `stream_path`. A schema-v6 manifest always names its operational streams by
their canonical names, so the `expect` of the source cannot fail. -/
def stream (paths : ResolvedBundlePathsV2) : LiveStreamV2 → Path
  | .adapterRecords => paths.adapterRecords
  | .observations => paths.observations
  | .events => paths.events
  | .rig => paths.rig
  | .propagation => paths.propagation
  | .runtimeContexts => paths.runtimeContexts.getD (.root "runtime-contexts.jsonl")
  | .diagnostics => paths.diagnostics.getD (.root "diagnostics.jsonl")

/-- The path of an operational stream, when the manifest declares one. -/
def operational? (paths : ResolvedBundlePathsV2) : LiveStreamV2 → Option Path
  | .runtimeContexts => paths.runtimeContexts
  | .diagnostics => paths.diagnostics
  | _ => none

theorem stream_of_operational? {paths : ResolvedBundlePathsV2} {stream : LiveStreamV2}
    {path : Path} (h : paths.operational? stream = some path) : paths.stream stream = path := by
  cases stream <;> simp_all [operational?, ResolvedBundlePathsV2.stream]

/-- The three files of the active plan, with the names errors print. -/
def planFiles (paths : ResolvedBundlePathsV2) : List (String × Path) :=
  [("station", paths.station), ("antennas", paths.antennas), ("schedule", paths.schedule)]

end ResolvedBundlePathsV2

def ensureUnique (paths : ResolvedBundlePathsV2) : Except BundleStoreError Unit :=
  failIf (!decide paths.Unique) (.duplicateBundlePath "")

def v2Paths (files : BundleFilesV2) : Except BundleStoreError ResolvedBundlePathsV2 := do
  let paths : ResolvedBundlePathsV2 := {
    manifest := .root "manifest.json"
    sessionState := ← bundlePath files.sessionState
    station := ← bundlePath files.station
    antennas := ← bundlePath files.antennas
    schedule := ← bundlePath files.schedule
    events := ← bundlePath files.events
    observations := ← bundlePath files.observations
    adapterRecords := ← bundlePath files.adapterRecords
    rig := ← bundlePath files.rig
    propagation := ← bundlePath files.propagation
    analysis := ← bundlePath files.analysis
    runtimeContexts := ← files.runtimeContexts.mapM bundlePath
    diagnostics := ← files.diagnostics.mapM bundlePath
    attachmentsDir := ← bundlePath files.attachmentsDir }
  failIf (files.manifest != "manifest.json")
    (.invalidV2Bundle "v2 manifest must use the bootstrap path manifest.json")
  ensureUnique paths
  return paths

def isSafeComponent (c : Char) : Bool :=
  ('a' ≤ c && c ≤ 'z') || ('A' ≤ c && c ≤ 'Z') || ('0' ≤ c && c ≤ '9') || c == '-' || c == '_'

/-- `v2_paths_for_state`: the plan files move into the directory of the active
generation when there is one. -/
def v2PathsForState (files : BundleFilesV2) (state : SessionStateV2) (disk : Disk) :
    Except BundleStoreError ResolvedBundlePathsV2 := do
  let paths ← v2Paths files
  let id := state.activePlan.generationId
  failIf (id.isEmpty || !id.toList.all isSafeComponent)
    (.invalidV2Bundle "active plan generation identity is not a safe path component")
  if disk.generationDirs.contains id then
    let paths := { paths with
      station := .generation id "station.json"
      antennas := .generation id "antennas.json"
      schedule := .generation id "schedule.json" }
    ensureUnique paths
    return paths
  else
    return paths

theorem bundlePath_isRoot {name : String} {path : Path} (h : bundlePath name = .ok path) :
    path.isRoot = true := by
  simp only [bundlePath] at h
  split_ifs at h
  split at h
  · cases h
    rfl
  · cases h

theorem mapM_bundlePath_isRoot {name : Option String} {path : Option Path}
    (h : name.mapM bundlePath = .ok path) : ∀ p ∈ path, p.isRoot = true := by
  cases name with
  | none =>
    cases pure_eq_ok.1 h
    simp
  | some name =>
    obtain ⟨p, hp, h⟩ := bind_eq_ok.1 (show (bundlePath name >>= fun p => pure (some p)) = _ from h)
    cases pure_eq_ok.1 h
    simpa using bundlePath_isRoot hp

namespace ResolvedBundlePathsV2

/-- Paths the resolution can produce: distinct, and none below the attachments
directory; the checkpoint and the streams are entries of the root. -/
structure WellFormed (paths : ResolvedBundlePathsV2) : Prop where
  manifest : paths.manifest = .root "manifest.json"
  unique : paths.Unique
  sessionState : paths.sessionState.isRoot = true
  stream : ∀ stream, (paths.stream stream).isRoot = true
  plan : ∀ entry ∈ paths.planFiles, entry.2.isAttachment = false

/-- The streams that have a file of their own, in the order of the root files. -/
def ownStreams (paths : ResolvedBundlePathsV2) : List LiveStreamV2 :=
  [.events, .observations, .adapterRecords, .rig, .propagation] ++
    operationalStreams.filter fun stream => (paths.operational? stream).isSome

/-- The files a checkpoint describes, the manifest and the checkpoint itself. -/
def checkpointedFiles (paths : ResolvedBundlePathsV2) : List Path :=
  [paths.manifest, paths.sessionState, paths.station, paths.antennas, paths.schedule] ++
    paths.ownStreams.map paths.stream

theorem ownOperational_map (paths : ResolvedBundlePathsV2) :
    (operationalStreams.filter fun stream => (paths.operational? stream).isSome).map
      paths.stream = paths.runtimeContexts.toList ++ paths.diagnostics.toList := by
  cases hcontexts : paths.runtimeContexts <;> cases hdiagnostics : paths.diagnostics <;>
    simp [operationalStreams, operational?, ResolvedBundlePathsV2.stream, hcontexts, hdiagnostics]

theorem Unique.checkpointedFiles_nodup {paths : ResolvedBundlePathsV2} (h : paths.Unique) :
    paths.checkpointedFiles.Nodup := by
  refine List.Nodup.sublist ?_ (List.nodup_append.1 h).1
  rw [checkpointedFiles, ownStreams, List.map_append, ownOperational_map, rootFiles,
    ← List.append_assoc, List.append_assoc _ paths.runtimeContexts.toList]
  refine List.Sublist.append_right ?_ _
  exact List.sublist_append_left _ [paths.analysis]

theorem Unique.stream_injective {paths : ResolvedBundlePathsV2} (h : paths.Unique)
    {a b : LiveStreamV2} (ha : a ∈ paths.ownStreams) (hb : b ∈ paths.ownStreams)
    (heq : paths.stream a = paths.stream b) : a = b :=
  List.inj_on_of_nodup_map (List.nodup_append.1 h.checkpointedFiles_nodup).2.1 ha hb heq

end ResolvedBundlePathsV2

theorem v2Paths_isRoot {files : BundleFilesV2} {paths : ResolvedBundlePathsV2}
    (h : v2Paths files = .ok paths) :
    paths.manifest = .root "manifest.json" ∧ paths.Unique ∧
      ∀ p ∈ paths.rootFiles, p.isRoot = true := by
  simp only [v2Paths, bind_eq_ok, pure_eq_ok, failIf_eq_ok, ensureUnique] at h
  obtain ⟨_, _, _, _, _, _, _, _, _, _, _, _, _, _, _, _, _, _, _, _, _, hcontexts, _,
    hdiagnostics, _, _, _, _, _, hunique, rfl⟩ := h
  refine ⟨rfl, by simpa using hunique, ?_⟩
  simp only [ResolvedBundlePathsV2.rootFiles, List.mem_append, List.mem_cons, List.not_mem_nil,
    or_false, Option.mem_toList]
  rintro p ((hp | hp) | hp)
  · rcases hp with rfl | rfl | rfl | rfl | rfl | rfl | rfl | rfl | rfl | rfl | rfl
    · rfl
    all_goals exact bundlePath_isRoot (by assumption)
  · exact mapM_bundlePath_isRoot hcontexts p hp
  · exact mapM_bundlePath_isRoot hdiagnostics p hp

namespace ResolvedBundlePathsV2

/-- The plan files of one generation. -/
def inGeneration (paths : ResolvedBundlePathsV2) (id : String) : ResolvedBundlePathsV2 :=
  { paths with
    station := .generation id "station.json"
    antennas := .generation id "antennas.json"
    schedule := .generation id "schedule.json" }

theorem stream_isRoot {paths : ResolvedBundlePathsV2}
    (h : ∀ p ∈ paths.rootFiles, p.isRoot = true) (stream : LiveStreamV2) :
    (paths.stream stream).isRoot = true := by
  cases stream <;> simp only [ResolvedBundlePathsV2.stream]
  case runtimeContexts =>
    cases hp : paths.runtimeContexts with
    | none => rfl
    | some p => exact h p (by simp [rootFiles, hp])
  case diagnostics =>
    cases hp : paths.diagnostics with
    | none => rfl
    | some p => exact h p (by simp [rootFiles, hp])
  all_goals exact h _ (by simp [rootFiles])

end ResolvedBundlePathsV2

/-- The active paths are the bootstrap ones, or those with the plan of a generation. -/
theorem v2PathsForState_cases {files : BundleFilesV2} {state : SessionStateV2} {disk : Disk}
    {paths : ResolvedBundlePathsV2} (h : v2PathsForState files state disk = .ok paths) :
    ∃ bootstrap, v2Paths files = .ok bootstrap ∧ paths.Unique ∧
      ((state.activePlan.generationId ∈ disk.generationDirs ∧
          paths = bootstrap.inGeneration state.activePlan.generationId) ∨
        (state.activePlan.generationId ∉ disk.generationDirs ∧ paths = bootstrap)) := by
  simp only [v2PathsForState, bind_eq_ok, failIf_eq_ok] at h
  obtain ⟨bootstrap, hbootstrap, _, _, h⟩ := h
  refine ⟨bootstrap, hbootstrap, ?_⟩
  by_cases hgeneration : state.activePlan.generationId ∈ disk.generationDirs
  · simp only [List.contains_eq_mem, hgeneration, decide_true, if_true, bind_eq_ok, ensureUnique,
      failIf_eq_ok, pure_eq_ok] at h
    obtain ⟨_, hunique, rfl⟩ := h
    exact ⟨by simpa using hunique, .inl ⟨hgeneration, rfl⟩⟩
  · simp only [List.contains_eq_mem, hgeneration, decide_false, Bool.false_eq_true, if_false,
      pure_eq_ok] at h
    subst h
    exact ⟨(v2Paths_isRoot hbootstrap).2.1, .inr ⟨hgeneration, rfl⟩⟩

theorem v2PathsForState_wellFormed {files : BundleFilesV2} {state : SessionStateV2} {disk : Disk}
    {paths : ResolvedBundlePathsV2} (h : v2PathsForState files state disk = .ok paths) :
    paths.WellFormed := by
  obtain ⟨bootstrap, hbootstrap, hunique, hpaths⟩ := v2PathsForState_cases h
  obtain ⟨hmanifest, -, hroot⟩ := v2Paths_isRoot hbootstrap
  have hstate : bootstrap.sessionState.isRoot = true :=
    hroot _ (by simp [ResolvedBundlePathsV2.rootFiles])
  rcases hpaths with ⟨-, rfl⟩ | ⟨-, rfl⟩
  · exact ⟨hmanifest, hunique, hstate, fun stream => by
      simpa only [ResolvedBundlePathsV2.inGeneration, ResolvedBundlePathsV2.stream] using
        ResolvedBundlePathsV2.stream_isRoot hroot stream, by
      simp [ResolvedBundlePathsV2.planFiles, ResolvedBundlePathsV2.inGeneration,
        Path.isAttachment]⟩
  · refine ⟨hmanifest, hunique, hstate, ResolvedBundlePathsV2.stream_isRoot hroot, ?_⟩
    intro entry hentry
    refine Path.isAttachment_of_isRoot (hroot _ ?_)
    simp only [ResolvedBundlePathsV2.planFiles, List.mem_cons, List.not_mem_nil, or_false] at hentry
    rcases hentry with rfl | rfl | rfl <;> simp [ResolvedBundlePathsV2.rootFiles]

end AntennaBench
