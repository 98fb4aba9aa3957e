import AntennaBench.Core.Current
import AntennaBench.Storage.MutationV3

/-!
# Mutations of a schema-v2 session

What `LiveSessionV2::append` decides in memory: whether the mutation was
committed before, whether it is admitted, and then the next bundle. The heads of
its checkpoint are read back from the stream files, and the strict report on the
projected candidate is the validation of the core crate; both are parameters.
-/

namespace AntennaBench

inductive LiveMutationMemberV2 where
  | event (record : OperatorEventV2)
  | adapterRecord (record : AdapterRecordV2)
  | observation (record : ObservationRecordV2)
  | rig (record : RigRecordV2)
  | propagation (record : PropagationRecordV2)
  deriving BEq

structure LiveMutationV2 where
  expectedRevision : ℕ
  mutationId : String
  members : List LiveMutationMemberV2

namespace LiveMutationMemberV2

def stream : LiveMutationMemberV2 → LiveStreamV2
  | event _ => .events
  | adapterRecord _ => .adapterRecords
  | observation _ => .observations
  | rig _ => .rig
  | propagation _ => .propagation

def recordId : LiveMutationMemberV2 → String
  | event record => record.eventId
  | adapterRecord record => record.recordId
  | observation record => record.observationId
  | rig record => record.recordId
  | propagation record => record.recordId

def recordMeta : LiveMutationMemberV2 → RecordMetaV2
  | event record => record.recordMeta
  | adapterRecord record => record.recordMeta
  | observation record => record.recordMeta
  | rig record => record.recordMeta
  | propagation record => record.recordMeta

def setMeta (recordMeta : RecordMetaV2) : LiveMutationMemberV2 → LiveMutationMemberV2
  | event record => event { record with recordMeta }
  | adapterRecord record => adapterRecord { record with recordMeta }
  | observation record => observation { record with recordMeta }
  | rig record => rig { record with recordMeta }
  | propagation record => propagation { record with recordMeta }

def appendTo (bundle : BundleV2Contents) : LiveMutationMemberV2 → BundleV2Contents
  | event record => { bundle with events := bundle.events ++ [record] }
  | adapterRecord record => { bundle with adapterRecords := bundle.adapterRecords ++ [record] }
  | observation record => { bundle with observations := bundle.observations ++ [record] }
  | rig record => { bundle with rig := bundle.rig ++ [record] }
  | propagation record => { bundle with propagation := bundle.propagation ++ [record] }

def serializedLine (E : Env) : LiveMutationMemberV2 → Bytes
  | event record => E.eventV2.toVec record ++ [newline]
  | adapterRecord record => E.adapterRecord.toVec record ++ [newline]
  | observation record => E.observation.toVec record ++ [newline]
  | rig record => E.rigV2.toVec record ++ [newline]
  | propagation record => E.propagation.toVec record ++ [newline]

/-- The order of `sort_by_key(|member| member.meta().mutation.member_index)`. -/
def Before (a b : LiveMutationMemberV2) : Prop :=
  a.recordMeta.mutation.memberIndex ≤ b.recordMeta.mutation.memberIndex

instance : DecidableRel Before := fun _ _ => inferInstanceAs (Decidable (_ ≤ _))

def isEvent : LiveMutationMemberV2 → Bool
  | event _ => true
  | _ => false

end LiveMutationMemberV2

/-- The position of a stream in the order of the enumeration. -/
def LiveStreamV2.order : LiveStreamV2 → ℕ
  | adapterRecords => 0
  | observations => 1
  | events => 2
  | rig => 3
  | propagation => 4
  | runtimeContexts => 5
  | diagnostics => 6

/-- The lines of a mutation in the order of their streams. -/
def LiveMutationV2.serialized (E : Env) (mutation : LiveMutationV2) :
    List (LiveStreamV2 × Bytes) :=
  (mutation.members.map fun member => (member.stream, member.serializedLine E)).insertionSort
    fun a b => a.1.order ≤ b.1.order

namespace BundleV2Contents

def members (bundle : BundleV2Contents) : List LiveMutationMemberV2 :=
  bundle.events.map .event ++ bundle.adapterRecords.map .adapterRecord ++
    bundle.observations.map .observation ++ bundle.rig.map .rig ++
    bundle.propagation.map .propagation

end BundleV2Contents

def committedMutation? (bundle : BundleV2Contents) (mutationId : String) :
    Option (List LiveMutationMemberV2) :=
  let members := bundle.members.filter (·.recordMeta.mutation.mutationId == mutationId)
  if members.isEmpty then none else some (members.insertionSort LiveMutationMemberV2.Before)

/-- The proposed member under the envelope of the existing one; provenance and runtime
context stay its own. -/
def sameBusinessMember (existing proposed : LiveMutationMemberV2) : Bool :=
  existing == proposed.setMeta { proposed.recordMeta with
    schemaVersion := existing.recordMeta.schemaVersion
    sessionId := existing.recordMeta.sessionId
    recordedAt := existing.recordMeta.recordedAt
    mutation := existing.recordMeta.mutation }

def sameBusinessMembers (existing proposed : List LiveMutationMemberV2) : Bool :=
  allSame sameBusinessMember existing (proposed.insertionSort LiveMutationMemberV2.Before)

/-- The member at one index of the sorted batch. -/
def prepareMember (sessionId mutationId : String) (recordedAt : DateTime) (memberCount : ℕ)
    (entry : LiveMutationMemberV2 × ℕ) : Except LivePersistenceError LiveMutationMemberV2 := do
  let (member, index) := entry
  failIf member.recordId.isEmpty (.invalidMutation "record identities must not be empty")
  failIf (member.recordMeta.mutation.memberIndex != index)
    (.invalidMutation "member indexes must be contiguous from zero")
  return member.setMeta { member.recordMeta with
    schemaVersion := schemaVersionV2
    sessionId := sessionId
    recordedAt := recordedAt
    mutation := ⟨mutationId, member.recordMeta.mutation.memberIndex, memberCount⟩ }

def prepareMutation (mutation : LiveMutationV2) (sessionId : String) (recordedAt : DateTime) :
    Except LivePersistenceError LiveMutationV2 := do
  failIf (mutation.mutationId.isEmpty || mutation.members.isEmpty)
    (.invalidMutation "mutation ID and members must not be empty")
  failIf (2 ^ 32 ≤ mutation.members.length) (.invalidMutation "mutation has too many members")
  let members ← (mutation.members.insertionSort LiveMutationMemberV2.Before).zipIdx.mapM
    (prepareMember sessionId mutation.mutationId recordedAt mutation.members.length)
  return { mutation with members }

def envelopeMatches (bundle : BundleV2Contents) (mutation : LiveMutationV2)
    (entry : LiveMutationMemberV2 × ℕ) : Bool :=
  let recordMeta := entry.1.recordMeta
  recordMeta.schemaVersion == schemaVersionV2 &&
    recordMeta.sessionId == bundle.manifest.sessionId &&
    recordMeta.mutation == ⟨mutation.mutationId, entry.2, mutation.members.length⟩

/-- The lifecycle the committed events start from. -/
def initialLifecycle (bundle : BundleV2Contents) : SessionLifecycleV2 :=
  if bundle.events.isEmpty then bundle.sessionState.lifecycle
  else if bundle.events.any (fun event => match event.payload with
      | .sessionStarted _ => true
      | _ => false) then .ready
  else .draft

/-- The identities met, the lifecycle so far and the number of events. -/
structure AdmissionScan where
  ids : List String
  lifecycle : SessionLifecycleV2
  eventCount : ℕ

def admitMember (bundle : BundleV2Contents) (expectedRevision : ℕ) (scan : AdmissionScan)
    (member : LiveMutationMemberV2) : Except LivePersistenceError AdmissionScan := do
  failIf (scan.ids.contains member.recordId) (duplicateIdentity member.recordId)
  let scan := { scan with ids := member.recordId :: scan.ids }
  match member with
  | .event event =>
    let revision := bundle.sessionState.revision
    let _ ← (validateOperatorEventAppendV2 (initialLifecycle bundle) revision expectedRevision
      bundle.events event).mapError fun error => .invalidMutation error.text
    if event.payload.isLifecycle then
      let lifecycle ← (validateLifecycleTransitionV2 scan.lifecycle revision expectedRevision
        event.payload).mapError fun error => .invalidMutation error.text
      return { scan with lifecycle, eventCount := scan.eventCount + 1 }
    else return { scan with eventCount := scan.eventCount + 1 }
  | _ => return scan

def antennaInPlan (labels : List String) (member : LiveMutationMemberV2) :
    Except LivePersistenceError Unit :=
  match member with
  | .event { payload := .antennaStateConfirmed antennaLabel _, .. } =>
    failIf (!labels.contains antennaLabel)
      (.invalidMutation ("actual antenna label " ++ debugString antennaLabel ++
        " is not in the active plan"))
  | _ => .ok ()

/-- An adapter record that both is named by the record and links it. -/
def hasReciprocalLink (adapters : List AdapterRecordV2) (kind : NormalizedRecordKind)
    (recordId : String) (adapterRecordIds : List String) : Bool :=
  !adapterRecordIds.isEmpty && adapterRecordIds.all fun adapterId =>
    adapters.any fun adapter => adapter.recordId == adapterId &&
      adapter.normalizedRecords.any fun link => link.recordKind == kind && link.recordId == recordId

def lacksEvidence (what recordId : String) : LivePersistenceError :=
  .invalidMutation (what ++ " " ++ debugString recordId ++ " lacks reciprocal adapter evidence")

def validateAdapterLinks (bundle : BundleV2Contents) : Except LivePersistenceError Unit := do
  let adapters := bundle.adapterRecords
  bundle.observations.forM fun record =>
    failIf (!hasReciprocalLink adapters .observation record.observationId record.adapterRecordIds)
      (lacksEvidence "observation" record.observationId)
  bundle.rig.forM fun record =>
    failIf (!hasReciprocalLink adapters .rig record.recordId record.adapterRecordIds)
      (lacksEvidence "rig record" record.recordId)
  bundle.propagation.forM fun record =>
    failIf (!hasReciprocalLink adapters .propagation record.recordId record.adapterRecordIds)
      (lacksEvidence "propagation record" record.recordId)

section

variable (E : Env) (profile : BundleResourceProfile)
  (strictReport : BundleContents → List String)
  (checkpointHeads : BundleV2Contents →
    Except LivePersistenceError (List (String × StreamCheckpointV2)))

def appendMembers (bundle : BundleV2Contents) (members : List LiveMutationMemberV2) :
    BundleV2Contents :=
  members.foldl LiveMutationMemberV2.appendTo bundle

def validateMutation (bundle : BundleV2Contents) (mutation : LiveMutationV2) :
    Except LivePersistenceError SessionLifecycleV2 := do
  failIf (2 ^ 32 ≤ mutation.members.length) (.invalidMutation "mutation has too many members")
  failIf (!mutation.members.zipIdx.all (envelopeMatches bundle mutation))
    (.invalidMutation "mutation member envelope does not match the bundle and declared batch")
  let scan ← mutation.members.foldlM (admitMember bundle mutation.expectedRevision)
    ⟨bundle.members.map (·.recordId), bundle.sessionState.lifecycle, 0⟩
  failIf (1 < scan.eventCount)
    (.invalidMutation "one operator action may append only one event")
  failIf (mutation.members.any (!·.isEvent) && bundle.sessionState.lifecycle != .running)
    (.invalidMutation "adapter and normalized evidence may append only while running")
  mutation.members.forM (antennaInPlan (bundle.antennas.antennas.map (·.label)))
  let candidate := appendMembers bundle mutation.members
  let candidate := { candidate with
    sessionState := { candidate.sessionState with lifecycle := scan.lifecycle } }
  validateAdapterLinks candidate
  let blocking := strictReport candidate.intoCurrent.bundle
  failIf (!blocking.isEmpty) (.invalidMutation ("; ".intercalate blocking))
  return scan.lifecycle

/-- `LiveSessionV2::append` up to its file effects: `none` when the mutation was
committed before, and otherwise the next bundle. -/
def planAppendV2 (bundle : BundleV2Contents) (mutation : LiveMutationV2) (now : DateTime) :
    Except LivePersistenceError (Option BundleV2Contents) := do
  match committedMutation? bundle mutation.mutationId with
  | some existing =>
    if sameBusinessMembers existing mutation.members then return none
    else .error (conflict mutation.mutationId)
  | none =>
    failIf (mutation.expectedRevision != bundle.sessionState.revision)
      (.staleRevision mutation.expectedRevision bundle.sessionState.revision)
    let mutation ← prepareMutation mutation bundle.manifest.sessionId now
    let lifecycle ← validateMutation strictReport bundle mutation
    preflightLiveBudget profile bundle.sessionState (mutation.serialized E)
    let next := appendMembers bundle mutation.members
    let streams ← checkpointHeads next
    let revision ← orError (checkedAdd64 bundle.sessionState.revision 1)
      (.invalidMutation "checkpoint revision overflowed")
    return some { next with sessionState := { next.sessionState with
      streams, revision, lifecycle
      lastCommittedMutationId := some mutation.mutationId } }

end

end AntennaBench
