import AntennaBench.Core.Current
import AntennaBench.Core.Diagnostics
import AntennaBench.Timeline.Copies

/-!
# Semantic diagnostics

`semantic_diagnostics`: the rules on identities, texts and numbers of a bundle. Every
diagnostic is placed at the index of the record it was raised on.
-/

namespace AntennaBench

open Timeline

variable (F : TextFormat)

inductive MachineIdentityError where
  | empty
  | tooLong
  | nonAscii
  deriving DecidableEq

def MachineIdentityError.text : MachineIdentityError → String
  | empty => "identity must not be empty"
  | tooLong => "identity exceeds 128 bytes"
  | nonAscii => "identity must contain only ASCII bytes"

/-- `validate_machine_identity`. -/
def machineIdentityError? (value : String) : Option MachineIdentityError :=
  if value.isEmpty then some .empty
  else if machineIdMaxBytes < value.utf8ByteSize then some .tooLong
  else if !isAscii value then some .nonAscii
  else none

def antennaLabelMaxBytes : ℕ := 128

/-- The files with one record a line. -/
def BundleFileRole.isStream : BundleFileRole → Bool
  | events | observations | wsjtX | rig | propagation => true
  | _ => false

/-- `location`: the index of a streamed record gives its physical line. -/
def recordLocation (file : BundleFileRole) (recordKind : Option BundleRecordKind)
    (recordId : Option String) (recordIndex : Option ℕ) (fieldPath : Option String) :
    BundleDiagnosticLocation where
  file := file
  recordKind := recordKind
  recordId := recordId
  recordIndex := recordIndex
  physicalLine := if file.isStream then recordIndex.map (· + 1) else none
  fieldPath := fieldPath

def numberLocation (file : BundleFileRole) (recordKind : Option BundleRecordKind)
    (record : Option (String × ℕ)) (fieldPath : String) : BundleDiagnosticLocation :=
  recordLocation file recordKind (record.map (·.1)) (record.map (·.2)) (some fieldPath)

/-- `/slots/{index}/{field}`, and the like for antennas. -/
def itemPath (items : String) (index : ℕ) (field : String) : String :=
  "/" ++ items ++ "/" ++ toString index ++ "/" ++ field

/-- The location of a field of the slot at `index`. -/
def slotFieldLocation (slot : PlannedSlot) (index : ℕ) (field : String) :
    BundleDiagnosticLocation :=
  recordLocation .schedule (some .slot) (some slot.slotId) (some index)
    (some (itemPath "slots" index field))

def antennaFieldLocation (antenna : Antenna) (index : ℕ) (field : String) :
    BundleDiagnosticLocation :=
  recordLocation .antennas (some .antenna) (some antenna.label) (some index)
    (some (itemPath "antennas" index field))

def semanticWarning (code : DiagnosticCode) (file : BundleFileRole) (fieldPath message : String) :
    BundleDiagnostic where
  code := code
  category := .semantic
  severity := .warning
  blockedOperations := [.strictCreation]
  location := recordLocation file none none none (some fieldPath)
  message := message

def numberDiagnostic (code : DiagnosticCode) (location : BundleDiagnosticLocation)
    (message : String) : BundleDiagnostic where
  code := code
  category := .semantic
  severity := .error
  blockedOperations := analysisAndWriteOperations
  location := location
  message := message

def validateNumber (value : IeeeFloat) (range : IeeeFloat → Bool)
    (location : BundleDiagnosticLocation) (rule : String) : List BundleDiagnostic :=
  if !value.isFinite then
    [numberDiagnostic .nonFiniteNumber location
      (rule ++ "; found non-finite value " ++ F.displayF64 value)]
  else if !range value then
    [numberDiagnostic .invalidRange location (rule ++ "; found " ++ F.displayF64 value)]
  else []

def invalidRange (location : BundleDiagnosticLocation) (message : String) :
    List BundleDiagnostic :=
  [numberDiagnostic .invalidRange location message]

def validateWriteOnlyFinite (value : IeeeFloat) (location : BundleDiagnosticLocation)
    (rule : String) : List BundleDiagnostic :=
  if value.isFinite then []
  else
    [{ code := .nonFiniteNumber
       category := .semantic
       severity := .error
       blockedOperations := writeOperations
       location := location
       message := rule ++ "; found non-finite value " ++ F.displayF64 value }]

def positive (value : IeeeFloat) : Bool := IeeeFloat.zero.lt value

def nonnegative (value : IeeeFloat) : Bool := IeeeFloat.zero.le value

def degrees (value : IeeeFloat) : Bool :=
  IeeeFloat.zero.le value && value.lt (.finite 360)

def kp (value : IeeeFloat) : Bool :=
  IeeeFloat.zero.le value && value.le (.finite 9)

def anyFinite (_ : IeeeFloat) : Bool := true

def identityDiagnostic (value identityKind : String) (error : MachineIdentityError)
    (location : BundleDiagnosticLocation) : BundleDiagnostic where
  code := if error = .empty then .emptyIdentity else .invalidIdentity
  category := .semantic
  severity := .warning
  blockedOperations := writeOperations
  location := location
  message := identityKind ++ " identity " ++ F.debugText value ++ " is invalid: " ++ error.text

def validateMachineIdentityAt (value identityKind : String)
    (location : BundleDiagnosticLocation) : List BundleDiagnostic :=
  (machineIdentityError? value).toList.map fun error =>
    identityDiagnostic F value identityKind error location

/-- The streamed records of a bundle in file order: the file, the kind, the name of the
identity and the identities with their records' metadata. -/
structure RecordStream where
  file : BundleFileRole
  kind : BundleRecordKind
  idField : String
  records : List (String × RecordMeta)

namespace BundleContents

def eventStream (bundle : BundleContents) : RecordStream :=
  ⟨.events, .operatorEvent, "/event_id", bundle.events.map fun e => (e.eventId, e.recordMeta)⟩

def observationStream (bundle : BundleContents) : RecordStream :=
  ⟨.observations, .observation, "/observation_id",
    bundle.observations.map fun o => (o.observationId, o.recordMeta)⟩

def wsjtxStream (bundle : BundleContents) : RecordStream :=
  ⟨.wsjtX, .wsjtXRecord, "/record_id", bundle.wsjtx.map fun r => (r.recordId, r.recordMeta)⟩

def rigStream (bundle : BundleContents) : RecordStream :=
  ⟨.rig, .rigRecord, "/record_id", bundle.rig.map fun r => (r.recordId, r.recordMeta)⟩

def propagationStream (bundle : BundleContents) : RecordStream :=
  ⟨.propagation, .propagationRecord, "/record_id",
    bundle.propagation.map fun r => (r.recordId, r.recordMeta)⟩

def recordStreams (bundle : BundleContents) : List RecordStream :=
  [bundle.eventStream, bundle.observationStream, bundle.wsjtxStream, bundle.rigStream,
    bundle.propagationStream]

end BundleContents

/-- The slot before a place. -/
def previousSlot (slots : List PlannedSlot) (index : ℕ) : Option PlannedSlot :=
  if index = 0 then none else slots[index - 1]?

namespace Semantics

def validateIdentities (bundle : BundleContents) : List BundleDiagnostic :=
  validateMachineIdentityAt F bundle.manifest.sessionId "session"
      { file := .manifest, fieldPath := some "/session_id" } ++
    (bundle.schedule.slots.zipIdx.flatMap fun (slot, index) =>
      validateMachineIdentityAt F slot.slotId "slot" (slotFieldLocation slot index "slot_id")) ++
    bundle.recordStreams.flatMap fun stream =>
      stream.records.zipIdx.flatMap fun ((id, _), index) =>
        validateMachineIdentityAt F id "record"
          (recordLocation stream.file (some stream.kind) (some id) (some index)
            (some stream.idField))

def validateStation (bundle : BundleContents) : List BundleDiagnostic :=
  ([("/callsign", bundle.station.callsign), ("/grid", bundle.station.grid)].flatMap
      fun (field, value) =>
        if value.isEmpty || !isTrimmed value then
          [semanticWarning .invalidRequiredText .station field
            "new station identity text must be trimmed and nonempty"]
        else []) ++
    bundle.station.powerWatts.toList.flatMap fun value =>
      validateNumber F value positive (numberLocation .station none none "/power_watts")
        "station power must be finite and greater than zero"

/-- The value `insert` displaces: the last earlier place of the key. -/
def displacedPlace {α κ : Type} [DecidableEq κ] (key : α → κ) (items : List α) (index : ℕ)
    (k : κ) : Option ℕ :=
  (places key k (items.take index)).getLast?

def antennaLabelValid (label : String) : Bool :=
  !(trim label).isEmpty && isTrimmed label && label.utf8ByteSize ≤ antennaLabelMaxBytes &&
    !label.toList.any isControl

def validateAntennas (bundle : BundleContents) : List BundleDiagnostic :=
  let antennas := bundle.antennas.antennas
  antennas.zipIdx.flatMap fun (antenna, index) =>
    let at_ := antennaFieldLocation antenna index
    (if antennaLabelValid antenna.label then []
      else
        [{ code := .invalidAntennaLabel
           category := .semantic
           severity := .warning
           blockedOperations := writeOperations
           location := at_ "label"
           message := "antenna label must be trimmed, nonempty, control-free, and at most " ++
             "128 UTF-8 bytes" }]) ++
    (match displacedPlace (trim ·.label) antennas index (trim antenna.label) with
      | none => []
      | some first =>
        [{ code := .duplicateAntennaLabel
           category := .semantic
           severity := .error
           blockedOperations := analysisAndWriteOperations
           location := at_ "label"
           message := "antenna label " ++ F.debugText (trim antenna.label) ++
             " is ambiguous after trimming"
           relatedLocations := (antennas[first]?).toList.map fun other =>
             antennaFieldLocation other first "label" }]) ++
    ([("height_m", antenna.heightM), ("radial_length_m", antenna.radialLengthM)].flatMap
      fun (field, value) => value.toList.flatMap fun value =>
        validateNumber F value nonnegative (at_ field)
          "antenna dimension must be finite and nonnegative") ++
    antenna.orientationDegrees.toList.flatMap fun value =>
      validateNumber F value degrees (at_ "orientation_degrees")
        "antenna orientation must be finite and in [0, 360) degrees"

/-- A rule a slot breaks by itself, or against the sequence number before it. -/
def slotRuleDiagnostic (code : DiagnosticCode) (slot : PlannedSlot) (index : ℕ)
    (field message : String) : BundleDiagnostic where
  code := code
  category := .semantic
  severity := .error
  blockedOperations := analysisAndWriteOperations
  location := slotFieldLocation slot index field
  message := message

def sequenceOutOfOrder (previous : Option PlannedSlot) (slot : PlannedSlot) : Bool :=
  previous.any fun previous => slot.sequenceNumber < previous.sequenceNumber

def slotRuleDiagnostics (previous : Option PlannedSlot) (slot : PlannedSlot) (index : ℕ) :
    List BundleDiagnostic :=
  (if sequenceOutOfOrder previous slot then
      [slotRuleDiagnostic .slotSequenceOutOfOrder slot index "sequence_number"
        "slot sequence numbers must be strictly increasing in persisted order"]
    else []) ++
  (if slot.durationSeconds = 0 then
      [slotRuleDiagnostic .invalidSlotDuration slot index "duration_seconds"
        "slot duration must be greater than zero"]
    else []) ++
  if slot.durationSeconds ≤ slot.guardSeconds then
    [slotRuleDiagnostic .invalidSlotGuard slot index "guard_seconds"
      "slot guard time must be less than slot duration"]
  else []

def duplicateSequenceDiagnostics (slots : List PlannedSlot) (slot : PlannedSlot) (index : ℕ) :
    List BundleDiagnostic :=
  match displacedPlace (·.sequenceNumber) slots index slot.sequenceNumber with
  | none => []
  | some first =>
    [{ code := .duplicateSequenceNumber
       category := .semantic
       severity := .error
       blockedOperations := writeOperations
       location := slotFieldLocation slot index "sequence_number"
       message := "slot sequence number " ++ toString slot.sequenceNumber ++ " is duplicated"
       relatedLocations := (slots[first]?).toList.map fun other =>
         slotFieldLocation other first "sequence_number" }]

/-- The supported combinations of mode, goal and distinct scheduled labels. -/
def experimentShapeMatches (schedule : Schedule) : Bool :=
  let distinctLabels := (schedule.slots.map (·.antennaLabel)).dedup.length
  match schedule.mode with
  | .singleAntennaProfiling =>
    distinctLabels = 1 && schedule.goal = .singleAntennaProfiling
  | .wholeStationAb | .txFocused | .rxFocused =>
    2 ≤ distinctLabels && schedule.goal ≠ .singleAntennaProfiling

def validateSchedule (bundle : BundleContents) : List BundleDiagnostic :=
  let slots := bundle.schedule.slots
  (if slots.isEmpty then
      [semanticWarning .emptySchedule .schedule "/slots"
        "newly authored schedules require at least one slot"]
    else []) ++
  (slots.zipIdx.flatMap fun (slot, index) =>
    duplicateSequenceDiagnostics slots slot index ++
      slotRuleDiagnostics (previousSlot slots index) slot index) ++
  if experimentShapeMatches bundle.schedule then []
  else
    [semanticWarning .experimentShapeMismatch .schedule "/mode"
      ("experiment mode, goal, and distinct scheduled antennas do not form a supported shape")]

/-- A checked number of an observation. -/
def observationNumber (observation : ObservationRecord) (index : ℕ) (field : String)
    (value : Option IeeeFloat) (range : IeeeFloat → Bool) (rule : String) :
    List BundleDiagnostic :=
  value.toList.flatMap fun value =>
    validateNumber F value range
      (numberLocation .observations (some .observation) (some (observation.observationId, index))
        field) rule

def observationDiagnostics (observation : ObservationRecord) (index : ℕ) :
    List BundleDiagnostic :=
  let at_ := numberLocation .observations (some .observation)
    (some (observation.observationId, index))
  let number := observationNumber F observation index
  (if observation.frequencyHz = some 0 then
      invalidRange (at_ "/frequency_hz") "observation frequency must be greater than zero"
    else []) ++
  number "/distance_km" observation.distanceKm nonnegative
    "observation distance must be finite and nonnegative" ++
  number "/azimuth_degrees" observation.azimuthDegrees degrees
    "observation azimuth must be finite and in [0, 360) degrees" ++
  (observation.snrDb.toList.flatMap fun value =>
    validateWriteOnlyFinite F value (at_ "/snr_db") "observation SNR must be finite") ++
  number "/drift_hz_per_minute" observation.driftHzPerMinute anyFinite
    "observation drift must be finite" ++
  number "/power_watts" observation.powerWatts positive
    "observation power must be finite and greater than zero" ++
  if observation.slotConfidence.any (!·.isFinite) then
    [numberDiagnostic .nonFiniteNumber (at_ "/slot_confidence")
      "slot confidence must be finite and in [0, 1]"]
  else []

def validateObservations (bundle : BundleContents) : List BundleDiagnostic :=
  bundle.observations.zipIdx.flatMap fun (observation, index) =>
    observationDiagnostics F observation index

def validateRig (bundle : BundleContents) : List BundleDiagnostic :=
  bundle.rig.zipIdx.flatMap fun (record, index) =>
    if record.frequencyHz = some 0 then
      invalidRange (numberLocation .rig (some .rigRecord) (some (record.recordId, index))
        "/frequency_hz") "rig frequency must be greater than zero"
    else []

def validatePropagation (bundle : BundleContents) : List BundleDiagnostic :=
  bundle.propagation.zipIdx.flatMap fun (record, index) =>
    [("/solar_flux_f107", record.solarFluxF107, nonnegative,
        "solar flux must be finite and nonnegative"),
      ("/kp_index", record.kpIndex, kp, "planetary Kp must be finite and in [0, 9]"),
      ("/solar_wind_speed_kms", record.solarWindSpeedKms, nonnegative,
        "solar wind speed must be finite and nonnegative"),
      ("/bz_nt", record.bzNt, anyFinite, "Bz must be finite")].flatMap
      fun (field, value, range, rule) => value.toList.flatMap fun value =>
        validateNumber F value range
          (numberLocation .propagation (some .propagationRecord) (some (record.recordId, index))
            field) rule

def validateAnalysis (bundle : BundleContents) : List BundleDiagnostic :=
  if bundle.analysis.status = .generated && bundle.analysis.generatedAt.isNone then
    [semanticWarning .analysisMetadataMismatch .analysis "/generated_at"
      "generated analysis metadata requires a generation timestamp"]
  else []

end Semantics

open Semantics in
def semanticDiagnostics (bundle : BundleContents) : List BundleDiagnostic :=
  validateIdentities F bundle ++ validateStation F bundle ++ validateAntennas F bundle ++
    Semantics.validateSchedule bundle ++ validateObservations F bundle ++ validateRig bundle ++
    validatePropagation F bundle ++ validateAnalysis bundle

end AntennaBench
