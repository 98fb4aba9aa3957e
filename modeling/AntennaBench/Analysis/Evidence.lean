import AntennaBench.Analysis.Eligibility

/-!
# Evidence summaries

`aggregate` and `EvidenceAggregate::finish`: what the classified observations of a
session, an antenna, a band or a slot add up to. Nothing here depends on the order in
which the observations are added.
-/

namespace AntennaBench

open Timeline

structure ObservationCounts where
  total : ℕ
  usable : ℕ
  excluded : ℕ

structure ExclusionCount where
  reason : ObservationExclusionReason
  count : ℕ

structure ObservationKindCount where
  kind : ObservationKind
  count : ℕ

structure SnrStatistics where
  sampleCount : ℕ
  minDb : IeeeFloat
  medianDb : IeeeFloat
  meanDb : IeeeFloat
  maxDb : IeeeFloat

structure EvidenceSummary where
  observationCounts : ObservationCounts
  exclusions : List ExclusionCount
  usableObservationKinds : List ObservationKindCount
  snr : Option SnrStatistics

inductive EvidenceQuality where
  | insufficient
  | weak
  | moderate
  deriving DecidableEq

/-- `sort_by(f64::total_cmp)`. -/
def sortTotal (values : List IeeeFloat) : List IeeeFloat :=
  sortOn IeeeFloat.totalKey values

/-- `iter().sum::<f64>()`, which starts from a negative zero. -/
def sumF64 (values : List IeeeFloat) : IeeeFloat :=
  values.foldl (IeeeFloat.add .f64) .negativeZero

/-- The median of sorted values; the zero of an empty list is never asked for. -/
def median (values : List IeeeFloat) : IeeeFloat :=
  let middle := values.length / 2
  let at_ (index : ℕ) := values[index]?.getD .zero
  if values.length % 2 = 0 then
    ((at_ (middle - 1)).add .f64 (at_ middle)).div .f64 (.finite 2)
  else at_ middle

/-- `snr_statistics` of sorted samples. -/
def snrStatistics (samples : List IeeeFloat) : Option SnrStatistics :=
  match samples.head?, samples.getLast? with
  | some first, some last => some {
      sampleCount := samples.length
      minDb := first
      medianDb := median samples
      meanDb := (sumF64 samples).div .f64 (.finite samples.length)
      maxDb := last }
  | _, _ => none

def ClassifiedObservation.isUsable (classified : ClassifiedObservation) : Bool :=
  classified.disposition = .usable

def exclusionReasons : List ObservationExclusionReason :=
  [.guardTime, .nearBoundary, .beforeObservedSwitch, .missedSlot, .badSlot, .bandMismatch,
    .outsideSchedule, .missingEvidence, .malformedEvidence, .contradictoryEvidence,
    .unsupportedEvidence, .duplicateEvidence]

def observationKinds : List ObservationKind := [.localDecode, .publicReport, .importedSpot]

/-- What the loop of `aggregate` has counted and collected at its end. -/
structure EvidenceAggregate where
  total : ℕ
  usable : ℕ
  exclusions : ObservationExclusionReason → ℕ
  usableKinds : ObservationKind → ℕ
  snrSamples : List IeeeFloat
  contributingSlots : ℕ

def aggregate (observations : List ClassifiedObservation) : EvidenceAggregate where
  total := observations.length
  usable := observations.countP (·.isUsable)
  exclusions reason := observations.countP (·.disposition = .excluded reason)
  usableKinds kind :=
    observations.countP fun c => c.isUsable && c.observation.observationKind = kind
  snrSamples := (observations.filter (·.isUsable)).filterMap (·.observation.snrDb)
  contributingSlots :=
    ((observations.filter (·.isUsable)).filterMap (·.assignment.slotId)).dedup.length

namespace EvidenceAggregate

def finish (evidence : EvidenceAggregate) : EvidenceSummary where
  observationCounts := ⟨evidence.total, evidence.usable, evidence.total - evidence.usable⟩
  exclusions := (exclusionReasons.map fun reason => ⟨reason, evidence.exclusions reason⟩).filter
    fun entry : ExclusionCount => 0 < entry.count
  usableObservationKinds :=
    (observationKinds.map fun kind => ⟨kind, evidence.usableKinds kind⟩).filter
      fun entry : ObservationKindCount => 0 < entry.count
  snr := snrStatistics (sortTotal evidence.snrSamples)

end EvidenceAggregate

def evidenceQuality (usable contributingSlots : ℕ) : EvidenceQuality :=
  if 5 ≤ usable ∧ 3 ≤ contributingSlots then .moderate
  else if 2 ≤ usable ∧ 2 ≤ contributingSlots then .weak
  else .insufficient

def evidence (observations : List ClassifiedObservation) : EvidenceSummary :=
  (aggregate observations).finish

section

variable {observations observations' : List ClassifiedObservation}
  (h : observations.Perm observations')
include h

end

structure AntennaEvidenceSummary where
  antennaLabel : String
  contributingSlotCount : ℕ
  evidenceQuality : EvidenceQuality
  evidence : EvidenceSummary

structure BandEvidenceSummary where
  band : Band
  evidence : EvidenceSummary

structure SlotEvidenceSummary where
  slot : AlignedSlot
  evidence : EvidenceSummary

def summarizeAntenna (observations : List ClassifiedObservation) (antenna : Antenna) :
    AntennaEvidenceSummary :=
  let observations := observations.filter (·.assignment.slotLabel = some antenna.label)
  let slots := (aggregate observations).contributingSlots
  { antennaLabel := antenna.label
    contributingSlotCount := slots
    evidenceQuality := AntennaBench.evidenceQuality (aggregate observations).usable slots
    evidence := AntennaBench.evidence observations }

/-- `BANDS`. -/
def bands : List Band :=
  [.m160, .m80, .m60, .m40, .m30, .m20, .m17, .m15, .m12, .m10, .m6, .m2]

/-- The bands of the analysed slots and of the observations. -/
def summarizeBands (slots : List PlannedSlot) (observations : List ClassifiedObservation) :
    List BandEvidenceSummary :=
  (bands.filter fun band =>
    slots.any (·.band = band) || observations.any (·.observation.band = band)).map fun band =>
      ⟨band, evidence (observations.filter (·.observation.band = band))⟩

def summarizeSlot (observations : List ClassifiedObservation) (slot : AlignedSlot) :
    SlotEvidenceSummary :=
  ⟨slot, evidence (observations.filter (·.assignment.slotId = some slot.slotId))⟩

def qualityRank : EvidenceQuality → ℕ
  | .insufficient => 0
  | .weak => 1
  | .moderate => 2

def sessionEvidenceQuality (slots : List PlannedSlot) (antennas : List AntennaEvidenceSummary) :
    EvidenceQuality :=
  let scheduledLabels := slots.map (·.antennaLabel)
  let qualities := (antennas.filter fun antenna =>
    scheduledLabels.contains antenna.antennaLabel).map (·.evidenceQuality)
  (qualities.argmin qualityRank).getD .insufficient

end AntennaBench
