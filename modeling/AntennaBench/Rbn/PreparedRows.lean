import AntennaBench.Rbn.Import
import AntennaBench.Rbn.RetainedRows
import AntennaBench.Timeline.FirstWins

/-!
# The prepared rows

The row loop of an import judges the spots of the retained rows as a `Timeline.Admission`
whose keys are the identities of the spots. Each accepted row becomes one observation, and
the two name each other.
-/

namespace AntennaBench

/-- A row of an import and the adapter record it became. -/
structure RbnOutcome where
  row : RbnRowResult
  record : AdapterRecordV2

def RbnOutcome.accepted (outcome : RbnOutcome) : Bool :=
  outcome.record.disposition == .accepted

def RbnOutcome.withMemberCount (outcome : RbnOutcome) (memberCount : ℕ) : RbnOutcome :=
  { outcome with record := outcome.record.withMemberCount memberCount }

/-- The observation has the values of the spot. -/
structure ObservationRecordV2.Reports (observation : ObservationRecordV2) (spot : RbnSpot) :
    Prop where
  band : observation.band = spot.band
  frequencyHz : observation.frequencyHz = some spot.frequencyHz
  mode : observation.mode = some spot.mode.rbnName
  reporterCall : observation.reporterCall = some spot.reporterCall
  heardCall : observation.heardCall = some spot.heardCall
  snrDb : observation.snrDb = some spot.snrDb.toFloat

/-- The row record and the observation name each other, and the observation has the values
of the row. -/
structure RbnOutcome.Yields (outcome : RbnOutcome) (observation : ObservationRecordV2) : Prop where
  forward : outcome.record.normalizedRecords = [⟨.observation, observation.observationId⟩]
  back : observation.adapterRecordIds = [outcome.record.recordId]
  reports : ∃ spot, outcome.row.spot = some spot ∧ observation.Reports spot

namespace RbnEnv

/-- Rows as items with the identities of their spots. -/
def admission (env : RbnEnv) : Timeline.Admission Unit RbnRowResult String String where
  key row := row.spot.map env.spotIdentity
  view _ row := row.spot.map fun spot => (env.spotIdentity spot, env.spotFingerprint spot)
  admits _ row := row.spot.isSome
  key_of_view := by
    intro _ row identity fingerprint h
    obtain ⟨spot, hspot, heq⟩ := Option.map_eq_some_iff.1 h
    cases heq
    rw [hspot, Option.map_some]
  view_of_admits := by
    intro _ row h
    obtain ⟨spot, hspot⟩ := Option.isSome_iff_exists.1 h
    exact ⟨_, _, by rw [hspot, Option.map_some]⟩

def rbnVerdictOf : AdapterDisposition → Timeline.Verdict
  | .accepted => .fresh
  | .duplicate => .duplicate
  | .conflict => .conflict
  | _ => .refused

/-- What the admission says of a row, read off its disposition and its spot. -/
def entryOf (outcome : RbnOutcome) : RbnRowResult × Timeline.Verdict :=
  (outcome.row,
    if outcome.row.spot.isSome then rbnVerdictOf outcome.record.disposition else .refused)

variable {env : RbnEnv}

section Row

variable {identity : RbnImportIdentity} {state : RbnPrepareState} {row : RbnRowResult}

theorem replayedDisposition_some {replay : List (String × String)} {spot : RbnSpot}
    (hrow : row.Settled) (hspot : row.spot = some spot) :
    env.replayedDisposition replay row =
      match replay.lookup (env.spotIdentity spot) with
      | none => .accepted
      | some prior => if env.spotFingerprint spot = prior then .duplicate else .conflict := by
  have haccepted : row.disposition = .accepted := hrow.accepted.2 (by rw [hspot]; rfl)
  unfold replayedDisposition
  rw [hspot, Option.bind_some, haccepted]
  cases replay.lookup (env.spotIdentity spot) <;> rfl

theorem replayedDisposition_none {replay : List (String × String)} (hrow : row.Settled)
    (hspot : row.spot = none) : env.replayedDisposition replay row ≠ .accepted := by
  have hrefused : row.disposition ≠ .accepted := by
    intro haccepted
    have hsome := hrow.accepted.1 haccepted
    rw [hspot] at hsome
    cases hsome
  unfold replayedDisposition
  rw [hspot, Option.bind_none]
  cases hdisposition : row.disposition <;>
    simp_all [RbnRowDisposition.adapterDisposition]

/-- The row loop judges a row as the admission does. -/
theorem rbnVerdictOf_replayedDisposition (hrow : row.Settled) (replay : List (String × String)) :
    (if row.spot.isSome then rbnVerdictOf (env.replayedDisposition replay row) else .refused) =
      env.admission.judge () replay row := by
  unfold Timeline.Admission.judge admission
  cases hspot : row.spot with
  | none => simp [hspot]
  | some spot =>
    rw [replayedDisposition_some hrow hspot]
    simp only [hspot, Option.isSome_some, if_true, Option.map_some]
    cases replay.lookup (env.spotIdentity spot) with
    | none => rfl
    | some prior =>
      by_cases heq : env.spotFingerprint spot = prior
      · simp [heq, rbnVerdictOf]
      · simp [heq, Ne.symm heq, rbnVerdictOf]

theorem prepareRow_adapterRecords (env : RbnEnv) (identity : RbnImportIdentity)
    (state : RbnPrepareState)
    (row : RbnRowResult) :
    (env.prepareRow identity state row).adapterRecords = state.adapterRecords ++
      [env.rowRecord identity state.adapterRecords.length
        (env.replayedDisposition state.replay row) row] := by
  unfold prepareRow
  dsimp only
  split <;> rfl

theorem prepareRow_observations (hrow : row.Settled) :
    (env.prepareRow identity state row).observations = state.observations ++
      if env.replayedDisposition state.replay row = .accepted then
        (row.spot.map (rbnObservation identity row)).toList
      else [] := by
  unfold prepareRow
  cases hspot : row.spot with
  | none =>
    have hrefused : env.replayedDisposition state.replay row ≠ .accepted :=
      replayedDisposition_none hrow hspot
    dsimp only
    split
    · contradiction
    · simp
  | some spot =>
    cases env.replayedDisposition state.replay row <;> simp

theorem prepareRow_replay (hrow : row.Settled) :
    (env.prepareRow identity state row).replay =
      env.admission.learn () state.replay row := by
  unfold Timeline.Admission.learn
  rw [← rbnVerdictOf_replayedDisposition hrow]
  unfold prepareRow
  cases hspot : row.spot with
  | none =>
    dsimp only
    split
    · contradiction
    · simp
  | some spot =>
    cases env.replayedDisposition state.replay row <;>
      simp [rbnVerdictOf, admission, hspot]

end Row

/-- The record of a row, as the row loop wrote it up to the size of its mutation. -/
structure RowStored (env : RbnEnv) (identity : RbnImportIdentity) (outcome : RbnOutcome) :
    Prop where
  settled : outcome.row.Settled
  adapter : outcome.record.recordMeta.provenance.adapterId = identity.provenance.adapterId
  kind : outcome.record.recordType = "rbn_archive_row"
  recordId : outcome.record.recordId = identity.adapterId outcome.row.rowNumber
  input : ∃ mediaType encoding locator,
    outcome.record.input = .inline (env.jsonText (env.rowData outcome.row)) mediaType encoding
      locator
  spotted : outcome.record.disposition = .accepted → outcome.row.spot.isSome = true
  links : outcome.record.normalizedRecords =
    if outcome.record.disposition = .accepted then
      [⟨.observation, identity.observationId outcome.row.rowNumber⟩]
    else []

theorem rowRecord_stored {identity : RbnImportIdentity} {row : RbnRowResult} (h : row.Settled)
    (memberIndex : ℕ) (replay : List (String × String)) :
    RowStored env identity
      ⟨row, env.rowRecord identity memberIndex (env.replayedDisposition replay row) row⟩ := by
  have hspotted : env.replayedDisposition replay row = .accepted → row.spot.isSome = true := by
    intro haccepted
    cases hspot : row.spot with
    | none => exact absurd haccepted (replayedDisposition_none h hspot)
    | some spot => rfl
  refine ⟨h, rfl, rfl, rfl, ⟨_, _, _, rfl⟩, hspotted, ?_⟩
  by_cases haccepted : env.replayedDisposition replay row = .accepted
  · simp [rowRecord, haccepted, hspotted haccepted]
  · simp [rowRecord, haccepted]

/-- What the row loop adds to its state. -/
structure RowsPrepared (env : RbnEnv) (identity : RbnImportIdentity) (state final : RbnPrepareState)
    (rows : List RbnRowResult) (outcomes : List RbnOutcome) : Prop where
  rows_eq : outcomes.map (·.row) = rows
  records : final.adapterRecords = state.adapterRecords ++ outcomes.map (·.record)
  mutations : outcomes.map (·.record.recordMeta.mutation) =
    (List.range' state.adapterRecords.length outcomes.length).map fun index =>
      ⟨identity.mutationId, index, 0⟩
  observed : final.observations = state.observations ++ (outcomes.filter (·.accepted)).flatMap
    fun outcome => (outcome.row.spot.map (rbnObservation identity outcome.row)).toList
  judged : outcomes.map entryOf = env.admission.judgeAll () state.replay rows
  stored : ∀ outcome ∈ outcomes, RowStored env identity outcome

theorem foldl_prepareRow (env : RbnEnv) (identity : RbnImportIdentity) {rows : List RbnRowResult}
    (hrows : ∀ row ∈ rows, row.Settled) (state : RbnPrepareState) :
    ∃ outcomes, RowsPrepared env identity state (rows.foldl (env.prepareRow identity) state) rows
      outcomes := by
  induction rows generalizing state with
  | nil => exact ⟨[], rfl, by simp, rfl, by simp, rfl, by simp⟩
  | cons row rest ih =>
    rw [List.forall_mem_cons] at hrows
    obtain ⟨outcomes, hprepared⟩ := ih hrows.2 (env.prepareRow identity state row)
    let outcome : RbnOutcome := ⟨row, env.rowRecord identity state.adapterRecords.length
      (env.replayedDisposition state.replay row) row⟩
    have hrecords := env.prepareRow_adapterRecords identity state row
    refine ⟨outcome :: outcomes, ?_, ?_, ?_, ?_, ?_, ?_⟩
    · rw [List.map_cons, hprepared.rows_eq]
    · rw [List.foldl_cons, hprepared.records, hrecords, List.append_assoc]
      rfl
    · have hmutations := hprepared.mutations
      rw [hrecords, List.length_append, List.length_singleton] at hmutations
      rw [List.map_cons, hmutations, List.length_cons, List.range'_succ, List.map_cons]
      rfl
    · rw [List.foldl_cons, hprepared.observed, prepareRow_observations hrows.1, List.append_assoc]
      congr 1
      by_cases haccepted : env.replayedDisposition state.replay row = .accepted
      · have hkept : outcome.accepted = true := beq_iff_eq.2 haccepted
        rw [if_pos haccepted, List.filter_cons_of_pos hkept, List.flatMap_cons]
      · have hdropped : ¬outcome.accepted = true := fun h => haccepted (beq_iff_eq.1 h)
        rw [if_neg haccepted, List.filter_cons_of_neg hdropped, List.nil_append]
    · have hjudged := hprepared.judged
      rw [prepareRow_replay hrows.1] at hjudged
      rw [List.map_cons, Timeline.Admission.judgeAll, hjudged,
        ← rbnVerdictOf_replayedDisposition hrows.1]
      rfl
    · rw [List.forall_mem_cons]
      exact ⟨rowRecord_stored hrows.1 _ _, hprepared.stored⟩

/-- What an import adds. -/
structure Prepares (env : RbnEnv) (identity : RbnImportIdentity) (replay : List (String × String))
    (rows : List RbnRowResult) (prepared : PreparedRbnImport) (outcomes : List RbnOutcome) :
    Prop where
  rows_eq : outcomes.map (·.row) = rows
  unlinked : ∀ record ∈ prepared.adapterRecords.take 2, record.normalizedRecords = []
  tail : prepared.adapterRecords.drop 2 = outcomes.map (·.record)
  recordIds : prepared.adapterRecords.map (·.recordId) =
    ("rbn-capture-" ++ identity.importId) :: ("rbn-summary-" ++ identity.importId) ::
      rows.map fun row => identity.adapterId row.rowNumber
  mutations : prepared.adapterRecords.map (·.recordMeta.mutation) ++
      prepared.observations.map (·.recordMeta.mutation) =
    (List.range (prepared.adapterRecords.length + prepared.observations.length)).map fun index =>
      ⟨identity.mutationId, index, prepared.adapterRecords.length + prepared.observations.length⟩
  spots : prepared.adapterRecords.filterMap env.storedSpot? =
    outcomes.filterMap fun outcome => env.storedSpot? outcome.record
  yields : List.Forall₂ RbnOutcome.Yields (outcomes.filter (·.accepted)) prepared.observations
  observationIds : prepared.observations.map (·.observationId) =
    (outcomes.filter (·.accepted)).map fun outcome => identity.observationId outcome.row.rowNumber
  judged : outcomes.map entryOf = env.admission.judgeAll () replay rows
  stored : ∀ outcome ∈ outcomes, RowStored env identity outcome

theorem RowStored.withMemberCount {identity : RbnImportIdentity} {outcome : RbnOutcome}
    (h : RowStored env identity outcome) (count : ℕ) :
    RowStored env identity (outcome.withMemberCount count) :=
  ⟨h.settled, h.adapter, h.kind, h.recordId, h.input, h.spotted, h.links⟩

theorem mapIdx_withMember (mutationId : String) {observations : List ObservationRecordV2}
    (h : ∀ observation ∈ observations, observation.recordMeta.mutation.mutationId = mutationId)
    (start count : ℕ) :
    (observations.mapIdx fun offset observation =>
      observation.withMember (start + offset) count).map (·.recordMeta.mutation) =
        (List.range' start observations.length).map fun index => ⟨mutationId, index, count⟩ := by
  apply List.ext_getElem
  · simp
  · intro i hi _
    rw [List.length_map, List.length_mapIdx] at hi
    have hmutation := h observations[i] (List.getElem_mem hi)
    simp [ObservationRecordV2.withMember, hmutation]

theorem storedSpot?_of_kind {record : AdapterRecordV2}
    (h : (record.recordType == "rbn_archive_row") = false) : env.storedSpot? record = none := by
  unfold storedSpot?
  simp only [h, Bool.and_false, Bool.false_and, guard, Bool.false_eq_true, if_false]
  rfl

theorem captureRecord_kind : ("rbn_archive_capture" == "rbn_archive_row") = false := by
  decide

theorem summaryRecord_kind : ("rbn_import_summary" == "rbn_archive_row") = false := by
  decide

theorem forall₂_yields {identity : RbnImportIdentity} {outcomes : List RbnOutcome}
    (h : ∀ outcome ∈ outcomes, RowStored env identity outcome)
    (haccepted : ∀ outcome ∈ outcomes, outcome.accepted = true) (start count : ℕ) :
    List.Forall₂ RbnOutcome.Yields outcomes
      ((outcomes.flatMap fun outcome =>
        (outcome.row.spot.map (rbnObservation identity outcome.row)).toList).mapIdx
          fun offset observation => observation.withMember (start + offset) count) := by
  induction outcomes generalizing start with
  | nil => exact .nil
  | cons outcome rest ih =>
    rw [List.forall_mem_cons] at h haccepted
    have hdisposition : outcome.record.disposition = .accepted := beq_iff_eq.1 haccepted.1
    obtain ⟨spot, hspot⟩ := Option.isSome_iff_exists.1 (h.1.spotted hdisposition)
    rw [List.flatMap_cons, hspot, Option.map_some, Option.toList_some, List.singleton_append,
      List.mapIdx_cons]
    refine .cons ⟨?_, ?_, spot, hspot, ?_⟩ ?_
    · rw [h.1.links, if_pos hdisposition]
      rfl
    · rw [h.1.recordId]
      rfl
    · exact ⟨rfl, rfl, rfl, rfl, rfl, rfl⟩
    · have hrest := ih h.2 haccepted.2 (start + 1)
      simpa [Nat.add_assoc, Nat.add_comm 1] using hrest

theorem observationIds_of_yields {identity : RbnImportIdentity} {outcomes : List RbnOutcome}
    {observations : List ObservationRecordV2}
    (h : List.Forall₂ RbnOutcome.Yields outcomes observations)
    (hstored : ∀ outcome ∈ outcomes, RowStored env identity outcome) :
    observations.map (·.observationId) =
      outcomes.map fun outcome => identity.observationId outcome.row.rowNumber := by
  induction h with
  | nil => rfl
  | cons hyields _ ih =>
    rw [List.forall_mem_cons] at hstored
    have hforward := hyields.forward
    rw [hstored.1.links] at hforward
    split_ifs at hforward
    have hid := (NormalizedRecordLink.mk.inj (List.singleton_inj.1 hforward)).2
    rw [List.map_cons, List.map_cons, ih hstored.2, hid]

/-- An import is prepared once its records and observations are those of the outcomes, all
with the size of the mutation. -/
theorem prepares_of_outcomes {identity : RbnImportIdentity} {replay : List (String × String)}
    {rows : List RbnRowResult} {prepared : PreparedRbnImport} {outcomes : List RbnOutcome}
    (exactArchive : AttachmentReference) (data : String) (count : ℕ)
    (hrowsEq : outcomes.map (·.row) = rows)
    (hrecords : prepared.adapterRecords =
      (captureRecord identity exactArchive).withMemberCount count ::
        (summaryRecord identity data).withMemberCount count :: outcomes.map (·.record))
    (hmutations : outcomes.map (·.record.recordMeta.mutation) =
      (List.range' 2 outcomes.length).map fun index => ⟨identity.mutationId, index, count⟩)
    (hobservations : prepared.observations = ((outcomes.filter (·.accepted)).flatMap fun outcome =>
      (outcome.row.spot.map (rbnObservation identity outcome.row)).toList).mapIdx
        fun offset observation => observation.withMember (outcomes.length + 2 + offset) count)
    (hcount : count = outcomes.length + 2 + prepared.observations.length)
    (hjudged : outcomes.map entryOf = env.admission.judgeAll () replay rows)
    (hstored : ∀ outcome ∈ outcomes, RowStored env identity outcome) :
    Prepares env identity replay rows prepared outcomes := by
  have hlength : prepared.adapterRecords.length = outcomes.length + 2 := by
    rw [hrecords]
    simp
  have hkept : ∀ outcome ∈ outcomes.filter (·.accepted), RowStored env identity outcome :=
    fun outcome houtcome => hstored outcome (List.mem_of_mem_filter houtcome)
  have hyields := forall₂_yields hkept
    (fun outcome houtcome => (List.mem_filter.1 houtcome).2) (outcomes.length + 2) count
  rw [← hobservations] at hyields
  refine ⟨hrowsEq, ?_, ?_, ?_, ?_, ?_, hyields, ?_, hjudged, hstored⟩
  · intro record hrecord
    rw [hrecords] at hrecord
    rcases List.mem_cons.1 hrecord with rfl | hsummary
    · rfl
    · rw [List.mem_singleton.1 hsummary]
      rfl
  · rw [hrecords]
    rfl
  · rw [hrecords, ← hrowsEq, List.map_cons, List.map_cons, List.map_map, List.map_map]
    refine congrArg _ (congrArg _ (List.map_congr_left fun outcome houtcome => ?_))
    exact (hstored outcome houtcome).recordId
  · have hmembers : prepared.observations.map (·.recordMeta.mutation) =
        (List.range' (outcomes.length + 2) prepared.observations.length).map fun index =>
          ⟨identity.mutationId, index, count⟩ := by
      rw [hobservations, mapIdx_withMember identity.mutationId ?_, List.length_mapIdx]
      intro observation hobservation
      obtain ⟨outcome, -, hmem⟩ := List.mem_flatMap.1 hobservation
      obtain ⟨spot, -, rfl⟩ := Option.map_eq_some_iff.1 (Option.mem_toList.1 hmem)
      rfl
    have hrange : List.range (outcomes.length + 2 + prepared.observations.length) =
        0 :: 1 :: (List.range' 2 outcomes.length ++
          List.range' (outcomes.length + 2) prepared.observations.length) := by
      rw [List.range_eq_range', Nat.add_comm outcomes.length 2, List.range'_append_1]
      rw [show 2 + outcomes.length + prepared.observations.length =
        outcomes.length + prepared.observations.length + 1 + 1 by omega]
      rfl
    have hheads : prepared.adapterRecords.map (·.recordMeta.mutation) =
        ⟨identity.mutationId, 0, count⟩ :: ⟨identity.mutationId, 1, count⟩ ::
          (List.range' 2 outcomes.length).map fun index => ⟨identity.mutationId, index, count⟩ := by
      rw [hrecords, List.map_cons, List.map_cons, List.map_map]
      exact congrArg (_ :: _ :: ·) hmutations
    rw [hlength, ← hcount, hmembers, hheads, hcount, hrange, List.map_cons, List.map_cons,
      List.map_append]
    rfl
  · rw [hrecords, List.filterMap_cons, storedSpot?_of_kind captureRecord_kind,
      List.filterMap_cons, storedSpot?_of_kind summaryRecord_kind, List.filterMap_map]
    rfl
  · exact observationIds_of_yields hyields hkept

theorem prepareRbnImport_prepares (env : RbnEnv) {parsed : ParsedRbnArchive}
    (hrows : ∀ row ∈ parsed.rows, row.Settled) (config : RbnImportConfig)
    (preparation : RbnImportPreparationConfig) (sessionId importId : String)
    (exactArchive : AttachmentReference) (existing : List AdapterRecordV2) :
    ∃ outcomes, Prepares env ⟨preparation, sessionId, importId, env.provenance⟩
      (env.existingRbnSpots existing) parsed.rows
      (env.prepareRbnImport parsed config preparation sessionId importId exactArchive existing)
      outcomes := by
  let identity : RbnImportIdentity := ⟨preparation, sessionId, importId, env.provenance⟩
  obtain ⟨outcomes, h⟩ := env.foldl_prepareRow identity hrows
    { replay := env.existingRbnSpots existing
      adapterRecords := [captureRecord identity exactArchive, summaryRecord identity ""]
      observations := []
      summary := { total := parsed.summary.total, omitted := parsed.summary.omitted } }
  let final := env.prepareRows identity parsed exactArchive existing
  have hstate : final.adapterRecords = captureRecord identity exactArchive ::
      summaryRecord identity "" :: outcomes.map (·.record) := h.records
  have hobserved : final.observations = (outcomes.filter (·.accepted)).flatMap fun outcome =>
      (outcome.row.spot.map (rbnObservation identity outcome.row)).toList := h.observed
  let data := env.jsonText (env.importSummaryJson parsed config preparation.capturedAt exactArchive
    final.summary)
  let count := (outcomes.length + 2) + final.observations.length
  let counted := outcomes.map (RbnOutcome.withMemberCount · count)
  have haccepted : counted.filter (·.accepted) =
      (outcomes.filter (·.accepted)).map (RbnOutcome.withMemberCount · count) := List.filter_map
  have hobservations : (env.prepareRbnImport parsed config preparation sessionId importId
      exactArchive existing).observations = final.observations.mapIdx fun offset observation =>
        observation.withMember (outcomes.length + 2 + offset) count := by
    simp only [prepareRbnImport]
    rw [show env.prepareRows ⟨preparation, sessionId, importId, env.provenance⟩ parsed exactArchive
      existing = final from rfl, hstate]
    simp [count]
  have hrecords : (env.prepareRbnImport parsed config preparation sessionId importId exactArchive
      existing).adapterRecords = (captureRecord identity exactArchive).withMemberCount count ::
        (summaryRecord identity data).withMemberCount count :: counted.map (·.record) := by
    simp only [prepareRbnImport]
    rw [show env.prepareRows ⟨preparation, sessionId, importId, env.provenance⟩ parsed exactArchive
      existing = final from rfl, hstate]
    simp [List.modify, RbnOutcome.withMemberCount, Function.comp_def, count, counted, data,
      summaryRecord]
  refine ⟨counted, prepares_of_outcomes exactArchive data count ?_ ?_ ?_ ?_ ?_ ?_ ?_⟩
  · rw [← h.rows_eq, List.map_map]
    rfl
  · exact hrecords
  · have hmutations := congrArg (List.map fun member : MutationMember =>
      { member with memberCount := count }) h.mutations
    rw [List.map_map, List.map_map] at hmutations
    rw [List.map_map, List.length_map]
    exact hmutations
  · rw [hobservations, hobserved, haccepted, List.flatMap_map, List.length_map]
    rfl
  · rw [hobservations, List.length_mapIdx, List.length_map]
  · refine Eq.trans ?_ h.judged
    rw [List.map_map]
    rfl
  · intro outcome houtcome
    obtain ⟨o, ho, rfl⟩ := List.mem_map.1 houtcome
    exact (h.stored o ho).withMemberCount count

end RbnEnv

end AntennaBench
