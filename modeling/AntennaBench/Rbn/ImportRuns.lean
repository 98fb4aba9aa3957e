import AntennaBench.Rbn.Identifiers
import AntennaBench.Timeline.Related
import Mathlib.Data.List.Flatten

/-!
# Runs of imports

Imports of archives into one session, each prepared against the adapter records of those
before. The stored rows are the memory of the adapter, so over a run the spots are judged as
one sequence: the first spot of an identity is the one that counts.
-/

namespace AntennaBench

structure RbnImportCall where
  bundle : BundleV3Contents
  input : List UInt8
  preparation : RbnImportPreparationConfig
  importId : String
  exactArchive : AttachmentReference

def RbnImportCall.identity (call : RbnImportCall) (env : RbnEnv) : RbnImportIdentity :=
  ⟨call.preparation, call.bundle.manifest.sessionId, call.importId, env.provenance⟩

/-- An import that was prepared: the rows its archive retained, and the mutation. -/
structure RbnImported where
  call : RbnImportCall
  rows : List RbnRowResult
  prepared : PreparedRbnImport

/-- The rows with their records, which follow the capture and the summary record. -/
def RbnImported.outcomes (imported : RbnImported) : List RbnOutcome :=
  List.zipWith RbnOutcome.mk imported.rows (imported.prepared.adapterRecords.drop 2)

def runRecords (run : List RbnImported) : List AdapterRecordV2 :=
  run.flatMap (·.prepared.adapterRecords)

def runObservations (run : List RbnImported) : List ObservationRecordV2 :=
  run.flatMap (·.prepared.observations)

def runOutcomes (run : List RbnImported) : List RbnOutcome :=
  run.flatMap (·.outcomes)

/-- The observations that name the record of a row with such a spot. -/
def observationsOf (run : List RbnImported) (p : RbnSpot → Bool) : List ObservationRecordV2 :=
  (runObservations run).filter fun observation =>
    (runOutcomes run).any fun outcome =>
      outcome.row.spot.any p && observation.adapterRecordIds.contains outcome.record.recordId

/-- The call signs the signal plans transmit; without a plan it is that of the station. -/
def transmittedCallsigns (bundle : BundleV3Contents) : List String :=
  if bundle.schedule.signalPlans.isEmpty then [bundle.station.callsign]
  else bundle.schedule.signalPlans.map (·.transmittedCallsign)

namespace RbnEnv

variable (env : RbnEnv) (limits : RbnArchiveLimits) (existing : List AdapterRecordV2)

def parseCall (call : RbnImportCall) : Option (RbnImportConfig × ParsedRbnArchive) := do
  let config ← (rbnImportConfig call.bundle).toOption
  let parsed ← (env.parseRbnCsvWithLimits call.input config limits).toOption
  return (config, parsed)

def importArchive (stored : List AdapterRecordV2) (call : RbnImportCall) : Option RbnImported :=
  (env.parseCall limits call).map fun (config, parsed) =>
    ⟨call, parsed.rows, env.prepareRbnImport parsed config call.preparation
      call.bundle.manifest.sessionId call.importId call.exactArchive stored⟩

/-- An archive that does not parse adds nothing. -/
def importNext (run : List RbnImported) (call : RbnImportCall) : List RbnImported :=
  run ++ (env.importArchive limits (existing ++ runRecords run) call).toList

def importAll (calls : List RbnImportCall) : List RbnImported :=
  calls.foldl (env.importNext limits existing) []

/-- The spot of a row whose call sign the session transmits. -/
def sessionSpot? (bundle : BundleV3Contents) (config : RbnImportConfig) (fields : List String) :
    Option RbnSpot :=
  (transmittedCallsigns bundle).findSome? fun callsign =>
    (rbnRowVerdict env (normalizeCall callsign) config.windowStart config.windowEnd
      config.selectedBands fields).toOption

def fieldLists (input : List UInt8) : List (List String) :=
  (env.readCsv input).records.filterMap (·.toOption)

/-- The in-window, in-band, well-formed spots of what the session transmits. -/
def spotsOf (call : RbnImportCall) : List RbnSpot :=
  match rbnImportConfig call.bundle with
  | .error _ => []
  | .ok config => (env.fieldLists call.input).filterMap (env.sessionSpot? call.bundle config)

/-- What an archive must be for its import to miss no spot: it is readable and within the
limits, its spots carry the call sign of the station, they are among the first
`retained_rows` rows, and no two of them differ in the band alone. -/
structure Covers (call : RbnImportCall) (config : RbnImportConfig) : Prop where
  valid : config.validate = .ok ()
  header : (env.readCsv call.input).headers = .ok rbnArchiveColumns
  readable : (env.readCsv call.input).records = (env.fieldLists call.input).map .ok
  rows : (env.fieldLists call.input).length ≤ limits.rows
  rowBytes : ∀ fields ∈ env.fieldLists call.input, rowBytes fields ≤ limits.rowBytes
  station : ∀ callsign ∈ transmittedCallsigns call.bundle,
    normalizeCall callsign = normalizeCall call.bundle.station.callsign
  retained : ∀ fields ∈ (env.fieldLists call.input).drop limits.retainedRows,
    env.sessionSpot? call.bundle config fields = none
  bands : ∀ s ∈ env.spotsOf call, ∀ t ∈ env.spotsOf call,
    s.rowFingerprint = t.rowFingerprint → s = t

def retainedRows (call : RbnImportCall) : List RbnRowResult :=
  match env.parseCall limits call with
  | none => []
  | some (_, parsed) => parsed.rows

/-- `serde_json` reads back the data of the rows. -/
def ReadsBack (calls : List RbnImportCall) : Prop :=
  ∀ call ∈ calls, ∀ row ∈ env.retainedRows limits call,
    env.fromStr (env.jsonText (env.rowData row)) = some (env.rowData row)

/-- SHA-256 tells the spots apart, and so do the texts of their times. -/
def TellsApart (spots : List RbnSpot) : Prop :=
  ∀ s ∈ spots, ∀ t ∈ spots, env.TimesTold s t ∧
    (env.spotFingerprint s = env.spotFingerprint t → s = t)

end RbnEnv

/-- No spot identity has two observations, IDs are unique, and the links of a mutation are
those between its members. -/
structure RbnConsistent (run : List RbnImported) : Prop where
  once : ∀ identity, (observationsOf run (·.identity == identity)).length ≤ 1
  observationIds : ((runObservations run).map (·.observationId)).Nodup
  recordIds : ((runRecords run).map (·.recordId)).Nodup
  yields : List.Forall₂ RbnOutcome.Yields ((runOutcomes run).filter (·.accepted))
    (runObservations run)
  linked : ∀ record ∈ runRecords run, record.normalizedRecords = [] ∨
    ∃ outcome ∈ runOutcomes run, outcome.accepted = true ∧ outcome.record = record
  members : ∀ imported ∈ run,
    imported.prepared.adapterRecords.map (·.recordMeta.mutation) ++
        imported.prepared.observations.map (·.recordMeta.mutation) =
      (List.range (imported.prepared.adapterRecords.length +
        imported.prepared.observations.length)).map fun index =>
          ⟨imported.prepared.mutationId, index, imported.prepared.adapterRecords.length +
            imported.prepared.observations.length⟩

/-- The first spot of an identity has exactly one observation; a spot that differs from it
has none, and a conflict record. -/
structure RbnComplete (spots : List RbnSpot) (run : List RbnImported) : Prop where
  first : ∀ spot, spots.find? (·.identity == spot.identity) = some spot →
    (observationsOf run (· == spot)).length = 1
  conflict : ∀ spot ∈ spots, ∀ first, spots.find? (·.identity == spot.identity) = some first →
    first ≠ spot → observationsOf run (· == spot) = [] ∧
      ∃ outcome ∈ runOutcomes run, outcome.row.spot = some spot ∧
        outcome.record.disposition = .conflict

namespace RbnEnv

variable {env : RbnEnv} {limits : RbnArchiveLimits} {existing : List AdapterRecordV2}

theorem zipWith_outcomes (outcomes : List RbnOutcome) :
    List.zipWith RbnOutcome.mk (outcomes.map (·.row)) (outcomes.map (·.record)) = outcomes := by
  induction outcomes with
  | nil => rfl
  | cons outcome rest ih => rw [List.map_cons, List.map_cons, List.zipWith_cons_cons, ih]

theorem parseCall_eq_some {call : RbnImportCall} {config : RbnImportConfig}
    {parsed : ParsedRbnArchive} (h : env.parseCall limits call = some (config, parsed)) :
    rbnImportConfig call.bundle = .ok config ∧
      env.parseRbnCsvWithLimits call.input config limits = .ok parsed := by
  unfold parseCall at h
  cases hconfig : rbnImportConfig call.bundle with
  | error e => simp [hconfig, Except.toOption] at h
  | ok config' =>
    cases hparsed : env.parseRbnCsvWithLimits call.input config' limits with
    | error e => simp [hconfig, hparsed, Except.toOption] at h
    | ok parsed' =>
      simp only [hconfig, hparsed, Except.toOption, Option.bind_eq_bind, Option.bind_some,
        Option.pure_def, Option.some.injEq, Prod.mk.injEq] at h
      obtain ⟨rfl, rfl⟩ := h
      exact ⟨rfl, hparsed⟩

/-- What an import adds to a run. -/
structure ImportAdds (env : RbnEnv) (limits : RbnArchiveLimits) (stored : List AdapterRecordV2)
    (call : RbnImportCall) (imported : RbnImported) : Prop where
  call_eq : imported.call = call
  rows_eq : imported.rows = env.retainedRows limits call
  mutationId : imported.prepared.mutationId = (call.identity env).mutationId
  prepared : Prepares env (call.identity env) (env.existingRbnSpots stored) imported.rows
    imported.prepared imported.outcomes

theorem importArchive_adds {stored : List AdapterRecordV2} {call : RbnImportCall}
    {imported : RbnImported} (h : env.importArchive limits stored call = some imported) :
    ImportAdds env limits stored call imported := by
  obtain ⟨⟨config, parsed⟩, hparsed, rfl⟩ := Option.map_eq_some_iff.1 h
  have hrows := (parseRbnCsvWithLimits_settled (parseCall_eq_some hparsed).2).1
  obtain ⟨outcomes, hprepares⟩ := env.prepareRbnImport_prepares hrows config
    call.preparation call.bundle.manifest.sessionId call.importId call.exactArchive stored
  refine ⟨rfl, by simp only [retainedRows, hparsed], rfl, ?_⟩
  have houtcomes : RbnImported.outcomes ⟨call, parsed.rows, env.prepareRbnImport parsed config
      call.preparation call.bundle.manifest.sessionId call.importId call.exactArchive stored⟩ =
        outcomes := by
    rw [RbnImported.outcomes]
    simp only [hprepares.tail]
    rw [← hprepares.rows_eq, zipWith_outcomes]
  rw [houtcomes]
  exact hprepares

theorem importArchive_none {stored : List AdapterRecordV2} {call : RbnImportCall}
    (h : env.importArchive limits stored call = none) : env.retainedRows limits call = [] := by
  simp only [retainedRows, Option.map_eq_none_iff.1 h]

theorem retainedRows_settled (call : RbnImportCall) :
    (∀ row ∈ env.retainedRows limits call, row.Settled) ∧
      ((env.retainedRows limits call).map (·.rowNumber)).Nodup := by
  unfold retainedRows
  cases hparsed : env.parseCall limits call with
  | none => exact ⟨by simp, List.nodup_nil⟩
  | some parsed => exact parseRbnCsvWithLimits_settled (parseCall_eq_some hparsed).2

theorem rowData_identity (row : RbnRowResult) : (env.rowData row).get? "spot_identity" =
    some (row.spot.elim .null fun spot => .string (env.spotIdentity spot)) := by
  simp [rowData, JsonValue.get?, List.lookup_cons]

theorem rowData_fingerprint (row : RbnRowResult) : (env.rowData row).get? "spot_fingerprint" =
    some (row.spot.elim .null fun spot => .string (env.spotFingerprint spot)) := by
  simp [rowData, JsonValue.get?, List.lookup_cons]

theorem storedSpot?_eq {identity : RbnImportIdentity} {outcome : RbnOutcome}
    (h : RowStored env identity outcome) (hprovenance : identity.provenance = env.provenance)
    (hreads : env.fromStr (env.jsonText (env.rowData outcome.row)) =
      some (env.rowData outcome.row)) :
    env.storedSpot? outcome.record = if (entryOf outcome).2 = .fresh then
      env.admission.view () outcome.row else none := by
  have hadapter : outcome.record.recordMeta.provenance.adapterId.value = rbnAdapterId := by
    rw [h.adapter, hprovenance]
    rfl
  obtain ⟨_, _, _, hinput⟩ := h.input
  by_cases haccepted : outcome.record.disposition = .accepted
  · obtain ⟨spot, hspot⟩ := Option.isSome_iff_exists.1 (h.spotted haccepted)
    have hfresh : (entryOf outcome).2 = .fresh := by
      simp [entryOf, hspot, haccepted, rbnVerdictOf]
    rw [if_pos hfresh]
    simp [storedSpot?, hadapter, h.kind, haccepted, hinput, hreads, rowData_identity,
      rowData_fingerprint, hspot, admission, JsonValue.asStr?]
  · have hstale : (entryOf outcome).2 ≠ .fresh := by
      unfold entryOf
      split_ifs
      · cases hdisposition : outcome.record.disposition <;> simp_all [rbnVerdictOf]
      · simp
    rw [if_neg hstale]
    simp [storedSpot?, haccepted]

/-- A run has prepared the retained rows of its calls, and judged them as one sequence. -/
structure RunPrepared (env : RbnEnv) (limits : RbnArchiveLimits) (calls : List RbnImportCall)
    (run : List RbnImported) : Prop where
  calls_sublist : (run.map (·.call)).Sublist calls
  rows_eq : run.flatMap (·.rows) = calls.flatMap (env.retainedRows limits)
  prepared : ∀ imported ∈ run,
    ∃ stored, ImportAdds env limits stored imported.call imported
  judged : (runOutcomes run).map entryOf = env.admission.judgeAll () [] (run.flatMap (·.rows))

theorem RunPrepared.stored {calls : List RbnImportCall} {run : List RbnImported}
    (h : RunPrepared env limits calls run) {outcome : RbnOutcome}
    (houtcome : outcome ∈ runOutcomes run) :
    ∃ imported ∈ run, RowStored env (imported.call.identity env) outcome ∧
      outcome.record ∈ runRecords run ∧
        ∃ call ∈ calls, outcome.row ∈ env.retainedRows limits call := by
  obtain ⟨imported, himported, hmem⟩ := List.mem_flatMap.1 houtcome
  obtain ⟨stored, hadds⟩ := h.prepared imported himported
  refine ⟨imported, himported, hadds.prepared.stored outcome hmem, ?_, imported.call, ?_, ?_⟩
  · refine List.mem_flatMap.2 ⟨imported, himported, List.mem_of_mem_drop (i := 2) ?_⟩
    rw [hadds.prepared.tail]
    exact List.mem_map_of_mem hmem
  · exact h.calls_sublist.subset (List.mem_map_of_mem himported)
  · rw [← hadds.rows_eq, ← hadds.prepared.rows_eq]
    exact List.mem_map_of_mem hmem

/-- The adapter reads back what the admission has learned. -/
theorem RunPrepared.existing_eq {calls : List RbnImportCall} {run : List RbnImported}
    (h : RunPrepared env limits calls run) (hreads : env.ReadsBack limits calls)
    (hexisting : env.existingRbnSpots existing = []) :
    env.existingRbnSpots (existing ++ runRecords run) =
      env.admission.learnAll () [] (run.flatMap (·.rows)) := by
  have hnone : existing.filterMap env.storedSpot? = [] := List.reverse_eq_nil_iff.1 hexisting
  have hspots : (runRecords run).filterMap env.storedSpot? =
      (runOutcomes run).filterMap fun outcome => env.storedSpot? outcome.record := by
    rw [runRecords, runOutcomes, List.filterMap_flatMap, List.filterMap_flatMap]
    apply List.flatMap_congr
    intro imported himported
    obtain ⟨stored, hadds⟩ := h.prepared imported himported
    exact hadds.prepared.spots
  rw [Timeline.Admission.learnAll_eq_recollect, ← h.judged, List.append_nil, existingRbnSpots,
    List.filterMap_append, hnone, List.nil_append, hspots, Timeline.Admission.recollect,
    List.filterMap_map]
  refine congrArg _ (List.filterMap_congr fun outcome houtcome => ?_)
  obtain ⟨imported, -, hstored, -, call, hcall, hrow⟩ := h.stored houtcome
  exact storedSpot?_eq hstored rfl (hreads call hcall _ hrow)

theorem RunPrepared.next {calls : List RbnImportCall} {run : List RbnImported}
    (h : RunPrepared env limits calls run) (hreads : env.ReadsBack limits calls)
    (hexisting : env.existingRbnSpots existing = []) (call : RbnImportCall) :
    RunPrepared env limits (calls ++ [call]) (env.importNext limits existing run call) := by
  unfold importNext
  cases himport : env.importArchive limits (existing ++ runRecords run) call with
  | none =>
    rw [Option.toList_none, List.append_nil]
    refine ⟨h.calls_sublist.trans (List.sublist_append_left _ _), ?_, h.prepared, h.judged⟩
    rw [h.rows_eq, List.flatMap_append, List.flatMap_singleton, importArchive_none himport,
      List.append_nil]
  | some imported =>
    have hadds := importArchive_adds himport
    rw [Option.toList_some]
    refine ⟨?_, ?_, ?_, ?_⟩
    · rw [List.map_append, List.map_singleton, hadds.call_eq]
      exact h.calls_sublist.append (List.Sublist.refl _)
    · rw [List.flatMap_append, List.flatMap_append, List.flatMap_singleton,
        List.flatMap_singleton, h.rows_eq, hadds.rows_eq]
    · rw [List.forall_mem_append, List.forall_mem_singleton]
      exact ⟨h.prepared, _, by rw [hadds.call_eq]; exact hadds⟩
    · have hjudged := hadds.prepared.judged
      rw [h.existing_eq hreads hexisting] at hjudged
      rw [runOutcomes, List.flatMap_append, List.flatMap_append, List.flatMap_singleton,
        List.flatMap_singleton, List.map_append, ← runOutcomes, h.judged, hjudged,
        Timeline.Admission.judgeAll_append]

theorem importAll_prepared {calls : List RbnImportCall} (hreads : env.ReadsBack limits calls)
    (hexisting : env.existingRbnSpots existing = []) :
    RunPrepared env limits calls (env.importAll limits existing calls) := by
  induction calls using List.reverseRecOn with
  | nil => exact ⟨.slnil, rfl, by simp [importAll], rfl⟩
  | append_singleton calls call ih =>
    have hrun : env.importAll limits existing (calls ++ [call]) =
        env.importNext limits existing (env.importAll limits existing calls) call := by
      simp [importAll]
    have hbefore := ih fun c hc => hreads c (List.mem_append_left _ hc)
    rw [hrun]
    exact hbefore.next (fun c hc => hreads c (List.mem_append_left _ hc)) hexisting call

def importKeys (imported : RbnImported) : List RbnRecordKey :=
  .capture imported.call.importId :: .summary imported.call.importId ::
    imported.rows.map fun row => .row imported.call.importId row.rowNumber

theorem importKeys_nodup {imported : RbnImported}
    (h : (imported.rows.map (·.rowNumber)).Nodup) : (importKeys imported).Nodup := by
  have hrows : (imported.rows.map fun row =>
      RbnRecordKey.row imported.call.importId row.rowNumber).Nodup := by
    rw [show (imported.rows.map fun row => RbnRecordKey.row imported.call.importId row.rowNumber) =
      (imported.rows.map (·.rowNumber)).map (RbnRecordKey.row imported.call.importId) by
        rw [List.map_map]
        rfl]
    exact h.map fun a b hab => (RbnRecordKey.row.inj hab).2
  simp [importKeys, hrows]

section Run

variable {calls : List RbnImportCall} {run : List RbnImported}

theorem RunPrepared.importIds_apart (h : RunPrepared env limits calls run)
    (hids : (calls.map (·.importId)).Nodup) :
    run.Pairwise fun imported later => imported.call.importId ≠ later.call.importId := by
  have hrun : (run.map fun imported => imported.call.importId).Nodup := by
    have hsub := h.calls_sublist.map (·.importId)
    rw [List.map_map] at hsub
    exact hids.sublist hsub
  exact List.pairwise_map.1 hrun

theorem RunPrepared.rowNumbers_nodup (h : RunPrepared env limits calls run)
    {imported : RbnImported} (himported : imported ∈ run) :
    (imported.rows.map (·.rowNumber)).Nodup := by
  obtain ⟨stored, hadds⟩ := h.prepared imported himported
  rw [hadds.rows_eq]
  exact (retainedRows_settled _).2

theorem RunPrepared.recordIds_nodup (h : RunPrepared env limits calls run)
    (hids : (calls.map (·.importId)).Nodup) : ((runRecords run).map (·.recordId)).Nodup := by
  have hkeys : (runRecords run).map (·.recordId) =
      (run.flatMap importKeys).map RbnRecordKey.text := by
    rw [runRecords, List.map_flatMap, List.map_flatMap]
    apply List.flatMap_congr
    intro imported himported
    obtain ⟨stored, hadds⟩ := h.prepared imported himported
    rw [hadds.prepared.recordIds, importKeys, List.map_cons, List.map_cons, List.map_map]
    rfl
  rw [hkeys]
  refine List.Nodup.map RbnRecordKey.text_injective (List.nodup_flatMap.2 ⟨?_, ?_⟩)
  · exact fun imported himported => importKeys_nodup (h.rowNumbers_nodup himported)
  · refine (h.importIds_apart hids).imp fun {imported later} hne => ?_
    intro key hkey hlater
    simp only [importKeys, List.mem_cons, List.mem_map] at hkey hlater
    rcases hkey with rfl | rfl | ⟨row, -, rfl⟩ <;> rcases hlater with hl | hl | ⟨row', -, hl⟩ <;>
      simp_all

theorem RunPrepared.yields (h : RunPrepared env limits calls run) :
    List.Forall₂ RbnOutcome.Yields ((runOutcomes run).filter (·.accepted))
      (runObservations run) := by
  have hprepared := h.prepared
  clear h
  induction run with
  | nil => exact .nil
  | cons imported rest ih =>
    rw [List.forall_mem_cons] at hprepared
    obtain ⟨⟨stored, hadds⟩, hrest⟩ := hprepared
    rw [runOutcomes, List.flatMap_cons, List.filter_append, runObservations, List.flatMap_cons]
    exact List.rel_append hadds.prepared.yields (ih hrest)

theorem RunPrepared.observationIds_nodup (h : RunPrepared env limits calls run)
    (hids : (calls.map (·.importId)).Nodup) :
    ((runObservations run).map (·.observationId)).Nodup := by
  let text (key : String × ℕ) : String := "rbn-observation-" ++ key.1 ++ "-" ++ toString key.2
  have htext : Function.Injective text := fun key key' hkeys =>
    Prod.ext (numbered_inj hkeys).1 (numbered_inj hkeys).2
  let keys (imported : RbnImported) : List (String × ℕ) :=
    (imported.outcomes.filter (·.accepted)).map fun outcome =>
      (imported.call.importId, outcome.row.rowNumber)
  have hkeys : (runObservations run).map (·.observationId) = (run.flatMap keys).map text := by
    rw [runObservations, List.map_flatMap, List.map_flatMap]
    apply List.flatMap_congr
    intro imported himported
    obtain ⟨stored, hadds⟩ := h.prepared imported himported
    rw [hadds.prepared.observationIds, List.map_map]
    rfl
  rw [hkeys]
  refine List.Nodup.map htext (List.nodup_flatMap.2 ⟨fun imported himported => ?_, ?_⟩)
  · obtain ⟨stored, hadds⟩ := h.prepared imported himported
    have hnumbers := h.rowNumbers_nodup himported
    rw [← hadds.prepared.rows_eq, List.map_map] at hnumbers
    have hkept : ((imported.outcomes.filter (·.accepted)).map (·.row.rowNumber)).Nodup :=
      hnumbers.sublist (List.filter_sublist.map _)
    have hpaired : keys imported = ((imported.outcomes.filter (·.accepted)).map
        (·.row.rowNumber)).map (imported.call.importId, ·) := by
      rw [List.map_map]
      rfl
    rw [hpaired]
    exact hkept.map fun a b hab => (Prod.mk.inj hab).2
  · refine (h.importIds_apart hids).imp fun {imported later} hne => ?_
    intro key hkey hlater
    obtain ⟨_, -, rfl⟩ := List.mem_map.1 hkey
    obtain ⟨_, -, heq⟩ := List.mem_map.1 hlater
    exact hne (Prod.mk.inj heq).1.symm

theorem RunPrepared.outcomeIds_nodup (h : RunPrepared env limits calls run)
    (hids : (calls.map (·.importId)).Nodup) :
    ((runOutcomes run).map (·.record.recordId)).Nodup := by
  have htails : (runOutcomes run).map (·.record) =
      run.flatMap (·.prepared.adapterRecords.drop 2) := by
    rw [runOutcomes, List.map_flatMap]
    apply List.flatMap_congr
    intro imported himported
    obtain ⟨stored, hadds⟩ := h.prepared imported himported
    exact hadds.prepared.tail.symm
  have hsub : ((runOutcomes run).map (·.record)).Sublist (runRecords run) := by
    rw [htails, runRecords]
    exact List.Sublist.flatMap_right _ fun imported _ => List.drop_sublist _ _
  have hnodup := (h.recordIds_nodup hids).sublist (hsub.map (·.recordId))
  rw [List.map_map] at hnodup
  exact hnodup

/-- The observations of some spots are as many as the accepted rows with one of them. -/
theorem RunPrepared.observationsOf_length (h : RunPrepared env limits calls run)
    (hids : (calls.map (·.importId)).Nodup) (p : RbnSpot → Bool) :
    (observationsOf run p).length =
      ((runOutcomes run).filter fun outcome =>
        outcome.row.spot.any p && outcome.accepted).length := by
  rw [← List.filter_filter, observationsOf]
  apply Timeline.forall₂_filter_length h.yields
  intro outcome houtcome observation hyields
  have hmem := List.mem_of_mem_filter houtcome
  rw [Bool.eq_iff_iff, List.any_eq_true]
  constructor
  · rintro ⟨named, hnamed, hboth⟩
    rw [Bool.and_eq_true, hyields.back, List.contains_iff_mem, List.mem_singleton] at hboth
    have hsame := List.inj_on_of_nodup_map (h.outcomeIds_nodup hids) hnamed hmem hboth.2
    rw [← hsame]
    exact hboth.1
  · intro hp
    refine ⟨outcome, hmem, ?_⟩
    rw [Bool.and_eq_true, hyields.back, List.contains_iff_mem, List.mem_singleton]
    exact ⟨hp, rfl⟩

/-- Of the accepted rows of an identity there is at most one. -/
theorem RunPrepared.accepted_apart (h : RunPrepared env limits calls run) :
    (runOutcomes run).Pairwise fun outcome later =>
      outcome.accepted = true → later.accepted = true →
        ∀ s t, outcome.row.spot = some s → later.row.spot = some t → s.identity ≠ t.identity := by
  have hapart := Timeline.Admission.fresh_apart (A := env.admission) (c := ())
    (run.flatMap (·.rows))
  rw [← h.judged, List.pairwise_map] at hapart
  refine hapart.imp fun {outcome later} hne haccepted hlater s t hs ht heq => ?_
  have hfresh : ∀ {o : RbnOutcome} {spot : RbnSpot}, o.accepted = true → o.row.spot = some spot →
      (entryOf o).2 = .fresh := by
    intro o spot ho hspot
    rw [entryOf, hspot, Option.isSome_some, if_pos rfl, beq_iff_eq.1 ho]
    rfl
  apply hne (hfresh haccepted hs) (hfresh hlater ht)
  simp only [entryOf, admission, hs, ht, Option.map_some, spotIdentity_congr heq]

theorem RunPrepared.accepted_le_one (h : RunPrepared env limits calls run)
    (identity : RbnSpotIdentity) (p : RbnSpot → Bool)
    (hp : ∀ spot, p spot = true → spot.identity = identity) :
    ((runOutcomes run).filter fun outcome =>
      outcome.row.spot.any p && outcome.accepted).length ≤ 1 := by
  have hpairs := h.accepted_apart.sublist (List.filter_sublist
    (p := fun outcome => outcome.row.spot.any p && outcome.accepted))
  have hmem : ∀ outcome ∈ (runOutcomes run).filter fun outcome =>
      outcome.row.spot.any p && outcome.accepted, outcome.accepted = true ∧
        ∃ spot, outcome.row.spot = some spot ∧ spot.identity = identity := by
    intro outcome houtcome
    have hboth := (List.mem_filter.1 houtcome).2
    rw [Bool.and_eq_true, Option.any_eq_true] at hboth
    obtain ⟨⟨spot, hspot, hps⟩, haccepted⟩ := hboth
    exact ⟨haccepted, spot, hspot, hp spot hps⟩
  match hkept : (runOutcomes run).filter fun outcome =>
      outcome.row.spot.any p && outcome.accepted with
  | [] => simp [hkept]
  | [_] => simp [hkept]
  | outcome :: later :: rest =>
    rw [hkept] at hpairs hmem
    obtain ⟨haccepted, s, hs, hsi⟩ := hmem outcome (by simp)
    obtain ⟨hlater, t, ht, hti⟩ := hmem later (by simp)
    have hne := List.rel_of_pairwise_cons hpairs List.mem_cons_self
    exact absurd (hsi.trans hti.symm) (hne haccepted hlater s t hs ht)

theorem RunPrepared.once (h : RunPrepared env limits calls run)
    (hids : (calls.map (·.importId)).Nodup) (identity : RbnSpotIdentity) :
    (observationsOf run (·.identity == identity)).length ≤ 1 := by
  rw [h.observationsOf_length hids]
  exact h.accepted_le_one identity _ fun spot hspot => beq_iff_eq.1 hspot

theorem RunPrepared.consistent (h : RunPrepared env limits calls run)
    (hids : (calls.map (·.importId)).Nodup) : RbnConsistent run where
  once := h.once hids
  observationIds := h.observationIds_nodup hids
  recordIds := h.recordIds_nodup hids
  yields := h.yields
  linked := by
    intro record hrecord
    obtain ⟨imported, himported, hmem⟩ := List.mem_flatMap.1 hrecord
    obtain ⟨stored, hadds⟩ := h.prepared imported himported
    rw [← List.take_append_drop 2 imported.prepared.adapterRecords, hadds.prepared.tail] at hmem
    rcases List.mem_append.1 hmem with hhead | htail
    · exact .inl (hadds.prepared.unlinked record hhead)
    · obtain ⟨outcome, houtcome, rfl⟩ := List.mem_map.1 htail
      by_cases haccepted : outcome.accepted = true
      · exact .inr ⟨outcome, List.mem_flatMap.2 ⟨imported, himported, houtcome⟩, haccepted, rfl⟩
      · rw [(hadds.prepared.stored outcome houtcome).links]
        exact .inl (if_neg fun hdisposition => haccepted (beq_iff_eq.2 hdisposition))
  members := by
    intro imported himported
    obtain ⟨stored, hadds⟩ := h.prepared imported himported
    rw [hadds.mutationId]
    exact hadds.prepared.mutations

end Run

end RbnEnv

end AntennaBench
