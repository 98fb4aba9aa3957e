import Mathlib.Data.List.Nodup
import AntennaBench.Core.Text
import AntennaBench.Timeline.FirstWins
import AntennaBench.Wsjtx.WsprLiveImport

/-!
# The rows of an acquisition

A response is parsed and its rows prepared against the adapter records accumulated so far.
The stored row records are the memory of the adapter, and an acquisition recalls them under
its own query, so its rows are offers to a `Timeline.Admission`.
-/

namespace AntennaBench

structure AcquisitionCall where
  input : List UInt8
  config : WsprLiveImportConfig
  cancelled : ℕ → Bool
  sessionId : String
  importId : String
  exactResponse : AttachmentReference
  channel : WsprLiveAcquisitionChannel

/-- A row of a response and the adapter record it became. -/
structure SpotOutcome where
  row : WsprLiveRowResult
  record : AdapterRecordV2

/-- What a run has accumulated; `outcomes` are the row records with their rows. -/
structure AcquisitionLog where
  adapterRecords : List AdapterRecordV2 := []
  observations : List ObservationRecordV2 := []
  outcomes : List SpotOutcome := []

namespace WsprLiveEnv

variable (env : WsprLiveEnv)

def responseRows (call : AcquisitionCall) : List WsprLiveRowResult :=
  match env.parseWsprLiveJson call.input call.config call.cancelled with
  | .error _ => []
  | .ok parsed => parsed.rows

/-- One acquisition: a response that does not parse changes nothing. -/
def acquire (log : AcquisitionLog) (call : AcquisitionCall) : AcquisitionLog :=
  match env.parseWsprLiveJson call.input call.config call.cancelled with
  | .error _ => log
  | .ok parsed =>
    let prepared := env.prepareWsprLiveAcquisition parsed call.config call.sessionId call.importId
      call.exactResponse log.adapterRecords call.channel
    { adapterRecords := log.adapterRecords ++ prepared.adapterRecords
      observations := log.observations ++ prepared.observations
      outcomes := log.outcomes ++
        List.zipWith SpotOutcome.mk parsed.rows (prepared.adapterRecords.drop 2) }

def acquireAll (calls : List AcquisitionCall) : AcquisitionLog :=
  calls.foldl env.acquire {}

/-- Once a provider ID was accepted, an identical row is a duplicate, another one a
conflict, and neither yields an observation. -/
def Follows (earlier later : SpotOutcome) : Prop :=
  earlier.record.disposition = .accepted →
    earlier.row.providerSpotId = later.row.providerSpotId →
      (env.rowValues earlier.row.raw = env.rowValues later.row.raw →
        later.record.disposition = .duplicate) ∧
      (env.rowValues earlier.row.raw ≠ env.rowValues later.row.raw →
        later.record.disposition = .conflict) ∧
      later.record.normalizedRecords = []

/-- Acquisition is exactly once per provider spot. -/
structure ExactlyOncePerSpot (log : AcquisitionLog) : Prop where
  unique : (log.observations.map (·.observationId)).Nodup
  linked : log.observations.map (·.observationId) =
    log.outcomes.flatMap fun outcome => outcome.record.normalizedRecords.map (·.recordId)
  follows : log.outcomes.Pairwise env.Follows

def InScope (config : WsprLiveImportConfig) (raw : JsonValue) : Prop :=
  (env.classifyUnder config 0 raw).disposition = .accepted

/-- The query of the call still sees the row: its call sign, window and bands do. -/
def InSight (config : WsprLiveImportConfig) (raw : JsonValue) : Prop :=
  (env.classifyUnder config 0 raw).spot.isSome = true

/-- When the call carries a provider ID again, the row is in the scope of the call,
and the row accepted under that ID is still in its sight. -/
structure Recognises (log : AcquisitionLog) (call : AcquisitionCall) : Prop where
  earlier : ∀ row ∈ env.responseRows call, ∀ outcome ∈ log.outcomes,
    outcome.record.disposition = .accepted → outcome.row.providerSpotId = row.providerSpotId →
      env.InScope call.config row.raw ∧ env.InSight call.config outcome.row.raw
  within : (env.responseRows call).Pairwise fun row later =>
    env.InScope call.config row.raw → row.providerSpotId = later.providerSpotId →
      env.InScope call.config later.raw

/-- `serde_json` reads back the rows it writes. -/
def ReadsBack (calls : List AcquisitionCall) : Prop :=
  ∀ call ∈ calls, ∀ row ∈ env.responseRows call,
    env.fromStr (env.jsonText row.raw) = some row.raw

/-- SHA-256 tells the spots of the run apart, whichever query reads them. -/
def TellsApart (calls : List AcquisitionCall) : Prop :=
  ∀ call ∈ calls, ∀ first ∈ calls, ∀ a ∈ env.responseRows first,
    ∀ second ∈ calls, ∀ b ∈ env.responseRows second, ∀ s t,
      (env.classifyUnder call.config 0 a.raw).spot = some s →
      (env.classifyUnder call.config 0 b.raw).spot = some t →
      env.spotFingerprint s = env.spotFingerprint t → s = t

variable {env}

theorem spotted_of_classifyUnder {config : WsprLiveImportConfig} {n : ℕ} {raw : JsonValue}
    {spot : WsprLiveSpot} (h : (env.classifyUnder config n raw).spot = some spot) :
    Spotted env raw config.callsign config.windowStart config.windowEnd config.selectedBands
      spot :=
  rowVerdict_spot.1 h

/-- Rows as items with provider IDs, seen through the query of an import. -/
def admission (env : WsprLiveEnv) :
    Timeline.Admission WsprLiveImportConfig JsonValue ℕ String where
  key := rowSpotId
  view config raw := (env.classifyUnder config 0 raw).spot.map fun spot =>
    (spot.providerSpotId, env.spotFingerprint spot)
  admits config raw := decide ((env.classifyUnder config 0 raw).disposition = .accepted)
  key_of_view := by
    intro config raw id fingerprint h
    obtain ⟨spot, hspot, heq⟩ := Option.map_eq_some_iff.1 h
    cases heq
    exact (spotted_of_classifyUnder hspot).providerSpotId
  view_of_admits := by
    intro config raw h
    obtain ⟨spot, hspot⟩ := rowVerdict_accepted_spot (of_decide_eq_true h)
    exact ⟨_, _, Option.map_eq_some_iff.2 ⟨spot, hspot, rfl⟩⟩

def verdictOf : AdapterDisposition → Timeline.Verdict
  | .accepted => .fresh
  | .duplicate => .duplicate
  | .conflict => .conflict
  | _ => .refused

theorem verdictOf_eq_fresh {disposition : AdapterDisposition} :
    verdictOf disposition = .fresh ↔ disposition = .accepted := by
  cases disposition <;> simp [verdictOf]

theorem verdictOf_eq_duplicate {disposition : AdapterDisposition} :
    verdictOf disposition = .duplicate ↔ disposition = .duplicate := by
  cases disposition <;> simp [verdictOf]

theorem verdictOf_eq_conflict {disposition : AdapterDisposition} :
    verdictOf disposition = .conflict ↔ disposition = .conflict := by
  cases disposition <;> simp [verdictOf]

def entries (outcomes : List SpotOutcome) : List (JsonValue × Timeline.Verdict) :=
  outcomes.map fun outcome => (outcome.row.raw, verdictOf outcome.record.disposition)

/-- A row as the classification of its text left it. -/
def Classified (env : WsprLiveEnv) (config : WsprLiveImportConfig) (row : WsprLiveRowResult) :
    Prop :=
  ∃ n, row = env.classifyUnder config n row.raw

theorem Classified.providerSpotId {config : WsprLiveImportConfig} {row : WsprLiveRowResult}
    (h : Classified env config row) : row.providerSpotId = rowSpotId row.raw := by
  obtain ⟨n, hn⟩ := h
  rw [hn]
  rfl

theorem parseRows_classified {config : WsprLiveImportConfig} {cancelled : ℕ → Bool}
    {limits : WsprLiveImportLimits} {data : List JsonValue} {index : ℕ}
    {rows : List WsprLiveRowResult}
    (h : env.parseRows config cancelled limits index data = .ok rows) :
    ∀ row ∈ rows, Classified env config row := by
  induction data generalizing index rows with
  | nil =>
    cases h
    simp
  | cons raw rest ih =>
    simp only [parseRows, bind_eq_ok, pure_eq_ok] at h
    obtain ⟨_, -, _, -, tail, htail, rfl⟩ := h
    intro row hrow
    rcases List.mem_cons.1 hrow with rfl | hmem
    · exact ⟨index + 1, rfl⟩
    · exact ih htail row hmem

theorem parseWsprLiveJson_classified {input : List UInt8} {config : WsprLiveImportConfig}
    {cancelled : ℕ → Bool} {parsed : ParsedWsprLiveJson}
    (h : env.parseWsprLiveJson input config cancelled = .ok parsed) :
    ∀ row ∈ parsed.rows, Classified env config row := by
  simp only [parseWsprLiveJson, parseWsprLiveJsonWithLimits, bind_eq_ok, pure_eq_ok] at h
  obtain ⟨_, -, _, -, _, -, _, -, _, -, _, -, _, -, _, -, _, -, rows, hrows, rfl⟩ := h
  exact parseRows_classified hrows

/-- The row loop judges a row as the admission does. -/
theorem verdictOf_replayedDisposition {config : WsprLiveImportConfig} {row : WsprLiveRowResult}
    (h : Classified env config row) (replay : List (ℕ × String)) :
    verdictOf (env.replayedDisposition replay row) = env.admission.judge config replay row.raw := by
  obtain ⟨n, hrow⟩ := h
  have hdisposition : row.disposition = (env.classifyUnder config 0 row.raw).disposition := by
    rw [hrow]
    rfl
  by_cases haccepted : (env.classifyUnder config 0 row.raw).disposition = .accepted
  · obtain ⟨spot, hspot⟩ := rowVerdict_accepted_spot haccepted
    have hrowSpot : row.spot = some spot := by
      rw [hrow]
      exact hspot
    have hid : row.providerSpotId = some spot.providerSpotId := by
      rw [hrow]
      exact (rowVerdict_spot.1 hspot).providerSpotId
    have hview : env.admission.view config row.raw =
        some (spot.providerSpotId, env.spotFingerprint spot) :=
      Option.map_eq_some_iff.2 ⟨spot, hspot, rfl⟩
    have hadmits : env.admission.admits config row.raw = true := decide_eq_true haccepted
    unfold Timeline.Admission.judge replayedDisposition fingerprint
    simp only [hadmits, hview, hdisposition, haccepted, hid, hrowSpot, if_true, Option.bind_some,
      Option.elim_some]
    cases replay.lookup spot.providerSpotId with
    | none => rfl
    | some prior =>
      by_cases heq : prior = env.spotFingerprint spot <;> simp [heq, verdictOf]
  · have hadmits : env.admission.admits config row.raw = false := decide_eq_false haccepted
    unfold Timeline.Admission.judge replayedDisposition
    simp only [hadmits, hdisposition, haccepted, if_false, Bool.false_eq_true]
    generalize (env.classifyUnder config 0 row.raw).disposition = disposition at haccepted
    cases disposition with
    | accepted => exact absurd rfl haccepted
    | malformed => rfl
    | filtered => rfl
    | unsupported => rfl

def linkedIds (record : AdapterRecordV2) : List String :=
  record.normalizedRecords.map (·.recordId)

theorem prepareRow_adapterRecords (identity : ImportIdentity) (state : PrepareState)
    (row : WsprLiveRowResult) :
    (env.prepareRow identity state row).adapterRecords = state.adapterRecords ++
      [env.rowRecord identity state.adapterRecords.length
        (env.replayedDisposition state.replay row) row] := by
  simp only [prepareRow]
  split <;> rfl

/-- A row is accepted only with a spot and its provider ID. -/
theorem Classified.of_replayed_accepted {config : WsprLiveImportConfig} {row : WsprLiveRowResult}
    (h : Classified env config row) {replay : List (ℕ × String)}
    (haccepted : env.replayedDisposition replay row = .accepted) :
    ∃ spot, row.spot = some spot ∧ row.providerSpotId = some spot.providerSpotId ∧
      env.admission.view config row.raw =
        some (spot.providerSpotId, env.spotFingerprint spot) := by
  have hjudge : env.admission.judge config replay row.raw = .fresh := by
    rw [← verdictOf_replayedDisposition h, haccepted]
    rfl
  obtain ⟨id, fingerprint, hview, -, -⟩ := Timeline.Admission.judge_eq_fresh hjudge
  obtain ⟨spot, hspot, heq⟩ := Option.map_eq_some_iff.1 hview
  cases heq
  refine ⟨spot, ?_, ?_, hview⟩
  · obtain ⟨n, hrow⟩ := h
    rw [hrow]
    exact hspot
  · rw [h.providerSpotId]
    exact (spotted_of_classifyUnder hspot).providerSpotId

theorem prepareRow_replay {identity : ImportIdentity} {row : WsprLiveRowResult}
    (h : Classified env identity.config row) (state : PrepareState) :
    (env.prepareRow identity state row).replay =
      env.admission.learn identity.config state.replay row.raw := by
  unfold Timeline.Admission.learn
  rw [← verdictOf_replayedDisposition h]
  by_cases haccepted : env.replayedDisposition state.replay row = .accepted
  · obtain ⟨spot, hspot, hid, hview⟩ := h.of_replayed_accepted haccepted
    simp [prepareRow, haccepted, hspot, hid, hview, verdictOf, fingerprint]
  · rw [if_neg fun hfresh => haccepted (verdictOf_eq_fresh.1 hfresh)]
    simp only [prepareRow]
    split
    · exact absurd ‹_› haccepted
    all_goals rfl

theorem rowRecord_links {identity : ImportIdentity} {row : WsprLiveRowResult}
    (h : Classified env identity.config row) (n : ℕ) (replay : List (ℕ × String)) :
    (env.rowRecord identity n (env.replayedDisposition replay row) row).normalizedRecords =
      if env.replayedDisposition replay row = .accepted then
        (row.providerSpotId.map fun id => ⟨.observation, spotObservationId id⟩).toList
      else [] := by
  unfold rowRecord
  by_cases haccepted : env.replayedDisposition replay row = .accepted
  · obtain ⟨spot, hspot, -⟩ := h.of_replayed_accepted haccepted
    simp [haccepted, hspot]
  · simp [haccepted]

theorem prepareRow_observations {identity : ImportIdentity} {row : WsprLiveRowResult}
    (h : Classified env identity.config row) (state : PrepareState) :
    (env.prepareRow identity state row).observations.map (·.observationId) =
      state.observations.map (·.observationId) ++
        linkedIds (env.rowRecord identity state.adapterRecords.length
          (env.replayedDisposition state.replay row) row) := by
  unfold linkedIds
  rw [rowRecord_links h]
  by_cases haccepted : env.replayedDisposition state.replay row = .accepted
  · obtain ⟨spot, hspot, hid, -⟩ := h.of_replayed_accepted haccepted
    simp [prepareRow, haccepted, hspot, hid, wsprLiveObservation]
  · rw [if_neg haccepted, List.map_nil, List.append_nil]
    simp only [prepareRow]
    split
    · exact absurd ‹_› haccepted
    all_goals rfl

/-- What the record of a row keeps of it. -/
structure Stored (env : WsprLiveEnv) (outcome : SpotOutcome) : Prop where
  adapter : outcome.record.recordMeta.provenance.adapterId.value = wsprLiveAdapterId
  kind : outcome.record.recordType = "wspr_live_spot"
  input : ∃ mediaType encoding locator,
    outcome.record.input = .inline (env.jsonText outcome.row.raw) mediaType encoding locator
  identified : outcome.row.providerSpotId = rowSpotId outcome.row.raw
  links : outcome.record.normalizedRecords =
    if outcome.record.disposition = .accepted then
      (outcome.row.providerSpotId.map fun id => ⟨.observation, spotObservationId id⟩).toList
    else []

/-- What the row loop adds to its state. -/
structure RowsPrepared (env : WsprLiveEnv) (config : WsprLiveImportConfig)
    (state final : PrepareState)
    (rows : List WsprLiveRowResult) (outcomes : List SpotOutcome) : Prop where
  rows_eq : outcomes.map (·.row) = rows
  records : final.adapterRecords = state.adapterRecords ++ outcomes.map (·.record)
  observed : final.observations.map (·.observationId) =
    state.observations.map (·.observationId) ++ outcomes.flatMap fun outcome =>
      linkedIds outcome.record
  judged : entries outcomes =
    env.admission.judgeAll config state.replay (rows.map (·.raw))
  stored : ∀ outcome ∈ outcomes, Stored env outcome

theorem foldl_prepareRow {identity : ImportIdentity}
    (hadapter : identity.provenance.adapterId.value = wsprLiveAdapterId)
    {rows : List WsprLiveRowResult} (hrows : ∀ row ∈ rows, Classified env identity.config row)
    (state : PrepareState) :
    ∃ outcomes, RowsPrepared env identity.config state
      (rows.foldl (env.prepareRow identity) state) rows outcomes := by
  induction rows generalizing state with
  | nil => exact ⟨[], rfl, by simp, by simp, rfl, by simp⟩
  | cons row rest ih =>
    have hrow := hrows row List.mem_cons_self
    obtain ⟨outcomes, hprepared⟩ := ih (fun r hr => hrows r (List.mem_cons_of_mem _ hr))
      (env.prepareRow identity state row)
    let outcome : SpotOutcome := ⟨row, env.rowRecord identity state.adapterRecords.length
      (env.replayedDisposition state.replay row) row⟩
    refine ⟨outcome :: outcomes, ?_, ?_, ?_, ?_, ?_⟩
    · rw [List.map_cons, hprepared.rows_eq]
    · rw [List.foldl_cons, hprepared.records, prepareRow_adapterRecords, List.append_assoc]
      rfl
    · rw [List.foldl_cons, hprepared.observed, prepareRow_observations hrow, List.append_assoc]
      rfl
    · have hjudged := hprepared.judged
      rw [prepareRow_replay hrow] at hjudged
      rw [List.map_cons, Timeline.Admission.judgeAll, ← verdictOf_replayedDisposition hrow,
        ← hjudged]
      rfl
    · intro o ho
      rcases List.mem_cons.1 ho with rfl | hmem
      · exact ⟨hadapter, rfl, ⟨_, _, _, rfl⟩, hrow.providerSpotId, rowRecord_links hrow _ _⟩
      · exact hprepared.stored o hmem

def SpotOutcome.withMemberCount (outcome : SpotOutcome) (memberCount : ℕ) : SpotOutcome :=
  { outcome with record := outcome.record.withMemberCount memberCount }

def isSpotRecord (record : AdapterRecordV2) : Bool :=
  record.recordType == "wspr_live_spot"

/-- What an acquisition adds: the row records of its outcomes, and their observations. -/
structure Prepares (env : WsprLiveEnv) (config : WsprLiveImportConfig)
    (existing : List AdapterRecordV2) (rows : List WsprLiveRowResult)
    (prepared : PreparedWsprLiveImport) (outcomes : List SpotOutcome) : Prop where
  rows_eq : outcomes.map (·.row) = rows
  tail : prepared.adapterRecords.drop 2 = outcomes.map (·.record)
  records : prepared.adapterRecords.filter isSpotRecord = outcomes.map (·.record)
  observed : prepared.observations.map (·.observationId) =
    outcomes.flatMap fun outcome => linkedIds outcome.record
  judged : entries outcomes = env.admission.judgeAll config
    (env.existingWsprLiveSpots existing config) (rows.map (·.raw))
  stored : ∀ outcome ∈ outcomes, Stored env outcome

theorem captureRecord_type : ("wspr_live_import_capture" == "wspr_live_spot") = false := by
  decide

theorem summaryRecord_type : ("wspr_live_import_summary" == "wspr_live_spot") = false := by
  decide

theorem filter_isSpotRecord {outcomes : List SpotOutcome}
    (h : ∀ outcome ∈ outcomes, Stored env outcome) :
    (outcomes.map (·.record)).filter isSpotRecord = outcomes.map (·.record) := by
  rw [List.filter_eq_self]
  intro record hrecord
  obtain ⟨outcome, houtcome, rfl⟩ := List.mem_map.1 hrecord
  exact beq_iff_eq.2 (h outcome houtcome).kind

theorem map_observationId_mapIdx (observations : List ObservationRecordV2) (start count : ℕ) :
    (observations.mapIdx fun offset observation =>
      observation.withMember (start + offset) count).map (·.observationId) =
        observations.map (·.observationId) := by
  apply List.ext_getElem
  · simp
  · intro i _ _
    simp [ObservationRecordV2.withMember]

theorem prepareWsprLiveAcquisition_prepares {parsed : ParsedWsprLiveJson}
    {config : WsprLiveImportConfig} (hrows : ∀ row ∈ parsed.rows, Classified env config row)
    (sessionId importId : String) (exactResponse : AttachmentReference)
    (existing : List AdapterRecordV2) (channel : WsprLiveAcquisitionChannel) :
    ∃ outcomes, Prepares env config existing parsed.rows
      (env.prepareWsprLiveAcquisition parsed config sessionId importId exactResponse existing
        channel) outcomes := by
  let identity : ImportIdentity := ⟨config, sessionId, importId, env.provenance channel⟩
  obtain ⟨outcomes, h⟩ := foldl_prepareRow (show
    identity.provenance.adapterId.value = wsprLiveAdapterId from rfl) hrows
      { replay := env.existingWsprLiveSpots existing config
        adapterRecords := [captureRecord identity exactResponse, summaryRecord identity ""]
        observations := []
        summary :=
          { total := parsed.summary.total
            malformed := parsed.summary.malformed
            filtered := parsed.summary.filtered
            unsupported := parsed.summary.unsupported } }
  have hstate : (env.prepareRows identity parsed exactResponse existing).adapterRecords =
      captureRecord identity exactResponse :: summaryRecord identity "" ::
        outcomes.map (·.record) := h.records
  have hobserved : (env.prepareRows identity parsed exactResponse existing).observations.map
      (·.observationId) = outcomes.flatMap fun outcome => linkedIds outcome.record := h.observed
  let data := env.jsonText (env.importSummaryJson config exactResponse channel
    (env.prepareRows identity parsed exactResponse existing).summary)
  let count := (outcomes.length + 2) +
    (env.prepareRows identity parsed exactResponse existing).observations.length
  have hrecords : (env.prepareWsprLiveAcquisition parsed config sessionId importId exactResponse
      existing channel).adapterRecords =
        (captureRecord identity exactResponse).withMemberCount count ::
          (summaryRecord identity data).withMemberCount count ::
            (outcomes.map (SpotOutcome.withMemberCount · count)).map (·.record) := by
    simp only [prepareWsprLiveAcquisition]
    rw [show env.prepareRows ⟨config, sessionId, importId, env.provenance channel⟩ parsed
      exactResponse existing = env.prepareRows identity parsed exactResponse existing from rfl,
      hstate]
    simp [List.modify, SpotOutcome.withMemberCount, Function.comp_def, count, data, summaryRecord]
  have hstored : ∀ outcome ∈ outcomes.map (SpotOutcome.withMemberCount · count),
      Stored env outcome := by
    intro outcome houtcome
    obtain ⟨o, ho, rfl⟩ := List.mem_map.1 houtcome
    obtain ⟨hadapter, hkind, hinput, hid, hlinks⟩ := h.stored o ho
    exact ⟨hadapter, hkind, hinput, hid, hlinks⟩
  refine ⟨outcomes.map (SpotOutcome.withMemberCount · count), ?_, ?_, ?_, ?_, ?_, hstored⟩
  · rw [← h.rows_eq, List.map_map]
    rfl
  · rw [hrecords]
    rfl
  · have hcapture : isSpotRecord ((captureRecord identity exactResponse).withMemberCount count) =
        false := captureRecord_type
    have hsummary : isSpotRecord ((summaryRecord identity data).withMemberCount count) =
        false := summaryRecord_type
    rw [hrecords, List.filter_cons, hcapture, List.filter_cons, hsummary]
    exact filter_isSpotRecord hstored
  · rw [List.flatMap_map]
    refine Eq.trans ?_ hobserved
    exact map_observationId_mapIdx _ _ _
  · refine Eq.trans ?_ h.judged
    rw [entries, List.map_map]
    rfl

/-- The log of a run: its row records in order, and the observations they link. -/
structure Tracked (env : WsprLiveEnv) (log : AcquisitionLog) : Prop where
  records : log.adapterRecords.filter isSpotRecord = log.outcomes.map (·.record)
  observed : log.observations.map (·.observationId) =
    log.outcomes.flatMap fun outcome => linkedIds outcome.record
  stored : ∀ outcome ∈ log.outcomes, Stored env outcome

/-- The adapter reads back the spots of a run as the admission recalls its history. -/
theorem Tracked.recollect_eq {log : AcquisitionLog} (h : Tracked env log)
    (hreads : ∀ outcome ∈ log.outcomes,
      env.fromStr (env.jsonText outcome.row.raw) = some outcome.row.raw)
    (config : WsprLiveImportConfig) :
    env.existingWsprLiveSpots log.adapterRecords config =
      env.admission.recollect config (entries log.outcomes) := by
  let spotOf (record : AdapterRecordV2) : Option (ℕ × String) :=
    (env.storedSpot? config record).map fun spot =>
      (spot.providerSpotId, env.spotFingerprint spot)
  have hskip : ∀ record, spotOf record = if isSpotRecord record then spotOf record else none := by
    intro record
    by_cases hkind : isSpotRecord record = true
    · rw [if_pos hkind]
    · rw [if_neg hkind]
      have hkind' : (record.recordType == "wspr_live_spot") = false :=
        Bool.eq_false_iff.2 hkind
      simp only [spotOf, storedSpot?, hkind', Bool.and_false, Bool.false_and, guard,
        Bool.false_eq_true, if_false]
      rfl
  have houtcome : ∀ outcome ∈ log.outcomes, spotOf outcome.record =
      if verdictOf outcome.record.disposition = .fresh then
        env.admission.view config outcome.row.raw
      else none := by
    intro outcome hmem
    obtain ⟨hadapter, hkind, ⟨_, _, _, hinput⟩, -, -⟩ := h.stored outcome hmem
    by_cases haccepted : outcome.record.disposition = .accepted
    · simp [spotOf, storedSpot?, hadapter, hkind, haccepted, hinput, hreads outcome hmem,
        verdictOf, admission]
    · rw [if_neg fun hfresh => haccepted (verdictOf_eq_fresh.1 hfresh)]
      simp [spotOf, storedSpot?, haccepted]
  unfold existingWsprLiveSpots Timeline.Admission.recollect entries
  congr 1
  calc log.adapterRecords.filterMap spotOf
      = (log.adapterRecords.filter isSpotRecord).filterMap spotOf := by
        rw [List.filterMap_filter]
        exact List.filterMap_congr fun record _ => hskip record
    _ = log.outcomes.filterMap fun outcome => spotOf outcome.record := by
        rw [h.records, List.filterMap_map]
        rfl
    _ = _ := by
        rw [List.filterMap_map]
        exact List.filterMap_congr houtcome

def batch (env : WsprLiveEnv) (call : AcquisitionCall) :
    WsprLiveImportConfig × List JsonValue :=
  (call.config, (env.responseRows call).map (·.raw))

theorem zipWith_outcomes (outcomes : List SpotOutcome) :
    List.zipWith SpotOutcome.mk (outcomes.map (·.row)) (outcomes.map (·.record)) = outcomes := by
  induction outcomes with
  | nil => rfl
  | cons outcome rest ih => rw [List.map_cons, List.map_cons, List.zipWith_cons_cons, ih]

theorem Tracked.acquire {log : AcquisitionLog} (h : Tracked env log)
    (hreads : ∀ outcome ∈ log.outcomes,
      env.fromStr (env.jsonText outcome.row.raw) = some outcome.row.raw)
    (call : AcquisitionCall) :
    Tracked env (env.acquire log call) ∧
      entries (env.acquire log call).outcomes =
        env.admission.offer (entries log.outcomes) (env.batch call) ∧
      ∀ outcome ∈ (env.acquire log call).outcomes,
        outcome ∈ log.outcomes ∨ outcome.row ∈ env.responseRows call := by
  unfold WsprLiveEnv.acquire Timeline.Admission.offer batch responseRows
  cases hparsed : env.parseWsprLiveJson call.input call.config call.cancelled with
  | error e =>
    exact ⟨h, (List.append_nil _).symm, fun outcome houtcome => .inl houtcome⟩
  | ok parsed =>
    obtain ⟨outcomes, hprepares⟩ := prepareWsprLiveAcquisition_prepares
      (parseWsprLiveJson_classified hparsed) call.sessionId call.importId call.exactResponse
      log.adapterRecords call.channel
    have hzip : List.zipWith SpotOutcome.mk parsed.rows
        ((env.prepareWsprLiveAcquisition parsed call.config call.sessionId call.importId
          call.exactResponse log.adapterRecords call.channel).adapterRecords.drop 2) =
            outcomes := by
      rw [hprepares.tail, ← hprepares.rows_eq, zipWith_outcomes]
    simp only [hzip]
    refine ⟨⟨?_, ?_, ?_⟩, ?_, ?_⟩
    · rw [List.filter_append, h.records, hprepares.records, List.map_append]
    · rw [List.map_append, h.observed, hprepares.observed, List.flatMap_append]
    · intro outcome houtcome
      rcases List.mem_append.1 houtcome with hmem | hmem
      · exact h.stored outcome hmem
      · exact hprepares.stored outcome hmem
    · rw [entries, List.map_append, ← h.recollect_eq hreads]
      exact congrArg (entries log.outcomes ++ ·) hprepares.judged
    · intro outcome houtcome
      refine (List.mem_append.1 houtcome).imp_right fun hmem => ?_
      rw [← hprepares.rows_eq]
      exact List.mem_map_of_mem hmem

end WsprLiveEnv

end AntennaBench
