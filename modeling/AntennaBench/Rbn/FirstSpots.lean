import AntennaBench.Analysis.OperatorFacts
import AntennaBench.Rbn.ImportRuns

/-!
# The first spot of an identity

Where the archives of a run cover their spots, the retained rows have the spots of the
session in their order, so the first spot of an identity is accepted and a different one
after it is a conflict.
-/

namespace AntennaBench

namespace RbnEnv

variable {env : RbnEnv} {limits : RbnArchiveLimits} {existing : List AdapterRecordV2}

section Spots

variable {call : RbnImportCall} {config : RbnImportConfig}

theorem rbnImportConfig_heardCallsign {bundle : BundleV3Contents}
    (h : rbnImportConfig bundle = .ok config) : config.heardCallsign = bundle.station.callsign := by
  simp only [rbnImportConfig, bind_eq_ok, pure_eq_ok] at h
  obtain ⟨_, -, _, -, rfl⟩ := h
  rfl

theorem transmittedCallsigns_ne_nil (bundle : BundleV3Contents) :
    transmittedCallsigns bundle ≠ [] := by
  unfold transmittedCallsigns
  split_ifs with hplans
  · simp
  · intro hnil
    rw [List.map_eq_nil_iff.1 hnil] at hplans
    exact hplans rfl

theorem findSome?_const {α β : Type} {items : List α} {f : α → Option β} {result : Option β}
    (hitems : items ≠ []) (h : ∀ a ∈ items, f a = result) : items.findSome? f = result := by
  induction items with
  | nil => exact absurd rfl hitems
  | cons a rest ih =>
    rw [List.forall_mem_cons] at h
    rw [List.findSome?_cons, h.1]
    cases hresult : result with
    | some b => rfl
    | none =>
      rw [hresult] at h ih
      cases rest with
      | nil => rfl
      | cons b rest => exact ih (by simp) h.2

theorem sessionSpot?_eq (hconfig : rbnImportConfig call.bundle = .ok config)
    (hcovers : env.Covers limits call config) (fields : List String) :
    env.sessionSpot? call.bundle config fields =
      (rbnRowVerdict env (normalizeCall config.heardCallsign) config.windowStart config.windowEnd
        config.selectedBands fields).toOption := by
  apply findSome?_const (transmittedCallsigns_ne_nil _)
  intro callsign hcallsign
  rw [hcovers.station callsign hcallsign, rbnImportConfig_heardCallsign hconfig]

theorem Covers.parses (hcovers : env.Covers limits call config) :
    ∃ parsed, env.parseRbnCsvWithLimits call.input config limits = .ok parsed := by
  have hroom : ({} : RbnParseState).summary.total + (env.fieldLists call.input).length ≤
      limits.rows := by
    rw [show ({} : RbnParseState).summary.total = 0 from rfl, Nat.zero_add]
    exact hcovers.rows
  obtain ⟨state, hstate⟩ := env.foldlM_parseRecord_ok config hroom hcovers.rowBytes
  refine ⟨⟨"", state.rows, state.summary⟩, ?_⟩
  simp only [parseRbnCsvWithLimits, hcovers.valid, hcovers.header, hcovers.readable, hstate,
    Except.mapError, ok_bind, bne_self_eq_false, failIf_false, pure_eq_ok]

theorem classifyAll_take (total n : ℕ) (fieldLists : List (List String)) :
    (env.classifyAll config total fieldLists).take n =
      env.classifyAll config total (fieldLists.take n) := by
  induction fieldLists generalizing total n with
  | nil => simp [classifyAll]
  | cons fields rest ih =>
    cases n with
    | zero => rfl
    | succ n => rw [classifyAll, List.take_succ_cons, List.take_succ_cons, classifyAll, ih]

/-- The retained rows have the spots of the session, and those of an identity in their
order up to repetition. -/
theorem Covers.find?_spots (hconfig : rbnImportConfig call.bundle = .ok config)
    (hcovers : env.Covers limits call config) (p : RbnSpot → Bool) :
    ((env.retainedRows limits call).filterMap (·.spot)).find? p =
      (env.spotsOf call).find? p := by
  obtain ⟨parsed, hparsed⟩ := hcovers.parses
  obtain ⟨fieldLists, hrecords, hrows⟩ := parseRbnCsvWithLimits_rows hparsed
  have hlists : env.fieldLists call.input = fieldLists := by
    rw [RbnEnv.fieldLists, hrecords, List.filterMap_map]
    exact List.filterMap_some
  have hretained : env.retainedRows limits call =
      markAll [] ((env.classifyAll config 0 fieldLists).take limits.retainedRows) := by
    rw [← hrows]
    simp [retainedRows, parseCall, hconfig, hparsed, Except.toOption]
  have hspots : env.spotsOf call = fieldLists.filterMap (env.sessionSpot? call.bundle config) := by
    simp only [spotsOf, hconfig, hlists]
  have hkept : ((env.classifyAll config 0 fieldLists).take limits.retainedRows).filterMap
      (·.spot) = env.spotsOf call := by
    have hdropped : (fieldLists.drop limits.retainedRows).filterMap
        (env.sessionSpot? call.bundle config) = [] := by
      rw [List.filterMap_eq_nil_iff, ← hlists]
      exact hcovers.retained
    rw [classifyAll_take, classifyAll_spots, hspots]
    conv_rhs => rw [← List.take_append_drop limits.retainedRows fieldLists, List.filterMap_append,
      hdropped, List.append_nil]
    exact List.filterMap_congr fun fields _ => (sessionSpot?_eq hconfig hcovers fields).symm
  have hall : (env.spotsOf call).filter (fun spot => !([] : List RbnRowFingerprint).contains
      spot.rowFingerprint) = env.spotsOf call := List.filter_eq_self.2 fun _ _ => rfl
  rw [hretained, find?_markAll p (by rw [hkept]; exact hcovers.bands), hkept, hall]

theorem find?_flatMap_congr {α β : Type} {items : List α} {f g : α → List β} {p : β → Bool}
    (h : ∀ a ∈ items, (f a).find? p = (g a).find? p) :
    (items.flatMap f).find? p = (items.flatMap g).find? p := by
  induction items with
  | nil => rfl
  | cons a rest ih =>
    rw [List.forall_mem_cons] at h
    rw [List.flatMap_cons, List.flatMap_cons, List.find?_append, List.find?_append, h.1, ih h.2]

theorem find?_runSpots {calls : List RbnImportCall} (hcovers : ∀ call ∈ calls, ∀ config,
    rbnImportConfig call.bundle = .ok config → env.Covers limits call config)
    (p : RbnSpot → Bool) :
    ((calls.flatMap (env.retainedRows limits)).filterMap (·.spot)).find? p =
      (calls.flatMap env.spotsOf).find? p := by
  rw [List.filterMap_flatMap]
  apply find?_flatMap_congr
  intro call hcall
  cases hconfig : rbnImportConfig call.bundle with
  | ok config => exact (hcovers call hcall config hconfig).find?_spots hconfig p
  | error e => simp [retainedRows, parseCall, spotsOf, hconfig, Except.toOption]

end Spots

/-- Spots with one identity text have one identity. -/
def IdentitiesTold (env : RbnEnv) (spots : List RbnSpot) : Prop :=
  ∀ s ∈ spots, ∀ t ∈ spots, env.spotIdentity s = env.spotIdentity t → s.identity = t.identity

theorem firstOf_eq {rows : List RbnRowResult} {spot : RbnSpot}
    (htold : ∀ t ∈ rows.filterMap (·.spot), env.spotIdentity t = env.spotIdentity spot →
      t.identity = spot.identity) :
    env.admission.firstOf () (env.spotIdentity spot) rows =
      ((rows.filterMap (·.spot)).find? (·.identity == spot.identity)).map env.spotFingerprint := by
  induction rows with
  | nil => rfl
  | cons row rest ih =>
    rw [Timeline.Admission.firstOf_cons]
    cases hspot : row.spot with
    | none =>
      rw [List.filterMap_cons, hspot] at htold ⊢
      rw [ih htold]
      simp [admission, hspot]
    | some t =>
      rw [List.filterMap_cons, hspot] at htold ⊢
      rw [List.forall_mem_cons] at htold
      rw [ih htold.2, List.find?_cons]
      by_cases heq : env.spotIdentity t = env.spotIdentity spot
      · have hidentity : (t.identity == spot.identity) = true := beq_iff_eq.2 (htold.1 heq)
        simp [admission, hspot, heq, hidentity]
      · have hidentity : (t.identity == spot.identity) = false :=
          beq_false_of_ne fun h => heq (spotIdentity_congr h)
        simp [admission, hspot, heq, hidentity]

section Complete

variable {calls : List RbnImportCall} {run : List RbnImported}

/-- The row of the first spot with a property, and how it was judged. -/
theorem RunPrepared.exists_judged (h : RunPrepared env limits calls run) {p : RbnSpot → Bool}
    {spot : RbnSpot}
    (hfind : ((run.flatMap (·.rows)).filterMap (·.spot)).find? p = some spot) :
    ∃ before row after outcome, run.flatMap (·.rows) = before ++ row :: after ∧
      row.spot = some spot ∧ (before.filterMap (·.spot)).find? p = none ∧
      outcome ∈ runOutcomes run ∧ outcome.row = row ∧
      (entryOf outcome).2 = env.admission.judge () (env.admission.learnAll () [] before) row := by
  rw [List.find?_filterMap] at hfind
  obtain ⟨row, hrow, hspot⟩ := Option.bind_eq_some_iff.1 hfind
  obtain ⟨-, before, after, hrows, hbefore⟩ := List.find?_eq_some_iff_append.1 hrow
  have hjudged := h.judged
  rw [hrows, Timeline.Admission.judgeAll_append, Timeline.Admission.judgeAll] at hjudged
  obtain ⟨_, rest, houtcomes, -, hrest⟩ := List.map_eq_append_iff.1 hjudged
  obtain ⟨outcome, _, rfl, hentry, -⟩ := List.map_eq_cons_iff.1 hrest
  refine ⟨before, row, after, outcome, hrows, hspot, ?_, ?_, ?_, ?_⟩
  · rw [List.find?_filterMap, List.find?_eq_none.2 fun r hr => by simpa using hbefore r hr]
    rfl
  · rw [houtcomes]
    simp
  · exact congrArg Prod.fst hentry
  · exact congrArg Prod.snd hentry

theorem judge_spot {known : List (String × String)} {row : RbnRowResult} {spot : RbnSpot}
    (hspot : row.spot = some spot) : env.admission.judge () known row =
      match known.lookup (env.spotIdentity spot) with
      | none => .fresh
      | some prior => if prior = env.spotFingerprint spot then .duplicate else .conflict := by
  simp only [Timeline.Admission.judge, admission, hspot, Option.isSome_some, Option.map_some,
    if_true]
  cases known.lookup (env.spotIdentity spot) <;> rfl

theorem lookup_learned {before : List RbnRowResult} {spot : RbnSpot}
    (htold : ∀ t ∈ before.filterMap (·.spot), env.spotIdentity t = env.spotIdentity spot →
      t.identity = spot.identity) :
    (env.admission.learnAll () [] before).lookup (env.spotIdentity spot) =
      ((before.filterMap (·.spot)).find? (·.identity == spot.identity)).map
        env.spotFingerprint := by
  rw [Timeline.Admission.lookup_learnAll, List.lookup_nil, Option.none_or, firstOf_eq htold]

theorem rbnVerdictOf_eq_fresh {disposition : AdapterDisposition}
    (h : rbnVerdictOf disposition = .fresh) : disposition = .accepted := by
  cases disposition <;> simp_all [rbnVerdictOf]

theorem rbnVerdictOf_eq_conflict {disposition : AdapterDisposition}
    (h : rbnVerdictOf disposition = .conflict) : disposition = .conflict := by
  cases disposition <;> simp_all [rbnVerdictOf]

theorem RunPrepared.exists_accepted (h : RunPrepared env limits calls run)
    (htold : IdentitiesTold env ((run.flatMap (·.rows)).filterMap (·.spot))) {spot : RbnSpot}
    (hfind : ((run.flatMap (·.rows)).filterMap (·.spot)).find? (·.identity == spot.identity) =
      some spot) :
    ∃ outcome ∈ runOutcomes run, outcome.accepted = true ∧ outcome.row.spot = some spot := by
  obtain ⟨before, row, after, outcome, hrows, hspot, hnone, hmem, hrow, hentry⟩ :=
    h.exists_judged hfind
  have hbefore : ∀ t ∈ before.filterMap (·.spot),
      env.spotIdentity t = env.spotIdentity spot → t.identity = spot.identity := by
    refine fun t ht => htold t ?_ spot (List.mem_of_find?_eq_some hfind)
    rw [hrows, List.filterMap_append]
    exact List.mem_append_left _ ht
  rw [judge_spot hspot, lookup_learned hbefore, hnone] at hentry
  subst hrow
  refine ⟨outcome, hmem, beq_iff_eq.2 (rbnVerdictOf_eq_fresh ?_), hspot⟩
  rw [entryOf, hspot, Option.isSome_some, if_pos rfl] at hentry
  exact hentry

theorem RunPrepared.exists_conflict (h : RunPrepared env limits calls run)
    (htold : IdentitiesTold env ((run.flatMap (·.rows)).filterMap (·.spot))) {spot first : RbnSpot}
    (hspotMem : spot ∈ (run.flatMap (·.rows)).filterMap (·.spot))
    (hfind : ((run.flatMap (·.rows)).filterMap (·.spot)).find? (·.identity == spot.identity) =
      some first) (hne : first ≠ spot)
    (hprints : env.spotFingerprint first ≠ env.spotFingerprint spot) :
    ∃ outcome ∈ runOutcomes run, outcome.row.spot = some spot ∧
      outcome.record.disposition = .conflict := by
  have hself : ((run.flatMap (·.rows)).filterMap (·.spot)).find? (· == spot) = some spot := by
    cases hfound : ((run.flatMap (·.rows)).filterMap (·.spot)).find? (· == spot) with
    | none => exact absurd (List.find?_eq_none.1 hfound spot hspotMem) (by simp)
    | some t =>
      have heq : (t == spot) = true := List.find?_some (p := (· == spot)) hfound
      rw [beq_iff_eq.1 heq]
  obtain ⟨before, row, after, outcome, hrows, hspot, -, hmem, hrow, hentry⟩ :=
    h.exists_judged hself
  have hbefore : ∀ t ∈ before.filterMap (·.spot),
      env.spotIdentity t = env.spotIdentity spot → t.identity = spot.identity := by
    refine fun t ht => htold t ?_ spot hspotMem
    rw [hrows, List.filterMap_append]
    exact List.mem_append_left _ ht
  -- the first spot of the identity is another one, so it stands before this row
  have hearlier : (before.filterMap (·.spot)).find? (·.identity == spot.identity) = some first := by
    rw [hrows, List.filterMap_append, List.find?_append, List.filterMap_cons, hspot] at hfind
    cases hfound : (before.filterMap (·.spot)).find? (·.identity == spot.identity) with
    | some t =>
      rw [hfound, Option.some_or] at hfind
      exact hfind
    | none =>
      rw [hfound, Option.none_or, List.find?_cons, beq_self_eq_true] at hfind
      exact absurd (Option.some.inj hfind).symm hne
  rw [judge_spot hspot, lookup_learned hbefore, hearlier, Option.map_some] at hentry
  subst hrow
  refine ⟨outcome, hmem, hspot, rbnVerdictOf_eq_conflict ?_⟩
  rw [entryOf, hspot, Option.isSome_some, if_pos rfl] at hentry
  exact hentry.trans (if_neg hprints)

/-- Two accepted rows of one identity have the same spot. -/
theorem RunPrepared.accepted_spot (h : RunPrepared env limits calls run) {o o' : RbnOutcome}
    (ho : o ∈ runOutcomes run) (ho' : o' ∈ runOutcomes run) (haccepted : o.accepted = true)
    (haccepted' : o'.accepted = true) {s t : RbnSpot} (hs : o.row.spot = some s)
    (ht : o'.row.spot = some t) (heq : s.identity = t.identity) : s = t := by
  have hone := h.accepted_le_one t.identity (·.identity == t.identity) fun spot hspot =>
    beq_iff_eq.1 hspot
  have hmem : o ∈ (runOutcomes run).filter fun outcome =>
      outcome.row.spot.any (·.identity == t.identity) && outcome.accepted := by
    simp [ho, hs, heq, haccepted]
  have hmem' : o' ∈ (runOutcomes run).filter fun outcome =>
      outcome.row.spot.any (·.identity == t.identity) && outcome.accepted := by
    simp [ho', ht, haccepted']
  have hsame : o = o' := by
    obtain ⟨a, ha⟩ := List.length_eq_one_iff.1 (Nat.le_antisymm hone (List.length_pos_of_mem hmem))
    rw [ha, List.mem_singleton] at hmem hmem'
    rw [hmem, hmem']
  rw [hsame, ht] at hs
  exact (Option.some.inj hs).symm

theorem RunPrepared.complete (h : RunPrepared env limits calls run)
    (hids : (calls.map (·.importId)).Nodup) {spots : List RbnSpot}
    (hspots : ∀ p, ((run.flatMap (·.rows)).filterMap (·.spot)).find? p = spots.find? p)
    (hcalls : ∀ spot ∈ spots, validCall spot.reporterCall = true ∧ validCall spot.heardCall = true)
    (htells : env.TellsApart spots) : RbnComplete spots run := by
  have hsubset : ∀ spot, spot ∈ (run.flatMap (·.rows)).filterMap (·.spot) ↔ spot ∈ spots := by
    intro spot
    have hboth := congrArg Option.isSome (hspots (· == spot))
    rw [Bool.eq_iff_iff, List.find?_isSome, List.find?_isSome] at hboth
    simpa using hboth
  have htold : IdentitiesTold env ((run.flatMap (·.rows)).filterMap (·.spot)) := by
    intro s hs t ht heq
    rw [hsubset] at hs ht
    exact spotIdentity_inj (hcalls s hs).1 (hcalls s hs).2 (hcalls t ht).1 (hcalls t ht).2
      (htells s hs t ht).1 heq
  have hfirst : ∀ spot, spots.find? (·.identity == spot.identity) = some spot →
      (observationsOf run (· == spot)).length = 1 := by
    intro spot hfind
    rw [← hspots] at hfind
    obtain ⟨outcome, hmem, haccepted, hspot⟩ := h.exists_accepted htold hfind
    rw [h.observationsOf_length hids]
    refine Nat.le_antisymm (h.accepted_le_one spot.identity _ fun t ht => ?_) ?_
    · rw [beq_iff_eq.1 ht]
    · refine List.length_pos_of_mem (List.mem_filter.2 ⟨hmem, ?_⟩)
      rw [haccepted, hspot, Option.any_some, beq_self_eq_true]
      rfl
  refine ⟨hfirst, fun spot hspot first hfind hne => ⟨?_, ?_⟩⟩
  · have hidentity : first.identity = spot.identity :=
      beq_iff_eq.1
        (List.find?_some (p := fun s : RbnSpot => s.identity == spot.identity) hfind)
    have hself := hfind
    rw [← hspots, ← hidentity] at hself
    obtain ⟨outcome, hmem, haccepted, hfirstSpot⟩ := h.exists_accepted htold hself
    rw [← List.length_eq_zero_iff, h.observationsOf_length hids, List.length_eq_zero_iff,
      List.filter_eq_nil_iff]
    intro other hother hboth
    rw [Bool.and_eq_true, Option.any_eq_true] at hboth
    obtain ⟨⟨t, ht, hts⟩, haccepted'⟩ := hboth
    rw [beq_iff_eq.1 hts] at ht
    exact hne (h.accepted_spot hmem hother haccepted haccepted' hfirstSpot ht hidentity)
  · rw [← hspots] at hfind
    have hfirstMem := (hsubset first).1 (List.mem_of_find?_eq_some hfind)
    exact h.exists_conflict htold ((hsubset spot).2 hspot) hfind hne fun heq =>
      hne ((htells first hfirstMem spot hspot).2 heq)

end Complete

theorem spotsOf_calls {call : RbnImportCall} {spot : RbnSpot} (h : spot ∈ env.spotsOf call) :
    validCall spot.reporterCall = true ∧ validCall spot.heardCall = true := by
  unfold spotsOf at h
  cases hconfig : rbnImportConfig call.bundle with
  | error e => simp [hconfig] at h
  | ok config =>
    simp only [hconfig] at h
    obtain ⟨fields, -, hspot⟩ := List.mem_filterMap.1 h
    obtain ⟨callsign, -, hverdict⟩ := List.exists_of_findSome?_eq_some hspot
    cases hrow : rbnRowVerdict env (normalizeCall callsign) config.windowStart config.windowEnd
        config.selectedBands fields with
    | error e => simp [hrow, Except.toOption] at hverdict
    | ok s =>
      rw [hrow, Except.toOption, Option.some.injEq] at hverdict
      subst hverdict
      exact ⟨(rbnRowVerdict_calls hrow).1, (rbnRowVerdict_calls hrow).2.1⟩

/-- A run of imports never counts a spot identity twice, and if its archives cover their
spots, it counts every first spot of an identity once. -/
theorem importAll_exactlyOnce (env : RbnEnv) (limits : RbnArchiveLimits)
    (existing : List AdapterRecordV2) (calls : List RbnImportCall)
    (hids : (calls.map (·.importId)).Nodup) (hexisting : env.existingRbnSpots existing = [])
    (hreads : env.ReadsBack limits calls) (htells : env.TellsApart (calls.flatMap env.spotsOf)) :
    RbnConsistent (env.importAll limits existing calls) ∧
      ((∀ call ∈ calls, ∀ config, rbnImportConfig call.bundle = .ok config →
        env.Covers limits call config) →
          RbnComplete (calls.flatMap env.spotsOf) (env.importAll limits existing calls)) := by
  have hrun := importAll_prepared hreads hexisting
  refine ⟨hrun.consistent hids, fun hcovers => hrun.complete hids ?_ ?_ htells⟩
  · rw [hrun.rows_eq]
    exact find?_runSpots hcovers
  · intro spot hspot
    obtain ⟨call, -, hmem⟩ := List.mem_flatMap.1 hspot
    exact spotsOf_calls hmem

end RbnEnv

namespace Scenario

open JsonText

/-- A session with one slot of an hour on 20 m, from noon. -/
def airedBundle : BundleV3Contents :=
  { correctedBundle with
    sessionState := { correctedBundle.sessionState with lifecycle := .ready }
    schedule := { signalSchedule with
      wsprCycleIntents := []
      slots := [⟨"slot1", 1, noon 0, 3600, 0, .m20, "A", some ⟨"p1", 14020000, "v1", "b1", 1⟩⟩] }
    events := [] }

def archiveRow (dx db : String) : List String :=
  ["W3LPL", "K", "NA", "14020.1", "20m", dx, "K", "NA", "CW", db, "2026-05-01 12:10:00", "20",
    "CW"]

def foreignRow : List String := archiveRow "K9XYZ" "12"

def airedSpot (db : ℕ) : RbnSpot where
  reporterCall := "W3LPL"
  heardCall := "K1ABC"
  observedAt := noon 600
  frequencyHz := 14020100
  band := .m20
  mode := .cw
  snrDb := ⟨db, false⟩
  keySpeedWpm := some 20

/-- Foreign rows, and a spot of the session after them. -/
def paddedArchive (foreign : ℕ) : CsvDocument :=
  ⟨.ok rbnArchiveColumns,
    List.replicate foreign (.ok foreignRow) ++ [.ok (archiveRow "K1ABC" "12")]⟩

/-- A spot, a foreign row, the spot again, and the spot with another report. -/
def smallArchive : CsvDocument :=
  ⟨.ok rbnArchiveColumns, [.ok (archiveRow "K1ABC" "12"), .ok foreignRow,
    .ok (archiveRow "K1ABC" "12"), .ok (archiveRow "K1ABC" "15")]⟩

def rowJson (row : List String) (digest identity : JsonValue) : JsonValue :=
  .object [
    ("fields", .array (row.map .string)), ("spot_fingerprint", digest), ("spot_identity", identity)]

def unspottedJson (row : List String) : JsonValue := rowJson row .null .null

def firstDigest : String := "39f01e80a793bbc3e8cfe88e662965bbd482507894a22f4e4fde1d3ed9072f96"

def otherDigest : String := "7003a921de6606b1da62ab41f945ea2e03e6cd6f6f8385e027a51224ea5dba93"

def spottedJson (row : List String) (digest : String) : JsonValue :=
  rowJson row (.string digest) (.string "W3LPL|K1ABC|2026-05-01 12:10:00 UTC|14020100|Cw")

/-- The data of the rows of the small archive. -/
def storedJson : List JsonValue :=
  [spottedJson (archiveRow "K1ABC" "12") firstDigest, unspottedJson foreignRow,
    unspottedJson (archiveRow "K1ABC" "12"), spottedJson (archiveRow "K1ABC" "15") otherDigest]

/-- The libraries on the small archive, except that every digest is the same. -/
def textEnv : RbnEnv where
  readCsv _ := smallArchive
  parseNaive text := if text = "2026-05-01 12:10:00" then some (noon 600) else none
  displayTime _ := "2026-05-01 12:10:00 UTC"
  rfc3339 := rfc3339
  jsonText value := String.ofList (valueChars value)
  fromStr text := storedJson.find? fun value => String.ofList (valueChars value) == text
  sha256Hex _ := otherDigest
  packageVersion := "0.1.0"

/-- The libraries on the small archive. -/
def smallEnv : RbnEnv :=
  { textEnv with
    sha256Hex := fun text =>
      if text = textEnv.jsonText (textEnv.spotJson (airedSpot 12)) then firstDigest
      else otherDigest }

def paddedEnv (foreign : ℕ) : RbnEnv :=
  { smallEnv with readCsv := fun _ => paddedArchive foreign }

def archiveCall (importId : String) : RbnImportCall where
  bundle := airedBundle
  input := []
  preparation := ⟨noon 7200, some "20260501.zip"⟩
  importId := importId
  exactArchive := ⟨firstDigest, 551, "application/zip", none, some "zip-single-csv", none⟩

theorem archiveCall_config (importId : String) :
    rbnImportConfig (archiveCall importId).bundle = .ok ⟨"K1ABC", noon 0, noon 3600, [.m20]⟩ := rfl

theorem foreignRow_verdict :
    (rbnRowVerdict smallEnv "K1ABC" (noon 0) (noon 3600) [.m20] foreignRow).toOption = none := by
  decide

theorem archiveRow_spot : smallEnv.sessionSpot? airedBundle
    ⟨"K1ABC", noon 0, noon 3600, [.m20]⟩ (archiveRow "K1ABC" "12") = some (airedSpot 12) := by
  decide +kernel

theorem foreignRow_spot : smallEnv.sessionSpot? airedBundle
    ⟨"K1ABC", noon 0, noon 3600, [.m20]⟩ foreignRow = none := by
  decide

theorem paddedEnv_fieldLists (foreign : ℕ) : (paddedEnv foreign).fieldLists [] =
    List.replicate foreign foreignRow ++ [archiveRow "K1ABC" "12"] := by
  simp [RbnEnv.fieldLists, paddedEnv, paddedArchive, Except.toOption]

theorem paddedEnv_spotsOf (foreign : ℕ) :
    (paddedEnv foreign).spotsOf (archiveCall "a") = [airedSpot 12] := by
  have hforeign : (paddedEnv foreign).sessionSpot? airedBundle
      ⟨"K1ABC", noon 0, noon 3600, [.m20]⟩ foreignRow = none := foreignRow_spot
  have hheard : (paddedEnv foreign).sessionSpot? airedBundle
      ⟨"K1ABC", noon 0, noon 3600, [.m20]⟩ (archiveRow "K1ABC" "12") = some (airedSpot 12) :=
    archiveRow_spot
  simp only [RbnEnv.spotsOf, archiveCall_config]
  rw [show (archiveCall "a").input = [] from rfl, paddedEnv_fieldLists, List.filterMap_append,
    List.filterMap_cons, show (archiveCall "a").bundle = airedBundle from rfl, hheard]
  simp [hforeign]

/-- If the foreign rows fill the room for rows, none with a spot is retained. -/
theorem paddedEnv_retained {limits : RbnArchiveLimits} (row : RbnRowResult)
    (h : row ∈ (paddedEnv limits.retainedRows).retainedRows limits (archiveCall "a")) :
    row.spot = none := by
  unfold RbnEnv.retainedRows at h
  cases hparsed : (paddedEnv limits.retainedRows).parseCall limits (archiveCall "a") with
  | none => simp [hparsed] at h
  | some parsed =>
    simp only [hparsed] at h
    obtain ⟨hconfig, hok⟩ := RbnEnv.parseCall_eq_some hparsed
    rw [archiveCall_config, Except.ok.injEq] at hconfig
    obtain ⟨fieldLists, hrecords, hrows⟩ := RbnEnv.parseRbnCsvWithLimits_rows hok
    have hlists : fieldLists = List.replicate limits.retainedRows foreignRow ++
        [archiveRow "K1ABC" "12"] := by
      rw [← paddedEnv_fieldLists limits.retainedRows, RbnEnv.fieldLists,
        show [] = (archiveCall "a").input from rfl, hrecords, List.filterMap_map]
      exact List.filterMap_some.symm
    have hkept : ((paddedEnv limits.retainedRows).classifyAll parsed.1 0
        (fieldLists.take limits.retainedRows)).filterMap (·.spot) = [] := by
      rw [RbnEnv.classifyAll_spots, hlists, List.take_left' (by simp), ← hconfig]
      have hforeign : (rbnRowVerdict (paddedEnv limits.retainedRows) (normalizeCall "K1ABC")
          (noon 0) (noon 3600) [.m20] foreignRow).toOption = none := by
        rw [show normalizeCall "K1ABC" = "K1ABC" by decide]
        exact foreignRow_verdict
      simp [hforeign]
    have htells : ∀ s ∈ ((paddedEnv limits.retainedRows).classifyAll parsed.1 0
          (fieldLists.take limits.retainedRows)).filterMap (·.spot),
        ∀ t ∈ ((paddedEnv limits.retainedRows).classifyAll parsed.1 0
          (fieldLists.take limits.retainedRows)).filterMap (·.spot),
        s.rowFingerprint = t.rowFingerprint → s = t := by
      rw [hkept]
      simp
    have hnone := RbnEnv.find?_markAll (fun _ => true) htells []
    rw [hkept] at hnone
    rw [hrows, RbnEnv.classifyAll_take] at h
    cases hspot : row.spot with
    | none => rfl
    | some spot =>
      have hmem := List.mem_filterMap.2 ⟨row, h, hspot⟩
      exact absurd (List.find?_eq_none.1 hnone spot hmem) (by simp)

theorem observationsOf_nil {run : List RbnImported} {p : RbnSpot → Bool}
    (h : ∀ outcome ∈ runOutcomes run, outcome.row.spot = none) : observationsOf run p = [] := by
  refine List.filter_eq_nil_iff.2 fun observation _ hany => ?_
  obtain ⟨outcome, houtcome, hboth⟩ := List.any_eq_true.1 hany
  rw [h outcome houtcome] at hboth
  simp at hboth

theorem importAll_singleton {env : RbnEnv} {limits : RbnArchiveLimits}
    {existing : List AdapterRecordV2} {call : RbnImportCall} {outcome : RbnOutcome}
    (h : outcome ∈ runOutcomes (env.importAll limits existing [call])) :
    outcome.row ∈ env.retainedRows limits call := by
  obtain ⟨imported, himported, hmem⟩ := List.mem_flatMap.1 h
  have hadds := RbnEnv.importArchive_adds (Option.mem_toList.1 himported)
  rw [← hadds.rows_eq, ← hadds.prepared.rows_eq]
  exact List.mem_map_of_mem hmem

theorem paddedEnv_incomplete (limits : RbnArchiveLimits) : ¬RbnComplete
    ([archiveCall "a"].flatMap (paddedEnv limits.retainedRows).spotsOf)
    ((paddedEnv limits.retainedRows).importAll limits [] [archiveCall "a"]) := by
  intro h
  rw [List.flatMap_singleton, paddedEnv_spotsOf] at h
  have hone := h.first (airedSpot 12) (by decide)
  rw [observationsOf_nil fun outcome houtcome =>
    paddedEnv_retained outcome.row (importAll_singleton houtcome)] at hone
  simp at hone

/-- A spot after 100,000 foreign rows has no observation. -/
theorem foreignRows_hideSpot : ¬RbnComplete
    ([archiveCall "a"].flatMap (paddedEnv rbnArchiveLimits.retainedRows).spotsOf)
    ((paddedEnv rbnArchiveLimits.retainedRows).importAll rbnArchiveLimits []
      [archiveCall "a"]) :=
  paddedEnv_incomplete rbnArchiveLimits

theorem smallEnv_fieldLists : smallEnv.fieldLists [] =
    [archiveRow "K1ABC" "12", foreignRow, archiveRow "K1ABC" "12", archiveRow "K1ABC" "15"] := rfl

theorem retainedRows_importId {env : RbnEnv} {limits : RbnArchiveLimits} (importId : String) :
    env.retainedRows limits (archiveCall importId) = env.retainedRows limits (archiveCall "") := by
  simp only [RbnEnv.retainedRows, RbnEnv.parseCall, archiveCall]

theorem spotsOf_importId {env : RbnEnv} (importId : String) :
    env.spotsOf (archiveCall importId) = env.spotsOf (archiveCall "") := by
  simp only [RbnEnv.spotsOf, archiveCall]

theorem smallEnv_spotsOf (importId : String) :
    smallEnv.spotsOf (archiveCall importId) = [airedSpot 12, airedSpot 12, airedSpot 15] := by
  have hspots : smallEnv.spotsOf (archiveCall "") = [airedSpot 12, airedSpot 12, airedSpot 15] := by
    decide +kernel
  rw [spotsOf_importId, hspots]

theorem smallEnv_retained (importId : String) :
    smallEnv.retainedRows rbnArchiveLimits (archiveCall importId) =
      [⟨1, .accepted, .accepted, archiveRow "K1ABC" "12", some (airedSpot 12)⟩,
        ⟨2, .filtered, .callsignFiltered, foreignRow, none⟩,
        ⟨3, .duplicate, .exactDuplicate, archiveRow "K1ABC" "12", none⟩,
        ⟨4, .accepted, .accepted, archiveRow "K1ABC" "15", some (airedSpot 15)⟩] := by
  have hrows : smallEnv.retainedRows rbnArchiveLimits (archiveCall "") =
      [⟨1, .accepted, .accepted, archiveRow "K1ABC" "12", some (airedSpot 12)⟩,
        ⟨2, .filtered, .callsignFiltered, foreignRow, none⟩,
        ⟨3, .duplicate, .exactDuplicate, archiveRow "K1ABC" "12", none⟩,
        ⟨4, .accepted, .accepted, archiveRow "K1ABC" "15", some (airedSpot 15)⟩] := by
    decide +kernel
  rw [retainedRows_importId, hrows]

theorem find?_text {α β : Type} [BEq β] [LawfulBEq β] {items : List α} {text : α → β} {a : α}
    (hnodup : (items.map text).Nodup) (ha : a ∈ items) :
    items.find? (text · == text a) = some a := by
  cases hfound : items.find? (text · == text a) with
  | none => exact absurd (List.find?_eq_none.1 hfound a ha) (by simp)
  | some b =>
    have htext : (text b == text a) = true := List.find?_some (p := (text · == text a)) hfound
    rw [List.inj_on_of_nodup_map hnodup (List.mem_of_find?_eq_some hfound) ha (beq_iff_eq.1 htext)]

theorem ofList_injective : Function.Injective String.ofList :=
  fun _ _ h => String.ofList_inj.1 h

theorem smallEnv_fingerprint (spot : RbnSpot) : smallEnv.spotFingerprint spot =
    if String.ofList (valueChars (textEnv.spotJson spot)) =
      String.ofList (valueChars (textEnv.spotJson (airedSpot 12))) then firstDigest
    else otherDigest := by
  simp only [RbnEnv.spotFingerprint, RbnEnv.spotJson, smallEnv, textEnv]
  rfl

theorem airedSpot_fingerprints : smallEnv.spotFingerprint (airedSpot 12) = firstDigest ∧
    smallEnv.spotFingerprint (airedSpot 15) = otherDigest := by
  have hchars : valueChars (textEnv.spotJson (airedSpot 15)) ≠
      valueChars (textEnv.spotJson (airedSpot 12)) := by
    decide
  rw [smallEnv_fingerprint, smallEnv_fingerprint, if_pos rfl,
    if_neg fun h => hchars (ofList_injective h)]
  exact ⟨rfl, rfl⟩

theorem airedSpot_identities :
    smallEnv.spotIdentity (airedSpot 12) = "W3LPL|K1ABC|2026-05-01 12:10:00 UTC|14020100|Cw" ∧
      smallEnv.spotIdentity (airedSpot 15) =
        "W3LPL|K1ABC|2026-05-01 12:10:00 UTC|14020100|Cw" := by
  decide

theorem smallEnv_rowData (importId : String) :
    (smallEnv.retainedRows rbnArchiveLimits (archiveCall importId)).map smallEnv.rowData =
      storedJson := by
  obtain ⟨hfirst, hother⟩ := airedSpot_fingerprints
  obtain ⟨hidentity, hidentity'⟩ := airedSpot_identities
  rw [smallEnv_retained]
  simp only [List.map_cons, List.map_nil, RbnEnv.rowData, Option.elim_some, Option.elim_none,
    hfirst, hother, hidentity, hidentity']
  rfl

theorem smallEnv_fromStr (text : String) : smallEnv.fromStr text =
    storedJson.find? fun value => String.ofList (valueChars value) == text := by
  simp only [smallEnv, textEnv]

theorem smallEnv_jsonText (value : JsonValue) :
    smallEnv.jsonText value = String.ofList (valueChars value) := by
  simp only [smallEnv, textEnv]

theorem smallEnv_reads (importId : String) :
    ∀ row ∈ smallEnv.retainedRows rbnArchiveLimits (archiveCall importId),
      smallEnv.fromStr (smallEnv.jsonText (smallEnv.rowData row)) =
        some (smallEnv.rowData row) := by
  intro row hrow
  have hmem := List.mem_map_of_mem (f := smallEnv.rowData) hrow
  rw [smallEnv_rowData] at hmem
  generalize smallEnv.rowData row = value at hmem ⊢
  have hchars : (storedJson.map valueChars).Nodup := by decide
  have hnodup : (storedJson.map fun value => String.ofList (valueChars value)).Nodup := by
    have hmapped := hchars.map ofList_injective
    rw [List.map_map] at hmapped
    exact hmapped
  rw [smallEnv_fromStr, smallEnv_jsonText]
  exact find?_text hnodup hmem

theorem smallEnv_covers (importId : String) (config : RbnImportConfig)
    (h : rbnImportConfig (archiveCall importId).bundle = .ok config) :
    smallEnv.Covers rbnArchiveLimits (archiveCall importId) config := by
  rw [archiveCall_config, Except.ok.injEq] at h
  subst h
  have hlists : smallEnv.fieldLists (archiveCall importId).input = [archiveRow "K1ABC" "12",
      foreignRow, archiveRow "K1ABC" "12", archiveRow "K1ABC" "15"] := smallEnv_fieldLists
  refine ⟨rfl, rfl, rfl, ?_, ?_, ?_, ?_, ?_⟩
  · rw [hlists]
    decide
  · rw [hlists]
    decide
  · intro callsign hcallsign
    rw [List.mem_singleton.1 hcallsign]
    rfl
  · rw [hlists]
    simp [rbnArchiveLimits]
  · rw [smallEnv_spotsOf]
    decide

/-- The second import of an archive repeats its spots, and adds no observation. -/
theorem smallArchive_once : RbnConsistent (smallEnv.importAll rbnArchiveLimits []
      [archiveCall "a", archiveCall "b"]) ∧
    RbnComplete ([archiveCall "a", archiveCall "b"].flatMap smallEnv.spotsOf)
      (smallEnv.importAll rbnArchiveLimits [] [archiveCall "a", archiveCall "b"]) := by
  have hcalls : ∀ call ∈ [archiveCall "a", archiveCall "b"], ∃ importId, call =
      archiveCall importId := by
    intro call hcall
    rcases List.mem_cons.1 hcall with rfl | hcall
    · exact ⟨"a", rfl⟩
    · exact ⟨"b", List.mem_singleton.1 hcall⟩
  have hspots : [archiveCall "a", archiveCall "b"].flatMap smallEnv.spotsOf =
      [airedSpot 12, airedSpot 12, airedSpot 15, airedSpot 12, airedSpot 12, airedSpot 15] := by
    rw [List.flatMap_cons, List.flatMap_singleton, smallEnv_spotsOf, smallEnv_spotsOf]
    rfl
  have hprints : smallEnv.spotFingerprint (airedSpot 12) ≠
      smallEnv.spotFingerprint (airedSpot 15) := by
    rw [airedSpot_fingerprints.1, airedSpot_fingerprints.2]
    decide
  have htells : smallEnv.TellsApart
      ([archiveCall "a", archiveCall "b"].flatMap smallEnv.spotsOf) := by
    have hplain : '|' ∉ "2026-05-01 12:10:00 UTC".toList := by decide
    have hmem : ∀ s ∈ [archiveCall "a", archiveCall "b"].flatMap smallEnv.spotsOf,
        s = airedSpot 12 ∨ s = airedSpot 15 := by
      rw [hspots]
      decide
    intro s hs t ht
    have htime : s.observedAt = t.observedAt := by
      rcases hmem s hs with rfl | rfl <;> rcases hmem t ht with rfl | rfl <;> rfl
    refine ⟨⟨hplain, hplain, fun _ => htime⟩, fun heq => ?_⟩
    rcases hmem s hs with rfl | rfl <;> rcases hmem t ht with rfl | rfl
    · rfl
    · exact absurd heq hprints
    · exact absurd heq hprints.symm
    · rfl
  have hrun := RbnEnv.importAll_exactlyOnce smallEnv rbnArchiveLimits []
    [archiveCall "a", archiveCall "b"] (by decide) rfl
    (fun call hcall => by
      obtain ⟨importId, rfl⟩ := hcalls call hcall
      exact smallEnv_reads importId) htells
  refine ⟨hrun.1, hrun.2 fun call hcall config hconfig => ?_⟩
  obtain ⟨importId, rfl⟩ := hcalls call hcall
  exact smallEnv_covers importId config hconfig

end Scenario

end AntennaBench
