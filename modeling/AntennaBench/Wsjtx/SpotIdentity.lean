import AntennaBench.Scenario.JsonText
import AntennaBench.Wsjtx.SpotRows

/-!
# One observation per provider spot

A run of acquisitions of one session: each response is judged against the records of those
before it, so the run is a run of `Timeline.Admission`.
-/

namespace AntennaBench

namespace WsprLiveEnv

variable {env : WsprLiveEnv}

theorem acquireAll_append (calls : List AcquisitionCall) (call : AcquisitionCall) :
    env.acquireAll (calls ++ [call]) = env.acquire (env.acquireAll calls) call := by
  simp [acquireAll]

/-- A run of acquisitions is a run of the admission of its rows. -/
theorem acquireAll_tracked {calls : List AcquisitionCall} (hreads : env.ReadsBack calls) :
    Tracked env (env.acquireAll calls) ∧
      entries (env.acquireAll calls).outcomes = env.admission.offers (calls.map env.batch) ∧
      ∀ outcome ∈ (env.acquireAll calls).outcomes,
        ∃ call ∈ calls, outcome.row ∈ env.responseRows call := by
  induction calls using List.reverseRecOn with
  | nil => exact ⟨⟨rfl, rfl, by simp [acquireAll]⟩, rfl, by simp [acquireAll]⟩
  | append_singleton calls call ih =>
    obtain ⟨htracked, hentries, hrows⟩ := ih fun c hc => hreads c (List.mem_append_left _ hc)
    have hback : ∀ outcome ∈ (env.acquireAll calls).outcomes,
        env.fromStr (env.jsonText outcome.row.raw) = some outcome.row.raw := by
      intro outcome houtcome
      obtain ⟨c, hc, hrow⟩ := hrows outcome houtcome
      exact hreads c (List.mem_append_left _ hc) _ hrow
    obtain ⟨htracked', hentries', hrows'⟩ := htracked.acquire hback call
    rw [acquireAll_append]
    refine ⟨htracked', ?_, fun outcome houtcome => ?_⟩
    · rw [hentries', hentries, List.map_append, List.map_singleton,
        Timeline.Admission.offers_append]
    · rcases hrows' outcome houtcome with hmem | hmem
      · obtain ⟨c, hc, hrow⟩ := hrows outcome hmem
        exact ⟨c, List.mem_append_left _ hc, hrow⟩
      · exact ⟨call, by simp, hmem⟩

/-- Rows whose columns agree. -/
def SameValues (env : WsprLiveEnv) (a b : JsonValue) : Prop :=
  env.rowValues a = env.rowValues b

theorem follows_iff {earlier later : SpotOutcome} (hearlier : Stored env earlier)
    (hlater : Stored env later) :
    env.Follows earlier later ↔ env.admission.Follows env.SameValues
      (earlier.row.raw, verdictOf earlier.record.disposition)
      (later.row.raw, verdictOf later.record.disposition) := by
  unfold Follows Timeline.Admission.Follows
  simp only [verdictOf_eq_fresh, verdictOf_eq_duplicate, verdictOf_eq_conflict]
  rw [hearlier.identified, hlater.identified]
  refine imp_congr_right fun _ => imp_congr_right fun _ => ?_
  constructor
  · rintro ⟨hsame, hother, -⟩
    exact ⟨hsame, hother⟩
  · rintro ⟨hsame, hother⟩
    refine ⟨hsame, hother, ?_⟩
    have hnot : later.record.disposition ≠ .accepted := by
      by_cases heq : env.SameValues earlier.row.raw later.row.raw
      · simp [hsame heq]
      · simp [hother heq]
    rw [hlater.links, if_neg hnot]

theorem spotObservationId_inj {a b : ℕ} (h : spotObservationId a = spotObservationId b) :
    a = b := by
  unfold spotObservationId at h
  exact toString_inj ((String.append_right_inj _).1 h)

theorem Stored.mem_linkedIds {outcome : SpotOutcome} (h : Stored env outcome) {id : String} :
    id ∈ linkedIds outcome.record ↔ outcome.record.disposition = .accepted ∧
      ∃ n, rowSpotId outcome.row.raw = some n ∧ spotObservationId n = id := by
  unfold linkedIds
  rw [h.links, h.identified]
  by_cases haccepted : outcome.record.disposition = .accepted
  · simp only [haccepted, if_true, true_and]
    cases rowSpotId outcome.row.raw <;> simp [eq_comm]
  · simp [haccepted]

theorem Stored.linkedIds_nodup {outcome : SpotOutcome} (h : Stored env outcome) :
    (linkedIds outcome.record).Nodup := by
  unfold linkedIds
  rw [h.links]
  split_ifs
  · cases outcome.row.providerSpotId <;> simp
  · simp

/-- Where the first row of each provider ID wins, no observation ID is linked twice. -/
theorem linkedIds_nodup {outcomes : List SpotOutcome} (hstored : ∀ o ∈ outcomes, Stored env o)
    (hfollows : outcomes.Pairwise env.Follows) :
    (outcomes.flatMap fun outcome => linkedIds outcome.record).Nodup := by
  refine List.nodup_flatMap.2 ⟨fun o ho => (hstored o ho).linkedIds_nodup, ?_⟩
  refine hfollows.imp_of_mem fun {earlier later} hearlier hlater hpair => ?_
  intro id hid hid'
  obtain ⟨haccepted, n, hn, hname⟩ := (hstored _ hearlier).mem_linkedIds.1 hid
  obtain ⟨haccepted', m, hm, hname'⟩ := (hstored _ hlater).mem_linkedIds.1 hid'
  have hnm : n = m := spotObservationId_inj (hname.trans hname'.symm)
  have hids : earlier.row.providerSpotId = later.row.providerSpotId := by
    rw [(hstored _ hearlier).identified, (hstored _ hlater).identified, hn, hm, hnm]
  obtain ⟨hsame, hother, -⟩ := hpair haccepted hids
  by_cases heq : env.rowValues earlier.row.raw = env.rowValues later.row.raw
  · rw [hsame heq] at haccepted'
    cases haccepted'
  · rw [hother heq] at haccepted'
    cases haccepted'

theorem Tracked.exactlyOncePerSpot_iff {log : AcquisitionLog} (h : Tracked env log) :
    env.ExactlyOncePerSpot log ↔ env.admission.FirstWins env.SameValues (entries log.outcomes) := by
  have hpairs : log.outcomes.Pairwise env.Follows ↔
      env.admission.FirstWins env.SameValues (entries log.outcomes) := by
    rw [Timeline.Admission.FirstWins, entries, List.pairwise_map]
    exact List.Pairwise.iff_of_mem fun he hl => follows_iff (h.stored _ he) (h.stored _ hl)
  rw [← hpairs]
  refine ⟨fun honce => honce.follows, fun hfollows => ⟨?_, h.observed, hfollows⟩⟩
  rw [h.observed]
  exact linkedIds_nodup h.stored hfollows

theorem Tracked.recognises_iff {log : AcquisitionLog} (h : Tracked env log)
    (call : AcquisitionCall) :
    env.Recognises log call ↔
      env.admission.Recognises call.config (entries log.outcomes) (env.batch call).2 := by
  have hclassified : ∀ row ∈ env.responseRows call, row.providerSpotId = rowSpotId row.raw := by
    intro row hrow
    unfold responseRows at hrow
    cases hparsed : env.parseWsprLiveJson call.input call.config call.cancelled with
    | error e => simp [hparsed] at hrow
    | ok parsed =>
      rw [hparsed] at hrow
      exact (parseWsprLiveJson_classified hparsed row hrow).providerSpotId
  have hview : ∀ raw, (env.admission.view call.config raw).isSome = true ↔
      env.InSight call.config raw := by
    intro raw
    simp [admission, InSight]
  have hadmits : ∀ raw, env.admission.admits call.config raw = true ↔
      env.InScope call.config raw := by
    intro raw
    simp [admission, InScope]
  have hearlier : (∀ row ∈ env.responseRows call, ∀ outcome ∈ log.outcomes,
      outcome.record.disposition = .accepted → outcome.row.providerSpotId = row.providerSpotId →
        env.InScope call.config row.raw ∧ env.InSight call.config outcome.row.raw) ↔
      ∀ raw ∈ (env.batch call).2,
        env.admission.Recalled call.config (entries log.outcomes) raw := by
    simp only [batch, List.forall_mem_map, Timeline.Admission.Recalled, entries,
      verdictOf_eq_fresh, hview, hadmits]
    refine forall₂_congr fun row hrow => forall₂_congr fun outcome houtcome => ?_
    rw [hclassified row hrow, (h.stored outcome houtcome).identified]
    rfl
  have hwithin : ((env.responseRows call).Pairwise fun row later =>
      env.InScope call.config row.raw → row.providerSpotId = later.providerSpotId →
        env.InScope call.config later.raw) ↔
      (env.batch call).2.Pairwise fun a b => env.admission.admits call.config a = true →
        env.admission.key a = env.admission.key b →
          env.admission.admits call.config b = true := by
    rw [batch, List.pairwise_map]
    refine List.Pairwise.iff_of_mem fun {a b} ha hb => ?_
    rw [hadmits, hadmits, hclassified a ha, hclassified b hb]
    rfl
  exact ⟨fun hrec => ⟨hearlier.1 hrec.earlier, hwithin.1 hrec.within⟩,
    fun hrec => ⟨hearlier.2 hrec.1, hwithin.2 hrec.2⟩⟩

theorem view_eq_some {config : WsprLiveImportConfig} {raw : JsonValue} {k : ℕ} {v : String} :
    env.admission.view config raw = some (k, v) ↔ ∃ spot,
      (env.classifyUnder config 0 raw).spot = some spot ∧ spot.providerSpotId = k ∧
        env.spotFingerprint spot = v := by
  simp [admission]

theorem mem_batches {calls : List AcquisitionCall} {raw : JsonValue}
    (h : ∃ b ∈ calls.map env.batch, raw ∈ b.2) :
    ∃ call ∈ calls, ∃ row ∈ env.responseRows call, row.raw = raw := by
  obtain ⟨b, hb, hraw⟩ := h
  obtain ⟨call, hcall, heq⟩ := List.mem_map.1 hb
  have hitems : b.2 = (env.responseRows call).map (·.raw) := by rw [← heq, batch]
  rw [hitems] at hraw
  obtain ⟨row, hrow, hraw⟩ := List.mem_map.1 hraw
  exact ⟨call, hcall, row, hrow, hraw⟩

theorem tells_of_tellsApart {calls : List AcquisitionCall} (htells : env.TellsApart calls) :
    ∀ batch ∈ calls.map env.batch, env.admission.Tells env.SameValues batch.1
      {a | ∃ b ∈ calls.map env.batch, a ∈ b.2} := by
  intro batch hbatch
  obtain ⟨call, hcall, rfl⟩ := List.mem_map.1 hbatch
  intro raw hraw raw' hraw' k v w hv hw
  obtain ⟨first, hfirst, a, ha, rfl⟩ := mem_batches hraw
  obtain ⟨second, hsecond, b, hb, rfl⟩ := mem_batches hraw'
  obtain ⟨s, hs, -, rfl⟩ := view_eq_some.1 hv
  obtain ⟨t, ht, -, rfl⟩ := view_eq_some.1 hw
  have hvalues := (spotted_of_classifyUnder hs).spot_eq_iff (spotted_of_classifyUnder ht)
  constructor
  · intro heq
    exact hvalues.1 (htells call hcall first hfirst a ha second hsecond b hb s t hs ht heq)
  · intro hsame
    rw [hvalues.2 hsame]

/-- Acquisition is exactly once per provider spot over a run if and only if every call
that carries an accepted provider ID again has both rows in view. -/
theorem acquireAll_exactlyOncePerSpot_iff (env : WsprLiveEnv) (calls : List AcquisitionCall)
    (hreads : env.ReadsBack calls) (htells : env.TellsApart calls) :
    env.ExactlyOncePerSpot (env.acquireAll calls) ↔
      ∀ before call after, calls = before ++ call :: after →
        env.Recognises (env.acquireAll before) call := by
  obtain ⟨htracked, hentries, -⟩ := acquireAll_tracked hreads
  rw [htracked.exactlyOncePerSpot_iff, hentries,
    Timeline.Admission.firstWins_offers_iff (tells_of_tellsApart htells)]
  have hbefore : ∀ before call after, calls = before ++ call :: after →
      (env.Recognises (env.acquireAll before) call ↔ env.admission.Recognises call.config
        (env.admission.offers (before.map env.batch)) (env.batch call).2) := by
    intro before call after heq
    have hbefore : env.ReadsBack before := fun c hc =>
      hreads c (by rw [heq]; exact List.mem_append_left _ hc)
    obtain ⟨htracked', hentries', -⟩ := acquireAll_tracked hbefore
    rw [htracked'.recognises_iff, hentries']
  constructor
  · intro h before call after heq
    refine (hbefore before call after heq).2 (h (before.map env.batch) (env.batch call)
      (after.map env.batch) ?_)
    rw [heq, List.map_append, List.map_cons]
  · intro h before b after heq
    obtain ⟨before', rest, rfl, rfl, hrest⟩ := List.map_eq_append_iff.1 heq
    obtain ⟨call, after', rfl, rfl, rfl⟩ := List.map_eq_cons_iff.1 hrest
    exact (hbefore before' call after' rfl).1 (h before' call after' rfl)

theorem parseRows_raw {config : WsprLiveImportConfig} {cancelled : ℕ → Bool}
    {limits : WsprLiveImportLimits} {data : List JsonValue} {index : ℕ}
    {rows : List WsprLiveRowResult}
    (h : env.parseRows config cancelled limits index data = .ok rows) :
    rows.map (·.raw) = data := by
  induction data generalizing index rows with
  | nil =>
    cases h
    rfl
  | cons raw rest ih =>
    simp only [parseRows, bind_eq_ok, pure_eq_ok] at h
    obtain ⟨_, -, _, -, tail, htail, rfl⟩ := h
    rw [List.map_cons, ih htail]
    rfl

/-- The rows of a response are the entries of its `data`. -/
theorem responseRows_raw {call : AcquisitionCall} {document : JsonValue} {data : List JsonValue}
    (hdocument : env.fromSlice call.input = .ok document)
    (hdata : (document.get? "data").bind (·.asArray?) = some data) :
    ∀ row ∈ env.responseRows call, row.raw ∈ data := by
  intro row hrow
  unfold responseRows at hrow
  cases hparsed : env.parseWsprLiveJson call.input call.config call.cancelled with
  | error e => simp [hparsed] at hrow
  | ok parsed =>
    rw [hparsed] at hrow
    simp only [parseWsprLiveJson, parseWsprLiveJsonWithLimits, bind_eq_ok, pure_eq_ok,
      mapError_eq_ok, orError_eq_ok, hdocument, Except.ok.injEq] at hparsed
    obtain ⟨_, -, _, -, _, -, _, rfl, _, -, _, -, _, hentries, _, -, _, -, rows, hrows, rfl⟩ :=
      hparsed
    rw [hdata, Option.some_inj] at hentries
    rw [hentries, ← parseRows_raw hrows]
    exact List.mem_map_of_mem hrow

end WsprLiveEnv

namespace Scenario

open JsonText

/-- 2026-07-15T10:00:00Z. -/
def importStart : DateTime := 1784109600 * DateTime.nanosPerSecond

def afterMinutes (minutes : ℤ) : DateTime := importStart + minutes * 60 * DateTime.nanosPerSecond

/-- A spot of K1ABC with provider ID 7, heard by K2XYZ on 20 m at the given time. -/
def spotRow (time : String) : JsonValue :=
  .object [
    ("azimuth", .null),
    ("band", .number (.posInt 14)),
    ("code", .number (.posInt 1)),
    ("distance", .null),
    ("drift", .number (.posInt 0)),
    ("frequency", .number (.posInt 14097000)),
    ("id", .number (.posInt 7)),
    ("power", .number (.posInt 30)),
    ("rx_azimuth", .null),
    ("rx_loc", .null),
    ("rx_sign", .string "K2XYZ"),
    ("snr", .number (.negInt (-12))),
    ("time", .string time),
    ("tx_loc", .null),
    ("tx_sign", .string "K1ABC"),
    ("version", .null)]

def spotDocument (time : String) : JsonValue :=
  .object [
    ("data", .array [spotRow time]),
    ("meta", .array (wsprLiveColumns.map fun column => .object [("name", .string column)])),
    ("rows", .number (.posInt 1))]

def spotResponse (time : String) : List UInt8 :=
  (valueChars (spotDocument time)).map fun c => UInt8.ofNat c.toNat

def earlySpot : String := "2026-07-15 10:02:00"

def lateSpot : String := "2026-07-15 10:12:00"

def spotText (time : String) : String := String.ofList (valueChars (spotRow time))

/-- The text whose digest is the fingerprint of the spot. -/
def spotValueText (observedAt : DateTime) : String :=
  String.ofList (valueChars (WsprLiveEnv.spotJson rfc3339 {
    providerSpotId := 7
    observedAt := observedAt
    band := .m20
    reporterCall := "K2XYZ"
    reporterGrid := none
    transmitterCall := "K1ABC"
    transmitterGrid := none
    distanceKm := none
    azimuthDegrees := none
    receiverAzimuthDegrees := none
    frequencyHz := 14097000
    powerDbm := 30
    snrDb := .finite (-12)
    driftHzPerMinute := .finite 0
    receiverVersion := none
    modeCode := 1
    direction := .transmit }))

/-- The libraries on the texts of the two spots. -/
def wsprLiveEnv : WsprLiveEnv where
  fromSlice input :=
    if input = spotResponse earlySpot then .ok (spotDocument earlySpot)
    else if input = spotResponse lateSpot then .ok (spotDocument lateSpot)
    else .error "expected value at line 1 column 1"
  fromStr text :=
    if text = spotText earlySpot then some (spotRow earlySpot)
    else if text = spotText lateSpot then some (spotRow lateSpot)
    else none
  jsonText value := String.ofList (valueChars value)
  sha256Hex text :=
    if text = spotValueText (afterMinutes 2) then
      "88a73b703c19cf9a61619653e96855fda91d243b220ba5d32e3f1383112cbd30"
    else if text = spotValueText (afterMinutes 12) then
      "e47cdf77fcdd44ac05b7e85a967d74b1a98014a275c508b6833010d3c8e43a6c"
    else ""
  parseRfc3339 _ := none
  parseNaive text :=
    if text = earlySpot then some (afterMinutes 2)
    else if text = lateSpot then some (afterMinutes 12)
    else none
  parseDateTime _ := none
  rfc3339 := rfc3339
  powf _ _ := .finite 1
  packageVersion := "0.1.0"

/-- A file import of ten minutes that start at the given minute. -/
def importCall (startMinute : ℤ) (importId spot : String) : AcquisitionCall where
  input := spotResponse spot
  config := {
    sessionCallsign := "K1ABC"
    windowStart := afterMinutes startMinute
    windowEnd := afterMinutes (startMinute + 10)
    selectedBands := [.m20]
    capturedAt := afterMinutes 30
    sourceLocator := none
    confirmedCycles := none }
  cancelled _ := false
  sessionId := "s1"
  importId := importId
  exactResponse := ⟨"a5f903d36e1470968b63422f718395c6580e7f9543d439a48ea23fb89052c8fb", 551,
    "application/json", none, none, none⟩
  channel := .fileImport

/-- The later window does not contain the accepted spot, so its provider ID is free again. -/
theorem shiftedWindow_twice :
    ¬wsprLiveEnv.ExactlyOncePerSpot (wsprLiveEnv.acquireAll
      [importCall 0 "a" earlySpot, importCall 10 "b" lateSpot]) := by
  intro h
  have hids : (wsprLiveEnv.acquireAll [importCall 0 "a" earlySpot,
      importCall 10 "b" lateSpot]).observations.map (·.observationId) =
        ["wspr-live-spot-7", "wspr-live-spot-7"] := by decide +kernel
  have hunique := h.unique
  rw [hids] at hunique
  simp at hunique

theorem importCall_rows {startMinute : ℤ} {importId : String} :
    ∀ row ∈ wsprLiveEnv.responseRows (importCall startMinute importId earlySpot),
      row.raw = spotRow earlySpot := by
  intro row hrow
  have hdocument : wsprLiveEnv.fromSlice (importCall startMinute importId earlySpot).input =
      .ok (spotDocument earlySpot) := by
    simp only [wsprLiveEnv, importCall, if_true]
  exact List.mem_singleton.1 (WsprLiveEnv.responseRows_raw hdocument rfl row hrow)

theorem spotRow_inScope :
    (wsprLiveEnv.classifyUnder (importCall 0 "a" earlySpot).config 0
      (spotRow earlySpot)).disposition = .accepted := by
  decide +kernel

/-- The second import of one response recognises its spot. -/
theorem repeatedImport_once :
    wsprLiveEnv.ExactlyOncePerSpot (wsprLiveEnv.acquireAll
      [importCall 0 "a" earlySpot, importCall 0 "b" earlySpot]) := by
  have hcalls : ∀ call ∈ [importCall 0 "a" earlySpot, importCall 0 "b" earlySpot],
      call.config = (importCall 0 "a" earlySpot).config ∧
        ∀ row ∈ wsprLiveEnv.responseRows call, row.raw = spotRow earlySpot := by
    intro call hcall
    rcases List.mem_cons.1 hcall with rfl | hcall
    · exact ⟨rfl, importCall_rows⟩
    · rw [List.mem_singleton.1 hcall]
      exact ⟨rfl, importCall_rows⟩
  have hreads : wsprLiveEnv.ReadsBack
      [importCall 0 "a" earlySpot, importCall 0 "b" earlySpot] := by
    intro call hcall row hrow
    rw [(hcalls call hcall).2 row hrow]
    simp only [wsprLiveEnv, spotText, if_true]
  have htells : wsprLiveEnv.TellsApart
      [importCall 0 "a" earlySpot, importCall 0 "b" earlySpot] := by
    intro call _ first hfirst a ha second hsecond b hb s t hs ht _
    rw [(hcalls first hfirst).2 a ha] at hs
    rw [(hcalls second hsecond).2 b hb, hs] at ht
    exact Option.some.inj ht
  have hsight : ∀ call ∈ [importCall 0 "a" earlySpot, importCall 0 "b" earlySpot],
      ∀ raw, raw = spotRow earlySpot → wsprLiveEnv.InScope call.config raw ∧
        wsprLiveEnv.InSight call.config raw := by
    intro call hcall raw hraw
    rw [hraw, (hcalls call hcall).1]
    obtain ⟨spot, hspot⟩ := WsprLiveEnv.rowVerdict_accepted_spot spotRow_inScope
    exact ⟨spotRow_inScope, Option.isSome_iff_exists.2 ⟨spot, hspot⟩⟩
  refine (WsprLiveEnv.acquireAll_exactlyOncePerSpot_iff _ _ hreads htells).2 ?_
  intro before call after heq
  have hmem : ∀ c ∈ before ++ call :: after,
      c ∈ [importCall 0 "a" earlySpot, importCall 0 "b" earlySpot] := by
    rw [heq]
    exact fun c hc => hc
  have hcall := hmem call (by simp)
  have hrow : ∀ row ∈ wsprLiveEnv.responseRows call, row.raw = spotRow earlySpot :=
    (hcalls call hcall).2
  have hreadsBefore : wsprLiveEnv.ReadsBack before := fun c hc =>
    hreads c (hmem c (List.mem_append_left _ hc))
  have hbefore := (WsprLiveEnv.acquireAll_tracked hreadsBefore).2.2
  refine ⟨fun row hr outcome houtcome _ _ => ⟨(hsight call hcall _ (hrow row hr)).1, ?_⟩, ?_⟩
  · obtain ⟨c, hc, hrow'⟩ := hbefore outcome houtcome
    exact (hsight call hcall _
      ((hcalls c (hmem c (List.mem_append_left _ hc))).2 _ hrow')).2
  · exact List.pairwise_of_forall_mem_list fun _ _ later hlater _ _ =>
      (hsight call hcall _ (hrow later hlater)).1

end Scenario

end AntennaBench
