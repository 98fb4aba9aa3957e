import AntennaBench.Rbn.Archive
import Mathlib.Data.List.Find

/-!
# The retained rows

A parse that succeeds has read every record. Its rows are the first `retained_rows` of all
rows of the file, whatever they were classified as, with the spots of exact duplicates taken
out. As far as two spots with one fingerprint are equal, taking them out changes neither
which spots there are nor which one comes first.
-/

namespace AntennaBench

/-- A row carries a spot exactly if it is accepted, and its call signs have no other
characters than those of call signs. -/
structure RbnRowResult.Settled (row : RbnRowResult) : Prop where
  accepted : row.disposition = .accepted ↔ row.spot.isSome = true
  calls : ∀ spot, row.spot = some spot →
    validCall spot.reporterCall = true ∧ validCall spot.heardCall = true

namespace RbnEnv

variable (env : RbnEnv)

def classifyAll (config : RbnImportConfig) : ℕ → List (List String) → List RbnRowResult
  | _, [] => []
  | total, fields :: rest =>
    classifyRbnRow env (normalizeCall config.heardCallsign) config.windowStart config.windowEnd
      config.selectedBands (total + 1) fields :: classifyAll config (total + 1) rest

def markAll : List RbnRowFingerprint → List RbnRowResult → List RbnRowResult
  | _, [] => []
  | fingerprints, row :: rest =>
    markDuplicate fingerprints row ::
      markAll ((row.spot.map (·.rowFingerprint)).toList ++ fingerprints) rest

variable {env} {config : RbnImportConfig} {limits : RbnArchiveLimits}

/-- What one turn of the row loop keeps of a record. -/
structure RowRead (env : RbnEnv) (config : RbnImportConfig) (limits : RbnArchiveLimits)
    (state : RbnParseState) (fields : List String) (next : RbnParseState) : Prop where
  total : next.summary.total = state.summary.total + 1
  fingerprints : next.fingerprints =
    ((classifyRbnRow env (normalizeCall config.heardCallsign) config.windowStart config.windowEnd
      config.selectedBands (state.summary.total + 1) fields).spot.map (·.rowFingerprint)).toList ++
        state.fingerprints
  rows : next.rows = state.rows ++
    [markDuplicate state.fingerprints
      (classifyRbnRow env (normalizeCall config.heardCallsign) config.windowStart
        config.windowEnd config.selectedBands (state.summary.total + 1) fields)].take
          (limits.retainedRows - state.rows.length)

@[simp] theorem count_total (summary : RbnDispositionSummary) (disposition : RbnRowDisposition) :
    (summary.count disposition).total = summary.total := by
  cases disposition <;> rfl

theorem parseRecord_ok (env : RbnEnv) (config : RbnImportConfig) {state : RbnParseState}
    {fields : List String}
    (htotal : state.summary.total + 1 ≤ limits.rows) (hbytes : rowBytes fields ≤ limits.rowBytes) :
    ∃ next, env.parseRecord config limits state (.ok fields) = .ok next := by
  unfold parseRecord
  simp only [show decide (limits.rows < state.summary.total + 1) = false by simpa using htotal,
    show decide (limits.rowBytes < rowBytes fields) = false by simpa using hbytes, failIf_false,
    Except.mapError, ok_bind]
  exact ⟨_, rfl⟩

theorem parseRecord_read {state next : RbnParseState} {record : Except String (List String)}
    (h : env.parseRecord config limits state record = .ok next) :
    ∃ fields, record = .ok fields ∧ RowRead env config limits state fields next := by
  unfold parseRecord at h
  simp only [bind_eq_ok, mapError_eq_ok, pure_eq_ok] at h
  obtain ⟨_, -, fields, rfl, _, -, rfl⟩ := h
  refine ⟨fields, rfl, ?_, rfl, ?_⟩
  · by_cases hretained : state.rows.length < limits.retainedRows <;> simp [hretained]
  · by_cases hretained : state.rows.length < limits.retainedRows
    · have hroom : limits.retainedRows - state.rows.length =
          limits.retainedRows - state.rows.length - 1 + 1 := by omega
      simp only [hretained, decide_true, if_true]
      rw [hroom, List.take_succ_cons, List.take_nil]
    · have hroom : limits.retainedRows - state.rows.length = 0 := by omega
      simp [hretained, hroom]

theorem foldlM_parseRecord_ok (env : RbnEnv) (config : RbnImportConfig)
    {fieldLists : List (List String)} {state : RbnParseState}
    (htotal : state.summary.total + fieldLists.length ≤ limits.rows)
    (hbytes : ∀ fields ∈ fieldLists, rowBytes fields ≤ limits.rowBytes) :
    ∃ final, (fieldLists.map .ok).foldlM (env.parseRecord config limits) state = .ok final := by
  induction fieldLists generalizing state with
  | nil => exact ⟨state, rfl⟩
  | cons fields rest ih =>
    rw [List.length_cons] at htotal
    have hroom : state.summary.total + 1 ≤ limits.rows := by omega
    obtain ⟨next, hnext⟩ := env.parseRecord_ok config hroom (hbytes fields List.mem_cons_self)
    obtain ⟨_, hfields, hread⟩ := parseRecord_read hnext
    cases hfields
    have hnextRoom : next.summary.total + rest.length ≤ limits.rows := by
      rw [hread.total]
      omega
    have hrest := ih hnextRoom
      fun fields hfields => hbytes fields (List.mem_cons_of_mem _ hfields)
    rw [List.map_cons, List.foldlM_cons, hnext]
    exact hrest

/-- The row loop keeps the first rows it meets, as far as there is room. -/
theorem foldlM_parseRecord_rows {records : List (Except String (List String))}
    {state final : RbnParseState}
    (h : records.foldlM (env.parseRecord config limits) state = .ok final) :
    ∃ fieldLists, records = fieldLists.map .ok ∧ final.rows = state.rows ++
      (markAll state.fingerprints (env.classifyAll config state.summary.total fieldLists)).take
        (limits.retainedRows - state.rows.length) := by
  induction records generalizing state with
  | nil =>
    cases h
    exact ⟨[], rfl, by simp [classifyAll, markAll]⟩
  | cons record rest ih =>
    rw [List.foldlM_cons, bind_eq_ok] at h
    obtain ⟨next, hnext, hrest⟩ := h
    obtain ⟨fields, rfl, hread⟩ := parseRecord_read hnext
    obtain ⟨fieldLists, rfl, hrows⟩ := ih hrest
    refine ⟨fields :: fieldLists, rfl, ?_⟩
    rw [hrows, hread.rows, hread.total, hread.fingerprints, classifyAll, markAll]
    by_cases hretained : state.rows.length < limits.retainedRows
    · obtain ⟨room, hroom⟩ : ∃ room, limits.retainedRows - state.rows.length = room + 1 :=
        ⟨limits.retainedRows - state.rows.length - 1, by omega⟩
      have hleft : limits.retainedRows - (state.rows.length + 1) = room := by omega
      simp [hroom, hleft]
    · have hroom : limits.retainedRows - state.rows.length = 0 := by omega
      simp [hroom]

theorem markAll_take (fingerprints : List RbnRowFingerprint) (rows : List RbnRowResult) (n : ℕ) :
    (markAll fingerprints rows).take n = markAll fingerprints (rows.take n) := by
  induction rows generalizing fingerprints n with
  | nil => simp [markAll]
  | cons row rest ih =>
    cases n with
    | zero => rfl
    | succ n => rw [markAll, List.take_succ_cons, List.take_succ_cons, markAll, ih]

theorem parseRbnCsvWithLimits_rows {input : List UInt8} {parsed : ParsedRbnArchive}
    (h : env.parseRbnCsvWithLimits input config limits = .ok parsed) :
    ∃ fieldLists, (env.readCsv input).records = fieldLists.map .ok ∧
      parsed.rows =
        markAll [] ((env.classifyAll config 0 fieldLists).take limits.retainedRows) := by
  simp only [parseRbnCsvWithLimits, bind_eq_ok, pure_eq_ok] at h
  obtain ⟨_, -, _, -, _, -, state, hstate, rfl⟩ := h
  obtain ⟨fieldLists, hrecords, hrows⟩ := foldlM_parseRecord_rows hstate
  exact ⟨fieldLists, hrecords, hrows.trans (markAll_take _ _ _)⟩

theorem rbnRowVerdict_calls {heardCallsign : String} {windowStart windowEnd : DateTime}
    {selectedBands : List Band} {fields : List String} {spot : RbnSpot}
    (h : rbnRowVerdict env heardCallsign windowStart windowEnd selectedBands fields = .ok spot) :
    validCall spot.reporterCall = true ∧ validCall spot.heardCall = true ∧
      spot.heardCall = heardCallsign := by
  unfold rbnRowVerdict at h
  obtain ⟨_, -, h⟩ := bind_eq_ok.1 h
  obtain ⟨_, hcalls, h⟩ := bind_eq_ok.1 h
  obtain ⟨_, hheard, h⟩ := bind_eq_ok.1 h
  obtain ⟨_, -, h⟩ := bind_eq_ok.1 h
  obtain ⟨_, -, h⟩ := bind_eq_ok.1 h
  obtain ⟨_, -, h⟩ := bind_eq_ok.1 h
  obtain ⟨_, -, h⟩ := bind_eq_ok.1 h
  obtain ⟨_, -, h⟩ := bind_eq_ok.1 h
  obtain ⟨_, -, h⟩ := bind_eq_ok.1 h
  obtain ⟨_, -, h⟩ := bind_eq_ok.1 h
  obtain ⟨_, -, h⟩ := bind_eq_ok.1 h
  obtain rfl := pure_eq_ok.1 h
  rw [failIf_eq_ok, Bool.or_eq_false_iff, Bool.not_eq_false', Bool.not_eq_false'] at hcalls
  exact ⟨hcalls.1, hcalls.2, by simpa using hheard⟩

theorem classifyRbnRow_spot {heardCallsign : String} {windowStart windowEnd : DateTime}
    {selectedBands : List Band} {n : ℕ} {fields : List String} :
    (classifyRbnRow env heardCallsign windowStart windowEnd selectedBands n fields).spot =
      (rbnRowVerdict env heardCallsign windowStart windowEnd selectedBands fields).toOption := by
  unfold classifyRbnRow
  cases rbnRowVerdict env heardCallsign windowStart windowEnd selectedBands fields <;> rfl

/-- Every error of a computation has the property. -/
def Refuses {ε α : Type} (P : ε → Prop) (result : Except ε α) : Prop :=
  ∀ error, result = .error error → P error

theorem Refuses.bind {ε α β : Type} {P : ε → Prop} {x : Except ε α} {f : α → Except ε β}
    (h : Refuses P x) (hnext : ∀ a, Refuses P (f a)) : Refuses P (x >>= f) := by
  intro error herror
  rcases bind_eq_error.1 herror with hx | ⟨a, -, hf⟩
  · exact h error hx
  · exact hnext a error hf

theorem refuses_failIf {ε : Type} {P : ε → Prop} {error : ε} {condition : Bool} (h : P error) :
    Refuses P (failIf condition error) := by
  intro e he
  rw [← (failIf_eq_error.1 he).2]
  exact h

theorem refuses_orError {ε α : Type} {P : ε → Prop} {error : ε} {value : Option α} (h : P error) :
    Refuses P (orError value error) := by
  intro e he
  rw [← (orError_eq_error.1 he).2]
  exact h

theorem rbnRowVerdict_refusal {heardCallsign : String} {windowStart windowEnd : DateTime}
    {selectedBands : List Band} {fields : List String} {refusal : RbnRowRefusal}
    (h : rbnRowVerdict env heardCallsign windowStart windowEnd selectedBands fields =
      .error refusal) : refusal.1 ≠ .accepted := by
  revert refusal
  change Refuses (fun refusal : RbnRowRefusal => refusal.1 ≠ .accepted) _
  unfold rbnRowVerdict
  iterate 11
    refine Refuses.bind ?_ fun _ => ?_
    · first
      | with_reducible exact refuses_failIf (by simp [malformedRow])
      | with_reducible exact refuses_orError (by simp [malformedRow])
  intro refusal h
  cases h

theorem classifyRbnRow_settled (heardCallsign : String) (windowStart windowEnd : DateTime)
    (selectedBands : List Band) (n : ℕ) (fields : List String) :
    (classifyRbnRow env heardCallsign windowStart windowEnd selectedBands n fields).Settled := by
  unfold classifyRbnRow
  cases hverdict : rbnRowVerdict env heardCallsign windowStart windowEnd selectedBands fields with
  | ok spot =>
    have hcalls := rbnRowVerdict_calls hverdict
    exact ⟨by simp, by rintro _ ⟨⟩; exact ⟨hcalls.1, hcalls.2.1⟩⟩
  | error refusal => exact ⟨by simp [rbnRowVerdict_refusal hverdict], by simp⟩

theorem markDuplicate_settled (fingerprints : List RbnRowFingerprint) {row : RbnRowResult}
    (h : row.Settled) : (markDuplicate fingerprints row).Settled := by
  unfold markDuplicate
  split_ifs
  · exact ⟨by simp, by simp⟩
  · exact h

theorem markAll_settled {fingerprints : List RbnRowFingerprint} {rows : List RbnRowResult}
    (h : ∀ row ∈ rows, row.Settled) : ∀ row ∈ markAll fingerprints rows, row.Settled := by
  induction rows generalizing fingerprints with
  | nil => simp [markAll]
  | cons row rest ih =>
    rw [markAll, List.forall_mem_cons]
    rw [List.forall_mem_cons] at h
    exact ⟨markDuplicate_settled fingerprints h.1, ih h.2⟩

theorem classifyAll_settled (total : ℕ) (fieldLists : List (List String)) :
    ∀ row ∈ env.classifyAll config total fieldLists, row.Settled := by
  induction fieldLists generalizing total with
  | nil => simp [classifyAll]
  | cons fields rest ih =>
    rw [classifyAll, List.forall_mem_cons]
    exact ⟨classifyRbnRow_settled _ _ _ _ _ _, ih _⟩

theorem markAll_rowNumber (fingerprints : List RbnRowFingerprint) (rows : List RbnRowResult) :
    (markAll fingerprints rows).map (·.rowNumber) = rows.map (·.rowNumber) := by
  induction rows generalizing fingerprints with
  | nil => rfl
  | cons row rest ih =>
    have hrow : (markDuplicate fingerprints row).rowNumber = row.rowNumber := by
      unfold markDuplicate
      split_ifs <;> rfl
    rw [markAll, List.map_cons, List.map_cons, ih, hrow]

theorem classifyAll_rowNumber (total : ℕ) (fieldLists : List (List String)) :
    (env.classifyAll config total fieldLists).map (·.rowNumber) =
      List.range' (total + 1) fieldLists.length := by
  induction fieldLists generalizing total with
  | nil => rfl
  | cons fields rest ih =>
    have hrow : (classifyRbnRow env (normalizeCall config.heardCallsign) config.windowStart
        config.windowEnd config.selectedBands (total + 1) fields).rowNumber = total + 1 := by
      unfold classifyRbnRow
      split <;> rfl
    rw [classifyAll, List.map_cons, ih, hrow, List.length_cons, List.range'_succ]

theorem parseRbnCsvWithLimits_settled {input : List UInt8} {parsed : ParsedRbnArchive}
    (h : env.parseRbnCsvWithLimits input config limits = .ok parsed) :
    (∀ row ∈ parsed.rows, row.Settled) ∧ (parsed.rows.map (·.rowNumber)).Nodup := by
  obtain ⟨fieldLists, -, hrows⟩ := parseRbnCsvWithLimits_rows h
  rw [hrows]
  constructor
  · intro row hrow
    refine markAll_settled (fun r hr => ?_) row hrow
    exact classifyAll_settled _ _ r (List.mem_of_mem_take hr)
  · rw [markAll_rowNumber, List.map_take, classifyAll_rowNumber]
    exact List.Nodup.sublist (List.take_sublist _ _) List.nodup_range'

theorem classifyAll_spots (total : ℕ) (fieldLists : List (List String)) :
    (env.classifyAll config total fieldLists).filterMap (·.spot) =
      fieldLists.filterMap fun fields => (rbnRowVerdict env (normalizeCall config.heardCallsign)
        config.windowStart config.windowEnd config.selectedBands fields).toOption := by
  induction fieldLists generalizing total with
  | nil => rfl
  | cons fields rest ih =>
    rw [classifyAll, List.filterMap_cons, List.filterMap_cons, ih, classifyRbnRow_spot]

theorem markDuplicate_spot (fingerprints : List RbnRowFingerprint) (row : RbnRowResult) :
    (markDuplicate fingerprints row).spot =
      row.spot.filter (!fingerprints.contains ·.rowFingerprint) := by
  unfold markDuplicate
  cases hspot : row.spot with
  | none => simp [hspot]
  | some s =>
    rw [Option.filter_some, Option.any_some]
    cases fingerprints.contains s.rowFingerprint with
    | false => exact hspot
    | true => rfl

/-- Taking out the duplicates leaves the first spot of every kind, as long as equal
fingerprints mean equal spots. -/
theorem find?_markAll {rows : List RbnRowResult} (p : RbnSpot → Bool)
    (htells : ∀ s ∈ rows.filterMap (·.spot), ∀ t ∈ rows.filterMap (·.spot),
      s.rowFingerprint = t.rowFingerprint → s = t) (fingerprints : List RbnRowFingerprint) :
    ((markAll fingerprints rows).filterMap (·.spot)).find? p =
      ((rows.filterMap (·.spot)).filter (!fingerprints.contains ·.rowFingerprint)).find? p := by
  induction rows generalizing fingerprints with
  | nil => rfl
  | cons row rest ih =>
    cases hspot : row.spot with
    | none =>
      have hmark : (markDuplicate fingerprints row).spot = none := by
        rw [markDuplicate_spot, hspot, Option.filter_none]
      rw [List.filterMap_cons, hspot] at htells ⊢
      rw [markAll, List.filterMap_cons, hmark, hspot]
      exact ih htells fingerprints
    | some s =>
      rw [List.filterMap_cons, hspot] at htells ⊢
      rw [markAll, List.filterMap_cons, hspot, Option.map_some, Option.toList_some,
        List.singleton_append]
      have hrest := ih (fun a ha b hb => htells a (List.mem_cons_of_mem _ ha) b
        (List.mem_cons_of_mem _ hb)) (s.rowFingerprint :: fingerprints)
      by_cases hseen : fingerprints.contains s.rowFingerprint = true
      · have hmark : (markDuplicate fingerprints row).spot = none := by
          rw [markDuplicate_spot, hspot, Option.filter_some, hseen]
          rfl
        rw [hmark, List.filter_cons, hseen]
        refine hrest.trans (congrArg _ (List.filter_congr fun t _ => ?_))
        rw [List.contains_cons]
        by_cases heq : t.rowFingerprint = s.rowFingerprint
        · rw [heq, hseen, beq_self_eq_true, Bool.true_or]
        · rw [beq_false_of_ne heq, Bool.false_or]
      · have hunseen : fingerprints.contains s.rowFingerprint = false :=
          Bool.eq_false_iff.2 hseen
        have hmark : (markDuplicate fingerprints row).spot = some s := by
          rw [markDuplicate_spot, hspot, Option.filter_some, hunseen]
          rfl
        rw [hmark, List.filter_cons, hunseen, Bool.not_false, if_pos rfl]
        simp only [List.find?_cons]
        cases hp : p s with
        | true => rfl
        | false =>
          apply hrest.trans
          rw [List.find?_filter, List.find?_filter]
          apply List.find?_congr
          intro t ht
          by_cases heq : t.rowFingerprint = s.rowFingerprint
          · rw [htells t (List.mem_cons_of_mem _ ht) s List.mem_cons_self heq, hp]
            simp
          · simp [heq]

end RbnEnv

end AntennaBench
