import AntennaBench.Report.Complementarity
import AntennaBench.Report.MapConservation

/-!
# Totals of the coverage overlap

The order rows and the receiver rows of a stratum are two partitions of the opportunities that
its joint summary counts. A receiver row counts its opportunities by outcome, by antenna and
by order.
-/

namespace AntennaBench

open Timeline

def ReportOpportunityOrderSummary.countOf (outcome : Option ReporterActivityJointOutcome)
    (summary : ReportOpportunityOrderSummary) : ℕ :=
  match outcome with
  | none => summary.receiverBlockOpportunityCount
  | some .heardBoth => summary.heardBothCount
  | some .leftOnly => summary.leftOnlyCount
  | some .rightOnly => summary.rightOnlyCount
  | some .heardNeither => summary.heardNeitherCount

def ReceiverFrequency.countOf (outcome : Option ReporterActivityJointOutcome)
    (frequency : ReceiverFrequency) : ℕ :=
  match outcome with
  | none => frequency.opportunities
  | some .heardBoth => frequency.both
  | some .leftOnly => frequency.leftOnly
  | some .rightOnly => frequency.rightOnly
  | some .heardNeither => frequency.neither

def ReceiverFrequency.ofOrder (order : ComparisonOrder) (frequency : ReceiverFrequency) : ℕ :=
  match order with
  | .leftThenRight => frequency.leftThenRight
  | .rightThenLeft => frequency.rightThenLeft

def ReportReceiverDetectionFrequency.countOf (outcome : Option ReporterActivityJointOutcome)
    (row : ReportReceiverDetectionFrequency) : ℕ :=
  match outcome with
  | none => row.opportunityCount
  | some .heardBoth => row.heardBothCount
  | some .leftOnly => row.leftOnlyCount
  | some .rightOnly => row.rightOnlyCount
  | some .heardNeither => row.heardNeitherCount

def ReportReceiverDetectionFrequency.ofOrder (order : ComparisonOrder)
    (row : ReportReceiverDetectionFrequency) : ℕ :=
  match order with
  | .leftThenRight => row.leftThenRightOpportunityCount
  | .rightThenLeft => row.rightThenLeftOpportunityCount

def ReportOpportunityComplementarity.countOf (outcome : Option ReporterActivityJointOutcome)
    (common : ReportOpportunityComplementarity) : ℕ :=
  match outcome with
  | none => common.receiverBlockOpportunityCount
  | some .heardBoth => common.heardBothCount
  | some .leftOnly => common.leftOnlyCount
  | some .rightOnly => common.rightOnlyCount
  | some .heardNeither => common.heardNeitherCount

@[simp] theorem countOf_receiverRow (frequency : ReceiverFrequency) (receiver : String)
    (outcome : Option ReporterActivityJointOutcome) :
    (frequency.finish receiver).countOf outcome = frequency.countOf outcome := by
  rcases outcome with _ | outcome
  · rfl
  · cases outcome <;> rfl

@[simp] theorem ofOrder_receiverRow (frequency : ReceiverFrequency) (receiver : String)
    (order : ComparisonOrder) :
    (frequency.finish receiver).ofOrder order = frequency.ofOrder order := by
  cases order <;> rfl

theorem orderSummary_add (outcome : Option ReporterActivityJointOutcome)
    (summary : ReportOpportunityOrderSummary) (row : ReporterActivityPairedRate) :
    (summary.add row).countOf outcome = summary.countOf outcome + row.countOf outcome := by
  rcases outcome with _ | outcome
  · rfl
  · cases outcome <;> rfl

theorem countOrder_foldl (order : ComparisonOrder) (rows : List ReporterActivityPairedRate)
    (h : ∀ row ∈ rows, row.order = order) :
    rows.foldl (fun summary row => countOrder row summary) none =
      if rows = [] then none else some (rows.foldl .add { order := order }) := by
  cases rows with
  | nil => rfl
  | cons first rows =>
    have hsome : ∀ (rows : List ReporterActivityPairedRate) summary,
        rows.foldl (fun summary row => countOrder row summary) (some summary) =
          some (rows.foldl .add summary) := by
      intro rows
      induction rows with
      | nil => exact fun _ => rfl
      | cons row rows ih => exact fun summary => ih (summary.add row)
    rw [if_neg (List.cons_ne_nil _ _), List.foldl_cons, List.foldl_cons,
      ← h first List.mem_cons_self]
    exact hsome rows _

namespace OpportunityTally

theorem foldl_orders (rows : List ReporterActivityPairedRate) (tally : OpportunityTally) :
    (rows.foldl add tally).orders = rows.foldl (fun orders row =>
      updateCell row.order (countOrder row) orders) tally.orders := by
  induction rows generalizing tally with
  | nil => rfl
  | cons row rows ih => exact ih _

theorem foldl_receivers (rows : List ReporterActivityPairedRate) (tally : OpportunityTally) :
    (rows.foldl add tally).receivers = rows.foldl (fun receivers row =>
      row.receivers.foldl (countReceiver row.order) receivers) tally.receivers := by
  induction rows generalizing tally with
  | nil => rfl
  | cons row rows ih => exact ih _

/-- The row of an order is there when a block had the order, and adds up its blocks. -/
theorem orders_eq (rows : List ReporterActivityPairedRate) (order : ComparisonOrder) :
    (rows.foldl add {}).orders order = if rows.filter (·.order = order) = [] then none
      else some ((rows.filter (·.order = order)).foldl .add { order := order }) := by
  rw [foldl_orders, foldl_updateCell (·.order) fun summary row => countOrder row summary]
  apply countOrder_foldl
  intro row hrow
  simpa using (List.mem_filter.1 hrow).2

theorem sum_orders {count : ReportOpportunityOrderSummary → ℕ}
    {weight : ReporterActivityPairedRate → ℕ}
    (hadd : ∀ summary row, count (summary.add row) = count summary + weight row)
    (hzero : ∀ order, count { order := order } = 0) (rows : List ReporterActivityPairedRate) :
    (([ComparisonOrder.leftThenRight, .rightThenLeft].filterMap
      (rows.foldl add {}).orders).map count).sum = (rows.map weight).sum := by
  have hcell : ∀ order, ((rows.foldl add {}).orders order).elim 0 count =
      ((rows.filter (·.order = order)).map weight).sum := by
    intro order
    rw [orders_eq]
    by_cases hnil : rows.filter (·.order = order) = []
    · rw [if_pos hnil, hnil]
      rfl
    · rw [if_neg hnil, Option.elim_some, foldl_count hadd, hzero, Nat.zero_add]
  rw [sum_filterMap, List.map_congr_left fun order _ => hcell order]
  apply sum_classes
  · decide
  · intro row _
    cases row.order <;> simp

end OpportunityTally

/-- The receivers of the rows, each with the order of its block. -/
def orderedReceivers (rows : List ReporterActivityPairedRate) :
    List (ComparisonOrder × ReporterActivityJointReceiver) :=
  rows.flatMap fun row => row.receivers.map (row.order, ·)

def ReceiverFrequency.collect
    (items : List (ComparisonOrder × ReporterActivityJointReceiver)) : ReceiverFrequency :=
  items.foldl (fun frequency item => frequency.add item.1 item.2.outcome) {}

theorem receivers_eq (rows : List ReporterActivityPairedRate) :
    (rows.foldl OpportunityTally.add {}).receivers =
      (Timeline.sortedKeys ((orderedReceivers rows).map (·.2.receiver))).map fun name =>
        (name, .collect ((orderedReceivers rows).filter (·.2.receiver = name))) := by
  have hloop := foldl_modifyEntry_keyed ({} : ReceiverFrequency) (·.2.receiver)
    (fun frequency (item : ComparisonOrder × ReporterActivityJointReceiver) =>
      frequency.add item.1 item.2.outcome) (orderedReceivers rows)
  unfold ReceiverFrequency.collect
  rw [← hloop, OpportunityTally.foldl_receivers, orderedReceivers, List.foldl_flatMap]
  simp only [List.foldl_map]
  rfl

namespace ReceiverFrequency

theorem countOf_add (outcome : Option ReporterActivityJointOutcome) (frequency : ReceiverFrequency)
    (item : ComparisonOrder × ReporterActivityJointReceiver) :
    (frequency.add item.1 item.2.outcome).countOf outcome =
      frequency.countOf outcome + item.2.counts outcome := by
  obtain ⟨order, receiver⟩ := item
  unfold add ReporterActivityJointReceiver.counts
  rcases outcome with _ | outcome
  · cases order <;> cases receiver.outcome <;> rfl
  · cases order <;> cases outcome <;> cases receiver.outcome <;> rfl

theorem ofOrder_add (order : ComparisonOrder) (frequency : ReceiverFrequency)
    (item : ComparisonOrder × ReporterActivityJointReceiver) :
    (frequency.add item.1 item.2.outcome).ofOrder order =
      frequency.ofOrder order + if item.1 = order then 1 else 0 := by
  obtain ⟨blockOrder, receiver⟩ := item
  unfold add
  cases order <;> cases blockOrder <;> cases receiver.outcome <;> rfl

/-- What every receiver's counts agree on. -/
structure Agrees (frequency : ReceiverFrequency) : Prop where
  left : frequency.left = frequency.both + frequency.leftOnly
  right : frequency.right = frequency.both + frequency.rightOnly
  outcomes : frequency.both + frequency.leftOnly + frequency.rightOnly + frequency.neither =
    frequency.opportunities
  orders : frequency.leftThenRight + frequency.rightThenLeft = frequency.opportunities

theorem Agrees.add {frequency : ReceiverFrequency} (h : frequency.Agrees)
    (order : ComparisonOrder) (outcome : ReporterActivityJointOutcome) :
    (frequency.add order outcome).Agrees := by
  obtain ⟨hleft, hright, houtcomes, horders⟩ := h
  unfold ReceiverFrequency.add
  cases order <;> cases outcome <;>
    constructor <;> simp only [addOrder, addOutcome] <;> omega

theorem agrees_collect (items : List (ComparisonOrder × ReporterActivityJointReceiver)) :
    (collect items).Agrees := by
  induction items using List.reverseRecOn with
  | nil => constructor <;> rfl
  | append_singleton items item ih =>
    rw [collect, List.foldl_append]
    exact ih.add item.1 item.2.outcome

theorem countOf_collect (outcome : Option ReporterActivityJointOutcome)
    (items : List (ComparisonOrder × ReporterActivityJointReceiver)) :
    (collect items).countOf outcome = (items.map (·.2.counts outcome)).sum := by
  rw [collect, foldl_count (countOf_add outcome)]
  rcases outcome with _ | outcome
  · exact Nat.zero_add _
  · cases outcome <;> exact Nat.zero_add _

theorem ofOrder_collect (order : ComparisonOrder)
    (items : List (ComparisonOrder × ReporterActivityJointReceiver)) :
    (collect items).ofOrder order =
      (items.map fun item => if item.1 = order then 1 else 0).sum := by
  rw [collect, foldl_count (ofOrder_add order)]
  cases order <;> exact Nat.zero_add _

end ReceiverFrequency

theorem sum_receiverRows {count : ReceiverFrequency → ℕ}
    {weight : ComparisonOrder × ReporterActivityJointReceiver → ℕ}
    (hcollect : ∀ items, count (.collect items) = (items.map weight).sum)
    (rows : List ReporterActivityPairedRate) :
    ((rows.foldl OpportunityTally.add {}).receivers.map fun entry => count entry.2).sum =
      ((orderedReceivers rows).map weight).sum := by
  rw [receivers_eq, List.map_map]
  simp only [Function.comp_def, hcollect]
  apply sum_classes (sortedKeys_nodup _)
  intro item hitem
  exact mem_sortedKeys.2 (List.mem_map_of_mem hitem)

theorem orderedReceivers_names (rows : List ReporterActivityPairedRate) :
    (orderedReceivers rows).map (·.2.receiver) =
      rows.flatMap fun row => row.receivers.map (·.receiver) := by
  rw [orderedReceivers, List.map_flatMap]
  simp only [List.map_map, Function.comp_def]

theorem sum_orderedReceivers {rows : List ReporterActivityPairedRate}
    (hrows : ∀ row ∈ rows, row.CountsReceivers)
    (outcome : Option ReporterActivityJointOutcome) :
    ((orderedReceivers rows).map (·.2.counts outcome)).sum =
      (rows.map (·.countOf outcome)).sum := by
  rw [orderedReceivers, sum_flatMap]
  congr 1
  apply List.map_congr_left
  intro row hrow
  rw [List.map_map, (hrows row hrow).countOf]
  rfl

/-- The receivers of an order are those of its blocks. -/
theorem sum_orderedReceivers_order {rows : List ReporterActivityPairedRate}
    (hrows : ∀ row ∈ rows, row.CountsReceivers) (order : ComparisonOrder) :
    ((orderedReceivers rows).map fun item => if item.1 = order then 1 else 0).sum =
      ((rows.filter (·.order = order)).map (·.activeInBothCount)).sum := by
  rw [orderedReceivers, sum_flatMap]
  induction rows with
  | nil => rfl
  | cons row rows ih =>
    have hrest := ih fun other hother => hrows other (List.mem_cons_of_mem row hother)
    have hactive := (hrows row List.mem_cons_self).active
    rw [List.map_cons, List.sum_cons, hrest]
    by_cases horder : row.order = order <;> simp [horder, hactive, Function.comp_def]

theorem foldl_add_order (rows : List ReporterActivityPairedRate)
    (summary : ReportOpportunityOrderSummary) :
    (rows.foldl .add summary).order = summary.order := by
  induction rows generalizing summary with
  | nil => rfl
  | cons row rows ih => exact ih _

/-- The counts are those of the joint rows of the stratum, and the order rows and the receiver
rows add up to them. -/
structure ReportOpportunityComplementarity.AddsUp (common : ReportOpportunityComplementarity)
    (rows : List ReporterActivityPairedRate) : Prop where
  rowBlocks : common.eligibleBlockCount = rows.length
  rowCounts : ∀ outcome, common.countOf outcome = (rows.map (·.countOf outcome)).sum
  names : ∀ name, name ∈ common.receiverFrequencies.map (·.receiver) ↔
    ∃ row ∈ rows, name ∈ row.receivers.map (·.receiver)
  blocks : (common.orderSummaries.map (·.blockCount)).sum = common.eligibleBlockCount
  orders : ∀ outcome,
    (common.orderSummaries.map (·.countOf outcome)).sum = common.countOf outcome
  receivers : ∀ outcome,
    (common.receiverFrequencies.map (·.countOf outcome)).sum = common.countOf outcome
  ofOrder : ∀ summary ∈ common.orderSummaries,
    (common.receiverFrequencies.map (·.ofOrder summary.order)).sum =
      summary.receiverBlockOpportunityCount
  ascending : (common.receiverFrequencies.map (·.receiver)).Pairwise (· < ·)
  unique : common.receiverFrequencies.length = common.uniqueCommonActiveReceiverCount
  left : ∀ row ∈ common.receiverFrequencies,
    row.leftDetectionCount = row.heardBothCount + row.leftOnlyCount
  right : ∀ row ∈ common.receiverFrequencies,
    row.rightDetectionCount = row.heardBothCount + row.rightOnlyCount
  outcomes : ∀ row ∈ common.receiverFrequencies, row.heardBothCount + row.leftOnlyCount +
    row.rightOnlyCount + row.heardNeitherCount = row.opportunityCount
  bothOrders : ∀ row ∈ common.receiverFrequencies,
    row.leftThenRightOpportunityCount + row.rightThenLeftOpportunityCount = row.opportunityCount
  heard : ∀ row ∈ common.receiverFrequencies, 0 < row.opportunityCount

theorem ReporterActivityJointSummary.Totals.countOf {summary : ReporterActivityJointSummary}
    {rows : List ReporterActivityPairedRate} (h : summary.Totals rows)
    (hrows : ∀ row ∈ rows, row.CountsReceivers)
    (outcome : Option ReporterActivityJointOutcome) :
    (rows.map (·.countOf outcome)).sum =
      outcome.elim summary.receiverBlockOpportunityCount summary.outcomeCount := by
  rcases outcome with _ | outcome
  · exact (sum_activeInBothCount hrows).trans h.opportunities.symm
  · exact (sum_outcomeCount hrows outcome).trans (h.outcomes outcome).symm

/-- The receiver rows of a tally. -/
def OpportunityTally.receiverRows (tally : OpportunityTally) :
    List ReportReceiverDetectionFrequency :=
  tally.receivers.map fun entry => entry.2.finish entry.1

section

variable {rows : List ReporterActivityPairedRate}

theorem receiverRows_names :
    ((rows.foldl OpportunityTally.add {}).receiverRows.map (·.receiver)) =
      Timeline.sortedKeys (rows.flatMap fun row => row.receivers.map (·.receiver)) := by
  rw [OpportunityTally.receiverRows, receivers_eq, List.map_map, List.map_map,
    orderedReceivers_names]
  exact List.map_id _

/-- A receiver row is that of the opportunities of its receiver, of which there is one. -/
theorem receiverRows_collect :
    ∀ row ∈ (rows.foldl OpportunityTally.add {}).receiverRows, ∃ items, items ≠ [] ∧
      row = (ReceiverFrequency.collect items).finish row.receiver := by
  intro row hrow
  rw [OpportunityTally.receiverRows, receivers_eq, List.map_map] at hrow
  obtain ⟨name, hname, rfl⟩ := List.mem_map.1 hrow
  obtain ⟨item, hitem, heq⟩ := List.mem_map.1 (mem_sortedKeys.1 hname)
  refine ⟨_, ?_, rfl⟩
  exact List.ne_nil_of_mem (List.mem_filter.2 ⟨hitem, decide_eq_true heq⟩)

/-- What the counts of a receiver row agree on. -/
theorem receiverRows_agree :
    ∀ row ∈ (rows.foldl OpportunityTally.add {}).receiverRows,
      row.leftDetectionCount = row.heardBothCount + row.leftOnlyCount ∧
      row.rightDetectionCount = row.heardBothCount + row.rightOnlyCount ∧
      row.heardBothCount + row.leftOnlyCount + row.rightOnlyCount + row.heardNeitherCount =
        row.opportunityCount ∧
      row.leftThenRightOpportunityCount + row.rightThenLeftOpportunityCount =
        row.opportunityCount ∧
      0 < row.opportunityCount := by
  intro row hrow
  obtain ⟨items, hne, hitems⟩ := receiverRows_collect row hrow
  obtain ⟨hleft, hright, houtcomes, horders⟩ := ReceiverFrequency.agrees_collect items
  have hcollect := ReceiverFrequency.countOf_collect none items
  have hlength : (items.map (·.2.counts none)).sum = items.length := by
    simp [ReporterActivityJointReceiver.counts]
  rw [hlength] at hcollect
  rw [hitems]
  exact ⟨hleft, hright, houtcomes, horders, (List.length_pos_iff.2 hne).trans_eq hcollect.symm⟩

theorem receiverRows_count (hrows : ∀ row ∈ rows, row.CountsReceivers)
    (outcome : Option ReporterActivityJointOutcome) :
    ((rows.foldl OpportunityTally.add {}).receiverRows.map (·.countOf outcome)).sum =
      (rows.map (·.countOf outcome)).sum := by
  rw [OpportunityTally.receiverRows, ← sum_orderedReceivers hrows outcome, List.map_map]
  simp only [Function.comp_def, countOf_receiverRow]
  exact sum_receiverRows (ReceiverFrequency.countOf_collect outcome) rows

theorem orderRows_count (outcome : Option ReporterActivityJointOutcome) :
    (([ComparisonOrder.leftThenRight, .rightThenLeft].filterMap
      (rows.foldl OpportunityTally.add {}).orders).map (·.countOf outcome)).sum =
        (rows.map (·.countOf outcome)).sum := by
  rw [OpportunityTally.sum_orders (orderSummary_add outcome)]
  intro order
  rcases outcome with _ | outcome
  · rfl
  · cases outcome <;> rfl

theorem orderRows_blocks :
    (([ComparisonOrder.leftThenRight, .rightThenLeft].filterMap
      (rows.foldl OpportunityTally.add {}).orders).map (·.blockCount)).sum = rows.length := by
  have hblocks : ∀ (summary : ReportOpportunityOrderSummary) (row : ReporterActivityPairedRate),
      (summary.add row).blockCount = summary.blockCount + 1 := fun _ _ => rfl
  rw [OpportunityTally.sum_orders hblocks fun _ => rfl]
  simp

/-- The receiver rows have the opportunities of an order that its order row has. -/
theorem receiverRows_ofOrder (hrows : ∀ row ∈ rows, row.CountsReceivers) :
    ∀ summary ∈ [ComparisonOrder.leftThenRight, .rightThenLeft].filterMap
      (rows.foldl OpportunityTally.add {}).orders,
        ((rows.foldl OpportunityTally.add {}).receiverRows.map (·.ofOrder summary.order)).sum =
          summary.receiverBlockOpportunityCount := by
  intro summary hsummary
  obtain ⟨key, -, hkey⟩ := List.mem_filterMap.1 hsummary
  rw [OpportunityTally.orders_eq] at hkey
  by_cases hnil : rows.filter (·.order = key) = []
  · rw [if_pos hnil] at hkey
    cases hkey
  rw [if_neg hnil] at hkey
  obtain rfl := Option.some.inj hkey
  have hadded := foldl_count (orderSummary_add none) (rows.filter (·.order = key))
    { order := key }
  rw [OpportunityTally.receiverRows, List.map_map, foldl_add_order]
  simp only [Function.comp_def, ofOrder_receiverRow]
  rw [sum_receiverRows (ReceiverFrequency.ofOrder_collect key), sum_orderedReceivers_order hrows]
  exact (hadded.trans (Nat.zero_add _)).symm

end

theorem projectOpportunities_addsUp {activity : ReporterActivityAnalysis}
    (hactivity : activity.Summarized) {stratum : ComparisonStratum}
    {common : ReportOpportunityComplementarity}
    (h : projectOpportunities stratum activity = some common) :
    common.AddsUp (activity.pairedRates.filter (·.stratum = stratum)) := by
  obtain ⟨summary, hfind, hcommon⟩ := Option.map_eq_some_iff.1 h
  have htotals := hactivity.totals (List.mem_of_find?_eq_some hfind)
  obtain rfl : summary.stratum = stratum := by simpa using List.find?_some hfind
  have hrows : ∀ row ∈ activity.pairedRates.filter (·.stratum = summary.stratum),
      row.CountsReceivers := fun row hrow => hactivity.rows row (List.mem_of_mem_filter hrow)
  generalize activity.pairedRates.filter (·.stratum = summary.stratum) = rows at *
  have hcount : ∀ outcome, common.countOf outcome = (rows.map (·.countOf outcome)).sum := by
    intro outcome
    rw [htotals.countOf hrows, ← hcommon]
    rcases outcome with _ | outcome
    · rfl
    · cases outcome <;> rfl
  have horders : common.orderSummaries = [ComparisonOrder.leftThenRight, .rightThenLeft].filterMap
      (rows.foldl OpportunityTally.add {}).orders := by rw [← hcommon]
  have hreceivers : common.receiverFrequencies =
      (rows.foldl OpportunityTally.add {}).receiverRows := by
    rw [← hcommon]
    rfl
  have hblocks : common.eligibleBlockCount = rows.length := by rw [← htotals.blocks, ← hcommon]
  have hunique : common.uniqueCommonActiveReceiverCount =
      (rows.flatMap fun row => row.receivers.map (·.receiver)).toFinset.card := by
    rw [← htotals.unique, ← hcommon]
  constructor
  · exact hblocks
  · exact hcount
  · intro name
    rw [hreceivers, receiverRows_names, mem_sortedKeys, List.mem_flatMap]
  · rw [horders, hblocks, orderRows_blocks]
  · intro outcome
    rw [horders, hcount, orderRows_count]
  · intro outcome
    rw [hreceivers, hcount, receiverRows_count hrows]
  · rw [horders, hreceivers]
    exact receiverRows_ofOrder hrows
  · rw [hreceivers, receiverRows_names]
    exact sortedKeys_ascending _
  · rw [hreceivers, hunique, ← List.length_map (·.receiver), receiverRows_names,
      sortedKeys_length]
  · exact fun row hrow => (receiverRows_agree row (hreceivers ▸ hrow)).1
  · exact fun row hrow => (receiverRows_agree row (hreceivers ▸ hrow)).2.1
  · exact fun row hrow => (receiverRows_agree row (hreceivers ▸ hrow)).2.2.1
  · exact fun row hrow => (receiverRows_agree row (hreceivers ▸ hrow)).2.2.2.1
  · exact fun row hrow => (receiverRows_agree row (hreceivers ▸ hrow)).2.2.2.2

section

variable {α : Type} [DecidableEq α]

theorem firstOccurrences_snoc (items : List α) (item : α) :
    firstOccurrences (items ++ [item]) = if item ∈ firstOccurrences items
      then firstOccurrences items else firstOccurrences items ++ [item] := by
  rw [firstOccurrences, List.foldl_append]
  rfl

theorem mem_firstOccurrences {items : List α} {item : α} :
    item ∈ firstOccurrences items ↔ item ∈ items := by
  induction items using List.reverseRecOn with
  | nil => rfl
  | append_singleton items last ih =>
    rw [firstOccurrences_snoc, List.mem_append, List.mem_singleton]
    split_ifs with hlast
    · rw [ih]
      constructor
      · exact Or.inl
      · rintro (h | rfl)
        · exact h
        · exact ih.1 hlast
    · rw [List.mem_append, List.mem_singleton, ih]

theorem firstOccurrences_nodup (items : List α) : (firstOccurrences items).Nodup := by
  induction items using List.reverseRecOn with
  | nil => exact List.nodup_nil
  | append_singleton items last ih =>
    rw [firstOccurrences_snoc]
    split_ifs with hlast
    · exact ih
    · rw [← List.concat_eq_append]
      exact ih.concat hlast

end

/-- The overlap groups lose no summary of an analysis, and their rows add up. -/
structure CoverageOverlapCounts (groups : List ReportCoverageOverlapGroup)
    (activity : ReporterActivityAnalysis) : Prop where
  strata : (groups.map (·.stratum)).Nodup
  summaries : ∀ summary ∈ activity.jointSummaries, ∃ group ∈ groups,
    group.stratum = summary.stratum ∧ ∃ common, group.commonOpportunity = some common ∧
      common.receiverBlockOpportunityCount = summary.receiverBlockOpportunityCount ∧
      ∀ outcome, common.countOf (some outcome) = summary.outcomeCount outcome
  addUp : ∀ group ∈ groups, ∀ common, group.commonOpportunity = some common →
    common.AddsUp (activity.pairedRates.filter (·.stratum = group.stratum))

theorem projectOpportunities_of_mem {activity : ReporterActivityAnalysis}
    (h : activity.Summarized) {summary : ReporterActivityJointSummary}
    (hsummary : summary ∈ activity.jointSummaries) :
    ∃ common, projectOpportunities summary.stratum activity = some common ∧
      common.receiverBlockOpportunityCount = summary.receiverBlockOpportunityCount ∧
      ∀ outcome, common.countOf (some outcome) = summary.outcomeCount outcome := by
  have hfound : (activity.jointSummaries.find? (·.stratum = summary.stratum)).isSome := by
    rw [List.find?_isSome]
    exact ⟨summary, hsummary, decide_eq_true rfl⟩
  obtain ⟨found, hfind⟩ := Option.isSome_iff_exists.1 hfound
  have hstratum : found.stratum = summary.stratum := by simpa using List.find?_some hfind
  obtain rfl := h.unique (List.mem_of_find?_eq_some hfind) hsummary hstratum
  unfold projectOpportunities
  rw [hfind]
  refine ⟨_, rfl, rfl, ?_⟩
  intro outcome
  cases outcome <;> rfl

theorem projectCoverageOverlap_counts {activity : ReporterActivityAnalysis}
    (h : activity.Summarized) (comparison : PairedComparisonAnalysis) :
    CoverageOverlapCounts (projectCoverageOverlap comparison activity) activity := by
  constructor
  · rw [projectCoverageOverlap, List.map_map]
    exact (List.map_id _).symm ▸ firstOccurrences_nodup _
  · intro summary hsummary
    obtain ⟨common, hcommon, hcounts⟩ := projectOpportunities_of_mem h hsummary
    refine ⟨_, List.mem_map.2 ⟨summary.stratum, ?_, rfl⟩, rfl, common, hcommon, hcounts⟩
    rw [mem_firstOccurrences]
    exact List.mem_append_right _ (List.mem_map_of_mem hsummary)
  · intro group hgroup common hcommon
    obtain ⟨stratum, -, rfl⟩ := List.mem_map.1 hgroup
    exact projectOpportunities_addsUp h hcommon

theorem coverageOverlap_opportunities_addUp {env : CensusEnv} {inputs : ActivityInputs}
    {records : List AdapterRecordV2} {activity : ReporterActivityAnalysis}
    (h : analyzeReporterActivity env inputs records = .ok activity)
    (comparison : PairedComparisonAnalysis) :
    CoverageOverlapCounts (projectCoverageOverlap comparison activity) activity :=
  projectCoverageOverlap_counts (analyze_summarized h) comparison

namespace Scenario

theorem censusRecords_receivesTwo :
    ((analyzeReporterActivity censusEnv signalInputs censusRecords).toOption.any fun activity =>
      (projectCoverageOverlap (unavailable .notApplicable []) activity).map (fun group =>
        group.commonOpportunity.map (·.receiverFrequencies.length)) == [some 2]) = true := by
  decide +kernel

/-- Both receivers of the census have their row in the one group. -/
theorem censusRecords_addUp :
    ∃ activity, analyzeReporterActivity censusEnv signalInputs censusRecords = .ok activity ∧
      (projectCoverageOverlap (unavailable .notApplicable []) activity).map (fun group =>
          group.commonOpportunity.map (·.receiverFrequencies.length)) = [some 2] ∧
        CoverageOverlapCounts (projectCoverageOverlap (unavailable .notApplicable []) activity)
          activity := by
  obtain ⟨activity, hok, hreceivers⟩ := exists_ok_of_any censusRecords_receivesTwo
  exact ⟨activity, hok, beq_iff_eq.1 hreceivers,
    coverageOverlap_opportunities_addUp hok (unavailable .notApplicable [])⟩

end Scenario

end AntennaBench
