import AntennaBench.Analysis.OperatorFacts
import AntennaBench.Analysis.Placement
import AntennaBench.Analysis.Summary
import AntennaBench.Storage.LegacyUpgrade
import AntennaBench.Timeline.Shares

/-!
# The evidence of a migrated bundle

Every mutation of a migrated bundle is complete, and its adapter records and normalized
records name each other, exactly when no observation matches two WSJT-X records, the
interruption added for an unfinished session has an identity of its own, and the bounded
identities keep the evidence apart.
-/

namespace AntennaBench

open Timeline

def MutationMember.share (member : MutationMember) : Share String :=
  ⟨member.mutationId, member.memberIndex, member.memberCount⟩

namespace BundleV2Contents

/-- The mutation members of all streams. -/
def mutationMembers (bundle : BundleV2Contents) : List MutationMember :=
  bundle.events.map (·.recordMeta.mutation) ++
  bundle.adapterRecords.map (·.recordMeta.mutation) ++
  bundle.observations.map (·.recordMeta.mutation) ++
  bundle.rig.map (·.recordMeta.mutation) ++
  bundle.propagation.map (·.recordMeta.mutation)

/-- The members of each mutation, across all streams, carry one count and the indexes below
it, each once. -/
def MutationsComplete (bundle : BundleV2Contents) : Prop :=
  Complete (bundle.mutationMembers.map (·.share))

instance (bundle : BundleV2Contents) : Decidable bundle.MutationsComplete :=
  inferInstanceAs (Decidable (Complete _))

/-- An adapter record links to one of the records, given by identity and listed adapter
records, exactly when that record lists it. -/
def LinkedBack (adapters : List (String × List NormalizedRecordLink))
    (recordKind : NormalizedRecordKind) (records : List (String × List String)) : Prop :=
  ∀ adapter ∈ adapters, ∀ record ∈ records,
    (⟨recordKind, record.1⟩ ∈ adapter.2 ↔ adapter.1 ∈ record.2)

def adapterLinks (bundle : BundleV2Contents) : List (String × List NormalizedRecordLink) :=
  bundle.adapterRecords.map fun adapter => (adapter.recordId, adapter.normalizedRecords)

/-- The links between adapter records and normalized records hold in both directions. -/
structure Reciprocal (bundle : BundleV2Contents) : Prop where
  observations : LinkedBack bundle.adapterLinks .observation
    (bundle.observations.map fun record => (record.observationId, record.adapterRecordIds))
  rig : LinkedBack bundle.adapterLinks .rig
    (bundle.rig.map fun record => (record.recordId, record.adapterRecordIds))
  propagation : LinkedBack bundle.adapterLinks .propagation
    (bundle.propagation.map fun record => (record.recordId, record.adapterRecordIds))

end BundleV2Contents

namespace LegacyUpgrade

open BundleV2Contents

section

variable (E : Env) (v1 : BundleContents)

/-- The texts whose digests name the mutations of a migration. -/
def mutationTexts : List String :=
  (v1.events.map (·.eventId) ++ [interruptionId E v1]).map (mutationText "events") ++
  v1.wsjtx.map (fun record => mutationText "wsjtx" record.recordId) ++
  v1.observations.map (fun record => mutationText "observations" record.observationId) ++
  v1.rig.map (fun record => mutationText "rig" record.recordId) ++
  v1.propagation.map (fun record => mutationText "propagation" record.recordId)

/-- SHA-256 does not collide on these texts. -/
def DigestsApart : Prop :=
  ∀ a ∈ mutationTexts E v1, ∀ b ∈ mutationTexts E v1, textDigest E a = textDigest E b → a = b

/-- The bounded identity keeps the legacy identities of a kind apart. -/
def IdsApart (kind : String) (ids : List String) : Prop :=
  ∀ a ∈ ids, ∀ b ∈ ids,
    boundedMigrationId E kind a = boundedMigrationId E kind b → a = b

def Unmatched (observation : ObservationRecord) : Prop :=
  ∀ record ∈ v1.wsjtx, ¬ legacyWsjtxMatches record observation

/-- No two evidence records of which one links to something share an identity. -/
structure EvidenceApart : Prop where
  wsjtx : ∀ a ∈ v1.wsjtx, ∀ b ∈ v1.wsjtx, ∀ observation ∈ v1.observations,
    legacyWsjtxMatches b observation → boundedMigrationId E "legacy-wsjtx" a.recordId =
      boundedMigrationId E "legacy-wsjtx" b.recordId → a = b
  observations : ∀ a ∈ v1.observations, ∀ b ∈ v1.observations, Unmatched v1 a → Unmatched v1 b →
    boundedMigrationId E "legacy-observation" a.observationId =
      boundedMigrationId E "legacy-observation" b.observationId →
    a.observationId = b.observationId
  rig : IdsApart E "legacy-rig" (v1.rig.map (·.recordId))
  propagation : IdsApart E "legacy-propagation" (v1.propagation.map (·.recordId))

/-- When the evidence of a migrated bundle is complete and reciprocal. -/
structure EvidenceSound : Prop where
  interruption : startedWithoutEnd v1 →
    interruptionId E v1 ∉ v1.events.map (·.eventId)
  matchedOnce : ClaimedOnce v1.observations legacyWsjtxMatches v1.wsjtx
  apart : EvidenceApart E v1

end

section

variable {F : TextFormat} {v1 : BundleContents}

theorem not_blocks_of_allows {profile : BundleValidationProfile}
    (hallows : (validateBundleReport F v1).allows profile)
    {diagnostic : BundleDiagnostic} (h : diagnostic ∈ issueDiagnostics F v1) :
    diagnostic.blocks profile = false := by
  have hsorted : diagnostic.tidy ∈ BundleValidationReport.sorted (issueDiagnostics F v1) :=
    BundleValidationReport.mem_sorted.2 ⟨diagnostic, h, rfl⟩
  have hreport : diagnostic.tidy.tidy ∈ validateBundleReport F v1 :=
    BundleValidationReport.mem_sorted.2 ⟨_, List.mem_append_left _ hsorted, rfl⟩
  rw [BundleValidationReport.allows, Bool.not_eq_true', List.any_eq_false] at hallows
  simpa using hallows _ hreport

/-- A bundle the report allows to upgrade repeats no identity. -/
theorem ids_nodup (heligible : (validateBundleReport F v1).allows .upgrade)
    (kind : BundleIdKind) : (v1.ids kind).Nodup := by
  rw [List.nodup_iff_count_le_one]
  intro id
  by_contra hcount
  have hduplicate : BundleValidationIssue.duplicateId kind id ∈ validateDuplicates v1 kind :=
    List.mem_map_of_mem ((mem_repeats [] _).2 (.inr (by omega)))
  have hkind : kind ∈ [BundleIdKind.slot, .operatorEvent, .observation, .wsjtXRecord,
      .rigRecord, .propagationRecord] := by
    cases kind <;> simp
  have hissue : BundleValidationIssue.duplicateId kind id ∈ validateBundleIssues F v1 := by
    simp only [validateBundleIssues, List.mem_append, List.mem_flatMap]
    exact .inl (.inl (.inl (.inl (.inr ⟨kind, hkind, hduplicate⟩))))
  have hblocks := not_blocks_of_allows heligible (List.mem_map_of_mem hissue)
  simp [diagnosticFromIssue, blockingDiagnostic, BundleDiagnostic.blocks, allTypedOperations]
    at hblocks

end

section

variable {E : Env}

def migrationStreams : List String :=
  ["events", "wsjtx", "observations", "rig", "propagation"]

theorem nul_not_mem_stream : ∀ stream ∈ migrationStreams, '\x00' ∉ stream.toList := by
  decide

theorem takeWhile_marked {marker : Char} {before after : List Char} (h : marker ∉ before) :
    (before ++ marker :: after).takeWhile (· != marker) = before := by
  rw [List.takeWhile_append_of_pos]
  · simp
  · intro c hc
    simpa using fun heq : c = marker => h (heq ▸ hc)

/-- The stream of a mutation text ends at its NUL. -/
theorem mutationText_inj {stream stream' id id' : String}
    (hstream : stream ∈ migrationStreams) (hstream' : stream' ∈ migrationStreams)
    (h : mutationText stream id = mutationText stream' id') : stream = stream' ∧ id = id' := by
  have htext : stream.toList ++ '\x00' :: id.toList = stream'.toList ++ '\x00' :: id'.toList := by
    simpa [mutationText] using congrArg String.toList h
  have hleft : stream.toList = stream'.toList := by
    have htake := congrArg (List.takeWhile (· != '\x00')) htext
    rwa [takeWhile_marked (nul_not_mem_stream _ hstream),
      takeWhile_marked (nul_not_mem_stream _ hstream')] at htake
  rw [hleft, List.append_cancel_left_eq, List.cons.injEq] at htext
  exact ⟨String.toList_inj.1 hleft, String.toList_inj.1 htext.2⟩

theorem boundedMigrationId_spec (E : Env) (kind id : String) :
    ∃ tail, boundedMigrationId E kind id = kind ++ "-" ++ tail := by
  unfold boundedMigrationId
  dsimp only
  split_ifs
  · exact ⟨id, rfl⟩
  · exact ⟨textDigest E id, rfl⟩

def evidenceKinds : List String :=
  ["legacy-wsjtx", "legacy-observation", "legacy-rig", "legacy-propagation"]

theorem evidenceKinds_differ : ∀ kind ∈ evidenceKinds, ∀ kind' ∈ evidenceKinds, kind ≠ kind' →
    7 < kind.toList.length ∧ 7 < kind'.toList.length ∧
      kind.toList[7]? ≠ kind'.toList[7]? := by
  decide

/-- Evidence of different kinds never shares an identity. -/
theorem boundedMigrationId_ne {kind kind' : String} (hkind : kind ∈ evidenceKinds)
    (hkind' : kind' ∈ evidenceKinds) (hne : kind ≠ kind') (id id' : String) :
    boundedMigrationId E kind id ≠ boundedMigrationId E kind' id' := by
  obtain ⟨hlong, hlong', hdiffer⟩ := evidenceKinds_differ kind hkind kind' hkind' hne
  obtain ⟨tail, htail⟩ := boundedMigrationId_spec E kind id
  obtain ⟨tail', htail'⟩ := boundedMigrationId_spec E kind' id'
  rw [htail, htail']
  intro h
  have hplace := congrArg (fun text => text.toList[7]?) h
  simp only [String.toList_append, List.append_assoc] at hplace
  rw [List.getElem?_append_left hlong, List.getElem?_append_left hlong'] at hplace
  exact hdiffer hplace

end

/-- Entries found by `f`, and the others made by `g`, apart from their order. -/
theorem map_getD_perm {α β : Type} (f : α → Option β) (g : α → β) (items : List α) :
    (items.map fun item => (f item).getD (g item)).Perm
      (items.filterMap f ++ (items.filter fun item => (f item).isNone).map g) := by
  induction items with
  | nil => simp
  | cons item items ih =>
    cases hitem : f item with
    | none =>
      simp only [List.map_cons, hitem, Option.getD_none, List.filterMap_cons, Option.isNone_none,
        List.filter_cons_of_pos]
      exact (ih.cons _).trans List.perm_middle.symm
    | some b =>
      simp only [List.map_cons, hitem, Option.getD_some, List.filterMap_cons, Option.isNone_some,
        Bool.false_eq_true, not_false_eq_true, List.filter_cons_of_neg, List.cons_append]
      exact ih.cons _

/-- The members of a migration in stream order, and the same members group by group. -/
theorem regroup_perm {α : Type} {events wsjtx own rig propagation linked owned observations rig'
    propagation' : List α} (h : observations.Perm (linked ++ owned)) :
    (events ++ (wsjtx ++ own ++ rig ++ propagation) ++ observations ++ rig' ++
      propagation').Perm
    (events ++ (wsjtx ++ linked ++ (own ++ owned ++ (rig ++ rig' ++
      (propagation ++ propagation'))))) := by
  have hobservations := Multiset.coe_eq_coe.2 h
  rw [← Multiset.coe_eq_coe]
  simp only [← Multiset.coe_add] at hobservations ⊢
  rw [hobservations]
  abel

section

variable (E : Env) (jsonText : JsonValue → String) (v1 : BundleContents)

/-- A member by the stream and the legacy identity its mutation is named after. -/
abbrev KeyedShare := Share (String × String)

def mutationName (key : String × String) : String := migrationMutationId E key.1 key.2

def wsjtxKey (record : WsjtXRecord) : String × String := ("wsjtx", record.recordId)

def unlinked : List String := (unlinkedObservations E v1).map (·.observationId)

def eventKeys : List (String × String) :=
  ((migrateEvents E v1).map (·.eventId)).map fun id => ("events", id)

/-- The claim an observation's link goes back to. -/
def observationClaim? (record : ObservationRecord) : Option (WsjtXRecord × ℕ) :=
  claim? v1.observations legacyWsjtxMatches (·.observationId) v1.wsjtx record.observationId

def linkOf (entry : WsjtXRecord × ℕ) : EvidenceLink :=
  ⟨boundedMigrationId E "legacy-wsjtx" entry.1.recordId,
    migrationMutationId E "wsjtx" entry.1.recordId, entry.2 + 1, wsjtxMemberCount v1 entry.1⟩

def wsjtxShares : List KeyedShare :=
  v1.wsjtx.map (headShare v1.observations legacyWsjtxMatches wsjtxKey) ++
  v1.observations.filterMap fun observation =>
    (observationClaim? v1 observation).map
      (claimShare v1.observations legacyWsjtxMatches wsjtxKey)

/-- The groups of a migration, stream by stream. -/
def keyedShares : List KeyedShare :=
  rounds 1 (eventKeys E v1) ++ (wsjtxShares v1 ++
  (rounds 2 ((unlinked E v1).map fun id => ("observations", id)) ++
  (rounds 2 (v1.rig.map fun record => ("rig", record.recordId)) ++
  rounds 2 (v1.propagation.map fun record => ("propagation", record.recordId)))))

variable {E jsonText v1}

theorem lookup_map_snd {α β : Type} (f : α → β) (entries : List (String × α)) (id : String) :
    (entries.map fun entry => (entry.1, f entry.2)).lookup id = (entries.lookup id).map f := by
  induction entries with
  | nil => rfl
  | cons entry entries ih =>
    rw [List.map_cons, List.lookup_cons, List.lookup_cons, ih]
    cases id == entry.1 <;> rfl

theorem wsjtxLinks_eq (record : WsjtXRecord) : wsjtxLinks E v1 record =
    (claimEntries v1.observations legacyWsjtxMatches (·.observationId) record).map
      fun entry => (entry.1, linkOf E v1 entry.2) := by
  rw [wsjtxLinks, claimEntries, List.map_map]
  rfl

theorem wsjtxObservationLink?_eq (record : ObservationRecord) :
    wsjtxObservationLink? E v1 record.observationId =
      (observationClaim? v1 record).map (linkOf E v1) := by
  have hlinks : v1.wsjtx.flatMap (wsjtxLinks E v1) =
      (v1.wsjtx.flatMap (claimEntries v1.observations legacyWsjtxMatches (·.observationId))).map
        fun entry => (entry.1, linkOf E v1 entry.2) := by
    rw [List.map_flatMap]
    exact congrArg (fun links => v1.wsjtx.flatMap links) (funext wsjtxLinks_eq)
  rw [wsjtxObservationLink?, observationClaim?, claim?, hlinks, ← List.map_reverse,
    lookup_map_snd]

theorem migrateBundle_parts {lines : List String} {v2 : BundleV2Contents}
    (h : migrateBundle E jsonText v1 lines = .ok v2) :
    lines.length = v1.wsjtx.length ∧ v2.events = migrateEvents E v1 ∧
    v2.adapterRecords = wsjtxAdapters E v1 lines ++
      (unlinkedObservations E v1).map (observationAdapter E jsonText v1) ++
      v1.rig.map (rigAdapter E jsonText v1) ++
      v1.propagation.map (propagationAdapter E jsonText v1) ∧
    v2.observations = v1.observations.map (migrateObservation E v1) ∧
    v2.rig = v1.rig.map (migrateRig E v1) ∧
    v2.propagation = v1.propagation.map (migratePropagation E v1) := by
  simp only [migrateBundle, bind_eq_ok, failIf_eq_ok, bne_eq_false_iff_eq, pure_eq_ok] at h
  obtain ⟨-, hlength, rfl⟩ := h
  exact ⟨hlength, rfl, rfl, rfl, rfl, rfl⟩

/-- What a reader takes of each WSJT-X adapter record, when it depends on the legacy
record only. -/
theorem wsjtxAdapters_map {β : Type} {f : AdapterRecordV2 → β} {g : WsjtXRecord → β}
    (hfg : ∀ record line index, f (wsjtxAdapter E v1 record line index) = g record)
    {lines : List String} (hlines : lines.length = v1.wsjtx.length) :
    (wsjtxAdapters E v1 lines).map f = v1.wsjtx.map g := by
  have hzip : (v1.wsjtx.zip lines).map Prod.fst = v1.wsjtx :=
    List.map_fst_zip (le_of_eq hlines.symm)
  have hcomp : f ∘ (fun x : (WsjtXRecord × String) × ℕ =>
      wsjtxAdapter E v1 x.1.1 x.1.2 x.2) = (g ∘ Prod.fst) ∘ Prod.fst :=
    funext fun x => hfg x.1.1 x.1.2 x.2
  rw [wsjtxAdapters, List.map_map]
  exact (congrArg (fun k => List.map k _) hcomp).trans (by
    rw [← List.map_map, List.zipIdx_map_fst, ← List.map_map, hzip])

theorem event_mutation {event : OperatorEventV2} (h : event ∈ migrateEvents E v1) :
    event.recordMeta.mutation = ⟨mutationName E ("events", event.eventId), 0, 1⟩ := by
  rw [migrateEvents, List.mem_append] at h
  rcases h with h | h
  · obtain ⟨legacy, -, rfl⟩ := List.mem_map.1 h
    rfl
  · split_ifs at h
    · rw [List.mem_singleton.1 h]
      rfl
    · simp at h

theorem events_shares :
    (migrateEvents E v1).map (fun event => event.recordMeta.mutation.share) =
      (rounds 1 (eventKeys E v1)).map (Share.rename (mutationName E)) := by
  rw [rounds_one, eventKeys, List.map_map, List.map_map, List.map_map]
  apply List.map_congr_left
  intro event hevent
  rw [event_mutation hevent]
  rfl

/-- The members of the observations: those linked to a WSJT-X record, and the others
beside their own evidence. -/
theorem observations_shares (E : Env) (v1 : BundleContents) :
    ((v1.observations.map (migrateObservation E v1)).map
      fun record => record.recordMeta.mutation.share).Perm
    (((v1.observations.filterMap fun observation => (observationClaim? v1 observation).map
        (claimShare v1.observations legacyWsjtxMatches wsjtxKey)).map
        (Share.rename (mutationName E))) ++
      (unlinked E v1).map fun id => ⟨mutationName E ("observations", id), 1, 2⟩) := by
  have hmap : (v1.observations.map (migrateObservation E v1)).map
      (fun record => record.recordMeta.mutation.share) =
      v1.observations.map fun observation => ((observationClaim? v1 observation).map fun entry =>
        (claimShare v1.observations legacyWsjtxMatches wsjtxKey entry).rename
          (mutationName E)).getD ⟨mutationName E ("observations", observation.observationId), 1, 2⟩
      := by
    rw [List.map_map]
    apply List.map_congr_left
    intro observation _
    simp only [Function.comp_apply, migrateObservation, observationLink, wsjtxObservationLink?_eq,
      migrateMetaWithMutation]
    cases observationClaim? v1 observation <;> rfl
  have hunlinked : (unlinked E v1).map (fun id =>
      (⟨mutationName E ("observations", id), 1, 2⟩ : Share String)) =
      (v1.observations.filter fun observation => ((observationClaim? v1 observation).map
        fun entry => (claimShare v1.observations legacyWsjtxMatches wsjtxKey entry).rename
          (mutationName E)).isNone).map fun observation =>
        ⟨mutationName E ("observations", observation.observationId), 1, 2⟩ := by
    rw [unlinked, unlinkedObservations, List.map_map]
    simp only [wsjtxObservationLink?_eq, Option.isNone_map]
    rfl
  have hlinked : ((v1.observations.filterMap fun observation =>
      (observationClaim? v1 observation).map
        (claimShare v1.observations legacyWsjtxMatches wsjtxKey)).map
        (Share.rename (mutationName E))) =
      v1.observations.filterMap fun observation => (observationClaim? v1 observation).map
        fun entry => (claimShare v1.observations legacyWsjtxMatches wsjtxKey entry).rename
          (mutationName E) := by
    rw [List.map_filterMap]
    simp only [Option.map_map]
    rfl
  rw [hmap, hunlinked, hlinked]
  exact map_getD_perm _ _ _

/-- The members of a migrated bundle are those of its groups. -/
theorem shares_perm {lines : List String} {v2 : BundleV2Contents}
    (h : migrateBundle E jsonText v1 lines = .ok v2) :
    (v2.mutationMembers.map (·.share)).Perm
      ((keyedShares E v1).map (Share.rename (mutationName E))) := by
  obtain ⟨hlines, hevents, hadapters, hobservations, hrig, hpropagation⟩ :=
    migrateBundle_parts h
  have hwsjtx : (wsjtxAdapters E v1 lines).map (fun record => record.recordMeta.mutation.share) =
      (v1.wsjtx.map (headShare v1.observations legacyWsjtxMatches wsjtxKey)).map
        (Share.rename (mutationName E)) := by
    rw [List.map_map]
    exact wsjtxAdapters_map (fun _ _ _ => rfl) hlines
  have hunlinked : ((unlinkedObservations E v1).map (observationAdapter E jsonText v1)).map
      (fun record => record.recordMeta.mutation.share) =
      (unlinked E v1).map fun id => ⟨mutationName E ("observations", id), 0, 2⟩ := by
    rw [unlinked, List.map_map, List.map_map]
    rfl
  rw [BundleV2Contents.mutationMembers, hevents, hadapters, hobservations, hrig, hpropagation,
    keyedShares,
    wsjtxShares, rounds_two, rounds_two, rounds_two]
  have hlinked := observations_shares E v1
  simp only [List.map_append, List.map_map, Function.comp_def] at hwsjtx hunlinked hlinked ⊢
  rw [hwsjtx, hunlinked, events_shares]
  exact regroup_perm hlinked

theorem wsjtxShares_key (hids : ∀ kind, (v1.ids kind).Nodup) {share : KeyedShare}
    (h : share ∈ wsjtxShares v1) : ∃ record ∈ v1.wsjtx, share.key = wsjtxKey record := by
  rcases List.mem_append.1 h with hhead | hlinked
  · obtain ⟨record, hrecord, rfl⟩ := List.mem_map.1 hhead
    exact ⟨record, hrecord, rfl⟩
  · obtain ⟨observation, hobservation, hentry⟩ := List.mem_filterMap.1 hlinked
    obtain ⟨entry, hclaim, rfl⟩ := Option.map_eq_some_iff.1 hentry
    exact ⟨entry.1, (claim?_spec (hids .observation) hobservation hclaim).1, rfl⟩

theorem event_id_mem {id : String} (h : id ∈ (migrateEvents E v1).map (·.eventId)) :
    id ∈ v1.events.map (·.eventId) ++ [interruptionId E v1] := by
  rw [migrateEvents, List.map_append, List.mem_append] at h
  rw [List.mem_append]
  rcases h with h | h
  · left
    rwa [List.map_map] at h
  · right
    split_ifs at h
    · exact h
    · simp at h

/-- The mutation of every member is named after a stream and a text the migration digests. -/
theorem keyedShares_key (hids : ∀ kind, (v1.ids kind).Nodup) {share : KeyedShare}
    (h : share ∈ keyedShares E v1) :
    share.key.1 ∈ migrationStreams ∧ mutationText share.key.1 share.key.2 ∈ mutationTexts E v1 := by
  simp only [keyedShares, List.mem_append] at h
  simp only [mutationTexts, List.mem_append]
  rcases h with h | h | h | h | h
  · obtain ⟨-, hkey, -⟩ := mem_rounds.1 h
    obtain ⟨id, hid, hkey⟩ := List.mem_map.1 hkey
    rw [← hkey]
    exact ⟨by simp [migrationStreams],
      .inl (.inl (.inl (.inl (List.mem_map_of_mem (event_id_mem hid)))))⟩
  · obtain ⟨record, hrecord, hkey⟩ := wsjtxShares_key hids h
    rw [hkey]
    exact ⟨by simp [migrationStreams, wsjtxKey],
      .inl (.inl (.inl (.inr (List.mem_map_of_mem hrecord))))⟩
  · obtain ⟨-, hkey, -⟩ := mem_rounds.1 h
    obtain ⟨id, hid, hkey⟩ := List.mem_map.1 hkey
    obtain ⟨observation, hobservation, rfl⟩ := List.mem_map.1 hid
    rw [← hkey]
    exact ⟨by simp [migrationStreams],
      .inl (.inl (.inr (List.mem_map_of_mem (List.mem_filter.1 hobservation).1)))⟩
  · obtain ⟨-, hkey, -⟩ := mem_rounds.1 h
    obtain ⟨record, hrecord, hkey⟩ := List.mem_map.1 hkey
    rw [← hkey]
    exact ⟨by simp [migrationStreams], .inl (.inr (List.mem_map_of_mem hrecord))⟩
  · obtain ⟨-, hkey, -⟩ := mem_rounds.1 h
    obtain ⟨record, hrecord, hkey⟩ := List.mem_map.1 hkey
    rw [← hkey]
    exact ⟨by simp [migrationStreams], .inr (List.mem_map_of_mem hrecord)⟩

theorem mutationName_inj (hdigests : DigestsApart E v1) {key key' : String × String}
    (hstream : key.1 ∈ migrationStreams) (htext : mutationText key.1 key.2 ∈ mutationTexts E v1)
    (hstream' : key'.1 ∈ migrationStreams)
    (htext' : mutationText key'.1 key'.2 ∈ mutationTexts E v1)
    (h : mutationName E key = mutationName E key') : key = key' := by
  have hdigest : textDigest E (mutationText key.1 key.2) =
      textDigest E (mutationText key'.1 key'.2) := (String.append_right_inj _).1 h
  obtain ⟨hfirst, hsecond⟩ :=
    mutationText_inj hstream hstream' (hdigests _ htext _ htext' hdigest)
  exact Prod.ext hfirst hsecond

/-- The groups are named after these streams. -/
def OnStreams (streams : List String) (shares : List KeyedShare) : Prop :=
  ∀ share ∈ shares, share.key.1 ∈ streams

theorem OnStreams.append {streams streams' : List String} {xs ys : List KeyedShare}
    (hxs : OnStreams streams xs) (hys : OnStreams streams' ys) :
    OnStreams (streams ++ streams') (xs ++ ys) := by
  intro share hshare
  rcases List.mem_append.1 hshare with hx | hy
  · exact List.mem_append_left _ (hxs share hx)
  · exact List.mem_append_right _ (hys share hy)

theorem OnStreams.rounds (size : ℕ) (stream : String) (ids : List String) :
    OnStreams [stream] (rounds size (ids.map fun id => (stream, id))) := by
  intro share hshare
  obtain ⟨-, hkey, -⟩ := mem_rounds.1 hshare
  obtain ⟨id, -, hkey⟩ := List.mem_map.1 hkey
  simp [← hkey]

theorem OnStreams.complete_append_iff {streams streams' : List String} {xs ys : List KeyedShare}
    (hxs : OnStreams streams xs) (hys : OnStreams streams' ys)
    (hapart : ∀ stream ∈ streams, stream ∉ streams') :
    Complete (xs ++ ys) ↔ Complete xs ∧ Complete ys := by
  apply Timeline.complete_append_iff
  intro x hx y hy hkey
  exact hapart _ (hxs x hx) (hkey ▸ hys y hy)

theorem stream_rounds_complete_iff {size : ℕ} (hsize : 0 < size) {stream : String}
    {ids : List String} :
    Complete (rounds size (ids.map fun id => (stream, id))) ↔ ids.Nodup := by
  rw [complete_rounds_iff hsize]
  exact List.nodup_map_iff fun a b h => congrArg Prod.snd h

theorem events_complete_iff (hids : ∀ kind, (v1.ids kind).Nodup) :
    Complete (rounds 1 (eventKeys E v1)) ↔
      (startedWithoutEnd v1 → interruptionId E v1 ∉ v1.events.map (·.eventId)) := by
  have hevents : (v1.events.map (·.eventId)).Nodup := hids .operatorEvent
  have hmigrated : ((v1.events.map (migrateEvent E v1)).map (·.eventId)) =
      v1.events.map (·.eventId) := List.map_map
  rw [eventKeys, stream_rounds_complete_iff Nat.one_pos, migrateEvents, List.map_append, hmigrated]
  by_cases hstarted : startedWithoutEnd v1
  · rw [if_pos hstarted, List.map_singleton, List.nodup_append]
    simp only [hstarted, true_imp_iff]
    constructor
    · rintro ⟨-, -, hapart⟩ hmem
      exact hapart _ hmem _ (List.mem_singleton.2 rfl) rfl
    · intro hfresh
      refine ⟨hevents, List.nodup_singleton _, fun a ha b hb hab => hfresh ?_⟩
      rw [hab, List.mem_singleton.1 hb] at ha
      exact ha
  · rw [if_neg hstarted]
    simp [hstarted, hevents]

theorem wsjtx_complete_iff (hids : ∀ kind, (v1.ids kind).Nodup) :
    Complete (wsjtxShares v1) ↔ ClaimedOnce v1.observations legacyWsjtxMatches v1.wsjtx := by
  have hkeys : (v1.wsjtx.map wsjtxKey).Nodup := by
    have hrecords := (hids .wsjtXRecord).map (f := fun id : String => ("wsjtx", id))
      fun a b h => congrArg Prod.snd h
    rwa [BundleContents.ids, List.map_map] at hrecords
  exact complete_claims_iff hkeys (hids .observation)

theorem keyed_complete_iff (hids : ∀ kind, (v1.ids kind).Nodup) :
    Complete (keyedShares E v1) ↔
      (startedWithoutEnd v1 → interruptionId E v1 ∉ v1.events.map (·.eventId)) ∧
        ClaimedOnce v1.observations legacyWsjtxMatches v1.wsjtx := by
  have hunlinked : (unlinked E v1).Nodup :=
    (hids .observation).sublist (List.filter_sublist.map _)
  have hrig : (v1.rig.map (·.recordId)).Nodup := hids .rigRecord
  have hpropagation : (v1.propagation.map (·.recordId)).Nodup := hids .propagationRecord
  have hrigKeys : (v1.rig.map fun record => ("rig", record.recordId)) =
      (v1.rig.map (·.recordId)).map fun id => ("rig", id) := by simp
  have hpropagationKeys : (v1.propagation.map fun record => ("propagation", record.recordId)) =
      (v1.propagation.map (·.recordId)).map fun id => ("propagation", id) := by simp
  have onWsjtx : OnStreams ["wsjtx"] (wsjtxShares v1) := by
    intro share hshare
    obtain ⟨record, -, hkey⟩ := wsjtxShares_key hids hshare
    simp [hkey, wsjtxKey]
  have onPropagation := OnStreams.rounds 2 "propagation" (v1.propagation.map (·.recordId))
  have onRig := (OnStreams.rounds 2 "rig" (v1.rig.map (·.recordId))).append onPropagation
  have onUnlinked := (OnStreams.rounds 2 "observations" (unlinked E v1)).append onRig
  have onEvents : OnStreams ["events"] (rounds 1 (eventKeys E v1)) := OnStreams.rounds 1 _ _
  rw [keyedShares, hrigKeys, hpropagationKeys,
    onEvents.complete_append_iff (onWsjtx.append onUnlinked) (by decide),
    onWsjtx.complete_append_iff onUnlinked (by decide),
    (OnStreams.rounds _ _ _).complete_append_iff onRig (by decide),
    (OnStreams.rounds _ _ _).complete_append_iff onPropagation (by decide),
    events_complete_iff hids, wsjtx_complete_iff hids,
    stream_rounds_complete_iff Nat.two_pos, stream_rounds_complete_iff Nat.two_pos,
    stream_rounds_complete_iff Nat.two_pos]
  simp [hunlinked, hrig, hpropagation]

/-- Completeness of the mutations of a migrated bundle. -/
theorem mutationsComplete_iff (hids : ∀ kind, (v1.ids kind).Nodup)
    (hdigests : DigestsApart E v1) {lines : List String} {v2 : BundleV2Contents}
    (h : migrateBundle E jsonText v1 lines = .ok v2) :
    v2.MutationsComplete ↔
      (startedWithoutEnd v1 → interruptionId E v1 ∉ v1.events.map (·.eventId)) ∧
        ClaimedOnce v1.observations legacyWsjtxMatches v1.wsjtx := by
  rw [BundleV2Contents.MutationsComplete, Complete.perm_iff (shares_perm h), complete_rename_iff,
    keyed_complete_iff hids]
  intro a ha b hb hname
  obtain ⟨hstream, htext⟩ := keyedShares_key hids ha
  obtain ⟨hstream', htext'⟩ := keyedShares_key hids hb
  exact mutationName_inj hdigests hstream htext hstream' htext' hname

theorem linkedBack_append {xs ys : List (String × List NormalizedRecordLink)}
    {kind : NormalizedRecordKind} {records : List (String × List String)} :
    LinkedBack (xs ++ ys) kind records ↔
      LinkedBack xs kind records ∧ LinkedBack ys kind records := by
  simp [LinkedBack, or_imp, forall_and]

/-- Adapter records of another kind neither link to a record nor are listed by it. -/
theorem linkedBack_foreign {adapters : List (String × List NormalizedRecordLink)}
    {kind : NormalizedRecordKind} {records : List (String × List String)}
    (hkind : ∀ adapter ∈ adapters, ∀ link ∈ adapter.2, link.recordKind ≠ kind)
    (hids : ∀ adapter ∈ adapters, ∀ record ∈ records, adapter.1 ∉ record.2) :
    LinkedBack adapters kind records := by
  intro adapter hadapter record hrecord
  constructor
  · intro hlink
    exact absurd rfl (hkind adapter hadapter _ hlink)
  · intro hlisted
    exact absurd hlisted (hids adapter hadapter record hrecord)

/-- The evidence records of raw values, one for each identity. -/
def rawLinks (E : Env) (kind : String) (recordKind : NormalizedRecordKind) (ids : List String) :
    List (String × List NormalizedRecordLink) :=
  ids.map fun id => (boundedMigrationId E kind id, [⟨recordKind, id⟩])

def rawRecords (E : Env) (kind : String) (ids : List String) : List (String × List String) :=
  ids.map fun id => (id, [boundedMigrationId E kind id])

theorem linkedBack_raw_iff {kind : String} {recordKind : NormalizedRecordKind}
    {ids : List String} :
    LinkedBack (rawLinks E kind recordKind ids) recordKind (rawRecords E kind ids) ↔
      IdsApart E kind ids := by
  constructor
  · intro h a ha b hb hsame
    have hlink := h _ (List.mem_map_of_mem ha) _ (List.mem_map_of_mem hb)
    simp only [List.mem_singleton, NormalizedRecordLink.mk.injEq, true_and] at hlink
    exact (hlink.2 hsame).symm
  · intro h adapter hadapter record hrecord
    obtain ⟨a, ha, rfl⟩ := List.mem_map.1 hadapter
    obtain ⟨b, hb, rfl⟩ := List.mem_map.1 hrecord
    simp only [List.mem_singleton, NormalizedRecordLink.mk.injEq, true_and]
    constructor
    · intro hsame
      rw [hsame]
    · intro hsame
      exact (h a ha b hb hsame).symm

variable (E v1) in
def wsjtxEvidence : List (String × List NormalizedRecordLink) :=
  v1.wsjtx.map fun record => (boundedMigrationId E "legacy-wsjtx" record.recordId,
    (v1.matchingObservations record).map fun observation =>
      ⟨.observation, observation.observationId⟩)

variable (E v1) in
def observationRecords : List (String × List String) :=
  v1.observations.map fun record =>
    (record.observationId, [(observationLink E v1 record).evidenceId])

theorem adapterLinks_eq {lines : List String} {v2 : BundleV2Contents}
    (h : migrateBundle E jsonText v1 lines = .ok v2) :
    v2.adapterLinks = wsjtxEvidence E v1 ++
      rawLinks E "legacy-observation" .observation (unlinked E v1) ++
      rawLinks E "legacy-rig" .rig (v1.rig.map (·.recordId)) ++
      rawLinks E "legacy-propagation" .propagation (v1.propagation.map (·.recordId)) := by
  obtain ⟨hlines, -, hadapters, -⟩ := migrateBundle_parts h
  have hwsjtx : (wsjtxAdapters E v1 lines).map
      (fun adapter => (adapter.recordId, adapter.normalizedRecords)) = wsjtxEvidence E v1 :=
    wsjtxAdapters_map (fun _ _ _ => rfl) hlines
  rw [BundleV2Contents.adapterLinks, hadapters]
  simp only [List.map_append, hwsjtx, rawLinks, unlinked, List.map_map]
  rfl

theorem not_link_observation {kind : NormalizedRecordKind} (hkind : kind ≠ .observation) :
    ∀ adapter ∈ wsjtxEvidence E v1, ∀ link ∈ adapter.2, link.recordKind ≠ kind := by
  intro adapter hadapter link hlink
  obtain ⟨record, -, rfl⟩ := List.mem_map.1 hadapter
  obtain ⟨observation, -, rfl⟩ := List.mem_map.1 hlink
  exact hkind.symm

theorem not_link_raw {prefixed : String} {recordKind kind : NormalizedRecordKind}
    {ids : List String} (hkind : recordKind ≠ kind) :
    ∀ adapter ∈ rawLinks E prefixed recordKind ids, ∀ link ∈ adapter.2,
      link.recordKind ≠ kind := by
  intro adapter hadapter link hlink
  obtain ⟨id, -, rfl⟩ := List.mem_map.1 hadapter
  rw [List.mem_singleton.1 hlink]
  exact hkind

theorem raw_foreign {kind kind' : String} (hkind : kind ∈ evidenceKinds)
    (hkind' : kind' ∈ evidenceKinds) (hne : kind ≠ kind')
    {recordKind recordKind' : NormalizedRecordKind} (hrecordKind : recordKind ≠ recordKind')
    {ids ids' : List String} :
    LinkedBack (rawLinks E kind recordKind ids) recordKind' (rawRecords E kind' ids') := by
  apply linkedBack_foreign (not_link_raw hrecordKind)
  intro adapter hadapter record hrecord
  obtain ⟨id, -, rfl⟩ := List.mem_map.1 hadapter
  obtain ⟨id', -, rfl⟩ := List.mem_map.1 hrecord
  rw [List.mem_singleton]
  exact boundedMigrationId_ne hkind hkind' hne id id'

theorem wsjtx_foreign {kind : String} (hkind : kind ∈ evidenceKinds)
    (hne : "legacy-wsjtx" ≠ kind) {recordKind : NormalizedRecordKind}
    (hrecordKind : recordKind ≠ .observation) {ids : List String} :
    LinkedBack (wsjtxEvidence E v1) recordKind (rawRecords E kind ids) := by
  refine linkedBack_foreign (not_link_observation hrecordKind)
    fun adapter hadapter record hrecord => ?_
  obtain ⟨legacy, -, rfl⟩ := List.mem_map.1 hadapter
  obtain ⟨id, -, rfl⟩ := List.mem_map.1 hrecord
  rw [List.mem_singleton]
  exact boundedMigrationId_ne (by decide) hkind hne _ id

/-- The evidence an observation lists: the record that claims it, or its own. -/
theorem observation_evidence (hids : ∀ kind, (v1.ids kind).Nodup)
    {observation : ObservationRecord} (hobservation : observation ∈ v1.observations) :
    (∃ record ∈ v1.wsjtx, legacyWsjtxMatches record observation ∧
      (observationLink E v1 observation).evidenceId =
        boundedMigrationId E "legacy-wsjtx" record.recordId) ∨
    (Unmatched v1 observation ∧ (observationLink E v1 observation).evidenceId =
      boundedMigrationId E "legacy-observation" observation.observationId) := by
  rw [observationLink, wsjtxObservationLink?_eq]
  cases hclaim : observationClaim? v1 observation with
  | some entry =>
    left
    obtain ⟨hrecord, hindex⟩ := claim?_spec (hids .observation) hobservation hclaim
    exact ⟨entry.1, hrecord, (claims_of_getElem? hindex).2, rfl⟩
  | none =>
    right
    refine ⟨fun record hrecord hmatches => ?_, rfl⟩
    have hsome : (observationClaim? v1 observation).isSome :=
      claim?_isSome hrecord hobservation hmatches
    rw [hclaim] at hsome
    exact absurd hsome (by simp)

theorem mem_unlinked_iff (hids : ∀ kind, (v1.ids kind).Nodup) {id : String} :
    id ∈ unlinked E v1 ↔ ∃ observation ∈ v1.observations, Unmatched v1 observation ∧
      observation.observationId = id := by
  simp only [unlinked, unlinkedObservations, List.mem_map, List.mem_filter, and_assoc]
  refine exists_congr fun observation => and_congr_right fun hobservation =>
    and_congr_left fun _ => ?_
  have hsome : (observationClaim? v1 observation).isSome ↔
      ∃ record ∈ v1.wsjtx, legacyWsjtxMatches record observation :=
    claim?_isSome_iff (hids .observation) hobservation
  rw [wsjtxObservationLink?_eq, Option.isNone_map, Unmatched, ← Option.not_isSome,
    Bool.not_eq_true', ← Bool.not_eq_true, hsome]
  simp

theorem observation_foreign (hids : ∀ kind, (v1.ids kind).Nodup) {kind : String}
    (hkind : kind ∈ evidenceKinds) (hwsjtx : kind ≠ "legacy-wsjtx")
    (hown : kind ≠ "legacy-observation") {recordKind : NormalizedRecordKind}
    (hrecordKind : recordKind ≠ .observation) {ids : List String} :
    LinkedBack (rawLinks E kind recordKind ids) .observation (observationRecords E v1) := by
  apply linkedBack_foreign (not_link_raw hrecordKind)
  intro adapter hadapter record hrecord
  obtain ⟨id, -, rfl⟩ := List.mem_map.1 hadapter
  obtain ⟨observation, hobservation, rfl⟩ := List.mem_map.1 hrecord
  rw [List.mem_singleton]
  rcases observation_evidence hids hobservation with ⟨legacy, -, -, hevidence⟩ | ⟨-, hevidence⟩
  · rw [hevidence]
    exact boundedMigrationId_ne hkind (by decide) hwsjtx id _
  · rw [hevidence]
    exact boundedMigrationId_ne hkind (by decide) hown id _

theorem wsjtx_linkedBack_iff (hids : ∀ kind, (v1.ids kind).Nodup)
    (honce : ClaimedOnce v1.observations legacyWsjtxMatches v1.wsjtx) :
    LinkedBack (wsjtxEvidence E v1) .observation (observationRecords E v1) ↔
      ∀ a ∈ v1.wsjtx, ∀ b ∈ v1.wsjtx, ∀ observation ∈ v1.observations,
        legacyWsjtxMatches b observation → boundedMigrationId E "legacy-wsjtx" a.recordId =
          boundedMigrationId E "legacy-wsjtx" b.recordId → a = b := by
  have hlink : ∀ record, ∀ observation ∈ v1.observations,
      ((⟨.observation, observation.observationId⟩ : NormalizedRecordLink) ∈
        (v1.matchingObservations record).map (fun observation =>
          ⟨.observation, observation.observationId⟩) ↔
        legacyWsjtxMatches record observation) := by
    intro record observation hobservation
    simp only [BundleContents.matchingObservations, List.mem_map, List.mem_filter,
      NormalizedRecordLink.mk.injEq, true_and]
    constructor
    · rintro ⟨other, ⟨hother, hmatches⟩, hsame⟩
      rwa [List.inj_on_of_nodup_map (hids .observation) hobservation hother hsame.symm]
    · intro hmatches
      exact ⟨observation, ⟨hobservation, hmatches⟩, rfl⟩
  constructor
  · intro h a ha b hb observation hobservation hmatches hsame
    have hback := h _ (List.mem_map_of_mem ha) _ (List.mem_map_of_mem hobservation)
    simp only [hlink a observation hobservation, List.mem_singleton] at hback
    rcases observation_evidence hids hobservation with
      ⟨record, hrecord, hclaims, hevidence⟩ | ⟨hunmatched, -⟩
    · rw [honce observation hobservation record hrecord b hb hclaims hmatches] at hevidence
      exact honce observation hobservation a ha b hb
        (hback.2 (hsame.trans hevidence.symm)) hmatches
    · exact absurd hmatches (hunmatched b hb)
  · intro h adapter hadapter listed hlisted
    obtain ⟨a, ha, rfl⟩ := List.mem_map.1 hadapter
    obtain ⟨observation, hobservation, rfl⟩ := List.mem_map.1 hlisted
    simp only [hlink a observation hobservation, List.mem_singleton]
    rcases observation_evidence hids hobservation with
      ⟨record, hrecord, hclaims, hevidence⟩ | ⟨hunmatched, hevidence⟩
    · rw [hevidence]
      constructor
      · intro hmatches
        rw [honce observation hobservation a ha record hrecord hmatches hclaims]
      · intro hsame
        rwa [h a ha record hrecord observation hobservation hclaims hsame]
    · rw [hevidence]
      apply iff_of_false (hunmatched a ha)
      exact boundedMigrationId_ne (by decide) (by decide) (by decide) _ _

theorem own_linkedBack_iff (hids : ∀ kind, (v1.ids kind).Nodup) :
    LinkedBack (rawLinks E "legacy-observation" .observation (unlinked E v1)) .observation
      (observationRecords E v1) ↔
      ∀ a ∈ v1.observations, ∀ b ∈ v1.observations, Unmatched v1 a → Unmatched v1 b →
        boundedMigrationId E "legacy-observation" a.observationId =
          boundedMigrationId E "legacy-observation" b.observationId →
        a.observationId = b.observationId := by
  constructor
  · intro h a ha b hb hunmatcheda hunmatchedb hsame
    have hmem : a.observationId ∈ unlinked E v1 :=
      (mem_unlinked_iff hids).2 ⟨a, ha, hunmatcheda, rfl⟩
    have hback := h _ (List.mem_map_of_mem hmem) _ (List.mem_map_of_mem hb)
    simp only [List.mem_singleton, NormalizedRecordLink.mk.injEq, true_and] at hback
    rcases observation_evidence hids hb with ⟨record, hrecord, hclaims, -⟩ | ⟨-, hevidence⟩
    · exact absurd hclaims (hunmatchedb record hrecord)
    · exact (hback.2 (hsame.trans hevidence.symm)).symm
  · intro h adapter hadapter listed hlisted
    obtain ⟨id, hid, rfl⟩ := List.mem_map.1 hadapter
    obtain ⟨a, ha, hunmatcheda, rfl⟩ := (mem_unlinked_iff hids).1 hid
    obtain ⟨b, hb, rfl⟩ := List.mem_map.1 hlisted
    simp only [List.mem_singleton, NormalizedRecordLink.mk.injEq, true_and]
    rcases observation_evidence hids hb with
      ⟨record, hrecord, hclaims, hevidence⟩ | ⟨hunmatchedb, hevidence⟩
    · rw [hevidence]
      refine iff_of_false (fun hsame => ?_)
        (boundedMigrationId_ne (by decide) (by decide) (by decide) _ _)
      rw [List.inj_on_of_nodup_map (hids .observation) hb ha hsame] at hclaims
      exact hunmatcheda record hrecord hclaims
    · rw [hevidence]
      constructor
      · intro hsame
        rw [hsame]
      · intro hsame
        exact (h a ha b hb hunmatcheda hunmatchedb hsame).symm

/-- Reciprocity of the links, where no observation matches two WSJT-X records. -/
theorem reciprocal_iff (hids : ∀ kind, (v1.ids kind).Nodup)
    (honce : ClaimedOnce v1.observations legacyWsjtxMatches v1.wsjtx) {lines : List String}
    {v2 : BundleV2Contents} (h : migrateBundle E jsonText v1 lines = .ok v2) :
    v2.Reciprocal ↔ EvidenceApart E v1 := by
  obtain ⟨-, -, -, hobservations, hrig, hpropagation⟩ := migrateBundle_parts h
  have hobservationRecords : (v2.observations.map fun record =>
      (record.observationId, record.adapterRecordIds)) = observationRecords E v1 := by
    rw [hobservations, List.map_map]
    rfl
  have hrigRecords : (v2.rig.map fun record => (record.recordId, record.adapterRecordIds)) =
      rawRecords E "legacy-rig" (v1.rig.map (·.recordId)) := by
    rw [hrig, rawRecords, List.map_map, List.map_map]
    rfl
  have hpropagationRecords :
      (v2.propagation.map fun record => (record.recordId, record.adapterRecordIds)) =
      rawRecords E "legacy-propagation" (v1.propagation.map (·.recordId)) := by
    rw [hpropagation, rawRecords, List.map_map, List.map_map]
    rfl
  have hparts : v2.Reciprocal ↔
      LinkedBack v2.adapterLinks .observation (observationRecords E v1) ∧
      LinkedBack v2.adapterLinks .rig (rawRecords E "legacy-rig" (v1.rig.map (·.recordId))) ∧
      LinkedBack v2.adapterLinks .propagation
        (rawRecords E "legacy-propagation" (v1.propagation.map (·.recordId))) := by
    rw [← hobservationRecords, ← hrigRecords, ← hpropagationRecords]
    exact ⟨fun hback => ⟨hback.1, hback.2, hback.3⟩, fun hback => ⟨hback.1, hback.2.1, hback.2.2⟩⟩
  rw [hparts, adapterLinks_eq h]
  simp only [linkedBack_append, linkedBack_raw_iff, wsjtx_linkedBack_iff hids honce,
    own_linkedBack_iff hids]
  constructor
  · rintro ⟨⟨⟨⟨hwsjtx, hown⟩, -⟩, -⟩, ⟨⟨-, hrigs⟩, -⟩, -, hpropagations⟩
    exact ⟨hwsjtx, hown, hrigs, hpropagations⟩
  · rintro ⟨hwsjtx, hown, hrigs, hpropagations⟩
    refine ⟨⟨⟨⟨hwsjtx, hown⟩, ?_⟩, ?_⟩, ⟨⟨⟨?_, ?_⟩, hrigs⟩, ?_⟩, ⟨⟨?_, ?_⟩, ?_⟩, hpropagations⟩
    · exact observation_foreign hids (by decide) (by decide) (by decide) (by decide)
    · exact observation_foreign hids (by decide) (by decide) (by decide) (by decide)
    · exact wsjtx_foreign (by decide) (by decide) (by decide)
    · exact raw_foreign (by decide) (by decide) (by decide) (by decide)
    · exact raw_foreign (by decide) (by decide) (by decide) (by decide)
    · exact wsjtx_foreign (by decide) (by decide) (by decide)
    · exact raw_foreign (by decide) (by decide) (by decide) (by decide)
    · exact raw_foreign (by decide) (by decide) (by decide) (by decide)

end

/-- The evidence of an upgraded bundle is complete and reciprocal exactly under
`EvidenceSound`. -/
theorem migrateBundle_sound_iff {F : TextFormat} {E : Env} {jsonText : JsonValue → String}
    {v1 : BundleContents} {wsjtxLines : List String} {v2 : BundleV2Contents}
    (heligible : (validateBundleReport F v1).allows .upgrade) (hdigests : DigestsApart E v1)
    (h : migrateBundle E jsonText v1 wsjtxLines = .ok v2) :
    v2.MutationsComplete ∧ v2.Reciprocal ↔ EvidenceSound E v1 := by
  have hids := ids_nodup heligible
  rw [mutationsComplete_iff hids hdigests h]
  constructor
  · rintro ⟨⟨hinterruption, honce⟩, hreciprocal⟩
    exact ⟨hinterruption, honce, (reciprocal_iff hids honce h).1 hreciprocal⟩
  · rintro ⟨hinterruption, honce, hapart⟩
    exact ⟨⟨hinterruption, honce⟩, (reciprocal_iff hids honce h).2 hapart⟩

end LegacyUpgrade

namespace Scenario

open LegacyUpgrade

/-- The SHA-256 values of the texts a small migration digests. -/
def migrationEnv : Env :=
  { env unknown with sha256Hex := digestOf [
    (stringBytes "events\x00legacy-upgrade-interruption-s1",
      "6d25cb99c34744f88795859d15886bed69f92536735e834ef1d5f79364654267"),
    (stringBytes "wsjtx\x00w1",
      "ed9bffba29599791092d45d4cb597a52462988eea338811e6c50032c9827affa"),
    (stringBytes "wsjtx\x00w2",
      "1bd0a27f44a04d4604fa5961ce3e5de871f256d85180a2c95c320e7b9a5c16d6"),
    (stringBytes "observations\x00o1",
      "fe51b9c59dc7fc28a7fc16ff434ced278474dfb10e9f9fe98c72471bbf0e19ec"),
    (stringBytes "observations\x00o2",
      "34e84896fc2e5b838db8cef38da1005464d79cf5df4604808b4feaa070c6ebd5")] }

def decodeAt (recordId : String) (second : ℕ) : WsjtXRecord :=
  ⟨⟨1, "s1", atSecond second, .wsjtxUdp⟩, recordId, "decode", .null⟩

def decodedObservation (observationId : String) (second : ℕ) : ObservationRecord :=
  { abObservation observationId none with
    recordMeta := ⟨1, "s1", atSecond second, .wsjtxUdp⟩
    observationKind := .localDecode }

/-- One decode behind the first of two observations. -/
def decodedBundle : BundleContents :=
  { abBundle [decodedObservation "o1" 60, decodedObservation "o2" 61] with
    wsjtx := [decodeAt "w1" 60] }

/-- Two decodes of one cycle beside one observation. -/
def doubledBundle : BundleContents :=
  { abBundle [decodedObservation "o1" 60] with
    wsjtx := [decodeAt "w1" 60, decodeAt "w2" 60] }

def rawText (_ : JsonValue) : String := "null"

theorem doubledBundle_incomplete :
    (validateBundleReport textFormat doubledBundle).allows .upgrade ∧
    ¬ ∀ v2, migrateBundle migrationEnv rawText doubledBundle ["w1", "w2"] = .ok v2 →
      v2.MutationsComplete ∧ v2.Reciprocal := by
  refine ⟨by decide +kernel, fun h => ?_⟩
  exact absurd (h _ rfl).1 (by decide)

theorem decodedBundle_evidenceSound : EvidenceSound migrationEnv decodedBundle where
  interruption := by
    intro hstarted
    exact absurd hstarted (by decide)
  matchedOnce := by
    intro observation _ a ha b hb _ _
    rw [List.mem_singleton.1 ha, List.mem_singleton.1 hb]
  apart := {
    wsjtx := by
      intro a ha b hb _ _ _ _
      rw [List.mem_singleton.1 ha, List.mem_singleton.1 hb]
    observations := by
      have hmatched : ¬ Unmatched decodedBundle (decodedObservation "o1" 60) := fun h =>
        h _ (List.mem_singleton.2 rfl) (by decide)
      intro a ha b hb hunmatcheda hunmatchedb _
      simp only [decodedBundle, abBundle, List.mem_cons, List.not_mem_nil, or_false] at ha hb
      rcases ha with rfl | rfl
      · exact absurd hunmatcheda hmatched
      · rcases hb with rfl | rfl
        · exact absurd hunmatchedb hmatched
        · rfl
    rig := by simp [IdsApart, decodedBundle, abBundle]
    propagation := by simp [IdsApart, decodedBundle, abBundle] }

theorem decodedBundle_sound :
    (validateBundleReport textFormat decodedBundle).allows .upgrade ∧
    DigestsApart migrationEnv decodedBundle ∧
    ∃ v2, migrateBundle migrationEnv rawText decodedBundle ["w1"] = .ok v2 ∧
      v2.MutationsComplete ∧ v2.Reciprocal := by
  have heligible : (validateBundleReport textFormat decodedBundle).allows .upgrade := by
    decide +kernel
  have hdigests : DigestsApart migrationEnv decodedBundle := by
    unfold DigestsApart
    decide
  have hmigrated : ∃ v2, migrateBundle migrationEnv rawText decodedBundle ["w1"] = .ok v2 :=
    ⟨_, rfl⟩
  obtain ⟨v2, hv2⟩ := hmigrated
  exact ⟨heligible, hdigests, v2, hv2,
    (migrateBundle_sound_iff heligible hdigests hv2).2 decodedBundle_evidenceSound⟩

end Scenario

end AntennaBench
