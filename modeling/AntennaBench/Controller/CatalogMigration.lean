import AntennaBench.Controller.MigratedNames
import AntennaBench.Timeline.OrderedMap
import Mathlib.Data.Prod.Lex
import Mathlib.Data.String.Basic

/-!
# Migration of version 1 catalogs

Profiles of one name and one configuration are consolidated, those of one name and different
configurations are renamed, and every association follows its profile. The associations of a
catalog keep their authority exactly where none of them had gone stale.
-/

namespace AntennaBench

open Timeline

def reusableConfigurationMatches (left right : CatalogProfile) : Bool :=
  left.switchCommand == right.switchCommand &&
    left.verificationCommand == right.verificationCommand &&
    left.timeoutSeconds == right.timeoutSeconds

/-- A migration configuration group, which is nonempty. -/
structure ConfigurationGroup where
  first : CatalogProfile
  others : List CatalogProfile

namespace ConfigurationGroup

def members (group : ConfigurationGroup) : List CatalogProfile :=
  group.first :: group.others

def push (group : ConfigurationGroup) (profile : CatalogProfile) : ConfigurationGroup :=
  { group with others := group.others ++ [profile] }

def sorted (group : ConfigurationGroup) : List CatalogProfile :=
  sortOn (·.profileId) group.members

theorem sorted_ne_nil (group : ConfigurationGroup) : group.sorted ≠ [] := by
  intro h
  have hmem : group.first ∈ group.sorted := mem_sortOn.2 List.mem_cons_self
  rw [h] at hmem
  exact absurd hmem List.not_mem_nil

def retained (group : ConfigurationGroup) : CatalogProfile :=
  group.sorted.head group.sorted_ne_nil

end ConfigurationGroup

/-- The profile joins the first group with its configuration, or begins one. -/
def addConfiguration (profile : CatalogProfile) :
    List ConfigurationGroup → List ConfigurationGroup
  | [] => [⟨profile, []⟩]
  | group :: groups =>
    if reusableConfigurationMatches group.first profile then group.push profile :: groups
    else group :: addConfiguration profile groups

def configurations (sameName : List CatalogProfile) : List ConfigurationGroup :=
  sameName.foldl (fun groups profile => addConfiguration profile groups) []

variable (tables : CaseTables)

/-- What the migration loop has built. -/
structure Migration where
  profiles : List CatalogProfile := []
  identityMap : List (String × String × String) := []
  usedNames : List String := []
  consolidatedProfiles : ℕ := 0
  renamedProfiles : ℕ := 0

namespace Migration

def retainedProfile (reservedNames usedNames : List String) (group : ConfigurationGroup)
    (configurationIndex : ℕ) : CatalogProfile :=
  let name := trim group.retained.name
  { group.retained with
    name := if 0 < configurationIndex then
      migratedProfileName tables name (configurationIndex + 1) reservedNames usedNames else name }

def retain (reservedNames : List String) (state : Migration)
    (configuration : ConfigurationGroup × ℕ) : Migration :=
  let (group, configurationIndex) := configuration
  let retained := retainedProfile tables reservedNames state.usedNames group configurationIndex
  { profiles := state.profiles ++ [retained]
    identityMap := group.sorted.foldl (fun map profile =>
      (profile.profileId, retained.profileId, retained.revision) :: map) state.identityMap
    usedNames := normalizedProfileName tables retained.name :: state.usedNames
    consolidatedProfiles := state.consolidatedProfiles + (group.sorted.length - 1)
    renamedProfiles := state.renamedProfiles + if 0 < configurationIndex then 1 else 0 }

def retainSameName (reservedNames : List String) (state : Migration)
    (sameName : List CatalogProfile) : Migration :=
  (configurations (sortOn (·.profileId) sameName)).zipIdx.foldl (retain tables reservedNames) state

end Migration

def migrateProfiles (profiles : List CatalogProfile) : Migration :=
  let normalized := fun profile : CatalogProfile => normalizedProfileName tables profile.name
  let grouped := groups (profiles.map fun profile => (normalized profile, profile))
  grouped.foldl (fun state entry =>
    state.retainSameName tables (profiles.map normalized) entry.2) {}

/-- `migrate_v1_catalog` panics, or refuses the catalog. -/
inductive MigrationFailure where
  | panicked (message : String)
  | refused (error : SessionErrorPayload)
  deriving DecidableEq

def migrateAssociation (identityMap : List (String × String × String))
    (association : PersistedAssociation) : Except MigrationFailure PersistedAssociation := do
  let (profileId, profileRevision) ← orError (identityMap.lookup association.profileId)
    (.panicked "legacy catalog validation checked association identities")
  return { association with profileId, profileRevision }

def migratedCatalog (state : Migration) (associations : List PersistedAssociation) :
    ControllerCatalog :=
  let order (profile : CatalogProfile) : String ×ₗ String ×ₗ String :=
    toLex (normalizedProfileName tables profile.name, toLex (profile.name, profile.profileId))
  { version := catalogVersion
    profiles := sortOn order state.profiles
    associations
    migrationNotice :=
      if 0 < state.consolidatedProfiles ∨ 0 < state.renamedProfiles then
        some ⟨state.consolidatedProfiles, state.renamedProfiles⟩
      else none }

def migrateV1Catalog (catalog : ControllerCatalog) : Except MigrationFailure ControllerCatalog := do
  let state := migrateProfiles tables catalog.profiles
  let associations ← catalog.associations.mapM (migrateAssociation state.identityMap)
  let migrated := migratedCatalog tables state associations
  match validateCatalog tables migrated with
  | .ok _ => return migrated
  | .error detail =>
    throw (.refused
      { kind := .validation
        message := "Local antenna-controller profiles could not be migrated safely."
        detail })

structure SameConfiguration (left right : CatalogProfile) : Prop where
  switchCommand : left.switchCommand = right.switchCommand
  verificationCommand : left.verificationCommand = right.verificationCommand
  timeoutSeconds : left.timeoutSeconds = right.timeoutSeconds

theorem reusableConfigurationMatches_iff {left right : CatalogProfile} :
    reusableConfigurationMatches left right = true ↔ SameConfiguration left right := by
  simp only [reusableConfigurationMatches, Bool.and_eq_true, beq_iff_eq]
  exact ⟨fun h => ⟨h.1.1, h.1.2, h.2⟩,
    fun h => ⟨⟨h.switchCommand, h.verificationCommand⟩, h.timeoutSeconds⟩⟩

def ConfigurationGroup.Uniform (group : ConfigurationGroup) : Prop :=
  ∀ profile ∈ group.members, SameConfiguration group.first profile

theorem addConfiguration_perm (profile : CatalogProfile) (groups : List ConfigurationGroup) :
    ((addConfiguration profile groups).flatMap ConfigurationGroup.members).Perm
      (groups.flatMap ConfigurationGroup.members ++ [profile]) := by
  induction groups with
  | nil => exact List.Perm.refl _
  | cons group groups ih =>
    unfold addConfiguration
    split_ifs
    · have hpush : (group.push profile).members = group.members ++ [profile] := rfl
      rw [List.flatMap_cons, List.flatMap_cons, hpush, List.append_assoc, List.append_assoc]
      exact List.perm_append_comm.append_left _
    · rw [List.flatMap_cons, List.flatMap_cons, List.append_assoc]
      exact ih.append_left _

theorem addConfiguration_uniform {profile : CatalogProfile} {groups : List ConfigurationGroup}
    (h : ∀ group ∈ groups, group.Uniform) :
    ∀ group ∈ addConfiguration profile groups, group.Uniform := by
  induction groups with
  | nil =>
    intro group hmem
    obtain rfl := List.mem_singleton.1 hmem
    intro other hother
    obtain rfl := List.mem_singleton.1 hother
    exact ⟨rfl, rfl, rfl⟩
  | cons head groups ih =>
    obtain ⟨hhead, hgroups⟩ := List.forall_mem_cons.1 h
    unfold addConfiguration
    split_ifs with hsame
    · refine List.forall_mem_cons.2 ⟨fun other hother => ?_, hgroups⟩
      have hpush : (head.push profile).members = head.members ++ [profile] := rfl
      rw [hpush] at hother
      rcases List.mem_append.1 hother with hother | hother
      · exact hhead other hother
      · obtain rfl := List.mem_singleton.1 hother
        exact reusableConfigurationMatches_iff.1 hsame
    · exact List.forall_mem_cons.2 ⟨hhead, ih hgroups⟩

theorem configurations_perm (sameName : List CatalogProfile) :
    ((configurations sameName).flatMap ConfigurationGroup.members).Perm sameName := by
  induction sameName using List.reverseRecOn with
  | nil => exact List.Perm.refl _
  | append_singleton sameName profile ih =>
    rw [configurations, List.foldl_append]
    exact (addConfiguration_perm profile _).trans (ih.append_right [profile])

theorem configurations_uniform (sameName : List CatalogProfile) :
    ∀ group ∈ configurations sameName, group.Uniform := by
  induction sameName using List.reverseRecOn with
  | nil => simp [configurations]
  | append_singleton sameName profile ih =>
    rw [configurations, List.foldl_append]
    exact addConfiguration_uniform ih

theorem length_le_flatMap {α β : Type} {items : List α} {f : α → List β}
    (h : ∀ a ∈ items, f a ≠ []) : items.length ≤ (items.flatMap f).length := by
  induction items with
  | nil => simp
  | cons a items ih =>
    obtain ⟨ha, hrest⟩ := List.forall_mem_cons.1 h
    have hlength := List.length_pos_iff.2 ha
    have hitems := ih hrest
    rw [List.flatMap_cons, List.length_append, List.length_cons]
    omega

theorem length_configurations_le (sameName : List CatalogProfile) :
    (configurations sameName).length ≤ sameName.length := by
  rw [← (configurations_perm sameName).length_eq]
  exact length_le_flatMap fun group _ => List.cons_ne_nil _ _

theorem retained_mem (group : ConfigurationGroup) : group.retained ∈ group.members :=
  mem_sortOn.1 (List.head_mem group.sorted_ne_nil)

variable {tables}

/-- A configuration group with its place among those of its name. -/
abbrev MigrationStep := ConfigurationGroup × ℕ

def MigrationStep.name (tables : CaseTables) (step : MigrationStep) : String :=
  normalizedProfileName tables step.1.first.name

def migrationPlan (tables : CaseTables) (profiles : List CatalogProfile) : List MigrationStep :=
  (groups (profiles.map fun profile =>
    (normalizedProfileName tables profile.name, profile))).flatMap fun entry =>
      (configurations (sortOn (·.profileId) entry.2)).zipIdx

theorem migrateProfiles_eq (profiles : List CatalogProfile) :
    migrateProfiles tables profiles = (migrationPlan tables profiles).foldl
      (Migration.retain tables
        (profiles.map fun profile => normalizedProfileName tables profile.name)) {} := by
  rw [migrationPlan, List.foldl_flatMap]
  rfl

structure Planned (tables : CaseTables) (reservedNames : List String)
    (steps : List MigrationStep) : Prop where
  valid : ∀ step ∈ steps, ∀ profile ∈ step.1.members, ProfileValid profile
  ids : ((steps.flatMap (·.1.members)).map (·.profileId)).Nodup
  uniform : ∀ step ∈ steps, step.1.Uniform
  named : ∀ step ∈ steps, ∀ profile ∈ step.1.members,
    normalizedProfileName tables profile.name = step.name tables
  reserved : ∀ step ∈ steps, step.name tables ∈ reservedNames
  first : steps.Pairwise fun step step' =>
    step.2 = 0 → step'.2 = 0 → step.name tables ≠ step'.name tables
  small : ∀ step ∈ steps, step.2 + 1 + reservedNames.length + steps.length < 2 ^ 64

theorem migrationPlan_perm (profiles : List CatalogProfile) :
    ((migrationPlan tables profiles).flatMap (·.1.members)).Perm profiles := by
  have hgroup : ∀ sameName : List CatalogProfile,
      ((configurations (sortOn (·.profileId) sameName)).zipIdx.flatMap (·.1.members)).Perm
        sameName := by
    intro sameName
    have hfst := List.zipIdx_map_fst 0 (configurations (sortOn (·.profileId) sameName))
    have hflat := List.flatMap_map Prod.fst ConfigurationGroup.members
      (l := (configurations (sortOn (·.profileId) sameName)).zipIdx)
    rw [hfst] at hflat
    rw [← hflat]
    exact (configurations_perm _).trans (sortOn_perm _ _)
  rw [migrationPlan, List.flatMap_assoc]
  refine (List.Perm.flatMap_left _ fun entry _ => hgroup entry.2).trans ?_
  have hperm := (groups_perm (profiles.map fun profile =>
    (normalizedProfileName tables profile.name, profile))).map Prod.snd
  simpa [List.map_flatMap, Function.comp_def] using hperm

/-- A step of the plan is a configuration of the profiles of one name. -/
theorem mem_migrationPlan {profiles : List CatalogProfile} {step : MigrationStep}
    (h : step ∈ migrationPlan tables profiles) :
    ∃ name sameName, (∀ profile ∈ sameName, profile ∈ profiles ∧
      normalizedProfileName tables profile.name = name) ∧
      sameName.length ≤ profiles.length ∧
      step ∈ (configurations (sortOn (·.profileId) sameName)).zipIdx := by
  obtain ⟨⟨name, sameName⟩, hentry, hstep⟩ := List.mem_flatMap.1 h
  obtain ⟨-, rfl⟩ := mem_groups.1 hentry
  refine ⟨name, _, fun profile hmem => ?_, ?_, hstep⟩
  · obtain ⟨other, hother, heq⟩ := List.mem_map.1 (mem_pushed.1 hmem)
    obtain ⟨rfl, rfl⟩ := Prod.mk.inj heq
    exact ⟨hother, rfl⟩
  · rw [pushed, List.length_map]
    exact (List.length_filter_le _ _).trans (List.length_map _).le

theorem mem_configuration {sameName : List CatalogProfile} {group : ConfigurationGroup}
    (h : group ∈ configurations (sortOn (·.profileId) sameName)) :
    ∀ profile ∈ group.members, profile ∈ sameName := by
  intro profile hmem
  have hflat := List.mem_flatMap.2 ⟨group, h, hmem⟩
  exact mem_sortOn.1 ((configurations_perm _).mem_iff.1 hflat)

theorem migrationStep_spec {profiles : List CatalogProfile} {step : MigrationStep}
    (h : step ∈ migrationPlan tables profiles) :
    step.1.Uniform ∧ step.2 < profiles.length ∧ ∀ profile ∈ step.1.members,
      profile ∈ profiles ∧
        normalizedProfileName tables profile.name = step.name tables := by
  obtain ⟨name, sameName, hsame, hbound, hmem⟩ := mem_migrationPlan h
  obtain ⟨hindex, hgroup⟩ := List.mem_zipIdx' hmem
  have hgroupmem : step.1 ∈ configurations (sortOn (·.profileId) sameName) :=
    hgroup ▸ List.getElem_mem hindex
  have hmembers := mem_configuration hgroupmem
  have hfirst := hsame _ (hmembers step.1.first List.mem_cons_self)
  have hcount := length_configurations_le (sortOn (·.profileId) sameName)
  rw [(sortOn_perm _ sameName).length_eq] at hcount
  refine ⟨configurations_uniform _ _ hgroupmem, by omega, fun profile hprofile => ?_⟩
  obtain ⟨hmem, hname⟩ := hsame profile (hmembers profile hprofile)
  exact ⟨hmem, hname.trans hfirst.2.symm⟩

/-- Of the steps of one name only one is the first of its name. -/
theorem migrationPlan_first (profiles : List CatalogProfile) :
    (migrationPlan tables profiles).Pairwise fun step step' =>
      step.2 = 0 → step'.2 = 0 → step.name tables ≠ step'.name tables := by
  have hname : ∀ entry ∈ groups (profiles.map fun profile =>
      (normalizedProfileName tables profile.name, profile)),
      ∀ step ∈ (configurations (sortOn (·.profileId) entry.2)).zipIdx,
        MigrationStep.name tables step = entry.1 := by
    rintro ⟨name, sameName⟩ hentry step hstep
    obtain ⟨-, rfl⟩ := mem_groups.1 hentry
    obtain ⟨hindex, hgroup⟩ := List.mem_zipIdx' hstep
    have hgroupmem : step.1 ∈ configurations (sortOn (·.profileId) _) :=
      hgroup ▸ List.getElem_mem hindex
    have hfirst := mem_configuration hgroupmem step.1.first List.mem_cons_self
    obtain ⟨other, -, heq⟩ := List.mem_map.1 (mem_pushed.1 hfirst)
    obtain ⟨rfl, hother⟩ := Prod.mk.inj heq
    rw [MigrationStep.name, hother]
  rw [migrationPlan, List.pairwise_flatMap]
  constructor
  · intro entry _
    rw [List.pairwise_iff_getElem]
    intro i j hi hj hij hfirst hsecond
    rw [List.getElem_zipIdx] at hfirst hsecond
    simp only at hfirst hsecond
    omega
  · have hkeys := List.pairwise_map.1 (groups_nodup (profiles.map fun profile =>
      (normalizedProfileName tables profile.name, profile)))
    apply hkeys.imp_of_mem
    intro entry entry' hentry hentry' hne step hstep step' hstep' _ _
    rw [hname entry hentry step hstep, hname entry' hentry' step' hstep']
    exact hne

theorem planned_migrationPlan {profiles : List CatalogProfile}
    (hlength : profiles.length < 2 ^ 62) (h : ProfilesValid tables false profiles) :
    Planned tables (profiles.map fun profile => normalizedProfileName tables profile.name)
      (migrationPlan tables profiles) := by
  have hperm : ((migrationPlan tables profiles).flatMap (·.1.members)).Perm profiles :=
    migrationPlan_perm profiles
  refine ⟨fun step hstep profile hprofile => ?_, ?_, fun step hstep => ?_,
    fun step hstep profile hprofile => ?_, fun step hstep => ?_, migrationPlan_first profiles,
    fun step hstep => ?_⟩
  · exact h.valid profile ((migrationStep_spec hstep).2.2 profile hprofile).1
  · exact (hperm.map _).nodup_iff.2 h.ids
  · exact (migrationStep_spec hstep).1
  · exact ((migrationStep_spec hstep).2.2 profile hprofile).2
  · exact List.mem_map.2 ⟨step.1.first,
      ((migrationStep_spec hstep).2.2 _ List.mem_cons_self).1, rfl⟩
  · have hsteps : (migrationPlan tables profiles).length ≤ profiles.length := by
      rw [← hperm.length_eq]
      exact length_le_flatMap fun step _ => List.cons_ne_nil _ _
    have hindex := (migrationStep_spec hstep).2.1
    rw [List.length_map]
    omega

theorem Planned.prefix {reservedNames : List String} {done : List MigrationStep}
    {step : MigrationStep} (h : Planned tables reservedNames (done ++ [step])) :
    Planned tables reservedNames done := by
  have hmem : ∀ earlier ∈ done, earlier ∈ done ++ [step] := fun _ => List.mem_append_left _
  refine ⟨fun earlier he => h.valid earlier (hmem earlier he), ?_,
    fun earlier he => h.uniform earlier (hmem earlier he),
    fun earlier he => h.named earlier (hmem earlier he),
    fun earlier he => h.reserved earlier (hmem earlier he), (List.pairwise_append.1 h.first).1,
    fun earlier he => ?_⟩
  · have hids := h.ids
    rw [List.flatMap_append, List.map_append] at hids
    exact (List.nodup_append.1 hids).1
  · have hsmall := h.small earlier (hmem earlier he)
    rw [List.length_append] at hsmall
    omega

/-- The loop's state after some of the steps. -/
structure Migrated (tables : CaseTables) (reservedNames : List String)
    (done : List MigrationStep) (state : Migration) : Prop where
  profiles : ProfilesValid tables true state.profiles
  used : state.usedNames =
    (state.profiles.map fun profile => normalizedProfileName tables profile.name).reverse
  count : state.profiles.length = done.length
  origin : ∀ profile ∈ state.profiles,
    profile.profileId ∈ (done.flatMap (·.1.members)).map (·.profileId)
  first : ∀ name ∈ state.usedNames, name ∈ reservedNames →
    ∃ step ∈ done, step.2 = 0 ∧ step.name tables = name
  mapped : ∀ profile ∈ done.flatMap (·.1.members), ∃ retained ∈ state.profiles,
    state.identityMap.lookup profile.profileId = some (retained.profileId, retained.revision) ∧
      SameConfiguration profile retained

theorem lookup_inserted (entry : String × String) (profiles : List CatalogProfile)
    (map : List (String × String × String)) (id : String) :
    (profiles.foldl (fun map profile => (profile.profileId, entry) :: map) map).lookup id =
      if id ∈ profiles.map (·.profileId) then some entry else map.lookup id := by
  induction profiles generalizing map with
  | nil => simp
  | cons profile profiles ih =>
    rw [List.foldl_cons, ih, List.lookup_cons]
    by_cases hrest : id ∈ profiles.map (·.profileId)
    · simp [hrest]
    by_cases hid : id = profile.profileId
    · subst hid
      simp [hrest]
    · rw [beq_false_of_ne hid]
      simp [hrest, hid]

section Step

variable {reservedNames : List String} {done : List MigrationStep} {state : Migration}
variable {step : MigrationStep}

theorem SameConfiguration.symm_trans {base left right : CatalogProfile}
    (h : SameConfiguration base left) (h' : SameConfiguration base right) :
    SameConfiguration left right :=
  ⟨h.switchCommand.symm.trans h'.switchCommand,
    h.verificationCommand.symm.trans h'.verificationCommand,
    h.timeoutSeconds.symm.trans h'.timeoutSeconds⟩

variable {retained : CatalogProfile}

theorem normalizedProfileName_trim (name : String) :
    normalizedProfileName tables (trim name) = normalizedProfileName tables name := by
  rw [normalizedProfileName, normalizedProfileName, trim_trim]

/-- The name of the retained profile is new, and it is the name of a group only for the
first configuration of the group. -/
theorem retainedProfile_name (hplan : Planned tables reservedNames (done ++ [step]))
    (h : Migrated tables reservedNames done state)
    (hretained : retained =
      Migration.retainedProfile tables reservedNames state.usedNames step.1 step.2) :
    normalizedProfileName tables retained.name ∉ state.usedNames ∧
    (normalizedProfileName tables retained.name ∈ reservedNames →
      step.2 = 0 ∧ step.name tables = normalizedProfileName tables retained.name) := by
  have hstep : step ∈ done ++ [step] := by simp
  subst hretained
  by_cases hfirst : step.2 = 0
  · have hname : normalizedProfileName tables (Migration.retainedProfile tables reservedNames
        state.usedNames step.1 step.2).name = step.name tables := by
      rw [Migration.retainedProfile, hfirst]
      exact (normalizedProfileName_trim _).trans (hplan.named step hstep _ (retained_mem _))
    rw [hname]
    refine ⟨fun hused => ?_, fun _ => ⟨hfirst, rfl⟩⟩
    obtain ⟨earlier, hearlier, hzero, heq⟩ := h.first _ hused (hplan.reserved step hstep)
    exact (List.pairwise_append.1 hplan.first).2.2 earlier hearlier step (by simp) hzero hfirst heq
  · have hname : (Migration.retainedProfile tables reservedNames state.usedNames step.1
        step.2).name = migratedProfileName tables (trim step.1.retained.name) (step.2 + 1)
          reservedNames state.usedNames := if_pos (Nat.pos_of_ne_zero hfirst)
    have hfree := migratedProfileName_free tables (trim step.1.retained.name) (step.2 + 1)
      reservedNames state.usedNames
    rw [hname]
    exact ⟨fun hused => hfree (List.mem_append_right _ hused),
      fun hreserved => absurd (List.mem_append_left _ hreserved) hfree⟩

theorem retainedProfile_valid (hplan : Planned tables reservedNames (done ++ [step]))
    (h : Migrated tables reservedNames done state)
    (hretained : retained =
      Migration.retainedProfile tables reservedNames state.usedNames step.1 step.2) :
    ProfileValid retained := by
  have hstep : step ∈ done ++ [step] := by simp
  have hvalid := hplan.valid step hstep _ (retained_mem step.1)
  subst hretained
  refine ⟨hvalid.identity, ?_, hvalid.timeout, hvalid.switchCommand, hvalid.verificationCommand⟩
  obtain ⟨hblank, hsize⟩ := Bool.or_eq_false_iff.1 hvalid.name
  by_cases hfirst : step.2 = 0
  · have hname : (Migration.retainedProfile tables reservedNames state.usedNames step.1
        step.2).name = trim step.1.retained.name := by
      rw [Migration.retainedProfile, hfirst]
      rfl
    have htrim := utf8ByteSize_trim step.1.retained.name
    rw [invalidName, hname, trim_trim, hblank]
    simp only [decide_eq_false_iff_not, Bool.false_or] at hsize ⊢
    omega
  · have hname : (Migration.retainedProfile tables reservedNames state.usedNames step.1
        step.2).name = migratedProfileName tables (trim step.1.retained.name) (step.2 + 1)
          reservedNames state.usedNames := if_pos (Nat.pos_of_ne_zero hfirst)
    have hused : state.usedNames.length = done.length := by
      rw [h.used, List.length_reverse, List.length_map, h.count]
    have hsmall := hplan.small step hstep
    rw [List.length_append, List.length_singleton] at hsmall
    have hroom : step.2 + 1 + reservedNames.length + state.usedNames.length < 2 ^ 64 := by omega
    obtain ⟨hblank, hsize⟩ :=
      invalidName_migratedProfileName tables (trim step.1.retained.name) hroom
    rw [invalidName, hname, hblank]
    simp only [decide_eq_false_iff_not, Bool.false_or]
    omega

theorem ProfilesValid.concat {requireUniqueNames : Bool} {profiles : List CatalogProfile}
    {profile : CatalogProfile} (h : ProfilesValid tables requireUniqueNames profiles)
    (hvalid : ProfileValid profile)
    (hid : profile.profileId ∉ profiles.map (·.profileId))
    (hname : normalizedProfileName tables profile.name ∉
      profiles.map fun profile => normalizedProfileName tables profile.name) :
    ProfilesValid tables requireUniqueNames (profiles ++ [profile]) := by
  refine ⟨?_, ?_, fun hunique => ?_⟩
  · intro other hother
    rcases List.mem_append.1 hother with hold | hnew
    · exact h.valid other hold
    · rw [List.mem_singleton.1 hnew]
      exact hvalid
  · rw [List.map_append, List.map_singleton, ← List.concat_eq_append]
    exact h.ids.concat hid
  · rw [List.map_append, List.map_singleton, ← List.concat_eq_append]
    exact (h.names hunique).concat hname

theorem mem_sorted_iff {group : ConfigurationGroup} {id : String} :
    id ∈ group.sorted.map (·.profileId) ↔ id ∈ group.members.map (·.profileId) :=
  ((sortOn_perm _ group.members).map _).mem_iff

/-- The step's profiles were not met in the steps before it. -/
theorem Planned.fresh (hplan : Planned tables reservedNames (done ++ [step])) {id : String}
    (hid : id ∈ step.1.members.map (·.profileId)) :
    id ∉ (done.flatMap (·.1.members)).map (·.profileId) := by
  have hids := hplan.ids
  rw [List.flatMap_append, List.map_append, List.flatMap_singleton] at hids
  obtain ⟨-, -, hdisjoint⟩ := List.nodup_append.1 hids
  exact fun hold => hdisjoint _ hold _ hid rfl

theorem retainedProfile_mem (hretained : retained =
    Migration.retainedProfile tables reservedNames state.usedNames step.1 step.2) :
    retained.profileId ∈ step.1.members.map (·.profileId) := by
  rw [hretained]
  exact List.mem_map.2 ⟨_, retained_mem step.1, rfl⟩

/-- Every profile of the step goes to the retained one, which has its configuration. -/
theorem retain_mapped (hplan : Planned tables reservedNames (done ++ [step]))
    (h : Migrated tables reservedNames done state)
    (hretained : retained =
      Migration.retainedProfile tables reservedNames state.usedNames step.1 step.2)
    {profile : CatalogProfile} (hprofile : profile ∈ (done ++ [step]).flatMap (·.1.members)) :
    ∃ kept ∈ state.profiles ++ [retained],
      (state.retain tables reservedNames step).identityMap.lookup profile.profileId =
        some (kept.profileId, kept.revision) ∧ SameConfiguration profile kept := by
  have hmap : (state.retain tables reservedNames step).identityMap.lookup profile.profileId =
      if profile.profileId ∈ step.1.sorted.map (·.profileId) then
        some (retained.profileId, retained.revision)
      else state.identityMap.lookup profile.profileId := by
    rw [hretained]
    exact lookup_inserted _ _ _ _
  rw [List.flatMap_append, List.flatMap_singleton] at hprofile
  rw [hmap]
  rcases List.mem_append.1 hprofile with hold | hnew
  · obtain ⟨kept, hkept, hlookup, hsame⟩ := h.mapped profile hold
    have hother : profile.profileId ∉ step.1.sorted.map (·.profileId) := fun hmem =>
      hplan.fresh (mem_sorted_iff.1 hmem) (List.mem_map_of_mem hold)
    rw [if_neg hother]
    exact ⟨kept, List.mem_append_left _ hkept, hlookup, hsame⟩
  · have huniform := hplan.uniform step (by simp)
    have hsame := (huniform profile hnew).symm_trans (huniform _ (retained_mem step.1))
    rw [if_pos (mem_sorted_iff.2 (List.mem_map_of_mem hnew))]
    refine ⟨retained, List.mem_append_right _ (List.mem_singleton_self _), rfl, ?_⟩
    rw [hretained]
    exact ⟨hsame.switchCommand, hsame.verificationCommand, hsame.timeoutSeconds⟩

theorem migrated_retain (hplan : Planned tables reservedNames (done ++ [step]))
    (h : Migrated tables reservedNames done state) :
    Migrated tables reservedNames (done ++ [step])
      (state.retain tables reservedNames step) := by
  obtain ⟨retained, hretained⟩ : ∃ retained, retained =
    Migration.retainedProfile tables reservedNames state.usedNames step.1 step.2 := ⟨_, rfl⟩
  have hprofiles : (state.retain tables reservedNames step).profiles =
      state.profiles ++ [retained] := by rw [hretained]; rfl
  have hused : (state.retain tables reservedNames step).usedNames =
      normalizedProfileName tables retained.name :: state.usedNames := by rw [hretained]; rfl
  obtain ⟨hfree, hreserved⟩ := retainedProfile_name hplan h hretained
  have hmember := retainedProfile_mem hretained
  refine ⟨?_, ?_, ?_, ?_, ?_, ?_⟩
  · rw [hprofiles]
    apply h.profiles.concat (retainedProfile_valid hplan h hretained)
    · intro hold
      obtain ⟨profile, hprofile, hid⟩ := List.mem_map.1 hold
      exact hplan.fresh hmember (hid ▸ h.origin profile hprofile)
    · rwa [h.used, List.mem_reverse] at hfree
  · rw [hused, hprofiles, List.map_append, List.reverse_append, h.used]
    rfl
  · rw [hprofiles, List.length_append, List.length_append, h.count]
    rfl
  · rw [hprofiles, List.flatMap_append, List.map_append, List.flatMap_singleton]
    intro profile hprofile
    rcases List.mem_append.1 hprofile with hold | hnew
    · exact List.mem_append_left _ (h.origin profile hold)
    · rw [List.mem_singleton.1 hnew]
      exact List.mem_append_right _ hmember
  · rw [hused]
    intro name hname hmem
    rcases List.mem_cons.1 hname with rfl | hold
    · exact ⟨step, by simp, hreserved hmem⟩
    · obtain ⟨earlier, hearlier, hfirst⟩ := h.first name hold hmem
      exact ⟨earlier, List.mem_append_left _ hearlier, hfirst⟩
  · rw [hprofiles]
    exact fun profile => retain_mapped hplan h hretained

end Step

theorem migrated_foldl {reservedNames : List String} {steps : List MigrationStep}
    (h : Planned tables reservedNames steps) :
    Migrated tables reservedNames steps
      (steps.foldl (Migration.retain tables reservedNames) {}) := by
  induction steps using List.reverseRecOn with
  | nil => exact ⟨⟨by simp, by simp, by simp⟩, rfl, rfl, by simp, by simp, by simp⟩
  | append_singleton done step ih =>
    rw [List.foldl_append]
    exact migrated_retain h (ih h.prefix)

theorem ProfilesValid.perm {requireUniqueNames : Bool} {profiles profiles' : List CatalogProfile}
    (h : ProfilesValid tables requireUniqueNames profiles) (hperm : profiles'.Perm profiles) :
    ProfilesValid tables requireUniqueNames profiles' :=
  ⟨fun profile hmem => h.valid profile (hperm.mem_iff.1 hmem), (hperm.map _).nodup_iff.2 h.ids,
    fun hunique => (hperm.map _).nodup_iff.2 (h.names hunique)⟩

theorem ProfilesValid.find?_eq {requireUniqueNames : Bool} {profiles : List CatalogProfile}
    (h : ProfilesValid tables requireUniqueNames profiles) {profile : CatalogProfile}
    (hmem : profile ∈ profiles) :
    profiles.find? (·.profileId == profile.profileId) = some profile := by
  cases hfind : profiles.find? (·.profileId == profile.profileId) with
  | none => exact absurd (List.find?_eq_none.1 hfind profile hmem) (by simp)
  | some found =>
    have hid : found.profileId = profile.profileId := by simpa using List.find?_some hfind
    rw [List.inj_on_of_nodup_map h.ids (List.mem_of_find?_eq_some hfind) hmem hid]

/-- An association of the old catalog and what became of it. -/
structure FollowsProfile (old new : ControllerCatalog)
    (association association' : PersistedAssociation) :
    Prop where
  session : association'.key = association.key
  targets : association'.targets = association.targets
  profile : ∃ profile profile', old.profileOf association = some profile ∧
    new.profileOf association' = some profile' ∧ SameConfiguration profile profile' ∧
    profile'.revision = association'.profileRevision

theorem migrateProfiles_migrated {profiles : List CatalogProfile}
    (hlength : profiles.length < 2 ^ 62) (h : ProfilesValid tables false profiles) :
    Migrated tables (profiles.map fun profile => normalizedProfileName tables profile.name)
      (migrationPlan tables profiles) (migrateProfiles tables profiles) := by
  rw [migrateProfiles_eq]
  exact migrated_foldl (planned_migrationPlan hlength h)

/-- An association moves to the profile that stands for its own. -/
theorem migrateAssociation_ok {catalog : ControllerCatalog}
    (hlength : catalog.profiles.length < 2 ^ 62) (h : CatalogValid tables false catalog)
    {association : PersistedAssociation} (hmem : association ∈ catalog.associations) :
    ∃ association', migrateAssociation (migrateProfiles tables catalog.profiles).identityMap
        association = .ok association' ∧
      association'.key = association.key ∧ association'.targets = association.targets ∧
      ∃ profile retained, catalog.profileOf association = some profile ∧
        retained ∈ (migrateProfiles tables catalog.profiles).profiles ∧
        SameConfiguration profile retained ∧ association'.profileId = retained.profileId ∧
        association'.profileRevision = retained.revision := by
  have hstate := migrateProfiles_migrated hlength h.profiles
  obtain ⟨profile, hprofile, hid⟩ := List.mem_map.1 (h.associations association hmem).profile
  obtain ⟨retained, hretained, hlookup, hsame⟩ :=
    hstate.mapped profile ((migrationPlan_perm _).mem_iff.2 hprofile)
  rw [hid] at hlookup
  refine ⟨{ association with
    profileId := retained.profileId, profileRevision := retained.revision },
    ?_, rfl, rfl, profile, retained, ?_, hretained, hsame, rfl, rfl⟩
  · rw [migrateAssociation, hlookup]
    rfl
  · rw [ControllerCatalog.profileOf, ← hid]
    exact h.profiles.find?_eq hprofile

theorem FollowsProfile.stale {old new : ControllerCatalog}
    {association association' : PersistedAssociation}
    (h : FollowsProfile old new association association') : new.stale association' = false := by
  obtain ⟨-, profile', -, hprofile', -, hrevision⟩ := h.profile
  simp [ControllerCatalog.stale, hprofile', hrevision]

theorem FollowsProfile.valid {old new : ControllerCatalog}
    {association association' : PersistedAssociation}
    (h : FollowsProfile old new association association') {ids : List String}
    (hold : AssociationValid ids association)
    (hnew : ∀ profile ∈ new.profiles, ProfileValid profile) :
    AssociationValid (new.profiles.map (·.profileId)) association' := by
  obtain ⟨-, profile', -, hprofile', -, hrevision⟩ := h.profile
  have hmem := List.mem_of_find?_eq_some hprofile'
  have hid : profile'.profileId = association'.profileId := by
    simpa using List.find?_some hprofile'
  obtain ⟨⟨⟨hidempty, -⟩, hrevempty⟩, -⟩ := by
    simpa only [invalidIdentity, Bool.or_eq_false_iff] using (hnew profile' hmem).identity
  obtain ⟨hsource, hsession⟩ := Prod.mk.inj h.session
  refine ⟨⟨?_, ?_, ?_, ?_⟩, ?_, ?_⟩
  · rw [hsource]
    exact hold.identity.1
  · rw [hsession]
    exact hold.identity.2.1
  · rw [← hid]
    exact String.isEmpty_eq_false_iff.1 hidempty
  · rw [← hrevision]
    exact String.isEmpty_eq_false_iff.1 hrevempty
  · exact List.mem_map.2 ⟨profile', hmem, hid⟩
  · rw [h.targets]
    exact hold.targets

/-- The migration of a valid version 1 catalog is accepted and keeps the commands and the
targets of every association. No association gains currency exactly if none was stale. A
`Vec` has fewer profiles than the bound. -/
theorem migrateV1Catalog_grants_iff {catalog : ControllerCatalog}
    (hlength : catalog.profiles.length < 2 ^ 62)
    (hvalid : validateCatalogContents tables catalog false = .ok ()) :
    ∃ migrated, migrateV1Catalog tables catalog = .ok migrated ∧
      validateCatalog tables migrated = .ok () ∧
      List.Forall₂ (FollowsProfile catalog migrated) catalog.associations migrated.associations ∧
      (List.Forall₂ (fun association association' =>
          migrated.stale association' = false → catalog.stale association = false)
          catalog.associations migrated.associations ↔
        ∀ association ∈ catalog.associations, catalog.stale association = false) := by
  have hcatalog := validateCatalogContents_eq_ok.1 hvalid
  have hstate := migrateProfiles_migrated hlength hcatalog.profiles
  obtain ⟨associations, hall⟩ := Timeline.exists_forall₂
    fun association (hmem : association ∈ catalog.associations) =>
      migrateAssociation_ok hlength hcatalog hmem
  obtain ⟨migrated, hmigrated⟩ : ∃ migrated, migrated =
    migratedCatalog tables (migrateProfiles tables catalog.profiles) associations := ⟨_, rfl⟩
  have hperm : migrated.profiles.Perm (migrateProfiles tables catalog.profiles).profiles := by
    rw [hmigrated]
    exact sortOn_perm _ _
  have hprofiles := hstate.profiles.perm hperm
  have hassociations : migrated.associations = associations := by rw [hmigrated]; rfl
  have hfollows : List.Forall₂ (FollowsProfile catalog migrated) catalog.associations
      migrated.associations := by
    rw [hassociations]
    apply hall.imp
    intro association association' h
    obtain ⟨-, hkey, htargets, profile, retained, hprofile, hretained, hsame, hid, hrevision⟩ := h
    refine ⟨hkey, htargets, profile, retained, hprofile, ?_, hsame, hrevision.symm⟩
    rw [ControllerCatalog.profileOf, hid]
    exact hprofiles.find?_eq (hperm.mem_iff.2 hretained)
  have hvalidated : validateCatalog tables migrated = .ok () := by
    refine validateCatalog_eq_ok.2 ⟨by rw [hmigrated]; rfl, hprofiles, ?_, ?_⟩
    · intro association' hmem
      obtain ⟨association, hold, h⟩ := Timeline.forall₂_exists_right hfollows.flip association' hmem
      exact h.valid (hcatalog.associations association hold) hprofiles.valid
    · have hkeys : migrated.associations.map PersistedAssociation.key =
          catalog.associations.map PersistedAssociation.key := by
        rw [← List.forall₂_eq_eq_eq, List.forall₂_map_left_iff, List.forall₂_map_right_iff]
        exact hfollows.flip.imp fun _ _ h => h.session
      rw [hkeys]
      exact hcatalog.keys
  refine ⟨migrated, ?_, hvalidated, hfollows, ?_⟩
  · have hmap := mapM_eq_ok.2 (hall.imp fun _ _ h => h.1)
    rw [migrateV1Catalog, hmap]
    simp only [ok_bind, ← hmigrated, hvalidated]
    rfl
  · constructor
    · intro hcurrent association hmem
      obtain ⟨association', hmem', hkept⟩ := Timeline.forall₂_exists_right hcurrent association hmem
      obtain ⟨_, -, hfollow⟩ := Timeline.forall₂_exists_right hfollows.flip association' hmem'
      exact hkept hfollow.stale
    · intro hfresh
      have hall := (List.forall₂_and_left _ _).2 ⟨hfresh, hfollows⟩
      exact hall.imp fun _ _ h _ => h.1

namespace Scenario

/-- Tables that know the ASCII letters only. -/
def asciiTables : CaseTables where
  lower c := [asciiLowerChar c]
  cased _ := false
  caseIgnorable _ := false
  ascii _ _ := rfl

def benchProfile : CatalogProfile where
  profileId := "profile-a"
  revision := "revision-2"
  name := "Bench"
  switchCommand := relayTemplate
  verificationCommand := none
  timeoutSeconds := 10

def benchAssociation (revision : String) : PersistedAssociation where
  source := "/sessions/one"
  sessionId := "s1"
  profileId := "profile-a"
  profileRevision := revision
  targets := [("A", "1")]

def benchCatalog (revision : String) : ControllerCatalog where
  version := 1
  profiles := [benchProfile]
  associations := [benchAssociation revision]

theorem benchCatalog_current : ∃ migrated,
    migrateV1Catalog asciiTables (benchCatalog "revision-2") = .ok migrated ∧
    List.Forall₂ (fun association association' => migrated.stale association' = false →
      (benchCatalog "revision-2").stale association = false)
      (benchCatalog "revision-2").associations migrated.associations := by
  have hvalid : validateCatalogContents asciiTables (benchCatalog "revision-2") false = .ok () := by
    decide
  obtain ⟨migrated, hmigrated, -, -, hgrants⟩ := migrateV1Catalog_grants_iff (by decide) hvalid
  exact ⟨migrated, hmigrated, hgrants.2 (by decide)⟩

/-- The association was pinned before the profile was changed. -/
theorem staleCatalog_revived : ∃ migrated,
    validateCatalogContents asciiTables (benchCatalog "revision-1") false = .ok () ∧
    migrateV1Catalog asciiTables (benchCatalog "revision-1") = .ok migrated ∧
    (benchCatalog "revision-1").stale (benchAssociation "revision-1") = true ∧
    ∃ association ∈ migrated.associations, association.key = (benchAssociation "revision-1").key ∧
      migrated.stale association = false := by
  obtain ⟨migrated, hmigrated, hrevived⟩ := exists_ok_of_any (show
    (migrateV1Catalog asciiTables (benchCatalog "revision-1")).toOption.any (fun migrated =>
      migrated.associations.any fun association =>
        association.key == (benchAssociation "revision-1").key && !migrated.stale association) =
      true by decide)
  obtain ⟨association, hmem, hassociation⟩ := List.any_eq_true.1 hrevived
  rw [Bool.and_eq_true, beq_iff_eq, Bool.not_eq_true'] at hassociation
  exact ⟨migrated, by decide, hmigrated, by decide, association, hmem,
    hassociation⟩

end Scenario

end AntennaBench
