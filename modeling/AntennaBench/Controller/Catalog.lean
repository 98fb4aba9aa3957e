import AntennaBench.Core.Text
import AntennaBench.Controller.CommandTemplate
import AntennaBench.Controller.Policy

/-!
# The controller catalog

The reusable controller profiles of the local application data and the sessions that are
associated with them, with the checks of `validate_catalog`.
-/

namespace AntennaBench

def catalogVersion : ℕ := 2
def profileNameMaxBytes : ℕ := 256
def profileIdentityMaxBytes : ℕ := 256
def targetMaxBytes : ℕ := commandArgumentMaxBytes
def profileTimeoutMinSeconds : ℕ := 1
def profileTimeoutMaxSeconds : ℕ := 60

/-- A `ControllerProfile` with all that the catalog stores of it. -/
structure CatalogProfile where
  profileId : String
  revision : String
  name : String
  switchCommand : ControllerCommandTemplate
  verificationCommand : Option ControllerCommandTemplate
  timeoutSeconds : ℕ
  deriving DecidableEq

structure PersistedAssociation where
  source : String
  sessionId : String
  profileId : String
  profileRevision : String
  targets : List (String × String)
  deriving DecidableEq

structure ControllerCatalogMigrationNotice where
  consolidatedProfiles : ℕ
  renamedProfiles : ℕ
  deriving DecidableEq

structure ControllerCatalog where
  version : ℕ := catalogVersion
  profiles : List CatalogProfile := []
  associations : List PersistedAssociation := []
  migrationNotice : Option ControllerCatalogMigrationNotice := none
  deriving DecidableEq

def validateCommandTemplate (template : ControllerCommandTemplate) : Except String Unit := do
  failIf (template.programTemplate.isEmpty ||
      commandTemplateMaxBytes < template.programTemplate.utf8ByteSize)
    "a command program template is empty or exceeds its fixed limit"
  failIf (commandArgumentCountMax < template.argumentTemplates.length)
    "a command has too many argument templates"
  failIf (template.argumentTemplates.any (commandArgumentMaxBytes < ·.utf8ByteSize))
    "a command argument template exceeds its fixed limit"

variable (tables : CaseTables)

def normalizedProfileName (name : String) : String :=
  tables.toLowercase (trim name)

def invalidIdentity (profile : CatalogProfile) : Bool :=
  profile.profileId.isEmpty || profileIdentityMaxBytes < profile.profileId.utf8ByteSize ||
    profile.revision.isEmpty || profileIdentityMaxBytes < profile.revision.utf8ByteSize

def invalidName (profile : CatalogProfile) : Bool :=
  (trim profile.name).isEmpty || profileNameMaxBytes < profile.name.utf8ByteSize

/-- The checks of one profile, after which its identity and its name are known. -/
def validateProfile (requireUniqueNames : Bool) (ids names : List String)
    (profile : CatalogProfile) : Except String (List String × List String) := do
  failIf (invalidIdentity profile)
    "a profile identity or revision is empty or exceeds its fixed limit"
  failIf (ids.contains profile.profileId) "controller profile identities must be unique"
  failIf (invalidName profile)
    "a controller profile name is empty or exceeds its fixed limit"
  failIf (requireUniqueNames && names.contains (normalizedProfileName tables profile.name))
    "controller profile names must be unique ignoring case and surrounding whitespace"
  failIf (!(profileTimeoutMinSeconds ≤ profile.timeoutSeconds &&
      profile.timeoutSeconds ≤ profileTimeoutMaxSeconds))
    "a controller timeout is outside one through sixty seconds"
  validateCommandTemplate profile.switchCommand
  profile.verificationCommand.forM validateCommandTemplate
  return (profile.profileId :: ids, normalizedProfileName tables profile.name :: names)

def validateProfiles (requireUniqueNames : Bool) :
    List String → List String → List CatalogProfile → Except String (List String)
  | ids, _, [] => .ok ids
  | ids, names, profile :: profiles => do
    let (ids, names) ← validateProfile tables requireUniqueNames ids names profile
    validateProfiles requireUniqueNames ids names profiles

def invalidTarget (entry : String × String) : Bool :=
  (trim entry.1).isEmpty || targetMaxBytes < entry.1.utf8ByteSize ||
    (trim entry.2).isEmpty || targetMaxBytes < entry.2.utf8ByteSize

def PersistedAssociation.key (association : PersistedAssociation) : String × String :=
  (association.source, association.sessionId)

def validateAssociations (ids : List String) :
    List (String × String) → List PersistedAssociation → Except String Unit
  | _, [] => .ok ()
  | keys, association :: associations => do
    failIf (association.source.isEmpty || association.sessionId.isEmpty ||
        association.profileId.isEmpty || association.profileRevision.isEmpty)
      "a saved controller association has an empty identity"
    failIf (!ids.contains association.profileId)
      "a saved controller association references an unknown profile"
    failIf (keys.contains association.key)
      "saved controller associations must be unique per session path"
    failIf (association.targets.isEmpty || association.targets.any invalidTarget)
      "a saved controller association has an invalid target mapping"
    validateAssociations ids (association.key :: keys) associations

def validateCatalogContents (catalog : ControllerCatalog) (requireUniqueNames : Bool) :
    Except String Unit := do
  let ids ← validateProfiles tables requireUniqueNames [] [] catalog.profiles
  validateAssociations ids [] catalog.associations

def validateCatalog (catalog : ControllerCatalog) : Except String Unit := do
  failIf (catalog.version != catalogVersion)
    ("controller catalog version " ++ toString catalog.version ++ " is not writable")
  validateCatalogContents tables catalog true

/-- The profile of an association is the first that has its identity. -/
def ControllerCatalog.profileOf (catalog : ControllerCatalog)
    (association : PersistedAssociation) : Option CatalogProfile :=
  catalog.profiles.find? (·.profileId == association.profileId)

/-- `stale_profile` of a persisted association. -/
def ControllerCatalog.stale (catalog : ControllerCatalog)
    (association : PersistedAssociation) : Bool :=
  (catalog.profileOf association).all (·.revision != association.profileRevision)

structure ProfileValid (profile : CatalogProfile) : Prop where
  identity : invalidIdentity profile = false
  name : invalidName profile = false
  timeout : profileTimeoutMinSeconds ≤ profile.timeoutSeconds ∧
    profile.timeoutSeconds ≤ profileTimeoutMaxSeconds
  switchCommand : validateCommandTemplate profile.switchCommand = .ok ()
  verificationCommand : profile.verificationCommand.forM validateCommandTemplate = .ok ()

structure AssociationValid (ids : List String) (association : PersistedAssociation) : Prop where
  identity : association.source ≠ "" ∧ association.sessionId ≠ "" ∧
    association.profileId ≠ "" ∧ association.profileRevision ≠ ""
  profile : association.profileId ∈ ids
  targets : association.targets ≠ [] ∧ ∀ entry ∈ association.targets, invalidTarget entry = false

variable {tables : CaseTables} {requireUniqueNames : Bool}

theorem validateProfile_eq_ok {ids names : List String} {profile : CatalogProfile}
    {next : List String × List String} :
    validateProfile tables requireUniqueNames ids names profile = .ok next ↔
      ProfileValid profile ∧ profile.profileId ∉ ids ∧
        (requireUniqueNames = true → normalizedProfileName tables profile.name ∉ names) ∧
        next = (profile.profileId :: ids, normalizedProfileName tables profile.name :: names) := by
  simp only [validateProfile, bind_eq_ok, failIf_eq_ok, pure_eq_ok, Bool.and_eq_false_iff,
    Bool.not_eq_false', Bool.and_eq_true, decide_eq_true_eq]
  constructor
  · rintro ⟨_, hidentity, _, hid, _, hname, _, hunique, _, htimeout, _, hswitch, _, hverify, rfl⟩
    refine ⟨⟨hidentity, hname, htimeout, hswitch, hverify⟩, by simpa using hid, ?_, rfl⟩
    rintro rfl
    simpa using hunique
  · rintro ⟨hvalid, hid, hunique, rfl⟩
    refine ⟨(), hvalid.identity, (), by simpa using hid, (), hvalid.name, (), ?_, (),
      hvalid.timeout, (), hvalid.switchCommand, (), hvalid.verificationCommand, rfl⟩
    cases requireUniqueNames with
    | false => exact Or.inl rfl
    | true => exact Or.inr (by simpa using hunique rfl)

structure ProfilesValid (tables : CaseTables) (requireUniqueNames : Bool)
    (profiles : List CatalogProfile) : Prop where
  valid : ∀ profile ∈ profiles, ProfileValid profile
  ids : (profiles.map (·.profileId)).Nodup
  names : requireUniqueNames = true →
    (profiles.map fun profile => normalizedProfileName tables profile.name).Nodup

theorem validateProfiles_eq_ok {profiles : List CatalogProfile} {ids names known : List String} :
    validateProfiles tables requireUniqueNames ids names profiles = .ok known ↔
      ProfilesValid tables requireUniqueNames profiles ∧
      (∀ profile ∈ profiles, profile.profileId ∉ ids) ∧
      (requireUniqueNames = true → ∀ profile ∈ profiles,
        normalizedProfileName tables profile.name ∉ names) ∧
      known = (profiles.map (·.profileId)).reverse ++ ids := by
  induction profiles generalizing ids names with
  | nil =>
    simp only [validateProfiles, Except.ok.injEq]
    constructor
    · rintro rfl
      exact ⟨⟨by simp, by simp, by simp⟩, by simp, by simp, by simp⟩
    · rintro ⟨-, -, -, rfl⟩
      simp
  | cons profile profiles ih =>
    simp only [validateProfiles, bind_eq_ok, validateProfile_eq_ok]
    constructor
    · rintro ⟨_, ⟨hvalid, hid, hname, rfl⟩, hrest⟩
      obtain ⟨hprofiles, hids, hnames, rfl⟩ := ih.1 hrest
      refine ⟨⟨List.forall_mem_cons.2 ⟨hvalid, hprofiles.valid⟩, ?_, fun hunique => ?_⟩, ?_, ?_, ?_⟩
      · refine List.nodup_cons.2 ⟨fun hmem => ?_, hprofiles.ids⟩
        obtain ⟨other, hother, heq⟩ := List.mem_map.1 hmem
        exact hids other hother (List.mem_cons.2 (Or.inl heq))
      · refine List.nodup_cons.2 ⟨fun hmem => ?_, hprofiles.names hunique⟩
        obtain ⟨other, hother, heq⟩ := List.mem_map.1 hmem
        exact hnames hunique other hother (List.mem_cons.2 (Or.inl heq))
      · exact List.forall_mem_cons.2
          ⟨hid, fun other hother hmem => hids other hother (List.mem_cons_of_mem _ hmem)⟩
      · exact fun hunique => List.forall_mem_cons.2
          ⟨hname hunique, fun other hother hmem =>
            hnames hunique other hother (List.mem_cons_of_mem _ hmem)⟩
      · simp
    · rintro ⟨hprofiles, hids, hnames, rfl⟩
      obtain ⟨hvalid, hrest⟩ := List.forall_mem_cons.1 hprofiles.valid
      obtain ⟨hid, hids⟩ := List.forall_mem_cons.1 hids
      obtain ⟨hfirst, hnodup⟩ := List.nodup_cons.1 hprofiles.ids
      refine ⟨_, ⟨hvalid, hid, fun hunique => (List.forall_mem_cons.1 (hnames hunique)).1, rfl⟩,
        ih.2 ⟨⟨hrest, hnodup, fun hunique => (List.nodup_cons.1 (hprofiles.names hunique)).2⟩,
          fun other hother hmem => ?_, fun hunique other hother hmem => ?_, by simp⟩⟩
      · rcases List.mem_cons.1 hmem with heq | hmem
        · exact hfirst (List.mem_map.2 ⟨other, hother, heq⟩)
        · exact hids other hother hmem
      · rcases List.mem_cons.1 hmem with heq | hmem
        · have hnew := (List.nodup_cons.1 (hprofiles.names hunique)).1
          exact hnew (List.mem_map.2 ⟨other, hother, heq⟩)
        · exact (List.forall_mem_cons.1 (hnames hunique)).2 other hother hmem

theorem validateAssociations_eq_ok {associations : List PersistedAssociation} {ids : List String}
    {keys : List (String × String)} {u : Unit} :
    validateAssociations ids keys associations = .ok u ↔
      (∀ association ∈ associations, AssociationValid ids association) ∧
      (associations.map PersistedAssociation.key).Nodup ∧
      ∀ association ∈ associations, association.key ∉ keys := by
  induction associations generalizing keys with
  | nil => simp [validateAssociations]
  | cons association associations ih =>
    simp only [validateAssociations, bind_eq_ok, failIf_eq_ok, ih]
    constructor
    · rintro ⟨_, hidentity, _, hprofile, _, hkey, _, htargets, hvalid, hnodup, hkeys⟩
      refine ⟨List.forall_mem_cons.2 ⟨⟨?_, ?_, ?_⟩, hvalid⟩, ?_, ?_⟩
      · simpa [and_assoc] using hidentity
      · simpa using hprofile
      · simpa using htargets
      · refine List.nodup_cons.2 ⟨fun hmem => ?_, hnodup⟩
        obtain ⟨other, hother, heq⟩ := List.mem_map.1 hmem
        exact hkeys other hother (List.mem_cons.2 (Or.inl heq))
      · exact List.forall_mem_cons.2 ⟨by simpa using hkey,
          fun other hother hmem => hkeys other hother (List.mem_cons_of_mem _ hmem)⟩
    · rintro ⟨hvalid, hnodup, hkeys⟩
      obtain ⟨hfirst, hvalid⟩ := List.forall_mem_cons.1 hvalid
      obtain ⟨hkey, hkeys⟩ := List.forall_mem_cons.1 hkeys
      obtain ⟨hnew, hnodup⟩ := List.nodup_cons.1 hnodup
      refine ⟨(), ?_, (), ?_, (), by simpa using hkey, (), ?_, hvalid, hnodup,
        fun other hother hmem => ?_⟩
      · simpa [and_assoc] using hfirst.identity
      · simpa using hfirst.profile
      · simpa using hfirst.targets
      · rcases List.mem_cons.1 hmem with heq | hmem
        · exact hnew (List.mem_map.2 ⟨other, hother, heq⟩)
        · exact hkeys other hother hmem

structure CatalogValid (tables : CaseTables) (requireUniqueNames : Bool)
    (catalog : ControllerCatalog) : Prop where
  profiles : ProfilesValid tables requireUniqueNames catalog.profiles
  associations : ∀ association ∈ catalog.associations,
    AssociationValid (catalog.profiles.map (·.profileId)) association
  keys : (catalog.associations.map PersistedAssociation.key).Nodup

theorem validateCatalogContents_eq_ok {catalog : ControllerCatalog} {u : Unit} :
    validateCatalogContents tables catalog requireUniqueNames = .ok u ↔
      CatalogValid tables requireUniqueNames catalog := by
  have hids : ∀ association, AssociationValid ((catalog.profiles.map (·.profileId)).reverse ++ [])
      association ↔ AssociationValid (catalog.profiles.map (·.profileId)) association := by
    intro association
    rw [List.append_nil]
    exact ⟨fun h => ⟨h.identity, List.mem_reverse.1 h.profile, h.targets⟩,
      fun h => ⟨h.identity, List.mem_reverse.2 h.profile, h.targets⟩⟩
  simp only [validateCatalogContents, bind_eq_ok, validateProfiles_eq_ok,
    validateAssociations_eq_ok]
  constructor
  · rintro ⟨_, ⟨hprofiles, -, -, rfl⟩, hassociations, hkeys, -⟩
    exact ⟨hprofiles, fun association hmem => (hids association).1 (hassociations association hmem),
      hkeys⟩
  · intro h
    exact ⟨_, ⟨h.profiles, by simp, by simp, rfl⟩,
      fun association hmem => (hids association).2 (h.associations association hmem), h.keys,
      by simp⟩

theorem validateCatalog_eq_ok {catalog : ControllerCatalog} {u : Unit} :
    validateCatalog tables catalog = .ok u ↔
      catalog.version = catalogVersion ∧ CatalogValid tables true catalog := by
  simp [validateCatalog, bind_eq_ok, validateCatalogContents_eq_ok]

end AntennaBench
