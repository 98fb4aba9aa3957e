import AntennaBench.Storage.ReadV3

/-!
# Durable attachments

Content-addressed files below the attachments directory: the preflight of a new
one, its creation, and the barriers that make it durable.
-/

namespace AntennaBench

open FaultIO

section

variable (E : Env) (profile : BundleResourceProfile)

def preflightAttachmentWrite (path : Path) (bytes additionalEntries : ℕ) (disk : Disk) :
    Except BundleStoreError Unit := do
  let (entries, existingBytes) ← inventoryAttachmentTree profile .write disk
  checkLimit profile.attachmentFileBytes bytes "resource.attachments.file_bytes" .write .metadata
    path .bytes
  checkLimit profile.attachmentTotalBytes
    (existingBytes + if 0 < additionalEntries then bytes else 0)
    "resource.attachments.total_bytes" .write .metadata none .bytes
  checkLimit profile.attachmentEntries (entries + additionalEntries)
    "resource.attachments.entries" .write .inventory none .entries

/-- The checks of `write_attachment` before it creates anything. -/
def prepareAttachmentWrite (path : Path) (bytes : ℕ) (disk : Disk) :
    Except BundleStoreError Unit := do
  let (manifest, _) ← readJsonBounded E profile E.manifest (.root "manifest.json") .empty disk
  let _ ← v2Paths manifest.files
  preflightAttachmentWrite profile path bytes
    ((!disk.exists? path).toNat + (!disk.digestDir).toNat) disk

def createDigestDir : FileEffect :=
  FileEffect.atomic .create fun disk => { disk with digestDir := true }

/-- The new attachment file; a failed write removes it again, and a failure of
that removal is ignored. -/
def createAttachment (path : Path) (bytes : Bytes) : FileProg Unit := do
  Prog.perform (FileEffect.create path) (.store (.write path))
  match ← (writeAll "" path bytes).attempt with
  | .ok () => pure ()
  | .error _ =>
    let _ ← (Prog.perform (FileEffect.remove path) (.store (.write path)) :
      FileProg Unit).attempt
    Prog.throw (.store (.write path))

/-- An attachment with this digest exists: its bytes must be the same. -/
def compareAttachment (path : Path) (bytes : Bytes) : FileProg Unit := do
  let existing ← Prog.readWith .read (.store (.read path)) fun disk =>
    liftStore (readBounded path profile.attachmentFileBytes "resource.attachments.file_bytes"
      .write disk)
  if existing = bytes then pure () else Prog.throw (.store (.attachmentMismatch path))

def writeAttachment (bytes : Bytes) (mediaType : String) (sourceLocator : Option String) :
    FileProg AttachmentReference := do
  let digest := E.sha256Hex bytes
  let path := Path.attachment digest
  Prog.readWith .read (.store (.read (.root "manifest.json"))) fun disk =>
    liftStore (prepareAttachmentWrite E profile path bytes.length disk)
  Prog.perform createDigestDir (.store .createDirectory)
  let disk ← Prog.get
  if disk.exists? path then compareAttachment profile path bytes
  else createAttachment path bytes
  return ⟨digest, bytes.length, mediaType, none, none, sourceLocator⟩

def durableAttachment (bytes : Bytes) (mediaType : String) (sourceLocator : Option String) :
    FileProg AttachmentReference := do
  let reference ← writeAttachment E profile bytes mediaType sourceLocator
  if hasValidDigest reference.sha256 then
    let path := Path.attachment reference.sha256
    openExisting "synchronize recovery attachment" path
    syncAll "synchronize recovery attachment" path
    syncAll "synchronize recovery digest directory" none
    syncAll "synchronize recovery attachments directory" none
    return reference
  else
    Prog.throw (.checkpointVerification "recovery attachment digest is invalid")

end

section

variable {E : Env} {profile : BundleResourceProfile}

theorem createAttachment_within (digest : String) (bytes : Bytes) :
    (createAttachment (.attachment digest) bytes).Within Disk.OnlyAttachments := by
  have hput : ∀ bytes disk, Disk.OnlyAttachments disk (Disk.put (.attachment digest) bytes disk) :=
    fun bytes disk => .put rfl bytes disk
  refine .bind (.perform (hput []) fun _ => .refl) fun _ => .bind (.attempt ?_) fun result => ?_
  · exact .perform (fun disk => hput _ disk) fun n disk => hput _ disk
  · cases result with
    | ok => exact Prog.within_pure _
    | error =>
      exact .bind (.attempt (.perform (fun disk => .remove rfl disk) fun _ => .refl))
        fun _ => Prog.within_throw _

theorem writeAttachment_within (bytes : Bytes) (mediaType : String)
    (sourceLocator : Option String) :
    (writeAttachment E profile bytes mediaType sourceLocator).Within Disk.OnlyAttachments := by
  refine .bind (.readWith .refl) fun _ => .bind ?_ fun _ => .bind Prog.within_get fun disk => ?_
  · exact .perform (fun _ => ⟨rfl, rfl, rfl⟩) fun _ => .refl
  · dsimp only
    split_ifs
    · refine .bind (.bind (.readWith .refl) fun _ => ?_) fun _ => Prog.within_pure _
      exact .ite (Prog.within_pure _) (Prog.within_throw _)
    · exact .bind (createAttachment_within _ bytes) fun _ => Prog.within_pure _

/-- Storing an attachment leaves every other file alone. -/
theorem durableAttachment_within (bytes : Bytes) (mediaType : String)
    (sourceLocator : Option String) :
    (durableAttachment E profile bytes mediaType sourceLocator).Within Disk.OnlyAttachments := by
  refine .bind (writeAttachment_within bytes mediaType sourceLocator) fun reference => ?_
  refine .ite (.bind (openExisting_within .refl) fun _ => ?_) (Prog.within_throw _)
  exact .bind (syncAll_within .refl) fun _ => .bind (syncAll_within .refl) fun _ =>
    .bind (syncAll_within .refl) fun _ => Prog.within_pure _

end

end AntennaBench
