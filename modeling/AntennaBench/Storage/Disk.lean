import AntennaBench.FaultIO.Basic
import AntennaBench.Core.Value

/-!
# Bundle directory

A bundle directory as a finite map from paths to byte strings, with the file
operations of the storage crate as effects on it. Appends, writes and copies are
torn to a prefix by a crash or a failure; renames, truncations and removals
happen or do not happen.
-/

namespace AntennaBench

open FaultIO

abbrev Bytes := List UInt8

def newline : UInt8 := 10

/-- A regular file of the directory: an entry of the root, a file of one plan
generation, or a file of the attachments digest directory. -/
inductive Path where
  | root (name : String)
  | generation (id name : String)
  | attachment (digest : String)
  deriving DecidableEq

namespace Path

def isRoot : Path → Bool
  | root _ => true
  | _ => false

def isAttachment : Path → Bool
  | attachment _ => true
  | _ => false

theorem isAttachment_of_isRoot {path : Path} (h : path.isRoot = true) :
    path.isAttachment = false := by
  cases path <;> simp_all [isRoot, isAttachment]

end Path

/-- The files in the order they were created, and the directories the code asks
about; the root and the attachments directory exist. -/
structure Disk where
  files : List (Path × Bytes)
  digestDir : Bool
  generationsDir : Bool
  generationDirs : List String
  deriving DecidableEq

namespace Disk

def get (disk : Disk) (path : Path) : Option Bytes :=
  disk.files.lookup path

def putFiles (path : Path) (bytes : Bytes) : List (Path × Bytes) → List (Path × Bytes)
  | [] => [(path, bytes)]
  | (other, old) :: rest =>
    if other = path then (path, bytes) :: rest else (other, old) :: putFiles path bytes rest

def put (path : Path) (bytes : Bytes) (disk : Disk) : Disk :=
  { disk with files := putFiles path bytes disk.files }

def remove (path : Path) (disk : Disk) : Disk :=
  { disk with files := disk.files.filter fun entry => entry.1 ≠ path }

/-- The content of an existing or a missing file. -/
def content (disk : Disk) (path : Path) : Bytes :=
  (disk.get path).getD []

def exists? (disk : Disk) (path : Path) : Bool :=
  (disk.get path).isSome

/-- The number of entries `read_dir` lists for the root: its files, the
attachments directory and the plan-generations directory. -/
def rootEntries (disk : Disk) : ℕ :=
  (disk.files.filter fun entry => entry.1.isRoot).length + 1 + disk.generationsDir.toNat

def attachments (disk : Disk) : List (String × Bytes) :=
  disk.files.filterMap fun
    | (.attachment digest, bytes) => some (digest, bytes)
    | _ => none

theorem mem_of_lookup {path : Path} {bytes : Bytes} {files : List (Path × Bytes)}
    (h : files.lookup path = some bytes) : (path, bytes) ∈ files := by
  obtain ⟨l, r, hsplit, -⟩ := List.lookup_eq_some_iff.1 h
  simp [hsplit]

theorem mem_attachments {disk : Disk} {digest : String} {bytes : Bytes}
    (h : disk.get (.attachment digest) = some bytes) : (digest, bytes) ∈ disk.attachments :=
  List.mem_filterMap.2 ⟨_, mem_of_lookup h, rfl⟩

theorem lookup_entry (other name : Path) (old : Bytes) (files : List (Path × Bytes)) :
    ((name, old) :: files).lookup other =
      if other = name then some old else files.lookup other := by
  by_cases h : other = name
  · simp [h]
  · have hbeq : (other == name) = false := by simpa using h
    simp [List.lookup_cons, hbeq, h]

theorem lookup_putFiles (path other : Path) (bytes : Bytes) (files : List (Path × Bytes)) :
    (putFiles path bytes files).lookup other =
      if other = path then some bytes else files.lookup other := by
  induction files with
  | nil => by_cases h : other = path <;> simp [putFiles, lookup_entry, h]
  | cons entry rest ih =>
    obtain ⟨name, old⟩ := entry
    by_cases hname : name = path
    · subst hname
      by_cases h : other = name <;> simp [putFiles, lookup_entry, h]
    · by_cases h : other = name
      · subst h
        simp [putFiles, hname]
      · simp [putFiles, hname, lookup_entry, h, ih]

@[simp] theorem get_put_self (path : Path) (bytes : Bytes) (disk : Disk) :
    (disk.put path bytes).get path = some bytes := by
  simp [get, put, lookup_putFiles]

theorem get_put_ne {path other : Path} (h : other ≠ path) (bytes : Bytes) (disk : Disk) :
    (disk.put path bytes).get other = disk.get other := by
  simp [get, put, lookup_putFiles, h]

theorem get_put (path other : Path) (bytes : Bytes) (disk : Disk) :
    (disk.put path bytes).get other = if other = path then some bytes else disk.get other := by
  simp [get, put, lookup_putFiles]

theorem lookup_filter_ne (path other : Path) (files : List (Path × Bytes)) :
    (files.filter fun entry => entry.1 ≠ path).lookup other =
      if other = path then none else files.lookup other := by
  induction files with
  | nil => simp
  | cons entry rest ih =>
    obtain ⟨name, old⟩ := entry
    by_cases hname : name = path
    · subst hname
      by_cases h : other = name
      · simpa [h] using ih
      · simpa [h, lookup_entry] using ih
    · by_cases h : other = name
      · subst h
        simp [hname]
      · simpa [hname, lookup_entry, h] using ih

theorem get_remove (path other : Path) (disk : Disk) :
    (disk.remove path).get other = if other = path then none else disk.get other :=
  lookup_filter_ne path other disk.files

theorem get_remove_ne {path other : Path} (h : other ≠ path) (disk : Disk) :
    (disk.remove path).get other = disk.get other := by
  simp [get_remove, h]

/-- The files that are not attachments. -/
def modeledFiles (disk : Disk) : List (Path × Bytes) :=
  disk.files.filter fun entry => !entry.1.isAttachment

/-- The second directory differs from the first in its attachments only. -/
structure OnlyAttachments (before after : Disk) : Prop where
  modeledFiles : after.modeledFiles = before.modeledFiles
  generationsDir : after.generationsDir = before.generationsDir
  generationDirs : after.generationDirs = before.generationDirs

theorem lookup_filter_of_pos {keep : Path × Bytes → Bool} {path : Path}
    (hkeep : ∀ bytes, keep (path, bytes) = true) (files : List (Path × Bytes)) :
    (files.filter keep).lookup path = files.lookup path := by
  induction files with
  | nil => rfl
  | cons entry rest ih =>
    obtain ⟨name, old⟩ := entry
    by_cases hname : path = name
    · subst hname
      simp [hkeep]
    · cases h : keep (name, old) <;> simp [h, lookup_entry, hname, ih]

namespace OnlyAttachments

theorem refl (disk : Disk) : OnlyAttachments disk disk := ⟨rfl, rfl, rfl⟩

theorem get {before after : Disk} (h : OnlyAttachments before after) {path : Path}
    (hpath : path.isAttachment = false) : after.get path = before.get path := by
  have hkeep : ∀ disk : Disk, disk.modeledFiles.lookup path = disk.get path := fun disk =>
    lookup_filter_of_pos (by simp [hpath]) disk.files
  rw [← hkeep, ← hkeep, h.modeledFiles]

theorem put {path : Path} (hpath : path.isAttachment = true) (bytes : Bytes) (disk : Disk) :
    OnlyAttachments disk (disk.put path bytes) := by
  refine ⟨?_, rfl, rfl⟩
  change (putFiles path bytes disk.files).filter _ = _
  rw [Disk.modeledFiles]
  induction disk.files with
  | nil => simp [putFiles, hpath]
  | cons entry rest ih =>
    obtain ⟨name, old⟩ := entry
    by_cases hname : name = path
    · subst hname
      simp [putFiles, hpath]
    · simp [putFiles, hname, List.filter_cons, ih]

theorem remove {path : Path} (hpath : path.isAttachment = true) (disk : Disk) :
    OnlyAttachments disk (disk.remove path) := by
  refine ⟨?_, rfl, rfl⟩
  rw [Disk.modeledFiles, Disk.modeledFiles, Disk.remove, List.filter_filter]
  apply List.filter_congr
  intro entry _
  by_cases h : entry.1 = path <;> simp [h, hpath]

end OnlyAttachments

end Disk

/-- Where the storage crate meets the file system. A check and a barrier go
through the persistence hooks; the other sites are direct file operations. The
reads a failed commit makes to find out what happened have their own sites: the
second look at the checkpoint and the reload of the bundle behind it. -/
inductive FileSite where
  | check
  | sync
  | read
  | reread
  | reload
  | create
  | write
  | copy
  | rename
  | truncate
  | remove
  deriving DecidableEq

abbrev FileEffect := Effect FileSite Disk

namespace FileEffect

def check : FileEffect := Prog.passive .check

def sync : FileEffect := Prog.passive .sync

def read : FileEffect := Prog.passive .read

/-- An operation that happens at once or not at all. -/
def atomic (site : FileSite) (f : Disk → Disk) : FileEffect := ⟨site, f, fun _ => id⟩

def create (path : Path) : FileEffect := atomic .create (Disk.put path [])

def appendBytes (path : Path) (bytes : Bytes) : FileEffect where
  site := .write
  full disk := disk.put path (disk.content path ++ bytes)
  torn n disk := disk.put path (disk.content path ++ bytes.take n)

/-- `fs::copy`; after the destination is open, its bytes arrive one by one. -/
def copy (source destination : Path) : FileEffect where
  site := .copy
  full disk := disk.put destination (disk.content source)
  torn n disk :=
    match n with
    | 0 => disk
    | n + 1 => disk.put destination ((disk.content source).take n)

def rename (source destination : Path) : FileEffect :=
  atomic .rename fun disk => (disk.put destination (disk.content source)).remove source

/-- `File::set_len`: cuts, or fills up with zero bytes. -/
def setLen (path : Path) (length : ℕ) : FileEffect :=
  atomic .truncate fun disk =>
    disk.put path ((disk.content path).takeD length 0)

def remove (path : Path) : FileEffect := atomic .remove (Disk.remove path)

end FileEffect

end AntennaBench
