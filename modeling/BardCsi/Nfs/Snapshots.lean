import BardCsi.Effect.Embed
import BardCsi.Nfs.Volumes

/-!
Snapshots of the nfs plugin. A snapshot is an archive of a directory, in a file of the export
that is named after the CSI name of the snapshot. A second file says what the archive was taken
from. A request for a snapshot that is there writes the archive again.
-/
namespace BardCsi.Nfs

open Effect Effect.Program

structure CreateSnapshotRequest where
  name : String
  sourceVolume : VolumeRef

structure CreateSnapshotResponse where
  location : String
  name : String
  sizeBytes : ℤ
deriving DecidableEq, Repr

def snapName (b : Backend) (csiName : String) : String := digestName b.sum "snap-" csiName

def snapSrcFile (snapID : String) : String := joinPath snapDir (snapID ++ ".src")

/-- The commands of the control plane, and those on files below the place where the export is
mounted. -/
inductive SnapCmd where
  | host (c : NfsCmd)
  | readFile (mnt : TempDir) (file : String)
  | tarCreate (mnt : TempDir) (archive dir : String)
  | writeFile (mnt : TempDir) (file data : String)
  | stat (mnt : TempDir) (file : String)
  | remove (mnt : TempDir) (file : String)
deriving DecidableEq, Repr

def SnapCmd.Reply : SnapCmd → Type
  | .host c => c.Reply
  | .readFile _ _ => Except OsError String
  | .stat _ _ => Except OsError ℤ
  | .tarCreate _ _ _ | .writeFile _ _ _ | .remove _ _ => Except OsError Unit

abbrev SnapProg := Program SnapCmd SnapCmd.Reply Err

namespace Snapshot

def run (c : SnapCmd) : SnapProg c.Reply := ask c

def host {α : Type} (p : NfsProg α) : SnapProg α := p.embed SnapCmd.host id

/-- Run a program on the mounted export, as for volumes. -/
def withExportMounted {α : Type} (ic : InstanceConfig) (fn : TempDir → SnapProg α) :
    SnapProg α := do
  let tmp ← host do
    let made : Except OsError TempDir ← Nfs.run .mkdirTemp
    orFail made []
  let mounted : Except OsError Unit ← run (.host (.mount ⟨ic.server, ic.exported⟩ tmp))
  match mounted with
  | .error e =>
      let _ : Except OsError Unit ← run (.host (.removeTemp tmp))
      .fail (errorf ["nfs: mount export: ", e.text])
  | .ok () =>
      let r ← (fn tmp).attempt
      host (unmountExport tmp (r.map fun _ => ()))
      match r with
      | .ok a => return a
      | .error e => .fail e

/-- A snapshot of that name may have been taken from another directory. A file that cannot be
read counts as none. -/
def checkSource (req : CreateSnapshotRequest) (data : Except OsError String) : SnapProg Unit :=
  match data with
  | .error _ => .pure ()
  | .ok text =>
      let prev := Strings.trimSpace text
      if prev ≠ "" ∧ prev ≠ req.sourceVolume.name then
        .fail ⟨.alreadyExists, ["nfs: snapshot ", req.name,
          " already exists for a different source volume (", prev, ")"]⟩
      else .pure ()

/-- Archive the directory, say where it came from if possible, and return the size. -/
def writeArchive (req : CreateSnapshotRequest) (snapID : String) (mnt : TempDir) :
    SnapProg ℤ := do
  let made : Except OsError Unit ← run (.host (.mkdirAll (joinPath mnt.1 snapDir)))
  host (orFail made [])
  checkSource req (← run (.readFile mnt (snapSrcFile snapID)))
  let archived : Except OsError Unit ←
    run (.tarCreate mnt (snapArchive snapID) req.sourceVolume.name)
  host (orFail archived ["nfs: snapshot ", req.sourceVolume.name, ": "])
  let _ : Except OsError Unit ← run (.writeFile mnt (snapSrcFile snapID) req.sourceVolume.name)
  let size : Except OsError ℤ ← run (.stat mnt (snapArchive snapID))
  match size with
  | .ok n => return n
  | .error _ => return 0

def createSnapshot (b : Backend) (req : CreateSnapshotRequest) :
    SnapProg CreateSnapshotResponse := do
  let ic ← host (lookup b req.sourceVolume.inst)
  let snapID := snapName b req.name
  let size ← withExportMounted ic (writeArchive req snapID)
  return ⟨ic.exported, snapID, size⟩

def deleteSnapshot (b : Backend) (snapshot : VolumeRef) : SnapProg Unit := do
  let ic ← host (lookup b snapshot.inst)
  withExportMounted ic fun mnt => do
    let _ : Except OsError Unit ← run (.remove mnt (snapSrcFile snapshot.name))
    let removed : Except OsError Unit ← run (.remove mnt (snapArchive snapshot.name))
    host (orFail removed [])

end Snapshot

/-! What the calls do to the exports. -/

/-- The files of each export by their path from its root, those of the snapshots among them, and
the export that is mounted. -/
structure SnapWorld where
  files : Export → String → Option String
  mounted : Option (TempDir × Export)

/-- The choices of the outside world in one call, which makes every request at most once. -/
structure SnapEnv where
  tempDir : Except OsError TempDir
  exit : SnapCmd → Option OsError
  /-- What a command that failed left of the file it works on, if it touched it. -/
  left : SnapCmd → Option (Option String)
  size : ℤ
  /-- The archive that `tar` makes of the files below a directory. -/
  pack : (String → Option String) → String
  /-- What a user makes of a file of theirs. -/
  written : Option String

/-- A file below a directory, by its path from the root of the export. -/
def fileBelow (dir file : String) : String := joinPath (joinPath "." dir) file

namespace SnapWorld

variable (w : SnapWorld) (mnt : TempDir)

/-- The export at a place. -/
def exportAt : Option Export :=
  match w.mounted with
  | some (place, e) => if place = mnt then some e else none
  | none => none

def fileAt (file : String) : Option String := (w.exportAt mnt).bind fun e => w.files e file

/-- The files below a directory. -/
def below (e : Export) (dir : String) (p : String) : Option String :=
  if Path.names (joinPath "." dir).toList <+: Path.names p.toList then w.files e p else none

/-- The files below a directory, none if nothing is mounted. -/
def contentAt (dir : String) (p : String) : Option String :=
  (w.exportAt mnt).bind fun e => w.below e dir p

def setFile (file : String) (x : Option String) : SnapWorld :=
  match w.exportAt mnt with
  | some e => { w with files := Function.update w.files e (Function.update (w.files e) file x) }
  | none => w

end SnapWorld

namespace SnapEnv

variable (E : SnapEnv)

def result (c : SnapCmd) : Except OsError Unit :=
  match E.exit c with
  | none => .ok ()
  | some e => .error e

/-- The effect of a command on its file: `x` if it works, else what it left. -/
def write (c : SnapCmd) (mnt : TempDir) (file : String) (x : Option String) (w : SnapWorld) :
    SnapWorld :=
  match E.exit c, E.left c with
  | none, _ => w.setFile mnt file x
  | some _, some left => w.setFile mnt file left
  | some _, none => w

def answerHost : (c : NfsCmd) → SnapWorld → c.Reply × SnapWorld
  | .mkdirTemp, w => (E.tempDir, w)
  | .mount e tmp, w =>
      (E.result (.host (.mount e tmp)),
        if (E.exit (.host (.mount e tmp))).isNone then { w with mounted := some (tmp, e) } else w)
  | .umount tmp, w =>
      (E.result (.host (.umount tmp)),
        if (E.exit (.host (.umount tmp))).isNone then { w with mounted := none } else w)
  | .removeTemp tmp, w => (E.result (.host (.removeTemp tmp)), w)
  | .mkdirAll dir, w => (E.result (.host (.mkdirAll dir)), w)
  | .tarExtract archive dir, w => (E.result (.host (.tarExtract archive dir)), w)
  | .copyAll src dir, w => (E.result (.host (.copyAll src dir)), w)
  | .chmod dir mode, w => (E.result (.host (.chmod dir mode)), w)
  | .rename old new, w => (E.result (.host (.rename old new)), w)
  | .removeAll dir, w => (E.result (.host (.removeAll dir)), w)

def answer : (c : SnapCmd) → SnapWorld → c.Reply × SnapWorld
  | .host c, w => E.answerHost c w
  | .readFile mnt file, w =>
      match E.exit (.readFile mnt file), w.fileAt mnt file with
      | some e, _ => (.error e, w)
      | none, some data => (.ok data, w)
      | none, none => (.error ⟨true, "no such file or directory"⟩, w)
  | .tarCreate mnt archive dir, w =>
      (E.result (.tarCreate mnt archive dir),
        E.write (.tarCreate mnt archive dir) mnt archive (some (E.pack (w.contentAt mnt dir))) w)
  | .writeFile mnt file data, w =>
      (E.result (.writeFile mnt file data),
        E.write (.writeFile mnt file data) mnt file (some data) w)
  | .stat mnt file, w =>
      match E.exit (.stat mnt file) with
      | some e => (.error e, w)
      | none => (.ok E.size, w)
  | .remove mnt file, w =>
      (E.result (.remove mnt file), E.write (.remove mnt file) mnt file none w)

end SnapEnv

end BardCsi.Nfs
