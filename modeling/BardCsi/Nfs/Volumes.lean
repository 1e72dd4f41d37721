import BardCsi.Base
import BardCsi.Digest
import BardCsi.Effect.Eval
import BardCsi.Path

/-!
The control plane of the nfs plugin. A volume is a directory of an export, which is mounted at
a temporary directory while a call works on it. The name of the directory comes from a template
of the storage class, or else from a digest of the volume's CSI name.
-/
namespace BardCsi.Nfs

open Effect Effect.Program

structure InstanceConfig where
  server : String
  exported : String
  onDelete : String
deriving DecidableEq, Repr

structure Backend where
  instances : String → Option InstanceConfig
  /-- The first eight bytes of SHA-256. -/
  sum : String → Fin (2 ^ 64)

structure CreateVolumeRequest where
  name : String
  capacityBytes : ℤ
  inst : String
  parameters : String → String
  sourceSnapshot : Option String
  sourceVolume : Option String

structure CreateVolumeResponse where
  location : String
  name : String
  capacityBytes : ℤ
  server : String
deriving DecidableEq, Repr

/-! The names of the directories. -/

def volName (b : Backend) (csiName : String) : String :=
  "bard-" ++ String.ofList (hex (b.sum csiName))

def expandSubDir (tmpl : String) (params : String → String) : String :=
  Strings.replace
    [("$\x7bpvc.metadata.name\x7d", params "csi.storage.k8s.io/pvc/name"),
      ("$\x7bpvc.metadata.namespace\x7d", params "csi.storage.k8s.io/pvc/namespace"),
      ("$\x7bpv.metadata.name\x7d", params "csi.storage.k8s.io/pv/name")] tmpl

/-- The expanded template of a request, if it can serve as a name. -/
def subDir (req : CreateVolumeRequest) : Option String :=
  let t := req.parameters "subDir"
  if t ≠ "" then
    let d := expandSubDir t req.parameters
    if d ≠ "" ∧ !Strings.contains d "$\x7b" then some d else none
  else none

def volDir (b : Backend) (req : CreateVolumeRequest) : String :=
  match subDir req with
  | some d => Strings.trim d '/'
  | none => volName b req.name

def snapDir : String := ".snapshots"

def reserved (name : String) : Bool :=
  name == snapDir || Strings.hasPrefix name "archived-" || Strings.contains name ".."

def joinPath (dir name : String) : String := String.ofList (Path.join [dir.toList, name.toList])

def snapArchive (snapID : String) : String := joinPath snapDir (snapID ++ ".tar.gz")

def parseOctal (s : String) : Option ℕ :=
  if s ≠ "" ∧ s.toList.all (fun c => '0' ≤ c && c ≤ '7') then
    let n := s.toList.foldl (fun n c => 8 * n + (c.toNat - '0'.toNat)) 0
    if n < 2 ^ 32 then some n else none
  else none

/-! Requests to the operating system. -/

structure OsError where
  notExist : Bool
  text : String
deriving DecidableEq, Repr

/-- The path of a temporary directory. -/
abbrev TempDir := { path : String // path ≠ "" }

structure Export where
  server : String
  path : String
deriving DecidableEq, Repr

inductive NfsCmd where
  | mkdirTemp
  | mount (e : Export) (at_ : TempDir)
  | umount (at_ : TempDir)
  | removeTemp (tmp : TempDir)
  | mkdirAll (dir : String)
  | tarExtract (archive dir : String)
  | copyAll (src dir : String)
  | chmod (dir : String) (mode : ℕ)
  | rename (old new : String)
  | removeAll (dir : String)
deriving DecidableEq, Repr

def NfsCmd.Reply : NfsCmd → Type
  | .mkdirTemp => Except OsError TempDir
  | _ => Except OsError Unit

abbrev NfsProg := Program NfsCmd NfsCmd.Reply Err

def run (c : NfsCmd) : NfsProg c.Reply := ask c

/-- The error of a command, after a text that says what it was for. -/
def orFail {α : Type} (r : Except OsError α) (what : List Text) : NfsProg α :=
  match r with
  | .ok a => return a
  | .error e => .fail (errorf (what ++ [.lit e.text]))

def lookup (b : Backend) (id : String) : NfsProg InstanceConfig :=
  match b.instances id with
  | some ic => return ic
  | none => .fail ⟨.invalidArg, ["nfs: no instance ", id, " configured"]⟩

/-- The end of a call on a mounted export, whose body ended with `ferr`. The temporary directory
is only ever removed when it is empty. -/
def unmountExport (tmp : TempDir) (ferr : Except Err Unit) : NfsProg Unit := do
  let unmounted : Except OsError Unit ← run (.umount tmp)
  let _ ← run (.removeTemp tmp)
  match ferr, unmounted with
  | .ok (), .ok () => return ()
  | .ok (), .error e => .fail (errorf ["nfs: unmount export at ", tmp.1, ": ", e.text])
  | .error err, .ok () => .fail err
  | .error err, .error e => .fail ⟨err.code, err.msg ++
      ([" (and unmount of ", tmp.1, " failed: ", e.text, ")"] : List Text)⟩

def withExportMounted (ic : InstanceConfig) (fn : String → NfsProg Unit) : NfsProg Unit := do
  let made : Except OsError TempDir ← run .mkdirTemp
  let tmp ← orFail made []
  let mounted : Except OsError Unit ← run (.mount ⟨ic.server, ic.exported⟩ tmp)
  match mounted with
  | .error e =>
      let _ ← run (.removeTemp tmp)
      .fail (errorf ["nfs: mount export: ", e.text])
  | .ok () =>
      let ferr ← (fn tmp).attempt
      unmountExport tmp ferr

/-- The data of a new volume: a snapshot's archive, or a copy of another directory. -/
def populate (req : CreateVolumeRequest) (mnt dir : String) : NfsProg Unit := do
  match req.sourceSnapshot, req.sourceVolume with
  | some snap, _ =>
      let r : Except OsError Unit ← run (.tarExtract (joinPath mnt (snapArchive snap)) dir)
      orFail r ["nfs: restore snapshot ", snap, ": "]
  | none, some vol =>
      let r : Except OsError Unit ← run (.copyAll (joinPath mnt vol ++ "/.") dir)
      orFail r ["nfs: clone volume ", vol, ": "]
  | none, none => return ()

def setPermissions (req : CreateVolumeRequest) (dir : String) : NfsProg Unit := do
  let perm := req.parameters "mountPermissions"
  if perm ≠ "" then
    match parseOctal perm with
    | none => .fail ⟨.invalidArg, ["nfs: invalid mountPermissions ", perm]⟩
    | some mode =>
        let r : Except OsError Unit ← run (.chmod dir mode)
        orFail r ["nfs: chmod ", dir, ": "]

def createVolume (b : Backend) (req : CreateVolumeRequest) : NfsProg CreateVolumeResponse := do
  let ic ← lookup b req.inst
  let name := volDir b req
  if reserved name then
    .fail ⟨.invalidArg, ["nfs: reserved volume directory name ", name]⟩
  withExportMounted ic fun mnt => do
    let dir := joinPath mnt name
    let r : Except OsError Unit ← run (.mkdirAll dir)
    orFail r []
    populate req mnt dir
    setPermissions req dir
  return ⟨ic.exported, name, req.capacityBytes, ic.server⟩

def dirPath (path : String) : String := String.ofList (Path.dir path.toList)

def archivedName (dir : String) : String :=
  joinPath (dirPath dir) ("archived-" ++ String.ofList (Path.base dir.toList))

/-- The removal of a directory from a mounted export. -/
def deleteDir (ic : InstanceConfig) (dir : String) : NfsProg Unit := do
  if Strings.equalFold ic.onDelete "archive" then
    let r : Except OsError Unit ← run (.rename dir (archivedName dir))
    match r with
    | .ok () => return ()
    | .error e =>
        if e.notExist then return () else .fail (errorf ["nfs: archive ", dir, ": ", e.text])
  else
    let r : Except OsError Unit ← run (.removeAll dir)
    orFail r []

def deleteVolume (b : Backend) (vol : VolumeRef) : NfsProg Unit := do
  let ic ← lookup b vol.inst
  if Strings.equalFold ic.onDelete "retain" then return ()
  else withExportMounted ic fun mnt => deleteDir ic (joinPath mnt vol.name)

/-! What the calls do to the exports. -/

/-- The files and directories of an export, each by the names that lead to it. -/
abbrev Tree := List (List Path.Part)

/-- The exports, and the one that is mounted with the place where it is. -/
structure World where
  trees : Export → Tree
  mounted : Option (List Path.Part × Export)

/-- Where a path leads to in the mounted export. -/
def World.locate (w : World) (path : String) : Option (Export × List Path.Part) :=
  match w.mounted with
  | none => none
  | some (place, e) =>
      if place <+: Path.names path.toList then
        some (e, (Path.names path.toList).drop place.length)
      else none

def World.edit (w : World) (path : String) (f : List Path.Part → Tree → Tree) : World :=
  match w.locate path with
  | none => w
  | some (e, rel) => { w with trees := Function.update w.trees e (f rel (w.trees e)) }

/-- Moving a directory takes everything below it along. -/
def moveBelow (old new : List Path.Part) (p : List Path.Part) : List Path.Part :=
  if old <+: p then new ++ p.drop old.length else p

/-- The choices of the outside world in one call, which makes every request at most once. -/
structure Env where
  tempDir : Except OsError TempDir
  exit : NfsCmd → Option OsError
  /-- What a command wrote below its directory. -/
  written : NfsCmd → Tree
  /-- What is left below a directory whose removal failed. -/
  survives : List Path.Part → Bool

def Env.result (E : Env) (c : NfsCmd) : Except OsError Unit :=
  match E.exit c with
  | none => .ok ()
  | some e => .error e

def answer (E : Env) : (c : NfsCmd) → World → c.Reply × World
  | .mkdirTemp, w => (E.tempDir, w)
  | .mount e tmp, w =>
      (E.result (.mount e tmp),
        if (E.exit (.mount e tmp)).isNone then
          { w with mounted := some (Path.names tmp.1.toList, e) } else w)
  | .umount tmp, w =>
      (E.result (.umount tmp),
        if (E.exit (.umount tmp)).isNone then { w with mounted := none } else w)
  | .removeTemp tmp, w => (E.result (.removeTemp tmp), w)
  | .mkdirAll dir, w =>
      (E.result (.mkdirAll dir), w.edit dir fun rel tree =>
        tree ++ if (E.exit (.mkdirAll dir)).isNone then rel.inits
          else rel.inits.filter (· ∈ E.written (.mkdirAll dir)))
  | .tarExtract archive dir, w =>
      (E.result (.tarExtract archive dir), w.edit dir fun rel tree =>
        tree ++ (E.written (.tarExtract archive dir)).map (rel ++ ·))
  | .copyAll src dir, w =>
      (E.result (.copyAll src dir), w.edit dir fun rel tree =>
        tree ++ (E.written (.copyAll src dir)).map (rel ++ ·))
  | .chmod dir mode, w => (E.result (.chmod dir mode), w)
  | .rename old new, w =>
      (E.result (.rename old new),
        if (E.exit (.rename old new)).isNone then
          match w.locate new with
          | none => w
          | some (_, target) => w.edit old fun rel tree => tree.map (moveBelow rel target)
        else w)
  | .removeAll dir, w =>
      (E.result (.removeAll dir), w.edit dir fun rel tree => tree.filter fun p =>
        !(rel.isPrefixOf p) || (E.exit (.removeAll dir)).isSome && E.survives p)

end BardCsi.Nfs
