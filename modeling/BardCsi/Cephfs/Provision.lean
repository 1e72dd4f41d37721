import BardCsi.Cephfs.Volumes
import BardCsi.Digest
import BardCsi.Effect.Calls
import Mathlib.Data.ENat.Basic

/-!
Provisioning of subvolumes by the CephFS plugin: new ones, clones of snapshots and of other
subvolumes, volumes that only refer to a snapshot, and the change of a size. Names are the
strings that they are, and the size of a subvolume is its quota, which may be infinite.
-/
namespace BardCsi.Cephfs.Provision

open Effect Program

/-- The configuration of an instance, with what only provisioning reads. -/
structure ClusterConfig extends Cephfs.ClusterConfig where
  nfsServer : String
  subvolumeGroup : String

structure Backend where
  clusters : String → Option ClusterConfig
  /-- The first eight bytes of SHA-256. -/
  sum : String → Fin (2 ^ 64)
  /-- `strconv.ParseFloat` gives a number from 0 to 1. -/
  isProbability : String → Bool
  /-- How often a clone is looked at again before the deadline. -/
  clonePolls : ℕ

structure CreateVolumeRequest where
  name : String
  inst : String
  capacityBytes : Int
  parameters : String → String
  mutableParams : List (String × String)
  secrets : String → String
  sourceSnapshot : Option VolumeRef
  sourceVolume : Option VolumeRef

structure CreateVolumeResponse where
  location : String
  name : String
  capacityBytes : Int
  context : List (String × String)
deriving DecidableEq, Repr

structure ExpandVolumeRequest where
  volume : VolumeRef
  newSizeBytes : Int
  secrets : String → String

structure ExpandVolumeResponse where
  capacityBytes : Int
  nodeExpansionRequired : Bool
deriving DecidableEq, Repr

/-- A subvolume by its filesystem, its group (which may be empty) and its name. -/
structure SubvolumeRef where
  fs : String
  group : String
  name : String
deriving DecidableEq, Repr

inductive CloneState where
  | inProgress
  | complete
  | failed
  | canceled
deriving DecidableEq, Repr

inductive Cmd where
  | cephConn (inst userID : String)
  | subvolumegroupCreate (fs group : String)
  | subvolumeCreate (sub : SubvolumeRef) (size : Option Int)
  | subvolumeResize (sub : SubvolumeRef) (size : Int) (noShrink : Bool)
  | subvolumeRm (sub : SubvolumeRef)
  | getpath (sub : SubvolumeRef)
  | metadataSet (sub : SubvolumeRef) (key value : String)
  | subvolumePin (sub : SubvolumeRef) (pinType pinSetting : String)
  | snapshotCreate (sub : SubvolumeRef) (snap : String)
  | snapshotClone (sub : SubvolumeRef) (snap : String) (target : SubvolumeRef)
  | snapshotRm (sub : SubvolumeRef) (snap : String)
  | cloneStatus (target : SubvolumeRef)
  | nfsExportCreate (cluster pseudo fs path : String)
deriving DecidableEq, Repr

def Cmd.Reply : Cmd → Type
  | .getpath _ => Except RunError String
  | .cloneStatus _ => Except RunError CloneState
  | _ => Except RunError Unit

abbrev Prog (α : Type) := Program Cmd Cmd.Reply Err α

def run (c : Cmd) : Prog c.Reply := .ask c

def fail {α : Type} (e : Err) : Prog α := .fail e

def liftExcept {α : Type} : Except Err α → Prog α
  | .ok a => .pure a
  | .error e => .fail e

/-- The error of a command, after a text that says what it was for. -/
def orFail {α : Type} (r : Except RunError α) (what : String) : Prog α :=
  match r with
  | .ok a => .pure a
  | .error e => fail (errorf [what ++ ": ", e.text])

/-- As `orFail`, for what may be there already. -/
def orExists (r : Except RunError Unit) (what : String) : Prog Unit :=
  match r with
  | .ok () | .error .alreadyExists => .pure ()
  | .error e => fail (errorf [what ++ ": ", e.text])

def namePrefix (param value default : String) : Except Err String :=
  if value = "" then .ok default
  else if Strings.containsAny value "/@ \t\n" then
    .error ⟨.invalidArg, ["cephfs: invalid ", param, " ", value,
      " (no '/', '@', or whitespace)"]⟩
  else .ok value

def subvolName (b : Backend) (pre csiName : String) : String := digestName b.sum pre csiName

/-- The name of a snapshot has its subvolume before the last `@`. -/
def splitSnap (name : String) : Option (String × String) :=
  match name.toList.reverse.dropWhile (· ≠ '@') with
  | [] => none
  | _ :: rest => some (String.ofList rest.reverse,
      String.ofList (name.toList.reverse.takeWhile (· ≠ '@')).reverse)

theorem splitSnap_append {name sub snap : String} (h : splitSnap name = some (sub, snap)) :
    sub ++ "@" ++ snap = name := by
  unfold splitSnap at h
  split at h
  · cases h
  · rename_i c rest hdrop
    obtain ⟨rfl, rfl⟩ := Prod.mk.inj (Option.some.inj h)
    have hat : c = '@' := by
      have hhead := List.head?_dropWhile_not (fun c => decide (c ≠ '@')) name.toList.reverse
      rw [hdrop] at hhead
      simpa using hhead
    have hsplit := List.takeWhile_append_dropWhile (p := fun c => decide (c ≠ '@'))
      (l := name.toList.reverse)
    rw [hdrop, hat] at hsplit
    have hlist := congrArg List.reverse hsplit
    rw [List.reverse_reverse, List.reverse_append, List.reverse_cons] at hlist
    apply String.toList_inj.mp
    simp only [String.toList_append, String.toList_ofList]
    exact hlist

def resolveSubvolumeGroup (params : String → String) (cc : ClusterConfig) : String :=
  if params "subvolumeGroup" ≠ "" then params "subvolumeGroup"
  else if cc.subvolumeGroup ≠ "" then cc.subvolumeGroup
  else "csi"

def metaSpec (sub : SubvolumeRef) : String :=
  if sub.group = "" then sub.fs ++ "/" ++ sub.name
  else sub.fs ++ "/" ++ sub.group ++ "/" ++ sub.name

def splitMetaSpec (spec : String) : Option SubvolumeRef :=
  match Strings.split spec '/' with
  | [fs, group, name] => some ⟨fs, group, name⟩
  | [fs, name] => some ⟨fs, "", name⟩
  | _ => none

def Mounter.text : Mounter → String
  | .kernel => ""
  | .fuse => "fuse"
  | .nfs => "nfs"

def validateEncryptionParams (cc : ClusterConfig) (params : String → String) (isClone : Bool) :
    Except Err Unit :=
  if params "encrypted" ≠ "true" then .ok ()
  else if params "encryptionType" ≠ "" ∧ params "encryptionType" ≠ "file" then
    .error ⟨.invalidArg, ["cephfs: only filesystem-level encryption is supported " ++
      "(encryptionType=file/fscrypt), got ", params "encryptionType"]⟩
  else if cc.mounter = .fuse ∨ cc.mounter = .nfs then
    .error ⟨.invalidArg, ["cephfs: encrypted volumes require the kernel mounter (mounter=",
      Mounter.text cc.mounter, " does not support fscrypt)"]⟩
  else if params "backingSnapshot" = "true" then
    .error ⟨.invalidArg,
      ["cephfs: a shallow (backingSnapshot) read-only volume cannot be encrypted"]⟩
  else if isClone then
    .error ⟨.invalidArg, ["cephfs: an encrypted volume cannot be restored from a snapshot or " ++
      "cloned (CephFS subvolume clone does not preserve fscrypt context)"]⟩
  else .ok ()

/-- The value of a mutable parameter, empty if it is not set. -/
def mutableValue (p : List (String × String)) (k : String) : String := (p.lookup k).getD ""

def validatePin (b : Backend) (pinType pinSetting : String) : Except Err Unit :=
  if pinType = "export" then
    if (Strings.atoi pinSetting).isSome then .ok ()
    else .error ⟨.invalidArg,
      ["cephfs: pinType export needs an MDS rank (or -1 to unpin), got ", pinSetting]⟩
  else if pinType = "distributed" then
    if pinSetting = "0" ∨ pinSetting = "1" then .ok ()
    else .error ⟨.invalidArg,
      ["cephfs: pinType distributed needs pinSetting 0 or 1, got ", pinSetting]⟩
  else if pinType = "random" then
    if b.isProbability pinSetting then .ok ()
    else .error ⟨.invalidArg,
      ["cephfs: pinType random needs a probability in [0.0, 1.0], got ", pinSetting]⟩
  else .error ⟨.invalidArg, ["cephfs: invalid pinType ", pinType, " (export|distributed|random)"]⟩

def validateMutableParams (b : Backend) (p : List (String × String)) : Except Err Unit :=
  if p = [] then .ok ()
  else
    match p.find? fun kv => kv.1 ≠ "pinType" ∧ kv.1 ≠ "pinSetting" with
    | some kv => .error ⟨.invalidArg, ["cephfs: unsupported mutable parameter ", kv.1]⟩
    | none =>
      if mutableValue p "pinType" = "" ∨ mutableValue p "pinSetting" = "" then
        .error ⟨.invalidArg, ["cephfs: pinType and pinSetting are required together"]⟩
      else validatePin b (mutableValue p "pinType") (mutableValue p "pinSetting")

def cluster (b : Backend) (inst : String) : Prog ClusterConfig :=
  clusterFor "cephfs" b.clusters inst

def userID (cc : ClusterConfig) (secrets : String → String) : String :=
  cephUser id cc.userID (secrets "userID")

def cephConn (cc : ClusterConfig) (inst : String) (secrets : String → String) : Prog Unit := do
  orFail (← run (.cephConn inst (userID cc secrets))) "cephfs: conf"

/-- Look at a clone once, and go on with `next` while it is not done. A clone that failed is
removed, so that the next attempt can make it again. -/
def pollClone (target : SubvolumeRef) (next : Prog Unit) : Prog Unit := do
  let state ← orFail (← run (.cloneStatus target))
    ("cephfs: clone status " ++ target.fs ++ "/" ++ target.name)
  match state with
  | .complete => return ()
  | .failed =>
    let _ : Except RunError Unit ← run (.subvolumeRm target)
    fail (errorf ["cephfs: clone of " ++ target.fs ++ "/" ++ target.name ++ " failed"])
  | .canceled =>
    let _ : Except RunError Unit ← run (.subvolumeRm target)
    fail (errorf ["cephfs: clone of " ++ target.fs ++ "/" ++ target.name ++ " canceled"])
  | .inProgress => next

/-- Wait for a clone, up to a number of further looks. -/
def waitClone (target : SubvolumeRef) : ℕ → Prog Unit
  | 0 => pollClone target (fail (errorf ["cephfs: clone of " ++ target.fs ++ "/" ++ target.name ++
      " not complete after timeout"]))
  | n + 1 => pollClone target (waitClone target n)

def cloneFromSnapshot (b : Backend) (fs : String) (snapRef : VolumeRef) (target : SubvolumeRef) :
    Prog Unit := do
  match splitSnap snapRef.name with
  | none => fail ⟨.invalidArg, ["cephfs: malformed source snapshot ", snapRef.name]⟩
  | some (srcSub, snap) =>
    let src : SubvolumeRef := ⟨fs, subvolumeGroupOf snapRef.location, srcSub⟩
    orExists (← run (.snapshotClone src snap target)) ("cephfs: snapshot clone " ++ fs ++ "/" ++
      srcSub ++ "@" ++ snap ++ " -> " ++ target.name)
    waitClone target b.clonePolls

/-- Clone another subvolume by way of a transient snapshot of it. -/
def cloneFromVolume (b : Backend) (fs : String) (srcRef : VolumeRef) (target : SubvolumeRef) :
    Prog Unit := do
  let src : SubvolumeRef := ⟨fs, subvolumeGroupOf srcRef.location, srcRef.name⟩
  let tmpSnap := tmpClonePrefix ++ target.name
  orExists (← run (.snapshotCreate src tmpSnap))
    ("cephfs: temp snapshot " ++ fs ++ "/" ++ srcRef.name ++ "@" ++ tmpSnap)
  orExists (← run (.snapshotClone src tmpSnap target))
    ("cephfs: clone " ++ fs ++ "/" ++ srcRef.name ++ "@" ++ tmpSnap ++ " -> " ++ target.name)
  waitClone target b.clonePolls
  let _ : Except RunError Unit ← run (.snapshotRm src tmpSnap)
  return ()

/-- A volume that only refers to a snapshot. It owns nothing. -/
def createShallowVolume (cc : ClusterConfig) (req : CreateVolumeRequest) (snapRef : VolumeRef) :
    Prog CreateVolumeResponse := do
  if cc.mounter = .nfs then
    fail ⟨.invalidArg, ["cephfs: backingSnapshot is not supported with the nfs mounter"]⟩
  else
    match splitSnap snapRef.name with
    | none => fail ⟨.invalidArg, ["cephfs: malformed source snapshot ", snapRef.name]⟩
    | some (srcSub, snap) =>
      let path ← orFail (← run (.getpath ⟨cc.fsName, subvolumeGroupOf snapRef.location, srcSub⟩))
        ("cephfs: getpath " ++ cc.fsName ++ "/" ++ srcSub)
      return ⟨cc.fsName, shallowPrefix ++ srcSub ++ "@" ++ snap, req.capacityBytes,
        [("path", Strings.trimSpace path ++ "/.snap/" ++ snap)]⟩

def ensureSubvolumeGroup (fs group : String) : Prog Unit := do
  if group = "" then return ()
  else
    orFail (← run (.subvolumegroupCreate fs group))
      ("cephfs: subvolumegroup create " ++ fs ++ "/" ++ group)

/-- The size that a new subvolume is asked to have. -/
def sizeArg (capacityBytes : Int) : Option Int :=
  if 0 < capacityBytes then some capacityBytes else none

/-- Make the subvolume: from a snapshot, from another subvolume, or empty. -/
def populate (b : Backend) (cc : ClusterConfig) (req : CreateVolumeRequest) (sub : SubvolumeRef) :
    Prog Unit := do
  match req.sourceSnapshot, req.sourceVolume with
  | some snap, _ => cloneFromSnapshot b cc.fsName snap sub
  | none, some vol => cloneFromVolume b cc.fsName vol sub
  | none, none =>
    orFail (← run (.subvolumeCreate sub (sizeArg req.capacityBytes)))
      ("cephfs: subvolume create " ++ sub.fs ++ "/" ++ sub.name)

def CreateVolumeRequest.isClone (req : CreateVolumeRequest) : Bool :=
  req.sourceSnapshot.isSome || req.sourceVolume.isSome

/-- A clone has the quota of its source, and is grown to what was asked for. -/
def growClone (req : CreateVolumeRequest) (sub : SubvolumeRef) : Prog Unit := do
  if req.isClone ∧ 0 < req.capacityBytes then
    orFail (← run (.subvolumeResize sub req.capacityBytes true))
      ("cephfs: resize cloned subvolume " ++ sub.fs ++ "/" ++ sub.name)

def ownerMeta : List (String × String) :=
  [("csi.storage.k8s.io/pvc/name", "bard.pvcname"),
    ("csi.storage.k8s.io/pvc/namespace", "bard.pvcnamespace"),
    ("csi.storage.k8s.io/pv/name", "bard.pvname")]

def setOwnerMetadata (sub : SubvolumeRef) (params : String → String) :
    List (String × String) → Prog Unit
  | [] => .pure ()
  | (src, key) :: rest => do
      if params src ≠ "" then
        let _ : Except RunError Unit ← run (.metadataSet sub key (params src))
        setOwnerMetadata sub params rest
      else setOwnerMetadata sub params rest

def applyPin (sub : SubvolumeRef) (p : List (String × String)) : Prog Unit := do
  if p = [] then return ()
  else
    orFail (← run (.subvolumePin sub (mutableValue p "pinType") (mutableValue p "pinSetting")))
      ("cephfs: subvolume pin " ++ sub.fs ++ "/" ++ sub.name ++ " " ++ mutableValue p "pinType" ++
        "=" ++ mutableValue p "pinSetting")

def metaSet (spec key value : String) : Prog Unit := do
  match splitMetaSpec spec with
  | none => fail (errorf ["cephfs: malformed metadata spec ", spec])
  | some sub =>
    orFail (← run (.metadataSet sub key value))
      ("cephfs: subvolume metadata set " ++ sub.fs ++ "/" ++ sub.name ++ " " ++ key)

def recordEncryption (params : String → String) (spec : String) : Prog Unit := do
  if params "encrypted" ≠ "true" then return ()
  else if params "encryptionKMSID" ≠ "" then
    metaSet spec "bard.encryptionKMSID" (params "encryptionKMSID")

def encryptionVolumeContext (params : String → String) : List (String × String) :=
  if params "encrypted" ≠ "true" then []
  else [("encrypted", "true"), ("encryptionType", "file")] ++
    if params "encryptionKMSID" ≠ "" then [("encryptionKMSID", params "encryptionKMSID")] else []

def createNFSExport (cc : ClusterConfig) (subPath pseudo : String) : Prog Unit := do
  if cc.nfsCluster = "" ∨ cc.nfsServer = "" then
    fail ⟨.invalidArg, ["cephfs: mounter nfs requires nfsCluster and nfsServer in instance config"]⟩
  else
    orExists (← run (.nfsExportCreate cc.nfsCluster pseudo cc.fsName subPath))
      ("cephfs: nfs export create " ++ cc.nfsCluster ++ " " ++ pseudo)

/-- Export the subvolume if the instance is mounted over NFS, and say where. -/
def exportContext (cc : ClusterConfig) (sub : SubvolumeRef) (subPath : String) :
    Prog (List (String × String)) := do
  if cc.mounter = .nfs then
    createNFSExport cc subPath ("/" ++ sub.name)
    return [("nfsServer", cc.nfsServer), ("nfsPseudo", "/" ++ sub.name)]
  else return []

/-- What is left to do once the subvolume is there. -/
def finishCreate (cc : ClusterConfig) (req : CreateVolumeRequest) (sub : SubvolumeRef) :
    Prog CreateVolumeResponse := do
  let path ← orFail (← run (.getpath sub)) ("cephfs: getpath " ++ sub.fs ++ "/" ++ sub.name)
  let subPath := Strings.trimSpace path
  setOwnerMetadata sub req.parameters ownerMeta
  applyPin sub req.mutableParams
  recordEncryption req.parameters (metaSpec sub)
  let nfs ← exportContext cc sub subPath
  return ⟨cephfsLocation cc.fsName sub.group, sub.name, req.capacityBytes,
    [("path", subPath)] ++ encryptionVolumeContext req.parameters ++ nfs⟩

def createSubvolume (b : Backend) (cc : ClusterConfig) (req : CreateVolumeRequest) :
    Prog CreateVolumeResponse := do
  let pre ← liftExcept
    (namePrefix "volumeNamePrefix" (req.parameters "volumeNamePrefix") "bard-")
  let group := resolveSubvolumeGroup req.parameters cc
  let sub : SubvolumeRef := ⟨cc.fsName, group, subvolName b pre req.name⟩
  ensureSubvolumeGroup cc.fsName group
  populate b cc req sub
  growClone req sub
  finishCreate cc req sub

theorem finishCreate_yields (cc : ClusterConfig) (req : CreateVolumeRequest)
    (sub : SubvolumeRef) :
    (finishCreate cc req sub).Yields fun resp =>
      resp.location = cephfsLocation cc.fsName sub.group ∧ resp.name = sub.name ∧
        resp.capacityBytes = req.capacityBytes := by
  unfold finishCreate
  refine Yields.bind _ fun _ => Yields.bind _ fun _ => ?_
  refine Yields.bind _ fun _ => Yields.bind _ fun _ => ?_
  exact Yields.bind _ fun _ => Yields.bind _ fun _ => ⟨rfl, rfl, rfl⟩

/-- The snapshot that a volume only refers to, if it is of that kind. -/
def CreateVolumeRequest.shallow (req : CreateVolumeRequest) : Option VolumeRef :=
  if req.parameters "backingSnapshot" = "true" then req.sourceSnapshot else none

def createVolume (b : Backend) (req : CreateVolumeRequest) : Prog CreateVolumeResponse := do
  let cc ← cluster b req.inst
  cephConn cc req.inst req.secrets
  liftExcept (validateEncryptionParams cc req.parameters req.isClone)
  liftExcept (validateMutableParams b req.mutableParams)
  match req.shallow with
  | some snap => createShallowVolume cc req snap
  | none => createSubvolume b cc req

/-- The subvolume of a volume, in the filesystem of its instance. -/
def ClusterConfig.subvolume (cc : ClusterConfig) (vol : VolumeRef) : SubvolumeRef :=
  ⟨cc.fsName, subvolumeGroupOf vol.location, vol.name⟩

def expandVolume (b : Backend) (req : ExpandVolumeRequest) : Prog ExpandVolumeResponse := do
  if Strings.hasPrefix req.volume.name shallowPrefix then
    fail ⟨.invalidArg, ["cephfs: a shallow read-only volume cannot be expanded"]⟩
  else
    let cc ← cluster b req.volume.inst
    cephConn cc req.volume.inst req.secrets
    orFail (← run (.subvolumeResize (cc.subvolume req.volume) req.newSizeBytes false))
      ("cephfs: subvolume resize " ++ cc.fsName ++ "/" ++ req.volume.name)
    return ⟨req.newSizeBytes, false⟩

/-- A quota, the quotas that snapshots were taken with, and the state of a clone. -/
structure Subvolume where
  quota : ℕ∞
  snaps : List (String × ℕ∞)
  clone : Option CloneState
deriving DecidableEq

structure World where
  subvolumes : SubvolumeRef → Option Subvolume

/-- What Ceph says of clones: how far one has come, and with which text it refuses to make one
where a subvolume is. -/
structure CloneReply where
  progress : CloneState
  taken : String

/-- What the environment decides about a request: whether it fails, whether a request that fails
took effect, and what there is to say of a clone. -/
structure Outcome extends CloneReply where
  fault : Option String
  landed : Bool

def Outcome.ok : Outcome := ⟨⟨.complete, "file exists"⟩, none, false⟩

def isAlreadyExists (text : String) : Bool :=
  let s := Strings.toLower text
  Strings.contains s "already exists" || Strings.contains s "file exists"

/-- What the plugin takes a refusal for. -/
def refusal (text : String) : RunError :=
  if isAlreadyExists text then .alreadyExists else .other text

def World.put (w : World) (sub : SubvolumeRef) (s : Option Subvolume) : World :=
  ⟨Function.update w.subvolumes sub s⟩

/-- Do something with a subvolume that has to be there. -/
def onSubvolume {α : Type} (w : World) (sub : SubvolumeRef)
    (f : Subvolume → Except RunError α × World) : Except RunError α × World :=
  match w.subvolumes sub with
  | some s => f s
  | none => (.error .notFound, w)

/-- Creating a subvolume that is there sets its quota to the size that is given. -/
def performCreate (sub : SubvolumeRef) (size : Option Int) (w : World) :
    Except RunError Unit × World :=
  match w.subvolumes sub, size with
  | some s, some n => (.ok (), w.put sub (some { s with quota := n.toNat }))
  | some _, none => (.ok (), w)
  | none, some n => (.ok (), w.put sub (some ⟨n.toNat, [], none⟩))
  | none, none => (.ok (), w.put sub (some ⟨⊤, [], none⟩))

def performResize (sub : SubvolumeRef) (size : Int) (noShrink : Bool) (w : World) :
    Except RunError Unit × World :=
  onSubvolume w sub fun s =>
    if size ≤ 0 then (.error (.other "invalid resize size"), w)
    else if noShrink ∧ size.toNat ≤ s.quota then (.ok (), w)
    else (.ok (), w.put sub (some { s with quota := size.toNat }))

def performRm (sub : SubvolumeRef) (w : World) : Except RunError Unit × World :=
  onSubvolume w sub fun s =>
    if s.snaps ≠ [] then (.error (.other "subvolume has snapshots"), w)
    else (.ok (), w.put sub none)

def performSnapshotCreate (sub : SubvolumeRef) (snap : String) (w : World) :
    Except RunError Unit × World :=
  onSubvolume w sub fun s =>
    if (s.snaps.lookup snap).isSome then (.error .alreadyExists, w)
    else (.ok (), w.put sub (some { s with snaps := (snap, s.quota) :: s.snaps }))

def performSnapshotRm (sub : SubvolumeRef) (snap : String) (w : World) :
    Except RunError Unit × World :=
  onSubvolume w sub fun s =>
    (.ok (), w.put sub (some { s with snaps := s.snaps.filter fun x => x.1 ≠ snap }))

/-- A clone starts with the quota that its snapshot was taken with. -/
def performClone (taken : String) (sub : SubvolumeRef) (snap : String) (target : SubvolumeRef)
    (w : World) : Except RunError Unit × World :=
  onSubvolume w sub fun s =>
    match s.snaps.lookup snap with
    | none => (.error .notFound, w)
    | some quota =>
      if (w.subvolumes target).isSome then (.error (refusal taken), w)
      else (.ok (), w.put target (some ⟨quota, [], some .inProgress⟩))

/-- A clone that is not done may have come further since the last look. -/
def performCloneStatus (target : SubvolumeRef) (progress : CloneState) (w : World) :
    Except RunError CloneState × World :=
  onSubvolume w target fun s =>
    match s.clone with
    | none => (.error (.other "not a clone"), w)
    | some .inProgress => (.ok progress, w.put target (some { s with clone := some progress }))
    | some state => (.ok state, w)

/-- What a request does when it works. -/
def perform (r : CloneReply) (c : Cmd) (w : World) : c.Reply × World :=
  match c with
  | .cephConn _ _ | .subvolumegroupCreate _ _ | .nfsExportCreate _ _ _ _ => (.ok (), w)
  | .subvolumeCreate sub size => performCreate sub size w
  | .subvolumeResize sub size noShrink => performResize sub size noShrink w
  | .subvolumeRm sub => performRm sub w
  | .getpath sub => onSubvolume w sub fun _ =>
      (.ok ("/volumes/" ++ sub.group ++ "/" ++ sub.name ++ "\n"), w)
  | .metadataSet sub _ _ => onSubvolume w sub fun _ => (.ok (), w)
  | .subvolumePin sub _ _ => onSubvolume w sub fun _ => (.ok (), w)
  | .snapshotCreate sub snap => performSnapshotCreate sub snap w
  | .snapshotClone sub snap target => performClone r.taken sub snap target w
  | .snapshotRm sub snap => performSnapshotRm sub snap w
  | .cloneStatus target => performCloneStatus target r.progress w

def Cmd.failed (c : Cmd) (msg : String) : c.Reply :=
  match c with
  | .getpath _ | .cloneStatus _ => .error (.other msg)
  | .cephConn _ _ | .subvolumegroupCreate _ _ | .nfsExportCreate _ _ _ _ | .subvolumeCreate _ _
  | .subvolumeResize _ _ _ | .subvolumeRm _ | .metadataSet _ _ _ | .subvolumePin _ _ _
  | .snapshotCreate _ _ | .snapshotClone _ _ _ | .snapshotRm _ _ => .error (.other msg)

def step (c : Cmd) (o : Outcome) (w : World) : c.Reply × World :=
  faulty (o.fault.map c.failed) o.landed (perform o.toCloneReply c w) w

def machine : Machine Cmd Cmd.Reply Unit Outcome World := ⟨fun _ => step⟩

/-- A step leaves the state as it is, or does what the request does when it works. -/
theorem step_state (c : Cmd) (o : Outcome) (w : World) :
    (step c o w).2 = w ∨ (step c o w).2 = (perform o.toCloneReply c w).2 :=
  faulty_state ..

theorem step_cases (c : Cmd) (o : Outcome) (w : World) :
    step c o w = perform o.toCloneReply c w ∨ ∃ msg, (step c o w).1 = c.failed msg := by
  unfold step
  cases o.fault with
  | none => exact .inl rfl
  | some msg => exact .inr ⟨msg, rfl⟩

end BardCsi.Cephfs.Provision
