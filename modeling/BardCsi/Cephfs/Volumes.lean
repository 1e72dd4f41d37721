import BardCsi.Effect.Embed
import BardCsi.Ceph.Volumes
import BardCsi.Ceph.World

/-!
The CephFS plugin: deleting a subvolume. Its key providers are those of the ceph-rbd plugin and
keep what they record in the metadata of the subvolume. A subvolume has a size, metadata and
snapshots as an image has, and is stored as one.
-/
namespace BardCsi.Cephfs

open Effect Ceph

inductive Mounter where
  | kernel
  | fuse
  | nfs
deriving DecidableEq, Repr

structure ClusterConfig where
  fsName : String
  userID : String
  mounter : Mounter
  nfsCluster : String
deriving DecidableEq, Repr

structure Backend where
  clusters : String → Option ClusterConfig
  encKeyDir : String
  providers : String → Option KeyService

/-- The registry of key providers, bound to this backend. -/
def Backend.kms (b : Backend) : Ceph.Backend where
  clusters _ := none
  encKeyDir := b.encKeyDir
  stateDir := ""
  providers := b.providers
  cloneDepthLimit := 0
  devicePolls := 0

/-- What the plugin asks of the outside. The key providers, the metadata of subvolumes and the
files of a connection are reached as by the ceph-rbd plugin. -/
inductive Cmd where
  | host (c : Ceph.Cmd)
  | nfsExportRm (cluster : String) (pseudo : Text)
  | snapshotLs (sub : ImageRef)
  | snapshotRm (s : Spec)
  | subvolumeRm (sub : ImageRef)

def Cmd.Reply : Cmd → Type
  | .host c => c.Reply
  | .snapshotLs _ => Except RunError (List ObjectName)
  | .nfsExportRm _ _ | .snapshotRm _ | .subvolumeRm _ => Except RunError Unit

abbrev Prog (α : Type) := Program Cmd Cmd.Reply Err α

def run (c : Cmd) : Prog c.Reply := .ask c

def fail {α : Type} (e : Err) : Prog α := .fail e

/-- An error of a key provider, which names the metadata of a subvolume. -/
def hostError (e : Err) : Err :=
  match e.msg with
  | .lit "ceph-rbd: image-meta get " :: rest =>
      ⟨e.code, "cephfs: subvolume metadata get " :: rest⟩
  | .lit "ceph-rbd: image-meta set " :: rest =>
      ⟨e.code, "cephfs: subvolume metadata set " :: rest⟩
  | _ => e

def host {α : Type} (p : Ceph.Prog α) : Prog α := p.embed Cmd.host hostError

def subvolumeGroupOf (location : String) : String :=
  String.ofList ((location.toList.dropWhile (· ≠ '/')).drop 1)

def cephfsLocation (fs group : String) : String := if group = "" then fs else fs ++ "/" ++ group

/-- The subvolume of a volume, in the filesystem of its instance. -/
def ClusterConfig.subvolume (cc : ClusterConfig) (vol : ImageRef) : ImageRef :=
  { vol with location := cephfsLocation cc.fsName (subvolumeGroupOf vol.location) }

/-- The location of a subvolume has a filesystem and at most one group. -/
@[irreducible] def isSubvolume (sub : ImageRef) : Bool :=
  (Strings.split sub.location '/').length ≤ 2

section Deleting

variable {ι γ ν : Type} {ρ : ι → Type}

/-- Transient snapshots of clones that were given up would block the removal. -/
def reaping (transient : ν → Bool) (rm : ν → Program ι ρ Err (Except RunError Unit)) :
    List ν → Program ι ρ Err Unit
  | [] => .pure ()
  | n :: rest => do
      if transient n then
        let _ ← rm n
        reaping transient rm rest
      else reaping transient rm rest

theorem reaping_uses {allowed : ι → Prop} {transient : ν → Bool}
    {rm : ν → Program ι ρ Err (Except RunError Unit)}
    (h : ∀ n, transient n = true → (rm n).Uses allowed) (names : List ν) :
    (reaping transient rm names).Uses allowed := by
  induction names with
  | nil => trivial
  | cons n rest ih =>
    unfold reaping
    split_ifs with hn
    · exact (h n hn).bind fun _ => ih
    · exact ih

/-- The steps of a delete of a volume, in the cluster of its instance. -/
structure Deletion (ι : Type) (ρ : ι → Type) (γ : Type) where
  connect : γ → Program ι ρ Err Unit
  exported : γ → Bool
  removeExport : γ → Program ι ρ Err Unit
  deleteKey : γ → Program ι ρ Err Unit
  reap : γ → Program ι ρ Err Unit
  remove : γ → Program ι ρ Err Unit

/-- What is left of a delete once the export is gone. -/
def Deletion.finish (d : Deletion ι ρ γ) (cc : γ) : Program ι ρ Err Unit := do
  d.deleteKey cc
  d.reap cc
  d.remove cc

/-- The export goes first, then the key, then the subvolume. A volume that only refers to a
snapshot has nothing of its own. -/
def Deletion.delete (d : Deletion ι ρ γ) (shallow : Bool) (cluster : Program ι ρ Err γ) :
    Program ι ρ Err Unit := do
  if shallow then return ()
  else
    let cc ← cluster
    d.connect cc
    if d.exported cc then d.removeExport cc
    d.finish cc

theorem Deletion.delete_eq (d : Deletion ι ρ γ) (cc : γ) :
    d.delete false (.pure cc) = (d.connect cc).bind fun _ =>
      if d.exported cc then (d.removeExport cc).bind fun _ => d.finish cc else d.finish cc :=
  rfl

end Deleting

/-- A digest has no dash, so a prefix that ends in one is a part of the chosen name. -/
def hasPrefix (n : ObjectName) (pre : String) : Bool :=
  match n with
  | .short namePrefix _ => Strings.hasPrefix namePrefix pre
  | .plain name => Strings.hasPrefix name pre

def tmpClonePrefix : String := "clonetmp-"

def shallowPrefix : String := "shallow-"

def nfsPseudoPath (sub : ObjectName) : Text := .tagged "/" (.name sub)

def cluster (b : Backend) (inst : String) : Prog ClusterConfig :=
  clusterFor "cephfs" b.clusters inst

def userID (cc : ClusterConfig) (secrets : Params) : Text :=
  cephUser .lit cc.userID (secrets "userID")

def cephConn (cc : ClusterConfig) (inst : String) (secrets : Params) : Prog Unit := do
  orFail (← run (.host (.cephCLIConn inst (userID cc secrets)))) ["cephfs: conf: "]

/-- Read a value, telling an absent key or subvolume from a read that failed. -/
def metaGet (sub : ImageRef) (k : MetaKey) : Prog Text := do
  if isSubvolume sub then
    match ← run (.host (.imageMetaGet sub ⟨k, none⟩)) with
    | .ok v => return v
    | .error .notFound => return .empty
    | .error e =>
        fail (errorf ["cephfs: subvolume metadata get ", .spec sub.spec, " ", k.text, ": ", e.text])
  else fail (errorf ["cephfs: malformed metadata spec ", .spec sub.spec])

def removeNFSExport (cc : ClusterConfig) (pseudo : Text) : Prog Unit := do
  tolerating .notFound (← run (.nfsExportRm cc.nfsCluster pseudo))
    ["cephfs: nfs export rm " ++ cc.nfsCluster ++ " ", pseudo, ": "]

def deleteEncryptionKey (b : Backend) (sub : ImageRef) : Prog Unit := do
  let kmsID ← metaGet sub .kmsID
  if kmsID = .empty then return ()
  else host (Registry.deleteKey b.kms sub.inst kmsID sub.spec)

def reapEach (sub : ImageRef) : List ObjectName → Prog Unit :=
  reaping (hasPrefix · tmpClonePrefix) fun n => run (.snapshotRm (sub.at n))

theorem reapEach_cons (sub : ImageRef) (n : ObjectName) (rest : List ObjectName) :
    reapEach sub (n :: rest) = if hasPrefix n tmpClonePrefix then
      (run (.snapshotRm (sub.at n))).bind fun _ => reapEach sub rest else reapEach sub rest :=
  rfl

def reapTmpCloneSnaps (sub : ImageRef) : Prog Unit := do
  match ← run (.snapshotLs sub) with
  | .error _ => return ()
  | .ok names => reapEach sub names

def removeSubvolume (cc : ClusterConfig) (sub : ImageRef) : Prog Unit := do
  tolerating .notFound (← run (.subvolumeRm sub))
    ["cephfs: subvolume rm " ++ cc.fsName ++ "/", .name sub.name, ": "]

def deletion (b : Backend) (req : DeleteVolumeRequest) :
    Deletion Cmd Cmd.Reply ClusterConfig where
  connect cc := cephConn cc req.volume.inst req.secrets
  exported cc := cc.mounter = .nfs
  removeExport cc := removeNFSExport cc (nfsPseudoPath req.volume.name)
  deleteKey cc := deleteEncryptionKey b (cc.subvolume req.volume)
  reap cc := reapTmpCloneSnaps (cc.subvolume req.volume)
  remove cc := removeSubvolume cc (cc.subvolume req.volume)

def deleteVolume (b : Backend) (req : DeleteVolumeRequest) : Prog Unit :=
  (deletion b req).delete (hasPrefix req.volume.name shallowPrefix) (cluster b req.volume.inst)

/-- A subvolume with snapshots is not removed, nor one that is refused for another reason. -/
def performSubvolumeRm (pick : ℕ) (sub : ImageRef) (w : World) : Except RunError Unit × World :=
  onImage sub w fun im =>
    if im.snaps ≠ [] then refused w (.other "subvolume has snapshots")
    else if pick ≠ 0 then refused w (.other "subvolume is busy")
    else done { w with images := Function.update w.images sub none }

/-- What a request does when it works. -/
def perform (who pick : ℕ) (c : Cmd) (w : World) : c.Reply × World :=
  match c with
  | .host c => Ceph.perform who pick c w
  | .nfsExportRm _ _ => done w
  | .snapshotLs sub => onImage sub w fun im => (.ok (im.snaps.map Prod.fst), w)
  | .snapshotRm s => performSnapRm s w
  | .subvolumeRm sub => performSubvolumeRm pick sub w

def Cmd.failed (c : Cmd) (f : Fault) : Option c.Reply :=
  match c with
  | .host c => c.failed f
  | .nfsExportRm _ _ | .snapshotLs _ | .snapshotRm _ | .subvolumeRm _ => some (.error f.run)

def step (who : ℕ) (c : Cmd) (o : Outcome) (w : World) : c.Reply × World :=
  faulty (o.fault.bind c.failed) o.lands (perform who o.pick c w) w

def machine : Machine Cmd Cmd.Reply ℕ Outcome World := ⟨step⟩

theorem step_host (who : ℕ) (c : Ceph.Cmd) (o : Outcome) (w : World) :
    step who (.host c) o w = Ceph.step who c o w := rfl

/-- A step leaves the state as it is, or does what the request does when it works. -/
theorem step_state (who : ℕ) (c : Cmd) (o : Outcome) (w : World) :
    (step who c o w).2 = w ∨ (step who c o w).2 = (perform who o.pick c w).2 :=
  faulty_state ..

end BardCsi.Cephfs
