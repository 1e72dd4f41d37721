import BardCsi.Assoc
import BardCsi.Ceph.Node

/-!
The control plane: creating volumes, plain, from a snapshot or from another volume, deleting
them, and creating and deleting snapshots. A clone and a snapshot inherit the encryption
descriptor of their source.
-/
namespace BardCsi.Ceph

open Effect

def mib : Int := 1024 * 1024

def paramPool : String := "pool"
def paramRadosNamespace : String := "radosNamespace"
def paramVolumeNamePrefix : String := "volumeNamePrefix"
def paramSnapshotNamePrefix : String := "snapshotNamePrefix"
def paramImageFeatures : String := "imageFeatures"
def paramStripeUnit : String := "stripeUnit"
def paramStripeCount : String := "stripeCount"
def paramObjectSize : String := "objectSize"
def paramDataPool : String := "dataPool"

def volNamePrefix : String := "csi-vol-"
def snapNamePrefix : String := "csi-snap-"

/-- The name of the transient snapshot that a clone of a volume rides on. -/
def tmpClonePrefix : String := "clonetmp-"

structure CreateVolumeResponse where
  volume : ImageRef
  capacityBytes : Int
  context : Params

structure CreateSnapshotResponse where
  snapshot : Spec
  sizeBytes : Int
deriving DecidableEq

def rbdMutableParams : List (String × String) :=
  [("qosIopsLimit", "rbd_qos_iops_limit"), ("qosBpsLimit", "rbd_qos_bps_limit"),
    ("qosReadIopsLimit", "rbd_qos_read_iops_limit"),
    ("qosWriteIopsLimit", "rbd_qos_write_iops_limit"),
    ("qosReadBpsLimit", "rbd_qos_read_bps_limit"),
    ("qosWriteBpsLimit", "rbd_qos_write_bps_limit")]

def validateMutableParams : List (String × Text) → Except Err Unit
  | [] => .ok ()
  | (k, _) :: rest =>
      match Assoc.get rbdMutableParams k with
      | none => .error ⟨.invalidArg, ["ceph-rbd: unsupported mutable parameter ", k]⟩
      | some _ => validateMutableParams rest

def validateCephLogStrategy (p : Params) : Except Err Unit :=
  if p paramCephLogStrategy ∈ [Text.lit "", "remove", "compress", "preserve"] then .ok ()
  else .error ⟨.invalidArg, ["ceph-rbd: invalid cephLogStrategy ", p paramCephLogStrategy,
    " (remove|compress|preserve)"]⟩

/-- A prefix becomes part of an object name, which must not hold a separator. -/
def namePrefix (param : String) (value : Text) (default : String) : Except Err String :=
  if value = .empty then .ok default
  else if Strings.containsAny (Text.str value) "/@ \t\n" then
    .error ⟨.invalidArg, ["ceph-rbd: invalid " ++ param ++ " ", value,
      " (no '/', '@', or whitespace)"]⟩
  else .ok (Text.str value)

def volumeImagePrefix (value : Text) : Except Err String :=
  namePrefix paramVolumeNamePrefix value volNamePrefix

/-- The value of 64 bits that a sum leaves. -/
def wrap64 (n : Int) : Int := Int.bmod n 18446744073709551616

def bytesToMiB (n : Int) : Int := if n ≤ 0 then 1 else (wrap64 (n + mib - 1)).tdiv mib

def locator (pool radosNamespace : String) : String :=
  if radosNamespace = "" then pool else pool ++ "/" ++ radosNamespace

/-- A setting of the request, else the one of the cluster. -/
def settingOr (p : Params) (key default : String) : String :=
  if p key = .empty then default else Text.str (p key)

def ensureNamespace (inst pool radosNamespace : String) : Prog Unit := do
  let existing ← orFail (← run (.namespaceLs inst pool))
    ["ceph-rbd: rbd namespace ls " ++ pool ++ ": "]
  if radosNamespace ∈ existing then return ()
  else
    orFail (← run (.namespaceCreate inst pool radosNamespace))
      ["ceph-rbd: rbd namespace create " ++ pool ++ "/" ++ radosNamespace ++ ": "]

/-- The size of an image, or nothing if there is no such image. -/
def imageInfo (i : ImageRef) : Prog (Option Int) := do
  match ← run (.rbdInfo i) with
  | .ok size => return some size
  | .error .notFound => return none
  | .error e => fail (errorf ["ceph-rbd: info ", .spec i.spec, ": ", e.text])

/-- The size of an image that has to exist. -/
def existingInfo (i : ImageRef) : Prog Int := do
  match ← imageInfo i with
  | some size => return size
  | none => fail (errorf ["ceph-rbd: image not found"])

def resizeImage (i : ImageRef) (sizeMiB : Int) : Prog Unit := do
  orFail (← run (.rbdResize i sizeMiB)) ["ceph-rbd: resize ", .spec i.spec, ": "]

def listSnaps (i : ImageRef) : Prog (List ObjectName) := do
  match ← run (.rbdSnapLs i) with
  | .ok snaps => return snaps
  | .error .notFound => return []
  | .error e => fail (errorf ["ceph-rbd: rbd snap ls ", .spec i.spec, ": ", e.text])

def dataPoolArgs (p : Params) : List Text :=
  if p paramDataPool = .empty then [] else ["--data-pool", p paramDataPool]

def flag (p : Params) (param name : String) : List Text :=
  if p param = .empty then [] else [name, p param]

def createParams (p : Params) : List Text :=
  flag p paramImageFeatures "--image-feature" ++ flag p paramStripeUnit "--stripe-unit" ++
    flag p paramStripeCount "--stripe-count" ++ flag p paramObjectSize "--object-size" ++
    dataPoolArgs p

def backgroundFlatten (i : ImageRef) (depthGated : Bool) : Prog Unit := do
  let _ : Except RunError Unit ← run (.backgroundFlatten i depthGated)
  return ()

def scheduleFlatten (b : Backend) (i : ImageRef) : Prog Unit :=
  if b.cloneDepthLimit ≤ 0 then .pure () else backgroundFlatten i true

def applyMutableParams (i : ImageRef) : List (String × Text) → Prog Unit
  | [] => .pure ()
  | (k, v) :: rest => do
      let rbdKey := (Assoc.get rbdMutableParams k).getD ""
      match ← run (.rbdConfigImage i rbdKey v) with
      | .ok () => pure ()
      | .error e =>
        if v = .empty ∧ e = .notFound then pure ()
        else
          fail (errorf ["ceph-rbd: set " ++ rbdKey ++ "=", v, " on ", .spec i.spec, ": ", e.text])
      applyMutableParams i rest

namespace CreateVolumeRequest

variable (req : CreateVolumeRequest)

/-- The source snapshot, addressed in the cluster of the request. -/
def snapshot : Option Spec :=
  req.sourceSnapshot.map fun s => ⟨{ s.image with inst := req.inst }, s.snap⟩

/-- The source volume, addressed in the cluster of the request. -/
def source : Option ImageRef := req.sourceVolume.map fun i => { i with inst := req.inst }

def isClone : Bool := req.sourceSnapshot.isSome || req.sourceVolume.isSome

/-- A request with both sources is a restore. -/
def sourceDesc : Text :=
  match req.snapshot, req.source with
  | some s, _ => .tagged "snap:" (.spec s)
  | none, some i => .tagged "vol:" (.spec i.spec)
  | none, none => .empty

def tmpSnap : ObjectName := shortName tmpClonePrefix req.name

/-- The image that carries the descriptor of the source. -/
def cloneSourceImage : Option ImageRef :=
  match req.snapshot with
  | some s => some s.image
  | none => req.source

end CreateVolumeRequest

/-- The first of two values that is not empty. -/
def inherited (first second : Spec) (key : MetaKey) : Prog Text := do
  let v ← imageMetaGetChecked first key
  if v ≠ .empty then return v
  else imageMetaGetChecked second key

def imageMetaSetNonEmpty (s : Spec) (k : MetaKey) (v : Text) : Prog Unit :=
  if v ≠ .empty then imageMetaSet s k v else .pure ()

/-- The inheritance of a clone, reading each value from `first` and then from `second`. -/
def inheritFrom (b : Backend) (inst : String) (source clone first second : Spec) : Prog Text := do
  let recorded ← inherited first second .keyID
  let keyID := if recorded = .empty then .spec source else recorded
  imageMetaSet clone .keyID keyID
  let kmsID ← inherited first second .kmsID
  imageMetaSetNonEmpty clone .kmsID kmsID
  let dek ← inherited first second .wrappedDEK
  imageMetaSetNonEmpty clone .wrappedDEK dek
  if kmsID ≠ .empty then
    Registry.cloneKey b inst kmsID source clone
    return keyID
  else return keyID

/-- Give a clone or snapshot its source's descriptor, and a copy of its key where the provider
keeps it outside the image. The captured descriptor of a snapshot counts more than what the
clone has. -/
def inheritEncryption (b : Backend) (inst : String) (source clone : Spec) : Prog Text :=
  if source.snap.isSome then inheritFrom b inst source clone source clone
  else inheritFrom b inst source clone clone source

/-- A restore inherits from its snapshot if that has captured a descriptor, else from the
image, as does a clone of a volume. -/
def encryptionSourceSpec (snapshot : Option Spec) (image : ImageRef) : Prog Spec :=
  match snapshot with
  | none => .pure image.spec
  | some s => do
      let kmsID ← imageMetaGetChecked s .kmsID
      if kmsID ≠ .empty then return s else return image.spec

def provision (b : Backend) (req : CreateVolumeRequest) (i : ImageRef) (sizeMiB : Int) :
    Prog Unit :=
  match req.snapshot, req.source with
  | some parent, _ => do
      orFail (← run (.rbdClone parent i (dataPoolArgs req.parameters))) ["ceph-rbd: clone: "]
      imageMetaSet i.spec .source req.sourceDesc
      scheduleFlatten b i
  | none, some parent => do
      tolerating .alreadyExists (← run (.rbdSnapCreate parent req.tmpSnap))
        ["ceph-rbd: temp snapshot ", .spec (parent.at req.tmpSnap), ": "]
      tolerating .alreadyExists
        (← run (.rbdClone (parent.at req.tmpSnap) i (dataPoolArgs req.parameters)))
        ["ceph-rbd: clone: "]
      imageMetaSet i.spec .source req.sourceDesc
  | none, none => do
      tolerating .alreadyExists (← run (.rbdCreate i sizeMiB (createParams req.parameters)))
        ["ceph-rbd: create: "]

/-- An image that exists already is the result of the request if it has the same source and a
size that fits. -/
def resumeImage (req : CreateVolumeRequest) (i : ImageRef) (existingMiB sizeMiB : Int) :
    Prog Int := do
  let recorded ← imageMetaGet i.spec .source
  if recorded ≠ .empty ∧ recorded ≠ req.sourceDesc then
    fail ⟨.alreadyExists, ["volume ", req.name, " exists with a different content source (",
      recorded, ")"]⟩
  else if existingMiB = sizeMiB then return existingMiB
  else if !req.isClone then
    fail ⟨.alreadyExists, ["volume ", req.name,
      " exists at " ++ toString existingMiB ++ "MiB, requested " ++ toString sizeMiB ++ "MiB"]⟩
  else if existingMiB < sizeMiB then
    resizeImage i sizeMiB
    return sizeMiB
  else return existingMiB

def provisionImage (b : Backend) (req : CreateVolumeRequest) (i : ImageRef) (sizeMiB : Int) :
    Prog Int := do
  provision b req i sizeMiB
  if req.isClone then
    let cloneMiB ← existingInfo i
    if cloneMiB < sizeMiB then
      resizeImage i sizeMiB
      return sizeMiB
    else return cloneMiB
  else return sizeMiB

/-- The transient snapshot is dropped on the fresh and on the resumed path. -/
def dropTmpSnap (req : CreateVolumeRequest) (i : ImageRef) : Prog Unit :=
  match req.source with
  | none => .pure ()
  | some parent => do
      tolerating .notFound (← run (.rbdSnapRm (parent.at req.tmpSnap)))
        ["ceph-rbd: temp snapshot rm ", .spec (parent.at req.tmpSnap), ": "]
      backgroundFlatten i false

/-- The key identity to advertise, empty if the node can tell it from the volume. -/
def recordEncryption (b : Backend) (req : CreateVolumeRequest) (i : ImageRef) : Prog Text :=
  if req.parameters paramEncrypted = .lit "true" then
    match req.cloneSourceImage with
    | some image => do
        let src ← encryptionSourceSpec req.snapshot image
        inheritEncryption b req.inst src i.spec
    | none => do
        imageMetaSetNonEmpty i.spec .kmsID (req.parameters paramEncryptionKMSID)
        return .empty
  else .pure .empty

def ownerMeta : List (String × MetaKey) :=
  [("csi.storage.k8s.io/pvc/name", .pvcName), ("csi.storage.k8s.io/pvc/namespace", .pvcNamespace),
    ("csi.storage.k8s.io/pv/name", .pvName)]

/-- Labels never fail a request. -/
def imageMetaLabel (s : Spec) (k : MetaKey) (v : Text) : Prog Unit :=
  if v ≠ .empty then do
    let _ : Except Err Unit ← (imageMetaSet s k v).attempt
    return ()
  else .pure ()

def setOwnerMetadata (i : ImageRef) (params : Params) : List (String × MetaKey) → Prog Unit
  | [] => .pure ()
  | (src, key) :: rest => do
      imageMetaLabel i.spec key (params src)
      setOwnerMetadata i params rest

/-- The settings that the node needs. Those of encryption go along only for an encrypted
volume, and a flag only if it is set. -/
def volumeContext (req : CreateVolumeRequest) (pool : String) (i : ImageRef) (encKeyID : Text) :
    Params := fun key =>
  if key = "pool" then pool
  else if key = "imageName" then .name i.name
  else if key ∈ [paramMapOptions, paramUnmapOptions, paramMkfsOptions, paramCephLogDir,
      paramCephLogStrategy] then req.parameters key
  else if key = paramTryOtherMounters then
    if req.parameters key = .lit "true" then "true" else .empty
  else if req.parameters paramEncrypted ≠ .lit "true" then .empty
  else if key = paramEncrypted then "true"
  else if key = paramEncryptedDiscards then
    if req.parameters key = .lit "true" then "true" else .empty
  else if key ∈ [paramEncryptionKMSID, paramEncryptionType, paramEncryptionCipher,
      paramEncryptionKeySize, paramEncryptionSectorSize, paramEncryptionIntegrity] then
    req.parameters key
  else if key = ctxEncryptionKeyID then encKeyID
  else .empty

def createSized (b : Backend) (req : CreateVolumeRequest) (i : ImageRef) (sizeMiB : Int) :
    Prog Int := do
  match ← imageInfo i with
  | some existingMiB => resumeImage req i existingMiB sizeMiB
  | none => provisionImage b req i sizeMiB

def createImage (b : Backend) (req : CreateVolumeRequest) (i : ImageRef) : Prog Int :=
  createSized b req i (bytesToMiB req.capacityBytes)

/-- What a create does once it has the image. -/
def finishVolume (b : Backend) (req : CreateVolumeRequest) (i : ImageRef) (cc : ClusterConfig)
    (pool : String) (finalMiB : Int) : Prog CreateVolumeResponse := do
  dropTmpSnap req i
  applyMutableParams i req.mutableParams
  let encKeyID ← recordEncryption b req i
  setOwnerMetadata i req.parameters ownerMeta
  imageMetaLabel i.spec .clusterName cc.clusterName
  return ⟨i, finalMiB * mib, volumeContext req pool i encKeyID⟩

/-- What a create does once it knows the image. -/
def createAt (b : Backend) (cc : ClusterConfig) (req : CreateVolumeRequest) (pool : String)
    (i : ImageRef) : Prog CreateVolumeResponse := do
  finishVolume b req i cc pool (← createImage b req i)

/-- A create, given what it does with the pool and the image that the request is about. -/
def createVolumeWith (b : Backend) (req : CreateVolumeRequest)
    (create : ClusterConfig → String → ImageRef → Prog CreateVolumeResponse) :
    Prog CreateVolumeResponse := do
  let cc ← cluster b req.inst
  liftExcept (validateMutableParams req.mutableParams)
  liftExcept (validateLuksTuning req.parameters)
  liftExcept (validateCephLogStrategy req.parameters)
  let pool := settingOr req.parameters paramPool cc.pool
  if pool = "" then
    fail (errorf ["ceph-rbd: no pool given in parameters or cluster config"])
  else
    let radosNamespace := settingOr req.parameters paramRadosNamespace cc.radosNamespace
    let pre ← liftExcept (volumeImagePrefix (req.parameters paramVolumeNamePrefix))
    connArgs cc req.inst req.secrets
    if radosNamespace ≠ "" then
      ensureNamespace req.inst pool radosNamespace
    create cc pool ⟨req.inst, locator pool radosNamespace, shortName pre req.name⟩

def createVolume (b : Backend) (req : CreateVolumeRequest) : Prog CreateVolumeResponse :=
  createVolumeWith b req fun cc pool i => createAt b cc req pool i

def flattenEach : List ImageRef → Prog Unit
  | [] => .pure ()
  | i :: rest => do
      backgroundFlatten i false
      flattenEach rest

/-- Clones that still hang on a deleted snapshot are detached so that the retry can succeed. -/
def flattenChildren (i : ImageRef) : Prog Unit := do
  match ← run (.rbdChildren i) with
  | .error _ => return ()
  | .ok children => flattenEach children

/-- The key goes before the image, so that a retry still finds its descriptor. An image with
snapshots keeps both. -/
def deleteVolumeKey (b : Backend) (i : ImageRef) : Prog Unit := do
  let kmsID ← imageMetaGetChecked i.spec .kmsID
  if kmsID = .empty then return ()
  else
    let snaps ← listSnaps i
    if snaps ≠ [] then
      fail (errorf ["ceph-rbd: rm ", .spec i.spec, ": image has " ++ toString snaps.length ++
        " snapshot(s) - not removing (delete its VolumeSnapshots first)"])
    else Registry.deleteKey b i.inst kmsID i.spec

def removeImage (i : ImageRef) : Prog Unit := do
  match ← run (.rbdRm i) with
  | .ok () => return ()
  | .error .notFound => return ()
  | .error .linkedClones =>
    flattenChildren i
    fail (errorf ["ceph-rbd: rm ", .spec i.spec, ": ", RunError.linkedClones.text])
  | .error e => fail (errorf ["ceph-rbd: rm ", .spec i.spec, ": ", e.text])

def deleteVolume (b : Backend) (req : DeleteVolumeRequest) : Prog Unit := do
  let cc ← cluster b req.volume.inst
  connArgs cc req.volume.inst req.secrets
  let static ← imageMetaGetChecked req.volume.spec .static
  if static = .lit "true" then return ()
  else
    deleteVolumeKey b req.volume
    removeImage req.volume

/-- An encrypted volume's snapshot owns a copy of the key its header was written with. -/
def captureKey (b : Backend) (source : ImageRef) (snap : Spec) : Prog Unit := do
  let kmsID ← imageMetaGetChecked source.spec .kmsID
  if kmsID ≠ .empty then
    let _ ← inheritEncryption b source.inst source.spec snap
    return ()
  else return ()

def createSnapshot (b : Backend) (req : CreateSnapshotRequest) : Prog CreateSnapshotResponse := do
  let source := req.sourceVolume
  let cc ← cluster b source.inst
  let pre ← liftExcept (namePrefix paramSnapshotNamePrefix
    (req.parameters paramSnapshotNamePrefix) snapNamePrefix)
  let snap := source.at (shortName pre req.name)
  let claimed : Bool ← run (.claimSnapName req.name source snap)
  if claimed = false then
    fail ⟨.alreadyExists, ["snapshot ", req.name,
      " already exists for a different source volume"]⟩
  else
    connArgs cc source.inst req.secrets
    tolerating .alreadyExists (← run (.rbdSnapCreate source (shortName pre req.name)))
      ["ceph-rbd: snap create ", .spec snap, ": "]
    captureKey b source snap
    let sizeMiB ← existingInfo source
    return ⟨snap, sizeMiB * mib⟩

def descriptorKeys : List MetaKey := [.wrappedDEK, .kmipUID, .kmipOwner, .keyID, .kmsID]

def removeDescriptor (s : Spec) : List MetaKey → Prog Unit
  | [] => .pure ()
  | k :: rest => do
      imageMetaRemove s k
      removeDescriptor s rest

/-- The descriptor of a snapshot lives on its image and outlives the snapshot. -/
def deleteSnapshotKey (b : Backend) (s : Spec) : Prog Unit := do
  let kmsID ← imageMetaGetChecked s .kmsID
  if kmsID = .empty then return ()
  else
    Registry.deleteKey b s.image.inst kmsID s
    removeDescriptor s descriptorKeys

def deleteSnapshot (b : Backend) (req : DeleteSnapshotRequest) : Prog Unit := do
  let s := req.snapshot
  let cc ← cluster b s.image.inst
  connArgs cc s.image.inst req.secrets
  tolerating .notFound (← run (.rbdSnapRm s)) ["ceph-rbd: snap rm ", .spec s, ": "]
  deleteSnapshotKey b s
  let _ : Except RunError Unit ← run (.releaseSnapName s)
  return ()

end BardCsi.Ceph
