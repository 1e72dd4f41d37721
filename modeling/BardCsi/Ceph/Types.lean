import BardCsi.Filesystem
import BardCsi.Strings

/-!
The data of the ceph-rbd plugin: configuration, requests, image metadata keys, key
providers, devices, and the device records that the node plane persists.
-/
namespace BardCsi.Ceph

/-- The keys of image metadata that the plugin reads or writes. -/
inductive MetaKey where
  | kmsID
  | keyID
  | wrappedDEK
  | kmipUID
  | kmipOwner
  | static
  | clusterName
  | source
  | pvcName
  | pvcNamespace
  | pvName
deriving DecidableEq, Repr

def MetaKey.text : MetaKey → Text
  | .kmsID => "bard.encryptionKMSID"
  | .keyID => "bard.encryptionKeyID"
  | .wrappedDEK => "bard.encryptionDEK"
  | .kmipUID => "bard.encryptionKMIPUID"
  | .kmipOwner => "bard.encryptionKMIPOwner"
  | .static => "bard.static"
  | .clusterName => "csi.ceph.com/cluster/name"
  | .source => "bard.source"
  | .pvcName => "bard.pvcname"
  | .pvcNamespace => "bard.pvcnamespace"
  | .pvName => "bard.pvname"

/-- A metadata key as it is stored on an image, qualified by a snapshot or not. -/
structure QKey where
  key : MetaKey
  snap : Option ObjectName
deriving DecidableEq, Repr

/-- A snapshot has no metadata of its own: its values are stored on its image under
qualified keys. -/
def metaAddr (s : Spec) (k : MetaKey) : ImageRef × QKey := (s.image, ⟨k, s.snap⟩)

inductive SecretStore where
  | vault
  | azureKV
deriving DecidableEq, Repr

/-- Where a key store outside the cluster keeps the key of a volume or snapshot. -/
structure Secret where
  store : SecretStore
  server : String
  mount : String
  pathPrefix : String
  inst : String
  spec : Spec
deriving DecidableEq, Repr

structure VaultConfig where
  addr : String
  kvMount : String
  pathPrefix : String
  authMethod : String
deriving DecidableEq, Repr

structure AzureConfig where
  vaultURL : String
  secretPrefix : String
deriving DecidableEq, Repr

inductive KeyService where
  | derived (keyDir : String)
  | secretsMetadata
  | vault (v : VaultConfig)
  | awsKMS (keyID : String)
  | azureKV (a : AzureConfig)
  | kmip (endpoint : String)
  | misconfigured (msg : String)
deriving DecidableEq, Repr

/-- A block device of the node. A decrypted view is named after its staging path. -/
inductive Device where
  | rbd (n : ℕ)
  | nbd (n : ℕ)
  | luks (stagingPath : String)
  | other (path : String)
deriving DecidableEq, Repr

def Device.text : Device → Text
  | .rbd n => "/dev/rbd" ++ toString n
  | .nbd n => "/dev/nbd" ++ toString n
  | .luks p => .tagged "/dev/mapper/bard-luks-" (.digest "sha256" p)
  | .other p => p

def Device.isNbd : Device → Bool
  | .nbd _ => true
  | _ => false

/-- The devices that the mounters create. -/
def Device.isRaw : Device → Bool
  | .rbd _ | .nbd _ => true
  | .luks _ | .other _ => false

/-- The address of a client that watches an image. -/
inductive Address where
  | node (client : ℕ)
  | foreign (addr : String)
deriving DecidableEq, Repr

/-- A watcher may be listed without an address. -/
def Address.given : Address → Bool
  | .node _ => true
  | .foreign addr => addr ≠ ""

inductive Mounter where
  | krbd
  | nbd
deriving DecidableEq, Repr

structure ClusterConfig where
  monitors : List String
  pool : String
  userID : String
  mounter : Mounter
  radosNamespace : String
  readAffinity : Bool
  clusterName : String
deriving DecidableEq, Repr

structure Backend where
  clusters : String → Option ClusterConfig
  encKeyDir : String
  stateDir : String
  providers : String → Option KeyService
  cloneDepthLimit : Int
  /-- How often the wait for a device polls before its deadline. -/
  devicePolls : ℕ

structure DeviceRecord where
  device : Device
  unmapOptions : String
  volume : ImageRef
  mounter : Mounter
  cookie : Text
  logFile : Text
  logStrategy : Text
deriving DecidableEq, Repr

/-- A record file: the current format, or the bare device path of older versions. -/
inductive RecordFile where
  | json (rec : DeviceRecord)
  | bare (device : Option Device)
deriving DecidableEq, Repr

structure NodeStageRequest where
  volume : ImageRef
  stagingPath : String
  fsType : String
  mountFlags : List String
  readonly : Bool
  block : Bool
  exclusive : Bool
  context : Params
  crushLocation : String
  secrets : Params

structure NodeUnstageRequest where
  volume : ImageRef
  stagingPath : String

structure RotateEncryptionKeyRequest where
  volume : ImageRef
  volumePath : String
  secrets : Params

structure CreateVolumeRequest where
  name : String
  capacityBytes : Int
  inst : String
  parameters : Params
  mutableParams : List (String × Text)
  secrets : Params
  sourceSnapshot : Option Spec
  sourceVolume : Option ImageRef

structure DeleteVolumeRequest where
  volume : ImageRef
  secrets : Params

structure CreateSnapshotRequest where
  name : String
  sourceVolume : ImageRef
  parameters : Params
  secrets : Params

structure DeleteSnapshotRequest where
  snapshot : Spec
  secrets : Params

structure ExpandVolumeRequest where
  volume : ImageRef
  newSizeBytes : Int
  secrets : Params

structure ModifyVolumeRequest where
  volume : ImageRef
  mutableParams : List (String × Text)
  secrets : Params

structure NodeExpandRequest where
  volume : ImageRef
  volumePath : String

end BardCsi.Ceph
