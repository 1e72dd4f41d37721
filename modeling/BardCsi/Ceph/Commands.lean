import BardCsi.Ceph.Types

/-!
Everything the plugin asks of the outside: the `rbd` and `ceph` tools, the key stores,
the tools of the node, and the files of the state directory. Each request has its own
type of reply.
-/
namespace BardCsi.Ceph

open Effect

inductive SecretMethod where
  | get
  | write (value : Text) (createOnly : Bool)
  | delete
deriving DecidableEq, Repr

structure HttpResponse where
  status : ℕ
  body : Text
deriving DecidableEq, Repr

inductive Cmd where
  -- local preparation
  | connArgs (inst : String) (user : Text)
  | cephCLIConn (inst : String) (user : Text)
  | readMasterKey (keyDir inst : String)
  | rand
  | tempKeyFile (pass : Text)
  -- images
  | imageMetaGet (i : ImageRef) (q : QKey)
  | imageMetaSet (i : ImageRef) (q : QKey) (v : Text)
  | imageMetaRemove (i : ImageRef) (q : QKey)
  | rbdInfo (i : ImageRef)
  | rbdCreate (i : ImageRef) (sizeMiB : Int) (args : List Text)
  | rbdClone (parent : Spec) (i : ImageRef) (args : List Text)
  | rbdSnapCreate (i : ImageRef) (snap : ObjectName)
  | rbdSnapRm (s : Spec)
  | rbdSnapLs (i : ImageRef)
  | rbdResize (i : ImageRef) (sizeMiB : Int)
  | rbdRm (i : ImageRef)
  | rbdChildren (i : ImageRef)
  | rbdConfigImage (i : ImageRef) (key : String) (v : Text)
  | namespaceLs (inst pool : String)
  | namespaceCreate (inst pool namespace_ : String)
  | backgroundFlatten (i : ImageRef) (depthGated : Bool)
  -- the index of snapshot names kept in memory
  | claimSnapName (name : String) (source : ImageRef) (handle : Spec)
  | releaseSnapName (handle : Spec)
  -- key stores
  | secret (s : Secret) (m : SecretMethod)
  | awsGenerateDataKey (keyID : String)
  | awsDecrypt (keyID : String) (blob : Text)
  | kmipRegister (endpoint : String) (pass : Text)
  | kmipGet (endpoint : String) (uid : Text)
  | kmipDestroy (endpoint : String) (uid : Text)
  -- the node
  | readRecord (stagingPath : String)
  | writeRecord (stagingPath : String) (rec : DeviceRecord)
  | removeRecord (stagingPath : String)
  | listRecords
  | blockdevGetsize (dev : Device)
  | rbdMap (mounter : Mounter) (i : ImageRef) (options cookie logFile : Text) (readOnly : Bool)
  | rbdUnmap (mounter : Mounter) (dev : Device) (options : String)
  | nbdListMapped
  | nbdAttach (dev : Device) (cookie : Text) (i : ImageRef)
  | rbdStatus (i : ImageRef)
  | blocklistAdd (a : Address)
  | isLuks (dev : Device)
  | luksFormat (dev : Device) (pass : Text) (args : List String)
  | luksStatus (stagingPath : String)
  | luksOpen (dev : Device) (stagingPath : String) (pass : Text) (allowDiscards : Bool)
  | luksClose (stagingPath : String)
  | luksAddKey (dev : Device) (oldPass newPass : Text)
  | luksRemoveKey (dev : Device) (pass : Text)
  | luksResize (stagingPath : String) (pass : Text)
  | findmntTarget (path : String)
  | findmntFstype (path : String)
  | umount (path : String)
  | fs (c : FsCmd Device)
  | setupFscrypt (stagingPath : String) (pass : Text)
  | disposeLog (logFile strategy : Text)

def Cmd.Reply : Cmd → Type
  | .readMasterKey _ _ => Except RunError String
  | .rand => Except RunError Text
  | .imageMetaGet _ _ => Except RunError Text
  | .rbdInfo _ => Except RunError Int
  | .rbdSnapLs _ => Except RunError (List ObjectName)
  | .rbdChildren _ => Except RunError (List ImageRef)
  | .namespaceLs _ _ => Except RunError (List String)
  | .claimSnapName _ _ _ => Bool
  | .secret _ _ => Except RunError HttpResponse
  | .awsGenerateDataKey _ => Except RunError (Text × Text)
  | .awsDecrypt _ _ => Except RunError Text
  | .kmipRegister _ _ => Except RunError Text
  | .kmipGet _ _ => Except RunError Text
  | .readRecord _ => Except RunError RecordFile
  | .listRecords => Except RunError (List (String × RecordFile))
  | .blockdevGetsize _ => Output ℕ
  | .rbdMap _ _ _ _ _ _ => Except RunError Device
  | .nbdListMapped => Except RunError (List Device)
  | .rbdStatus _ => Except RunError (List Address)
  | .luksStatus _ => Output (Option Device)
  | .findmntTarget _ => Output (Option Device)
  | .findmntFstype _ => Output String
  | .fs c => c.Reply
  | _ => Except RunError Unit

abbrev Prog (α : Type) := Program Cmd Cmd.Reply Err α

def run (c : Cmd) : Prog c.Reply := .ask c

def retryOnce (c : Cmd) (again : c.Reply → Bool) : Prog c.Reply := .retryOnce c again

/-- The tools that the staging functions shared by the block plugins run. -/
def tool (c : FsCmd Device) : Prog c.Reply := run (.fs c)

def fail {α : Type} (e : Err) : Prog α := .fail e

def imageMetaSet (s : Spec) (k : MetaKey) (v : Text) : Prog Unit := do
  orFail (← run (.imageMetaSet (metaAddr s k).1 (metaAddr s k).2 v))
    ["ceph-rbd: image-meta set ", .spec s, " ", k.text, ": "]

/-- Read a value, telling an absent key or image from a read that failed. -/
def imageMetaGetChecked (s : Spec) (k : MetaKey) : Prog Text := do
  match ← run (.imageMetaGet (metaAddr s k).1 (metaAddr s k).2) with
  | .ok v => return v
  | .error .notFound => return .empty
  | .error e => fail (errorf ["ceph-rbd: image-meta get ", .spec s, " ", k.text, ": ", e.text])

def imageMetaGet (s : Spec) (k : MetaKey) : Prog Text := do
  match ← (imageMetaGetChecked s k).attempt with
  | .ok v => return v
  | .error _ => return .empty

def imageMetaRemove (s : Spec) (k : MetaKey) : Prog Unit := do
  match ← run (.imageMetaRemove (metaAddr s k).1 (metaAddr s k).2) with
  | .ok () => return ()
  | .error .notFound => return ()
  | .error e =>
    fail (errorf ["ceph-rbd: image-meta remove ", .spec s, " ", k.text, ": ", e.text])

def cluster (b : Backend) (inst : String) : Prog ClusterConfig :=
  clusterFor "ceph-rbd" b.clusters inst

def userID (cc : ClusterConfig) (secrets : Params) : Text :=
  cephUser .lit cc.userID (secrets "userID")

def connArgs (cc : ClusterConfig) (inst : String) (secrets : Params) : Prog Unit := do
  orFail (← run (.connArgs inst (userID cc secrets))) ["ceph-rbd: keyfile: "]

end BardCsi.Ceph
