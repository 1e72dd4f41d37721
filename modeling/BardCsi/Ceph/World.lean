import BardCsi.Assoc
import BardCsi.Ceph.Commands
import Mathlib.Logic.Function.Basic
import Mathlib.Tactic.SplitIfs

/-!
The outside world of the plugin: one or more Ceph clusters, the key stores, and one
node. `perform` is what each request does when it works. A request may also fail, and a
failed request may have taken effect or not.
-/
namespace BardCsi.Ceph

open Effect

structure Snapshot where
  sizeMiB : Int
  content : Content
deriving DecidableEq

structure Image where
  sizeMiB : Int
  info : QKey → Text
  content : Content
  snaps : List (ObjectName × Snapshot)

/-- A device mapping. `live` is false for a userspace map whose server has died. -/
structure Mapping where
  image : ImageRef
  client : ℕ
  live : Bool
deriving DecidableEq

structure World where
  seq : ℕ
  master : String → Option String
  images : ImageRef → Option Image
  namespaces : List (String × String × String)
  foreign : ImageRef → List String
  snapIndex : List (String × ImageRef)
  snapNames : List (Spec × String)
  secrets : Secret → Option Text
  kmip : String → Text → Option Text
  mapped : List (Device × Mapping)
  mappers : List (String × Device)
  mounts : List (String × Device)
  records : List (String × RecordFile)
  blocked : List Address
  /-- The device of the node's own filesystem that a path lies on. -/
  below : String → String
  /-- The sizes of the devices that the plugin has nothing to do with. -/
  disks : String → ℕ

namespace World

def setImage (w : World) (i : ImageRef) (im : Image) : World :=
  { w with images := Function.update w.images i (some im) }

def imageOf (w : World) (d : Device) : Option ImageRef :=
  (Assoc.get w.mapped d).map Mapping.image

/-- What a device holds: the data of the image it maps, or the decrypted view of the
device below it. -/
def contentOf (w : World) : Device → Option Content
  | .luks p => do
      let d ← Assoc.get w.mappers p
      let i ← w.imageOf d
      let im ← w.images i
      return im.content.inner
  | d => do
      let i ← w.imageOf d
      let im ← w.images i
      return im.content

/-- The type of the filesystem mounted at a path. -/
def fstypeAt (w : World) (p : String) : String :=
  match (Assoc.get w.mounts p).bind w.contentOf with
  | some (.filesystem t) => t
  | _ => ""

/-- Write a device. Through a decrypted view the header below stays as it is. -/
def writeContent (w : World) (d : Device) (c : Content) : Option World :=
  match d with
  | .luks p => do
      let d' ← Assoc.get w.mappers p
      let i ← w.imageOf d'
      let im ← w.images i
      return w.setImage i { im with content := .luks im.content.slots c }
  | d => do
      let i ← w.imageOf d
      let im ← w.images i
      return w.setImage i { im with content := c }

/-- A mounted or encrypted device cannot be unmapped. -/
def held (w : World) (d : Device) : Bool :=
  w.mounts.any (fun m => m.2 == d) || w.mappers.any (fun m => m.2 == d)

/-- The clients that watch an image: the maps of this node, and those of other nodes. -/
def watchers (w : World) (i : ImageRef) : List Address :=
  ((w.mapped.filter fun m => m.2.image = i).map fun m => .node m.2.client) ++
    (w.foreign i).map .foreign

/-- The userspace maps that have a server. -/
def liveNbd (w : World) : List Device :=
  (w.mapped.filter fun m => m.1.isNbd && m.2.live).map Prod.fst

end World

/-- A world without volumes, keys and devices. -/
def World.start : World where
  seq := 0
  master _ := some "master"
  images _ := none
  namespaces := []
  foreign _ := []
  snapIndex := []
  snapNames := []
  secrets _ := none
  kmip _ _ := none
  mapped := []
  mappers := []
  mounts := []
  records := []
  blocked := []
  below _ := "/dev/sda1"
  disks path := if path = "/dev/sda1" then 1 else 0

/-- A new image. -/
def Image.new (sizeMiB : Int) : Image := ⟨sizeMiB, fun _ => .empty, .blank, []⟩

/-- An HTTP status that reports a failure. -/
structure FailStatus where
  code : ℕ
  failure : code ∉ [200, 204, 404]

inductive Fault where
  | error (text : String)
  | status (s : FailStatus)

def Fault.run : Fault → RunError
  | .error t => .other t
  | .status s => .other (toString s.code)

/-- A request that the server rejects for its token has no effect. -/
def Fault.mayLand : Fault → Bool
  | .error _ => true
  | .status s => s.code ≠ 401 && s.code ≠ 403

/-- What the environment decides about one request: whether it fails, whether a failed
request took effect, and which device number a map gets. -/
structure Outcome where
  fault : Option Fault
  landed : Bool
  pick : ℕ

def Outcome.ok : Outcome := ⟨none, false, 0⟩

/-- The request took effect, whatever it replied. -/
def Outcome.lands (o : Outcome) : Bool := o.fault.all fun f => o.landed && f.mayLand

def done (w : World) : Except RunError Unit × World := (.ok (), w)

def refused {α : Type} (w : World) (e : RunError) : Except RunError α × World := (.error e, w)

/-- An update of the state that may be impossible. -/
def orRefused (r : Option World) (w : World) : Except RunError Unit × World :=
  match r with
  | some w' => done w'
  | none => refused w .notFound

def performFs (c : FsCmd Device) (w : World) : c.Reply × World :=
  match c with
  | .blkid d =>
      match w.contentOf d with
      | some c => (⟨c.blkid, if c.blkid = "" then some (.other "exit status 2") else none⟩, w)
      | none => (⟨"", some (.other "exit status 2")⟩, w)
  | .mkfs t _ d =>
      orRefused (w.writeContent d (.filesystem t)) w
  | .mkdirAll _ => done w
  | .findmntMountpoint p => (⟨Assoc.get w.mounts p, none⟩, w)
  | .mount _ _ d p =>
      match w.contentOf d with
      | some (.filesystem _) => done { w with mounts := Assoc.set w.mounts p d }
      | _ => refused w (.other "wrong fs type")
  | .xfsGrowfs _ => done w
  | .btrfsResizeMax _ => done w
  | .resize2fs _ => done w

def World.putSecret (w : World) (s : Secret) (v : Option Text) : World :=
  { w with secrets := Function.update w.secrets s v }

/-- The answer to a delete. Vault does not tell whether there was a secret. -/
def SecretStore.deleted : SecretStore → Option Text → ℕ
  | .vault, _ => 204
  | .azureKV, some _ => 200
  | .azureKV, none => 404

def performSecret (s : Secret) (m : SecretMethod) (w : World) :
    Except RunError HttpResponse × World :=
  match m with
  | .get =>
      match w.secrets s with
      | some p => (.ok ⟨200, p⟩, w)
      | none => (.ok ⟨404, .empty⟩, w)
  | .write p createOnly =>
      if createOnly ∧ (w.secrets s).isSome then (.ok ⟨400, .empty⟩, w)
      else (.ok ⟨200, .empty⟩, w.putSecret s (some p))
  | .delete => (.ok ⟨s.store.deleted (w.secrets s), .empty⟩, w.putSecret s none)

/-- A request about an image that may be missing. -/
def onImage {α : Type} (i : ImageRef) (w : World)
    (f : Image → Except RunError α × World) : Except RunError α × World :=
  match w.images i with
  | none => refused w .notFound
  | some im => f im

/-- A new image with the data of a snapshot and the current metadata of its image. -/
def performClone (parent : Spec) (i : ImageRef) (w : World) : Except RunError Unit × World :=
  onImage parent.image w fun im =>
    match parent.snap.bind (Assoc.get im.snaps) with
    | none => refused w .notFound
    | some s =>
      if (w.images i).isSome then refused w .alreadyExists
      else done (w.setImage i ⟨s.sizeMiB, im.info, s.content, []⟩)

def performRm (pick : ℕ) (i : ImageRef) (w : World) : Except RunError Unit × World :=
  onImage i w fun im =>
    if im.snaps ≠ [] then refused w (.other "image has snapshots - not removing")
    else if w.watchers i ≠ [] then refused w (.other "image still has watchers")
    else if pick ≠ 0 then refused w .linkedClones
    else done { w with images := Function.update w.images i none }

/-- The device that a map with the given number gets. -/
def Mounter.device : Mounter → ℕ → Device
  | .krbd, n => .rbd n
  | .nbd, n => .nbd n

def performMap (pick : ℕ) (m : Mounter) (i : ImageRef) (w : World) :
    Except RunError Device × World :=
  let d := m.device pick
  if (w.images i).isNone then refused w .notFound
  else if (Assoc.get w.mapped d).isSome then refused w (.other "device in use")
  else (.ok d, { w with mapped := Assoc.set w.mapped d ⟨i, w.seq, true⟩, seq := w.seq + 1 })

def performUnmap (m : Mounter) (d : Device) (w : World) : Except RunError Unit × World :=
  match m, d with
  | .krbd, .rbd _ | .nbd, .nbd _ =>
      if (Assoc.get w.mapped d).isNone then refused w (.other "not mapped")
      else if w.held d then refused w (.other "device is busy")
      else done { w with mapped := Assoc.erase w.mapped d }
  | _, _ => refused w (.other "not a mapped device")

def performAttach (d : Device) (i : ImageRef) (w : World) : Except RunError Unit × World :=
  match Assoc.get w.mapped d with
  | some ⟨_, _, false⟩ =>
      done { w with mapped := Assoc.set w.mapped d ⟨i, w.seq, true⟩, seq := w.seq + 1 }
  | _ => refused w (.other "cannot attach")

/-- Rewrite the keyslots of the header on a device. -/
def withHeader (d : Device) (w : World)
    (f : List Text → Except RunError (List Text)) : Except RunError Unit × World :=
  match w.contentOf d with
  | some (.luks slots inner) =>
      match f slots with
      | .error e => refused w e
      | .ok slots' =>
        orRefused (w.writeContent d (.luks slots' inner)) w
  | _ => refused w (.other "not a LUKS device")

def performLuksOpen (d : Device) (p : String) (pass : Text) (w : World) :
    Except RunError Unit × World :=
  match w.contentOf d, Assoc.get w.mappers p with
  | some c, none =>
      if pass ∈ c.slots then done { w with mappers := Assoc.set w.mappers p d }
      else refused w .noKeyAvailable
  | _, _ => refused w (.other "cannot open")

/-- Resizing takes a key that opens the header of the device behind the mapping. -/
def performLuksResize (p : String) (pass : Text) (w : World) : Except RunError Unit × World :=
  match (Assoc.get w.mappers p).bind w.contentOf with
  | some c => if pass ∈ c.slots then done w else refused w .noKeyAvailable
  | none => refused w (.other "not active")

def performLuksClose (p : String) (w : World) : Except RunError Unit × World :=
  if w.held (.luks p) then refused w (.other "device is busy")
  else if (Assoc.get w.mappers p).isNone then refused w (.other "not active")
  else done { w with mappers := Assoc.erase w.mappers p }

def performClaim (name : String) (source : ImageRef) (handle : Spec) (w : World) :
    Bool × World :=
  if (Assoc.get w.snapIndex name).any (· ≠ source) then (false, w)
  else (true, { w with
    snapIndex := Assoc.set w.snapIndex name source
    snapNames := Assoc.set w.snapNames handle name })

def performRelease (handle : Spec) (w : World) : Except RunError Unit × World :=
  match Assoc.get w.snapNames handle with
  | some name => done { w with
      snapIndex := Assoc.erase w.snapIndex name
      snapNames := Assoc.erase w.snapNames handle }
  | none => done w

def performMetaGet (i : ImageRef) (q : QKey) (w : World) : Except RunError Text × World :=
  onImage i w fun im =>
    if im.info q = .empty then refused w .notFound else (.ok (im.info q), w)

def performMetaSet (i : ImageRef) (q : QKey) (v : Text) (w : World) :
    Except RunError Unit × World :=
  onImage i w fun im => done (w.setImage i { im with info := Function.update im.info q v })

def performCreate (i : ImageRef) (size : Int) (w : World) : Except RunError Unit × World :=
  if (w.images i).isSome then refused w .alreadyExists
  else done (w.setImage i (.new size))

def performSnapCreate (i : ImageRef) (s : ObjectName) (w : World) :
    Except RunError Unit × World :=
  onImage i w fun im =>
    if (Assoc.get im.snaps s).isSome then refused w .alreadyExists
    else done (w.setImage i
      { im with snaps := Assoc.set im.snaps s ⟨im.sizeMiB, im.content⟩ })

def performSnapRm (s : Spec) (w : World) : Except RunError Unit × World :=
  onImage s.image w fun im =>
    match s.snap with
    | none => refused w .notFound
    | some n =>
      if (Assoc.get im.snaps n).isNone then refused w .notFound
      else done (w.setImage s.image { im with snaps := Assoc.erase im.snaps n })

def performResize (i : ImageRef) (size : Int) (w : World) : Except RunError Unit × World :=
  onImage i w fun im =>
    if size < im.sizeMiB then refused w (.other "shrinking an image is not allowed")
    else done (w.setImage i { im with sizeMiB := size })

/-- Read a value that may be missing. -/
def orNotFound {α : Type} (r : Option α) (w : World) : Except RunError α × World :=
  match r with
  | some a => (.ok a, w)
  | none => refused w .notFound

def performDecrypt (key : String) (b : Text) (w : World) : Except RunError Text × World :=
  match b with
  | .blob key' dek =>
      if key' = key then (.ok dek, w) else refused w (.other "IncorrectKeyException")
  | _ => refused w (.other "InvalidCiphertextException")

def World.setKmip (w : World) (e : String) (u : Text) (p : Option Text) : World :=
  { w with kmip := Function.update w.kmip e (Function.update (w.kmip e) u p) }

def performDestroy (e : String) (u : Text) (w : World) : Except RunError Unit × World :=
  match w.kmip e u with
  | some _ => done (w.setKmip e u none)
  | none => refused w .notFound

/-- The size of a device. A decrypted view has one while it is open. -/
def World.sizeOf (w : World) (d : Device) : ℕ :=
  if (Assoc.get w.mapped d).isSome then 1
  else match d with
    | .luks p => if (Assoc.get w.mappers p).isSome then 1 else 0
    | .other path => w.disks path
    | .rbd _ | .nbd _ => 0

def performGetsize (d : Device) (w : World) : Output ℕ × World :=
  if w.sizeOf d > 0 then (⟨w.sizeOf d, none⟩, w) else (⟨0, some .notFound⟩, w)

def performIsLuks (d : Device) (w : World) : Except RunError Unit × World :=
  match w.contentOf d with
  | some (.luks _ _) => done w
  | _ => refused w (.other "exit status 1")

def performLuksStatus (p : String) (w : World) : Output (Option Device) × World :=
  match Assoc.get w.mappers p with
  | some d => (⟨some d, none⟩, w)
  | none => (⟨none, some (.other "is inactive")⟩, w)

def performUmount (p : String) (w : World) : Except RunError Unit × World :=
  if (Assoc.get w.mounts p).isNone then refused w .notMounted
  else done { w with mounts := Assoc.erase w.mounts p }

/-- What a request does when it works. `who` is the caller. -/
def perform (who pick : ℕ) (c : Cmd) (w : World) : c.Reply × World :=
  match c with
  | .connArgs _ _ => done w
  | .cephCLIConn _ _ => done w
  | .readMasterKey _ inst => orNotFound (w.master inst) w
  | .rand => (.ok (.minted who w.seq), { w with seq := w.seq + 1 })
  | .tempKeyFile _ => done w
  | .imageMetaGet i q => performMetaGet i q w
  | .imageMetaSet i q v => performMetaSet i q v w
  | .imageMetaRemove i q => performMetaSet i q .empty w
  | .rbdInfo i => onImage i w fun im => (.ok im.sizeMiB, w)
  | .rbdCreate i size _ => performCreate i size w
  | .rbdClone parent i _ => performClone parent i w
  | .rbdSnapCreate i s => performSnapCreate i s w
  | .rbdSnapRm s => performSnapRm s w
  | .rbdSnapLs i => onImage i w fun im => (.ok (im.snaps.map Prod.fst), w)
  | .rbdResize i size => performResize i size w
  | .rbdRm i => performRm pick i w
  | .rbdChildren _ => (.ok [], w)
  | .rbdConfigImage i _ _ => onImage i w fun _ => done w
  | .namespaceLs inst pool =>
      (.ok ((w.namespaces.filter fun n => n.1 = inst ∧ n.2.1 = pool).map fun n => n.2.2), w)
  | .namespaceCreate inst pool n =>
      done { w with namespaces := (inst, pool, n) :: w.namespaces }
  | .backgroundFlatten _ _ => done w
  | .claimSnapName name source handle => performClaim name source handle w
  | .releaseSnapName handle => performRelease handle w
  | .secret s m => performSecret s m w
  | .awsGenerateDataKey k =>
      (.ok (.minted who w.seq, .blob k (.minted who w.seq)), { w with seq := w.seq + 1 })
  | .awsDecrypt k b => performDecrypt k b w
  | .kmipRegister e p =>
      (.ok (.uid who w.seq),
        { w.setKmip e (.uid who w.seq) (some p) with seq := w.seq + 1 })
  | .kmipGet e u => orNotFound (w.kmip e u) w
  | .kmipDestroy e u => performDestroy e u w
  | .readRecord p => orNotFound (Assoc.get w.records p) w
  | .writeRecord p r => done { w with records := Assoc.set w.records p (.json r) }
  | .removeRecord p => done { w with records := Assoc.erase w.records p }
  | .listRecords => (.ok w.records, w)
  | .blockdevGetsize d => performGetsize d w
  | .rbdMap m i _ _ _ _ => performMap pick m i w
  | .rbdUnmap m d _ => performUnmap m d w
  | .nbdListMapped => (.ok w.liveNbd, w)
  | .nbdAttach d _ i => performAttach d i w
  | .rbdStatus i => onImage i w fun _ => (.ok (w.watchers i), w)
  | .blocklistAdd a => done { w with blocked := a :: w.blocked }
  | .isLuks d => performIsLuks d w
  | .luksFormat d p _ => orRefused (w.writeContent d (.luks [p] .blank)) w
  | .luksStatus p => performLuksStatus p w
  | .luksOpen d p pass _ => performLuksOpen d p pass w
  | .luksClose p => performLuksClose p w
  | .luksAddKey d old new => withHeader d w fun slots =>
      if old ∈ slots then .ok (slots ++ [new]) else .error .noKeyAvailable
  | .luksRemoveKey d p => withHeader d w fun slots =>
      if p ∈ slots then .ok (slots.erase p) else .error .noKeyAvailable
  | .luksResize p pass => performLuksResize p pass w
  | .findmntTarget p =>
      (⟨some ((Assoc.get w.mounts p).getD (.other (w.below p))), none⟩, w)
  | .findmntFstype p => (⟨w.fstypeAt p, none⟩, w)
  | .umount p => performUmount p w
  | .fs c => performFs c w
  | .setupFscrypt _ _ => done w
  | .disposeLog _ _ => done w

def FsCmd.failed (c : FsCmd Device) (f : Fault) : c.Reply :=
  match c with
  | .blkid _ => ⟨"", some f.run⟩
  | .findmntMountpoint _ => ⟨none, some f.run⟩
  | .mkfs _ _ _ | .mkdirAll _ | .mount _ _ _ _ | .xfsGrowfs _ | .btrfsResizeMax _
  | .resize2fs _ => .error f.run

def httpFailed : Fault → Except RunError HttpResponse
  | .error t => .error (.other t)
  | .status s => .ok ⟨s.code, .empty⟩

/-- The reply of a request that fails. The index in memory does not fail. -/
def Cmd.failed (c : Cmd) (f : Fault) : Option c.Reply :=
  match c with
  | .claimSnapName _ _ _ | .releaseSnapName _ => none
  | .secret _ _ => some (httpFailed f)
  | .blockdevGetsize _ => some ⟨0, some f.run⟩
  | .luksStatus _ => some ⟨none, some f.run⟩
  | .findmntTarget _ => some ⟨none, some f.run⟩
  | .findmntFstype _ => some ⟨"", some f.run⟩
  | .fs c => some (FsCmd.failed c f)
  | .connArgs _ _ | .cephCLIConn _ _ | .readMasterKey _ _ | .rand | .tempKeyFile _
  | .imageMetaGet _ _ | .imageMetaSet _ _ _ | .imageMetaRemove _ _ | .rbdInfo _
  | .rbdCreate _ _ _ | .rbdClone _ _ _ | .rbdSnapCreate _ _ | .rbdSnapRm _ | .rbdSnapLs _
  | .rbdResize _ _ | .rbdRm _ | .rbdChildren _ | .rbdConfigImage _ _ _ | .namespaceLs _ _
  | .namespaceCreate _ _ _ | .backgroundFlatten _ _ | .awsGenerateDataKey _ | .awsDecrypt _ _
  | .kmipRegister _ _ | .kmipGet _ _ | .kmipDestroy _ _ | .readRecord _ | .writeRecord _ _
  | .removeRecord _ | .listRecords | .rbdMap _ _ _ _ _ _ | .rbdUnmap _ _ _ | .nbdListMapped
  | .nbdAttach _ _ _ | .rbdStatus _ | .blocklistAdd _ | .isLuks _ | .luksFormat _ _ _
  | .luksOpen _ _ _ _ | .luksClose _ | .luksAddKey _ _ _ | .luksRemoveKey _ _ | .luksResize _ _
  | .umount _ | .setupFscrypt _ _ | .disposeLog _ _ => some (.error f.run)

def step (who : ℕ) (c : Cmd) (o : Outcome) (w : World) : c.Reply × World :=
  faulty (o.fault.bind c.failed) o.lands (perform who o.pick c w) w

def machine : Machine Cmd Cmd.Reply ℕ Outcome World := ⟨step⟩

/-- A request works, or it fails with the reply of a failure and may have taken effect. -/
theorem step_cases (who : ℕ) (c : Cmd) (o : Outcome) (w : World) :
    step who c o w = perform who o.pick c w ∨
      ∃ f, o.fault = some f ∧ c.failed f = some (step who c o w).1 ∧
        ((step who c o w).2 = w ∨
          (step who c o w).2 = (perform who o.pick c w).2 ∧ o.landed = true ∧
            f.mayLand = true) := by
  obtain h | ⟨f, hf, hreply, h⟩ :=
    faulty_cases o.fault c.failed o.lands (perform who o.pick c w) w
  · exact .inl h
  · refine .inr ⟨f, hf, hreply, h.imp_right fun ⟨h, hlands⟩ => ⟨h, ?_⟩⟩
    simpa [Outcome.lands, hf] using hlands

/-- A step leaves the state as it is, or does what the request does when it works. -/
theorem step_state (who : ℕ) (c : Cmd) (o : Outcome) (w : World) :
    (step who c o w).2 = w ∨ (step who c o w).2 = (perform who o.pick c w).2 :=
  faulty_state ..

theorem step_state_of_perform {who : ℕ} {c : Cmd} {o : Outcome} {w : World}
    (h : (perform who o.pick c w).2 = w) : (step who c o w).2 = w := by
  obtain h' | h' := step_state who c o w
  · exact h'
  · exact h'.trans h

end BardCsi.Ceph
