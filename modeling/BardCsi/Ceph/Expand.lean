import BardCsi.Ceph.Volumes

/-!
Growing and tuning a volume that exists. The image grows first, then on the node the decrypted
mapping and the filesystem. The mapping needs the key of the volume, which is resolved from what
the image records.
-/
namespace BardCsi.Ceph

open Effect

structure ExpandVolumeResponse where
  capacityBytes : Int
  nodeExpansionRequired : Bool
deriving DecidableEq, Repr

def expandVolume (b : Backend) (req : ExpandVolumeRequest) : Prog ExpandVolumeResponse := do
  let cc ← cluster b req.volume.inst
  connArgs cc req.volume.inst req.secrets
  let sizeMiB := bytesToMiB req.newSizeBytes
  resizeImage req.volume sizeMiB
  return ⟨sizeMiB * mib, true⟩

def modifyVolume (b : Backend) (req : ModifyVolumeRequest) : Prog Unit := do
  liftExcept (validateMutableParams req.mutableParams)
  let cc ← cluster b req.volume.inst
  connArgs cc req.volume.inst req.secrets
  match ← imageInfo req.volume with
  | none => fail ⟨.notFound, ["ceph-rbd: image ", .spec req.volume.spec, " not found"]⟩
  | some _ => applyMutableParams req.volume req.mutableParams

def noSecrets : Params := fun _ => .empty

/-- Grow the mapping of a staging path. No secrets of a request reach this call. -/
def resizeLuks (b : Backend) (vol : ImageRef) (stagingPath : String) : Prog Unit := do
  let cc ← cluster b vol.inst
  connArgs cc vol.inst noSecrets
  let (kmsID, keyID) ← encryptionDescriptor vol.spec
  let pass ← Registry.passphrase b vol.inst kmsID vol.spec keyID noSecrets
  tempKeyFile pass
  orFail (← run (.luksResize stagingPath pass)) ["ceph-rbd: grow LUKS mapping ",
    .tagged "bard-luks-" (.digest "sha256" stagingPath), ": "]

def growMapping (b : Backend) (vol : ImageRef) : Device → Prog Unit
  | .luks stagingPath => resizeLuks b vol stagingPath
  | _ => .pure ()

def nodeExpand (b : Backend) (req : NodeExpandRequest) : Prog Unit := do
  let src ← run (.findmntTarget req.volumePath)
  match src.err with
  | some e => fail (errorf ["ceph-rbd: resolve device for ", req.volumePath, ": ", e.text])
  | none =>
    let dev := src.out.getD (.other "")
    growMapping b req.volume dev
    let fsType ← run (.findmntFstype req.volumePath)
    growFilesystem tool "ceph-rbd" Device.text fsType.out dev req.volumePath

end BardCsi.Ceph
