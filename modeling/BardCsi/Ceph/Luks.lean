import BardCsi.Ceph.Providers

/-!
LUKS on the node: tuning of the format, opening a device, adding and removing keyslots,
and the rotation of a volume's key.
-/
namespace BardCsi.Ceph

open Effect

def paramEncrypted : String := "encrypted"
def paramEncryptionKMSID : String := "encryptionKMSID"
def paramEncryptionType : String := "encryptionType"
def paramEncryptedDiscards : String := "encryptedDiscards"
def paramEncryptionCipher : String := "encryptionCipher"
def paramEncryptionKeySize : String := "encryptionKeySize"
def paramEncryptionSectorSize : String := "encryptionSectorSize"
def paramEncryptionIntegrity : String := "integrityMode"
def ctxEncryptionKeyID : String := "encryptionKeyID"

/-- The characters of a setting. -/
def Text.str : Text → String
  | .lit s => s
  | _ => ""

def isEncrypted (ctx : Params) : Bool := ctx paramEncrypted = .lit "true"

def isFsCrypt (ctx : Params) : Bool :=
  isEncrypted ctx && ctx paramEncryptionType = .lit "file"

/-- A cipher specification has letters, digits, dashes, underscores and colons. -/
def luksCipherPattern (s : String) : Bool :=
  1 ≤ s.toList.length && s.toList.length ≤ 64 &&
    s.toList.all fun c => c.isAlphanum || c = '_' || c = ':' || c = '-'

def luksFormatArgs (p : Params) : Except Err (List String) := do
  let cipher := Strings.trimSpace (Text.str (p paramEncryptionCipher))
  let keySize := Strings.trimSpace (Text.str (p paramEncryptionKeySize))
  let sectorSize := Strings.trimSpace (Text.str (p paramEncryptionSectorSize))
  let integrity := Strings.trimSpace (Text.str (p paramEncryptionIntegrity))
  let cipherArgs ←
    if cipher = "" then pure []
    else if luksCipherPattern cipher then pure ["--cipher", cipher]
    else throw ⟨.invalidArg, ["ceph-rbd: invalid encryptionCipher ", cipher]⟩
  let keySizeArgs ←
    if keySize = "" then pure []
    else match Strings.atoi keySize with
      | some n =>
        if n ≤ 0 ∨ n % 8 ≠ 0 then
          throw ⟨.invalidArg, ["ceph-rbd: invalid encryptionKeySize ", keySize,
            " (want a positive multiple of 8, in bits)"]⟩
        else pure ["--key-size", toString n]
      | none =>
        throw ⟨.invalidArg, ["ceph-rbd: invalid encryptionKeySize ", keySize,
          " (want a positive multiple of 8, in bits)"]⟩
  let sectorSizeArgs ←
    if sectorSize = "" then pure []
    else if sectorSize ∈ ["512", "1024", "2048", "4096"] then
      pure ["--sector-size", sectorSize]
    else throw ⟨.invalidArg, ["ceph-rbd: invalid encryptionSectorSize ", sectorSize,
      " (want 512, 1024, 2048, or 4096)"]⟩
  let integrityArgs ←
    if integrity = "" then pure []
    else if integrity ∈ ["hmac-sha256", "hmac-sha512", "aead"] then
      pure ["--integrity", integrity]
    else throw ⟨.invalidArg, ["ceph-rbd: invalid integrityMode ", integrity,
      " (want hmac-sha256, hmac-sha512, or aead)"]⟩
  return cipherArgs ++ keySizeArgs ++ sectorSizeArgs ++ integrityArgs

def validateLuksTuning (p : Params) : Except Err Unit := do
  let _ ← luksFormatArgs p
  if p paramEncryptionType = .lit "file" ∧
      ∃ k ∈ [paramEncryptionCipher, paramEncryptionKeySize, paramEncryptionSectorSize,
        paramEncryptionIntegrity], p k ≠ .empty then
    throw ⟨.invalidArg, ["ceph-rbd: LUKS tuning (encryptionCipher/encryptionKeySize/" ++
      "encryptionSectorSize/integrityMode) is not supported with encryptionType=file (fscrypt)"]⟩
  else if Strings.trimSpace (Text.str (p paramEncryptionIntegrity)) ≠ "" ∧
      p paramEncryptedDiscards = .lit "true" then
    throw ⟨.invalidArg, ["ceph-rbd: integrityMode is incompatible with encryptedDiscards " ++
      "(dm-integrity does not support discard)"]⟩
  else return ()

def liftExcept {α : Type} : Except Err α → Prog α
  | .ok a => .pure a
  | .error e => .fail e

def luksActive (stagingPath : String) : Prog Bool := do
  let status ← run (.luksStatus stagingPath)
  return status.err.isNone && status.out.isSome

def tempKeyFile (pass : Text) : Prog Unit := do
  orFail (← run (.tempKeyFile pass)) ["ceph-rbd: luks keyfile: "]

/-- Format a device that holds no header. -/
def formatLuks (dev : Device) (pass : Text) (formatArgs : List String) : Prog Unit := do
  match ← run (.isLuks dev) with
  | .ok () => return ()
  | .error _ =>
    orFail (← run (.luksFormat dev pass formatArgs)) ["ceph-rbd: luksFormat ", dev.text, ": "]

def openLuks (dev : Device) (stagingPath : String) (pass : Text) (allowDiscards : Bool) :
    Prog Unit := do
  if ← luksActive stagingPath then
    return ()
  else
    orFail (← run (.luksOpen dev stagingPath pass allowDiscards))
      ["ceph-rbd: luks open ", dev.text, " -> ", (Device.luks stagingPath).text, ": "]

/-- Format the device on first use, then open it under the name of the staging path. -/
def ensureLuksOpen (dev : Device) (stagingPath : String) (pass : Text)
    (allowDiscards : Bool) (formatArgs : List String) : Prog Unit := do
  tempKeyFile pass
  formatLuks dev pass formatArgs
  openLuks dev stagingPath pass allowDiscards

def closeLuks (stagingPath : String) : Prog Unit := do
  if ← luksActive stagingPath then
    orFail (← run (.luksClose stagingPath))
      ["ceph-rbd: luks close ", (Device.luks stagingPath).text, ": "]
  else return ()

def volumePassphrase (b : Backend) (req : NodeStageRequest) : Prog Text :=
  let spec := req.volume.spec
  let keyID := if req.context ctxEncryptionKeyID = .empty then .spec spec
    else req.context ctxEncryptionKeyID
  Registry.passphrase b req.volume.inst (req.context paramEncryptionKMSID) spec keyID
    req.secrets

/-- The device to format and mount: the decrypted view of an encrypted volume, else the
raw device. -/
def stageDevice (b : Backend) (req : NodeStageRequest) (rawDev : Device) : Prog Device := do
  if !isEncrypted req.context || isFsCrypt req.context then
    return rawDev
  else
    let pass ← volumePassphrase b req
    let allowDiscards := req.context paramEncryptedDiscards = .lit "true"
    let formatArgs ← liftExcept (luksFormatArgs req.context)
    ensureLuksOpen rawDev req.stagingPath pass allowDiscards formatArgs
    return .luks req.stagingPath

def luksAddKey (dev : Device) (oldPass newPass : Text) : Prog Unit := do
  tempKeyFile oldPass
  tempKeyFile newPass
  orFail (← run (.luksAddKey dev oldPass newPass))
    ["ceph-rbd: luks add key on ", dev.text, ": "]

def luksRemoveKey (dev : Device) (pass : Text) : Prog Unit := do
  tempKeyFile pass
  match ← run (.luksRemoveKey dev pass) with
  | .ok () => return ()
  | .error .noKeyAvailable => return ()
  | .error e => fail (errorf ["ceph-rbd: luks remove key on ", dev.text, ": ", e.text])

def encryptionDescriptor (spec : Spec) : Prog (Text × Text) := do
  let kmsID ← imageMetaGetChecked spec .kmsID
  let keyID ← imageMetaGetChecked spec .keyID
  return (kmsID, if keyID = .empty then .spec spec else keyID)

def recordOf (vol : ImageRef) : RecordFile → Option DeviceRecord
  | .json rec => if rec.volume = vol then some rec else none
  | .bare _ => none

/-- The record of a staged volume, found by its handle. -/
def findStagedDevice (b : Backend) (vol : ImageRef) : Prog (Option DeviceRecord) := do
  if b.stateDir = "" then return none
  else
    match ← run .listRecords with
    | .error _ => return none
    | .ok files => return files.findSome? fun file => recordOf vol file.2

def rotationBackingDevice (b : Backend) (req : RotateEncryptionKeyRequest) :
    Prog Device := do
  if req.volumePath ≠ "" then
    let src ← run (.findmntTarget req.volumePath)
    match src.err, src.out with
    | some e, _ =>
      fail (errorf ["ceph-rbd: resolve device for ", req.volumePath, ": ", e.text])
    | none, some (.luks p) =>
      let status ← run (.luksStatus p)
      match status.err, status.out with
      | some e, _ =>
        fail (errorf ["ceph-rbd: cryptsetup status ", (Device.luks p).text, ": ", e.text])
      | none, some dev => return dev
      | none, none =>
        fail (errorf ["ceph-rbd: no backing device for dm-crypt ", (Device.luks p).text])
    | none, _ =>
      fail ⟨.invalidArg, ["ceph-rbd: ", req.volumePath, " is not a LUKS-encrypted volume; " ++
        "key rotation applies to block (LUKS) encryption"]⟩
  else
    match ← findStagedDevice b req.volume with
    | none => fail ⟨.notFound, ["ceph-rbd: volume ", .spec req.volume.spec,
        " is not staged on this node; key rotation is a node operation and needs the " ++
        "volume mounted"]⟩
    | some rec =>
      match ← run (.isLuks rec.device) with
      | .error _ => fail ⟨.invalidArg, ["ceph-rbd: volume ", .spec req.volume.spec,
          " is not LUKS-encrypted; key rotation applies to block (LUKS) encryption"]⟩
      | .ok () => return rec.device

def rotateEncryptionKey (b : Backend) (req : RotateEncryptionKeyRequest) : Prog Unit := do
  let backing ← rotationBackingDevice b req
  let cc ← cluster b req.volume.inst
  connArgs cc req.volume.inst req.secrets
  let spec := req.volume.spec
  let (kmsID, keyID) ← encryptionDescriptor spec
  let oldPass ← Registry.passphrase b req.volume.inst kmsID spec keyID req.secrets
  Registry.rotateKey b req.volume.inst kmsID spec req.secrets fun newPass =>
    luksAddKey backing oldPass newPass
  luksRemoveKey backing oldPass

end BardCsi.Ceph
