import BardCsi.Ceph.Luks

/-!
The node plane: mapping an image, staging and unstaging a volume, fencing stale watchers,
and the healer that reattaches userspace maps after a restart of the plugin.
-/
namespace BardCsi.Ceph

open Effect

def paramMapOptions : String := "mapOptions"
def paramUnmapOptions : String := "unmapOptions"
def paramTryOtherMounters : String := "tryOtherMounters"
def paramMkfsOptions : String := "mkfsOptions"
def paramCephLogDir : String := "cephLogDir"
def paramCephLogStrategy : String := "cephLogStrategy"

/-- A clone has the filesystem identifier of its source, which xfs refuses by default. -/
def mountFlagsForFs (fsType : String) (flags : List String) : List String :=
  if fsType ≠ "xfs" then flags
  else if flags.any fun f => Strings.trimSpace f = "nouuid" then flags
  else flags ++ ["nouuid"]

def mkfsArgsForFs (fsType mkfsOptions : String) (fsCrypt : Bool) : List String :=
  let args :=
    if Strings.trimSpace mkfsOptions ≠ "" then Strings.fields mkfsOptions
    else match fsType with
      | "ext4" | "ext3" => ["-m0", "-Enodiscard,lazy_itable_init=1,lazy_journal_init=1"]
      | "ext2" => ["-m0", "-Enodiscard,lazy_itable_init=1"]
      | "xfs" => ["-K"]
      | _ => []
  if fsCrypt then args ++ ["-O", "encrypt"] else args

/-- The part of one segment that applies to a mounter. -/
def mounterSegment (mounter : Mounter) (seg : String) : Option String :=
  if seg = "" then none
  else if Strings.hasPrefix seg "krbd:" then
    if mounter = .krbd then some (Strings.trimSpace (Strings.dropFirst seg 5)) else none
  else if Strings.hasPrefix seg "nbd:" then
    if mounter = .nbd then some (Strings.trimSpace (Strings.dropFirst seg 4)) else none
  else some seg

def resolveMounterOptions (raw : String) (mounter : Mounter) : String :=
  Strings.join "," ((Strings.split (Strings.trimSpace raw) ';').filterMap fun seg =>
    mounterSegment mounter (Strings.trimSpace seg))

def readAffinityOptions (cc : ClusterConfig) (crushLocation : String) : String :=
  if !cc.readAffinity || crushLocation = "" || cc.mounter = .nbd then ""
  else "read_from_replica=localize,crush_location=" ++ crushLocation

def combineOptions (opts : List String) : String := Strings.join "," (opts.filter (· ≠ ""))

def nbdLogFile (dir : Text) (vol : ImageRef) : Text :=
  if dir = .empty then .empty
  else .tagged (Text.str dir ++ "/rbd-nbd-" ++
    String.map (fun c => if c = '/' then '-' else c) vol.location ++ "-%s.log") (.name vol.name)

def nbdCookie (stagingPath : String) : Text := .digest "bard-nbd:" stagingPath

def mapImage (mounter : Mounter) (vol : ImageRef) (mapOptions : String) (cookie logFile : Text)
    (readOnly : Bool) : Prog (Except RunError Device) :=
  match mounter with
  | .krbd => run (.rbdMap .krbd vol mapOptions .empty .empty readOnly)
  | .nbd => run (.rbdMap .nbd vol mapOptions cookie logFile readOnly)

/-- The device and the mounter that mapped it: the configured one, or rbd-nbd when krbd
fails and the volume allows it. -/
def mapWithFallback (cc : ClusterConfig) (req : NodeStageRequest) (cookie : Text) :
    Prog (Device × Mounter) := do
  let primary := cc.mounter
  let raw := Text.str (req.context paramMapOptions)
  let mapOpts := combineOptions
    [readAffinityOptions cc req.crushLocation, resolveMounterOptions raw primary]
  let logFile := nbdLogFile (req.context paramCephLogDir) req.volume
  match ← mapImage primary req.volume mapOpts cookie logFile req.readonly with
  | .ok dev => return (dev, primary)
  | .error err =>
    if primary = .nbd ∨ req.context paramTryOtherMounters ≠ .lit "true" then
      fail (errorf ["ceph-rbd: map ", .spec req.volume.spec, ": ", err.text])
    else
      match ← mapImage .nbd req.volume (resolveMounterOptions raw .nbd) cookie logFile
        req.readonly with
      | .ok dev => return (dev, .nbd)
      | .error nbdErr =>
        fail (errorf ["ceph-rbd: map ", .spec req.volume.spec, ": krbd failed (", err.text,
          ") and rbd-nbd fallback failed: ", nbdErr.text])

def recordDevice (b : Backend) (stagingPath : String) (rec : DeviceRecord) : Prog Unit := do
  if b.stateDir = "" then return ()
  else
    orFail (← run (.writeRecord stagingPath rec)) ["ceph-rbd: record device: "]

/-- The record of a staging path, if one can be read. -/
def readDeviceRecord (b : Backend) (stagingPath : String) : Prog (Option RecordFile) := do
  if b.stateDir = "" then return none
  else
    match ← run (.readRecord stagingPath) with
    | .ok file => return some file
    | .error _ => return none

namespace RecordFile

def device : RecordFile → Option Device
  | .json rec => some rec.device
  | .bare d => d

def unmapOptions : RecordFile → String
  | .json rec => rec.unmapOptions
  | .bare _ => ""

/-- Older records are of maps by krbd. -/
def mounter : RecordFile → Mounter
  | .json rec => rec.mounter
  | .bare _ => .krbd

end RecordFile

def lookupDevice (b : Backend) (stagingPath : String) : Prog (Option Device) := do
  return (← readDeviceRecord b stagingPath).bind RecordFile.device

def clearDevice (b : Backend) (stagingPath : String) : Prog Unit := do
  if b.stateDir = "" then return ()
  else
    let _ : Except RunError Unit ← run (.removeRecord stagingPath)
    return ()

/-- The size of the device is polled until it is not zero or the time is up. -/
def waitForDevice (dev : Device) : ℕ → Prog Unit
  | 0 => do
      let probe ← run (.blockdevGetsize dev)
      if probe.out > 0 then return ()
      else fail (errorf ["ceph-rbd: device ", dev.text, " not ready (size 0) after timeout"])
  | polls + 1 => do
      let probe ← run (.blockdevGetsize dev)
      if probe.out > 0 then return ()
      else waitForDevice dev polls

def deviceMapped (dev : Device) : Prog Bool := do
  let probe ← run (.blockdevGetsize dev)
  return probe.err.isNone && probe.out > 0

/-- The recorded device, if it is still mapped. -/
def recordedDevice (b : Backend) (stagingPath : String) : Prog (Option Device) := do
  match ← lookupDevice b stagingPath with
  | none => return none
  | some dev => if ← deviceMapped dev then return some dev else return none

def blocklistAll (vol : ImageRef) : List Address → Prog Unit
  | [] => .pure ()
  | a :: rest => do
      if a.given then
        orFail (← run (.blocklistAdd a))
          ["ceph-rbd: blocklist stale watcher on ", .spec vol.spec, ": "]
      blocklistAll vol rest

def fenceStaleWatchers (cc : ClusterConfig) (vol : ImageRef) (secrets : Params) :
    Prog Unit := do
  let watchers ← orFail (← run (.rbdStatus vol)) ["ceph-rbd: rbd status ", .spec vol.spec, ": "]
  if watchers = [] then return ()
  else
    orFail (← run (.cephCLIConn vol.inst (userID cc secrets))) ["ceph-rbd: conf: "]
    blocklistAll vol watchers

def newRecord (req : NodeStageRequest) (dev : Device) (mounter : Mounter) : DeviceRecord :=
  let logFile := nbdLogFile (req.context paramCephLogDir) req.volume
  let logged := mounter = .nbd ∧ logFile ≠ .empty
  { device := dev
    unmapOptions := resolveMounterOptions (Text.str (req.context paramUnmapOptions)) mounter
    volume := req.volume
    mounter := mounter
    cookie := nbdCookie req.stagingPath
    logFile := if logged then logFile else .empty
    logStrategy := if logged then req.context paramCephLogStrategy else .empty }

def fenceExclusive (cc : ClusterConfig) (req : NodeStageRequest) : Prog Unit :=
  if req.exclusive then fenceStaleWatchers cc req.volume req.secrets else .pure ()

/-- A fresh map: fence an exclusive volume, map it, wait for the device, record it. -/
def mapFresh (b : Backend) (cc : ClusterConfig) (req : NodeStageRequest) : Prog Device := do
  fenceExclusive cc req
  let (dev, mounter) ← mapWithFallback cc req (nbdCookie req.stagingPath)
  waitForDevice dev b.devicePolls
  recordDevice b req.stagingPath (newRecord req dev mounter)
  return dev

/-- The device of a stage: the recorded one if it is still mapped, else a fresh map. -/
def mappedDevice (b : Backend) (cc : ClusterConfig) (req : NodeStageRequest) : Prog Device := do
  match ← recordedDevice b req.stagingPath with
  | some dev => return dev
  | none => mapFresh b cc req

/-- Format and mount the device of a filesystem volume. -/
def stageFilesystem (b : Backend) (req : NodeStageRequest) (mountDev : Device) : Prog Unit := do
  let fsType ← fsTypeOf "ceph-rbd" req.fsType
  let fsCrypt := isFsCrypt req.context
  if fsCrypt && fsType ≠ "ext4" then
    fail ⟨.invalidArg, ["ceph-rbd: encryptionType=file (fscrypt) requires fsType ext4, got ",
      fsType]⟩
  else
    ensureFormatted tool "ceph-rbd" Device.text mountDev fsType
      (mkfsArgsForFs fsType (Text.str (req.context paramMkfsOptions)) fsCrypt)
    mountStaging tool "ceph-rbd" Device.text fsType (mountFlagsForFs fsType req.mountFlags)
      mountDev req.stagingPath
    growFilesystem tool "ceph-rbd" Device.text fsType mountDev req.stagingPath
    if fsCrypt then
      let pass ← volumePassphrase b req
      orFail (← run (.setupFscrypt req.stagingPath pass)) ["cephenc: fscrypt: "]
    else return ()

/-- What a stage does once the image is mapped. -/
def stageMapped (b : Backend) (req : NodeStageRequest) (dev : Device) : Prog Unit := do
  let mountDev ← stageDevice b req dev
  if req.block then
    if isFsCrypt req.context then
      fail ⟨.invalidArg, ["ceph-rbd: encryptionType=file (fscrypt) is not supported for raw " ++
        "block volumes; use the default block (LUKS) encryption"]⟩
    else return ()
  else stageFilesystem b req mountDev

def nodeStage (b : Backend) (req : NodeStageRequest) : Prog Unit := do
  let cc ← cluster b req.volume.inst
  connArgs cc req.volume.inst req.secrets
  let dev ← mappedDevice b cc req
  stageMapped b req dev

def disposeNbdLog (file : Option RecordFile) : Prog Unit :=
  match file with
  | some (.json rec) =>
      if rec.logFile = .empty ∨ rec.logStrategy = .lit "preserve" then .pure ()
      else do
        let _ : Except RunError Unit ← run (.disposeLog rec.logFile rec.logStrategy)
        return ()
  | _ => .pure ()

/-- The device of a staging path: the recorded one, else the source of its mount. -/
def unstageDevice (file : Option RecordFile) (stagingPath : String) : Prog (Option Device) :=
  match file.bind RecordFile.device with
  | some dev => .pure (some dev)
  | none => do
      let src ← run (.findmntTarget stagingPath)
      return src.out

def umountStaging (stagingPath : String) : Prog Unit := do
  match ← run (.umount stagingPath) with
  | .ok () => return ()
  | .error .notMounted => return ()
  | .error e => fail (errorf ["ceph-rbd: umount " ++ stagingPath ++ ": ", e.text])

/-- The state of the device counts, not the reply of the unmap. -/
def freeDevice (file : Option RecordFile) (dev : Option Device) : Prog Unit :=
  match dev with
  | none => .pure ()
  | some dev => do
      let mounter := (file.map RecordFile.mounter).getD .krbd
      let options := (file.map RecordFile.unmapOptions).getD ""
      let _ : Except RunError Unit ← run (.rbdUnmap mounter dev options)
      if ← deviceMapped dev then
        fail (errorf ["ceph-rbd: device ", dev.text, " still mapped after unmap"])
      else return ()

def nodeUnstage (b : Backend) (req : NodeUnstageRequest) : Prog Unit := do
  let _ ← cluster b req.volume.inst
  let file ← readDeviceRecord b req.stagingPath
  let dev ← unstageDevice file req.stagingPath
  umountStaging req.stagingPath
  closeLuks req.stagingPath
  freeDevice file dev
  disposeNbdLog file
  clearDevice b req.stagingPath

/-- The records of userspace maps. -/
def nbdRecord (entry : String × RecordFile) : Option (String × DeviceRecord) :=
  match entry.2 with
  | .json rec => if rec.mounter = .nbd then some (entry.1, rec) else none
  | .bare _ => none

def reattachNBD (b : Backend) (rec : DeviceRecord) : Prog Unit := do
  let cc ← cluster b rec.volume.inst
  connArgs cc rec.volume.inst fun _ => .empty
  orFail (← run (.nbdAttach rec.device rec.cookie rec.volume)) ["rbd-nbd attach: "]

/-- Drop the record of a released device, and reattach a device whose server has died. -/
def healRecord (b : Backend) (live : List Device) (stagingPath : String) (rec : DeviceRecord) :
    Prog Unit := do
  if rec.device ∈ live then return ()
  else if ← deviceMapped rec.device then
    let _ : Except Err Unit ← (reattachNBD b rec).attempt
    return ()
  else
    let _ : Except RunError Unit ← run (.removeRecord stagingPath)
    return ()

def healAll (b : Backend) (live : List Device) : List (String × DeviceRecord) → Prog Unit
  | [] => .pure ()
  | (stagingPath, rec) :: rest => do
      healRecord b live stagingPath rec
      healAll b live rest

def heal (b : Backend) : Prog Unit := do
  if b.stateDir = "" then return ()
  else
    match ← run .listRecords with
    | .error _ => return ()
    | .ok entries =>
      let nbd := entries.filterMap nbdRecord
      if nbd = [] then return ()
      else
        match ← run .nbdListMapped with
        | .error _ => return ()
        | .ok live => healAll b live nbd

end BardCsi.Ceph
