import BardCsi.Iscsi.Access

/-!
Unstaging on the node plane of the iSCSI plugin. The records of staged volumes tell an unstage
whether the session has to stay for another volume of the same target. With several portals there
is a session for each of them, and the device is the multipath map over all of them.
-/
namespace BardCsi.Iscsi.Node

open Effect

/-- A device of the node: the path to a unit of a target over one portal, or a multipath map. -/
inductive Device where
  | path (portal iqn lun : String)
  | mpath (id : String)
deriving DecidableEq, Repr

def Device.text : Device → Text
  | .path portal iqn lun =>
      "/dev/disk/by-path/ip-" ++ portal ++ "-iscsi-" ++ iqn ++ "-lun-" ++ lun
  | .mpath id => "/dev/disk/by-id/dm-uuid-mpath-" ++ id

abbrev byPath : String → String → String → Device := Device.path

/-- The record of a staged volume. The last three fields are set for several portals only. -/
structure StagedState where
  device : Device
  iqn : String
  portal : String
  portals : List String
  devices : List Device
  mapper : Option Device
deriving DecidableEq, Repr

inductive RecordFile where
  | json (st : StagedState)
  | corrupt
deriving DecidableEq, Repr

/-- The plugin on a node, and how often it looks for a device before it gives up. -/
structure Plugin extends Backend where
  polls : ℕ

structure NodeUnstageRequest where
  volume : VolumeRef
  stagingPath : String

inductive Cmd where
  -- the lock file of a target
  | mkdirState
  | openLock (iqn : String)
  | flock (iqn : String)
  | funlock (iqn : String)
  -- the records of staged volumes
  | listRecords
  | readRecord (stagingPath : String)
  | removeRecord (stagingPath : String)
  -- sessions
  | logout (iqn portal : String)
  | deleteNode (iqn portal : String)
  | listSessions
  -- devices
  | getsize (dev : Device)
  | evalSymlinks (dev : Device)
  | readWwid (dev : Device)
  | lstat (dev : Device)
  | detach (dev : Device)
  | multipathFlush (dev : Device)
  | dmsetupInfo (dev : Device)
  | umount (path : String)

def Cmd.Reply : Cmd → Type
  | .readWwid _ => Except RunError String
  | .funlock _ => Unit
  | .listRecords => Except RunError (List String)
  | .readRecord _ => Except RunError RecordFile
  | .listSessions => Except RunError (List (String × String))
  | .getsize _ => Output (Option ℕ)
  | _ => Except RunError Unit

abbrev Prog (α : Type) := Program Cmd Cmd.Reply Err α

def run (c : Cmd) : Prog c.Reply := .ask c

def fail {α : Type} (e : Err) : Prog α := .fail e

def loadState (b : Plugin) (stagingPath : String) : Prog (Option StagedState) := do
  if b.stateDir = "" then return none
  else
    match ← run (.readRecord stagingPath) with
    | .ok (.json st) => return some st
    | .ok .corrupt => return none
    | .error _ => return none

def clearState (b : Plugin) (stagingPath : String) : Prog Unit := do
  if b.stateDir = "" then return ()
  else
    let _ ← run (.removeRecord stagingPath)
    return ()

def lockTarget (iqn : String) : Prog Unit := do
  orFail (← run .mkdirState) ["iscsi: state dir: "]
  orFail (← run (.openLock iqn)) ["iscsi: open target lock: "]
  orFail (← run (.flock iqn)) ["iscsi: lock target ", iqn, ": "]

def withTargetLock {α : Type} (b : Plugin) (iqn : String) (p : Prog α) : Prog α :=
  if b.stateDir = "" then p
  else Program.within (lockTarget iqn) (run (.funlock iqn)) p

/-- Count the records of a target, from a count so far. A record that cannot be read does not
count. -/
def countRecords (iqn exclude : String) : List String → ℕ → Prog ℕ
  | [], count => .pure count
  | entry :: rest, count =>
      if exclude ≠ "" ∧ entry = exclude then countRecords iqn exclude rest count
      else do
        match ← run (.readRecord entry) with
        | .ok (.json st) =>
          countRecords iqn exclude rest (if st.iqn = iqn then count + 1 else count)
        | .ok .corrupt => countRecords iqn exclude rest count
        | .error _ => countRecords iqn exclude rest count

def otherRecordsForIQN (b : Plugin) (iqn exclude : String) : Prog ℕ := do
  if b.stateDir = "" then return 0
  else
    match ← run .listRecords with
    | .ok entries => countRecords iqn exclude entries 0
    | .error .notFound => return 0
    | .error e => fail (errorf ["iscsi: scan state dir: ", e.text])

/-- A session is listed with the name of its target, and the name is looked for as a part of the
list. -/
def sessionActiveForIQN (iqn : String) : Prog Bool := do
  match ← run .listSessions with
  | .ok sessions => return sessions.any fun s => Strings.contains s.1 iqn
  | .error .notFound => return false
  | .error e => fail (errorf [e.text])

/-- The device has a size. -/
def present (o : Output (Option ℕ)) : Bool :=
  match o.out with
  | some n => n > 0
  | none => false

/-- The name of the map over the paths to a unit, from the name of the unit. -/
def mpathID (wwid : String) : Except Err String :=
  if Strings.hasPrefix wwid "naa." then .ok ("3" ++ Strings.dropFirst wwid 4)
  else if Strings.hasPrefix wwid "eui." then .ok ("2" ++ Strings.dropFirst wwid 4)
  else if Strings.hasPrefix wwid "t10." then .ok ("1" ++ Strings.dropFirst wwid 4)
  else .error (errorf ["iscsi: unrecognized wwid ", wwid, " (want a naa./eui./t10. prefix)"])

def waitForLink (mapper : Device) : ℕ → Prog Unit
  | 0 => do
      match ← run (.lstat mapper) with
      | .ok () => return ()
      | .error _ => fail (errorf ["iscsi: mapper ", mapper.text, " not ready after timeout"])
  | polls + 1 => do
      match ← run (.lstat mapper) with
      | .ok () => return ()
      | .error _ => waitForLink mapper polls

def waitForMapper (b : Plugin) (pathDev : Device) : Prog Device := do
  orFail (← run (.evalSymlinks pathDev)) ["iscsi: resolve path device ", pathDev.text, ": "]
  let wwid ← orFail (← run (.readWwid pathDev)) ["iscsi: read wwid ", pathDev.text, ": "]
  match mpathID (Strings.trimSpace wwid) with
  | .error e => fail e
  | .ok id =>
    waitForLink (.mpath id) b.polls
    return .mpath id

/-- Detach the own unit and keep the session. -/
def leaveSession (b : Plugin) (stagingPath : String) (dev : Option Device) : Prog Unit := do
  match dev with
  | none => clearState b stagingPath
  | some dev =>
    orFail (← run (.evalSymlinks dev)) ["iscsi: resolve device ", dev.text, ": "]
    orFail (← run (.detach dev)) ["iscsi: detach ", dev.text, ": "]
    clearState b stagingPath

/-- The session has to be gone after the logout. Without a device the sessions are listed. -/
def verifyGone (iqn : String) (dev : Option Device) : Prog Unit := do
  match dev with
  | some dev =>
    if present (← run (.getsize dev)) then
      fail (errorf ["iscsi: device ", dev.text, " still present after logout"])
    else return ()
  | none =>
    match ← (sessionActiveForIQN iqn).attempt with
    | .error (e : Err) => fail (e.wrap ["iscsi: verify session for ", iqn, ": "])
    | .ok active =>
      if active then fail (errorf ["iscsi: session for ", iqn, " still present after logout"])
      else return ()

def logOut (iqn portal : String) : Prog Unit := do
  tolerating .notFound (← run (.logout iqn portal)) ["iscsi: logout ", iqn, ": "]

def unstageSingleTarget (b : Plugin) (req : NodeUnstageRequest) (iqn portal : String)
    (dev : Option Device) : Prog Unit :=
  withTargetLock b iqn do
    let shared ← otherRecordsForIQN b iqn req.stagingPath
    if shared > 0 then leaveSession b req.stagingPath dev
    else
      logOut iqn portal
      verifyGone iqn dev
      let _ ← run (.deleteNode iqn portal)
      clearState b req.stagingPath

/-- The map may be in the middle of a change, so it is flushed twice before the check that it is
gone. -/
def flushMultipath (mapper : Option Device) : Prog Unit := do
  match mapper with
  | none => return ()
  | some dev =>
    let _ ← run (.evalSymlinks dev)
    let first ← run (.multipathFlush dev)
    let flushed ← match first with
      | .ok () => .pure first
      | .error _ => run (.multipathFlush dev)
    match ← run (.dmsetupInfo dev) with
    | .error _ => return ()
    | .ok () =>
      match flushed with
      | .error e => fail (errorf ["iscsi: flush multipath map ", dev.text, ": ", e.text])
      | .ok () => fail (errorf ["iscsi: multipath map ", dev.text, " still present after flush"])

def logoutPortals (iqn : String) : List String → Prog Unit
  | [] => .pure ()
  | portal :: rest => do
      tolerating .notFound (← run (.logout iqn portal))
        ["iscsi: logout ", iqn, " (", portal, "): "]
      logoutPortals iqn rest

def verifyDevicesGone : List Device → Prog Unit
  | [] => .pure ()
  | dev :: rest => do
      if present (← run (.getsize dev)) then
        fail (errorf ["iscsi: device ", dev.text, " still present after logout"])
      else verifyDevicesGone rest

def deleteNodes (iqn : String) : List String → Prog Unit
  | [] => .pure ()
  | portal :: rest => do
      let _ ← run (.deleteNode iqn portal)
      deleteNodes iqn rest

def unstageMultipath (iqn : String) (mapper : Option Device) (portals : List String)
    (devices : List Device) : Prog Unit := do
  let _ : Except Err Unit ← (flushMultipath mapper).attempt
  logoutPortals iqn portals
  verifyDevicesGone devices
  flushMultipath mapper
  deleteNodes iqn portals

def nodeUnstageMultipath (b : Plugin) (req : NodeUnstageRequest) (st : StagedState) :
    Prog Unit := do
  unstageMultipath st.iqn st.mapper st.portals st.devices
  clearState b req.stagingPath

def derivedMapper (b : Plugin) (iqn : String) : List String → Prog (Option Device)
  | [] => .pure none
  | portal :: rest => do
      if present (← run (.getsize (byPath portal iqn "0"))) then
        let mapper ← waitForMapper b (byPath portal iqn "0")
        return some mapper
      else derivedMapper b iqn rest

def nodeUnstageDerivedMultipath (b : Plugin) (req : NodeUnstageRequest) (iqn : String)
    (portals : List String) : Prog Unit := do
  let devices := portals.map fun portal => byPath portal iqn "0"
  let mapper ← derivedMapper b iqn portals
  unstageMultipath iqn mapper portals devices
  clearState b req.stagingPath

/-- Without a record the target is the one that the configuration gives the volume. -/
def derivedIQN (ic : InstanceConfig) (vol : VolumeRef) : String :=
  if ic.isTargetd then ic.targetIQN else targetIQN ic.base vol.name

def unstageDerived (b : Plugin) (req : NodeUnstageRequest) : Prog Unit :=
  let ic := (b.instances req.volume.inst).getD .zero
  let iqn := derivedIQN ic req.volume
  match ic.portalList with
  | [] => .pure ()
  | [portal] =>
      unstageSingleTarget b req iqn portal
        (if ic.isTargetd then none else some (byPath portal iqn "0"))
  | portals => nodeUnstageDerivedMultipath b req iqn portals

def unmount (stagingPath : String) : Prog Unit := do
  tolerating .notMounted (← run (.umount stagingPath)) ["iscsi: umount ", stagingPath, ": "]

/-- The rest of an attempt, with the record that was found. -/
def unstageWith (b : Plugin) (req : NodeUnstageRequest) : Option StagedState → Prog Unit
  | none => unstageDerived b req
  | some st =>
      if st.portals.length ≥ 2 then nodeUnstageMultipath b req st
      else unstageSingleTarget b req st.iqn st.portal (some st.device)

def nodeUnstage (b : Plugin) (req : NodeUnstageRequest) : Prog Unit := do
  unmount req.stagingPath
  unstageWith b req (← loadState b req.stagingPath)

end BardCsi.Iscsi.Node
