import BardCsi.Effect.Lock
import BardCsi.Filesystem
import BardCsi.Iscsi.Config

/-!
Giving nodes access to volumes. A local volume has a target of its own, and a node gets access
by an entry in the access list of that target. A volume of targetd is exported to the node under
a number that no other export to the node has. The read and the write of the list of exports
are under one lock of the plugin.
-/
namespace BardCsi.Iscsi

open Effect

/-- A response with an error code, or a call that failed in another way. -/
inductive TdError where
  | rpc (code : Int) (message : String)
  | other (text : String)
deriving DecidableEq, Repr

def TdError.text : TdError → Text
  | .rpc code message => "targetd error " ++ toString code ++ ": " ++ message
  | .other t => t

def tdErrExportNotFound : Int := -151

def tdCode : TdError → Int
  | .rpc code _ => code
  | .other _ => 0

structure ChapCreds where
  user : String
  password : String
  mutualUser : String
  mutualPassword : String
deriving DecidableEq, Repr

structure TdExport where
  initiatorWWN : String
  lun : Int
  volName : String
  pool : String
deriving DecidableEq, Repr

inductive Cmd where
  | readChap (path : String)
  | readTargetd (path : String)
  -- the lock of the export lists
  | tdLock
  | tdUnlock
  -- the interface of targetd at an endpoint
  | initiatorSetAuth (endpoint initiator : String) (chap : ChapCreds)
  | exportList (endpoint : String)
  | exportCreate (endpoint pool vol initiator : String) (lun : Int)
  | exportDestroy (endpoint pool vol initiator : String)
  -- the access lists of local targets
  | aclCreate (iqn initiator : String)
  | aclSetAuth (iqn initiator : String) (chap : ChapCreds)
  | aclDelete (iqn initiator : String)
deriving DecidableEq

def Cmd.Reply : Cmd → Type
  | .readChap _ | .readTargetd _ => Except RunError String
  | .tdLock | .tdUnlock => Unit
  | .exportList _ => Except TdError (List TdExport)
  | .initiatorSetAuth _ _ _ | .exportCreate _ _ _ _ _ | .exportDestroy _ _ _ _ =>
      Except TdError Unit
  | .aclCreate _ _ | .aclSetAuth _ _ _ | .aclDelete _ _ => Except RunError Unit

abbrev Prog (α : Type) := Program Cmd Cmd.Reply Err α

def run (c : Cmd) : Prog c.Reply := .ask c

def fail {α : Type} (e : Err) : Prog α := .fail e

def liftExcept {α : Type} : Except Err α → Prog α
  | .ok a => .pure a
  | .error e => .fail e

def orTdError {α : Type} : Except TdError α → Prog α
  | .ok a => .pure a
  | .error e => fail (errorf [e.text])

/-- The lines of a file of credentials. -/
def credentialLines (data : String) : List String :=
  ((Strings.split data '\n').map Strings.trimSpace).filter (· ≠ "")

def chapFor (b : Backend) (inst : String) : Prog (Option ChapCreds) := do
  match b.instances inst with
  | none => return none
  | some ic =>
    if ic.chapAuth = false then return none
    else
      let path := b.chapDir ++ "/" ++ inst
      match ← run (.readChap path) with
      | .error e => fail ⟨.internal, ["iscsi: chapAuth is on for instance ", inst,
          " but credentials at ", path, " are unreadable: ", e.text]⟩
      | .ok data =>
        let lines := credentialLines data
        if lines.any fun l => Strings.containsAny l " \t'\"" then
          fail ⟨.internal, ["iscsi: chap credentials at ", path,
            " must not contain whitespace or quotes"]⟩
        else
          match lines with
          | [user, password] => return some ⟨user, password, "", ""⟩
          | [user, password, mutualUser, mutualPassword] =>
            return some ⟨user, password, mutualUser, mutualPassword⟩
          | _ => fail ⟨.internal, ["iscsi: chap credentials at ", path, " must be 2 lines " ++
              "(userid, password) or 4 (plus mutual pair), got " ++ toString lines.length]⟩

/-- The credentials of a targetd instance have to be there and well formed. What they are only
matters to the server. -/
def targetdCredsFor (b : Backend) (inst : String) : Prog Unit := do
  match b.instances inst with
  | none => return ()
  | some ic =>
    if ic.isTargetd = false then return ()
    else
      let path := b.targetdDir ++ "/" ++ inst
      match ← run (.readTargetd path) with
      | .error e => fail ⟨.internal, ["iscsi: instance ", inst,
          " is management=targetd but credentials at ", path, " are unreadable: ", e.text]⟩
      | .ok data =>
        let lines := credentialLines data
        if lines.any fun l => Strings.containsAny l " \t'\"" then
          fail ⟨.internal, ["iscsi: targetd credentials at ", path,
            " must not contain whitespace or quotes"]⟩
        else if lines.length ≠ 2 then
          fail ⟨.internal, ["iscsi: targetd credentials at ", path,
            " must be 2 lines (username, password), got " ++ toString lines.length]⟩
        else return ()

structure TdManager where
  endpoint : String
  pool : String
deriving DecidableEq, Repr

def newTdManager (b : Backend) (inst : String) (ic : InstanceConfig) : Prog TdManager := do
  targetdCredsFor b inst
  return ⟨ic.targetdEndpoint, ic.targetdPool⟩

/-- Go through the exports of an initiator: the number of the volume if it is one of them, else
the numbers that are in use. -/
def scanExports (vol initiator : String) : List TdExport → List Int → Int ⊕ List Int
  | [], used => .inr used
  | e :: rest, used =>
      if e.initiatorWWN ≠ initiator then scanExports vol initiator rest used
      else if e.volName = vol then .inl e.lun
      else scanExports vol initiator rest (e.lun :: used)

/-- The search for a number that is not in use, cut off after some steps. -/
def lunSearch (used : List Int) : ℕ → ℕ → Option ℕ
  | 0, _ => none
  | fuel + 1, lun => if (lun : Int) ∈ used then lunSearch used fuel (lun + 1) else some lun

def lowestLUN (used : List Int) : ℕ := (lunSearch used (used.length + 1) 0).getD 0

/-- Run a program under the lock of the export lists. -/
def withAccessLock {α : Type} (p : Prog α) : Prog α :=
  Program.within (run .tdLock) (run .tdUnlock) p

def setAuth (t : TdManager) (initiator : String) : Option ChapCreds → Prog Unit
  | none => .pure ()
  | some chap => do
      match ← run (.initiatorSetAuth t.endpoint initiator chap) with
      | .ok () => return ()
      | .error e => fail (errorf ["iscsi: targetd set auth for ", initiator, ": ", e.text])

def exportVolume (t : TdManager) (vol initiator : String) : Prog Int := do
  let exports ← orTdError (← run (.exportList t.endpoint))
  match scanExports vol initiator exports [] with
  | .inl lun => return lun
  | .inr used =>
    let lun : Int := lowestLUN used
    orTdError (← run (.exportCreate t.endpoint t.pool vol initiator lun))
    return lun

def grantAccess (t : TdManager) (vol initiator : String) (chap : Option ChapCreds) : Prog Int :=
  withAccessLock do
    setAuth t initiator chap
    exportVolume t vol initiator

def revokeAccess (t : TdManager) (vol initiator : String) : Prog Unit :=
  withAccessLock do
    match ← run (.exportDestroy t.endpoint t.pool vol initiator) with
    | .ok () => return ()
    | .error e =>
      if tdCode e = tdErrExportNotFound then return ()
      else fail (errorf [e.text])

structure ControllerPublishRequest where
  volume : VolumeRef
  nodeID : String

/-- What the node needs to log in. A single portal leaves the list of portals empty. -/
structure PublishContext where
  portal : String
  iqn : String
  lun : Int
  portals : List String
deriving DecidableEq, Repr

def publishContext (ic : InstanceConfig) (iqn : String) (lun : Int) : PublishContext :=
  let portals := ic.portalList
  ⟨portals.headD "", iqn, lun, if portals.length ≥ 2 then portals else []⟩

/-- Hand on an error with what was tried. -/
def wrapping {α : Type} (msg : List Text) (p : Prog α) : Prog α :=
  p.attempt.bind fun r =>
    match r with
    | .ok a => .pure a
    | .error e => .fail (e.wrap msg)

def controllerPublishTargetd (b : Backend) (ic : InstanceConfig)
    (req : ControllerPublishRequest) : Prog PublishContext := do
  let td ← newTdManager b req.volume.inst ic
  let chap ← chapFor b req.volume.inst
  let initiator := initiatorIQN ic.iqnBase req.nodeID
  let lun ← wrapping ["iscsi: targetd grant access for ", initiator, ": "]
    (grantAccess td req.volume.name initiator chap)
  return publishContext ic ic.targetIQN lun

def createACL (iqn initiator : String) : Prog Unit := do
  match ← run (.aclCreate iqn initiator) with
  | .ok () => return ()
  | .error .alreadyExists => return ()
  | .error e => fail (errorf ["iscsi: create acl ", initiator, " on ", iqn, ": ", e.text])

def setACLAuth (iqn initiator : String) : Option ChapCreds → Prog Unit
  | none => .pure ()
  | some chap => do
      match ← run (.aclSetAuth iqn initiator chap) with
      | .ok () => return ()
      | .error e => fail (errorf ["iscsi: set chap auth on acl ", initiator, ": ", e.text])

def controllerPublish (b : Backend) (req : ControllerPublishRequest) : Prog PublishContext := do
  let ic ← liftExcept (inst b req.volume.inst)
  if ic.isTargetd then
    controllerPublishTargetd b (tdWithHandlePool ic req.volume.location) req
  else
    let chap ← chapFor b req.volume.inst
    let iqn := targetIQN ic.iqnBase req.volume.name
    let initiator := initiatorIQN ic.iqnBase req.nodeID
    createACL iqn initiator
    setACLAuth iqn initiator chap
    return publishContext ic iqn 0

def controllerUnpublishTargetd (b : Backend) (ic : InstanceConfig)
    (req : ControllerPublishRequest) : Prog Unit := do
  let td ← newTdManager b req.volume.inst ic
  let initiator := initiatorIQN ic.base req.nodeID
  wrapping ["iscsi: targetd revoke access for ", initiator, ": "]
    (revokeAccess td req.volume.name initiator)

def deleteACL (iqn initiator : String) : Prog Unit := do
  match ← run (.aclDelete iqn initiator) with
  | .ok () => return ()
  | .error .notFound => return ()
  | .error e => fail (errorf ["iscsi: delete acl ", initiator, " on ", iqn, ": ", e.text])

/-- The instance need not be configured any more. -/
def controllerUnpublish (b : Backend) (req : ControllerPublishRequest) : Prog Unit := do
  let ic := (b.instances req.volume.inst).getD .zero
  if (b.instances req.volume.inst).isNone ∧ isTdLocation req.volume.location then
    fail ⟨.internal, ["iscsi: instance ", req.volume.inst, " not configured, cannot reach " ++
      "remote targetd volume ", req.volume.location,
      " -- restore the instance or clean up manually"]⟩
  else if (b.instances req.volume.inst).isSome ∧ ic.isTargetd then
    controllerUnpublishTargetd b (tdWithHandlePool ic req.volume.location) req
  else
    deleteACL (targetIQN ic.base req.volume.name) (initiatorIQN ic.base req.nodeID)

structure World where
  chap : String → Option String
  targetd : String → Option String
  holder : Option ℕ
  exports : String → List TdExport
  targets : List String
  acls : List (String × String)

abbrev Outcome := Fate TdError

def World.setExports (w : World) (endpoint : String) (es : List TdExport) : World :=
  { w with exports := Function.update w.exports endpoint es }

def orNotFound {α : Type} (x : Option α) (w : World) : Except RunError α × World :=
  match x with
  | some a => (.ok a, w)
  | none => (.error .notFound, w)

def performExportDestroy (endpoint pool vol initiator : String) (w : World) :
    Except TdError Unit × World :=
  let es := w.exports endpoint
  if es.any fun e => e.pool = pool ∧ e.volName = vol ∧ e.initiatorWWN = initiator then
    (.ok (), w.setExports endpoint
      (es.filter fun e => ¬(e.pool = pool ∧ e.volName = vol ∧ e.initiatorWWN = initiator)))
  else (.error (.rpc tdErrExportNotFound "Export not found"), w)

def performACLCreate (iqn initiator : String) (w : World) : Except RunError Unit × World :=
  if iqn ∉ w.targets then (.error .notFound, w)
  else if (iqn, initiator) ∈ w.acls then (.error .alreadyExists, w)
  else (.ok (), { w with acls := (iqn, initiator) :: w.acls })

def performACLDelete (iqn initiator : String) (w : World) : Except RunError Unit × World :=
  if (iqn, initiator) ∈ w.acls then
    (.ok (), { w with acls := w.acls.filter (· ≠ (iqn, initiator)) })
  else (.error .notFound, w)

/-- What a request does when it works. -/
def perform (who : ℕ) (c : Cmd) (w : World) : c.Reply × World :=
  match c with
  | .readChap path => orNotFound (w.chap path) w
  | .readTargetd path => orNotFound (w.targetd path) w
  | .tdLock => ((), { w with holder := some who })
  | .tdUnlock => ((), { w with holder := none })
  | .initiatorSetAuth _ _ _ => (.ok (), w)
  | .exportList endpoint => (.ok (w.exports endpoint), w)
  | .exportCreate endpoint pool vol initiator lun =>
      (.ok (), w.setExports endpoint (w.exports endpoint ++ [⟨initiator, lun, vol, pool⟩]))
  | .exportDestroy endpoint pool vol initiator =>
      performExportDestroy endpoint pool vol initiator w
  | .aclCreate iqn initiator => performACLCreate iqn initiator w
  | .aclSetAuth iqn initiator _ =>
      if (iqn, initiator) ∈ w.acls then (.ok (), w) else (.error .notFound, w)
  | .aclDelete iqn initiator => performACLDelete iqn initiator w

/-- A tool that fails for another reason than those the plugin knows. -/
def TdError.run (e : TdError) : RunError :=
  match e with
  | .rpc _ message => .other message
  | .other t => .other t

def Cmd.failed (c : Cmd) (e : TdError) : Option c.Reply :=
  match c with
  | .tdLock | .tdUnlock => none
  | .initiatorSetAuth _ _ _ | .exportList _ | .exportCreate _ _ _ _ _ | .exportDestroy _ _ _ _ =>
      some (.error e)
  | .readChap _ | .readTargetd _ | .aclCreate _ _ | .aclSetAuth _ _ _ | .aclDelete _ _ =>
      some (.error e.run)

def step (who : ℕ) (c : Cmd) (o : Outcome) (w : World) : c.Reply × World :=
  faulty (o.fault.bind c.failed) o.landed (perform who c w) w

def machine : Machine Cmd Cmd.Reply ℕ Outcome World := ⟨step⟩

theorem step_cases (who : ℕ) (c : Cmd) (o : Outcome) (w : World) :
    step who c o w = perform who c w ∨
      ∃ e, c.failed e = some (step who c o w).1 ∧
        ((step who c o w).2 = w ∨ (step who c o w).2 = (perform who c w).2) := by
  obtain h | ⟨e, _, he, h⟩ := faulty_cases o.fault c.failed o.landed (perform who c w) w
  · exact .inl h
  · exact .inr ⟨e, he, h.imp_right And.left⟩

end BardCsi.Iscsi
