import BardCsi.Driver.Dispatch
import BardCsi.Driver.Listing

/-!
The consistency scanner. It collects the volumes and snapshots that the plugins list, asks them
again about every volume that a PV names and no list contains, and compares the result with the
objects of Kubernetes and with the configuration. What does not fit is a finding of the report.
-/
namespace BardCsi.Inspect

open VolumeId (Handle Bytes Malformed bytes sep)
open Assoc (MapOrder)
open Dispatch (Config BackendConfig InstanceConfig)
open Driver (VolumeListEntry SnapshotListEntry BackendError)

inductive Severity where
  | error
  | warn
  | info
  | skip
deriving DecidableEq, Repr

def Severity.rank : Severity → ℕ
  | .error => 0
  | .warn => 1
  | .info => 2
  | .skip => 3

inductive CheckName where
  | pluginMissingInstance
  | unparseableHandle
  | unknownInstance
  | listInconsistent
  | ghostPV
  | orphanVolume
  | ghostSnapshot
  | orphanSnapshot
  | unverifiable
  | nodeNoZone
  | zoneCollision
  | zoneNoBackend
  | backendNoNodes
  | staleAttachment
  | collect
deriving DecidableEq, Repr

def CheckName.text : CheckName → String
  | .pluginMissingInstance => "plugin-missing-instance"
  | .unparseableHandle => "unparseable-handle"
  | .unknownInstance => "unknown-instance"
  | .listInconsistent => "list-inconsistent"
  | .ghostPV => "ghost-pv"
  | .orphanVolume => "orphan-volume"
  | .ghostSnapshot => "ghost-snapshot"
  | .orphanSnapshot => "orphan-snapshot"
  | .unverifiable => "unverifiable"
  | .nodeNoZone => "node-no-zone"
  | .zoneCollision => "zone-collision"
  | .zoneNoBackend => "zone-no-backend"
  | .backendNoNodes => "backend-no-nodes"
  | .staleAttachment => "stale-attachment"
  | .collect => "collect"

/-- A piece of a message: a text, a value as it is, a quoted value, or why a handle is none. -/
inductive Piece where
  | text (s : String)
  | value (b : Bytes)
  | quoted (b : Bytes)
  | quotedText (s : String)
  | malformed (e : Malformed)
deriving DecidableEq, Repr

instance : Coe String Piece := ⟨.text⟩

structure Finding where
  check : CheckName
  severity : Severity
  resource : Bytes
  detail : List Piece
  hint : List Piece
deriving DecidableEq, Repr

/-- A collection that could not be made, which is reported as a finding. -/
structure Skip where
  resource : Bytes
  detail : List Piece
  hint : List Piece
deriving DecidableEq, Repr

def Skip.finding (s : Skip) : Finding := ⟨.collect, .skip, s.resource, s.detail, s.hint⟩

structure PV where
  name : String
  driver : String
  volumeHandle : Bytes
  phase : String
  claim : String
deriving DecidableEq, Repr

structure SnapshotContent where
  name : String
  driver : String
  snapshotHandle : Bytes
deriving DecidableEq, Repr

structure Node where
  name : String
  labels : Table String String

structure CSINode where
  name : String
  hasDriver : Bool
  topologyKeys : List String
deriving DecidableEq, Repr

structure VolumeAttachment where
  name : String
  attacher : String
  nodeName : String
  pv : String
deriving DecidableEq, Repr

structure HealthProbe where
  confirmed : Bool
  healthy : Bool
  instanceUnknown : Bool
  err : String
deriving DecidableEq, Repr

/-- What a scan knows before it asks the backends. -/
structure Objects where
  driver : String
  zoneLabel : String
  config : Config
  pvs : List PV
  snapshotContents : List SnapshotContent
  nodes : List Node
  csiNodes : List CSINode
  attachments : List VolumeAttachment
  haveSnapshotContents : Bool
  haveNodes : Bool
  haveCSINodes : Bool
  haveAttachments : Bool
  /-- The collections of Kubernetes that could not be read. -/
  unread : List Skip

structure State extends Objects where
  backendVolumes : Table Bytes (List VolumeListEntry)
  backendSnapshots : Table Bytes (List SnapshotListEntry)
  unlistedVolumes : List Bytes
  unlistedSnapshots : List Bytes
  healthProbes : Table Bytes HealthProbe
  skips : List Skip

/-- The orders in which the loops over maps take the entries. -/
structure Orders where
  probes : MapOrder (Bytes × HealthProbe)
  config : Dispatch.Orders

/-- Sort by the bytes of a text. The sort is stable. -/
def sortBy {α : Type} (key : α → Bytes) (l : List α) : List α :=
  l.mergeSort fun a b => !decide (key b < key a)

def sortedKeys {β : Type} (t : Table Bytes β) : List Bytes := sortBy id (t.entries.map Prod.fst)

/-! Collecting. -/

/-- The answers of a backend. A probe may be answered differently each time. -/
structure BackendTruth where
  listVolumes : Except BackendError (List VolumeListEntry)
  listSnapshots : Except BackendError (List SnapshotListEntry)
  /-- Whether the volume is abnormal, as answered at the given probe. -/
  getVolumeHealth : ℕ → Handle → Except BackendError Bool

abbrev Backends := Table Bytes BackendTruth

def Objects.start (ob : Objects) : State where
  toObjects := ob
  backendVolumes := .empty
  backendSnapshots := .empty
  unlistedVolumes := []
  unlistedSnapshots := []
  healthProbes := .empty
  skips := ob.unread

def listingFailed (bt : Bytes) (what affected : String) (err : BackendError) : Skip where
  resource := bytes "backend/" ++ bt
  detail := ["listing ", what, " failed: ", err.text, "; skipped: ", affected]
  hint := ["check the plugin sidecar's logs and its backend connectivity"]

/-- The replies to a listing call, sorted: what is listed, the types that cannot list, and what
failed. -/
structure Replies (ε : Type) where
  listed : Table Bytes (List ε)
  unlisted : List Bytes
  skips : List Skip

def Replies.add {ε : Type} (r : Replies ε) (what affected : String) (bt : Bytes) :
    Except BackendError (List ε) → Replies ε
  | .ok entries => { r with listed := r.listed.set bt entries }
  | .error err =>
      if err.kind = .unsupported then { r with unlisted := bt :: r.unlisted }
      else { r with skips := r.skips ++ [listingFailed bt what affected err] }

def State.volumeReplies (st : State) : Replies VolumeListEntry :=
  ⟨st.backendVolumes, st.unlistedVolumes, st.skips⟩

def State.snapshotReplies (st : State) : Replies SnapshotListEntry :=
  ⟨st.backendSnapshots, st.unlistedSnapshots, st.skips⟩

def collectVolumes (st : State) (bt : Bytes) (be : BackendTruth) : State :=
  let r := st.volumeReplies.add "volumes" "ghost-pv, orphan-volume" bt be.listVolumes
  { st with backendVolumes := r.listed, unlistedVolumes := r.unlisted, skips := r.skips }

def collectSnapshots (st : State) (bt : Bytes) (be : BackendTruth) : State :=
  let r := st.snapshotReplies.add "snapshots" "ghost-snapshot, orphan-snapshot" bt be.listSnapshots
  { st with backendSnapshots := r.listed, unlistedSnapshots := r.unlisted, skips := r.skips }

def collectBackend (backends : Backends) (st : State) (bt : Bytes) : State :=
  match backends.get bt with
  | none => st
  | some be => collectSnapshots (collectVolumes st bt be) bt be

def collectBackendTruth (st : State) (backends : Backends) : State :=
  (sortedKeys backends).foldl (collectBackend backends) st

def volumeHandles (entries : List VolumeListEntry) : List Bytes :=
  entries.map fun e => e.handle.string

def snapshotHandles (entries : List SnapshotListEntry) : List Bytes :=
  entries.map fun e => e.handle.string

def ghostCandidate (st : State) (pv : PV) : Option Handle :=
  if pv.driver ≠ st.driver then none
  else
    match VolumeId.parse pv.volumeHandle with
    | .error _ => none
    | .ok h =>
        match st.backendVolumes.get h.backend with
        | none => none
        | some entries => if pv.volumeHandle ∈ volumeHandles entries then none else some h

def ghostCandidates (st : State) : List Handle := st.pvs.filterMap (ghostCandidate st)

/-- What a probe shows, unless the backend cannot be probed. -/
def healthProbe : Except BackendError Bool → Option HealthProbe
  | .error err =>
      match err.kind with
      | .unsupported => none
      | .invalidArgument => some ⟨false, false, true, err.text⟩
      | .notFound => some ⟨true, false, false, ""⟩
      | .alreadyExists | .other => some ⟨false, false, false, err.text⟩
  | .ok true => some ⟨true, false, false, ""⟩
  | .ok false => some ⟨false, true, false, ""⟩

/-- What a probe of a handle leaves behind. -/
def probed (backends : Backends) (i : ℕ) (h : Handle) : Option HealthProbe :=
  (backends.get h.backend).bind fun be => healthProbe (be.getVolumeHealth i h)

def recordProbe (probes : Table Bytes HealthProbe) (h : Handle) :
    Option HealthProbe → Table Bytes HealthProbe
  | none => probes
  | some hp => probes.set h.string hp

def probeAll (backends : Backends) :
    ℕ → List Handle → Table Bytes HealthProbe → Table Bytes HealthProbe
  | _, [], probes => probes
  | i, h :: rest, probes =>
      probeAll backends (i + 1) rest (recordProbe probes h (probed backends i h))

def probeGhostCandidates (st : State) (backends : Backends) : State :=
  { st with healthProbes := probeAll backends 0 (ghostCandidates st) st.healthProbes }

/-- The state that the checks are made on. -/
def collect (ob : Objects) (backends : Backends) : State :=
  probeGhostCandidates (collectBackendTruth ob.start backends) backends

/-! Instances that a plugin does not know. -/

def instanceKey (h : Handle) : Bytes := h.backend ++ sep :: h.inst

def recordMissing (out : Table Bytes String) (e : Bytes × HealthProbe) : Table Bytes String :=
  if e.2.instanceUnknown = false then out
  else
    match VolumeId.parse e.1 with
    | .error _ => out
    | .ok h =>
        if (out.get (instanceKey h)).isSome then out else out.set (instanceKey h) e.2.err

def missingInstances (o : Orders) (st : State) : Table Bytes String :=
  (o.probes.arrange st.healthProbes.entries).foldl recordMissing .empty

def missingInstance (bt inst : Bytes) (err : String) : Finding where
  check := .pluginMissingInstance
  severity := .error
  resource := bytes "backend/" ++ bt ++ bytes " instance/" ++ inst
  detail := ["core dispatches to this instance but its plugin cannot serve it (probe: ", err,
    "); its volumes are invisible to the plugin and every operation on them fails"]
  hint := ["add the instance back to the plugin's own config and restart the plugin sidecar — ",
    "plugins read their per-instance config at startup"]

/-- The finding for a key, which is cut at the first separator. -/
def missingFinding (missing : Table Bytes String) (key : Bytes) : Finding :=
  missingInstance (key.takeWhile (· ≠ sep)) ((key.dropWhile (· ≠ sep)).drop 1)
    ((missing.get key).getD "")

def missingInstanceFindings (missing : Table Bytes String) : List Finding :=
  (sortedKeys missing).map (missingFinding missing)

/-! Handles against the configuration. -/

/-- The backend of a handle in the configuration. -/
def backendAt (c : Config) (bt : Bytes) : Option BackendConfig :=
  (c.backends.entries.find? fun e => bytes e.1 = bt).map Prod.snd

def hasInstance (bc : BackendConfig) (inst : Bytes) : Bool :=
  bc.instances.entries.any fun e => bytes e.1 = inst

/-- The finding about a handle whose backend or instance is not configured. -/
def checkHandleConfig (c : Config) (h : Handle) (resource : String) : Option Finding :=
  match backendAt c h.backend with
  | none => some {
      check := .unknownInstance
      severity := .error
      resource := bytes resource
      detail := ["handle references backend type ", .quoted h.backend,
        " which is not configured; delete/expand/snapshot for it will fail"]
      hint := ["restore the BackendCluster(s) for this backend type, or migrate the data off it ",
        "before retiring the config"] }
  | some bc =>
      if hasInstance bc h.inst then none
      else some {
        check := .unknownInstance
        severity := .error
        resource := bytes resource
        detail := ["handle references instance ", .quoted h.inst, " of backend ",
          .quoted h.backend,
          " which is not in the current config; delete/expand/snapshot for it will fail"]
        hint := ["restore the BackendCluster for this instance (its plugin config too), or ",
          "migrate the data before retiring it"] }

/-! The two joins of objects with what the backends list. -/

/-- One side of a join: which objects take part, the handles they name, what is listed, and the
findings about an object that has no handle or is not listed. -/
structure Side (α : Type) where
  taken : α → Bool
  handle : α → Bytes
  resource : α → String
  unparseable : α → Malformed → Finding
  unlisted : List Bytes
  listed : Bytes → Option (List Bytes)
  absent : α → Handle → List Finding

/-- What a join has found so far: findings, handles, and how many objects of a backend cannot be
verified. -/
structure Joined where
  out : List Finding
  handles : List Bytes
  unverifiable : Table Bytes ℕ

def joinItem {α : Type} (c : Config) (s : Side α) (acc : Joined) (a : α) : Joined :=
  if s.taken a = false then acc
  else
    match VolumeId.parse (s.handle a) with
    | .error e => { acc with out := acc.out ++ [s.unparseable a e] }
    | .ok h =>
        let out := acc.out ++ (checkHandleConfig c h (s.resource a)).toList
        let handles := s.handle a :: acc.handles
        if h.backend ∈ s.unlisted then
          ⟨out, handles, acc.unverifiable.set h.backend
            ((acc.unverifiable.get h.backend).getD 0 + 1)⟩
        else
          match s.listed h.backend with
          | none => ⟨out, handles, acc.unverifiable⟩
          | some listed =>
              if s.handle a ∈ listed then ⟨out, handles, acc.unverifiable⟩
              else ⟨out ++ s.absent a h, handles, acc.unverifiable⟩

def joinItems {α : Type} (c : Config) (s : Side α) (items : List α) : Joined :=
  items.foldl (joinItem c s) ⟨[], [], .empty⟩

/-- What a join finds about an object, whatever it has found before. -/
def itemFindings {α : Type} (c : Config) (s : Side α) (a : α) : List Finding :=
  if s.taken a = false then []
  else
    match VolumeId.parse (s.handle a) with
    | .error e => [s.unparseable a e]
    | .ok h =>
        (checkHandleConfig c h (s.resource a)).toList ++
          if h.backend ∈ s.unlisted then []
          else
            match s.listed h.backend with
            | none => []
            | some listed => if s.handle a ∈ listed then [] else s.absent a h

/-- What a finding about something that only the backend has is called and says. -/
structure OrphanText where
  check : CheckName
  detail : String
  hint : String

def orphanFinding (t : OrphanText) (bt : Bytes) (h : Handle) : Finding where
  check := t.check
  severity := .warn
  resource := bt ++ bytes ":" ++ h.inst ++ bytes " " ++ h.location ++ bytes "/" ++ h.name
  detail := [t.detail]
  hint := [t.hint]

def orphanFindings {ε : Type} (t : OrphanText) (handle : ε → Handle) (listed : Table Bytes (List ε))
    (handles : List Bytes) : List Finding :=
  (sortedKeys listed).flatMap fun bt =>
    (((listed.get bt).getD []).filter fun e => (handle e).string ∉ handles).map fun e =>
      orphanFinding t bt (handle e)

def unverifiableFinding (what call : String) (bt : Bytes) (n : ℕ) : Finding where
  check := .unverifiable
  severity := .info
  resource := bytes "backend/" ++ bt
  detail := [Strings.itoa n, what, " cannot be checked against backend truth: the ", .value bt,
    " plugin does not implement ", call]
  hint := []

def unverifiableFindings (what call : String) (counts : Table Bytes ℕ) : List Finding :=
  (sortedKeys counts).map fun bt => unverifiableFinding what call bt ((counts.get bt).getD 0)

/-! Volumes. -/

def unparseablePV (pv : PV) (e : Malformed) : Finding where
  check := .unparseableHandle
  severity := .warn
  resource := bytes ("pv/" ++ pv.name)
  detail := ["volumeHandle ", .quoted pv.volumeHandle, " is not a Bard handle: ", .malformed e]
  hint := ["no Bard operation can address this volume; if the PV was hand-written (static ",
    "provisioning), fix its volumeHandle format"]

def listInconsistent (pv : PV) (h : Handle) : Finding where
  check := .listInconsistent
  severity := .warn
  resource := bytes ("pv/" ++ pv.name)
  detail := ["volume ", .value h.location, "/", .value h.name, " is missing from the ",
    .value h.backend, " plugin's list but a direct probe says it exists"]
  hint := ["re-run to rule out a race; if it persists, the plugin's ListVolumes is dropping ",
    "entries — check its logs"]

def probeDetail : Option HealthProbe → List Piece
  | none => []
  | some probe =>
      if probe.confirmed then ["; confirmed by a direct probe"]
      else if probe.err ≠ "" then ["; a direct probe also failed: ", probe.err]
      else []

def claimDetail (pv : PV) : List Piece := if pv.claim ≠ "" then [", bound to ", pv.claim] else []

/-- What is not found where. -/
def notFoundDetail (what : String) (h : Handle) : List Piece :=
  ["backing ", what, " ", .value h.location, "/", .value h.name, " not found on backend ",
    .quoted h.backend, " instance ", .quoted h.inst]

def ghostPV (pv : PV) (h : Handle) (probe : Option HealthProbe) : Finding where
  check := .ghostPV
  severity := .error
  resource := bytes ("pv/" ++ pv.name)
  detail := notFoundDetail "volume" h ++ .text " (PV phase " :: .text pv.phase ::
    (claimDetail pv ++ .text ")" :: probeDetail probe)
  hint := ["the data this PV promises is gone; verify directly on the backend before removing ",
    "the PV/PVC (a Released PV mid-deletion can appear here transiently — re-run to confirm)"]

/-- A PV that its backend does not list. -/
def absentPV (st : State) (missing : Table Bytes String) (pv : PV) (h : Handle) : List Finding :=
  if (missing.get (instanceKey h)).isSome then []
  else
    let probe := st.healthProbes.get pv.volumeHandle
    if probe.any (·.healthy) then [listInconsistent pv h] else [ghostPV pv h probe]

def volumeSide (st : State) (missing : Table Bytes String) : Side PV where
  taken pv := pv.driver = st.driver
  handle pv := pv.volumeHandle
  resource pv := "pv/" ++ pv.name
  unparseable := unparseablePV
  unlisted := st.unlistedVolumes
  listed bt := (st.backendVolumes.get bt).map volumeHandles
  absent := absentPV st missing

def orphanVolume : OrphanText where
  check := .orphanVolume
  detail := "volume exists on the backend but no PV references it"
  hint := "re-run to rule out an in-flight provision, and if the pool is shared with another " ++
    "Kubernetes cluster check that cluster's PVs too; a persistent true orphan is leaked " ++
    "storage (e.g. a failed delete) — remove it with the backend's own tooling, Bard never " ++
    "deletes data on its own"

def checkVolumes (st : State) (missing : Table Bytes String) : List Finding :=
  let joined := joinItems st.config (volumeSide st missing) st.pvs
  joined.out ++
    orphanFindings orphanVolume VolumeListEntry.handle st.backendVolumes joined.handles ++
    unverifiableFindings " PV(s)" "ListVolumes" joined.unverifiable

/-! Snapshots. -/

def unparseableSnapshot (sc : SnapshotContent) (e : Malformed) : Finding where
  check := .unparseableHandle
  severity := .warn
  resource := bytes ("volumesnapshotcontent/" ++ sc.name)
  detail := ["snapshotHandle ", .quoted sc.snapshotHandle, " is not a Bard handle: ", .malformed e]
  hint := ["no Bard operation can address this snapshot; if it was hand-written ",
    "(pre-provisioned), fix its snapshotHandle format"]

def ghostSnapshot (sc : SnapshotContent) (h : Handle) : Finding where
  check := .ghostSnapshot
  severity := .error
  resource := bytes ("volumesnapshotcontent/" ++ sc.name)
  detail := notFoundDetail "snapshot" h
  hint := ["restores from this snapshot will fail; verify on the backend before deleting the ",
    "VolumeSnapshot/Content"]

def snapshotSide (st : State) (missing : Table Bytes String) : Side SnapshotContent where
  taken sc := sc.driver = st.driver ∧ sc.snapshotHandle ≠ []
  handle sc := sc.snapshotHandle
  resource sc := "volumesnapshotcontent/" ++ sc.name
  unparseable := unparseableSnapshot
  unlisted := st.unlistedSnapshots
  listed bt := (st.backendSnapshots.get bt).map snapshotHandles
  absent sc h := if (missing.get (instanceKey h)).isSome then [] else [ghostSnapshot sc h]

def orphanSnapshot : OrphanText where
  check := .orphanSnapshot
  detail := "snapshot exists on the backend but no VolumeSnapshotContent references it"
  hint := "re-run to rule out an in-flight snapshot; if it persists it is leaked space on the " ++
    "backend — remove it with the backend's own tooling"

def checkSnapshots (st : State) (missing : Table Bytes String) : List Finding :=
  if st.haveSnapshotContents = false then []
  else
    let joined := joinItems st.config (snapshotSide st missing) st.snapshotContents
    joined.out ++
      orphanFindings orphanSnapshot SnapshotListEntry.handle st.backendSnapshots joined.handles ++
      unverifiableFindings " snapshot content(s)" "ListSnapshots" joined.unverifiable

/-! Topology. -/

def topologyKeyZone : String := "topology.csi.bard.io/zone"

/-- Whether a request with the zone finds an instance: one claims the zone, there is a default,
or there is only one. -/
def zoneResolvable (o : Dispatch.Orders) (cfg : Config) (bt zone : String) : Bool :=
  let instances := ((cfg.backends.get bt).map BackendConfig.instances).getD .empty
  (o.instances.arrange instances.entries).any (fun e => e.2.zone = zone) ||
    cfg.defaults.lookup bt ≠ "" || instances.size = 1

/-- The last of the CSI nodes with a name. -/
def csiByName (st : State) (name : String) : Option CSINode :=
  if st.haveCSINodes then st.csiNodes.reverse.find? fun cn => cn.name = name else none

def registration (st : State) (n : Node) : Bool × Bool :=
  match csiByName st n.name with
  | some cn => if cn.hasDriver then (true, topologyKeyZone ∈ cn.topologyKeys) else (false, false)
  | none => (false, false)

def unregisteredTopology (st : State) (n : Node) : Finding where
  check := .nodeNoZone
  severity := .warn
  resource := bytes ("node/" ++ n.name)
  detail := ["the Bard node plugin is registered here without topology keys (the node had no ",
    .quotedText st.zoneLabel, " label at registration); provisioning for pods on this node fails ",
    "with 'no topology key found'"]
  hint := ["kubectl label node ", n.name, " ", st.zoneLabel,
    "=<zone>, then delete the bard-csi node pod on it so it re-registers"]

def unlabelledNode (st : State) (n : Node) : Finding where
  check := .nodeNoZone
  severity := .info
  resource := bytes ("node/" ++ n.name)
  detail := ["node has no ", .quotedText st.zoneLabel, " label; if the Bard node plugin schedules ",
    "here it will register without topology and provisioning on this node will fail"]
  hint := ["label the node before the node plugin starts (zones are deliberately required: ",
    "topology selects the backend cluster)"]

def zoneCollision (st : State) (n : Node) (zone reported : String) : Finding where
  check := .zoneCollision
  severity := .warn
  resource := bytes ("node/" ++ n.name)
  detail := ["node label ", st.zoneLabel, "=", .quotedText zone,
    " but the registered Bard topology ", topologyKeyZone, "=", .quotedText reported,
    "; kubelet refuses to change a registered topology value, so the node-driver-registrar will ",
    "crashloop when the node pod restarts"]
  hint := ["one-time recovery for a re-zoned node: kubectl label node ", n.name, " ",
    topologyKeyZone, "- && delete the bard-csi node pod so it re-registers"]

def zoneNoBackend (n : Node) (zone : String) (unresolvable : List String) : Finding where
  check := .zoneNoBackend
  severity := .warn
  resource := bytes ("node/" ++ n.name)
  detail := ["zone ", .quotedText zone, " is not served by any instance of backend(s) ",
    ", ".intercalate unresolvable, " and no default instance is set; PVCs for those backends ",
    "cannot provision for pods on this node"]
  hint := ["add a BackendCluster with zone ", .quotedText zone,
    ", or set a default instance for the backend type"]

def checkNode (o : Orders) (st : State) (n : Node) : List Finding :=
  let zone := n.labels.lookup st.zoneLabel
  let reported := n.labels.lookup topologyKeyZone
  let (registered, hasZoneKey) := registration st n
  let unresolvable := sortBy bytes (((o.config.backends.arrange st.config.backends.entries).map
    Prod.fst).filter fun bt => !zoneResolvable o.config st.config bt zone)
  (if registered && !hasZoneKey then [unregisteredTopology st n]
    else if !registered && st.haveCSINodes && zone = "" then [unlabelledNode st n] else []) ++
  (if zone ≠ "" ∧ reported ≠ "" ∧ zone ≠ reported then [zoneCollision st n zone reported]
    else []) ++
  (if registered = true ∧ zone ≠ "" ∧ unresolvable ≠ [] then [zoneNoBackend n zone unresolvable]
    else [])

def backendNoNodes (st : State) (bt inst zone : String) : Finding where
  check := .backendNoNodes
  severity := .info
  resource := bytes ("backend/" ++ bt ++ " instance/" ++ inst)
  detail := ["no node carries ", st.zoneLabel, "=", .quotedText zone,
    ", the zone this instance serves; its volumes cannot be mounted and nothing will provision ",
    "into it"]
  hint := ["expected mid-migration or before nodes join; otherwise check the zone value for a typo"]

def nodeZones (st : State) : List String :=
  (st.nodes.map fun n => n.labels.lookup st.zoneLabel).filter (· ≠ "")

def unservedInstances (st : State) : List Finding :=
  (sortBy (fun e => bytes e.1) st.config.backends.entries).flatMap fun e =>
    ((sortBy (fun i => bytes i.1) e.2.instances.entries).filter fun i =>
      i.2.zone ∉ nodeZones st).map fun i => backendNoNodes st e.1 i.1 i.2.zone

def checkTopology (o : Orders) (st : State) : List Finding :=
  if st.haveNodes = false then []
  else st.nodes.flatMap (checkNode o st) ++ unservedInstances st

/-! Attachments. -/

def staleAttachment (va : VolumeAttachment) (detail hint : List Piece) : Finding where
  check := .staleAttachment
  severity := .warn
  resource := bytes ("volumeattachment/" ++ va.name)
  detail := detail
  hint := hint

def checkAttachment (st : State) (va : VolumeAttachment) : List Finding :=
  if va.attacher ≠ st.driver then []
  else
    (if st.haveNodes = true ∧ va.nodeName ≠ "" ∧ va.nodeName ∉ st.nodes.map Node.name then
      [staleAttachment va ["attached to node ", .quotedText va.nodeName,
        " which no longer exists"]
        ["left behind by a deleted node (e.g. the failover path); once sure the node is gone for ",
          "good, kubectl delete volumeattachment ", va.name]]
      else []) ++
    (if va.pv ≠ "" ∧ va.pv ∉ st.pvs.map PV.name then
      [staleAttachment va ["references PV ", .quotedText va.pv, " which no longer exists"]
        ["kubectl delete volumeattachment ", va.name]]
      else [])

def checkAttachments (st : State) : List Finding :=
  if st.haveAttachments = false then [] else st.attachments.flatMap (checkAttachment st)

/-! The report. -/

structure Stats where
  pvs : ℕ
  backendVolumes : ℕ
  snapshotContents : ℕ
  backendSnapshots : ℕ
  nodes : ℕ
  attachments : ℕ
deriving DecidableEq, Repr

def stats (st : State) : Stats where
  pvs := st.pvs.countP (·.driver = st.driver)
  backendVolumes := (st.backendVolumes.entries.map fun e => e.2.length).sum
  snapshotContents := st.snapshotContents.countP fun sc =>
    sc.driver = st.driver ∧ sc.snapshotHandle ≠ []
  backendSnapshots := (st.backendSnapshots.entries.map fun e => e.2.length).sum
  nodes := st.nodes.length
  attachments := st.attachments.countP (·.attacher = st.driver)

structure Report where
  findings : List Finding
  stats : Stats
deriving DecidableEq, Repr

def Finding.before (a b : Finding) : Bool :=
  if a.severity.rank ≠ b.severity.rank then a.severity.rank < b.severity.rank
  else if a.check ≠ b.check then bytes a.check.text < bytes b.check.text
  else a.resource < b.resource

def findings (o : Orders) (st : State) : List Finding :=
  let missing := missingInstances o st
  missingInstanceFindings missing ++ checkVolumes st missing ++ checkSnapshots st missing ++
    checkTopology o st ++ checkAttachments st ++ st.skips.map Skip.finding

def check (o : Orders) (st : State) : Report :=
  ⟨(findings o st).mergeSort fun a b => !b.before a, stats st⟩

end BardCsi.Inspect
