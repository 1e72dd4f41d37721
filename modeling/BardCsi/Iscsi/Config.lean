import BardCsi.Base
import BardCsi.Strings

/-!
The iSCSI plugin: the configuration of its instances and the names that it derives. A local
instance has one target for each volume, whose name comes from the base of the instance. An
instance that is managed by targetd has one target for all its volumes, and a volume of it says
in its location which pool it is in.
-/
namespace BardCsi.Iscsi

structure InstanceConfig where
  vg : String
  portal : String
  portals : List String
  iqnBase : String
  chapAuth : Bool
  management : String
  targetdEndpoint : String
  targetdPool : String
  targetIQN : String
deriving DecidableEq, Repr

def defaultIQNBase : String := "iqn.2025-01.io.bard"
def mgmtLocal : String := "local"
def mgmtTargetd : String := "targetd"

namespace InstanceConfig

/-- The entry of an instance that is not configured. -/
def zero : InstanceConfig := ⟨"", "", [], "", false, "", "", "", ""⟩

def isTargetd (ic : InstanceConfig) : Bool := ic.management = mgmtTargetd

def portalList (ic : InstanceConfig) : List String :=
  if ic.portals ≠ [] then ic.portals
  else if ic.portal ≠ "" then [ic.portal]
  else []

/-- The base of the names, with its default. -/
def base (ic : InstanceConfig) : String := if ic.iqnBase = "" then defaultIQNBase else ic.iqnBase

end InstanceConfig

structure Backend where
  instances : String → Option InstanceConfig
  nodeID : String
  stateDir : String
  chapDir : String
  targetdDir : String

/-- The checks of an instance of either kind. -/
def checkManagement (inst : String) (found : Bool) (ic : InstanceConfig) : Except Err Unit :=
  if ic.management = "" ∨ ic.management = mgmtLocal then
    if found = false ∨ ic.vg = "" ∨ ic.portalList = [] then
      .error ⟨.invalidArg, ["iscsi: instance ", inst, " not configured (need vg + portal)"]⟩
    else .ok ()
  else if ic.management = mgmtTargetd then
    if found = false ∨ ic.targetdEndpoint = "" ∨ ic.targetdPool = "" ∨ ic.targetIQN = "" ∨
        ic.portalList = [] then
      .error ⟨.invalidArg, ["iscsi: instance ", inst, " management=targetd not configured " ++
        "(need targetdEndpoint + targetdPool + targetIqn + portal)"]⟩
    else if ic.chapAuth then
      .error ⟨.invalidArg, ["iscsi: instance ", inst, " management=targetd cannot set " ++
        "chapAuth: true -- targetd's export_create unconditionally disables TPG-level " ++
        "authentication on every export (upstream limitation, no API to override), so CHAP " ++
        "credentials set via initiator_set_auth are never actually enforced; access control " ++
        "on a targetd instance is IQN-based ACLs only"]⟩
    else .ok ()
  else
    .error ⟨.invalidArg, ["iscsi: instance ", inst, " has unknown management ", ic.management,
      " (want \"local\" or \"targetd\")"]⟩

/-- The configuration of an instance, checked and with its defaults. -/
def inst (b : Backend) (name : String) : Except Err InstanceConfig := do
  let ic := (b.instances name).getD .zero
  checkManagement name (b.instances name).isSome ic
  match ic.portalList.find? fun p => Strings.contains p "[" with
  | some p => throw ⟨.invalidArg, ["iscsi: instance ", name, " portal ", p,
      ": bracketed IPv6 portals are not supported"]⟩
  | none => return { ic with iqnBase := ic.base }

def targetIQN (base lv : String) : String := base ++ ":tgt-" ++ lv

/-- A node id in the characters of a name. -/
def sanitizeIQN (s : String) : String :=
  String.ofList ((Strings.toLower s).toList.map fun c =>
    if ('a' ≤ c ∧ c ≤ 'z') ∨ ('0' ≤ c ∧ c ≤ '9') ∨ c = '.' ∨ c = '-' then c else '-')

def initiatorIQN (base nodeID : String) : String := base ++ ":init-" ++ sanitizeIQN nodeID

def tdLocationPrefix : String := "targetd:"

def tdLocation (pool : String) : String := tdLocationPrefix ++ pool

def isTdLocation (loc : String) : Bool := Strings.hasPrefix loc tdLocationPrefix

def tdPoolFromLocation (loc : String) : String :=
  if isTdLocation loc then Strings.dropFirst loc tdLocationPrefix.length else loc

/-- The pool of a volume is the one in its handle, if there is one. -/
def tdWithHandlePool (ic : InstanceConfig) (location : String) : InstanceConfig :=
  if isTdLocation location ∧ tdPoolFromLocation location ≠ "" then
    { ic with targetdPool := tdPoolFromLocation location }
  else ic

theorem isTdLocation_tdLocation (pool : String) : isTdLocation (tdLocation pool) = true := by
  rw [isTdLocation, Strings.hasPrefix, List.isPrefixOf_iff_prefix, tdLocation,
    String.toList_append]
  exact List.prefix_append _ _

theorem tdPoolFromLocation_tdLocation (pool : String) :
    tdPoolFromLocation (tdLocation pool) = pool := by
  rw [tdPoolFromLocation, if_pos (isTdLocation_tdLocation pool), Strings.dropFirst, tdLocation,
    String.toList_append, List.drop_left', String.ofList_toList]
  rfl

theorem tdWithHandlePool_tdLocation {pool : String} (hpool : pool ≠ "") (ic : InstanceConfig) :
    tdWithHandlePool ic (tdLocation pool) = { ic with targetdPool := pool } := by
  rw [tdWithHandlePool, tdPoolFromLocation_tdLocation,
    if_pos ⟨isTdLocation_tdLocation pool, hpool⟩]

end BardCsi.Iscsi
