import BardCsi.Ceph.VolumeGroups
import BardCsi.Table

/-!
How the ceph-rbd plugin lists volume groups. It asks every instance for the groups of the pool
that is configured for it, and takes the instances in the order of a map.
-/
namespace BardCsi.Ceph.Listing

open VolumeGroups (GroupImage VolumeGroupResponse)
open Assoc (MapOrder)

/-- A name with the shape of the names that the plugin gives: any prefix and a digest. -/
def isBardImageName (name : String) : Bool := hasDigest name

/-- What `rbd` replies to the listing commands of an instance. A list of names that does not parse
is `none`. -/
structure Rbd where
  groupList : (inst pool : String) → Except RunError (Option (List String))
  groupImageList : (inst spec : String) → Except RunError (Except String (List GroupImage))

def groupMembers (rbd : Rbd) (inst spec : String) : Except Err (List VolumeRef) := do
  let out ← (rbd.groupImageList inst spec).mapError fun e =>
    errorf ["ceph-rbd: rbd group image list ", spec, ": ", e.text]
  let raw ← out.mapError fun msg => errorf ["ceph-rbd: parse group image list: ", .lit msg]
  return raw.map (GroupImage.ref inst)

def listGroups (rbd : Rbd) (inst pool : String) :
    List String → Except Err (List VolumeGroupResponse)
  | [] => .ok []
  | name :: names => do
      let members ← groupMembers rbd inst (pool ++ "/" ++ name)
      let groups ← listGroups rbd inst pool names
      return ⟨⟨inst, pool, name⟩, members⟩ :: groups

def listInstance (rbd : Rbd) (inst : String) (cc : ClusterConfig) :
    Except Err (List VolumeGroupResponse) := do
  let names ← (rbd.groupList inst cc.pool).mapError fun e =>
    errorf ["ceph-rbd: rbd group list ", cc.pool, ": ", e.text]
  listGroups rbd inst cc.pool ((names.getD []).filter isBardImageName)

def listInstances (rbd : Rbd) :
    List (String × ClusterConfig) → Except Err (List VolumeGroupResponse)
  | [] => .ok []
  | (inst, cc) :: rest => do
      let groups ← listInstance rbd inst cc
      let others ← listInstances rbd rest
      return groups ++ others

def listVolumeGroups (clusters : Table String ClusterConfig)
    (order : MapOrder (String × ClusterConfig)) (rbd : Rbd) :
    Except Err (List VolumeGroupResponse) :=
  listInstances rbd (order.arrange clusters.entries)

/-- The groups of each pool of each instance, in the order in which `rbd` lists them, and the
images of each group. -/
structure Groups where
  names : (inst pool : String) → List String
  members : (inst spec : String) → List GroupImage

namespace Groups

def rbd (w : Groups) : Rbd where
  groupList inst pool := .ok (some (w.names inst pool))
  groupImageList inst spec := .ok (.ok (w.members inst spec))

def group (w : Groups) (r : VolumeRef) : VolumeGroupResponse :=
  ⟨r, (w.members r.inst r.imageSpec).map (GroupImage.ref r.inst)⟩

/-- The groups that the plugin finds on an instance. -/
def found (w : Groups) (e : String × ClusterConfig) : List VolumeRef :=
  ((w.names e.1 e.2.pool).filter isBardImageName).map fun name => ⟨e.1, e.2.pool, name⟩

variable (w : Groups)

theorem listGroups_rbd (inst pool : String) (names : List String) :
    listGroups w.rbd inst pool names =
      .ok (names.map fun name => w.group ⟨inst, pool, name⟩) := by
  induction names with
  | nil => rfl
  | cons name names ih =>
    rw [listGroups, ih]
    rfl

theorem listInstance_rbd (inst : String) (cc : ClusterConfig) :
    listInstance w.rbd inst cc = .ok ((w.found (inst, cc)).map w.group) := by
  have hgroups := w.listGroups_rbd inst cc.pool ((w.names inst cc.pool).filter isBardImageName)
  rw [found, List.map_map]
  exact hgroups

theorem listInstances_rbd (l : List (String × ClusterConfig)) :
    listInstances w.rbd l = .ok ((l.flatMap w.found).map w.group) := by
  induction l with
  | nil => rfl
  | cons e l ih =>
    obtain ⟨inst, cc⟩ := e
    rw [listInstances, w.listInstance_rbd, ih, List.flatMap_cons, List.map_append]
    rfl

end Groups

end BardCsi.Ceph.Listing
