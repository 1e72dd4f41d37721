import BardCsi.Ceph.Replication
import BardCsi.Ceph.Volumes
import BardCsi.Digest
import BardCsi.Effect.Misread

/-!
The volume groups of the ceph-rbd plugin, which are `rbd` groups. Creating a group adds the
requested images to it, and modifying one adds what is missing and removes what is not asked
for. `rbd` answers that an image exists when any group has it, and the plugin takes that answer
for membership in the group at hand. It also takes a failure of another cause for that answer, if
the word is in its text or in the command line.
-/
namespace BardCsi.Ceph.VolumeGroups

open Effect Effect.Program
open Assoc (MapOrder)

def groupNamePrefix : String := "csi-group-"

def paramVolumeGroupNamePrefix : String := "volumeGroupNamePrefix"

/-- One record of `rbd group image list`. -/
structure GroupImage where
  pool : String
  radosNamespace : String
  image : String
deriving DecidableEq, Repr

def GroupImage.ref (inst : String) (r : GroupImage) : VolumeRef :=
  ⟨inst, locator r.pool r.radosNamespace, r.image⟩

def GroupImage.spec (r : GroupImage) : String := locator r.pool r.radosNamespace ++ "/" ++ r.image

inductive Cmd where
  | groupCreate (group : String)
  | imageAdd (group image : String)
  | imageRm (group image : String)
  | imageList (group : String)
deriving DecidableEq, Repr

/-- A listing may be a text that does not parse. -/
def Cmd.Reply : Cmd → Type
  | .imageList _ => Except RunError (Except String (List GroupImage))
  | .groupCreate _ | .imageAdd _ _ | .imageRm _ _ => Except RunError Unit

abbrev Prog := Program Cmd Cmd.Reply Err

def run (c : Cmd) : Prog c.Reply := ask c

structure Backend where
  clusters : String → Option ClusterConfig
  /-- The first eight bytes of the digest of a name. -/
  sum : String → Fin (2 ^ 64)

def cluster (b : Backend) (inst : String) : Prog ClusterConfig :=
  clusterFor "ceph-rbd" b.clusters inst

structure CreateVolumeGroupRequest where
  inst : String
  pool : String
  name : String
  volumes : List VolumeRef
  parameters : Params

structure ModifyVolumeGroupRequest where
  group : VolumeRef
  volumes : List VolumeRef

structure VolumeGroupResponse where
  group : VolumeRef
  volumes : List VolumeRef
deriving DecidableEq, Repr

def groupImageAdd (group : String) (m : VolumeRef) : Prog Unit := do
  let r : Except RunError Unit ← run (.imageAdd group m.imageSpec)
  match r with
  | .ok () => return ()
  | .error .alreadyExists => return ()
  | .error e =>
      .fail (errorf ["ceph-rbd: rbd group image add ", group, " ", m.imageSpec, ": ", e.text])

def groupImageRemove (group : String) (m : VolumeRef) : Prog Unit := do
  let r : Except RunError Unit ← run (.imageRm group m.imageSpec)
  match r with
  | .ok () => return ()
  | .error .notFound => return ()
  | .error e =>
      .fail (errorf ["ceph-rbd: rbd group image rm ", group, " ", m.imageSpec, ": ", e.text])

def groupImageList (inst group : String) : Prog (List VolumeRef) := do
  let r : Except RunError (Except String (List GroupImage)) ← run (.imageList group)
  match r with
  | .error e => .fail (errorf ["ceph-rbd: rbd group image list ", group, ": ", e.text])
  | .ok (.error msg) => .fail (errorf ["ceph-rbd: parse group image list: ", msg])
  | .ok (.ok raw) => return raw.map (GroupImage.ref inst)

def addAll (group : String) : List VolumeRef → Prog Unit
  | [] => return ()
  | m :: ms => do
      groupImageAdd group m
      addAll group ms

def createVolumeGroup (b : Backend) (req : CreateVolumeGroupRequest) :
    Prog VolumeGroupResponse := do
  let cc ← cluster b req.inst
  let pool := if req.pool = "" then cc.pool else req.pool
  if pool = "" then .fail ⟨.invalidArg, ["ceph-rbd: no pool for volume group"]⟩
  else
    match namePrefix paramVolumeGroupNamePrefix (req.parameters paramVolumeGroupNamePrefix)
        groupNamePrefix with
    | .error e => .fail e
    | .ok pre =>
        let group := digestName b.sum pre req.name
        let groupSpec := pool ++ "/" ++ group
        let created : Except RunError Unit ← run (.groupCreate groupSpec)
        match created with
        | .ok () | .error .alreadyExists => do
            addAll groupSpec req.volumes
            let members ← groupImageList req.inst groupSpec
            return ⟨⟨req.inst, pool, group⟩, members⟩
        | .error e => .fail (errorf ["ceph-rbd: rbd group create ", groupSpec, ": ", e.text])

/-- The requested volumes by their specs. Of two with one spec the last stays. -/
def wanted (volumes : List VolumeRef) : List (String × VolumeRef) :=
  volumes.foldl (fun want m => Assoc.set want m.imageSpec m) []

def addMissing (group : String) (present : List String) : List (String × VolumeRef) → Prog Unit
  | [] => return ()
  | (key, m) :: rest => do
      if key ∉ present then groupImageAdd group m else .pure ()
      addMissing group present rest

def removeExtra (group : String) (want : List (String × VolumeRef)) : List VolumeRef → Prog Unit
  | [] => return ()
  | m :: rest => do
      if Assoc.get want m.imageSpec = none then groupImageRemove group m else .pure ()
      removeExtra group want rest

def modifyVolumeGroup (b : Backend) (order : MapOrder (String × VolumeRef))
    (req : ModifyVolumeGroupRequest) : Prog VolumeGroupResponse := do
  let _ ← cluster b req.group.inst
  let groupSpec := req.group.imageSpec
  let current ← groupImageList req.group.inst groupSpec
  let want := wanted req.volumes
  addMissing groupSpec (current.map VolumeRef.imageSpec) (order.arrange want)
  removeExtra groupSpec want current
  let members ← groupImageList req.group.inst groupSpec
  return ⟨req.group, members⟩

/-! The groups of a cluster. -/

/-- An image is in at most one group, and only an image of the cluster is in one. -/
structure Cluster where
  images : List GroupImage
  groups : List String
  /-- The group that an image, named by its spec, is in. -/
  owner : String → Option String
  owned : ∀ s g, owner s = some g → g ∈ groups ∧ s ∈ images.map GroupImage.spec

namespace Cluster

def members (w : Cluster) (g : String) : List GroupImage :=
  w.images.filter fun r => w.owner r.spec = some g

def create (w : Cluster) (g : String) : Cluster where
  images := w.images
  groups := g :: w.groups
  owner := w.owner
  owned s g' h := ⟨List.mem_cons_of_mem _ (w.owned s g' h).1, (w.owned s g' h).2⟩

def join (w : Cluster) (g s : String) (h : g ∈ w.groups ∧ s ∈ w.images.map GroupImage.spec) :
    Cluster where
  images := w.images
  groups := w.groups
  owner := Function.update w.owner s (some g)
  owned x g' hx := by
    rw [Function.update_apply] at hx
    split_ifs at hx with hs
    · cases hx
      exact hs ▸ h
    · exact w.owned x g' hx

def leave (w : Cluster) (s : String) : Cluster where
  images := w.images
  groups := w.groups
  owner := Function.update w.owner s none
  owned x g' hx := by
    rw [Function.update_apply] at hx
    split_ifs at hx with hs
    exact w.owned x g' hx

end Cluster

/-- What the environment does with a request. -/
inductive Outcome where
  | ok
  | failed (msg : String) (landed : Bool)
  | garbled (msg : String)
deriving DecidableEq, Repr

def perform : (c : Cmd) → Cluster → c.Reply × Cluster
  | .groupCreate g, w =>
      if g ∈ w.groups then (.error .alreadyExists, w) else (.ok (), w.create g)
  | .imageAdd g s, w =>
      if h : g ∈ w.groups ∧ s ∈ w.images.map GroupImage.spec then
        if w.owner s = none then (.ok (), w.join g s h) else (.error .alreadyExists, w)
      else (.error .notFound, w)
  | .imageRm g s, w =>
      if w.owner s = some g then (.ok (), w.leave s) else (.error .notFound, w)
  | .imageList g, w =>
      if g ∈ w.groups then (.ok (.ok (w.members g)), w) else (.error .notFound, w)

def Cmd.failed (msg : String) : (c : Cmd) → c.Reply
  | .imageList _ => .error (.other msg)
  | .groupCreate _ | .imageAdd _ _ | .imageRm _ _ => .error (.other msg)

def Cmd.garbled (msg : String) : (c : Cmd) → Cluster → c.Reply × Cluster
  | .imageList _, w => (.ok (.error msg), w)
  | .groupCreate g, w => perform (.groupCreate g) w
  | .imageAdd g s, w => perform (.imageAdd g s) w
  | .imageRm g s, w => perform (.imageRm g s) w

def step (_ : Unit) (c : Cmd) : Outcome → Cluster → c.Reply × Cluster
  | .ok, w => perform c w
  | .failed msg landed, w => (c.failed msg, if landed then (perform c w).2 else w)
  | .garbled msg, w => c.garbled msg w

def machine : Machine Cmd Cmd.Reply Unit Outcome Cluster := ⟨step⟩

/-- The answer that a failed request may be taken for. -/
def Cmd.misread : (c : Cmd) → Option c.Reply
  | .groupCreate _ | .imageAdd _ _ => some (.error .alreadyExists)
  | .imageRm _ _ => some (.error .notFound)
  | .imageList _ => none

/-- The cluster with failures that are misread. -/
def tools : Machine Cmd Cmd.Reply Unit (Outcome × Bool) Cluster := machine.misreading Cmd.misread

/-! What a part of a call that succeeds has done to the groups. -/

def free : Contract Cmd Outcome Cluster :=
  .alone (fun _ => True) (fun _ _ _ => True) fun _ _ _ => True

/-- Whatever the environment does, the program ends in `P` if it succeeds. -/
def Leads {α : Type} (p : Prog α) (w : Cluster) (P : α → Cluster → Prop) : Prop :=
  p.Meets machine () free (IfOk P) w

section Rules

variable {α β : Type} {p : Prog α} {w : Cluster} {P Q : α → Cluster → Prop}

theorem leads_pure {a : α} (h : P a w) : Leads (.pure a) w P :=
  meets_pure_alone.mpr fun _ => h

theorem leads_fail {e : Err} : Leads (.fail e) w P := meets_fail_alone.mpr fun _ => trivial

theorem leads_run {c : Cmd} {k : c.Reply → Prog α}
    (hdone : Leads (k (perform c w).1) (perform c w).2 P)
    (hfailed : ∀ msg w', Leads (k (c.failed msg)) w' P)
    (hgarbled : ∀ msg, c.garbled msg w = perform c w ∨
      Leads (k (c.garbled msg w).1) (c.garbled msg w).2 P) : Leads ((run c).bind k) w P := by
  apply meets_request_alone.mpr
  intro _ o _
  refine ⟨trivial, trivial, ?_⟩
  cases o with
  | ok => exact hdone
  | failed msg landed => exact hfailed msg _
  | garbled msg =>
    change Leads (k (c.garbled msg w).1) (c.garbled msg w).2 P
    rcases hgarbled msg with h | h
    · rw [h]
      exact hdone
    · exact h

theorem Leads.seq {k : α → Prog β} {R : β → Cluster → Prop} (h : Leads p w P)
    (hk : ∀ a w', P a w' → Leads (k a) w' R) : Leads (p.bind k) w R :=
  Meets.ends h fun a w' _ => hk a w'

theorem Leads.exec (h : Leads p w P) {os : List Outcome} {a : α}
    (hok : (machine.exec () p os w).2.2 = some (.ok a)) : P a (machine.exec () p os w).2.1 :=
  (Meets.exec h trivial os fun _ _ => trivial).2.2 (.ok a) hok

end Rules

/-- The owners once the images of `S` that were in no group are in group `g`. -/
def joined (g : String) (S : List String) (owner : String → Option String) (x : String) :
    Option String :=
  if x ∈ S ∧ owner x = none then some g else owner x

/-- The owners once no image of `R` is in group `g`. -/
def parted (g : String) (R : List String) (owner : String → Option String) (x : String) :
    Option String :=
  if x ∈ R ∧ owner x = some g then none else owner x

section Parts

variable {w : Cluster} {group inst : String} {m : VolumeRef} {b : Backend}

theorem cluster_leads : Leads (cluster b inst) w fun _ w' => w' = w := by
  unfold cluster clusterFor
  split
  · exact leads_pure rfl
  · exact leads_fail

theorem perform_imageAdd (g x : String) (w : Cluster) :
    perform (.imageAdd g x) w = (.error .notFound, w) ∨
      ∃ w', (perform (.imageAdd g x) w = (.ok (), w') ∨
        perform (.imageAdd g x) w = (.error .alreadyExists, w')) ∧
        w'.owner = joined g [x] w.owner := by
  by_cases h : g ∈ w.groups ∧ x ∈ w.images.map GroupImage.spec
  · right
    by_cases hnone : w.owner x = none
    · refine ⟨w.join g x h, .inl (by rw [perform, dif_pos h, if_pos hnone]), ?_⟩
      funext y
      by_cases hy : y = x <;> simp [joined, Cluster.join, hy, hnone]
    · refine ⟨w, .inr (by rw [perform, dif_pos h, if_neg hnone]), ?_⟩
      funext y
      by_cases hy : y = x <;> simp [joined, hy, hnone]
  · left
    rw [perform, dif_neg h]

theorem perform_imageRm (g x : String) (w : Cluster) :
    ∃ w', (perform (.imageRm g x) w = (.ok (), w') ∨
      perform (.imageRm g x) w = (.error .notFound, w')) ∧
      w'.owner = parted g [x] w.owner := by
  by_cases h : w.owner x = some g
  · refine ⟨w.leave x, .inl (by rw [perform, if_pos h]), ?_⟩
    funext y
    by_cases hy : y = x <;> simp [parted, Cluster.leave, hy, h]
  · refine ⟨w, .inr (by rw [perform, if_neg h]), ?_⟩
    funext y
    by_cases hy : y = x <;> simp [parted, hy, h]

theorem perform_groupCreate (g : String) (w : Cluster) :
    ∃ w', (perform (.groupCreate g) w = (.ok (), w') ∨
      perform (.groupCreate g) w = (.error .alreadyExists, w')) ∧ w'.owner = w.owner := by
  by_cases h : g ∈ w.groups
  · exact ⟨w, .inr (by rw [perform, if_pos h]), rfl⟩
  · exact ⟨w.create g, .inl (by rw [perform, if_neg h]), rfl⟩

theorem groupImageAdd_leads : Leads (groupImageAdd group m) w fun _ w' =>
    w'.owner = joined group [m.imageSpec] w.owner := by
  refine leads_run ?_ (fun _ _ => leads_fail) fun _ => .inl rfl
  rcases perform_imageAdd group m.imageSpec w with h | ⟨w', h | h, hw'⟩
  · rw [h]
    exact leads_fail
  · rw [h]
    exact leads_pure hw'
  · rw [h]
    exact leads_pure hw'

theorem groupImageRemove_leads : Leads (groupImageRemove group m) w fun _ w' =>
    w'.owner = parted group [m.imageSpec] w.owner := by
  refine leads_run ?_ (fun _ _ => leads_fail) fun _ => .inl rfl
  obtain ⟨w', h | h, hw'⟩ := perform_imageRm group m.imageSpec w
  · rw [h]
    exact leads_pure hw'
  · rw [h]
    exact leads_pure hw'

theorem groupImageList_leads : Leads (groupImageList inst group) w fun ms w' =>
    w' = w ∧ ms = (w.members group).map (GroupImage.ref inst) := by
  refine leads_run ?_ (fun _ _ => leads_fail) fun _ => .inr leads_fail
  by_cases h : group ∈ w.groups
  · rw [show perform (.imageList group) w = (.ok (.ok (w.members group)), w) by
      rw [perform, if_pos h]]
    exact leads_pure ⟨rfl, rfl⟩
  · rw [show perform (.imageList group) w = (.error .notFound, w) by rw [perform, if_neg h]]
    exact leads_fail

theorem joined_nil (g : String) (owner : String → Option String) : joined g [] owner = owner := by
  funext x
  simp [joined]

theorem joined_cons (g x : String) (S : List String) (owner : String → Option String) :
    joined g S (joined g [x] owner) = joined g (x :: S) owner := by
  funext y
  by_cases hy : y = x <;> by_cases hnone : owner y = none <;> simp_all [joined]

theorem parted_nil (g : String) (owner : String → Option String) : parted g [] owner = owner := by
  funext x
  simp [parted]

theorem parted_cons (g x : String) (R : List String) (owner : String → Option String) :
    parted g R (parted g [x] owner) = parted g (x :: R) owner := by
  funext y
  by_cases hy : y = x <;> by_cases hg : owner y = some g <;> simp_all [parted]

theorem addAll_leads (ms : List VolumeRef) : Leads (addAll group ms) w fun _ w' =>
    w'.owner = joined group (ms.map VolumeRef.imageSpec) w.owner := by
  induction ms generalizing w with
  | nil => exact leads_pure (joined_nil _ _).symm
  | cons m ms ih =>
    refine groupImageAdd_leads.seq ?_
    intro _ w₁ h₁
    have hrest := ih (w := w₁)
    rwa [h₁, joined_cons] at hrest

theorem addMissing_eq (present : List String) (want : List (String × VolumeRef)) :
    addMissing group present want =
      addAll group ((want.filter fun e => e.1 ∉ present).map Prod.snd) := by
  induction want with
  | nil => rfl
  | cons e want ih =>
    obtain ⟨key, m⟩ := e
    by_cases h : key ∈ present
    · simp [addMissing, h, ih]
    · simp [addMissing, h, ih, addAll]

theorem removeExtra_leads (want : List (String × VolumeRef)) (ms : List VolumeRef) :
    Leads (removeExtra group want ms) w fun _ w' => w'.owner = parted group
      ((ms.map VolumeRef.imageSpec).filter fun x => Assoc.get want x = none) w.owner := by
  induction ms generalizing w with
  | nil => exact leads_pure (parted_nil _ _).symm
  | cons m ms ih =>
    by_cases h : Assoc.get want m.imageSpec = none
    · simp only [removeExtra, h, if_true, List.map_cons, List.filter_cons, decide_true]
      refine groupImageRemove_leads.seq ?_
      intro _ w₁ h₁
      have hrest := ih (w := w₁)
      rwa [h₁, parted_cons] at hrest
    · simpa [removeExtra, h] using ih

end Parts

section Wanted

variable {volumes : List VolumeRef} {x : String}

theorem get_wanted_eq_none_iff :
    Assoc.get (wanted volumes) x = none ↔ x ∉ volumes.map VolumeRef.imageSpec := by
  have hfold : ∀ acc, Assoc.get (volumes.foldl (fun want m => Assoc.set want m.imageSpec m) acc) x =
      none ↔ Assoc.get acc x = none ∧ x ∉ volumes.map VolumeRef.imageSpec := by
    induction volumes with
    | nil => simp
    | cons m ms ih =>
      intro acc
      rw [List.foldl_cons, ih]
      by_cases hx : x = m.imageSpec
      · simp [hx]
      · simp [hx, Assoc.get_set_of_ne]
  simp [wanted, hfold, Assoc.get]

theorem imageSpec_of_mem_wanted {e : String × VolumeRef} (h : e ∈ wanted volumes) :
    e.2.imageSpec = e.1 := by
  have hfold : ∀ acc : List (String × VolumeRef), (∀ e ∈ acc, e.2.imageSpec = e.1) →
      ∀ e ∈ volumes.foldl (fun want m => Assoc.set want m.imageSpec m) acc,
        e.2.imageSpec = e.1 := by
    clear h
    induction volumes with
    | nil => exact fun acc h => h
    | cons m ms ih =>
      intro acc hacc
      apply ih
      intro e he
      rcases Assoc.mem_set.mp he with rfl | ⟨he, -⟩
      · rfl
      · exact hacc e he
  exact hfold [] (by simp) e h

theorem mem_missing_iff (order : MapOrder (String × VolumeRef)) {present : List String} :
    x ∈ (((order.arrange (wanted volumes)).filter fun e => e.1 ∉ present).map Prod.snd).map
        VolumeRef.imageSpec ↔ x ∈ volumes.map VolumeRef.imageSpec ∧ x ∉ present := by
  constructor
  · intro h
    obtain ⟨m, hm, rfl⟩ := List.mem_map.mp h
    obtain ⟨⟨key, m'⟩, he, rfl⟩ := List.mem_map.mp hm
    obtain ⟨he, hkey⟩ := List.mem_filter.mp he
    have hmem := (order.perm _).mem_iff.mp he
    obtain rfl : m'.imageSpec = key := imageSpec_of_mem_wanted hmem
    refine ⟨?_, by simpa using hkey⟩
    by_contra hx
    exact Assoc.get_eq_none (get_wanted_eq_none_iff.mpr hx) m' hmem
  · rintro ⟨hx, hpresent⟩
    obtain ⟨m, hm⟩ := Option.ne_none_iff_exists'.mp (mt get_wanted_eq_none_iff.mp (not_not.mpr hx))
    have hmem := Assoc.mem_of_get hm
    refine List.mem_map.mpr ⟨m, List.mem_map.mpr ⟨(x, m), ?_, rfl⟩, imageSpec_of_mem_wanted hmem⟩
    exact List.mem_filter.mpr ⟨(order.perm _).mem_iff.mpr hmem, by simpa using hpresent⟩

end Wanted

/-! Whole calls. -/

theorem joined_congr {g : String} {S T : List String} {owner : String → Option String}
    (h : ∀ x, owner x = none → (x ∈ S ↔ x ∈ T)) : joined g S owner = joined g T owner := by
  funext x
  by_cases hx : owner x = none
  · simp [joined, hx, h x hx]
  · simp [joined, hx]

theorem mem_specs_members_iff {w : Cluster} {g inst x : String} :
    x ∈ ((w.members g).map (GroupImage.ref inst)).map VolumeRef.imageSpec ↔
      w.owner x = some g := by
  have hspec : VolumeRef.imageSpec ∘ GroupImage.ref inst = GroupImage.spec := rfl
  rw [List.map_map, hspec]
  constructor
  · intro h
    obtain ⟨r, hr, rfl⟩ := List.mem_map.mp h
    simpa using (List.mem_filter.mp hr).2
  · intro h
    obtain ⟨r, hr, rfl⟩ := List.mem_map.mp (w.owned x g h).2
    exact List.mem_map.mpr ⟨r, List.mem_filter.mpr ⟨hr, by simpa using h⟩, rfl⟩

inductive Call where
  | create (req : CreateVolumeGroupRequest)
  | modify (req : ModifyVolumeGroupRequest)

def Call.program (b : Backend) (order : MapOrder (String × VolumeRef)) :
    Call → Prog VolumeGroupResponse
  | .create req => createVolumeGroup b req
  | .modify req => modifyVolumeGroup b order req

/-- The images that a call asks for. -/
def Call.images : Call → List String
  | .create req => req.volumes.map VolumeRef.imageSpec
  | .modify req => req.volumes.map VolumeRef.imageSpec

/-- The group that a call is about. -/
def Call.group (b : Backend) : Call → String
  | .create req =>
      match b.clusters req.inst, namePrefix paramVolumeGroupNamePrefix
        (req.parameters paramVolumeGroupNamePrefix) groupNamePrefix with
      | some cc, .ok pre => (if req.pool = "" then cc.pool else req.pool) ++ "/" ++
          digestName b.sum pre req.name
      | _, _ => ""
  | .modify req => req.group.imageSpec

/-- The members are what was asked for: all of it after a creation, exactly it after a
modification. -/
def Call.Fulfilled (b : Backend) (w : Cluster) : Call → Prop
  | .create req => ∀ v ∈ req.volumes, w.owner v.imageSpec = some ((Call.create req).group b)
  | .modify req =>
      ∀ x, w.owner x = some req.group.imageSpec ↔ x ∈ req.volumes.map VolumeRef.imageSpec

section Calls

variable {b : Backend} {w : Cluster}

theorem createVolumeGroup_leads (req : CreateVolumeGroupRequest) :
    Leads (createVolumeGroup b req) w fun _ w' => w'.owner =
      joined ((Call.create req).group b) (Call.create req).images w.owner := by
  unfold createVolumeGroup cluster clusterFor
  cases hcc : b.clusters req.inst with
  | none => exact leads_fail
  | some cc =>
    cases hpre : namePrefix paramVolumeGroupNamePrefix
        (req.parameters paramVolumeGroupNamePrefix) groupNamePrefix with
    | error e => exact Meets.ite (fun _ => leads_fail) fun _ => leads_fail
    | ok pre =>
      have hgroup : (Call.create req).group b = (if req.pool = "" then cc.pool else req.pool) ++
          "/" ++ digestName b.sum pre req.name := by
        simp only [Call.group, hcc, hpre]
      refine Meets.ite (fun _ => leads_fail) fun _ => ?_
      refine leads_run ?_ (fun _ _ => leads_fail) fun _ => .inl rfl
      obtain ⟨w₁, h₁, howner⟩ := perform_groupCreate ((Call.create req).group b) w
      rw [hgroup] at h₁ ⊢
      have hrest : Leads (addAll ((Call.create req).group b) req.volumes) w₁ fun _ w' => w'.owner =
          joined ((Call.create req).group b) (Call.create req).images w.owner := by
        rw [← howner]
        exact addAll_leads req.volumes
      rw [hgroup] at hrest
      rcases h₁ with h₁ | h₁
      · rw [h₁]
        refine hrest.seq fun _ w₂ h₂ => groupImageList_leads.seq ?_
        rintro _ _ ⟨rfl, -⟩
        exact leads_pure h₂
      · rw [h₁]
        refine hrest.seq fun _ w₂ h₂ => groupImageList_leads.seq ?_
        rintro _ _ ⟨rfl, -⟩
        exact leads_pure h₂

theorem addMissing_leads {g : String} (inst : String) (order : MapOrder (String × VolumeRef))
    (volumes : List VolumeRef) :
    Leads (addMissing g (((w.members g).map (GroupImage.ref inst)).map VolumeRef.imageSpec)
      (order.arrange (wanted volumes))) w fun _ w' =>
        w'.owner = joined g (volumes.map VolumeRef.imageSpec) w.owner := by
  rw [addMissing_eq, joined_congr (T := _)]
  · exact addAll_leads _
  · intro x hx
    rw [mem_missing_iff, mem_specs_members_iff, hx]
    simp

theorem modifyVolumeGroup_leads (order : MapOrder (String × VolumeRef))
    (req : ModifyVolumeGroupRequest) :
    Leads (modifyVolumeGroup b order req) w fun _ w' => ∀ x, w'.owner x =
      if x ∈ (Call.modify req).images then joined req.group.imageSpec [x] w.owner x
      else parted req.group.imageSpec [x] w.owner x := by
  refine cluster_leads.seq ?_
  rintro _ _ rfl
  refine groupImageList_leads.seq ?_
  rintro _ w ⟨rfl, rfl⟩
  refine (addMissing_leads _ order req.volumes).seq fun _ w₁ h₁ => ?_
  refine (removeExtra_leads _ _).seq fun _ w₂ h₂ => ?_
  refine groupImageList_leads.seq ?_
  rintro _ w' ⟨rfl, -⟩
  apply leads_pure
  intro x
  simp only [h₂, h₁, parted, List.mem_filter, mem_specs_members_iff, decide_eq_true_eq,
    get_wanted_eq_none_iff, joined, Call.images, List.mem_singleton, true_and]
  by_cases hx : x ∈ req.volumes.map VolumeRef.imageSpec
  · simp only [hx, not_true, and_false, false_and, if_false, true_and, if_true]
  · simp only [hx, not_false_eq_true, and_true, false_and, if_false, and_self]

end Calls

/-- A call that succeeds and misreads no failure gives the group the members it was asked for
exactly when no other group had one of them before. -/
theorem group_members_asked_iff (b : Backend) (order : MapOrder (String × VolumeRef)) (c : Call)
    (xs : List (Outcome × Bool)) (w : Cluster) (resp : VolumeGroupResponse)
    (htrue : machine.TruthfulRun Cmd.misread () (c.program b order) xs w)
    (hok : (tools.exec () (c.program b order) xs w).2.2 = some (.ok resp)) :
    c.Fulfilled b (tools.exec () (c.program b order) xs w).2.1 ↔
      ∀ x ∈ c.images, ∀ g, w.owner x = some g → g = c.group b := by
  obtain ⟨os, hstop, _⟩ := Machine.exec_truthful xs htrue
  rw [tools, ← hstop] at hok ⊢
  cases c with
  | create req =>
    have howner := (createVolumeGroup_leads req).exec hok
    simp only [Call.Fulfilled, Call.program] at howner ⊢
    rw [howner, ← List.forall_mem_map (P := fun x => joined _ _ w.owner x = some _)]
    refine forall₂_congr fun x hx => ?_
    have hx : x ∈ (Call.create req).images := hx
    rcases hw : w.owner x with _ | g
    · simp [joined, hw, hx]
    · simp [joined, hw]
  | modify req =>
    have howner := (modifyVolumeGroup_leads order req).exec hok
    simp only [Call.Fulfilled, Call.program, howner]
    refine forall_congr' fun x => ?_
    by_cases hx : x ∈ (Call.modify req).images
    · have hx' : x ∈ req.volumes.map VolumeRef.imageSpec := hx
      rcases hw : w.owner x with _ | g
      · simp [joined, hw, hx, hx']
      · simp [joined, hw, hx, hx', Call.group]
    · have hx' : x ∉ req.volumes.map VolumeRef.imageSpec := hx
      by_cases hw : w.owner x = some req.group.imageSpec
      · simp [parted, hw, hx, hx']
      · simp [parted, hw, hx, hx']

/-! One image, the member of one of two groups. -/

def demoCluster : ClusterConfig := ⟨["10.0.0.1"], "rbd", "", .krbd, "", false, ""⟩

def demoBackend : Backend := ⟨fun _ => some demoCluster, lengthSum⟩

def anyOrder : MapOrder (String × VolumeRef) := ⟨id, fun l => .refl l⟩

def groupedOwner (x : String) : Option String := if x = "rbd/img" then some "rbd/daily" else none

def groupedCluster : Cluster where
  images := [⟨"rbd", "", "img"⟩]
  groups := ["rbd/daily", "rbd/weekly"]
  owner := groupedOwner
  owned s g h := by
    unfold groupedOwner at h
    split_ifs at h with hs
    cases h
    rw [hs]
    decide

def weekly : ModifyVolumeGroupRequest := ⟨⟨"a", "rbd", "weekly"⟩, [⟨"a", "rbd", "img"⟩]⟩

/-- Asked for an image of another group, a modification succeeds and the image stays there. -/
theorem image_of_other_group_not_added :
    let x := tools.exec () ((Call.modify weekly).program demoBackend anyOrder)
      (List.replicate 3 (.ok, false)) groupedCluster
    x.2.2 = some (.ok ⟨weekly.group, []⟩) ∧ x.2.1.owner "rbd/img" = some "rbd/daily" ∧
      ¬ (Call.modify weekly).Fulfilled demoBackend x.2.1 := by
  refine ⟨by decide +kernel, by decide +kernel, ?_⟩
  intro h
  have hin := (h "rbd/img").mpr (by decide +kernel)
  revert hin
  decide +kernel

def daily : ModifyVolumeGroupRequest := ⟨⟨"a", "rbd", "daily"⟩, [⟨"a", "rbd", "img"⟩]⟩

theorem group_members_asked_iff_member :
    let x := tools.exec () ((Call.modify daily).program demoBackend anyOrder)
      (List.replicate 2 (.ok, false)) groupedCluster
    (Call.modify daily).Fulfilled demoBackend x.2.1 ↔
      ∀ x ∈ (Call.modify daily).images, ∀ g, groupedCluster.owner x = some g →
        g = (Call.modify daily).group demoBackend :=
  group_members_asked_iff demoBackend anyOrder (.modify daily) (List.replicate 2 (.ok, false))
    groupedCluster ⟨daily.group, [⟨"a", "rbd", "img"⟩]⟩ (Machine.truthfulRun_of_read (by decide))
    (by decide +kernel)

end BardCsi.Ceph.VolumeGroups
