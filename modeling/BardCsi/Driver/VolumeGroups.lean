import BardCsi.Driver.Listing
import BardCsi.Effect.Program
import BardCsi.Table

/-!
The volume group calls of the driver. A group lives in one instance of one backend, and the driver
reads from the ids of the members which one that is. Creating a group compares the members with
each other, and modifying one compares their instance with the group's, but not their backend.
-/
namespace BardCsi.Driver.VolumeGroups

open VolumeId (Handle Bytes Malformed bytes)
open Assoc (MapOrder)
open Effect (bind_eq_ok mapError_eq_ok)

/-- A part of a message: a text, a quoted value, or why a text is no handle. -/
inductive Part where
  | text (s : String)
  | quoted (b : Bytes)
  | malformed (e : Malformed)
deriving DecidableEq, Repr

instance : Coe String Part := ⟨.text⟩

structure Refusal where
  code : Code
  msg : List Part
deriving DecidableEq, Repr

def refuse (err : BackendError) (op : String) : Refusal := ⟨err.kind.code, [op, ": ", err.text]⟩

/-- The registered backend types, and whether each can manage groups. -/
abbrev Registered := Table Bytes Bool

/-- The only type that can manage groups, in a loop that has found one or none so far. -/
def findGrouper : List (Bytes × Bool) → Option Bytes → Except Refusal (Option Bytes)
  | [], found => .ok found
  | (t, capable) :: rest, found =>
      if capable = false then findGrouper rest found
      else if found.isSome then
        .error ⟨.invalidArgument, ["multiple backends support volume groups; cannot infer"]⟩
      else findGrouper rest (some t)

/-- The type of the backend that manages groups. An empty type stands for the only one. -/
def groupBackend (order : MapOrder (Bytes × Bool)) (reg : Registered) (backendType : Bytes) :
    Except Refusal Bytes := do
  if backendType ≠ [] then
    let capable ← (reg.get backendType).elim
      (.error ⟨.invalidArgument, ["no backend configured for type ", .quoted backendType]⟩) .ok
    if capable then .ok backendType
    else .error ⟨.unimplemented,
      ["backend ", .quoted backendType, " does not support volume groups"]⟩
  else
    let found ← findGrouper (order.arrange reg.entries) none
    found.elim (.error ⟨.unimplemented, ["no registered backend supports volume groups"]⟩) .ok

def invalidId (id : Bytes) (e : Malformed) : Refusal :=
  ⟨.invalidArgument, ["invalid volume id ", .quoted id, ": ", .malformed e]⟩

/-- Read the ids of members, with the handles read so far and the type and instance they share. -/
def parseMembersFrom (handles : List Handle) (backendType inst : Bytes) :
    List Bytes → Except Refusal (List Handle × Bytes × Bytes)
  | [] => .ok (handles, backendType, inst)
  | id :: ids => do
      let h ← (VolumeId.parse id).mapError (invalidId id)
      if backendType = [] then parseMembersFrom (handles ++ [h]) h.backend h.inst ids
      else if h.backend ≠ backendType ∨ h.inst ≠ inst then
        .error ⟨.invalidArgument, ["all volumes in a group must be in the same backend instance ",
          "(a group cannot span clusters)"]⟩
      else parseMembersFrom (handles ++ [h]) backendType inst ids

def parseMembers (volumeIds : List Bytes) : Except Refusal (List Handle × Bytes × Bytes) :=
  parseMembersFrom [] [] [] volumeIds

structure VolumeGroup where
  group : Handle
  members : List Handle
deriving DecidableEq, Repr

structure GroupEntry where
  volumeGroupId : Bytes
  volumes : List Bytes
deriving DecidableEq, Repr

def groupVolumes (g : VolumeGroup) : List Bytes := g.members.map Handle.string

def VolumeGroup.entry (g : VolumeGroup) : GroupEntry := ⟨g.group.string, groupVolumes g⟩

structure CreateVolumeGroupRequest where
  name : Bytes
  volumeIds : List Bytes
  parameters : String → Bytes

structure ModifyVolumeGroupRequest where
  volumeGroupId : Bytes
  volumeIds : List Bytes
  parameters : String → Bytes

/-- The call that creates a group, on a backend. -/
structure CreateCall where
  backend : Bytes
  inst : Bytes
  pool : Bytes
  name : Bytes
  members : List Handle
  parameters : String → Bytes

/-- The call that modifies a group, on the backend of the group. -/
structure ModifyCall where
  backend : Bytes
  group : Handle
  members : List Handle
  parameters : String → Bytes

/-- The type and the instance from the parameters, for a group that has no member. -/
def placement (parameters : String → Bytes) (backendType inst : Bytes) : Bytes × Bytes :=
  if inst = [] then
    (parameters "backend",
      if parameters "clusterID" = [] then parameters "instance" else parameters "clusterID")
  else (backendType, inst)

def createCall (order : MapOrder (Bytes × Bool)) (reg : Registered)
    (req : CreateVolumeGroupRequest) : Except Refusal CreateCall := do
  if req.name = [] then .error ⟨.invalidArgument, ["volume group name is required"]⟩
  else
    let (members, backendType, inst) ← parseMembers req.volumeIds
    let pool := (members.head?.map Handle.location).getD []
    let place := placement req.parameters backendType inst
    let backend ← groupBackend order reg place.1
    .ok ⟨backend, place.2, pool, req.name, members, req.parameters⟩

def modifyCall (order : MapOrder (Bytes × Bool)) (reg : Registered)
    (req : ModifyVolumeGroupRequest) : Except Refusal ModifyCall := do
  let gh ← (VolumeId.parse req.volumeGroupId).mapError fun e =>
    ⟨.notFound, ["unknown volume group id: ", .malformed e]⟩
  let (members, _, inst) ← parseMembers req.volumeIds
  if inst ≠ [] ∧ inst ≠ gh.inst then
    .error ⟨.invalidArgument, ["group members must be in the same instance as the group"]⟩
  else
    let backend ← groupBackend order reg gh.backend
    .ok ⟨backend, gh, members, req.parameters⟩

/-! Members and the backend that is called. -/

section Members

variable {order : MapOrder (Bytes × Bool)} {reg : Registered} {id : Bytes} {ids : List Bytes}
variable {handles members : List Handle} {bt inst bt' inst' : Bytes}

/-- The handles that the ids are read as. -/
def Reads (ids : List Bytes) (members : List Handle) : Prop :=
  List.Forall₂ (fun id h => VolumeId.parse id = .ok h) ids members

theorem ne_nil_of_parse {h : Handle} (hp : VolumeId.parse id = .ok h) :
    h.backend ≠ [] ∧ h.inst ≠ [] := by
  obtain ⟨hb, hi, -⟩ := VolumeId.validate_iff.mp (VolumeId.string_of_parse hp).1
  exact ⟨hb, hi⟩

theorem parseMembersFrom_ok (hbt : bt ≠ [])
    (hok : parseMembersFrom handles bt inst ids = .ok (members, bt', inst')) :
    ∃ new, members = handles ++ new ∧ Reads ids new ∧ bt' = bt ∧ inst' = inst ∧
      ∀ m ∈ new, m.backend = bt ∧ m.inst = inst := by
  induction ids generalizing handles with
  | nil =>
    cases hok
    exact ⟨[], (List.append_nil _).symm, .nil, rfl, rfl, by simp⟩
  | cons id ids ih =>
    rw [parseMembersFrom] at hok
    obtain ⟨h, hp, hrest⟩ := bind_eq_ok.mp hok
    rw [mapError_eq_ok] at hp
    rw [if_neg hbt] at hrest
    split_ifs at hrest with hdiffer
    simp only [not_or, ne_eq, not_not] at hdiffer
    obtain ⟨new, hmembers, hreads, hb, hi, hall⟩ := ih hrest
    refine ⟨h :: new, ?_, .cons hp hreads, hb, hi, List.forall_mem_cons.mpr ⟨hdiffer, hall⟩⟩
    rw [hmembers, List.append_assoc, List.singleton_append]

theorem parseMembers_ok (hok : parseMembers ids = .ok (members, bt, inst)) :
    Reads ids members ∧ (∀ m ∈ members, m.backend = bt ∧ m.inst = inst) ∧
      (members ≠ [] → bt ≠ [] ∧ inst ≠ []) := by
  cases ids with
  | nil =>
    cases hok
    exact ⟨.nil, by simp, by simp⟩
  | cons id ids =>
    rw [parseMembers, parseMembersFrom] at hok
    obtain ⟨h, hp, hrest⟩ := bind_eq_ok.mp hok
    rw [mapError_eq_ok] at hp
    rw [if_pos rfl, List.nil_append] at hrest
    obtain ⟨hb, hi⟩ := ne_nil_of_parse hp
    obtain ⟨new, rfl, hreads, rfl, rfl, hall⟩ := parseMembersFrom_ok hb hrest
    refine ⟨.cons hp hreads, ?_, fun _ => ⟨hb, hi⟩⟩
    exact List.forall_mem_cons.mpr ⟨⟨rfl, rfl⟩, hall⟩

theorem groupBackend_ok (hbt : bt ≠ []) (hok : groupBackend order reg bt = .ok bt') : bt' = bt := by
  rw [groupBackend, if_pos hbt] at hok
  obtain ⟨capable, -, hrest⟩ := bind_eq_ok.mp hok
  cases capable with
  | false => cases hrest
  | true => exact (Except.ok.inj hrest).symm

end Members

/-- A request that creates or modifies a group. -/
inductive Request where
  | create (req : CreateVolumeGroupRequest)
  | modify (req : ModifyVolumeGroupRequest)

/-- The request is passed on to a backend, with these members, for a group of this type and
instance. -/
inductive Reaches (order : MapOrder (Bytes × Bool)) (reg : Registered) :
    Request → Bytes → Bytes → List Handle → Prop where
  | create {req : CreateVolumeGroupRequest} {call : CreateCall}
      (hcall : createCall order reg req = .ok call) :
      Reaches order reg (.create req) call.backend call.inst call.members
  | modify {req : ModifyVolumeGroupRequest} {call : ModifyCall}
      (hcall : modifyCall order reg req = .ok call) :
      Reaches order reg (.modify req) call.group.backend call.group.inst call.members

/-- The condition on a request: a group is not modified to have a first member of another type. -/
def Request.SameType : Request → Prop
  | .create _ => True
  | .modify req => ∀ id, req.volumeIds.head? = some id → ∀ h g, VolumeId.parse id = .ok h →
      VolumeId.parse req.volumeGroupId = .ok g → h.backend = g.backend

section Share

variable {order : MapOrder (Bytes × Bool)} {reg : Registered}

theorem createCall_members {req : CreateVolumeGroupRequest} {call : CreateCall}
    (hcall : createCall order reg req = .ok call) :
    ∀ m ∈ call.members, m.backend = call.backend ∧ m.inst = call.inst := by
  unfold createCall at hcall
  split_ifs at hcall
  obtain ⟨⟨members, bt, inst⟩, hparse, hrest⟩ := bind_eq_ok.mp hcall
  obtain ⟨backend, hbackend, hcall⟩ := bind_eq_ok.mp hrest
  obtain rfl := Except.ok.inj hcall
  obtain ⟨-, hshare, hne⟩ := parseMembers_ok hparse
  intro m hm
  obtain ⟨hbt, hinst⟩ := hne (List.ne_nil_of_mem hm)
  have hplace : placement req.parameters bt inst = (bt, inst) := if_neg hinst
  simp only [hplace] at hbackend ⊢
  rw [groupBackend_ok hbt hbackend]
  exact hshare m hm

theorem modifyCall_ok {req : ModifyVolumeGroupRequest} {call : ModifyCall}
    (hcall : modifyCall order reg req = .ok call) :
    VolumeId.parse req.volumeGroupId = .ok call.group ∧ Reads req.volumeIds call.members ∧
      ∃ bt, ∀ m ∈ call.members, m.backend = bt ∧ m.inst = call.group.inst := by
  unfold modifyCall at hcall
  obtain ⟨gh, hgroup, hrest⟩ := bind_eq_ok.mp hcall
  rw [mapError_eq_ok] at hgroup
  obtain ⟨⟨members, bt, inst⟩, hparse, hrest⟩ := bind_eq_ok.mp hrest
  dsimp only at hrest
  split_ifs at hrest with hdiffer
  obtain ⟨backend, -, hcall⟩ := bind_eq_ok.mp hrest
  obtain rfl := Except.ok.inj hcall
  obtain ⟨hreads, hshare, hne⟩ := parseMembers_ok hparse
  refine ⟨hgroup, hreads, bt, fun m hm => ⟨(hshare m hm).1, ?_⟩⟩
  simp only [not_and, ne_eq, not_not] at hdiffer
  rw [(hshare m hm).2]
  exact hdiffer (hne (List.ne_nil_of_mem hm)).2

/-- The members of a group that reaches a backend are of the type and instance of the group
exactly when the request meets the condition. -/
theorem group_members_share_iff (order : MapOrder (Bytes × Bool)) (reg : Registered)
    (r : Request) (bt inst : Bytes) (members : List Handle)
    (hreaches : Reaches order reg r bt inst members) :
    (∀ m ∈ members, m.backend = bt ∧ m.inst = inst) ↔ r.SameType := by
  cases hreaches with
  | create hcall => exact iff_of_true (createCall_members hcall) trivial
  | @modify req call hcall =>
    obtain ⟨hgroup, hreads, bt, hshare⟩ := modifyCall_ok hcall
    constructor
    · intro hall id hid h g hp hg
      rw [hgroup] at hg
      obtain rfl := Except.ok.inj hg
      rcases hids : req.volumeIds with _ | ⟨id', ids⟩
      · rw [hids] at hid
        cases hid
      · rw [hids] at hid hreads
        obtain rfl := Option.some.inj hid
        obtain ⟨m, ms, hm, -, hmembers⟩ := List.forall₂_cons_left_iff.mp hreads
        rw [hp] at hm
        obtain rfl := Except.ok.inj hm
        exact (hall h (hmembers ▸ List.mem_cons_self)).1
    · intro hsame m hm
      refine ⟨?_, (hshare m hm).2⟩
      rcases hmembers : call.members with _ | ⟨h, ms⟩
      · rw [hmembers] at hm
        cases hm
      · have hhead : h ∈ call.members := hmembers ▸ List.mem_cons_self
        have hreads' := hreads
        rw [hmembers] at hreads'
        obtain ⟨id, ids, hp, -, hids⟩ := List.forall₂_cons_right_iff.mp hreads'
        have hfirst := hsame id (by rw [hids]; rfl) h call.group hp hgroup
        rw [(hshare m hm).1, ← (hshare h hhead).1, hfirst]

end Share

section Instance

def idOf (backend inst name : String) : Bytes :=
  (⟨bytes backend, bytes inst, bytes "rbd", bytes name⟩ : Handle).string

def cephGroups : Registered := ⟨[(bytes "ceph-rbd", true), (bytes "cephfs", false)], by decide⟩

def listedTypes : MapOrder (Bytes × Bool) := ⟨fun l => l, fun l => .refl l⟩

/-- A group of one backend, and a volume of the same name of an instance's namesake elsewhere. -/
def strayMember : ModifyVolumeGroupRequest where
  volumeGroupId := idOf "ceph-rbd" "a" "csi-group-1"
  volumeIds := [idOf "cephfs" "a" "csi-vol-1"]
  parameters _ := []

/-- The volume of the other backend is passed on as a member. -/
theorem stray_member_passed :
    ((modifyCall listedTypes cephGroups strayMember).toOption.map fun call =>
      (call.backend, call.members.map Handle.backend)) =
      some (bytes "ceph-rbd", [bytes "cephfs"]) := by
  decide +kernel

def twoMembers : CreateVolumeGroupRequest where
  name := bytes "group"
  volumeIds := [idOf "ceph-rbd" "a" "csi-vol-1", idOf "ceph-rbd" "a" "csi-vol-2"]
  parameters _ := []

theorem group_members_share_iff_created : ∃ call,
    createCall listedTypes cephGroups twoMembers = .ok call ∧ call.members.length = 2 ∧
      ((∀ m ∈ call.members, m.backend = call.backend ∧ m.inst = call.inst) ↔
        (Request.create twoMembers).SameType) :=
  ⟨_, rfl, rfl, group_members_share_iff listedTypes cephGroups (.create twoMembers) _ _ _
    (.create rfl)⟩

end Instance

end BardCsi.Driver.VolumeGroups
