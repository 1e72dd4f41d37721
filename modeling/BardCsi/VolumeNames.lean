import BardCsi.Cephfs.Provision
import BardCsi.Effect.Calls
import BardCsi.Nfs.Volumes

/-!
The names of volumes of the cephfs and the nfs plugin. A name with a digest belongs to one CSI
name. A volume that only refers to a snapshot is named after the snapshot, and a directory that
is named by a template belongs to whoever gets that name.
-/
namespace BardCsi

open Effect Program

namespace Cephfs.Provision

variable {b : Backend} {cc : ClusterConfig} {req : CreateVolumeRequest}

/-- What the name of a volume of the cephfs plugin says. -/
def Named (b : Backend) (cc : ClusterConfig) (req : CreateVolumeRequest)
    (resp : CreateVolumeResponse) : Prop :=
  match req.shallow with
  | some snap => '@' ∈ snap.name.toList ∧ resp.location = cc.fsName ∧
      resp.name = shallowPrefix ++ snap.name
  | none => ∃ pre, '@' ∉ pre.toList ∧ resp.name = digestName b.sum pre req.name

theorem namePrefix_no_at {param value default pre : String} (hdefault : '@' ∉ default.toList)
    (h : namePrefix param value default = .ok pre) : '@' ∉ pre.toList := by
  unfold namePrefix at h
  split_ifs at h with hempty hany
  · exact Except.ok.inj h ▸ hdefault
  · obtain rfl := Except.ok.inj h
    intro hat
    refine hany (List.any_eq_true.mpr ⟨'@', hat, ?_⟩)
    decide

theorem createVolume_named (hcc : b.clusters req.inst = some cc) :
    (createVolume b req).Yields (Named b cc req) := by
  unfold createVolume cluster clusterFor
  rw [hcc]
  change ((cephConn cc req.inst req.secrets).bind _).Yields _
  refine Yields.bind _ fun _ => ?_
  refine Yields.bind _ fun _ => Yields.bind _ fun _ => ?_
  unfold Named
  cases hshallow : req.shallow with
  | some snap =>
    refine Yields.ite (fun _ => trivial) fun _ => ?_
    cases hsplit : splitSnap snap.name with
    | none => trivial
    | some x =>
      refine Yields.bind _ fun _ => Yields.bind _ fun _ => ⟨?_, rfl, ?_⟩
      · rw [← splitSnap_append hsplit]
        simp
      · rw [← splitSnap_append hsplit, ← String.append_assoc, ← String.append_assoc]
  | none =>
    change (createSubvolume b cc req).Yields _
    unfold createSubvolume
    cases hpre : namePrefix "volumeNamePrefix" (req.parameters "volumeNamePrefix") "bard-" with
    | error e => trivial
    | ok pre =>
      change ((ensureSubvolumeGroup _ _).bind _).Yields _
      refine Yields.bind _ fun _ => Yields.bind _ fun _ => ?_
      refine Yields.bind _ fun _ => (finishCreate_yields _ _ _).mono fun resp h => ?_
      exact ⟨pre, namePrefix_no_at (by decide) hpre, h.2.1⟩

theorem exists_cluster {os : List Outcome} {w : World} {resp : CreateVolumeResponse}
    (h : (machine.exec () (createVolume b req) os w).2.2 = some (.ok resp)) :
    ∃ cc, b.clusters req.inst = some cc := by
  unfold createVolume cluster clusterFor at h
  cases hcc : b.clusters req.inst with
  | some cc => exact ⟨cc, rfl⟩
  | none =>
    rw [hcc] at h
    cases h

/-- Both volumes only refer to a snapshot, and to the same one. -/
def SameSnapshot (r₁ r₂ : CreateVolumeRequest) : Prop :=
  ∃ s₁ s₂, r₁.shallow = some s₁ ∧ r₂.shallow = some s₂ ∧ s₁.name = s₂.name

theorem at_notMem_digestName {sum : String → Fin (2 ^ 64)} {pre csiName : String}
    (h : '@' ∉ pre.toList) : '@' ∉ (digestName sum pre csiName).toList := by
  rw [digestName, String.toList_append, String.toList_ofList, List.mem_append]
  rintro (hpre | hhex)
  · exact h hpre
  · exact notMem_hex (by decide) _ hhex

variable {r₁ r₂ : CreateVolumeRequest} {resp₁ resp₂ : CreateVolumeResponse}

theorem Named.shallow {snap : VolumeRef} (h : Named b cc req resp₁) (hs : req.shallow = some snap) :
    '@' ∈ resp₁.name.toList ∧ resp₁.location = cc.fsName ∧
      resp₁.name = shallowPrefix ++ snap.name := by
  rw [Named, hs] at h
  refine ⟨?_, h.2⟩
  rw [h.2.2, String.toList_append]
  exact List.mem_append_right _ h.1

theorem Named.digest (h : Named b cc req resp₁) (hs : req.shallow = none) :
    '@' ∉ resp₁.name.toList ∧ ∃ pre, resp₁.name = digestName b.sum pre req.name := by
  rw [Named, hs] at h
  obtain ⟨pre, hat, hname⟩ := h
  refine ⟨?_, pre, hname⟩
  rw [hname]
  exact at_notMem_digestName hat

theorem ids_eq_iff (h₁ : Named b cc r₁ resp₁) (h₂ : Named b cc r₂ resp₂)
    (hsum : b.sum r₁.name ≠ b.sum r₂.name) :
    (resp₁.location, resp₁.name) = (resp₂.location, resp₂.name) ↔ SameSnapshot r₁ r₂ := by
  rw [Prod.mk.injEq]
  cases hs₁ : r₁.shallow with
  | some s₁ =>
    obtain ⟨hat₁, hloc₁, hname₁⟩ := h₁.shallow hs₁
    cases hs₂ : r₂.shallow with
    | some s₂ =>
      obtain ⟨_, hloc₂, hname₂⟩ := h₂.shallow hs₂
      rw [hloc₁, hloc₂, hname₁, hname₂, String.append_right_inj]
      constructor
      · exact fun h => ⟨s₁, s₂, hs₁, hs₂, h.2⟩
      · rintro ⟨t₁, t₂, ht₁, ht₂, h⟩
        rw [Option.some.inj (hs₁.symm.trans ht₁), Option.some.inj (hs₂.symm.trans ht₂)]
        exact ⟨rfl, h⟩
    | none =>
      refine iff_of_false (fun h => (h₂.digest hs₂).1 (h.2 ▸ hat₁)) ?_
      rintro ⟨_, t₂, _, ht₂, _⟩
      cases hs₂.symm.trans ht₂
  | none =>
    obtain ⟨hat₁, pre₁, hname₁⟩ := h₁.digest hs₁
    have hnot : ¬SameSnapshot r₁ r₂ := by
      rintro ⟨t₁, _, ht₁, _⟩
      cases hs₁.symm.trans ht₁
    refine iff_of_false (fun h => ?_) hnot
    cases hs₂ : r₂.shallow with
    | some s₂ => exact hat₁ (h.2 ▸ (h₂.shallow hs₂).1)
    | none =>
      obtain ⟨_, pre₂, hname₂⟩ := h₂.digest hs₂
      rw [hname₁, hname₂] at h
      exact hsum (digestName_inj h.2).2

end Cephfs.Provision

namespace Nfs

variable {b : Backend}

theorem createVolume_named {ic : InstanceConfig} {req : CreateVolumeRequest}
    (hic : b.instances req.inst = some ic) :
    (createVolume b req).Yields fun resp =>
      resp.location = ic.exported ∧ resp.name = volDir b req := by
  unfold createVolume lookup
  rw [hic]
  by_cases hreserved : reserved (volDir b req) = true
  · change (if reserved (volDir b req) = true then _ else _ : NfsProg _).Yields _
    rw [if_pos hreserved]
    trivial
  · change (if reserved (volDir b req) = true then _ else _ : NfsProg _).Yields _
    rw [if_neg hreserved]
    exact Yields.bind _ fun _ => ⟨rfl, rfl⟩

theorem exists_instance {E : Env} {req : CreateVolumeRequest} {w : World}
    {resp : CreateVolumeResponse}
    (h : ((createVolume b req).eval (answer E) w).1 = .ok resp) :
    ∃ ic, b.instances req.inst = some ic := by
  unfold createVolume lookup at h
  cases hic : b.instances req.inst with
  | some ic => exact ⟨ic, rfl⟩
  | none =>
    rw [hic] at h
    cases h

/-- Both volumes are in one directory: two templates name it, or a template names the directory
that the other volume has by its digest. -/
def SameDirectory (b : Backend) (r₁ r₂ : CreateVolumeRequest) : Prop :=
  match subDir r₁, subDir r₂ with
  | some d₁, some d₂ => Strings.trim d₁ '/' = Strings.trim d₂ '/'
  | some d₁, none => Strings.trim d₁ '/' = volName b r₂.name
  | none, some d₂ => Strings.trim d₂ '/' = volName b r₁.name
  | none, none => False

theorem volDir_eq_iff {r₁ r₂ : CreateVolumeRequest} (hsum : b.sum r₁.name ≠ b.sum r₂.name) :
    volDir b r₁ = volDir b r₂ ↔ SameDirectory b r₁ r₂ := by
  unfold volDir SameDirectory
  cases subDir r₁ with
  | some d₁ =>
    cases subDir r₂ with
    | some d₂ => exact Iff.rfl
    | none => exact Iff.rfl
  | none =>
    cases subDir r₂ with
    | some d₂ => exact eq_comm
    | none => exact iff_false_intro fun h => hsum (digestName_inj h).2

end Nfs

/-- Two volumes with different CSI names of one instance, created successfully in whatever
states, and digests that do not collide: their identifiers differ exactly if they do not refer to
one snapshot (cephfs), or are not in one directory of the export (nfs). -/
theorem volume_ids_differ_iff (b : Cephfs.Provision.Backend) (n : Nfs.Backend) :
    (∀ r₁ r₂ : Cephfs.Provision.CreateVolumeRequest,
      r₁.inst = r₂.inst → r₁.name ≠ r₂.name →
      (b.sum r₁.name = b.sum r₂.name → r₁.name = r₂.name) →
      ∀ os₁ os₂ w₁ w₂ resp₁ resp₂,
        (Cephfs.Provision.machine.exec () (Cephfs.Provision.createVolume b r₁) os₁ w₁).2.2 =
          some (.ok resp₁) →
        (Cephfs.Provision.machine.exec () (Cephfs.Provision.createVolume b r₂) os₂ w₂).2.2 =
          some (.ok resp₂) →
        ((resp₁.location, resp₁.name) ≠ (resp₂.location, resp₂.name) ↔
          ¬Cephfs.Provision.SameSnapshot r₁ r₂)) ∧
    ∀ r₁ r₂ : Nfs.CreateVolumeRequest,
      r₁.inst = r₂.inst → r₁.name ≠ r₂.name →
      (n.sum r₁.name = n.sum r₂.name → r₁.name = r₂.name) →
      ∀ E₁ E₂ w₁ w₂ resp₁ resp₂,
        ((Nfs.createVolume n r₁).eval (Nfs.answer E₁) w₁).1 = .ok resp₁ →
        ((Nfs.createVolume n r₂).eval (Nfs.answer E₂) w₂).1 = .ok resp₂ →
        ((resp₁.location, resp₁.name) ≠ (resp₂.location, resp₂.name) ↔
          ¬Nfs.SameDirectory n r₁ r₂) := by
  constructor
  · intro r₁ r₂ hinst hne hsum os₁ os₂ w₁ w₂ resp₁ resp₂ h₁ h₂
    obtain ⟨cc, hcc⟩ := Cephfs.Provision.exists_cluster h₁
    have hnamed₁ := Machine.exec_yields (Cephfs.Provision.createVolume_named hcc) h₁
    rw [hinst] at hcc
    have hnamed₂ := Machine.exec_yields (Cephfs.Provision.createVolume_named hcc) h₂
    exact (Cephfs.Provision.ids_eq_iff hnamed₁ hnamed₂ fun h => hne (hsum h)).not
  · intro r₁ r₂ hinst hne hsum E₁ E₂ w₁ w₂ resp₁ resp₂ h₁ h₂
    obtain ⟨ic, hic⟩ := Nfs.exists_instance h₁
    have hnamed₁ := eval_yields (Nfs.createVolume_named hic) (Prod.ext h₁ rfl)
    rw [hinst] at hic
    have hnamed₂ := eval_yields (Nfs.createVolume_named hic) (Prod.ext h₂ rfl)
    rw [hnamed₁.1, hnamed₁.2, hnamed₂.1, hnamed₂.2, ne_eq, Prod.mk.injEq, and_iff_right rfl,
      Nfs.volDir_eq_iff fun h => hne (hsum h)]

section Instance

def shallowBackend : Cephfs.Provision.Backend where
  clusters _ := some
    { fsName := "cephfs", userID := "", mounter := .kernel, nfsCluster := "", nfsServer := "",
      subvolumeGroup := "" }
  sum := lengthSum
  isProbability _ := false
  clonePolls := 0

/-- A read-only volume that refers to a snapshot. -/
def shallowRequest (name : String) : Cephfs.Provision.CreateVolumeRequest where
  name := name
  inst := "fs1"
  capacityBytes := 1
  parameters key := if key = "backingSnapshot" then "true" else ""
  mutableParams := []
  secrets _ := ""
  sourceSnapshot := some ⟨"fs1", "cephfs/csi", "src@snap"⟩
  sourceVolume := none

def snapshotSource : Cephfs.Provision.World :=
  ⟨fun sub => if sub = ⟨"cephfs", "csi", "src"⟩ then some ⟨1, [("snap", 1)], none⟩ else none⟩

def sharedExport : Nfs.Backend where
  instances _ := some ⟨"nas", "/srv", "delete"⟩
  sum := lengthSum

/-- A volume of a class whose template has no variable. -/
def sharedRequest (name : String) : Nfs.CreateVolumeRequest where
  name := name
  capacityBytes := 1
  inst := "a"
  parameters key := if key = "subDir" then "shared" else ""
  sourceSnapshot := none
  sourceVolume := none

theorem tempDir_ne_empty : "/tmp/bard-nfs-1" ≠ "" := by decide

def sharedEnv : Nfs.Env where
  tempDir := .ok ⟨"/tmp/bard-nfs-1", tempDir_ne_empty⟩
  exit _ := none
  written _ := []
  survives _ := true

/-- A volume that starts empty. -/
def emptyRequest : Cephfs.Provision.CreateVolumeRequest :=
  { shallowRequest "pvc-22" with parameters := fun _ => "", sourceSnapshot := none }

def ownRequest : Nfs.CreateVolumeRequest :=
  { sharedRequest "pvc-22" with parameters := fun _ => "" }

/-- A read-only volume and an empty one, and a directory of a template and one of a digest. -/
theorem volume_ids_apart :
    (∃ resp₁ resp₂,
      (Cephfs.Provision.machine.exec () (Cephfs.Provision.createVolume shallowBackend
        (shallowRequest "pvc-1")) [.ok, .ok] snapshotSource).2.2 = some (.ok resp₁) ∧
      (Cephfs.Provision.machine.exec () (Cephfs.Provision.createVolume shallowBackend
        emptyRequest) (List.replicate 6 .ok) snapshotSource).2.2 = some (.ok resp₂) ∧
      (resp₁.location, resp₁.name) ≠ (resp₂.location, resp₂.name)) ∧
    ∃ resp₁ resp₂,
      ((Nfs.createVolume sharedExport (sharedRequest "pvc-1")).eval (Nfs.answer sharedEnv)
        ⟨fun _ => [], none⟩).1 = .ok resp₁ ∧
      ((Nfs.createVolume sharedExport ownRequest).eval (Nfs.answer sharedEnv)
        ⟨fun _ => [], none⟩).1 = .ok resp₂ ∧
      (resp₁.location, resp₁.name) ≠ (resp₂.location, resp₂.name) := by
  obtain ⟨hcephfs, hnfs⟩ := volume_ids_differ_iff shallowBackend sharedExport
  constructor
  · refine ⟨⟨"cephfs", "shallow-src@snap", 1, [("path", "/volumes/csi/src/.snap/snap")]⟩,
      ⟨"cephfs/csi", "bard-0000000000000006", 1, [("path", "/volumes/csi/bard-0000000000000006")]⟩,
      by decide +kernel, by decide +kernel, (hcephfs (shallowRequest "pvc-1") emptyRequest rfl
        (by decide) (by decide) [.ok, .ok] (List.replicate 6 .ok) snapshotSource snapshotSource
        _ _ (by decide +kernel) (by decide +kernel)).mpr ?_⟩
    rintro ⟨_, _, _, hshallow, _⟩
    cases hshallow
  · refine ⟨⟨"/srv", "shared", 1, "nas"⟩, ⟨"/srv", "bard-0000000000000006", 1, "nas"⟩,
      by decide +kernel, by decide +kernel, (hnfs (sharedRequest "pvc-1") ownRequest rfl
        (by decide) (by decide) sharedEnv sharedEnv ⟨fun _ => [], none⟩ ⟨fun _ => [], none⟩
        _ _ (by decide +kernel) (by decide +kernel)).mpr ?_⟩
    change ¬Strings.trim "shared" '/' = Nfs.volName sharedExport "pvc-22"
    decide +kernel

/-- Two claims with read-only volumes of one snapshot, and two with directories of one template,
get the same identifier. -/
theorem volume_ids_coincide :
    (∃ resp₁ resp₂,
      (Cephfs.Provision.machine.exec () (Cephfs.Provision.createVolume shallowBackend
        (shallowRequest "pvc-1")) [.ok, .ok] snapshotSource).2.2 = some (.ok resp₁) ∧
      (Cephfs.Provision.machine.exec () (Cephfs.Provision.createVolume shallowBackend
        (shallowRequest "pvc-22")) [.ok, .ok] snapshotSource).2.2 = some (.ok resp₂) ∧
      (resp₁.location, resp₁.name) = (resp₂.location, resp₂.name)) ∧
    ∃ resp₁ resp₂,
      ((Nfs.createVolume sharedExport (sharedRequest "pvc-1")).eval (Nfs.answer sharedEnv)
        ⟨fun _ => [], none⟩).1 = .ok resp₁ ∧
      ((Nfs.createVolume sharedExport (sharedRequest "pvc-22")).eval (Nfs.answer sharedEnv)
        ⟨fun _ => [], none⟩).1 = .ok resp₂ ∧
      (resp₁.location, resp₁.name) = (resp₂.location, resp₂.name) := by
  refine ⟨⟨⟨"cephfs", "shallow-src@snap", 1, [("path", "/volumes/csi/src/.snap/snap")]⟩, _, ?_, ?_,
    rfl⟩, ⟨"/srv", "shared", 1, "nas"⟩, _, ?_, ?_, rfl⟩
  all_goals decide +kernel

end Instance

end BardCsi
