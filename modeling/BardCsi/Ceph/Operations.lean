import BardCsi.Ceph.Requests

/-!
The operations of the plugin that reach a cluster or a node, each as a call without a result.
Only a create makes an image or stamps it, and none of them ever marks an image as static.
-/
namespace BardCsi.Ceph

open Effect

inductive Operation where
  | createVolume (req : CreateVolumeRequest)
  | deleteVolume (req : DeleteVolumeRequest)
  | expandVolume (req : ExpandVolumeRequest)
  | modifyVolume (req : ModifyVolumeRequest)
  | createSnapshot (req : CreateSnapshotRequest)
  | deleteSnapshot (req : DeleteSnapshotRequest)
  | nodeStage (req : NodeStageRequest)
  | nodeUnstage (req : NodeUnstageRequest)
  | nodeExpand (req : NodeExpandRequest)
  | rotateEncryptionKey (req : RotateEncryptionKeyRequest)

/-- Run a program for its effects. -/
def discard {α : Type} (p : Prog α) : Prog Unit := p.bind fun _ => .pure ()

def Operation.call (b : Backend) : Operation → Prog Unit
  | .createVolume req => discard (Ceph.createVolume b req)
  | .deleteVolume req => Ceph.deleteVolume b req
  | .expandVolume req => discard (Ceph.expandVolume b req)
  | .modifyVolume req => Ceph.modifyVolume b req
  | .createSnapshot req => discard (Ceph.createSnapshot b req)
  | .deleteSnapshot req => Ceph.deleteSnapshot b req
  | .nodeStage req => Ceph.nodeStage b req
  | .nodeUnstage req => Ceph.nodeUnstage b req
  | .nodeExpand req => Ceph.nodeExpand b req
  | .rotateEncryptionKey req => Ceph.rotateEncryptionKey b req

/-- The request of an operation that makes an image. -/
def Operation.creates : Operation → Option CreateVolumeRequest
  | .createVolume req => some req
  | _ => none

/-- Everything but a write of the mark that keeps an image from being deleted. -/
def unmarked : Footprint where
  sets _ q _ := q.key ≠ .static
  creates _ := True
  clones _ _ := True
  removes _ := True

/-- The writes of operations on volumes that exist. -/
def maintenance : Footprint where
  sets _ q _ := q.key ≠ .static ∧ q.key ≠ .source
  creates _ := False
  clones _ _ := False
  removes _ := True

theorem Footprint.Covers.mono {α : Type} {F G : Footprint} {p : Prog α} (hp : F.Covers p)
    (h : ∀ c, F.allows c → G.allows c) : G.Covers p :=
  Program.Uses.mono hp h

theorem metaOnly_maintenance {sets : ImageRef → QKey → Text → Prop}
    (h : ∀ i q v, sets i q v → q.key ≠ .static ∧ q.key ≠ .source) (c : Cmd)
    (hc : (Footprint.metaOnly sets).allows c) : maintenance.allows c := by
  cases c with
  | imageMetaSet i q v => exact h i q v hc
  | imageMetaRemove i q => exact h i q .empty hc
  | rbdCreate i size args => exact hc
  | rbdClone parent i args => exact hc
  | _ => trivial

theorem call_maintains {b : Backend} {op : Operation} (hop : op.creates = none) :
    maintenance.Covers (op.call b) := by
  have hnode : ∀ vol c, (nodeFootprint vol).allows c → maintenance.allows c := by
    intro vol
    apply metaOnly_maintenance
    rintro i ⟨k, n⟩ v ⟨_, _, hk⟩
    cases k with
    | wrappedDEK => exact ⟨nofun, nofun⟩
    | kmipUID => exact ⟨nofun, nofun⟩
    | _ => cases hk
  have hsnap : ∀ i c, (snapshotFootprint i).allows c → maintenance.allows c := by
    intro image
    apply metaOnly_maintenance
    rintro i ⟨k, n⟩ v ⟨_, hk⟩
    constructor
    · rintro rfl
      simp [descriptorKeys] at hk
    · rintro rfl
      simp [descriptorKeys] at hk
  cases op with
  | createVolume req => cases hop
  | deleteVolume req =>
    apply (deleteVolume_covers b req).mono
    intro c hc
    cases c with
    | imageMetaSet i q v => exact hc.elim
    | imageMetaRemove i q => exact hc.elim
    | rbdCreate i size args => exact hc
    | rbdClone parent i args => exact hc
    | _ => trivial
  | expandVolume req => exact (expandVolume_covers b req).bind fun _ => trivial
  | modifyVolume req => exact modifyVolume_covers b req
  | createSnapshot req =>
    exact ((createSnapshot_covers b req).mono (hsnap _)).bind fun _ => trivial
  | deleteSnapshot req => exact (deleteSnapshot_covers b req).mono (hsnap _)
  | nodeStage req => exact (nodeStage_covers b req).mono (hnode _)
  | nodeUnstage req => exact nodeUnstage_covers b req
  | nodeExpand req => exact (nodeExpand_covers b req).mono (hnode _)
  | rotateEncryptionKey req => exact (rotateEncryptionKey_covers b req).mono (hnode _)

theorem createFootprint_unmarked (req : CreateVolumeRequest) (i : ImageRef) (c : Cmd)
    (hc : (createFootprint req i).allows c) : unmarked.allows c := by
  cases c with
  | imageMetaSet j q v => exact hc.2.2.1
  | imageMetaRemove j q => exact hc.2.2.1
  | _ => trivial

theorem maintenance_unmarked (c : Cmd) (hc : maintenance.allows c) : unmarked.allows c := by
  cases c with
  | imageMetaSet i q v => exact hc.1
  | imageMetaRemove i q => exact hc.1
  | _ => trivial

theorem call_unmarked (b : Backend) (op : Operation) : unmarked.Covers (op.call b) := by
  cases hop : op.creates with
  | none => exact (call_maintains hop).mono maintenance_unmarked
  | some req =>
    cases op with
    | createVolume req =>
      refine (createVolume_covers b req fun i _ => ?_).bind fun _ => trivial
      exact createFootprint_unmarked req i
    | _ => cases hop

/-- Everything but the removal of one image. -/
def preserving (j : ImageRef) : Footprint where
  sets _ _ _ := True
  creates _ := True
  clones _ _ := True
  removes i := i ≠ j

theorem call_preserves {j : ImageRef} (b : Backend) {op : Operation}
    (hop : ∀ req, op = .deleteVolume req → req.volume ≠ j) : (preserving j).Covers (op.call b) := by
  have hmeta : ∀ sets c, (Footprint.metaOnly sets).allows c → (preserving j).allows c := by
    intro sets c hc
    cases c with
    | rbdRm i => exact hc.elim
    | _ => trivial
  cases op with
  | createVolume req =>
    refine (createVolume_covers b req fun i _ c hc => ?_).bind fun _ => trivial
    cases c with
    | rbdRm i => exact hc.elim
    | _ => trivial
  | deleteVolume req =>
    apply (deleteVolume_covers b req).mono
    intro c hc
    cases c with
    | rbdRm i =>
      obtain rfl : i = req.volume := hc
      exact hop req rfl
    | _ => trivial
  | expandVolume req => exact (expandVolume_covers b req).bind fun _ => trivial
  | modifyVolume req => exact modifyVolume_covers b req
  | createSnapshot req => exact ((createSnapshot_covers b req).mono (hmeta _)).bind fun _ => trivial
  | deleteSnapshot req => exact (deleteSnapshot_covers b req).mono (hmeta _)
  | nodeStage req => exact (nodeStage_covers b req).mono (hmeta _)
  | nodeUnstage req => exact nodeUnstage_covers b req
  | nodeExpand req => exact (nodeExpand_covers b req).mono (hmeta _)
  | rotateEncryptionKey req => exact (rotateEncryptionKey_covers b req).mono (hmeta _)

end BardCsi.Ceph
