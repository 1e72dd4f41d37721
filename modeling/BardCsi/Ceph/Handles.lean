import BardCsi.Ceph.StaticImages
import BardCsi.Ceph.Stamps
import BardCsi.Digest
import BardCsi.VolumeId

/-!
The handles of images and snapshots. The plugin makes the image, and the driver makes the handle
from the response and the type it has the plugin under, and checks it. A handle of a name with a
digest is valid exactly if the type, the instance, the location and the prefix have no separator
and are short enough together.
-/
namespace BardCsi

open Effect Program VolumeId

/-- The text of a name, with its digest. -/
def ObjectName.string (sum : String → Fin (2 ^ 64)) : ObjectName → String
  | .short pre csiName => digestName sum pre csiName
  | .plain name => name

namespace VolumeId

theorem bytes_append (s t : String) : bytes (s ++ t) = bytes s ++ bytes t := by
  rw [bytes, String.toList_append, List.flatMap_append]
  rfl

theorem bytes_eq_nil {s : String} : bytes s = [] ↔ s = "" := by
  constructor
  · intro h
    have hnone : s.toList = [] := by
      rw [List.eq_nil_iff_forall_not_mem]
      intro c hc
      have hempty : String.utf8EncodeChar c = [] := List.flatMap_eq_nil_iff.mp h c hc
      have hlen := String.length_utf8EncodeChar c
      rw [hempty] at hlen
      exact absurd hlen.symm (Nat.pos_iff_ne_zero.mp (Char.utf8Size_pos c))
    exact String.toList_eq_nil_iff.mp hnone
  · rintro rfl
    rfl

theorem utf8EncodeChar_hexDigit :
    ∀ d < 16, (String.utf8EncodeChar (hexDigit d)).length = 1 ∧
      sep ∉ String.utf8EncodeChar (hexDigit d) := by decide

theorem length_flatMap_one {cs : List Char} (h : ∀ c ∈ cs, (String.utf8EncodeChar c).length = 1) :
    (cs.flatMap String.utf8EncodeChar).length = cs.length := by
  induction cs with
  | nil => rfl
  | cons c cs ih =>
    rw [List.flatMap_cons, List.length_append, h c List.mem_cons_self,
      ih fun c hc => h c (List.mem_cons_of_mem _ hc), List.length_cons, Nat.add_comm]

theorem bytes_hex (n : Fin (2 ^ 64)) :
    (bytes (String.ofList (hex n))).length = 16 ∧ sep ∉ bytes (String.ofList (hex n)) := by
  rw [bytes, String.toList_ofList]
  constructor
  · rw [length_flatMap_one, length_hex]
    intro c hc
    obtain ⟨d, hd, rfl⟩ := exists_hexDigit_of_mem_hex hc
    exact (utf8EncodeChar_hexDigit d hd).1
  · intro h
    obtain ⟨c, hc, hsep⟩ := List.mem_flatMap.mp h
    obtain ⟨d, hd, rfl⟩ := exists_hexDigit_of_mem_hex hc
    exact (utf8EncodeChar_hexDigit d hd).2 hsep

end VolumeId

namespace Ceph

/-- The handle that the driver makes for an image or a snapshot of a backend of this type. -/
def handleOf (backendType : String) (sum : String → Fin (2 ^ 64)) (s : Spec) : Handle where
  backend := bytes backendType
  inst := bytes s.image.inst
  location := bytes s.image.location
  name :=
    match s.snap with
    | none => bytes (s.image.name.string sum)
    | some snap => bytes (s.image.name.string sum ++ "@" ++ snap.string sum)

/-- Parts that leave room for a digest, and have no separator. -/
def HandleFits (backendType inst location text : String) : Prop :=
  backendType ≠ "" ∧ inst ≠ "" ∧
    (∀ part ∈ [backendType, inst, location, text], sep ∉ bytes part) ∧
    (bytes backendType).length + (bytes inst).length + (bytes location).length +
      (bytes text).length ≤ 102
deriving Decidable

theorem validate_digest_iff (backendType inst location text : String) (n : Fin (2 ^ 64)) :
    Handle.validate ⟨bytes backendType, bytes inst, bytes location,
      bytes (text ++ String.ofList (hex n))⟩ = .ok () ↔
      HandleFits backendType inst location text := by
  obtain ⟨hlen, hsep⟩ := bytes_hex n
  have hname : bytes (text ++ String.ofList (hex n)) ≠ [] := by
    intro h
    rw [bytes_append, List.append_eq_nil_iff] at h
    rw [h.2] at hlen
    cases hlen
  have hlength : (Handle.string ⟨bytes backendType, bytes inst, bytes location,
      bytes (text ++ String.ofList (hex n))⟩).length =
      26 + ((bytes backendType).length + (bytes inst).length + (bytes location).length +
        (bytes text).length) := by
    have hmagic : magic.length = 4 := rfl
    have hver : ver.length = 1 := rfl
    simp only [Handle.string, Handle.fields, List.intercalate, List.intersperse,
      List.flatten_cons, List.flatten_nil, List.length_append, List.length_singleton,
      List.length_nil, bytes_append, hlen, hmagic, hver]
    omega
  rw [validate_iff, hlength, HandleFits]
  simp only [Handle.fields, List.forall_mem_cons, bytes_append, List.mem_append, not_or, hsep,
    not_false_eq_true, and_true, List.not_mem_nil, false_implies, implies_true]
  rw [bytes_append] at hname
  rw [ne_eq, ne_eq, ne_eq, bytes_eq_nil, bytes_eq_nil, maxLength]
  constructor
  · rintro ⟨htype, hinst, _, hclean, hle⟩
    exact ⟨htype, hinst, hclean, by omega⟩
  · rintro ⟨htype, hinst, hclean, hle⟩
    exact ⟨htype, hinst, hname, hclean, by omega⟩

/-- The parts of the handle of a new volume. -/
def VolumeFits (backendType : String) (b : Backend) (req : CreateVolumeRequest) : Prop :=
  ∀ cc pre, b.clusters req.inst = some cc →
    volumeImagePrefix (req.parameters paramVolumeNamePrefix) = .ok pre →
    HandleFits backendType req.inst (locator (settingOr req.parameters paramPool cc.pool)
      (settingOr req.parameters paramRadosNamespace cc.radosNamespace)) pre

/-- The parts of the handle of a new snapshot. -/
def SnapshotFits (backendType : String) (sum : String → Fin (2 ^ 64))
    (req : CreateSnapshotRequest) : Prop :=
  ∀ pre, namePrefix paramSnapshotNamePrefix (req.parameters paramSnapshotNamePrefix)
      snapNamePrefix = .ok pre →
    HandleFits backendType req.sourceVolume.inst req.sourceVolume.location
      (req.sourceVolume.name.string sum ++ "@" ++ pre)

section Handles

variable {backendType : String} {sum : String → Fin (2 ^ 64)} {b : Backend}

theorem volume_handle_iff {req : CreateVolumeRequest} {i : ImageRef}
    (h : createTarget b req = some i) :
    (handleOf backendType sum i.spec).validate = .ok () ↔ VolumeFits backendType b req := by
  unfold createTarget at h
  split at h
  · rename_i cc pre hcc hpre
    obtain rfl := Option.some.inj h
    refine (validate_digest_iff _ _ _ pre (sum req.name)).trans
      ⟨fun hfits cc' pre' hcc' hpre' => ?_, fun hfits => hfits cc pre hcc hpre⟩
    obtain rfl := Option.some.inj (hcc.symm.trans hcc')
    obtain rfl := Except.ok.inj (hpre.symm.trans hpre')
    exact hfits
  · cases h

theorem createSnapshot_snapshot (req : CreateSnapshotRequest) :
    (createSnapshot b req).Yields fun resp => ∃ pre,
      namePrefix paramSnapshotNamePrefix (req.parameters paramSnapshotNamePrefix) snapNamePrefix =
        .ok pre ∧ resp.snapshot = req.sourceVolume.at (shortName pre req.name) := by
  unfold createSnapshot
  refine Yields.bind _ fun cc => ?_
  cases hpre : namePrefix paramSnapshotNamePrefix (req.parameters paramSnapshotNamePrefix)
      snapNamePrefix with
  | error e => trivial
  | ok pre =>
    change ((run (.claimSnapName _ _ _)).bind _).Yields _
    refine Yields.bind _ fun (claimed : Bool) =>
      Yields.ite (fun _ => trivial) fun _ => ?_
    refine Yields.bind _ fun _ => Yields.bind _ fun _ => ?_
    refine Yields.bind _ fun _ => Yields.bind _ fun _ => ?_
    exact Yields.bind _ fun _ => ⟨pre, rfl, rfl⟩

theorem snapshot_handle_iff {req : CreateSnapshotRequest} {pre : String}
    (hpre : namePrefix paramSnapshotNamePrefix (req.parameters paramSnapshotNamePrefix)
      snapNamePrefix = .ok pre) :
    (handleOf backendType sum (req.sourceVolume.at (shortName pre req.name))).validate = .ok () ↔
      SnapshotFits backendType sum req := by
  have hname : req.sourceVolume.name.string sum ++ "@" ++ (shortName pre req.name).string sum =
      (req.sourceVolume.name.string sum ++ "@" ++ pre) ++ String.ofList (hex (sum req.name)) := by
    rw [shortName, ObjectName.string, digestName, String.append_assoc, String.append_assoc,
      String.append_assoc]
  have hhandle : handleOf backendType sum (req.sourceVolume.at (shortName pre req.name)) =
      ⟨bytes backendType, bytes req.sourceVolume.inst, bytes req.sourceVolume.location,
        bytes ((req.sourceVolume.name.string sum ++ "@" ++ pre) ++
          String.ofList (hex (sum req.name)))⟩ := by
    rw [← hname]
    rfl
  rw [hhandle, validate_digest_iff]
  refine ⟨fun hfits pre' hpre' => ?_, fun hfits => hfits pre hpre⟩
  obtain rfl := Except.ok.inj (hpre.symm.trans hpre')
  exact hfits

end Handles

/-- What a call that succeeds returns has a valid handle exactly if the type of the backend, the
instance, the pool with its namespace and the chosen prefix (for a snapshot also the name of the
volume) have no separator and leave room for the digest. -/
theorem handles_valid_iff (backendType : String) (sum : String → Fin (2 ^ 64)) (b : Backend)
    (who : ℕ) :
    (∀ (req : CreateVolumeRequest) os w resp,
      (machine.exec who (createVolume b req) os w).2.2 = some (.ok resp) →
        ((handleOf backendType sum resp.volume.spec).validate = .ok () ↔
          VolumeFits backendType b req)) ∧
    ∀ (req : CreateSnapshotRequest) os w resp,
      (machine.exec who (createSnapshot b req) os w).2.2 = some (.ok resp) →
        ((handleOf backendType sum resp.snapshot).validate = .ok () ↔
          SnapshotFits backendType sum req) := by
  refine ⟨fun req os w resp hok => ?_, fun req os w resp hok => ?_⟩
  · exact volume_handle_iff (Machine.exec_yields createVolume_volume hok)
  · obtain ⟨pre, hpre, hsnapshot⟩ := Machine.exec_yields (createSnapshot_snapshot req) hok
    rw [hsnapshot]
    exact snapshot_handle_iff hpre

section Instance

/-- The volume that a create of the only backend returns. -/
def madeVolume (req : CreateVolumeRequest) : Option ImageRef :=
  ((machine.exec 0 (createVolume krbdBackend req) (List.replicate 12 .ok)
    World.start).2.2.bind Except.toOption).map CreateVolumeResponse.volume

/-- Under the type the plugin is configured with, a volume with the default prefix fits. -/
theorem plain_handle_valid : ∃ resp,
    (machine.exec 0 (createVolume krbdBackend (plainRequest "pvc")) (List.replicate 12 .ok)
      World.start).2.2 = some (.ok resp) ∧
    (handleOf "ceph-rbd" (fun _ => 0) resp.volume.spec).validate = .ok () := by
  obtain ⟨resp, hok, -⟩ := succeeded_of_map
    (by decide +kernel : madeVolume (plainRequest "pvc") =
      some ⟨"ceph", "pool", shortName volNamePrefix "pvc"⟩)
  refine ⟨resp, hok, ((handles_valid_iff "ceph-rbd" _ krbdBackend 0).1 _ _ _ _ hok).mpr ?_⟩
  intro cc pre hcc hpre
  obtain rfl := Option.some.inj hcc
  obtain rfl := Except.ok.inj hpre
  decide +kernel

/-- A class whose prefix has the separator of handles. -/
def barRequest : CreateVolumeRequest :=
  { plainRequest "pvc" with
    parameters := fun key => if key = paramVolumeNamePrefix then "a|b-" else .empty }

def barImage : ImageRef := ⟨"ceph", "pool", shortName "a|b-" "pvc"⟩

/-- The image is made, and its handle is refused. -/
theorem image_without_handle :
    World.start.images barImage = none ∧
    (∃ im, (machine.exec 0 (createVolume krbdBackend barRequest) (List.replicate 12 .ok)
      World.start).2.1.images barImage = some im) ∧
    ∃ resp, (machine.exec 0 (createVolume krbdBackend barRequest) (List.replicate 12 .ok)
        World.start).2.2 = some (.ok resp) ∧
      (handleOf "ceph-rbd" (fun _ => 0) resp.volume.spec).validate ≠ .ok () := by
  obtain ⟨resp, hok, hvolume⟩ := succeeded_of_map
    (by decide +kernel : madeVolume barRequest = some barImage)
  refine ⟨rfl, Option.isSome_iff_exists.mp (by decide +kernel), resp, hok, ?_⟩
  rw [hvolume]
  decide +kernel

end Instance

end Ceph

end BardCsi
