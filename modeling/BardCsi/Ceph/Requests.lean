import BardCsi.Ceph.Expand
import BardCsi.Ceph.Remote

/-!
Which images and which of their metadata an operation can write. A footprint lists the writes
that an operation may request, and every operation of the plugin keeps to its own.
-/
namespace BardCsi.Ceph

open Effect Program

/-- The writes to images that are allowed. Removing a value is writing the empty one. -/
structure Footprint where
  sets : ImageRef → QKey → Text → Prop
  creates : ImageRef → Prop
  clones : Spec → ImageRef → Prop
  removes : ImageRef → Prop

def Footprint.allows (F : Footprint) : Cmd → Prop
  | .imageMetaSet i q v => F.sets i q v
  | .imageMetaRemove i q => F.sets i q .empty
  | .rbdCreate i _ _ => F.creates i
  | .rbdClone parent i _ => F.clones parent i
  | .rbdRm i => F.removes i
  | _ => True

abbrev Footprint.Covers {α : Type} (F : Footprint) (p : Prog α) : Prop := p.Uses F.allows

/-- Nothing but metadata that `sets` allows. -/
def Footprint.metaOnly (sets : ImageRef → QKey → Text → Prop) : Footprint where
  sets := sets
  creates _ := False
  clones _ _ := False
  removes _ := False

section Basics

variable {α β : Type} {F : Footprint}

theorem remote_covers {s : Spec} {p : Prog α} (hp : Remote s p)
    (h : ∀ k v, k.isKey = true → F.sets s.image ⟨k, s.snap⟩ v) : F.Covers p := by
  apply hp.mono
  intro c hc
  cases c with
  | imageMetaSet i q v =>
    obtain ⟨⟨rfl, hsnap⟩, hkey⟩ : (i = s.image ∧ q.snap = s.snap) ∧ q.key.isKey = true := by
      simpa [Cmd.remote] using hc
    obtain ⟨k, n⟩ := q
    obtain rfl : n = s.snap := hsnap
    exact h k v hkey
  | _ => trivial

theorem connArgs_covers (cc : ClusterConfig) (inst : String) (secrets : Params) :
    F.Covers (connArgs cc inst secrets) :=
  connArgs_uses (fun _ _ => trivial) cc inst secrets

end Basics

section Keys

variable {F : Footprint} (b : Backend) (inst : String)

theorem allows_store (c : Cmd) (hc : c.storesKey = true) : F.allows c := by
  cases c with
  | imageMetaSet i q v => cases hc
  | imageMetaRemove i q => cases hc
  | rbdCreate i n args => cases hc
  | rbdClone parent i args => cases hc
  | rbdRm i => cases hc
  | _ => trivial

end Keys

/-- Values of 64 bits stay below this. -/
def int64Limit : Int := 9223372036854775808

theorem bytesToMiB_eq {n : Int} (h : n ≤ int64Limit - mib) :
    bytesToMiB n = if n ≤ 0 then 1 else (n + mib - 1) / mib := by
  unfold bytesToMiB
  split
  · rfl
  next hpos =>
    have hwrap : wrap64 (n + mib - 1) = n + mib - 1 := by
      unfold wrap64 mib
      unfold int64Limit mib at h
      rw [Int.bmod_eq_of_le]
      · omega
      · omega
    rw [hwrap]
    apply Int.tdiv_eq_ediv_of_nonneg
    unfold mib
    omega

theorem bytesToMiB_covers {n : Int} (h : n ≤ int64Limit - mib) : n ≤ bytesToMiB n * mib := by
  rw [bytesToMiB_eq h]
  unfold mib
  split
  · omega
  · omega

/-- The image of a create, if the request gets that far. -/
def createTarget (b : Backend) (req : CreateVolumeRequest) : Option ImageRef :=
  match b.clusters req.inst, volumeImagePrefix (req.parameters paramVolumeNamePrefix) with
  | some cc, .ok pre =>
      some ⟨req.inst, locator (settingOr req.parameters paramPool cc.pool)
        (settingOr req.parameters paramRadosNamespace cc.radosNamespace), shortName pre req.name⟩
  | _, _ => none

/-- The snapshot that a create clones. -/
def CreateVolumeRequest.parent (req : CreateVolumeRequest) : Option Spec :=
  match req.snapshot, req.source with
  | some s, _ => some s
  | none, some i => some (i.at req.tmpSnap)
  | none, none => none

/-- A create makes one image, stamps it with its source, and labels it. -/
def createFootprint (req : CreateVolumeRequest) (target : ImageRef) : Footprint where
  sets i q v := i = target ∧ q.snap = none ∧ q.key ≠ .static ∧
    (q.key = .source → req.isClone = true ∧ v = req.sourceDesc)
  creates i := i = target ∧ req.isClone = false
  clones parent i := i = target ∧ req.parent = some parent
  removes _ := False

def deleteFootprint (target : ImageRef) : Footprint where
  sets _ _ _ := False
  creates _ := False
  clones _ _ := False
  removes i := i = target

section Volumes

variable {F : Footprint} (b : Backend) (req : CreateVolumeRequest) (i : ImageRef)

/-- What a create requests until it has the image `i`. -/
def Cmd.makes (req : CreateVolumeRequest) (i : ImageRef) : Cmd → Prop
  | .rbdInfo j => j = i
  | .imageMetaGet _ _ | .backgroundFlatten _ _ => True
  | .imageMetaSet j q v =>
      j = i ∧ q = ⟨.source, none⟩ ∧ req.isClone = true ∧ v = req.sourceDesc
  | .rbdCreate j size _ => j = i ∧ req.isClone = false ∧ size = bytesToMiB req.capacityBytes
  | .rbdClone parent j _ => j = i ∧ req.parent = some parent
  | .rbdSnapCreate parent n => req.source = some parent ∧ n = req.tmpSnap
  | .rbdResize j _ => j = i ∧ req.isClone = true
  | _ => False

theorem isClone_of_snapshot {req : CreateVolumeRequest} {s : Spec} (h : req.snapshot = some s) :
    req.isClone = true := by
  simp only [CreateVolumeRequest.snapshot, Option.map_eq_some_iff] at h
  obtain ⟨t, ht, _⟩ := h
  simp [CreateVolumeRequest.isClone, ht]

theorem isClone_of_source {req : CreateVolumeRequest} {j : ImageRef} (h : req.source = some j) :
    req.isClone = true := by
  simp only [CreateVolumeRequest.source, Option.map_eq_some_iff] at h
  obtain ⟨t, ht, _⟩ := h
  simp [CreateVolumeRequest.isClone, ht]

theorem provision_makes :
    (provision b req i (bytesToMiB req.capacityBytes)).Uses (Cmd.makes req i) := by
  unfold provision
  have hstamp : req.isClone = true →
      (imageMetaSet i.spec .source req.sourceDesc).Uses (Cmd.makes req i) :=
    fun h => imageMetaSet_uses ⟨rfl, rfl, h, rfl⟩
  split
  · next source parent hsnap =>
    have hparent : req.parent = some parent := by simp [CreateVolumeRequest.parent, hsnap]
    refine tool_uses (c := .rbdClone parent i _) ⟨rfl, hparent⟩ fun r => ?_
    apply (orFail_uses _ _).bind
    intro _
    apply (hstamp (isClone_of_snapshot hsnap)).bind
    intro _
    exact Uses.ite trivial (backgroundFlatten_uses trivial)
  · next parent hsnap hsource =>
    refine tool_uses (c := .rbdSnapCreate parent _) ⟨hsource, rfl⟩ fun r => ?_
    apply tolerating_uses.bind
    intro _
    have hparent : req.parent = some (parent.at req.tmpSnap) := by
      simp [CreateVolumeRequest.parent, hsnap, hsource]
    refine tool_uses (c := .rbdClone _ i _) ⟨rfl, hparent⟩ fun r => ?_
    apply tolerating_uses.bind
    exact fun _ => hstamp (isClone_of_source hsource)
  · next hsnap hsource =>
    have hplain : req.isClone = false := by
      simp only [CreateVolumeRequest.snapshot, CreateVolumeRequest.source,
        Option.map_eq_none_iff] at hsnap hsource
      simp [CreateVolumeRequest.isClone, hsnap, hsource]
    exact tool_uses (c := .rbdCreate i _ _) ⟨rfl, hplain, rfl⟩ fun r => tolerating_uses

theorem resumeImage_makes (existingMiB sizeMiB : Int) :
    (resumeImage req i existingMiB sizeMiB).Uses (Cmd.makes req i) := by
  apply (imageMetaGet_uses trivial).bind
  intro recorded
  refine Uses.ite trivial ?_
  refine Uses.ite trivial ?_
  split
  next => trivial
  next hclone =>
    have hresize : (resizeImage i sizeMiB).Uses (Cmd.makes req i) :=
      resizeImage_uses ⟨rfl, by simpa using hclone⟩
    exact Uses.ite (hresize.bind fun _ => trivial) trivial

theorem createImage_makes : (createImage b req i).Uses (Cmd.makes req i) := by
  have hinfo : Cmd.makes req i (.rbdInfo i) := rfl
  apply (imageInfo_uses hinfo).bind
  intro found
  split
  · exact resumeImage_makes req i _ _
  · apply (provision_makes b req i).bind
    intro _
    split
    next hclone =>
      apply (existingInfo_uses hinfo).bind
      intro cloneMiB
      have hresize : (resizeImage i (bytesToMiB req.capacityBytes)).Uses (Cmd.makes req i) :=
        resizeImage_uses ⟨rfl, hclone⟩
      exact Uses.ite (hresize.bind fun _ => trivial) trivial
    next => trivial

theorem createImage_covers : (createFootprint req i).Covers (createImage b req i) := by
  apply (createImage_makes b req i).mono
  intro c hc
  cases c with
  | imageMetaSet j q v =>
    obtain ⟨rfl, rfl, hclone, rfl⟩ := hc
    exact ⟨rfl, rfl, nofun, fun _ => ⟨hclone, rfl⟩⟩
  | imageMetaRemove j q => exact hc.elim
  | rbdCreate j size args => exact ⟨hc.1, hc.2.1⟩
  | rbdClone parent j args => exact hc
  | rbdRm j => exact hc.elim
  | _ => trivial

theorem resumeImage_covers (existingMiB sizeMiB : Int) :
    F.Covers (resumeImage req i existingMiB sizeMiB) := by
  apply (imageMetaGet_uses trivial).bind
  intro recorded
  refine Uses.ite trivial ?_
  refine Uses.ite trivial ?_
  refine Uses.ite trivial ?_
  refine Uses.ite ?_ trivial
  exact (resizeImage_uses trivial).bind fun _ => trivial

theorem dropTmpSnap_covers : F.Covers (dropTmpSnap req i) := by
  unfold dropTmpSnap
  split
  · trivial
  · apply tool_uses (by trivial)
    intro r
    apply tolerating_uses.bind
    exact fun _ => backgroundFlatten_uses trivial

/-- The metadata of the image `i` that is neither the mark of static images nor the stamp. -/
def Footprint.Labels (F : Footprint) (i : ImageRef) : Prop :=
  ∀ k v, k ≠ .static → k ≠ .source → F.sets i ⟨k, none⟩ v

theorem createFootprint_labels : (createFootprint req i).Labels i :=
  fun _ _ hstatic hsource => ⟨rfl, rfl, hstatic, fun h => absurd h hsource⟩

theorem recordEncryption_covers {i : ImageRef} (hF : F.Labels i) :
    F.Covers (recordEncryption b req i) := by
  apply recordEncryption_uses allows_store b req
  intro k hk v
  apply hF
  · rintro rfl
    exact absurd hk (by decide)
  · rintro rfl
    exact absurd hk (by decide)

theorem ownerMeta_labels {F : Footprint} {i : ImageRef} (hF : F.Labels i) :
    ∀ l ∈ ownerMeta, ∀ v, F.sets i ⟨l.2, none⟩ v := by
  have hplain : ∀ l ∈ ownerMeta, l.2 ≠ .static ∧ l.2 ≠ .source := by decide
  exact fun l hl v => hF _ _ (hplain l hl).1 (hplain l hl).2

theorem createAt_eq (cc : ClusterConfig) (pool : String) :
    createAt b cc req pool i = (createImage b req i).bind (finishVolume b req i cc pool) := rfl

theorem finishVolume_covers {i : ImageRef} (hF : F.Labels i) (cc : ClusterConfig)
    (pool : String) (finalMiB : Int) : F.Covers (finishVolume b req i cc pool finalMiB) := by
  apply (dropTmpSnap_covers req i).bind
  intro _
  apply (applyMutableParams_uses (fun _ _ => trivial) _).bind
  intro _
  apply (recordEncryption_covers b req hF).bind
  intro encKeyID
  apply (setOwnerMetadata_uses (ownerMeta_labels hF)).bind
  intro _
  apply (imageMetaLabel_uses (hF _ _ (by decide) (by decide))).bind
  exact fun _ => trivial

theorem createAt_covers (cc : ClusterConfig) (pool : String) :
    (createFootprint req i).Covers (createAt b cc req pool i) := by
  apply (createImage_covers b req i).bind
  exact finishVolume_covers b req (createFootprint_labels req i) cc pool

/-- The part of a create that comes before its image, and the rest `p`. -/
def createAfter (cc : ClusterConfig) (pool ns : String) (p : Prog CreateVolumeResponse) :
    Prog CreateVolumeResponse :=
  (connArgs cc req.inst req.secrets).bind fun _ =>
    if ns ≠ "" then (ensureNamespace req.inst pool ns).bind fun _ => p else p

/-- The part of a create that looks for the image `i` of its volume. -/
def createOn (cc : ClusterConfig) (pool ns : String) : Prog CreateVolumeResponse :=
  createAfter req cc pool ns (createAt b cc req pool i)

/-- The program fails at once, or it goes on to the image of the request. -/
def Reaches (p : Prog CreateVolumeResponse) : Prop :=
  (∃ e, p = fail e) ∨
    ∃ i cc pool ns, createTarget b req = some i ∧ p = createOn b req i cc pool ns

theorem liftExcept_cases {β : Type} {P : Prog β → Prop} (r : Except Err Unit) {p : Prog β}
    (h : (∃ e, p = fail e) ∨ P p) :
    (∃ e, (liftExcept r).bind (fun _ => p) = fail e) ∨ P ((liftExcept r).bind fun _ => p) := by
  cases r with
  | error e => exact .inl ⟨e, rfl⟩
  | ok u => exact h

theorem createVolumeWith_cases
    (create : ClusterConfig → String → ImageRef → Prog CreateVolumeResponse) :
    (∃ e, createVolumeWith b req create = fail e) ∨
      ∃ i cc pool ns, createTarget b req = some i ∧
        createVolumeWith b req create = createAfter req cc pool ns (create cc pool i) := by
  unfold createVolumeWith cluster clusterFor
  cases hcc : b.clusters req.inst with
  | none => exact .inl ⟨_, rfl⟩
  | some cc =>
    let P : Prog CreateVolumeResponse → Prop := fun p =>
      ∃ i cc pool ns, createTarget b req = some i ∧
        p = createAfter req cc pool ns (create cc pool i)
    refine liftExcept_cases (P := P) _ (liftExcept_cases (P := P) _
      (liftExcept_cases (P := P) _ ?_))
    by_cases hpool : settingOr req.parameters paramPool cc.pool = ""
    · exact .inl ⟨_, if_pos hpool⟩
    · dsimp only
      rw [if_neg hpool]
      cases hpre : volumeImagePrefix (req.parameters paramVolumeNamePrefix) with
      | error e => exact .inl ⟨e, rfl⟩
      | ok pre =>
        exact .inr ⟨_, cc, settingOr req.parameters paramPool cc.pool,
          settingOr req.parameters paramRadosNamespace cc.radosNamespace,
          by simp [createTarget, hcc, hpre], rfl⟩

theorem createVolume_cases : Reaches b req (createVolume b req) :=
  createVolumeWith_cases b req fun cc pool i => createAt b cc req pool i

theorem createVolume_covers (h : ∀ i, createTarget b req = some i →
    ∀ c, (createFootprint req i).allows c → F.allows c) : F.Covers (createVolume b req) := by
  obtain ⟨e, hfail⟩ | ⟨i, cc, pool, ns, hi, hon⟩ := createVolume_cases b req
  · rw [hfail]
    trivial
  · rw [hon]
    have hat : F.Covers (createAt b cc req pool i) :=
      (createAt_covers b req i cc pool).mono (h i hi)
    apply (connArgs_covers cc _ _).bind
    intro _
    split
    · refine (ensureNamespace_uses (fun _ _ => trivial) (fun _ _ _ => trivial) _ _ _).bind ?_
      exact fun _ => hat
    · exact hat

theorem deleteVolumeKey_covers : F.Covers (deleteVolumeKey b i) := by
  apply (imageMetaGetChecked_uses trivial).bind
  intro kmsID
  refine Uses.ite trivial ?_
  apply (listSnaps_uses trivial).bind
  intro snaps
  exact Uses.ite trivial (registryDelete_uses allows_store b i.inst kmsID i.spec)

theorem removeImage_covers : (deleteFootprint i).Covers (removeImage i) :=
  removeImage_uses rfl trivial fun _ _ => trivial

theorem deleteVolume_covers (req : DeleteVolumeRequest) :
    (deleteFootprint req.volume).Covers (deleteVolume b req) := by
  apply (cluster_uses b _).bind
  intro cc
  apply (connArgs_covers cc _ _).bind
  intro _
  apply (imageMetaGetChecked_uses trivial).bind
  intro static
  refine Uses.ite trivial ?_
  exact (deleteVolumeKey_covers b req.volume).bind fun _ => removeImage_covers req.volume

end Volumes

/-- A snapshot keeps its descriptor on its image. -/
def snapshotFootprint (image : ImageRef) : Footprint :=
  .metaOnly fun i q _ => i = image ∧ q.key ∈ descriptorKeys

section Snapshots

variable (b : Backend)

theorem createSnapshot_covers (req : CreateSnapshotRequest) :
    (snapshotFootprint req.sourceVolume).Covers (createSnapshot b req) := by
  apply (cluster_uses b _).bind
  intro cc
  apply (liftExcept_uses _).bind
  intro pre
  apply tool_uses (by trivial)
  intro claimed
  split
  · trivial
  · apply (connArgs_covers cc _ _).bind
    intro _
    apply tool_uses (by trivial)
    intro r
    apply tolerating_uses.bind
    intro _
    apply Uses.bind
    · apply (imageMetaGetChecked_uses trivial).bind
      intro kmsID
      refine Uses.ite ?_ trivial
      refine (inheritEncryption_uses allows_store b _ fun k hk v => ?_).bind fun _ => trivial
      exact ⟨rfl, hk⟩
    · exact fun _ => (existingInfo_uses trivial).bind fun _ => trivial

theorem removeDescriptor_covers {F : Footprint} {s : Spec} {keys : List MetaKey}
    (h : ∀ k ∈ keys, F.sets s.image ⟨k, s.snap⟩ .empty) : F.Covers (removeDescriptor s keys) := by
  induction keys with
  | nil => trivial
  | cons k keys ih =>
    apply Uses.bind
    · refine tool_uses (c := .imageMetaRemove s.image ⟨k, s.snap⟩) (h k (by simp)) fun r => ?_
      split
      · trivial
      · trivial
      · trivial
    · exact fun _ => ih fun m hm => h m (by simp [hm])

theorem deleteSnapshot_covers (req : DeleteSnapshotRequest) :
    (snapshotFootprint req.snapshot.image).Covers (deleteSnapshot b req) := by
  apply (cluster_uses b _).bind
  intro cc
  apply (connArgs_covers cc _ _).bind
  intro _
  apply tool_uses (by trivial)
  intro r
  apply tolerating_uses.bind
  intro _
  apply Uses.bind
  · apply (imageMetaGetChecked_uses trivial).bind
    intro kmsID
    refine Uses.ite trivial ?_
    apply (registryDelete_uses allows_store b _ kmsID _).bind
    have hsets : ∀ k ∈ descriptorKeys, (snapshotFootprint req.snapshot.image).sets
        req.snapshot.image ⟨k, req.snapshot.snap⟩ .empty := fun k hk => ⟨rfl, hk⟩
    exact fun _ => removeDescriptor_covers hsets
  · exact fun _ => tool_uses (by trivial) fun _ => trivial

end Snapshots

/-- A node stores the key of the volume it works on. -/
def nodeFootprint (vol : ImageRef) : Footprint :=
  .metaOnly fun i q _ => i = vol ∧ q.snap = none ∧ q.key.isKey = true

section Node

variable {F : Footprint} (b : Backend)

theorem remote_covers_node {α : Type} {vol : ImageRef} {p : Prog α} (h : Remote vol.spec p) :
    (nodeFootprint vol).Covers p :=
  remote_covers h fun _ _ hk => ⟨rfl, rfl, hk⟩

theorem luksActive_covers (p : String) : F.Covers (luksActive p) :=
  tool_uses (by trivial) fun _ => trivial

theorem ensureLuksOpen_covers (dev : Device) (p : String) (pass : Text) (discards : Bool)
    (args : List String) : F.Covers (ensureLuksOpen dev p pass discards args) := by
  apply (tempKeyFile_uses trivial).bind
  intro _
  apply Uses.bind
  · apply tool_uses (by trivial)
    intro r
    split
    · trivial
    · exact tool_uses (by trivial) fun _ => orFail_uses _ _
  · intro _
    apply (luksActive_covers p).bind
    intro active
    refine Uses.ite trivial ?_
    exact tool_uses (by trivial) fun _ => orFail_uses _ _

theorem stageDevice_covers (req : NodeStageRequest) (dev : Device) :
    (nodeFootprint req.volume).Covers (stageDevice b req dev) := by
  refine Uses.ite trivial ?_
  apply (remote_covers_node (volumePassphrase_remote b req)).bind
  intro pass
  apply (liftExcept_uses _).bind
  intro args
  exact (ensureLuksOpen_covers dev _ _ _ _).bind fun _ => trivial

theorem stageFilesystem_covers (req : NodeStageRequest) (dev : Device) :
    (nodeFootprint req.volume).Covers (stageFilesystem b req dev) := by
  apply Uses.bind
  · exact Uses.ite trivial trivial
  intro fsType
  refine Uses.ite trivial ?_
  apply Uses.bind
  · apply tool_uses (by trivial)
    intro probe
    split
    · trivial
    · exact tool_uses (by trivial) fun _ => orFail_uses _ _
  intro _
  apply Uses.bind
  · apply tool_uses (by trivial)
    intro r
    apply (orFail_uses _ _).bind
    intro _
    apply tool_uses (by trivial)
    intro mounted
    split
    · trivial
    · exact tool_uses (by trivial) fun _ => orFail_uses _ _
  intro _
  apply Uses.bind
  · unfold growFilesystem
    split
    · exact tool_uses (by trivial) fun _ => orFail_uses _ _
    · exact tool_uses (by trivial) fun _ => orFail_uses _ _
    · exact tool_uses (by trivial) fun _ => orFail_uses _ _
  intro _
  refine Uses.ite ?_ trivial
  apply (remote_covers_node (volumePassphrase_remote b req)).bind
  exact fun pass => tool_uses (by trivial) fun _ => orFail_uses _ _

theorem waitForDevice_covers (dev : Device) (polls : ℕ) : F.Covers (waitForDevice dev polls) := by
  induction polls with
  | zero => exact tool_uses (by trivial) fun _ => Uses.ite trivial trivial
  | succ polls ih => exact tool_uses (by trivial) fun _ => Uses.ite trivial ih

theorem mapImage_covers (m : Mounter) (vol : ImageRef) (opts : String) (cookie log : Text)
    (ro : Bool) : F.Covers (mapImage m vol opts cookie log ro) := by
  cases m with
  | krbd => exact Uses.ask (by trivial)
  | nbd => exact Uses.ask (by trivial)

theorem mapWithFallback_covers (cc : ClusterConfig) (req : NodeStageRequest) (cookie : Text) :
    F.Covers (mapWithFallback cc req cookie) := by
  apply (mapImage_covers _ _ _ _ _ _).bind
  intro r
  split
  · trivial
  · refine Uses.ite trivial ?_
    apply (mapImage_covers _ _ _ _ _ _).bind
    intro r
    split
    · trivial
    · trivial

theorem fencing_covers {α : Type} {p : Prog α} (h : Fencing p) : F.Covers p := by
  apply h.mono
  intro c hc
  cases c with
  | _ => trivial

theorem readDeviceRecord_covers (p : String) : F.Covers (readDeviceRecord b p) := by
  refine Uses.ite trivial ?_
  apply tool_uses (by trivial)
  intro r
  split
  · trivial
  · trivial

theorem deviceMapped_covers (dev : Device) : F.Covers (deviceMapped dev) :=
  tool_uses (by trivial) fun _ => trivial

theorem mappedDevice_covers (cc : ClusterConfig) (req : NodeStageRequest) :
    F.Covers (mappedDevice b cc req) := by
  apply Uses.bind
  · apply Uses.bind
    · exact (readDeviceRecord_covers b _).bind fun _ => trivial
    intro dev
    split
    · trivial
    · exact (deviceMapped_covers _).bind fun _ => Uses.ite trivial trivial
  · intro found
    split
    · trivial
    · apply (fencing_covers (fenceExclusive_fencing cc req)).bind
      intro _
      apply (mapWithFallback_covers cc req _).bind
      intro dm
      apply (waitForDevice_covers _ _).bind
      intro _
      apply Uses.bind
      · refine Uses.ite trivial ?_
        exact tool_uses (by trivial) fun _ => orFail_uses _ _
      · exact fun _ => trivial

theorem nodeStage_covers (req : NodeStageRequest) :
    (nodeFootprint req.volume).Covers (nodeStage b req) := by
  apply (cluster_uses b _).bind
  intro cc
  apply (connArgs_covers cc _ _).bind
  intro _
  apply (mappedDevice_covers b cc req).bind
  intro dev
  apply (stageDevice_covers b req dev).bind
  intro mountDev
  refine Uses.ite ?_ (stageFilesystem_covers b req mountDev)
  exact Uses.ite trivial trivial

theorem nodeUnstage_covers (req : NodeUnstageRequest) : F.Covers (nodeUnstage b req) := by
  apply (cluster_uses b _).bind
  intro _
  apply (readDeviceRecord_covers b _).bind
  intro file
  apply Uses.bind
  · unfold unstageDevice
    split
    · trivial
    · exact tool_uses (by trivial) fun _ => trivial
  intro dev
  apply Uses.bind
  · apply tool_uses (by trivial)
    intro r
    split
    · trivial
    · trivial
    · trivial
  intro _
  apply Uses.bind
  · apply (luksActive_covers _).bind
    intro active
    exact Uses.ite (tool_uses (by trivial) fun _ => orFail_uses _ _) trivial
  intro _
  apply Uses.bind
  · unfold freeDevice
    split
    · trivial
    · apply tool_uses (by trivial)
      intro _
      exact (deviceMapped_covers _).bind fun _ => Uses.ite trivial trivial
  intro _
  apply Uses.bind
  · unfold disposeNbdLog
    split
    · exact Uses.ite trivial (tool_uses (by trivial) fun _ => trivial)
    · trivial
  intro _
  exact Uses.ite trivial (tool_uses (by trivial) fun _ => trivial)

theorem rotationBackingDevice_covers (req : RotateEncryptionKeyRequest) :
    F.Covers (rotationBackingDevice b req) := by
  refine Uses.ite ?_ ?_
  · apply tool_uses (by trivial)
    intro src
    split
    · trivial
    · apply tool_uses (by trivial)
      intro status
      split
      · trivial
      · trivial
      · trivial
    · trivial
  · apply Uses.bind
    · refine Uses.ite trivial ?_
      apply tool_uses (by trivial)
      intro r
      split
      · trivial
      · trivial
    · intro found
      split
      · trivial
      · apply tool_uses (by trivial)
        intro r
        split
        · trivial
        · trivial

theorem rotateKey_covers (ks : KeyService) (id : Text) (inst : String) {vol : ImageRef}
    {apply_ : Text → Prog Unit} (h : ∀ p, (nodeFootprint vol).Covers (apply_ p)) :
    (nodeFootprint vol).Covers (KeyService.rotateKey b ks id inst vol.spec apply_) := by
  have hset : ∀ k v, k.isKey = true → (nodeFootprint vol).Covers (imageMetaSet vol.spec k v) :=
    fun k v hk => imageMetaSet_uses ⟨rfl, rfl, hk⟩
  have hrand : (nodeFootprint vol).Covers randomPassphrase :=
    tool_uses (by trivial) fun _ => orFail_uses _ _
  cases ks with
  | derived dir => trivial
  | misconfigured msg => trivial
  | secretsMetadata =>
    apply (remote_covers_node (readMasterKey_remote (s := vol.spec) _ _)).bind
    intro kek
    apply hrand.bind
    intro dek
    exact (h dek).bind fun _ => hset .wrappedDEK _ rfl
  | vault v =>
    apply hrand.bind
    intro pass
    exact (h pass).bind fun _ => secretCommand_uses trivial _
  | awsKMS key =>
    apply (remote_covers_node (generateDataKey_remote (s := vol.spec) key)).bind
    intro dk
    exact (h dk.1).bind fun _ => hset .wrappedDEK _ rfl
  | azureKV a =>
    apply hrand.bind
    intro pass
    exact (h pass).bind fun _ => secretCommand_uses trivial _
  | kmip e =>
    apply (imageMetaGetChecked_uses trivial).bind
    intro oldUID
    apply hrand.bind
    intro pass
    apply (remote_covers_node (kmipRegister_remote (s := vol.spec) e pass)).bind
    intro uid
    apply (h pass).attempt.bind
    intro r
    split
    · exact (kmipDestroy_uses trivial).attempt.bind fun _ => trivial
    · apply (hset .kmipUID uid rfl).bind
      intro _
      refine Uses.ite ?_ trivial
      exact (kmipDestroy_uses trivial).attempt.bind fun _ => trivial

theorem rotateEncryptionKey_covers (req : RotateEncryptionKeyRequest) :
    (nodeFootprint req.volume).Covers (rotateEncryptionKey b req) := by
  apply (rotationBackingDevice_covers b req).bind
  intro backing
  apply (cluster_uses b _).bind
  intro cc
  apply (connArgs_covers cc _ _).bind
  intro _
  apply Uses.bind
  · apply (imageMetaGetChecked_uses trivial).bind
    intro _
    exact (imageMetaGetChecked_uses trivial).bind fun _ => trivial
  intro desc
  apply (remote_covers_node (registryPassphrase_remote b _ _ _ _)).bind
  intro oldPass
  apply Uses.bind
  · refine Uses.ite trivial ?_
    apply (resolve_uses b _).bind
    intro ks
    apply rotateKey_covers
    intro p
    apply (tempKeyFile_uses trivial).bind
    intro _
    apply (tempKeyFile_uses trivial).bind
    exact fun _ => tool_uses (by trivial) fun _ => orFail_uses _ _
  intro _
  apply (tempKeyFile_uses trivial).bind
  intro _
  apply tool_uses (by trivial)
  intro r
  split
  · trivial
  · trivial
  · trivial

theorem resizeLuks_covers (vol : ImageRef) (p : String) :
    (nodeFootprint vol).Covers (resizeLuks b vol p) := by
  apply (cluster_uses b _).bind
  intro cc
  apply (connArgs_covers cc _ _).bind
  intro _
  apply Uses.bind
  · apply (imageMetaGetChecked_uses trivial).bind
    intro _
    exact (imageMetaGetChecked_uses trivial).bind fun _ => trivial
  intro desc
  apply (remote_covers_node (registryPassphrase_remote b _ _ _ _)).bind
  intro pass
  apply (tempKeyFile_uses trivial).bind
  exact fun _ => tool_uses (by trivial) fun _ => orFail_uses _ _

theorem nodeExpand_covers (req : NodeExpandRequest) :
    (nodeFootprint req.volume).Covers (nodeExpand b req) := by
  apply tool_uses (by trivial)
  intro src
  split
  · trivial
  · apply Uses.bind
    · unfold growMapping
      split
      · exact resizeLuks_covers b _ _
      · trivial
    intro _
    apply tool_uses (by trivial)
    intro fsType
    unfold growFilesystem
    split
    · exact tool_uses (by trivial) fun _ => orFail_uses _ _
    · exact tool_uses (by trivial) fun _ => orFail_uses _ _
    · exact tool_uses (by trivial) fun _ => orFail_uses _ _

theorem expandVolume_covers (req : ExpandVolumeRequest) : F.Covers (expandVolume b req) := by
  apply (cluster_uses b _).bind
  intro cc
  apply (connArgs_covers cc _ _).bind
  exact fun _ => (resizeImage_uses trivial).bind fun _ => trivial

theorem modifyVolume_covers (req : ModifyVolumeRequest) : F.Covers (modifyVolume b req) := by
  apply (liftExcept_uses _).bind
  intro _
  apply (cluster_uses b _).bind
  intro cc
  apply (connArgs_covers cc _ _).bind
  intro _
  apply (imageInfo_uses trivial).bind
  intro found
  split
  · trivial
  · exact applyMutableParams_uses (fun _ _ => trivial) _

end Node

end BardCsi.Ceph
