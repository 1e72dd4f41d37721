import BardCsi.Cephfs.Quota
import BardCsi.Cephfs.Snapshots
import BardCsi.Path

/-!
The names of subvolumes and snapshots, and where they are written. The controller and the node
write down the address of a subvolume in different ways, and two names mean something to a delete:
a volume name with the prefix `shallow-` owns no subvolume, and a snapshot name with the prefix
`clonetmp-` is a leftover of a clone.
-/
namespace BardCsi.Cephfs.Provision

open Effect Program
open Snapshots (Store provision)

theorem subvolumeGroupOf_cephfsLocation {fs : String} (h : '/' ∉ fs.toList) (group : String) :
    subvolumeGroupOf (cephfsLocation fs group) = group := by
  have hdrop : ∀ l : List Char, (fs.toList ++ l).dropWhile (· ≠ '/') = l.dropWhile (· ≠ '/') := by
    intro l
    refine List.dropWhile_append_of_pos fun c hc => ?_
    rw [decide_eq_true_eq]
    rintro rfl
    exact h hc
  unfold subvolumeGroupOf cephfsLocation
  split_ifs with hgroup
  · have hnil := hdrop []
    rw [List.append_nil] at hnil
    rw [hnil, hgroup]
    rfl
  · rw [String.toList_append, String.toList_append, List.append_assoc, hdrop]
    simp

/-- What a key provider is given: the instance, the provider, the volume and the key. -/
structure KeyRequest where
  inst : String
  kmsID : String
  spec : String
  keyID : String

/-- The key that the node asks for when it stages a volume. -/
def volumePassphrase (vol : VolumeRef) (context : String → String) : KeyRequest :=
  let spec := vol.location ++ "/" ++ vol.name
  ⟨vol.inst, context "encryptionKMSID", spec, spec⟩

theorem splitMetaSpec_metaSpec {sub : SubvolumeRef} (hfs : '/' ∉ sub.fs.toList)
    (hgroup : '/' ∉ sub.group.toList) (hname : '/' ∉ sub.name.toList) :
    splitMetaSpec (metaSpec sub) = some sub := by
  obtain ⟨fs, group, name⟩ := sub
  unfold splitMetaSpec metaSpec
  split_ifs with h
  · have hsplit : Strings.split (fs ++ "/" ++ name) '/' = [fs, name] := by
      simp [Strings.split, ← Path.parts.eq_1, Path.parts_append_slash, Path.parts_of_no_slash, *]
    rw [hsplit, ← h]
  · have hsplit : Strings.split (fs ++ "/" ++ group ++ "/" ++ name) '/' = [fs, group, name] := by
      simp [Strings.split, ← Path.parts.eq_1, Path.parts_append_slash, Path.parts_of_no_slash, *]
    rw [hsplit]

theorem location_append_name (inst fs group name : String) (context : String → String) :
    volumePassphrase ⟨inst, cephfsLocation fs group, name⟩ context =
      ⟨inst, context "encryptionKMSID", metaSpec ⟨fs, group, name⟩,
        metaSpec ⟨fs, group, name⟩⟩ := by
  unfold volumePassphrase metaSpec cephfsLocation
  split_ifs <;> rfl

/-- The requests of a delete of a subvolume, if there is one. -/
def removal (inst : String) (sub : Option SubvolumeRef) : Snapshots.Cmd → Prop
  | .fs (.cephConn _ _) => True
  | .fs (.snapshotRm _ snap) => Strings.hasPrefix snap tmpClonePrefix = true
  | .fs (.subvolumeRm sub') => some sub' = sub
  | .fs _ | .claimSnapName _ _ _ | .releaseSnapName _ => False
  | .deleteKey inst' spec => inst' = inst ∧ some spec = sub.map metaSpec
  | .snapshotLs _ | .subvolumeInfo _ | .nfsExportRm _ _ => True

section Removal

variable {inst : String} {sub : Option SubvolumeRef}

theorem connects_removal (cc : ClusterConfig) (secrets : String → String) :
    (provision (cephConn cc inst secrets)).Uses (removal inst sub) := by
  refine ⟨trivial, fun r => ?_⟩
  rcases r with e | u <;> trivial

variable {b : Backend} {req : Snapshots.DeleteVolumeRequest}

theorem deleteVolume_eq {cc : ClusterConfig} (hcc : b.clusters req.volume.inst = some cc) :
    Snapshots.deleteVolume b req = (Snapshots.deletion req).delete
      (Strings.hasPrefix req.volume.name shallowPrefix) (.pure cc) := by
  rw [Snapshots.deleteVolume, cluster, clusterFor, hcc]
  rfl

theorem deleteVolume_removal : (Snapshots.deleteVolume b req).Uses
    (removal req.volume.inst ((b.clusters req.volume.inst).map (·.subvolume req.volume))) := by
  rcases hcc : b.clusters req.volume.inst with _ | cc
  · rw [Snapshots.deleteVolume, cluster, clusterFor, hcc]
    exact Uses.ite trivial trivial
  · have hrest : ((Snapshots.deletion req).finish cc).Uses
        (removal req.volume.inst (some (cc.subvolume req.volume))) := by
      refine Uses.bind (Uses.bind (Uses.ask ⟨rfl, rfl⟩) fun gone => ?_) fun _ =>
        Uses.bind ?_ fun _ => ?_
      · rcases gone with e | u <;> trivial
      · refine Uses.bind (Uses.ask trivial) fun names => ?_
        rcases names with e | names
        · trivial
        · exact reaping_uses (fun n hn => Uses.ask (c := Snapshots.Cmd.fs (.snapshotRm _ n)) hn) _
      · exact Uses.bind (Uses.ask rfl) fun _ => tolerating_uses
    rw [deleteVolume_eq hcc]
    refine Uses.ite trivial ((connects_removal cc req.secrets).bind fun _ => ?_)
    refine Uses.ite ?_ hrest
    exact Uses.bind (Uses.bind (Uses.ask trivial) fun _ => tolerating_uses) fun _ => hrest

end Removal

/-- The controller and the node agree on where a subvolume is: its group is read back from its
location, its parts are read back from its spec, and the node asks for the key of a volume under
the spec under which a delete of the volume removes the key. -/
theorem addresses_agree (inst fs group name : String) (hfs : '/' ∉ fs.toList)
    (hgroup : '/' ∉ group.toList) (hname : '/' ∉ name.toList) :
    subvolumeGroupOf (cephfsLocation fs group) = group ∧
      splitMetaSpec (metaSpec ⟨fs, group, name⟩) = some ⟨fs, group, name⟩ ∧
      (∀ context, volumePassphrase ⟨inst, cephfsLocation fs group, name⟩ context =
        ⟨inst, context "encryptionKMSID", metaSpec ⟨fs, group, name⟩,
          metaSpec ⟨fs, group, name⟩⟩) ∧
      ∀ b cc secrets, b.clusters inst = some cc → cc.fsName = fs →
        (Snapshots.deleteVolume b ⟨⟨inst, cephfsLocation fs group, name⟩, secrets⟩).Uses
          fun c => ∀ inst' spec, c = .deleteKey inst' spec →
            inst' = inst ∧ spec = metaSpec ⟨fs, group, name⟩ := by
  refine ⟨subvolumeGroupOf_cephfsLocation hfs group, splitMetaSpec_metaSpec hfs hgroup hname,
    location_append_name inst fs group name, ?_⟩
  rintro b cc secrets hcc rfl
  refine deleteVolume_removal.mono ?_
  rintro c hc inst' spec rfl
  obtain ⟨rfl, hspec⟩ := hc
  refine ⟨rfl, ?_⟩
  rw [hcc] at hspec
  simpa [ClusterConfig.subvolume, subvolumeGroupOf_cephfsLocation hfs] using hspec

theorem addresses_agree_csi :
    subvolumeGroupOf "cephfs/csi" = "csi" ∧
      splitMetaSpec "cephfs/csi/bard-01" = some ⟨"cephfs", "csi", "bard-01"⟩ := by
  have h := addresses_agree "fs1" "cephfs" "csi" "bard-01" (by decide) (by decide) (by decide)
  exact ⟨h.1, h.2.1⟩

/-- A prefix that ends in a character of no digest is a prefix of a minted name only if it is one
of the prefix that the name was minted with. -/
theorem hasPrefix_digestName {sum : String → Fin (2 ^ 64)} {pre name r : String}
    (hlast : r.toList.getLast? = some '-') :
    Strings.hasPrefix (digestName sum pre name) r = Strings.hasPrefix pre r := by
  rw [Bool.eq_iff_iff, Strings.hasPrefix, Strings.hasPrefix, List.isPrefixOf_iff_prefix,
    List.isPrefixOf_iff_prefix, digestName, String.toList_append, String.toList_ofList]
  refine ⟨fun h => ?_, fun h => h.trans (List.prefix_append _ _)⟩
  rcases Nat.le_total r.toList.length pre.toList.length with hle | hle
  · exact List.prefix_of_prefix_length_le h (List.prefix_append _ _) hle
  · obtain ⟨t, ht⟩ := List.prefix_of_prefix_length_le (List.prefix_append _ _) h hle
    rw [← ht] at h hlast ⊢
    rw [List.prefix_append_right_inj] at h
    cases t with
    | nil => rw [List.append_nil]
    | cons c t =>
      have hmem := List.mem_of_getLast? (by simpa using hlast : (c :: t).getLast? = some '-')
      exact absurd (h.subset hmem) (notMem_hex (by decide) _)

theorem hasPrefix_namePrefix {param value default pre r : String}
    (h : namePrefix param value default = .ok pre)
    (hdefault : Strings.hasPrefix default r = Strings.hasPrefix "" r) :
    Strings.hasPrefix pre r = Strings.hasPrefix value r := by
  unfold namePrefix at h
  split_ifs at h with hempty
  · rw [← Except.ok.inj h, hdefault, hempty]
  · rw [Except.ok.inj h]

def hasSnap (w : World) (sub : SubvolumeRef) (snap : String) : Prop :=
  ∃ v, w.subvolumes sub = some v ∧ (v.snaps.lookup snap).isSome

section Deleting

variable {δ : Type} [Inhabited δ] {b : Backend} {s : Store δ} {req : Snapshots.DeleteVolumeRequest}
variable {sub : SubvolumeRef}

theorem deleteVolume_asks {cc : ClusterConfig} (hcc : b.clusters req.volume.inst = some cc)
    (hname : Strings.hasPrefix req.volume.name shallowPrefix = false) :
    (Snapshots.deleteVolume b req).Asks (· = .fs (.subvolumeRm (cc.subvolume req.volume))) := by
  have hrest : ((Snapshots.deletion req).finish cc).Asks
      (· = .fs (.subvolumeRm (cc.subvolume req.volume))) :=
    Asks.bind _ fun _ => Asks.bind _ fun _ => .inl rfl
  rw [deleteVolume_eq hcc, hname, Deletion.delete_eq]
  refine Asks.bind _ fun _ => ?_
  split_ifs
  · exact Asks.bind _ fun _ => hrest
  · exact hrest

theorem step_removal_hasSnap {inst snap : String} {target : Option SubvolumeRef} {c : Snapshots.Cmd}
    (hc : removal inst target c) (hsnap : Strings.hasPrefix snap tmpClonePrefix = false)
    (o : Outcome) (h : hasSnap s.world sub snap) : hasSnap (s.step c o).2.world sub snap := by
  cases c with
  | fs c =>
    change hasSnap (step c o s.world).2 sub snap
    obtain hstep | hstep := step_state c o s.world
    · rwa [hstep]
    · rw [hstep]
      obtain ⟨v, hv, hsome⟩ := h
      cases c with
      | cephConn inst user => exact ⟨v, hv, hsome⟩
      | snapshotRm sub' snap' =>
        have hne : snap ≠ snap' := by
          rintro rfl
          cases hsnap.symm.trans hc
        change hasSnap (performSnapshotRm sub' snap' s.world).2 sub snap
        unfold hasSnap
        simp only [Snapshots.performSnapshotRm_subvolumes]
        split_ifs with hsub
        · rw [← hsub, hv]
          exact ⟨_, rfl, by rwa [Snapshots.lookup_filter_ne, if_neg hne]⟩
        · exact ⟨v, hv, hsome⟩
      | subvolumeRm sub' =>
        refine onSubvolume_state (P := fun w => hasSnap w sub snap) ⟨v, hv, hsome⟩ fun v' hv' => ?_
        split_ifs with hsnaps
        · exact ⟨v, hv, hsome⟩
        · have hne : sub ≠ sub' := by
            rintro rfl
            obtain rfl := Option.some.inj (hv.symm.trans hv')
            rw [not_not.mp hsnaps] at hsome
            cases hsome
          exact ⟨v, by rwa [put_of_ne hne], hsome⟩
      | _ => exact hc.elim
  | claimSnapName name source handle => exact hc.elim
  | releaseSnapName handle => exact hc.elim
  | _ => exact h

theorem deleteVolume_keeps_snap {snap : String}
    (hsnap : Strings.hasPrefix snap tmpClonePrefix = false) (os : List Outcome)
    (h : hasSnap s.world sub snap) :
    hasSnap (Snapshots.exec (Snapshots.deleteVolume b req) os s).1.world sub snap :=
  (Machine.exec_keeps (I := fun a : Store δ => hasSnap a.world sub snap) deleteVolume_removal h
    (fun _ o _ hc ha => step_removal_hasSnap hc hsnap o ha) os).1

/-- Names minted with two prefixes keep clear of the reserved ones: a delete of a volume succeeds
only after it has tried to remove the subvolume, and no delete removes a snapshot. -/
structure Reserved (δ : Type) [Inhabited δ] (b : Backend) (volPrefix snapPrefix : String) :
    Prop where
  volumes : ∀ name, Strings.hasPrefix (subvolName b volPrefix name) shallowPrefix = false
  snapshots : ∀ name, Strings.hasPrefix (digestName b.sum snapPrefix name) tmpClonePrefix = false
  tried : ∀ req name cc, req.volume.name = subvolName b volPrefix name →
    b.clusters req.volume.inst = some cc →
    (Snapshots.deleteVolume b req).Asks (· = .fs (.subvolumeRm (cc.subvolume req.volume)))
  kept : ∀ req name sub os (s : Store δ), hasSnap s.world sub (digestName b.sum snapPrefix name) →
    hasSnap (Snapshots.exec (Snapshots.deleteVolume b req) os s).1.world sub
      (digestName b.sum snapPrefix name)

variable (δ) in
/-- Accepted prefixes keep names clear of the reserved ones exactly when they do not start with
the reserved ones themselves, which the check of prefixes does not ask for. -/
theorem names_reserved_iff {volParam snapParam volPrefix snapPrefix : String}
    (hvol : namePrefix "volumeNamePrefix" volParam "bard-" = .ok volPrefix)
    (hsnap : namePrefix "snapshotNamePrefix" snapParam "snap-" = .ok snapPrefix) :
    Reserved δ b volPrefix snapPrefix ↔ Strings.hasPrefix volParam shallowPrefix = false ∧
      Strings.hasPrefix snapParam tmpClonePrefix = false := by
  have hv : ∀ name, Strings.hasPrefix (subvolName b volPrefix name) shallowPrefix =
      Strings.hasPrefix volParam shallowPrefix := fun name =>
    (hasPrefix_digestName (by decide)).trans (hasPrefix_namePrefix hvol (by decide))
  have hs : ∀ name, Strings.hasPrefix (digestName b.sum snapPrefix name) tmpClonePrefix =
      Strings.hasPrefix snapParam tmpClonePrefix := fun name =>
    (hasPrefix_digestName (by decide)).trans (hasPrefix_namePrefix hsnap (by decide))
  constructor
  · intro h
    exact ⟨hv "" ▸ h.volumes "", hs "" ▸ h.snapshots ""⟩
  · rintro ⟨hvolume, hsnapshot⟩
    refine ⟨fun name => (hv name).trans hvolume, fun name => (hs name).trans hsnapshot, ?_, ?_⟩
    · intro req name cc hname hcc
      exact deleteVolume_asks hcc ((congrArg (Strings.hasPrefix · shallowPrefix) hname).trans
        ((hv name).trans hvolume))
    · exact fun req name sub os s h => deleteVolume_keeps_snap ((hs name).trans hsnapshot) os h

theorem names_reserved_chosen : Reserved ℕ Snapshots.demoBackend "shallow.team-" "clone-" :=
  have hvol : namePrefix "volumeNamePrefix" "shallow.team-" "bard-" = .ok "shallow.team-" := by
    decide
  have hsnap : namePrefix "snapshotNamePrefix" "clone-" "snap-" = .ok "clone-" := by decide
  (names_reserved_iff ℕ hvol hsnap).mpr ⟨by decide, by decide⟩

end Deleting

section Example

open Snapshots (exec demoBackend emptyStore createRequest dataVolume)

/-- A store after a volume was made with a prefix for its name. -/
def storeWith (pre : String) : Store ℕ :=
  (exec (provision (createVolume demoBackend { createRequest "data" "" none with
    parameters := fun key => if key = "volumeNamePrefix" then pre else "" }))
    (List.replicate 8 .ok) emptyStore).1

def shallowNamed : VolumeRef := ⟨"fs1", "cephfs/csi", "shallow-0000000000000004"⟩

def shallowDeleted : Store ℕ × Option (Except Err Unit) :=
  exec (Snapshots.deleteVolume demoBackend ⟨shallowNamed, fun _ => ""⟩) (List.replicate 8 .ok)
    (storeWith "shallow-")

/-- A store with a volume and a snapshot of it that was made with the prefix `clonetmp-`. -/
def tmpNamed : Store ℕ :=
  (exec (Snapshots.createSnapshot demoBackend ⟨"daily", dataVolume,
    fun key => if key = "snapshotNamePrefix" then "clonetmp-" else "", fun _ => ""⟩)
    (List.replicate 8 .ok) (storeWith "")).1

def tmpDeleted : Store ℕ × Option (Except Err Unit) :=
  exec (Snapshots.deleteVolume demoBackend ⟨dataVolume, fun _ => ""⟩) (List.replicate 8 .ok)
    tmpNamed

/-- The subvolumes of the two volumes, with the names of their snapshots. -/
def snapsIn (s : Store ℕ) (name : String) : Option (List String) :=
  (s.world.subvolumes ⟨"cephfs", "csi", name⟩).map fun v => v.snaps.map Prod.fst

/-- Both reserved prefixes are accepted. A delete of a volume that was named with the first one
succeeds and leaves its subvolume, and a delete of a volume removes the snapshot that was named
with the second one. -/
theorem reserved_names_minted :
    (namePrefix "volumeNamePrefix" "shallow-" "bard-").toOption = some "shallow-" ∧
      snapsIn (storeWith "shallow-") "shallow-0000000000000004" = some [] ∧
      shallowDeleted.2.bind Except.toOption = some () ∧
      snapsIn shallowDeleted.1 "shallow-0000000000000004" = some [] ∧
      (namePrefix "snapshotNamePrefix" "clonetmp-" "snap-").toOption = some "clonetmp-" ∧
      snapsIn tmpNamed "bard-0000000000000004" = some ["clonetmp-0000000000000005"] ∧
      tmpDeleted.2.bind Except.toOption = some () ∧
      snapsIn tmpDeleted.1 "bard-0000000000000004" = none := by
  decide +kernel

end Example

end BardCsi.Cephfs.Provision
