import BardCsi.Assoc
import BardCsi.Cephfs.Provision
import BardCsi.Effect.Embed

/-!
Snapshots of subvolumes, and the volumes that come from them. A restored volume is a clone with
data of its own, or it only refers to the directory of its snapshot. The store below keeps what
the directories hold, and a history keeps the volumes that were made from a snapshot and not
deleted since.
-/
namespace BardCsi.Cephfs.Provision.Snapshots

open Effect Program

/-- What the calls ask for besides the requests of provisioning. The keys of a volume are removed
through the key providers, and the names of snapshots are kept in the memory of the plugin. -/
inductive Cmd where
  | fs (c : Provision.Cmd)
  | snapshotLs (sub : SubvolumeRef)
  | subvolumeInfo (sub : SubvolumeRef)
  | nfsExportRm (cluster pseudo : String)
  | deleteKey (inst spec : String)
  | claimSnapName (name : String) (source handle : VolumeRef)
  | releaseSnapName (handle : VolumeRef)
deriving DecidableEq, Repr

def Cmd.Reply : Cmd → Type
  | .fs c => c.Reply
  | .snapshotLs _ => Except RunError (List String)
  | .subvolumeInfo _ => Except RunError ℕ∞
  | .nfsExportRm _ _ => Except RunError Unit
  | .deleteKey _ _ => Except Err Unit
  | .claimSnapName _ _ _ => Bool
  | .releaseSnapName _ => Unit

abbrev Prog (α : Type) := Program Cmd Cmd.Reply Err α

def run (c : Cmd) : Prog c.Reply := .ask c

def provision {α : Type} (p : Provision.Prog α) : Prog α := p.embed Cmd.fs id

theorem provision_bind {α β : Type} (p : Provision.Prog α) (k : α → Provision.Prog β) :
    provision (p.bind k) = (provision p).bind fun a => provision (k a) :=
  Program.embed_bind (ρ := Cmd.Reply) (f := Cmd.fs) (g := id) p k

theorem provision_yields {α : Type} {p : Provision.Prog α} {φ : α → Prop} (h : p.Yields φ) :
    (provision p).Yields φ :=
  Yields.embed (f := Cmd.fs) (g := id) h

structure CreateSnapshotRequest where
  name : String
  sourceVolume : VolumeRef
  parameters : String → String
  secrets : String → String

structure CreateSnapshotResponse where
  location : String
  name : String
  sizeBytes : Int
deriving DecidableEq, Repr

structure DeleteSnapshotRequest where
  snapshot : VolumeRef
  secrets : String → String

structure DeleteVolumeRequest where
  volume : VolumeRef
  secrets : String → String

/-- The quota of a subvolume, zero if there is none or if it is not known. -/
def subvolBytes (sub : SubvolumeRef) : Prog Int := do
  match ← run (.subvolumeInfo sub) with
  | .ok quota => return (quota.toNat : Int)
  | .error _ => return 0

def createSnapshot (b : Backend) (req : CreateSnapshotRequest) : Prog CreateSnapshotResponse := do
  let src := req.sourceVolume
  let cc ← provision (cluster b src.inst)
  let pre ← provision (liftExcept
    (namePrefix "snapshotNamePrefix" (req.parameters "snapshotNamePrefix") "snap-"))
  let snap := digestName b.sum pre req.name
  let name := src.name ++ "@" ++ snap
  let claimed : Bool ← run (.claimSnapName req.name src ⟨src.inst, src.location, name⟩)
  if claimed = false then
    .fail ⟨.alreadyExists, ["snapshot ", req.name,
      " already exists for a different source volume"]⟩
  else
    provision (cephConn cc src.inst req.secrets)
    let sub := cc.subvolume src
    let made ← run (.fs (.snapshotCreate sub snap))
    provision (orExists made ("cephfs: snapshot create " ++ cc.fsName ++ "/" ++ name))
    let size ← subvolBytes sub
    return ⟨src.location, name, size⟩

def removeSnapshot (sub : SubvolumeRef) (snap : String) : Prog Unit := do
  tolerating .notFound (← run (.fs (.snapshotRm sub snap)))
    ["cephfs: snapshot rm " ++ sub.fs ++ "/" ++ sub.name ++ "@" ++ snap ++ ": "]

/-- A handle that is not one of a snapshot has nothing to delete. -/
def deleteSnapshot (b : Backend) (req : DeleteSnapshotRequest) : Prog Unit := do
  let cc ← provision (cluster b req.snapshot.inst)
  match splitSnap req.snapshot.name with
  | none => return ()
  | some (subvol, snap) =>
    provision (cephConn cc req.snapshot.inst req.secrets)
    removeSnapshot ⟨cc.fsName, subvolumeGroupOf req.snapshot.location, subvol⟩ snap
    let _ : Unit ← run (.releaseSnapName req.snapshot)
    return ()

def reapTmpCloneSnaps (sub : SubvolumeRef) : Prog Unit := do
  match ← run (.snapshotLs sub) with
  | .error _ => return ()
  | .ok names =>
    reaping (Strings.hasPrefix · tmpClonePrefix) (fun n => run (.fs (.snapshotRm sub n))) names

def removeNFSExport (cc : Provision.ClusterConfig) (pseudo : String) : Prog Unit := do
  tolerating .notFound (← run (.nfsExportRm cc.nfsCluster pseudo))
    ["cephfs: nfs export rm " ++ cc.nfsCluster ++ " " ++ pseudo ++ ": "]

def removeSubvolume (sub : SubvolumeRef) : Prog Unit := do
  tolerating .notFound (← run (.fs (.subvolumeRm sub)))
    ["cephfs: subvolume rm " ++ sub.fs ++ "/" ++ sub.name ++ ": "]

/-- The keys are removed by one request here. -/
def deletion (req : DeleteVolumeRequest) :
    Deletion Cmd Cmd.Reply Provision.ClusterConfig where
  connect cc := provision (cephConn cc req.volume.inst req.secrets)
  exported cc := cc.mounter = .nfs
  removeExport cc := removeNFSExport cc ("/" ++ req.volume.name)
  deleteKey cc := do
    let gone : Except Err Unit ←
      run (.deleteKey req.volume.inst (metaSpec (cc.subvolume req.volume)))
    provision (liftExcept gone)
  reap cc := reapTmpCloneSnaps (cc.subvolume req.volume)
  remove cc := removeSubvolume (cc.subvolume req.volume)

def deleteVolume (b : Backend) (req : DeleteVolumeRequest) : Prog Unit :=
  (deletion req).delete (Strings.hasPrefix req.volume.name shallowPrefix)
    (provision (cluster b req.volume.inst))

/-- The directory of a subvolume, or of one of its snapshots. -/
structure Dir where
  sub : SubvolumeRef
  snap : Option String
deriving DecidableEq, Repr

/-- The path that a volume's context gives for a directory. -/
def Dir.path (d : Dir) : String :=
  let path := Strings.trimSpace ("/volumes/" ++ d.sub.group ++ "/" ++ d.sub.name ++ "\n")
  match d.snap with
  | none => path
  | some snap => path ++ "/.snap/" ++ snap

/-- The subvolumes with their data and that of their snapshots, and the names of snapshots in the
memory of the plugin. -/
structure Store (δ : Type) where
  world : World
  data : SubvolumeRef → δ
  snapData : SubvolumeRef → String → δ
  snapIndex : List (String × VolumeRef)
  snapNames : List (VolumeRef × String)

section Store

variable {δ : Type}

def Store.contentAt (s : Store δ) (d : Dir) : Option δ :=
  match d.snap with
  | none => (s.world.subvolumes d.sub).map fun _ => s.data d.sub
  | some n => (s.world.subvolumes d.sub).bind fun v =>
      (v.snaps.lookup n).map fun _ => s.snapData d.sub n

/-- A new subvolume is empty, a clone is a full copy of its snapshot. -/
def Store.dataAfter [Inhabited δ] (s : Store δ) : Provision.Cmd → SubvolumeRef → δ
  | .subvolumeCreate sub _ =>
      if (s.world.subvolumes sub).isNone then Function.update s.data sub default else s.data
  | .snapshotClone sub snap target =>
      if (s.world.subvolumes target).isNone then
        Function.update s.data target (s.snapData sub snap)
      else s.data
  | _ => s.data

/-- A new snapshot holds what its subvolume does. -/
def Store.snapDataAfter (s : Store δ) : Provision.Cmd → SubvolumeRef → String → δ
  | .snapshotCreate sub snap =>
      if (s.contentAt ⟨sub, some snap⟩).isNone then
        Function.update s.snapData sub (Function.update (s.snapData sub) snap (s.data sub))
      else s.snapData
  | _ => s.snapData

def Store.claim (s : Store δ) (name : String) (source handle : VolumeRef) : Bool × Store δ :=
  if (Assoc.get s.snapIndex name).any (· ≠ source) then (false, s)
  else (true, { s with
    snapIndex := Assoc.set s.snapIndex name source
    snapNames := Assoc.set s.snapNames handle name })

def Store.release (s : Store δ) (handle : VolumeRef) : Store δ :=
  match Assoc.get s.snapNames handle with
  | some name => { s with
      snapIndex := Assoc.erase s.snapIndex name
      snapNames := Assoc.erase s.snapNames handle }
  | none => s

theorem contentAt_release (s : Store δ) (handle : VolumeRef) (d : Dir) :
    (s.release handle).contentAt d = s.contentAt d := by
  unfold Store.release
  split
  · rfl
  · rfl

/-- A reply of the environment, or a failure. -/
def answer {α : Type} (o : Outcome) (r : Except RunError α) : Except RunError α :=
  match o.fault with
  | none => r
  | some msg => .error (.other msg)

def Store.step [Inhabited δ] (s : Store δ) (c : Cmd) (o : Outcome) : c.Reply × Store δ :=
  match c with
  | .fs c =>
      ((Provision.step c o s.world).1, { s with
        world := (Provision.step c o s.world).2
        data := s.dataAfter c
        snapData := s.snapDataAfter c })
  | .snapshotLs sub => (answer o ((s.world.subvolumes sub).elim (.error .notFound)
      fun v => .ok (v.snaps.map Prod.fst)), s)
  | .subvolumeInfo sub => (answer o ((s.world.subvolumes sub).elim (.error .notFound)
      fun v => .ok v.quota), s)
  | .nfsExportRm _ _ => (answer o (.ok ()), s)
  | .deleteKey _ _ => (o.fault.elim (.ok ()) fun msg => .error (errorf [msg]), s)
  | .claimSnapName name source handle => s.claim name source handle
  | .releaseSnapName handle => ((), s.release handle)

def machine (δ : Type) [Inhabited δ] : Machine Cmd Cmd.Reply Unit Outcome (Store δ) :=
  ⟨fun _ c o s => s.step c o⟩

end Store

/-- A volume that was made from a snapshot: its handle, the path in its context, whether it was
asked to refer to the snapshot only, and the directory that it was made for. -/
structure Restored where
  handle : VolumeRef
  path : String
  shallow : Bool
  dir : Dir
deriving DecidableEq

/-- The directory of a new volume: that of its snapshot if it only refers to it. -/
def CreateVolumeRequest.dir (req : CreateVolumeRequest) (cc : Provision.ClusterConfig)
    (resp : CreateVolumeResponse) : Dir :=
  match req.shallow.bind fun snap => (splitSnap snap.name).map fun n => (snap, n) with
  | some (snap, sub, n) => ⟨⟨cc.fsName, subvolumeGroupOf snap.location, sub⟩, some n⟩
  | none => ⟨⟨cc.fsName, resolveSubvolumeGroup req.parameters cc, resp.name⟩, none⟩

/-- What a create adds to the volumes that come from a snapshot. -/
def restoredBy (b : Backend) (req : CreateVolumeRequest) (resp : CreateVolumeResponse) :
    List Restored :=
  match b.clusters req.inst, req.sourceSnapshot with
  | some cc, some _ => [⟨⟨req.inst, resp.location, resp.name⟩,
      (resp.context.lookup "path").getD "", req.shallow.isSome,
      CreateVolumeRequest.dir req cc resp⟩]
  | _, _ => []

/-- A call with the outcomes of its requests, which may be cut short, or a write to a volume. -/
inductive Happening (δ : Type) where
  | createVolume (req : CreateVolumeRequest) (os : List Outcome)
  | createSnapshot (req : CreateSnapshotRequest) (os : List Outcome)
  | deleteSnapshot (req : DeleteSnapshotRequest) (os : List Outcome)
  | deleteVolume (req : DeleteVolumeRequest) (os : List Outcome)
  | write (sub : SubvolumeRef) (x : δ)

structure History (δ : Type) where
  store : Store δ
  volumes : List Restored

section History

variable {δ : Type} [Inhabited δ] (b : Backend)

def exec {α : Type} (p : Prog α) (os : List Outcome) (s : Store δ) :
    Store δ × Option (Except Err α) :=
  ((machine δ).exec () p os s).2

def History.next (h : History δ) : Happening δ → History δ
  | .createVolume req os =>
      let r := exec (provision (createVolume b req)) os h.store
      match r.2 with
      | some (.ok resp) => ⟨r.1, restoredBy b req resp ++ h.volumes⟩
      | _ => ⟨r.1, h.volumes⟩
  | .createSnapshot req os => ⟨(exec (createSnapshot b req) os h.store).1, h.volumes⟩
  | .deleteSnapshot req os => ⟨(exec (deleteSnapshot b req) os h.store).1, h.volumes⟩
  | .deleteVolume req os =>
      let r := exec (deleteVolume b req) os h.store
      match r.2 with
      | some (.ok ()) => ⟨r.1, h.volumes.filter fun v => v.handle ≠ req.volume⟩
      | _ => ⟨r.1, h.volumes⟩
  | .write sub x => ⟨{ h.store with data := Function.update h.store.data sub x }, h.volumes⟩

def History.run (h : History δ) : List (Happening δ) → History δ
  | [] => h
  | x :: xs => (h.next b x).run xs

end History

/-- The directory that a request to delete a snapshot is about. -/
def DeleteSnapshotRequest.dir (b : Backend) (req : DeleteSnapshotRequest) : Option Dir :=
  match b.clusters req.snapshot.inst, splitSnap req.snapshot.name with
  | some cc, some (sub, snap) =>
      some ⟨⟨cc.fsName, subvolumeGroupOf req.snapshot.location, sub⟩, some snap⟩
  | _, _ => none

theorem DeleteSnapshotRequest.snap_of_dir {b : Backend} {req : DeleteSnapshotRequest} {d : Dir}
    (h : some d = req.dir b) : d.snap ≠ none := by
  unfold DeleteSnapshotRequest.dir at h
  split at h
  · obtain rfl := Option.some.inj h
    simp
  · cases h

section Deleting

variable {δ : Type} [Inhabited δ] {b : Backend} {s : Store δ} {o : Outcome}

/-- One caller, and nothing assumed about the outcomes. -/
abbrev alone (δ : Type) : Contract Cmd Outcome (Store δ) :=
  .alone (fun _ => True) (fun _ _ _ => True) fun _ _ _ => True

theorem meets_run {α : Type} {c : Cmd} {k : c.Reply → Prog α}
    {Q : Except Err α → Store δ → Prop}
    (h : ∀ o, (k (s.step c o).1).Meets (machine δ) () (alone δ) Q (s.step c o).2) :
    ((run c).bind k).Meets (machine δ) () (alone δ) Q s := by
  refine meets_request_alone.mpr fun _ o _ => ?_
  exact ⟨trivial, trivial, h o⟩

theorem lookup_filter_ne {β : Type} (l : List (String × β)) (n m : String) :
    (l.filter fun x => x.1 ≠ m).lookup n = if n = m then none else l.lookup n := by
  induction l with
  | nil => simp
  | cons x l ih =>
    obtain ⟨k, v⟩ := x
    by_cases hk : k = m
    · rw [List.filter_cons_of_neg (by simpa using hk), ih, List.lookup_cons, hk]
      split
      next => rfl
      next hn => rw [beq_eq_false_iff_ne.mpr hn]
    · rw [List.filter_cons_of_pos (by simpa using hk), List.lookup_cons, List.lookup_cons, ih]
      by_cases hn : n = k
      · subst hn
        simp [hk]
      · rw [beq_eq_false_iff_ne.mpr hn]

theorem performSnapshotRm_subvolumes (sub : SubvolumeRef) (snap : String) (w : World)
    (x : SubvolumeRef) :
    (performSnapshotRm sub snap w).2.subvolumes x =
      if x = sub then (w.subvolumes sub).map fun v =>
        { v with snaps := v.snaps.filter fun y => y.1 ≠ snap }
      else w.subvolumes x := by
  unfold performSnapshotRm onSubvolume
  cases hv : w.subvolumes sub with
  | none =>
    by_cases hx : x = sub
    · rw [if_pos hx, hx]
      exact hv
    · rw [if_neg hx]
  | some v => exact Function.update_apply ..

theorem contentAt_snapshotRm (sub : SubvolumeRef) (snap : String)
    (h : (s.step (.fs (.snapshotRm sub snap)) o).1 = .ok () ∨
      (s.step (.fs (.snapshotRm sub snap)) o).1 = .error .notFound) (d : Dir) :
    (s.step (.fs (.snapshotRm sub snap)) o).2.contentAt d =
      if d = ⟨sub, some snap⟩ then none else s.contentAt d := by
  have hdone : Provision.step (.snapshotRm sub snap) o s.world =
      performSnapshotRm sub snap s.world := by
    obtain hstep | ⟨msg, hfailed⟩ := step_cases (.snapshotRm sub snap) o s.world
    · exact hstep
    · rcases h with h | h
      · cases hfailed.symm.trans h
      · cases hfailed.symm.trans h
  have hworld : (s.step (.fs (.snapshotRm sub snap)) o).2.world =
      (performSnapshotRm sub snap s.world).2 := congrArg Prod.snd hdone
  have hdata : (s.step (.fs (.snapshotRm sub snap)) o).2.data = s.data := rfl
  have hsnapData : (s.step (.fs (.snapshotRm sub snap)) o).2.snapData = s.snapData := rfl
  obtain ⟨x, n⟩ := d
  simp only [Store.contentAt, hworld, hdata, hsnapData, performSnapshotRm_subvolumes, Dir.mk.injEq]
  by_cases hx : x = sub
  · subst hx
    rw [if_pos rfl]
    cases n with
    | none => simp [Function.comp_def]
    | some n =>
      cases s.world.subvolumes x with
      | none => simp
      | some v =>
        simp only [Option.map_some, Option.bind_some, lookup_filter_ne]
        by_cases hn : n = snap
        · simp [hn]
        · simp [hn]
  · simp [hx]

theorem contentAt_cephConn (inst user : String) (d : Dir) :
    (s.step (.fs (.cephConn inst user)) o).2.contentAt d = s.contentAt d := by
  have hworld : (s.step (.fs (.cephConn inst user)) o).2.world = s.world := by
    obtain h | h := step_state (.cephConn inst user) o s.world
    · exact h
    · exact h
  unfold Store.contentAt
  rw [hworld]
  rfl

theorem cephConn_meets (cc : Provision.ClusterConfig) (inst : String)
    (secrets : String → String) :
    (provision (cephConn cc inst secrets)).Meets (machine δ) () (alone δ)
      (IfOk fun _ a => ∀ d, a.contentAt d = s.contentAt d) s := by
  apply meets_run
  intro o
  cases (s.step (.fs (.cephConn inst (userID cc secrets))) o).1 with
  | error e => exact meets_fail_alone.mpr fun _ => trivial
  | ok u => exact meets_pure_alone.mpr fun _ => contentAt_cephConn _ _

theorem removeSnapshot_meets (sub : SubvolumeRef) (snap : String) :
    (removeSnapshot sub snap).Meets (machine δ) () (alone δ)
      (IfOk fun _ a => ∀ d, a.contentAt d =
        if d = ⟨sub, some snap⟩ then none else s.contentAt d) s := by
  apply meets_run
  intro o
  have hremoved := contentAt_snapshotRm (s := s) (o := o) sub snap
  rcases hr : (s.step (.fs (.snapshotRm sub snap)) o).1 with e | u
  · cases e with
    | notFound => exact meets_pure_alone.mpr fun _ => hremoved (.inr hr)
    | _ => exact meets_fail_alone.mpr fun _ => trivial
  · exact meets_pure_alone.mpr fun _ => hremoved (.inl hr)

theorem deleteSnapshot_meets (req : DeleteSnapshotRequest) :
    (deleteSnapshot b req).Meets (machine δ) () (alone δ)
      (IfOk fun _ a => ∀ d, a.contentAt d =
        if some d = req.dir b then none else s.contentAt d) s := by
  unfold deleteSnapshot DeleteSnapshotRequest.dir cluster clusterFor
  cases hcc : b.clusters req.snapshot.inst with
  | none => exact meets_fail_alone.mpr fun _ => trivial
  | some cc =>
    cases hsplit : splitSnap req.snapshot.name with
    | none => exact meets_pure_alone.mpr fun _ d => by simp
    | some names =>
      obtain ⟨subvol, snap⟩ := names
      apply (cephConn_meets cc req.snapshot.inst req.secrets).ends
      intro _ a _ ha
      apply (removeSnapshot_meets ⟨cc.fsName, _, subvol⟩ snap).ends
      intro _ a' _ ha'
      apply meets_run
      intro o
      refine meets_pure_alone.mpr fun _ d => ?_
      change (a'.release req.snapshot).contentAt d = _
      rw [contentAt_release, ha', ha]
      simp only [Option.some_inj]

end Deleting

section Paths

variable {δ : Type} [Inhabited δ] {b : Backend} {s : Store δ} {o : Outcome}

theorem meets_any {α : Type} (p : Prog α) :
    p.Meets (machine δ) () (alone δ) (fun _ _ => True) s := by
  apply Meets.of_uses (P := fun _ => True) (Uses.any p) trivial
  · exact fun _ _ _ h => h
  · exact fun _ _ _ _ _ _ _ => ⟨trivial, trivial, trivial⟩

theorem meets_yields {α : Type} {p : Provision.Prog α} {φ : α → Prop} (h : p.Yields φ) :
    (provision p).Meets (machine δ) () (alone δ) (IfOk fun x _ => φ x) s := by
  apply ((meets_any (provision p)).yields (provision_yields h)).mono
  rintro (e | x) a _ ha
  · trivial
  · exact ha.1

theorem meets_then {α β : Type} {p : Prog α} {k : α → Prog β} {P : β → Store δ → Prop}
    (h : ∀ x a, (k x).Meets (machine δ) () (alone δ) (IfOk P) a) :
    (p.bind k).Meets (machine δ) () (alone δ) (IfOk P) s :=
  (meets_any p).ifOk.ends fun x a _ _ => h x a

theorem meets_after {α β : Type} {p : Provision.Prog α} {k : α → Provision.Prog β}
    {P : β → Store δ → Prop}
    (h : ∀ x a, (provision (k x)).Meets (machine δ) () (alone δ) (IfOk P) a) :
    (provision (p.bind k)).Meets (machine δ) () (alone δ) (IfOk P) s := by
  rw [provision_bind]
  exact meets_then h

theorem getpath_ok {sub : SubvolumeRef} {path : String}
    (h : (s.step (.fs (.getpath sub)) o).1 = .ok path) :
    path = "/volumes/" ++ sub.group ++ "/" ++ sub.name ++ "\n" := by
  obtain hstep | ⟨msg, hfailed⟩ := step_cases (.getpath sub) o s.world
  · have hreply : (s.step (.fs (.getpath sub)) o).1 = (onSubvolume s.world sub fun _ =>
        (.ok ("/volumes/" ++ sub.group ++ "/" ++ sub.name ++ "\n"), s.world)).1 :=
      congrArg Prod.fst hstep
    unfold onSubvolume at hreply
    cases hv : s.world.subvolumes sub with
    | none =>
      rw [hv] at hreply
      cases hreply.symm.trans h
    | some v =>
      rw [hv] at hreply
      exact (Except.ok.inj (hreply.symm.trans h)).symm
  · cases hfailed.symm.trans h

theorem finishCreate_path (cc : Provision.ClusterConfig) (req : CreateVolumeRequest)
    (sub : SubvolumeRef) :
    (provision (finishCreate cc req sub)).Meets (machine δ) () (alone δ)
      (IfOk fun resp _ => resp.name = sub.name ∧
        resp.context.lookup "path" = some (Dir.mk sub none).path) s := by
  apply meets_run
  intro o
  rcases hr : (s.step (.fs (.getpath sub)) o).1 with e | path
  · exact meets_fail_alone.mpr fun _ => trivial
  · obtain rfl := getpath_ok hr
    have hrest : Yields (fun resp : CreateVolumeResponse => resp.name = sub.name ∧
          resp.context.lookup "path" = some (Dir.mk sub none).path)
        (((setOwnerMetadata sub req.parameters ownerMeta).bind fun _ =>
          (applyPin sub req.mutableParams).bind fun _ =>
          (recordEncryption req.parameters (metaSpec sub)).bind fun _ =>
          (exportContext cc sub (Dir.mk sub none).path).bind fun nfs =>
          .pure ⟨cephfsLocation cc.fsName sub.group, sub.name, req.capacityBytes,
            [("path", (Dir.mk sub none).path)] ++ encryptionVolumeContext req.parameters ++
              nfs⟩ : Provision.Prog CreateVolumeResponse)) := by
      refine Yields.bind _ fun _ => Yields.bind _ fun _ => ?_
      refine Yields.bind _ fun _ => Yields.bind _ fun _ => ⟨rfl, ?_⟩
      simp
    exact meets_yields hrest

theorem createVolume_path {cc : Provision.ClusterConfig} (req : CreateVolumeRequest)
    (hcc : b.clusters req.inst = some cc) :
    (provision (createVolume b req)).Meets (machine δ) () (alone δ)
      (IfOk fun resp _ =>
        resp.context.lookup "path" = some (CreateVolumeRequest.dir req cc resp).path) s := by
  unfold createVolume cluster clusterFor
  rw [hcc]
  simp only [Program.bind_eq, Program.bind_pure]
  apply meets_after
  intro _ a₁
  apply meets_after
  intro _ a₂
  apply meets_after
  intro _ a₃
  cases hshallow : req.shallow with
  | some snapRef =>
    dsimp only
    unfold createShallowVolume
    split
    · exact meets_fail_alone.mpr fun _ => trivial
    · cases hsplit : splitSnap snapRef.name with
      | none => exact meets_fail_alone.mpr fun _ => trivial
      | some names =>
        obtain ⟨srcSub, snap⟩ := names
        apply meets_run
        intro o
        rcases hr : (a₃.step (.fs (.getpath
          ⟨cc.fsName, subvolumeGroupOf snapRef.location, srcSub⟩)) o).1 with e | path
        · exact meets_fail_alone.mpr fun _ => trivial
        · obtain rfl := getpath_ok hr
          refine meets_pure_alone.mpr fun _ => ?_
          change List.lookup "path" [("path", _)] = _
          simp [CreateVolumeRequest.dir, hshallow, hsplit, Dir.path]
  | none =>
    dsimp only
    unfold createSubvolume
    apply meets_after
    intro pre a₄
    apply meets_after
    intro _ a₅
    apply meets_after
    intro _ a₆
    apply meets_after
    intro _ a₇
    apply (finishCreate_path cc req _).mono
    rintro (e | resp) a _ ha
    · trivial
    · obtain ⟨hname, hpath⟩ := ha
      change resp.context.lookup "path" = _
      rw [hpath]
      simp [CreateVolumeRequest.dir, hshallow, hname]

end Paths

/-- The path in the context is that of the directory, and only a volume that was asked to refer
to its snapshot has a directory of that kind. -/
structure Restored.Sound (v : Restored) : Prop where
  path : v.path = v.dir.path
  own : v.shallow = false → v.dir.snap = none

/-- The path in the context of the volume has the same content as before, or is missing as
before. -/
def Restored.Kept {δ : Type} (v : Restored) (s s' : Store δ) : Prop :=
  v.path = v.dir.path ∧ s'.contentAt v.dir = s.contentAt v.dir

section Volumes

variable {δ : Type} [Inhabited δ] {b : Backend}

theorem restoredBy_sound {req : CreateVolumeRequest} {resp : CreateVolumeResponse}
    {os : List Outcome} {s : Store δ}
    (hok : (exec (provision (createVolume b req)) os s).2 = some (.ok resp)) :
    ∀ v ∈ restoredBy b req resp, v.Sound := by
  unfold restoredBy
  cases hcc : b.clusters req.inst with
  | none => simp
  | some cc =>
    cases req.sourceSnapshot with
    | none => simp
    | some snap =>
      have hpath : resp.context.lookup "path" = some (CreateVolumeRequest.dir req cc resp).path :=
        ((createVolume_path req hcc).exec trivial os fun _ _ => trivial).2.2 _ hok
      intro v hv
      obtain rfl := List.mem_singleton.mp hv
      refine ⟨by rw [hpath]; rfl, fun hshallow => ?_⟩
      have hnone : req.shallow = none := by simpa using hshallow
      simp [CreateVolumeRequest.dir, hnone]

theorem next_sound {h : History δ} (hsound : ∀ v ∈ h.volumes, v.Sound) (x : Happening δ) :
    ∀ v ∈ (h.next b x).volumes, v.Sound := by
  cases x with
  | createVolume req os =>
    unfold History.next
    dsimp only
    rcases hr : (exec (provision (createVolume b req)) os h.store).2 with _ | e | resp
    · exact hsound
    · exact hsound
    · intro v hv
      obtain hv | hv := List.mem_append.mp hv
      · exact restoredBy_sound hr v hv
      · exact hsound v hv
  | deleteVolume req os =>
    unfold History.next
    dsimp only
    rcases (exec (deleteVolume b req) os h.store).2 with _ | e | u
    · exact hsound
    · exact hsound
    · exact fun v hv => hsound v (List.mem_of_mem_filter hv)
  | createSnapshot req os => exact hsound
  | deleteSnapshot req os => exact hsound
  | write sub x => exact hsound

theorem run_sound {h : History δ} (hsound : ∀ v ∈ h.volumes, v.Sound) (xs : List (Happening δ)) :
    ∀ v ∈ (h.run b xs).volumes, v.Sound := by
  induction xs generalizing h with
  | nil => exact hsound
  | cons x xs ih => exact ih (next_sound hsound x)

end Volumes

/-- After every history, the deletion of a snapshot that succeeds leaves the path of every volume
that was made from a snapshot and not deleted, exactly if none of them was asked to refer to the
snapshot that is deleted, or that snapshot is not there. -/
theorem deleteSnapshot_keeps_restored_iff {δ : Type} [Inhabited δ] (b : Backend) (s₀ : Store δ)
    (xs : List (Happening δ)) (req : DeleteSnapshotRequest) (os : List Outcome)
    (hok : (exec (deleteSnapshot b req) os (History.run b ⟨s₀, []⟩ xs).store).2 =
      some (.ok ())) :
    let h := History.run b ⟨s₀, []⟩ xs
    (∀ v ∈ h.volumes, v.Kept h.store (exec (deleteSnapshot b req) os h.store).1) ↔
      ∀ v ∈ h.volumes, v.shallow = true → some v.dir = req.dir b →
        h.store.contentAt v.dir = none := by
  intro h
  have hsound : ∀ v ∈ h.volumes, v.Sound := run_sound (by simp) xs
  have hafter : ∀ d, (exec (deleteSnapshot b req) os h.store).1.contentAt d =
      if some d = req.dir b then none else h.store.contentAt d :=
    ((deleteSnapshot_meets req).exec trivial os fun _ _ => trivial).2.2 _ hok
  constructor
  · intro hkept v hv _ hdir
    have hsame := (hkept v hv).2
    rwa [hafter, if_pos hdir, eq_comm] at hsame
  · intro hnone v hv
    refine ⟨(hsound v hv).path, ?_⟩
    rw [hafter]
    split
    next hdir =>
      cases hshallow : v.shallow with
      | true => exact (hnone v hv hshallow hdir).symm
      | false => exact absurd ((hsound v hv).own hshallow) (req.snap_of_dir hdir)
    next => rfl

section Example

def demoBackend : Backend where
  clusters _ := some
    { fsName := "cephfs", userID := "", mounter := .kernel, nfsCluster := "", nfsServer := "",
      subvolumeGroup := "" }
  sum := lengthSum
  isProbability _ := false
  clonePolls := 0

def emptyStore : Store ℕ := ⟨⟨fun _ => none⟩, fun _ => 0, fun _ _ => 0, [], []⟩

def createRequest (name backing : String) (source : Option VolumeRef) : CreateVolumeRequest where
  name := name
  inst := "fs1"
  capacityBytes := 1
  parameters key := if key = "backingSnapshot" then backing else ""
  mutableParams := []
  secrets _ := ""
  sourceSnapshot := source
  sourceVolume := none

def dataVolume : VolumeRef := ⟨"fs1", "cephfs/csi", "bard-0000000000000004"⟩

def dataSnapshot : VolumeRef :=
  ⟨"fs1", "cephfs/csi", "bard-0000000000000004@snap-0000000000000005"⟩

/-- A volume with data, a snapshot of it, and a volume made from the snapshot. -/
def restoreHistory (backing : String) : List (Happening ℕ) :=
  [.createVolume (createRequest "data" "" none) (List.replicate 8 .ok),
    .write ⟨"cephfs", "csi", "bard-0000000000000004"⟩ 7,
    .createSnapshot ⟨"daily", dataVolume, fun _ => "", fun _ => ""⟩ (List.replicate 8 .ok),
    .createVolume (createRequest "copy-of" backing (some dataSnapshot)) (List.replicate 8 .ok)]

def restored (backing : String) : History ℕ :=
  History.run demoBackend ⟨emptyStore, []⟩ (restoreHistory backing)

def deleteDaily (backing : String) : Store ℕ × Option (Except Err Unit) :=
  exec (deleteSnapshot demoBackend ⟨dataSnapshot, fun _ => ""⟩) (List.replicate 3 .ok)
    (restored backing).store

/-- A full copy stays when its snapshot is deleted. -/
theorem deleteSnapshot_keeps_copy :
    (restored "").volumes.map Restored.path = ["/volumes/csi/bard-0000000000000007"] ∧
      ∀ v ∈ (restored "").volumes, v.Kept (restored "").store (deleteDaily "").1 := by
  refine ⟨by decide +kernel, ?_⟩
  have hdone : (deleteDaily "").2.bind Except.toOption = some () := by decide +kernel
  refine (deleteSnapshot_keeps_restored_iff demoBackend emptyStore (restoreHistory "")
    ⟨dataSnapshot, fun _ => ""⟩ (List.replicate 3 .ok) (succeeded_of_toOption hdone)).mpr ?_
  decide +kernel

/-- A volume that refers to the snapshot loses its directory when the snapshot is deleted. -/
theorem deleteSnapshot_takes_shallow_data :
    (deleteDaily "true").2.bind Except.toOption = some () ∧
      ((restored "true").volumes.map fun v => (v.path,
          (restored "true").store.contentAt v.dir, (deleteDaily "true").1.contentAt v.dir)) =
        [("/volumes/csi/bard-0000000000000004/.snap/snap-0000000000000005", some 7, none)] := by
  decide +kernel

end Example

end BardCsi.Cephfs.Provision.Snapshots
