import BardCsi.Ceph.DeleteKey
import BardCsi.Ceph.Descriptor
import BardCsi.Cephfs.Volumes

/-!
What a failed delete of a subvolume leaves of its key. As for images the key goes first, but a
subvolume with snapshots is not spared, so the key is lost to every reason for which a removal
is refused.
-/
namespace BardCsi.Cephfs

open Effect Program Ceph

section Rules

variable {α β : Type} {I : World → Prop} {who : ℕ} {w : World} {sub : ImageRef}

theorem host_meets {p : Ceph.Prog α}
    (h : p.Meets Ceph.machine who (soleContract I) (fun _ _ => True) w) :
    (host p).Meets machine who (soleContract I) (fun _ _ => True) w :=
  Meets.embed (f := Cmd.host) (g := hostError) h (step_host who) (fun _ _ h => h)
    (fun _ => Iff.rfl) (fun _ _ _ h => h) (fun _ _ _ h => h) (fun _ _ h => h) fun _ _ h => h

theorem ask_uses {allowed : Cmd → Prop} {c : Cmd} {f : c.Reply → Prog α} (h : allowed c)
    (hf : ∀ r, (f r).Uses allowed) : ((run c).bind f).Uses allowed :=
  (Uses.ask h).bind hf

theorem still_then {c : Cmd} {f : c.Reply → Prog α}
    (hstill : ∀ pick a, (perform who pick c a).2 = a)
    (hf : ∀ o n, (f (step who c o { w with seq := n }).1).Meets machine who (soleContract I)
      (fun _ _ => True) { w with seq := n }) :
    ((run c).bind f).Meets machine who (soleContract I) (fun _ _ => True) w := by
  rintro _ ⟨n, rfl⟩ hi o _
  have hstate : (step who c o { w with seq := n }).2 = { w with seq := n } := by
    obtain h | h := step_state who c o { w with seq := n }
    · exact h
    · exact h.trans (hstill _ _)
  refine ⟨trivial, ?_, ?_⟩
  · change I (step who c o { w with seq := n }).2
    rw [hstate]
    exact hi
  · change (f (step who c o { w with seq := n }).1).Meets machine who _ _
      (step who c o { w with seq := n }).2
    rw [hstate]
    exact hf o n

theorem metaGet_then {k : MetaKey} {f : Text → Prog α}
    (hf : ∀ n, isSubvolume sub = true → (f (metaOf w sub.spec k)).Meets machine who
      (soleContract I) (fun _ _ => True) { w with seq := n }) :
    ((metaGet sub k).bind f).Meets machine who (soleContract I) (fun _ _ => True) w := by
  unfold metaGet
  by_cases hs : isSubvolume sub = true
  · rw [if_pos hs, Program.bind_eq, Program.bind_assoc]
    refine still_then (fun _ _ => performMetaGet_state sub _) fun o n => ?_
    rw [step_host]
    obtain h | ⟨h, hempty⟩ | ⟨e, h⟩ := step_metaGet_reply who o { w with seq := n } sub ⟨k, none⟩
    · rw [h]
      exact hf n hs
    · rw [h]
      have := hf n hs
      rwa [show metaOf w sub.spec k = .empty from hempty] at this
    · rw [h]
      exact fun _ _ _ => trivial
  · rw [if_neg hs]
    exact fun _ _ _ => trivial

theorem cephConn_then {cc : ClusterConfig} {inst : String} {secrets : Params}
    {f : Unit → Prog α} (hf : ∀ n, (f ()).Meets machine who (soleContract I) (fun _ _ => True)
      { w with seq := n }) :
    ((cephConn cc inst secrets).bind f).Meets machine who (soleContract I)
      (fun _ _ => True) w := by
  refine still_then (c := .host (.cephCLIConn inst (userID cc secrets))) (fun _ _ => rfl)
    fun o n => ?_
  cases (step who (.host (.cephCLIConn inst (userID cc secrets))) o { w with seq := n }).1 with
  | error e => exact fun _ _ _ => trivial
  | ok u => exact hf n

theorem removeNFSExport_then {cc : ClusterConfig} {pseudo : Text} {f : Unit → Prog α}
    (hf : ∀ n, (f ()).Meets machine who (soleContract I) (fun _ _ => True) { w with seq := n }) :
    ((removeNFSExport cc pseudo).bind f).Meets machine who (soleContract I)
      (fun _ _ => True) w := by
  refine still_then (c := .nfsExportRm cc.nfsCluster pseudo) (fun _ _ => rfl) fun o n => ?_
  cases (step who (.nfsExportRm cc.nfsCluster pseudo) o { w with seq := n }).1 with
  | ok u => exact hf n
  | error e =>
    cases e with
    | notFound => exact hf n
    | _ => exact fun _ _ _ => trivial

end Rules

section Delete

variable {b : Backend} {req : DeleteVolumeRequest} {w a : World} {who : ℕ} {sub : ImageRef}
variable {cc : ClusterConfig}

/-- The subvolume that a request is about. -/
def target (b : Backend) (vol : ImageRef) : ImageRef :=
  match b.clusters vol.inst with
  | some cc => cc.subvolume vol
  | none => vol

/-- The delete gets as far as the removal of the subvolume and takes a key away before. -/
def DeletesKey (b : Backend) (req : DeleteVolumeRequest) (w : World) : Prop :=
  hasPrefix req.volume.name shallowPrefix = false ∧ (b.clusters req.volume.inst).isSome = true ∧
    isSubvolume (target b req.volume) = true ∧ Exposed b.kms (target b req.volume) w

/-- Requests that only remove the subvolume and its snapshots. -/
def Cmd.removing (sub : ImageRef) : Cmd → Prop
  | .snapshotLs _ | .snapshotRm _ => True
  | .subvolumeRm j => j = sub
  | _ => False

theorem unharmed_setImage {vol j : ImageRef} {im im' : Image} (him : a.images j = some im)
    (hinfo : im'.info = im.info) (ha : Unharmed vol w a) : Unharmed vol w (a.setImage j im') := by
  have hmeta : ∀ i q, metaAt (a.setImage j im') i q = metaAt a i q := by
    intro i q
    by_cases hi : i = j
    · subst hi
      rw [metaAt, metaAt, him, setImage_images_self]
      exact congrFun hinfo q
    · rw [metaAt, metaAt, setImage_images_of_ne hi]
  intro hpresent
  have hbefore : (a.images vol).isSome = true := by
    by_cases hi : vol = j
    · rw [hi, him]
      rfl
    · rwa [setImage_images_of_ne hi] at hpresent
  obtain ⟨_, h₂, h₃, h₄, h₅⟩ := ha hbefore
  exact ⟨hpresent, fun k hk => (hmeta _ _).trans (h₂ k hk), h₃, h₄, h₅⟩

theorem performSnapRm_cases (s : Spec) :
    (performSnapRm s a).2 = a ∨ ∃ im snaps, a.images s.image = some im ∧
      (performSnapRm s a).2 = a.setImage s.image { im with snaps := snaps } := by
  unfold performSnapRm onImage
  cases him : a.images s.image with
  | none => exact .inl rfl
  | some im =>
    cases s.snap with
    | none => exact .inl rfl
    | some n =>
      dsimp only
      split_ifs
      · exact .inl rfl
      · exact .inr ⟨im, _, rfl, rfl⟩

theorem performSubvolumeRm_state (pick : ℕ) :
    (performSubvolumeRm pick sub a).2 = a ∨
      (performSubvolumeRm pick sub a).2 =
        { a with images := Function.update a.images sub none } := by
  unfold performSubvolumeRm onImage
  cases a.images sub with
  | none => exact .inl rfl
  | some im =>
    dsimp only
    split_ifs
    · exact .inl rfl
    · exact .inl rfl
    · exact .inr rfl

theorem removing_unharmed {c : Cmd} (hc : c.removing sub) (o : Outcome) (ha : Unharmed sub w a) :
    Unharmed sub w (step who c o a).2 := by
  obtain h | h := step_state who c o a
  · rwa [h]
  rw [h]
  cases c with
  | snapshotLs j =>
    change Unharmed sub w (onImage j a _).2
    unfold onImage
    cases a.images j with
    | none => exact ha
    | some im => exact ha
  | snapshotRm s =>
    obtain h | ⟨im, snaps, him, h⟩ := performSnapRm_cases s (a := a)
    · rwa [show (perform who o.pick (.snapshotRm s) a).2 = _ from h]
    · rw [show (perform who o.pick (.snapshotRm s) a).2 = _ from h]
      exact unharmed_setImage him rfl ha
  | subvolumeRm j =>
    obtain rfl : j = sub := hc
    obtain h | h := performSubvolumeRm_state o.pick (a := a)
    · rwa [show (perform who o.pick (.subvolumeRm j) a).2 = _ from h]
    · rw [show (perform who o.pick (.subvolumeRm j) a).2 = _ from h]
      intro hsome
      simp at hsome
  | host c => exact hc.elim
  | nfsExportRm c p => exact hc.elim

theorem removing_meets {α : Type} {p : Prog α} (hp : p.Uses (Cmd.removing sub)) :
    p.Meets machine who (soleContract (Unharmed sub w)) (fun _ _ => True) a :=
  Meets.of_uses (P := fun _ => True) hp trivial (fun _ _ _ _ => trivial)
    fun _ o _ hc hi _ _ => ⟨trivial, removing_unharmed hc o hi, trivial⟩

theorem reapTmpCloneSnaps_removing : (reapTmpCloneSnaps sub).Uses (Cmd.removing sub) := by
  refine ask_uses (c := .snapshotLs sub) trivial fun r => ?_
  split
  · trivial
  · exact reaping_uses (fun n _ => Uses.ask (c := Cmd.snapshotRm (sub.at n)) trivial) _

theorem removeSubvolume_removing : (removeSubvolume cc sub).Uses (Cmd.removing sub) :=
  ask_uses (c := .subvolumeRm sub) rfl fun _ => tolerating_uses

theorem deleteEncryptionKey_unharmed (hsafe : isSubvolume sub = true → ¬Exposed b.kms sub w) :
    (deleteEncryptionKey b sub).Meets machine who (soleContract (Unharmed sub w))
      (fun _ _ => True) w := by
  apply metaGet_then
  intro n hs
  refine Meets.ite (fun _ _ _ _ => trivial) fun hne => ?_
  refine Meets.rely (s := w) ?_ ⟨n, rfl⟩
  exact host_meets (registryDelete_unharmed hne (hsafe hs))

theorem deleteVolume_eq (hshallow : hasPrefix req.volume.name shallowPrefix = false)
    (hcc : b.clusters req.volume.inst = some cc) :
    deleteVolume b req = (deletion b req).delete false (.pure cc) := by
  rw [deleteVolume, hshallow, cluster, clusterFor, hcc]

theorem finish_unharmed (hsafe : isSubvolume (cc.subvolume req.volume) = true →
      ¬Exposed b.kms (cc.subvolume req.volume) w) :
    ((deletion b req).finish cc).Meets machine who
      (soleContract (Unharmed (cc.subvolume req.volume) w)) (fun _ _ => True) w := by
  apply (deleteEncryptionKey_unharmed hsafe).andThen
  · intro _ a _ _
    apply removing_meets
    exact reapTmpCloneSnaps_removing.bind fun _ => removeSubvolume_removing
  · exact fun _ _ _ _ => trivial

theorem deleteVolume_unharmed (hsafe : ¬DeletesKey b req w) :
    (deleteVolume b req).Meets machine who (soleContract (Unharmed (target b req.volume) w))
      (fun _ _ => True) w := by
  cases hshallow : hasPrefix req.volume.name shallowPrefix with
  | true =>
    unfold deleteVolume
    rw [hshallow]
    exact fun _ _ _ => trivial
  | false =>
    cases hcc : b.clusters req.volume.inst with
    | none =>
      unfold deleteVolume cluster clusterFor
      rw [hshallow, hcc]
      exact fun _ _ _ => trivial
    | some cc =>
      have htarget : target b req.volume = cc.subvolume req.volume := by rw [target, hcc]
      have hfinish : ∀ n, ((deletion b req).finish cc).Meets machine who
          (soleContract (Unharmed (cc.subvolume req.volume) w)) (fun _ _ => True)
          { w with seq := n } := by
        intro n
        refine Meets.rely (s := w) (finish_unharmed fun hs hexp => ?_) ⟨n, rfl⟩
        rw [← htarget] at hs hexp
        exact hsafe ⟨hshallow, by rw [hcc]; rfl, hs, hexp⟩
      rw [deleteVolume_eq hshallow hcc, Deletion.delete_eq, htarget]
      apply cephConn_then
      intro n
      exact Meets.ite (fun _ => removeNFSExport_then hfinish) fun _ => hfinish n

/-- The result of a delete when every subvolume without snapshots is busy. -/
abbrev evalBusy {α : Type} (p : Prog α) (w : World) : Except Err α × World :=
  p.eval (Program.answers machine 0 fun _ _ => ⟨none, false, 1⟩) w

theorem eval_host {α : Type} (p : Ceph.Prog α) :
    evalBusy (host p) w = ((evalIn linked p w).1.mapError hostError, (evalIn linked p w).2) :=
  eval_embed (f := Cmd.host) (g := hostError) fun _ _ => rfl

theorem busy_run {α : Type} {c : Cmd} {f : c.Reply → Prog α} {r : c.Reply} {w' : World}
    (h : perform 0 1 c w = (r, w')) : evalBusy ((run c).bind f) w = evalBusy (f r) w' := by
  change evalBusy (f (perform 0 1 c w).1) (perform 0 1 c w).2 = _
  rw [h]

theorem eval_metaGet (hs : isSubvolume sub = true) (k : MetaKey) :
    evalBusy (metaGet sub k) w = (.ok (metaOf w sub.spec k), w) := by
  unfold metaGet
  rw [if_pos hs]
  by_cases hempty : metaOf w sub.spec k = .empty
  · have hstep : performMetaGet sub ⟨k, none⟩ w = (.error .notFound, w) := by
      unfold performMetaGet onImage
      cases him : w.images sub with
      | none => rfl
      | some im =>
        have hinfo : im.info ⟨k, none⟩ = .empty := by
          rwa [metaOf, metaAt, show w.images sub.spec.image = some im from him] at hempty
        dsimp only
        rw [if_pos hinfo]
        rfl
    rw [hempty]
    exact busy_run (c := .host (.imageMetaGet sub ⟨k, none⟩)) hstep
  · have hstep : performMetaGet sub ⟨k, none⟩ w = (.ok (metaOf w sub.spec k), w) := by
      unfold performMetaGet onImage
      cases him : w.images sub with
      | none =>
        rw [metaOf, metaAt, show w.images sub.spec.image = none from him] at hempty
        exact absurd rfl hempty
      | some im =>
        rw [metaOf, metaAt, show w.images sub.spec.image = some im from him] at hempty ⊢
        exact if_neg hempty
    exact busy_run (c := .host (.imageMetaGet sub ⟨k, none⟩)) hstep

theorem eval_reapEach (names : List ObjectName) : (evalBusy (reapEach sub names) w).1 = .ok () := by
  induction names generalizing w with
  | nil => rfl
  | cons n rest ih =>
    rw [reapEach_cons]
    split
    · exact ih
    · exact ih

theorem eval_reapTmpCloneSnaps : (evalBusy (reapTmpCloneSnaps sub) w).1 = .ok () := by
  rcases h : perform 0 1 (.snapshotLs sub) w with ⟨e | names, w'⟩
  · rw [reapTmpCloneSnaps, Program.bind_eq, busy_run h]
    rfl
  · rw [reapTmpCloneSnaps, Program.bind_eq, busy_run h]
    exact eval_reapEach names

theorem reapEach_present (names : List ObjectName) (hw : (w.images sub).isSome = true) :
    ((evalBusy (reapEach sub names) w).2.images sub).isSome = true := by
  induction names generalizing w with
  | nil => exact hw
  | cons n rest ih =>
    rw [reapEach_cons]
    split
    · refine ih ?_
      change ((performSnapRm (sub.at n) w).2.images sub).isSome = true
      obtain h | ⟨im, snaps, _, h⟩ := performSnapRm_cases (sub.at n) (a := w)
      · rwa [h]
      · rw [h]
        exact congrArg Option.isSome (setImage_images_self (w := w) (i := sub))
    · exact ih hw

theorem reapTmpCloneSnaps_present (hw : (w.images sub).isSome = true) :
    ((evalBusy (reapTmpCloneSnaps sub) w).2.images sub).isSome = true := by
  obtain ⟨im, him⟩ := Option.isSome_iff_exists.mp hw
  have hstep : perform 0 1 (.snapshotLs sub) w = (.ok (im.snaps.map Prod.fst), w) := by
    change onImage sub w _ = _
    rw [onImage, him]
    rfl
  rw [reapTmpCloneSnaps, Program.bind_eq, busy_run hstep]
  exact reapEach_present _ hw

theorem eval_removeSubvolume_busy (cc : ClusterConfig)
    (hw : (w.images sub).isSome = true) :
    ∃ e, evalBusy (removeSubvolume cc sub) w = (.error e, w) := by
  obtain ⟨im, him⟩ := Option.isSome_iff_exists.mp hw
  have hrefused : ∃ t, perform 0 1 (.subvolumeRm sub) w = (.error (.other t), w) := by
    change ∃ t, performSubvolumeRm 1 sub w = _
    unfold performSubvolumeRm onImage
    rw [him]
    dsimp only
    split_ifs with hsnaps hpick
    · exact ⟨_, rfl⟩
    · exact ⟨_, rfl⟩
    · exact absurd Nat.one_ne_zero hpick
  obtain ⟨t, h⟩ := hrefused
  exact ⟨_, busy_run h⟩

theorem eval_finish_busy (hsub : cc.subvolume req.volume = sub) (hs : isSubvolume sub = true)
    (hexp : Exposed b.kms sub w) :
    ∃ e w', evalBusy ((deletion b req).finish cc) w = (.error e, w') ∧
      (w'.images sub).isSome = true ∧ ∃ κ p, ResolvesTo b.kms sub κ .empty noSecrets p w ∧
        ¬ResolvesTo b.kms sub κ .empty noSecrets p w' := by
  have hne := hexp.1
  have hpresent : (w.images sub).isSome = true := by
    cases him : w.images sub with
    | some im => rfl
    | none =>
      refine absurd ?_ hne
      change metaAt w sub _ = _
      rw [metaAt, him]
  obtain ⟨w₁, hdelete, himages, p, hp, hp'⟩ := eval_registryDelete_exposed (E := linked) hexp
  have hkey : evalBusy (deleteEncryptionKey b sub) w = (.ok (), w₁) := by
    refine (eval_bind_of (eval_metaGet hs .kmsID)).trans ?_
    rw [if_neg hne]
    refine (eval_host _).trans ?_
    rw [show evalIn linked _ w = _ from hdelete]
    rfl
  have hpresent₁ : (w₁.images sub).isSome = true := by rwa [himages]
  have hreaped := reapTmpCloneSnaps_present hpresent₁
  have hmeets : (reapTmpCloneSnaps sub).Meets machine 0 (soleContract (Unharmed sub w₁))
      (fun _ _ => True) w₁ := removing_meets reapTmpCloneSnaps_removing
  have hkept : Unharmed sub w₁ (evalBusy (reapTmpCloneSnaps sub) w₁).2 :=
    (hmeets.eval unharmed_refl fun _ _ => trivial).1
  rcases hreap : evalBusy (reapTmpCloneSnaps sub) w₁ with ⟨r, w₂⟩
  obtain rfl : r = .ok () := by
    rw [← eval_reapTmpCloneSnaps (w := w₁), hreap]
  rw [hreap] at hreaped
  rw [hreap] at hkept
  obtain ⟨e, hrm⟩ := eval_removeSubvolume_busy cc hreaped
  refine ⟨e, w₂, ?_, hreaped, _, p, hp, fun h => hp' ?_⟩
  · rw [show (deletion b req).finish cc = (deleteEncryptionKey b sub).bind fun _ =>
      (reapTmpCloneSnaps sub).bind fun _ => removeSubvolume cc sub by rw [← hsub]; rfl]
    exact (eval_bind_of hkey).trans ((eval_bind_of hreap).trans hrm)
  · rw [resolvesTo_iff] at h ⊢
    rwa [(hkept hreaped).resolved] at h

theorem eval_deleteVolume_busy (h : DeletesKey b req w) :
    ∃ e w', evalBusy (deleteVolume b req) w = (.error e, w') ∧
      (w'.images (target b req.volume)).isSome = true ∧ ∃ κ p,
        ResolvesTo b.kms (target b req.volume) κ .empty noSecrets p w ∧
        ¬ResolvesTo b.kms (target b req.volume) κ .empty noSecrets p w' := by
  obtain ⟨hshallow, hcluster, hs, hexp⟩ := h
  obtain ⟨cc, hcc⟩ := Option.isSome_iff_exists.mp hcluster
  have htarget : target b req.volume = cc.subvolume req.volume := by rw [target, hcc]
  rw [htarget] at hs hexp ⊢
  obtain ⟨e, w', heval, hrest⟩ := eval_finish_busy rfl hs hexp
  refine ⟨e, w', ?_, hrest⟩
  have hconn : evalBusy (cephConn cc req.volume.inst req.secrets) w = (.ok (), w) := rfl
  have hexport : evalBusy (removeNFSExport cc (nfsPseudoPath req.volume.name)) w = (.ok (), w) :=
    rfl
  rw [deleteVolume_eq hshallow hcc, Deletion.delete_eq]
  refine (eval_bind_of hconn).trans ?_
  split
  · exact (eval_bind_of hexport).trans heval
  · exact heval

/-- The answer that a failed request may be taken for. -/
def Cmd.misread (c : Cmd) : Option c.Reply :=
  match c with
  | .host c => c.misread
  | .subvolumeRm _ | .nfsExportRm _ _ => some (.error .notFound)
  | _ => none

theorem deleteVolume_keeps_key_iff :
    FailureKeepsKey machine Cmd.misread (deleteVolume b req) b.kms (target b req.volume) w ↔
      ¬DeletesKey b req w := by
  constructor
  · intro hkeeps hdeletes
    obtain ⟨e, w', heval, hpresent, κ, p, hp, hp'⟩ := eval_deleteVolume_busy hdeletes
    have hrun := Program.exec_choices machine 0 (fun _ _ => ⟨none, false, 1⟩)
      (deleteVolume b req) w
    rw [show Program.eval _ (deleteVolume b req) w = _ from heval] at hrun
    exact hp' (hkeeps.read hrun hpresent hp)
  · intro hsafe
    exact failureKeepsKey_of fun who os =>
      ((deleteVolume_unharmed hsafe).exec unharmed_refl os fun _ _ => trivial).2.1

end Delete

/-- A failed delete, of an image or of a subvolume, keeps the key exactly when there is no key
that it takes away before the removal. -/
theorem failed_delete_keeps_key (req : DeleteVolumeRequest) (w : World) :
    (∀ b : Ceph.Backend, FailureKeepsKey Ceph.machine Ceph.Cmd.misread (Ceph.deleteVolume b req) b
      req.volume w ↔ ¬Ceph.DeletesKey b req w) ∧
    ∀ b : Backend, FailureKeepsKey machine Cmd.misread (deleteVolume b req) b.kms
      (target b req.volume) w ↔ ¬DeletesKey b req w :=
  ⟨fun _ => Ceph.deleteVolume_keeps_key_iff, fun _ => deleteVolume_keeps_key_iff⟩

section Refused

def filesBackend : Backend where
  clusters _ := some ⟨"fs", "admin", .kernel, ""⟩
  encKeyDir := "keys"
  providers := vaultsBackend.providers

def filesVolume : ImageRef := ⟨"ceph", "fs", .plain "pvc"⟩

/-- A subvolume with a key in the first store and a snapshot. -/
def filesWorld : World :=
  { World.start with
    seq := 1
    images := Function.update World.start.images filesVolume
      (some ⟨1, fun q => if q = kmsIDKey then "a" else .empty, .blank,
        [(.plain "daily", ⟨1, .blank⟩)]⟩)
    secrets := Function.update World.start.secrets
      ⟨.vault, "https://a", "kv", "bard", "ceph", filesVolume.spec⟩ (some (.minted 0 0)) }

/-- The passphrase that a volume resolves after a delete, and whether the delete failed and the
volume is still there. -/
def afterDelete (b : Ceph.Backend) (vol : ImageRef) (x : Except Err Unit × World) :
    Bool × Bool × Except Err Text :=
  (x.1.toOption.isNone, (x.2.images vol).isSome,
    (evalIn firstChoice (Registry.passphrase b vol.inst "a" vol.spec .empty noSecrets) x.2).1)

/-- An image with linked clones and a subvolume with a snapshot are not removed. Both are still
there without the key that they had, and resolve a new one. -/
theorem refused_delete_loses_key :
    (evalIn firstChoice (Registry.passphrase vaultsBackend "ceph" "a" pvcImage.spec .empty
        noSecrets) stagedWorld).1 = .ok (.minted 0 0) ∧
      afterDelete vaultsBackend pvcImage
        (evalIn linked (Ceph.deleteVolume vaultsBackend ⟨pvcImage, noSecrets⟩) stagedWorld) =
          (true, true, .ok (.minted 0 1)) ∧
      (evalIn firstChoice (Registry.passphrase filesBackend.kms "ceph" "a" filesVolume.spec .empty
        noSecrets) filesWorld).1 = .ok (.minted 0 0) ∧
      afterDelete filesBackend.kms filesVolume
        ((deleteVolume filesBackend ⟨filesVolume, noSecrets⟩).eval
          (Program.answers machine 0 fun _ _ => .ok) filesWorld) =
          (true, true, .ok (.minted 0 1)) := by
  decide +kernel

end Refused

end BardCsi.Cephfs
