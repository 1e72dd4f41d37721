import BardCsi.Ceph.Capture
import BardCsi.Ceph.DeleteKey

/-!
Deleting a snapshot until it works. A call that stops half way leaves the snapshot's entries in
an order that the next call can follow: the provider goes last, and the name of a KMIP object
goes after the object. A call that succeeds then leaves nothing of the snapshot, and no call
touches what belongs to the volume.
-/
namespace BardCsi.Ceph

open Effect Program

/-- There is no such snapshot. -/
def SnapshotGone (s : Spec) (w : World) : Prop :=
  ∀ n, s.snap = some n → Assoc.get (snapsOf w s.image) n = none

section Snapshot

variable {s : Spec} {w a : World} {who : ℕ}

theorem snapshotGone_of_image {x : Option Image} (hx : w.images s.image = x)
    (h : ∀ im n, x = some im → s.snap = some n → Assoc.get im.snaps n = none) :
    SnapshotGone s w := by
  intro n hn
  unfold snapsOf
  rw [hx]
  cases x with
  | none => rfl
  | some im => exact h im n rfl hn

theorem SnapshotGone.later (h : SnapshotGone s w) (hr : Later w a) : SnapshotGone s a := by
  obtain ⟨n, _, rfl⟩ := hr
  exact h

theorem SnapshotGone.step {c : Cmd} (h : SnapshotGone s w) (hc : ∀ j n, c ≠ .rbdSnapCreate j n)
    (o : Outcome) : SnapshotGone s (step who c o w).2 := by
  have hbecomes : Becomes c w s.image ((Ceph.step who c o w).2.images s.image) :=
    step_becomes who o
  refine snapshotGone_of_image rfl fun im' n him' hn => ?_
  rw [him'] at hbecomes
  have hcarried : ∀ im, w.images s.image = some im → Carried c s.image im im' →
      Assoc.get im'.snaps n = none := by
    intro im him hcarried
    have hbefore : Assoc.get im.snaps n = none := by
      have hgone := h n hn
      unfold snapsOf at hgone
      rwa [him] at hgone
    rw [← Option.not_isSome_iff_eq_none]
    intro hsome
    obtain hwas | hmade := hcarried.made n hsome
    · rw [hbefore] at hwas
      cases hwas
    · exact hc _ _ hmade
  cases hbecomes with
  | kept him _ hkept => exact hcarried _ him hkept
  | set _ him _ hkept => exact hcarried _ him hkept
  | created => rfl
  | cloned _ _ _ _ hsnaps => rw [hsnaps]; rfl

theorem fault_unsettled {f : Fault} {r : Except RunError Unit} (hr : .error f.run = r) :
    ¬(r = .ok () ∨ r = .error .notFound) := by
  subst hr
  cases f with
  | error t => simp [Fault.run]
  | status t => simp [Fault.run]

theorem step_snapRm_reply {o : Outcome}
    (h : (step who (.rbdSnapRm s) o w).1 = .ok () ∨
      (step who (.rbdSnapRm s) o w).1 = .error .notFound) :
    SnapshotGone s (step who (.rbdSnapRm s) o w).2 := by
  obtain hstep | ⟨f, _, hf, _⟩ := step_cases who (.rbdSnapRm s) o w
  · rw [hstep]
    change SnapshotGone s (performSnapRm s w).2
    unfold performSnapRm onImage
    cases him : w.images s.image with
    | none => exact snapshotGone_of_image him fun _ _ h => by cases h
    | some im =>
      dsimp only
      split
      · rename_i hs
        exact fun n hn => by rw [hs] at hn; cases hn
      · rename_i n hs
        split_ifs with hnone
        · refine snapshotGone_of_image him fun im' m him' hm => ?_
          obtain rfl := Option.some.inj him'
          obtain rfl := Option.some.inj (hs.symm.trans hm)
          exact Option.isNone_iff_eq_none.mp hnone
        · refine snapshotGone_of_image setImage_images_self fun im' m him' hm => ?_
          obtain rfl := Option.some.inj him'
          obtain rfl := Option.some.inj (hs.symm.trans hm)
          exact Assoc.get_erase_self _ _
  · exact absurd h (fault_unsettled (Option.some.inj hf))

theorem removeDescriptor_uses {allowed : Cmd → Prop} {keys : List MetaKey}
    (h : ∀ q, allowed (.imageMetaRemove s.image q)) : (removeDescriptor s keys).Uses allowed := by
  induction keys with
  | nil => trivial
  | cons k keys ih =>
    refine Uses.bind (Uses.bind (Uses.ask (h _)) fun r => ?_) fun _ => ih
    split
    · trivial
    · trivial
    · trivial

theorem deletionRest_uses (b : Backend) (s : Spec) :
    ((deleteSnapshotKey b s).bind fun _ =>
      (run (.releaseSnapName s)).bind fun _ => .pure ()).Uses
        fun c => ∀ j n, c ≠ .rbdSnapCreate j n := by
  have hstore : ∀ c : Cmd, c.storesKey = true → ∀ j n, c ≠ .rbdSnapCreate j n := by
    rintro c hc j n rfl
    cases hc
  refine Uses.bind ?_ fun _ => Uses.bind (Uses.ask ?_) fun _ => trivial
  · apply (imageMetaGetChecked_uses (hstore _ rfl)).bind
    intro kmsID
    refine Uses.ite trivial ?_
    apply (registryDelete_uses hstore b _ kmsID s).bind
    exact fun _ => removeDescriptor_uses fun _ _ _ => Cmd.noConfusion
  · exact fun _ _ => Cmd.noConfusion

theorem deleteSnapshot_removes {b : Backend} {req : DeleteSnapshotRequest} :
    (deleteSnapshot b req).Meets machine who (laterContract fun _ => True)
      (IfOk fun _ x => SnapshotGone req.snapshot x) w := by
  have hI : KeyMatter fun _ => True := fun _ _ _ _ => trivial
  refine hI.keyless (cluster_uses b _) (fun cc _ _ => ?_) fun _ _ => trivial
  refine hI.keyless ((connArgs_reads cc _ _).mono fun _ => keyless_of_reads) (fun _ _ _ => ?_)
    fun _ _ => trivial
  apply Meets.returns (P := fun r x => r = .ok () ∨ r = .error .notFound →
    SnapshotGone req.snapshot x)
  · refine Meets.ask (fun r x y hr hx hreply => ?_) fun x o _ _ _ => ?_
    · exact (hx hreply).later hr
    · exact ⟨trivial, trivial, step_snapRm_reply⟩
  · intro r x _ hx
    have hgone : (tolerating .notFound r ["ceph-rbd: snap rm ", .spec req.snapshot, ": "]).Meets
        machine who (laterContract fun _ => True)
        (IfOk fun _ x => SnapshotGone req.snapshot x) x := by
      cases r with
      | ok u => exact fun y hr _ => (hx (.inl rfl)).later hr
      | error e =>
        refine Meets.ite (fun he y hr _ => ?_) fun _ _ _ _ => trivial
        exact (hx (.inr (by rw [he]))).later hr
    refine hgone.ends fun _ y _ hy => Meets.ifOk ?_
    refine Meets.of_uses (P := SnapshotGone req.snapshot) (deletionRest_uses b _) hy ?_ ?_
    · exact fun _ _ hr h => h.later hr
    · exact fun c o _ hc _ _ h => ⟨trivial, trivial, h.step hc o⟩

end Snapshot

/-- The provider keeps no copy of the key for `s` in a store of its own. A copy on a KMIP server
is the object `u`. -/
def CopyGone (ks : KeyService) (s : Spec) (u : Text) (w : World) : Prop :=
  match ks with
  | .vault v => w.secrets (Vault.secretPath v s.image.inst s) = none
  | .azureKV v => w.secrets (AzureKV.secretName v s.image.inst s) = none
  | .kmip e => u ≠ .empty → w.kmip e u = none
  | .derived _ | .secretsMetadata | .awsKMS _ | .misconfigured _ => True

/-- Nothing is left of the key of `s`. -/
structure Reaped (ks : KeyService) (s : Spec) (u : Text) (w : World) : Prop where
  entries : ∀ k ∈ descriptorKeys, metaOf w s k = .empty
  copy : CopyGone ks s u w

/-- A deletion of `s` that began in `w` can be taken up in `x`: the provider is known until
nothing is left, and the object is known until it is gone. -/
structure Reaping (ks : KeyService) (s : Spec) (κ u : Text) (w x : World) : Prop where
  apart : Apart s (fun t => t = u ∧ u ≠ .empty) w x
  provider : κ ≠ .empty ∧ metaOf x s .kmsID = κ ∨ Reaped ks s u x
  object : metaOf x s .kmipUID = u ∨ metaOf x s .kmipUID = .empty ∧ CopyGone ks s u x

section Reaping

variable {ks : KeyService} {s : Spec} {κ u : Text} {w a x y : World} {who : ℕ} {k : MetaKey}
variable {o : Outcome} {e : String} {rest : List MetaKey} {c : SecretClient}
variable {path : String → Spec → Secret}

theorem CopyGone.congr (h : CopyGone ks s u x) (hsecrets : y.secrets = x.secrets)
    (hkmip : y.kmip = x.kmip) : CopyGone ks s u y := by
  unfold CopyGone at h ⊢
  rwa [hsecrets, hkmip]

theorem CopyGone.alike (h : CopyGone ks s u x) (hy : Alike x y) : CopyGone ks s u y :=
  h.congr hy.secrets hy.kmip

theorem Reaped.alike (h : Reaped ks s u x) (hy : Alike x y) : Reaped ks s u y :=
  ⟨fun k hk => (hy.info _ _).trans (h.entries k hk), h.copy.alike hy⟩

theorem reaping_keyMatter (ks : KeyService) (s : Spec) (κ u : Text) (w : World) :
    KeyMatter (Reaping ks s κ u w) := by
  intro x y h hy
  have hentry : ∀ k, metaOf y s k = metaOf x s k := fun k => hy.info _ _
  refine ⟨h.apart.alike hy, ?_, ?_⟩
  · rw [hentry]
    exact h.provider.imp_right fun hreaped => hreaped.alike hy
  · rw [hentry]
    exact h.object.imp_right fun hgone => ⟨hgone.1, hgone.2.alike hy⟩

theorem Reaping.drop (h : Reaping ks s κ u w x) (himages : y.images = x.images)
    (hapart : Apart s (fun t => t = u ∧ u ≠ .empty) w y)
    (hcopy : CopyGone ks s u x → CopyGone ks s u y) : Reaping ks s κ u w y := by
  have hentry : ∀ k, metaOf y s k = metaOf x s k := fun k => metaAt_congr himages
  refine ⟨hapart, ?_, ?_⟩
  · rw [hentry]
    refine h.provider.imp_right fun hreaped => ⟨fun k hk => ?_, hcopy hreaped.copy⟩
    exact (hentry k).trans (hreaped.entries k hk)
  · rw [hentry]
    exact h.object.imp_right fun hgone => ⟨hgone.1, hcopy hgone.2⟩

theorem metaOf_remove (w : World) (s : Spec) (k k' : MetaKey) :
    metaOf (w.setMeta s.image ⟨k, s.snap⟩ .empty) s k' =
      if k' = k then .empty else metaOf w s k' := by
  split_ifs with hk
  · subst hk
    cases him : w.images s.image with
    | none =>
      unfold metaOf metaAt World.setMeta
      simp [him]
    | some im => exact metaAt_setMeta_self (by rw [him]; rfl)
  · exact metaAt_setMeta_of_ne (.inr fun h => hk (congrArg QKey.key h))

theorem Reaping.remove (h : Reaping ks s κ u w x) (hcopy : CopyGone ks s u x)
    (hlast : k = .kmsID → ∀ k' ∈ descriptorKeys, k' ≠ .kmsID → metaOf x s k' = .empty) :
    Reaping ks s κ u w (x.setMeta s.image ⟨k, s.snap⟩ .empty) := by
  have hcopy' : CopyGone ks s u (x.setMeta s.image ⟨k, s.snap⟩ .empty) :=
    hcopy.congr setMeta_secrets setMeta_kmip
  refine ⟨h.apart.setMeta k .empty, ?_, ?_⟩
  · by_cases hk : k = .kmsID
    · refine .inr ⟨fun k' hk' => ?_, hcopy'⟩
      rw [metaOf_remove]
      split_ifs with hsame
      · rfl
      · exact hlast hk k' hk' fun hkms => hsame (hkms.trans hk.symm)
    · rw [metaOf_remove, if_neg (Ne.symm hk)]
      refine h.provider.imp_right fun hreaped => ⟨fun k' hk' => ?_, hcopy'⟩
      rw [metaOf_remove, hreaped.entries k' hk', ite_self]
  · rw [metaOf_remove]
    split_ifs with hk
    · exact .inr ⟨rfl, hcopy'⟩
    · exact h.object.imp_right fun hgone => ⟨hgone.1, hcopy'⟩

theorem step_secret_deleted {t : Secret} {resp : HttpResponse}
    (h : (step who (.secret t .delete) o x).1 = .ok resp) (hs : resp.status ∈ [200, 204, 404]) :
    (step who (.secret t .delete) o x).2.secrets t = none := by
  obtain hstep | ⟨f, _, hf, _⟩ := step_cases who (.secret t .delete) o x
  · rw [hstep]
    exact Function.update_self ..
  · exact absurd hs (httpFailed_status ((Option.some.inj hf).trans h))

theorem step_kmipDestroyed (h : (step who (.kmipDestroy e u) o x).1 = .ok () ∨
      (step who (.kmipDestroy e u) o x).1 = .error .notFound) :
    (step who (.kmipDestroy e u) o x).2.kmip e u = none := by
  obtain hstep | ⟨f, _, hf, _⟩ := step_cases who (.kmipDestroy e u) o x
  · rw [hstep]
    change (performDestroy e u x).2.kmip e u = none
    rw [performDestroy_state]
    exact setKmip_kmip_self
  · exact absurd h (fault_unsettled (Option.some.inj hf))

theorem copyGone_secret (hks : ks.Stores c path) :
    CopyGone ks s u x ↔ x.secrets (path s.image.inst s) = none := by
  cases hks with
  | vault v => rfl
  | azureKV v => rfl

theorem Reaping.secretDelete (hks : ks.Stores c path) (h : Reaping ks s κ u w x) (o : Outcome) :
    Reaping ks s κ u w (step who (.secret (path s.image.inst s) .delete) o x).2 := by
  have hspec : (path s.image.inst s).spec = s := by cases hks <;> rfl
  obtain ⟨hapart, himages⟩ := step_secret_apart who h.apart hspec .delete o
  refine h.drop himages hapart fun hcopy => ?_
  obtain hstate | hstate := step_state who (.secret (path s.image.inst s) .delete) o x
  · rwa [hstate]
  · rw [hstate, copyGone_secret hks]
    exact Function.update_self ..

theorem Reaping.kmipDestroy (h : Reaping (.kmip e) s κ u w x) (hu : u ≠ .empty) (o : Outcome) :
    Reaping (.kmip e) s κ u w (step who (.kmipDestroy e u) o x).2 := by
  obtain hstate | hstate := step_kmipDestroy who e u o x
  · rwa [hstate]
  · rw [hstate]
    refine h.drop rfl (h.apart.setKmip ⟨rfl, hu⟩ none (Nat.le_refl _)) fun _ _ => ?_
    exact setKmip_kmip_self

theorem secretDelete_reaps (hks : ks.Stores c path) :
    (c.deleteKey (path s.image.inst s)).Meets machine who (laterContract (Reaping ks s κ u w))
      (IfOk fun _ x => CopyGone ks s u x) a := by
  refine secretCommand_meets (fun x y hr hx => hx.alike (Later.alike hr)) fun x o hi _ => ?_
  refine ⟨trivial, Reaping.secretDelete hks hi o, fun resp hx hs => ?_⟩
  exact (copyGone_secret hks).mpr (step_secret_deleted hx hs)

theorem kmipDelete_reaps (ha : Reaping (.kmip e) s κ u w a) :
    (Kmip.deleteKey e s).Meets machine who (laterContract (Reaping (.kmip e) s κ u w))
      (IfOk fun _ x => CopyGone (.kmip e) s u x) a := by
  refine (reaping_keyMatter _ _ _ _ _).metaGet ?_ fun _ _ => trivial
  refine Meets.ite (fun hnone y hr _ => ?_) fun hsome => ?_
  · obtain hu | ⟨_, hgone⟩ := ha.object
    · exact fun hne => absurd (hu.symm.trans hnone) hne
    · exact hgone.alike (Later.alike hr)
  · obtain hu | ⟨hnone, _⟩ := ha.object
    · rw [hu] at hsome ⊢
      apply Meets.returns (P := fun r x => r = .ok () ∨ r = .error .notFound →
        CopyGone (.kmip e) s u x)
      · refine Meets.ask (fun r x y hr hx hreply => ?_) fun x o _ hi _ => ?_
        · exact (hx hreply).alike (Later.alike hr)
        · exact ⟨trivial, Reaping.kmipDestroy hi hsome o, fun h _ => step_kmipDestroyed h⟩
      · intro r x _ hx
        split
        · exact fun y hr _ => (hx (.inl rfl)).alike (Later.alike hr)
        · exact fun y hr _ => (hx (.inr rfl)).alike (Later.alike hr)
        · exact fun _ _ _ => trivial
    · exact absurd hnone hsome

theorem deleteKey_reaps (ha : Reaping ks s κ u w a) :
    (KeyService.deleteKey ks s.image.inst s).Meets machine who
      (laterContract (Reaping ks s κ u w)) (IfOk fun _ x => CopyGone ks s u x) a := by
  cases ks with
  | vault v => exact secretDelete_reaps (.vault v)
  | azureKV v => exact secretDelete_reaps (.azureKV v)
  | kmip e => exact kmipDelete_reaps ha
  | _ => exact fun _ _ _ => trivial

/-- The copy has gone, and of the entries at most `rest` are left. -/
def Removed (ks : KeyService) (s : Spec) (u : Text) (rest : List MetaKey) (x : World) : Prop :=
  CopyGone ks s u x ∧ ∀ k ∈ descriptorKeys, k ∉ rest → metaOf x s k = .empty

theorem Removed.alike (h : Removed ks s u rest x) (hy : Alike x y) :
    Removed ks s u rest y :=
  ⟨h.1.alike hy, fun k hk hrest => (hy.info _ _).trans (h.2 k hk hrest)⟩

theorem Removed.remove (h : Removed ks s u (k :: rest) x) :
    Removed ks s u rest (x.setMeta s.image ⟨k, s.snap⟩ .empty) := by
  refine ⟨h.1.congr setMeta_secrets setMeta_kmip, fun k' hk' hrest => ?_⟩
  rw [metaOf_remove]
  split_ifs with hk
  · rfl
  · exact h.2 k' hk' (by simp [hk, hrest])

theorem step_metaRemove (who : ℕ) (i : ImageRef) (q : QKey) (o : Outcome) (x : World) :
    (step who (.imageMetaRemove i q) o x).2 = x ∨
      (step who (.imageMetaRemove i q) o x).2 = x.setMeta i q .empty := by
  obtain h | h := step_state who (.imageMetaRemove i q) o x
  · exact .inl h
  · exact .inr (h.trans performMetaSet_state)

theorem step_metaRemoved {i : ImageRef} {q : QKey}
    (h : (step who (.imageMetaRemove i q) o x).1 = .ok () ∨
      (step who (.imageMetaRemove i q) o x).1 = .error .notFound) :
    (step who (.imageMetaRemove i q) o x).2 = x.setMeta i q .empty := by
  obtain hstep | ⟨f, _, hf, _⟩ := step_cases who (.imageMetaRemove i q) o x
  · rw [hstep]
    exact performMetaSet_state
  · exact absurd h (fault_unsettled (Option.some.inj hf))

theorem imageMetaRemove_reaps (ha : Removed ks s u (k :: rest) a) (hlast : k = .kmsID → rest = []) :
    (imageMetaRemove s k).Meets machine who (laterContract (Reaping ks s κ u w))
      (IfOk fun _ x => Removed ks s u rest x) a := by
  apply Meets.returns (P := fun r x => r = .ok () ∨ r = .error .notFound →
    Removed ks s u rest x)
  · refine Meets.ask (fun r x y hr hx hreply => ?_) fun x o hr hi _ => ?_
    · exact (hx hreply).alike (Later.alike hr)
    · have hx : Removed ks s u (k :: rest) x := ha.alike (Later.alike hr)
      have hothers : k = .kmsID → ∀ k' ∈ descriptorKeys, k' ≠ .kmsID → metaOf x s k' = .empty := by
        intro hk k' hk' hne
        refine hx.2 k' hk' ?_
        rw [hlast hk, hk, List.mem_singleton]
        exact hne
      have hinv : Reaping ks s κ u w (step who (.imageMetaRemove s.image ⟨k, s.snap⟩) o x).2 := by
        obtain h | h := step_metaRemove who s.image ⟨k, s.snap⟩ o x
        · rw [h]
          exact hi
        · rw [h]
          exact Reaping.remove hi hx.1 hothers
      exact ⟨trivial, hinv, fun hreply => (step_metaRemoved hreply).symm ▸ hx.remove⟩
  · intro r x _ hx
    split
    · exact fun y hr _ => (hx (.inl rfl)).alike (Later.alike hr)
    · exact fun y hr _ => (hx (.inr rfl)).alike (Later.alike hr)
    · exact fun _ _ _ => trivial

theorem removeDescriptor_reaps (front : List MetaKey) (hfront : .kmsID ∉ front)
    (ha : Removed ks s u (front ++ [.kmsID]) a) :
    (removeDescriptor s (front ++ [.kmsID])).Meets machine who
      (laterContract (Reaping ks s κ u w)) (IfOk fun _ x => Reaped ks s u x) a := by
  induction front generalizing a with
  | nil =>
    refine (imageMetaRemove_reaps ha fun _ => rfl).ends fun _ x _ hx y hr _ => ?_
    have hy := hx.alike (Later.alike hr)
    exact ⟨fun k hk => hy.2 k hk (List.not_mem_nil), hy.1⟩
  | cons k front ih =>
    have hk : k ≠ .kmsID := fun h => hfront (by simp [h])
    refine (imageMetaRemove_reaps ha fun h => absurd h hk).ends fun _ x _ hx => ?_
    exact ih (fun h => hfront (by simp [h])) hx

theorem deleteSnapshotKey_reaps {b : Backend} (hks : κ ≠ .empty → resolve b κ = .pure ks)
    (ha : Reaping ks s κ u w a) :
    (deleteSnapshotKey b s).Meets machine who (laterContract (Reaping ks s κ u w))
      (IfOk fun _ x => Reaped ks s u x) a := by
  refine (reaping_keyMatter _ _ _ _ _).metaGet ?_ fun _ _ => trivial
  refine Meets.ite (fun hnone y hr _ => ?_) fun hsome => ?_
  · obtain ⟨hne, hkms⟩ | hreaped := ha.provider
    · exact absurd (hkms.symm.trans hnone) hne
    · exact hreaped.alike (Later.alike hr)
  · obtain ⟨hne, hkms⟩ | hreaped := ha.provider
    · unfold Registry.deleteKey
      rw [hkms, hks hne]
      refine (deleteKey_reaps ha).ends fun _ x _ hx => ?_
      exact removeDescriptor_reaps [.wrappedDEK, .kmipUID, .kmipOwner, .keyID]
        (by decide) ⟨hx, fun k hk hrest => absurd hk hrest⟩
    · exact absurd (hreaped.entries .kmsID (by decide)) hsome

theorem deleteSnapshot_reaps {b : Backend} {secrets : Params}
    (hks : κ ≠ .empty → resolve b κ = .pure ks) (ha : Reaping ks s κ u w a) :
    (deleteSnapshot b ⟨s, secrets⟩).Meets machine who (laterContract (Reaping ks s κ u w))
      (IfOk fun _ x => Reaped ks s u x) a := by
  have hI := reaping_keyMatter ks s κ u w
  refine hI.keyless (cluster_uses b _) (fun cc x₁ hx₁ => ?_) fun _ _ => trivial
  refine hI.keyless ((connArgs_reads cc _ _).mono fun _ => keyless_of_reads) (fun _ x₂ hx₂ => ?_)
    fun _ _ => trivial
  refine hI.keyless (Uses.ask rfl) (fun r x₃ hx₃ => ?_) fun _ _ => trivial
  refine hI.keyless tolerating_uses (fun _ x₄ hx₄ => ?_) fun _ _ => trivial
  have hx : Alike a x₄ := ((hx₁.trans hx₂).trans hx₃).trans hx₄
  apply (deleteSnapshotKey_reaps hks (hI _ _ ha hx)).ends
  intro _ x₅ _ hx₅
  refine hI.keyless (Uses.ask rfl) (fun _ x₆ hx₆ y hr _ => ?_) fun _ _ => trivial
  exact hx₅.alike (hx₆.trans (Later.alike hr))

end Reaping

/-- A call that deletes a snapshot. The plugin may be restarted after it, which makes it forget
the names of the snapshots. -/
structure Deletion where
  who : ℕ
  secrets : Params
  outcomes : List (Outcome × Bool)
  restarts : Bool

def Deletion.exec (b : Backend) (s : Spec) (t : Deletion) (w : World) :
    World × Option (Except Err Unit) :=
  (tools.exec t.who (deleteSnapshot b ⟨s, t.secrets⟩) t.outcomes w).2

/-- The call misreads no failure. -/
def Deletion.Reads (b : Backend) (s : Spec) (t : Deletion) (w : World) : Prop :=
  TruthfulRun t.who (deleteSnapshot b ⟨s, t.secrets⟩) t.outcomes w

def Deletion.leaves (b : Backend) (s : Spec) (w : World) (t : Deletion) : World :=
  if t.restarts then { (t.exec b s w).1 with snapIndex := [], snapNames := [] }
  else (t.exec b s w).1

/-- What is left in `v` of a snapshot that was created between `w` and `x`: its entries, while
the volume has the object that it had or one that is newer than the snapshot. -/
structure Outlived (s : Spec) (w x v : World) : Prop where
  volume : (v.images s.image).isSome = true
  entries : ∀ k ∈ descriptorKeys, metaOf v s k = metaOf x s k
  object : metaOf v s.image.spec .kmipUID = metaOf w s.image.spec .kmipUID ∨
    Unborn x (metaOf v s.image.spec .kmipUID)

section Deletions

variable {b : Backend} {ks : KeyService} {s : Spec} {κ u : Text} {w x v a : World} {i : ImageRef}

theorem Deletion.exec_meets {t : Deletion} {K : Contract Cmd Outcome World}
    {Q : Except Err Unit → World → Prop} (hread : t.Reads b s a) (ha : K.inv a)
    (hassume : K.assume = fun _ _ _ => True)
    (h : (deleteSnapshot b ⟨s, t.secrets⟩).Meets machine t.who K Q a) :
    K.inv (t.exec b s a).1 ∧ ∀ r, (t.exec b s a).2 = some r → Q r (t.exec b s a).1 := by
  obtain ⟨os, hstop, _⟩ := Machine.exec_truthful t.outcomes hread
  unfold Deletion.exec
  rw [tools, ← hstop]
  exact (h.exec ha os fun _ _ => hassume ▸ trivial).2

theorem Reaping.exec (hks : κ ≠ .empty → resolve b κ = .pure ks) (h : Reaping ks s κ u w a)
    {t : Deletion} (hread : t.Reads b s a) :
    Reaping ks s κ u w (t.exec b s a).1 ∧
      ((t.exec b s a).2 = some (.ok ()) → Reaped ks s u (t.exec b s a).1) :=
  (Deletion.exec_meets hread h rfl (deleteSnapshot_reaps hks h)).imp_right fun hres => hres _

theorem Deletion.removes {t : Deletion} (hread : t.Reads b s a)
    (hdone : (t.exec b s a).2 = some (.ok ())) : SnapshotGone s (t.exec b s a).1 :=
  (Deletion.exec_meets hread trivial rfl deleteSnapshot_removes).2 _ hdone

theorem Reaping.leaves (hks : κ ≠ .empty → resolve b κ = .pure ks) (h : Reaping ks s κ u w a)
    {t : Deletion} (hread : t.Reads b s a) : Reaping ks s κ u w (t.leaves b s a) := by
  unfold Deletion.leaves
  split
  · exact reaping_keyMatter _ _ _ _ _ _ _ (h.exec hks hread).1 alike_index
  · exact (h.exec hks hread).1

theorem Captured.resolves (h : Captured b i s w x) :
    ∃ ks, resolve b (metaOf x s .kmsID) = .pure ks := by
  rw [h.provider]
  by_cases hκ : metaOf w i.spec .kmsID = .empty
  · rw [hκ]
    exact ⟨_, rfl⟩
  · obtain ⟨ks, hks, _⟩ := h.key hκ
    exact ⟨ks, hks⟩

theorem Captured.reaping (h : Captured b i s w x) (hv : Outlived s w x v)
    (hks : resolve b (metaOf v s .kmsID) = .pure ks) :
    Reaping ks s (metaOf v s .kmsID) (metaOf v s .kmipUID) v v := by
  refine ⟨.refl _ _ _, ?_, .inl rfl⟩
  by_cases hκ : metaOf v s .kmsID = .empty
  · have hplain : metaOf w i.spec .kmsID = .empty := by
      rw [← h.provider, ← hv.entries .kmsID (by decide), hκ]
    refine .inr ⟨fun k hk => (hv.entries k hk).trans (h.plain hplain k hk), ?_⟩
    rw [hκ] at hks
    obtain rfl : KeyService.derived b.encKeyDir = ks := by injection hks
    trivial
  · exact .inl ⟨hκ, rfl⟩

end Deletions

end BardCsi.Ceph
