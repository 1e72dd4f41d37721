import BardCsi.Ceph.Expand
import BardCsi.Ceph.Interrupted
import BardCsi.Ceph.Resolve
import BardCsi.Ceph.Tools

/-!
What a delete that fails leaves of the key. The key of a volume goes before its image, so a
volume whose image then cannot be removed has lost its key. This happens exactly to a volume
with a key in a store outside of its image, once the delete gets as far as the removal.
-/
namespace BardCsi.Ceph

open Effect Program

/-- The volume resolves `p` and stores nothing, given what the node is told. -/
def ResolvesTo (b : Backend) (vol : ImageRef) (kmsID keyID : Text) (secrets : Params) (p : Text)
    (w : World) : Prop :=
  ∀ E : Env, evalIn E (Registry.passphrase b vol.inst kmsID vol.spec keyID secrets) w = (.ok p, w)

/-- Providers that keep the keys of volumes in a store of their own. -/
def KeyService.external : KeyService → Bool
  | .vault _ | .azureKV _ | .kmip _ => true
  | .derived _ | .secretsMetadata | .awsKMS _ | .misconfigured _ => false

/-- The recorded provider of the volume has a key for it in a store of its own. -/
def Exposed (b : Backend) (vol : ImageRef) (w : World) : Prop :=
  metaOf w vol.spec .kmsID ≠ .empty ∧
    ∃ ks p, resolve b (metaOf w vol.spec .kmsID) = .pure ks ∧ ks.external = true ∧
      stored b ks vol.inst vol.spec w = some p

/-- The key of a volume that is still there is as it was. -/
def Unharmed (vol : ImageRef) (w a : World) : Prop :=
  (a.images vol).isSome = true → KeysKept vol w a

section ResolvesTo

variable {b : Backend} {vol : ImageRef} {kmsID keyID p : Text} {secrets : Params} {w a : World}

theorem resolvesTo_iff : ResolvesTo b vol kmsID keyID secrets p w ↔
    resolved b vol.inst kmsID vol.spec keyID secrets w = some p :=
  ⟨fun h => resolved_iff.mp (h ⟨0, fun _ _ => 0⟩), fun h _ => resolved_iff.mpr h⟩

theorem Unharmed.resolvesTo (h : Unharmed vol w a) (ha : (a.images vol).isSome = true)
    (hp : ResolvesTo b vol kmsID keyID secrets p w) : ResolvesTo b vol kmsID keyID secrets p a := by
  rw [resolvesTo_iff] at hp ⊢
  rw [(h ha).resolved]
  exact hp

theorem unharmed_refl : Unharmed vol w w := fun h => .refl h

theorem unharmed_seqFree : SeqFree (Unharmed vol w) := by
  intro a n h ha
  obtain ⟨h₁, h₂, h₃, h₄, h₅⟩ := h ha
  exact ⟨h₁, h₂, h₃, h₄, h₅⟩

end ResolvesTo

section Delete

variable {b : Backend} {vol : ImageRef} {w a : World} {who : ℕ} {c : Cmd} {s : Secret}

theorem held_drop {f g : Secret → Option Text} {t : Secret} (hs : held (g s) = none)
    (h : held (f t) = held (g t)) : held (Function.update f s none t) = held (g t) := by
  by_cases hts : t = s
  · subst hts
    rw [Function.update_self, hs]
    rfl
  · rw [Function.update_of_ne hts]
    exact h

theorem Unharmed.dropSecret (h : Unharmed vol w a) (hs : held (w.secrets s) = none) :
    Unharmed vol w (a.putSecret s none) := by
  intro ha
  obtain ⟨h₁, h₂, h₃, h₄, h₅⟩ := h ha
  exact ⟨h₁, h₂, fun t ht => held_drop hs (h₃ t ht), h₄, h₅⟩

theorem Unharmed.dropKmip (h : Unharmed vol w a) {e : String}
    (hs : w.kmip e (metaOf w vol.spec .kmipUID) = none) :
    Unharmed vol w (a.setKmip e (metaOf w vol.spec .kmipUID) none) := by
  intro ha
  obtain ⟨h₁, h₂, h₃, h₄, h₅⟩ := h ha
  refine ⟨h₁, h₂, h₃, fun e' => ?_, h₅⟩
  by_cases he : e' = e
  · subst he
    rw [setKmip_kmip_self, hs]
  · rw [← h₄ e']
    simp [World.setKmip, Function.update_of_ne he]

theorem performDestroy_state (e : String) (u : Text) :
    (performDestroy e u w).2 = w.setKmip e u none := by
  unfold performDestroy
  cases hu : w.kmip e u with
  | none => exact (setKmip_none_of_none e hu).symm
  | some p => rfl

theorem unharmed_only {α : Type} {p : Prog α} (hp : p.Uses fun c' => c' = c)
    (hstep : ∀ pick a, Unharmed vol w a → Unharmed vol w (perform who pick c a).2) :
    p.Meets machine who (soleContract (Unharmed vol w)) (fun _ _ => True) a := by
  refine uses_meets (P := fun _ => True) hp (fun _ _ h => h) trivial ?_
  rintro c' o a' hc hi _
  subst hc
  refine ⟨?_, trivial⟩
  obtain h | h := step_state who c' o a'
  · rwa [h]
  · rw [h]
    exact hstep o.pick a' hi

section Secrets

variable {ks : KeyService} {client : SecretClient} {path : String → Spec → Secret}

theorem secretDelete_unharmed (hks : ks.Stores client path)
    (h : stored b ks vol.inst vol.spec w = none) :
    (client.deleteKey (path vol.inst vol.spec)).Meets machine who
      (soleContract (Unharmed vol w)) (fun _ _ => True) a := by
  apply unharmed_only (c := .secret (path vol.inst vol.spec) .delete)
  · exact secretCommand_uses (by rfl) _
  · exact fun _ _ ha => ha.dropSecret ((hks.stored b vol.inst vol.spec w).symm.trans h)

theorem secretDelete_exposed {E : Env} {p : Text} (hks : ks.Stores client path)
    (hp : stored b ks vol.inst vol.spec w = some p) :
    ∃ w', evalIn E (client.deleteKey (path vol.inst vol.spec)) w = (.ok (), w') ∧
      w'.images = w.images ∧ ∃ p, stored b ks vol.inst vol.spec w = some p ∧
        ¬stored b ks vol.inst vol.spec w' = some p := by
  refine ⟨_, eval_secretDelete client _, rfl, p, hp, ?_⟩
  rw [hks.stored]
  simp [World.putSecret, held]

end Secrets

theorem registryDelete_unharmed (hne : metaOf w vol.spec .kmsID ≠ .empty)
    (hsafe : ¬Exposed b vol w) :
    (Registry.deleteKey b vol.inst (metaOf w vol.spec .kmsID) vol.spec).Meets machine who
      (soleContract (Unharmed vol w)) (fun _ _ => True) w := by
  obtain ⟨ks, hks⟩ | ⟨e, he⟩ := resolve_cases b (metaOf w vol.spec .kmsID)
  swap
  · unfold Registry.deleteKey
    rw [he]
    exact fun _ _ _ => trivial
  have hstored : ks.external = true → stored b ks vol.inst vol.spec w = none := by
    intro hext
    by_contra hsome
    obtain ⟨p, hp⟩ := Option.ne_none_iff_exists'.mp hsome
    exact hsafe ⟨hne, ks, p, hks, hext, hp⟩
  unfold Registry.deleteKey
  rw [hks]
  change (KeyService.deleteKey ks vol.inst vol.spec).Meets machine who _ _ w
  cases ks with
  | vault v => exact secretDelete_unharmed (.vault v) (hstored rfl)
  | azureKV v => exact secretDelete_unharmed (.azureKV v) (hstored rfl)
  | kmip e =>
    apply imageMetaGetChecked_meets machine_answers (soleContract_reads unharmed_seqFree)
    · rintro _ ⟨n, rfl⟩ _
      change (if metaOf w vol.spec .kmipUID = .empty then _ else _ : Prog Unit).Meets _ _ _ _ _
      refine Meets.ite (fun _ _ _ _ => trivial) fun hu => ?_
      refine unharmed_only (kmipDestroy_uses rfl) fun _ a h => ?_
      change Unharmed vol w (performDestroy e _ a).2
      rw [performDestroy_state]
      apply h.dropKmip
      have := hstored rfl
      rwa [stored, decode,
        if_neg (show slot (.kmip e) vol.inst vol.spec w ≠ .empty from hu)] at this
    · exact fun _ e _ _ => soleContract_fail e
  | derived d => exact fun _ _ _ => trivial
  | secretsMetadata => exact fun _ _ _ => trivial
  | awsKMS k => exact fun _ _ _ => trivial
  | misconfigured m => exact fun _ _ _ => trivial

theorem eval_registryDelete_exposed {E : Env} (hexp : Exposed b vol w) :
    ∃ w', evalIn E (Registry.deleteKey b vol.inst (metaOf w vol.spec .kmsID) vol.spec) w =
        (.ok (), w') ∧ w'.images = w.images ∧
      ∃ p, ResolvesTo b vol (metaOf w vol.spec .kmsID) .empty noSecrets p w ∧
        ¬ResolvesTo b vol (metaOf w vol.spec .kmsID) .empty noSecrets p w' := by
  obtain ⟨_, ks, p, hks, hext, hp⟩ := hexp
  generalize metaOf w vol.spec .kmsID = κ at hks ⊢
  have hresolves : ∀ a q, ResolvesTo b vol κ .empty noSecrets q a ↔
      known b ks vol.inst vol.spec .empty a = some q := by
    intro a q
    rw [resolvesTo_iff, resolved, if_neg (fun h => h rfl), hks]
    rfl
  have hdelete : Registry.deleteKey b vol.inst κ vol.spec =
      KeyService.deleteKey ks vol.inst vol.spec := by
    unfold Registry.deleteKey
    rw [hks]
    rfl
  simp only [hresolves, hdelete]
  cases ks with
  | vault v => exact secretDelete_exposed (.vault v) hp
  | azureKV v => exact secretDelete_exposed (.azureKV v) hp
  | kmip e =>
    have hu : metaOf w vol.spec .kmipUID ≠ .empty := slot_ne_empty hp
    refine ⟨w.setKmip e (metaOf w vol.spec .kmipUID) none, ?_, rfl, p, hp, ?_⟩
    · refine (eval_bind_of (eval_imageMetaGetChecked vol.spec .kmipUID)).trans ?_
      rw [if_neg hu]
      exact eval_kmipDestroy e _
    · intro hp'
      have hobject := object_of_stored (b := b) hp'
      rw [show slot (.kmip e) vol.inst vol.spec (w.setKmip e _ none) =
        metaOf w vol.spec .kmipUID from rfl, setKmip_kmip_self] at hobject
      cases hobject
  | derived d => cases hext
  | secretsMetadata => cases hext
  | awsKMS k => cases hext
  | misconfigured m => cases hext

end Delete

section Volume

variable {b : Backend} {req : DeleteVolumeRequest} {w a : World} {who : ℕ} {vol : ImageRef}

/-- The delete gets as far as the removal of the image and takes a key away before. -/
def DeletesKey (b : Backend) (req : DeleteVolumeRequest) (w : World) : Prop :=
  (b.clusters req.volume.inst).isSome = true ∧ metaOf w req.volume.spec .static ≠ .lit "true" ∧
    (∀ im, w.images req.volume = some im → im.snaps = []) ∧ Exposed b req.volume w

/-- Requests that only remove the image. -/
def Cmd.removing (vol : ImageRef) : Cmd → Prop
  | .rbdRm j => j = vol
  | .rbdChildren _ | .backgroundFlatten _ _ => True
  | _ => False

theorem performRm_state (pick : ℕ) (vol : ImageRef) :
    (performRm pick vol a).2 = a ∨
      (performRm pick vol a).2 = { a with images := Function.update a.images vol none } := by
  unfold performRm onImage
  cases a.images vol with
  | none => exact .inl rfl
  | some im =>
    dsimp only
    split_ifs
    · exact .inl rfl
    · exact .inl rfl
    · exact .inl rfl
    · exact .inr rfl

theorem removing_unharmed {c : Cmd} (hc : c.removing vol) (o : Outcome) (ha : Unharmed vol w a) :
    Unharmed vol w (step who c o a).2 := by
  obtain h | h := step_state who c o a
  · rwa [h]
  rw [h]
  cases c with
  | rbdRm j =>
    obtain rfl : j = vol := hc
    obtain h | h := performRm_state o.pick j (a := a)
    · rwa [show (perform who o.pick (.rbdRm j) a).2 = _ from h]
    · rw [show (perform who o.pick (.rbdRm j) a).2 = _ from h]
      intro hsome
      simp at hsome
  | rbdChildren j => exact ha
  | backgroundFlatten j d => exact ha
  | _ => exact hc.elim

theorem removeImage_unharmed : (removeImage vol).Meets machine who
    (soleContract (Unharmed vol w)) (fun _ _ => True) a := by
  have hu : (removeImage vol).Uses (Cmd.removing vol) :=
    removeImage_uses rfl trivial fun _ _ => trivial
  exact uses_meets (P := fun _ => True) hu (fun _ _ h => h) trivial fun c o a hc hi _ =>
    ⟨removing_unharmed hc o hi, trivial⟩

theorem listSnaps_unharmed {α : Type} {im : Image} {f : List ObjectName → Prog α}
    (him : w.images vol = some im)
    (hf : ∀ n, (f (im.snaps.map Prod.fst)).Meets machine who (soleContract (Unharmed vol w))
      (fun _ _ => True) { w with seq := n }) :
    ((listSnaps vol).bind f).Meets machine who (soleContract (Unharmed vol w))
      (fun _ _ => True) w := by
  apply Meets.quiet (soleContract_reads unharmed_seqFree _ rfl)
  rintro _ ⟨n, rfl⟩ _ o _
  obtain h | ⟨fault, _, hreply, _⟩ := step_cases who (.rbdSnapLs vol) o { w with seq := n }
  · have hperform : (perform who o.pick (.rbdSnapLs vol) { w with seq := n }).1 =
        .ok (im.snaps.map Prod.fst) := by
      change (onImage vol { w with seq := n } _).1 = _
      rw [onImage, show World.images { w with seq := n } vol = some im from him]
    rw [show machine.step who (.rbdSnapLs vol) o { w with seq := n } = _ from h, hperform]
    exact hf n
  · rw [show (machine.step who (.rbdSnapLs vol) o { w with seq := n }).1 = _ from
      (Option.some.inj hreply).symm]
    cases fault with
    | error e => exact fun _ _ _ => trivial
    | status s => exact fun _ _ _ => trivial

theorem exists_image_of_meta {i : ImageRef} {k : MetaKey} (h : metaOf w i.spec k ≠ .empty) :
    ∃ im, w.images i = some im := by
  refine Option.ne_none_iff_exists'.mp fun hnone => h ?_
  change metaAt w i _ = _
  rw [metaAt, hnone]

theorem deleteVolumeKey_unharmed
    (hsafe : (∀ im, w.images req.volume = some im → im.snaps = []) → ¬Exposed b req.volume w) :
    (deleteVolumeKey b req.volume).Meets machine who (soleContract (Unharmed req.volume w))
      (fun _ _ => True) w := by
  apply imageMetaGetChecked_meets machine_answers (soleContract_reads unharmed_seqFree)
  · rintro _ ⟨n, rfl⟩ _
    change (if metaOf w req.volume.spec .kmsID = .empty then _ else _ : Prog Unit).Meets _ _ _ _ _
    refine Meets.ite (fun _ _ _ _ => trivial) fun hne => ?_
    obtain ⟨im, him⟩ := exists_image_of_meta hne
    refine Meets.rely (s := w) ?_ ⟨n, rfl⟩
    refine listSnaps_unharmed him fun m => ?_
    refine Meets.ite (fun _ _ _ _ => trivial) fun hsnaps => ?_
    refine Meets.rely (s := w) ?_ ⟨m, rfl⟩
    apply registryDelete_unharmed hne
    apply hsafe
    intro im' him'
    obtain rfl := Option.some.inj (him.symm.trans him')
    simpa using hsnaps
  · exact fun _ e _ _ => soleContract_fail e

theorem deleteVolume_unharmed (hsafe : ¬DeletesKey b req w) :
    (deleteVolume b req).Meets machine who (soleContract (Unharmed req.volume w))
      (fun _ _ => True) w := by
  obtain ⟨cc, hcc, hpure⟩ | ⟨e, hfail⟩ := eval_cluster b req.volume.inst
  swap
  · unfold deleteVolume
    rw [hfail]
    exact fun _ _ _ => trivial
  unfold deleteVolume
  rw [hpure]
  apply sole_reads_then unharmed_seqFree (connArgs_reads cc _ _)
  intro _ n _
  refine Meets.rely (s := w) ?_ ⟨n, rfl⟩
  apply imageMetaGetChecked_meets machine_answers (soleContract_reads unharmed_seqFree)
  · rintro _ ⟨m, rfl⟩ _
    change (if metaOf w req.volume.spec .static = .lit "true" then _ else _ : Prog Unit).Meets
      _ _ _ _ _
    refine Meets.ite (fun _ _ _ _ => trivial) fun hstatic => ?_
    refine Meets.rely (s := w) ?_ ⟨m, rfl⟩
    apply Meets.andThen (deleteVolumeKey_unharmed fun hsnaps hexp => ?_)
    · exact fun _ _ _ _ => removeImage_unharmed
    · exact fun _ _ _ _ => trivial
    · exact hsafe ⟨by rw [hcc]; rfl, hstatic, hsnaps, hexp⟩
  · exact fun _ e _ _ => soleContract_fail e

/-- Every image that could be removed has clones that still hang on it. -/
def linked : Env := ⟨0, fun _ _ => 1⟩

theorem eval_removeImage_linked (hw : (w.images vol).isSome = true) :
    ∃ e, evalIn linked (removeImage vol) w = (.error e, w) := by
  obtain ⟨im, him⟩ := Option.isSome_iff_exists.mp hw
  have hrefused : alone linked (.rbdRm vol) w = (.error .linkedClones, w) ∨
      ∃ t, alone linked (.rbdRm vol) w = (.error (.other t), w) := by
    change performRm 1 vol w = _ ∨ ∃ t, performRm 1 vol w = _
    unfold performRm onImage
    rw [him]
    dsimp only
    split_ifs with hsnaps hwatched hpick
    · exact .inr ⟨_, rfl⟩
    · exact .inr ⟨_, rfl⟩
    · exact .inl rfl
    · exact absurd Nat.one_ne_zero hpick
  obtain h | ⟨t, h⟩ := hrefused
  · exact ⟨_, eval_run h⟩
  · exact ⟨_, eval_run h⟩

theorem eval_listSnaps {E : Env} {im : Image} (him : w.images vol = some im) :
    evalIn E (listSnaps vol) w = (.ok (im.snaps.map Prod.fst), w) := by
  have hstep : alone E (.rbdSnapLs vol) w = (.ok (im.snaps.map Prod.fst), w) := by
    change onImage vol w _ = _
    rw [onImage, him]
    rfl
  exact eval_run hstep

theorem eval_deleteVolume_linked (h : DeletesKey b req w) :
    ∃ e w', evalIn linked (deleteVolume b req) w = (.error e, w') ∧ w'.images = w.images ∧
      (w.images req.volume).isSome = true ∧ ∃ κ p,
        ResolvesTo b req.volume κ .empty noSecrets p w ∧
        ¬ResolvesTo b req.volume κ .empty noSecrets p w' := by
  obtain ⟨hcluster, hstatic, hsnaps, hexp⟩ := h
  obtain ⟨cc, hcc⟩ := Option.isSome_iff_exists.mp hcluster
  have hpure : cluster b req.volume.inst = .pure cc := by rw [cluster, clusterFor, hcc]
  have hne := hexp.1
  obtain ⟨im, him⟩ := exists_image_of_meta hne
  obtain ⟨w', hdelete, himages, p, hp, hp'⟩ := eval_registryDelete_exposed (E := linked) hexp
  have hkey : evalIn linked (deleteVolumeKey b req.volume) w = (.ok (), w') := by
    refine (eval_bind_of (eval_imageMetaGetChecked req.volume.spec .kmsID)).trans ?_
    rw [if_neg hne]
    refine (eval_bind_of (eval_listSnaps him)).trans ?_
    rw [hsnaps im him, if_neg (fun h => h rfl)]
    exact hdelete
  obtain ⟨e, hrm⟩ := eval_removeImage_linked (w := w')
    (by rw [himages, him]; rfl)
  refine ⟨e, w', ?_, himages, by rw [him]; rfl, _, p, hp, hp'⟩
  unfold deleteVolume
  rw [hpure]
  refine (eval_bind_of (eval_connArgs cc _ _)).trans ?_
  refine (eval_bind_of (eval_imageMetaGetChecked req.volume.spec .static)).trans ?_
  rw [if_neg hstatic]
  exact (eval_bind_of hkey).trans hrm

/-- However the delete `p` of a volume fails without misreading a failure, a volume that is still
there resolves what it resolved before. -/
def FailureKeepsKey {ι : Type} {ρ : ι → Type} (M : Machine ι ρ ℕ Outcome World)
    (misread : (c : ι) → Option (ρ c)) (p : Program ι ρ Err Unit) (b : Backend) (vol : ImageRef)
    (w : World) : Prop :=
  ∀ who xs e w', M.TruthfulRun misread who p xs w →
    ((M.misreading misread).exec who p xs w).2 = (w', some (.error e)) →
    (w'.images vol).isSome = true →
    ∀ kmsID keyID secrets pass, ResolvesTo b vol kmsID keyID secrets pass w →
      ResolvesTo b vol kmsID keyID secrets pass w'

section Failure

variable {ι : Type} {ρ : ι → Type} {M : Machine ι ρ ℕ Outcome World}
variable {misread : (c : ι) → Option (ρ c)} {p : Program ι ρ Err Unit}

theorem failureKeepsKey_of (h : ∀ who os, Unharmed vol w (M.exec who p os w).2.1) :
    FailureKeepsKey M misread p b vol w := by
  intro who xs e w' htrue hrun hpresent kmsID keyID secrets pass hpass
  obtain ⟨os, hstop, _⟩ := Machine.exec_truthful xs htrue
  have hunharmed := h who os
  rw [hstop.trans hrun] at hunharmed
  exact hunharmed.resolvesTo hpresent hpass

theorem FailureKeepsKey.read {e : Err} {w' : World} {os : List Outcome}
    (h : FailureKeepsKey M misread p b vol w) (hrun : (M.exec who p os w).2 = (w', some (.error e)))
    (hpresent : (w'.images vol).isSome = true) {kmsID keyID : Text} {secrets : Params} {pass : Text}
    (hpass : ResolvesTo b vol kmsID keyID secrets pass w) :
    ResolvesTo b vol kmsID keyID secrets pass w' := by
  obtain ⟨xs, htrue, hstop⟩ := Machine.exists_read misread os
  exact h who xs e w' htrue (hstop.trans hrun) hpresent _ _ _ _ hpass

end Failure

theorem deleteVolume_keeps_key_iff :
    FailureKeepsKey machine Cmd.misread (deleteVolume b req) b req.volume w ↔
      ¬DeletesKey b req w := by
  constructor
  · intro hkeeps hdeletes
    obtain ⟨e, w', heval, himages, hpresent, κ, p, hp, hp'⟩ := eval_deleteVolume_linked hdeletes
    rw [evalIn, alone_answers] at heval
    have hrun := Program.exec_choices machine linked.who
      (fun c w => ⟨none, false, linked.pick c w⟩) (deleteVolume b req) w
    rw [heval] at hrun
    exact hp' (hkeeps.read hrun (himages ▸ hpresent) hp)
  · intro hsafe
    exact failureKeepsKey_of fun who os =>
      ((deleteVolume_unharmed hsafe).exec unharmed_refl os fun _ _ => trivial).2.1

end Volume

end BardCsi.Ceph
