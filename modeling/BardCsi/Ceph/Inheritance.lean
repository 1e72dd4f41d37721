import BardCsi.Ceph.Evaluate
import BardCsi.Ceph.Volumes

/-!
Whether a clone can take over the key of its source. The answer depends on what the source
records, on what the clone has or will get when it is cloned, and on the key stores. A run
without failures takes over the key exactly if this is so.
-/
namespace BardCsi.Ceph

open Effect Program

/-- The first of two values that is not empty. -/
def firstOf (x y : Text) : Text := if x ≠ .empty then x else y

section Ready

variable (b : Backend) (inst : String) (snapshot : Option Spec) (S i : ImageRef) (w : World)

/-- The object whose descriptor a clone takes over. -/
def keySource : Spec :=
  match snapshot with
  | none => S.spec
  | some s => if metaOf w s .kmsID ≠ .empty then s else S.spec

/-- What the clone `i` has, or what it will have once it is cloned from the image `S`. -/
def cloneMeta (k : MetaKey) : Text :=
  if (w.images i).isSome then metaOf w i.spec k else metaOf w S.spec k

/-- The provider that a clone takes over. -/
def cloneKMS (src : Spec) : Text :=
  if src.snap.isSome then firstOf (metaOf w src .kmsID) (cloneMeta S i w .kmsID)
  else firstOf (cloneMeta S i w .kmsID) (metaOf w src .kmsID)

/-- The provider can copy the key of `src` to the clone. -/
def Copies (src : Spec) : KeyService → Prop
  | .vault v => held (w.secrets (Vault.secretPath v inst src)) = none ∨
      w.secrets (Vault.secretPath v inst i.spec) = none ∨
      held (w.secrets (Vault.secretPath v inst i.spec)) =
        held (w.secrets (Vault.secretPath v inst src))
  | .kmip e => metaOf w src .kmipUID = .empty ∨ cloneMeta S i w .kmipOwner = .spec i.spec ∨
      (w.kmip e (metaOf w src .kmipUID)).isSome = true
  | _ => True

/-- The clone can take over the key of `src`. -/
def CanInherit (src : Spec) : Prop :=
  cloneKMS S i w src = .empty ∨
    ∃ ks, resolve b (cloneKMS S i w src) = .pure ks ∧ Copies inst S i w src ks

def Inheritable : Prop := CanInherit b inst S i w (keySource snapshot S w)

end Ready

def MetaKey.inherits : MetaKey → Bool
  | .kmsID | .kmipUID | .kmipOwner => true
  | _ => false

/-- Two worlds with the same answer. -/
structure SameKeys (S i : ImageRef) (w w' : World) : Prop where
  source : ∀ q : QKey, q.key.inherits = true → metaAt w' S q = metaAt w S q
  clone : ∀ k : MetaKey, k.inherits = true → cloneMeta S i w' k = cloneMeta S i w k
  secrets : w'.secrets = w.secrets
  kmip : w'.kmip = w.kmip

section SameKeys

variable {b : Backend} {inst : String} {snapshot : Option Spec} {S i : ImageRef} {w w' : World}

theorem SameKeys.refl (S i : ImageRef) (w : World) : SameKeys S i w w :=
  ⟨fun _ _ => rfl, fun _ _ => rfl, rfl, rfl⟩

theorem SameKeys.trans {w₁ w₂ w₃ : World} (h : SameKeys S i w₁ w₂) (h' : SameKeys S i w₂ w₃) :
    SameKeys S i w₁ w₃ where
  source q hq := (h'.source q hq).trans (h.source q hq)
  clone k hk := (h'.clone k hk).trans (h.clone k hk)
  secrets := h'.secrets.trans h.secrets
  kmip := h'.kmip.trans h.kmip

theorem keySource_image (hsnap : ∀ s ∈ snapshot, s.image = S) :
    (keySource snapshot S w).image = S := by
  cases snapshot with
  | none => rfl
  | some s =>
    unfold keySource
    dsimp only
    split
    · exact hsnap s rfl
    · rfl

theorem SameKeys.metaOf (h : SameKeys S i w w') {s : Spec} (hs : s.image = S) {k : MetaKey}
    (hk : k.inherits = true) : metaOf w' s k = metaOf w s k := by
  subst hs
  exact h.source ⟨k, s.snap⟩ hk

theorem SameKeys.keySource (h : SameKeys S i w w') (hsnap : ∀ s ∈ snapshot, s.image = S) :
    keySource snapshot S w' = keySource snapshot S w := by
  cases snapshot with
  | none => rfl
  | some s =>
    unfold Ceph.keySource
    dsimp only
    rw [h.metaOf (hsnap s rfl) rfl]

theorem SameKeys.cloneKMS (h : SameKeys S i w w') {src : Spec} (hsrc : src.image = S) :
    cloneKMS S i w' src = cloneKMS S i w src := by
  unfold Ceph.cloneKMS
  rw [h.metaOf hsrc rfl, h.clone .kmsID rfl]

theorem SameKeys.copies (h : SameKeys S i w w') {src : Spec} (hsrc : src.image = S)
    (ks : KeyService) : Copies inst S i w' src ks ↔ Copies inst S i w src ks := by
  cases ks with
  | vault v => simp only [Copies, h.secrets]
  | kmip e => simp only [Copies, h.kmip, h.metaOf hsrc (k := .kmipUID) rfl, h.clone .kmipOwner rfl]
  | _ => exact Iff.rfl

theorem SameKeys.inheritable (h : SameKeys S i w w') (hsnap : ∀ s ∈ snapshot, s.image = S) :
    Inheritable b inst snapshot S i w' ↔ Inheritable b inst snapshot S i w := by
  have hsrc := keySource_image (w := w) hsnap
  unfold Inheritable CanInherit
  rw [h.keySource hsnap, h.cloneKMS hsrc]
  simp only [h.copies hsrc]

end SameKeys

section Eval

variable {E : Env} {b : Backend} {inst : String} {S i : ImageRef} {w : World} {src : Spec}

theorem eval_inherited (first second : Spec) (k : MetaKey) :
    evalIn E (inherited first second k) w =
      (.ok (firstOf (metaOf w first k) (metaOf w second k)), w) := by
  refine (eval_bind_of (eval_imageMetaGetChecked first k)).trans ?_
  unfold firstOf
  split
  · rfl
  · exact eval_imageMetaGetChecked second k

theorem sameKeys_setMeta (hw : (w.images i).isSome = true) {q : QKey} {v : Text}
    (hq : q.key.inherits = false) : SameKeys S i w (w.setMeta i q v) where
  source r hr := by
    apply metaAt_setMeta_of_ne
    right
    rintro rfl
    rw [hq] at hr
    cases hr
  clone k hk := by
    unfold cloneMeta
    rw [setMeta_isSome, hw]
    apply metaAt_setMeta_of_ne
    right
    rintro rfl
    rw [hq] at hk
    cases hk
  secrets := setMeta_secrets
  kmip := setMeta_kmip

theorem metaOf_setMeta_of_key {s : Spec} {j : ImageRef} {q : QKey} {v : Text} {k : MetaKey}
    (hk : k ≠ q.key) : metaOf (w.setMeta j q v) s k = metaOf w s k :=
  metaAt_setMeta_of_ne (.inr fun h => hk (h ▸ rfl))

theorem cloneMeta_present (hw : (w.images i).isSome = true) (k : MetaKey) :
    cloneMeta S i w k = metaOf w i.spec k := if_pos hw

theorem copies_setKMS (hw : (w.images i).isSome = true) (v : Text) (ks : KeyService) :
    Copies inst S i (w.setMeta i ⟨.kmsID, none⟩ v) src ks ↔ Copies inst S i w src ks := by
  cases ks with
  | vault c => simp only [Copies, setMeta_secrets]
  | kmip e =>
    simp only [Copies, setMeta_kmip]
    rw [metaOf_setMeta_of_key (by decide), cloneMeta_present (by rw [setMeta_isSome, hw]),
      cloneMeta_present hw, metaOf_setMeta_of_key (by decide)]
  | _ => exact Iff.rfl

theorem eval_cloneKey_ok_iff (hw : (w.images i).isSome = true) (ks : KeyService) :
    (∃ w', evalIn E (KeyService.cloneKey ks inst src i.spec) w = (.ok (), w')) ↔
      Copies inst S i w src ks := by
  cases ks with
  | vault v =>
    cases hsrc : held (w.secrets (Vault.secretPath v inst src)) with
    | none => exact iff_of_true ⟨w, eval_vaultClone_none v inst src i.spec hsrc⟩ (.inl hsrc)
    | some p =>
      cases hclone : w.secrets (Vault.secretPath v inst i.spec) with
      | none =>
        exact iff_of_true ⟨_, eval_vaultClone_new v inst src i.spec hsrc hclone⟩
          (.inr (.inl hclone))
      | some c =>
        obtain ⟨r, heval, hr⟩ := eval_vaultClone_taken (E := E) v inst src i.spec hsrc
          (by rw [hclone]; rfl)
        simp only [Copies, hsrc, hclone] at hr ⊢
        constructor
        · rintro ⟨w', h⟩
          rw [show KeyService.cloneKey (.vault v) inst src i.spec =
            Vault.cloneKey v inst src i.spec from rfl, heval] at h
          exact .inr (.inr (hr.mp (Prod.mk.inj h).1))
        · rintro (h | h | h)
          · cases h
          · cases h
          · exact ⟨w, heval.trans (by rw [hr.mpr h])⟩
  | azureKV a =>
    refine iff_of_true ?_ trivial
    cases hsrc : held (w.secrets (AzureKV.secretName a inst src)) with
    | none => exact ⟨w, eval_azureClone_none a inst src i.spec hsrc⟩
    | some p => exact ⟨_, eval_azureClone_some a inst src i.spec hsrc⟩
  | kmip e =>
    simp only [Copies]
    rw [cloneMeta_present hw]
    by_cases hu : metaOf w src .kmipUID = .empty
    · exact iff_of_true ⟨w, eval_kmipClone_kept e src i.spec (.inl hu)⟩ (.inl hu)
    by_cases ho : metaOf w i.spec .kmipOwner = .spec i.spec
    · exact iff_of_true ⟨w, eval_kmipClone_kept e src i.spec (.inr ho)⟩ (.inr (.inl ho))
    cases hp : w.kmip e (metaOf w src .kmipUID) with
    | some p => exact iff_of_true ⟨_, eval_kmipClone_new e src i.spec hw hu ho hp⟩ (.inr (.inr rfl))
    | none =>
      obtain ⟨err, h⟩ := eval_kmipClone_missing (E := E) e src i.spec hu ho hp
      refine iff_of_false ?_ (by simp [hu, ho])
      rintro ⟨w', h'⟩
      cases h.symm.trans h'
  | derived dir => exact iff_of_true ⟨w, rfl⟩ trivial
  | secretsMetadata => exact iff_of_true ⟨w, rfl⟩ trivial
  | awsKMS key => exact iff_of_true ⟨w, rfl⟩ trivial
  | misconfigured msg => exact iff_of_true ⟨w, rfl⟩ trivial

/-- What the clone has recorded before its key is copied. -/
def recorded (i : ImageRef) (w : World) (keyID kmsID dek : Text) : World :=
  let w₁ := w.setMeta i ⟨.keyID, none⟩ keyID
  let w₂ := if kmsID ≠ .empty then w₁.setMeta i ⟨.kmsID, none⟩ kmsID else w₁
  if dek ≠ .empty then w₂.setMeta i ⟨.wrappedDEK, none⟩ dek else w₂

theorem recorded_present (keyID kmsID dek : Text) :
    ((recorded i w keyID kmsID dek).images i).isSome = (w.images i).isSome := by
  unfold recorded
  dsimp only
  split_ifs
  all_goals simp only [setMeta_isSome]

theorem eval_imageMetaSetNonEmpty (hw : (w.images i).isSome = true) (k : MetaKey) (v : Text) :
    evalIn E (imageMetaSetNonEmpty i.spec k v) w =
      (.ok (), if v ≠ .empty then w.setMeta i ⟨k, none⟩ v else w) := by
  unfold imageMetaSetNonEmpty
  split
  · exact eval_imageMetaSet k v hw
  · rfl

theorem copies_recorded (hw : (w.images i).isSome = true) (keyID kmsID dek : Text)
    (hsrc : src.image = S) (ks : KeyService) :
    Copies inst S i (recorded i w keyID kmsID dek) src ks ↔ Copies inst S i w src ks := by
  have hkey := sameKeys_setMeta (S := S) (q := ⟨.keyID, none⟩) (v := keyID) hw rfl
  have hw₁ : ((w.setMeta i ⟨.keyID, none⟩ keyID).images i).isSome = true := by
    rw [setMeta_isSome, hw]
  have hkms : Copies inst S i ((w.setMeta i ⟨.keyID, none⟩ keyID).setMeta i ⟨.kmsID, none⟩ kmsID)
      src ks ↔ Copies inst S i (w.setMeta i ⟨.keyID, none⟩ keyID) src ks :=
    copies_setKMS hw₁ kmsID ks
  have hw₂ : (((w.setMeta i ⟨.keyID, none⟩ keyID).setMeta i ⟨.kmsID, none⟩ kmsID).images
      i).isSome = true := by
    rw [setMeta_isSome, hw₁]
  unfold recorded
  dsimp only
  split_ifs
  · rw [(sameKeys_setMeta (S := S) hw₂ rfl).copies hsrc, hkms, hkey.copies hsrc]
  · rw [(sameKeys_setMeta (S := S) hw₁ rfl).copies hsrc, hkey.copies hsrc]
  · rw [hkms, hkey.copies hsrc]
  · rw [hkey.copies hsrc]

theorem resolve_cases (b : Backend) (id : Text) :
    (∃ ks, resolve b id = .pure ks) ∨ ∃ e, resolve b id = fail e := by
  unfold resolve
  split
  · exact .inl ⟨_, rfl⟩
  · split
    · exact .inl ⟨_, rfl⟩
    · exact .inr ⟨_, rfl⟩
  · exact .inr ⟨_, rfl⟩

theorem eval_inheritFrom (hw : (w.images i).isSome = true) (first second : Spec) :
    let kmsID := firstOf (metaOf w first .kmsID) (metaOf w second .kmsID)
    ∃ keyID dek, evalIn E (inheritFrom b inst src i.spec first second) w =
      evalIn E (if kmsID ≠ .empty then
          (Registry.cloneKey b inst kmsID src i.spec).bind fun _ => Program.pure keyID
        else Program.pure keyID) (recorded i w keyID kmsID dek) := by
  intro kmsID
  let found := firstOf (metaOf w first .keyID) (metaOf w second .keyID)
  let keyID : Text := if found = .empty then .spec src else found
  let w₁ := w.setMeta i ⟨.keyID, none⟩ keyID
  let w₂ := if kmsID ≠ .empty then w₁.setMeta i ⟨.kmsID, none⟩ kmsID else w₁
  have hw₁ : (w₁.images i).isSome = true := by rw [setMeta_isSome, hw]
  have hw₂ : (w₂.images i).isSome = true := by
    dsimp only [w₂]
    split_ifs
    · rw [setMeta_isSome, hw₁]
    · exact hw₁
  have hkms : evalIn E (inherited first second .kmsID) w₁ = (.ok kmsID, w₁) := by
    rw [eval_inherited, metaOf_setMeta_of_key (by decide), metaOf_setMeta_of_key (by decide)]
  refine ⟨keyID, firstOf (metaOf w₂ first .wrappedDEK) (metaOf w₂ second .wrappedDEK), ?_⟩
  unfold inheritFrom
  refine (eval_bind_of (eval_inherited first second .keyID)).trans ?_
  refine (eval_bind_of (eval_imageMetaSet .keyID keyID hw)).trans ?_
  refine (eval_bind_of hkms).trans ?_
  refine (eval_bind_of (eval_imageMetaSetNonEmpty hw₁ .kmsID kmsID)).trans ?_
  refine (eval_bind_of (eval_inherited first second .wrappedDEK)).trans ?_
  exact eval_bind_of (eval_imageMetaSetNonEmpty hw₂ .wrappedDEK _)

theorem eval_inheritEncryption (hw : (w.images i).isSome = true) :
    ∃ keyID dek, evalIn E (inheritEncryption b inst src i.spec) w =
      evalIn E (if cloneKMS S i w src ≠ .empty then
          (Registry.cloneKey b inst (cloneKMS S i w src) src i.spec).bind fun _ =>
            Program.pure keyID
        else Program.pure keyID) (recorded i w keyID (cloneKMS S i w src) dek) := by
  rw [inheritEncryption, cloneKMS, cloneMeta_present hw]
  split
  · exact eval_inheritFrom hw src i.spec
  · exact eval_inheritFrom hw i.spec src

theorem eval_inheritEncryption_ok_iff (hw : (w.images i).isSome = true) (hsrc : src.image = S) :
    (∃ x w', evalIn E (inheritEncryption b inst src i.spec) w = (.ok x, w')) ↔
      CanInherit b inst S i w src := by
  obtain ⟨keyID, dek, heval⟩ := eval_inheritEncryption (E := E) (b := b) (S := S) hw
  rw [heval]
  unfold CanInherit
  by_cases hkms : cloneKMS S i w src = .empty
  · rw [if_neg (not_not.mpr hkms)]
    exact iff_of_true ⟨_, _, rfl⟩ (.inl hkms)
  rw [if_pos hkms]
  have hclone : ∀ ks, resolve b (cloneKMS S i w src) = .pure ks →
      Registry.cloneKey b inst (cloneKMS S i w src) src i.spec =
        KeyService.cloneKey ks inst src i.spec := by
    intro ks h
    rw [Registry.cloneKey, h]
    rfl
  have hpresent : ((recorded i w keyID (cloneKMS S i w src) dek).images i).isSome = true := by
    rw [recorded_present, hw]
  obtain ⟨ks, hks⟩ | ⟨e, he⟩ := resolve_cases b (cloneKMS S i w src)
  · rw [hclone ks hks, hks]
    have hcopies : (∃ w', evalIn E (KeyService.cloneKey ks inst src i.spec)
        (recorded i w keyID (cloneKMS S i w src) dek) = (.ok (), w')) ↔
        Copies inst S i w src ks := by
      rw [eval_cloneKey_ok_iff hpresent ks, copies_recorded hw _ _ _ hsrc]
    constructor
    · rintro ⟨x, w', h⟩
      obtain ⟨u, m, hu, _⟩ := eval_bind_ok h
      exact .inr ⟨ks, rfl, hcopies.mp ⟨m, hu⟩⟩
    · rintro (h | ⟨ks', hks', h⟩)
      · exact absurd h hkms
      · cases hks'
        obtain ⟨m, hm⟩ := hcopies.mpr h
        exact ⟨keyID, m, eval_bind_of hm⟩
  · rw [Registry.cloneKey, he]
    refine iff_of_false ?_ ?_
    · rintro ⟨x, w', h⟩
      cases h
    · rintro (h | ⟨ks', hks', _⟩)
      · exact hkms h
      · cases hks'

theorem eval_recordEncryption_ok_iff {req : CreateVolumeRequest}
    (hw : (w.images i).isSome = true) :
    (∃ x w', evalIn E (recordEncryption b req i) w = (.ok x, w')) ↔
      (req.parameters paramEncrypted = .lit "true" → ∀ S, req.cloneSourceImage = some S →
        Inheritable b req.inst req.snapshot S i w) := by
  unfold recordEncryption
  by_cases henc : req.parameters paramEncrypted = .lit "true"
  · rw [if_pos henc]
    cases hsource : req.cloneSourceImage with
    | none =>
      refine iff_of_true ⟨.empty, _, eval_bind_of (eval_imageMetaSetNonEmpty hw _ _)⟩ ?_
      exact fun _ S h => by cases h
    | some S =>
      have hsnap : ∀ s ∈ req.snapshot, s.image = S := by
        intro s hs
        rw [CreateVolumeRequest.cloneSourceImage, hs] at hsource
        exact Option.some.inj hsource
      have hsrc : evalIn E (encryptionSourceSpec req.snapshot S) w =
          (.ok (keySource req.snapshot S w), w) := by
        unfold encryptionSourceSpec keySource
        cases req.snapshot with
        | none => rfl
        | some s =>
          refine (eval_bind_of (eval_imageMetaGetChecked s .kmsID)).trans ?_
          dsimp only
          split
          · rfl
          · rfl
      have hinherit : (∃ x w', evalIn E (inheritEncryption b req.inst
          (keySource req.snapshot S w) i.spec) w = (.ok x, w')) ↔
          CanInherit b req.inst S i w (keySource req.snapshot S w) :=
        eval_inheritEncryption_ok_iff hw (keySource_image hsnap)
      have heval : evalIn E ((encryptionSourceSpec req.snapshot S).bind fun src =>
          inheritEncryption b req.inst src i.spec) w =
          evalIn E (inheritEncryption b req.inst (keySource req.snapshot S w) i.spec) w :=
        eval_bind_of hsrc
      constructor
      · rintro ⟨x, w', h⟩ _ S' hS'
        cases hS'
        exact hinherit.mp ⟨x, w', heval.symm.trans h⟩
      · intro h
        obtain ⟨x, w', hx⟩ := hinherit.mpr (h henc S rfl)
        exact ⟨x, w', heval.trans hx⟩
  · rw [if_neg henc]
    exact iff_of_true ⟨.empty, w, rfl⟩ fun h => absurd h henc

end Eval

end BardCsi.Ceph
