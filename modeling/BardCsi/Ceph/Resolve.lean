import BardCsi.Ceph.Evaluate
import BardCsi.Ceph.Volumes

/-!
What a passphrase resolves to when nothing fails. A provider hands out the key that it knows,
and draws one only if it knows none; the drawn key is the one it knows from then on.
-/
namespace BardCsi.Ceph

open Effect Program

/-- The passphrase that a provider resolves without drawing a new one. -/
def known (b : Backend) (ks : KeyService) (inst : String) (spec : Spec) (keyID : Text)
    (w : World) : Option Text :=
  match ks with
  | .derived keyDir => (masterKey keyDir inst w).map fun master => .derived master keyID
  | .awsKMS key => if key = "" then none else stored b (.awsKMS key) inst spec w
  | .secretsMetadata => stored b .secretsMetadata inst spec w
  | .vault v => stored b (.vault v) inst spec w
  | .azureKV a => stored b (.azureKV a) inst spec w
  | .kmip e => stored b (.kmip e) inst spec w
  | .misconfigured _ => none

/-- The passphrase that a volume resolves without storing anything. -/
def resolved (b : Backend) (inst : String) (kmsID : Text) (spec : Spec) (keyID : Text)
    (secrets : Params) (w : World) : Option Text :=
  if secrets secretPassphrase ≠ .empty then some (secrets secretPassphrase)
  else (resolve b kmsID).returned.bind fun ks => known b ks inst spec keyID w

section Providers

variable {E : Env} {b : Backend} {inst : String} {spec : Spec} {keyID p : Text} {w w' : World}
variable {entry : Text} {key : String}

theorem eval_derived (keyDir : String) (h : known b (.derived keyDir) inst spec keyID w = some p) :
    evalIn E (Derived.passphrase keyDir inst keyID) w = (.ok p, w) := by
  obtain ⟨master, hmaster, rfl⟩ := Option.map_eq_some_iff.mp h
  exact eval_bind_of (eval_readMasterKey hmaster)

theorem derived_known {keyDir : String}
    (h : evalIn E (Derived.passphrase keyDir inst keyID) w = (.ok p, w')) :
    known b (.derived keyDir) inst spec keyID w' = some p := by
  cases hm : masterKey keyDir inst w with
  | none =>
    obtain ⟨e, he⟩ := eval_readMasterKey_none (E := E) hm
    cases (eval_bind_error he).symm.trans h
  | some master =>
    have heval := (eval_bind_of (eval_readMasterKey (E := E) hm)).symm.trans h
    obtain ⟨hp, rfl⟩ := Prod.mk.inj heval
    rw [known, hm, ← Except.ok.inj hp]
    rfl

theorem eval_unwrap {kek : String} :
    (evalIn E (SecretsMetadata.unwrapDEK kek entry) w).2 = w ∧
      ∀ p, (evalIn E (SecretsMetadata.unwrapDEK kek entry) w).1 = .ok p ↔
        entry = .wrapped kek p := by
  unfold SecretsMetadata.unwrapDEK
  split
  next kek' dek =>
    split
    next hk =>
      refine ⟨rfl, fun p => ?_⟩
      rw [hk]
      exact ⟨fun h => by rw [Except.ok.inj h], fun h => by injection h with _ h; rw [h]; rfl⟩
    next hk =>
      refine ⟨rfl, fun p => iff_of_false nofun ?_⟩
      rintro h
      injection h with h _
      exact hk h
  next hne =>
    refine ⟨rfl, fun p => iff_of_false nofun ?_⟩
    exact fun h => hne kek p h

theorem wrapped_of_decode (h : decode b .secretsMetadata inst w entry = some p) :
    ∃ kek, masterKey b.encKeyDir inst w = some kek ∧ entry = .wrapped kek p := by
  cases entry with
  | wrapped kek dek =>
    dsimp only [decode] at h
    split_ifs at h with hk
    exact ⟨kek, hk, by rw [Option.some.inj h]⟩
  | _ => cases h

theorem eval_secretsMetadata
    (h : known b .secretsMetadata inst spec keyID w = some p) :
    evalIn E (SecretsMetadata.passphrase b.encKeyDir inst spec) w = (.ok p, w) := by
  obtain ⟨kek, hkek, hwrapped⟩ := wrapped_of_decode h
  change metaOf w spec .wrappedDEK = .wrapped kek p at hwrapped
  refine (eval_bind_of (eval_readMasterKey hkek)).trans ?_
  refine (eval_bind_of (eval_imageMetaGetChecked spec .wrappedDEK)).trans ?_
  rw [hwrapped, if_pos nofun]
  obtain ⟨hstate, hresult⟩ := eval_unwrap (E := E) (w := w)
  exact Prod.ext ((hresult p).mpr rfl) hstate

theorem recorded_of_eval {dek : Text} {k : Except Err Unit → Prog Text}
    {again : Err → Text → Prog Text}
    (h : evalIn E ((imageMetaSet spec .wrappedDEK entry).attempt.bind k) w = (.ok p, w'))
    (hempty : metaOf w spec .wrappedDEK = .empty) (hok : k (.ok ()) = .pure dek)
    (herr : ∀ e, k (.error e) = (imageMetaGet spec .wrappedDEK).bind fun v =>
      if v ≠ .empty then again e v else .fail e) :
    p = dek ∧ metaOf w' spec .wrappedDEK = entry ∧ w'.master = w.master := by
  cases him : w.images spec.image with
  | none =>
    obtain ⟨e, he⟩ := eval_imageMetaSet_missing (E := E) .wrappedDEK entry him
    have h₁ := (eval_attempt_bind_of he).symm.trans h
    rw [herr] at h₁
    have h₂ := (eval_bind_of (eval_imageMetaGet spec .wrappedDEK)).symm.trans h₁
    rw [hempty, if_neg (not_not.mpr rfl)] at h₂
    cases h₂
  | some im =>
    have hsome : (w.images spec.image).isSome = true := by rw [him]; rfl
    have h₁ := (eval_attempt_bind_of (eval_imageMetaSet .wrappedDEK entry hsome)).symm.trans h
    rw [hok] at h₁
    obtain ⟨hp, rfl⟩ := Prod.mk.inj h₁
    exact ⟨(Except.ok.inj hp).symm, metaAt_setMeta_self hsome, setMeta_master⟩

theorem secretsMetadata_known
    (h : evalIn E (SecretsMetadata.passphrase b.encKeyDir inst spec) w = (.ok p, w')) :
    known b .secretsMetadata inst spec keyID w' = some p := by
  cases hm : masterKey b.encKeyDir inst w with
  | none =>
    obtain ⟨e, he⟩ := eval_readMasterKey_none (E := E) hm
    cases (eval_bind_error he).symm.trans h
  | some kek =>
    have h₁ := ((eval_bind_of (eval_readMasterKey (E := E) hm)).trans
      (eval_bind_of (eval_imageMetaGetChecked spec .wrappedDEK))).symm.trans h
    by_cases hentry : metaOf w spec .wrappedDEK = .empty
    · rw [hentry, if_neg (not_not.mpr rfl)] at h₁
      have h₂ := (eval_bind_of (eval_randomText _)).symm.trans h₁
      obtain ⟨rfl, hrecorded, hmaster⟩ := recorded_of_eval h₂ hentry rfl fun _ => rfl
      apply stored_wrapped hrecorded
      rw [masterKey, hmaster]
      exact hm
    · rw [if_pos hentry] at h₁
      obtain ⟨hstate, hresult⟩ :=
        eval_unwrap (E := E) (w := w)
      rw [show evalIn E (SecretsMetadata.unwrapDEK kek (metaOf w spec .wrappedDEK)) w = _ from h₁]
        at hstate hresult
      obtain rfl : w' = w := hstate
      exact stored_wrapped ((hresult p).mp rfl) hm

theorem eval_decrypt :
    (evalIn E (AwsKMS.decrypt key entry) w).2 = w ∧
      ∀ p, (evalIn E (AwsKMS.decrypt key entry) w).1 = .ok p ↔ entry = .blob key p := by
  have heval : evalIn E (AwsKMS.decrypt key entry) w =
      evalIn E (orFail (performDecrypt key entry w).1
        ["cephenc: aws-kms TrentService.Decrypt: "]) (performDecrypt key entry w).2 := rfl
  rw [heval]
  unfold performDecrypt
  split
  next key' dek =>
    split
    next hk =>
      refine ⟨rfl, fun p => ?_⟩
      rw [hk]
      exact ⟨fun h => by rw [Except.ok.inj h], fun h => by injection h with _ h; rw [h]; rfl⟩
    next hk =>
      refine ⟨rfl, fun p => iff_of_false nofun ?_⟩
      intro h
      injection h with h _
      exact hk h
  next hne => exact ⟨rfl, fun p => iff_of_false nofun fun h => hne key p h⟩

theorem blob_of_decode (h : decode b (.awsKMS key) inst w entry = some p) :
    entry = .blob key p := by
  cases entry with
  | blob key' dek =>
    dsimp only [decode] at h
    split_ifs at h with hk
    rw [hk, Option.some.inj h]
  | _ => cases h

theorem eval_awsKMS (key : String) (h : known b (.awsKMS key) inst spec keyID w = some p) :
    evalIn E (AwsKMS.passphrase key spec) w = (.ok p, w) := by
  unfold known at h
  dsimp only at h
  split_ifs at h with hkey
  have hblob : metaOf w spec .wrappedDEK = .blob key p := blob_of_decode h
  unfold AwsKMS.passphrase
  rw [if_neg hkey]
  refine (eval_bind_of (eval_imageMetaGetChecked spec .wrappedDEK)).trans ?_
  rw [hblob, if_pos nofun]
  obtain ⟨hstate, hresult⟩ := eval_decrypt (E := E) (w := w)
  exact Prod.ext ((hresult p).mpr rfl) hstate

theorem awsKMS_known (h : evalIn E (AwsKMS.passphrase key spec) w = (.ok p, w')) :
    known b (.awsKMS key) inst spec keyID w' = some p := by
  unfold AwsKMS.passphrase at h
  unfold known
  dsimp only
  by_cases hkey : key = ""
  · rw [if_pos hkey] at h
    cases h
  rw [if_neg hkey] at h ⊢
  have h₁ := (eval_bind_of (eval_imageMetaGetChecked spec .wrappedDEK)).symm.trans h
  by_cases hentry : metaOf w spec .wrappedDEK = .empty
  · rw [hentry, if_neg (not_not.mpr rfl)] at h₁
    have hdraw : evalIn E (AwsKMS.generateDataKey key) w =
        (.ok (.minted E.who w.seq, .blob key (.minted E.who w.seq)),
          { w with seq := w.seq + 1 }) := rfl
    have h₂ := (eval_bind_of hdraw).symm.trans h₁
    obtain ⟨rfl, hrecorded, -⟩ := recorded_of_eval h₂ hentry rfl fun _ => rfl
    exact stored_blob hrecorded
  · rw [if_pos hentry] at h₁
    obtain ⟨hstate, hresult⟩ :=
      eval_decrypt (E := E) (w := w)
    rw [show evalIn E (AwsKMS.decrypt key (metaOf w spec .wrappedDEK)) w = _ from h₁]
      at hstate hresult
    obtain rfl : w' = w := hstate
    exact stored_blob ((hresult p).mp rfl)

section Secrets

variable {ks : KeyService} {c : SecretClient} {path : String → Spec → Secret}

theorem eval_secret (hks : ks.Stores c path) (h : stored b ks inst spec w = some p) :
    evalIn E (c.passphrase (path inst spec)) w = (.ok p, w) :=
  eval_secretPassphrase_held c _ ((hks.stored b inst spec w).symm.trans h)

theorem secret_known (hks : ks.Stores c path)
    (h : evalIn E (c.passphrase (path inst spec)) w = (.ok p, w')) :
    stored b ks inst spec w' = some p := by
  cases hheld : held (w.secrets (path inst spec)) with
  | some q =>
    obtain ⟨hp, rfl⟩ := Prod.mk.inj ((eval_secretPassphrase_held c _ hheld).symm.trans h)
    rw [hks.stored, hheld, Except.ok.inj hp]
  | none =>
    by_cases hfree : c.createOnly = true → w.secrets (path inst spec) = none
    · obtain ⟨hp, rfl⟩ := Prod.mk.inj ((eval_secretPassphrase_new c _ hheld hfree).symm.trans h)
      obtain rfl := Except.ok.inj hp
      exact stored_secret hks (Function.update_self ..) nofun
    · obtain ⟨honly, hsome⟩ := Classical.not_imp.mp hfree
      have h₁ := (eval_bind_of (eval_secretRead c _)).symm.trans h
      rw [hheld, honly] at h₁
      have h₂ := (eval_bind_of (eval_randomText _)).symm.trans h₁
      obtain ⟨e, he⟩ := eval_secretWrite_taken (E := E) (w := { w with seq := w.seq + 1 }) c
        (path inst spec) (.minted E.who w.seq) (Option.isSome_iff_ne_none.mpr hsome)
      have h₃ := ((eval_attempt_bind_of he).trans
        (eval_attempt_bind_of (eval_secretRead c _))).symm.trans h₂
      rw [show held (World.secrets _ (path inst spec)) = none from hheld] at h₃
      cases h₃

end Secrets

theorem eval_kmip (e : String) (h : known b (.kmip e) inst spec keyID w = some p) :
    evalIn E (Kmip.passphrase e spec) w = (.ok p, w) := by
  have hne : metaOf w spec .kmipUID ≠ .empty := slot_ne_empty h
  have hobject : w.kmip e (metaOf w spec .kmipUID) = some p := object_of_stored h
  refine (eval_bind_of (eval_imageMetaGetChecked spec .kmipUID)).trans ?_
  rw [if_pos hne]
  exact eval_kmipGet e hobject

theorem kmip_known {e : String} (h : evalIn E (Kmip.passphrase e spec) w = (.ok p, w')) :
    known b (.kmip e) inst spec keyID w' = some p := by
  change stored b (.kmip e) inst spec w' = some p
  have h₁ := (eval_bind_of (eval_imageMetaGetChecked spec .kmipUID)).symm.trans h
  by_cases hu : metaOf w spec .kmipUID = .empty
  · rw [hu, if_neg (not_not.mpr rfl)] at h₁
    have h₂ := ((eval_bind_of (eval_randomText _)).trans
      (eval_bind_of (eval_kmipRegister e _))).symm.trans h₁
    let w₁ : World := ({ w with seq := w.seq + 1 } : World).registered E.who e (.minted E.who w.seq)
    cases him : w.images spec.image with
    | none =>
      obtain ⟨err, herr⟩ := eval_imageMetaSet_missing (E := E) (s := spec) (w := w₁) .kmipUID
        (.uid E.who (w.seq + 1)) him
      have h₃ := ((eval_attempt_bind_of herr).trans
        (eval_bind_of (eval_imageMetaGet spec .kmipUID))).symm.trans h₂
      have hnone : metaOf w₁ spec .kmipUID = .empty := hu
      rw [hnone, if_neg (fun h => h.1 rfl)] at h₃
      cases (eval_attempt_bind_of (eval_kmipDestroy e _)).symm.trans h₃
    | some im =>
      have hsome : (w₁.images spec.image).isSome = true := by
        rw [show w₁.images spec.image = some im from him]
        rfl
      have h₃ := (eval_attempt_bind_of (eval_imageMetaSet .kmipUID
        (.uid E.who (w.seq + 1)) hsome)).symm.trans h₂
      obtain ⟨hp, rfl⟩ := Prod.mk.inj h₃
      obtain rfl := Except.ok.inj hp
      apply stored_object (u := .uid E.who (w.seq + 1))
      · exact metaAt_setMeta_self hsome
      · exact nofun
      · rw [setMeta_kmip]
        exact setKmip_kmip_self
  · rw [if_pos hu] at h₁
    cases hp : w.kmip e (metaOf w spec .kmipUID) with
    | none =>
      obtain ⟨err, herr⟩ := eval_kmipGet_none (E := E) e hp
      cases herr.symm.trans h₁
    | some q =>
      obtain ⟨hq, rfl⟩ := Prod.mk.inj ((eval_kmipGet e hp).symm.trans h₁)
      obtain rfl := Except.ok.inj hq
      exact stored_object rfl hu hp

theorem eval_known {ks : KeyService} (h : known b ks inst spec keyID w = some p) :
    evalIn E (KeyService.passphrase b ks inst spec keyID) w = (.ok p, w) := by
  cases ks with
  | derived keyDir => exact eval_derived keyDir h
  | secretsMetadata => exact eval_secretsMetadata h
  | vault v => exact eval_secret (.vault v) h
  | awsKMS key => exact eval_awsKMS key h
  | azureKV a => exact eval_secret (.azureKV a) h
  | kmip e => exact eval_kmip e h
  | misconfigured m => cases h

theorem known_of_eval {ks : KeyService}
    (h : evalIn E (KeyService.passphrase b ks inst spec keyID) w = (.ok p, w')) :
    known b ks inst spec keyID w' = some p := by
  cases ks with
  | derived keyDir => exact derived_known h
  | secretsMetadata => exact secretsMetadata_known h
  | vault v => exact secret_known (.vault v) h
  | awsKMS key => exact awsKMS_known h
  | azureKV a => exact secret_known (.azureKV a) h
  | kmip e => exact kmip_known h
  | misconfigured m => cases h

variable {kmsID : Text} {secrets : Params}

theorem resolved_of_eval
    (h : evalIn E (Registry.passphrase b inst kmsID spec keyID secrets) w = (.ok p, w')) :
    resolved b inst kmsID spec keyID secrets w' = some p := by
  unfold Registry.passphrase at h
  unfold resolved
  by_cases hs : secrets secretPassphrase = .empty
  · rw [if_neg (not_not.mpr hs)] at h ⊢
    obtain ⟨ks, m, hks, hpass⟩ := eval_bind_ok h
    cases hr : resolve b kmsID with
    | pure ks' =>
      rw [hr] at hks
      obtain ⟨hk, rfl⟩ := Prod.mk.inj hks
      obtain rfl := Except.ok.inj hk
      exact known_of_eval hpass
    | fail e =>
      rw [hr] at hks
      cases hks
    | request c k =>
      unfold resolve at hr
      split at hr
      · cases hr
      · split at hr
        · cases hr
        · cases hr
      · cases hr
  · rw [if_pos hs] at h ⊢
    obtain ⟨hp, rfl⟩ := Prod.mk.inj h
    rw [Except.ok.inj hp]

theorem resolved_iff :
    evalIn E (Registry.passphrase b inst kmsID spec keyID secrets) w = (.ok p, w) ↔
      resolved b inst kmsID spec keyID secrets w = some p := by
  refine ⟨resolved_of_eval, fun h => ?_⟩
  unfold resolved at h
  unfold Registry.passphrase
  by_cases hs : secrets secretPassphrase = .empty
  · rw [if_neg (not_not.mpr hs)] at h ⊢
    obtain ⟨ks, hks, hknown⟩ := Option.bind_eq_some_iff.mp h
    cases hr : resolve b kmsID with
    | pure ks' =>
      rw [hr] at hks
      obtain rfl : ks' = ks := Option.some.inj hks
      exact eval_known hknown
    | fail e =>
      rw [hr] at hks
      cases hks
    | request c k =>
      rw [hr] at hks
      cases hks
  · rw [if_pos hs] at h ⊢
    rw [Option.some.inj h]
    rfl

end Providers

/-- The key of a volume is the same in both worlds: its descriptor, and what the key stores
have for it. -/
structure KeysKept (vol : ImageRef) (w w' : World) : Prop where
  present : (w'.images vol).isSome = true
  descriptor : ∀ k ∈ descriptorKeys, metaOf w' vol.spec k = metaOf w vol.spec k
  secrets : ∀ s, s.spec = vol.spec → held (w'.secrets s) = held (w.secrets s)
  kmip : ∀ e, w'.kmip e (metaOf w vol.spec .kmipUID) = w.kmip e (metaOf w vol.spec .kmipUID)
  master : w'.master = w.master

namespace KeysKept

variable {b : Backend} {vol : ImageRef} {w w' : World} {inst : String} {kmsID keyID : Text}
variable {secrets : Params}

theorem refl (h : (w.images vol).isSome = true) : KeysKept vol w w :=
  ⟨h, fun _ _ => rfl, fun _ _ => rfl, fun _ => rfl, rfl⟩

theorem stored (h : KeysKept vol w w') (ks : KeyService) :
    stored b ks inst vol.spec w' = stored b ks inst vol.spec w := by
  have hmeta : ∀ k ∈ descriptorKeys, slot ks inst vol.spec w' = metaOf w' vol.spec k →
      slot ks inst vol.spec w = metaOf w vol.spec k →
      slot ks inst vol.spec w' = slot ks inst vol.spec w :=
    fun k hk h₁ h₂ => (h₁.trans (h.descriptor k hk)).trans h₂.symm
  cases ks with
  | secretsMetadata =>
    unfold Ceph.stored
    rw [hmeta .wrappedDEK (by decide) rfl rfl]
    exact decode_congr h.master nofun
  | awsKMS k =>
    unfold Ceph.stored
    rw [hmeta .wrappedDEK (by decide) rfl rfl]
    exact decode_congr h.master nofun
  | kmip e =>
    unfold Ceph.stored
    rw [hmeta .kmipUID (by decide) rfl rfl]
    apply decode_congr h.master
    intro e' _
    exact h.kmip e'
  | vault v => rw [(KeyService.Stores.vault v).stored, (KeyService.Stores.vault v).stored,
      h.secrets _ rfl]
  | azureKV a => rw [(KeyService.Stores.azureKV a).stored, (KeyService.Stores.azureKV a).stored,
      h.secrets _ rfl]
  | derived d => rfl
  | misconfigured m => rfl

theorem known (h : KeysKept vol w w') (ks : KeyService) :
    known b ks inst vol.spec keyID w' = known b ks inst vol.spec keyID w := by
  cases ks with
  | derived d => simp only [Ceph.known, masterKey, h.master]
  | awsKMS k => simp only [Ceph.known, h.stored]
  | secretsMetadata => exact h.stored _
  | vault v => exact h.stored _
  | azureKV a => exact h.stored _
  | kmip e => exact h.stored _
  | misconfigured m => rfl

theorem resolved (h : KeysKept vol w w') :
    resolved b inst kmsID vol.spec keyID secrets w' =
      resolved b inst kmsID vol.spec keyID secrets w := by
  simp only [Ceph.resolved, h.known]

end KeysKept

end BardCsi.Ceph
