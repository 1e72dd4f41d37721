import BardCsi.Ceph.Reads

/-!
The key that a provider holds for a volume or snapshot, read off the state, and the
requests that write it.
-/
namespace BardCsi.Ceph

open Effect

def World.setMeta (w : World) (i : ImageRef) (q : QKey) (v : Text) : World :=
  match w.images i with
  | some im => w.setImage i { im with info := Function.update im.info q v }
  | none => w

section SetMeta

variable {w : World} {i j : ImageRef} {q r : QKey} {v : Text}

theorem performMetaSet_state : (performMetaSet i q v w).2 = w.setMeta i q v := by
  unfold performMetaSet onImage World.setMeta
  cases w.images i with
  | none => rfl
  | some im => rfl

theorem metaAt_setMeta_self (h : (w.images i).isSome) : metaAt (w.setMeta i q v) i q = v := by
  obtain ⟨im, him⟩ := Option.isSome_iff_exists.mp h
  simp [metaAt, World.setMeta, him, World.setImage]

theorem metaAt_setMeta_of_ne (h : j ≠ i ∨ r ≠ q) :
    metaAt (w.setMeta i q v) j r = metaAt w j r := by
  unfold metaAt World.setMeta
  cases him : w.images i with
  | none => rfl
  | some im =>
    by_cases hj : j = i
    · subst hj
      have hr : r ≠ q := h.resolve_left fun hn => hn rfl
      simp [World.setImage, him, Function.update_of_ne hr]
    · simp [World.setImage, Function.update_of_ne hj]

theorem setMeta_images_of_ne (h : j ≠ i) : (w.setMeta i q v).images j = w.images j := by
  unfold World.setMeta
  cases w.images i with
  | none => rfl
  | some im => exact Function.update_of_ne h _ _

theorem setMeta_rest : ∃ images, w.setMeta i q v = { w with images := images } := by
  unfold World.setMeta
  cases w.images i with
  | none => exact ⟨w.images, rfl⟩
  | some im => exact ⟨_, rfl⟩

theorem setMeta_field {α : Type*} (f : World → α)
    (hf : ∀ w images, f { w with images := images } = f w) : f (w.setMeta i q v) = f w := by
  obtain ⟨images, h⟩ := setMeta_rest (w := w) (i := i) (q := q) (v := v)
  rw [h, hf]

@[simp] theorem setMeta_isSome : ((w.setMeta i q v).images j).isSome = (w.images j).isSome := by
  unfold World.setMeta
  cases him : w.images i with
  | none => rfl
  | some im =>
    by_cases hj : j = i
    · subst hj
      simp [World.setImage, him]
    · simp [World.setImage, Function.update_of_ne hj]

@[simp] theorem setMeta_seq : (w.setMeta i q v).seq = w.seq :=
  setMeta_field World.seq fun _ _ => rfl

@[simp] theorem setMeta_master : (w.setMeta i q v).master = w.master :=
  setMeta_field World.master fun _ _ => rfl

@[simp] theorem setMeta_secrets : (w.setMeta i q v).secrets = w.secrets :=
  setMeta_field World.secrets fun _ _ => rfl

@[simp] theorem setMeta_kmip : (w.setMeta i q v).kmip = w.kmip :=
  setMeta_field World.kmip fun _ _ => rfl

end SetMeta

theorem step_metaSet (who : ℕ) (i : ImageRef) (q : QKey) (v : Text) (o : Outcome) (w : World) :
    ((step who (.imageMetaSet i q v) o w).1 = .ok () ∧ (w.images i).isSome ∧
      (step who (.imageMetaSet i q v) o w).2 = w.setMeta i q v) ∨
    ((∃ e, (step who (.imageMetaSet i q v) o w).1 = .error e) ∧
      ((step who (.imageMetaSet i q v) o w).2 = w ∨
        (step who (.imageMetaSet i q v) o w).2 = w.setMeta i q v ∧ o.fault.isSome ∧
          o.landed = true)) := by
  obtain h | ⟨f, hfault, hf, hstate⟩ := step_cases who (.imageMetaSet i q v) o w
  · rw [h]
    change ((performMetaSet i q v w).1 = .ok () ∧ _ ∧ (performMetaSet i q v w).2 = _) ∨
      ((∃ e, (performMetaSet i q v w).1 = .error e) ∧
        ((performMetaSet i q v w).2 = w ∨ (performMetaSet i q v w).2 = _ ∧ _))
    unfold performMetaSet onImage World.setMeta
    cases w.images i with
    | none => exact .inr ⟨⟨_, rfl⟩, .inl rfl⟩
    | some im => exact .inl ⟨rfl, rfl, rfl⟩
  · refine .inr ⟨⟨_, (Option.some.inj hf).symm⟩, ?_⟩
    obtain hw | ⟨hw, hl, _⟩ := hstate
    · exact .inl hw
    · exact .inr ⟨hw.trans performMetaSet_state, by simp [hfault], hl⟩

/-- The server has not rejected the token. -/
def TokenAccepted (x : Except RunError HttpResponse) : Prop :=
  ∀ resp, x = .ok resp → resp.status ≠ 401 ∧ resp.status ≠ 403

def Unsuccessful (x : Except RunError HttpResponse) : Prop :=
  ∀ resp, x = .ok resp → resp.status ∉ [200, 204, 404]

theorem httpFailed_unsuccessful (f : Fault) : Unsuccessful (httpFailed f) :=
  fun _ h => httpFailed_status h

theorem httpFailed_tokenAccepted {f : Fault} (hl : f.mayLand = true) :
    TokenAccepted (httpFailed f) := by
  intro resp h
  cases f with
  | error t => cases h
  | status s =>
    obtain rfl := Except.ok.inj h
    simpa [Fault.mayLand] using hl

/-- A write that reports success has stored its value. One that reports a failure has stored
it or changed nothing, and has changed nothing if the token was rejected. -/
theorem step_secret_write (who : ℕ) (s : Secret) (v : Text) (o : Outcome) (w : World) :
    ((step who (.secret s (.write v false)) o w).1 = .ok ⟨200, .empty⟩ ∧
      (step who (.secret s (.write v false)) o w).2 = w.putSecret s (some v)) ∨
    (Unsuccessful (step who (.secret s (.write v false)) o w).1 ∧
      ((step who (.secret s (.write v false)) o w).2 = w ∨
        (step who (.secret s (.write v false)) o w).2 = w.putSecret s (some v) ∧
          TokenAccepted (step who (.secret s (.write v false)) o w).1)) := by
  obtain h | ⟨f, _, hf, hstate⟩ := step_cases who (.secret s (.write v false)) o w
  · rw [h]
    exact .inl ⟨rfl, rfl⟩
  · have hreply : httpFailed f = (step who (.secret s (.write v false)) o w).1 := Option.some.inj hf
    rw [← hreply]
    refine .inr ⟨httpFailed_unsuccessful f, ?_⟩
    obtain hw | ⟨hw, _, hl⟩ := hstate
    · exact .inl hw
    · exact .inr ⟨hw, httpFailed_tokenAccepted hl⟩

/-- The state after a new KMIP object. -/
def World.registered (w : World) (who : ℕ) (e : String) (p : Text) : World :=
  { w.setKmip e (.uid who w.seq) (some p) with seq := w.seq + 1 }

theorem step_kmipRegister (who : ℕ) (e : String) (p : Text) (o : Outcome) (w : World) :
    ((step who (.kmipRegister e p) o w).1 = .ok (.uid who w.seq) ∧
      (step who (.kmipRegister e p) o w).2 = w.registered who e p) ∨
    ((∃ err, (step who (.kmipRegister e p) o w).1 = .error err) ∧
      ((step who (.kmipRegister e p) o w).2 = w ∨
        (step who (.kmipRegister e p) o w).2 = w.registered who e p)) := by
  obtain h | ⟨f, _, hf, hstate⟩ := step_cases who (.kmipRegister e p) o w
  · rw [h]
    exact .inl ⟨rfl, rfl⟩
  · refine .inr ⟨⟨_, (Option.some.inj hf).symm⟩, ?_⟩
    obtain hw | ⟨hw, _⟩ := hstate
    · exact .inl hw
    · exact .inr hw

theorem step_kmipDestroy (who : ℕ) (e : String) (u : Text) (o : Outcome) (w : World) :
    (step who (.kmipDestroy e u) o w).2 = w ∨
      (step who (.kmipDestroy e u) o w).2 = w.setKmip e u none := by
  obtain h | h := step_state who (.kmipDestroy e u) o w
  · exact .inl h
  · rw [h]
    change (performDestroy e u w).2 = w ∨ (performDestroy e u w).2 = _
    unfold performDestroy
    cases w.kmip e u with
    | none => exact .inl rfl
    | some p => exact .inr rfl

theorem setKmip_kmip_of_ne {w : World} {e e' : String} {u u' : Text} {p : Option Text}
    (h : u' ≠ u) : (w.setKmip e u p).kmip e' u' = w.kmip e' u' := by
  by_cases he : e' = e
  · subst he
    simp [World.setKmip, Function.update_of_ne h]
  · simp [World.setKmip, Function.update_of_ne he]

theorem setKmip_kmip_self {w : World} {e : String} {u : Text} {p : Option Text} :
    (w.setKmip e u p).kmip e u = p := by
  simp [World.setKmip]

/-- The entry that a provider keeps for a volume or snapshot, empty if there is none. -/
def slot (ks : KeyService) (inst : String) (spec : Spec) (w : World) : Text :=
  match ks with
  | .secretsMetadata | .awsKMS _ => metaOf w spec .wrappedDEK
  | .kmip _ => metaOf w spec .kmipUID
  | .azureKV a => (w.secrets (AzureKV.secretName a inst spec)).getD .empty
  | .vault v => (w.secrets (Vault.secretPath v inst spec)).getD .empty
  | .derived _ | .misconfigured _ => .empty

/-- The passphrase that an entry stands for. -/
def decode (b : Backend) (ks : KeyService) (inst : String) (w : World) (entry : Text) :
    Option Text :=
  match ks with
  | .secretsMetadata =>
      match entry with
      | .wrapped kek dek => if masterKey b.encKeyDir inst w = some kek then some dek else none
      | _ => none
  | .awsKMS key =>
      match entry with
      | .blob key' dek => if key' = key then some dek else none
      | _ => none
  | .kmip e => if entry = .empty then none else w.kmip e entry
  | .azureKV _ | .vault _ => if entry = .empty then none else some entry
  | .derived _ | .misconfigured _ => none

/-- The passphrase that a stored-key provider resolves for a volume or snapshot. -/
def stored (b : Backend) (ks : KeyService) (inst : String) (spec : Spec) (w : World) :
    Option Text :=
  decode b ks inst w (slot ks inst spec w)

/-- A value that a key store holds. An empty one counts as none. -/
def held (v : Option Text) : Option Text := v.filter fun p => p ≠ .empty

theorem held_eq_none {v : Option Text} : held v = none ↔ v = none ∨ v = some .empty := by
  cases v with
  | none => simp [held]
  | some p => simp [held, Option.filter]

theorem held_getD (v : Option Text) :
    (if v.getD .empty = .empty then none else some (v.getD .empty)) = held v := by
  cases v with
  | none => rfl
  | some q =>
    by_cases hq : q = .empty
    · simp [held, hq, Option.filter]
    · simp [held, hq, Option.filter]

/-- The services that keep a passphrase as a secret, with their clients and its name. -/
inductive KeyService.Stores : KeyService → SecretClient → (String → Spec → Secret) → Prop
  | vault (v : VaultConfig) : Stores (.vault v) (Vault.client v) (Vault.secretPath v)
  | azureKV (a : AzureConfig) : Stores (.azureKV a) AzureKV.client (AzureKV.secretName a)

section Stores

variable {ks : KeyService} {c : SecretClient} {path : String → Spec → Secret}

theorem KeyService.Stores.slot (hks : ks.Stores c path) (inst : String) (spec : Spec) (w : World) :
    slot ks inst spec w = (w.secrets (path inst spec)).getD .empty := by
  cases hks with
  | vault v => rfl
  | azureKV a => rfl

theorem KeyService.Stores.stored (hks : ks.Stores c path) (b : Backend) (inst : String)
    (spec : Spec) (w : World) : stored b ks inst spec w = held (w.secrets (path inst spec)) := by
  cases hks with
  | vault v => exact held_getD _
  | azureKV a => exact held_getD _

end Stores

theorem slot_congr {ks : KeyService} {inst : String} {spec : Spec} {w w' : World}
    (hmeta : metaAt w' spec.image = metaAt w spec.image) (hsecrets : w'.secrets = w.secrets) :
    slot ks inst spec w' = slot ks inst spec w := by
  cases ks with
  | secretsMetadata => exact congrFun hmeta _
  | awsKMS k => exact congrFun hmeta _
  | kmip e => exact congrFun hmeta _
  | azureKV a => rw [slot, slot, hsecrets]
  | vault v => rw [slot, slot, hsecrets]
  | derived d => rfl
  | misconfigured m => rfl

theorem decode_congr {b : Backend} {ks : KeyService} {inst : String} {w w' : World}
    {entry : Text} (hmaster : w'.master = w.master)
    (hkmip : ∀ e, ks = .kmip e → w'.kmip e entry = w.kmip e entry) :
    decode b ks inst w' entry = decode b ks inst w entry := by
  cases ks with
  | secretsMetadata =>
    have hkey : masterKey b.encKeyDir inst w' = masterKey b.encKeyDir inst w := by
      rw [masterKey, masterKey, hmaster]
    cases entry with
    | wrapped kek dek => exact congrArg (fun m => if m = some kek then some dek else none) hkey
    | _ => rfl
  | kmip e => exact congrArg (fun m => if entry = .empty then none else m) (hkmip e rfl)
  | awsKMS k => rfl
  | azureKV a => rfl
  | vault v => rfl
  | derived d => rfl
  | misconfigured m => rfl

theorem decode_empty (b : Backend) (ks : KeyService) (inst : String) (w : World) :
    decode b ks inst w .empty = none := by
  cases ks <;> rfl

section StoredOf

variable {b : Backend} {inst : String} {spec : Spec} {w : World} {p : Text}

theorem stored_wrapped {kek : String}
    (hslot : slot .secretsMetadata inst spec w = .wrapped kek p)
    (hkek : masterKey b.encKeyDir inst w = some kek) :
    stored b .secretsMetadata inst spec w = some p := by
  rw [stored, hslot]
  exact if_pos hkek

theorem stored_blob {key : String} (hslot : slot (.awsKMS key) inst spec w = .blob key p) :
    stored b (.awsKMS key) inst spec w = some p := by
  rw [stored, hslot]
  exact if_pos rfl

theorem stored_secret {ks : KeyService} {c : SecretClient} {path : String → Spec → Secret}
    (hks : ks.Stores c path) (hp : w.secrets (path inst spec) = some p) (hne : p ≠ .empty) :
    stored b ks inst spec w = some p := by
  rw [hks.stored, hp]
  simp [held, Option.filter, hne]

theorem stored_object {e : String} {u : Text} (hslot : slot (.kmip e) inst spec w = u)
    (hne : u ≠ .empty) (hp : w.kmip e u = some p) : stored b (.kmip e) inst spec w = some p := by
  rw [stored, hslot]
  exact (if_neg hne).trans hp

end StoredOf

theorem slot_ne_empty {b : Backend} {ks : KeyService} {inst : String} {spec : Spec} {w : World}
    {p : Text} (h : stored b ks inst spec w = some p) : slot ks inst spec w ≠ .empty := by
  intro hs
  rw [stored, hs, decode_empty] at h
  cases h

theorem object_of_stored {b : Backend} {e inst : String} {spec : Spec} {w : World} {p : Text}
    (h : stored b (.kmip e) inst spec w = some p) :
    w.kmip e (slot (.kmip e) inst spec w) = some p := by
  exact (if_neg (slot_ne_empty h)).symm.trans h

end BardCsi.Ceph
