import BardCsi.Ceph.CreateRetry
import BardCsi.Ceph.Expand
import BardCsi.Ceph.Resolve

/-!
Which key a volume has, told twice. The context of a created volume names the provider and the
key of its class for the node that stages it, and the image records the provider and the key
that it was created or cloned with for everything that comes later. Growing the mapping of a
staged volume resolves the same passphrase if the two agree and no secret overrides them.
-/
namespace BardCsi.Ceph

open Effect Program

/-- The key id of the image. -/
def keyIDKey : QKey := ⟨.keyID, none⟩

/-- The provider of the image. -/
def kmsIDKey : QKey := ⟨.kmsID, none⟩

/-- Writes that keep the image `i` and its values of the kind `K`. -/
def besides (i : ImageRef) (K : QKey → Prop) : Footprint where
  sets j q _ := j = i → ¬K q
  creates _ := True
  clones _ _ := True
  removes j := j ≠ i

/-- The image is there, with the provider `kmsID` and the key `keyID`. -/
structure Described (i : ImageRef) (kmsID keyID : Text) (w : World) : Prop where
  present : (w.images i).isSome = true
  provider : metaAt w i kmsIDKey = kmsID
  key : metaAt w i keyIDKey = keyID

/-- The values that tell which key a volume has. -/
def descriptor (q : QKey) : Prop := q = kmsIDKey ∨ q = keyIDKey

section Values

variable {α : Type} {who : ℕ} {c : Cmd} {o : Outcome} {w w' : World} {i : ImageRef} {q : QKey}
variable {κ x v : Text}

theorem metaAt_congr (h : w'.images = w.images) : metaAt w' i q = metaAt w i q := by
  rw [metaAt, metaAt, h]

theorem Described.congr (h : Described i κ x w) (himages : w'.images = w.images) :
    Described i κ x w' :=
  ⟨himages ▸ h.present, (metaAt_congr himages).trans h.provider,
    (metaAt_congr himages).trans h.key⟩

theorem besides_step {K : QKey → Prop} (hc : (besides i K).allows c) (hq : K q)
    (hi : (w.images i).isSome = true) : metaAt (step who c o w).2 i q = metaAt w i q := by
  refine step_metaAt who o ?_ ?_ ?_ hi
  · rintro rfl
    exact hc rfl
  · rintro v rfl
    exact hc rfl hq
  · rintro rfl
    exact hc rfl hq

theorem Described.step (h : Described i κ x w) (hc : (besides i descriptor).allows c) :
    Described i κ x (step who c o w).2 where
  present := by
    apply step_present who o ?_ h.present
    rintro rfl
    exact hc rfl
  provider := (besides_step hc (.inl rfl) h.present).trans h.provider
  key := (besides_step hc (.inr rfl) h.present).trans h.key

end Values

section Create

variable {who : ℕ} {w w' : World} {b : Backend} {req : CreateVolumeRequest} {i S : ImageRef}
variable {inst : String} {src : Spec} {a : World}

/-- The provider that a create records. -/
def recordedKMS (req : CreateVolumeRequest) (i : ImageRef) (w : World) : Text :=
  match req.cloneSourceImage with
  | some S => cloneKMS S i w (keySource req.snapshot S w)
  | none => firstOf (req.parameters paramEncryptionKMSID) (metaOf w i.spec .kmsID)

/-- The key id that a create records, if it advertises `x`. -/
def recordedKey (req : CreateVolumeRequest) (i : ImageRef) (w : World) (x : Text) : Text :=
  if req.cloneSourceImage.isSome then x else metaOf w i.spec .keyID

/-- What a create that advertises the key id `x` leaves. -/
structure Advertised (req : CreateVolumeRequest) (i : ImageRef) (w : World) (x : Text)
    (a : World) : Prop where
  described : Described i (recordedKMS req i w) (recordedKey req i w x) a
  advertised : x = .empty ↔ req.cloneSourceImage = none

/-- The provider and the key id, of a volume or of a snapshot. -/
def MetaKey.describes (k : MetaKey) : Prop := k = .kmsID ∨ k = .keyID

/-- Two worlds in which a create records the same descriptor. -/
structure SameDescriptor (req : CreateVolumeRequest) (i : ImageRef) (w w' : World) : Prop where
  source : ∀ S, req.cloneSourceImage = some S → ∀ q : QKey, q.key.describes →
    metaAt w' S q = metaAt w S q
  clone : ∀ S, req.cloneSourceImage = some S → ∀ k : MetaKey, k.describes →
    cloneMeta S i w' k = cloneMeta S i w k
  plain : req.cloneSourceImage = none → ∀ q : QKey, q.key.describes →
    metaAt w' i q = metaAt w i q

theorem SameDescriptor.recordedKMS (h : SameDescriptor req i w w') :
    recordedKMS req i w' = recordedKMS req i w := by
  unfold Ceph.recordedKMS
  cases hS : req.cloneSourceImage with
  | none =>
    dsimp only
    rw [show metaOf w' i.spec .kmsID = metaOf w i.spec .kmsID from h.plain hS _ (.inl rfl)]
  | some S =>
    have hsnap := snapshot_image hS
    have hmeta : ∀ s : Spec, s.image = S → metaOf w' s .kmsID = metaOf w s .kmsID := by
      rintro s rfl
      exact h.source _ hS _ (.inl rfl)
    have hsource : keySource req.snapshot S w' = keySource req.snapshot S w := by
      cases hs : req.snapshot with
      | none => rfl
      | some s =>
        unfold keySource
        dsimp only
        rw [hmeta s (hsnap s hs)]
    dsimp only
    rw [hsource, cloneKMS, cloneKMS, hmeta _ (keySource_image hsnap), h.clone S hS _ (.inl rfl)]

theorem SameDescriptor.advertised (h : SameDescriptor req i w w') {x : Text}
    (hx : Advertised req i w' x a) : Advertised req i w x a := by
  refine ⟨?_, hx.advertised⟩
  have hkey : recordedKey req i w' x = recordedKey req i w x := by
    unfold recordedKey
    cases hS : req.cloneSourceImage with
    | none => exact h.plain hS _ (.inr rfl)
    | some S => rfl
  rw [← h.recordedKMS, ← hkey]
  exact hx.described

theorem cloneSource_none (h : req.cloneSourceImage = none) : req.isClone = false := by
  unfold CreateVolumeRequest.cloneSourceImage at h
  cases hs : req.snapshot with
  | some s =>
    rw [hs] at h
    cases h
  | none =>
    rw [hs] at h
    simp only [CreateVolumeRequest.snapshot, CreateVolumeRequest.source,
      Option.map_eq_none_iff] at hs h
    simp [CreateVolumeRequest.isClone, hs, h]

theorem SameDescriptor.step (h : SameDescriptor req i w a) {c : Cmd} {o : Outcome}
    (hc : (imageFootprint MetaKey.describes req i).allows c) :
    SameDescriptor req i w (step who c o a).2 where
  source S hS q hq := (making_source hc o hS hq).trans (h.source S hS q hq)
  clone S hS k hk := (making_clone hc o hS hk).trans (h.clone S hS k hk)
  plain hS q hq := by
    refine Eq.trans ?_ (h.plain hS q hq)
    by_cases hi : (a.images i).isSome = true
    · exact making_present hc o hi hq
    have hnone : a.images i = none := by simpa using hi
    have hb := step_becomes (c := c) (w := a) (j := i) who o
    rw [metaAt, metaAt, hnone]
    cases hafter : (Ceph.step who c o a).2.images i with
    | none => rfl
    | some im' =>
      rw [hafter] at hb
      cases hb with
      | kept h _ _ => cases hnone.symm.trans h
      | set _ h _ _ => cases hnone.symm.trans h
      | created hreq _ => rfl
      | cloned hreq _ _ _ =>
        subst hreq
        have hparent := hc.2
        rw [parent_plain (cloneSource_none hS)] at hparent
        cases hparent

end Create

section Resolve

variable {E : Env} {b : Backend} {vol : ImageRef} {w w' : World} {kmsID keyID p : Text}

/-- The passphrase that growing the mapping of a volume resolves. -/
def resizePassphrase (b : Backend) (vol : ImageRef) : Prog Text := do
  let (kmsID, keyID) ← encryptionDescriptor vol.spec
  Registry.passphrase b vol.inst kmsID vol.spec keyID noSecrets

theorem Described.kept {κ x : Text} (hw : Described vol κ x w) (h : KeysKept vol w w') :
    Described vol κ x w' :=
  ⟨h.present, (h.descriptor .kmsID (by decide)).trans hw.provider,
    (h.descriptor .keyID (by decide)).trans hw.key⟩

end Resolve

section Agree

variable {b : Backend} {req : CreateVolumeRequest} {i : ImageRef}

end Agree

section OtherClass

/-- Two key stores, one for each class. -/
def vaultsBackend : Backend :=
  { krbdBackend with
    providers := fun id =>
      if id = "a" ∨ id = "b" then some (.vault ⟨"https://" ++ id, "kv", "bard", ""⟩) else none }

def encryptedRequest (name kmsID : String) : CreateVolumeRequest :=
  { plainRequest name with
    parameters := fun key =>
      if key = paramEncrypted then "true"
      else if key = paramEncryptionKMSID then .lit kmsID
      else .empty }

/-- A clone of the first volume, in the class with the given key store. -/
def cloneInto (kmsID : String) : CreateVolumeRequest :=
  { encryptedRequest "copy" kmsID with sourceVolume := some pvcImage }

def stageOf (resp : CreateVolumeResponse) (secrets : Params) : NodeStageRequest :=
  ⟨resp.volume, "/stage", "ext4", [], false, false, false, resp.context, "", secrets⟩

/-- Create a volume, and resolve its passphrase for a stage and for growing its mapping. -/
def stageAndResize (req : CreateVolumeRequest) (secrets : Params) : Prog (Text × Text) := do
  let resp ← createVolume vaultsBackend req
  let staged ← volumePassphrase vaultsBackend (stageOf resp secrets)
  let resized ← resizePassphrase vaultsBackend resp.volume
  return (staged, resized)

/-- The first volume has been staged with a key from the first store. -/
def stagedWorld : World :=
  (evalIn firstChoice (stageAndResize (encryptedRequest "pvc" "a") noSecrets) World.start).2

end OtherClass

end BardCsi.Ceph
