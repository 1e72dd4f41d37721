import BardCsi.Ceph.LockOut
import BardCsi.Ceph.SnapshotFrame
import BardCsi.Ceph.VaultAgreement

/-!
The key that a snapshot captures. A snapshot whose entries were empty captures the key of its
source. Entries that were left under its name count more than those of the source: a clone
carries those of its source's snapshots, which outlive the snapshots.
-/
namespace BardCsi.Ceph

open Effect Program

section Copy

variable {b : Backend} {inst : String} {i : ImageRef} {s : Spec} {mine : Text → Prop}
variable {w a : World} {who : ℕ} {x : World} {ks : KeyService} {t : Secret}
variable {c : SecretClient} {path : String → Spec → Secret}

/-- Objects that do not exist yet. -/
def Unborn (w : World) (u : Text) : Prop := ∃ t n, w.seq ≤ n ∧ u = .uid t n

/-- Objects that have come to exist in between. -/
def BornBetween (w x : World) (u : Text) : Prop := ∃ t n, w.seq ≤ n ∧ n < x.seq ∧ u = .uid t n

theorem BornBetween.until {y : World} {u : Text} (h : BornBetween w x u) (hy : x.seq ≤ y.seq) :
    BornBetween w y u := by
  obtain ⟨t, n, hw, hx, hu⟩ := h
  exact ⟨t, n, hw, Nat.lt_of_lt_of_le hx hy, hu⟩

/-- The key of the image has been copied to `s`, and the other entries of `s` are as they
were. -/
structure Copied (b : Backend) (ks : KeyService) (inst : String) (i : ImageRef) (s : Spec)
    (a x : World) : Prop where
  key : ∀ p, stored b ks inst i.spec a = some p → stored b ks inst s x = some p
  provider : metaOf x s .kmsID = metaOf a s .kmsID
  object : metaOf x s .kmipUID = metaOf a s .kmipUID ∨ BornBetween a x (metaOf x s .kmipUID)

theorem Copied.alike {y : World} (h : Copied b ks inst i s a x) (hy : Alike x y) :
    Copied b ks inst i s a y where
  key p hp := (hy.stored b ks inst s).trans (h.key p hp)
  provider := (hy.info _ _).trans h.provider
  object := by
    have huid : metaOf y s .kmipUID = metaOf x s .kmipUID := hy.info _ _
    rw [huid]
    exact h.object.imp_right fun hborn => hborn.until hy.seq

theorem Copied.nothing (h : ∀ p, stored b ks inst i.spec a = some p → stored b ks inst s a = some p)
    :
    Copied b ks inst i s a a :=
  ⟨h, rfl, .inl rfl⟩

theorem secretWrite_apart {p : Text} {createOnly : Bool} (ht : t.spec = s) :
    (c.write t p createOnly).Meets machine who (apartContract s mine w)
      (IfOk fun _ x => x.secrets t = some p) a := by
  refine secretCommand_meets (fun x y hr hx => ?_) fun x o hi _ => ?_
  · rw [(Later.alike hr).secrets, hx]
  · exact ⟨trivial, (step_secret_apart who hi ht _ o).1,
      fun resp hx hs => step_secret_write_reply hx (c.accepts.2 hs)⟩

theorem secretRead_apart :
    (c.read t).Meets machine who (apartContract s mine w)
      (IfOk fun found x => ∀ p, found = some p → x.secrets t = some p) a := by
  refine secretRead_finds machine_answers ((apart_keyMatter s mine w).reads who) ?_
    fun _ _ _ hp _ => hp
  intro p x y hr hx
  rw [(Later.alike hr).secrets, hx]

/-- A program that only reads and writes the secret of `s` keeps the images. -/
theorem secretOnly_images {p : Prog Unit} (ht : t.spec = s)
    (h : p.Uses fun c => c.reads = true ∨ ∃ v createOnly, c = .secret t (.write v createOnly)) :
    p.Meets machine who (apartContract s mine w) (fun _ (x : World) => x.images = a.images) a := by
  refine Meets.of_uses (P := fun x : World => x.images = a.images) h rfl ?_ ?_
  · exact fun x y hr hx => (later_images hr).trans hx
  · rintro c o x (hc | ⟨v, createOnly, rfl⟩) hi _ hx
    · obtain ⟨_, hi', hr⟩ := (apart_keyMatter s mine w).reads who c hc x o hi trivial
      exact ⟨trivial, hi', (later_images hr).trans hx⟩
    · obtain ⟨hi', himages⟩ := step_secret_apart who hi ht (.write v createOnly) o
      exact ⟨trivial, hi', himages.trans hx⟩

/-- A copy that reads the secret of the source and stores what it found. -/
theorem secretCopy_key (hks : ks.Stores c path) {f : Option Text → Prog Unit}
    (hnone : f none = .pure ())
    (hsome : ∀ p x, (f (some p)).Meets machine who (apartContract s mine w)
      (IfOk fun _ x => x.secrets (path inst s) = some p) x) :
    ((c.read (path inst i.spec)).bind f).Meets machine who (apartContract s mine w)
      (IfOk fun _ x => ∀ p, stored b ks inst i.spec a = some p →
        stored b ks inst s x = some p) a := by
  apply secretRead_meets machine_answers ((apart_keyMatter s mine w).reads who)
  · intro x p hr _ (hp : x.secrets _ = some p) hne
    apply (hsome p x).mono
    intro r y _ hy
    cases r with
    | error e => trivial
    | ok u =>
      intro q hq
      rw [← (Later.alike hr).stored, stored_secret hks hp hne] at hq
      obtain rfl := Option.some.inj hq
      exact stored_secret hks hy hne
  · intro x hr _ hfree
    rw [hnone]
    intro y hy _ p hp
    rw [← (Later.alike hr).stored, hks.stored] at hp
    cases (held_eq_none.mpr hfree).symm.trans hp
  · exact fun _ _ _ _ _ _ _ => trivial

theorem vaultClone_key {v : VaultConfig} :
    (Vault.cloneKey v inst i.spec s).Meets machine who (apartContract s mine w)
      (IfOk fun _ x => ∀ p, stored b (.vault v) inst i.spec a = some p →
        stored b (.vault v) inst s x = some p) a := by
  refine secretCopy_key (.vault v) rfl fun p x => ?_
  have hdone : ∀ y : World, y.secrets (Vault.secretPath v inst s) = some p →
      (Program.pure () : Prog Unit).Meets machine who (apartContract s mine w)
        (IfOk fun _ x => x.secrets (Vault.secretPath v inst s) = some p) y :=
    fun y hy z hz _ => (congrFun (Later.alike hz).secrets _).trans hy
  apply (secretWrite_apart (s := s) (t := Vault.secretPath v inst s) rfl).tryThen
  · exact fun _ y _ hy => hdone y hy
  · intro err y _ _
    apply secretRead_apart.tryThen
    · intro found z _ hfound
      cases found with
      | none => exact fun _ _ _ => trivial
      | some q =>
        refine Meets.ite (fun hq => ?_) fun _ _ _ _ => trivial
        exact hdone z (hq ▸ hfound q rfl)
    · exact fun _ _ _ _ _ _ _ => trivial

theorem vaultClone_images {v : VaultConfig} :
    (Vault.cloneKey v inst i.spec s).Meets machine who (apartContract s mine w)
      (fun _ (x : World) => x.images = a.images) a := by
  apply secretOnly_images (t := Vault.secretPath v inst s) rfl
  apply (secretRead_uses (.inl rfl) _).bind
  intro found
  split
  · trivial
  · apply (secretCommand_uses (.inr ⟨_, _, rfl⟩) _).attempt.bind
    intro r
    split
    · trivial
    · apply (secretRead_uses (.inl rfl) _).attempt.bind
      intro r
      split
      · exact Uses.ite trivial trivial
      · trivial

theorem azureClone_images {v : AzureConfig} :
    (AzureKV.cloneKey v inst i.spec s).Meets machine who (apartContract s mine w)
      (fun _ (x : World) => x.images = a.images) a := by
  apply secretOnly_images (t := AzureKV.secretName v inst s) rfl
  apply (secretRead_uses (.inl rfl) _).bind
  intro found
  split
  · trivial
  · exact secretCommand_uses (.inr ⟨_, _, rfl⟩) _

theorem azureClone_key {v : AzureConfig} :
    (AzureKV.cloneKey v inst i.spec s).Meets machine who (apartContract s mine w)
      (IfOk fun _ x => ∀ p, stored b (.azureKV v) inst i.spec a = some p →
        stored b (.azureKV v) inst s x = some p) a :=
  secretCopy_key (.azureKV v) rfl fun _ _ => secretWrite_apart rfl

theorem metaOf_setMeta_self {k : MetaKey} {v : Text} (hx : (x.images s.image).isSome = true) :
    metaOf (x.setMeta s.image ⟨k, s.snap⟩ v) s k = v := metaAt_setMeta_self hx

theorem metaOf_setMeta_of_ne {k k' : MetaKey} {v : Text} (hk : k' ≠ k) :
    metaOf (x.setMeta s.image ⟨k, s.snap⟩ v) s k' = metaOf x s k' :=
  metaAt_setMeta_of_ne (.inr fun h => hk (congrArg QKey.key h))

theorem kmipClone_copies {e : String} (hmine : ∀ u, Unborn w u → mine u)
    (hs : (a.images s.image).isSome = true) (howner : metaOf a s .kmipOwner ≠ .spec s) :
    (Kmip.cloneKey e i.spec s).Meets machine who (apartContract s mine w)
      (IfOk fun _ x => Copied b (.kmip e) inst i s a x) a := by
  refine (apart_keyMatter _ _ _).metaGet ?_ fun _ _ => trivial
  refine Meets.ite (fun hu x hr _ => ?_) fun hu => ?_
  · refine Copied.alike (.nothing fun p hp => ?_) (Later.alike hr)
    exact absurd hu (slot_ne_empty hp)
  refine (apart_keyMatter _ _ _).metaGet ?_ fun _ _ => trivial
  rw [if_neg howner]
  apply kmipGet_meets machine_answers ((apart_keyMatter s mine w).reads who)
  · intro x p hr _ (hp : x.kmip e _ = some p)
    rw [(Later.alike hr).kmip] at hp
    refine Meets.rely ?_ hr
    apply Meets.answered
    rintro _ ⟨n, hn, rfl⟩ hi o _
    have hreg : Apart s mine w (({ a with seq := n } : World).registered who e p) :=
      Apart.setKmip hi (hmine _ ⟨who, n, hi.seq, rfl⟩) _ (Nat.le_succ _)
    obtain ⟨hreply, hstate⟩ | ⟨⟨err, hreply⟩, hstate⟩ :=
      step_kmipRegister who e p o { a with seq := n }
    · refine ⟨_, _, hreply, hstate, trivial, hreg, ?_⟩
      refine imageMetaSet_apart ?_ fun _ _ => trivial
      rw [← Program.bind_pure_right (imageMetaSet s .kmipOwner _)]
      refine imageMetaSet_apart ?_ fun _ _ => trivial
      intro y hy _
      generalize hz : ({ a with seq := n } : World).registered who e p = z at hy
      have himages : z.images = a.images := by rw [← hz]; rfl
      have hobject : z.kmip e (.uid who n) = some p := by rw [← hz]; exact setKmip_kmip_self
      have huid : metaOf ((z.setMeta s.image ⟨.kmipUID, s.snap⟩ (.uid who n)).setMeta s.image
          ⟨.kmipOwner, s.snap⟩ (.spec s)) s .kmipUID = .uid who n := by
        rw [metaOf_setMeta_of_ne (by decide), metaOf_setMeta_self (by rw [himages, hs])]
      have hseq : n < ((z.setMeta s.image ⟨.kmipUID, s.snap⟩ (.uid who n)).setMeta s.image
          ⟨.kmipOwner, s.snap⟩ (.spec s)).seq := by
        rw [setMeta_seq, setMeta_seq, ← hz]
        exact Nat.lt_succ_self n
      refine Copied.alike ⟨fun q hq => ?_, ?_, .inr ⟨who, n, hn, hseq, huid⟩⟩ (Later.alike hy)
      · obtain rfl : p = q := Option.some.inj (hp.symm.trans (object_of_stored hq))
        refine stored_object huid (by simp) ?_
        rw [setMeta_kmip, setMeta_kmip, hobject]
      · rw [metaOf_setMeta_of_ne (by decide), metaOf_setMeta_of_ne (by decide)]
        exact metaAt_congr himages
    · have hi' : Apart s mine w (step who (.kmipRegister e p) o { a with seq := n }).2 := by
        obtain hstate | hstate := hstate
        · rw [hstate]
          exact hi
        · rw [hstate]
          exact hreg
      exact ⟨_, _, hreply, rfl, trivial, hi', fun _ _ _ => trivial⟩
  · exact fun _ _ _ _ _ _ _ => trivial

theorem copied_of_images {p : Prog Unit} (himages : p.Meets machine who (apartContract s mine w)
      (fun _ (x : World) => x.images = a.images) a)
    (hkey : p.Meets machine who (apartContract s mine w)
      (IfOk fun _ x => ∀ p, stored b ks inst i.spec a = some p →
        stored b ks inst s x = some p) a) :
    p.Meets machine who (apartContract s mine w)
      (IfOk fun _ x => Copied b ks inst i s a x) a := by
  apply (himages.and hkey).mono
  rintro r x _ ⟨hx, hr⟩
  cases r with
  | error e => trivial
  | ok u => exact ⟨hr, metaAt_congr hx, .inl (metaAt_congr hx)⟩

theorem cloneKey_copies (hmine : ∀ u, Unborn w u → mine u) (hs : (a.images s.image).isSome = true)
    (howner : metaOf a s .kmipOwner ≠ .spec s)
    (hdek : metaOf a s .wrappedDEK = metaOf a i.spec .wrappedDEK) :
    (KeyService.cloneKey ks inst i.spec s).Meets machine who (apartContract s mine w)
      (IfOk fun _ x => Copied b ks inst i s a x) a := by
  have hnothing (h : ∀ p, stored b ks inst i.spec a = some p → stored b ks inst s a = some p) :
      (Program.pure () : Prog Unit).Meets machine who (apartContract s mine w)
        (IfOk fun _ x => Copied b ks inst i s a x) a :=
    fun x hr _ => (Copied.nothing h).alike (Later.alike hr)
  cases ks with
  | vault v => exact copied_of_images vaultClone_images vaultClone_key
  | azureKV v => exact copied_of_images azureClone_images azureClone_key
  | kmip e => exact kmipClone_copies hmine hs howner
  | secretsMetadata =>
    refine hnothing fun p hp => ?_
    rwa [stored, slot, hdek]
  | awsKMS k =>
    refine hnothing fun p hp => ?_
    rwa [stored, slot, hdek]
  | derived d => exact hnothing fun p hp => by cases hp
  | misconfigured m => exact hnothing fun p hp => by cases hp

end Copy

section Capture

variable {b : Backend} {i : ImageRef} {s : Spec} {mine : Text → Prop} {w a : World} {who : ℕ}
variable {x : World}

/-- What a snapshot with empty entries has captured of its image. -/
structure Captured (b : Backend) (i : ImageRef) (s : Spec) (a x : World) : Prop where
  provider : metaOf x s .kmsID = metaOf a i.spec .kmsID
  key : metaOf a i.spec .kmsID ≠ .empty → ∃ ks, resolve b (metaOf a i.spec .kmsID) = .pure ks ∧
    ∀ p, stored b ks i.inst i.spec a = some p → stored b ks i.inst s x = some p
  plain : metaOf a i.spec .kmsID = .empty → ∀ k ∈ descriptorKeys, metaOf x s k = .empty
  object : metaOf x s .kmipUID = .empty ∨ BornBetween a x (metaOf x s .kmipUID)

/-- The entries of a snapshot that are there before its key is copied. -/
structure Prepared (i : ImageRef) (s : Spec) (a x : World) : Prop where
  kept : Apart s (fun _ => False) a x
  provider : metaOf x s .kmsID = metaOf a i.spec .kmsID
  dek : metaOf x s .wrappedDEK = metaOf a i.spec .wrappedDEK
  uid : metaOf x s .kmipUID = .empty
  owner : metaOf x s .kmipOwner = .empty

theorem firstOf_empty (v : Text) : firstOf .empty v = v := by simp [firstOf]

theorem Captured.alike {y : World} (h : Captured b i s a x) (hy : Alike x y) :
    Captured b i s a y where
  provider := (hy.info _ _).trans h.provider
  key hne := by
    obtain ⟨ks, hks, hkey⟩ := h.key hne
    exact ⟨ks, hks, fun p hp => (hy.stored b ks i.inst s).trans (hkey p hp)⟩
  plain hempty k hk := (hy.info _ _).trans (h.plain hempty k hk)
  object := by
    have huid : metaOf y s .kmipUID = metaOf x s .kmipUID := hy.info _ _
    rw [huid]
    exact h.object.imp_right fun hborn => hborn.until hy.seq

theorem Prepared.captured {ks : KeyService} {y : World} (h : Prepared i s a y) (hs : s.image = i)
    (hsnap : s.snap ≠ none) (hw : (a.images i).isSome = true)
    (hne : metaOf a i.spec .kmsID ≠ .empty) (hks : resolve b (metaOf a i.spec .kmsID) = .pure ks)
    (hx : Copied b ks i.inst i s y x) : Captured b i s a x where
  provider := hx.provider.trans h.provider
  key _ := by
    subst hs
    refine ⟨ks, hks, fun p hp => hx.key p ?_⟩
    rwa [(h.kept.keysKept hsnap hw not_false).stored ks]
  plain hempty := absurd hempty hne
  object := by
    obtain huid | ⟨t, m, hm, hborn, huid⟩ := hx.object
    · exact .inl (huid.trans h.uid)
    · exact .inr ⟨t, m, Nat.le_trans h.kept.seq hm, hborn, huid⟩

theorem inheritEncryption_captures (hmine : ∀ u, Unborn w u → mine u) (hsnap : s.snap ≠ none)
    (hw : (a.images s.image).isSome = true)
    (hclean : ∀ k ∈ descriptorKeys, metaOf a s k = .empty)
    (hne : metaOf a s.image.spec .kmsID ≠ .empty) :
    (inheritEncryption b s.image.inst s.image.spec s).Meets machine who (apartContract s mine w)
      (IfOk fun _ x => Captured b s.image s a x) a := by
  have hI := apart_keyMatter s mine w
  have hsource : ∀ {x : World} (k : MetaKey), Apart s (fun _ => False) a x →
      metaOf x s.image.spec k = metaOf a s.image.spec k :=
    fun k hx => hx.info _ _ (.inr (Ne.symm hsnap))
  have hpresent : ∀ {x : World}, Apart s (fun _ => False) a x →
      (x.images s.image).isSome = true := fun hx => (hx.present _).trans hw
  rw [inheritEncryption, if_neg (by simp [ImageRef.spec])]
  refine hI.inherited rfl ?_ fun _ _ => trivial
  generalize firstOf (metaOf a s .keyID) (metaOf a s.image.spec .keyID) = found
  generalize hkeyID : (if found = .empty then Text.spec s.image.spec else found) = keyID
  refine imageMetaSet_apart ?_ fun _ _ => trivial
  have h₁ : Apart s (fun _ => False) a (a.setMeta s.image ⟨.keyID, s.snap⟩ keyID) :=
    (Apart.refl ..).setMeta .keyID keyID
  have hclean₁ : ∀ k ∈ descriptorKeys, k ≠ .keyID →
      metaOf (a.setMeta s.image ⟨.keyID, s.snap⟩ keyID) s k = .empty :=
    fun k hmem hk => (metaOf_setMeta_of_ne hk).trans (hclean k hmem)
  generalize a.setMeta s.image ⟨.keyID, s.snap⟩ keyID = a₁ at h₁ hclean₁ ⊢
  refine hI.inherited (v := metaOf a s.image.spec .kmsID) ?_ ?_ fun _ _ => trivial
  · rw [hclean₁ _ (by decide) (by decide), firstOf_empty, hsource _ h₁]
  refine imageMetaSetNonEmpty_apart (fun _ => ?_) (fun h => absurd h hne) fun _ _ => trivial
  have h₂ := h₁.setMeta .kmsID (metaOf a s.image.spec .kmsID)
  have hkms₂ := metaOf_setMeta_self (k := .kmsID) (v := metaOf a s.image.spec .kmsID) (hpresent h₁)
  have hclean₂ : ∀ k ∈ [MetaKey.wrappedDEK, .kmipUID, .kmipOwner], metaOf
      (a₁.setMeta s.image ⟨.kmsID, s.snap⟩ (metaOf a s.image.spec .kmsID)) s k = .empty := by
    intro k hk
    have hk' : k ∈ descriptorKeys ∧ k ≠ .keyID ∧ k ≠ .kmsID := by
      revert k
      decide
    exact (metaOf_setMeta_of_ne hk'.2.2).trans (hclean₁ k hk'.1 hk'.2.1)
  generalize a₁.setMeta s.image ⟨.kmsID, s.snap⟩ (metaOf a s.image.spec .kmsID) = a₂
    at h₂ hkms₂ hclean₂ ⊢
  refine hI.inherited (v := metaOf a s.image.spec .wrappedDEK) ?_ ?_ fun _ _ => trivial
  · rw [hclean₂ _ (by decide), firstOf_empty, hsource _ h₂]
  have hcopy : ∀ y, Prepared s.image s a y →
      (if metaOf a s.image.spec .kmsID ≠ .empty then do
        Registry.cloneKey b s.image.inst (metaOf a s.image.spec .kmsID) s.image.spec s
        return keyID
      else return keyID : Prog Text).Meets machine who (apartContract s mine w)
        (IfOk fun _ x => Captured b s.image s a x) y := by
    intro y hy
    rw [if_pos hne]
    unfold Registry.cloneKey
    obtain ⟨ks, hks⟩ | ⟨e, he⟩ := resolve_cases b (metaOf a s.image.spec .kmsID)
    · rw [hks]
      refine (cloneKey_copies (b := b) hmine (hpresent hy.kept) ?_ ?_).ends ?_
      · rw [hy.owner]
        exact fun h => by cases h
      · rw [hy.dek, hsource _ hy.kept]
      · intro _ x _ hx z hz _
        exact (hy.captured rfl hsnap hw hne hks hx).alike (Later.alike hz)
    · rw [he]
      exact fun _ _ _ => trivial
  refine imageMetaSetNonEmpty_apart (fun _ => ?_) (fun hd => ?_) fun _ _ => trivial
  · refine hcopy _ ⟨h₂.setMeta .wrappedDEK _, ?_, metaOf_setMeta_self (hpresent h₂), ?_, ?_⟩
    · exact (metaOf_setMeta_of_ne (by decide)).trans hkms₂
    · exact (metaOf_setMeta_of_ne (by decide)).trans (hclean₂ _ (by decide))
    · exact (metaOf_setMeta_of_ne (by decide)).trans (hclean₂ _ (by decide))
  · refine hcopy _ ⟨h₂, hkms₂, ?_, ?_, ?_⟩
    · rw [hd]
      exact hclean₂ _ (by decide)
    · exact hclean₂ _ (by decide)
    · exact hclean₂ _ (by decide)

theorem present_of_metaOf {t : Spec} {k : MetaKey} (h : metaOf a t k ≠ .empty) :
    (a.images t.image).isSome = true := by
  cases him : a.images t.image with
  | some im => rfl
  | none =>
    refine absurd ?_ h
    rw [metaOf, metaAt, him]

theorem captureKey_captures (hmine : ∀ u, Unborn w u → mine u) (hsnap : s.snap ≠ none)
    (hclean : ∀ k ∈ descriptorKeys, metaOf a s k = .empty) :
    (captureKey b s.image s).Meets machine who (apartContract s mine w)
      (IfOk fun _ x => Captured b s.image s a x) a := by
  refine (apart_keyMatter _ _ _).metaGet ?_ fun _ _ => trivial
  refine Meets.ite (fun hne => ?_) fun hempty x hx _ => ?_
  · have hw : (a.images s.image).isSome = true := present_of_metaOf (t := s.image.spec) hne
    apply (inheritEncryption_captures hmine hsnap hw hclean hne).ends
    exact fun _ x _ hx y hy _ => hx.alike (Later.alike hy)
  · rw [not_not] at hempty
    have hplain : Captured b s.image s a a :=
      ⟨(hclean _ (by decide)).trans hempty.symm, fun hne => absurd hempty hne, fun _ => hclean,
        .inl (hclean _ (by decide))⟩
    exact hplain.alike (Later.alike hx)

theorem Captured.since (h : Captured b i s a x) (ha : Alike w a) :
    Captured b i s w x := by
  have hmeta : ∀ k, metaOf a i.spec k = metaOf w i.spec k := fun k => ha.info _ _
  obtain ⟨hprovider, hkey, hplain, hobject⟩ := h
  rw [hmeta] at hprovider hkey hplain
  refine ⟨hprovider, fun hne => ?_, hplain, hobject.imp_right ?_⟩
  · obtain ⟨ks, hks, hcopy⟩ := hkey hne
    exact ⟨ks, hks, fun p hp => hcopy p ((ha.stored b ks i.inst i.spec).trans hp)⟩
  · rintro ⟨t, m, hm, hborn, hu⟩
    exact ⟨t, m, Nat.le_trans ha.seq hm, hborn, hu⟩

theorem keyless_of_reads {c : Cmd} (h : c.reads = true) : c.keyless = true := by
  cases c with
  | claimSnapName name source handle => rfl
  | releaseSnapName handle => rfl
  | rbdSnapCreate i n => rfl
  | rbdSnapRm t => rfl
  | _ => exact h

/-- The part of a create that comes after its checks. -/
def takeSnapshot (b : Backend) (cc : ClusterConfig) (req : CreateSnapshotRequest)
    (name : ObjectName) : Prog CreateSnapshotResponse := do
  let source := req.sourceVolume
  let claimed : Bool ← run (.claimSnapName req.name source (source.at name))
  if claimed = false then
    fail ⟨.alreadyExists, ["snapshot ", req.name,
      " already exists for a different source volume"]⟩
  else
    connArgs cc source.inst req.secrets
    tolerating .alreadyExists (← run (.rbdSnapCreate source name))
      ["ceph-rbd: snap create ", .spec (source.at name), ": "]
    captureKey b source (source.at name)
    let sizeMiB ← existingInfo source
    return ⟨source.at name, sizeMiB * mib⟩

theorem createSnapshot_cases (b : Backend) (req : CreateSnapshotRequest) :
    (∃ e, createSnapshot b req = fail e) ∨
      ∃ cc name, createSnapshot b req = takeSnapshot b cc req name := by
  unfold createSnapshot
  dsimp only
  obtain ⟨cc, _, hcc⟩ | ⟨e, he⟩ := eval_cluster b req.sourceVolume.inst
  · rw [hcc]
    cases namePrefix paramSnapshotNamePrefix (req.parameters paramSnapshotNamePrefix)
        snapNamePrefix with
    | error e => exact .inl ⟨e, rfl⟩
    | ok pre => exact .inr ⟨cc, shortName pre req.name, rfl⟩
  · rw [he]
    exact .inl ⟨e, rfl⟩

theorem takeSnapshot_yields (b : Backend) (cc : ClusterConfig) (req : CreateSnapshotRequest)
    (name : ObjectName) :
    (takeSnapshot b cc req name).Yields fun resp => resp.snapshot = req.sourceVolume.at name := by
  refine Yields.bind _ fun _ => Yields.ite (fun _ => trivial) fun _ => ?_
  refine Yields.bind _ fun _ => Yields.bind _ fun _ => ?_
  refine Yields.bind _ fun _ => Yields.bind _ fun _ => ?_
  exact Yields.bind _ fun _ => rfl

theorem takeSnapshot_captures {cc : ClusterConfig} {req : CreateSnapshotRequest}
    {name : ObjectName} (hs : s = req.sourceVolume.at name)
    (hclean : ∀ k ∈ descriptorKeys, metaOf w s k = .empty) :
    (takeSnapshot b cc req name).Meets machine who (apartContract s (Unborn w) w)
      (IfOk fun resp x => resp.snapshot = s ∧ Captured b s.image s w x) w := by
  subst hs
  have hI := apart_keyMatter (req.sourceVolume.at name) (Unborn w) w
  refine hI.keyless (Uses.ask rfl) (fun claimed x₁ hx₁ => ?_) fun _ _ => trivial
  refine Meets.ite (fun _ _ _ _ => trivial) fun _ => ?_
  refine hI.keyless ((connArgs_reads cc _ _).mono fun _ => keyless_of_reads) (fun _ x₂ hx₂ => ?_)
    fun _ _ => trivial
  refine hI.keyless (Uses.ask rfl) (fun r x₃ hx₃ => ?_) fun _ _ => trivial
  refine hI.keyless tolerating_uses (fun _ x₄ hx₄ => ?_) fun _ _ => trivial
  have hx : Alike w x₄ := ((hx₁.trans hx₂).trans hx₃).trans hx₄
  have hclean₄ : ∀ k ∈ descriptorKeys, metaOf x₄ (req.sourceVolume.at name) k = .empty :=
    fun k hk => (hx.info _ _).trans (hclean k hk)
  apply (captureKey_captures (b := b) (fun _ h => h) (Option.some_ne_none _) hclean₄).ends
  intro _ x₅ _ hx₅
  refine hI.keyless (existingInfo_uses rfl) (fun size x₆ hx₆ => ?_) fun _ _ => trivial
  intro x₇ hx₇ _
  exact ⟨rfl, (hx₅.since hx).alike (hx₆.trans (Later.alike hx₇))⟩

/-- A create that succeeds. What belongs to the new snapshot is all that has changed, and the
snapshot has captured the key of its source if its entries were empty. -/
theorem createSnapshot_captures {req : CreateSnapshotRequest} {os : List Outcome} {w' : World}
    {resp : CreateSnapshotResponse}
    (hrun : (machine.exec who (createSnapshot b req) os w).2 = (w', some (.ok resp)))
    (hclean : ∀ k ∈ descriptorKeys, metaOf w resp.snapshot k = .empty) :
    resp.snapshot.image = req.sourceVolume ∧ resp.snapshot.snap ≠ none ∧
      Apart resp.snapshot (Unborn w) w w' ∧
      Captured b req.sourceVolume resp.snapshot w w' := by
  obtain ⟨e, he⟩ | ⟨cc, name, htake⟩ := createSnapshot_cases b req
  · rw [he] at hrun
    cases congrArg Prod.snd hrun
  · rw [htake] at hrun
    have hsnapshot : resp.snapshot = req.sourceVolume.at name :=
      Machine.exec_yields (takeSnapshot_yields b cc req name) (congrArg Prod.snd hrun)
    obtain ⟨_, hapart, hcaptured⟩ :=
      (takeSnapshot_captures hsnapshot hclean).exec (.refl _ _ w) os fun _ _ => trivial
    have hstate : (machine.exec who (takeSnapshot b cc req name) os w).2.1 = w' :=
      congrArg Prod.fst hrun
    have himage : resp.snapshot.image = req.sourceVolume := by rw [hsnapshot]; rfl
    rw [hstate] at hapart hcaptured
    refine ⟨himage, ?_, hapart, ?_⟩
    · rw [hsnapshot]
      exact Option.some_ne_none _
    · rw [← himage]
      exact (hcaptured _ (congrArg Prod.snd hrun)).2

theorem known_copy {ks : KeyService} {inst : String} {t : Spec} {keyID keyID' p : Text}
    (hks : StoredKey ks) (hknown : known b ks inst t keyID w = some p)
    (hcopy : stored b ks inst t w = some p → stored b ks inst s x = some p) :
    known b ks inst s keyID' x = some p := by
  cases ks with
  | awsKMS key =>
    by_cases hkey : key = ""
    · simp [known, hkey] at hknown
    · simp only [known, hkey, if_false] at hknown ⊢
      exact hcopy hknown
  | secretsMetadata => exact hcopy hknown
  | vault v => exact hcopy hknown
  | azureKV v => exact hcopy hknown
  | kmip e => exact hcopy hknown
  | derived d => exact hks.elim
  | misconfigured m => exact hks.elim

end Capture

/-- A snapshot of an encrypted volume that has been staged resolves what the volume resolves,
whatever the world it is created in and whichever of its requests fail, if no failure is misread
and no entries were left under its name on the image. -/
theorem new_snapshot_captures_key (b : Backend) (req : CreateSnapshotRequest) (who : ℕ)
    (xs : List (Outcome × Bool)) (w w' : World) (resp : CreateSnapshotResponse)
    (htrue : TruthfulRun who (createSnapshot b req) xs w)
    (hrun : (tools.exec who (createSnapshot b req) xs w).2 = (w', some (.ok resp)))
    (hencrypted : metaOf w req.sourceVolume.spec .kmsID ≠ .empty) (ks : KeyService)
    (hks : resolve b (metaOf w req.sourceVolume.spec .kmsID) = .pure ks) (hstores : StoredKey ks)
    (keyID p : Text)
    (hstaged : resolved b req.sourceVolume.inst (metaOf w req.sourceVolume.spec .kmsID)
      req.sourceVolume.spec keyID noSecrets w = some p)
    (hclean : ∀ k ∈ descriptorKeys, metaOf w resp.snapshot k = .empty) :
    resolved b req.sourceVolume.inst (metaOf w' resp.snapshot .kmsID) resp.snapshot
      (metaOf w' resp.snapshot .keyID) noSecrets w' = some p := by
  obtain ⟨os, hstop, _⟩ := Machine.exec_truthful xs htrue
  obtain ⟨_, _, _, hprovider, hkey, _, _⟩ := createSnapshot_captures (hstop.trans hrun) hclean
  obtain ⟨ks', hks', hcopy⟩ := hkey hencrypted
  obtain rfl : ks = ks' := by
    rw [hks] at hks'
    injection hks'
  unfold resolved at hstaged ⊢
  rw [if_neg (fun h => h rfl), hks] at hstaged
  rw [if_neg (fun h => h rfl), hprovider, hks]
  exact known_copy hstores hstaged (hcopy p)

section Reuse

/-- One provider that keeps wrapped keys in the image metadata. -/
def wrappingBackend : Backend :=
  { krbdBackend with providers := fun id => if id = "k8s" then some .secretsMetadata else none }

/-- A device for each map. -/
def nextDevice : Env := ⟨0, fun _ w => w.mapped.length⟩

def stageRequest (resp : CreateVolumeResponse) (path : String) : NodeStageRequest :=
  ⟨resp.volume, path, "ext4", [], false, false, false, resp.context, "", noSecrets⟩

def copyImage : ImageRef := ⟨"ceph", "pool", shortName volNamePrefix "copy"⟩

/-- A snapshot with always the same name. -/
def daily (source : ImageRef) : CreateSnapshotRequest := ⟨"daily", source, noSecrets, noSecrets⟩

def dailySpec (source : ImageRef) : Spec := source.at (shortName snapNamePrefix "daily")

def createAndStage : Prog Unit := do
  let pvc ← createVolume wrappingBackend (encryptedRequest "pvc" "k8s")
  nodeStage wrappingBackend (stageRequest pvc "/pvc")

/-- The volume is cloned while it has a snapshot, the snapshot is deleted, and the clone is staged
and gets a new key. -/
def cloneAndRotate : Prog Unit := do
  createAndStage
  let snapshot ← createSnapshot wrappingBackend (daily pvcImage)
  let copy ← createVolume wrappingBackend (cloneInto "k8s")
  deleteSnapshot wrappingBackend ⟨snapshot.snapshot, noSecrets⟩
  nodeStage wrappingBackend (stageRequest copy "/copy")
  rotateEncryptionKey wrappingBackend ⟨copy.volume, "", noSecrets⟩

theorem new_snapshot_captures_key_staged :
    let w := (evalIn nextDevice createAndStage World.start).2
    let x := tools.exec 0 (createSnapshot wrappingBackend (daily pvcImage))
      (List.replicate 20 (.ok, false)) w
    resolved wrappingBackend "ceph" "k8s" pvcImage.spec .empty noSecrets w =
        some (.minted 0 1) ∧
      resolved wrappingBackend "ceph" (metaOf x.2.1 (dailySpec pvcImage) .kmsID)
        (dailySpec pvcImage) (metaOf x.2.1 (dailySpec pvcImage) .keyID) noSecrets x.2.1 =
          some (.minted 0 1) := by
  intro w x
  have hstaged : resolved wrappingBackend "ceph" "k8s" pvcImage.spec .empty noSecrets w =
      some (.minted 0 1) := by
    decide +kernel
  have hrun : (x.2.2.bind Except.toOption).map CreateSnapshotResponse.snapshot =
      some (dailySpec pvcImage) := by
    decide +kernel
  have hclean : ∀ k ∈ descriptorKeys, metaOf w (dailySpec pvcImage) k = .empty := by
    decide +kernel
  have hkms : metaOf w (daily pvcImage).sourceVolume.spec .kmsID = "k8s" := by
    decide +kernel
  refine ⟨hstaged, ?_⟩
  obtain ⟨resp, hresp, hsnapshot⟩ := succeeded_of_map hrun
  rw [← hsnapshot] at hclean ⊢
  exact new_snapshot_captures_key wrappingBackend (daily pvcImage) 0 _ w x.2.1 resp
    (Machine.truthfulRun_of_read (by decide)) (Prod.ext rfl hresp)
    (by rw [hkms]; decide) .secretsMetadata
    (by rw [hkms]; rfl) trivial .empty (.minted 0 1) (by rw [hkms]; exact hstaged) hclean

/-- A clone carries the entries of a snapshot of its source, and they outlive that snapshot. A new
snapshot of the clone with the same name takes the key in them, which the clone has had replaced
since. -/
theorem stale_entries_captured :
    let r := evalIn nextDevice cloneAndRotate World.start
    let x := evalIn nextDevice (createSnapshot wrappingBackend (daily copyImage)) r.2
    r.1.toOption = some () ∧ snapsOf r.2 copyImage = [] ∧ snapsOf r.2 pvcImage = [] ∧
      x.1.toOption.map CreateSnapshotResponse.snapshot = some (dailySpec copyImage) ∧
      resolved wrappingBackend "ceph" (metaOf r.2 copyImage.spec .kmsID) copyImage.spec
        (metaOf r.2 copyImage.spec .keyID) noSecrets r.2 = some (.minted 0 3) ∧
      resolved wrappingBackend "ceph" (metaOf x.2 (dailySpec copyImage) .kmsID)
        (dailySpec copyImage) (metaOf x.2 (dailySpec copyImage) .keyID) noSecrets x.2 =
          some (.minted 0 1) := by
  decide +kernel

end Reuse

end BardCsi.Ceph
