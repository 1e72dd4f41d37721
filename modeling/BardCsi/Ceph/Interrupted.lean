import BardCsi.Ceph.Inheritance
import BardCsi.Ceph.Stamps

/-!
Creates that stop at any point. Whatever a create has done when a request fails or the plugin
crashes, the image it is for can still be made or resumed, and a clone can still take over
the key of its source.
-/
namespace BardCsi.Ceph

open Effect Program

/-- The caller is alone, and reading may use up drawn keys. -/
def soleContract {ι : Type} (I : World → Prop) : Contract ι Outcome World where
  inv := I
  rely w w' := ∃ n, w' = { w with seq := n }
  assume _ _ _ := True
  guarantee _ _ _ := True
  rely_refl w := ⟨w.seq, rfl⟩
  rely_trans := by
    rintro _ _ _ ⟨m, rfl⟩ ⟨n, rfl⟩
    exact ⟨n, rfl⟩

/-- Nothing that `I` says is about the drawn keys. -/
def SeqFree (I : World → Prop) : Prop := ∀ w n, I w → I { w with seq := n }

section Rules

variable {α : Type} {I : World → Prop} {who : ℕ} {w : World} {f : Text → Prog α} {k : MetaKey}
variable {P : World → Prop}

theorem soleContract_reads (hI : SeqFree I) : QuietReads machine who (soleContract I) := by
  intro c hc a o hi _
  have hrely : ∃ n, (step who c o a).2 = { a with seq := n } := by
    obtain h | h := step_reads hc who o a
    · rw [h]
      exact ⟨a.seq, rfl⟩
    · exact ⟨_, h⟩
  refine ⟨trivial, ?_, hrely⟩
  obtain ⟨n, hn⟩ := hrely
  change I (step who c o a).2
  rw [hn]
  exact hI a n hi

theorem soleContract_fail (e : Err) :
    (Program.fail e : Prog α).Meets machine who (soleContract I) (fun _ _ => True) w :=
  fun _ _ _ => trivial

theorem inherited_meets {K : Contract Cmd Outcome World} {Q : Except Err α → World → Prop}
    (hq : QuietReads machine who K) (himages : ∀ a a', K.rely a a' → a'.images = a.images)
    {first second : Spec} (hok : ∀ a, K.rely w a → K.inv a →
      (f (firstOf (metaOf w first k) (metaOf w second k))).Meets machine who K Q a)
    (herr : ∀ e a, K.rely w a → K.inv a → Q (.error e) a) :
    ((inherited first second k).bind f).Meets machine who K Q w := by
  have hmeta : ∀ a s, K.rely w a → metaOf (id a) s k = metaOf w s k := by
    intro a s hr
    change metaAt a _ _ = metaAt w _ _
    rw [metaAt, metaAt, himages w a hr]
  have hfail : ∀ a e, K.rely w a → (Program.fail e : Prog α).Meets machine who K Q a :=
    fun a e hr a' hr' hi => herr e a' (K.rely_trans hr hr') hi
  unfold inherited
  rw [Program.bind_eq, Program.bind_assoc]
  apply imageMetaGetChecked_meets machine_answers hq
  · intro a hr hi
    rw [hmeta a first hr]
    by_cases hv : metaOf w first k = .empty
    · rw [hv, if_neg (not_not.mpr rfl)]
      apply imageMetaGetChecked_meets machine_answers hq
      · intro a' hr' hi'
        have := hok a' (K.rely_trans hr hr') hi'
        rw [hmeta a' second (K.rely_trans hr hr')]
        rwa [firstOf, if_neg (not_not.mpr hv)] at this
      · exact fun a' e hr' _ => hfail a' e (K.rely_trans hr hr')
    · rw [if_pos hv]
      have := hok a hr hi
      rwa [firstOf, if_pos hv] at this
  · exact fun a e hr _ => hfail a e hr

theorem uses_meets {p : Prog α} {allowed : Cmd → Prop} (hu : p.Uses allowed) (hP : SeqFree P)
    (hw : P w)
    (hstep : ∀ c o a, allowed c → I a → P a → I (step who c o a).2 ∧ P (step who c o a).2) :
    p.Meets machine who (soleContract I) (fun _ => P) w := by
  refine Meets.of_uses (P := P) hu hw ?_ ?_
  · rintro a _ ⟨n, rfl⟩ ha
    exact hP a n ha
  · intro c o a hc hi _ ha
    exact ⟨trivial, hstep c o a hc hi ha⟩

theorem sole_reads_then {β : Type} {p : Prog α} {g : α → Prog β} (hI : SeqFree I)
    (hu : p.Uses fun c => c.reads = true)
    (hg : ∀ x n, I { w with seq := n } → (g x).Meets machine who (soleContract I)
      (fun _ _ => True) { w with seq := n }) :
    (p.bind g).Meets machine who (soleContract I) (fun _ _ => True) w := by
  apply Meets.andThen (P := fun _ a => ∃ n, a = { w with seq := n })
  · refine uses_meets (P := fun a => ∃ n, a = { w with seq := n }) hu ?_ ⟨w.seq, rfl⟩ ?_
    · rintro _ m ⟨n, rfl⟩
      exact ⟨m, rfl⟩
    · rintro c o _ hc hi ⟨n, rfl⟩
      obtain ⟨_, hi', m, hm⟩ := soleContract_reads hI c hc _ o hi trivial
      exact ⟨hi', m, hm⟩
  · rintro x _ hi ⟨n, rfl⟩
    exact hg x n hi
  · exact fun _ _ _ _ => trivial

end Rules

section Inherit

variable {b : Backend} {inst : String} {snapshot : Option Spec} {S i : ImageRef} {src : Spec}
variable {who : ℕ} {w : World} {v κ : Text} {ks : KeyService} {k : MetaKey} {e : String} {p : Text}
variable {req : CreateVolumeRequest}

/-- The clone is there and can take over the key of `src`, its source. -/
structure HeirOf (b : Backend) (inst : String) (snapshot : Option Spec) (S i : ImageRef)
    (src : Spec) (w : World) : Prop where
  present : (w.images i).isSome = true
  source : keySource snapshot S w = src
  inherits : CanInherit b inst S i w src

/-- The clone is there, its provider is known, and that can copy the key. -/
structure CopyReady (inst : String) (snapshot : Option Spec) (S i : ImageRef) (src : Spec)
    (κ : Text) (ks : KeyService) (w : World) : Prop where
  present : (w.images i).isSome = true
  source : keySource snapshot S w = src
  provider : cloneKMS S i w src = κ
  copies : Copies inst S i w src ks

theorem keySource_setMeta (hsnap : ∀ s ∈ snapshot, s.image = S) :
    keySource snapshot S (w.setMeta i ⟨k, none⟩ v) = keySource snapshot S w := by
  cases snapshot with
  | none => rfl
  | some s =>
    unfold keySource
    dsimp only
    by_cases hs : s.snap = none
    · have hspec : s = S.spec := by
        rw [← hsnap s rfl]
        obtain ⟨image, snap⟩ := s
        obtain rfl : snap = none := hs
        rfl
      rw [hspec, ite_self, ite_self]
    · rw [show metaOf (w.setMeta i ⟨k, none⟩ v) s .kmsID = metaOf w s .kmsID from
        metaAt_setMeta_of_ne (.inr fun h => hs (congrArg QKey.snap h))]

theorem HeirOf.setMeta (hsnap : ∀ s ∈ snapshot, s.image = S) (hsrc : src.image = S)
    (hk : k.inherits = false) (h : HeirOf b inst snapshot S i src w) :
    HeirOf b inst snapshot S i src (w.setMeta i ⟨k, none⟩ v) := by
  have hsame := sameKeys_setMeta (S := S) (q := ⟨k, none⟩) (v := v) h.present hk
  refine ⟨by rw [setMeta_isSome, h.present], (keySource_setMeta hsnap).trans h.source, ?_⟩
  unfold CanInherit
  rw [hsame.cloneKMS hsrc]
  simp only [hsame.copies hsrc]
  exact h.inherits

theorem CopyReady.setKmip (hsnap : ∀ s ∈ snapshot, s.image = S)
    (hk : k = .kmipUID ∧ (w.kmip e v).isSome = true ∨ k = .kmipOwner ∧ v = .spec i.spec)
    (h : CopyReady inst snapshot S i src κ (.kmip e) w) :
    CopyReady inst snapshot S i src κ (.kmip e) (w.setMeta i ⟨k, none⟩ v) := by
  have hpresent : ((w.setMeta i ⟨k, none⟩ v).images i).isSome = true := by
    rw [setMeta_isSome, h.present]
  have hkms : .kmsID ≠ k := by
    obtain ⟨rfl, _⟩ | ⟨rfl, _⟩ := hk
    · decide
    · decide
  refine ⟨hpresent, (keySource_setMeta hsnap).trans h.source, ?_, ?_⟩
  · have hprovider := h.provider
    unfold cloneKMS at hprovider ⊢
    rwa [cloneMeta_present hpresent, metaOf_setMeta_of_key hkms, metaOf_setMeta_of_key hkms,
      ← cloneMeta_present (S := S) h.present]
  · have hcopies := h.copies
    simp only [Copies, setMeta_kmip] at hcopies ⊢
    rw [cloneMeta_present hpresent]
    rw [cloneMeta_present h.present] at hcopies
    obtain ⟨rfl, huid⟩ | ⟨rfl, rfl⟩ := hk
    · have howner : metaOf (w.setMeta i ⟨.kmipUID, none⟩ v) i.spec .kmipOwner =
          metaOf w i.spec .kmipOwner := metaOf_setMeta_of_key (by decide)
      rw [howner]
      by_cases hsrc : src = i.spec
      · subst hsrc
        rw [show metaOf (w.setMeta i ⟨.kmipUID, none⟩ v) i.spec .kmipUID = v from
          metaAt_setMeta_self h.present]
        exact .inr (.inr huid)
      · have hsame : metaOf (w.setMeta i ⟨.kmipUID, none⟩ v) src .kmipUID =
            metaOf w src .kmipUID := by
          apply metaAt_setMeta_of_ne
          by_contra hnot
          push Not at hnot
          apply hsrc
          obtain ⟨image, snap⟩ := src
          obtain ⟨rfl, hq⟩ := hnot
          rw [show snap = none from congrArg QKey.snap hq]
          rfl
        rwa [hsame]
    · right
      left
      exact metaAt_setMeta_self h.present

theorem CopyReady.registered (h : CopyReady inst snapshot S i src κ (.kmip e) w) :
    CopyReady inst snapshot S i src κ (.kmip e) (w.registered who e p) := by
  refine ⟨h.present, h.source, h.provider, ?_⟩
  obtain hempty | howner | hsome := h.copies
  · exact .inl hempty
  · exact .inr (.inl howner)
  · right
    right
    change ((w.setKmip e (.uid who w.seq) (some p)).kmip e (metaOf w src .kmipUID)).isSome = true
    by_cases hu : metaOf w src .kmipUID = .uid who w.seq
    · rw [hu, setKmip_kmip_self]
      rfl
    · rwa [setKmip_kmip_of_ne hu]

theorem snapshot_image (hS : req.cloneSourceImage = some S) :
    ∀ s ∈ req.snapshot, s.image = S := by
  intro s hs
  rw [CreateVolumeRequest.cloneSourceImage, hs] at hS
  exact Option.some.inj hS

end Inherit

section Create

variable {b : Backend} {req : CreateVolumeRequest} {i : ImageRef} {who : ℕ} {w : World} {α : Type}
variable {c : Cmd} {S : ImageRef}

/-- What the image is made from is there. -/
def Sourced (req : CreateVolumeRequest) (w : World) : Prop :=
  match req.snapshot, req.source with
  | some s, _ => ∃ im, w.images s.image = some im ∧
      (s.snap.bind (Assoc.get im.snaps)).isSome = true
  | none, some j => (w.images j).isSome = true
  | none, none => True

/-- The create of the image `i` can be taken up. -/
structure Resumable (b : Backend) (req : CreateVolumeRequest) (i : ImageRef) (w : World) :
    Prop where
  available : (w.images i).isSome = true ∨ Sourced req w
  size : req.isClone = false → ∀ im, w.images i = some im →
    im.sizeMiB = bytesToMiB req.capacityBytes
  key : req.parameters paramEncrypted = .lit "true" → ∀ S, req.cloneSourceImage = some S →
    Inheritable b req.inst req.snapshot S i w

/-- The requests of a create outside of the key stores. -/
def Cmd.works (req : CreateVolumeRequest) (i : ImageRef) : Cmd → Prop
  | .connArgs _ _ | .namespaceLs _ _ | .namespaceCreate _ _ _ | .rbdInfo _ | .imageMetaGet _ _
  | .backgroundFlatten _ _ | .rbdConfigImage _ _ _ | .rbdSnapCreate _ _ | .rbdSnapRm _ => True
  | .imageMetaSet j q _ => j = i ∧ (req.isClone = true → q.key.inherits = false)
  | .rbdCreate j size _ => j = i ∧ req.isClone = false ∧ size = bytesToMiB req.capacityBytes
  | .rbdClone parent j _ => j = i ∧ req.parent = some parent
  | .rbdResize _ _ => req.isClone = true
  | _ => False

def Cmd.drops : Cmd → Bool
  | .rbdSnapRm _ => true
  | _ => false

theorem onImage_stores {j : ImageRef} {f : Image → Except RunError α × World}
    (h : ∀ im, (f im).2.secrets = w.secrets ∧ (f im).2.kmip = w.kmip) :
    (onImage j w f).2.secrets = w.secrets ∧ (onImage j w f).2.kmip = w.kmip := by
  unfold onImage
  cases w.images j with
  | none => exact ⟨rfl, rfl⟩
  | some im => exact h im

theorem works_stores (hc : c.works req i) (o : Outcome) :
    (step who c o w).2.secrets = w.secrets ∧ (step who c o w).2.kmip = w.kmip := by
  obtain h | h := step_state who c o w
  · rw [h]
    exact ⟨rfl, rfl⟩
  rw [h]
  cases c with
  | imageMetaSet j q v => exact onImage_stores fun im => ⟨rfl, rfl⟩
  | imageMetaGet j q =>
    change (performMetaGet j q w).2.secrets = _ ∧ (performMetaGet j q w).2.kmip = _
    rw [performMetaGet_state]
    exact ⟨rfl, rfl⟩
  | rbdInfo j => exact onImage_stores fun im => ⟨rfl, rfl⟩
  | rbdConfigImage j k v => exact onImage_stores fun im => ⟨rfl, rfl⟩
  | rbdCreate j size args =>
    change (performCreate j size w).2.secrets = _ ∧ (performCreate j size w).2.kmip = _
    unfold performCreate
    split
    all_goals exact ⟨rfl, rfl⟩
  | rbdClone parent j args =>
    refine onImage_stores fun im => ?_
    split
    · exact ⟨rfl, rfl⟩
    · split
      all_goals exact ⟨rfl, rfl⟩
  | rbdSnapCreate j n =>
    refine onImage_stores fun im => ?_
    split
    all_goals exact ⟨rfl, rfl⟩
  | rbdSnapRm s =>
    refine onImage_stores fun im => ?_
    split
    · exact ⟨rfl, rfl⟩
    · split
      all_goals exact ⟨rfl, rfl⟩
  | rbdResize j n =>
    refine onImage_stores fun im => ?_
    split
    all_goals exact ⟨rfl, rfl⟩
  | connArgs inst user => exact ⟨rfl, rfl⟩
  | namespaceLs inst pool => exact ⟨rfl, rfl⟩
  | namespaceCreate inst pool n => exact ⟨rfl, rfl⟩
  | backgroundFlatten j d => exact ⟨rfl, rfl⟩
  | _ => exact hc.elim

theorem isClone_of_cloneSource (hS : req.cloneSourceImage = some S) :
    req.isClone = true := by
  unfold CreateVolumeRequest.cloneSourceImage at hS
  cases hs : req.snapshot with
  | some s => exact isClone_of_snapshot hs
  | none =>
    rw [hs] at hS
    exact isClone_of_source hS

theorem parent_image (hS : req.cloneSourceImage = some S) {parent : Spec}
    (hp : req.parent = some parent) : parent.image = S := by
  unfold CreateVolumeRequest.cloneSourceImage at hS
  unfold CreateVolumeRequest.parent at hp
  cases hs : req.snapshot with
  | some s =>
    rw [hs] at hS hp
    rw [← Option.some.inj hp]
    exact Option.some.inj hS
  | none =>
    rw [hs] at hS hp
    rw [show req.source = some S from hS] at hp
    rw [← Option.some.inj hp]
    rfl

/-- The image `i` is made, and no metadata of the kind `K` is written. -/
def imageFootprint (K : MetaKey → Prop) (req : CreateVolumeRequest) (i : ImageRef) : Footprint where
  sets j q _ := j = i ∧ ¬K q.key
  creates j := j = i ∧ req.isClone = false
  clones parent j := j = i ∧ req.parent = some parent
  removes _ := False

section Making

variable {K : MetaKey → Prop} {c : Cmd} {S : ImageRef} {q : QKey}

theorem making_present (hc : (imageFootprint K req i).allows c) (o : Outcome) {j : ImageRef}
    (hj : (w.images j).isSome = true) (hq : K q.key) :
    metaAt (step who c o w).2 j q = metaAt w j q := by
  refine step_metaAt who o ?_ ?_ ?_ hj
  · rintro rfl
    exact hc
  · rintro v rfl
    exact hc.2 hq
  · rintro rfl
    exact hc.2 hq

theorem making_source (hc : (imageFootprint K req i).allows c) (o : Outcome)
    (hS : req.cloneSourceImage = some S) (hq : K q.key) :
    metaAt (step who c o w).2 S q = metaAt w S q := by
  have hclone := isClone_of_cloneSource hS
  by_cases hbefore : (w.images S).isSome = true
  · exact making_present hc o hbefore hq
  have hnone : w.images S = none := by simpa using hbefore
  have hb := step_becomes (c := c) (w := w) (j := S) who o
  rw [metaAt, metaAt, hnone]
  cases hafter : (step who c o w).2.images S with
  | none => rfl
  | some im' =>
    rw [hafter] at hb
    cases hb with
    | kept h _ _ => cases hnone.symm.trans h
    | set _ h _ _ => cases hnone.symm.trans h
    | created hreq _ =>
      subst hreq
      cases hclone.symm.trans hc.2
    | cloned hreq _ hsource _ =>
      subst hreq
      rw [parent_image hS hc.2, hnone] at hsource
      cases hsource

theorem making_clone (hc : (imageFootprint K req i).allows c) (o : Outcome)
    (hS : req.cloneSourceImage = some S) {k : MetaKey} (hk : K k) :
    cloneMeta S i (step who c o w).2 k = cloneMeta S i w k := by
  have hclone := isClone_of_cloneSource hS
  by_cases hbefore : (w.images i).isSome = true
  · have hafter : ((step who c o w).2.images i).isSome = true := by
      apply step_present who o ?_ hbefore
      rintro rfl
      exact hc
    rw [cloneMeta_present hbefore, cloneMeta_present hafter]
    exact making_present hc o hbefore hk
  have hnone : w.images i = none := by simpa using hbefore
  have hsource : metaOf (step who c o w).2 S.spec k = metaOf w S.spec k :=
    making_source hc o hS hk
  have hb := step_becomes (c := c) (w := w) (j := i) who o
  unfold cloneMeta
  rw [if_neg hbefore]
  cases hafter : (step who c o w).2.images i with
  | none => exact hsource
  | some im' =>
    rw [hafter] at hb
    rw [Option.isSome_some, if_pos rfl]
    cases hb with
    | kept h _ _ => cases hnone.symm.trans h
    | set _ h _ _ => cases hnone.symm.trans h
    | created hreq _ =>
      subst hreq
      cases hclone.symm.trans hc.2
    | @cloned parent args pim _ hreq _ hparent hinfo =>
      subst hreq
      rw [parent_image hS hc.2] at hparent
      change metaAt _ i ⟨k, none⟩ = metaAt w S ⟨k, none⟩
      rw [metaAt, metaAt, hafter, hparent]
      exact congrFun hinfo _

end Making

theorem works_making (hc : c.works req i) (hclone : req.isClone = true) :
    (imageFootprint (fun k => k.inherits = true) req i).allows c := by
  cases c with
  | imageMetaSet j q v => exact ⟨hc.1, by simp [hc.2 hclone]⟩
  | rbdCreate j size args => exact ⟨hc.1, hc.2.1⟩
  | rbdClone parent j args => exact hc
  | imageMetaRemove j q => exact hc.elim
  | rbdRm j => exact hc.elim
  | _ => trivial

theorem works_sameKeys (hc : c.works req i) (o : Outcome) (hS : req.cloneSourceImage = some S) :
    SameKeys S i w (step who c o w).2 where
  source _ hq := making_source (works_making hc (isClone_of_cloneSource hS)) o hS hq
  clone _ hk := making_clone (works_making hc (isClone_of_cloneSource hS)) o hS hk
  secrets := (works_stores hc o).1
  kmip := (works_stores hc o).2

theorem works_size (hc : c.works req i) (o : Outcome) (hplain : req.isClone = false)
    (h : ∀ im, w.images i = some im → im.sizeMiB = bytesToMiB req.capacityBytes) :
    ∀ im, (step who c o w).2.images i = some im → im.sizeMiB = bytesToMiB req.capacityBytes := by
  intro im' him'
  have hcarried : ∀ im, w.images i = some im → Carried c i im im' →
      im'.sizeMiB = bytesToMiB req.capacityBytes := by
    intro im him hcarried
    obtain hsize | ⟨n, rfl⟩ := hcarried.size
    · rw [hsize, h im him]
    · have hclone : req.isClone = true := hc
      rw [hplain] at hclone
      cases hclone
  have hb := step_becomes (c := c) (w := w) (j := i) who o
  rw [him'] at hb
  cases hb with
  | kept him _ hc' => exact hcarried _ him hc'
  | set _ him _ hc' => exact hcarried _ him hc'
  | created hreq _ =>
    subst hreq
    exact hc.2.2
  | cloned hreq _ _ _ =>
    subst hreq
    have hparent := hc.2
    rw [parent_plain hplain] at hparent
    cases hparent

theorem works_sourced (hc : c.works req i) (hdrops : c.drops = false) (o : Outcome)
    (h : Sourced req w) : Sourced req (step who c o w).2 := by
  have hpresent : ∀ j, (w.images j).isSome = true →
      ((step who c o w).2.images j).isSome = true := by
    intro j hj
    apply step_present who o ?_ hj
    rintro rfl
    exact hc
  unfold Sourced at h ⊢
  split
  · next s hs =>
    simp only [hs] at h
    obtain ⟨im, him, hsnap⟩ := h
    obtain ⟨im', him'⟩ := Option.isSome_iff_exists.mp (hpresent s.image (by rw [him]; rfl))
    refine ⟨im', him', ?_⟩
    obtain ⟨n, hn⟩ : ∃ n, s.snap = some n := by
      cases hsn : s.snap with
      | some n => exact ⟨n, rfl⟩
      | none => simp [hsn] at hsnap
    rw [hn] at hsnap ⊢
    have hkept : ∀ im₁, w.images s.image = some im₁ → Carried c s.image im₁ im' →
        (Assoc.get im'.snaps n).isSome = true := by
      intro im₁ him₁ hcarried
      obtain rfl := Option.some.inj (him.symm.trans him₁)
      obtain hstays | rfl := hcarried.snaps n hsnap
      · exact hstays
      · cases hdrops
    have hb := step_becomes (c := c) (w := w) (j := s.image) who o
    rw [him'] at hb
    cases hb with
    | kept h _ hc' => exact hkept _ h hc'
    | set _ h _ hc' => exact hkept _ h hc'
    | created _ hbefore => cases him.symm.trans hbefore
    | cloned _ hbefore => cases him.symm.trans hbefore
  · next hs hj =>
    simp only [hs, hj] at h
    exact hpresent _ h
  · trivial

theorem Resumable.works (h : Resumable b req i w) (hc : c.works req i)
    (hdrops : c.drops = false ∨ (w.images i).isSome = true) (o : Outcome) :
    Resumable b req i (step who c o w).2 := by
  have hpresent : (w.images i).isSome = true → ((step who c o w).2.images i).isSome = true := by
    intro hi
    apply step_present who o ?_ hi
    rintro rfl
    exact hc
  refine ⟨?_, fun hplain => works_size hc o hplain (h.size hplain), fun henc S hS => ?_⟩
  · obtain hi | hs := h.available
    · exact .inl (hpresent hi)
    · obtain hdrops | hi := hdrops
      · exact .inr (works_sourced hc hdrops o hs)
      · exact .inl (hpresent hi)
  · exact ((works_sameKeys hc o hS).inheritable (snapshot_image hS)).mpr (h.key henc S hS)

theorem createImage_works :
    (createImage b req i).Uses fun c => c.works req i ∧ c.drops = false := by
  apply (createImage_makes b req i).mono
  intro c hc
  cases c with
  | imageMetaSet j q v =>
    obtain ⟨rfl, rfl, _⟩ := hc
    exact ⟨⟨rfl, fun _ => rfl⟩, rfl⟩
  | rbdCreate j size args => exact ⟨hc, rfl⟩
  | rbdClone parent j args => exact ⟨hc, rfl⟩
  | rbdResize j n => exact ⟨hc.2, rfl⟩
  | rbdInfo j => exact ⟨trivial, rfl⟩
  | imageMetaGet j q => exact ⟨trivial, rfl⟩
  | backgroundFlatten j d => exact ⟨trivial, rfl⟩
  | rbdSnapCreate j n => exact ⟨trivial, rfl⟩
  | _ => exact hc.elim

theorem dropTmpSnap_works : (dropTmpSnap req i).Uses (Cmd.works req i) := by
  unfold dropTmpSnap
  split
  · trivial
  · apply tool_uses (by trivial)
    intro r
    apply tolerating_uses.bind
    exact fun _ => backgroundFlatten_uses trivial

end Create

end BardCsi.Ceph
