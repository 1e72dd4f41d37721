import BardCsi.Ceph.ImageCalls
import BardCsi.Ceph.Tools

/-!
The stamp that tells what an image was made from. Only a write of the stamp changes it, and a
clone starts with the stamp of its parent. A create that finds the image of its volume goes by
the stamp alone, and one that makes the image stamps it afterwards.
-/
namespace BardCsi.Ceph

open Effect Program

def sourceKey : QKey := ⟨.source, none⟩

def Cmd.readsStamp : Cmd → Bool
  | .imageMetaGet _ q => q = sourceKey
  | _ => false

def Cmd.cloneOf : Cmd → Option ImageRef
  | .rbdClone _ i _ => some i
  | _ => none

/-- The request stamps `i` with `v`. -/
def Cmd.stamps (i : ImageRef) (v : Text) : Cmd → Bool
  | .imageMetaSet j q u => j = i && q = sourceKey && u = v
  | _ => false

/-- No read of a stamp fails, and a clone that takes effect gets its stamp before the call
stops. -/
def StampsKept (req : CreateVolumeRequest) (tr : Trace) : Prop :=
  (∀ e ∈ tr, e.cmd.readsStamp = true → e.outcome.fault = none) ∧
    ∀ e ∈ tr, ∀ i ∈ e.cmd.cloneOf, e.outcome.applies e.cmd = true →
      ∃ e' ∈ tr, e'.cmd.stamps i req.sourceDesc = true ∧ e'.outcome.applies e'.cmd = true ∧
        (e'.before.images i).isSome = true

/-- A request with a source does not meet an image without a stamp. -/
def MeetsStamp (b : Backend) (req : CreateVolumeRequest) (w : World) : Prop :=
  ∀ i ∈ createTarget b req, (w.images i).isSome = true → metaAt w i sourceKey = .empty →
    req.sourceDesc = .empty

instance (req : CreateVolumeRequest) (tr : Trace) : Decidable (StampsKept req tr) :=
  inferInstanceAs (Decidable (_ ∧ _))

instance (b : Backend) (req : CreateVolumeRequest) (w : World) :
    Decidable (MeetsStamp b req w) := by
  unfold MeetsStamp
  infer_instance

section Stamps

variable {who : ℕ} {c : Cmd} {o : Outcome} {w : World} {i j : ImageRef}

theorem stamp_step {u : Text} (hsets : ∀ q v, c = .imageMetaSet j q v ∨
      c = .imageMetaRemove j q ∧ v = .empty → q ≠ sourceKey ∨ v = u)
    (hbefore : (w.images j).isSome = true) (hu : metaAt w j sourceKey = u)
    (hafter : ((step who c o w).2.images j).isSome = true) :
    metaAt (step who c o w).2 j sourceKey = u := by
  have hb := step_becomes (c := c) (w := w) (j := j) who o
  unfold metaAt at hu ⊢
  cases h : (step who c o w).2.images j with
  | none =>
    rw [h] at hafter
    cases hafter
  | some im' =>
    rw [h] at hb
    cases hb with
    | kept him hinfo =>
      rw [him] at hu
      simpa [hinfo] using hu
    | @set im _ q v hreq him hinfo =>
      rw [him] at hu
      change im'.info sourceKey = u
      rw [hinfo]
      by_cases hq : q = sourceKey
      · obtain hne | rfl := hsets q v hreq
        · exact absurd hq hne
        · rw [hq, Function.update_self]
      · rw [Function.update_of_ne (Ne.symm hq)]
        exact hu
    | created hreq hnone =>
      rw [hnone] at hbefore
      cases hbefore
    | cloned hreq hnone hsource hinfo =>
      rw [hnone] at hbefore
      cases hbefore

/-- The image `j` is the one it was before the call, with the same stamp, or gone. -/
def Untouched (w : World) (j : ImageRef) (images : ImageRef → Option Image) : Prop :=
  ∀ im, images j = some im → (w.images j).isSome = true ∧ im.info sourceKey = metaAt w j sourceKey

theorem untouched_iff {a : World} : Untouched w j a.images ↔ ((a.images j).isSome = true →
    (w.images j).isSome = true ∧ metaAt a j sourceKey = metaAt w j sourceKey) := by
  unfold Untouched metaAt
  cases a.images j with
  | none => simp
  | some im => simp

/-- Writes that leave the image `j` and its stamp alone. -/
def Footprint.Spares (F : Footprint) (j : ImageRef) : Prop :=
  (∀ q v, F.sets j q v → q ≠ sourceKey) ∧ ¬F.creates j ∧ ∀ parent, ¬F.clones parent j

theorem untouched_step {F : Footprint} {a : World} (hF : F.Spares j) (hc : F.allows c)
    (h : Untouched w j a.images) : Untouched w j (step who c o a).2.images := by
  rw [untouched_iff] at h ⊢
  intro hafter
  have hbefore : (a.images j).isSome = true := by
    have hb := step_becomes (c := c) (w := a) (j := j) who o
    obtain ⟨im', him'⟩ := Option.isSome_iff_exists.mp hafter
    rw [him'] at hb
    cases hb with
    | kept him _ => simp [him]
    | set _ him _ => simp [him]
    | created hreq _ =>
      subst hreq
      exact absurd hc hF.2.1
    | cloned hreq _ _ _ =>
      subst hreq
      exact absurd hc (hF.2.2 _)
  obtain ⟨hw, hstamp⟩ := h hbefore
  refine ⟨hw, stamp_step ?_ hbefore hstamp hafter⟩
  rintro q v (rfl | ⟨rfl, rfl⟩)
  · exact .inl (hF.1 q v hc)
  · exact .inl (hF.1 q .empty hc)

theorem untouched_exec {α : Type} {F : Footprint} {p : Prog α} (hF : F.Spares j)
    (hp : F.Covers p) (xs : List (Outcome × Bool)) :
    Untouched w j (tools.exec who p xs w).2.1.images :=
  (Machine.exec_keeps (I := fun a : World => Untouched w j a.images) hp
    (untouched_iff.mpr fun h => ⟨h, rfl⟩)
    (fun _ x _ hc h => untouched_step (o := x.1) hF hc h) xs).1

end Stamps

section Create

variable {who : ℕ} {w : World} {b : Backend} {req : CreateVolumeRequest} {i : ImageRef} {v : Text}
variable {o : Outcome} {α : Type} {p : Prog α}

/-- Metadata of `i` other than its stamp, and nothing else. -/
def labelFootprint (i : ImageRef) : Footprint :=
  .metaOnly fun j q _ => j = i ∧ q.snap = none ∧ q.key ≠ .source

theorem labelFootprint_labels : (labelFootprint i).Labels i :=
  fun _ _ _ hsource => ⟨rfl, rfl, hsource⟩

theorem labelFootprint_spares (j : ImageRef) : (labelFootprint i).Spares j :=
  ⟨fun _ _ h hq => h.2.2 (hq ▸ rfl), fun h => h, fun _ h => h⟩

/-- The image is there, with the stamp `v`. -/
def HasStamp (i : ImageRef) (v : Text) (images : ImageRef → Option Image) : Prop :=
  ∃ im, images i = some im ∧ im.info sourceKey = v

theorem hasStamp_iff : HasStamp i v w.images ↔
    (w.images i).isSome = true ∧ metaAt w i sourceKey = v := by
  unfold HasStamp metaAt
  cases w.images i with
  | none => simp
  | some im => simp

theorem hasStamp_step {F : Footprint} {c : Cmd}
    (hsets : ∀ q u, F.sets i q u → q ≠ sourceKey ∨ u = v) (hremoves : ¬F.removes i)
    (hc : F.allows c) (h : HasStamp i v w.images) :
    HasStamp i v (step who c o w).2.images := by
  rw [hasStamp_iff] at h ⊢
  have hafter : ((step who c o w).2.images i).isSome = true := by
    apply step_present who o ?_ h.1
    rintro rfl
    exact hremoves hc
  refine ⟨hafter, stamp_step ?_ h.1 h.2 hafter⟩
  rintro q u (rfl | ⟨rfl, rfl⟩)
  · exact hsets q u hc
  · exact hsets q .empty hc

/-- How the reads of stamps end in a clean create. -/
def stampReads (c : Cmd) (o : Outcome) : Prop := c.readsStamp = true → o.fault = none

theorem imageInfo_present (hw : (w.images i).isSome = true) :
    (∃ size, (step who (.rbdInfo i) o w).1 = .ok size) ∨
      ∃ e, e ≠ .notFound ∧ (step who (.rbdInfo i) o w).1 = .error e := by
  obtain ⟨im, him⟩ := Option.isSome_iff_exists.mp hw
  obtain h | ⟨f, _, hf, _⟩ := step_cases who (.rbdInfo i) o w
  · left
    refine ⟨im.sizeMiB, ?_⟩
    rw [h]
    change (onImage i w _).1 = _
    rw [onImage, him]
  · right
    refine ⟨f.run, ?_, (Option.some.inj hf).symm⟩
    cases f with
    | error e => exact nofun
    | status s => exact nofun

theorem stamp_read (ho : o.fault = none) :
    (step who (.imageMetaGet i sourceKey) o w).1 = .ok (metaAt w i sourceKey) ∨
      (step who (.imageMetaGet i sourceKey) o w).1 = .error .notFound ∧
        metaAt w i sourceKey = .empty := by
  obtain h | h | ⟨e, h⟩ := step_metaGet_reply who o w i sourceKey
  · exact .inl h
  · exact .inr h
  · rw [step, ho] at h
    change (performMetaGet i sourceKey w).1 = .error (.other e) at h
    unfold performMetaGet onImage at h
    cases him : w.images i with
    | none =>
      rw [him] at h
      cases h
    | some im =>
      simp only [him] at h
      split_ifs at h
      cases h

theorem labels_keep_stamp {ok : Cmd → Outcome → Prop} (hp : (labelFootprint i).Covers p)
    {R : Prop} (hR : R) :
    p.Meets machine who (imageContract (HasStamp i v) ok) (IfOk fun _ _ => R) w := by
  refine (covered_meets (P := fun _ => True) hp trivial fun c o a hc hi _ _ =>
    ⟨?_, trivial⟩).mono fun r _ _ _ => ?_
  · exact hasStamp_step (fun q u hq => .inl ((labelFootprint_spares i).1 q u hq)) (fun h => h) hc hi
  · cases r with
    | ok x => exact hR
    | error e => trivial

theorem stamp_meets : (imageMetaGet i.spec .source).Meets machine who
    (imageContract (HasStamp i v) stampReads) (IfOk fun x _ => x = v) w := by
  apply Meets.quiet (imageContract_reads who _ rfl)
  intro a ha hi o ho
  have hstamp : metaAt a i sourceKey = v := (hasStamp_iff.mp hi).2
  obtain h | ⟨h, hempty⟩ := stamp_read (w := a) (i := i) (ho rfl)
  · rw [show (machine.step who (.imageMetaGet (metaAddr i.spec .source).1
      (metaAddr i.spec .source).2) o a).1 = _ from h]
    exact fun _ _ _ => hstamp
  · rw [show (machine.step who (.imageMetaGet (metaAddr i.spec .source).1
      (metaAddr i.spec .source).2) o a).1 = _ from h]
    exact fun _ _ _ => hempty.symm.trans hstamp

/-- A create that finds the image accepts no stamp, and that of its request. -/
def Accepts (req : CreateVolumeRequest) (v : Text) : Prop := v = .empty ∨ v = req.sourceDesc

theorem resumeImage_meets (existingMiB sizeMiB : Int) :
    (resumeImage req i existingMiB sizeMiB).Meets machine who
      (imageContract (HasStamp i v) stampReads)
      (IfOk fun _ _ => Accepts req v) w := by
  apply Meets.andThen stamp_meets
  · rintro recorded a _ rfl
    refine Meets.ite (fun _ _ _ _ => trivial) fun hsame => ?_
    have hdesc : Accepts req recorded := by
      by_cases he : recorded = .empty
      · exact .inl he
      · exact .inr (not_not.mp fun hne => hsame ⟨he, hne⟩)
    have hcovers : (labelFootprint i).Covers (if existingMiB = sizeMiB then
        Pure.pure existingMiB else if (!req.isClone) = true then
          fail ⟨.alreadyExists, ["volume ", req.name, " exists at " ++ toString existingMiB ++
            "MiB, requested " ++ toString sizeMiB ++ "MiB"]⟩
        else if existingMiB < sizeMiB then
          (resizeImage i sizeMiB).bind fun _ => Program.pure sizeMiB
        else Pure.pure existingMiB) := by
      refine Uses.ite trivial (Uses.ite trivial (Uses.ite ?_ trivial))
      exact (resizeImage_uses trivial).bind fun _ => trivial
    exact labels_keep_stamp hcovers hdesc
  · exact fun _ _ _ _ => trivial

theorem createAt_resumes (cc : ClusterConfig) (pool : String) :
    (createAt b cc req pool i).Meets machine who (imageContract (HasStamp i v) stampReads)
      (IfOk fun _ _ => Accepts req v) w := by
  rw [createAt_eq]
  apply Meets.andThen (P := IfOk fun _ _ => Accepts req v)
  · apply Meets.quiet (imageContract_reads who _ rfl)
    intro a _ hi o _
    obtain ⟨size, h⟩ | ⟨e, hne, h⟩ := imageInfo_present (o := o) (hasStamp_iff.mp hi).1
    · rw [show (machine.step who (.rbdInfo i) o a).1 = _ from h]
      exact resumeImage_meets _ _
    · rw [show (machine.step who (.rbdInfo i) o a).1 = _ from h]
      cases e with
      | notFound => exact absurd rfl hne
      | _ => exact fun _ _ _ => trivial
  · intro finalMiB a _ hdesc
    have hcovers := finishVolume_covers b req (labelFootprint_labels (i := i)) cc pool finalMiB
    exact labels_keep_stamp hcovers hdesc
  · exact fun _ _ _ _ => trivial

theorem createVolume_resumes (hi : createTarget b req = some i) :
    (createVolume b req).Meets machine who (imageContract (HasStamp i v) stampReads)
      (IfOk fun _ _ => Accepts req v) w := by
  apply createVolume_meets
  intro cc pool j a hj _
  rw [hi] at hj
  exact Option.some.inj hj ▸ createAt_resumes cc pool

theorem createAt_volume {cc : ClusterConfig} {pool : String} :
    (createAt b cc req pool i).Yields fun resp => resp.volume = i := by
  rw [createAt_eq]
  apply Yields.bind
  intro finalMiB
  unfold finishVolume
  repeat'
    first
    | apply Yields.bind
    | intro _
  rfl

theorem createVolume_volume :
    (createVolume b req).Yields fun resp => createTarget b req = some resp.volume := by
  obtain ⟨e, hfail⟩ | ⟨i, cc, pool, ns, hi, hon⟩ := createVolume_cases b req
  · rw [hfail]
    trivial
  · rw [hon, hi]
    have hat : (createAt b cc req pool i).Yields fun resp => some i = some resp.volume :=
      createAt_volume.mono fun resp h => by rw [h]
    apply Yields.bind
    intro _
    split
    · exact Yields.bind _ fun _ => hat
    · exact hat

theorem source_plain (h : req.isClone = false) : req.snapshot = none ∧ req.source = none := by
  simp only [CreateVolumeRequest.isClone, Bool.or_eq_false_iff, Option.isSome_eq_false_iff,
    Option.isNone_iff_eq_none] at h
  simp [CreateVolumeRequest.snapshot, CreateVolumeRequest.source, h.1, h.2]

theorem sourceDesc_plain (h : req.isClone = false) : req.sourceDesc = .empty := by
  simp [CreateVolumeRequest.sourceDesc, source_plain h]

theorem parent_plain (h : req.isClone = false) : req.parent = none := by
  simp [CreateVolumeRequest.parent, source_plain h]

theorem plain_unstamped (hp : (createFootprint req i).Covers p) (hplain : req.isClone = false)
    (hw : w.images i = none) (os : List Outcome) :
    metaAt (machine.exec who p os w).2.1 i sourceKey = .empty := by
  have hstart : metaAt w i sourceKey = .empty := by rw [metaAt, hw]
  refine (Machine.exec_keeps (I := fun a : World => metaAt a i sourceKey = .empty) hp hstart
    (fun c o a hc ha => ?_) os).1
  have hb := step_becomes (c := c) (w := a) (j := i) who o
  change metaAt (step who c o a).2 i sourceKey = _
  unfold metaAt at ha ⊢
  cases h : (step who c o a).2.images i with
  | none => rfl
  | some im' =>
    rw [h] at hb
    cases hb with
    | kept him hinfo =>
      rw [him] at ha
      simpa [hinfo] using ha
    | @set im _ q v hreq him hinfo =>
      rw [him] at ha
      have hq : sourceKey ≠ q := by
        rintro rfl
        obtain rfl | ⟨rfl, _⟩ := hreq
        · exact absurd (hc.2.2.2 rfl).1 (by simp [hplain])
        · exact absurd (hc.2.2.2 rfl).1 (by simp [hplain])
      simpa [hinfo, Function.update_of_ne hq] using ha
    | created hreq hnone => rfl
    | cloned hreq hnone hsource hinfo =>
      subst hreq
      have hparent : req.parent = some _ := hc.2
      rw [parent_plain hplain] at hparent
      cases hparent

theorem stamps_iff {c : Cmd} :
    c.stamps i v = true ↔ c = .imageMetaSet i sourceKey v := by
  cases c with
  | imageMetaSet j q u => simp [Cmd.stamps, and_assoc]
  | _ => simp [Cmd.stamps]

theorem stamp_written (ho : o.applies (.imageMetaSet i sourceKey v) = true)
    (hw : (w.images i).isSome = true) :
    HasStamp i v (step who (.imageMetaSet i sourceKey v) o w).2.images := by
  rw [step_applied ho, hasStamp_iff]
  change ((performMetaSet i sourceKey v w).2.images i).isSome = true ∧ _
  have hstate : (perform who o.pick (.imageMetaSet i sourceKey v) w).2 =
      w.setMeta i sourceKey v := performMetaSet_state
  rw [hstate, performMetaSet_state]
  exact ⟨by rw [setMeta_isSome, hw], metaAt_setMeta_self hw⟩

theorem clone_stamped (hp : (createFootprint req i).Covers p) (hclone : req.isClone = true)
    (hw : w.images i = none) (os : List Outcome)
    (hkept : StampsKept req (machine.exec who p os w).1)
    (hend : ((machine.exec who p os w).2.1.images i).isSome = true) :
    HasStamp i req.sourceDesc (machine.exec who p os w).2.1.images := by
  have hallowed := (Machine.exec_keeps (M := machine) (t := who) (s := w)
    (I := fun _ : World => True) hp trivial (fun _ _ _ _ _ => trivial) os).2
  obtain ⟨e, he, hbefore, hafter⟩ := Machine.exec_crossing
    (P := fun a : World => (a.images i).isSome = true) (by simp [hw]) hend
  have hcloned : e.cmd.cloneOf = some i ∧ e.outcome.applies e.cmd = true := by
    have happlies : e.outcome.applies e.cmd = true := by
      by_contra hnot
      rw [Machine.after, show (machine.step who e.cmd e.outcome e.before).2 = e.before from
        step_unapplied (by simpa using hnot)] at hafter
      exact hbefore hafter
    have hb := step_becomes (c := e.cmd) (w := e.before) (j := i) who e.outcome
    obtain ⟨im, him⟩ := Option.isSome_iff_exists.mp hafter
    rw [show (step who e.cmd e.outcome e.before).2.images i = some im from him] at hb
    refine ⟨?_, happlies⟩
    have hcmd := (hallowed e he).1
    cases hb with
    | kept h _ => simp [h] at hbefore
    | set _ h _ => simp [h] at hbefore
    | created hreq _ =>
      rw [hreq] at hcmd
      have hplain : req.isClone = false := hcmd.2
      rw [hclone] at hplain
      cases hplain
    | cloned hreq _ _ _ => rw [hreq, Cmd.cloneOf]
  obtain ⟨e', he', hstamps, happlies, hpresent⟩ := hkept.2 e he i hcloned.1 hcloned.2
  refine Machine.exec_established (P := fun a : World => HasStamp i req.sourceDesc a.images) hp ?_
    ⟨e', he', ?_⟩
  · intro c o a hc ha
    apply hasStamp_step (F := createFootprint req i) ?_ (fun h => h) hc ha
    intro q u hq
    by_cases hk : q.key = .source
    · exact .inr (hq.2.2.2 hk).2
    · exact .inl fun h => hk (h ▸ rfl)
  · rw [stamps_iff] at hstamps
    rw [hstamps] at happlies
    rw [Machine.after, hstamps]
    exact stamp_written happlies hpresent

def Present (i : ImageRef) (images : ImageRef → Option Image) : Prop := (images i).isSome = true

theorem labels_keep_present (hp : (labelFootprint i).Covers p) (hw : Present i w.images) :
    p.Meets machine who steadyImages (fun _ a => Present i a.images) w := by
  refine covered_meets (P := Present i) hp hw fun c o a hc _ _ ha => ⟨trivial, ?_⟩
  apply step_present who o ?_ ha
  rintro rfl
  exact hc

theorem imageInfo_meets : (imageInfo i).Meets machine who steadyImages
    (IfOk fun x a => x.isSome = true → Present i a.images) w := by
  intro a _ _ o _
  refine ⟨trivial, trivial, ?_⟩
  have hstate : (step who (.rbdInfo i) o a).2.images = a.images := step_reads_images rfl o a
  cases hr : (step who (.rbdInfo i) o a).1 with
  | error e =>
    rw [show (machine.step who (.rbdInfo i) o a).1 = _ from hr]
    cases e with
    | notFound => exact fun _ _ _ h => nomatch h
    | _ => exact fun _ _ _ => trivial
  | ok size =>
    rw [show (machine.step who (.rbdInfo i) o a).1 = _ from hr]
    have hpresent : Present i a.images := by
      by_contra hnone
      have hnone : a.images i = none := by simpa [Present] using hnone
      obtain h | ⟨f, _, hf, _⟩ := step_cases who (.rbdInfo i) o a
      · rw [h] at hr
        change (onImage i a _).1 = .ok size at hr
        rw [onImage, hnone] at hr
        cases hr
      · rw [hr] at hf
        cases hf
    intro a' (hsame : a'.images = _) _ _
    rw [hsame]
    change Present i (step who (.rbdInfo i) o a).2.images
    rwa [hstate]

theorem existingInfo_present : (existingInfo i).Meets machine who steadyImages
    (IfOk fun _ a => Present i a.images) w := by
  apply imageInfo_meets.andThen
  · intro found a _ hpresent
    cases found with
    | none => exact fun _ _ _ => trivial
    | some size =>
      intro a' (hsame : a'.images = _) _
      change Present i a'.images
      rw [hsame]
      exact hpresent rfl
  · exact fun _ _ _ _ => trivial

theorem step_create_present {size : Int} {args : List Text}
    (h : (step who (.rbdCreate i size args) o w).1 = .ok () ∨
      (step who (.rbdCreate i size args) o w).1 = .error .alreadyExists) :
    Present i (step who (.rbdCreate i size args) o w).2.images := by
  obtain hs | ⟨f, _, hf, _⟩ := step_cases who (.rbdCreate i size args) o w
  · rw [hs]
    change Present i (performCreate i size w).2.images
    unfold performCreate
    split
    next hsome => exact hsome
    next => exact congrArg Option.isSome (setImage_images_self (w := w) (i := i))
  · have hreply : (step who (.rbdCreate i size args) o w).1 = .error f.run :=
      (Option.some.inj hf).symm
    rw [hreply] at h
    obtain h | h := h
    · cases h
    · cases f with
      | error e => cases h
      | status s => cases h

theorem provision_present (hplain : req.isClone = false) (sizeMiB : Int) :
    (provision b req i sizeMiB).Meets machine who steadyImages
      (IfOk fun _ a => Present i a.images) w := by
  unfold provision
  rw [(source_plain hplain).1, (source_plain hplain).2]
  intro a _ _ o _
  refine ⟨trivial, trivial, ?_⟩
  cases hr : (step who (.rbdCreate i sizeMiB (createParams req.parameters)) o a).1 with
  | ok u =>
    rw [show (machine.step who (.rbdCreate i sizeMiB _) o a).1 = _ from hr]
    intro a' (hsame : a'.images = _) _
    change Present i a'.images
    rw [hsame]
    exact step_create_present (.inl hr)
  | error e =>
    rw [show (machine.step who (.rbdCreate i sizeMiB _) o a).1 = _ from hr]
    refine Meets.ite (fun he => ?_) fun _ _ _ _ => trivial
    intro a' (hsame : a'.images = _) _
    change Present i a'.images
    rw [hsame]
    exact step_create_present (.inr (he ▸ hr))

theorem createImage_present : (createImage b req i).Meets machine who steadyImages
    (IfOk fun _ a => Present i a.images) w := by
  apply imageInfo_meets.andThen
  · intro found a _ hpresent
    cases found with
    | some size => exact (labels_keep_present (resumeImage_covers req i _ _) (hpresent rfl)).ifOk
    | none =>
      by_cases hclone : req.isClone = true
      · apply (steadyImages_any (provision b req i _)).andThen
        · intro _ a' _ _
          rw [if_pos hclone]
          apply existingInfo_present.andThen
          · intro cloneMiB a'' _ hpresent
            refine (labels_keep_present ?_ hpresent).ifOk
            exact Uses.ite ((resizeImage_uses trivial).bind fun _ => trivial) trivial
          · exact fun _ _ _ _ => trivial
        · exact fun _ _ _ _ => trivial
      · apply (provision_present (by simpa using hclone) _).andThen
        · intro _ a' _ hpresent
          rw [if_neg hclone]
          intro a'' (hsame : a''.images = _) _
          change Present i a''.images
          rw [hsame]
          exact hpresent
        · exact fun _ _ _ _ => trivial
  · exact fun _ _ _ _ => trivial

theorem createVolume_present : (createVolume b req).Meets machine who steadyImages
    (IfOk fun _ a => ∀ i, createTarget b req = some i → Present i a.images) w := by
  apply createVolume_meets
  intro cc pool i a htarget _
  rw [createAt_eq]
  apply createImage_present.andThen
  · intro finalMiB a' _ hpresent
    have hcovers := finishVolume_covers b req (labelFootprint_labels (i := i)) cc pool finalMiB
    apply (labels_keep_present hcovers hpresent).ifOk.mono
    intro r a'' _ h
    cases r with
    | error e => trivial
    | ok resp =>
      intro j hj
      rw [htarget] at hj
      exact Option.some.inj hj ▸ h
  · exact fun _ _ _ _ => trivial

/-- Everything but the image `j`. -/
def sparing (j : ImageRef) : Footprint where
  sets i _ _ := i ≠ j
  creates i := i ≠ j
  clones _ i := i ≠ j
  removes _ := True

theorem sparing_spares (j : ImageRef) : (sparing j).Spares j :=
  ⟨fun _ _ h => absurd rfl h, fun h => h rfl, fun _ h => h rfl⟩

theorem createVolume_sparing {j : ImageRef} (hj : createTarget b req ≠ some j) :
    (sparing j).Covers (createVolume b req) := by
  apply createVolume_covers
  intro i hi c hc
  have hne : i ≠ j := fun h => hj (h ▸ hi)
  cases c with
  | imageMetaSet i' q v => exact hc.1 ▸ hne
  | imageMetaRemove i' q => exact hc.1 ▸ hne
  | rbdCreate i' size args => exact hc.1 ▸ hne
  | rbdClone parent i' args => exact hc.1 ▸ hne
  | _ => trivial

theorem createVolume_footprint (hi : createTarget b req = some i) :
    (createFootprint req i).Covers (createVolume b req) := by
  apply createVolume_covers
  intro j hj c hc
  rw [hi] at hj
  exact Option.some.inj hj ▸ hc

/-- What a clean create leaves at the image it is for: the stamp that was there, or that of its
request on an image it has made. -/
theorem create_stamp (hi : createTarget b req = some i) (os : List Outcome)
    (hkept : StampsKept req (machine.exec who (createVolume b req) os w).1)
    (hend : Present i (machine.exec who (createVolume b req) os w).2.1.images) :
    metaAt (machine.exec who (createVolume b req) os w).2.1 i sourceKey =
      if (w.images i).isSome then metaAt w i sourceKey else req.sourceDesc := by
  split
  next hsome =>
    have hstart : HasStamp i (metaAt w i sourceKey) w.images := hasStamp_iff.mpr ⟨hsome, rfl⟩
    have hcall : (createVolume b req).Meets machine who _ _ w :=
      createVolume_resumes (v := metaAt w i sourceKey) hi
    obtain ⟨_, hinv, _⟩ := hcall.exec hstart os fun e he => hkept.1 e he
    exact (hasStamp_iff.mp hinv).2
  next hnone =>
    have hnone : w.images i = none := by simpa using hnone
    have hcovers := createVolume_footprint hi
    cases hclone : req.isClone with
    | false => rw [plain_unstamped hcovers hclone hnone os, sourceDesc_plain hclone]
    | true => exact (hasStamp_iff.mp (clone_stamped hcovers hclone hnone os hkept hend)).2

theorem create_stamp_ok (hi : createTarget b req = some i) {os : List Outcome}
    (hmeets : MeetsStamp b req w)
    (hkept : StampsKept req (machine.exec who (createVolume b req) os w).1)
    {resp : CreateVolumeResponse}
    (hok : (machine.exec who (createVolume b req) os w).2.2 = some (.ok resp)) :
    Present i (machine.exec who (createVolume b req) os w).2.1.images ∧
      ((w.images i).isSome = true → metaAt w i sourceKey = req.sourceDesc) := by
  refine ⟨?_, fun hsome => ?_⟩
  · obtain ⟨_, _, hres⟩ :=
      (createVolume_present (w := w) (b := b)).exec trivial os fun _ _ => trivial
    exact hres _ hok i hi
  · have hstart : HasStamp i (metaAt w i sourceKey) w.images := hasStamp_iff.mpr ⟨hsome, rfl⟩
    have hcall : (createVolume b req).Meets machine who _ _ w :=
      createVolume_resumes (v := metaAt w i sourceKey) hi
    obtain ⟨_, _, hres⟩ := hcall.exec hstart os fun e he => hkept.1 e he
    obtain hempty | hdesc := (hres _ hok : Accepts req _)
    · rw [hempty, hmeets i hi hsome hempty]
    · exact hdesc

end Create

end BardCsi.Ceph
