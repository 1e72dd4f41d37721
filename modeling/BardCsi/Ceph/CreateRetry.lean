import BardCsi.Ceph.ContentSource
import BardCsi.Ceph.Interrupted

/-!
Repeating a create. A create that works when nothing fails can be taken up wherever an attempt
of it stops. The repeated request returns the volume with its own source on it exactly if the
attempt left no image, or left one that has the stamp of the request already.
-/
namespace BardCsi.Ceph

open Effect Program

section Eval

variable {E : Env} {b : Backend} {req : CreateVolumeRequest} {i : ImageRef} {w : World} {im : Image}
variable {n : Int} {α : Type} {p : Prog α}

theorem eval_imageInfo :
    evalIn E (imageInfo i) w = (.ok ((w.images i).map Image.sizeMiB), w) := by
  have hstep : alone E (.rbdInfo i) w = onImage i w fun im => (.ok im.sizeMiB, w) := rfl
  cases him : w.images i with
  | none => exact eval_run (hstep.trans (by rw [onImage, him]; rfl))
  | some im => exact eval_run (hstep.trans (by rw [onImage, him]; rfl))

theorem eval_createImage_found (him : w.images i = some im) :
    evalIn E (createImage b req i) w =
      evalIn E (resumeImage req i im.sizeMiB (bytesToMiB req.capacityBytes)) w :=
  (eval_bind_of eval_imageInfo).trans (by rw [him]; rfl)

theorem eval_createImage_absent (hw : w.images i = none) :
    evalIn E (createImage b req i) w =
      evalIn E (provisionImage b req i (bytesToMiB req.capacityBytes)) w :=
  (eval_bind_of eval_imageInfo).trans (by rw [hw]; rfl)

theorem eval_resizeImage (him : w.images i = some im) (hn : im.sizeMiB ≤ n) :
    ∃ w', evalIn E (resizeImage i n) w = (.ok (), w') := by
  have hstep : performResize i n w = (.ok (), w.setImage i { im with sizeMiB := n }) := by
    unfold performResize
    rw [onImage, him]
    dsimp only
    rw [if_neg (Int.not_lt.mpr hn)]
    rfl
  exact ⟨_, eval_run (c := .rbdResize i n) hstep⟩

/-- An image that is found is taken exactly if its stamp is accepted and, without a source, its
size is the one that is asked for. -/
theorem eval_resumeImage_ok_iff (him : w.images i = some im) :
    (∃ x w', evalIn E (resumeImage req i im.sizeMiB n) w = (.ok x, w')) ↔
      Accepts req (metaAt w i sourceKey) ∧ (req.isClone = false → im.sizeMiB = n) := by
  have hread : evalIn E (imageMetaGet i.spec .source) w = (.ok (metaAt w i sourceKey), w) :=
    eval_imageMetaGet i.spec .source
  unfold resumeImage
  rw [show evalIn E ((imageMetaGet i.spec .source) >>= _) w = _ from eval_bind_of hread]
  generalize metaAt w i sourceKey = v
  unfold Accepts
  by_cases hv : v ≠ .empty ∧ v ≠ req.sourceDesc
  · rw [if_pos hv]
    refine iff_of_false ?_ fun h => h.1.elim hv.1 hv.2
    rintro ⟨x, w', h⟩
    cases h
  rw [if_neg hv]
  have haccepts : v = .empty ∨ v = req.sourceDesc := by
    by_contra hnot
    push Not at hnot
    exact hv hnot
  by_cases hsize : im.sizeMiB = n
  · rw [if_pos hsize]
    exact iff_of_true ⟨_, _, rfl⟩ ⟨haccepts, fun _ => hsize⟩
  rw [if_neg hsize]
  cases hclone : req.isClone with
  | false =>
    refine iff_of_false ?_ fun h => hsize (h.2 rfl)
    rintro ⟨x, w', h⟩
    cases h
  | true =>
    refine iff_of_true ?_ ⟨haccepts, fun h => by cases h⟩
    rw [if_neg (by decide)]
    by_cases hlt : im.sizeMiB < n
    · rw [if_pos hlt]
      obtain ⟨w', h⟩ := eval_resizeImage (E := E) him (Int.le_of_lt hlt)
      exact ⟨n, w', eval_bind_of h⟩
    · rw [if_neg hlt]
      exact ⟨_, _, rfl⟩

theorem eval_clone {parent : Spec} {args : List Text} (hparent : w.images parent.image = some im)
    (hsnap : (parent.snap.bind (Assoc.get im.snaps)).isSome = true) (hw : w.images i = none) :
    ∃ im', alone E (.rbdClone parent i args) w = (.ok (), w.setImage i im') := by
  obtain ⟨s, hs⟩ := Option.isSome_iff_exists.mp hsnap
  refine ⟨⟨s.sizeMiB, im.info, s.content, []⟩, ?_⟩
  change performClone parent i w = _
  unfold performClone
  rw [onImage, hparent]
  dsimp only
  rw [hs]
  dsimp only
  rw [if_neg (by simp [hw])]
  rfl

theorem eval_snapCreate {j : ImageRef} {n : ObjectName} (hj : (w.images j).isSome = true) :
    ∃ r w' im, alone E (.rbdSnapCreate j n) w = (r, w') ∧
      (r = .ok () ∨ r = .error .alreadyExists) ∧ w'.images j = some im ∧
      (Assoc.get im.snaps n).isSome = true ∧ ∀ k, k ≠ j → w'.images k = w.images k := by
  obtain ⟨im, him⟩ := Option.isSome_iff_exists.mp hj
  have hstep : alone E (.rbdSnapCreate j n) w = performSnapCreate j n w := rfl
  unfold performSnapCreate at hstep
  rw [onImage, him] at hstep
  dsimp only at hstep
  by_cases hs : (Assoc.get im.snaps n).isSome = true
  · rw [if_pos hs] at hstep
    exact ⟨_, w, im, hstep, .inr rfl, him, hs, fun _ _ => rfl⟩
  · rw [if_neg hs] at hstep
    refine ⟨_, _, _, hstep, .inl rfl, setImage_images_self, ?_,
      fun k hk => setImage_images_of_ne hk⟩
    rw [Assoc.get_set_self]
    rfl

theorem eval_stamp (him : w.images i = some im) (v : Text) :
    ∃ w', evalIn E (imageMetaSet i.spec .source v) w = (.ok (), w') ∧ HasStamp i v w'.images := by
  have hw : (w.images i).isSome = true := by rw [him]; rfl
  refine ⟨_, eval_imageMetaSet .source v hw, ?_⟩
  exact hasStamp_iff.mpr ⟨by rw [setMeta_isSome]; exact hw, metaAt_setMeta_self hw⟩

theorem eval_scheduleFlatten : evalIn E (scheduleFlatten b i) w = (.ok (), w) := by
  unfold scheduleFlatten
  split
  · rfl
  · rfl

theorem eval_provision (hw : w.images i = none) (hs : Sourced req w) (n : Int) :
    ∃ w', evalIn E (provision b req i n) w = (.ok (), w') ∧
      HasStamp i req.sourceDesc w'.images := by
  unfold Sourced at hs
  unfold provision
  cases hsnap : req.snapshot with
  | some s =>
    simp only [hsnap] at hs ⊢
    obtain ⟨im, him, hsome⟩ := hs
    obtain ⟨im', hclone⟩ := eval_clone (E := E) him hsome hw
    obtain ⟨w', hstamp, hhas⟩ := eval_stamp (E := E) (w := w.setImage i im')
      setImage_images_self req.sourceDesc
    refine ⟨w', ?_, hhas⟩
    refine (eval_run hclone).trans ?_
    exact (eval_bind_of hstamp).trans eval_scheduleFlatten
  | none =>
    cases hsource : req.source with
    | some j =>
      simp only [hsnap, hsource] at hs ⊢
      obtain ⟨r, w₁, im, hcreate, hr, him, hsome, hother⟩ :=
        eval_snapCreate (E := E) (n := req.tmpSnap) hs
      have hne : i ≠ j := by
        rintro rfl
        rw [hw] at hs
        cases hs
      have him : w₁.images (j.at req.tmpSnap).image = some im := him
      obtain ⟨im', hclone⟩ := eval_clone (E := E) him hsome ((hother i hne).trans hw)
      obtain ⟨w', hstamp, hhas⟩ := eval_stamp (E := E) (w := w₁.setImage i im')
        setImage_images_self req.sourceDesc
      refine ⟨w', ?_, hhas⟩
      refine (eval_run hcreate).trans ?_
      obtain rfl | rfl := hr
      · exact (eval_run hclone).trans hstamp
      · exact (eval_run hclone).trans hstamp
    | none =>
      have hcreate : alone E (.rbdCreate i n (createParams req.parameters)) w =
          (.ok (), w.setImage i (.new n)) := by
        change performCreate i n w = _
        rw [performCreate, if_neg (by simp [hw])]
        rfl
      refine ⟨_, eval_run hcreate, .new n, setImage_images_self, ?_⟩
      simp [CreateVolumeRequest.sourceDesc, hsnap, hsource, Image.new]

theorem eval_provision_sourced {u : Unit} {w' : World}
    (h : evalIn E (provision b req i n) w = (.ok u, w')) : Sourced req w := by
  unfold provision at h
  unfold Sourced
  cases hsnap : req.snapshot with
  | some s =>
    simp only [hsnap] at h ⊢
    cases him : w.images s.image with
    | none =>
      have hstep : alone E (.rbdClone s i (dataPoolArgs req.parameters)) w =
          (.error .notFound, w) := by
        change performClone s i w = _
        rw [performClone, onImage, him]
        rfl
      cases (eval_run hstep).symm.trans h
    | some im =>
      refine ⟨im, rfl, ?_⟩
      by_contra hnone
      have hstep : alone E (.rbdClone s i (dataPoolArgs req.parameters)) w =
          (.error .notFound, w) := by
        change performClone s i w = _
        unfold performClone
        rw [onImage, him]
        dsimp only
        rw [show s.snap.bind (Assoc.get im.snaps) = none by simpa using hnone]
        rfl
      cases (eval_run hstep).symm.trans h
  | none =>
    cases hsource : req.source with
    | none => trivial
    | some j =>
      simp only [hsnap, hsource] at h ⊢
      by_contra hnone
      have hstep : alone E (.rbdSnapCreate j req.tmpSnap) w = (.error .notFound, w) := by
        change performSnapCreate j req.tmpSnap w = _
        rw [performSnapCreate, onImage, show w.images j = none by simpa using hnone]
        rfl
      cases (eval_run hstep).symm.trans h

theorem meets_evalIn {K : Contract Cmd Outcome World} {Q : Except Err α → World → Prop}
    (h : p.Meets machine E.who K Q w) (hi : K.inv w) (ha : ∀ c o a, o.fault = none → K.assume c o a)
    :
    K.inv (evalIn E p w).2 ∧ Q (evalIn E p w).1 (evalIn E p w).2 := by
  rw [evalIn, alone_answers]
  exact h.eval hi fun c a => ha c _ a rfl

theorem uses_evalIn {allowed : Cmd → Prop} {P : World → Prop} (hp : p.Uses allowed) (hw : P w)
    (hstep : ∀ c o a, allowed c → P a → P (step E.who c o a).2) : P (evalIn E p w).2 :=
  hp.keeps (fun c a hc ha => hstep c ⟨none, false, E.pick c a⟩ a hc ha) w hw

theorem eval_labels_stamp {v : Text} (hp : (labelFootprint i).Covers p) (hw : HasStamp i v w.images)
    : HasStamp i v (evalIn E p w).2.images :=
  (meets_evalIn (labels_keep_stamp hp trivial) hw fun _ _ _ _ => trivial).1

theorem eval_createImage_new (hw : w.images i = none) (hs : Sourced req w) :
    ∃ x w', evalIn E (createImage b req i) w = (.ok x, w') ∧
      HasStamp i req.sourceDesc w'.images := by
  obtain ⟨w₁, hprovision, hstamp⟩ :=
    eval_provision (E := E) (b := b) hw hs (bytesToMiB req.capacityBytes)
  rw [eval_createImage_absent hw]
  unfold provisionImage
  rw [show evalIn E (provision b req i (bytesToMiB req.capacityBytes) >>= _) w = _ from
    eval_bind_of hprovision]
  cases hclone : req.isClone with
  | false => exact ⟨_, w₁, rfl, hstamp⟩
  | true =>
    obtain ⟨im, him, _⟩ := id hstamp
    have hinfo : evalIn E (existingInfo i) w₁ = (.ok im.sizeMiB, w₁) := by
      have hstep : alone E (.rbdInfo i) w₁ = (.ok im.sizeMiB, w₁) := by
        change onImage i w₁ _ = _
        rw [onImage, him]
        rfl
      exact eval_run hstep
    rw [if_pos rfl, show eval (alone E) (existingInfo i >>= _) w₁ = _ from eval_bind_of hinfo]
    by_cases hlt : im.sizeMiB < bytesToMiB req.capacityBytes
    · rw [if_pos hlt]
      obtain ⟨w', hresize⟩ := eval_resizeImage (E := E) him (Int.le_of_lt hlt)
      refine ⟨_, w', eval_bind_of hresize, ?_⟩
      have hcovers : (labelFootprint i).Covers
          (resizeImage i (bytesToMiB req.capacityBytes)) := resizeImage_uses trivial
      have hkept := eval_labels_stamp (E := E) hcovers hstamp
      rwa [hresize] at hkept
    · rw [if_neg hlt]
      exact ⟨_, w₁, rfl, hstamp⟩

theorem eval_createImage_ok (hr : Resumable b req i w)
    (hstamp : (w.images i).isSome = true → Accepts req (metaAt w i sourceKey)) :
    ∃ x w', evalIn E (createImage b req i) w = (.ok x, w') := by
  cases him : w.images i with
  | some im =>
    rw [eval_createImage_found him]
    exact (eval_resumeImage_ok_iff him).mpr
      ⟨hstamp (by rw [him]; rfl), fun hplain => hr.size hplain im him⟩
  | none =>
    obtain hpresent | hs := hr.available
    · rw [him] at hpresent
      cases hpresent
    · obtain ⟨x, w', h, _⟩ := eval_createImage_new (E := E) (b := b) him hs
      exact ⟨x, w', h⟩

theorem eval_createImage_inv {x : Int} {w' : World}
    (h : evalIn E (createImage b req i) w = (.ok x, w')) :
    ((w.images i).isSome = true ∨ Sourced req w) ∧
      (req.isClone = false → ∀ im, w.images i = some im →
        im.sizeMiB = bytesToMiB req.capacityBytes) := by
  cases him : w.images i with
  | some im =>
    rw [eval_createImage_found him] at h
    refine ⟨.inl rfl, fun hplain im' him' => ?_⟩
    obtain rfl := Option.some.inj him'
    exact ((eval_resumeImage_ok_iff him).mp ⟨x, w', h⟩).2 hplain
  | none =>
    rw [eval_createImage_absent him] at h
    obtain ⟨u, m, hprovision, _⟩ := eval_bind_ok h
    exact ⟨.inr (eval_provision_sourced hprovision), fun _ im' him' => by cases him'⟩

theorem eval_dropTmpSnap : ∃ w', evalIn E (dropTmpSnap req i) w = (.ok (), w') := by
  unfold dropTmpSnap
  cases req.source with
  | none => exact ⟨w, rfl⟩
  | some parent =>
    have hreply : (performSnapRm (parent.at req.tmpSnap) w).1 = .ok () ∨
        (performSnapRm (parent.at req.tmpSnap) w).1 = .error .notFound := by
      unfold performSnapRm onImage
      cases w.images (parent.at req.tmpSnap).image with
      | none => exact .inr rfl
      | some im =>
        dsimp only [ImageRef.at]
        split
        · exact .inr rfl
        · exact .inl rfl
    rcases hstep : performSnapRm (parent.at req.tmpSnap) w with ⟨r, w'⟩
    rw [hstep] at hreply
    refine ⟨w', (eval_run (c := .rbdSnapRm (parent.at req.tmpSnap)) hstep).trans ?_⟩
    obtain rfl | rfl : r = .ok () ∨ r = .error .notFound := hreply
    · rfl
    · rfl

theorem eval_applyMutableParams (hw : (w.images i).isSome = true) (params : List (String × Text)) :
    evalIn E (applyMutableParams i params) w = (.ok (), w) := by
  obtain ⟨im, him⟩ := Option.isSome_iff_exists.mp hw
  induction params with
  | nil => rfl
  | cons p rest ih =>
    have hstep : alone E (.rbdConfigImage i ((Assoc.get rbdMutableParams p.1).getD "") p.2) w =
        (.ok (), w) := by
      change onImage i w _ = _
      rw [onImage, him]
      rfl
    exact (eval_run hstep).trans ih

theorem eval_imageMetaLabel (s : Spec) (k : MetaKey) (v : Text) :
    ∃ w', evalIn E (imageMetaLabel s k v) w = (.ok (), w') := by
  unfold imageMetaLabel
  split
  · exact ⟨_, eval_attempt_bind_of rfl⟩
  · exact ⟨w, rfl⟩

theorem eval_setOwnerMetadata (params : Params) (labels : List (String × MetaKey)) :
    ∃ w', evalIn E (setOwnerMetadata i params labels) w = (.ok (), w') := by
  induction labels generalizing w with
  | nil => exact ⟨w, rfl⟩
  | cons l rest ih =>
    obtain ⟨w₁, h₁⟩ := eval_imageMetaLabel (E := E) (w := w) i.spec l.2 (params l.1)
    obtain ⟨w₂, h₂⟩ := ih (w := w₁)
    exact ⟨w₂, (eval_bind_of h₁).trans h₂⟩

theorem eval_finishVolume_ok_iff (hw : (w.images i).isSome = true) (cc : ClusterConfig)
    (pool : String) (finalMiB : Int) :
    (∃ resp w', evalIn E (finishVolume b req i cc pool finalMiB) w = (.ok resp, w')) ↔
      (req.parameters paramEncrypted = .lit "true" → ∀ S, req.cloneSourceImage = some S →
        Inheritable b req.inst req.snapshot S i w) := by
  obtain ⟨w₁, hdrop⟩ : ∃ w', evalIn E (dropTmpSnap req i) w = (.ok (), w') := eval_dropTmpSnap
  have hdrops : (dropTmpSnap req i).Uses (Cmd.works req i) := dropTmpSnap_works
  have hkept : (w₁.images i).isSome = true := by
    have h := uses_evalIn (E := E) (P := fun a : World => (a.images i).isSome = true) hdrops hw
      fun c o a hc ha => step_present E.who o (by rintro rfl; exact hc) ha
    rwa [hdrop] at h
  have hsame : ∀ S, req.cloneSourceImage = some S → SameKeys S i w w₁ := by
    intro S hS
    have h := uses_evalIn (E := E) (P := SameKeys S i w) hdrops (.refl S i w)
      fun c o a hc ha => ha.trans (works_sameKeys hc o hS)
    rwa [hdrop] at h
  have heval : evalIn E (finishVolume b req i cc pool finalMiB) w =
      evalIn E ((recordEncryption b req i).bind fun encKeyID =>
        (setOwnerMetadata i req.parameters ownerMeta).bind fun _ =>
          (imageMetaLabel i.spec .clusterName cc.clusterName).bind fun _ =>
            Program.pure ⟨i, finalMiB * mib, volumeContext req pool i encKeyID⟩) w₁ := by
    refine (eval_bind_of hdrop).trans ?_
    exact eval_bind_of (eval_applyMutableParams hkept req.mutableParams)
  have hlast : (∃ resp w', evalIn E (finishVolume b req i cc pool finalMiB) w = (.ok resp, w')) ↔
      ∃ x w', evalIn E (recordEncryption b req i) w₁ = (.ok x, w') := by
    rw [heval]
    constructor
    · rintro ⟨resp, w', h⟩
      obtain ⟨x, m, hx, _⟩ := eval_bind_ok h
      exact ⟨x, m, hx⟩
    · rintro ⟨x, m, hx⟩
      obtain ⟨m₁, h₁⟩ := eval_setOwnerMetadata (E := E) (i := i) (w := m) req.parameters ownerMeta
      obtain ⟨m₂, h₂⟩ :=
        eval_imageMetaLabel (E := E) (w := m₁) i.spec .clusterName cc.clusterName
      exact ⟨_, m₂, (eval_bind_of hx).trans ((eval_bind_of h₁).trans (eval_bind_of h₂))⟩
  rw [hlast, eval_recordEncryption_ok_iff hkept]
  refine forall_congr' fun _ => forall_congr' fun S => forall_congr' fun hS => ?_
  exact (hsame S hS).inheritable (snapshot_image hS)

theorem eval_createAt_ok_iff (cc : ClusterConfig) (pool : String) :
    (∃ resp w', evalIn E (createAt b cc req pool i) w = (.ok resp, w')) ↔
      Resumable b req i w ∧
        ((w.images i).isSome = true → Accepts req (metaAt w i sourceKey)) := by
  have hmakes : (createImage b req i).Uses fun c => c.works req i ∧ c.drops = false :=
    createImage_works
  have hpresent : ∀ x m, evalIn E (createImage b req i) w = (.ok x, m) →
      (m.images i).isSome = true := by
    intro x m hx
    have hmeets : (createImage b req i).Meets machine E.who steadyImages
        (IfOk fun _ a => Present i a.images) w := createImage_present
    have h := (meets_evalIn hmeets trivial fun _ _ _ _ => trivial).2
    rwa [hx] at h
  have hsame : ∀ x m, evalIn E (createImage b req i) w = (.ok x, m) →
      ∀ S, req.cloneSourceImage = some S → SameKeys S i w m := by
    intro x m hx S hS
    have h := uses_evalIn (E := E) (P := SameKeys S i w) hmakes (.refl S i w)
      fun c o a hc ha => ha.trans (works_sameKeys hc.1 o hS)
    rwa [hx] at h
  have hkey : ∀ x m, evalIn E (createImage b req i) w = (.ok x, m) →
      ((∃ resp w', evalIn E (finishVolume b req i cc pool x) m = (.ok resp, w')) ↔
        (req.parameters paramEncrypted = .lit "true" → ∀ S, req.cloneSourceImage = some S →
          Inheritable b req.inst req.snapshot S i w)) := by
    intro x m hx
    rw [eval_finishVolume_ok_iff (hpresent x m hx)]
    refine forall_congr' fun _ => forall_congr' fun S => forall_congr' fun hS => ?_
    exact (hsame x m hx S hS).inheritable (snapshot_image hS)
  rw [createAt_eq]
  constructor
  · rintro ⟨resp, w', h⟩
    obtain ⟨x, m, hx, hrest⟩ := eval_bind_ok h
    obtain ⟨havailable, hsize⟩ := eval_createImage_inv hx
    refine ⟨⟨havailable, hsize, (hkey x m hx).mp ⟨resp, w', hrest⟩⟩, fun hi => ?_⟩
    obtain ⟨im, him⟩ := Option.isSome_iff_exists.mp hi
    have hfound := (eval_createImage_found him).symm.trans hx
    exact ((eval_resumeImage_ok_iff him).mp ⟨x, m, hfound⟩).1
  · rintro ⟨hr, hstamp⟩
    obtain ⟨x, m, hx⟩ := eval_createImage_ok (E := E) hr hstamp
    obtain ⟨resp, w', hrest⟩ := (hkey x m hx).mpr hr.key
    exact ⟨resp, w', (eval_bind_of hx).trans hrest⟩

theorem eval_createOn (cc : ClusterConfig) (pool ns : String) :
    ∃ n, evalIn E (createOn b req i cc pool ns) w =
      evalIn E (createAt b cc req pool i) { w with namespaces := n } := by
  have hconn : evalIn E (createOn b req i cc pool ns) w =
      evalIn E (if ns ≠ "" then (ensureNamespace req.inst pool ns).bind fun _ =>
        createAt b cc req pool i else createAt b cc req pool i) w :=
    eval_bind_of (eval_connArgs cc req.inst req.secrets)
  rw [hconn]
  by_cases hns : ns = ""
  · rw [if_neg (not_not.mpr hns)]
    exact ⟨w.namespaces, rfl⟩
  rw [if_pos hns]
  have hensure : ∃ n, evalIn E (ensureNamespace req.inst pool ns) w =
      (.ok (), { w with namespaces := n }) := by
    refine Exists.imp
      (fun n h => (eval_run (E := E) (c := .namespaceLs req.inst pool) rfl).trans h) ?_
    change ∃ n, evalIn E (if ns ∈ _ then _ else _) w = _
    split
    · exact ⟨w.namespaces, rfl⟩
    · exact ⟨_, rfl⟩
  obtain ⟨n, hn⟩ := hensure
  exact ⟨n, eval_bind_of hn⟩

end Eval

section Retry

variable {E : Env} {b : Backend} {req : CreateVolumeRequest} {i : ImageRef} {w : World}

theorem resumable_namespaces {n : List (String × String × String)} :
    Resumable b req i { w with namespaces := n } ↔ Resumable b req i w := by
  constructor
  · intro h
    exact ⟨h.available, h.size, h.key⟩
  · intro h
    exact ⟨h.available, h.size, h.key⟩

theorem eval_createVolume_ok (hi : createTarget b req = some i) {resp : CreateVolumeResponse}
    {w' : World} (h : evalIn E (createVolume b req) w = (.ok resp, w')) : Resumable b req i w := by
  obtain ⟨e, hfail⟩ | ⟨j, cc, pool, ns, hj, hon⟩ := createVolume_cases b req
  · rw [hfail] at h
    cases h
  · obtain rfl := Option.some.inj (hi.symm.trans hj)
    rw [hon] at h
    obtain ⟨n, hn⟩ := eval_createOn (E := E) (b := b) (i := i) (w := w) cc pool ns
    rw [hn] at h
    exact resumable_namespaces.mp ((eval_createAt_ok_iff cc pool).mp ⟨resp, w', h⟩).1

theorem eval_createVolume_found (hi : createTarget b req = some i) {v : Text}
    (hv : HasStamp i v w.images) : HasStamp i v (evalIn E (createVolume b req) w).2.images :=
  (meets_evalIn (createVolume_resumes hi) hv fun _ _ _ ho _ => ho).1

theorem eval_createVolume_new (hi : createTarget b req = some i) (hw : w.images i = none)
    {resp : CreateVolumeResponse} {w' : World}
    (h : evalIn E (createVolume b req) w = (.ok resp, w')) :
    HasStamp i req.sourceDesc w'.images := by
  have hs : Sourced req w := by
    obtain hpresent | hs := (eval_createVolume_ok hi h).available
    · rw [hw] at hpresent
      cases hpresent
    · exact hs
  obtain ⟨e, hfail⟩ | ⟨j, cc, pool, ns, hj, hon⟩ := createVolume_cases b req
  · rw [hfail] at h
    cases h
  · obtain rfl := Option.some.inj (hi.symm.trans hj)
    rw [hon] at h
    obtain ⟨n, hn⟩ := eval_createOn (E := E) (b := b) (i := i) (w := w) cc pool ns
    obtain ⟨x, m, hx, hstamp⟩ := eval_createImage_new (E := E) (b := b) (i := i)
      (w := { w with namespaces := n }) hw hs
    have hfinish : evalIn E (finishVolume b req i cc pool x) m = (.ok resp, w') := by
      rw [hn, createAt_eq] at h
      exact (eval_bind_of hx).symm.trans h
    have hkept := eval_labels_stamp (E := E)
      (finishVolume_covers b req (labelFootprint_labels (i := i)) cc pool x) hstamp
    rwa [hfinish] at hkept

end Retry

section CloneOfClone

/-- Every choice of the environment is the first one. -/
def firstChoice : Env := ⟨0, fun _ _ => 0⟩

def copyRequest : CreateVolumeRequest :=
  { plainRequest "copy" with sourceVolume := some pvcImage }

end CloneOfClone

end BardCsi.Ceph
