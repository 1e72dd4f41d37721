import BardCsi.Ceph.NodeSteps
import BardCsi.Ceph.Stored

/-!
What becomes of the images. After a request an image is one that was there before, with the
same metadata or with one value changed, or it is new: empty, or a clone that has the metadata
of its parent. Only a removal takes an image away.
-/
namespace BardCsi.Ceph

open Effect

/-- An image keeps its size until it is resized, and each snapshot until it is removed. New
snapshots are those that were asked for. -/
structure Carried (c : Cmd) (j : ImageRef) (im im' : Image) : Prop where
  size : im'.sizeMiB = im.sizeMiB ∨ ∃ n, c = .rbdResize j n
  snaps : ∀ n, (Assoc.get im.snaps n).isSome = true →
    (Assoc.get im'.snaps n).isSome = true ∨ c = .rbdSnapRm ⟨j, some n⟩
  made : ∀ n, (Assoc.get im'.snaps n).isSome = true →
    (Assoc.get im.snaps n).isSome = true ∨ c = .rbdSnapCreate j n

theorem carried_same {c : Cmd} {j : ImageRef} {im im' : Image} (hsize : im'.sizeMiB = im.sizeMiB)
    (hsnaps : im'.snaps = im.snaps) : Carried c j im im' :=
  ⟨.inl hsize, fun n h => .inl (by rwa [hsnaps]), fun n h => .inl (by rwa [hsnaps] at h)⟩

/-- What stands at `j` after the request `c`. -/
inductive Becomes (c : Cmd) (w : World) (j : ImageRef) : Option Image → Prop
  | absent (before : w.images j = none) : Becomes c w j none
  | removed (request : c = .rbdRm j) : Becomes c w j none
  | kept {im im' : Image} (before : w.images j = some im) (info : im'.info = im.info)
      (carried : Carried c j im im') : Becomes c w j (some im')
  | set {im im' : Image} {q : QKey} {v : Text}
      (request : c = .imageMetaSet j q v ∨ c = .imageMetaRemove j q ∧ v = .empty)
      (before : w.images j = some im) (info : im'.info = Function.update im.info q v)
      (carried : Carried c j im im') : Becomes c w j (some im')
  | created {size : Int} {args : List Text} (request : c = .rbdCreate j size args)
      (before : w.images j = none) : Becomes c w j (some (.new size))
  | cloned {parent : Spec} {args : List Text} {pim im' : Image}
      (request : c = .rbdClone parent j args) (before : w.images j = none)
      (source : w.images parent.image = some pim) (info : im'.info = pim.info)
      (snaps : im'.snaps = []) : Becomes c w j (some im')

section Steps

variable {c : Cmd} {w w' : World} {i j : ImageRef} {im : Image}

theorem becomes_same : Becomes c w j (w.images j) := by
  cases h : w.images j with
  | none => exact .absent h
  | some im => exact .kept h rfl (carried_same rfl rfl)

theorem becomes_of_images (h : w'.images = w.images) : Becomes c w j (w'.images j) := by
  rw [h]
  exact becomes_same

theorem setImage_images_self : (w.setImage i im).images i = some im := Function.update_self ..

theorem setImage_images_of_ne (h : j ≠ i) : (w.setImage i im).images j = w.images j :=
  Function.update_of_ne h _ _

theorem becomes_setImage (him : w.images i = some im) {im₁ : Image} (hinfo : im₁.info = im.info)
    (hcarried : Carried c i im im₁) : Becomes c w j ((w.setImage i im₁).images j) := by
  by_cases hij : j = i
  · subst hij
    rw [setImage_images_self]
    exact .kept him hinfo hcarried
  · rw [setImage_images_of_ne hij]
    exact becomes_same

theorem becomes_onImage {α : Type} {f : Image → Except RunError α × World}
    (hf : ∀ im, w.images i = some im → Becomes c w j ((f im).2.images j)) :
    Becomes c w j ((onImage i w f).2.images j) := by
  unfold onImage
  cases him : w.images i with
  | none => exact becomes_same
  | some im => exact hf im him

theorem becomes_writeContent (d : Device) (x : Content) :
    Becomes c w j ((orRefused (w.writeContent d x) w).2.images j) := by
  cases hw : w.writeContent d x with
  | none => exact becomes_same
  | some w' =>
    obtain ⟨i, im, x', him, rfl⟩ := writeContent_eq hw
    exact becomes_setImage him rfl (carried_same rfl rfl)

theorem becomes_withHeader (d : Device) (f : List Text → Except RunError (List Text)) :
    Becomes c w j ((withHeader d w f).2.images j) := by
  unfold withHeader
  split
  · split
    · exact becomes_same
    · exact becomes_writeContent d _
  · exact becomes_same

theorem becomes_metaSet {q : QKey} {v : Text}
    (hc : c = .imageMetaSet i q v ∨ c = .imageMetaRemove i q ∧ v = .empty) :
    Becomes c w j ((performMetaSet i q v w).2.images j) := by
  refine becomes_onImage fun im him => ?_
  change Becomes c w j ((w.setImage i { im with info := Function.update im.info q v }).images j)
  by_cases hij : j = i
  · subst hij
    rw [setImage_images_self]
    exact .set hc him rfl (carried_same rfl rfl)
  · rw [setImage_images_of_ne hij]
    exact becomes_same

theorem becomes_new {im₁ : Image} (hnew : w.images i = none → Becomes c w i (some im₁))
    (hnone : ¬(w.images i).isSome = true) : Becomes c w j ((w.setImage i im₁).images j) := by
  by_cases hij : j = i
  · subst hij
    rw [setImage_images_self]
    exact hnew (by simpa using hnone)
  · rw [setImage_images_of_ne hij]
    exact becomes_same

theorem becomes_clone {parent : Spec} {args : List Text} (hc : c = .rbdClone parent i args) :
    Becomes c w j ((performClone parent i w).2.images j) := by
  refine becomes_onImage fun pim hp => ?_
  split
  · exact becomes_same
  · split
    · exact becomes_same
    next hnone =>
      refine becomes_new (fun hbefore => ?_) hnone
      exact .cloned hc hbefore hp rfl rfl

theorem becomes_rm {pick : ℕ} (hc : c = .rbdRm i) :
    Becomes c w j ((performRm pick i w).2.images j) := by
  refine becomes_onImage fun im him => ?_
  split
  · exact becomes_same
  · split
    · exact becomes_same
    · split
      · exact becomes_same
      · change Becomes c w j (Function.update w.images i none j)
        by_cases hij : j = i
        · subst hij
          rw [Function.update_self]
          exact .removed hc
        · rw [Function.update_of_ne hij]
          exact becomes_same

theorem perform_becomes (who pick : ℕ) : Becomes c w j ((perform who pick c w).2.images j) := by
  have hreads : c.reads = true → Becomes c w j ((perform who pick c w).2.images j) := by
    intro hr
    obtain hw | hw := perform_reads hr who pick w
    · exact becomes_of_images (by rw [hw])
    · exact becomes_of_images (by rw [hw])
  cases c with
  | imageMetaSet i q v => exact becomes_metaSet (.inl rfl)
  | imageMetaRemove i q => exact becomes_metaSet (.inr ⟨rfl, rfl⟩)
  | rbdCreate i size args =>
    change Becomes _ w j ((performCreate i size w).2.images j)
    unfold performCreate
    split
    · exact becomes_same
    next hnone => exact becomes_new (fun hbefore => .created rfl hbefore) hnone
  | rbdClone parent i args => exact becomes_clone rfl
  | rbdRm i => exact becomes_rm rfl
  | rbdSnapCreate i s =>
    refine becomes_onImage fun im him => ?_
    split
    · exact becomes_same
    · refine becomes_setImage him rfl ⟨.inl rfl, fun n hn => .inl ?_, fun n hn => ?_⟩
      · by_cases hns : n = s
        · rw [hns, Assoc.get_set_self]
          rfl
        · rwa [Assoc.get_set_of_ne _ hns]
      · by_cases hns : n = s
        · exact .inr (by rw [hns])
        · exact .inl (by rwa [Assoc.get_set_of_ne _ hns] at hn)
  | rbdSnapRm s =>
    refine becomes_onImage fun im him => ?_
    split
    · exact becomes_same
    next n hsnap =>
      split
      · exact becomes_same
      · refine becomes_setImage him rfl ⟨.inl rfl, fun m hm => ?_, fun m hm => .inl ?_⟩
        · by_cases hmn : m = n
          · right
            obtain ⟨image, snap⟩ := s
            obtain rfl : snap = some n := hsnap
            rw [hmn]
          · left
            rwa [Assoc.get_erase_of_ne hmn]
        · by_cases hmn : m = n
          · rw [hmn, Assoc.get_erase_self] at hm
            cases hm
          · rwa [Assoc.get_erase_of_ne hmn] at hm
  | rbdResize i size =>
    refine becomes_onImage fun im him => ?_
    split
    · exact becomes_same
    · exact becomes_setImage him rfl ⟨.inr ⟨size, rfl⟩, fun n hn => .inl hn, fun n hn => .inl hn⟩
  | claimSnapName name source handle =>
    change Becomes _ w j ((performClaim name source handle w).2.images j)
    unfold performClaim
    split
    all_goals exact becomes_same
  | releaseSnapName handle =>
    change Becomes _ w j ((performRelease handle w).2.images j)
    unfold performRelease
    split
    all_goals exact becomes_same
  | secret s m =>
    obtain ⟨v, hv⟩ := performSecret_state (w := w) s m
    exact becomes_of_images ((congrArg World.images hv).trans rfl)
  | kmipDestroy e u =>
    change Becomes _ w j ((performDestroy e u w).2.images j)
    unfold performDestroy
    split
    all_goals exact becomes_same
  | rbdMap m i opts cookie log ro =>
    change Becomes _ w j ((performMap pick m i w).2.images j)
    obtain ⟨e, hw⟩ | ⟨_, hw⟩ := performMap_cases w pick m i
    · exact becomes_of_images (by rw [hw])
    · exact becomes_of_images (by rw [hw])
  | rbdUnmap m d opts =>
    change Becomes _ w j ((performUnmap m d w).2.images j)
    unfold performUnmap
    repeat' split
    all_goals exact becomes_same
  | nbdAttach d cookie i =>
    change Becomes _ w j ((performAttach d i w).2.images j)
    unfold performAttach
    split
    all_goals exact becomes_same
  | luksFormat d p args => exact becomes_writeContent d _
  | luksOpen d p pass discards =>
    change Becomes _ w j ((performLuksOpen d p pass w).2.images j)
    unfold performLuksOpen
    repeat' split
    all_goals exact becomes_same
  | luksClose p =>
    change Becomes _ w j ((performLuksClose p w).2.images j)
    unfold performLuksClose
    repeat' split
    all_goals exact becomes_same
  | luksAddKey d old new => exact becomes_withHeader d _
  | luksRemoveKey d p => exact becomes_withHeader d _
  | umount p =>
    change Becomes _ w j ((performUmount p w).2.images j)
    unfold performUmount
    split
    all_goals exact becomes_same
  | fs c =>
    cases c with
    | mkfs t args d => exact becomes_writeContent d _
    | mount t flags d p =>
      have himages : (performFs (.mount t flags d p) w).2.images = w.images := by
        simp only [performFs]
        rcases w.contentOf d with _ | _ | fsType | slots <;> rfl
      exact becomes_of_images himages
    | _ => exact hreads rfl
  | _ =>
    first
    | exact hreads rfl
    | exact becomes_same

theorem step_becomes (who : ℕ) (o : Outcome) : Becomes c w j ((step who c o w).2.images j) := by
  obtain hs | hs := step_state who c o w
  · rw [hs]
    exact becomes_same
  · rw [hs]
    exact perform_becomes who o.pick

theorem step_present (who : ℕ) (o : Outcome) (hc : c ≠ .rbdRm j) (h : (w.images j).isSome) :
    ((step who c o w).2.images j).isSome := by
  have hb := step_becomes (c := c) (w := w) (j := j) who o
  cases hj : (step who c o w).2.images j with
  | some im' => rfl
  | none =>
    rw [hj] at hb
    cases hb with
    | absent hbefore =>
      rw [hbefore] at h
      cases h
    | removed hrm => exact absurd hrm hc

theorem step_metaAt (who : ℕ) (o : Outcome) {q : QKey} (hrm : c ≠ .rbdRm j)
    (hset : ∀ v, c ≠ .imageMetaSet j q v) (hremove : c ≠ .imageMetaRemove j q)
    (hj : (w.images j).isSome) : metaAt (step who c o w).2 j q = metaAt w j q := by
  have hb := step_becomes (c := c) (w := w) (j := j) who o
  unfold metaAt
  generalize (step who c o w).2.images j = after at hb ⊢
  cases hb with
  | absent hbefore => rw [hbefore]
  | removed hreq => exact absurd hreq hrm
  | kept hbefore hinfo =>
    rw [hbefore]
    exact congrFun hinfo q
  | @set im im' r v hreq hbefore hinfo =>
    have hne : q ≠ r := by
      rintro rfl
      obtain hreq | ⟨hreq, _⟩ := hreq
      · exact hset v hreq
      · exact hremove hreq
    rw [hbefore]
    dsimp only
    rw [hinfo, Function.update_of_ne hne]
  | created _ hbefore =>
    rw [hbefore] at hj
    cases hj
  | cloned _ hbefore =>
    rw [hbefore] at hj
    cases hj

end Steps

end BardCsi.Ceph
