import BardCsi.Ceph.DeviceIdentity
import BardCsi.Ceph.ImageCalls
import BardCsi.Ceph.Operations
import BardCsi.Ceph.Tools

/-!
Volumes that are really deleted. An administrator marks images of their own as static, and
deleting such a volume leaves its image. Calls of the plugin are under way in any number and
take turns in any order, each request may fail, the failure may be misread, and a call that never
takes its next turn has crashed. As long as no image is cloned from a static one, the images that
the plugin has made are not static. A delete of one that misreads no failure and returns success
has removed it.
-/
namespace BardCsi.Ceph

open Effect

def staticKey : QKey := ⟨.static, none⟩

/-- The cluster and the node, the images that a create of the plugin has made, and the calls
that are under way. -/
structure Activity where
  world : World
  made : ImageRef → Bool
  calls : ℕ → Prog Unit

inductive Move where
  | start (t : ℕ) (op : Operation)
  | turn (t : ℕ) (x : Outcome × Bool)
  /-- The administrator sets the mark of an image that the plugin has not made. -/
  | mark (i : ImageRef) (v : Text)
  /-- The administrator brings an image of their own. -/
  | adopt (i : ImageRef) (im : Image)

namespace Activity

/-- Nothing has been made and no call is under way. -/
def idle (w : World) : Activity := ⟨w, fun _ => false, fun _ => .pure ()⟩

/-- An image was made by the plugin if it is there and was made before or was not there. -/
def answer (s : Activity) (t : ℕ) (c : Cmd) (k : c.Reply → Prog Unit) (x : Outcome × Bool) :
    Activity :=
  let r := tools.step t c x s.world
  ⟨r.2, fun j => (r.2.images j).isSome && (s.made j || (s.world.images j).isNone),
    Function.update s.calls t (k r.1)⟩

def next (b : Backend) (s : Activity) : Move → Activity
  | .start t op => { s with calls := Function.update s.calls t (op.call b) }
  | .turn t x =>
      match s.calls t with
      | .pure _ => s
      | .fail _ => s
      | .request c k => s.answer t c k x
  | .mark i v => if s.made i then s else { s with world := s.world.setMeta i staticKey v }
  | .adopt i im =>
      if (s.world.images i).isSome then s else { s with world := s.world.setImage i im }

def run (b : Backend) : List Move → Activity → Activity
  | [], s => s
  | m :: ms, s => run b ms (s.next b m)

/-- This move clones an image that is marked as static. -/
def clonesStatic (s : Activity) : Move → Bool
  | .turn t _ =>
      match s.calls t with
      | .request (.rbdClone parent _ _) _ => metaAt s.world parent.image staticKey = .lit "true"
      | _ => false
  | _ => false

/-- No move of the run clones a static image. -/
def ClonesPlain (b : Backend) : List Move → Activity → Prop
  | [], _ => True
  | m :: ms, s => s.clonesStatic m = false ∧ ClonesPlain b ms (s.next b m)

instance decidableClonesPlain (b : Backend) :
    (ms : List Move) → (s : Activity) → Decidable (ClonesPlain b ms s)
  | [], _ => .isTrue trivial
  | m :: ms, s =>
      have := decidableClonesPlain b ms (s.next b m)
      inferInstanceAs (Decidable (_ ∧ _))

/-- The images that the plugin has made are there and not static, and no call under way can mark
one. -/
structure Plain (s : Activity) : Prop where
  made : ∀ j, s.made j = true → ∃ im, s.world.images j = some im ∧ im.info staticKey ≠ .lit "true"
  calls : ∀ t, unmarked.Covers (s.calls t)

end Activity

section Moves

variable {b : Backend} {s : Activity}

theorem plain_idle (w : World) : (Activity.idle w).Plain :=
  ⟨fun _ h => (Bool.false_ne_true h).elim, fun _ => trivial⟩

theorem made_answer (hs : s.Plain) {t : ℕ} {c : Cmd} (k : c.Reply → Prog Unit)
    (x : Outcome × Bool) (hc : unmarked.allows c)
    (hplain : ∀ parent i args, c = .rbdClone parent i args →
      metaAt s.world parent.image staticKey ≠ .lit "true") (j : ImageRef)
    (hj : (s.answer t c k x).made j = true) :
    ∃ im, (s.answer t c k x).world.images j = some im ∧ im.info staticKey ≠ .lit "true" := by
  obtain ⟨hsome, hbefore⟩ : ((step t c x.1 s.world).2.images j).isSome = true ∧
      (s.made j = true ∨ s.world.images j = none) := by
    simpa [Activity.answer, tools, Machine.misreading, machine] using hj
  have hold : ∀ im, s.world.images j = some im → im.info staticKey ≠ .lit "true" := by
    intro im him
    obtain hmade | hnone := hbefore
    · obtain ⟨im', him', hne⟩ := hs.made j hmade
      rw [him] at him'
      exact Option.some.inj him' ▸ hne
    · rw [hnone] at him
      cases him
  have hb := step_becomes (c := c) (w := s.world) (j := j) t x.1
  change ∃ im, (step t c x.1 s.world).2.images j = some im ∧ _
  cases h : (step t c x.1 s.world).2.images j with
  | none =>
    rw [h] at hsome
    cases hsome
  | some im' =>
    refine ⟨im', rfl, ?_⟩
    rw [h] at hb
    cases hb with
    | kept him hinfo =>
      rw [hinfo]
      exact hold _ him
    | @set im im' q v hreq him hinfo =>
      have hkey : q.key ≠ .static := by
        obtain rfl | ⟨rfl, _⟩ := hreq
        · exact hc
        · exact hc
      rw [hinfo, Function.update_of_ne]
      · exact hold _ him
      · exact fun hq => hkey (hq ▸ rfl)
    | created hreq hnone =>
      change Text.empty ≠ .lit "true"
      decide
    | cloned hreq hnone hsource hinfo =>
      have := hplain _ _ _ hreq
      rw [hinfo]
      simpa [metaAt, hsource] using this

theorem plain_turn (hs : s.Plain) (t : ℕ) (x : Outcome × Bool)
    (hclone : s.clonesStatic (.turn t x) = false) : (s.next b (.turn t x)).Plain := by
  have hcovers := hs.calls t
  simp only [Activity.next]
  simp only [Activity.clonesStatic] at hclone
  cases hp : s.calls t with
  | pure a => exact hs
  | fail e => exact hs
  | request c k =>
    rw [hp] at hcovers hclone
    refine ⟨made_answer hs k x hcovers.1 ?_, fun t' => ?_⟩
    · rintro parent i args rfl
      simpa using hclone
    · change unmarked.Covers (Function.update s.calls t (k _) t')
      by_cases ht : t' = t
      · subst ht
        rw [Function.update_self]
        exact hcovers.2 _
      · rw [Function.update_of_ne ht]
        exact hs.calls t'

theorem plain_mark (hs : s.Plain) (i : ImageRef) (v : Text) : (s.next b (.mark i v)).Plain := by
  simp only [Activity.next]
  split
  · exact hs
  next hmade =>
    refine ⟨fun j hj => ?_, hs.calls⟩
    have hij : j ≠ i := fun h => hmade (h ▸ hj)
    obtain ⟨im, him, hne⟩ := hs.made j hj
    refine ⟨im, ?_, hne⟩
    change (s.world.setMeta i staticKey v).images j = some im
    rw [setMeta_images_of_ne hij, him]

theorem plain_adopt (hs : s.Plain) (i : ImageRef) (im : Image) :
    (s.next b (.adopt i im)).Plain := by
  simp only [Activity.next]
  split
  · exact hs
  next hnone =>
    refine ⟨fun j hj => ?_, hs.calls⟩
    obtain ⟨im', him, hne⟩ := hs.made j hj
    have hij : j ≠ i := by
      rintro rfl
      rw [him] at hnone
      exact hnone rfl
    exact ⟨im', (setImage_images_of_ne hij).trans him, hne⟩

theorem plain_next (hs : s.Plain) (m : Move) (hm : s.clonesStatic m = false) :
    (s.next b m).Plain := by
  cases m with
  | start t op =>
    refine ⟨hs.made, fun t' => ?_⟩
    change unmarked.Covers (Function.update s.calls t (op.call b) t')
    by_cases ht : t' = t
    · subst ht
      rw [Function.update_self]
      exact call_unmarked b op
    · rw [Function.update_of_ne ht]
      exact hs.calls t'
  | turn t x => exact plain_turn hs t x hm
  | mark i v => exact plain_mark hs i v
  | adopt i im => exact plain_adopt hs i im

theorem plain_run (ms : List Move) (hs : s.Plain) (h : Activity.ClonesPlain b ms s) :
    (Activity.run b ms s).Plain := by
  induction ms generalizing s with
  | nil => exact hs
  | cons m ms ih => exact ih (plain_next hs m h.1) h.2

end Moves

section Delete

variable {who : ℕ} {w : World} {i : ImageRef}

theorem performRm_gone {pick : ℕ} (h : (performRm pick i w).1 = .ok () ∨
    (performRm pick i w).1 = .error .notFound) : (performRm pick i w).2.images i = none := by
  unfold performRm onImage at h ⊢
  cases him : w.images i with
  | none => exact him
  | some im =>
    simp only [him] at h ⊢
    split_ifs at h ⊢ with h₁ h₂ h₃
    · simp [refused] at h
    · simp [refused] at h
    · simp [refused] at h
    · exact Function.update_self ..

theorem step_rm_gone {o : Outcome} (h : (step who (.rbdRm i) o w).1 = .ok () ∨
    (step who (.rbdRm i) o w).1 = .error .notFound) :
    (step who (.rbdRm i) o w).2.images i = none := by
  obtain hs | ⟨f, _, hf, _⟩ := step_cases who (.rbdRm i) o w
  · rw [hs] at h ⊢
    exact performRm_gone h
  · have hreply : (step who (.rbdRm i) o w).1 = .error f.run := (Option.some.inj hf).symm
    rw [hreply] at h
    obtain h | h := h
    · cases h
    · cases f with
      | error e => cases h
      | status s => cases h

theorem removeImage_removes :
    (removeImage i).Meets machine who steadyImages
      (Program.IfOk fun _ a => a.images i = none) w := by
  intro a _ _ o _
  refine ⟨trivial, trivial, ?_⟩
  cases hr : (step who (.rbdRm i) o a).1 with
  | ok u =>
    rw [show (machine.step who (.rbdRm i) o a).1 = _ from hr]
    intro a' hsame _
    exact (congrFun hsame i).trans (step_rm_gone (.inl hr))
  | error e =>
    rw [show (machine.step who (.rbdRm i) o a).1 = _ from hr]
    cases e with
    | notFound =>
      intro a' hsame _
      exact (congrFun hsame i).trans (step_rm_gone (.inr hr))
    | linkedClones =>
      apply (steadyImages_any (flattenChildren i)).andThen
      · exact fun _ _ _ _ _ _ _ => trivial
      · exact fun _ _ _ _ => trivial
    | _ => exact fun _ _ _ => trivial

theorem deleteVolume_meets (b : Backend) (req : DeleteVolumeRequest)
    (hstatic : metaAt w req.volume staticKey ≠ .lit "true") :
    (deleteVolume b req).Meets machine who steadyImages
      (Program.IfOk fun _ a => a.images req.volume = none) w := by
  unfold deleteVolume cluster clusterFor
  cases b.clusters req.volume.inst with
  | none => exact fun _ _ _ => trivial
  | some cc =>
    apply reads_then (connArgs_reads _ _ _)
    intro _ a ha
    apply imageMetaGetChecked_meets machine_answers (imageContract_reads who)
    · intro a' ha' _
      have hread : metaOf a' req.volume.spec .static ≠ .lit "true" := by
        rw [metaOf, metaAt, show a'.images = w.images from ha'.trans ha]
        exact hstatic
      rw [id, if_neg hread]
      apply (steadyImages_any (deleteVolumeKey b req.volume)).andThen
      · exact fun _ _ _ _ => removeImage_removes
      · exact fun _ _ _ _ => trivial
    · exact fun _ _ _ _ _ _ _ => trivial

/-- In every run in which no static image is cloned, a delete of a volume that the plugin has
made has removed its image if it returns success and has misread no failure. -/
theorem made_volume_deleted (b : Backend) (w₀ : World) (ms : List Move)
    (hclones : Activity.ClonesPlain b ms (.idle w₀)) (req : DeleteVolumeRequest)
    (hmade : (Activity.run b ms (.idle w₀)).made req.volume = true) (who : ℕ)
    (xs : List (Outcome × Bool))
    (htrue : TruthfulRun who (deleteVolume b req) xs (Activity.run b ms (.idle w₀)).world)
    (hok : (tools.exec who (deleteVolume b req) xs
      (Activity.run b ms (.idle w₀)).world).2.2 = some (.ok ())) :
    (tools.exec who (deleteVolume b req) xs
      (Activity.run b ms (.idle w₀)).world).2.1.images req.volume = none := by
  obtain ⟨os, hstop, _⟩ := Machine.exec_truthful xs htrue
  rw [tools, ← hstop] at hok ⊢
  obtain ⟨im, him, hne⟩ := (plain_run ms (plain_idle w₀) hclones).made _ hmade
  have hstatic : metaAt (Activity.run b ms (.idle w₀)).world req.volume staticKey ≠
      .lit "true" := by
    rwa [metaAt, him]
  obtain ⟨_, _, hres⟩ := (deleteVolume_meets b req hstatic).exec trivial os
    fun _ _ => trivial
  exact hres _ hok

end Delete

section Golden

def goldenImage : ImageRef := ⟨"ceph", "pool", .plain "golden"⟩

/-- The administrator's image, marked as static. -/
def goldenWorld : World :=
  World.start.setImage goldenImage
    ⟨1, Function.update (fun _ => .empty) staticKey (.lit "true"), .filesystem "ext4", []⟩

def plainRequest (name : String) : CreateVolumeRequest where
  name := name
  capacityBytes := 1
  inst := "ceph"
  parameters _ := .empty
  mutableParams := []
  secrets _ := .empty
  sourceSnapshot := none
  sourceVolume := none

def goldenClone : CreateVolumeRequest :=
  { plainRequest "pvc" with sourceVolume := some goldenImage }

def pvcImage : ImageRef := ⟨"ceph", "pool", shortName volNamePrefix "pvc"⟩

/-- A create that takes all its turns. -/
def createRun (req : CreateVolumeRequest) : List Move :=
  .start 0 (.createVolume req) :: List.replicate 12 (.turn 0 (.ok, false))

/-- A delete of a volume that was made from nothing removes its image. -/
theorem made_volume_deleted_plain :
    (tools.exec 0 (deleteVolume krbdBackend ⟨pvcImage, fun _ => .empty⟩)
      (List.replicate 4 (.ok, false)) (Activity.run krbdBackend (createRun (plainRequest "pvc"))
        (.idle goldenWorld)).world).2.1.images pvcImage = none :=
  made_volume_deleted krbdBackend goldenWorld _ (by decide +kernel) ⟨pvcImage, fun _ => .empty⟩
    (by decide +kernel) 0 _ (Machine.truthfulRun_of_read (by decide)) (by decide +kernel)

/-- A clone of a static image is static as well: its delete returns success, and the image is
still there. -/
theorem clone_of_static_kept :
    let s := Activity.run krbdBackend (createRun goldenClone) (.idle goldenWorld)
    let x := tools.exec 0 (deleteVolume krbdBackend ⟨pvcImage, fun _ => .empty⟩)
      (List.replicate 4 (.ok, false)) s.world
    s.made pvcImage = true ∧ x.2.2 = some (.ok ()) ∧ (x.2.1.images pvcImage).isSome = true := by
  decide +kernel

end Golden

end BardCsi.Ceph
