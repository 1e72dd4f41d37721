import BardCsi.Ceph.StaticImages

/-!
What operations leave alone. Any number of them run at once, any request may fail, and any call
may be cut short. The metadata of a volume that none of them is about stays, and so does an image
that is marked as static, whatever they are about.
-/
namespace BardCsi.Ceph

open Effect

variable {i : ImageRef} {who : ℕ} {b : Backend} {w : World} {V : QKey → Option Text}

/-- The image is there, and has the values that `V` names. -/
def Kept (i : ImageRef) (V : QKey → Option Text) (w : World) : Prop :=
  (w.images i).isSome = true ∧ ∀ q, ∀ v ∈ V q, metaAt w i q = v

/-- Calls that keep an image, whatever else they do. -/
def keptContract (i : ImageRef) (V : QKey → Option Text) : Contract Cmd Outcome World where
  inv := Kept i V
  rely _ _ := True
  assume _ _ _ := True
  guarantee _ _ _ := True
  rely_refl _ := trivial
  rely_trans _ _ := trivial

/-- Everything but the removal of the image and the change of a value that is to be kept. -/
def keeping (i : ImageRef) (V : QKey → Option Text) : Footprint where
  sets j q _ := j = i → V q = none
  creates _ := True
  clones _ _ := True
  removes j := j ≠ i

theorem kept_step {c : Cmd} (o : Outcome) (hc : (keeping i V).allows c) (hw : Kept i V w) :
    Kept i V (step who c o w).2 := by
  have hrm : c ≠ .rbdRm i := by
    rintro rfl
    exact hc rfl
  refine ⟨step_present who o hrm hw.1, fun q v hv => ?_⟩
  rw [step_metaAt who o hrm _ _ hw.1]
  · exact hw.2 q v hv
  · rintro v' rfl
    rw [hc rfl] at hv
    cases hv
  · rintro rfl
    rw [hc rfl] at hv
    cases hv

theorem covered_kept {α : Type} {p : Prog α} (hp : (keeping i V).Covers p) :
    p.Meets machine who (keptContract i V) (fun _ _ => True) w :=
  Program.Meets.of_uses (P := fun _ => True) hp trivial (fun _ _ _ _ => trivial)
    fun _ o _ hc ha _ _ => ⟨trivial, kept_step o hc ha, trivial⟩

/-- Operations that keep an image one by one keep it at every point of every run. -/
theorem kept_run {ops : ℕ → Operation} (hw : Kept i V w)
    (hops : ∀ t w, ((ops t).call b).Meets machine t (keptContract i V) (fun _ _ => True) w)
    (schedule : List (ℕ × Outcome)) :
    Kept i V (Pool.run machine schedule ⟨fun t => (ops t).call b, w⟩).state := by
  have hgood : Pool.Good machine (fun _ => keptContract i V) (Kept i V) (fun _ _ _ => True)
      ⟨fun t => (ops t).call b, w⟩ := ⟨hw, fun t => hops t w⟩
  have hcompatible : Pool.Compatible (fun _ : ℕ => keptContract i V) (Kept i V) :=
    ⟨fun _ _ => Iff.rfl, fun _ _ _ _ _ _ _ _ _ => trivial⟩
  exact (hgood.run hcompatible schedule
    (Pool.throughout_of_forall _ _ _ fun _ _ _ _ => trivial)).1.1

/-- The image that an operation is about. -/
def Operation.image (b : Backend) : Operation → Option ImageRef
  | .createVolume req => createTarget b req
  | .deleteVolume req => some req.volume
  | .expandVolume req => some req.volume
  | .modifyVolume req => some req.volume
  | .createSnapshot req => some req.sourceVolume
  | .deleteSnapshot req => some req.snapshot.image
  | .nodeStage req => some req.volume
  | .nodeUnstage req => some req.volume
  | .nodeExpand req => some req.volume
  | .rotateEncryptionKey req => some req.volume

/-- Whatever sets and removes only elsewhere keeps everything. -/
theorem allows_keeping {F : Footprint} (hset : ∀ j q v, F.sets j q v → j ≠ i)
    (hrm : ∀ j, F.removes j → j ≠ i) (c : Cmd) (hc : F.allows c) : (keeping i V).allows c := by
  cases c with
  | imageMetaSet j q v => exact fun h => absurd h (hset j q v hc)
  | imageMetaRemove j q => exact fun h => absurd h (hset j q .empty hc)
  | rbdRm j => exact hrm j hc
  | _ => trivial

theorem call_elsewhere {op : Operation} (hop : op.image b ≠ some i) :
    (keeping i V).Covers (op.call b) := by
  have hmeta : ∀ {j} {P : QKey → Prop}, some j ≠ some i → ∀ c,
      (Footprint.metaOnly fun k q _ => k = j ∧ P q).allows c → (keeping i V).allows c :=
    fun hj => allows_keeping (fun _ _ _ h hi => hj (congrArg some (h.1.symm.trans hi))) nofun
  cases op with
  | createVolume req =>
    refine (createVolume_covers b req fun j hj => ?_).bind fun _ => trivial
    have hne : j ≠ i := fun h => hop (hj.trans (h ▸ rfl))
    exact allows_keeping (fun _ _ _ h hi => hne (h.1.symm.trans hi)) nofun
  | deleteVolume req =>
    apply (deleteVolume_covers b req).mono
    exact allows_keeping nofun fun _ h hi => hop (congrArg some (h.symm.trans hi))
  | expandVolume req => exact (expandVolume_covers b req).bind fun _ => trivial
  | modifyVolume req => exact modifyVolume_covers b req
  | createSnapshot req =>
    exact ((createSnapshot_covers b req).mono (hmeta hop)).bind fun _ => trivial
  | deleteSnapshot req => exact (deleteSnapshot_covers b req).mono (hmeta hop)
  | nodeStage req => exact (nodeStage_covers b req).mono (hmeta hop)
  | nodeUnstage req => exact nodeUnstage_covers b req
  | nodeExpand req => exact (nodeExpand_covers b req).mono (hmeta hop)
  | rotateEncryptionKey req => exact (rotateEncryptionKey_covers b req).mono (hmeta hop)

/-- Operations that are not about a volume, though they may clone it, leave its image and all its
metadata: its key, its provenance and its settings. -/
theorem other_volumes_untouched (b : Backend) (ops : ℕ → Operation) (i : ImageRef) (w : World)
    (himage : (w.images i).isSome = true) (hops : ∀ t, (ops t).image b ≠ some i)
    (schedule : List (ℕ × Outcome)) :
    let a := (Pool.run machine schedule ⟨fun t => (ops t).call b, w⟩).state
    (a.images i).isSome = true ∧ ∀ q, metaAt a i q = metaAt w i q := by
  have hkept := kept_run (b := b) (V := fun q => some (metaAt w i q))
    ⟨himage, fun q v hv => Option.some.inj hv⟩
    (fun t w => covered_kept (call_elsewhere (hops t))) schedule
  exact ⟨hkept.1, fun q => hkept.2 q _ rfl⟩

theorem other_volumes_untouched_deleted :
    let a := (Pool.run machine (List.replicate 4 (0, .ok)) ⟨fun _ => (Operation.deleteVolume
      ⟨pvcImage, fun _ => .empty⟩).call krbdBackend, goldenWorld⟩).state
    (a.images goldenImage).isSome = true ∧
      ∀ q, metaAt a goldenImage q = metaAt goldenWorld goldenImage q :=
  other_volumes_untouched krbdBackend (fun _ => .deleteVolume ⟨pvcImage, fun _ => .empty⟩)
    goldenImage goldenWorld rfl (fun _ => by decide) _

end BardCsi.Ceph
