import BardCsi.Effect.Calls
import BardCsi.Ceph.Lineage
import BardCsi.Ceph.Reads
import BardCsi.Ceph.Requests

/-!
Calls seen by what they do to images. Between the requests of a call the images stay as they
are, and an invariant of the images is kept at every one of them. A read leaves the images
alone, and a program that keeps to a footprint keeps whatever that footprint keeps.
-/
namespace BardCsi.Ceph

open Effect Program

/-- Calls that keep `I`, as long as their requests end as `ok` says. -/
def imageContract (I : (ImageRef → Option Image) → Prop) (ok : Cmd → Outcome → Prop) :
    Contract Cmd Outcome World where
  inv w := I w.images
  rely w w' := w'.images = w.images
  assume c o _ := ok c o
  guarantee _ _ _ := True
  rely_refl _ := rfl
  rely_trans h h' := h'.trans h

abbrev steadyImages : Contract Cmd Outcome World := imageContract (fun _ => True) fun _ _ => True

section Rules

variable {α β : Type} {I : (ImageRef → Option Image) → Prop} {ok : Cmd → Outcome → Prop}
variable {who : ℕ} {w : World} {p : Prog α} {f : α → Prog β} {R : β → World → Prop}

theorem imageContract_quiet {c : Cmd} (h : ∀ o a, (step who c o a).2.images = a.images) :
    Quiet machine who (imageContract I ok) c := by
  intro a o hi _
  refine ⟨trivial, ?_, h o a⟩
  change I (step who c o a).2.images
  rwa [h o a]

theorem step_reads_images {c : Cmd} (hc : c.reads = true) (o : Outcome) (a : World) :
    (step who c o a).2.images = a.images := by
  obtain h | h := step_reads hc who o a
  · rw [h]
  · rw [h]

theorem imageContract_reads (who : ℕ) : QuietReads machine who (imageContract I ok) :=
  fun _ hc => imageContract_quiet (step_reads_images hc)

theorem still_then {still : Cmd → Prop} (hu : p.Uses still)
    (hstill : ∀ c o a, still c → (step who c o a).2.images = a.images)
    (hf : ∀ x a, a.images = w.images →
      (f x).Meets machine who (imageContract I ok) (IfOk R) a) :
    (p.bind f).Meets machine who (imageContract I ok) (IfOk R) w := by
  apply Meets.andThen (P := fun _ a => a.images = w.images)
  · refine Meets.of_uses (P := fun a : World => a.images = w.images) hu rfl ?_ ?_
    · exact fun a a' hsame ha => hsame.trans ha
    · intro c o a hc hi ho ha
      obtain ⟨hg, hi', hsame⟩ := imageContract_quiet (fun o a => hstill c o a hc) a o hi ho
      exact ⟨hg, hi', hsame.trans ha⟩
  · exact fun x a _ ha => hf x a ha
  · exact fun _ _ _ _ => trivial

theorem reads_then (hu : p.Uses fun c => c.reads = true)
    (hf : ∀ x a, a.images = w.images →
      (f x).Meets machine who (imageContract I ok) (IfOk R) a) :
    (p.bind f).Meets machine who (imageContract I ok) (IfOk R) w :=
  still_then hu (fun _ o a hc => step_reads_images hc o a) hf

theorem covered_meets {F : Footprint} {P : (ImageRef → Option Image) → Prop} (hp : F.Covers p)
    (hw : P w.images)
    (hstep : ∀ c o a, F.allows c → I a.images → ok c o → P a.images →
      I (step who c o a).2.images ∧ P (step who c o a).2.images) :
    p.Meets machine who (imageContract I ok) (fun _ a => P a.images) w := by
  refine Meets.of_uses (P := fun a : World => P a.images) hp hw ?_ ?_
  · intro a a' (hsame : a'.images = a.images) ha
    rwa [hsame]
  · intro c o a hc hi ho ha
    obtain ⟨hi', hP⟩ := hstep c o a hc hi ho ha
    exact ⟨trivial, hi', hP⟩

theorem steadyImages_any (p : Prog α) : p.Meets machine who steadyImages (fun _ _ => True) w := by
  induction p generalizing w with
  | pure a => exact fun _ _ _ => trivial
  | fail e => exact fun _ _ _ => trivial
  | request c k ih => exact fun _ _ _ _ _ => ⟨trivial, trivial, ih _⟩

end Rules

theorem connArgs_reads (cc : ClusterConfig) (inst : String) (secrets : Params) :
    (connArgs cc inst secrets).Uses fun c => c.reads = true :=
  Uses.bind (Uses.ask rfl) fun _ => orFail_uses _ _

section Create

variable {I : (ImageRef → Option Image) → Prop} {ok : Cmd → Outcome → Prop} {who : ℕ} {w : World}
variable {R : CreateVolumeResponse → World → Prop} {b : Backend} {req : CreateVolumeRequest}

/-- Requests of a create before it looks for the image. -/
def Cmd.prepares : Cmd → Prop
  | .connArgs _ _ | .namespaceLs _ _ | .namespaceCreate _ _ _ => True
  | _ => False

theorem prepares_images {c : Cmd} (hc : c.prepares) (o : Outcome) (a : World) :
    (step who c o a).2.images = a.images := by
  obtain h | h := step_state who c o a
  · rw [h]
  · rw [h]
    cases c with
    | connArgs inst user => rfl
    | namespaceLs inst pool => rfl
    | namespaceCreate inst pool n => rfl
    | _ => exact hc.elim

theorem createOn_meets {i : ImageRef} {cc : ClusterConfig} {pool ns : String}
    (hat : ∀ a, a.images = w.images →
      (createAt b cc req pool i).Meets machine who (imageContract I ok) (IfOk R) a) :
    (createOn b req i cc pool ns).Meets machine who (imageContract I ok) (IfOk R) w := by
  have hconn : (connArgs cc req.inst req.secrets).Uses Cmd.prepares :=
    Uses.bind (Uses.ask trivial) fun _ => orFail_uses _ _
  apply still_then hconn fun _ o a hc => prepares_images hc o a
  intro _ a ha
  split
  · have hns : (ensureNamespace req.inst pool ns).Uses Cmd.prepares := by
      apply Uses.bind (Uses.ask trivial)
      intro r
      apply (orFail_uses _ _).bind
      intro existing
      refine Uses.ite trivial ?_
      exact Uses.bind (Uses.ask trivial) fun _ => orFail_uses _ _
    apply still_then hns fun _ o a hc => prepares_images hc o a
    exact fun _ a' ha' => hat a' (ha'.trans ha)
  · exact hat a ha

theorem createVolume_meets (hat : ∀ cc pool i a, createTarget b req = some i →
      a.images = w.images →
      (createAt b cc req pool i).Meets machine who (imageContract I ok) (IfOk R) a) :
    (createVolume b req).Meets machine who (imageContract I ok) (IfOk R) w := by
  obtain ⟨e, hfail⟩ | ⟨i, cc, pool, ns, hi, hon⟩ := createVolume_cases b req
  · rw [hfail]
    exact fun _ _ _ => trivial
  · rw [hon]
    exact createOn_meets fun a ha => hat cc pool i a hi ha

end Create

end BardCsi.Ceph
