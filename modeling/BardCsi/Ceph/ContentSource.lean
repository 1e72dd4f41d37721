import BardCsi.Ceph.Stamps
import BardCsi.Ceph.StaticImages

/-!
Volumes that hold what was asked for. A create that finds the image of its volume takes it for
an earlier attempt of the same request, and the stamp on the image is all that it goes by. Over
every history of calls that run one after the other, with any failures and crashes, the images
are followed from the source they were made from. A create may not misread a failure, any other
call may.
-/
namespace BardCsi.Ceph

open Effect

/-- What an image was made from: nothing, or a snapshot. -/
inductive Origin where
  | blank
  | clone (parent : Spec)
deriving DecidableEq, Repr

/-- The origin that a request asks for. A clone of a volume is one of the snapshot that is taken
of it for this purpose, under a name that belongs to the new volume. -/
def CreateVolumeRequest.origin (req : CreateVolumeRequest) : Origin :=
  match req.parent with
  | none => .blank
  | some parent => .clone parent

def Cmd.origin : Cmd → Option Origin
  | .rbdCreate _ _ _ => some .blank
  | .rbdClone parent _ _ => some (.clone parent)
  | _ => none

theorem origin_of_sourceDesc {b : Backend} {req req' : CreateVolumeRequest} {i : ImageRef}
    (hi : createTarget b req = some i) (hi' : createTarget b req' = some i)
    (h : req.sourceDesc = req'.sourceDesc) : req.origin = req'.origin := by
  have hname : req.name = req'.name := by
    unfold createTarget at hi hi'
    split at hi
    · split at hi'
      · have heq := Option.some.inj (hi.trans hi'.symm)
        injection heq with _ _ hname
        injection hname
      · cases hi'
    · cases hi
  have hparent : req.parent = req'.parent := by
    unfold CreateVolumeRequest.sourceDesc at h
    unfold CreateVolumeRequest.parent CreateVolumeRequest.tmpSnap
    rw [hname]
    revert h
    cases req.snapshot <;> cases req'.snapshot <;> cases req.source <;> cases req'.source <;>
      simp [Text.empty, ImageRef.spec]
    all_goals exact fun h => by rw [h]
  rw [CreateVolumeRequest.origin, CreateVolumeRequest.origin, hparent]

/-- The name of an image that the plugin makes. -/
def isVolume (i : ImageRef) : Bool :=
  match i.name with
  | .short _ _ => true
  | .plain _ => false

structure Call where
  op : Operation
  who : ℕ
  outcomes : List (Outcome × Bool)

/-- The request of a call that made the image `j`, by what it made it from. -/
def madeIn (who : ℕ) (j : ImageRef) (tr : List (Event Cmd (Outcome × Bool) World)) :
    Option Origin :=
  tr.findSome? fun e =>
    if (e.before.images j).isNone && ((tools.after who e).images j).isSome then e.cmd.origin
    else none

/-- The world, and what each image was made from. -/
structure Provenance where
  world : World
  origin : ImageRef → Option Origin

namespace Provenance

variable (b : Backend)

def after (s : Provenance) (call : Call) : Provenance :=
  let x := tools.exec call.who (call.op.call b) call.outcomes s.world
  ⟨x.2.1, fun j =>
    if (x.2.1.images j).isNone then none
    else if (s.world.images j).isNone then madeIn call.who j x.1
    else s.origin j⟩

def run : List Call → Provenance → Provenance
  | [], s => s
  | call :: calls, s => run calls (s.after b call)

end Provenance

/-- A create misreads no failure, meets no image without a stamp that has to have one, and stamps
what it makes. -/
def Call.Clean (b : Backend) (call : Call) (w : World) : Prop :=
  match call.op with
  | .createVolume req => (∀ x ∈ call.outcomes, x.2 = false) ∧ MeetsStamp b req w ∧
      StampsKept req (machine.exec call.who (createVolume b req) (call.outcomes.map Prod.fst) w).1
  | _ => True

instance (b : Backend) (call : Call) (w : World) : Decidable (call.Clean b w) := by
  unfold Call.Clean
  split
  · infer_instance
  · infer_instance

namespace Provenance

/-- Every call of the history is clean at its moment. -/
def Clean (b : Backend) : List Call → Provenance → Prop
  | [], _ => True
  | call :: calls, s => call.Clean b s.world ∧ Clean b calls (s.after b call)

instance decidableClean (b : Backend) :
    (calls : List Call) → (s : Provenance) → Decidable (Clean b calls s)
  | [], _ => .isTrue trivial
  | call :: calls, s =>
      have := decidableClean b calls (s.after b call)
      inferInstanceAs (Decidable (_ ∧ _))

/-- Every volume was made for a request for it, and its stamp tells the source. -/
structure Faithful (b : Backend) (s : Provenance) : Prop where
  stamped : ∀ j o, s.origin j = some o → ∃ req, createTarget b req = some j ∧ o = req.origin ∧
    metaAt s.world j sourceKey = req.sourceDesc
  known : ∀ j, isVolume j = true → (s.world.images j).isSome = true → (s.origin j).isSome = true

end Provenance

section Histories

variable {b : Backend} {s : Provenance} {req : CreateVolumeRequest} {i : ImageRef}

theorem exec_create (who : ℕ) (req : CreateVolumeRequest) (xs : List (Outcome × Bool))
    (w : World) :
    (tools.exec who ((Operation.createVolume req).call b) xs w).1 =
        (tools.exec who (createVolume b req) xs w).1 ∧
      (tools.exec who ((Operation.createVolume req).call b) xs w).2.1 =
        (tools.exec who (createVolume b req) xs w).2.1 :=
  Machine.exec_bind_pure () (createVolume b req) xs w

theorem maintenance_spares (j : ImageRef) : maintenance.Spares j :=
  ⟨fun _ _ h hq => h.2 (hq ▸ rfl), fun h => h, fun _ h => h⟩

theorem crossing_origin {who : ℕ} {e : Event Cmd (Outcome × Bool) World}
    (hc : (createFootprint req i).allows e.cmd) (hbefore : ¬Present i e.before.images)
    (hafter : Present i (tools.after who e).images) :
    e.cmd.origin = some req.origin := by
  have hb := step_becomes (c := e.cmd) (w := e.before) (j := i) who e.outcome.1
  obtain ⟨im, him⟩ := Option.isSome_iff_exists.mp hafter
  rw [show (step who e.cmd e.outcome.1 e.before).2.images i = some im from him] at hb
  cases hb with
  | kept h _ => simp [Present, h] at hbefore
  | set _ h _ => simp [Present, h] at hbefore
  | created hreq _ =>
    rw [hreq] at hc ⊢
    have hplain : req.isClone = false := hc.2
    simp [Cmd.origin, CreateVolumeRequest.origin, parent_plain hplain]
  | cloned hreq _ _ _ =>
    rw [hreq] at hc ⊢
    have hparent : req.parent = some _ := hc.2
    simp [Cmd.origin, CreateVolumeRequest.origin, hparent]

theorem madeIn_create {who : ℕ} {w : World} {xs : List (Outcome × Bool)}
    (hi : createTarget b req = some i) (hw : w.images i = none)
    (hend : Present i (tools.exec who (createVolume b req) xs w).2.1.images) :
    madeIn who i (tools.exec who (createVolume b req) xs w).1 = some req.origin := by
  have hallowed := (Machine.exec_keeps (M := tools) (t := who) (s := w)
    (I := fun _ : World => True) (createVolume_footprint hi) trivial (fun _ _ _ _ _ => trivial)
    xs).2
  obtain ⟨e, he, hbefore, hafter⟩ := Machine.exec_crossing
    (P := fun a : World => Present i a.images) (by simp [Present, hw]) hend
  have horigin : ∀ e ∈ (tools.exec who (createVolume b req) xs w).1, ∀ o,
      (if (e.before.images i).isNone && ((tools.after who e).images i).isSome then e.cmd.origin
        else none) = some o → o = req.origin := by
    intro e he o ho
    split_ifs at ho with hcross
    obtain ⟨hnone, hsome⟩ : e.before.images i = none ∧ ((tools.after who e).images i).isSome := by
      simpa using hcross
    rw [crossing_origin (hallowed e he).1 (by simp [Present, hnone]) hsome] at ho
    exact (Option.some.inj ho).symm
  unfold madeIn
  cases hfind : List.findSome? _ (tools.exec who (createVolume b req) xs w).1 with
  | some o =>
    obtain ⟨e', he', ho⟩ := List.exists_of_findSome?_eq_some hfind
    rw [horigin e' he' o ho]
  | none =>
    have hnone := List.findSome?_eq_none_iff.mp hfind e he
    have hcross :
        ((e.before.images i).isNone && ((tools.after who e).images i).isSome) = true := by
      rw [Present] at hafter
      rw [hafter]
      simpa [Present] using hbefore
    rw [if_pos hcross, crossing_origin (hallowed e he).1 hbefore hafter] at hnone
    cases hnone

theorem stamp_after {w : World} {call : Call} (hclean : call.Clean b w) {j : ImageRef}
    (hj : Present j (tools.exec call.who (call.op.call b) call.outcomes w).2.1.images) :
    let x := tools.exec call.who (call.op.call b) call.outcomes w
    (Present j w.images ∧ metaAt x.2.1 j sourceKey = metaAt w j sourceKey) ∨
      (w.images j = none ∧ ∃ req, createTarget b req = some j ∧
        madeIn call.who j x.1 = some req.origin ∧ metaAt x.2.1 j sourceKey = req.sourceDesc) := by
  obtain ⟨op, who, xs⟩ := call
  cases hop : op.creates with
  | none => exact .inl (untouched_iff.mp (untouched_exec (maintenance_spares j)
      (call_maintains hop) xs) hj)
  | some req =>
    obtain rfl : op = .createVolume req := by
      cases op with
      | createVolume req' => rw [Option.some.inj hop]
      | _ => cases hop
    obtain ⟨hread, _, hkept⟩ := hclean
    dsimp only at hj hkept ⊢
    rw [(exec_create who req xs w).2] at hj
    rw [(exec_create who req xs w).1, (exec_create who req xs w).2]
    by_cases htarget : createTarget b req = some j
    · have hsame := Machine.exec_read machine Cmd.misread who w (createVolume b req) hread
      have hstamp := create_stamp htarget _ hkept (hsame ▸ hj)
      rw [← hsame] at hstamp
      cases hbefore : w.images j with
      | some im =>
        rw [hbefore] at hstamp
        exact .inl ⟨by simp [Present, hbefore], hstamp⟩
      | none =>
        rw [hbefore] at hstamp
        exact .inr ⟨rfl, req, htarget, madeIn_create htarget hbefore hj, hstamp⟩
    · exact .inl (untouched_iff.mp (untouched_exec (sparing_spares j)
        (createVolume_sparing htarget) xs) hj)

theorem origin_after {call : Call} {j : ImageRef}
    (hj : Present j (s.after b call).world.images) :
    (Present j s.world.images → (s.after b call).origin j = s.origin j) ∧
      (s.world.images j = none → (s.after b call).origin j = madeIn call.who j
        (tools.exec call.who (call.op.call b) call.outcomes s.world).1) := by
  have hsome : ((tools.exec call.who (call.op.call b) call.outcomes s.world).2.1.images j).isNone
      = false := by
    simpa [Present, Provenance.after, Option.isSome_iff_ne_none] using hj
  simp only [Provenance.after, hsome]
  refine ⟨fun h => ?_, fun h => ?_⟩
  · have hbefore : (s.world.images j).isNone = false := by
      simpa [Present, Option.isSome_iff_ne_none] using h
    rw [hbefore]
    rfl
  · rw [h]
    rfl

theorem faithful_after (hs : s.Faithful b) (call : Call) (hclean : call.Clean b s.world) :
    (s.after b call).Faithful b := by
  constructor
  · intro j o ho
    have hj : Present j (s.after b call).world.images := by
      by_contra hnot
      have hnone : (s.after b call).world.images j = none := by simpa [Present] using hnot
      simp only [Provenance.after] at ho hnone
      simp [hnone] at ho
    obtain ⟨hold, hnew⟩ := origin_after hj
    obtain ⟨hbefore, hstamp⟩ | ⟨hbefore, req, hreq, hmade, hstamp⟩ := stamp_after hclean hj
    · rw [hold hbefore] at ho
      obtain ⟨req, hreq, horigin, hdesc⟩ := hs.stamped j o ho
      exact ⟨req, hreq, horigin, hstamp.trans hdesc⟩
    · rw [hnew hbefore, hmade] at ho
      exact ⟨req, hreq, (Option.some.inj ho).symm, hstamp⟩
  · intro j hvol hj
    obtain ⟨hold, hnew⟩ := origin_after hj
    obtain ⟨hbefore, _⟩ | ⟨hbefore, req, _, hmade, _⟩ := stamp_after hclean hj
    · rw [hold hbefore]
      exact hs.known j hvol hbefore
    · rw [hnew hbefore, hmade]
      rfl

theorem faithful_run (calls : List Call) (hs : s.Faithful b)
    (hclean : Provenance.Clean b calls s) : (Provenance.run b calls s).Faithful b := by
  induction calls generalizing s with
  | nil => exact hs
  | cons call calls ih => exact ih (faithful_after hs call hclean.1) hclean.2

theorem createTarget_isVolume (h : createTarget b req = some i) : isVolume i = true := by
  unfold createTarget at h
  split at h
  · obtain rfl := Option.some.inj h
    rfl
  · cases h

/-- In every history whose calls are clean, from a cluster without volumes, the image that a clean
create returns was made from the source of its request. -/
theorem created_from_requested_source (b : Backend) (w₀ : World)
    (hw₀ : ∀ i, isVolume i = true → w₀.images i = none) (calls : List Call)
    (hclean : Provenance.Clean b calls ⟨w₀, fun _ => none⟩) (req : CreateVolumeRequest)
    (who : ℕ) (xs : List (Outcome × Bool)) (resp : CreateVolumeResponse)
    (hcall : Call.Clean b ⟨.createVolume req, who, xs⟩
      (Provenance.run b calls ⟨w₀, fun _ => none⟩).world)
    (hok : (tools.exec who (createVolume b req) xs
      (Provenance.run b calls ⟨w₀, fun _ => none⟩).world).2.2 = some (.ok resp)) :
    ((Provenance.run b calls ⟨w₀, fun _ => none⟩).after b
      ⟨.createVolume req, who, xs⟩).origin resp.volume = some req.origin := by
  have hstart : Provenance.Faithful b ⟨w₀, fun _ => none⟩ := by
    constructor
    · exact fun _ _ h => by cases h
    · intro j hvol hj
      have : (w₀.images j).isSome = true := hj
      rw [hw₀ j hvol] at this
      cases this
  generalize hs : Provenance.run b calls ⟨w₀, fun _ => none⟩ = s at hcall hok ⊢
  have hfaithful : s.Faithful b := hs ▸ faithful_run calls hstart hclean
  obtain ⟨hread, hmeets, hkept⟩ := hcall
  have hsame := Machine.exec_read machine Cmd.misread who s.world (createVolume b req) hread
  have htarget : createTarget b req = some resp.volume :=
    Machine.exec_yields createVolume_volume hok
  obtain ⟨hpresent, hresumed⟩ := create_stamp_ok htarget hmeets hkept (hsame ▸ hok)
  rw [← hsame] at hpresent
  have hj : Present resp.volume (s.after b ⟨.createVolume req, who, xs⟩).world.images := by
    rw [Provenance.after]
    dsimp only
    rwa [(exec_create who req xs s.world).2]
  obtain ⟨hold, hnew⟩ := origin_after hj
  cases hbefore : s.world.images resp.volume with
  | none =>
    rw [hnew hbefore, (exec_create who req xs s.world).1]
    exact madeIn_create htarget hbefore hpresent
  | some im =>
    have hsome : Present resp.volume s.world.images := by simp [Present, hbefore]
    obtain ⟨o, ho⟩ := Option.isSome_iff_exists.mp
      (hfaithful.known _ (createTarget_isVolume htarget) hsome)
    obtain ⟨req', htarget', horigin, hdesc⟩ := hfaithful.stamped _ _ ho
    rw [hold hsome, ho, horigin]
    rw [hresumed hsome] at hdesc
    rw [origin_of_sourceDesc htarget htarget' hdesc]

end Histories

section Mistaken

/-- A create whose requests all work. -/
def workingCreate (req : CreateVolumeRequest) : Call :=
  ⟨.createVolume req, 0, List.replicate 12 (.ok, false)⟩

theorem goldenWorld_volumes (i : ImageRef) (hi : isVolume i = true) :
    goldenWorld.images i = none := by
  have hne : i ≠ goldenImage := by
    rintro rfl
    cases hi
  exact setImage_images_of_ne hne

/-- The response of a create, if it has one. -/
def responseOf (call : CreateVolumeRequest) (w : World) : Option CreateVolumeResponse :=
  (tools.exec 0 (createVolume krbdBackend call) (List.replicate 12 (.ok, false)) w).2.2.bind
    Except.toOption

/-- A clone that is requested once comes from its source. -/
theorem created_from_requested_source_clone :
    ((Provenance.run krbdBackend [workingCreate (plainRequest "db")]
      ⟨goldenWorld, fun _ => none⟩).after krbdBackend (workingCreate goldenClone)).origin pvcImage =
      some (.clone (goldenImage.at (shortName tmpClonePrefix "pvc"))) := by
  have hresponse : (responseOf goldenClone (Provenance.run krbdBackend
      [workingCreate (plainRequest "db")] ⟨goldenWorld, fun _ => none⟩).world).isSome = true := by
    decide +kernel
  obtain ⟨resp, hresp⟩ := Option.isSome_iff_exists.mp hresponse
  have hok := succeeded_of_toOption hresp
  have hvolume : some pvcImage = some resp.volume := Machine.exec_yields createVolume_volume hok
  have h := created_from_requested_source krbdBackend goldenWorld goldenWorld_volumes
    [workingCreate (plainRequest "db")] (by decide +kernel) goldenClone 0
    (List.replicate 12 (.ok, false)) resp (by decide +kernel) hok
  rwa [← Option.some.inj hvolume] at h

/-- An empty volume is handed out as the clone of another one: a create with a source takes an
image without a stamp for its own. -/
theorem plain_volume_taken_for_clone :
    let s := Provenance.run krbdBackend [workingCreate (plainRequest "pvc")]
      ⟨goldenWorld, fun _ => none⟩
    (responseOf goldenClone s.world).map CreateVolumeResponse.volume = some pvcImage ∧
      (s.after krbdBackend (workingCreate goldenClone)).origin pvcImage = some .blank ∧
      goldenClone.origin = .clone (goldenImage.at (shortName tmpClonePrefix "pvc")) := by
  decide +kernel

end Mistaken

end BardCsi.Ceph
