import BardCsi.Ceph.Evaluate
import BardCsi.Ceph.FirstStage

/-!
The record that names the KMIP object of a volume. A caller that could not record the object
it has registered destroys it again. The record stays good as long as a write that reports a
failure has not taken effect; one that has taken effect makes the caller destroy the object
that is recorded, and nobody gets a passphrase for the volume any more.
-/
namespace BardCsi.Ceph

open Effect Program

section Contract

variable (e : String) (spec : Spec)

/-- The recorded object exists, and it is older than the next one. -/
structure GoodRecord (w : World) : Prop where
  image : (w.images spec.image).isSome
  object : metaOf w spec .kmipUID ≠ .empty → (w.kmip e (metaOf w spec .kmipUID)).isSome
  old : ∀ a n, metaOf w spec .kmipUID = .uid a n → n < w.seq

/-- What one caller tolerates from the others: they leave its objects alone and do not record
them. -/
structure OwnObjects (t : ℕ) (w w' : World) : Prop where
  kept : ∀ n, w'.kmip e (.uid t n) = w.kmip e (.uid t n)
  foreign : metaOf w' spec .kmipUID = metaOf w spec .kmipUID ∨
    ∀ n, metaOf w' spec .kmipUID ≠ .uid t n
  seq : w.seq ≤ w'.seq

theorem OwnObjects.refl (t : ℕ) (w : World) : OwnObjects e spec t w w :=
  ⟨fun _ => rfl, .inl rfl, Nat.le_refl _⟩

variable {e spec}

theorem OwnObjects.trans {t : ℕ} {w₁ w₂ w₃ : World} (h : OwnObjects e spec t w₁ w₂)
    (h' : OwnObjects e spec t w₂ w₃) : OwnObjects e spec t w₁ w₃ where
  kept n := (h'.kept n).trans (h.kept n)
  foreign := by
    obtain h₂ | h₂ := h'.foreign
    · rw [h₂]
      exact h.foreign
    · exact .inr h₂
  seq := Nat.le_trans h.seq h'.seq

theorem OwnObjects.unrecorded {t n : ℕ} {w w' : World} (h : OwnObjects e spec t w w')
    (hn : metaOf w spec .kmipUID ≠ .uid t n) : metaOf w' spec .kmipUID ≠ .uid t n := by
  obtain hsame | hother := h.foreign
  · rwa [hsame]
  · exact hother n

variable (e spec)

/-- A write of the record that reports a failure has not taken effect. -/
def FailedRecordsLost (c : Cmd) (o : Outcome) : Prop :=
  ∀ uid, c = .imageMetaSet spec.image ⟨.kmipUID, spec.snap⟩ uid → o.fault.isSome →
    o.landed = false

def recordContract (t : ℕ) : Contract Cmd Outcome World where
  inv := GoodRecord e spec
  rely := OwnObjects e spec t
  assume c o _ := FailedRecordsLost spec c o
  guarantee _ w w' := ∀ t', t' ≠ t → OwnObjects e spec t' w w'
  rely_refl := OwnObjects.refl e spec t
  rely_trans := OwnObjects.trans

end Contract

section Calls

variable {e : String} {spec : Spec} {t : ℕ} {w : World}

/-- A call keeps the record good, whatever it returns. -/
abbrev KeepsRecord (e : String) (spec : Spec) (t : ℕ) {α : Type} (p : Prog α) (w : World) : Prop :=
  p.Meets machine t (recordContract e spec t) (fun _ _ => True) w

theorem keepsRecord_pure {α : Type} (a : α) : KeepsRecord e spec t (.pure a) w :=
  fun _ _ _ => trivial

theorem keepsRecord_fail {α : Type} (err : Err) :
    KeepsRecord e spec t (.fail err : Prog α) w :=
  fun _ _ _ => trivial

theorem recordContract_quietReads (e : String) (spec : Spec) (t : ℕ) :
    QuietReads machine t (recordContract e spec t) := by
  intro c hc w o hi _
  change (∀ t', t' ≠ t → OwnObjects e spec t' w (step t c o w).2) ∧
    GoodRecord e spec (step t c o w).2 ∧ OwnObjects e spec t w (step t c o w).2
  obtain h | h := step_reads hc t o w
  · rw [h]
    exact ⟨fun t' _ => .refl _ _ t' w, hi, .refl _ _ t w⟩
  · rw [h]
    have hn := Nat.le_succ w.seq
    exact ⟨fun t' _ => ⟨fun _ => rfl, .inl rfl, hn⟩,
      ⟨hi.image, hi.object, fun a n hu => Nat.lt_of_lt_of_le (hi.old a n hu) hn⟩,
      ⟨fun _ => rfl, .inl rfl, hn⟩⟩

theorem kmipGet_keepsRecord (u : Text) : KeepsRecord e spec t (Kmip.get e u) w := by
  unfold KeepsRecord
  rw [← Program.bind_pure_right (Kmip.get e u)]
  apply kmipGet_meets machine_answers (recordContract_quietReads e spec t)
  · exact fun _ p _ _ _ => keepsRecord_pure p
  · exact fun _ err _ _ => keepsRecord_fail err

theorem setKmip_keepsRecord {n m : ℕ} {p : Option Text} (hi : GoodRecord e spec w)
    (hn : metaOf w spec .kmipUID ≠ .uid t n) (hm : w.seq ≤ m) :
    (∀ t', t' ≠ t → OwnObjects e spec t' w { w.setKmip e (.uid t n) p with seq := m }) ∧
      GoodRecord e spec { w.setKmip e (.uid t n) p with seq := m } := by
  refine ⟨fun t' ht => ⟨fun n' => ?_, .inl rfl, hm⟩, hi.image, fun hne => ?_, fun a n' hu => ?_⟩
  · exact setKmip_kmip_of_ne fun h => ht (by injection h)
  · have hsame : (w.setKmip e (.uid t n) p).kmip e (metaOf w spec .kmipUID) =
        w.kmip e (metaOf w spec .kmipUID) := setKmip_kmip_of_ne hn
    exact (congrArg Option.isSome hsame).trans (hi.object hne)
  · exact Nat.lt_of_lt_of_le (hi.old a n' hu) hm

theorem kmipRegister_keepsRecord {pass : Text} {f : Text → Prog Text}
    (hok : ∀ w₁ n, n < w₁.seq → (w₁.kmip e (.uid t n)).isSome →
      metaOf w₁ spec .kmipUID ≠ .uid t n → KeepsRecord e spec t (f (.uid t n)) w₁) :
    KeepsRecord e spec t ((Kmip.register e pass).bind f) w := by
  apply Meets.answered
  intro w₁ _ hi o _
  have hfresh : metaOf w₁ spec .kmipUID ≠ .uid t w₁.seq :=
    fun h => Nat.lt_irrefl _ (hi.old t w₁.seq h)
  obtain ⟨hown, hgood⟩ := setKmip_keepsRecord (p := some pass) hi hfresh (Nat.le_succ _)
  obtain ⟨hreply, hstate⟩ | ⟨⟨err, hreply⟩, hstate | hstate⟩ := step_kmipRegister t e pass o w₁
  · refine ⟨_, _, hreply, hstate, hown, hgood, hok _ w₁.seq (Nat.lt_succ_self _) ?_ hfresh⟩
    exact congrArg Option.isSome (setKmip_kmip_self (w := w₁))
  · exact ⟨_, _, hreply, hstate, fun t' _ => .refl _ _ t' w₁, hi, keepsRecord_fail _⟩
  · exact ⟨_, _, hreply, hstate, hown, hgood, keepsRecord_fail _⟩

theorem kmipDestroy_keepsRecord {n : ℕ} (hn : metaOf w spec .kmipUID ≠ .uid t n) :
    KeepsRecord e spec t (Kmip.destroy e (.uid t n)) w := by
  apply Meets.returns (P := fun _ _ => True)
  · apply Meets.ask (P := fun _ _ => True) fun _ _ _ _ _ => trivial
    intro w₁ o hr hi _
    obtain hstate | hstate := step_kmipDestroy t e (.uid t n) o w₁
    · rw [show (machine.step t _ o w₁).2 = _ from hstate]
      exact ⟨fun t' _ => .refl _ _ t' w₁, hi, trivial⟩
    · rw [show (machine.step t _ o w₁).2 = _ from hstate]
      obtain ⟨hown, hgood⟩ := setKmip_keepsRecord (p := none) hi (hr.unrecorded hn) (Nat.le_refl _)
      exact ⟨hown, hgood, trivial⟩
  · intro x w₁ _ _
    split
    · exact keepsRecord_pure ()
    · exact keepsRecord_pure ()
    · exact keepsRecord_fail _

theorem setMeta_keepsRecord {n : ℕ} (hi : GoodRecord e spec w) (hn : n < w.seq)
    (hobject : (w.kmip e (.uid t n)).isSome) :
    (∀ t', t' ≠ t → OwnObjects e spec t' w
        (w.setMeta spec.image ⟨.kmipUID, spec.snap⟩ (.uid t n))) ∧
      GoodRecord e spec (w.setMeta spec.image ⟨.kmipUID, spec.snap⟩ (.uid t n)) := by
  have hslot : metaOf (w.setMeta spec.image ⟨.kmipUID, spec.snap⟩ (.uid t n)) spec .kmipUID =
      .uid t n := metaAt_setMeta_self hi.image
  refine ⟨fun t' ht => ⟨fun _ => by rw [setMeta_kmip], .inr fun m => ?_,
    Nat.le_of_eq setMeta_seq.symm⟩, ?_, fun _ => ?_, fun a m hu => ?_⟩
  · rw [hslot]
    exact fun h => ht (by injection h with ha; exact ha.symm)
  · rw [setMeta_isSome]
    exact hi.image
  · rw [hslot, setMeta_kmip]
    exact hobject
  · rw [hslot] at hu
    injection hu with _ hm
    rw [setMeta_seq, ← hm]
    exact hn

/-- The rule for recording a registered object. After a failure it is still unrecorded, since
a write that reports a failure has not taken effect. -/
theorem imageMetaSet_keepsRecord {n : ℕ} {f : Except Err Unit → Prog Text} (hn : n < w.seq)
    (hobject : (w.kmip e (.uid t n)).isSome) (hfree : metaOf w spec .kmipUID ≠ .uid t n)
    (hok : ∀ w₁, KeepsRecord e spec t (f (.ok ())) w₁)
    (herr : ∀ w₁ err, metaOf w₁ spec .kmipUID ≠ .uid t n →
      KeepsRecord e spec t (f (.error err)) w₁) :
    KeepsRecord e spec t ((imageMetaSet spec .kmipUID (.uid t n)).attempt.bind f) w := by
  apply Meets.answered
  intro w₁ hr hi o ho
  obtain ⟨hown, hgood⟩ := setMeta_keepsRecord hi (Nat.lt_of_lt_of_le hn hr.seq)
    (by rw [hr.kept]; exact hobject)
  obtain ⟨hreply, _, hstate⟩ | ⟨⟨err, hreply⟩, hstate | ⟨_, hfault, hlanded⟩⟩ :=
    step_metaSet t spec.image ⟨.kmipUID, spec.snap⟩ (.uid t n) o w₁
  · exact ⟨_, _, hreply, hstate, hown, hgood, hok _⟩
  · exact ⟨_, _, hreply, hstate, fun t' _ => .refl _ _ t' w₁, hi,
      herr w₁ _ (hr.unrecorded hfree)⟩
  · rw [ho _ rfl hfault] at hlanded
    cases hlanded

theorem kmip_passphrase_keepsRecord : KeepsRecord e spec t (Kmip.passphrase e spec) w := by
  have hq := recordContract_quietReads e spec t
  apply imageMetaGetChecked_meets machine_answers hq
  · intro w₁ _ _
    refine Meets.ite (fun _ => kmipGet_keepsRecord _) fun _ => ?_
    apply randomText_meets machine_answers hq
    · intro w₁ w₂ _ _ _ _ _
      apply kmipRegister_keepsRecord
      intro w₃ n hn hobject hfree
      apply imageMetaSet_keepsRecord hn hobject hfree
      · exact fun _ => keepsRecord_pure _
      · intro w₄ err hfree₄
        apply imageMetaGet_meets machine_answers hq
        intro w₅ u hr₅ _ _
        have hfree₅ := hr₅.unrecorded hfree₄
        refine Meets.ite (fun _ => ?_) fun _ => ?_
        · apply (kmipDestroy_keepsRecord hfree₅).tryAnyway
          exact fun _ _ _ _ => kmipGet_keepsRecord u
        · apply (kmipDestroy_keepsRecord hfree₅).tryAnyway
          exact fun _ _ _ _ => keepsRecord_fail err
    · exact fun _ err _ _ => keepsRecord_fail err
  · exact fun _ err _ _ => keepsRecord_fail err

theorem recordContract_compatible (e : String) (spec : Spec) :
    Pool.Compatible (recordContract e spec) (GoodRecord e spec) :=
  ⟨fun _ _ => Iff.rfl, fun _ t' _ _ _ ht _ _ hg => hg t' (Ne.symm ht)⟩

theorem eval_kmipPassphrase_of_good (E : Env) (h : GoodRecord e spec w) :
    ∃ p w', evalIn E (Kmip.passphrase e spec) w = (.ok p, w') := by
  by_cases hu : metaOf w spec .kmipUID = .empty
  · let w₁ := ({ w with seq := w.seq + 1 } : World).registered E.who e (.minted E.who w.seq)
    have hset := eval_imageMetaSet (E := E) (w := w₁) .kmipUID (.uid E.who (w.seq + 1)) h.image
    refine ⟨.minted E.who w.seq,
      w₁.setMeta spec.image ⟨.kmipUID, spec.snap⟩ (.uid E.who (w.seq + 1)), ?_⟩
    refine (eval_bind_of (eval_imageMetaGetChecked spec .kmipUID)).trans ?_
    rw [if_neg (not_not_intro hu)]
    refine (eval_bind_of (eval_randomText _)).trans ?_
    refine (eval_bind_of (eval_kmipRegister e _)).trans ?_
    exact eval_attempt_bind_of hset
  · obtain ⟨p, hp⟩ := Option.isSome_iff_exists.mp (h.object hu)
    refine ⟨p, w, ?_⟩
    refine (eval_bind_of (eval_imageMetaGetChecked spec .kmipUID)).trans ?_
    rw [if_pos hu]
    exact eval_kmipGet e hp

end Calls

/-- Callers of one volume in any order, crashing anywhere and with any request failing: the
recorded object exists in every state they reach, and a later call without faults returns a
passphrase, provided that a write of the record that reports a failure has not taken
effect. -/
theorem kmip_record_recoverable (e : String) (spec : Spec) (w : World)
    (hw : GoodRecord e spec w) (schedule : List (ℕ × Outcome))
    (hlost : Pool.Throughout machine (fun _ c o _ => FailedRecordsLost spec c o) schedule
      ⟨fun _ => Kmip.passphrase e spec, w⟩) :
    let s := (Pool.run machine schedule ⟨fun _ => Kmip.passphrase e spec, w⟩).state
    (metaOf s spec .kmipUID ≠ .empty → (s.kmip e (metaOf s spec .kmipUID)).isSome) ∧
      ∀ E : Env, ∃ p w', evalIn E (Kmip.passphrase e spec) s = (.ok p, w') := by
  obtain ⟨⟨hgood, _⟩, _⟩ := Pool.Good.run (M := machine) (Q := fun _ _ _ => True)
    (recordContract_compatible e spec) (P := ⟨fun _ => Kmip.passphrase e spec, w⟩)
    ⟨hw, fun t => kmip_passphrase_keepsRecord⟩ schedule hlost
  exact ⟨hgood.object, fun E => eval_kmipPassphrase_of_good E hgood⟩

/-- A caller whose write of the record is lost destroys its object, another one registers
and records its own, and a third one is still on its way. -/
theorem kmip_record_recoverable_after_loss :
    let e := "hsm:5696"
    let s := (Pool.run machine
      [(0, .ok), (0, .ok), (0, .ok), (0, ⟨some (.error "timeout"), false, 0⟩), (2, .ok), (1, .ok),
        (1, .ok), (1, .ok), (1, .ok), (0, .ok), (0, .ok)]
      ⟨fun _ => Kmip.passphrase e raceImage.spec, raceWorld⟩).state
    metaOf s raceImage.spec .kmipUID = .uid 1 3 ∧ (s.kmip e (.uid 1 3)).isSome := by
  have hgood : GoodRecord "hsm:5696" raceImage.spec raceWorld :=
    ⟨rfl, fun h => absurd rfl h, fun a n h => by cases h⟩
  refine ⟨rfl, ?_⟩
  refine (kmip_record_recoverable "hsm:5696" raceImage.spec raceWorld hgood _ ?_).1 (by decide)
  refine ⟨?_, ?_, ?_, ?_, ?_, ?_, ?_, ?_, ?_, ?_, ?_, trivial⟩ <;>
    exact fun _ _ _ => rfl

/-- A write that reports a failure although it has taken effect: the caller destroys the object
that is now recorded, and a later call without faults fails. -/
theorem kmip_recorded_object_destroyed :
    let e := "hsm:5696"
    let s := (Pool.run machine
      [(0, .ok), (0, .ok), (0, .ok), (0, ⟨some (.error "timeout"), true, 0⟩), (0, .ok), (0, .ok)]
      ⟨fun _ => Kmip.passphrase e raceImage.spec, raceWorld⟩).state
    metaOf s raceImage.spec .kmipUID = .uid 0 1 ∧ s.kmip e (.uid 0 1) = none ∧
      (evalIn ⟨1, fun _ _ => 0⟩ (Kmip.passphrase e raceImage.spec) s).1.toOption = none := by
  decide +kernel

end BardCsi.Ceph
