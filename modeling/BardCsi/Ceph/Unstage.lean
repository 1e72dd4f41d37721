import BardCsi.Ceph.Evaluate
import BardCsi.Ceph.SelfFence

/-!
What an unstage leaves on the node. As long as every map of the image is recorded, an unstage
that succeeds has freed it. An unstage removes the record as well, so the next one takes the
device of the filesystem below the staging path for the device of the volume, and can only
succeed if that device has no size.
-/
namespace BardCsi.Ceph

open Effect Program

/-- The tools that look at the record, the device and the decrypted view see what is there. -/
def readable (c : Cmd) (o : Outcome) (w : World) : Bool :=
  match c with
  | .readRecord p => o.fault.isNone || (Assoc.get w.records p).isNone
  | .blockdevGetsize d => o.fault.isNone || w.sizeOf d = 0
  | .luksStatus p => o.fault.isNone || (Assoc.get w.mappers p).isNone
  | _ => true

/-- The staging path is not in use, and a record of it names a device that is free. -/
structure Released (p : String) (w : World) : Prop where
  mount : Assoc.get w.mounts p = none
  mapper : Assoc.get w.mappers p = none
  device : ∀ d, (Assoc.get w.records p).bind RecordFile.device = some d → w.sizeOf d = 0

def readableContract : Contract Cmd Outcome World :=
  .alone (fun _ => True) (fun c o w => readable c o w = true) fun _ _ _ => True

abbrev Reading {α : Type} (prog : Prog α) (Q : Except Err α → World → Prop) (w : World) : Prop :=
  prog.Meets machine 0 readableContract Q w

section Releases

variable {p : String} {w : World} {α : Type} {Q : Except Err α → World → Prop} {b : Backend}

theorem reading_request {c : Cmd} {k : c.Reply → Prog α}
    (h : ∀ o, readable c o w = true → Reading (k (step 0 c o w).1) Q (step 0 c o w).2) :
    Reading (.request c k) Q w := by
  apply meets_request_alone.mpr
  exact fun _ o ho => ⟨trivial, trivial, h o ho⟩

theorem reading_pure {a : α} (h : Q (.ok a) w) : Reading (.pure a) Q w :=
  meets_pure_alone.mpr fun _ => h

theorem reading_fail {e : Err} (h : Q (.error e) w) : Reading (.fail e) Q w :=
  meets_fail_alone.mpr fun _ => h

theorem readDeviceRecord_reading {f : Option RecordFile → Prog α} (hdir : b.stateDir ≠ "")
    (h : Reading (f (Assoc.get w.records p)) Q w) :
    Reading ((readDeviceRecord b p).bind f) Q w := by
  unfold readDeviceRecord
  rw [if_neg hdir]
  apply reading_request
  intro o ho
  rw [show (step 0 (.readRecord p) o w).2 = w from step_state_of_perform (orNotFound_state _)]
  rcases step_cases 0 (.readRecord p) o w with hs | ⟨fault, hfault, hreply, _⟩
  · rw [hs]
    change Reading (Program.bind (Program.bind (.pure (orNotFound _ w).1) _) f) Q w
    cases hrec : Assoc.get w.records p with
    | none =>
      rw [hrec] at h
      exact h
    | some file =>
      rw [hrec] at h
      exact h
  · have hnone : Assoc.get w.records p = none := by simpa [readable, hfault] using ho
    rw [← Option.some.inj hreply]
    rw [hnone] at h
    exact h

theorem unstageDevice_reading {f : Option Device → Prog α}
    (h : ∀ dev, (∀ d, file.bind RecordFile.device = some d → dev = some d) → Reading (f dev) Q w) :
    Reading ((unstageDevice file p).bind f) Q w := by
  unfold unstageDevice
  cases hdev : file.bind RecordFile.device with
  | some d => exact h (some d) fun d' hd' => hd' ▸ hdev.symm ▸ rfl
  | none =>
    apply reading_request
    intro o _
    rw [show (step 0 (.findmntTarget p) o w).2 = w from step_state_of_perform rfl]
    exact h _ fun d hd => by rw [hdev] at hd; cases hd

variable {file : Option RecordFile}

/-- A staging path whose mount is gone. -/
def Unmounted (p : String) (file : Option RecordFile) (w : World) : Prop :=
  Assoc.get w.mounts p = none ∧ Assoc.get w.records p = file

theorem umountStaging_reading (hfile : Assoc.get w.records p = file) :
    Reading (umountStaging p) (IfOk fun _ => Unmounted p file) w := by
  apply reading_request
  intro o _
  rw [Program.bind_pure]
  rcases step_cases 0 (.umount p) o w with hs | ⟨fault, _, hreply, _⟩
  · rw [hs, show perform 0 o.pick (.umount p) w = performUmount p w from rfl]
    unfold performUmount
    split_ifs with hmounted
    · have hnone : Assoc.get w.mounts p = none := by simpa using hmounted
      exact reading_pure ⟨hnone, hfile⟩
    · exact reading_pure ⟨Assoc.get_erase_self _ _, hfile⟩
  · rw [← Option.some.inj hreply]
    cases fault with
    | error text => exact reading_fail trivial
    | status code => exact reading_fail trivial

/-- A staging path whose mount and decrypted view are gone. -/
def Closed (p : String) (file : Option RecordFile) (w : World) : Prop :=
  Unmounted p file w ∧ Assoc.get w.mappers p = none

theorem closeLuks_reading (h : Unmounted p file w) :
    Reading (closeLuks p) (IfOk fun _ => Closed p file) w := by
  apply reading_request
  intro o ho
  rw [show (step 0 (.luksStatus p) o w).2 = w from
    step_state_of_perform (performLuksStatus_state p)]
  cases hmapper : Assoc.get w.mappers p with
  | none =>
    have hidle : ((step 0 (.luksStatus p) o w).1.err.isNone &&
        (step 0 (.luksStatus p) o w).1.out.isSome) = false := by
      rcases step_luksStatus_reply 0 o w p with ⟨d, _, hd⟩ | ⟨out, e, hreply⟩
      · rw [hmapper] at hd
        cases hd
      · rw [hreply]
        rfl
    change Reading (if _ then _ else _) _ w
    rw [if_neg (by rw [hidle]; decide)]
    exact reading_pure ⟨h, hmapper⟩
  | some d =>
    have hfault : o.fault = none := by simpa [readable, hmapper] using ho
    have hopen : (step 0 (.luksStatus p) o w).1 = ⟨some d, none⟩ := by
      rw [step, hfault]
      change (performLuksStatus p w).1 = _
      rw [performLuksStatus, hmapper]
    rw [hopen]
    apply reading_request
    intro o' _
    rcases step_cases 0 (.luksClose p) o' w with hs | ⟨fault, _, hreply, _⟩
    · rw [hs, show perform 0 o'.pick (.luksClose p) w = performLuksClose p w from rfl]
      unfold performLuksClose
      split_ifs with hheld hnone
      · exact reading_fail trivial
      · exact reading_fail trivial
      · exact reading_pure ⟨h, Assoc.get_erase_self _ _⟩
    · rw [← Option.some.inj hreply]
      exact reading_fail trivial

theorem deviceMapped_reading {d : Device} {f : Bool → Prog α} (hyes : Reading (f true) Q w)
    (hno : w.sizeOf d = 0 → Reading (f false) Q w) :
    Reading ((deviceMapped d).bind f) Q w := by
  apply reading_request
  intro o ho
  rw [getsize_state]
  change Reading (f _) Q w
  by_cases hsize : w.sizeOf d = 0
  · cases (step 0 (.blockdevGetsize d) o w).1.err.isNone &&
        decide ((step 0 (.blockdevGetsize d) o w).1.out > 0) with
    | true => exact hyes
    | false => exact hno hsize
  · have hfault : o.fault = none := by simpa [readable, hsize] using ho
    have hreply : (step 0 (.blockdevGetsize d) o w).1 = ⟨w.sizeOf d, none⟩ := by
      rw [step, hfault]
      change (performGetsize d w).1 = _
      rw [performGetsize, if_pos (Nat.pos_of_ne_zero hsize)]
    rw [hreply, show (decide (w.sizeOf d > 0)) = true from
      decide_eq_true (Nat.pos_of_ne_zero hsize)]
    exact hyes

theorem freeDevice_reading {dev : Option Device} (h : Closed p file w) :
    Reading (freeDevice file dev)
      (IfOk fun _ a => Closed p file a ∧ ∀ d, dev = some d → a.sizeOf d = 0) w := by
  cases dev with
  | none => exact reading_pure ⟨h, fun d hd => by cases hd⟩
  | some d =>
    apply reading_request
    intro o _
    have hkept : ∀ m options, Closed p file (step 0 (.rbdUnmap m d options) o w).2 := by
      intro m options
      rcases step_rbdUnmap 0 o w m d options with hs | ⟨_, hs⟩
      · rwa [hs]
      · rw [hs]
        exact h
    apply deviceMapped_reading
    · exact reading_fail trivial
    · intro hsize
      refine reading_pure ⟨hkept _ _, fun d' hd' => ?_⟩
      obtain rfl := Option.some.inj hd'
      exact hsize

theorem disposeNbdLog_reading {f : Unit → Prog α} (h : Reading (f ()) Q w) :
    Reading ((disposeNbdLog file).bind f) Q w := by
  unfold disposeNbdLog
  split
  · split_ifs with hlog
    · exact h
    · apply reading_request
      intro o _
      rw [show ∀ log how, (step 0 (.disposeLog log how) o w).2 = w from
        fun _ _ => step_state_of_perform rfl]
      exact h
  · exact h

theorem clearDevice_reading (h : Closed p file w)
    (hdev : ∀ d, file.bind RecordFile.device = some d → w.sizeOf d = 0) :
    Reading (clearDevice b p) (IfOk fun _ => Released p) w := by
  have hreleased : Released p w := by
    refine ⟨h.1.1, h.2, fun d hd => hdev d ?_⟩
    rwa [h.1.2] at hd
  refine Meets.ite (fun _ => reading_pure hreleased) fun _ => ?_
  apply reading_request
  intro o _
  apply reading_pure
  rcases step_removeRecord 0 o w p with hs | hs
  · rw [hs]
    exact hreleased
  · rw [hs]
    refine ⟨hreleased.mount, hreleased.mapper, fun d hd => ?_⟩
    rw [Assoc.get_erase_self] at hd
    cases hd

theorem nodeUnstage_releases {req : NodeUnstageRequest} (hdir : b.stateDir ≠ "") :
    Reading (nodeUnstage b req) (IfOk fun _ a => Released req.stagingPath a ∧
      (b.clusters req.volume.inst).isSome = true) w := by
  unfold nodeUnstage cluster clusterFor
  cases b.clusters req.volume.inst with
  | none => exact reading_fail trivial
  | some cc =>
    apply readDeviceRecord_reading hdir
    apply unstageDevice_reading
    intro dev hdev
    apply (umountStaging_reading rfl).ends
    intro _ a₁ _ h₁
    apply (closeLuks_reading h₁).ends
    intro _ a₂ _ h₂
    apply (freeDevice_reading h₂).ends
    rintro _ a₃ _ ⟨h₃, hfree⟩
    apply disposeNbdLog_reading
    apply (clearDevice_reading h₃ fun d hd => hfree d (hdev d hd)).mono
    intro r a₄ _ h₄
    cases r with
    | ok u => exact ⟨h₄, rfl⟩
    | error e => trivial

end Releases

section Again

variable {E : Env} {p : String} {w : World} {b : Backend} {file : Option RecordFile} {d : Device}

/-- The device that an unstage takes for the device of the volume. -/
def deviceToFree (w : World) (p : String) : Device :=
  ((Assoc.get w.records p).bind RecordFile.device).getD (.other (w.below p))

theorem eval_readDeviceRecord (hdir : b.stateDir ≠ "") :
    evalIn E (readDeviceRecord b p) w = (.ok (Assoc.get w.records p), w) := by
  have hanswer : alone E (.readRecord p) w = orNotFound (Assoc.get w.records p) w := rfl
  unfold readDeviceRecord
  rw [if_neg hdir]
  cases hfile : Assoc.get w.records p with
  | none => exact eval_run (hanswer.trans (by rw [hfile]; rfl))
  | some file => exact eval_run (hanswer.trans (by rw [hfile]; rfl))

theorem eval_unstageDevice (hmount : Assoc.get w.mounts p = none) :
    evalIn E (unstageDevice (Assoc.get w.records p) p) w = (.ok (some (deviceToFree w p)), w) := by
  unfold unstageDevice deviceToFree
  cases (Assoc.get w.records p).bind RecordFile.device with
  | some d => rfl
  | none =>
    change (Except.ok (some ((Assoc.get w.mounts p).getD (.other (w.below p)))), w) = _
    rw [hmount]

theorem eval_umountStaging (hmount : Assoc.get w.mounts p = none) :
    evalIn E (umountStaging p) w = (.ok (), w) := by
  have hanswer : alone E (.umount p) w = (.error .notMounted, w) := by
    change performUmount p w = _
    rw [performUmount, hmount]
    rfl
  exact eval_run hanswer

theorem eval_closeLuks (hmapper : Assoc.get w.mappers p = none) :
    evalIn E (closeLuks p) w = (.ok (), w) := by
  have hanswer : alone E (.luksStatus p) w = (⟨none, some (.other "is inactive")⟩, w) := by
    change performLuksStatus p w = _
    rw [performLuksStatus, hmapper]
    rfl
  exact eval_run hanswer

/-- Nothing can be unmapped: the device has no size, or is none of a mounter. -/
theorem performUnmap_nothing {m : Mounter} (h : w.sizeOf d = 0 ∨ d.isRaw = false) :
    ∃ e, performUnmap m d w = (.error e, w) := by
  have hfree : w.sizeOf d = 0 → Assoc.get w.mapped d = none := by
    intro hsize
    unfold World.sizeOf at hsize
    split at hsize
    · cases hsize
    · rename_i hnone
      simpa using hnone
  unfold performUnmap
  split
  · rcases h with hsize | hraw
    · rw [hfree hsize]
      exact ⟨_, rfl⟩
    · cases hraw
  · rcases h with hsize | hraw
    · rw [hfree hsize]
      exact ⟨_, rfl⟩
    · cases hraw
  · exact ⟨_, rfl⟩

theorem eval_deviceMapped :
    evalIn E (deviceMapped d) w = (.ok (decide (w.sizeOf d > 0)), w) := by
  have hanswer : alone E (.blockdevGetsize d) w = performGetsize d w := rfl
  unfold performGetsize at hanswer
  by_cases hsize : w.sizeOf d > 0
  · rw [if_pos hsize] at hanswer
    exact eval_run hanswer
  · rw [if_neg hsize] at hanswer
    rw [decide_eq_false hsize]
    exact eval_run hanswer

theorem eval_freeDevice (h : w.sizeOf d = 0 ∨ d.isRaw = false) :
    ∃ r, evalIn E (freeDevice file (some d)) w = (r, w) ∧ (r = .ok () ↔ w.sizeOf d = 0) := by
  obtain ⟨e, he⟩ := performUnmap_nothing (m := (file.map RecordFile.mounter).getD .krbd) h
  have hrun : evalIn E (freeDevice file (some d)) w =
      evalIn E ((deviceMapped d).bind fun mapped =>
        if mapped then fail (errorf ["ceph-rbd: device ", d.text, " still mapped after unmap"])
        else return ()) w := eval_run he
  rw [hrun, show evalIn E _ w = _ from eval_bind_of eval_deviceMapped]
  by_cases hsize : w.sizeOf d > 0
  · rw [decide_eq_true hsize]
    refine ⟨_, rfl, ⟨?_, fun hzero => absurd hzero hsize.ne'⟩⟩
    intro hok
    cases hok
  · rw [decide_eq_false hsize]
    exact ⟨_, rfl, fun _ => Nat.eq_zero_of_not_pos hsize, fun _ => rfl⟩

theorem eval_disposeNbdLog : evalIn E (disposeNbdLog file) w = (.ok (), w) := by
  unfold disposeNbdLog
  split
  · split_ifs with hlog
    · rfl
    · rfl
  · rfl

theorem eval_clearDevice : (evalIn E (clearDevice b p) w).1 = .ok () := by
  unfold clearDevice
  split_ifs with hdir
  · rfl
  · rfl

theorem unstage_again {req : NodeUnstageRequest} (hdir : b.stateDir ≠ "")
    (hcluster : (b.clusters req.volume.inst).isSome = true) (h : Released req.stagingPath w) :
    (evalIn E (nodeUnstage b req) w).1 = .ok () ↔
      w.sizeOf (deviceToFree w req.stagingPath) = 0 := by
  have hnothing : w.sizeOf (deviceToFree w req.stagingPath) = 0 ∨
      (deviceToFree w req.stagingPath).isRaw = false := by
    unfold deviceToFree
    cases hdev : (Assoc.get w.records req.stagingPath).bind RecordFile.device with
    | some d => exact .inl (h.device d hdev)
    | none => exact .inr rfl
  obtain ⟨cc, hcc⟩ := Option.isSome_iff_exists.mp hcluster
  obtain ⟨r, hfree, hr⟩ := eval_freeDevice (E := E)
    hnothing
  have hstart : evalIn E (nodeUnstage b req) w =
      evalIn E ((freeDevice (Assoc.get w.records req.stagingPath)
        (some (deviceToFree w req.stagingPath))).bind fun _ => do
          disposeNbdLog (Assoc.get w.records req.stagingPath)
          clearDevice b req.stagingPath) w := by
    unfold nodeUnstage cluster clusterFor
    rw [hcc]
    exact (eval_bind_of (eval_readDeviceRecord hdir)).trans
      ((eval_bind_of (eval_unstageDevice h.mount)).trans
        ((eval_bind_of (eval_umountStaging h.mount)).trans
          (eval_bind_of (eval_closeLuks h.mapper))))
  rw [hstart, ← hr]
  cases r with
  | ok u =>
    rw [show evalIn E _ w = _ from eval_bind_of hfree]
    exact ⟨fun _ => rfl, fun _ => (congrArg Prod.fst
      (eval_bind_of eval_disposeNbdLog)).trans eval_clearDevice⟩
  | error e => rw [show evalIn E _ w = _ from eval_bind_error hfree]

end Again

/-- The calls for a volume at its staging path, with an unstage at the end. -/
def thenUnstage {P : Placement} {p : String} (b : Backend) (calls : List (NodeCall P p))
    (req : NodeUnstageRequest) : Prog Unit := do
  session b calls
  nodeUnstage b req

/-- In every run of stages and unstages of a volume at one staging path whose requests are
dependable, an unstage that succeeds leaves no map of the image. If the tools saw what was there,
it succeeds again if and only if the record is still there or the device of the filesystem below
the staging path has no size. -/
theorem unstage_frees_and_repeats (b : Backend) (hdir : b.stateDir ≠ "") (P : Placement)
    (p : String) (calls : List (NodeCall P p)) (req : NodeUnstageRequest)
    (hpath : req.stagingPath = p) (w : World)
    (hw : unmapped (P.volumeAt p) w = true) (outcomes : List Outcome)
    (hdependable : ∀ e ∈ (machine.exec 0 (thenUnstage b calls req) outcomes w).1,
      dependable (P.volumeAt p) e.cmd e.outcome e.before = true)
    (w' : World) (hok : (machine.exec 0 (thenUnstage b calls req) outcomes w).2 =
      (w', some (.ok ()))) :
    unmapped (P.volumeAt p) w' = true ∧
      ((∀ e ∈ (machine.exec 0 (thenUnstage b calls req) outcomes w).1,
        readable e.cmd e.outcome e.before = true) →
      ∀ E, (evalIn E (nodeUnstage b req) w').1 = .ok () ↔
        ((Assoc.get w'.records p).bind RecordFile.device).isSome = true ∨
          w'.sizeOf (.other (w'.below p)) = 0) := by
  have hfrees : Fences (P.volumeAt p) (thenUnstage b calls req)
      (Ends (fun _ a => unmapped (P.volumeAt p) a = true)
        fun _ => Recorded (P.volumeAt p) p)
      w := by
    apply (session_fences hdir calls (Recorded.of_unmapped hw)).andThen
    · exact fun _ a _ ha => nodeUnstage_fences hdir hpath ha
    · exact fun _ a _ ha => ha
  have hend := (hfrees.exec trivial outcomes hdependable).2.2
  rw [hok] at hend
  refine ⟨hend _ rfl, fun hreadable E => ?_⟩
  have hreads : Reading (thenUnstage b calls req) (IfOk fun _ a =>
      Released req.stagingPath a ∧ (b.clusters req.volume.inst).isSome = true) w := by
    have hany : Reading (session b calls) (fun _ _ => True) w :=
      Meets.of_uses (P := fun _ => True) (Uses.any _) trivial
        (fun _ _ _ h => h) fun _ _ _ _ _ _ _ => ⟨trivial, trivial, trivial⟩
    exact hany.andThen (fun _ _ _ _ => nodeUnstage_releases hdir) fun _ _ _ _ => trivial
  have hreleased := (hreads.exec trivial outcomes hreadable).2.2
  rw [hok] at hreleased
  obtain ⟨hpathFree, hcluster⟩ := hreleased _ rfl
  rw [unstage_again hdir hcluster hpathFree, hpath, deviceToFree]
  rw [hpath] at hpathFree
  cases hdev : (Assoc.get w'.records p).bind RecordFile.device with
  | some d => simp [hpathFree.device d hdev]
  | none => simp

section Instance

def unstageRequest : NodeUnstageRequest := ⟨twoVolumes.volumeAt "/a", "/a"⟩

/-- The staging paths lie on a filesystem without a block device. -/
def onOverlay : World :=
  { twoImages with
    below := fun _ => "overlay"
    disks := fun _ => 0 }

theorem unstage_frees_and_repeats_on_overlay :
    unmapped (twoVolumes.volumeAt "/a") (machine.exec 0
        (thenUnstage krbdBackend [stageAt "/a"] unstageRequest) (List.replicate 30 .ok)
        onOverlay).2.1
      = true ∧
    (evalIn ⟨0, fun _ _ => 0⟩ (nodeUnstage krbdBackend unstageRequest) (machine.exec 0
        (thenUnstage krbdBackend [stageAt "/a"] unstageRequest) (List.replicate 30 .ok)
          onOverlay).2.1).1 = .ok () := by
  have hboth := unstage_frees_and_repeats krbdBackend (by decide) twoVolumes "/a" [stageAt "/a"]
    unstageRequest rfl onOverlay (by decide +kernel) (List.replicate 30 .ok) (by decide +kernel) _
    (Prod.ext rfl (by decide +kernel))
  exact ⟨hboth.1, (hboth.2 (by decide +kernel) _).mpr (.inr (by decide +kernel))⟩

/-- On a node with a disk an unstage that has succeeded does not succeed again, though nothing
fails. On a node without one, an unstage succeeds and leaves the map of a stage that could not
write its record. -/
theorem unstage_repeat_fails_and_leaks :
    ((machine.exec 0 (thenUnstage krbdBackend [stageAt "/a"] unstageRequest)
        (List.replicate 30 .ok) twoImages).2.2 = some (.ok ()) ∧
      (evalIn ⟨0, fun _ _ => 0⟩ (nodeUnstage krbdBackend unstageRequest) (machine.exec 0
        (thenUnstage krbdBackend [stageAt "/a"] unstageRequest) (List.replicate 30 .ok)
          twoImages).2.1).1 ≠ .ok ()) ∧
    (machine.exec 0 (thenUnstage krbdBackend [stageAt "/a"] unstageRequest)
        (List.replicate 5 .ok ++ [diskFull] ++ List.replicate 20 .ok) onOverlay).2.2 =
      some (.ok ()) ∧
    unmapped (twoVolumes.volumeAt "/a") (machine.exec 0
        (thenUnstage krbdBackend [stageAt "/a"] unstageRequest)
        (List.replicate 5 .ok ++ [diskFull] ++ List.replicate 20 .ok) onOverlay).2.1 = false := by
  refine ⟨⟨?_, ?_⟩, ?_, ?_⟩
  · decide +kernel
  · decide +kernel
  · decide +kernel
  · decide +kernel

end Instance

end BardCsi.Ceph
