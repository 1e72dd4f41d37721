import BardCsi.Ceph.DeviceIdentity

/-!
Fencing an exclusive volume must not hit the node that fences. The calls for one staging path
run one after the other, and every request may fail. A fresh map fences all watchers of the
image, so it has to be preceded by the record of every earlier map that is still there.
-/
namespace BardCsi.Ceph

open Effect Program

/-- The request does not block a client through which this node has the image mapped. -/
def fencesForeign (vol : ImageRef) (w : World) : Cmd → Bool
  | .blocklistAdd a => w.mapped.all fun x => x.2.image ≠ vol || a ≠ .node x.2.client
  | _ => true

/-- The node has no map of the image. -/
def unmapped (vol : ImageRef) (w : World) : Bool := w.mapped.all fun x => x.2.image ≠ vol

/-- A failed map leaves nothing behind, a record is written, and neither a record nor the size
of a device is misread while the node has a map of the image. -/
def dependable (vol : ImageRef) (c : Cmd) (o : Outcome) (w : World) : Bool :=
  match c with
  | .rbdMap _ _ _ _ _ _ => o.fault.isNone || !o.lands
  | .writeRecord _ _ => o.lands
  | .readRecord _ => o.fault.isNone || unmapped vol w
  | .blockdevGetsize d => o.fault.isNone || w.imageOf d ≠ some vol
  | _ => true

/-- Every map of the image is the one that the record of the staging path names. -/
def Recorded (vol : ImageRef) (p : String) (w : World) : Prop :=
  ∀ x ∈ w.mapped, x.2.image = vol →
    Assoc.get w.mapped x.1 = some x.2 ∧ (Assoc.get w.records p).bind RecordFile.device = some x.1

theorem unmapped_iff {vol : ImageRef} {w : World} :
    unmapped vol w = true ↔ ∀ x ∈ w.mapped, x.2.image ≠ vol := by
  simp [unmapped]

section Assertions

variable {vol : ImageRef} {p : String} {w w' : World}

theorem Recorded.of_unmapped (h : unmapped vol w = true) : Recorded vol p w :=
  fun x hx himage => absurd himage (unmapped_iff.mp h x hx)

theorem Recorded.congr (h : Recorded vol p w) (hmapped : w'.mapped = w.mapped)
    (hrecords : w'.records = w.records) : Recorded vol p w' := by
  unfold Recorded
  rwa [hmapped, hrecords]

theorem unmapped_congr (h : unmapped vol w = true) (hmapped : w'.mapped = w.mapped) :
    unmapped vol w' = true := by
  unfold unmapped
  rwa [hmapped]

theorem fencesForeign_of_unmapped (h : unmapped vol w = true) (c : Cmd) :
    fencesForeign vol w c = true := by
  cases c with
  | blocklistAdd a =>
    simp only [fencesForeign, List.all_eq_true]
    intro x hx
    simp [unmapped_iff.mp h x hx]
  | _ => rfl

theorem Recorded.unmapped_of_none (h : Recorded vol p w)
    (hnone : (Assoc.get w.records p).bind RecordFile.device = none) : unmapped vol w = true := by
  apply unmapped_iff.mpr
  intro x hx himage
  rw [(h x hx himage).2] at hnone
  cases hnone

theorem Recorded.unmapped_of_device (h : Recorded vol p w) {d : Device}
    (hdev : (Assoc.get w.records p).bind RecordFile.device = some d)
    (himage : w.imageOf d ≠ some vol) : unmapped vol w = true := by
  apply unmapped_iff.mpr
  intro x hx hx'
  obtain ⟨hget, hrec⟩ := h x hx hx'
  obtain rfl := Option.some.inj (hrec.symm.trans hdev)
  apply himage
  rw [World.imageOf, hget, Option.map_some, hx']

theorem Recorded.unmap (h : Recorded vol p w) (d : Device) :
    Recorded vol p { w with mapped := Assoc.erase w.mapped d } := by
  intro x hx himage
  obtain ⟨hx, hne⟩ := Assoc.mem_erase.mp hx
  obtain ⟨hget, hrec⟩ := h x hx himage
  exact ⟨(Assoc.get_erase_of_ne hne).trans hget, hrec⟩

theorem unmapped_unmap (h : unmapped vol w = true) (d : Device) :
    unmapped vol { w with mapped := Assoc.erase w.mapped d } = true := by
  apply unmapped_iff.mpr
  exact fun x hx => unmapped_iff.mp h x (Assoc.mem_erase.mp hx).1

end Assertions

def Cmd.keepsMaps : Cmd → Bool
  | .blocklistAdd _ => false
  | .luksOpen _ _ _ _ | .luksClose _ | .umount _ | .fs (.mount _ _ _ _) => true
  | c => c.offNode

theorem step_keepsMaps {c : Cmd} (hc : c.keepsMaps = true) (o : Outcome) (w : World) :
    (step 0 c o w).2.mapped = w.mapped ∧ (step 0 c o w).2.records = w.records := by
  have hsame : c.offNode = true →
      (step 0 c o w).2.mapped = w.mapped ∧ (step 0 c o w).2.records = w.records :=
    fun h => ⟨(step_offNode h 0 o w).mapped, (step_offNode h 0 o w).records⟩
  cases c with
  | blocklistAdd a => cases hc
  | luksOpen d p pass discards =>
    rcases step_luksOpen 0 o w d p pass discards with h | ⟨_, h⟩ <;> rw [h] <;> exact ⟨rfl, rfl⟩
  | luksClose p => rcases step_luksClose 0 o w p with h | h <;> rw [h] <;> exact ⟨rfl, rfl⟩
  | umount p => rcases step_umount 0 o w p with h | h <;> rw [h] <;> exact ⟨rfl, rfl⟩
  | fs c =>
    cases c with
    | mount t flags d p =>
      rcases step_mount 0 o w t flags d p with h | h <;> rw [h] <;> exact ⟨rfl, rfl⟩
    | _ => exact hsame hc
  | _ => exact hsame hc

abbrev KeepsMaps {α : Type} (prog : Prog α) : Prop := prog.Uses fun c => c.keepsMaps = true

theorem ActsOn.keepsMaps {α : Type} {p : String} {d : Device} {prog : Prog α}
    (h : ActsOn p d prog) : KeepsMaps prog := by
  apply h.mono
  intro c hc
  cases c with
  | fs c =>
    cases c with
    | _ => rfl
  | secret s m => rfl
  | _ =>
    first
    | rfl
    | cases hc

/-- What the calls for one staging path keep when nobody else uses the volume. -/
def fenceContract (vol : ImageRef) : Contract Cmd Outcome World :=
  .alone (fun _ => True) (fun c o w => dependable vol c o w = true)
    fun c w _ => fencesForeign vol w c = true

abbrev Fences {α : Type} (vol : ImageRef) (prog : Prog α) (Q : Except Err α → World → Prop)
    (w : World) : Prop :=
  prog.Meets machine 0 (fenceContract vol) Q w

section Calls

variable {vol : ImageRef} {p : String} {w : World} {α β : Type} {Q : Except Err α → World → Prop}
variable {b : Backend} {cc : ClusterConfig} {req : NodeStageRequest} {d : Device} {cookie : Text}

theorem fences_request {c : Cmd} {k : c.Reply → Prog α}
    (h : ∀ o, dependable vol c o w = true → fencesForeign vol w c = true ∧
      Fences vol (k (step 0 c o w).1) Q (step 0 c o w).2) :
    Fences vol (.request c k) Q w := by
  apply meets_request_alone.mpr
  intro _ o ho
  obtain ⟨hf, hk⟩ := h o ho
  exact ⟨hf, trivial, hk⟩

theorem fences_pure {a : α} (h : Q (.ok a) w) : Fences vol (.pure a) Q w :=
  meets_pure_alone.mpr fun _ => h

theorem fences_fail {e : Err} (h : Q (.error e) w) : Fences vol (.fail e) Q w :=
  meets_fail_alone.mpr fun _ => h

theorem fences_keepsMaps {prog : Prog α} {A : World → Prop} (hu : KeepsMaps prog) (hw : A w)
    (hA : ∀ a a' : World, a'.mapped = a.mapped → a'.records = a.records → A a → A a') :
    Fences vol prog (fun _ => A) w := by
  refine Meets.of_uses hu hw (fun a a' h ha => h ▸ ha) ?_
  intro c o a hc _ _ ha
  obtain ⟨hmapped, hrecords⟩ := step_keepsMaps hc o a
  refine ⟨?_, trivial, hA a _ hmapped hrecords ha⟩
  cases c with
  | blocklistAdd addr => cases hc
  | _ => rfl

theorem fenceExclusive_fences (h : unmapped vol w = true) :
    Fences vol (fenceExclusive cc req) (fun _ w => unmapped vol w = true) w := by
  refine Meets.of_uses (P := fun w => unmapped vol w = true)
    (fenceExclusive_fencing cc req) h (fun a a' h ha => h ▸ ha) ?_
  intro c o a hc _ _ ha
  have hoff : c.offNode = true := by
    cases c with
    | rbdStatus i => rfl
    | cephCLIConn inst user => rfl
    | blocklistAdd addr => rfl
    | _ => cases hc
  exact ⟨fencesForeign_of_unmapped ha c, trivial,
    unmapped_congr ha (step_offNode hoff 0 o a).mapped⟩

theorem getsize_reply {o : Outcome} {i : ImageRef} (ho : o.fault = none)
    (himage : w.imageOf d = some i) : (step 0 (.blockdevGetsize d) o w).1 = ⟨1, none⟩ := by
  have hstep : step 0 (.blockdevGetsize d) o w = performGetsize d w := by
    unfold step
    rw [ho]
    rfl
  have hsize : w.sizeOf d = 1 := by
    unfold World.sizeOf
    cases hmapped : Assoc.get w.mapped d with
    | none => simp [World.imageOf, hmapped] at himage
    | some m => rfl
  rw [hstep, performGetsize, hsize]
  rfl

theorem getsize_state (o : Outcome) (d : Device) : (step 0 (.blockdevGetsize d) o w).2 = w :=
  step_state_of_perform (performGetsize_state d)

theorem deviceMapped_fences {f : Bool → Prog α} (hyes : Fences vol (f true) Q w)
    (hno : w.imageOf d ≠ some vol → Fences vol (f false) Q w) :
    Fences vol ((deviceMapped d).bind f) Q w := by
  apply fences_request
  intro o ho
  refine ⟨rfl, ?_⟩
  rw [getsize_state]
  change Fences vol (f _) Q w
  by_cases himage : w.imageOf d = some vol
  · have hfault : o.fault = none := by simpa [dependable, himage] using ho
    rw [getsize_reply hfault himage]
    exact hyes
  · cases (step 0 (.blockdevGetsize d) o w).1.err.isNone &&
        decide ((step 0 (.blockdevGetsize d) o w).1.out > 0) with
    | true => exact hyes
    | false => exact hno himage

theorem readDeviceRecord_fences {f : Option RecordFile → Prog α} (hdir : b.stateDir ≠ "")
    (hsome : ∀ file, Assoc.get w.records p = some file → Fences vol (f (some file)) Q w)
    (hnone : Assoc.get w.records p = none ∨ unmapped vol w = true → Fences vol (f none) Q w) :
    Fences vol ((readDeviceRecord b p).bind f) Q w := by
  unfold readDeviceRecord
  rw [if_neg hdir]
  apply fences_request
  intro o ho
  refine ⟨rfl, ?_⟩
  rw [show (step 0 (.readRecord p) o w).2 = w from step_state_of_perform (orNotFound_state _)]
  rcases step_cases 0 (.readRecord p) o w with h | ⟨fault, hfault, hreply, _⟩
  · rw [h]
    change Fences vol (Program.bind (Program.bind (.pure (orNotFound _ w).1) _) f) Q w
    cases hrec : Assoc.get w.records p with
    | none => exact hnone (.inl hrec)
    | some file => exact hsome file hrec
  · rw [← Option.some.inj hreply]
    exact hnone (.inr (by simpa [dependable, hfault] using ho))

theorem Recorded.unmapped_of_read (h : Recorded vol p w)
    (hread : Assoc.get w.records p = none ∨ unmapped vol w = true) : unmapped vol w = true := by
  rcases hread with hnone | hunmapped
  · exact h.unmapped_of_none (by rw [hnone]; rfl)
  · exact hunmapped

/-- A stage that finds no mapped device runs while the node has no map of the image. -/
theorem recordedDevice_fences (hdir : b.stateDir ≠ "") (h : Recorded vol p w) :
    Fences vol (recordedDevice b p)
      (Returns fun found a => Recorded vol p a ∧ (found = none → unmapped vol a = true))
      w := by
  unfold recordedDevice lookupDevice
  simp only [Program.bind_eq, Program.bind_assoc, Program.pure_eq, Program.bind_pure]
  apply readDeviceRecord_fences hdir
  · intro file hfile
    rw [Option.bind_some]
    cases hdev : file.device with
    | none => exact fences_pure ⟨h, fun _ => h.unmapped_of_none (by simp [hfile, hdev])⟩
    | some d =>
      apply deviceMapped_fences
      · exact fences_pure ⟨h, fun hnone => by cases hnone⟩
      · intro himage
        exact fences_pure ⟨h, fun _ => h.unmapped_of_device (by simp [hfile, hdev]) himage⟩
  · exact fun hread => fences_pure ⟨h, fun _ => h.unmapped_of_read hread⟩

/-- The device is the only map of the image on the node. -/
def OnlyMap (vol : ImageRef) (d : Device) (w : World) : Prop :=
  w.imageOf d = some vol ∧
    ∀ x ∈ w.mapped, x.2.image = vol → x.1 = d ∧ Assoc.get w.mapped d = some x.2

/-- A map that fails leaves the image unmapped. -/
def AfterMap (vol : ImageRef) : Except RunError Device → World → Prop
  | .ok d, w => OnlyMap vol d w
  | .error _, w => unmapped vol w = true

theorem onlyMap_map (h : unmapped vol w = true) (d : Device) (client n : ℕ) :
    OnlyMap vol d { w with mapped := Assoc.set w.mapped d ⟨vol, client, true⟩, seq := n } := by
  constructor
  · rw [imageOf_mapped, Function.update_self]
  · intro x hx himage
    rcases Assoc.mem_set.mp hx with rfl | ⟨hx, _⟩
    · exact ⟨rfl, Assoc.get_set_self _ _ _⟩
    · exact absurd himage (unmapped_iff.mp h x hx)

theorem step_state_of_lands {who : ℕ} {c : Cmd} {o : Outcome} (ho : o.lands = true) :
    (step who c o w).2 = (perform who o.pick c w).2 :=
  step_applied (by rw [Outcome.applies, ho, Bool.or_true])

theorem rbdMap_fences {m : Mounter} {opts log : Text} {ro : Bool} (h : unmapped vol w = true) :
    Fences vol (run (.rbdMap m vol opts cookie log ro))
      (Returns (AfterMap vol)) w := by
  apply fences_request
  intro o ho
  refine ⟨rfl, ?_⟩
  apply fences_pure
  rcases step_cases 0 (.rbdMap m vol opts cookie log ro) o w with hs | ⟨f, hfault, hf, hstate⟩
  · rw [hs]
    change AfterMap vol (performMap o.pick m vol w).1 (performMap o.pick m vol w).2
    rcases performMap_cases w o.pick m vol with ⟨e, hp⟩ | ⟨_, hp⟩
    · rw [hp]
      exact h
    · rw [hp]
      exact onlyMap_map h _ _ _
  · have hsame : (step 0 (.rbdMap m vol opts cookie log ro) o w).2 = w := by
      rcases hstate with hsame | ⟨_, hlanded, hmay⟩
      · exact hsame
      · simp [dependable, Outcome.lands, hfault, hlanded, hmay] at ho
    rw [← Option.some.inj hf, hsame]
    exact h

theorem mapImage_fences {m : Mounter} {opts : String} {log : Text} {ro : Bool}
    (h : unmapped vol w = true) :
    Fences vol (mapImage m vol opts cookie log ro)
      (Returns (AfterMap vol)) w := by
  cases m with
  | krbd => exact rbdMap_fences h
  | nbd => exact rbdMap_fences h

theorem mapWithFallback_fences (hvol : req.volume = vol) (h : unmapped vol w = true) :
    Fences vol (mapWithFallback cc req cookie)
      (Ends (fun r a => OnlyMap vol r.1 a) fun _ a => unmapped vol a = true) w := by
  unfold mapWithFallback
  rw [hvol]
  apply (mapImage_fences h).returns
  intro r a _ hr
  cases r with
  | ok d => exact fences_pure hr
  | error e =>
    refine Meets.ite (fun _ => fences_fail hr) fun _ => ?_
    apply (mapImage_fences hr).returns
    intro r' a' _ hr'
    cases r' with
    | ok d => exact fences_pure hr'
    | error e' => exact fences_fail hr'

theorem waitForDevice_fences {polls : ℕ} (h : OnlyMap vol d w) :
    Fences vol (waitForDevice d polls) (Returns fun _ a => OnlyMap vol d a) w := by
  have hprobe : ∀ o, dependable vol (.blockdevGetsize d) o w = true →
      (step 0 (.blockdevGetsize d) o w).1 = ⟨1, none⟩ := by
    intro o ho
    exact getsize_reply (by simpa [dependable, h.1] using ho) h.1
  cases polls with
  | zero =>
    apply fences_request
    intro o ho
    rw [hprobe o ho, getsize_state]
    exact ⟨rfl, fences_pure h⟩
  | succ polls =>
    apply fences_request
    intro o ho
    rw [hprobe o ho, getsize_state]
    exact ⟨rfl, fences_pure h⟩

theorem recordDevice_fences {rec : DeviceRecord} (hdir : b.stateDir ≠ "")
    (h : OnlyMap vol rec.device w) :
    Fences vol (recordDevice b p rec) (fun _ => Recorded vol p) w := by
  unfold recordDevice
  rw [if_neg hdir]
  apply fences_request
  intro o ho
  refine ⟨rfl, ?_⟩
  have hrecorded : Recorded vol p (step 0 (.writeRecord p rec) o w).2 := by
    rw [step_state_of_lands ho]
    intro x hx himage
    obtain ⟨hx', hget⟩ := h.2 x hx himage
    refine ⟨hx' ▸ hget, ?_⟩
    change (Assoc.get (Assoc.set w.records p (.json rec)) p).bind RecordFile.device = some x.1
    rw [Assoc.get_set_self, hx']
    rfl
  cases (step 0 (.writeRecord p rec) o w).1 with
  | ok u => exact fences_pure hrecorded
  | error e => exact fences_fail hrecorded

theorem mapFresh_fences (hdir : b.stateDir ≠ "") (hpath : req.stagingPath = p)
    (hvol : req.volume = vol) (h : unmapped vol w = true) :
    Fences vol (mapFresh b cc req) (fun _ => Recorded vol p) w := by
  unfold mapFresh
  apply (fenceExclusive_fences h).andThen
  · intro _ a _ ha
    apply (mapWithFallback_fences hvol ha).andThen
    · rintro ⟨d, m⟩ a₁ _ hd
      apply (waitForDevice_fences hd).returns
      intro _ a₂ _ hd₂
      rw [hpath]
      have hrec : OnlyMap vol (newRecord req d m).device a₂ := hd₂
      apply (recordDevice_fences hdir hrec).andThen
      · exact fun _ a₃ _ h₃ => fences_pure h₃
      · exact fun _ _ _ h₃ => h₃
    · exact fun _ a₁ _ ha₁ => Recorded.of_unmapped ha₁
  · exact fun _ a _ ha => Recorded.of_unmapped ha

theorem Recorded.stable (vol : ImageRef) (p : String) (a a' : World)
    (hmapped : a'.mapped = a.mapped)
    (hrecords : a'.records = a.records) (h : Recorded vol p a) : Recorded vol p a' :=
  h.congr hmapped hrecords

theorem stageMapped_keepsMaps (d : Device) :
    KeepsMaps (stageMapped b req d) := by
  apply (stageDevice_actsOn d rfl).keepsMaps.bind
  intro mountDev
  apply Uses.ite
  · exact Uses.ite trivial trivial
  · exact (stageFilesystem_actsOn mountDev rfl).keepsMaps

theorem nodeStage_fences (hdir : b.stateDir ≠ "") (hpath : req.stagingPath = p)
    (hvol : req.volume = vol) (h : Recorded vol p w) :
    Fences vol (nodeStage b req) (fun _ => Recorded vol p) w := by
  have hremote : ∀ {γ : Type} {prog : Prog γ}, Remote vol.spec prog → KeepsMaps prog :=
    fun hr => (hr.idle.actsOn (p := p) (.other "")).keepsMaps
  have hdevice : ∀ d a, Recorded vol p a →
      Fences vol (stageMapped b req d) (fun _ => Recorded vol p) a :=
    fun d a ha => fences_keepsMaps (stageMapped_keepsMaps d) ha (Recorded.stable vol p)
  unfold nodeStage
  apply (fences_keepsMaps (hremote (cluster_remote b _)) h (Recorded.stable vol p)).andThen
  · intro cc a _ ha
    apply (fences_keepsMaps (hremote (connArgs_remote cc _ _)) ha (Recorded.stable vol p)).andThen
    · intro _ a₁ _ ha₁
      have hmapped : Fences vol (mappedDevice b cc req) (fun _ => Recorded vol p) a₁ := by
        unfold mappedDevice
        rw [hpath]
        apply (recordedDevice_fences hdir ha₁).returns
        rintro found a₂ _ ⟨ha₂, hnone⟩
        cases found with
        | some d => exact fences_pure ha₂
        | none => exact mapFresh_fences hdir hpath hvol (hnone rfl)
      exact hmapped.andThen (fun d a₂ _ ha₂ => hdevice d a₂ ha₂) fun _ _ _ ha₂ => ha₂
    · exact fun _ _ _ ha₁ => ha₁
  · exact fun _ _ _ ha => ha

/-- An unstage has found the recorded device, or the node has no map of the image. -/
def Freeing (vol : ImageRef) (p : String) (dev : Option Device) (w : World) : Prop :=
  Recorded vol p w ∧ (unmapped vol w = true ∨
    ∃ d, dev = some d ∧ (Assoc.get w.records p).bind RecordFile.device = some d)

theorem Freeing.stable (vol : ImageRef) (p : String) (dev : Option Device) (a a' : World)
    (hmapped : a'.mapped = a.mapped) (hrecords : a'.records = a.records)
    (h : Freeing vol p dev a) : Freeing vol p dev a' := by
  obtain ⟨hrec, hdev⟩ := h
  refine ⟨hrec.congr hmapped hrecords, ?_⟩
  rw [hrecords]
  exact hdev.imp (fun hunmapped => unmapped_congr hunmapped hmapped) id

theorem unstageDevice_fences {file : Option RecordFile} (h : Recorded vol p w)
    (hfile : unmapped vol w = true ∨
      (Assoc.get w.records p).bind RecordFile.device = file.bind RecordFile.device) :
    Fences vol (unstageDevice file p) (Returns (Freeing vol p)) w := by
  unfold unstageDevice
  cases hdev : file.bind RecordFile.device with
  | some d =>
    rw [hdev] at hfile
    exact fences_pure ⟨h, hfile.imp id fun hd => ⟨d, rfl, hd⟩⟩
  | none =>
    have hunmapped : unmapped vol w = true := by
      rcases hfile with hunmapped | hnone
      · exact hunmapped
      · exact h.unmapped_of_none (hnone.trans hdev)
    apply fences_request
    intro o _
    refine ⟨rfl, fences_pure ?_⟩
    have hsame := step_offNode (c := .findmntTarget p) rfl 0 o w
    exact ⟨h.congr hsame.mapped hsame.records, .inl (unmapped_congr hunmapped hsame.mapped)⟩

theorem freeDevice_fences {file : Option RecordFile} {dev : Option Device}
    (h : Freeing vol p dev w) :
    Fences vol (freeDevice file dev)
      (Ends (fun _ a => unmapped vol a = true) fun _ => Recorded vol p) w := by
  cases dev with
  | none =>
    apply fences_pure
    rcases h.2 with hunmapped | ⟨d, hd, _⟩
    · exact hunmapped
    · cases hd
  | some d =>
    apply fences_request
    intro o _
    refine ⟨rfl, ?_⟩
    have hkept : ∀ m options, Freeing vol p (some d) (step 0 (.rbdUnmap m d options) o w).2 := by
      intro m options
      rcases step_rbdUnmap 0 o w m d options with hs | ⟨_, hs⟩
      · rwa [hs]
      · rw [hs]
        exact ⟨h.1.unmap d, h.2.imp (fun hunmapped => unmapped_unmap hunmapped d) id⟩
    apply deviceMapped_fences
    · exact fences_fail (hkept _ _).1
    · intro himage
      apply fences_pure
      rcases (hkept _ _).2 with hunmapped | ⟨d', hd', hdev⟩
      · exact hunmapped
      · obtain rfl := Option.some.inj hd'
        exact (hkept _ _).1.unmapped_of_device hdev himage

theorem clearDevice_fences (h : unmapped vol w = true) :
    Fences vol (clearDevice b p) (fun _ a => unmapped vol a = true) w := by
  refine Meets.ite (fun _ => fences_pure h) fun _ => ?_
  apply fences_request
  intro o _
  refine ⟨rfl, fences_pure ?_⟩
  rcases step_removeRecord 0 o w p with hs | hs
  · rwa [hs]
  · rw [hs]
    exact h

theorem umountStaging_keepsMaps (p : String) : KeepsMaps (umountStaging p) := by
  have hrun : KeepsMaps (run (.umount p)) := ⟨rfl, fun _ => trivial⟩
  apply hrun.bind
  intro r
  split
  · trivial
  · trivial
  · trivial

theorem closeLuks_keepsMaps (p : String) : KeepsMaps (closeLuks p) := by
  have hactive : KeepsMaps (luksActive p) := ⟨rfl, fun _ => trivial⟩
  have hclose : KeepsMaps (run (.luksClose p)) := ⟨rfl, fun _ => trivial⟩
  apply hactive.bind
  exact fun _ => Uses.ite (hclose.bind fun r => orFail_uses r _) trivial

theorem nodeUnstage_fences {req : NodeUnstageRequest} (hdir : b.stateDir ≠ "")
    (hpath : req.stagingPath = p) (h : Recorded vol p w) :
    Fences vol (nodeUnstage b req)
      (Ends (fun _ a => unmapped vol a = true) fun _ => Recorded vol p) w := by
  have hidle : ∀ {γ : Type} {prog : Prog γ}, Idle prog → KeepsMaps prog :=
    fun hr => (hr.actsOn (p := p) (.other "")).keepsMaps
  have hrest : ∀ file, (unmapped vol w = true ∨
      (Assoc.get w.records p).bind RecordFile.device = file.bind RecordFile.device) →
      Fences vol (do
        let dev ← unstageDevice file p
        umountStaging p
        closeLuks p
        freeDevice file dev
        disposeNbdLog file
        clearDevice b p)
        (Ends (fun _ a => unmapped vol a = true) fun _ => Recorded vol p) w := by
    intro file hfile
    apply (unstageDevice_fences h hfile).returns
    intro dev a _ hdev
    apply (fences_keepsMaps (umountStaging_keepsMaps p) hdev (Freeing.stable vol p dev)).andThen
    · intro _ a₁ _ hdev₁
      apply (fences_keepsMaps (closeLuks_keepsMaps p) hdev₁ (Freeing.stable vol p dev)).andThen
      · intro _ a₂ _ hdev₂
        apply (freeDevice_fences hdev₂).andThen
        · intro _ a₃ _ hunmapped
          apply (fences_keepsMaps (hidle (disposeNbdLog_idle file)) hunmapped
            fun _ _ hmapped _ ha => unmapped_congr ha hmapped).andThen
          · intro _ a₄ _ hunmapped₄
            apply (clearDevice_fences hunmapped₄).mono
            intro r a₅ _ hunmapped₅
            cases r with
            | ok u => exact hunmapped₅
            | error e => exact Recorded.of_unmapped hunmapped₅
          · exact fun _ _ _ hunmapped₄ => Recorded.of_unmapped hunmapped₄
        · exact fun _ _ _ hrec => hrec
      · exact fun _ _ _ hdev₂ => hdev₂.1
    · exact fun _ _ _ hdev₁ => hdev₁.1
  unfold nodeUnstage cluster clusterFor
  cases b.clusters req.volume.inst with
  | none => exact fences_fail h
  | some cc =>
    rw [hpath]
    apply readDeviceRecord_fences hdir
    · exact fun file hfile => hrest (some file) (.inr (by rw [hfile]))
    · exact fun hread => hrest none (.inl (h.unmapped_of_read hread))

theorem session_fences {P : Placement} (hdir : b.stateDir ≠ "") (calls : List (NodeCall P p))
    (h : Recorded (P.volumeAt p) p w) :
    Fences (P.volumeAt p) (session b calls) (fun _ => Recorded (P.volumeAt p) p) w := by
  induction calls generalizing w with
  | nil => exact fences_pure h
  | cons call rest ih =>
    have hcall : Fences (P.volumeAt p) (call.program b) (fun _ => Recorded (P.volumeAt p) p) w := by
      cases call with
      | stage req hpath hvol => exact nodeStage_fences hdir hpath hvol h
      | unstage req hpath hvol =>
        apply (nodeUnstage_fences hdir hpath h).mono
        intro r a _ ha
        cases r with
        | ok u => exact Recorded.of_unmapped ha
        | error e => exact ha
    exact Meets.tryAnyway hcall fun _ a _ ha => ih ha

end Calls

/-- In every run of stages and unstages of a volume at one staging path whose requests are
dependable, no client is blocked through which the node has the image mapped. -/
theorem node_never_fences_itself (b : Backend) (hdir : b.stateDir ≠ "") (P : Placement)
    (p : String) (calls : List (NodeCall P p)) (w : World)
    (hw : unmapped (P.volumeAt p) w = true) (outcomes : List Outcome)
    (hdependable : ∀ e ∈ (machine.exec 0 (session b calls) outcomes w).1,
      dependable (P.volumeAt p) e.cmd e.outcome e.before = true) :
    ∀ e ∈ (machine.exec 0 (session b calls) outcomes w).1,
      fencesForeign (P.volumeAt p) e.before e.cmd = true :=
  ((session_fences hdir calls (Recorded.of_unmapped hw)).exec trivial outcomes hdependable).1

section Instance

/-- A watcher on another node holds the image. -/
def watchedImage : World :=
  { twoImages with foreign := fun _ => ["10.0.0.7:0/1"] }

/-- A record that cannot be written. -/
def diskFull : Outcome := ⟨some (.error "no space left on device"), false, 0⟩

theorem node_never_fences_itself_restaged :
    (machine.exec 0 (session krbdBackend [stageAt "/a", stageAt "/a"])
        (List.replicate 30 .ok) watchedImage).1.all
      (fun e => fencesForeign (twoVolumes.volumeAt "/a") e.before e.cmd) = true :=
  List.all_eq_true.mpr (node_never_fences_itself krbdBackend (by decide) twoVolumes "/a" _
    watchedImage (by decide +kernel) _ (by decide +kernel))

/-- The first stage maps the image and cannot write the record. The retry finds no record and
blocks the client of the first map. -/
theorem retry_fences_own_map :
    ¬∀ e ∈ (machine.exec 0 (session krbdBackend [stageAt "/a", stageAt "/a"])
        (List.replicate 5 .ok ++ [diskFull] ++ List.replicate 20 .ok) twoImages).1,
      fencesForeign (twoVolumes.volumeAt "/a") e.before e.cmd = true := by
  decide +kernel

end Instance

end BardCsi.Ceph
