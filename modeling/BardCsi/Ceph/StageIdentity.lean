import BardCsi.Ceph.Sessions

/-!
Stages and unstages keep to the device of their own volume, whatever fails and whatever other
sessions do in between.
-/
namespace BardCsi.Ceph

open Effect Program

section Keeping

variable {P : Placement} {p : String} {w : World} {α : Type} {Q : Except Err α → World → Prop}
variable {d : Device} {b : Backend} {cc : ClusterConfig} {req : NodeStageRequest}
variable {dev : Option Device}

theorem deviceMapped_keeps {f : Bool → Prog α} (hyes : ∀ a, Undisturbed P p w a → Consistent P a →
      (d.isRaw = true → ∃ i, a.imageOf d = some i) → SessionMeets P p (f true) Q a)
    (hno : ∀ a, Undisturbed P p w a → Consistent P a → SessionMeets P p (f false) Q a) :
    SessionMeets P p ((deviceMapped d).bind f) Q w := by
  apply keeps_idle rfl
  intro a o hr hi
  change SessionMeets P p (f _) Q a
  cases hb : (step 0 (.blockdevGetsize d) o a).1.err.isNone &&
      decide ((step 0 (.blockdevGetsize d) o a).1.out > 0) with
  | false => exact hno a hr hi
  | true => exact hyes a hr hi fun hraw => imageOf_of_getsize hraw hb

theorem readDeviceRecord_keeps {f : Option RecordFile → Prog α}
    (hsome : ∀ a file, Undisturbed P p w a → Consistent P a → Assoc.get a.records p = some file →
      SessionMeets P p (f (some file)) Q a)
    (hnone : ∀ a, Undisturbed P p w a → Consistent P a → SessionMeets P p (f none) Q a) :
    SessionMeets P p ((readDeviceRecord b p).bind f) Q w := by
  unfold readDeviceRecord
  by_cases hdir : b.stateDir = ""
  · rw [if_pos hdir]
    exact Meets.of_rely hnone
  · rw [if_neg hdir]
    apply keeps_idle rfl
    intro a o hr hi
    rcases step_readRecord_reply 0 o a p with ⟨file, hfile, h⟩ | ⟨e, h⟩
    · rw [h]
      exact hsome a file hr hi hfile
    · rw [h]
      exact hnone a hr hi

theorem recordedDevice_keeps (b : Backend) :
    SessionMeets P p (recordedDevice b p)
      (IfOk fun found a => ∀ d, found = some d → Mine P p d a) w := by
  have hnone : ∀ a, SessionMeets P p (.pure none)
      (IfOk fun found a => ∀ d, found = some d → Mine P p d a) a :=
    fun a a' _ _ d h => by cases h
  unfold recordedDevice lookupDevice
  simp only [Program.bind_eq, Program.bind_assoc, Program.pure_eq, Program.bind_pure]
  apply readDeviceRecord_keeps
  · intro a file _ _ hfile
    rw [Option.bind_some]
    cases hdev : file.device with
    | none => exact hnone a
    | some d =>
      apply deviceMapped_keeps
      · intro a₁ hr₁ hi₁ hmapped a₂ hr₂ _ d' hd'
        obtain rfl := Option.some.inj hd'
        have hmem := Assoc.mem_of_get (hr₁.record.trans hfile)
        obtain ⟨i, himage⟩ := hmapped (hi₁.made _ hmem d hdev)
        have hown := hi₁.record _ hmem d i hdev himage
        exact hr₂.device d (by rw [himage, hown])
      · exact fun a₁ _ _ => hnone a₁
  · exact fun a _ _ => hnone a

theorem rbdMap_keeps (m : Mounter) (opts cookie log : Text) (ro : Bool) :
    SessionMeets P p (run (.rbdMap m (P.volumeAt p) opts cookie log ro))
      (Returns fun r a => ∀ d, r = .ok d → Mine P p d a) w := by
  apply Meets.ask
  · exact fun r a a' hr h d hd => hr.device d (h d hd)
  · intro a o _ hi ho
    have hc : Confined P p a (.rbdMap m (P.volumeAt p) opts cookie log ro) := rfl
    obtain ⟨hi', hg⟩ := confined_step 0 hi hc rfl ho
    refine ⟨⟨rfl, hg⟩, hi', fun d hd => ?_⟩
    obtain ⟨rfl, hstate⟩ := step_rbdMap_ok 0 o a hd
    change World.imageOf (step 0 _ o a).2 _ = _
    rw [hstate, imageOf_mapped, Function.update_self]

theorem mapImage_keeps (m : Mounter) (opts : String) (cookie log : Text) (ro : Bool) :
    SessionMeets P p (mapImage m (P.volumeAt p) opts cookie log ro)
      (Returns fun r a => ∀ d, r = .ok d → Mine P p d a) w := by
  cases m with
  | krbd => exact rbdMap_keeps _ _ _ _ _
  | nbd => exact rbdMap_keeps _ _ _ _ _

theorem mapWithFallback_keeps {cookie : Text} (hvol : req.volume = P.volumeAt p) :
    SessionMeets P p (mapWithFallback cc req cookie)
      (IfOk fun r a => Mine P p r.1 a) w := by
  have hok : ∀ a d (m : Mounter), Mine P p d a →
      SessionMeets P p (.pure (d, m)) (IfOk fun r a => Mine P p r.1 a) a :=
    fun a d m h a' hr _ => hr.device d h
  have hfail : ∀ a e, SessionMeets P p (fail e)
      (IfOk fun (r : Device × Mounter) a => Mine P p r.1 a) a :=
    fun a e a' _ _ => trivial
  unfold mapWithFallback
  rw [hvol]
  apply (mapImage_keeps _ _ _ _ _).returns
  intro r a _ hr
  cases r with
  | ok d => exact hok a d _ (hr d rfl)
  | error e =>
    refine Meets.ite (fun _ => hfail a _) fun _ => ?_
    apply (mapImage_keeps _ _ _ _ _).returns
    intro r' a' _ hr'
    cases r' with
    | ok d => exact hok a' d _ (hr' d rfl)
    | error e' => exact hfail a' _

theorem waitForDevice_idle (d : Device) (polls : ℕ) : Idle (waitForDevice d polls) := by
  induction polls with
  | zero => exact idle_tool rfl fun _ => Uses.ite trivial trivial
  | succ polls ih => exact idle_tool rfl fun _ => Uses.ite trivial ih

theorem recordDevice_keeps {m : Mounter} (hvol : req.volume = P.volumeAt p) (hd : Mine P p d w) :
    SessionMeets P p (recordDevice b p (newRecord req d m)) (fun _ a => Mine P p d a) w := by
  unfold recordDevice
  refine Meets.ite (fun _ => fun a hr _ => hr.device d hd) fun _ => ?_
  apply keeps_request
  intro a hr _
  have hown := hr.device d hd
  refine ⟨⟨rfl, hvol, hown⟩, rfl, fun o => ?_⟩
  have hkept : Mine P p d (step 0 (.writeRecord p (newRecord req d m)) o a).2 := by
    rcases step_writeRecord 0 o a p (newRecord req d m) with h | h
    · rwa [h]
    · rw [h]
      exact hown
  cases h : (step 0 (.writeRecord p (newRecord req d m)) o a).1 with
  | ok u => exact fun a' hr' _ => hr'.device d hkept
  | error e => exact fun a' hr' _ => hr'.device d hkept

theorem mapFresh_keeps (hpath : req.stagingPath = p) (hvol : req.volume = P.volumeAt p) :
    SessionMeets P p (mapFresh b cc req) (IfOk fun d a => Mine P p d a) w := by
  refine (keeps_fencing (fenceExclusive_fencing cc req)).andThen ?_ fun _ _ _ _ => trivial
  intro _ a _ _
  apply (mapWithFallback_keeps hvol).ends
  rintro ⟨d, m⟩ a₁ _ hd
  apply idle_then (waitForDevice_idle d _) hd (fun _ _ hr => hr.device d)
  intro _ a₂ hd₂
  rw [hpath]
  apply (recordDevice_keeps hvol hd₂).andThen
  · exact fun _ a₃ _ hd₃ a₄ hr _ => hr.device d hd₃
  · exact fun _ _ _ _ => trivial

theorem mappedDevice_keeps (hpath : req.stagingPath = p) (hvol : req.volume = P.volumeAt p) :
    SessionMeets P p (mappedDevice b cc req) (IfOk fun d a => Mine P p d a) w := by
  unfold mappedDevice
  rw [hpath]
  apply (recordedDevice_keeps b).ends
  intro found a _ hfound
  cases found with
  | some d => exact fun a' hr _ => hr.device d (hfound d rfl)
  | none => exact mapFresh_keeps hpath hvol

theorem owns_luks (hi : Consistent P w) (h : Assoc.get w.mappers p = some d) :
    owns P p w (.luks p) = true := by
  have himage := hi.mapper _ (Assoc.mem_of_get h)
  simp [owns, h, himage]

theorem formatLuks_actsOn (d : Device) (pass : Text) (args : List String) :
    ActsOn p d (formatLuks d pass args) := by
  apply actsOn_tool (by simp [Cmd.actsOn])
  intro r
  split
  · trivial
  · exact actsOn_tool (by simp [Cmd.actsOn]) fun r => orFail_uses r _

theorem openLuks_keeps {pass : Text} {discards : Bool} (hown : owns P p w d = true) :
    SessionMeets P p (openLuks d p pass discards)
      (IfOk fun _ a => owns P p a (.luks p) = true) w := by
  apply keeps_idle rfl
  intro a o hr hi
  rcases step_luksStatus_reply 0 o a p with ⟨d', h, hactive⟩ | ⟨out, e, h⟩
  · rw [h]
    exact fun a' hr' _ => owns_of_undisturbed hr' (owns_luks hi hactive)
  · rw [h]
    apply keeps_request
    intro a₁ hr₁ hi₁
    have hown₁ := owns_of_undisturbed (hr.trans hr₁) hown
    refine ⟨rfl, hown₁, fun o₁ => ?_⟩
    cases hreply : (step 0 (.luksOpen d p pass discards) o₁ a₁).1 with
    | error e => exact fun _ _ _ => trivial
    | ok u =>
      obtain ⟨hfree, hstate⟩ := step_luksOpen_ok 0 o₁ a₁ hreply
      intro a₂ hr₂ _
      apply owns_of_undisturbed hr₂
      rw [hstate]
      rcases owns_cases hown₁ with hd | ⟨_, hd⟩
      · have hview : ({ a₁ with mappers := Assoc.set a₁.mappers p d } : World).imageOf d =
            some (P.volumeAt p) := hd
        simp [owns, hview]
      · simp [hfree] at hd

theorem openLuks_actsOn (d : Device) (pass : Text) (discards : Bool) :
    ActsOn p d (openLuks d p pass discards) := by
  have hactive : ActsOn p d (luksActive p) := actsOn_tool rfl fun _ => trivial
  apply hactive.bind
  intro active
  refine Uses.ite trivial ?_
  exact actsOn_tool (by simp [Cmd.actsOn]) fun r => orFail_uses r _

theorem ensureLuksOpen_keeps {pass : Text} {discards : Bool} {args : List String}
    (hown : owns P p w d = true) :
    SessionMeets P p (ensureLuksOpen d p pass discards args)
      (IfOk fun _ a => owns P p a (.luks p) = true) w := by
  unfold ensureLuksOpen
  apply actsOn_then ((tempKeyFile_remote (s := (P.volumeAt p).spec) pass).idle.actsOn d) hown
  intro _ a hown₁
  apply actsOn_then (formatLuks_actsOn d pass args) hown₁
  exact fun _ a₁ hown₂ => openLuks_keeps hown₂

theorem stageDevice_actsOn (d : Device) (hpath : req.stagingPath = p) :
    ActsOn p d (stageDevice b req d) := by
  subst hpath
  refine Uses.ite trivial ?_
  apply ((volumePassphrase_remote b req).idle.actsOn d).bind
  intro pass
  apply (liftExcept_uses _).bind
  intro args
  have hopen : ActsOn req.stagingPath d (ensureLuksOpen d req.stagingPath pass
      (req.context paramEncryptedDiscards = .lit "true") args) := by
    apply ((tempKeyFile_remote (s := req.volume.spec) pass).idle.actsOn d).bind
    intro _
    exact (formatLuks_actsOn d pass args).bind fun _ => openLuks_actsOn d pass _
  exact hopen.bind fun _ => trivial

theorem stageDevice_keeps (hpath : req.stagingPath = p) (hown : owns P p w d = true) :
    SessionMeets P p (stageDevice b req d) (IfOk fun d' a => owns P p a d' = true) w := by
  unfold stageDevice
  refine Meets.ite (fun _ => fun a hr _ => owns_of_undisturbed hr hown) fun _ => ?_
  apply actsOn_then ((volumePassphrase_remote b req).idle.actsOn d) hown
  intro pass a hown₁
  apply actsOn_then (liftExcept_uses _) hown₁
  intro args a₁ hown₂
  rw [hpath]
  apply (ensureLuksOpen_keeps hown₂).ends
  exact fun _ a₂ _ hview a₃ hr _ => owns_of_undisturbed hr hview

theorem ensureFormatted_actsOn (d : Device) (fsType : String) (args : List String) :
    ActsOn p d (ensureFormatted tool "ceph-rbd" Device.text d fsType args) := by
  apply actsOn_tool (by simp [Cmd.actsOn])
  intro probe
  refine Uses.ite trivial ?_
  exact actsOn_tool (by simp [Cmd.actsOn]) fun r => orFail_uses r _

theorem mountStaging_actsOn (d : Device) (fsType : String) (flags : List String) :
    ActsOn p d (mountStaging tool "ceph-rbd" Device.text fsType flags d p) := by
  apply actsOn_tool rfl
  intro r
  apply (orFail_uses r _).bind
  intro _
  apply actsOn_tool rfl
  intro mounted
  split
  · trivial
  · exact actsOn_tool (by simp [Cmd.actsOn]) fun r => orFail_uses r _

theorem growFilesystem_actsOn (d : Device) (fsType : String) :
    ActsOn p d (growFilesystem tool "ceph-rbd" Device.text fsType d p) := by
  unfold growFilesystem
  split
  · exact actsOn_tool rfl fun r => orFail_uses r _
  · exact actsOn_tool rfl fun r => orFail_uses r _
  · exact actsOn_tool (by simp [Cmd.actsOn]) fun r => orFail_uses r _

theorem stageFilesystem_actsOn (d : Device) (hpath : req.stagingPath = p) :
    ActsOn p d (stageFilesystem b req d) := by
  subst hpath
  have htype : ActsOn req.stagingPath d (fsTypeOf "ceph-rbd" req.fsType : Prog String) :=
    Uses.ite trivial trivial
  apply htype.bind
  intro fsType
  refine Uses.ite trivial ?_
  apply (ensureFormatted_actsOn d _ _).bind
  intro _
  apply (mountStaging_actsOn d _ _).bind
  intro _
  apply (growFilesystem_actsOn d _).bind
  intro _
  refine Uses.ite ?_ trivial
  apply ((volumePassphrase_remote b req).idle.actsOn d).bind
  intro pass
  exact actsOn_tool rfl fun r => orFail_uses r _

theorem stageMapped_keeps (hpath : req.stagingPath = p) (hown : owns P p w d = true) :
    SessionMeets P p (stageMapped b req d) (IfOk fun _ _ => True) w := by
  apply (stageDevice_keeps hpath hown).ends
  intro mountDev a _ hown₁
  refine Meets.ite (fun _ => ?_) fun _ => ?_
  · exact Meets.ite (fun _ _ _ _ => trivial) fun _ _ _ _ => trivial
  · apply (keeps_actsOn (stageFilesystem_actsOn mountDev hpath) hown₁).mono
    intro r _ _ _
    cases r with
    | ok u => trivial
    | error e => trivial

theorem nodeStage_keeps (hpath : req.stagingPath = p) (hvol : req.volume = P.volumeAt p) :
    SessionMeets P p (nodeStage b req) (IfOk fun _ _ => True) w := by
  have hany : ∀ a b : World, Undisturbed P p a b → True → True := fun _ _ _ _ => trivial
  apply idle_then (A := fun _ => True) (cluster_remote (s := req.volume.spec) b _).idle trivial hany
  intro cc a _
  apply idle_then (A := fun _ => True) (connArgs_remote (s := req.volume.spec) cc _ _).idle
    trivial hany
  intro _ a₁ _
  apply (mappedDevice_keeps hpath hvol).ends
  exact fun d a₂ _ hd => stageMapped_keeps hpath (Mine.owns hd)

/-- A device that an unstage may free: the recorded one, one that maps the session's own image,
or one that no mounter created. -/
def MayUnmap (P : Placement) (p : String) (d : Device) (w : World) : Prop :=
  (∃ file, Assoc.get w.records p = some file ∧ file.device = some d) ∨ Mine P p d w ∨
    d.isRaw = false

theorem MayUnmap.undisturbed {a b : World} (hr : Undisturbed P p a b) (h : MayUnmap P p d a) :
    MayUnmap P p d b := by
  rcases h with ⟨file, hfile, hdev⟩ | hmine | hraw
  · exact .inl ⟨file, hr.record.trans hfile, hdev⟩
  · exact .inr (.inl (hr.device d hmine))
  · exact .inr (.inr hraw)

theorem MayUnmap.imageOf (hi : Consistent P w) (h : MayUnmap P p d w) :
    w.imageOf d = none ∨ w.imageOf d = some (P.volumeAt p) := by
  cases himage : w.imageOf d with
  | none => exact .inl rfl
  | some i =>
    right
    rcases h with ⟨file, hfile, hdev⟩ | hmine | hraw
    · rw [hi.record _ (Assoc.mem_of_get hfile) d i hdev himage]
    · rw [← hmine, himage]
    · rw [hi.raw d i himage] at hraw
      cases hraw

/-- The device that an unstage has found, if any, may be freed. -/
abbrev MayFree (P : Placement) (p : String) (dev : Option Device) (w : World) : Prop :=
  ∀ d, dev = some d → MayUnmap P p d w

theorem unstageDevice_keeps {file : Option RecordFile}
    (hfile : ∀ f, file = some f → Assoc.get w.records p = some f) :
    SessionMeets P p (unstageDevice file p) (IfOk (MayFree P p)) w := by
  unfold unstageDevice
  cases hdev : file.bind RecordFile.device with
  | some d =>
    obtain ⟨f, hf, hd⟩ := Option.bind_eq_some_iff.mp hdev
    intro a hr _ d' hd'
    obtain rfl := Option.some.inj hd'
    exact MayUnmap.undisturbed hr (.inl ⟨f, hfile f hf, hd⟩)
  | none =>
    apply keeps_idle rfl
    intro a o _ hi a' hr _ d hd
    apply MayUnmap.undisturbed hr
    rcases step_findmntTarget_reply 0 o a p with h | ⟨e, h⟩
    · rw [h] at hd
      obtain rfl := Option.some.inj hd
      cases hmount : Assoc.get a.mounts p with
      | none => exact .inr (.inr rfl)
      | some d =>
        rcases hi.mount _ (Assoc.mem_of_get hmount) with hluks | hmine
        · obtain rfl : d = .luks p := hluks
          exact .inr (.inr rfl)
        · exact .inr (.inl hmine)
    · rw [h] at hd
      cases hd

theorem MayFree.undisturbed {a b : World} (hr : Undisturbed P p a b) (h : MayFree P p dev a) :
    MayFree P p dev b :=
  fun d hd => MayUnmap.undisturbed hr (h d hd)

theorem umountStaging_keeps (hdev : MayFree P p dev w) :
    SessionMeets P p (umountStaging p) (Ends (fun _ => MayFree P p dev) fun _ _ => True)
      w := by
  apply keeps_request
  intro a hr _
  refine ⟨rfl, rfl, fun o => ?_⟩
  have hkept : MayFree P p dev (step 0 (.umount p) o a).2 := by
    intro d hd
    have hmay := MayUnmap.undisturbed hr (hdev d hd)
    rcases step_umount 0 o a p with h | h
    · rwa [h]
    · rw [h]
      exact hmay
  rw [Program.bind_pure]
  split
  · exact fun a' hr' _ => MayFree.undisturbed hr' hkept
  · exact fun a' hr' _ => MayFree.undisturbed hr' hkept
  · exact fun _ _ _ => trivial

theorem closeLuks_keeps (hdev : MayFree P p dev w) :
    SessionMeets P p (closeLuks p) (IfOk fun _ => MayFree P p dev) w := by
  apply keeps_idle rfl
  intro a o hr _
  refine Meets.ite (fun _ => ?_) fun _ a' hr' _ => MayFree.undisturbed (hr.trans hr') hdev
  apply keeps_request
  intro a₁ hr₁ _
  refine ⟨rfl, rfl, fun o₁ => ?_⟩
  have hkept : MayFree P p dev (step 0 (.luksClose p) o₁ a₁).2 := by
    intro d hd
    have hmay := MayUnmap.undisturbed (hr.trans hr₁) (hdev d hd)
    rcases step_luksClose 0 o₁ a₁ p with h | h
    · rwa [h]
    · rw [h]
      exact hmay
  cases (step 0 (.luksClose p) o₁ a₁).1 with
  | ok u => exact fun a₂ hr₂ _ => MayFree.undisturbed hr₂ hkept
  | error e => exact fun _ _ _ => trivial

theorem freeDevice_keeps {file : Option RecordFile} (hdev : MayFree P p dev w) :
    SessionMeets P p (freeDevice file dev) (IfOk fun _ _ => True) w := by
  cases dev with
  | none => exact fun _ _ _ => trivial
  | some d =>
    apply keeps_request
    intro a hr hi
    have hmay := (MayUnmap.undisturbed hr (hdev d rfl)).imageOf hi
    refine ⟨trivial, by simpa [handsOwnDevice] using hmay, fun o => ?_⟩
    apply deviceMapped_keeps
    · exact fun _ _ _ _ _ _ _ => trivial
    · exact fun _ _ _ _ _ _ => trivial

theorem disposeNbdLog_idle (file : Option RecordFile) : Idle (disposeNbdLog file) := by
  unfold disposeNbdLog
  split
  · exact Uses.ite trivial (idle_tool rfl fun _ => trivial)
  · trivial

theorem clearDevice_keeps (b : Backend) :
    SessionMeets P p (clearDevice b p) (IfOk fun _ _ => True) w := by
  refine Meets.ite (fun _ _ _ _ => trivial) fun _ => ?_
  apply keeps_request
  exact fun a _ _ => ⟨rfl, rfl, fun o a' _ _ => trivial⟩

theorem nodeUnstage_keeps {req : NodeUnstageRequest} (hpath : req.stagingPath = p) :
    SessionMeets P p (nodeUnstage b req) (IfOk fun _ _ => True) w := by
  have hany : ∀ a b : World, Undisturbed P p a b → True → True := fun _ _ _ _ => trivial
  have hrest : ∀ file a, (∀ f, file = some f → Assoc.get a.records p = some f) →
      SessionMeets P p (do
        let dev ← unstageDevice file p
        umountStaging p
        closeLuks p
        freeDevice file dev
        disposeNbdLog file
        clearDevice b p) (IfOk fun _ _ => True) a := by
    intro file a hfile
    apply (unstageDevice_keeps hfile).ends
    intro dev a₁ _ hdev
    apply (umountStaging_keeps hdev).ends
    intro _ a₂ _ hdev₂
    apply (closeLuks_keeps hdev₂).ends
    intro _ a₃ _ hdev₃
    apply (freeDevice_keeps hdev₃).ends
    intro _ a₄ _ _
    apply idle_then (A := fun _ => True) (disposeNbdLog_idle file) trivial hany
    exact fun _ a₅ _ => clearDevice_keeps b
  unfold nodeUnstage
  apply idle_then (A := fun _ => True) (cluster_remote (s := req.volume.spec) b _).idle trivial hany
  intro _ a _
  rw [hpath]
  apply readDeviceRecord_keeps
  · intro a₁ file _ _ hfile
    exact hrest (some file) a₁ fun f hf => by rwa [← Option.some.inj hf]
  · intro a₁ _ _
    exact hrest none a₁ fun f hf => by cases hf

end Keeping

end BardCsi.Ceph
