import BardCsi.Ceph.World

/-!
What requests leave unchanged, and what the requests that read show.
-/
namespace BardCsi.Ceph

open Effect

/-- Requests that change nothing but the serial number of drawn keys. -/
def Cmd.reads : Cmd → Bool
  | .connArgs _ _ | .cephCLIConn _ _ | .readMasterKey _ _ | .rand | .tempKeyFile _
  | .imageMetaGet _ _ | .rbdInfo _ | .rbdSnapLs _ | .rbdChildren _ | .rbdConfigImage _ _ _
  | .namespaceLs _ _ | .backgroundFlatten _ _ | .secret _ .get
  | .awsGenerateDataKey _ | .awsDecrypt _ _ | .kmipGet _ _ | .readRecord _ | .listRecords
  | .blockdevGetsize _ | .nbdListMapped | .rbdStatus _ | .isLuks _ | .luksStatus _
  | .luksResize _ _ | .findmntTarget _ | .findmntFstype _ | .fs (.blkid _) | .fs (.mkdirAll _)
  | .fs (.findmntMountpoint _) | .fs (.xfsGrowfs _) | .fs (.btrfsResizeMax _)
  | .fs (.resize2fs _) | .setupFscrypt _ _ | .disposeLog _ _ => true
  | _ => false

section State

variable {α : Type} {w : World}

@[simp] theorem orNotFound_state (r : Option α) : (orNotFound r w).2 = w := by
  cases r with
  | none => rfl
  | some a => rfl

theorem onImage_state {i : ImageRef} {f : Image → Except RunError α × World}
    (h : ∀ im, (f im).2 = w) : (onImage i w f).2 = w := by
  unfold onImage
  cases w.images i with
  | none => rfl
  | some im => exact h im

@[simp] theorem performMetaGet_state (i : ImageRef) (q : QKey) :
    (performMetaGet i q w).2 = w := by
  apply onImage_state
  intro im
  split
  · rfl
  · rfl

@[simp] theorem performSecret_get_state (s : Secret) : (performSecret s .get w).2 = w := by
  simp only [performSecret]
  cases w.secrets s with
  | none => rfl
  | some p => rfl

theorem performSecret_state (s : Secret) (m : SecretMethod) :
    ∃ v, (performSecret s m w).2 = w.putSecret s v := by
  have hself : w = w.putSecret s (w.secrets s) := by
    rw [World.putSecret, Function.update_eq_self]
  cases m with
  | get => exact ⟨_, (performSecret_get_state s).trans hself⟩
  | write p createOnly =>
    simp only [performSecret]
    split
    · exact ⟨_, hself⟩
    · exact ⟨_, rfl⟩
  | delete => exact ⟨none, rfl⟩

@[simp] theorem performDecrypt_state (key : String) (b : Text) :
    (performDecrypt key b w).2 = w := by
  unfold performDecrypt
  split
  · split
    · rfl
    · rfl
  · rfl

@[simp] theorem performGetsize_state (d : Device) : (performGetsize d w).2 = w := by
  unfold performGetsize
  split
  · rfl
  · rfl

@[simp] theorem performIsLuks_state (d : Device) : (performIsLuks d w).2 = w := by
  unfold performIsLuks
  split
  · rfl
  · rfl

@[simp] theorem performLuksStatus_state (p : String) : (performLuksStatus p w).2 = w := by
  unfold performLuksStatus
  split
  · rfl
  · rfl

@[simp] theorem performLuksResize_state (p : String) (pass : Text) :
    (performLuksResize p pass w).2 = w := by
  unfold performLuksResize
  split
  · split
    · rfl
    · rfl
  · rfl

@[simp] theorem performBlkid_state (d : Device) : (performFs (.blkid d) w).2 = w := by
  simp only [performFs]
  cases w.contentOf d with
  | none => rfl
  | some c => rfl

end State

theorem perform_reads {c : Cmd} (h : c.reads = true) (who pick : ℕ) (w : World) :
    (perform who pick c w).2 = w ∨ (perform who pick c w).2 = { w with seq := w.seq + 1 } := by
  cases c with
  | secret s m =>
    cases m with
    | get => exact .inl (performSecret_get_state s)
    | write p createOnly => cases h
    | delete => cases h
  | fs c =>
    cases c with
    | blkid d => exact .inl (performBlkid_state d)
    | mkfs t args d => cases h
    | mount t flags d p => cases h
    | _ => exact .inl rfl
  | readMasterKey dir inst => exact .inl (orNotFound_state _)
  | imageMetaGet i q => exact .inl (performMetaGet_state i q)
  | rbdInfo i => exact .inl (onImage_state fun _ => rfl)
  | rbdSnapLs i => exact .inl (onImage_state fun _ => rfl)
  | rbdConfigImage i k v => exact .inl (onImage_state fun _ => rfl)
  | rbdStatus i => exact .inl (onImage_state fun _ => rfl)
  | awsDecrypt k b => exact .inl (performDecrypt_state k b)
  | kmipGet e u => exact .inl (orNotFound_state _)
  | readRecord p => exact .inl (orNotFound_state _)
  | blockdevGetsize d => exact .inl (performGetsize_state d)
  | isLuks d => exact .inl (performIsLuks_state d)
  | luksStatus p => exact .inl (performLuksStatus_state p)
  | luksResize p pass => exact .inl (performLuksResize_state p pass)
  | rand => exact .inr rfl
  | awsGenerateDataKey k => exact .inr rfl
  | _ =>
    first
    | exact .inl rfl
    | cases h

theorem step_reads {c : Cmd} (h : c.reads = true) (who : ℕ) (o : Outcome) (w : World) :
    (step who c o w).2 = w ∨ (step who c o w).2 = { w with seq := w.seq + 1 } := by
  obtain hs | hs := step_state who c o w
  · exact .inl hs
  · rw [hs]
    exact perform_reads h who o.pick w

/-- The devices, mounts and records of the node are the same. -/
structure SameNode (w w' : World) : Prop where
  mapped : w'.mapped = w.mapped
  mappers : w'.mappers = w.mappers
  mounts : w'.mounts = w.mounts
  records : w'.records = w.records
  master : w'.master = w.master

theorem SameNode.refl (w : World) : SameNode w w := ⟨rfl, rfl, rfl, rfl, rfl⟩

theorem SameNode.trans {w₁ w₂ w₃ : World} (h : SameNode w₁ w₂) (h' : SameNode w₂ w₃) :
    SameNode w₁ w₃ :=
  ⟨h'.mapped.trans h.mapped, h'.mappers.trans h.mappers, h'.mounts.trans h.mounts,
    h'.records.trans h.records, h'.master.trans h.master⟩

/-- Requests that leave the devices, mounts and records of the node alone. -/
def Cmd.offNode : Cmd → Bool
  | .imageMetaSet _ _ _ | .secret _ _ | .kmipRegister _ _ | .kmipDestroy _ _ | .blocklistAdd _
  | .luksFormat _ _ _ | .fs (.mkfs _ _ _) => true
  | c => c.reads

theorem sameNode_orRefused {w : World} {r : Option World} (h : ∀ w', r = some w' → SameNode w w') :
    SameNode w (orRefused r w).2 := by
  cases r with
  | none => exact .refl w
  | some w' => exact h w' rfl

theorem writeContent_eq {w w' : World} {d : Device} {c : Content}
    (h : w.writeContent d c = some w') :
    ∃ i im c', w.images i = some im ∧ w' = w.setImage i { im with content := c' } := by
  unfold World.writeContent at h
  split at h
  · simp only [bind, Option.bind_eq_some_iff] at h
    obtain ⟨d', _, i, _, im, him, hw⟩ := h
    exact ⟨i, im, _, him, (Option.some.inj hw).symm⟩
  · simp only [bind, Option.bind_eq_some_iff] at h
    obtain ⟨i, _, im, him, hw⟩ := h
    exact ⟨i, im, _, him, (Option.some.inj hw).symm⟩

theorem sameNode_writeContent {w w' : World} {d : Device} {c : Content}
    (h : w.writeContent d c = some w') : SameNode w w' := by
  obtain ⟨i, im, c', _, rfl⟩ := writeContent_eq h
  exact ⟨rfl, rfl, rfl, rfl, rfl⟩

theorem sameNode_onImage {α : Type} {w : World} {i : ImageRef}
    {f : Image → Except RunError α × World} (h : ∀ im, SameNode w (f im).2) :
    SameNode w (onImage i w f).2 := by
  unfold onImage
  cases w.images i with
  | none => exact .refl w
  | some im => exact h im

theorem perform_offNode {c : Cmd} (h : c.offNode = true) (who pick : ℕ) (w : World) :
    SameNode w (perform who pick c w).2 := by
  have hreads : c.reads = true → SameNode w (perform who pick c w).2 := by
    intro hr
    obtain hs | hs := perform_reads hr who pick w
    · rw [hs]
      exact .refl w
    · rw [hs]
      exact ⟨rfl, rfl, rfl, rfl, rfl⟩
  cases c with
  | imageMetaSet i q v => exact sameNode_onImage fun im => ⟨rfl, rfl, rfl, rfl, rfl⟩
  | secret s m =>
    change SameNode w (performSecret s m w).2
    obtain ⟨v, hv⟩ := performSecret_state (w := w) s m
    rw [hv]
    exact ⟨rfl, rfl, rfl, rfl, rfl⟩
  | kmipRegister e p => exact ⟨rfl, rfl, rfl, rfl, rfl⟩
  | kmipDestroy e u =>
    change SameNode w (performDestroy e u w).2
    unfold performDestroy
    cases w.kmip e u with
    | none => exact .refl w
    | some p => exact ⟨rfl, rfl, rfl, rfl, rfl⟩
  | blocklistAdd a => exact ⟨rfl, rfl, rfl, rfl, rfl⟩
  | luksFormat d p args => exact sameNode_orRefused fun _ => sameNode_writeContent
  | fs c =>
    cases c with
    | mkfs t args d => exact sameNode_orRefused fun _ => sameNode_writeContent
    | _ => exact hreads h
  | _ => exact hreads h

theorem step_offNode {c : Cmd} (h : c.offNode = true) (who : ℕ) (o : Outcome) (w : World) :
    SameNode w (step who c o w).2 := by
  obtain hs | hs := step_state who c o w
  · rw [hs]
    exact .refl w
  · rw [hs]
    exact perform_offNode h who o.pick w

/-- A request that fails may have taken effect or not. -/
def Outcome.applies (o : Outcome) (c : Cmd) : Bool := (o.fault.bind c.failed).isNone || o.lands

/-- The requests and outcomes of a call. -/
abbrev Trace := List (Event Cmd Outcome World)

section Applied

variable {who : ℕ} {c : Cmd} {o : Outcome} {w : World}

theorem step_unapplied (h : o.applies c = false) : (step who c o w).2 = w :=
  (faulty_snd ..).trans (if_neg (Bool.eq_false_iff.mp h))

theorem step_applied (h : o.applies c = true) :
    (step who c o w).2 = (perform who o.pick c w).2 :=
  (faulty_snd ..).trans (if_pos h)

end Applied

end BardCsi.Ceph
