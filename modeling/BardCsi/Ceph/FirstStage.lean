import BardCsi.Ceph.Stored

/-!
Concurrent first stages with the providers whose store has no conditional write. They
agree as long as nobody writes an entry that is already there; without that, the last
writer wins and the callers end up with different passphrases.
-/
namespace BardCsi.Ceph

open Effect Program

/-- The providers whose writes are unconditional. -/
def Unconditional : KeyService → Prop
  | .secretsMetadata | .awsKMS _ | .azureKV _ | .kmip _ => True
  | .derived _ | .vault _ | .misconfigured _ => False

/-- The requests that write the entry of a volume. -/
def WritesSlot (ks : KeyService) (inst : String) (spec : Spec) : Cmd → Prop
  | .imageMetaSet i q _ =>
      match ks with
      | .secretsMetadata | .awsKMS _ => (i, q) = metaAddr spec .wrappedDEK
      | .kmip _ => (i, q) = metaAddr spec .kmipUID
      | _ => False
  | .secret s (.write _ _) =>
      match ks with
      | .azureKV a => s = AzureKV.secretName a inst spec
      | _ => False
  | _ => False

section Contract

variable (ks : KeyService) (inst : String) (spec : Spec)

/-- What one caller tolerates from the others: an entry stays once it is there, and nobody
else records an object of this caller. -/
structure Settled (t : ℕ) (w w' : World) : Prop where
  kept : slot ks inst spec w ≠ .empty → slot ks inst spec w' = slot ks inst spec w
  master : w'.master = w.master
  object : ∀ e, ks = .kmip e → slot ks inst spec w ≠ .empty →
    w'.kmip e (slot ks inst spec w) = w.kmip e (slot ks inst spec w)
  own : ∀ e n, w'.kmip e (.uid t n) = w.kmip e (.uid t n)
  foreign : slot ks inst spec w' = slot ks inst spec w ∨
    ∀ n, slot ks inst spec w' ≠ .uid t n
  seq : w.seq ≤ w'.seq

theorem Settled.refl (t : ℕ) (w : World) : Settled ks inst spec t w w :=
  ⟨fun _ => rfl, rfl, fun _ _ _ => rfl, fun _ _ => rfl, .inl rfl, Nat.le_refl _⟩

variable {ks inst spec}

theorem Settled.trans {t : ℕ} {w₁ w₂ w₃ : World} (h : Settled ks inst spec t w₁ w₂)
    (h' : Settled ks inst spec t w₂ w₃) : Settled ks inst spec t w₁ w₃ where
  kept hne := by
    rw [h'.kept (by rwa [h.kept hne]), h.kept hne]
  master := h'.master.trans h.master
  object e he hne := by
    have h₂ := h'.object e he (by rwa [h.kept hne])
    rw [h.kept hne] at h₂
    rw [h₂, h.object e he hne]
  own e n := (h'.own e n).trans (h.own e n)
  foreign := by
    obtain h₂ | h₂ := h'.foreign
    · rw [h₂]
      exact h.foreign
    · exact .inr h₂
  seq := Nat.le_trans h.seq h'.seq

theorem Settled.stored {b : Backend} {t : ℕ} {w w' : World} (h : Settled ks inst spec t w w')
    {p : Text} (hp : stored b ks inst spec w = some p) : stored b ks inst spec w' = some p := by
  have hne := slot_ne_empty hp
  have hobject := h.object
  unfold Ceph.stored at hp ⊢
  rw [h.kept hne]
  cases ks with
  | kmip e =>
    simp only [decode, hne, if_false] at hp ⊢
    rw [hobject e rfl hne, hp]
  | secretsMetadata => simpa [decode, masterKey, h.master] using hp
  | derived d => cases hp
  | misconfigured m => cases hp
  | vault v => simpa [decode] using hp
  | awsKMS k => simpa [decode] using hp
  | azureKV a => simpa [decode] using hp

variable (ks inst spec)

/-- Recorded objects are older than the next one. -/
def RecordedOld (w : World) : Prop := ∀ a n, slot ks inst spec w = .uid a n → n < w.seq

/-- Nobody writes an entry that is there, and the record of an object is not written when
the write reports a failure. -/
def WritesWhenEmpty (c : Cmd) (o : Outcome) (w : World) : Prop :=
  WritesSlot ks inst spec c → slot ks inst spec w = .empty ∧
    ∀ e, ks = .kmip e → o.fault.isSome → o.landed = false

def settledContract (t : ℕ) : Contract Cmd Outcome World where
  inv := RecordedOld ks inst spec
  rely := Settled ks inst spec t
  assume := WritesWhenEmpty ks inst spec
  guarantee _ w w' := ∀ t', t' ≠ t → Settled ks inst spec t' w w'
  rely_refl := Settled.refl ks inst spec t
  rely_trans := Settled.trans

end Contract

section Calls

variable {b : Backend} {ks : KeyService} {inst : String} {spec : Spec} {t : ℕ} {w : World} {n : ℕ}
variable {e : String} {v : Text} {a : AzureConfig}

@[simp] theorem slot_seq (n : ℕ) :
    slot ks inst spec { w with seq := n } = slot ks inst spec w := by
  cases ks <;> rfl

theorem settled_of_seq (hn : w.seq ≤ n) :
    Settled ks inst spec t w { w with seq := n } :=
  ⟨fun _ => slot_seq n, rfl, fun _ _ _ => rfl, fun _ _ => rfl, .inl (slot_seq n), hn⟩

theorem recordedOld_of_seq (h : RecordedOld ks inst spec w) (hn : w.seq ≤ n) :
    RecordedOld ks inst spec { w with seq := n } := by
  intro a m hm
  rw [slot_seq] at hm
  exact Nat.lt_of_lt_of_le (h a m hm) hn

theorem settledContract_quietReads (ks : KeyService) (inst : String) (spec : Spec) (t : ℕ) :
    QuietReads machine t (settledContract ks inst spec t) := by
  intro c hc w o hi _
  change (∀ t', t' ≠ t → Settled ks inst spec t' w (step t c o w).2) ∧
    RecordedOld ks inst spec (step t c o w).2 ∧ Settled ks inst spec t w (step t c o w).2
  obtain h | h := step_reads hc t o w
  · rw [h]
    exact ⟨fun t' _ => .refl _ _ _ t' w, hi, .refl _ _ _ t w⟩
  · rw [h]
    have hn := Nat.le_succ w.seq
    exact ⟨fun t' _ => settled_of_seq hn, recordedOld_of_seq hi hn, settled_of_seq hn⟩

/-- The passphrase of a call is the stored one. -/
abbrev Resolves (b : Backend) (ks : KeyService) (inst : String) (spec : Spec) :
    Except Err Text → World → Prop :=
  IfOk fun p w => stored b ks inst spec w = some p

theorem resolved_meets {p : Text} (h : stored b ks inst spec w = some p) :
    (Program.pure p : Prog Text).Meets machine t (settledContract ks inst spec t)
      (Resolves b ks inst spec) w :=
  fun _ hr _ => Settled.stored hr h

theorem failed_meets {e : Err} :
    (Program.fail e : Prog Text).Meets machine t (settledContract ks inst spec t)
      (Resolves b ks inst spec) w :=
  fun _ _ _ => trivial

theorem settled_setMeta {k : MetaKey} (hslot : ∀ w, slot ks inst spec w = metaOf w spec k)
    (hempty : slot ks inst spec w = .empty) (hv : ∀ a n, v = .uid a n → a = t) {t' : ℕ}
    (ht : t' ≠ t) :
    Settled ks inst spec t' w (w.setMeta spec.image ⟨k, spec.snap⟩ v) where
  kept hne := absurd hempty hne
  master := setMeta_master
  object _ _ hne := absurd hempty hne
  own e n := by rw [setMeta_kmip]
  foreign := by
    cases him : (w.images spec.image).isSome with
    | false =>
      have hnone : w.images spec.image = none := by simpa using him
      exact .inl (by simp [World.setMeta, hnone])
    | true =>
      refine .inr fun n hn => ht (hv t' n ?_)
      rw [hslot] at hn
      exact (metaAt_setMeta_self him).symm.trans hn
  seq := Nat.le_of_eq setMeta_seq.symm

theorem imageMetaSet_settles {k : MetaKey} {f : Except Err Unit → Prog Text}
    (hslot : ∀ w, slot ks inst spec w = metaOf w spec k)
    (hwrites : WritesSlot ks inst spec (.imageMetaSet spec.image ⟨k, spec.snap⟩ v))
    (hv : ∀ a n, v = .uid a n → a = t ∧ n < w.seq)
    (hok : ∀ w₁ w₂, Settled ks inst spec t w w₁ → slot ks inst spec w₂ = v →
      w₂.master = w₁.master → w₂.kmip = w₁.kmip →
      (f (.ok ())).Meets machine t (settledContract ks inst spec t) (Resolves b ks inst spec) w₂)
    (herr : ∀ w₁ w₂ err, Settled ks inst spec t w w₁ → slot ks inst spec w₁ = .empty →
      w₂.master = w₁.master → ((∃ e, ks = .kmip e) → w₂ = w₁) →
      (f (.error err)).Meets machine t (settledContract ks inst spec t)
        (Resolves b ks inst spec) w₂) :
    ((imageMetaSet spec k v).attempt.bind f).Meets machine t (settledContract ks inst spec t)
      (Resolves b ks inst spec) w := by
  apply Meets.answered
  intro w₁ hr hi o ho
  obtain ⟨hempty, hlanded⟩ := ho hwrites
  have hsettled : ∀ t', t' ≠ t →
      Settled ks inst spec t' w₁ (w₁.setMeta spec.image ⟨k, spec.snap⟩ v) :=
    fun t' ht => settled_setMeta hslot hempty (fun a n h => (hv a n h).1) ht
  have hold : RecordedOld ks inst spec (w₁.setMeta spec.image ⟨k, spec.snap⟩ v) := by
    intro a n hn
    rw [setMeta_seq]
    cases him : (w₁.images spec.image).isSome with
    | false =>
      have hnone : w₁.images spec.image = none := by simpa using him
      exact hi a n (by simpa [World.setMeta, hnone] using hn)
    | true =>
      rw [hslot] at hn
      have hn' := (metaAt_setMeta_self him).symm.trans hn
      exact Nat.lt_of_lt_of_le (hv a n hn').2 hr.seq
  obtain ⟨hreply, him, hstate⟩ | ⟨⟨e, hreply⟩, hstate⟩ :=
    step_metaSet t spec.image ⟨k, spec.snap⟩ v o w₁
  · exact ⟨_, _, hreply, hstate, hsettled, hold,
      hok w₁ _ hr ((hslot _).trans (metaAt_setMeta_self him)) setMeta_master setMeta_kmip⟩
  · obtain hstate | ⟨hstate, hfault, hl⟩ := hstate
    · exact ⟨_, _, hreply, hstate, fun t' _ => .refl _ _ _ t' w₁, hi,
        herr w₁ w₁ _ hr hempty rfl fun _ => rfl⟩
    · refine ⟨_, _, hreply, hstate, hsettled, hold, herr w₁ _ _ hr hempty setMeta_master ?_⟩
      rintro ⟨endpoint, hks⟩
      simp [hlanded endpoint hks hfault] at hl

theorem unwrapDEK_meets {kek : String} (hkek : masterKey b.encKeyDir inst w = some kek) :
    (SecretsMetadata.unwrapDEK kek (metaOf w spec .wrappedDEK)).Meets machine t
      (settledContract .secretsMetadata inst spec t) (Resolves b .secretsMetadata inst spec) w := by
  unfold SecretsMetadata.unwrapDEK
  split
  · rename_i hwrapped
    refine Meets.ite (fun hk => resolved_meets ?_) fun _ => failed_meets
    subst hk
    exact stored_wrapped hwrapped hkek
  · exact failed_meets

theorem secretsMetadata_passphrase_meets :
    (SecretsMetadata.passphrase b.encKeyDir inst spec).Meets machine t
      (settledContract .secretsMetadata inst spec t) (Resolves b .secretsMetadata inst spec) w := by
  have hq := settledContract_quietReads .secretsMetadata inst spec t
  have hmaster {w₁ w₂ : World} {kek : String} (hkek : masterKey b.encKeyDir inst w₁ = some kek)
      (h : w₂.master = w₁.master) : masterKey b.encKeyDir inst w₂ = some kek := by
    rwa [masterKey, h]
  apply readMasterKey_meets machine_answers hq
  · intro w₁ kek _ _ hkek
    apply imageMetaGetChecked_meets machine_answers hq
    · intro w₂ hr₂ _
      refine Meets.ite (fun _ => unwrapDEK_meets (hmaster hkek hr₂.master)) fun _ => ?_
      apply randomText_meets machine_answers hq
      · intro w₃ w₃' hr₃ _ hr₃' _ _
        have hkek₃ := hmaster (hmaster (hmaster hkek hr₂.master) hr₃.master) hr₃'.master
        apply imageMetaSet_settles (fun _ => rfl)
        · rfl
        · intro a n h
          cases h
        · intro w₄ w₅ hr₄ hslot hw₅ _
          exact resolved_meets
            (stored_wrapped hslot (hmaster (hmaster hkek₃ hr₄.master) hw₅))
        · intro w₄ w₅ err hr₄ _ hw₅ _
          apply imageMetaGet_meets machine_answers hq
          intro w₆ v hr₆ _ hv
          refine Meets.ite (fun hne => ?_) fun _ => failed_meets
          obtain rfl := hv.resolve_right hne
          have hkek₅ := hmaster (hmaster hkek₃ hr₄.master) hw₅
          exact unwrapDEK_meets (hmaster hkek₅ hr₆.master)
      · exact fun _ _ _ _ => failed_meets
    · exact fun _ _ _ _ => failed_meets
  · exact fun _ _ _ _ => failed_meets

theorem decrypt_stored {key : String} (hne : metaOf w spec .wrappedDEK ≠ .empty) :
    (AwsKMS.decrypt key (metaOf w spec .wrappedDEK)).Meets machine t
      (settledContract (.awsKMS key) inst spec t) (Resolves b (.awsKMS key) inst spec) w := by
  rw [← Program.bind_pure_right (AwsKMS.decrypt key _)]
  apply decrypt_meets machine_answers (settledContract_quietReads _ inst spec t)
  · intro w₁ dek hr _ hblob
    exact resolved_meets (stored_blob ((hr.kept hne).trans hblob))
  · exact fun _ _ _ _ => failed_meets

theorem awsKMS_passphrase_meets {key : String} :
    (AwsKMS.passphrase key spec).Meets machine t (settledContract (.awsKMS key) inst spec t)
      (Resolves b (.awsKMS key) inst spec) w := by
  have hq := settledContract_quietReads (.awsKMS key) inst spec t
  refine Meets.ite (fun _ => failed_meets) fun _ => ?_
  apply imageMetaGetChecked_meets machine_answers hq
  · intro w₁ _ _
    refine Meets.ite (fun hne => ?_) fun _ => ?_
    · exact decrypt_stored hne
    · apply generateDataKey_meets machine_answers hq
      · intro w₁ w₂ _ _ _ _ _
        apply imageMetaSet_settles (fun _ => rfl)
        · rfl
        · intro a n h
          cases h
        · exact fun w₃ w₄ _ hslot _ _ => resolved_meets (stored_blob hslot)
        · intro w₃ w₄ err _ _ _ _
          apply imageMetaGet_meets machine_answers hq
          intro w₅ v _ _ hv
          refine Meets.ite (fun hne => ?_) fun _ => failed_meets
          obtain rfl := hv.resolve_right hne
          apply Meets.tryThen (decrypt_stored hne)
          · exact fun p w₆ _ hp => resolved_meets hp
          · exact fun _ _ _ _ => failed_meets
      · exact fun _ _ _ _ => failed_meets
  · exact fun _ _ _ _ => failed_meets

theorem settled_azurePut (hempty : slot (.azureKV a) inst spec w = .empty)
    (hv : ∀ t n, v ≠ .uid t n) (t' : ℕ) :
    Settled (.azureKV a) inst spec t' w
      (w.putSecret (AzureKV.secretName a inst spec) (some v)) where
  kept hne := absurd hempty hne
  master := rfl
  object _ h := by cases h
  own _ _ := rfl
  foreign := .inr fun n => by simpa [slot, World.putSecret] using hv t' n
  seq := Nat.le_refl _

theorem setSecret_meets (hne : v ≠ .empty) (hv : ∀ t n, v ≠ .uid t n) :
    (AzureKV.setSecret (AzureKV.secretName a inst spec) v).Meets machine t
      (settledContract (.azureKV a) inst spec t)
      (IfOk fun _ w' => slot (.azureKV a) inst spec w' = v) w := by
  apply secretCommand_meets
  · intro w₁ w₂ hr hslot
    rw [hr.kept (by rwa [hslot]), hslot]
  · intro w₁ o hi ho
    obtain ⟨hempty, _⟩ := ho rfl
    have hsettled := settled_azurePut hempty hv
    have hslot : slot (.azureKV a) inst spec
        (w₁.putSecret (AzureKV.secretName a inst spec) (some v)) = v := by
      simp [slot, World.putSecret]
    have hold : RecordedOld (.azureKV a) inst spec
        (w₁.putSecret (AzureKV.secretName a inst spec) (some v)) :=
      fun t' n hn => absurd (hslot.symm.trans hn) (hv t' n)
    obtain ⟨hreply, hstate⟩ | ⟨hfail, hstate | ⟨hstate, _⟩⟩ :=
      step_secret_write t (AzureKV.secretName a inst spec) v o w₁
    · rw [show (machine.step t _ o w₁).2 = _ from hstate]
      exact ⟨fun t' _ => hsettled t', hold, fun _ _ _ => hslot⟩
    · rw [show (machine.step t _ o w₁).2 = _ from hstate]
      refine ⟨fun t' _ => .refl _ _ _ t' w₁, hi, fun resp hx hs => ?_⟩
      exact absurd (by simp [List.mem_singleton.mp hs]) (hfail resp hx)
    · rw [show (machine.step t _ o w₁).2 = _ from hstate]
      exact ⟨fun t' _ => hsettled t', hold, fun _ _ _ => hslot⟩

theorem getSecret_stored :
    (AzureKV.getSecret (AzureKV.secretName a inst spec)).Meets machine t
      (settledContract (.azureKV a) inst spec t)
      (IfOk fun found w' => ∀ p, found = some p →
        stored b (.azureKV a) inst spec w' = some p) w :=
  secretRead_finds machine_answers (settledContract_quietReads _ inst spec t)
    (fun _ _ _ hr hp => hr.stored hp) fun _ _ _ hp hne => stored_secret (.azureKV a) hp hne

theorem azureKV_passphrase_meets :
    (AzureKV.passphrase a inst spec).Meets machine t (settledContract (.azureKV a) inst spec t)
      (Resolves b (.azureKV a) inst spec) w := by
  apply getSecret_stored.ends
  intro found w₁ _ hfound
  cases found with
  | some p => exact resolved_meets (hfound p rfl)
  | none =>
    apply randomText_meets machine_answers (settledContract_quietReads _ inst spec t)
    · intro w₁ w₂ _ _ _ _ _
      apply (setSecret_meets (by simp) (by simp)).tryThen
      · intro _ w₃ _ hslot
        apply resolved_meets
        simp [stored, decode, hslot]
      · intro err w₃ _ _
        apply (getSecret_stored (b := b)).tryThen
        · intro found w₄ _ hfound
          cases found with
          | some p => exact resolved_meets (hfound p rfl)
          | none => exact failed_meets
        · exact fun _ _ _ _ => failed_meets
    · exact fun _ _ _ _ => failed_meets

/-- Destroying or registering an object that is not the recorded one is tolerated by the
others, as long as it is one of the caller's own. -/
theorem settled_setKmip {m : ℕ} {p : Option Text} (hslot : slot (.kmip e) inst spec w ≠ .uid t n)
    (hm : w.seq ≤ m) {t' : ℕ} (ht : t' ≠ t) :
    Settled (.kmip e) inst spec t' w { w.setKmip e (.uid t n) p with seq := m } where
  kept _ := rfl
  master := rfl
  object e' _ _ := setKmip_kmip_of_ne hslot
  own e' n' := setKmip_kmip_of_ne fun h => ht (by injection h)
  foreign := .inl rfl
  seq := hm

theorem kmipGet_stored {u : Text} (hslot : slot (.kmip e) inst spec w = u) (hne : u ≠ .empty) :
    (Kmip.get e u).Meets machine t (settledContract (.kmip e) inst spec t)
      (Resolves b (.kmip e) inst spec) w := by
  rw [← Program.bind_pure_right (Kmip.get e _)]
  apply kmipGet_meets machine_answers (settledContract_quietReads _ inst spec t)
  · intro w₁ p hr _ hp
    have hslot₁ := (hr.kept (by rwa [hslot])).trans hslot
    exact resolved_meets (stored_object hslot₁ hne hp)
  · exact fun _ _ _ _ => failed_meets

theorem kmipRegister_settles {pass : Text} {f : Text → Prog Text}
    (hok : ∀ w₁ n, n < w₁.seq → w₁.kmip e (.uid t n) = some pass →
      (f (.uid t n)).Meets machine t (settledContract (.kmip e) inst spec t)
        (Resolves b (.kmip e) inst spec) w₁) :
    ((Kmip.register e pass).bind f).Meets machine t (settledContract (.kmip e) inst spec t)
      (Resolves b (.kmip e) inst spec) w := by
  apply Meets.answered
  intro w₁ _ hi o _
  have hfresh : slot (.kmip e) inst spec w₁ ≠ .uid t w₁.seq :=
    fun h => Nat.lt_irrefl _ (hi t w₁.seq h)
  have hsettled : ∀ t', t' ≠ t → Settled (.kmip e) inst spec t' w₁ (w₁.registered t e pass) :=
    fun t' ht => settled_setKmip hfresh (Nat.le_succ _) ht
  have hold : RecordedOld (.kmip e) inst spec (w₁.registered t e pass) :=
    fun a n hn => Nat.lt_succ_of_lt (hi a n hn)
  obtain ⟨hreply, hstate⟩ | ⟨⟨err, hreply⟩, hstate | hstate⟩ := step_kmipRegister t e pass o w₁
  · exact ⟨_, _, hreply, hstate, hsettled, hold,
      hok _ w₁.seq (Nat.lt_succ_self _) setKmip_kmip_self⟩
  · exact ⟨_, _, hreply, hstate, fun t' _ => .refl _ _ _ t' w₁, hi, failed_meets⟩
  · exact ⟨_, _, hreply, hstate, hsettled, hold, failed_meets⟩

theorem kmipDestroy_settles (hslot : ∀ n, slot (.kmip e) inst spec w ≠ .uid t n) :
    (Kmip.destroy e (.uid t n)).Meets machine t (settledContract (.kmip e) inst spec t)
      (fun _ w' => slot (.kmip e) inst spec w ≠ .empty →
        slot (.kmip e) inst spec w' = slot (.kmip e) inst spec w) w := by
  have hstable : ∀ {w₁ w₂ : World}, Settled (.kmip e) inst spec t w₁ w₂ →
      (slot (.kmip e) inst spec w ≠ .empty →
        slot (.kmip e) inst spec w₁ = slot (.kmip e) inst spec w) →
      slot (.kmip e) inst spec w ≠ .empty →
        slot (.kmip e) inst spec w₂ = slot (.kmip e) inst spec w :=
    fun hr h hne => (hr.kept (by rwa [h hne])).trans (h hne)
  apply Meets.returns
  · apply Meets.ask (P := fun _ w' => slot (.kmip e) inst spec w ≠ .empty →
      slot (.kmip e) inst spec w' = slot (.kmip e) inst spec w) fun _ _ _ hr => hstable hr
    intro w₁ o hr hi _
    have hslot₁ : slot (.kmip e) inst spec w₁ ≠ .uid t n := by
      obtain h | h := hr.foreign
      · rw [h]
        exact hslot n
      · exact h n
    obtain hstate | hstate := step_kmipDestroy t e (.uid t n) o w₁
    · rw [show (machine.step t _ o w₁).2 = _ from hstate]
      exact ⟨fun t' _ => .refl _ _ _ t' w₁, hi, hr.kept⟩
    · rw [show (machine.step t _ o w₁).2 = _ from hstate]
      exact ⟨fun t' ht => settled_setKmip hslot₁ (Nat.le_refl _) ht, hi, hr.kept⟩
  · intro x w₁ _ h
    have hend : ∀ w₂, Settled (.kmip e) inst spec t w₁ w₂ → _ := fun w₂ hr => hstable hr h
    split
    · exact fun w₂ hr _ => hend w₂ hr
    · exact fun w₂ hr _ => hend w₂ hr
    · exact fun w₂ hr _ => hend w₂ hr

theorem kmip_passphrase_meets :
    (Kmip.passphrase e spec).Meets machine t (settledContract (.kmip e) inst spec t)
      (Resolves b (.kmip e) inst spec) w := by
  have hq := settledContract_quietReads (.kmip e) inst spec t
  apply imageMetaGetChecked_meets machine_answers hq
  · intro w₁ _ _
    refine Meets.ite (fun hne => kmipGet_stored rfl hne) fun _ => ?_
    apply randomText_meets machine_answers hq
    · intro w₁ w₂ _ _ _ _ _
      apply kmipRegister_settles
      intro w₃ n hn hobject
      apply imageMetaSet_settles (fun _ => rfl)
      · rfl
      · intro a m h
        injection h with ha hm
        exact ⟨ha.symm, hm ▸ hn⟩
      · intro w₄ w₅ hr₄ hslot _ hkmip
        apply resolved_meets (stored_object hslot (by simp) _)
        rw [hkmip, hr₄.own, hobject]
      · intro w₄ w₅ err _ hempty _ hw₅
        obtain rfl := hw₅ ⟨e, rfl⟩
        apply imageMetaGet_meets machine_answers hq
        intro w₆ u hr₆ _ hu
        have hforeign : ∀ n, slot (.kmip e) inst spec w₆ ≠ .uid t n := by
          obtain h | h := hr₆.foreign
          · rw [h, hempty]
            simp
          · exact h
        refine Meets.ite (fun hne => ?_) fun _ => ?_
        · obtain rfl := hu.resolve_right hne.1
          apply (kmipDestroy_settles hforeign).tryAnyway
          exact fun _ w₇ _ hslot => kmipGet_stored (hslot hne.1) hne.1
        · apply (kmipDestroy_settles hforeign).tryAnyway
          exact fun _ _ _ _ => failed_meets
    · exact fun _ _ _ _ => failed_meets
  · exact fun _ _ _ _ => failed_meets

theorem passphrase_resolves (hks : Unconditional ks) (keyID : Text) :
    (KeyService.passphrase b ks inst spec keyID).Meets machine t (settledContract ks inst spec t)
      (Resolves b ks inst spec) w := by
  cases ks with
  | secretsMetadata => exact secretsMetadata_passphrase_meets
  | awsKMS key => exact awsKMS_passphrase_meets
  | azureKV a => exact azureKV_passphrase_meets
  | kmip e => exact kmip_passphrase_meets
  | derived dir => exact hks.elim
  | vault v => exact hks.elim
  | misconfigured msg => exact hks.elim

end Calls

theorem settledContract_compatible (ks : KeyService) (inst : String) (spec : Spec) :
    Pool.Compatible (settledContract ks inst spec) (RecordedOld ks inst spec) :=
  ⟨fun _ _ => Iff.rfl, fun _ t' _ _ _ ht _ _ hg => hg t' (Ne.symm ht)⟩

/-- Callers that first stage one volume at the same time agree in every schedule in which
the entry of the volume is only written while it is empty: what a call has returned is what
is stored, for every call. -/
theorem first_stage_agreement (b : Backend) (ks : KeyService) (hks : Unconditional ks)
    (inst : String) (spec : Spec) (keyID : Text) (w : World) (hw : RecordedOld ks inst spec w)
    (schedule : List (ℕ × Outcome))
    (hwrites : Pool.Throughout machine (fun _ => WritesWhenEmpty ks inst spec) schedule
      ⟨fun _ => KeyService.passphrase b ks inst spec keyID, w⟩) :
    let P := Pool.run machine schedule ⟨fun _ => KeyService.passphrase b ks inst spec keyID, w⟩
    (∀ t p, P.procs t = .pure p → stored b ks inst spec P.state = some p) ∧
      ∀ t t' p p', P.procs t = .pure p → P.procs t' = .pure p' → p = p' := by
  obtain ⟨hgood, _⟩ := Pool.Good.run (M := machine) (Q := fun _ => Resolves b ks inst spec)
    (settledContract_compatible ks inst spec)
    (P := ⟨fun _ => KeyService.passphrase b ks inst spec keyID, w⟩)
    ⟨hw, fun t => passphrase_resolves hks keyID⟩ schedule hwrites
  have hstored := fun t p (hp : (Pool.run machine schedule
    ⟨fun _ => KeyService.passphrase b ks inst spec keyID, w⟩).procs t = .pure p) =>
      hgood.result (settledContract_compatible ks inst spec) hp
  refine ⟨hstored, fun t t' p p' hp hp' => ?_⟩
  exact Option.some.inj ((hstored t p hp).symm.trans (hstored t' p' hp'))

section Race

def raceBackend : Backend := ⟨fun _ => none, "keys", "state", fun _ => none, 0, 0⟩

def raceImage : ImageRef := ⟨"ceph", "pool", .plain "volume"⟩

def raceWorld : World := World.start.setImage raceImage (.new 1)

def racePool (ks : KeyService) : Pool Cmd Cmd.Reply ℕ World Err Text :=
  ⟨fun _ => KeyService.passphrase raceBackend ks "ceph" raceImage.spec .empty, raceWorld⟩

theorem first_stage_agreement_in_turn :
    let ks := KeyService.azureKV ⟨"https://vault", "bard"⟩
    let P := Pool.run machine [(0, .ok), (0, .ok), (0, .ok), (1, .ok)] (racePool ks)
    P.procs 0 = .pure (.minted 0 0) ∧ P.procs 1 = .pure (.minted 0 0) ∧
      stored raceBackend ks "ceph" raceImage.spec P.state = some (.minted 0 0) := by
  refine ⟨rfl, rfl, ?_⟩
  refine (first_stage_agreement raceBackend (.azureKV ⟨"https://vault", "bard"⟩) trivial "ceph"
    raceImage.spec .empty raceWorld ?_ _ ?_).1 0 _ rfl
  · intro a n h
    cases h
  · refine ⟨fun h => h.elim, fun h => h.elim, fun _ => ⟨rfl, fun e h => ?_⟩,
      fun h => h.elim, trivial⟩
    cases h

/-- Two callers that both find the entry empty both write it, and return different
passphrases although no request fails. -/
theorem first_stage_race :
    ([KeyService.secretsMetadata, .awsKMS "key", .azureKV ⟨"https://vault", "bard"⟩,
        .kmip "hsm:5696"].map fun ks =>
      let P := Pool.run machine ((List.replicate 6 [(0, .ok), (1, .ok)]).flatten) (racePool ks)
      ((P.procs 0).returned, (P.procs 1).returned)) =
        List.replicate 4 (some (.minted 0 0), some (.minted 1 1)) := by
  decide +kernel

end Race

end BardCsi.Ceph
