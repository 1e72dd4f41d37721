import BardCsi.Ceph.NodeReads
import BardCsi.Ceph.Rotation

/-!
Every provider's rotation keeps the contract of concurrent rotations, whatever fails.
-/
namespace BardCsi.Ceph

open Effect Program

section Facts

variable {b : Backend} {ks : KeyService} {vol : ImageRef} {t n : ℕ} {g g' : Logged} {p : Text}
variable {reqs : ℕ → RotateEncryptionKeyRequest}

/-- The provider has shown the passphrase. -/
def Published (p : Text) (g : Logged) : Prop := ∃ y ∈ g.2, y.2 = some p

/-- The caller has drawn a key that the provider has never shown. -/
def Drawn (t n : ℕ) (g : Logged) : Prop :=
  n < g.1.seq ∧ ∀ y ∈ g.2, y.2 ≠ some (.minted t n)

/-- Such a key that opens the header. -/
def Added (vol : ImageRef) (t n : ℕ) (g : Logged) : Prop :=
  Drawn t n g ∧ .minted t n ∈ header g.1 vol

/-- Nothing in the log of an earlier moment is current any more. -/
def Displaced (b : Backend) (ks : KeyService) (vol : ImageRef) (log : List (Text × Option Text))
    (g : Logged) : Prop :=
  ∀ y ∈ log, y ∈ g.2 ∧ y.2 ≠ stored b ks vol.inst vol.spec g.1 ∧
    ∀ e, ks = .kmip e → y.1 ≠ slot ks vol.inst vol.spec g.1

theorem Tolerable.published (h : Tolerable b ks vol t g g') (hp : Published p g) :
    Published p g' := by
  obtain ⟨y, hy, hyp⟩ := hp
  exact ⟨y, h.grows y hy, hyp⟩

theorem Tolerable.drawn (h : Tolerable b ks vol t g g') (hd : Drawn t n g) : Drawn t n g' := by
  refine ⟨Nat.lt_of_lt_of_le hd.1 h.seq, fun y hy => ?_⟩
  obtain hy' | ⟨hy', _⟩ := h.foreign y hy
  · exact hd.2 y hy'
  · exact hy' n

theorem Tolerable.added (h : Tolerable b ks vol t g g') (ha : Added vol t n g) :
    Added vol t n g' := by
  have hd := h.drawn ha.1
  refine ⟨hd, ?_⟩
  obtain hmem | ⟨y, hy, hyp⟩ := h.header _ ha.2
  · exact hmem
  · exact absurd hyp (hd.2 y hy)

theorem Tolerable.displaced {log : List (Text × Option Text)} (h : Tolerable b ks vol t g g')
    (hd : Displaced b ks vol log g) : Displaced b ks vol log g' := by
  intro y hy
  obtain ⟨hmem, hstored, hslot⟩ := hd y hy
  refine ⟨h.grows y hmem, ?_⟩
  obtain hsame | hnew := h.current
  · have hslot' : slot ks vol.inst vol.spec g'.1 = slot ks vol.inst vol.spec g.1 :=
      congrArg Prod.fst hsame
    have hstored' : stored b ks vol.inst vol.spec g'.1 = stored b ks vol.inst vol.spec g.1 :=
      congrArg Prod.snd hsame
    rw [hslot', hstored']
    exact ⟨hstored, hslot⟩
  · exact hnew y hmem

theorem Publishes.displaced {w' : World} {log : List (Text × Option Text)}
    (h : Publishes b ks vol t n g w') (hlog : ∀ y ∈ log, y ∈ g.2) :
    Displaced b ks vol log (logNext b ks vol g w') := by
  intro y hy
  refine ⟨List.mem_cons_of_mem _ (hlog y hy), ?_, fun e he => ?_⟩
  · change y.2 ≠ stored b ks vol.inst vol.spec w'
    rw [h.resolves]
    exact h.fresh y (hlog y hy)
  · obtain ⟨m, hm⟩ := h.object e he
    change y.1 ≠ slot ks vol.inst vol.spec w'
    rw [hm]
    exact (h.entry t m hm).2.2 y (hlog y hy)

end Facts

section Calls

variable (b : Backend) (ks : KeyService) (vol : ImageRef)
variable (reqs : ℕ → RotateEncryptionKeyRequest) {w w' : World} {p : Text} {k : MetaKey}
variable {x : Except RunError HttpResponse} {g' : Logged} {client : SecretClient}
variable {path : String → Spec → Secret}

/-- The machine with the log of what the provider shows for the volume. -/
abbrev rotationMachine : Machine Cmd Cmd.Reply ℕ Outcome Logged := machine.logged (shown b ks vol)

theorem rotationMachine_answers : Answers (rotationMachine b ks vol) Prod.fst :=
  logged_answers _

variable {b ks vol reqs} {t n : ℕ} {g : Logged}

theorem shown_seq (n : ℕ) :
    shown b ks vol { w with seq := n } = shown b ks vol w := by
  have hslot : slot ks vol.inst vol.spec { w with seq := n } = slot ks vol.inst vol.spec w :=
    slot_congr rfl rfl
  have hdecode : ∀ entry, decode b ks vol.inst { w with seq := n } entry =
      decode b ks vol.inst w entry := fun _ => decode_congr rfl fun _ _ => rfl
  unfold shown stored
  rw [hslot, hdecode]

theorem harmless_seq (hn : g.1.seq ≤ n) (t : ℕ) :
    Harmless b ks vol t g { g.1 with seq := n } where
  node := ⟨rfl, rfl, rfl, rfl, rfl⟩
  provider := rfl
  seq := hn
  same := shown_seq n
  header _ hp := .inl hp
  object _ _ := .inl rfl

theorem unchanged (hi : Rotating b ks vol reqs g) (h : w' = g.1) :
    (∀ t, Tolerable b ks vol t g (logNext b ks vol g w')) ∧
      Rotating b ks vol reqs (logNext b ks vol g w') := by
  subst h
  have hstep : ∀ t, Harmless b ks vol t g g.1 := harmless_seq (Nat.le_refl _)
  exact ⟨tolerable_of_harmless hstep hi, (hstep 0).rotating hi⟩

theorem rotation_quietReads (b : Backend) (ks : KeyService) (vol : ImageRef)
    (reqs : ℕ → RotateEncryptionKeyRequest) (t : ℕ) :
    QuietReads (rotationMachine b ks vol) t (rotationContract b ks vol reqs t) := by
  intro c hc g o hi _
  have hstep : ∀ t', Harmless b ks vol t' g (step t c o g.1).2 := by
    intro t'
    obtain h | h := step_reads hc t o g.1
    · rw [h]
      exact harmless_seq (Nat.le_refl _) t'
    · rw [h]
      exact harmless_seq (Nat.le_succ _) t'
  exact ⟨fun t' _ => tolerable_of_harmless hstep hi t', (hstep t).rotating hi,
    tolerable_of_harmless hstep hi t⟩

theorem published_current (hi : Rotating b ks vol reqs g)
    (hp : stored b ks vol.inst vol.spec g.1 = some p) : Published p g :=
  ⟨_, hi.current, hp⟩

theorem slot_nonempty (hi : Rotating b ks vol reqs g) :
    slot ks vol.inst vol.spec g.1 ≠ .empty := by
  obtain ⟨p, hp, _⟩ := hi.opens
  exact slot_ne_empty hp

section Reading

variable {σ α : Type} {M : Machine Cmd Cmd.Reply ℕ Outcome σ} {K : Contract Cmd Outcome σ}
variable {π : σ → Logged} {s : σ}

/-- Under the contract a caller sees a volume whose key is being rotated, and its reads are
quiet. -/
structure Watches (b : Backend) (ks : KeyService) (vol : ImageRef)
    (reqs : ℕ → RotateEncryptionKeyRequest) (t : ℕ) (M : Machine Cmd Cmd.Reply ℕ Outcome σ)
    (K : Contract Cmd Outcome σ) (π : σ → Logged) : Prop where
  answers : Answers M fun s => (π s).1
  quiet : QuietReads M t K
  rotating : ∀ s, K.inv s → Rotating b ks vol reqs (π s)
  tolerable : ∀ s s', K.rely s s' → Tolerable b ks vol t (π s) (π s')

theorem rotation_watches (b : Backend) (ks : KeyService) (vol : ImageRef)
    (reqs : ℕ → RotateEncryptionKeyRequest) (t : ℕ) :
    Watches b ks vol reqs t (rotationMachine b ks vol) (rotationContract b ks vol reqs t)
      fun g => g where
  answers := rotationMachine_answers b ks vol
  quiet := rotation_quietReads b ks vol reqs t
  rotating _ hi := hi
  tolerable _ _ hr := hr

/-- A read that ends well gives a passphrase that the provider has shown. -/
abbrev Reads (M : Machine Cmd Cmd.Reply ℕ Outcome σ) (t : ℕ) (K : Contract Cmd Outcome σ)
    (π : σ → Logged) (p : Prog Text) (s : σ) : Prop :=
  p.Meets M t K (IfOk fun pass s' => Published pass (π s')) s

theorem reads_fail {e : Err} : Reads M t K π (.fail e) s := fun _ _ _ => trivial

theorem Watches.reads_pure (h : Watches b ks vol reqs t M K π) (hp : Published p (π s)) :
    Reads M t K π (.pure p) s :=
  fun _ hr _ => (h.tolerable _ _ hr).published hp

theorem secretsMetadata_reads (h : Watches b .secretsMetadata vol reqs t M K π) :
    Reads M t K π (SecretsMetadata.passphrase b.encKeyDir vol.inst vol.spec) s := by
  apply readMasterKey_meets h.answers h.quiet
  · intro s₁ kek _ _ hkek
    apply imageMetaGetChecked_meets h.answers h.quiet
    · intro s₂ hr₂ hi₂
      have hrotating := h.rotating s₂ hi₂
      refine Meets.ite (fun _ => ?_)
        fun hempty => absurd hempty (not_not_intro (slot_nonempty hrotating))
      unfold SecretsMetadata.unwrapDEK
      split
      · rename_i hwrapped
        refine Meets.ite (fun hk => ?_) fun _ => reads_fail
        subst hk
        apply h.reads_pure (published_current hrotating _)
        apply stored_wrapped hwrapped
        rwa [masterKey, (h.tolerable _ _ hr₂).node.master]
      · exact reads_fail
    · exact fun _ _ _ _ => reads_fail
  · exact fun _ _ _ _ => reads_fail

theorem awsKMS_reads {key : String} (h : Watches b (.awsKMS key) vol reqs t M K π) :
    Reads M t K π (AwsKMS.passphrase key vol.spec) s := by
  refine Meets.ite (fun _ => reads_fail) fun _ => ?_
  apply imageMetaGetChecked_meets h.answers h.quiet
  · intro s₁ _ hi₁
    have hrotating := h.rotating s₁ hi₁
    refine Meets.ite (fun _ => ?_)
      fun hempty => absurd hempty (not_not_intro (slot_nonempty hrotating))
    rw [← Program.bind_pure_right (AwsKMS.decrypt key _)]
    apply decrypt_meets h.answers h.quiet
    · intro s₂ dek hr₂ _ hblob
      apply h.reads_pure
      exact (h.tolerable _ _ hr₂).published (published_current hrotating (stored_blob hblob))
    · exact fun _ _ _ _ => reads_fail
  · exact fun _ _ _ _ => reads_fail

theorem secret_reads (hks : ks.Stores client path) (h : Watches b ks vol reqs t M K π) :
    Reads M t K π (client.passphrase (path vol.inst vol.spec)) s := by
  apply secretRead_meets h.answers h.quiet
  · intro s₁ p _ hi₁ hp hne
    exact h.reads_pure (published_current (h.rotating s₁ hi₁) (stored_secret hks hp hne))
  · intro s₁ _ hi₁ hempty
    have hne := slot_nonempty (h.rotating s₁ hi₁)
    rw [hks.slot] at hne
    obtain hempty | hempty := hempty
    · exact absurd (by rw [hempty]; rfl) hne
    · exact absurd (by rw [hempty]; rfl) hne
  · exact fun _ _ _ _ => reads_fail

theorem kmip_reads {e : String} (h : Watches b (.kmip e) vol reqs t M K π) :
    Reads M t K π (Kmip.passphrase e vol.spec) s := by
  apply imageMetaGetChecked_meets h.answers h.quiet
  · intro s₁ _ hi₁
    have hrotating := h.rotating s₁ hi₁
    refine Meets.ite (fun _ => ?_)
      fun hempty => absurd hempty (not_not_intro (slot_nonempty hrotating))
    rw [← Program.bind_pure_right (Kmip.get e _)]
    apply kmipGet_meets h.answers h.quiet
    · intro s₂ p hr₂ hi₂ hp
      obtain ⟨p₁, hp₁, _⟩ := hrotating.opens
      have hmem := (h.tolerable _ _ hr₂).grows _ hrotating.current
      obtain hobject | hobject := (h.rotating s₂ hi₂).object e rfl _ hmem p₁ hp₁
      · obtain rfl := Option.some.inj (hobject.symm.trans hp)
        exact h.reads_pure ⟨_, hmem, hp₁⟩
      · cases hobject.symm.trans hp
    · exact fun _ _ _ _ => reads_fail
  · exact fun _ _ _ _ => reads_fail

end Reading

theorem isSome_of_opens (hi : Rotating b ks vol reqs g) : (g.1.images vol).isSome := by
  obtain ⟨p, _, hp⟩ := hi.opens
  unfold header at hp
  cases him : g.1.images vol with
  | none => simp [him] at hp
  | some im => rfl

theorem shown_of_images {w w' : World} (hrest : ∃ images, w' = { w with images := images })
    (hmeta : metaAt w' vol = metaAt w vol) : shown b ks vol w' = shown b ks vol w := by
  obtain ⟨images, rfl⟩ := hrest
  have hslot : slot ks vol.inst vol.spec { w with images := images } =
      slot ks vol.inst vol.spec w := slot_congr hmeta rfl
  have hdecode : ∀ entry, decode b ks vol.inst { w with images := images } entry =
      decode b ks vol.inst w entry := fun _ => decode_congr rfl fun _ _ => rfl
  unfold shown stored
  rw [hslot, hdecode]

theorem sameNode_of_images (hrest : ∃ images, w' = { w with images := images }) :
    SameNode w w' := by
  obtain ⟨images, rfl⟩ := hrest
  exact ⟨rfl, rfl, rfl, rfl, rfl⟩

theorem harmless_setContent {c : Content} (hi : Rotating b ks vol reqs g)
    (hheader : ∀ p ∈ header g.1 vol, p ∈ c.slots ∨ Published p g ∧
      stored b ks vol.inst vol.spec g.1 ≠ some p) (t : ℕ) :
    Harmless b ks vol t g (g.1.setContent vol c) where
  node := sameNode_of_images setContent_rest
  provider := congrFun setContent_metaAt _
  seq := by
    obtain ⟨images, h⟩ := setContent_rest (w := g.1) (i := vol) (c := c)
    exact Nat.le_of_eq (by rw [h])
  same := shown_of_images setContent_rest setContent_metaAt
  header p hp := by
    rw [header_setContent_self (isSome_of_opens hi)]
    exact hheader p hp
  object e u := by
    obtain ⟨images, h⟩ := setContent_rest (w := g.1) (i := vol) (c := c)
    rw [h]
    exact .inl rfl

theorem luksAddKey_adds (hd : Maps g.1 d vol) (hn : Drawn t n g) :
    (luksAddKey d old (.minted t n)).Meets (rotationMachine b ks vol) t
      (rotationContract b ks vol reqs t)
      (Ends (fun _ g' => Tolerable b ks vol t g g' ∧ Added vol t n g')
        fun _ g' => Tolerable b ks vol t g g') g := by
  have hfail : ∀ {g₁ : Logged} {e : Err}, Tolerable b ks vol t g g₁ →
      (Program.fail e : Prog Unit).Meets (rotationMachine b ks vol) t
        (rotationContract b ks vol reqs t)
        (Ends (fun _ g' => Tolerable b ks vol t g g' ∧ Added vol t n g')
          fun _ g' => Tolerable b ks vol t g g') g₁ :=
    fun hr _ hr' _ => hr.trans hr'
  apply tempKeyFile_meets (rotation_quietReads b _ vol reqs t)
  · intro g₁ hr₁ _
    apply tempKeyFile_meets (rotation_quietReads b _ vol reqs t)
    · intro g₂ hr₂ _
      apply Meets.answered
      intro g₃ hr₃ hi₃ o _
      have hr := (Tolerable.trans hr₁ hr₂).trans hr₃
      have hd₃ := hd.of_mapped hr.node.mapped
      obtain ⟨⟨e, hreply⟩, hstate⟩ | ⟨inner, hsome, hstate⟩ :=
        step_luksAddKey hd₃ t old (.minted t n) o
      · obtain ⟨htol, hi'⟩ := unchanged hi₃ hstate
        exact ⟨_, _, hreply, rfl, fun t' _ => htol t', hi', hfail (hr.trans (htol t))⟩
      · have hstep : ∀ t', Harmless b ks vol t' g₃
            (g₃.1.setContent vol (.luks (header g₃.1 vol ++ [.minted t n]) inner)) :=
          harmless_setContent hi₃ fun p hp => .inl (List.mem_append_left _ hp)
        have htol := tolerable_of_harmless hstep hi₃
        have hadded : Added vol t n (logNext b ks vol g₃ (g₃.1.setContent vol
            (.luks (header g₃.1 vol ++ [.minted t n]) inner))) := by
          refine ⟨(hr.trans (htol t)).drawn hn, ?_⟩
          rw [header_setContent_self hsome]
          simp [Content.slots]
        refine ⟨_, _, rfl, congrArg (logNext b ks vol g₃) hstate, fun t' _ => htol t',
          (hstep t).rotating hi₃, ?_⟩
        cases ((rotationMachine b ks vol).step t (.luksAddKey d old (.minted t n)) o g₃).1 with
        | ok u => exact fun g₄ hr₄ _ => ⟨(hr.trans (htol t)).trans hr₄, hr₄.added hadded⟩
        | error e => exact hfail (hr.trans (htol t))
    · exact fun _ _ hr₂ _ => hfail (Tolerable.trans hr₁ hr₂)
  · exact fun _ _ hr₁ _ => hfail hr₁

theorem luksRemoveKey_meets (hd : Maps g.1 d vol) (hp : ∃ y ∈ log, y.2 = some p)
    (hlog : Displaced b ks vol log g) :
    (luksRemoveKey d p).Meets (rotationMachine b ks vol) t (rotationContract b ks vol reqs t)
      (fun _ _ => True) g := by
  apply tempKeyFile_meets (rotation_quietReads b _ vol reqs t)
  · intro g₁ hr₁ _
    apply Meets.returns (P := fun _ _ => True)
    · apply Meets.ask fun _ _ _ _ _ => trivial
      intro g₂ o hr₂ hi₂ _
      have hr := Tolerable.trans hr₁ hr₂
      have hstep : ∀ t', Harmless b ks vol t' g₂ (step t (.luksRemoveKey d p) o g₂.1).2 := by
        obtain hstate | ⟨inner, _, hstate⟩ :=
          step_luksRemoveKey (hd.of_mapped hr.node.mapped) t p o
        · rw [hstate]
          exact harmless_seq (Nat.le_refl _)
        · rw [hstate]
          refine harmless_setContent hi₂ fun q hq => ?_
          by_cases hqp : q = p
          · subst hqp
            obtain ⟨y, hy, hyq⟩ := hp
            obtain ⟨hmem, hne, _⟩ := (hr.displaced hlog) y hy
            exact .inr ⟨⟨y, hmem, hyq⟩, fun h => hne (hyq.trans h.symm)⟩
          · exact .inl ((List.mem_erase_of_ne hqp).mpr hq)
      exact ⟨fun t' _ => tolerable_of_harmless hstep hi₂ t', (hstep t).rotating hi₂, trivial⟩
    · intro x g₂ _ _
      split
      · exact fun _ _ _ => trivial
      · exact fun _ _ _ => trivial
      · exact fun _ _ _ => trivial
  · exact fun _ _ _ _ _ _ _ => trivial

theorem slot_setMeta {v : Text} (hslot : ∀ w, slot ks vol.inst vol.spec w = metaOf w vol.spec k)
    (hi : Rotating b ks vol reqs g) :
    slot ks vol.inst vol.spec (g.1.setMeta vol ⟨k, none⟩ v) = v :=
  (hslot _).trans (metaAt_setMeta_self (isSome_of_opens hi))

theorem publishes_setMeta {v : Text} (hk : k ≠ .kmsID)
    (hslot : ∀ w, slot ks vol.inst vol.spec w = metaOf w vol.spec k) (hi : Rotating b ks vol reqs g)
    (ha : Added vol t n g) (hv : decode b ks vol.inst g.1 v = some (.minted t n))
    (huid : ∀ a m, v = .uid a m → a = t ∧ m < g.1.seq ∧ ∀ y ∈ g.2, y.1 ≠ .uid a m)
    (hobject : ∀ e, ks = .kmip e → ∃ m, v = .uid t m) :
    Publishes b ks vol t n g (g.1.setMeta vol ⟨k, none⟩ v) where
  node := sameNode_of_images setMeta_rest
  provider := metaAt_setMeta_of_ne (.inr fun h => hk (congrArg QKey.key h).symm)
  seq := setMeta_seq
  kmip := setMeta_kmip
  header := header_setMeta
  resolves := by
    rw [stored, slot_setMeta hslot hi,
      decode_congr setMeta_master fun _ _ => by rw [setMeta_kmip], hv]
  opens := ha.2
  drawn := ha.1.1
  fresh := ha.1.2
  entry a m h := by
    rw [slot_setMeta hslot hi] at h
    exact huid a m h
  object e he := by
    rw [slot_setMeta hslot hi]
    exact hobject e he

theorem publishes_secret (hks : ks.Stores client path) (ha : Added vol t n g) :
    Publishes b ks vol t n g (g.1.putSecret (path vol.inst vol.spec) (some (.minted t n))) where
  node := ⟨rfl, rfl, rfl, rfl, rfl⟩
  provider := rfl
  seq := rfl
  kmip := rfl
  header := rfl
  resolves := stored_secret hks (by simp [World.putSecret]) (by simp)
  opens := ha.2
  drawn := ha.1.1
  fresh := ha.1.2
  entry a m h := by simp [hks.slot, World.putSecret] at h
  object e he := by
    subst he
    cases hks

/-- The postcondition of a provider's rotation: nothing shown before it is current. -/
abbrev Rotates (b : Backend) (ks : KeyService) (vol : ImageRef)
    (reqs : ℕ → RotateEncryptionKeyRequest) (t : ℕ) (log : List (Text × Option Text))
    (p : Prog Unit) (g : Logged) : Prop :=
  p.Meets (rotationMachine b ks vol) t (rotationContract b ks vol reqs t)
    (IfOk fun _ => Displaced b ks vol log) g

theorem rotates_fail {e : Err} :
    Rotates b ks vol reqs t log (.fail e) g := fun _ _ _ => trivial

theorem imageMetaSet_rotates {v : Text} (hlog : ∀ y ∈ log, y ∈ g.2)
    (h : ∀ g₁, Tolerable b ks vol t g g₁ → Rotating b ks vol reqs g₁ →
      Publishes b ks vol t n g₁ (g₁.1.setMeta vol ⟨k, none⟩ v)) :
    Rotates b ks vol reqs t log (imageMetaSet vol.spec k v) g := by
  apply Meets.returns (P := fun x g' => x = .ok () → Displaced b ks vol log g')
  · apply Meets.ask
    · exact fun x g₁ g₂ hr hx hok => Tolerable.displaced hr (hx hok)
    · intro g₁ o hr hi _
      have hpub := h g₁ hr hi
      have hdone : ∀ w', w' = g₁.1.setMeta vol ⟨k, none⟩ v →
          (∀ t', t' ≠ t → Tolerable b ks vol t' g₁ (logNext b ks vol g₁ w')) ∧
            Rotating b ks vol reqs (logNext b ks vol g₁ w') ∧
            Displaced b ks vol log (logNext b ks vol g₁ w') := by
        rintro w' rfl
        exact ⟨fun t' ht => hpub.tolerable ht, hpub.rotating hi,
          hpub.displaced fun y hy => hr.grows y (hlog y hy)⟩
      obtain ⟨_, _, hstate⟩ | ⟨⟨e, hreply⟩, hstate | ⟨hstate, _⟩⟩ :=
        step_metaSet t vol ⟨k, none⟩ v o g₁.1
      · obtain ⟨hg, hi', hd⟩ := hdone _ hstate
        exact ⟨hg, hi', fun _ => hd⟩
      · obtain ⟨htol, hi'⟩ := unchanged hi hstate
        refine ⟨fun t' _ => htol t', hi', fun hok => ?_⟩
        cases hreply.symm.trans hok
      · obtain ⟨hg, hi', hd⟩ := hdone _ hstate
        exact ⟨hg, hi', fun _ => hd⟩
  · intro x g₁ _ hx
    cases x with
    | ok u => exact fun g₂ hr _ => Tolerable.displaced hr (hx rfl)
    | error e => exact rotates_fail

/-- The reply to a write says that nothing shown before is current. -/
def Replaced (b : Backend) (ks : KeyService) (vol : ImageRef) (log : List (Text × Option Text))
    (x : Except RunError HttpResponse) (g : Logged) : Prop :=
  ∀ resp, x = .ok resp → resp.status ∈ [200, 204] → Displaced b ks vol log g

theorem Replaced.of_unsuccessful (h : Unsuccessful x) : Replaced b ks vol log x g := by
  intro resp hx hs
  exact absurd (List.mem_of_mem_dropLast (l := [200, 204, 404]) hs) (h resp hx)

/-- One attempt to overwrite the entry in a key store: it succeeds, or it fails without an
effect, or it fails with the effect and is not made again. -/
theorem attempt_rotates {v : World} {again : Except RunError HttpResponse → Bool}
    (hagain : ∀ x, TokenAccepted x → again x = false) (hlog : ∀ y ∈ log, y ∈ g.2)
    (hi : Rotating b ks vol reqs g) (hpub : Publishes b ks vol t n g v)
    (h : x = .ok ⟨200, .empty⟩ ∧ w' = v ∨
      Unsuccessful x ∧ (w' = g.1 ∨ w' = v ∧ TokenAccepted x)) :
    (∀ t', t' ≠ t → Tolerable b ks vol t' g (logNext b ks vol g w')) ∧
      Rotating b ks vol reqs (logNext b ks vol g w') ∧
      Replaced b ks vol log x (logNext b ks vol g w') ∧
      (again x = true → Tolerable b ks vol t g (logNext b ks vol g w')) := by
  obtain ⟨rfl, rfl⟩ | ⟨hfail, rfl | ⟨rfl, htoken⟩⟩ := h
  · refine ⟨fun t' ht => hpub.tolerable ht, hpub.rotating hi,
      fun _ _ _ => hpub.displaced hlog, fun ha => ?_⟩
    rw [hagain] at ha
    · cases ha
    · intro resp hresp
      obtain rfl := Except.ok.inj hresp
      exact ⟨by simp, by simp⟩
  · obtain ⟨htol, hi'⟩ := unchanged hi rfl
    exact ⟨fun t' _ => htol t', hi', .of_unsuccessful hfail, fun _ => htol t⟩
  · refine ⟨fun t' ht => hpub.tolerable ht, hpub.rotating hi, .of_unsuccessful hfail, fun ha => ?_⟩
    rw [hagain x htoken] at ha
    cases ha

theorem Tolerable.replaced (h : Tolerable b ks vol t g g') (hx : Replaced b ks vol log x g) :
    Replaced b ks vol log x g' :=
  fun resp hresp hs => h.displaced (hx resp hresp hs)

theorem secretWrite_rotates (hks : ks.Stores client path) (hlog : ∀ y ∈ log, y ∈ g.2)
    (ha : Added vol t n g) :
    Rotates b ks vol reqs t log (client.write (path vol.inst vol.spec) (.minted t n) false) g := by
  apply Meets.returns (P := Replaced b ks vol log)
  · apply Meets.attempts
    · exact fun _ _ _ hr hx => Tolerable.replaced hr hx
    · intro g₁ o hr hi _
      apply attempt_rotates (v := g₁.1.putSecret _ _) _ (fun y hy => hr.grows y (hlog y hy)) hi
        (publishes_secret hks (Tolerable.added hr ha)) (step_secret_write t _ _ o g₁.1)
      intro x hx
      rw [Bool.eq_false_iff]
      intro hrejected
      obtain ⟨resp, hresp, hin⟩ := client.rejected x hrejected
      simp [hx resp hresp] at hin
  · intro x g₁ _ hx
    cases x with
    | error e => exact rotates_fail
    | ok resp =>
      refine Meets.ite (fun hs g₂ hr _ => ?_) fun _ => rotates_fail
      exact Tolerable.displaced hr (hx resp rfl (client.accepts.2 hs))

theorem drawn_next (hi : Rotating b ks vol reqs g) (hr : Tolerable b ks vol t g g')
    (hseq : g.1.seq < g'.1.seq) : Drawn t g.1.seq g' := by
  refine ⟨hseq, fun y hy hmint => ?_⟩
  obtain hy' | ⟨hy', _⟩ := hr.foreign y hy
  · exact Nat.lt_irrefl _ ((hi.old y hy' t g.1.seq).2 hmint)
  · exact hy' _ hmint

variable {d : Device} {old : Text} {log : List (Text × Option Text)}

theorem secretsMetadata_rotates (hd : Maps g.1 d vol) (hlog : ∀ y ∈ log, y ∈ g.2) :
    Rotates b .secretsMetadata vol reqs t log
      (SecretsMetadata.rotateKey b.encKeyDir vol.inst vol.spec (luksAddKey d old)) g := by
  have hM := rotationMachine_answers b .secretsMetadata vol
  have hq := rotation_quietReads b .secretsMetadata vol reqs t
  apply readMasterKey_meets hM hq
  · intro g₁ kek hr₁ _ hkek
    apply randomText_meets hM hq
    · intro g₂ g₃ hr₂ hi₂ hr₃ _ hseq
      have hr := (Tolerable.trans hr₁ hr₂).trans hr₃
      apply (luksAddKey_adds (hd.of_mapped hr.node.mapped) (drawn_next hi₂ hr₃ hseq)).andThen
      · intro _ g₄ _ ⟨hr₄, hadded⟩
        apply imageMetaSet_rotates fun y hy => hr₄.grows y (hr.grows y (hlog y hy))
        intro g₅ hr₅ hi₅
        apply publishes_setMeta (by simp) (fun _ => rfl) hi₅ (hr₅.added hadded)
        · have hnode := ((Tolerable.trans hr₂ hr₃).trans hr₄).trans hr₅
          have hkek₅ : masterKey b.encKeyDir vol.inst g₅.1 = some kek := by
            rwa [masterKey, hnode.node.master]
          simp [SecretsMetadata.wrapDEK, decode, hkek₅]
        · intro a m h
          cases h
        · intro e he
          cases he
      · exact fun _ _ _ _ => trivial
    · exact fun _ _ _ _ => rotates_fail
  · exact fun _ _ _ _ => rotates_fail

theorem awsKMS_rotates {key : String} (hd : Maps g.1 d vol) (hlog : ∀ y ∈ log, y ∈ g.2) :
    Rotates b (.awsKMS key) vol reqs t log
      (AwsKMS.rotateKey key vol.spec (luksAddKey d old)) g := by
  apply generateDataKey_meets (rotationMachine_answers b (.awsKMS key) vol)
    (rotation_quietReads b _ vol reqs t)
  · intro g₁ g₂ hr₁ hi₁ hr₂ _ hseq
    have hr := Tolerable.trans hr₁ hr₂
    apply (luksAddKey_adds (hd.of_mapped hr.node.mapped) (drawn_next hi₁ hr₂ hseq)).andThen
    · intro _ g₃ _ ⟨hr₃, hadded⟩
      apply imageMetaSet_rotates fun y hy => hr₃.grows y (hr.grows y (hlog y hy))
      intro g₄ hr₄ hi₄
      apply publishes_setMeta (by simp) (fun _ => rfl) hi₄ (hr₄.added hadded)
      · simp [decode]
      · intro a m h
        cases h
      · intro e he
        cases he
    · exact fun _ _ _ _ => trivial
  · exact fun _ _ _ _ => rotates_fail

theorem secret_rotates (hks : ks.Stores client path) (hd : Maps g.1 d vol)
    (hlog : ∀ y ∈ log, y ∈ g.2) : Rotates b ks vol reqs t log
      (client.rotateKey (path vol.inst vol.spec) (luksAddKey d old)) g := by
  apply randomText_meets (rotationMachine_answers b ks vol) (rotation_quietReads b _ vol reqs t)
  · intro g₁ g₂ hr₁ hi₁ hr₂ _ hseq
    have hr := Tolerable.trans hr₁ hr₂
    apply (luksAddKey_adds (hd.of_mapped hr.node.mapped) (drawn_next hi₁ hr₂ hseq)).andThen
    · intro _ g₃ _ ⟨hr₃, hadded⟩
      exact secretWrite_rotates hks (fun y hy => hr₃.grows y (hr.grows y (hlog y hy))) hadded
    · exact fun _ _ _ _ => trivial
  · exact fun _ _ _ _ => rotates_fail

section Objects

variable {e : String} {u : Text} {p : Option Text} {m k : ℕ}

theorem shown_setKmip (hu : slot (.kmip e) vol.inst vol.spec w ≠ u) :
    shown b (.kmip e) vol { w.setKmip e u p with seq := k } = shown b (.kmip e) vol w := by
  have hslot : slot (.kmip e) vol.inst vol.spec { w.setKmip e u p with seq := k } =
      slot (.kmip e) vol.inst vol.spec w := rfl
  unfold shown stored
  rw [hslot]
  congr 1
  apply decode_congr
  · rfl
  · exact fun e' _ => setKmip_kmip_of_ne hu

theorem harmless_object (hi : Rotating b (.kmip e) vol reqs g)
    (hu : ∀ y ∈ g.2, y.1 ≠ .uid t m) (hk : g.1.seq ≤ k) :
    Harmless b (.kmip e) vol t g { g.1.setKmip e (.uid t m) p with seq := k } where
  node := ⟨rfl, rfl, rfl, rfl, rfl⟩
  provider := rfl
  seq := hk
  same := shown_setKmip (hu _ hi.current)
  header _ hp := .inl hp
  object e' u := by
    by_cases h : u = .uid t m
    · exact .inr (.inr ⟨m, h, hu⟩)
    · exact .inl (setKmip_kmip_of_ne h)

theorem harmless_destroy (hu : ∃ y ∈ g.2, y.1 = u)
    (hslot : slot (.kmip e) vol.inst vol.spec g.1 ≠ u) (t : ℕ) :
    Harmless b (.kmip e) vol t g (g.1.setKmip e u none) where
  node := ⟨rfl, rfl, rfl, rfl, rfl⟩
  provider := rfl
  seq := Nat.le_refl _
  same := shown_setKmip hslot
  header _ hp := .inl hp
  object e' u' := by
    by_cases h : u' = u
    · subst h
      by_cases he : e' = e
      · subst he
        exact .inr (.inl ⟨hu, setKmip_kmip_self⟩)
      · exact .inl (by simp [World.setKmip, Function.update_of_ne he])
    · exact .inl (setKmip_kmip_of_ne h)

/-- An object of the caller that holds a drawn key and that nobody has seen. -/
def Registered (e : String) (t n m : ℕ) (g : Logged) : Prop :=
  m < g.1.seq ∧ (∀ y ∈ g.2, y.1 ≠ .uid t m) ∧ g.1.kmip e (.uid t m) = some (.minted t n)

theorem Tolerable.registered (h : Tolerable b ks vol t g g') (hr : Registered e t n m g) :
    Registered e t n m g' := by
  obtain ⟨hm, hu, hobject⟩ := hr
  refine ⟨Nat.lt_of_lt_of_le hm h.seq, fun y hy => ?_, ?_⟩
  · obtain hy' | ⟨_, hy'⟩ := h.foreign y hy
    · exact hu y hy'
    · exact hy' m
  · rw [h.object e m hm hu, hobject]

theorem kmipDestroy_meets {P : Logged → Prop}
    (hstable : ∀ g₁ g₂, Tolerable b (.kmip e) vol t g₁ g₂ → P g₁ → P g₂)
    (h : ∀ g₁ w', Tolerable b (.kmip e) vol t g g₁ → Rotating b (.kmip e) vol reqs g₁ →
      w' = g₁.1 ∨ w' = g₁.1.setKmip e u none →
      Harmless b (.kmip e) vol t g₁ w' ∧ P (logNext b (.kmip e) vol g₁ w')) :
    (Kmip.destroy e u).Meets (rotationMachine b (.kmip e) vol) t
      (rotationContract b (.kmip e) vol reqs t) (fun _ => P) g := by
  apply Meets.returns (P := fun _ => P)
  · apply Meets.ask
    · exact fun _ g₁ g₂ hr hP => hstable g₁ g₂ hr hP
    · intro g₁ o hr hi _
      obtain ⟨hstep, hP⟩ := h g₁ _ hr hi (step_kmipDestroy t e u o g₁.1)
      exact ⟨fun t' ht => hstep.tolerable hi ht, hstep.rotating hi, hP⟩
  · intro x g₁ _ hP
    split
    · exact fun g₂ hr _ => hstable g₁ g₂ hr hP
    · exact fun g₂ hr _ => hstable g₁ g₂ hr hP
    · exact fun g₂ hr _ => hstable g₁ g₂ hr hP

theorem kmipDestroy_own (hreg : Registered e t n m g) :
    (Kmip.destroy e (.uid t m)).Meets (rotationMachine b (.kmip e) vol) t
      (rotationContract b (.kmip e) vol reqs t) (fun _ _ => True) g := by
  apply kmipDestroy_meets (fun _ _ _ _ => trivial)
  intro g₁ w' hr hi hw
  obtain rfl | rfl := hw
  · exact ⟨harmless_seq (Nat.le_refl _) t, trivial⟩
  · exact ⟨harmless_object hi (hr.registered hreg).2.1 (Nat.le_refl _), trivial⟩

theorem kmipDestroy_displaced (hu : ∃ y ∈ log, y.1 = u) (hlog : Displaced b (.kmip e) vol log g) :
    (Kmip.destroy e u).Meets (rotationMachine b (.kmip e) vol) t
      (rotationContract b (.kmip e) vol reqs t) (fun _ => Displaced b (.kmip e) vol log) g := by
  apply kmipDestroy_meets fun _ _ hr hP => hr.displaced hP
  intro g₁ w' hr hi hw
  have hlog₁ := hr.displaced hlog
  have hstep : ∀ t', Harmless b (.kmip e) vol t' g₁ w' := by
    obtain rfl | rfl := hw
    · exact harmless_seq (Nat.le_refl _)
    · obtain ⟨y, hy, hyu⟩ := hu
      obtain ⟨hmem, _, hne⟩ := hlog₁ y hy
      apply harmless_destroy ⟨y, hmem, hyu⟩
      exact fun h => hne e rfl (hyu.trans h.symm)
  exact ⟨hstep t, (tolerable_of_harmless hstep hi t).displaced hlog₁⟩

theorem kmipRegister_meets {f : Text → Prog Unit} (hn : Drawn t n g)
    (hok : ∀ g₁ m, (∀ y ∈ g.2, y ∈ g₁.2) → SameNode g.1 g₁.1 → Drawn t n g₁ →
      Registered e t n m g₁ → Rotates b (.kmip e) vol reqs t log (f (.uid t m)) g₁) :
    Rotates b (.kmip e) vol reqs t log ((Kmip.register e (.minted t n)).bind f) g := by
  apply Meets.answered
  intro g₁ hr hi o _
  have hfresh : ∀ y ∈ g₁.2, y.1 ≠ .uid t g₁.1.seq :=
    fun y hy h => Nat.lt_irrefl _ ((hi.old y hy t _).1 h)
  have hstep : Harmless b (.kmip e) vol t g₁ (g₁.1.registered t e (.minted t n)) :=
    harmless_object hi hfresh (Nat.le_succ _)
  obtain ⟨hreply, hstate⟩ | ⟨⟨err, hreply⟩, hstate | hstate⟩ :=
    step_kmipRegister t e (.minted t n) o g₁.1
  · refine ⟨_, _, hreply, congrArg (logNext b (.kmip e) vol g₁) hstate,
      fun t' ht => hstep.tolerable hi ht, hstep.rotating hi, ?_⟩
    apply hok _ g₁.1.seq (fun y hy => List.mem_cons_of_mem _ (hr.grows y hy))
      (hr.node.trans hstep.node)
    · obtain ⟨hseq, hun⟩ := Tolerable.drawn hr hn
      exact ⟨Nat.lt_succ_of_lt hseq, fun y hy => hun y (hstep.mem_log hi hy)⟩
    · exact ⟨Nat.lt_succ_self _, fun y hy => hfresh y (hstep.mem_log hi hy), setKmip_kmip_self⟩
  · obtain ⟨htol, hi'⟩ := unchanged hi hstate
    exact ⟨_, _, hreply, rfl, fun t' _ => htol t', hi', rotates_fail⟩
  · exact ⟨_, _, hreply, congrArg (logNext b (.kmip e) vol g₁) hstate,
      fun t' ht => hstep.tolerable hi ht, hstep.rotating hi, rotates_fail⟩

theorem kmip_rotates (hd : Maps g.1 d vol) (hlog : ∀ y ∈ log, y ∈ g.2) :
    Rotates b (.kmip e) vol reqs t log (Kmip.rotateKey e vol.spec (luksAddKey d old)) g := by
  have hM := rotationMachine_answers b (.kmip e) vol
  have hq := rotation_quietReads b (.kmip e) vol reqs t
  apply imageMetaGetChecked_meets hM hq
  · intro g₁ hr₁ hi₁
    apply randomText_meets hM hq
    · intro g₂ g₃ hr₂ hi₂ hr₃ _ hseq
      have hr := (Tolerable.trans hr₁ hr₂).trans hr₃
      apply kmipRegister_meets (drawn_next hi₂ hr₃ hseq)
      intro g₄ m hgrows hnode hdrawn hreg
      apply (luksAddKey_adds (hd.of_mapped (hr.node.trans hnode).mapped) hdrawn).tryThen
      · intro _ g₅ _ ⟨hr₅, hadded⟩
        have hgrows₅ : ∀ y ∈ g₁.2, y ∈ g₅.2 := fun y hy =>
          hr₅.grows y (hgrows y (hr₃.grows y (hr₂.grows y hy)))
        have hpersist : Rotates b (.kmip e) vol reqs t g₁.2
            (imageMetaSet vol.spec .kmipUID (.uid t m)) g₅ := by
          apply imageMetaSet_rotates hgrows₅
          intro g₆ hr₆ hi₆
          obtain ⟨hm, hu, hobject⟩ := (hr₅.trans hr₆).registered hreg
          apply publishes_setMeta (by simp) (fun _ => rfl) hi₆ (hr₆.added hadded)
          · simp [decode, hobject]
          · intro a m' h
            injection h with ha hm'
            subst ha hm'
            exact ⟨rfl, hm, hu⟩
          · exact fun _ _ => ⟨m, rfl⟩
        apply hpersist.andThen
        · intro _ g₆ _ hdisplaced
          have hsub : ∀ g', Displaced b (.kmip e) vol g₁.2 g' → Displaced b (.kmip e) vol log g' :=
            fun g' h y hy => h y (hr₁.grows y (hlog y hy))
          refine Meets.ite (fun _ => ?_) fun _ g₇ hr₇ _ =>
            hsub g₇ (Tolerable.displaced hr₇ hdisplaced)
          apply (kmipDestroy_displaced ⟨_, hi₁.current, rfl⟩ hdisplaced).tryAnyway
          exact fun _ g₇ _ h g₈ hr₈ _ => hsub g₈ (Tolerable.displaced hr₈ h)
        · exact fun _ _ _ _ => trivial
      · intro err g₅ _ hr₅
        apply (kmipDestroy_own (hr₅.registered hreg)).tryAnyway
        exact fun _ _ _ _ => rotates_fail
    · exact fun _ _ _ _ => rotates_fail
  · exact fun _ _ _ _ => rotates_fail

end Objects

end Calls

end BardCsi.Ceph
