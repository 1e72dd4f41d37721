import BardCsi.Ceph.Frame
import BardCsi.Ceph.Providers
import BardCsi.Effect.Pool

/-!
Rules for the functions that only read. They are stated for any machine that answers as
the world does and for any contract under which reading is quiet: a caller knows that the
value it got was the value at some moment, and whatever interference keeps.
-/
namespace BardCsi.Ceph

open Effect Program

def metaAt (w : World) (i : ImageRef) (q : QKey) : Text :=
  match w.images i with
  | some im => im.info q
  | none => .empty

/-- The metadata value of a volume or snapshot. -/
def metaOf (w : World) (s : Spec) (k : MetaKey) : Text := metaAt w s.image ⟨k, s.snap⟩

/-- The master key of an instance, if there is a usable one. -/
def masterKey (keyDir inst : String) (w : World) : Option String :=
  if keyDir = "" then none
  else (w.master inst).bind fun data =>
    if Strings.trimSpace data = "" then none else some (Strings.trimSpace data)

section Replies

variable (who : ℕ) (o : Outcome) (w : World)

theorem step_metaGet_reply (i : ImageRef) (q : QKey) :
    (step who (.imageMetaGet i q) o w).1 = .ok (metaAt w i q) ∨
      (step who (.imageMetaGet i q) o w).1 = .error .notFound ∧ metaAt w i q = .empty ∨
      ∃ e, (step who (.imageMetaGet i q) o w).1 = .error (.other e) := by
  obtain h | ⟨f, _, hf, _⟩ := step_cases who (.imageMetaGet i q) o w
  · rw [h]
    change (performMetaGet i q w).1 = _ ∨ (performMetaGet i q w).1 = _ ∧ _ ∨
      ∃ e, (performMetaGet i q w).1 = _
    unfold performMetaGet onImage metaAt
    cases w.images i with
    | none => exact .inr (.inl ⟨rfl, rfl⟩)
    | some im =>
      dsimp only
      split_ifs with he
      · exact .inr (.inl ⟨rfl, he⟩)
      · exact .inl rfl
  · have hf' : some (Except.error f.run) = some _ := hf
    rw [← Option.some.inj hf']
    cases f with
    | error e => exact .inr (.inr ⟨_, rfl⟩)
    | status s => exact .inr (.inr ⟨_, rfl⟩)

theorem step_master_reply (dir inst : String) :
    (∃ m, (step who (.readMasterKey dir inst) o w).1 = .ok m ∧ w.master inst = some m) ∨
      ∃ e, (step who (.readMasterKey dir inst) o w).1 = .error e := by
  obtain h | ⟨f, _, hf, _⟩ := step_cases who (.readMasterKey dir inst) o w
  · rw [h]
    change (∃ m, (orNotFound (w.master inst) w).1 = .ok m ∧ _) ∨
      ∃ e, (orNotFound (w.master inst) w).1 = .error e
    cases w.master inst with
    | none => exact .inr ⟨_, rfl⟩
    | some m => exact .inl ⟨m, rfl, rfl⟩
  · exact .inr ⟨_, (Option.some.inj hf).symm⟩

theorem step_rand_reply :
    ((step who .rand o w).1 = .ok (.minted who w.seq) ∧
      (step who .rand o w).2 = { w with seq := w.seq + 1 }) ∨
      ∃ e, (step who .rand o w).1 = .error e := by
  obtain h | ⟨f, _, hf, _⟩ := step_cases who .rand o w
  · rw [h]
    exact .inl ⟨rfl, rfl⟩
  · exact .inr ⟨_, (Option.some.inj hf).symm⟩

theorem step_generateDataKey_reply (key : String) :
    ((step who (.awsGenerateDataKey key) o w).1 =
        .ok (.minted who w.seq, .blob key (.minted who w.seq)) ∧
      (step who (.awsGenerateDataKey key) o w).2 = { w with seq := w.seq + 1 }) ∨
      ∃ e, (step who (.awsGenerateDataKey key) o w).1 = .error e := by
  obtain h | ⟨f, _, hf, _⟩ := step_cases who (.awsGenerateDataKey key) o w
  · rw [h]
    exact .inl ⟨rfl, rfl⟩
  · exact .inr ⟨_, (Option.some.inj hf).symm⟩

theorem httpFailed_status {f : Fault} {resp : HttpResponse} (h : httpFailed f = .ok resp) :
    resp.status ∉ [200, 204, 404] := by
  cases f with
  | error t => cases h
  | status s =>
    obtain rfl := Except.ok.inj h
    exact s.failure

/-- A read answers 200 with what is stored and 404 when nothing is stored. -/
theorem step_secret_get_reply (s : Secret) :
    (∃ p, (step who (.secret s .get) o w).1 = .ok ⟨200, p⟩ ∧ w.secrets s = some p) ∨
      (∃ p, (step who (.secret s .get) o w).1 = .ok ⟨404, p⟩ ∧ w.secrets s = none) ∨
      (∃ resp, (step who (.secret s .get) o w).1 = .ok resp ∧
        resp.status ∉ [200, 204, 404]) ∨
      ∃ e, (step who (.secret s .get) o w).1 = .error e := by
  obtain h | ⟨f, _, hf, _⟩ := step_cases who (.secret s .get) o w
  · rw [h]
    change (∃ p, (performSecret s .get w).1 = _ ∧ _) ∨
      (∃ p, (performSecret s .get w).1 = _ ∧ _) ∨ (∃ resp, (performSecret s .get w).1 = _ ∧ _) ∨
      ∃ e, (performSecret s .get w).1 = _
    simp only [performSecret]
    cases w.secrets s with
    | some p => exact .inl ⟨p, rfl, rfl⟩
    | none => exact .inr (.inl ⟨_, rfl, rfl⟩)
  · have hf' : httpFailed f = (step who (.secret s .get) o w).1 := Option.some.inj hf
    cases f with
    | error e => exact .inr (.inr (.inr ⟨_, hf'.symm⟩))
    | status st => exact .inr (.inr (.inl ⟨_, hf'.symm, st.failure⟩))

theorem step_kmipGet_reply (e : String) (u : Text) :
    (∃ p, (step who (.kmipGet e u) o w).1 = .ok p ∧ w.kmip e u = some p) ∨
      ∃ err, (step who (.kmipGet e u) o w).1 = .error err := by
  obtain h | ⟨f, _, hf, _⟩ := step_cases who (.kmipGet e u) o w
  · rw [h]
    change (∃ p, (orNotFound (w.kmip e u) w).1 = .ok p ∧ _) ∨
      ∃ err, (orNotFound (w.kmip e u) w).1 = .error err
    cases w.kmip e u with
    | none => exact .inr ⟨_, rfl⟩
    | some p => exact .inl ⟨p, rfl, rfl⟩
  · exact .inr ⟨_, (Option.some.inj hf).symm⟩

theorem step_decrypt_reply (key : String) (b : Text) :
    (∃ dek, (step who (.awsDecrypt key b) o w).1 = .ok dek ∧ b = .blob key dek) ∨
      ∃ err, (step who (.awsDecrypt key b) o w).1 = .error err := by
  obtain h | ⟨f, _, hf, _⟩ := step_cases who (.awsDecrypt key b) o w
  · rw [h]
    change (∃ dek, (performDecrypt key b w).1 = .ok dek ∧ _) ∨
      ∃ err, (performDecrypt key b w).1 = .error err
    unfold performDecrypt
    split
    · split_ifs with hk
      · exact .inl ⟨_, rfl, by rw [hk]⟩
      · exact .inr ⟨_, rfl⟩
    · exact .inr ⟨_, rfl⟩
  · exact .inr ⟨_, (Option.some.inj hf).symm⟩

end Replies

/-- A machine over a richer state that treats every request as the world does. -/
structure Answers {σ : Type} (M : Machine Cmd Cmd.Reply ℕ Outcome σ) (π : σ → World) : Prop where
  reply : ∀ who c o a, (M.step who c o a).1 = (step who c o (π a)).1
  state : ∀ who c o a, π (M.step who c o a).2 = (step who c o (π a)).2

theorem machine_answers : Answers machine id := ⟨fun _ _ _ _ => rfl, fun _ _ _ _ => rfl⟩

theorem logged_answers {η : Type} (f : World → η) : Answers (machine.logged f) Prod.fst :=
  ⟨fun _ _ _ _ => rfl, fun _ _ _ _ => rfl⟩

/-- Reading is tolerated by everybody, and changes nothing that the reader relies on. -/
def QuietReads {σ : Type} (M : Machine Cmd Cmd.Reply ℕ Outcome σ) (t : ℕ)
    (K : Contract Cmd Outcome σ) : Prop :=
  ∀ c : Cmd, c.reads = true → Quiet M t K c

section Rules

variable {σ α : Type} {M : Machine Cmd Cmd.Reply ℕ Outcome σ} {π : σ → World} {t : ℕ}
variable {K : Contract Cmd Outcome σ} {Q : Except Err α → σ → Prop} {a : σ}
variable (hM : Answers M π) (hq : QuietReads M t K) {f : Text → Prog α}

/-- A failure may follow from here whatever happens. -/
abbrev MayFail (M : Machine Cmd Cmd.Reply ℕ Outcome σ) (t : ℕ) (K : Contract Cmd Outcome σ)
    (Q : Except Err α → σ → Prop) (a : σ) : Prop :=
  ∀ b e, K.rely a b → K.inv b → (Program.fail e : Prog α).Meets M t K Q b

include hM hq

theorem imageMetaGetChecked_meets {s : Spec} {k : MetaKey}
    (hok : ∀ b, K.rely a b → K.inv b → (f (metaOf (π b) s k)).Meets M t K Q b)
    (herr : MayFail M t K Q a) :
    ((imageMetaGetChecked s k).bind f).Meets M t K Q a := by
  apply Meets.quiet (hq _ rfl)
  intro b hr hi o _
  rw [hM.reply]
  obtain h | ⟨h, hempty⟩ | ⟨e, h⟩ := step_metaGet_reply t o (π b) (metaAddr s k).1 (metaAddr s k).2
  · rw [h]
    exact hok b hr hi
  · rw [h]
    have := hok b hr hi
    rwa [show metaOf (π b) s k = .empty from hempty] at this
  · rw [h]
    exact herr b _ hr hi

theorem imageMetaGet_meets {s : Spec} {k : MetaKey}
    (hok : ∀ b v, K.rely a b → K.inv b → v = metaOf (π b) s k ∨ v = .empty →
      (f v).Meets M t K Q b) :
    ((imageMetaGet s k).bind f).Meets M t K Q a := by
  apply Meets.quiet (hq _ rfl)
  intro b hr hi o _
  rw [hM.reply]
  obtain h | ⟨h, hempty⟩ | ⟨e, h⟩ := step_metaGet_reply t o (π b) (metaAddr s k).1 (metaAddr s k).2
  · rw [h]
    exact hok b _ hr hi (.inl rfl)
  · rw [h]
    exact hok b _ hr hi (.inr rfl)
  · rw [h]
    exact hok b _ hr hi (.inr rfl)

theorem readMasterKey_meets {keyDir inst : String} {f : String → Prog α}
    (hok : ∀ b m, K.rely a b → K.inv b → masterKey keyDir inst (π b) = some m →
      (f m).Meets M t K Q b) (herr : MayFail M t K Q a) :
    ((readMasterKey keyDir inst).bind f).Meets M t K Q a := by
  unfold readMasterKey
  by_cases hdir : keyDir = ""
  · simp only [if_pos hdir, fail, Program.bind_fail]
    exact Meets.of_rely fun b hr hi => herr b _ hr hi
  · rw [if_neg hdir]
    apply Meets.quiet (hq _ rfl)
    intro b hr hi o _
    rw [hM.reply]
    obtain ⟨m, h, hm⟩ | ⟨e, h⟩ := step_master_reply t o (π b) keyDir inst
    · rw [h]
      dsimp only [orFail, Program.bind_eq, Program.bind_pure]
      by_cases hmaster : Strings.trimSpace m = ""
      · rw [if_pos hmaster]
        exact herr b _ hr hi
      · rw [if_neg hmaster]
        have hkey : masterKey keyDir inst (π b) = some (Strings.trimSpace m) := by
          simp [masterKey, hdir, hm, hmaster]
        exact hok b (Strings.trimSpace m) hr hi hkey
    · rw [h]
      exact herr b _ hr hi

/-- The state after the request is the one in which the caller goes on. -/
theorem drawn_meets {c : Cmd} (hc : c.reads = true) {k : c.Reply → Prog α}
    (h : ∀ b b' o, K.rely a b → K.inv b → K.rely b b' → K.inv b' →
      π b' = (step t c o (π b)).2 → (k (step t c o (π b)).1).Meets M t K Q b') :
    (Program.request c k).Meets M t K Q a := by
  apply Meets.answered
  intro b hr hi o ho
  obtain ⟨hg, hi', hr'⟩ := hq c hc b o hi ho
  exact ⟨_, _, hM.reply t c o b, rfl, hg, hi', h b _ o hr hi hr' hi' (hM.state t c o b)⟩

/-- The drawn key is the next one before the request, and an old one after it. -/
theorem randomText_meets {msg : String}
    (hok : ∀ b b', K.rely a b → K.inv b → K.rely b b' → K.inv b' → (π b).seq < (π b').seq →
      (f (.minted t (π b).seq)).Meets M t K Q b') (herr : MayFail M t K Q a) :
    ((randomText msg).bind f).Meets M t K Q a := by
  refine drawn_meets hM hq (c := .rand) rfl fun b b' o hr hi hr' hi' hb' => ?_
  obtain ⟨h, hstate⟩ | ⟨e, h⟩ := step_rand_reply t o (π b)
  · rw [h]
    exact hok b b' hr hi hr' hi' (by rw [hb', hstate]; exact Nat.lt_succ_self _)
  · rw [h]
    exact herr b' _ (K.rely_trans hr hr') hi'

theorem generateDataKey_meets {key : String} {f : Text × Text → Prog α}
    (hok : ∀ b b', K.rely a b → K.inv b → K.rely b b' → K.inv b' → (π b).seq < (π b').seq →
      (f (.minted t (π b).seq, .blob key (.minted t (π b).seq))).Meets M t K Q b')
    (herr : MayFail M t K Q a) :
    ((AwsKMS.generateDataKey key).bind f).Meets M t K Q a := by
  refine drawn_meets hM hq (c := .awsGenerateDataKey key) rfl fun b b' o hr hi hr' hi' hb' => ?_
  obtain ⟨h, hstate⟩ | ⟨e, h⟩ := step_generateDataKey_reply t o (π b) key
  · rw [h]
    exact hok b b' hr hi hr' hi' (by rw [hb', hstate]; exact Nat.lt_succ_self _)
  · rw [h]
    exact herr b' _ (K.rely_trans hr hr') hi'

theorem decrypt_meets {key : String} {blob : Text}
    (hok : ∀ b dek, K.rely a b → K.inv b → blob = .blob key dek → (f dek).Meets M t K Q b)
    (herr : MayFail M t K Q a) :
    ((AwsKMS.decrypt key blob).bind f).Meets M t K Q a := by
  apply Meets.quiet (hq _ rfl)
  intro b hr hi o _
  rw [hM.reply]
  obtain ⟨dek, h, hblob⟩ | ⟨e, h⟩ := step_decrypt_reply t o (π b) key blob
  · rw [h]
    exact hok b dek hr hi hblob
  · rw [h]
    exact herr b _ hr hi

theorem kmipGet_meets {endpoint : String} {uid : Text}
    (hok : ∀ b p, K.rely a b → K.inv b → (π b).kmip endpoint uid = some p →
      (f p).Meets M t K Q b) (herr : MayFail M t K Q a) :
    ((Kmip.get endpoint uid).bind f).Meets M t K Q a := by
  apply Meets.quiet (hq _ rfl)
  intro b hr hi o _
  rw [hM.reply]
  obtain ⟨p, h, hp⟩ | ⟨e, h⟩ := step_kmipGet_reply t o (π b) endpoint uid
  · rw [h]
    exact hok b p hr hi hp
  · rw [h]
    exact herr b _ hr hi

theorem secretRead_meets {c : SecretClient} {s : Secret} {f : Option Text → Prog α}
    (hsome : ∀ b p, K.rely a b → K.inv b → (π b).secrets s = some p → p ≠ .empty →
      (f (some p)).Meets M t K Q b)
    (hnone : ∀ b, K.rely a b → K.inv b → (π b).secrets s = none ∨ (π b).secrets s = some .empty →
      (f none).Meets M t K Q b) (herr : MayFail M t K Q a) :
    ((c.read s).bind f).Meets M t K Q a := by
  unfold SecretClient.read
  rw [Program.bind_eq, Program.bind_assoc]
  apply Meets.quiet_retryOnce (hq _ rfl)
  intro b hr hi o
  rw [hM.reply]
  obtain ⟨p, h, hv⟩ | ⟨p, h, hv⟩ | ⟨resp, h, hn⟩ | ⟨e, h⟩ :=
    step_secret_get_reply t o (π b) s
  · rw [h]
    by_cases hp : p = .empty
    · simpa [hp] using hnone b hr hi (.inr (by rw [hv, hp]))
    · simpa [hp] using hsome b p hr hi hv hp
  · rw [h]
    exact hnone b hr hi (.inl hv)
  · rw [h]
    simp only [List.mem_cons, List.not_mem_nil, or_false, not_or] at hn
    simpa [hn, fail] using herr b _ hr hi
  · rw [h]
    exact herr b _ hr hi

variable {c : SecretClient} {s : Secret}

/-- What a read finds, and whatever interference keeps of it. -/
theorem secretRead_finds {P : Text → σ → Prop} (hstable : ∀ p a b, K.rely a b → P p a → P p b)
    (hfound : ∀ b p, K.inv b → (π b).secrets s = some p → p ≠ .empty → P p b) :
    (c.read s).Meets M t K (IfOk fun found b => ∀ p, found = some p → P p b) a := by
  rw [← Program.bind_pure_right (c.read s)]
  apply secretRead_meets hM hq
  · intro b p _ hi hp hne b' hr _ p' hp'
    obtain rfl := Option.some.inj hp'
    exact hstable _ _ _ hr (hfound b p hi hp hne)
  · exact fun _ _ _ _ _ _ _ _ hp => by cases hp
  · exact fun _ _ _ _ _ _ _ => trivial

omit hM hq in
theorem secretCommand_meets {m : SecretMethod} {accepted : List ℕ} {what : String}
    {failed : ℕ → Err} {P : σ → Prop} (hstable : ∀ a b, K.rely a b → P a → P b)
    (hstep : ∀ a o, K.inv a → K.assume (.secret s m) o a →
      K.guarantee (.secret s m) a (M.step t (.secret s m) o a).2 ∧
        K.inv (M.step t (.secret s m) o a).2 ∧
        ∀ resp, (M.step t (.secret s m) o a).1 = .ok resp → resp.status ∈ accepted →
          P (M.step t (.secret s m) o a).2) :
    (c.command s m accepted what failed).Meets M t K (IfOk fun _ => P) a := by
  apply Meets.returns (P := fun x b => ∀ resp, x = .ok resp → resp.status ∈ accepted → P b)
  · exact Meets.retryOnce (fun x a b hr hP resp hx hs => hstable a b hr (hP resp hx hs)) hstep
  · intro x b _ hP
    cases x with
    | error e => exact fun _ _ _ => trivial
    | ok resp =>
      refine Meets.ite (fun hs b' hr _ => ?_) fun _ _ _ _ => trivial
      exact hstable _ _ hr (hP resp rfl hs)

end Rules

end BardCsi.Ceph
