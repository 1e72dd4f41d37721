import BardCsi.Ceph.LockOut
import BardCsi.Ceph.Uses
import BardCsi.Effect.Calls
import BardCsi.Effect.Monitor

/-!
Whether rotations retire old keys. Every keyslot that a call adds is counted, and every one that
it removes. A call that succeeds has removed as many as it added, but one that stops in between
leaves a keyslot that no later call knows of.
-/
namespace BardCsi.Ceph

open Effect Program

/-- What a request adds to the number of keyslots when it takes effect. -/
def Cmd.slotsAdded : Cmd → ℤ
  | .luksAddKey _ _ _ => 1
  | .luksRemoveKey _ _ => -1
  | _ => 0

def countSlots (c : Cmd) (o : Outcome) (n : ℤ) : ℤ :=
  if o.applies c then n + c.slotsAdded else n

/-- The keyslots that a call added, less those that it removed. -/
def slotsLeft (tr : Trace) : ℤ := tr.foldl (fun n e => countSlots e.cmd e.outcome n) 0

/-- The volume's header has one keyslot, and it is the stored passphrase. -/
def Exact (b : Backend) (ks : KeyService) (vol : ImageRef) (w : World) : Prop :=
  ∃ p, stored b ks vol.inst vol.spec w = some p ∧ header w vol = [p]

/-- Rotations one after the other, each with the outcomes of its requests. -/
def rotations (b : Backend) (reqs : ℕ → RotateEncryptionKeyRequest) :
    List (ℕ × List Outcome) → World → List (Machine.Stop Cmd Outcome World Err Unit)
  | [], _ => []
  | (t, os) :: rest, w =>
      let x := machine.exec t (rotateEncryptionKey b (reqs t)) os w
      x :: rotations b reqs rest x.2.1

/-- Requests that leave the headers and what is mapped. -/
def Cmd.keepsHeaders : Cmd → Bool
  | .imageMetaSet _ _ _ | .secret _ _ | .kmipRegister _ _ | .kmipDestroy _ _ => true
  | c => c.reads

section Steps

variable {w : World} {d : Device} {i : ImageRef} {c : Cmd} {o : Outcome}

theorem offNode_of_keepsHeaders (h : c.keepsHeaders = true) : c.offNode = true := by
  cases c with
  | fs c => cases c <;> first | exact h | cases h
  | _ => first | exact h | rfl

theorem slotsAdded_of_keepsHeaders (h : c.keepsHeaders = true) : c.slotsAdded = 0 := by
  cases c with
  | luksAddKey d old new => cases h
  | luksRemoveKey d p => cases h
  | _ => rfl

theorem header_of_images {w' : World} (h : w'.images = w.images) : header w' i = header w i := by
  rw [header, header, h]

theorem performDestroy_images (e : String) (u : Text) :
    (performDestroy e u w).2.images = w.images := by
  unfold performDestroy
  cases w.kmip e u with
  | none => rfl
  | some p => rfl

theorem perform_keepsHeaders (h : c.keepsHeaders = true) (who pick : ℕ) :
    header (perform who pick c w).2 i = header w i := by
  have hreads (hc : c.reads = true) : header (perform who pick c w).2 i = header w i := by
    apply header_of_images
    obtain hs | hs := perform_reads hc who pick w
    · rw [hs]
    · rw [hs]
  cases c with
  | imageMetaSet j q v =>
    change header (performMetaSet j q v w).2 i = _
    rw [performMetaSet_state]
    exact header_setMeta
  | secret s m =>
    apply header_of_images
    obtain ⟨v, hv⟩ := performSecret_state (w := w) s m
    exact (congrArg World.images hv).trans rfl
  | kmipRegister e p => exact header_of_images rfl
  | kmipDestroy e u => exact header_of_images (performDestroy_images e u)
  | _ => exact hreads h

theorem step_keepsHeaders (h : c.keepsHeaders = true) (who : ℕ) (o : Outcome) :
    header (step who c o w).2 i = header w i := by
  obtain hs | hs := step_state who c o w
  · rw [hs]
  · rw [hs]
    exact perform_keepsHeaders h who o.pick

theorem failed_of_unapplied (who : ℕ) (w : World) (h : o.applies c = false) :
    ∃ f, c.failed f = some (step who c o w).1 := by
  obtain ⟨r, hr⟩ : ∃ r, o.fault.bind c.failed = some r :=
    Option.ne_none_iff_exists'.mp fun hnone => by simp [Outcome.applies, hnone] at h
  obtain ⟨f, _, hf⟩ := Option.bind_eq_some_iff.mp hr
  exact ⟨f, by rw [hf, step, hr]; rfl⟩

theorem step_slots_applied {f : List Text → Except RunError (List Text)} {p : Text}
    {slots : List Text} (hc : (perform who o.pick c w).2 = (withHeader d w f).2) (h : Maps w d i)
    (hp : p ∈ header w i) (hf : f (header w i) = .ok slots) (ho : o.applies c = true) :
    ∃ inner, (w.images i).isSome ∧ (step who c o w).2 = w.setContent i (.luks slots inner) := by
  obtain ⟨inner, hsome, hw⟩ := withHeader_rewrites h hp hf
  exact ⟨inner, hsome, (step_applied ho).trans (hc.trans (congrArg Prod.snd hw))⟩

theorem mapped_setContent {content : Content} : (w.setContent i content).mapped = w.mapped := by
  obtain ⟨images, h⟩ := setContent_rest (w := w) (i := i) (c := content)
  rw [h]

end Steps

section Count

variable {b : Backend} {ks : KeyService} {vol : ImageRef} {t : ℕ} {l : ℕ} {s : World × ℤ}
variable {reqs : ℕ → RotateEncryptionKeyRequest} {d : Device} {old : Text} {α : Type} {n : ℤ}
variable {c : Cmd}

abbrev countMachine : Machine Cmd Cmd.Reply ℕ Outcome (World × ℤ) :=
  machine.monitored fun _ c o _ n => countSlots c o n

/-- A single caller counts the keyslots of a header that had `l` of them. -/
def countContract (vol : ImageRef) (l : ℕ) : Contract Cmd Outcome (World × ℤ) where
  inv s := (header s.1 vol).length = l + s.2 ∧ 0 ≤ s.2
  rely s s' := ∃ n, s.1.seq ≤ n ∧ s' = ({ s.1 with seq := n }, s.2)
  assume _ _ _ := True
  guarantee _ s s' := s'.1.mapped = s.1.mapped
  rely_refl s := ⟨s.1.seq, Nat.le_refl _, rfl⟩
  rely_trans := by
    rintro s₁ s₂ s₃ ⟨n, hn, rfl⟩ ⟨m, hm, rfl⟩
    exact ⟨m, Nat.le_trans hn hm, rfl⟩

/-- The caller has added `n` keyslots, and knows the device and a passphrase of the header. -/
structure Holds (vol : ImageRef) (d : Device) (old : Text) (n : ℤ) (s : World × ℤ) : Prop where
  count : s.2 = n
  maps : Maps s.1 d vol
  opens : old ∈ header s.1 vol

theorem Holds.rely {s' : World × ℤ} (h : Holds vol d old n s) (hr : (countContract vol l).rely s s')
    : Holds vol d old n s' := by
  obtain ⟨m, _, rfl⟩ := hr
  exact ⟨h.count, h.maps.of_mapped rfl, h.opens⟩

theorem count_unapplied {o : Outcome} (h : o.applies c = false) :
    (countMachine.step t c o s).2 = s :=
  Prod.ext (step_unapplied h) (if_neg (by simp [h]))

theorem countSlots_keepsHeaders (h : c.keepsHeaders = true) (o : Outcome) (n : ℤ) :
    countSlots c o n = n := by
  simp [countSlots, slotsAdded_of_keepsHeaders h]

theorem count_keepsHeaders (h : c.keepsHeaders = true) (o : Outcome)
    (hi : (countContract vol l).inv s) :
    (countContract vol l).guarantee c s (countMachine.step t c o s).2 ∧
      (countContract vol l).inv (countMachine.step t c o s).2 := by
  refine ⟨(step_offNode (offNode_of_keepsHeaders h) t o s.1).mapped, ?_⟩
  change (header (step t c o s.1).2 vol).length = l + countSlots c o s.2 ∧ 0 ≤ countSlots c o s.2
  rw [step_keepsHeaders h, countSlots_keepsHeaders h]
  exact hi

theorem Holds.keepsHeaders (hc : c.keepsHeaders = true) (o : Outcome) (h : Holds vol d old n s) :
    Holds vol d old n (countMachine.step t c o s).2 where
  count := (countSlots_keepsHeaders hc o s.2).trans h.count
  maps := h.maps.of_mapped (step_offNode (offNode_of_keepsHeaders hc) t o s.1).mapped
  opens := by
    change old ∈ header (step t c o s.1).2 vol
    rw [step_keepsHeaders hc]
    exact h.opens

theorem Holds.uses {p : Prog α} (hp : p.Uses fun c => c.keepsHeaders = true)
    (h : Holds vol d old n s) :
    p.Meets countMachine t (countContract vol l) (fun _ => Holds vol d old n) s := by
  apply Meets.of_uses hp h
  · exact fun _ _ hr ha => ha.rely hr
  · intro c o a hc hi _ ha
    obtain ⟨hg, hi'⟩ := count_keepsHeaders hc o hi
    exact ⟨hg, hi', ha.keepsHeaders hc o⟩

theorem Holds.andThen {p : Prog α} {k : α → Prog Unit} {P : Unit → World × ℤ → Prop}
    (h : Holds vol d old n s) (hp : p.Uses fun c => c.keepsHeaders = true)
    (hk : ∀ a s', Holds vol d old n s' →
      (k a).Meets countMachine t (countContract vol l) (IfOk P) s') :
    (p.bind k).Meets countMachine t (countContract vol l) (IfOk P) s :=
  (h.uses hp).andThen (fun a s' _ h' => hk a s' h') fun _ _ _ _ => trivial

theorem luksAddKey_counts {new : Text} (h : Holds vol d old 0 s) :
    (luksAddKey d old new).Meets countMachine t (countContract vol l)
      (IfOk fun _ => Holds vol d old 1) s := by
  apply h.andThen (tempKeyFile_uses rfl)
  intro _ s₁ h₁
  apply h₁.andThen (tempKeyFile_uses rfl)
  intro _ s₂ h₂
  apply Meets.returns (P := fun x s' => x = .ok () → Holds vol d old 1 s')
  · apply Meets.ask
    · exact fun x _ _ hr hx hok => (hx hok).rely hr
    · intro a o hr hi _
      obtain ⟨hcount, hmaps, hopens⟩ := h₂.rely hr
      cases happlies : o.applies (.luksAddKey d old new) with
      | true =>
        obtain ⟨inner, hsome, hstate⟩ :=
          step_slots_applied rfl hmaps hopens (if_pos hopens) happlies
        have hnext : (countMachine.step t (.luksAddKey d old new) o a).2 =
            (a.1.setContent vol (.luks (header a.1 vol ++ [new]) inner), a.2 + 1) :=
          Prod.ext hstate (if_pos happlies)
        rw [hnext]
        refine ⟨mapped_setContent, ⟨?_, Int.le_add_one hi.2⟩, fun _ => ?_⟩
        · rw [header_setContent_self hsome, Content.slots, List.length_append]
          have hlength := hi.1
          push_cast [List.length_singleton]
          omega
        · refine ⟨by rw [hcount]; rfl, hmaps.of_mapped mapped_setContent, ?_⟩
          rw [header_setContent_self hsome]
          exact List.mem_append_left _ hopens
      | false =>
        rw [count_unapplied happlies]
        refine ⟨rfl, hi, fun hok => ?_⟩
        obtain ⟨f, hf⟩ := failed_of_unapplied t a.1 happlies
        cases (Option.some.inj hf).trans hok
  · intro x s₃ _ hx
    cases x with
    | ok u => exact fun s₄ hr _ => (hx rfl).rely hr
    | error e => exact fun _ _ _ => trivial

theorem luksRemoveKey_counts (h : Holds vol d old 1 s) :
    (luksRemoveKey d old).Meets countMachine t (countContract vol l)
      (IfOk fun _ s' => s'.2 = 0) s := by
  apply h.andThen (tempKeyFile_uses rfl)
  intro _ s₁ h₁
  apply Meets.returns (P := fun x s' => s'.2 = 0 ∨ ∃ f : Fault, x = .error f.run)
  · apply Meets.ask
    · rintro x s₂ _ ⟨n, _, rfl⟩ hx
      exact hx
    · intro a o hr hi _
      obtain ⟨hcount, hmaps, hopens⟩ := h₁.rely hr
      cases happlies : o.applies (.luksRemoveKey d old) with
      | true =>
        obtain ⟨inner, hsome, hstate⟩ :=
          step_slots_applied rfl hmaps hopens (if_pos hopens) happlies
        have hnext : (countMachine.step t (.luksRemoveKey d old) o a).2 =
            (a.1.setContent vol (.luks ((header a.1 vol).erase old) inner), a.2 + -1) :=
          Prod.ext hstate (if_pos happlies)
        rw [hnext]
        refine ⟨mapped_setContent, ⟨?_, ?_⟩, .inl ?_⟩
        · have hpos := List.length_pos_of_mem hopens
          have hlength := hi.1
          rw [header_setContent_self hsome, Content.slots, List.length_erase_of_mem hopens]
          omega
        · change 0 ≤ a.2 + -1
          rw [hcount]
          decide
        · rw [hcount]
          rfl
      | false =>
        rw [count_unapplied happlies]
        obtain ⟨f, hf⟩ := failed_of_unapplied t a.1 happlies
        exact ⟨rfl, hi, .inr ⟨f, (Option.some.inj hf).symm⟩⟩
  · intro x s₂ _ hx
    obtain hzero | ⟨f, rfl⟩ := hx
    · have hdone : (Program.pure () : Prog Unit).Meets countMachine t (countContract vol l)
          (IfOk fun _ s' => s'.2 = 0) s₂ := by
        rintro s₃ ⟨n, _, rfl⟩ _
        exact hzero
      split
      · exact hdone
      · exact hdone
      · exact fun _ _ _ => trivial
    · cases f with
      | error e => exact fun _ _ _ => trivial
      | status code => exact fun _ _ _ => trivial

theorem adds_then {new : Text} {p : Prog Unit} (h : Holds vol d old 0 s)
    (hp : p.Uses fun c => c.keepsHeaders = true) :
    ((luksAddKey d old new).bind fun _ => p).Meets countMachine t (countContract vol l)
      (IfOk fun _ => Holds vol d old 1) s :=
  (luksAddKey_counts h).andThen (fun _ _ _ h' => (h'.uses hp).ifOk) fun _ _ _ _ => trivial

theorem kmip_counts {e : String} (h : Holds vol d old 0 s) :
    (Kmip.rotateKey e vol.spec (luksAddKey d old)).Meets countMachine t (countContract vol l)
      (IfOk fun _ => Holds vol d old 1) s := by
  apply h.andThen (imageMetaGetChecked_uses rfl)
  intro oldUID s₁ h₁
  apply h₁.andThen (randomPassphrase_uses rfl)
  intro pass s₂ h₂
  apply h₂.andThen (show (Kmip.register e pass).Uses _ from tool_uses rfl fun _ => orFail_uses _ _)
  intro newUID s₃ h₃
  have hdestroy : ∀ u, (Kmip.destroy e u).Uses fun c => c.keepsHeaders = true :=
    fun u => kmipDestroy_uses rfl
  apply (luksAddKey_counts h₃).tryThen
  · intro _ s₄ _ h₄
    apply h₄.andThen (imageMetaSet_uses rfl)
    intro _ s₅ h₅
    apply Meets.ifOk
    apply h₅.uses
    exact Uses.ite ((hdestroy _).attempt.bind fun _ => trivial) trivial
  · intro err s₄ _ _
    -- the new key may be in the header, and is forgotten
    have hany : (Kmip.destroy e newUID).Meets countMachine t (countContract vol l)
        (fun _ _ => True) s₄ := by
      apply Meets.of_uses (hdestroy _) trivial
      · exact fun _ _ _ _ => trivial
      · intro c o a hc hi _ _
        obtain ⟨hg, hi'⟩ := count_keepsHeaders hc o hi
        exact ⟨hg, hi', trivial⟩
    exact hany.tryAnyway fun _ _ _ _ _ _ _ => trivial

theorem keyService_counts {id : Text} (hks : StoredKey ks) (h : Holds vol d old 0 s) :
    (KeyService.rotateKey b ks id vol.inst vol.spec (luksAddKey d old)).Meets countMachine t
      (countContract vol l) (IfOk fun _ => Holds vol d old 1) s := by
  cases ks with
  | secretsMetadata =>
    apply h.andThen (readMasterKey_uses rfl)
    intro kek s₁ h₁
    apply h₁.andThen (randomPassphrase_uses rfl)
    exact fun new s₂ h₂ => adds_then h₂ (imageMetaSet_uses rfl)
  | vault v =>
    apply h.andThen (randomPassphrase_uses rfl)
    exact fun new s₁ h₁ => adds_then h₁ (secretCommand_uses (by rfl) _)
  | awsKMS key =>
    apply h.andThen (show (AwsKMS.generateDataKey key).Uses _ from
      tool_uses rfl fun _ => orFail_uses _ _)
    exact fun dk s₁ h₁ => adds_then h₁ (imageMetaSet_uses rfl)
  | azureKV a =>
    apply h.andThen (randomPassphrase_uses rfl)
    exact fun new s₁ h₁ => adds_then h₁ (secretCommand_uses (by rfl) _)
  | kmip e => exact kmip_counts h
  | derived dir => exact hks.elim
  | misconfigured msg => exact hks.elim

variable {h : List Text} {w : World}

theorem Rotating.recent {g : Logged} (hi : Rotating b ks vol reqs g) :
    Rotating b ks vol reqs (g.1, [shown b ks vol g.1]) where
  staged := hi.staged
  opens := hi.opens
  current := List.mem_singleton_self _
  old y hy := by
    obtain rfl := List.mem_singleton.mp hy
    exact hi.old _ hi.current
  object e he y hy := by
    obtain rfl := List.mem_singleton.mp hy
    exact hi.object e he _ hi.current

/-- The state before anything changes. -/
def KeySlotsUntouched (b : Backend) (ks : KeyService) (vol : ImageRef)
    (reqs : ℕ → RotateEncryptionKeyRequest) (h : List Text) (s : World × ℤ) : Prop :=
  Rotating b ks vol reqs (s.1, [shown b ks vol s.1]) ∧ header s.1 vol = h ∧ s.2 = 0

theorem KeySlotsUntouched.seq {n : ℕ} (hs : KeySlotsUntouched b ks vol reqs h s)
    (hn : s.1.seq ≤ n) :
    KeySlotsUntouched b ks vol reqs h ({ s.1 with seq := n }, s.2) :=
  ⟨((harmless_seq hn 0).rotating hs.1).recent, hs.2⟩

theorem untouched_watches (t l : ℕ) (h : List Text) :
    Watches b ks vol reqs t countMachine
      { countContract vol l with inv := KeySlotsUntouched b ks vol reqs h }
      fun s => (s.1, [shown b ks vol s.1]) where
  answers := ⟨fun _ _ _ _ => rfl, fun _ _ _ _ => rfl⟩
  quiet c hc s o hs _ := by
    have hkeeps : c.keepsHeaders = true := by
      cases c with
      | _ => first | exact hc | rfl
    have hnext : ∃ n, s.1.seq ≤ n ∧
        (countMachine.step t c o s).2 = ({ s.1 with seq := n }, s.2) := by
      have hcount : countSlots c o s.2 = s.2 := countSlots_keepsHeaders hkeeps o s.2
      obtain hstate | hstate := step_reads hc t o s.1
      · exact ⟨s.1.seq, Nat.le_refl _, Prod.ext hstate hcount⟩
      · exact ⟨s.1.seq + 1, Nat.le_succ _, Prod.ext hstate hcount⟩
    obtain ⟨n, hn, hstate⟩ := hnext
    rw [hstate]
    exact ⟨rfl, hs.seq hn, n, hn, rfl⟩
  rotating _ hs := hs.1
  tolerable := by
    rintro s _ ⟨n, hn, rfl⟩
    have hsame : shown b ks vol { s.1 with seq := n } = shown b ks vol s.1 := shown_seq n
    refine ⟨⟨rfl, rfl, rfl, rfl, rfl⟩, hn, fun y hy => ?_, fun y hy => ?_, .inl hsame,
      fun _ hp => .inl hp, fun _ _ _ _ => rfl⟩
    · rwa [hsame]
    · rw [hsame] at hy
      exact .inl hy

theorem rotationSwap_counts {x : Device × Text × Text} (hks : StoredKey ks)
    (hvol : (reqs t).volume = vol)
    (hx : SourceFound b ks vol (reqs t) x (s.1, [shown b ks vol s.1]))
    (hs : KeySlotsUntouched b ks vol reqs h s) :
    (rotationSwap b (reqs t) x).Meets countMachine t (countContract vol l)
      (IfOk fun _ s' => s'.2 = 0) s := by
  obtain ⟨d, kmsID, old⟩ := x
  obtain ⟨hd, ⟨id, hid, rfl, hprovider⟩, hshown⟩ := hx
  dsimp only [rotationSwap, Registry.rotateKey]
  by_cases hsecret : (reqs t).secrets secretPassphrase ≠ .empty
  · rw [if_pos hsecret]
    exact fun _ _ _ => trivial
  · rw [if_neg hsecret, resolve_lit hid hprovider, hvol]
    have hholds : Holds vol d old 0 s := by
      obtain ⟨p, hp, hmem⟩ := hs.1.opens
      obtain ⟨y, hy, hyold⟩ := hshown (not_not.mp hsecret)
      obtain rfl := List.mem_singleton.mp hy
      obtain rfl := Option.some.inj (hyold.symm.trans hp)
      exact ⟨hs.2.2, hd, hmem⟩
    apply (keyService_counts (b := b) hks hholds).andThen
    · exact fun _ _ _ hheld => luksRemoveKey_counts hheld
    · exact fun _ _ _ _ => trivial

theorem rotateEncryptionKey_counts (hks : StoredKey ks) (hvol : (reqs t).volume = vol)
    (hs : KeySlotsUntouched b ks vol reqs h s) (hl : h.length = l) :
    (rotateEncryptionKey b (reqs t)).Meets countMachine t (countContract vol l)
      (IfOk fun _ s' => s'.2 = 0) s := by
  have hsource : (rotationSource b (reqs t)).Meets countMachine t (countContract vol l)
      (IfOk fun x s' => KeySlotsUntouched b ks vol reqs h s' ∧
        SourceFound b ks vol (reqs t) x (s'.1, [shown b ks vol s'.1])) s := by
    have hmeets := rotationSource_meets (b := b) (s := s) (untouched_watches t l h) hks hvol
      fun _ _ _ _ hmapped hd => hd.of_mapped hmapped
    refine (hmeets.mono ?_).narrow hs ?_ ?_
    · rintro (e | x) s' hi hr
      · trivial
      · exact ⟨hi, hr⟩
    · rintro a _ ⟨n, hn, rfl⟩ ha
      exact ha.seq hn
    · intro a ha
      refine ⟨?_, Int.le_of_eq ha.2.2.symm⟩
      rw [ha.2.1, ha.2.2, hl]
      exact (Int.add_zero _).symm
  rw [rotateEncryptionKey_parts]
  apply hsource.andThen
  · exact fun x s' _ ⟨hs', hx⟩ => rotationSwap_counts hks hvol hx hs'
  · exact fun _ _ _ _ => trivial

end Count

section Runs

variable {b : Backend} {ks : KeyService} {vol : ImageRef} {reqs : ℕ → RotateEncryptionKeyRequest}
variable {w : World}

theorem rotation_counts (hks : StoredKey ks) (hreqs : ∀ t, (reqs t).volume = vol)
    (hw : Rotating b ks vol reqs (w, [shown b ks vol w])) (t : ℕ) (os : List Outcome)
    {x : Machine.Stop Cmd Outcome World Err Unit}
    (hx : machine.exec t (rotateEncryptionKey b (reqs t)) os w = x) :
    Rotating b ks vol reqs (x.2.1, [shown b ks vol x.2.1]) ∧
      (header x.2.1 vol).length = (header w vol).length + slotsLeft x.1 ∧
      0 ≤ slotsLeft x.1 ∧ (x.2.2 = some (.ok ()) → slotsLeft x.1 = 0) := by
  subst hx
  obtain ⟨_, hrotating, _⟩ := (rotateEncryptionKey_safe (g := (w, [shown b ks vol w])) hks
    (hreqs t)).exec hw os fun _ _ => trivial
  have hcounts := rotateEncryptionKey_counts (s := (w, 0)) hks (hreqs t) ⟨hw, rfl, rfl⟩ rfl
  obtain ⟨⟨hlength, hnonneg⟩, hresult⟩ := hcounts.exec_monitored
    ⟨(Int.add_zero _).symm, Int.le_refl 0⟩ (fun _ _ _ => trivial) os
  refine ⟨?_, hlength, hnonneg, fun hok => hresult _ hok⟩
  rw [← machine.exec_logged (shown b ks vol) t _ os w [shown b ks vol w]]
  exact hrotating.recent

theorem exact_iff_length (hw : Opens b ks vol w) :
    Exact b ks vol w ↔ (header w vol).length = 1 := by
  obtain ⟨p, hp, hmem⟩ := hw
  constructor
  · rintro ⟨q, _, hq⟩
    rw [hq]
    rfl
  · intro hlength
    obtain ⟨q, hq⟩ := List.length_eq_one_iff.mp hlength
    rw [hq] at hmem
    obtain rfl := List.mem_singleton.mp hmem
    exact ⟨p, hp, hq⟩

theorem rotations_exact_iff (hks : StoredKey ks) (hreqs : ∀ t, (reqs t).volume = vol)
    (hw : Rotating b ks vol reqs (w, [shown b ks vol w])) (calls : List (ℕ × List Outcome)) :
    (∀ x ∈ rotations b reqs calls w, x.2.2 = some (.ok ()) → Exact b ks vol x.2.1) ↔
      (∀ x ∈ rotations b reqs calls w, x.2.2 = some (.ok ()) → (header w vol).length = 1) ∧
        (rotations b reqs calls w).Pairwise fun x y =>
          y.2.2 = some (.ok ()) → slotsLeft x.1 = 0 := by
  induction calls generalizing w with
  | nil => simp [rotations]
  | cons call rest ih =>
    obtain ⟨t, os⟩ := call
    rw [rotations]
    generalize hx : machine.exec t (rotateEncryptionKey b (reqs t)) os w = x
    obtain ⟨hrotating, hlength, hnonneg, hresult⟩ := rotation_counts hks hreqs hw t os hx
    simp only [List.forall_mem_cons, List.pairwise_cons]
    rw [ih hrotating, exact_iff_length hrotating.opens]
    obtain ⟨p, _, hp⟩ := hw.opens
    have hpos : 0 < (header w vol).length := List.length_pos_of_mem hp
    -- the header only grows, so one keyslot after the call means one before and none left
    have hone : (header x.2.1 vol).length = 1 ↔
        (header w vol).length = 1 ∧ slotsLeft x.1 = 0 := by omega
    rw [hone]
    constructor
    · rintro ⟨hhead, htail, hpairs⟩
      exact ⟨⟨fun hok => (hhead hok).1, fun y hy hok => (htail y hy hok).1⟩,
        fun y hy hok => (htail y hy hok).2, hpairs⟩
    · rintro ⟨⟨hhead, htail⟩, hleft, hpairs⟩
      exact ⟨fun hok => ⟨hhead hok, hresult hok⟩,
        fun y hy hok => ⟨htail y hy hok, hleft y hy hok⟩, hpairs⟩

end Runs

/-- Start from a staged volume whose only keyslot is its stored passphrase, and rotate its key
any number of times, each call failing or stopping anywhere. Every successful call ends with the
stored passphrase as the only keyslot exactly when every call before a successful one has removed
as many keyslots as it added. Keys drawn later differ from what is stored at the start. -/
theorem old_keys_retired_iff (b : Backend) (ks : KeyService) (hks : StoredKey ks) (vol : ImageRef)
    (reqs : ℕ → RotateEncryptionKeyRequest) (hreqs : ∀ t, (reqs t).volume = vol) (w : World)
    (hstaged : Staged b ks vol reqs w) (hexact : Exact b ks vol w)
    (hfresh : ∀ a n, (slot ks vol.inst vol.spec w = .uid a n → n < w.seq) ∧
      (stored b ks vol.inst vol.spec w = some (.minted a n) → n < w.seq))
    (calls : List (ℕ × List Outcome)) :
    (∀ x ∈ rotations b reqs calls w, x.2.2 = some (.ok ()) → Exact b ks vol x.2.1) ↔
      (rotations b reqs calls w).Pairwise fun x y =>
        y.2.2 = some (.ok ()) → slotsLeft x.1 = 0 := by
  obtain ⟨p, hp, hheader⟩ := hexact
  have hopens : Opens b ks vol w := ⟨p, hp, by rw [hheader]; exact List.mem_singleton_self p⟩
  rw [rotations_exact_iff hks hreqs (rotating_start hstaged hopens hfresh) calls]
  refine and_iff_right fun _ _ _ => ?_
  rw [hheader]
  rfl

section Instance

/-- The removal of the old keyslot fails, and the rotation is repeated. -/
def repeatedRotation : List (ℕ × List Outcome) :=
  [(0, List.replicate 16 .ok ++ [⟨some (.error "device busy"), false, 0⟩]),
    (1, List.replicate 17 .ok)]

theorem old_keys_retired_iff_repeated :
    (∀ x ∈ rotations rotatedBackend rotatedRequests repeatedRotation rotatedWorld,
        x.2.2 = some (.ok ()) → Exact rotatedBackend (.kmip "hsm:5696") rotatedImage x.2.1) ↔
      (rotations rotatedBackend rotatedRequests repeatedRotation rotatedWorld).Pairwise
        fun x y => y.2.2 = some (.ok ()) → slotsLeft x.1 = 0 :=
  old_keys_retired_iff rotatedBackend (.kmip "hsm:5696") trivial rotatedImage rotatedRequests
    (fun _ => rfl) rotatedWorld rotatedWorld_staged ⟨.minted 0 0, rfl, rfl⟩ rotatedWorld_drawn _

/-- The repeated rotation succeeds, and the passphrase from before the first one still opens the
header. -/
theorem repeated_rotation_keeps_old_key :
    Exact rotatedBackend (.kmip "hsm:5696") rotatedImage rotatedWorld ∧
      ∃ x ∈ rotations rotatedBackend rotatedRequests repeatedRotation rotatedWorld,
        x.2.2 = some (.ok ()) ∧ .minted 0 0 ∈ header x.2.1 rotatedImage ∧
          ¬Exact rotatedBackend (.kmip "hsm:5696") rotatedImage x.2.1 := by
  refine ⟨⟨.minted 0 0, rfl, rfl⟩, _, List.mem_cons_of_mem _ List.mem_cons_self, rfl, ?_, ?_⟩
  · decide +kernel
  · rintro ⟨p, _, hp⟩
    have hlength := congrArg List.length hp
    rw [List.length_singleton] at hlength
    revert hlength
    decide +kernel

end Instance

end BardCsi.Ceph
