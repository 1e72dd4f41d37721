import BardCsi.Ceph.Header
import BardCsi.Ceph.Luks

/-!
Concurrent rotations of one volume's key. A log beside the state keeps every entry that
the provider has ever shown for the volume. A caller removes or destroys only what is in
the log and no longer current, and persists only a key that is not in the log and already
opens the header. That is all the callers need to know about each other.
-/
namespace BardCsi.Ceph

open Effect

/-- The world with every entry and passphrase that the provider has shown so far. -/
abbrev Logged := World × List (Text × Option Text)

section Contract

variable (b : Backend) (ks : KeyService) (vol : ImageRef)

/-- What the log shows of a state. -/
def shown (w : World) : Text × Option Text :=
  (slot ks vol.inst vol.spec w, stored b ks vol.inst vol.spec w)

/-- The volume is staged: its provider is the recorded one, and the devices through which a
rotation finds it are maps of its image. -/
structure Staged (reqs : ℕ → RotateEncryptionKeyRequest) (w : World) : Prop where
  provider : ∃ id, id ≠ "" ∧ metaOf w vol.spec .kmsID = .lit id ∧ b.providers id = some ks
  mounted : ∀ t p d, Assoc.get w.mounts (reqs t).volumePath = some (.luks p) →
    Assoc.get w.mappers p = some d → Maps w d vol
  recorded : ∀ file ∈ w.records, ∀ rec, file.2 = .json rec → rec.volume = vol →
    Maps w rec.device vol

/-- What a caller tolerates from the others. -/
structure Tolerable (t : ℕ) (g g' : Logged) : Prop where
  node : SameNode g.1 g'.1
  seq : g.1.seq ≤ g'.1.seq
  grows : ∀ y ∈ g.2, y ∈ g'.2
  foreign : ∀ y ∈ g'.2, y ∈ g.2 ∨ (∀ n, y.2 ≠ some (.minted t n)) ∧ ∀ n, y.1 ≠ .uid t n
  current : shown b ks vol g'.1 = shown b ks vol g.1 ∨
    ∀ y ∈ g.2, y.2 ≠ stored b ks vol.inst vol.spec g'.1 ∧
      ∀ e, ks = .kmip e → y.1 ≠ slot ks vol.inst vol.spec g'.1
  header : ∀ p ∈ header g.1 vol, p ∈ header g'.1 vol ∨ ∃ y ∈ g'.2, y.2 = some p
  object : ∀ e n, n < g.1.seq → (∀ y ∈ g.2, y.1 ≠ .uid t n) →
    g'.1.kmip e (.uid t n) = g.1.kmip e (.uid t n)

/-- The passphrase that the provider resolves exists and is one of the keyslots. -/
def Opens (w : World) : Prop :=
  ∃ p, stored b ks vol.inst vol.spec w = some p ∧ p ∈ header w vol

structure Rotating (reqs : ℕ → RotateEncryptionKeyRequest) (g : Logged) : Prop where
  staged : Staged b ks vol reqs g.1
  opens : Opens b ks vol g.1
  current : shown b ks vol g.1 ∈ g.2
  old : ∀ y ∈ g.2, ∀ a n, (y.1 = .uid a n → n < g.1.seq) ∧
    (y.2 = some (.minted a n) → n < g.1.seq)
  object : ∀ e, ks = .kmip e → ∀ y ∈ g.2, ∀ p, y.2 = some p →
    g.1.kmip e y.1 = some p ∨ g.1.kmip e y.1 = none

variable {b ks vol} {t : ℕ}

theorem Tolerable.refl (g : Logged) : Tolerable b ks vol t g g :=
  ⟨.refl _, Nat.le_refl _, fun _ h => h, fun _ h => .inl h, .inl rfl, fun _ h => .inl h,
    fun _ _ _ _ => rfl⟩

theorem Tolerable.trans {g₁ g₂ g₃ : Logged} (h : Tolerable b ks vol t g₁ g₂)
    (h' : Tolerable b ks vol t g₂ g₃) : Tolerable b ks vol t g₁ g₃ where
  node := h.node.trans h'.node
  seq := Nat.le_trans h.seq h'.seq
  grows y hy := h'.grows y (h.grows y hy)
  foreign y hy := by
    obtain hy₂ | hy₂ := h'.foreign y hy
    · exact h.foreign y hy₂
    · exact .inr hy₂
  current := by
    obtain h₂ | h₂ := h'.current
    · obtain h₁ | h₁ := h.current
      · exact .inl (h₂.trans h₁)
      · have hslot : slot ks vol.inst vol.spec g₃.1 = slot ks vol.inst vol.spec g₂.1 :=
          congrArg Prod.fst h₂
        have hstored : stored b ks vol.inst vol.spec g₃.1 = stored b ks vol.inst vol.spec g₂.1 :=
          congrArg Prod.snd h₂
        rw [hslot, hstored]
        exact .inr h₁
    · exact .inr fun y hy => h₂ y (h.grows y hy)
  header p hp := by
    obtain h₁ | ⟨y, hy, hyp⟩ := h.header p hp
    · exact h'.header p h₁
    · exact .inr ⟨y, h'.grows y hy, hyp⟩
  object e n hn hu := by
    rw [h'.object e n (Nat.lt_of_lt_of_le hn h.seq) ?_, h.object e n hn hu]
    intro y hy
    obtain hy₁ | ⟨_, hy₂⟩ := h.foreign y hy
    · exact hu y hy₁
    · exact hy₂ n

variable (b ks vol)

def rotationContract (reqs : ℕ → RotateEncryptionKeyRequest) (t : ℕ) :
    Contract Cmd Outcome Logged where
  inv := Rotating b ks vol reqs
  rely := Tolerable b ks vol t
  assume _ _ _ := True
  guarantee _ g g' := ∀ t', t' ≠ t → Tolerable b ks vol t' g g'
  rely_refl := Tolerable.refl
  rely_trans := Tolerable.trans

end Contract

section Steps

variable {b : Backend} {ks : KeyService} {vol : ImageRef}
variable {reqs : ℕ → RotateEncryptionKeyRequest} {t : ℕ} {g : Logged} {w' : World}

theorem Maps.of_mapped {w : World} {d : Device} {i : ImageRef} (h : Maps w d i)
    (hmapped : w'.mapped = w.mapped) : Maps w' d i := by
  refine ⟨?_, h.2⟩
  rw [World.imageOf, hmapped]
  exact h.1

theorem Staged.of_sameNode {w : World} (h : Staged b ks vol reqs w) (hn : SameNode w w')
    (hp : metaOf w' vol.spec .kmsID = metaOf w vol.spec .kmsID) : Staged b ks vol reqs w' where
  provider := by
    rw [hp]
    exact h.provider
  mounted t p d hm hd := by
    rw [hn.mounts] at hm
    rw [hn.mappers] at hd
    exact (h.mounted t p d hm hd).of_mapped hn.mapped
  recorded file hf rec hrec hvol := by
    rw [hn.records] at hf
    exact (h.recorded file hf rec hrec hvol).of_mapped hn.mapped

variable (b ks vol) in
/-- A step of caller `t` that leaves the current entry. It may drop keyslots that are not
current, destroy objects that are not current, and do anything to its own objects that
nobody has seen. -/
structure Harmless (t : ℕ) (g : Logged) (w' : World) : Prop where
  node : SameNode g.1 w'
  provider : metaOf w' vol.spec .kmsID = metaOf g.1 vol.spec .kmsID
  seq : g.1.seq ≤ w'.seq
  same : shown b ks vol w' = shown b ks vol g.1
  header : ∀ p ∈ header g.1 vol, p ∈ header w' vol ∨
    (∃ y ∈ g.2, y.2 = some p) ∧ stored b ks vol.inst vol.spec g.1 ≠ some p
  object : ∀ e u, w'.kmip e u = g.1.kmip e u ∨ (∃ y ∈ g.2, y.1 = u) ∧ w'.kmip e u = none ∨
    ∃ n, u = .uid t n ∧ ∀ y ∈ g.2, y.1 ≠ .uid t n

/-- The state after a step, with its log. -/
abbrev logNext (b : Backend) (ks : KeyService) (vol : ImageRef) (g : Logged) (w' : World) :
    Logged :=
  (w', shown b ks vol w' :: g.2)

theorem Harmless.mem_log (h : Harmless b ks vol t g w') (hi : Rotating b ks vol reqs g)
    {y : Text × Option Text} (hy : y ∈ (logNext b ks vol g w').2) : y ∈ g.2 := by
  obtain rfl | hy := List.mem_cons.mp hy
  · rw [h.same]
    exact hi.current
  · exact hy

theorem Harmless.rotating (h : Harmless b ks vol t g w') (hi : Rotating b ks vol reqs g) :
    Rotating b ks vol reqs (logNext b ks vol g w') where
  staged := hi.staged.of_sameNode h.node h.provider
  opens := by
    obtain ⟨p, hp, hmem⟩ := hi.opens
    have hstored : stored b ks vol.inst vol.spec w' = some p :=
      (congrArg Prod.snd h.same).trans hp
    obtain hmem' | ⟨_, hne⟩ := h.header p hmem
    · exact ⟨p, hstored, hmem'⟩
    · exact absurd hp hne
  current := List.mem_cons_self
  old y hy a n := by
    have hold := hi.old y (h.mem_log hi hy) a n
    exact ⟨fun hu => Nat.lt_of_lt_of_le (hold.1 hu) h.seq,
      fun hm => Nat.lt_of_lt_of_le (hold.2 hm) h.seq⟩
  object e he y hy p hp := by
    have hy' := h.mem_log hi hy
    obtain hsame | ⟨_, hnone⟩ | ⟨n, hu, hn⟩ := h.object e y.1
    · change w'.kmip e y.1 = some p ∨ w'.kmip e y.1 = none
      rw [hsame]
      exact hi.object e he y hy' p hp
    · exact .inr hnone
    · exact absurd hu (hn y hy')

theorem Harmless.tolerable (h : Harmless b ks vol t g w') (hi : Rotating b ks vol reqs g)
    {t' : ℕ} (ht : t' ≠ t) : Tolerable b ks vol t' g (logNext b ks vol g w') where
  node := h.node
  seq := h.seq
  grows y hy := List.mem_cons_of_mem _ hy
  foreign y hy := .inl (h.mem_log hi hy)
  current := .inl h.same
  header p hp := by
    obtain hp' | ⟨⟨y, hy, hyp⟩, _⟩ := h.header p hp
    · exact .inl hp'
    · exact .inr ⟨y, List.mem_cons_of_mem _ hy, hyp⟩
  object e n _ hu := by
    obtain hsame | ⟨⟨y, hy, hyu⟩, _⟩ | ⟨m, hm, _⟩ := h.object e (.uid t' n)
    · exact hsame
    · exact absurd hyu (hu y hy)
    · injection hm with ha
      exact absurd ha ht

theorem tolerable_of_harmless (h : ∀ t, Harmless b ks vol t g w')
    (hi : Rotating b ks vol reqs g) (t : ℕ) :
    Tolerable b ks vol t g (logNext b ks vol g w') :=
  (h (t + 1)).tolerable hi (Nat.ne_of_lt (Nat.lt_succ_self t))

variable (b ks vol) in
/-- Caller `t` makes its own key the current one: a key that opens the header and that
nobody has seen. -/
structure Publishes (t n : ℕ) (g : Logged) (w' : World) : Prop where
  node : SameNode g.1 w'
  provider : metaOf w' vol.spec .kmsID = metaOf g.1 vol.spec .kmsID
  seq : w'.seq = g.1.seq
  kmip : w'.kmip = g.1.kmip
  header : header w' vol = header g.1 vol
  resolves : stored b ks vol.inst vol.spec w' = some (.minted t n)
  opens : .minted t n ∈ Ceph.header g.1 vol
  drawn : n < g.1.seq
  fresh : ∀ y ∈ g.2, y.2 ≠ some (.minted t n)
  entry : ∀ a m, slot ks vol.inst vol.spec w' = .uid a m →
    a = t ∧ m < g.1.seq ∧ ∀ y ∈ g.2, y.1 ≠ .uid a m
  object : ∀ e, ks = .kmip e → ∃ m, slot ks vol.inst vol.spec w' = .uid t m

theorem Publishes.rotating {n : ℕ} (h : Publishes b ks vol t n g w')
    (hi : Rotating b ks vol reqs g) : Rotating b ks vol reqs (logNext b ks vol g w') where
  staged := hi.staged.of_sameNode h.node h.provider
  opens := ⟨_, h.resolves, by rw [h.header]; exact h.opens⟩
  current := List.mem_cons_self
  old y hy a m := by
    change (_ → m < w'.seq) ∧ (_ → m < w'.seq)
    rw [h.seq]
    obtain rfl | hy := List.mem_cons.mp hy
    · refine ⟨fun hu => (h.entry a m hu).2.1, fun hm => ?_⟩
      have hmint : some (Text.minted t n) = some (.minted a m) := h.resolves.symm.trans hm
      injection hmint with hmint
      injection hmint with _ hnm
      exact hnm ▸ h.drawn
    · exact hi.old y hy a m
  object e he y hy p hp := by
    change w'.kmip e y.1 = some p ∨ w'.kmip e y.1 = none
    obtain rfl | hy := List.mem_cons.mp hy
    · subst he
      exact .inl (object_of_stored (b := b) hp)
    · rw [h.kmip]
      exact hi.object e he y hy p hp

theorem Publishes.tolerable {n : ℕ} (h : Publishes b ks vol t n g w') {t' : ℕ} (ht : t' ≠ t) :
    Tolerable b ks vol t' g (logNext b ks vol g w') where
  node := h.node
  seq := Nat.le_of_eq h.seq.symm
  grows y hy := List.mem_cons_of_mem _ hy
  foreign y hy := by
    obtain rfl | hy := List.mem_cons.mp hy
    · refine .inr ⟨fun m hm => ?_, fun m hm => ht (h.entry t' m hm).1⟩
      have hmint : some (Text.minted t n) = some (.minted t' m) := h.resolves.symm.trans hm
      injection hmint with hmint
      injection hmint with hwho _
      exact ht hwho.symm
    · exact .inl hy
  current := by
    refine .inr fun y hy => ⟨?_, fun e he => ?_⟩
    · change y.2 ≠ stored b ks vol.inst vol.spec w'
      rw [h.resolves]
      exact h.fresh y hy
    · obtain ⟨m, hm⟩ := h.object e he
      change y.1 ≠ slot ks vol.inst vol.spec w'
      rw [hm]
      exact (h.entry t m hm).2.2 y hy
  header p hp := .inl (by rw [h.header]; exact hp)
  object e m _ _ := by rw [h.kmip]

end Steps

end BardCsi.Ceph
