import BardCsi.Ceph.RotateKey
import BardCsi.Ceph.Tools

/-!
Key rotation does not lock a volume out: at every point of every interleaving of rotations,
with requests failing and callers crashing anywhere, the passphrase that the provider
resolves opens the header, as long as no failed read of the key is taken for a missing key.
-/
namespace BardCsi.Ceph

open Effect

/-- The providers whose keys can be rotated. -/
def StoredKey : KeyService → Prop
  | .secretsMetadata | .vault _ | .awsKMS _ | .azureKV _ | .kmip _ => True
  | .derived _ | .misconfigured _ => False

/-- The first part of a rotation: the device of the volume, its provider, and the passphrase to
replace. -/
def rotationSource (b : Backend) (req : RotateEncryptionKeyRequest) :
    Prog (Device × Text × Text) := do
  let backing ← rotationBackingDevice b req
  let cc ← cluster b req.volume.inst
  connArgs cc req.volume.inst req.secrets
  let (kmsID, keyID) ← encryptionDescriptor req.volume.spec
  let oldPass ← Registry.passphrase b req.volume.inst kmsID req.volume.spec keyID req.secrets
  return (backing, kmsID, oldPass)

/-- The rest: a new key is added and persisted, and the old keyslot removed. -/
def rotationSwap (b : Backend) (req : RotateEncryptionKeyRequest) (x : Device × Text × Text) :
    Prog Unit := do
  Registry.rotateKey b req.volume.inst x.2.1 req.volume.spec req.secrets fun newPass =>
    luksAddKey x.1 x.2.2 newPass
  luksRemoveKey x.1 x.2.2

theorem rotateEncryptionKey_parts (b : Backend) (req : RotateEncryptionKeyRequest) :
    rotateEncryptionKey b req = (rotationSource b req).bind (rotationSwap b req) := by
  simp only [rotateEncryptionKey, rotationSource, rotationSwap, Program.bind_eq,
    Program.bind_assoc, Program.pure_eq, Program.bind_pure]

section Source

variable {b : Backend} {ks : KeyService} {vol : ImageRef}
variable {reqs : ℕ → RotateEncryptionKeyRequest} {t : ℕ}
variable {σ α : Type} {M : Machine Cmd Cmd.Reply ℕ Outcome σ} {K : Contract Cmd Outcome σ}
variable {π : σ → Logged} {s : σ} {P : α → σ → Prop}

theorem keyService_reads (hks : StoredKey ks) (h : Watches b ks vol reqs t M K π)
    (keyID : Text) : Reads M t K π (KeyService.passphrase b ks vol.inst vol.spec keyID) s := by
  cases ks with
  | secretsMetadata => exact secretsMetadata_reads h
  | vault v => exact secret_reads (.vault v) h
  | awsKMS key => exact awsKMS_reads h
  | azureKV a => exact secret_reads (.azureKV a) h
  | kmip e => exact kmip_reads h
  | derived dir => exact hks.elim
  | misconfigured msg => exact hks.elim

theorem resolve_lit {id : String} (hid : id ≠ "") (hp : b.providers id = some ks) :
    resolve b (.lit id) = .pure ks := by
  unfold resolve
  split
  · rename_i h
    injection h with h
    exact absurd h hid
  · rename_i h
    injection h with h
    subst h
    rw [hp]
  · rename_i h
    exact absurd rfl (h id)

/-- What a rotation knows when it starts to change anything. An explicit passphrase is not
looked up, and is not rotated either. -/
structure SourceFound (b : Backend) (ks : KeyService) (vol : ImageRef)
    (req : RotateEncryptionKeyRequest) (x : Device × Text × Text) (g : Logged) : Prop where
  maps : Maps g.1 x.1 vol
  provider : ∃ id, id ≠ "" ∧ x.2.1 = .lit id ∧ b.providers id = some ks
  shown : req.secrets secretPassphrase = .empty → Published x.2.2 g

/-- Nothing is said about failures. -/
abbrev IfFound (M : Machine Cmd Cmd.Reply ℕ Outcome σ) (t : ℕ) (K : Contract Cmd Outcome σ)
    (P : α → σ → Prop) (p : Prog α) (s : σ) : Prop :=
  p.Meets M t K (Program.IfOk P) s

theorem ifFound_fail {e : Err} : IfFound M t K P (.fail e) s :=
  fun _ _ _ => trivial

theorem rotationBackingDevice_meets {f : Device → Prog α} (h : Watches b ks vol reqs t M K π)
    (hvol : (reqs t).volume = vol)
    (hok : ∀ s₁ d, K.rely s s₁ → Maps (π s₁).1 d vol → IfFound M t K P (f d) s₁) :
    IfFound M t K P ((rotationBackingDevice b (reqs t)).bind f) s := by
  unfold rotationBackingDevice
  by_cases hpath : (reqs t).volumePath ≠ ""
  · rw [if_pos hpath]
    apply findmntTarget_meets h.answers h.quiet
    · intro s₁ hr₁ _
      cases hmount : Assoc.get (π s₁).1.mounts (reqs t).volumePath with
      | none => exact ifFound_fail
      | some src =>
        cases src with
        | luks p =>
          apply luksStatus_meets h.answers h.quiet
          · intro s₂ d hr₂ hi₂ hd
            rw [← (h.tolerable _ _ hr₂).node.mounts] at hmount
            exact hok s₂ d (K.rely_trans hr₁ hr₂)
              ((h.rotating s₂ hi₂).staged.mounted t p d hmount hd)
          · exact fun _ _ _ _ _ => ifFound_fail
        | rbd n => exact ifFound_fail
        | nbd n => exact ifFound_fail
        | other p => exact ifFound_fail
    · exact fun _ _ _ _ => ifFound_fail
  · rw [if_neg hpath, Program.bind_eq, Program.bind_assoc]
    apply findStagedDevice_meets h.answers h.quiet
    · intro s₁ rec file hr₁ hi₁ hfile hjson hrec
      have hd := (h.rotating s₁ hi₁).staged.recorded file hfile rec hjson (hrec.trans hvol)
      apply Program.Meets.quiet (h.quiet (.isLuks rec.device) rfl)
      intro s₂ hr₂ _ o _
      cases (M.step t (.isLuks rec.device) o s₂).1 with
      | error e => exact ifFound_fail
      | ok u =>
        exact hok s₂ rec.device (K.rely_trans hr₁ hr₂)
          (hd.of_mapped (h.tolerable _ _ hr₂).node.mapped)
    · exact fun _ _ _ => ifFound_fail

theorem encryptionDescriptor_meets {f : Text × Text → Prog α} (h : Watches b ks vol reqs t M K π)
    (hok : ∀ s₁ id keyID, K.rely s s₁ → id ≠ "" → b.providers id = some ks →
      IfFound M t K P (f (.lit id, keyID)) s₁) :
    IfFound M t K P ((encryptionDescriptor vol.spec).bind f) s := by
  unfold encryptionDescriptor
  rw [Program.bind_eq, Program.bind_assoc]
  apply imageMetaGetChecked_meets h.answers h.quiet
  · intro s₁ hr₁ hi₁
    obtain ⟨id, hid, hmeta, hprovider⟩ := (h.rotating s₁ hi₁).staged.provider
    rw [hmeta, Program.bind_eq, Program.bind_assoc]
    apply imageMetaGetChecked_meets h.answers h.quiet
    · exact fun s₂ hr₂ _ => hok s₂ id _ (K.rely_trans hr₁ hr₂) hid hprovider
    · exact fun _ _ _ _ => ifFound_fail
  · exact fun _ _ _ _ => ifFound_fail

theorem rotationSource_meets (h : Watches b ks vol reqs t M K π) (hks : StoredKey ks)
    (hvol : (reqs t).volume = vol) (hmapped : ∀ s₁ s₂ d c, K.guarantee c s₁ s₂ →
      Maps (π s₁).1 d vol → Maps (π s₂).1 d vol) :
    IfFound M t K (fun x s' => SourceFound b ks vol (reqs t) x (π s'))
      (rotationSource b (reqs t)) s := by
  apply rotationBackingDevice_meets h hvol
  intro s₁ d _ hd
  rw [hvol]
  unfold cluster clusterFor
  cases b.clusters vol.inst with
  | none => exact ifFound_fail
  | some cc =>
    apply connArgs_meets h.quiet
    · intro s₂ hr₂ _
      apply encryptionDescriptor_meets h
      intro s₃ id keyID hr₃ hid hprovider
      have hstable : ∀ s₄ s₅, K.rely s₄ s₅ → Maps (π s₄).1 d vol → Maps (π s₅).1 d vol :=
        fun _ _ hr hd₄ => hd₄.of_mapped (h.tolerable _ _ hr).node.mapped
      have hd₃ := hstable _ _ (K.rely_trans hr₂ hr₃) hd
      dsimp only [Registry.passphrase]
      by_cases hsecret : (reqs t).secrets secretPassphrase ≠ .empty
      · rw [if_pos hsecret]
        exact fun s₄ hr₄ _ => ⟨hstable _ _ hr₄ hd₃, ⟨id, hid, rfl, hprovider⟩,
          fun hempty => absurd hempty hsecret⟩
      · rw [if_neg hsecret, resolve_lit hid hprovider]
        apply ((keyService_reads hks h keyID).keeping hd₃ hstable
          fun c _ _ hg => hmapped _ _ d c hg).andThen
        · intro old s₄ _ ⟨hold, hd₄⟩ s₅ hr₅ _
          exact ⟨hstable _ _ hr₅ hd₄, ⟨id, hid, rfl, hprovider⟩,
            fun _ => (h.tolerable _ _ hr₅).published hold⟩
        · exact fun _ _ _ _ => trivial
    · exact fun _ _ _ _ => ifFound_fail

end Source

section Calls

variable {b : Backend} {ks : KeyService} {vol : ImageRef}
variable {reqs : ℕ → RotateEncryptionKeyRequest} {t : ℕ} {g : Logged}

theorem keyService_rotates {d : Device} {old id : Text} {log : List (Text × Option Text)}
    (hks : StoredKey ks) (hd : Maps g.1 d vol) (hlog : ∀ y ∈ log, y ∈ g.2) :
    Rotates b ks vol reqs t log
      (KeyService.rotateKey b ks id vol.inst vol.spec (luksAddKey d old)) g := by
  cases ks with
  | secretsMetadata => exact secretsMetadata_rotates hd hlog
  | vault v => exact secret_rotates (.vault v) hd hlog
  | awsKMS key => exact awsKMS_rotates hd hlog
  | azureKV a => exact secret_rotates (.azureKV a) hd hlog
  | kmip e => exact kmip_rotates hd hlog
  | derived dir => exact hks.elim
  | misconfigured msg => exact hks.elim

theorem guarantee_maps {g' : Logged} {d : Device} {c : Cmd}
    (hg : (rotationContract b ks vol reqs t).guarantee c g g') (hd : Maps g.1 d vol) :
    Maps g'.1 d vol :=
  hd.of_mapped (hg (t + 1) (Nat.succ_ne_self t)).node.mapped

theorem rotateEncryptionKey_safe (hks : StoredKey ks) (hvol : (reqs t).volume = vol) :
    (rotateEncryptionKey b (reqs t)).Meets (rotationMachine b ks vol) t
      (rotationContract b ks vol reqs t) (fun _ _ => True) g := by
  rw [rotateEncryptionKey_parts]
  apply (rotationSource_meets (rotation_watches b ks vol reqs t) hks hvol
    fun _ _ _ _ hg hd => guarantee_maps hg hd).andThen
  · rintro ⟨d, kmsID, old⟩ g₁ _ ⟨hd, ⟨id, hid, rfl, hprovider⟩, hshown⟩
    dsimp only [rotationSwap, Registry.rotateKey]
    by_cases hsecret : (reqs t).secrets secretPassphrase ≠ .empty
    · rw [if_pos hsecret]
      exact fun _ _ _ => trivial
    · rw [if_neg hsecret, resolve_lit hid hprovider, hvol]
      have hrotates : Rotates b ks vol reqs t g₁.2
          (KeyService.rotateKey b ks (.lit id) vol.inst vol.spec (luksAddKey d old)) g₁ :=
        keyService_rotates hks hd fun _ hy => hy
      apply (hrotates.keeping hd (fun _ _ hr hd₁ => hd₁.of_mapped (Tolerable.node hr).mapped)
        fun _ _ _ hg hd₁ => guarantee_maps hg hd₁).andThen
      · exact fun _ g₂ _ ⟨hdisplaced, hd₂⟩ =>
          luksRemoveKey_meets hd₂ (hshown (not_not.mp hsecret)) hdisplaced
      · exact fun _ _ _ _ => trivial
  · exact fun _ _ _ _ => trivial

theorem rotating_start {w : World} (hstaged : Staged b ks vol reqs w) (hopens : Opens b ks vol w)
    (hfresh : ∀ a n, (slot ks vol.inst vol.spec w = .uid a n → n < w.seq) ∧
      (stored b ks vol.inst vol.spec w = some (.minted a n) → n < w.seq)) :
    Rotating b ks vol reqs (w, [shown b ks vol w]) where
  staged := hstaged
  opens := hopens
  current := List.mem_singleton_self _
  old y hy := by
    obtain rfl := List.mem_singleton.mp hy
    exact hfresh
  object e he y hy p hp := by
    obtain rfl := List.mem_singleton.mp hy
    subst he
    exact .inl (object_of_stored (b := b) hp)

end Calls

/-- Start from a staged volume whose stored passphrase opens its header, and let any number
of rotations of it run in any order, any request failing with or without its effect and any
caller stopping anywhere. If no failure is misread, the stored passphrase opens the header at
every point. Keys drawn later differ from what is stored at the start. -/
theorem rotation_never_locks_out (b : Backend) (ks : KeyService) (hks : StoredKey ks)
    (vol : ImageRef) (reqs : ℕ → RotateEncryptionKeyRequest) (hreqs : ∀ t, (reqs t).volume = vol)
    (w : World) (hstaged : Staged b ks vol reqs w) (hopens : Opens b ks vol w)
    (hfresh : ∀ a n, (slot ks vol.inst vol.spec w = .uid a n → n < w.seq) ∧
      (stored b ks vol.inst vol.spec w = some (.minted a n) → n < w.seq))
    (schedule : List (ℕ × Outcome × Bool)) (htrue : Pool.Throughout tools Truthful schedule
      ⟨fun t => rotateEncryptionKey b (reqs t), w⟩) :
    Opens b ks vol
      (Pool.run tools schedule ⟨fun t => rotateEncryptionKey b (reqs t), w⟩).state := by
  obtain ⟨turns, hturns⟩ := Pool.run_truthful schedule _ htrue
  rw [tools, ← hturns]
  have hcompatible : Pool.Compatible (rotationContract b ks vol reqs) (Rotating b ks vol reqs) :=
    ⟨fun _ _ => Iff.rfl, fun _ t' _ _ _ ht _ _ hg => hg t' (Ne.symm ht)⟩
  obtain ⟨hgood, _⟩ := Pool.Good.run (M := rotationMachine b ks vol) (Q := fun _ _ _ => True)
    hcompatible (P := ⟨fun t => rotateEncryptionKey b (reqs t), w, [shown b ks vol w]⟩)
    ⟨rotating_start hstaged hopens hfresh, fun t => rotateEncryptionKey_safe hks (hreqs t)⟩ turns
    (Pool.throughout_of_forall _ turns _ fun _ _ _ _ => trivial)
  rw [← (Pool.run_logged machine (shown b ks vol) turns _ w [shown b ks vol w]).2]
  exact hgood.1.opens

section Instance

def rotatedImage : ImageRef := ⟨"ceph", "pool", .plain "volume"⟩

def rotatedBackend : Backend where
  clusters _ := some ⟨["mon"], "pool", "admin", .krbd, "", false, ""⟩
  encKeyDir := "keys"
  stateDir := "state"
  providers _ := some (.kmip "hsm:5696")
  cloneDepthLimit := 0
  devicePolls := 0

/-- A staged volume whose first key was drawn before. -/
def rotatedWorld : World where
  seq := 2
  master _ := none
  images := Function.update (fun _ => none) rotatedImage (some
    { sizeMiB := 1
      info := Function.update (Function.update (fun _ => .empty) ⟨.kmsID, none⟩ "hsm")
        ⟨.kmipUID, none⟩ (.uid 0 1)
      content := .luks [.minted 0 0] .blank
      snaps := [] })
  namespaces := []
  foreign _ := []
  snapIndex := []
  snapNames := []
  secrets _ := none
  kmip _ u := if u = .uid 0 1 then some (.minted 0 0) else none
  mapped := [(.rbd 0, ⟨rotatedImage, 0, true⟩)]
  mappers := []
  mounts := []
  records := [("/stage", .json ⟨.rbd 0, "", rotatedImage, .krbd, .empty, .empty, .empty⟩)]
  blocked := []
  below _ := "/dev/sda1"
  disks _ := 0

def rotatedRequests (_ : ℕ) : RotateEncryptionKeyRequest := ⟨rotatedImage, "", fun _ => .empty⟩

theorem rotatedWorld_staged :
    Staged rotatedBackend (.kmip "hsm:5696") rotatedImage rotatedRequests rotatedWorld := by
  refine ⟨⟨"hsm", by decide, rfl, rfl⟩, fun _ _ _ h => ?_, fun file hfile rec hrec _ => ?_⟩
  · cases h
  · obtain rfl := List.mem_singleton.mp hfile
    injection hrec with hrec
    subst hrec
    exact ⟨rfl, by simp⟩

theorem rotatedWorld_drawn (a n : ℕ) :
    (slot (.kmip "hsm:5696") "ceph" rotatedImage.spec rotatedWorld = .uid a n →
      n < rotatedWorld.seq) ∧
    (stored rotatedBackend (.kmip "hsm:5696") "ceph" rotatedImage.spec rotatedWorld =
      some (.minted a n) → n < rotatedWorld.seq) := by
  refine ⟨fun h => ?_, fun h => ?_⟩
  · have hu : Text.uid 0 1 = .uid a n := h
    injection hu with _ hn
    exact hn ▸ (by decide : 1 < 2)
  · have hm : some (Text.minted 0 0) = some (.minted a n) := h
    injection hm with hm
    injection hm with _ hn
    exact hn ▸ (by decide : 0 < 2)

theorem rotation_never_locks_out_two_callers :
    Opens rotatedBackend (.kmip "hsm:5696") rotatedImage
      (Pool.run tools ((List.replicate 20 [(0, .ok, false), (1, .ok, false)]).flatten)
        ⟨fun _ => rotateEncryptionKey rotatedBackend ⟨rotatedImage, "", fun _ => .empty⟩,
          rotatedWorld⟩).state := by
  refine rotation_never_locks_out rotatedBackend (.kmip "hsm:5696") trivial rotatedImage
    rotatedRequests (fun _ => rfl) rotatedWorld rotatedWorld_staged
    ⟨.minted 0 0, rfl, by decide⟩ rotatedWorld_drawn _ (Pool.truthful_of_read ?_)
  decide

/-- The read of the stored key fails with a text that is taken for a missing key: the rotation
draws another one and stores it, though it does not open the header. -/
theorem misread_key_locks_out :
    let a := (Pool.run tools (List.replicate 5 (0, .ok, false) ++
      [(0, ⟨some (.error "executable file not found"), false, 0⟩, true)] ++
        List.replicate 10 (0, .ok, false))
      ⟨fun _ => rotateEncryptionKey rotatedBackend ⟨rotatedImage, "", fun _ => .empty⟩,
        rotatedWorld⟩).state
    Opens rotatedBackend (.kmip "hsm:5696") rotatedImage rotatedWorld ∧
      ¬Opens rotatedBackend (.kmip "hsm:5696") rotatedImage a := by
  intro a
  have hstored : stored rotatedBackend (.kmip "hsm:5696") "ceph" rotatedImage.spec a =
      some (.minted 0 2) := by decide +kernel
  have hheader : .minted 0 2 ∉ header a rotatedImage := by decide +kernel
  refine ⟨⟨.minted 0 0, rfl, by decide⟩, ?_⟩
  rintro ⟨p, hp, hmem⟩
  obtain rfl := Option.some.inj (hstored.symm.trans hp)
  exact hheader hmem

end Instance

end BardCsi.Ceph
