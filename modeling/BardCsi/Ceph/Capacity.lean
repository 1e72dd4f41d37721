import BardCsi.Ceph.StaticImages

/-!
The capacity of a new volume, in bytes. The plugin counts in MiB and with integers of 64 bits,
and an image that it has not made itself may end inside a MiB. The world below keeps the bytes
of each image and snapshot beyond its last full MiB next to the world of the plugin.
-/
namespace BardCsi.Ceph

open Effect Program

/-- The full MiB of an image and the bytes beyond them. -/
structure Size where
  full : Int
  rest : ℕ
deriving DecidableEq

def Size.bytes (z : Size) : Int := z.full * mib + z.rest

/-- A size that an image can have and that `rbd info` can report. -/
structure Size.Fits (z : Size) : Prop where
  full : 0 ≤ z.full
  rest : (z.rest : Int) < mib
  bytes : z.bytes < int64Limit

/-- The MiB of an image, or of one of its snapshots. -/
def Image.sizeOf (im : Image) : Option ObjectName → Option Int
  | none => some im.sizeMiB
  | some n => (Assoc.get im.snaps n).map Snapshot.sizeMiB

/-- The world, and the bytes of each image and snapshot beyond its last full MiB. -/
structure Sized where
  world : World
  rest : Spec → ℕ

namespace Sized

variable (s : Sized)

def sizeAt (x : Spec) : Option Size :=
  ((s.world.images x.image).bind fun im => im.sizeOf x.snap).map fun size => ⟨size, s.rest x⟩

/-- A size that is below zero, or that would cut off a part of the image. -/
def refuses : Cmd → Bool
  | .rbdCreate _ n _ => n < 0
  | .rbdResize i n => (s.sizeAt i.spec).any fun z => n * mib < z.bytes
  | _ => false

def choice (c : Cmd) (o : Outcome) : Outcome :=
  if s.refuses c then ⟨some (.error "invalid size"), false, 0⟩ else o

/-- The rests after a request that has left the world `after`. Images that are made or resized
end on a full MiB, and copies end where the original does. -/
def restAfter (c : Cmd) (after : World) : Spec → ℕ :=
  match c with
  | .rbdCreate i _ _ =>
      if (s.sizeAt i.spec).isNone then Function.update s.rest i.spec 0 else s.rest
  | .rbdClone parent i _ =>
      if (s.sizeAt i.spec).isNone then Function.update s.rest i.spec (s.rest parent) else s.rest
  | .rbdSnapCreate i n =>
      if (s.sizeAt (i.at n)).isNone then Function.update s.rest (i.at n) (s.rest i.spec)
      else s.rest
  | .rbdResize i _ =>
      if (after.images i).map Image.sizeMiB ≠ (s.world.images i).map Image.sizeMiB then
        Function.update s.rest i.spec 0
      else s.rest
  | _ => s.rest

def step (who : ℕ) (c : Cmd) (o : Outcome) : c.Reply × Sized :=
  let r := Ceph.step who c (s.choice c o) s.world
  (r.1, ⟨r.2, s.restAfter c r.2⟩)

/-- Every image and snapshot has a size that can be reported. -/
def Fits : Prop := ∀ x z, s.sizeAt x = some z → z.Fits

end Sized

def sizedMachine : Machine Cmd Cmd.Reply ℕ Outcome Sized := ⟨fun who c o s => s.step who c o⟩

/-- The same with failures that are misread. -/
def sizedTools : Machine Cmd Cmd.Reply ℕ (Outcome × Bool) Sized :=
  sizedMachine.misreading Cmd.misread

/-- A request of the orchestrator. Zero bytes stand for no bound. -/
structure CreateVolumeRpc where
  name : String
  requiredBytes : Int
  limitBytes : Int
  parameters : Params
  mutableParams : List (String × Text)
  secrets : Params
  contentSource : Option (Spec ⊕ ImageRef)

/-- Where a request goes: the checks of the driver have chosen the cluster and read the source. -/
structure Placed where
  inst : String
  sourceSnapshot : Option Spec
  sourceVolume : Option ImageRef

/-- What the driver asks the plugin for. -/
def CreateVolumeRpc.toBackend (rpc : CreateVolumeRpc) (p : Placed) : CreateVolumeRequest where
  name := rpc.name
  capacityBytes := rpc.requiredBytes
  inst := p.inst
  parameters := rpc.parameters
  mutableParams := rpc.mutableParams
  secrets := rpc.secrets
  sourceSnapshot := p.sourceSnapshot
  sourceVolume := p.sourceVolume

/-- The RPC of the driver. `place` stands for its checks, which need not accept the request. -/
def controllerCreateVolume (b : Backend) (place : CreateVolumeRpc → Except Err Placed)
    (rpc : CreateVolumeRpc) : Prog CreateVolumeResponse := do
  let p ← liftExcept (place rpc)
  createVolume b (rpc.toBackend p)

theorem bytesToMiB_neg {n : Int} (h : int64Limit - mib < n) (hn : n < int64Limit) :
    bytesToMiB n < 0 := by
  have hwrap : wrap64 (n + mib - 1) = -(18446744073709551616 - n - mib + 1) := by
    unfold wrap64
    unfold int64Limit at h hn
    unfold mib at h ⊢
    rw [Int.bmod_def]
    split
    · omega
    · omega
  unfold int64Limit at h hn
  unfold bytesToMiB
  rw [if_neg (by unfold mib at h; omega), hwrap, Int.neg_tdiv,
    Int.tdiv_eq_ediv_of_nonneg (by unfold mib at h ⊢; omega)]
  unfold mib at h ⊢
  omega

section Steps

variable {s s' : Sized} {who : ℕ} {c : Cmd} {o : Outcome} {i : ImageRef} {z : Size}

theorem sizeAt_congr (himages : s'.world.images = s.world.images) (hrest : s'.rest = s.rest) :
    s'.sizeAt = s.sizeAt := by
  funext x
  simp only [Sized.sizeAt, himages, hrest]

theorem sizeAt_image : s.sizeAt i.spec = (s.world.images i).map fun im =>
    ⟨im.sizeMiB, s.rest i.spec⟩ := by
  change Option.map _ ((s.world.images i).bind fun im => im.sizeOf none) = _
  cases s.world.images i with
  | none => rfl
  | some im => rfl

theorem sizeAt_image_none : s.sizeAt i.spec = none ↔ s.world.images i = none := by
  rw [sizeAt_image, Option.map_eq_none_iff]

/-- The requests that leave every image, and every size. -/
def Cmd.leavesSizes (c : Cmd) : Prop :=
  c.reads = true ∨ ∃ inst pool n, c = .namespaceCreate inst pool n

theorem step_leavesSizes (hc : c.leavesSizes) : (s.step who c o).2.sizeAt = s.sizeAt := by
  apply sizeAt_congr
  · obtain hc | ⟨inst, pool, n, rfl⟩ := hc
    · exact step_reads_images hc _ _
    · obtain h | h := step_state who (.namespaceCreate inst pool n) (s.choice _ o) s.world
      · exact congrArg World.images h
      · exact (congrArg World.images h).trans rfl
  · change s.restAfter c _ = s.rest
    obtain hc | ⟨inst, pool, n, rfl⟩ := hc
    · cases c with
      | rbdCreate i n args => cases hc
      | rbdClone parent i args => cases hc
      | rbdSnapCreate i n => cases hc
      | rbdResize i n => cases hc
      | _ => rfl
    · rfl

/-- The requests that remove or resize the image. -/
def Cmd.resizes (i : ImageRef) : Cmd → Bool
  | .rbdRm j | .rbdResize j _ => j = i
  | _ => false

theorem restAfter_image {w' : World} (hz : s.sizeAt i.spec = some z)
    (hc : c.resizes i = false) : s.restAfter c w' i.spec = s.rest i.spec := by
  have hupdate : ∀ j v, (s.sizeAt j).isNone = true →
      Function.update s.rest j v i.spec = s.rest i.spec := by
    intro j v hj
    apply Function.update_of_ne
    rintro rfl
    rw [hz] at hj
    cases hj
  cases c with
  | rbdCreate j n args =>
    change (if _ then Function.update s.rest j.spec 0 else s.rest) i.spec = _
    split
    next h => exact hupdate _ _ h
    next => rfl
  | rbdClone parent j args =>
    change (if _ then Function.update s.rest j.spec _ else s.rest) i.spec = _
    split
    next h => exact hupdate _ _ h
    next => rfl
  | rbdSnapCreate j n =>
    change (if _ then Function.update s.rest (j.at n) _ else s.rest) i.spec = _
    split
    next h => exact hupdate _ _ h
    next => rfl
  | rbdResize j n =>
    change (if _ then Function.update s.rest j.spec 0 else s.rest) i.spec = _
    have hij : i.spec ≠ j.spec := by
      intro h
      obtain rfl : i = j := congrArg Spec.image h
      simp [Cmd.resizes] at hc
    split
    · exact Function.update_of_ne hij _ _
    · rfl
  | _ => rfl

theorem step_keeps_size (hz : s.sizeAt i.spec = some z) (hc : c.resizes i = false) :
    (s.step who c o).2.sizeAt i.spec = some z := by
  have hrest : (s.step who c o).2.rest i.spec = s.rest i.spec := restAfter_image hz hc
  have hcarried : ∀ {im im' : Image}, Carried c i im im' → im'.sizeMiB = im.sizeMiB := by
    intro im im' h
    obtain h | ⟨n, rfl⟩ := h.size
    · exact h
    · simp [Cmd.resizes] at hc
  rw [sizeAt_image] at hz ⊢
  obtain ⟨im, him, rfl⟩ := Option.map_eq_some_iff.mp hz
  rw [hrest]
  have hb := step_becomes (c := c) (w := s.world) (j := i) who (s.choice c o)
  change Option.map _ ((Ceph.step who c (s.choice c o) s.world).2.images i) = _
  cases himages : (Ceph.step who c (s.choice c o) s.world).2.images i with
  | none =>
    rw [himages] at hb
    cases hb with
    | absent h => rw [h] at him; cases him
    | removed h => rw [h] at hc; simp [Cmd.resizes] at hc
  | some im' =>
    rw [himages] at hb
    cases hb with
    | kept h _ hsame =>
      obtain rfl := Option.some.inj (h.symm.trans him)
      simp [hcarried hsame]
    | set _ h _ hsame =>
      obtain rfl := Option.some.inj (h.symm.trans him)
      simp [hcarried hsame]
    | created _ h => rw [h] at him; cases him
    | cloned _ h _ _ _ => rw [h] at him; cases him

theorem fault_not_exists (f : Fault) : f.run ≠ .alreadyExists := by
  cases f with
  | error t => simp [Fault.run]
  | status c => simp [Fault.run]

theorem step_clone (who : ℕ) (o : Outcome) (parent : Spec) (args : List Text)
    (hnone : s.world.images i = none) :
    (∃ z, (s.step who (.rbdClone parent i args) o).1 = .ok () ∧ s.sizeAt parent = some z ∧
        (s.step who (.rbdClone parent i args) o).2.sizeAt i.spec = some z) ∨
      ∃ e, (s.step who (.rbdClone parent i args) o).1 = .error e ∧ e ≠ .alreadyExists := by
  have hrest : (s.step who (.rbdClone parent i args) o).2.rest i.spec = s.rest parent := by
    change (if _ then Function.update s.rest i.spec (s.rest parent) else s.rest) i.spec = _
    rw [if_pos (by rw [sizeAt_image_none.mpr hnone]; rfl), Function.update_self]
  obtain hs | ⟨f, _, hf, _⟩ := step_cases who (.rbdClone parent i args)
    (s.choice (.rbdClone parent i args) o) s.world
  · have hreply : (s.step who (.rbdClone parent i args) o).1 =
        (performClone parent i s.world).1 := congrArg Prod.fst hs
    have hworld : (s.step who (.rbdClone parent i args) o).2.world =
        (performClone parent i s.world).2 := congrArg Prod.snd hs
    unfold performClone onImage at hreply hworld
    cases hp : s.world.images parent.image with
    | none =>
      rw [hp] at hreply
      exact .inr ⟨_, hreply, by simp⟩
    | some im =>
      rw [hp] at hreply hworld
      cases hsnap : parent.snap.bind (Assoc.get im.snaps) with
      | none =>
        simp only [hsnap] at hreply
        exact .inr ⟨_, hreply, by simp⟩
      | some sn =>
        have habsent : (s.world.images i).isSome ≠ true := by simp [hnone]
        simp only [hsnap, if_neg habsent] at hreply hworld
        obtain ⟨n, hn, hget⟩ := Option.bind_eq_some_iff.mp hsnap
        refine .inl ⟨⟨sn.sizeMiB, s.rest parent⟩, hreply, ?_, ?_⟩
        · simp [Sized.sizeAt, hp, hn, Image.sizeOf, hget]
        · rw [sizeAt_image, hworld, hrest]
          exact congrArg (Option.map _) setImage_images_self
  · exact .inr ⟨f.run, (Option.some.inj hf).symm, fault_not_exists f⟩

theorem step_create (who : ℕ) (o : Outcome) (n : Int) (args : List Text)
    (hnone : s.world.images i = none) :
    ((s.step who (.rbdCreate i n args) o).1 = .ok () ∧ 0 ≤ n ∧
        (s.step who (.rbdCreate i n args) o).2.sizeAt i.spec = some ⟨n, 0⟩) ∨
      ∃ e, (s.step who (.rbdCreate i n args) o).1 = .error e ∧ e ≠ .alreadyExists := by
  have hrest : (s.step who (.rbdCreate i n args) o).2.rest i.spec = 0 := by
    change (if _ then Function.update s.rest i.spec 0 else s.rest) i.spec = _
    rw [if_pos (by rw [sizeAt_image_none.mpr hnone]; rfl), Function.update_self]
  by_cases hn : n < 0
  · have hrefused : s.choice (.rbdCreate i n args) o =
        ⟨some (.error "invalid size"), false, 0⟩ := if_pos (by simpa [Sized.refuses] using hn)
    right
    refine ⟨.other "invalid size", ?_, by simp⟩
    change (Ceph.step who (.rbdCreate i n args) (s.choice _ o) s.world).1 = _
    rw [hrefused]
    rfl
  obtain hs | ⟨f, _, hf, _⟩ := step_cases who (.rbdCreate i n args)
    (s.choice (.rbdCreate i n args) o) s.world
  · have hreply : (s.step who (.rbdCreate i n args) o).1 = (performCreate i n s.world).1 :=
      congrArg Prod.fst hs
    have hworld : (s.step who (.rbdCreate i n args) o).2.world =
        (performCreate i n s.world).2 := congrArg Prod.snd hs
    unfold performCreate at hreply hworld
    rw [if_neg (by simp [hnone])] at hreply hworld
    refine .inl ⟨hreply, Int.not_lt.mp hn, ?_⟩
    rw [sizeAt_image, hworld, hrest]
    exact congrArg (Option.map _) setImage_images_self
  · exact .inr ⟨f.run, (Option.some.inj hf).symm, fault_not_exists f⟩

theorem step_resize (who : ℕ) (o : Outcome) {n : Int} (hz : s.sizeAt i.spec = some z)
    (hn : z.full < n) :
    ((s.step who (.rbdResize i n) o).1 = .ok () ∧
        (s.step who (.rbdResize i n) o).2.sizeAt i.spec = some ⟨n, 0⟩) ∨
      ∃ e, (s.step who (.rbdResize i n) o).1 = .error e := by
  obtain hs | ⟨f, _, hf, _⟩ := step_cases who (.rbdResize i n)
    (s.choice (.rbdResize i n) o) s.world
  · rw [sizeAt_image] at hz
    obtain ⟨im, him, rfl⟩ := Option.map_eq_some_iff.mp hz
    have hresized : performResize i n s.world =
        done (s.world.setImage i { im with sizeMiB := n }) := by
      unfold performResize onImage
      rw [him]
      exact if_neg (Int.not_lt.mpr (Int.le_of_lt hn))
    have hstep : Ceph.step who (.rbdResize i n) (s.choice _ o) s.world =
        done (s.world.setImage i { im with sizeMiB := n }) := hs.trans hresized
    refine .inl ⟨congrArg Prod.fst hstep, ?_⟩
    have hworld : (s.step who (.rbdResize i n) o).2.world =
        s.world.setImage i { im with sizeMiB := n } := congrArg Prod.snd hstep
    have hrest : (s.step who (.rbdResize i n) o).2.rest i.spec = 0 := by
      change (if (_ : Option Int) ≠ _ then Function.update s.rest i.spec 0 else s.rest) i.spec = _
      rw [if_pos, Function.update_self]
      change ((s.step who (.rbdResize i n) o).2.world.images i).map Image.sizeMiB ≠ _
      rw [hworld, setImage_images_self, him]
      simpa using (Int.ne_of_lt hn).symm
    rw [sizeAt_image, hworld, hrest]
    exact congrArg (Option.map _) setImage_images_self
  · exact .inr ⟨f.run, (Option.some.inj hf).symm⟩

theorem step_snapCreate (who : ℕ) (o : Outcome) (i : ImageRef) (n : ObjectName) :
    (((s.step who (.rbdSnapCreate i n) o).1 = .ok () ∨
        (s.step who (.rbdSnapCreate i n) o).1 = .error .alreadyExists) ∧
        (s.step who (.rbdSnapCreate i n) o).2.sizeAt (i.at n) =
          (s.sizeAt (i.at n)).or (s.sizeAt i.spec)) ∨
      ∃ e, (s.step who (.rbdSnapCreate i n) o).1 = .error e ∧ e ≠ .alreadyExists := by
  obtain hs | ⟨f, _, hf, _⟩ := step_cases who (.rbdSnapCreate i n)
    (s.choice (.rbdSnapCreate i n) o) s.world
  · have hreply : (s.step who (.rbdSnapCreate i n) o).1 = (performSnapCreate i n s.world).1 :=
      congrArg Prod.fst hs
    have hworld : (s.step who (.rbdSnapCreate i n) o).2.world =
        (performSnapCreate i n s.world).2 := congrArg Prod.snd hs
    unfold performSnapCreate onImage at hreply hworld
    cases him : s.world.images i with
    | none =>
      rw [him] at hreply
      exact .inr ⟨_, hreply, by simp⟩
    | some im =>
      simp only [him] at hreply hworld
      have hbefore : s.sizeAt (i.at n) =
          (Assoc.get im.snaps n).map fun sn => ⟨sn.sizeMiB, s.rest (i.at n)⟩ := by
        simp [Sized.sizeAt, ImageRef.at, him, Image.sizeOf, Function.comp_def]
      have hrest : (s.step who (.rbdSnapCreate i n) o).2.rest (i.at n) =
          if (s.sizeAt (i.at n)).isNone then s.rest i.spec else s.rest (i.at n) := by
        change (if _ then Function.update s.rest (i.at n) _ else s.rest) (i.at n) = _
        split
        · exact Function.update_self ..
        · rfl
      left
      cases hget : Assoc.get im.snaps n with
      | some sn =>
        rw [hget] at hbefore
        simp only [hget] at hreply hworld
        refine ⟨.inr hreply, ?_⟩
        rw [hbefore] at hrest ⊢
        simp [Sized.sizeAt, ImageRef.at, hworld, refused, him, Image.sizeOf, hget] at hrest ⊢
        exact hrest
      | none =>
        rw [hget] at hbefore
        simp only [hget] at hreply hworld
        refine ⟨.inl hreply, ?_⟩
        rw [hbefore] at hrest ⊢
        rw [Option.map_none, Option.none_or, sizeAt_image, him]
        unfold Sized.sizeAt
        rw [hworld, hrest]
        simp [ImageRef.at, done, World.setImage, Image.sizeOf, Assoc.get_set_self]
  · exact .inr ⟨f.run, (Option.some.inj hf).symm, fault_not_exists f⟩

end Steps

/-- The size of what the create copies, or the size that it asks for. -/
def CreateVolumeRequest.sourceSize (req : CreateVolumeRequest) (s : Sized) (sizeMiB : Int) :
    Option Size :=
  match req.snapshot, req.source with
  | some parent, _ => s.sizeAt parent
  | none, some parent => (s.sizeAt (parent.at req.tmpSnap)).or (s.sizeAt parent.spec)
  | none, none => some ⟨sizeMiB, 0⟩

/-- The size of the image of that name if there is one, else of the new one. -/
def CreateVolumeRequest.startSize (req : CreateVolumeRequest) (s : Sized) (i : ImageRef)
    (sizeMiB : Int) : Option Size :=
  (s.sizeAt i.spec).or (req.sourceSize s sizeMiB)

/-- The size after growing to the request, if it is smaller. -/
def Size.grow (z : Size) (sizeMiB : Int) : Size := if z.full < sizeMiB then ⟨sizeMiB, 0⟩ else z

/-- The size is one that the state knows, or the one asked for. -/
def Sized.Knows (s : Sized) (sizeMiB : Int) (z : Size) : Prop :=
  (∃ x, s.sizeAt x = some z) ∨ 0 ≤ sizeMiB ∧ z = ⟨sizeMiB, 0⟩

section Creating

variable {α β : Type} {s : Sized} {who : ℕ} {i : ImageRef} {z : Size} {sizeMiB : Int}
variable {b : Backend} {req : CreateVolumeRequest} {p : Prog α}

/-- One caller, and nothing assumed about the outcomes. -/
abbrev sizedAlone : Contract Cmd Outcome Sized :=
  .alone (fun _ => True) (fun _ _ _ => True) fun _ _ _ => True

theorem meets_sized {c : Cmd} {k : c.Reply → Prog α} {Q : Except Err α → Sized → Prop}
    (h : ∀ o, (k (s.step who c o).1).Meets sizedMachine who sizedAlone Q (s.step who c o).2) :
    ((run c).bind k).Meets sizedMachine who sizedAlone Q s := by
  refine meets_request_alone.mpr fun _ o _ => ?_
  exact ⟨trivial, trivial, h o⟩

theorem uses_sized {allowed : Cmd → Prop} {P : Sized → Prop} (hp : p.Uses allowed) (hs : P s)
    (hstep : ∀ c o a, allowed c → P a → P (a.step who c o).2) :
    p.Meets sizedMachine who sizedAlone (fun _ => P) s := by
  apply Meets.of_uses hp hs
  · rintro a a' rfl ha
    exact ha
  · exact fun c o a hc _ _ ha => ⟨trivial, trivial, hstep c o a hc ha⟩

theorem keeps_sized (hp : p.Uses fun c => c.resizes i = false) (hz : s.sizeAt i.spec = some z) :
    p.Meets sizedMachine who sizedAlone (fun _ a => a.sizeAt i.spec = some z) s :=
  uses_sized hp hz fun _ _ _ hc ha => step_keeps_size ha hc

theorem leaves_sized (hp : p.Uses Cmd.leavesSizes) :
    p.Meets sizedMachine who sizedAlone (fun _ a => a.sizeAt = s.sizeAt) s :=
  uses_sized (P := fun a => a.sizeAt = s.sizeAt) hp rfl
    fun _ _ _ hc ha => (step_leavesSizes hc).trans ha

theorem imageInfo_sized : (imageInfo i).Meets sizedMachine who sizedAlone
    (IfOk fun r a => r = (s.sizeAt i.spec).map Size.full ∧ a.sizeAt = s.sizeAt) s := by
  apply meets_sized
  intro o
  have hsizes : (s.step who (.rbdInfo i) o).2.sizeAt = s.sizeAt := step_leavesSizes (.inl rfl)
  obtain hs | ⟨f, _, hf, _⟩ := step_cases who (.rbdInfo i) (s.choice (.rbdInfo i) o) s.world
  · have hreply : (s.step who (.rbdInfo i) o).1 =
        (onImage i s.world fun im => (.ok im.sizeMiB, s.world)).1 := congrArg Prod.fst hs
    rw [sizeAt_image]
    unfold onImage at hreply
    cases him : s.world.images i with
    | none =>
      rw [him] at hreply
      rw [hreply]
      exact meets_pure_alone.mpr fun _ => ⟨rfl, hsizes⟩
    | some im =>
      rw [him] at hreply
      rw [hreply]
      exact meets_pure_alone.mpr fun _ => ⟨rfl, hsizes⟩
  · have hreply : (s.step who (.rbdInfo i) o).1 = .error f.run := (Option.some.inj hf).symm
    rw [hreply]
    cases f with
    | error t => exact meets_fail_alone.mpr fun _ => trivial
    | status c => exact meets_fail_alone.mpr fun _ => trivial

theorem resizeImage_sized (hz : s.sizeAt i.spec = some z) (hn : z.full < sizeMiB) :
    (resizeImage i sizeMiB).Meets sizedMachine who sizedAlone
      (IfOk fun _ a => a.sizeAt i.spec = some ⟨sizeMiB, 0⟩) s := by
  apply meets_sized
  intro o
  obtain ⟨hreply, hsize⟩ | ⟨e, hreply⟩ := step_resize who o hz hn
  · rw [hreply]
    exact meets_pure_alone.mpr fun _ => hsize
  · rw [hreply]
    exact meets_fail_alone.mpr fun _ => trivial

theorem grow_sized (hz : s.sizeAt i.spec = some z) :
    (if z.full < sizeMiB then (resizeImage i sizeMiB).bind fun _ => Program.pure sizeMiB
      else Program.pure z.full).Meets sizedMachine who sizedAlone
      (IfOk fun x a => x = (z.grow sizeMiB).full ∧
        a.sizeAt i.spec = some (z.grow sizeMiB)) s := by
  unfold Size.grow
  refine Meets.ite (fun hlt => ?_) fun hlt => ?_
  · rw [if_pos hlt]
    apply (resizeImage_sized hz hlt).ends
    exact fun _ a _ ha => meets_pure_alone.mpr fun _ => ⟨rfl, ha⟩
  · rw [if_neg hlt]
    exact meets_pure_alone.mpr fun _ => ⟨rfl, hz⟩

theorem resumeImage_sized (hz : s.sizeAt i.spec = some z) :
    (resumeImage req i z.full sizeMiB).Meets sizedMachine who sizedAlone
      (IfOk fun x a => x = (z.grow sizeMiB).full ∧
        a.sizeAt i.spec = some (z.grow sizeMiB)) s := by
  have hread : (imageMetaGet i.spec .source).Meets sizedMachine who sizedAlone
      (IfOk fun _ a => a.sizeAt i.spec = some z) s :=
    (keeps_sized (imageMetaGet_uses rfl) hz).ifOk
  apply hread.ends
  intro recorded a _ ha
  refine Meets.ite (fun _ => meets_fail_alone.mpr fun _ => trivial) fun _ => ?_
  refine Meets.ite (fun heq => ?_) fun _ => ?_
  · have hgrow : z.grow sizeMiB = z := if_neg (by omega)
    rw [hgrow]
    exact meets_pure_alone.mpr fun _ => ⟨rfl, ha⟩
  refine Meets.ite (fun _ => meets_fail_alone.mpr fun _ => trivial) fun _ => ?_
  exact grow_sized ha

/-- A check of a reply that goes on after a success and stops at other failures than that the
object exists. -/
structure Strict (check : Except RunError Unit → Prog Unit) : Prop where
  ok : check (.ok ()) = .pure ()
  error : ∀ e, e ≠ .alreadyExists → ∃ err, check (.error e) = fail err

theorem orFail_strict (msg : List Text) : Strict fun r => orFail r msg :=
  ⟨rfl, fun _ _ => ⟨_, rfl⟩⟩

theorem tolerating_strict (msg : List Text) : Strict fun r => tolerating .alreadyExists r msg :=
  ⟨rfl, fun _ he => ⟨_, if_neg he⟩⟩

theorem clone_sized {check : Except RunError Unit → Prog Unit} (hcheck : Strict check)
    {parent : Spec} {args : List Text} {rest : Prog Unit} (hnone : s.world.images i = none)
    (hrest : rest.Uses fun c => c.resizes i = false) :
    ((run (.rbdClone parent i args)).bind fun r => (check r).bind fun _ => rest).Meets
      sizedMachine who sizedAlone
      (IfOk fun _ a => ∃ z, s.sizeAt parent = some z ∧ a.sizeAt i.spec = some z) s := by
  apply meets_sized
  intro o
  obtain ⟨z, hreply, hsource, hsize⟩ | ⟨e, hreply, hne⟩ :=
    step_clone who o parent args hnone
  · rw [hreply, hcheck.ok]
    apply (keeps_sized hrest hsize).ifOk.mono
    intro r a _ ha
    cases r with
    | ok _ => exact ⟨z, hsource, ha⟩
    | error _ => trivial
  · obtain ⟨err, herr⟩ := hcheck.error e hne
    rw [hreply, herr]
    exact meets_fail_alone.mpr fun _ => trivial

theorem absent_snapCreate {parent : ImageRef} {n : ObjectName} {o : Outcome}
    (hnone : s.world.images i = none) :
    (s.step who (.rbdSnapCreate parent n) o).2.world.images i = none := by
  have hb := step_becomes (c := .rbdSnapCreate parent n) (w := s.world) (j := i) who o
  change (Ceph.step who (.rbdSnapCreate parent n) o s.world).2.images i = none
  cases himages : (Ceph.step who (.rbdSnapCreate parent n) o s.world).2.images i with
  | none => rfl
  | some im =>
    rw [himages] at hb
    cases hb with
    | kept h _ _ => rw [hnone] at h; cases h
    | set _ h _ _ => rw [hnone] at h; cases h
    | created h _ => cases h
    | cloned h _ _ _ _ => cases h

theorem provision_sized (hnone : s.world.images i = none) :
    (provision b req i sizeMiB).Meets sizedMachine who sizedAlone
      (IfOk fun _ a => ∃ z, req.sourceSize s sizeMiB = some z ∧ s.Knows sizeMiB z ∧
        a.sizeAt i.spec = some z) s := by
  have hstamp : (imageMetaSet i.spec .source req.sourceDesc).Uses fun c => c.resizes i = false :=
    imageMetaSet_uses rfl
  unfold provision CreateVolumeRequest.sourceSize
  cases hsnap : req.snapshot with
  | some parent =>
    dsimp only
    have hrest : Uses (fun c => c.resizes i = false)
        ((imageMetaSet i.spec .source req.sourceDesc).bind fun _ => scheduleFlatten b i) :=
      hstamp.bind fun _ => Uses.ite trivial (backgroundFlatten_uses rfl)
    apply (clone_sized (orFail_strict _) hnone hrest).mono
    rintro (_ | _) a _ ha
    · trivial
    · obtain ⟨z, hsource, hsize⟩ := ha
      exact ⟨z, hsource, .inl ⟨_, hsource⟩, hsize⟩
  | none =>
    cases hsource : req.source with
    | some parent =>
      dsimp only
      apply meets_sized
      intro o
      obtain ⟨hreply, hcopy⟩ | ⟨e, hreply, hne⟩ :=
        step_snapCreate (s := s) who o parent req.tmpSnap
      · have hgoes : ∀ msg, tolerating .alreadyExists
            (s.step who (.rbdSnapCreate parent req.tmpSnap) o).1 msg = (.pure () : Prog Unit) := by
          intro msg
          rcases hreply with hreply | hreply
          · rw [hreply]
            rfl
          · rw [hreply]
            rfl
        rw [hgoes]
        apply (clone_sized (tolerating_strict _) (absent_snapCreate hnone) hstamp).mono
        rintro (_ | _) a _ ha
        · trivial
        · obtain ⟨z, hz, hsize⟩ := ha
          rw [hcopy] at hz
          refine ⟨z, hz, .inl ?_, hsize⟩
          obtain h | ⟨_, h⟩ := Option.or_eq_some_iff.mp hz
          · exact ⟨_, h⟩
          · exact ⟨_, h⟩
      · obtain ⟨err, herr⟩ := (tolerating_strict _).error e hne
        rw [hreply, herr]
        exact meets_fail_alone.mpr fun _ => trivial
    | none =>
      dsimp only
      apply meets_sized
      intro o
      obtain ⟨hreply, hnonneg, hsize⟩ | ⟨e, hreply, hne⟩ :=
        step_create who o sizeMiB (createParams req.parameters) hnone
      · rw [hreply]
        exact meets_pure_alone.mpr fun _ => ⟨_, rfl, .inr ⟨hnonneg, rfl⟩, hsize⟩
      · obtain ⟨err, herr⟩ := (tolerating_strict _).error e hne
        rw [hreply, herr]
        exact meets_fail_alone.mpr fun _ => trivial

theorem existingInfo_sized (hz : s.sizeAt i.spec = some z) :
    (existingInfo i).Meets sizedMachine who sizedAlone
      (IfOk fun x a => x = z.full ∧ a.sizeAt i.spec = some z) s := by
  apply imageInfo_sized.ends
  rintro r a _ ⟨rfl, ha⟩
  rw [hz]
  refine meets_pure_alone.mpr fun _ => ⟨rfl, ?_⟩
  rw [ha, hz]

theorem sourceSize_plain (h : req.isClone = false) :
    req.sourceSize s sizeMiB = some ⟨sizeMiB, 0⟩ := by
  obtain ⟨hsnapshot, hvolume⟩ : req.sourceSnapshot = none ∧ req.sourceVolume = none := by
    simpa [CreateVolumeRequest.isClone] using h
  simp [CreateVolumeRequest.sourceSize, CreateVolumeRequest.snapshot, CreateVolumeRequest.source,
    hsnapshot, hvolume]

/-- What the image of the create has become, from the size that the create started from. -/
def Grown (req : CreateVolumeRequest) (i : ImageRef) (sizeMiB : Int) (s : Sized) (x : Int)
    (a : Sized) : Prop :=
  ∃ z, req.startSize s i sizeMiB = some z ∧ s.Knows sizeMiB z ∧ x = (z.grow sizeMiB).full ∧
    a.sizeAt i.spec = some (z.grow sizeMiB)

theorem Grown.of_sizes {a u : Sized} {x : Int} (h : Grown req i sizeMiB a x u)
    (ha : a.sizeAt = s.sizeAt) : Grown req i sizeMiB s x u := by
  have hsource : req.sourceSize a sizeMiB = req.sourceSize s sizeMiB := by
    simp only [CreateVolumeRequest.sourceSize, ha]
  obtain ⟨z, hstart, hknows, hgrown⟩ := h
  rw [CreateVolumeRequest.startSize, ha, hsource] at hstart
  unfold Sized.Knows at hknows
  rw [ha] at hknows
  exact ⟨z, hstart, hknows, hgrown⟩

theorem provisionImage_sized (hnone : s.sizeAt i.spec = none) :
    (provisionImage b req i sizeMiB).Meets sizedMachine who sizedAlone
      (IfOk (Grown req i sizeMiB s)) s := by
  have hstart : req.startSize s i sizeMiB = req.sourceSize s sizeMiB := by
    rw [CreateVolumeRequest.startSize, hnone, Option.none_or]
  apply (provision_sized (sizeAt_image_none.mp hnone)).ends
  rintro _ a _ ⟨z, hsource, hknows, hz⟩
  refine Meets.ite (fun _ => ?_) fun hplain => ?_
  · apply (existingInfo_sized hz).ends
    rintro _ a' _ ⟨rfl, ha'⟩
    apply (grow_sized ha').mono
    rintro (_ | x) u _ hu
    · trivial
    · exact ⟨z, hstart.trans hsource, hknows, hu⟩
  · rw [sourceSize_plain (by simpa using hplain)] at hsource
    obtain rfl := Option.some.inj hsource
    have hgrow : Size.grow ⟨sizeMiB, 0⟩ sizeMiB = ⟨sizeMiB, 0⟩ := if_neg (Int.lt_irrefl _)
    refine meets_pure_alone.mpr fun _ => ⟨_, ?_, hknows, ?_, ?_⟩
    · rw [hstart, sourceSize_plain (by simpa using hplain)]
    · rw [hgrow]
    · rwa [hgrow]

theorem createSized_sized :
    (createSized b req i sizeMiB).Meets sizedMachine who sizedAlone
      (IfOk (Grown req i sizeMiB s)) s := by
  apply imageInfo_sized.ends
  rintro r a _ ⟨rfl, ha⟩
  cases hz : s.sizeAt i.spec with
  | none =>
    apply (provisionImage_sized (by rw [ha, hz])).mono
    rintro (_ | x) u _ hu
    · trivial
    · exact Grown.of_sizes hu ha
  | some z =>
    apply (resumeImage_sized (by rw [ha, hz])).mono
    rintro (_ | x) u _ hu
    · trivial
    · refine ⟨z, ?_, .inl ⟨_, hz⟩, hu⟩
      rw [CreateVolumeRequest.startSize, hz, Option.some_or]

theorem resizes_of_store {c : Cmd} (hc : c.storesKey = true) : c.resizes i = false := by
  cases c with
  | rbdRm j => cases hc
  | rbdResize j n => cases hc
  | _ => rfl

theorem finishVolume_keeps (cc : ClusterConfig) (pool : String) (finalMiB : Int) :
    (finishVolume b req i cc pool finalMiB).Uses fun c => c.resizes i = false := by
  have hdrop : (dropTmpSnap req i).Uses fun c => c.resizes i = false := by
    unfold dropTmpSnap
    split
    · trivial
    next parent _ =>
      refine tool_uses (c := .rbdSnapRm (parent.at req.tmpSnap)) rfl fun r => ?_
      exact tolerating_uses.bind fun _ => backgroundFlatten_uses rfl
  apply hdrop.bind
  intro _
  apply (applyMutableParams_uses (fun _ _ => rfl) _).bind
  intro _
  apply (recordEncryption_uses (fun _ => resizes_of_store) b req fun _ _ _ => rfl).bind
  intro encKeyID
  apply (setOwnerMetadata_uses fun _ _ _ => rfl).bind
  intro _
  exact Uses.bind (imageMetaLabel_uses (by rfl)) fun _ => trivial

theorem finishVolume_yields (cc : ClusterConfig) (pool : String) (finalMiB : Int) :
    (finishVolume b req i cc pool finalMiB).Yields fun resp =>
      resp.volume = i ∧ resp.capacityBytes = finalMiB * mib := by
  unfold finishVolume
  repeat'
    first
    | apply Yields.bind
    | intro _
  exact ⟨rfl, rfl⟩

/-- What a create reports about the image of its volume. -/
def Reported (b : Backend) (req : CreateVolumeRequest) (s : Sized) (resp : CreateVolumeResponse)
    (a : Sized) : Prop :=
  createTarget b req = some resp.volume ∧
    ∃ x, resp.capacityBytes = x * mib ∧
      Grown req resp.volume (bytesToMiB req.capacityBytes) s x a

theorem createAfter_sized {p : Prog CreateVolumeResponse} (cc : ClusterConfig) (pool ns : String)
    {P : CreateVolumeResponse → Sized → Prop}
    (hp : ∀ a, a.sizeAt = s.sizeAt →
      p.Meets sizedMachine who sizedAlone (IfOk P) a) :
    (createAfter req cc pool ns p).Meets sizedMachine who sizedAlone (IfOk P) s := by
  have hconn : (connArgs cc req.inst req.secrets).Uses Cmd.leavesSizes :=
    connArgs_uses (fun _ _ => .inl rfl) _ _ _
  apply (leaves_sized hconn).ifOk.ends
  intro _ a _ ha
  refine Meets.ite (fun _ => ?_) fun _ => hp a ha
  have hns : (ensureNamespace req.inst pool ns).Uses Cmd.leavesSizes :=
    ensureNamespace_uses (fun _ _ => .inl rfl) (fun _ _ _ => .inr ⟨_, _, _, rfl⟩) _ _ _
  apply (leaves_sized hns).ifOk.ends
  exact fun _ a' _ ha' => hp a' (ha'.trans ha)

theorem createVolume_sized :
    (createVolume b req).Meets sizedMachine who sizedAlone
      (IfOk (Reported b req s)) s := by
  obtain ⟨e, hfail⟩ | ⟨i, cc, pool, ns, hi, hon⟩ := createVolume_cases b req
  · rw [hfail]
    exact meets_fail_alone.mpr fun _ => trivial
  · rw [hon]
    apply createAfter_sized
    intro a ha
    apply createSized_sized.ends
    intro x u _ hu
    obtain ⟨z, hstart, hknows, hx, hz⟩ := hu.of_sizes ha
    apply ((keeps_sized (finishVolume_keeps cc pool x) hz).yields
      (finishVolume_yields cc pool x)).mono
    rintro (_ | resp) v _ hv
    · trivial
    · obtain ⟨⟨rfl, hcapacity⟩, hv⟩ := hv
      exact ⟨hi, x, hcapacity, z, hstart, hknows, hx, hv⟩

end Creating

/-- What the request asks of the size that the create starts from: the limit leaves room for it
and for the request rounded up to MiB, and it ends on a full MiB unless it is grown. -/
def CreateVolumeRpc.Admits (rpc : CreateVolumeRpc) (z : Size) : Prop :=
  (rpc.limitBytes = 0 ∨
      bytesToMiB rpc.requiredBytes * mib ≤ rpc.limitBytes ∧ z.full * mib ≤ rpc.limitBytes) ∧
    (z.rest = 0 ∨ z.full < bytesToMiB rpc.requiredBytes)

/-- The create can be honoured: the request is not within a MiB of the largest value of 64 bits,
and the size of the image it starts from fits. -/
def CreateVolumeRpc.Honourable (rpc : CreateVolumeRpc) (b : Backend)
    (place : CreateVolumeRpc → Except Err Placed) (s : Sized) : Prop :=
  rpc.requiredBytes ≤ int64Limit - mib ∧
    ∀ p i z, place rpc = .ok p → createTarget b (rpc.toBackend p) = some i →
      (rpc.toBackend p).startSize s i (bytesToMiB rpc.requiredBytes) = some z → rpc.Admits z

/-- The reported capacity is within the bounds of the request, and the image has it. -/
def CreateVolumeRpc.HonouredBy (rpc : CreateVolumeRpc) (resp : CreateVolumeResponse) (s : Sized) :
    Prop :=
  rpc.requiredBytes ≤ resp.capacityBytes ∧
    (0 < rpc.limitBytes → resp.capacityBytes ≤ rpc.limitBytes) ∧
    (s.sizeAt resp.volume.spec).map Size.bytes = some resp.capacityBytes

section Limits

variable {rpc : CreateVolumeRpc} {z : Size}

theorem grow_covers {n : Int} (hn : n ≤ int64Limit - mib) :
    n ≤ (z.grow (bytesToMiB n)).full * mib := by
  have h := bytesToMiB_covers hn
  unfold Size.grow
  unfold mib at h ⊢
  split
  · exact h
  · omega

theorem grow_le_iff {n l : Int} :
    (z.grow n).full * mib ≤ l ↔ n * mib ≤ l ∧ z.full * mib ≤ l := by
  unfold Size.grow mib
  split
  · dsimp only
    omega
  · omega

theorem grow_rest_iff {n : Int} : (z.grow n).rest = 0 ↔ z.rest = 0 ∨ z.full < n := by
  unfold Size.grow
  split
  next h => simp [h]
  next h => simp [h]

theorem Size.bytes_eq_iff : z.bytes = z.full * mib ↔ z.rest = 0 := by
  unfold Size.bytes
  omega

theorem grown_honours_iff (hlimit : rpc.limitBytes = 0 ∨ rpc.requiredBytes ≤ rpc.limitBytes)
    (hfar : rpc.requiredBytes ≤ int64Limit - mib) (hrequired : 0 ≤ rpc.requiredBytes)
    {resp : CreateVolumeResponse} {a : Sized}
    (hcapacity : resp.capacityBytes = (z.grow (bytesToMiB rpc.requiredBytes)).full * mib)
    (ha : a.sizeAt resp.volume.spec = some (z.grow (bytesToMiB rpc.requiredBytes))) :
    rpc.HonouredBy resp a ↔ rpc.Admits z := by
  unfold CreateVolumeRpc.HonouredBy CreateVolumeRpc.Admits
  rw [ha, hcapacity, Option.map_some, Option.some_inj, Size.bytes_eq_iff, grow_rest_iff,
    ← grow_le_iff]
  have hcovers := grow_covers (z := z) hfar
  constructor
  · rintro ⟨_, hle, hrest⟩
    refine ⟨?_, hrest⟩
    by_cases hzero : rpc.limitBytes = 0
    · exact .inl hzero
    · exact .inr (hle (by omega))
  · rintro ⟨hle, hrest⟩
    refine ⟨hcovers, fun hpos => ?_, hrest⟩
    obtain hzero | hle := hle
    · omega
    · exact hle

theorem overflow_not_covered {s : Sized} (hs : s.Fits) {r : Int} (h : int64Limit - mib < r)
    (hr : r < int64Limit) (hknows : s.Knows (bytesToMiB r) z) :
    (z.grow (bytesToMiB r)).full * mib < r := by
  have hneg := bytesToMiB_neg h hr
  obtain ⟨x, hx⟩ | ⟨hnonneg, _⟩ := hknows
  · have hfits := hs x z hx
    have hfull := hfits.full
    have hbytes := hfits.bytes
    have hgrow : z.grow (bytesToMiB r) = z := if_neg (by omega)
    rw [hgrow]
    unfold Size.bytes at hbytes
    unfold int64Limit at h hr hbytes
    unfold mib at h hbytes ⊢
    omega
  · omega

end Limits

/-- A create that misreads no failure and succeeds reports a capacity between the required bytes
and the limit, and its image has that many bytes, exactly if the request stays a MiB below the
largest value of 64 bits, the limit leaves room for the request rounded up to MiB and for the size
that the create starts from, and that size is one of full MiB or smaller than the request. -/
theorem create_capacity_honoured_iff (b : Backend)
    (place : CreateVolumeRpc → Except Err Placed) (rpc : CreateVolumeRpc)
    (hrequired : 0 ≤ rpc.requiredBytes) (hbound : rpc.requiredBytes < int64Limit)
    (hlimit : rpc.limitBytes = 0 ∨ rpc.requiredBytes ≤ rpc.limitBytes)
    (s : Sized) (hs : s.Fits) (who : ℕ) (xs : List (Outcome × Bool))
    (htrue : sizedMachine.TruthfulRun Cmd.misread who (controllerCreateVolume b place rpc) xs s)
    (resp : CreateVolumeResponse)
    (hok : (sizedTools.exec who (controllerCreateVolume b place rpc) xs s).2.2 =
      some (.ok resp)) :
    rpc.HonouredBy resp (sizedTools.exec who (controllerCreateVolume b place rpc) xs s).2.1 ↔
      rpc.Honourable b place s := by
  obtain ⟨os, hstop, _⟩ := Machine.exec_truthful xs htrue
  rw [sizedTools, ← hstop] at hok ⊢
  unfold controllerCreateVolume at hok ⊢
  cases hplace : place rpc with
  | error e =>
    rw [hplace] at hok
    cases hok
  | ok p =>
    rw [hplace] at hok
    have hreported : Reported b (rpc.toBackend p) s resp
        (sizedMachine.exec who (createVolume b (rpc.toBackend p)) os s).2.1 :=
      (createVolume_sized.exec trivial os fun _ _ => trivial).2.2 _ hok
    change rpc.HonouredBy resp
      (sizedMachine.exec who (createVolume b (rpc.toBackend p)) os s).2.1 ↔ _
    generalize (sizedMachine.exec who (createVolume b (rpc.toBackend p)) os s).2.1 = a
      at hreported
    obtain ⟨htarget, x, hcapacity, z, hstart, hknows, rfl, hsize⟩ := hreported
    change (rpc.toBackend p).startSize s _ (bytesToMiB rpc.requiredBytes) = _ at hstart
    change resp.capacityBytes = (z.grow (bytesToMiB rpc.requiredBytes)).full * mib at hcapacity
    change a.sizeAt _ = some (z.grow (bytesToMiB rpc.requiredBytes)) at hsize
    change s.Knows (bytesToMiB rpc.requiredBytes) z at hknows
    by_cases hfar : rpc.requiredBytes ≤ int64Limit - mib
    · rw [grown_honours_iff hlimit hfar hrequired hcapacity hsize]
      constructor
      · intro hadmits
        refine ⟨hfar, fun p' i z' hp' hi hz' => ?_⟩
        obtain rfl := Except.ok.inj (hplace.symm.trans hp')
        obtain rfl := Option.some.inj (htarget.symm.trans hi)
        rwa [← Option.some.inj (hstart.symm.trans hz')]
      · exact fun hadmits => hadmits.2 p _ z hplace htarget hstart
    · constructor
      · intro hhonoured
        have hless := overflow_not_covered hs (by omega) hbound hknows
        rw [← hcapacity] at hless
        have := hhonoured.1
        omega
      · exact fun h => absurd h.1 hfar

section OneByte

/-- A plain volume with the given bounds. -/
def plainRpc (required limit : Int) : CreateVolumeRpc :=
  ⟨"pvc", required, limit, fun _ => .empty, [], fun _ => .empty, none⟩

def placeAnywhere (_ : CreateVolumeRpc) : Except Err Placed := .ok ⟨"ceph", none, none⟩

def emptyCluster : Sized := ⟨World.start, fun _ => 0⟩

def createPlain (required limit : Int) :
    List (Event Cmd (Outcome × Bool) Sized) × Sized × Option (Except Err CreateVolumeResponse) :=
  sizedTools.exec 0
    (controllerCreateVolume krbdBackend placeAnywhere (plainRpc required limit))
    (List.replicate 12 (.ok, false)) emptyCluster

theorem emptyCluster_fits : emptyCluster.Fits := fun _ _ h => by cases h

/-- A limit of one MiB leaves room for a volume of one byte. -/
theorem create_capacity_honoured_small :
    ∃ resp, (createPlain 1 mib).2.2 = some (.ok resp) ∧
      (plainRpc 1 mib).HonouredBy resp (createPlain 1 mib).2.1 := by
  have hok : ((createPlain 1 mib).2.2.bind Except.toOption).isSome = true := by decide +kernel
  obtain ⟨resp, hresp⟩ := Option.isSome_iff_exists.mp hok
  have hx := succeeded_of_toOption hresp
  refine ⟨resp, hx, ?_⟩
  refine (create_capacity_honoured_iff krbdBackend placeAnywhere (plainRpc 1 mib) (by decide)
    (by decide) (by decide) emptyCluster emptyCluster_fits 0 _
    (Machine.truthfulRun_of_read (by decide)) resp hx).mpr ⟨by decide, ?_⟩
  rintro p i z hp hi hz
  obtain rfl := Except.ok.inj hp
  obtain rfl := Option.some.inj hz
  exact ⟨.inr (by decide), .inl rfl⟩

/-- A volume of at most one byte is made with a MiB. -/
theorem one_byte_limit_exceeded :
    ∃ resp, (createPlain 1 1).2.2 = some (.ok resp) ∧ (plainRpc 1 1).limitBytes = 1 ∧
      resp.capacityBytes = 1048576 ∧ ¬(plainRpc 1 1).HonouredBy resp (createPlain 1 1).2.1 := by
  have hok : ((createPlain 1 1).2.2.bind Except.toOption).map
      CreateVolumeResponse.capacityBytes = some 1048576 := by decide +kernel
  obtain ⟨resp, hx, hcapacity⟩ := succeeded_of_map hok
  refine ⟨resp, hx, rfl, hcapacity, fun h => ?_⟩
  have hle : resp.capacityBytes ≤ 1 := h.2.1 (by decide)
  omega

end OneByte

end BardCsi.Ceph
