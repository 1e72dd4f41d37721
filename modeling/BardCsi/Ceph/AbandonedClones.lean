import BardCsi.Ceph.Clones
import BardCsi.Ceph.DeleteKey
import BardCsi.Ceph.StaticImages

/-!
Whether a source of clones can still be deleted. A delete that finds linked clones detaches them,
so the next one succeeds. A snapshot that is not in the trash stops every delete, and a clone
that was given up after it had made its temporary snapshot has left one.
-/
namespace BardCsi.Ceph

open Effect Program

section Key

variable {b : Backend} {vol : ImageRef} {E : Env} {w : World} {im : Image}

/-- The same images and watchers. -/
structure SameImages (w w' : World) : Prop where
  images : w'.images = w.images
  mapped : w'.mapped = w.mapped
  foreign : w'.foreign = w.foreign

theorem SameImages.watchers {w' : World} (h : SameImages w w') (i : ImageRef) :
    w'.watchers i = w.watchers i := by
  rw [World.watchers, World.watchers, h.mapped, h.foreign]

theorem SameImages.metaOf {w' : World} (h : SameImages w w') (spec : Spec) (k : MetaKey) :
    metaOf w' spec k = metaOf w spec k := by
  change metaAt w' _ _ = metaAt w _ _
  rw [metaAt, metaAt, h.images]

theorem eval_keyDelete (ks : KeyService) (inst : String) (spec : Spec) :
    ∃ w', evalIn E (KeyService.deleteKey ks inst spec) w = (.ok (), w') ∧ SameImages w w' := by
  cases ks with
  | vault v => exact ⟨_, eval_secretDelete _ _, ⟨rfl, rfl, rfl⟩⟩
  | azureKV a => exact ⟨_, eval_secretDelete _ _, ⟨rfl, rfl, rfl⟩⟩
  | kmip e =>
    have hrun : evalIn E (KeyService.deleteKey (.kmip e) inst spec) w =
        evalIn E (if metaOf w spec .kmipUID = .empty then .pure ()
          else Kmip.destroy e (metaOf w spec .kmipUID)) w :=
      eval_bind_of (eval_imageMetaGetChecked spec .kmipUID)
    rw [hrun]
    split_ifs with hu
    · exact ⟨w, rfl, ⟨rfl, rfl, rfl⟩⟩
    · exact ⟨_, eval_kmipDestroy e _, ⟨rfl, rfl, rfl⟩⟩
  | derived d => exact ⟨w, rfl, ⟨rfl, rfl, rfl⟩⟩
  | secretsMetadata => exact ⟨w, rfl, ⟨rfl, rfl, rfl⟩⟩
  | awsKMS k => exact ⟨w, rfl, ⟨rfl, rfl, rfl⟩⟩
  | misconfigured m => exact ⟨w, rfl, ⟨rfl, rfl, rfl⟩⟩

/-- The provider of the volume's key is configured, if it has one. -/
def KeyManaged (b : Backend) (vol : ImageRef) (w : World) : Prop :=
  metaOf w vol.spec .kmsID = .empty ∨ ∃ ks, resolve b (metaOf w vol.spec .kmsID) = .pure ks

/-- Deleting the key of a volume whose snapshots are `snaps`, recorded with a provider. -/
def deleteRecordedKey (b : Backend) (vol : ImageRef) (kmsID : Text) (snaps : List ObjectName) :
    Prog Unit :=
  if snaps ≠ [] then
    fail (errorf ["ceph-rbd: rm ", .spec vol.spec, ": image has " ++ toString snaps.length ++
      " snapshot(s) - not removing (delete its VolumeSnapshots first)"])
  else Registry.deleteKey b vol.inst kmsID vol.spec

theorem eval_deleteVolumeKey (him : w.images vol = some im) :
    evalIn E (deleteVolumeKey b vol) w =
      if metaOf w vol.spec .kmsID = .empty then (.ok (), w)
      else evalIn E
        (deleteRecordedKey b vol (metaOf w vol.spec .kmsID) (im.snaps.map Prod.fst)) w := by
  refine (eval_bind_of (eval_imageMetaGetChecked vol.spec .kmsID)).trans ?_
  split_ifs with hkms
  · rfl
  · exact eval_bind_of (eval_listSnaps him)

theorem eval_deleteVolumeKey_free (him : w.images vol = some im) (hsnaps : im.snaps = [])
    (hkey : KeyManaged b vol w) :
    ∃ w', evalIn E (deleteVolumeKey b vol) w = (.ok (), w') ∧ SameImages w w' := by
  rw [eval_deleteVolumeKey him]
  split_ifs with hkms
  · exact ⟨w, rfl, ⟨rfl, rfl, rfl⟩⟩
  · obtain ⟨ks, hks⟩ := hkey.resolve_left hkms
    obtain ⟨w', hdelete, hsame⟩ := eval_keyDelete (E := E) (w := w) ks vol.inst vol.spec
    refine ⟨w', ?_, hsame⟩
    rw [hsnaps, deleteRecordedKey, if_neg (fun h => h rfl), Registry.deleteKey, hks]
    exact hdelete

theorem eval_deleteVolumeKey_blocked (him : w.images vol = some im)
    (h : ¬(KeyManaged b vol w ∧ im.snaps = [])) :
    (∃ e, evalIn E (deleteVolumeKey b vol) w = (.error e, w)) ∨
      evalIn E (deleteVolumeKey b vol) w = (.ok (), w) ∧ im.snaps ≠ [] := by
  rw [eval_deleteVolumeKey him]
  split_ifs with hkms
  · exact .inr ⟨rfl, fun hsnaps => h ⟨.inl hkms, hsnaps⟩⟩
  · left
    by_cases hsnaps : im.snaps = []
    · obtain ⟨ks, hks⟩ | ⟨e, he⟩ := resolve_cases b (metaOf w vol.spec .kmsID)
      · exact absurd ⟨.inr ⟨ks, hks⟩, hsnaps⟩ h
      · rw [hsnaps, deleteRecordedKey, if_neg (fun h => h rfl), Registry.deleteKey, he]
        exact ⟨e, rfl⟩
    · rw [deleteRecordedKey, if_pos (by simpa using hsnaps)]
      exact ⟨_, rfl⟩

end Key

section Delete

variable {b : Backend} {req : DeleteVolumeRequest} {E : Env} {s : Linked} {im : Image}
variable {vol : ImageRef}

/-- A delete has no reason not to remove the image but clones and watchers. -/
structure Deletable (b : Backend) (vol : ImageRef) (im : Image) (w : World) : Prop where
  cluster : (b.clusters vol.inst).isSome = true
  owned : metaOf w vol.spec .static ≠ .lit "true"
  key : KeyManaged b vol w
  snaps : im.snaps = []

theorem deleteVolumeKey_unlinked (vol : ImageRef) :
    (deleteVolumeKey b vol).Uses fun c => c.unlinked = true := by
  have hstore : ∀ c : Cmd, c.storesKey = true → c.unlinked = true := by
    intro c hc
    cases c with
    | rbdClone parent i args => cases hc
    | rbdRm i => cases hc
    | rbdChildren i => cases hc
    | backgroundFlatten i gated => cases hc
    | _ => rfl
  apply (imageMetaGetChecked_uses (hstore _ rfl)).bind
  intro kmsID
  refine Uses.ite trivial ?_
  have hlist : (listSnaps vol).Uses fun c => c.unlinked = true := listSnaps_uses rfl
  apply hlist.bind
  exact fun snaps => Uses.ite trivial (registryDelete_uses hstore b _ kmsID _)

theorem evalLinked_deleteVolume (hcluster : (b.clusters req.volume.inst).isSome = true) :
    evalLinked E (deleteVolume b req) s =
      if metaOf s.world req.volume.spec .static = .lit "true" then (.ok (), s)
      else
        evalLinked E ((deleteVolumeKey b req.volume).bind fun _ => removeImage req.volume) s := by
  obtain ⟨cc, hcc⟩ := Option.isSome_iff_exists.mp hcluster
  have hread : evalLinked E (imageMetaGetChecked req.volume.spec .static) s =
      (.ok (metaOf s.world req.volume.spec .static), s) := by
    rw [evalLinked_unlinked (imageMetaGetChecked_uses rfl), eval_imageMetaGetChecked]
  unfold deleteVolume cluster clusterFor
  rw [hcc]
  refine (eval_bind_of hread).trans ?_
  split_ifs with hstatic
  · rfl
  · rfl

theorem linkAlone_rm (him : s.world.images vol = some im) :
    linkAlone E (.rbdRm vol) s =
      if im.snaps ≠ [] then (.error (.other "image has snapshots - not removing"), s)
      else if s.world.watchers vol ≠ [] then (.error (.other "image still has watchers"), s)
      else if s.children vol ≠ [] then (.error .linkedClones, s)
      else (.ok (), ⟨{ s.world with images := Function.update s.world.images vol none },
        Assoc.erase s.links vol⟩) := by
  have hrun : ∀ r, performRm (if s.children vol = [] then 0 else 1) vol s.world = r →
      linkAlone E (.rbdRm vol) s =
        (r.1, ⟨r.2, if (r.2.images vol).isNone then Assoc.erase s.links vol else s.links⟩) := by
    rintro r rfl
    rfl
  have hrefused : ∀ e, performRm (if s.children vol = [] then 0 else 1) vol s.world =
      (.error e, s.world) → linkAlone E (.rbdRm vol) s = (.error e, s) := by
    intro e he
    rw [hrun _ he, him]
    rfl
  have hrm : ∀ pick, performRm pick vol s.world =
      if im.snaps ≠ [] then refused s.world (.other "image has snapshots - not removing")
      else if s.world.watchers vol ≠ [] then
        refused s.world (.other "image still has watchers")
      else if pick ≠ 0 then refused s.world .linkedClones
      else done { s.world with images := Function.update s.world.images vol none } := by
    intro pick
    rw [performRm, onImage, him]
  split_ifs with hsnaps hwatched hlinked
  · exact hrefused _ (by rw [hrm, if_pos hsnaps]; rfl)
  · exact hrefused _ (by rw [hrm, if_neg hsnaps, if_pos hwatched]; rfl)
  · refine hrefused _ ?_
    rw [hrm, if_neg hsnaps, if_neg hwatched, if_neg hlinked, if_pos Nat.one_ne_zero]
    rfl
  · rw [hrun _ (hrm _), if_neg hsnaps, if_neg hwatched, if_pos (not_not.mp hlinked),
      if_neg (fun h => h rfl)]
    have hgone : (Function.update s.world.images vol none vol).isNone = true := by
      rw [Function.update_self]
      rfl
    exact congrArg (fun links => (_, Linked.mk _ links)) (if_pos hgone)

theorem removeImage_snapshots (him : s.world.images vol = some im) (hsnaps : im.snaps ≠ []) :
    (evalLinked E (removeImage vol) s).2 = s := by
  have hrm := linkAlone_rm (E := E) him
  rw [if_pos hsnaps] at hrm
  have hrun := eval_after_ask (rfl : evalLinked E (removeImage vol) s = _) hrm
  rw [← hrun]
  rfl

theorem removeImage_detaches (him : s.world.images vol = some im) (hsnaps : im.snaps = [])
    (hwatch : s.world.watchers vol = []) (hchildren : s.children vol ≠ []) :
    (evalLinked E (removeImage vol) s).2.world = s.world ∧
      (evalLinked E (removeImage vol) s).2.children vol = [] := by
  have hrm := linkAlone_rm (E := E) him
  rw [if_neg (not_not.mpr hsnaps), if_neg (not_not.mpr hwatch), if_pos hchildren] at hrm
  have hrun := eval_after_ask (rfl : evalLinked E (removeImage vol) s = _) hrm
  obtain ⟨links, hflatten, hnone⟩ := evalLinked_flattenChildren (E := E) (s := s) vol
  rw [show evalLinked E (removeImage vol) s = _ from
    hrun.symm.trans (eval_bind_of hflatten)]
  exact ⟨rfl, hnone⟩

theorem removeImage_unlinked (him : s.world.images vol = some im) (hsnaps : im.snaps = [])
    (hwatch : s.world.watchers vol = []) (hchildren : s.children vol = []) :
    (evalLinked E (removeImage vol) s).2.world.images vol = none := by
  have hrm := linkAlone_rm (E := E) him
  rw [if_neg (not_not.mpr hsnaps), if_neg (not_not.mpr hwatch), if_neg (not_not.mpr hchildren)]
    at hrm
  have hrun := eval_after_ask (rfl : evalLinked E (removeImage vol) s = _) hrm
  rw [← hrun]
  change Function.update s.world.images vol none vol = none
  rw [Function.update_self]

theorem removeImage_absent (hnone : s.world.images vol = none) :
    (evalLinked E (removeImage vol) s).2.world.images vol = none := by
  have hrm : linkAlone E (.rbdRm vol) s =
      (.error .notFound, ⟨s.world, Assoc.erase s.links vol⟩) := by
    have hperform : ∀ pick, performRm pick vol s.world = (.error .notFound, s.world) := by
      intro pick
      rw [performRm, onImage, hnone]
      rfl
    change ((performRm _ vol s.world).1, Linked.mk (performRm _ vol s.world).2
      (if ((performRm _ vol s.world).2.images vol).isNone then _ else _)) = _
    rw [hperform, hnone]
    rfl
  have hrun := eval_after_ask (rfl : evalLinked E (removeImage vol) s = _) hrm
  rw [← hrun]
  exact hnone

theorem delete_blocked (him : s.world.images req.volume = some im)
    (h : ¬Deletable b req.volume im s.world) : (evalLinked E (deleteVolume b req) s).2 = s := by
  by_cases hcluster : (b.clusters req.volume.inst).isSome = true
  · rw [evalLinked_deleteVolume hcluster]
    split_ifs with hstatic
    · rfl
    · have hkey :=
        evalLinked_unlinked (E := E) (s := s) (deleteVolumeKey_unlinked (b := b) req.volume)
      have hstop : ¬(KeyManaged b req.volume s.world ∧ im.snaps = []) :=
        fun hboth => h ⟨hcluster, hstatic, hboth.1, hboth.2⟩
      rcases eval_deleteVolumeKey_blocked (E := E) him hstop with ⟨e, he⟩ | ⟨hok, hsnaps⟩
      · rw [he] at hkey
        rw [show evalLinked E _ s = _ from eval_bind_error hkey]
      · rw [hok] at hkey
        rw [show evalLinked E _ s = _ from eval_bind_of hkey]
        exact removeImage_snapshots him hsnaps
  · have hnone : b.clusters req.volume.inst = none := by simpa using hcluster
    unfold deleteVolume cluster clusterFor
    rw [hnone]
    rfl

theorem delete_reaches (him : s.world.images req.volume = some im)
    (h : Deletable b req.volume im s.world) :
    ∃ w, SameImages s.world w ∧
      evalLinked E (deleteVolume b req) s = evalLinked E (removeImage req.volume) ⟨w, s.links⟩ := by
  obtain ⟨w, hkey, hsame⟩ := eval_deleteVolumeKey_free (E := E) him h.snaps h.key
  refine ⟨w, hsame, ?_⟩
  have hrun := evalLinked_unlinked (E := E) (s := s) (deleteVolumeKey_unlinked (b := b) req.volume)
  rw [hkey] at hrun
  rw [evalLinked_deleteVolume h.cluster, if_neg h.owned]
  exact eval_bind_of hrun

theorem delete_absent (hnone : s.world.images req.volume = none) :
    (evalLinked E (deleteVolume b req) s).2.world.images req.volume = none := by
  by_cases hcluster : (b.clusters req.volume.inst).isSome = true
  · have hread : ∀ k, metaOf s.world req.volume.spec k = .empty := by
      intro k
      unfold metaOf metaAt
      rw [show s.world.images req.volume.spec.image = none from hnone]
    have hkey : evalIn E (deleteVolumeKey b req.volume) s.world = (.ok (), s.world) := by
      refine (eval_bind_of (eval_imageMetaGetChecked req.volume.spec .kmsID)).trans ?_
      rw [hread, if_pos rfl]
      rfl
    have hrun :=
      evalLinked_unlinked (E := E) (s := s) (deleteVolumeKey_unlinked (b := b) req.volume)
    rw [hkey] at hrun
    rw [evalLinked_deleteVolume hcluster, hread, if_neg (by decide),
      show evalLinked E _ s = _ from eval_bind_of hrun]
    exact removeImage_absent hnone
  · have hempty : b.clusters req.volume.inst = none := by simpa using hcluster
    unfold deleteVolume cluster clusterFor
    rw [hempty]
    exact hnone

/-- Everything that a delete asks of the configuration and of the descriptor. -/
structure Configured (b : Backend) (vol : ImageRef) (w : World) : Prop where
  cluster : (b.clusters vol.inst).isSome = true
  owned : metaOf w vol.spec .static ≠ .lit "true"
  key : KeyManaged b vol w

theorem SameImages.deletable {w w' : World} (h : SameImages w w') (hd : Deletable b vol im w) :
    Deletable b vol im w' := by
  refine ⟨hd.cluster, ?_, ?_, hd.snaps⟩
  · rw [h.metaOf]
    exact hd.owned
  · rw [KeyManaged, h.metaOf]
    exact hd.key

/-- A number of deletes, one after the other. -/
def deletes (b : Backend) (req : DeleteVolumeRequest) (E : Env) (k : ℕ) (s : Linked) : Linked :=
  (fun s => (evalLinked E (deleteVolume b req) s).2)^[k] s

theorem deletes_blocked (him : s.world.images req.volume = some im)
    (h : ¬Deletable b req.volume im s.world) (k : ℕ) : deletes b req E k s = s :=
  Function.iterate_fixed (delete_blocked him h) k

theorem deletes_two (hwatch : s.world.watchers req.volume = [])
    (h : ∀ im, s.world.images req.volume = some im → Deletable b req.volume im s.world) :
    (deletes b req E 2 s).world.images req.volume = none := by
  change (evalLinked E (deleteVolume b req)
    (evalLinked E (deleteVolume b req) s).2).2.world.images req.volume = none
  cases him : s.world.images req.volume with
  | none => exact delete_absent (delete_absent him)
  | some im =>
    obtain ⟨w, hsame, hrun⟩ := delete_reaches (E := E) him (h im him)
    have hw : w.images req.volume = some im := by rw [hsame.images, him]
    have hunwatched : w.watchers req.volume = [] := by rw [hsame.watchers, hwatch]
    by_cases hchildren : s.children req.volume = []
    · apply delete_absent
      rw [hrun]
      exact removeImage_unlinked (s := ⟨w, s.links⟩) hw (h im him).snaps hunwatched hchildren
    · obtain ⟨hworld, hnone⟩ := removeImage_detaches (E := E) (s := ⟨w, s.links⟩) hw
        (h im him).snaps hunwatched hchildren
      rw [← hrun] at hworld hnone
      generalize (evalLinked E (deleteVolume b req) s).2 = s' at hworld hnone ⊢
      have hw' : s'.world.images req.volume = some im := by rw [hworld, hw]
      have hd : Deletable b req.volume im s'.world := by
        rw [hworld]
        exact hsame.deletable (h im him)
      obtain ⟨w', hsame', hrun'⟩ := delete_reaches (E := E) hw' hd
      rw [hrun']
      refine removeImage_unlinked (s := ⟨w', s'.links⟩) ?_ hd.snaps ?_ hnone
      · rw [hsame'.images, hw']
      · rw [hsame'.watchers, hworld, hunwatched]

/-- Deletes remove an image in the end if nothing but clones is in their way. -/
theorem deletes_iff (hwatch : s.world.watchers req.volume = []) :
    (∃ k, (deletes b req E k s).world.images req.volume = none) ↔
      ∀ im, s.world.images req.volume = some im → Deletable b req.volume im s.world := by
  constructor
  · rintro ⟨k, hk⟩ im him
    by_contra hblocked
    rw [deletes_blocked him hblocked, him] at hk
    cases hk
  · intro h
    exact ⟨2, deletes_two hwatch h⟩

end Delete

section History

variable {b : Backend} {i : ImageRef} {n : ObjectName} {s : Linked} {h : List Attempt}

/-- An operation that is called and given up when its outcomes end. -/
structure Attempt where
  who : ℕ
  op : Operation
  outcomes : List Outcome

def Attempt.run (b : Backend) (c : Attempt) (s : Linked) :
    List (Event Cmd Outcome Linked) × Linked × Option (Except Err Unit) :=
  linkMachine.exec c.who (c.op.call b) c.outcomes s

def after (b : Backend) : List Attempt → Linked → Linked
  | [], s => s
  | c :: rest, s => after b rest (c.run b s).2.1

/-- The requests of the calls. -/
def requests (b : Backend) : List Attempt → Linked → List (Event Cmd Outcome Linked)
  | [], _ => []
  | c :: rest, s => (c.run b s).1 ++ requests b rest (c.run b s).2.1

/-- A call of CreateSnapshot has made the snapshot. -/
def Taken (b : Backend) (i : ImageRef) (n : ObjectName) : List Attempt → Linked → Prop
  | [], _ => False
  | c :: rest, s => Taken b i n rest (c.run b s).2.1 ∨
      (∃ req, c.op = .createSnapshot req) ∧ ∃ e ∈ (c.run b s).1, Makes i n e

/-- A call of another operation has made the snapshot, and no request after that has
removed it. -/
def Abandoned (b : Backend) (i : ImageRef) (n : ObjectName) : List Attempt → Linked → Prop
  | [], _ => False
  | c :: rest, s => Abandoned b i n rest (c.run b s).2.1 ∨
      (∀ req, c.op ≠ .createSnapshot req) ∧ Leaves i n (c.run b s).1 ∧
        ∀ e ∈ requests b rest (c.run b s).2.1, ¬Removes i n e

theorem Leaves.made {σ : Type} {l : List (Event Cmd Outcome σ)} (h : Leaves i n l) :
    ∃ e ∈ l, Makes i n e := by
  induction l with
  | nil => cases h
  | cons e rest ih =>
    rcases h with h | ⟨h, _⟩
    · obtain ⟨e', he', hmakes⟩ := ih h
      exact ⟨e', List.mem_cons_of_mem _ he', hmakes⟩
    · exact ⟨e, List.mem_cons_self, h⟩

theorem live_after (h : List Attempt) (hlive : (after b h s).Live i n) :
    (s.Live i n ∧ ∀ e ∈ requests b h s, ¬Removes i n e) ∨
      Taken b i n h s ∨ Abandoned b i n h s := by
  induction h generalizing s with
  | nil => exact .inl ⟨hlive, fun e he => absurd he List.not_mem_nil⟩
  | cons c rest ih =>
    rcases ih hlive with ⟨hmid, hkept⟩ | htaken | habandoned
    · rcases live_exec _ _ hmid with ⟨hstart, hquiet⟩ | hleaves
      · left
        refine ⟨hstart, fun e he => ?_⟩
        rcases List.mem_append.mp he with he | he
        · exact hquiet e he
        · exact hkept e he
      · by_cases hop : ∃ req, c.op = .createSnapshot req
        · exact .inr (.inl (.inr ⟨hop, hleaves.made⟩))
        · exact .inr (.inr (.inr ⟨fun req hreq => hop ⟨req, hreq⟩, hleaves, hkept⟩))
    · exact .inr (.inl (.inl htaken))
    · exact .inr (.inr (.inl habandoned))

theorem call_keeps_image {op : Operation}
    (hop : ∀ req, op = .deleteVolume req → req.volume ≠ i) :
    (op.call b).Uses fun c => c ≠ .rbdRm i := by
  apply Uses.mono (call_preserves b hop)
  rintro c hc rfl
  exact hc rfl

theorem live_after_kept (hkeep : ∀ c ∈ h, ∀ req, c.op = .deleteVolume req → req.volume ≠ i)
    (hkept : ∀ e ∈ requests b h s, ¬Removes i n e) (hlive : s.Live i n) :
    (after b h s).Live i n := by
  induction h generalizing s with
  | nil => exact hlive
  | cons c rest ih =>
    refine ih (fun c' hc' => hkeep c' (List.mem_cons_of_mem _ hc'))
      (fun e he => hkept e (List.mem_append_right _ he)) ?_
    exact live_exec_kept (call_keeps_image (hkeep c List.mem_cons_self)) _
      (fun e he => hkept e (List.mem_append_left _ he)) hlive

theorem abandoned_live (hkeep : ∀ c ∈ h, ∀ req, c.op = .deleteVolume req → req.volume ≠ i)
    (hi : (s.world.images i).isSome = true) (habandoned : Abandoned b i n h s) :
    (after b h s).Live i n := by
  induction h generalizing s with
  | nil => cases habandoned
  | cons c rest ih =>
    have hcall := call_keeps_image (b := b) (hkeep c List.mem_cons_self)
    have hrest : ∀ c' ∈ rest, ∀ req, c'.op = .deleteVolume req → req.volume ≠ i :=
      fun c' hc' => hkeep c' (List.mem_cons_of_mem _ hc')
    rcases habandoned with hlater | ⟨_, hleaves, hkept⟩
    · exact ih hrest (present_exec hcall _ hi) hlater
    · have hlive := live_exec_left hcall c.outcomes hi hleaves
      exact live_after_kept (h := rest) hrest hkept hlive

theorem present_after (hkeep : ∀ c ∈ h, ∀ req, c.op = .deleteVolume req → req.volume ≠ i)
    (hi : (s.world.images i).isSome = true) : ((after b h s).world.images i).isSome = true := by
  induction h generalizing s with
  | nil => exact hi
  | cons c rest ih =>
    refine ih (fun c' hc' => hkeep c' (List.mem_cons_of_mem _ hc')) ?_
    exact present_exec (call_keeps_image (hkeep c List.mem_cons_self)) _ hi

/-- After any calls that fail or are given up anywhere, once the snapshots that CreateSnapshot has
made are gone and nothing watches the source, deletes remove it in the end exactly if no call has
left a temporary snapshot behind, and then two of them are enough. -/
theorem source_removed_iff (b : Backend) (req : DeleteVolumeRequest) (E : Env) (s : Linked)
    (h : List Attempt) (hsource : (s.world.images req.volume).isSome = true)
    (hkeep : ∀ c ∈ h, ∀ r, c.op = .deleteVolume r → r.volume ≠ req.volume)
    (hdeleted : ∀ n, s.Live req.volume n ∨ Taken b req.volume n h s →
      ¬(after b h s).Live req.volume n)
    (hwatch : (after b h s).world.watchers req.volume = []) :
    ((∃ k, (deletes b req E k (after b h s)).world.images req.volume = none) ↔
      Configured b req.volume (after b h s).world ∧ ∀ n, ¬Abandoned b req.volume n h s) ∧
    ((∃ k, (deletes b req E k (after b h s)).world.images req.volume = none) →
      (deletes b req E 2 (after b h s)).world.images req.volume = none) := by
  obtain ⟨im, him⟩ := Option.isSome_iff_exists.mp (present_after (b := b) hkeep hsource)
  have hiff := deletes_iff (b := b) (E := E) hwatch
  refine ⟨⟨fun hgone => ?_, ?_⟩, fun hgone => deletes_two hwatch (hiff.mp hgone)⟩
  · have hd := hiff.mp hgone im him
    refine ⟨⟨hd.cluster, hd.owned, hd.key⟩, fun n habandoned => ?_⟩
    obtain ⟨im', him', hn⟩ := abandoned_live hkeep hsource habandoned
    obtain rfl := Option.some.inj (him.symm.trans him')
    rw [hd.snaps] at hn
    cases hn
  · rintro ⟨hconf, hnone⟩
    refine hiff.mpr fun im' him' => ⟨hconf.cluster, hconf.owned, hconf.key, ?_⟩
    by_contra hsnaps
    obtain ⟨⟨n, snap⟩, rest, hcons⟩ := List.exists_cons_of_ne_nil hsnaps
    have hlive : (after b h s).Live req.volume n := by
      refine ⟨im', him', Option.isSome_iff_ne_none.mpr fun hnone => ?_⟩
      apply Assoc.get_eq_none hnone snap
      rw [hcons]
      exact List.mem_cons_self
    rcases live_after h hlive with ⟨hstart, _⟩ | htaken | habandoned
    · exact hdeleted n (.inl hstart) hlive
    · exact hdeleted n (.inr htaken) hlive
    · exact hnone n habandoned

end History

section OneClone

/-- A volume without data that nobody uses. -/
def unusedSource : Linked := ⟨World.start.setImage pvcImage (.new 1), []⟩

/-- A call that clones the volume and is given up after a number of requests. -/
def cloneFor (requests : ℕ) : Attempt :=
  ⟨0, .createVolume { plainRequest "copy" with sourceVolume := some pvcImage },
    List.replicate requests .ok⟩

def deletePvc : DeleteVolumeRequest := ⟨pvcImage, fun _ => .empty⟩

theorem not_live_of_snaps {s : Linked} {i : ImageRef}
    (h : (s.world.images i).map Image.snaps = some []) (n : ObjectName) : ¬s.Live i n := by
  rintro ⟨im, him, hn⟩
  rw [him] at h
  rw [Option.some.inj h] at hn
  cases hn

theorem cloneFor_keeps (requests : ℕ) (c : Attempt) (hc : c ∈ [cloneFor requests])
    (r : DeleteVolumeRequest) (hr : c.op = .deleteVolume r) : r.volume ≠ deletePvc.volume := by
  rw [List.mem_singleton.mp hc] at hr
  cases hr

/-- A clone that is given up before its image is detached does not keep the source. -/
theorem source_removed_iff_detached :
    (deletes krbdBackend deletePvc ⟨0, fun _ _ => 0⟩ 2
      (after krbdBackend [cloneFor 7] unusedSource)).world.images pvcImage = none := by
  have hsnaps : ((after krbdBackend [cloneFor 7] unusedSource).world.images pvcImage).map
      Image.snaps = some [] := by
    decide +kernel
  obtain ⟨hiff, htwo⟩ := source_removed_iff krbdBackend deletePvc ⟨0, fun _ _ => 0⟩ unusedSource
    [cloneFor 7] rfl (cloneFor_keeps 7) (fun n _ => not_live_of_snaps hsnaps n) (by decide +kernel)
  refine htwo (hiff.mpr
    ⟨⟨rfl, by decide +kernel, .inl (by decide +kernel)⟩, fun n habandoned => ?_⟩)
  exact not_live_of_snaps hsnaps n (abandoned_live (cloneFor_keeps 7) rfl habandoned)

/-- A clone that is given up between its temporary snapshot and the image leaves the snapshot, and
no number of deletes removes the source, though CreateSnapshot has made none and nothing
watches it. -/
theorem given_up_clone_keeps_source :
    let s := after krbdBackend [cloneFor 3] unusedSource
    (∀ n, unusedSource.Live pvcImage n ∨ Taken krbdBackend pvcImage n [cloneFor 3] unusedSource →
        ¬s.Live pvcImage n) ∧
      s.world.watchers pvcImage = [] ∧ Configured krbdBackend pvcImage s.world ∧
      ∀ E k, (deletes krbdBackend deletePvc E k s).world.images pvcImage ≠ none := by
  intro s
  refine ⟨?_, by decide +kernel, ⟨rfl, by decide +kernel, .inl (by decide +kernel)⟩, fun E k => ?_⟩
  · rintro n (hstart | hfalse | ⟨⟨req, hop⟩, _⟩)
    · exact absurd hstart (not_live_of_snaps rfl n)
    · cases hfalse
    · cases hop
  · obtain ⟨im, him⟩ := Option.isSome_iff_exists.mp
      (show (s.world.images pvcImage).isSome = true by decide +kernel)
    have hblocked : ¬Deletable krbdBackend deletePvc.volume im s.world := by
      intro hd
      have hone : (s.world.images pvcImage).map (fun im => im.snaps.length) = some 1 := by
        decide +kernel
      rw [him, Option.map_some, hd.snaps] at hone
      cases hone
    rw [deletes_blocked him hblocked, him]
    exact Option.some_ne_none im

end OneClone

end BardCsi.Ceph
