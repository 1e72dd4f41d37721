import BardCsi.Effect.Calls
import BardCsi.Ceph.Flatten
import BardCsi.Ceph.StaticImages

/-!
The ancestors of the images that the plugin makes. Nothing but a clone gives an image a parent,
and the worker that follows a clone leaves it with fewer ancestors than the limit: it counts them
all, or it takes the parent away. What goes to the trash is still counted, and cannot be mistaken
for an image with the same name.
-/
namespace BardCsi.Ceph

open Effect Program Ancestry

/-- Names and identities agree. The parent of an image is in the trash or found under its name,
and there is an end to each chain of parents. -/
structure Sound (f : Forest) : Prop where
  named : ∀ i, (f.world.images i).isSome = true → f.ident i < f.next ∧ f.name (f.ident i) = i
  kept : ∀ x p, f.parent x = some p → p < f.next ∧ (f.inTrash p = true ∨
    (f.world.images (f.name p)).isSome = true ∧ f.ident (f.name p) = p)
  fresh : ∀ x, f.next ≤ x → f.parent x = none
  chain : ∀ x, ∃ n ≤ maxAncestors, Depth f.parent x n

/-- Things only go to the trash. -/
structure Calm (f g : Forest) : Prop where
  ident : g.ident = f.ident
  parent : g.parent = f.parent
  images : ∀ i, (g.world.images i).isSome = true → (f.world.images i).isSome = true

/-- No chain gets longer. -/
structure Shorter (f g : Forest) : Prop where
  ident : g.ident = f.ident
  depth : ∀ x n, Depth f.parent x n → ∃ m ≤ n, Depth g.parent x m

section Forests

variable {f g h : Forest} {i : ImageRef}

theorem Calm.refl (f : Forest) : Calm f f := ⟨rfl, rfl, fun _ hi => hi⟩

theorem Calm.trans (hg : Calm f g) (hh : Calm g h) : Calm f h :=
  ⟨hh.ident.trans hg.ident, hh.parent.trans hg.parent, fun i hi => hg.images i (hh.images i hi)⟩

theorem Shorter.refl (f : Forest) : Shorter f f := ⟨rfl, fun _ n hn => ⟨n, Nat.le_refl _, hn⟩⟩

theorem Shorter.trans (hg : Shorter f g) (hh : Shorter g h) : Shorter f h := by
  refine ⟨hh.ident.trans hg.ident, fun x n hn => ?_⟩
  obtain ⟨m, hm, hdepth⟩ := hg.depth x n hn
  obtain ⟨k, hk, hdepth⟩ := hh.depth x m hdepth
  exact ⟨k, hk.trans hm, hdepth⟩

theorem Calm.shorter (hg : Calm f g) : Shorter f g :=
  ⟨hg.ident, fun _ n hn => ⟨n, Nat.le_refl _, hg.parent ▸ hn⟩⟩

theorem shorter_cut (f : Forest) (x : ℕ) : Shorter f (f.cut x) :=
  ⟨rfl, fun _ _ hn => hn.cut x⟩

theorem Sound.withWorld (hf : Sound f) {w : World}
    (hw : ∀ j, (w.images j).isSome = (f.world.images j).isSome) :
    Sound { f with world := w } where
  named j hj := hf.named j (by rwa [← hw j])
  kept x p hx := by
    obtain ⟨hp, hplace⟩ := hf.kept x p hx
    refine ⟨hp, hplace.imp_right fun hlive => ?_⟩
    exact ⟨(hw _).trans hlive.1, hlive.2⟩
  fresh := hf.fresh
  chain := hf.chain

theorem calm_trash (f : Forest) (i : ImageRef) : Calm f (f.trash i) := by
  unfold Forest.trash
  split_ifs with hi
  · refine ⟨rfl, rfl, fun j hj => ?_⟩
    by_cases hji : j = i
    · subst hji
      exact hi
    · simpa [Function.update_of_ne hji] using hj
  · exact .refl f

theorem Sound.trash (hf : Sound f) (i : ImageRef) : Sound (f.trash i) := by
  unfold Forest.trash
  split_ifs with hi
  · refine ⟨fun j hj => ?_, fun x p hx => ?_, hf.fresh, hf.chain⟩
    · by_cases hji : j = i
      · subst hji
        simp at hj
      · exact hf.named j (by simpa [Function.update_of_ne hji] using hj)
    · obtain ⟨hp, hplace⟩ := hf.kept x p hx
      refine ⟨hp, ?_⟩
      by_cases hpi : p = f.ident i
      · exact .inl (by simp [hpi])
      · refine hplace.imp (fun ht => ?_) fun hlive => ⟨?_, hlive.2⟩
        · simpa [Function.update_of_ne hpi] using ht
        · have hname : f.name p ≠ i := fun h => hpi (by rw [← h, hlive.2])
          simpa [Function.update_of_ne hname] using hlive.1
  · exact hf

theorem calm_moveToTrash (f : Forest) (l : List ImageRef) : Calm f (f.moveToTrash l) := by
  induction l generalizing f with
  | nil => exact .refl f
  | cons i l ih => exact (calm_trash f i).trans (ih _)

theorem Sound.moveToTrash (hf : Sound f) (l : List ImageRef) : Sound (f.moveToTrash l) := by
  induction l generalizing f with
  | nil => exact hf
  | cons i l ih => exact ih (hf.trash i)

theorem Sound.cut (hf : Sound f) (x : ℕ) : Sound (f.cut x) where
  named := hf.named
  kept y p hy := by
    refine hf.kept y p ?_
    by_cases hyx : y = x
    · simp [Forest.cut, hyx] at hy
    · simpa [Forest.cut, Function.update_of_ne hyx] using hy
  fresh y hy := by
    change Function.update f.parent x none y = none
    rw [Function.update_apply, hf.fresh y hy, ite_self]
  chain y := by
    obtain ⟨n, hn, hdepth⟩ := hf.chain y
    obtain ⟨m, hm, hcut⟩ := hdepth.cut x
    exact ⟨m, hm.trans hn, hcut⟩

theorem Sound.childless (hf : Sound f) (x : ℕ) : f.parent x ≠ some f.next :=
  fun hx => Nat.lt_irrefl _ (hf.kept x _ hx).1

theorem Sound.grow (hf : Sound f) {p : Option ℕ} {w : World}
    (hnew : (f.world.images i).isSome = false)
    (hw : ∀ j, j ≠ i → (w.images j).isSome = (f.world.images j).isSome)
    (hp : ∀ q, p = some q → q < f.next ∧ (f.world.images (f.name q)).isSome = true ∧
      f.ident (f.name q) = q ∧ ∃ n < maxAncestors, Depth f.parent q n) :
    Sound (f.grow i p w) := by
  have hold : ∀ q, q < f.next → (f.inTrash q = true ∨
      (f.world.images (f.name q)).isSome = true ∧ f.ident (f.name q) = q) →
      q < f.next + 1 ∧ ((f.grow i p w).inTrash q = true ∨
        (w.images ((f.grow i p w).name q)).isSome = true ∧
          (f.grow i p w).ident ((f.grow i p w).name q) = q) := by
    intro q hq hplace
    have hqn : q ≠ f.next := Nat.ne_of_lt hq
    refine ⟨Nat.lt_succ_of_lt hq, ?_⟩
    simp only [Forest.grow, Function.update_of_ne hqn]
    refine hplace.imp_right fun hlive => ?_
    have hname : f.name q ≠ i := fun h => by rw [h, hnew] at hlive; cases hlive.1
    rw [hw _ hname, Function.update_of_ne hname]
    exact hlive
  refine ⟨fun j hj => ?_, fun x q hx => ?_, fun x hx => ?_, fun x => ?_⟩
  · by_cases hji : j = i
    · subst hji
      simp [Forest.grow]
    · obtain ⟨hlt, hname⟩ := hf.named j (by rwa [← hw j hji])
      simp only [Forest.grow, Function.update_of_ne hji]
      exact ⟨Nat.lt_succ_of_lt hlt, by rwa [Function.update_of_ne (Nat.ne_of_lt hlt)]⟩
  · by_cases hxn : x = f.next
    · subst hxn
      obtain ⟨hq, hlive, hident, _⟩ := hp q (by simpa [Forest.grow] using hx)
      exact hold q hq (.inr ⟨hlive, hident⟩)
    · have hlink : f.parent x = some q := by
        simpa [Forest.grow, Function.update_of_ne hxn] using hx
      obtain ⟨hq, hplace⟩ := hf.kept x q hlink
      exact hold q hq hplace
  · have hxn : x ≠ f.next := Nat.ne_of_gt hx
    simp only [Forest.grow, Function.update_of_ne hxn]
    exact hf.fresh x (Nat.le_of_succ_le hx)
  · by_cases hxn : x = f.next
    · subst hxn
      cases hq : p with
      | none => exact ⟨0, Nat.zero_le _, .root (by simp [Forest.grow])⟩
      | some q =>
        obtain ⟨hlt, _, _, n, hn, hdepth⟩ := hp q hq
        refine ⟨n + 1, hn, .child (p := q) (by simp [Forest.grow]) ?_⟩
        exact hdepth.graft (Nat.ne_of_lt hlt) hf.childless _
    · obtain ⟨n, hn, hdepth⟩ := hf.chain x
      exact ⟨n, hn, hdepth.graft hxn hf.childless _⟩

end Forests

section Worker

variable {α : Type} {b : Backend} {f g : Forest} {i : ImageRef}

/-- The worker is alone with the administrator. -/
def workerContract : Contract ChainCmd ChainOutcome Forest :=
  .alone Sound (fun _ _ _ => True) fun _ _ _ => True

theorem flattened_state (f : Forest) (i : ImageRef) :
    (f.flattened i).2 = f ∨ (f.flattened i).2 = f.cut (f.ident i) := by
  unfold Forest.flattened
  split_ifs
  · exact .inl rfl
  · exact .inl rfl
  · exact .inr rfl

theorem chainStep_state (c : ChainCmd) (o : ChainOutcome) (f : Forest) :
    (chainStep c o f).2 = f.moveToTrash o.trash ∨
      ∃ x, (chainStep c o f).2 = (f.moveToTrash o.trash).cut x := by
  have hflat := fun i => (flattened_state (f.moveToTrash o.trash) i).imp_right
    fun h => (⟨_, h⟩ : ∃ x, _ = (f.moveToTrash o.trash).cut x)
  unfold chainStep
  cases c with
  | connArgs => cases o.fault <;> exact .inl rfl
  | parent i => cases o.fault <;> exact .inl rfl
  | flatten i =>
    cases o.fault with
    | none => exact hflat i
    | some t =>
      dsimp only
      split_ifs
      · exact hflat i
      · exact .inl rfl

theorem Sound.chainStep (hf : Sound f) (c : ChainCmd) (o : ChainOutcome) :
    Sound (chainStep c o f).2 := by
  obtain h | ⟨x, h⟩ := chainStep_state c o f
  · rw [h]
    exact hf.moveToTrash _
  · rw [h]
    exact (hf.moveToTrash _).cut x

theorem shorter_chainStep (c : ChainCmd) (o : ChainOutcome) (f : Forest) :
    Shorter f (chainStep c o f).2 := by
  obtain h | ⟨x, h⟩ := chainStep_state c o f
  · rw [h]
    exact (calm_moveToTrash f _).shorter
  · rw [h]
    exact (calm_moveToTrash f _).shorter.trans (shorter_cut _ x)

theorem runWorker_shorter (hf : Sound f) (depthGated : Bool) (os : List ChainOutcome) :
    Sound (f.runWorker b i depthGated os).1 ∧ Shorter f (f.runWorker b i depthGated os).1 := by
  refine (Machine.exec_keeps (I := fun g => Sound g ∧ Shorter f g) (Uses.any _)
    ⟨hf, .refl f⟩ ?_ os).1
  rintro c o g _ ⟨hg, hshort⟩
  exact ⟨hg.chainStep c o, hshort.trans (shorter_chainStep c o g)⟩

theorem chainStep_parent (i : ImageRef) (o : ChainOutcome) (f : Forest) :
    (chainStep (.parent i) o f).2 = f.moveToTrash o.trash ∧
      ((∃ e, (chainStep (.parent i) o f).1 = .error e) ∨
        (chainStep (.parent i) o f).1 = (f.moveToTrash o.trash).lookup i) := by
  obtain ⟨l, _ | t, landed⟩ := o
  · exact ⟨rfl, .inr rfl⟩
  · exact ⟨rfl, .inl ⟨_, rfl⟩⟩

theorem imageParent_meets {k : Option (ImageRef × Bool) → ChainProg α}
    {Q : Except Err α → Forest → Prop}
    (hfound : ∀ g, Calm f g → Sound g → (g.world.images i).isSome = true →
      (k ((g.parent (g.ident i)).map fun p => (g.name p, g.inTrash p))).Meets chainMachine ()
        workerContract Q g)
    (hfailed : ∀ e g, Calm f g → Sound g → Q (.error e) g) :
    ((imageParent i).bind k).Meets chainMachine () workerContract Q f := by
  apply Meets.answered
  rintro _ rfl hf o _
  have hcalm := calm_moveToTrash f o.trash
  have hsound : Sound (f.moveToTrash o.trash) := Sound.moveToTrash hf o.trash
  obtain ⟨hstate, ⟨e, he⟩ | hreply⟩ := chainStep_parent i o f
  · refine ⟨_, _, he, hstate, trivial, hsound, ?_⟩
    rintro _ rfl _
    exact hfailed _ _ hcalm hsound
  · refine ⟨_, _, hreply, hstate, trivial, hsound, ?_⟩
    unfold Forest.lookup
    split_ifs with hi
    · exact hfound _ hcalm hsound hi
    · rintro _ rfl _
      exact hfailed _ _ hcalm hsound

theorem walkParents_counts {parent : ℕ → Option ℕ} {x m : ℕ} (hx : Depth parent x m)
    {rounds d : ℕ} (hrounds : m < rounds) (hparent : f.parent = parent)
    (hname : (f.world.images i).isSome = true → f.ident i = x) :
    (walkParents rounds d i).Meets chainMachine () workerContract
      (Ends (fun r g => Calm f g ∧ (r.2 = true → r.1 = d + m) ∧ (r.2 = false → 0 < r.1))
        fun _ g => Calm f g) f := by
  induction hx generalizing rounds d i f with
  | root hroot =>
    obtain ⟨rounds, rfl⟩ := Nat.exists_eq_succ_of_ne_zero (Nat.ne_zero_of_lt hrounds)
    apply imageParent_meets
    · intro g hcalm _ hi
      rw [hcalm.parent, hparent, hcalm.ident, hname (hcalm.images _ hi), hroot]
      rintro _ rfl _
      exact ⟨hcalm, fun _ => rfl, fun h => by cases h⟩
    · exact fun _ _ hcalm _ => hcalm
  | @child x p m hlink _ ih =>
    obtain ⟨rounds, rfl⟩ := Nat.exists_eq_succ_of_ne_zero (Nat.ne_zero_of_lt hrounds)
    apply imageParent_meets
    · intro g hcalm hsound hi
      have hgparent : g.parent = parent := hcalm.parent.trans hparent
      have hident : g.ident i = x := (congrFun hcalm.ident i).trans (hname (hcalm.images _ hi))
      rw [hgparent, hident, hlink]
      refine Meets.ite (fun _ => ?_) fun htrash => ?_
      · rintro _ rfl _
        exact ⟨hcalm, fun h => (by cases h), fun _ => Nat.succ_pos d⟩
      · obtain ⟨_, hplace⟩ := hsound.kept x p (by rw [hgparent, hlink])
        have hlive := hplace.resolve_left htrash
        refine (ih (d := d + 1) (Nat.lt_of_succ_lt_succ hrounds) hgparent fun _ => hlive.2).mono ?_
        rintro (e | r) h _ hr
        · exact hcalm.trans hr
        · exact ⟨hcalm.trans hr.1, fun hexact => by rw [hr.2.1 hexact]; omega, hr.2.2⟩
    · exact fun _ _ hcalm _ => hcalm

theorem chainStep_flatten (i : ImageRef) (o : ChainOutcome) (f : Forest) :
    (∃ e, (chainStep (.flatten i) o f).1 = .error e) ∨
      (chainStep (.flatten i) o f).1 = .ok () ∧
        (chainStep (.flatten i) o f).2 =
          (f.moveToTrash o.trash).cut ((f.moveToTrash o.trash).ident i) := by
  obtain ⟨l, _ | t, landed⟩ := o
  · change (∃ e, ((f.moveToTrash l).flattened i).1 = .error e) ∨
      ((f.moveToTrash l).flattened i).1 = .ok () ∧ ((f.moveToTrash l).flattened i).2 = _
    unfold Forest.flattened
    split_ifs
    · exact .inl ⟨_, rfl⟩
    · exact .inl ⟨_, rfl⟩
    · exact .inr ⟨rfl, rfl⟩
  · exact .inl ⟨_, rfl⟩

/-- Chains have not got longer, and the image has fewer ancestors than the limit. -/
def Detached (b : Backend) (i : ImageRef) (f g : Forest) : Prop :=
  Shorter f g ∧ ∃ n : ℕ, (n : ℤ) < b.cloneDepthLimit ∧ Depth g.parent (f.ident i) n

theorem Detached.before (hfg : Calm f g) {h : Forest} (hh : Detached b i g h) :
    Detached b i f h :=
  ⟨hfg.shorter.trans hh.1, by rw [← hfg.ident]; exact hh.2⟩

theorem detaches_before (hfg : Calm f g) {p : ChainProg Unit}
    (hp : p.Meets chainMachine () workerContract (IfOk fun _ h => Detached b i g h) g) :
    p.Meets chainMachine () workerContract (IfOk fun _ h => Detached b i f h) g := by
  apply hp.mono
  rintro (e | u) h _ hh
  · trivial
  · exact hh.before hfg

theorem flattenImage_detaches (hlimit : 0 < b.cloneDepthLimit) {why : List Text} :
    (flattenImage i why).Meets chainMachine () workerContract
      (IfOk fun _ g => Detached b i f g) f := by
  apply Meets.answered
  rintro _ rfl hf o _
  have hcalm := calm_moveToTrash f o.trash
  have hsound := Sound.chainStep hf (.flatten i) o
  obtain ⟨e, he⟩ | ⟨hreply, hstate⟩ := chainStep_flatten i o f
  · exact ⟨_, _, he, rfl, trivial, hsound, fun _ _ _ => trivial⟩
  · refine ⟨_, _, hreply, hstate, trivial, hstate ▸ hsound, ?_⟩
    rintro _ rfl _
    refine Detached.before hcalm ⟨shorter_cut _ _, 0, hlimit, .root ?_⟩
    exact Function.update_self ..

theorem flattenIfDeep_detaches (hlimit : 0 < b.cloneDepthLimit) (hf : Sound f) :
    (flattenIfDeep b i).Meets chainMachine () workerContract
      (IfOk fun _ g => Detached b i f g) f := by
  obtain ⟨n, hn, hdepth⟩ := hf.chain (f.ident i)
  unfold flattenIfDeep
  rw [if_neg (Int.not_le.mpr hlimit)]
  apply (walkParents_counts hdepth (Nat.lt_succ_of_le hn) rfl fun _ => rfl).tryThen
  · rintro ⟨depth, exact⟩ g _ ⟨hcalm, hexact, hmet⟩
    refine Meets.ite (fun hfew => ?_) fun hmany => ?_
    · rintro _ rfl _
      refine ⟨hcalm.shorter, depth, hfew.2, ?_⟩
      obtain rfl : depth = n := (hexact hfew.1).trans (Nat.zero_add n)
      rw [hcalm.parent]
      exact hdepth
    · refine Meets.ite (fun hzero => ?_) fun _ =>
        detaches_before hcalm (flattenImage_detaches hlimit)
      -- The count is zero only for an image without a parent, which is below the limit.
      cases exact with
      | true => exact absurd ⟨rfl, by rw [hzero]; exact hlimit⟩ hmany
      | false => exact absurd hzero (Nat.ne_of_gt (hmet rfl))
  · exact fun e g _ hcalm => detaches_before hcalm (flattenImage_detaches hlimit)

theorem flattenLinked_detaches (hlimit : 0 < b.cloneDepthLimit) :
    (flattenLinked i).Meets chainMachine () workerContract
      (IfOk fun _ g => Detached b i f g) f := by
  have hlookup : (imageParent i).Meets chainMachine () workerContract
      (Ends (fun r g => Calm f g ∧ (r = none → f.parent (f.ident i) = none))
        fun _ g => Calm f g) f := by
    rw [← Program.bind_pure_right (imageParent i)]
    apply imageParent_meets
    · rintro g hcalm _ _ _ rfl _
      refine ⟨hcalm, fun hnone => ?_⟩
      rw [← hcalm.parent, ← hcalm.ident]
      exact Option.map_eq_none_iff.mp hnone
    · exact fun _ _ hcalm _ => hcalm
  apply hlookup.tryThen
  · rintro (_ | p) g _ ⟨hcalm, hnone⟩
    · rintro _ rfl _
      refine ⟨hcalm.shorter, 0, hlimit, .root ?_⟩
      rw [hcalm.parent]
      exact hnone rfl
    · exact detaches_before hcalm (flattenImage_detaches hlimit)
  · exact fun e g _ hcalm => detaches_before hcalm (flattenImage_detaches hlimit)

theorem chainStep_connArgs (o : ChainOutcome) (f : Forest) :
    (chainStep .connArgs o f).2 = f.moveToTrash o.trash := by
  obtain ⟨l, _ | t, landed⟩ := o
  · rfl
  · rfl

theorem flattenWorker_detaches (hlimit : 0 < b.cloneDepthLimit) (depthGated : Bool) :
    (flattenWorker b i depthGated).Meets chainMachine () workerContract
      (IfOk fun _ g => Detached b i f g) f := by
  unfold flattenWorker
  split
  · exact fun _ _ _ => trivial
  · apply Meets.answered
    rintro _ rfl hf o _
    have hcalm := calm_moveToTrash f o.trash
    have hsound : Sound (f.moveToTrash o.trash) := Sound.moveToTrash hf o.trash
    refine ⟨_, _, rfl, chainStep_connArgs o f, trivial, hsound, ?_⟩
    cases (chainMachine.step () .connArgs o f).1 with
    | error e => exact fun _ _ _ => trivial
    | ok u =>
      refine detaches_before hcalm ?_
      refine Meets.ite (fun _ => ?_) fun _ => ?_
      · exact flattenIfDeep_detaches hlimit hsound
      · exact flattenLinked_detaches hlimit

/-- If the image under the name has a parent, the worker reports no error. -/
def Succeeds (b : Backend) (f : Forest) (i : ImageRef) (depthGated : Bool)
    (os : List ChainOutcome) : Prop :=
  f.parent (f.ident i) ≠ none → (f.runWorker b i depthGated os).2 = some (.ok ())

theorem runWorker_detaches (hlimit : 0 < b.cloneDepthLimit) (hf : Sound f) {depthGated : Bool}
    {os : List ChainOutcome} (hok : Succeeds b f i depthGated os) :
    Detached b i f (f.runWorker b i depthGated os).1 := by
  by_cases hparent : f.parent (f.ident i) = none
  · obtain ⟨m, hm, hdepth⟩ := (runWorker_shorter (b := b) (i := i) hf depthGated os).2.depth _ _
      (.root hparent)
    obtain rfl := Nat.le_zero.mp hm
    exact ⟨(runWorker_shorter hf depthGated os).2, 0, hlimit, hdepth⟩
  · exact ((flattenWorker_detaches hlimit depthGated).exec hf os fun _ _ => trivial).2.2 _
      (hok hparent)

end Worker

/-- The image that a request makes or removes. -/
def Cmd.concerns : Cmd → Option ImageRef
  | .rbdCreate i _ _ | .rbdClone _ i _ | .rbdRm i => some i
  | _ => none

section Requests

variable {b : Backend} {f g : Forest} {i : ImageRef} {c : Cmd} {w : World} {who : ℕ} {o : Outcome}

theorem step_sameImages {j : ImageRef} (hj : c.concerns ≠ some j) (o : Outcome) :
    ((step who c o w).2.images j).isSome = (w.images j).isSome := by
  have hbecomes : Becomes c w j ((step who c o w).2.images j) := step_becomes who o
  cases hafter : (step who c o w).2.images j with
  | none =>
    rw [hafter] at hbecomes
    cases hbecomes with
    | absent hbefore => rw [hbefore]
    | removed hrequest => exact absurd (by rw [hrequest]; rfl) hj
  | some im =>
    rw [hafter] at hbecomes
    cases hbecomes with
    | kept hbefore => rw [hbefore]; rfl
    | set _ hbefore => rw [hbefore]; rfl
    | created hrequest => exact absurd (by rw [hrequest]; rfl) hj
    | cloned hrequest => exact absurd (by rw [hrequest]; rfl) hj

theorem born_iff : f.born i w = true ↔
    f.world.images i = none ∧ (w.images i).isSome = true := by
  simp [Forest.born, Option.isNone_iff_eq_none]

theorem Sound.unborn (hf : Sound f) (hc : c.concerns = some i) (hrm : c ≠ .rbdRm i)
    (hborn : ¬f.born i (Ceph.step who c o f.world).2 = true) :
    Sound { f with world := (Ceph.step who c o f.world).2 } := by
  refine hf.withWorld fun j => ?_
  by_cases hji : j = i
  · subst hji
    cases hbefore : f.world.images j with
    | some im => exact step_present who o hrm (by rw [hbefore]; rfl)
    | none => simpa [born_iff, hbefore] using hborn
  · exact step_sameImages (by rw [hc]; exact fun h => hji (Option.some.inj h).symm) o

theorem Sound.born (hf : Sound f) {p : Option ℕ} (hc : c.concerns = some i)
    (hborn : f.born i (Ceph.step who c o f.world).2 = true)
    (hp : ∀ q, p = some q → q < f.next ∧ (f.world.images (f.name q)).isSome = true ∧
      f.ident (f.name q) = q ∧ ∃ n < maxAncestors, Depth f.parent q n) :
    Sound (f.grow i p (Ceph.step who c o f.world).2) := by
  refine hf.grow (by rw [(born_iff.mp hborn).1]; rfl) (fun j hj => ?_) hp
  exact step_sameImages (by rw [hc]; exact fun h => hj (Option.some.inj h).symm) o

theorem clone_parent {parent : Spec} {l : List Text} (hf : Sound f)
    (hborn : f.born i (step who (.rbdClone parent i l) (f.choice (.rbdClone parent i l) o)
      f.world).2 = true) :
    f.ident parent.image < f.next ∧
      (f.world.images (f.name (f.ident parent.image))).isSome = true ∧
      f.ident (f.name (f.ident parent.image)) = f.ident parent.image ∧
      ∃ n < maxAncestors, Depth f.parent (f.ident parent.image) n := by
  obtain ⟨hbefore, hafter⟩ := born_iff.mp hborn
  obtain ⟨im, him⟩ := Option.isSome_iff_exists.mp hafter
  have hbecomes : Becomes (.rbdClone parent i l) f.world i (some im) :=
    him ▸ step_becomes who (f.choice (.rbdClone parent i l) o)
  have hlive : (f.world.images parent.image).isSome = true := by
    cases hbecomes with
    | kept h => cases hbefore.symm.trans h
    | set _ h => cases hbefore.symm.trans h
    | created h => cases h
    | cloned h _ hsource =>
      cases h
      rw [hsource]
      rfl
  have hroom : climb f.parent maxAncestors (f.ident parent.image) ≠ maxAncestors := by
    intro hfull
    have hsame : (step who (.rbdClone parent i l) (f.choice (.rbdClone parent i l) o)
        f.world).2 = f.world := by
      refine step_unapplied ?_
      unfold Forest.choice
      dsimp only
      rw [if_pos ⟨hlive, hfull⟩]
      rfl
    rw [hsame, hbefore] at him
    cases him
  obtain ⟨hlt, hname⟩ := hf.named _ hlive
  obtain ⟨n, hn, hdepth⟩ := hf.chain (f.ident parent.image)
  refine ⟨hlt, by rwa [hname], by rw [hname], n, ?_, hdepth⟩
  rw [hdepth.climb] at hroom
  omega

theorem performRm_linked (i : ImageRef) (w : World) : (performRm 1 i w).2 = w := by
  unfold performRm onImage
  cases w.images i with
  | none => rfl
  | some im =>
    dsimp only
    split_ifs with _ _ hpick
    · rfl
    · rfl
    · rfl
    · exact absurd Nat.one_ne_zero hpick

theorem step_rm_absent (o : Outcome) (h : w.images i = none) :
    (step who (.rbdRm i) o w).2.images i = none := by
  have hbecomes : Becomes (.rbdRm i) w i ((step who (.rbdRm i) o w).2.images i) :=
    step_becomes who o
  cases hafter : (step who (.rbdRm i) o w).2.images i with
  | none => rfl
  | some im =>
    rw [hafter] at hbecomes
    cases hbecomes with
    | kept hbefore => cases h.symm.trans hbefore
    | set _ hbefore => cases h.symm.trans hbefore
    | created hrequest => cases hrequest
    | cloned hrequest => cases hrequest

theorem removed_childless (hf : Sound f) (hgone : ((f.world.images i).isSome &&
      ((step who (.rbdRm i) (f.choice (.rbdRm i) o) f.world).2.images i).isNone) = true) (x : ℕ) :
    f.parent x ≠ some (f.ident i) := by
  intro hx
  have hmem : x ∈ f.children (f.ident i) := by
    have hlt : x < f.next := Nat.lt_of_not_le fun h => by rw [hf.fresh x h] at hx; cases hx
    simp [Forest.children, hlt, hx]
  have hpick : (f.choice (.rbdRm i) o).pick = 1 := if_neg (List.ne_nil_of_mem hmem)
  have hsame : (step who (.rbdRm i) (f.choice (.rbdRm i) o) f.world).2 = f.world := by
    obtain h | h := step_state who (.rbdRm i) (f.choice (.rbdRm i) o) f.world
    · exact h
    · rw [h, hpick]
      exact performRm_linked i f.world
  rw [hsame] at hgone
  cases him : f.world.images i with
  | none => simp [him] at hgone
  | some im => simp [him] at hgone

theorem Sound.removed (hf : Sound f) (hno : ∀ x, f.parent x ≠ some (f.ident i))
    (hw : ∀ j, j ≠ i → (w.images j).isSome = (f.world.images j).isSome)
    (hgone : (w.images i).isNone = true) : Sound { f.cut (f.ident i) with world := w } where
  named j hj := by
    have hji : j ≠ i := fun h => by
      subst h
      rw [Option.isNone_iff_eq_none.mp hgone] at hj
      cases hj
    exact hf.named j (by rwa [← hw j hji])
  kept x p hx := by
    have hlink : f.parent x = some p := by
      change Function.update f.parent (f.ident i) none x = some p at hx
      rw [Function.update_apply] at hx
      split_ifs at hx
      exact hx
    obtain ⟨hp, hplace⟩ := hf.kept x p hlink
    refine ⟨hp, hplace.imp_right fun hlive => ⟨?_, hlive.2⟩⟩
    have hname : f.name p ≠ i := fun h => hno x (by rw [hlink, ← h, hlive.2])
    exact (hw _ hname).trans hlive.1
  fresh := (hf.cut _).fresh
  chain := (hf.cut _).chain

theorem Sound.step (hf : Sound f) (o : ForestOutcome) : Sound (Forest.step b who c o f).2 := by
  have hg := hf.moveToTrash o.trash
  unfold Forest.step
  generalize f.moveToTrash o.trash = g at hg
  dsimp only
  cases c with
  | rbdCreate i n l =>
    unfold Forest.after
    dsimp only
    split_ifs with hborn
    · exact hg.born rfl hborn fun q h => by cases h
    · exact hg.unborn rfl (fun h => by cases h) hborn
  | rbdClone parent i l =>
    unfold Forest.after
    dsimp only
    split_ifs with hborn
    · refine hg.born rfl hborn fun q hq => ?_
      obtain rfl := Option.some.inj hq
      exact clone_parent hg hborn
    · exact hg.unborn rfl (fun h => by cases h) hborn
  | rbdRm i =>
    have hothers : ∀ j, j ≠ i → ((Ceph.step who (.rbdRm i) (g.choice (.rbdRm i) o.base)
        g.world).2.images j).isSome = (g.world.images j).isSome :=
      fun j hj => step_sameImages (c := .rbdRm i) (fun h => hj (Option.some.inj h).symm) _
    unfold Forest.after
    dsimp only
    split_ifs with hgone
    · exact hg.removed (removed_childless hg hgone) hothers (Bool.and_eq_true_iff.mp hgone).2
    · refine hg.withWorld fun j => ?_
      by_cases hji : j = i
      · subst hji
        cases hbefore : g.world.images j with
        | none => rw [step_rm_absent _ hbefore]
        | some im => simpa [hbefore, Option.isSome_iff_ne_none] using hgone
      · exact hothers j hji
  | backgroundFlatten i depthGated => exact (runWorker_shorter hg depthGated o.worker).1
  | _ => exact hg.withWorld fun j => step_sameImages (fun h => by cases h) _

end Requests

/-- Every image has fewer ancestors than the limit. -/
def Bounded (b : Backend) (f : Forest) : Prop :=
  ∀ x, ∃ n : ℕ, (n : ℤ) < b.cloneDepthLimit ∧ Depth f.parent x n

/-- The image under the name may have one ancestor too many. -/
def Pending (b : Backend) (i : ImageRef) (f : Forest) : Prop :=
  (∀ x, x ≠ f.ident i → ∃ n : ℕ, (n : ℤ) < b.cloneDepthLimit ∧ Depth f.parent x n) ∧
    ∃ n : ℕ, (n : ℤ) ≤ b.cloneDepthLimit ∧ Depth f.parent (f.ident i) n

/-- Nothing but a clone of a volume still waits for its worker. -/
def Provisioned (b : Backend) (req : CreateVolumeRequest) (i : ImageRef) (f : Forest) : Prop :=
  Pending b i f ∧ (req.source = none → Bounded b f)

/-- No image is made. -/
def standing : Footprint where
  sets _ _ _ := True
  creates _ := False
  clones _ _ := False
  removes _ := True

/-- The worker works on an image that has a parent. -/
def Flattens (b : Backend) (c : Cmd) (o : ForestOutcome) (f : Forest) : Prop :=
  match c with
  | .backgroundFlatten i depthGated => Succeeds b (f.moveToTrash o.trash) i depthGated o.worker
  | _ => True

def forestContract (b : Backend) : Contract Cmd ForestOutcome Forest :=
  .alone Sound (Flattens b) fun _ _ _ => True

section Creating

variable {α β : Type} {b : Backend} {req : CreateVolumeRequest} {i : ImageRef} {f g : Forest}
variable {c : Cmd} {who : ℕ} {p : Prog α}

theorem Bounded.shorter (h : Bounded b f) (hg : Shorter f g) : Bounded b g := by
  intro x
  obtain ⟨n, hn, hdepth⟩ := h x
  obtain ⟨m, hm, hdepth⟩ := hg.depth x n hdepth
  exact ⟨m, by omega, hdepth⟩

theorem Pending.shorter (h : Pending b i f) (hg : Shorter f g) : Pending b i g := by
  unfold Pending
  rw [hg.ident]
  refine ⟨fun x hx => ?_, ?_⟩
  · obtain ⟨n, hn, hdepth⟩ := h.1 x hx
    obtain ⟨m, hm, hdepth⟩ := hg.depth x n hdepth
    exact ⟨m, by omega, hdepth⟩
  · obtain ⟨n, hn, hdepth⟩ := h.2
    obtain ⟨m, hm, hdepth⟩ := hg.depth _ n hdepth
    exact ⟨m, by omega, hdepth⟩

theorem Bounded.pending (h : Bounded b f) : Pending b i f := by
  obtain ⟨n, hn, hdepth⟩ := h (f.ident i)
  exact ⟨fun x _ => h x, n, hn.le, hdepth⟩

theorem Bounded.provisioned (h : Bounded b f) : Provisioned b req i f := ⟨h.pending, fun _ => h⟩

theorem Provisioned.shorter (h : Provisioned b req i f) (hg : Shorter f g) :
    Provisioned b req i g :=
  ⟨h.1.shorter hg, fun hsource => (h.2 hsource).shorter hg⟩

theorem Pending.detached (h : Pending b i f) (hg : Detached b i f g) : Bounded b g := by
  intro x
  by_cases hx : x = f.ident i
  · rw [hx]
    exact hg.2
  · obtain ⟨n, hn, hdepth⟩ := h.1 x hx
    obtain ⟨m, hm, hdepth⟩ := hg.1.depth x n hdepth
    exact ⟨m, by omega, hdepth⟩

theorem shorter_step (hc : standing.allows c) (hf : Sound f) (o : ForestOutcome) :
    Shorter f (Forest.step b who c o f).2 := by
  have hcalm := (calm_moveToTrash f o.trash).shorter
  have hg := hf.moveToTrash o.trash
  refine hcalm.trans ?_
  unfold Forest.step
  generalize f.moveToTrash o.trash = g at hg
  have hworld : ∀ w, Shorter g { g with world := w } :=
    fun w => ⟨rfl, fun _ n hn => ⟨n, Nat.le_refl _, hn⟩⟩
  cases c with
  | rbdCreate i n l => exact hc.elim
  | rbdClone parent i l => exact hc.elim
  | rbdRm i =>
    unfold Forest.after
    dsimp only
    split_ifs
    · exact ⟨rfl, (shorter_cut g (g.ident i)).depth⟩
    · exact hworld _
  | backgroundFlatten i depthGated => exact (runWorker_shorter hg depthGated o.worker).2
  | _ => exact hworld _

theorem Bounded.grow (hlimit : 0 < b.cloneDepthLimit) (h : Bounded b f) (hf : Sound f)
    (w : World) : Bounded b (f.grow i none w) := by
  intro x
  by_cases hx : x = f.next
  · exact ⟨0, hlimit, .root (by simp [Forest.grow, hx])⟩
  · obtain ⟨m, hm, hdepth⟩ := h x
    exact ⟨m, hm, hdepth.graft hx hf.childless _⟩

theorem Bounded.create {n : Int} {l : List Text} (hlimit : 0 < b.cloneDepthLimit)
    (h : Bounded b f) (hf : Sound f) (o : ForestOutcome) :
    Bounded b (Forest.step b who (.rbdCreate i n l) o f).2 := by
  have hg := hf.moveToTrash o.trash
  replace h := h.shorter (calm_moveToTrash f o.trash).shorter
  unfold Forest.step
  generalize f.moveToTrash o.trash = g at hg h
  unfold Forest.after
  dsimp only
  split_ifs
  · exact h.grow hlimit hg _
  · exact h

theorem Bounded.clone {parent : Spec} {l : List Text} (h : Bounded b f) (hf : Sound f)
    (o : ForestOutcome) : Pending b i (Forest.step b who (.rbdClone parent i l) o f).2 := by
  have hg := hf.moveToTrash o.trash
  replace h := h.shorter (calm_moveToTrash f o.trash).shorter
  unfold Forest.step
  generalize f.moveToTrash o.trash = g at hg h
  unfold Forest.after
  dsimp only
  split_ifs with hborn
  · obtain ⟨hlt, _⟩ := clone_parent hg hborn
    have hident : (g.grow i (some (g.ident parent.image)) (step who (.rbdClone parent i l)
        (g.choice (.rbdClone parent i l) o.base) g.world).2).ident i = g.next :=
      Function.update_self ..
    unfold Pending
    rw [hident]
    refine ⟨fun x hx => ?_, ?_⟩
    · obtain ⟨m, hm, hdepth⟩ := h x
      exact ⟨m, hm, hdepth.graft hx hg.childless _⟩
    · obtain ⟨m, hm, hdepth⟩ := h (g.ident parent.image)
      refine ⟨m + 1, by omega, .child (Function.update_self ..) ?_⟩
      exact hdepth.graft (Nat.ne_of_lt hlt) hg.childless _
  · exact Bounded.pending (f := { g with world := _ }) h

theorem standing_shortens (hp : standing.Covers p) : p.Meets (forestMachine b) who
    (forestContract b) (fun _ g => Shorter f g) f := by
  refine Meets.of_uses (P := Shorter f) hp (.refl f) (fun _ _ h hg => h ▸ hg) ?_
  exact fun c o g hc hg _ hfg => ⟨trivial, Sound.step hg o, hfg.trans (shorter_step hc hg o)⟩

theorem standing_then {k : α → Prog β} {P : Forest → Prop} {Q : β → Forest → Prop}
    (hp : standing.Covers p) (hP : ∀ g, Shorter f g → P g)
    (hk : ∀ r g, P g → (k r).Meets (forestMachine b) who (forestContract b) (IfOk Q) g) :
    (p.bind k).Meets (forestMachine b) who (forestContract b) (IfOk Q) f := by
  apply (standing_shortens hp).andThen
  · exact fun r g _ hg => hk r g (hP g hg)
  · exact fun _ _ _ _ => trivial

theorem standing_ends {Q : α → Forest → Prop} (hp : standing.Covers p)
    (hQ : ∀ r g, Shorter f g → Q r g) :
    p.Meets (forestMachine b) who (forestContract b) (IfOk Q) f := by
  apply (standing_shortens hp).mono
  rintro (e | r) g _ hg
  · trivial
  · exact hQ r g hg

theorem backgroundFlatten_bounds (hlimit : 0 < b.cloneDepthLimit) (h : Pending b i f)
    (depthGated : Bool) : (backgroundFlatten i depthGated).Meets (forestMachine b) who
      (forestContract b) (IfOk fun _ g => Bounded b g) f := by
  rintro _ rfl hf o hok
  refine ⟨trivial, Sound.step hf o, ?_⟩
  rintro _ rfl _
  have hcalm := calm_moveToTrash f o.trash
  exact (h.shorter hcalm.shorter).detached
    (runWorker_detaches hlimit (Sound.moveToTrash hf o.trash) hok)

theorem provision_provisions (hlimit : 0 < b.cloneDepthLimit) (h : Bounded b f) (sizeMiB : Int) :
    (provision b req i sizeMiB).Meets (forestMachine b) who (forestContract b)
      (IfOk fun _ g => Provisioned b req i g) f := by
  have hstamp : standing.Covers (imageMetaSet i.spec .source req.sourceDesc) :=
    imageMetaSet_uses trivial
  have hclone : ∀ {parent : Spec} {g : Forest}, Bounded b g →
      (run (.rbdClone parent i (dataPoolArgs req.parameters))).Meets (forestMachine b) who
        (forestContract b) (Returns fun _ g => Pending b i g) g := by
    intro parent g hg
    refine Meets.ask (fun _ _ _ hh hx => hh ▸ hx) ?_
    rintro _ o rfl hsound _
    exact ⟨trivial, Sound.step hsound o, hg.clone hsound o⟩
  unfold provision
  split
  · apply hclone h |>.returns
    intro r g _ hg
    refine standing_then (P := Pending b i) (orFail_uses _ _) (fun _ => hg.shorter) fun _ g hg => ?_
    refine standing_then (P := Pending b i) hstamp (fun _ => hg.shorter) fun _ g hg => ?_
    unfold scheduleFlatten
    rw [if_neg (Int.not_le.mpr hlimit)]
    apply (backgroundFlatten_bounds hlimit hg true).mono
    rintro (e | u) g _ hg
    · trivial
    · exact hg.provisioned
  · next parent _ hsource =>
    refine standing_then (P := Bounded b) (Uses.ask trivial) (fun _ => h.shorter) fun r g hg => ?_
    refine standing_then (P := Bounded b) tolerating_uses (fun _ => hg.shorter)
      fun _ g hg => ?_
    apply (hclone hg).returns
    intro r g _ hg
    refine standing_then (P := Pending b i) tolerating_uses (fun _ => hg.shorter)
      fun _ g hg => ?_
    refine standing_ends hstamp fun _ g hshort => ⟨hg.shorter hshort, fun hnone => ?_⟩
    rw [hsource] at hnone
    cases hnone
  · apply Meets.returns (P := fun _ g => Bounded b g)
    · refine Meets.ask (fun _ _ _ hh hx => hh ▸ hx) ?_
      rintro _ o rfl hsound _
      exact ⟨trivial, Sound.step hsound o, h.create hlimit hsound o⟩
    · intro r g _ hg
      exact standing_ends tolerating_uses fun _ _ hshort => (hg.shorter hshort).provisioned

theorem createSized_provisions (hlimit : 0 < b.cloneDepthLimit) (h : Bounded b f) (sizeMiB : Int) :
    (createSized b req i sizeMiB).Meets (forestMachine b) who (forestContract b)
      (IfOk fun _ g => Provisioned b req i g) f := by
  refine standing_then (P := Bounded b) (imageInfo_uses trivial) (fun _ => h.shorter)
    fun found g hg => ?_
  split
  · exact standing_ends (resumeImage_covers req i _ _)
      fun _ _ hshort => (hg.shorter hshort).provisioned
  · refine (provision_provisions hlimit hg sizeMiB).ends fun _ g _ hg => ?_
    refine standing_ends ?_ fun _ _ hshort => Provisioned.shorter hg hshort
    refine Uses.ite ?_ trivial
    apply (existingInfo_uses trivial).bind
    exact fun _ => Uses.ite ((resizeImage_uses trivial).bind fun _ => trivial) trivial

theorem dropTmpSnap_bounds (hlimit : 0 < b.cloneDepthLimit) (h : Provisioned b req i f) :
    (dropTmpSnap req i).Meets (forestMachine b) who (forestContract b)
      (IfOk fun _ g => Bounded b g) f := by
  unfold dropTmpSnap
  split
  · next hsource =>
    rintro _ rfl _
    exact h.2 hsource
  · refine standing_then (P := Pending b i) (Uses.ask trivial) (fun _ => h.1.shorter)
      fun r g hg => ?_
    refine standing_then (P := Pending b i) tolerating_uses (fun _ => hg.shorter)
      fun _ g hg => ?_
    exact backgroundFlatten_bounds hlimit hg false

theorem standing_labels (i : ImageRef) : standing.Labels i := fun _ _ _ _ => trivial

theorem createAt_bounds (hlimit : 0 < b.cloneDepthLimit) (h : Bounded b f) (cc : ClusterConfig)
    (pool : String) : (createAt b cc req pool i).Meets (forestMachine b) who (forestContract b)
      (IfOk fun _ g => Bounded b g) f := by
  refine (createSized_provisions hlimit h _).ends fun size g _ hg => ?_
  refine (dropTmpSnap_bounds hlimit hg).ends fun _ g _ hg => ?_
  refine standing_ends ?_ fun _ _ => hg.shorter
  apply (applyMutableParams_uses (fun _ _ => trivial) _).bind
  intro _
  apply (recordEncryption_covers b req (standing_labels i)).bind
  intro encKeyID
  apply (setOwnerMetadata_uses (ownerMeta_labels (standing_labels i))).bind
  intro _
  exact (imageMetaLabel_uses trivial).bind fun _ => trivial

theorem createVolume_bounds (hlimit : 0 < b.cloneDepthLimit) (h : Bounded b f) :
    (createVolume b req).Meets (forestMachine b) who (forestContract b)
      (IfOk fun _ g => Bounded b g) f := by
  obtain ⟨e, he⟩ | ⟨i, cc, pool, ns, _, hon⟩ := createVolume_cases b req
  · rw [he]
    exact fun _ _ _ => trivial
  · rw [hon]
    refine standing_then (P := Bounded b) (connArgs_covers cc _ _) (fun _ => h.shorter)
      fun _ g hg => ?_
    split
    · refine standing_then (P := Bounded b)
        (ensureNamespace_uses (fun _ _ => trivial) (fun _ _ _ => trivial) _ _ _)
        (fun _ => hg.shorter) fun _ g hg => ?_
      exact createAt_bounds hlimit hg cc pool
    · exact createAt_bounds hlimit hg cc pool

end Creating

/-- What happens to the images: a call of the plugin, an image from outside, or a move to the
trash. -/
inductive Happening where
  | call (who : ℕ) (op : Operation) (os : List ForestOutcome)
  | imported (i : ImageRef) (sizeMiB : Int)
  | trashed (i : ImageRef)

def Happening.leaves (b : Backend) (f : Forest) : Happening → Forest
  | .call who op os => ((forestMachine b).exec who (op.call b) os f).2.1
  | .imported i sizeMiB => f.imported i sizeMiB
  | .trashed i => f.trash i

/-- A create returns, and its workers work. Other calls may end in any way. -/
def Happening.Completes (b : Backend) (f : Forest) : Happening → Prop
  | .call who op os => op.creates ≠ none →
      ((forestMachine b).exec who (op.call b) os f).2.2 = some (.ok ()) ∧
        ∀ e ∈ ((forestMachine b).exec who (op.call b) os f).1,
          Flattens b e.cmd e.outcome e.before
  | .imported _ _ | .trashed _ => True

def Completed (b : Backend) : Forest → List Happening → Prop
  | _, [] => True
  | f, h :: rest => h.Completes b f ∧ Completed b (h.leaves b f) rest

section Runs

variable {b : Backend} {f : Forest}

theorem Sound.imported (hf : Sound f) (i : ImageRef) (sizeMiB : Int) :
    Sound (f.imported i sizeMiB) := by
  unfold Forest.imported
  split_ifs with hi
  · exact hf
  · refine hf.grow (by simpa using hi) (fun j hj => ?_) fun q h => by cases h
    rw [setImage_images_of_ne hj]

theorem Bounded.imported (hlimit : 0 < b.cloneDepthLimit) (h : Bounded b f) (hf : Sound f)
    (i : ImageRef) (sizeMiB : Int) : Bounded b (f.imported i sizeMiB) := by
  unfold Forest.imported
  split_ifs
  · exact h
  · exact h.grow hlimit hf _

theorem maintenance_standing (c : Cmd) (hc : maintenance.allows c) : standing.allows c := by
  cases c with
  | rbdCreate i n l => exact hc
  | rbdClone parent i l => exact hc
  | _ => trivial

theorem Happening.bounded (hlimit : 0 < b.cloneDepthLimit) (hf : Sound f) (hbound : Bounded b f)
    (h : Happening) (hcompletes : h.Completes b f) :
    Sound (h.leaves b f) ∧ Bounded b (h.leaves b f) := by
  cases h with
  | call who op os =>
    cases hop : op.creates with
    | none =>
      refine (Machine.exec_keeps (I := fun g => Sound g ∧ Bounded b g)
        ((call_maintains hop).mono maintenance_standing) ⟨hf, hbound⟩ ?_ os).1
      rintro c o g hc ⟨hg, hgbound⟩
      exact ⟨hg.step o, hgbound.shorter (shorter_step hc hg o)⟩
    | some req =>
      obtain ⟨hok, hworkers⟩ := hcompletes (by rw [hop]; exact Option.some_ne_none _)
      have hmeets : (op.call b).Meets (forestMachine b) who (forestContract b)
          (IfOk fun _ g => Bounded b g) f := by
        cases op with
        | createVolume req =>
          exact (createVolume_bounds hlimit hbound).ends fun _ g _ hg _ heq _ => heq ▸ hg
        | _ => cases hop
      obtain ⟨_, hsound, hresult⟩ := hmeets.exec hf os hworkers
      exact ⟨hsound, hresult _ hok⟩
  | imported i sizeMiB => exact ⟨hf.imported i sizeMiB, hbound.imported hlimit hf i sizeMiB⟩
  | trashed i => exact ⟨hf.trash i, hbound.shorter (calm_trash f i).shorter⟩

theorem run_bounded (hlimit : 0 < b.cloneDepthLimit) (hf : Sound f) (hbound : Bounded b f)
    (hs : List Happening) (hcompleted : Completed b f hs) :
    Bounded b (hs.foldl (Happening.leaves b) f) := by
  induction hs generalizing f with
  | nil => exact hbound
  | cons h rest ih =>
    obtain ⟨hsound, hnext⟩ := h.bounded hlimit hf hbound hcompleted.1
    exact ih hsound hnext hcompleted.2

end Runs

/-- In every run of completed creates and other calls, with images from outside that have no
parent and moves to the trash at any time, every image has fewer ancestors than the limit
between the calls. Lookups of the workers may fail. -/
theorem clone_chains_bounded (b : Backend) (hlimit : 0 < b.cloneDepthLimit) (f : Forest)
    (hf : Sound f) (houtside : ∀ x, f.parent x = none) (hs : List Happening)
    (hcompleted : Completed b f hs) (x : ℕ) :
    ∃ n : ℕ, (n : ℤ) < b.cloneDepthLimit ∧
      Depth (hs.foldl (Happening.leaves b) f).parent x n :=
  run_bounded hlimit hf (fun x => ⟨0, hlimit, .root (houtside x)⟩) hs hcompleted x

section Examples

instance (b : Backend) (f : Forest) (i : ImageRef) (depthGated : Bool) (os : List ChainOutcome) :
    Decidable (Succeeds b f i depthGated os) :=
  inferInstanceAs (Decidable (_ → _))

instance (b : Backend) (c : Cmd) (o : ForestOutcome) (f : Forest) :
    Decidable (Flattens b c o f) := by
  unfold Flattens
  split <;> infer_instance

instance (b : Backend) (f : Forest) (h : Happening) : Decidable (h.Completes b f) := by
  unfold Happening.Completes
  split <;> infer_instance

instance decidableCompleted (b : Backend) :
    (f : Forest) → (hs : List Happening) → Decidable (Completed b f hs)
  | _, [] => inferInstanceAs (Decidable True)
  | f, h :: rest =>
      have := decidableCompleted b (h.leaves b f) rest
      inferInstanceAs (Decidable (_ ∧ _))

def chainBackend (limit : Int) : Backend := { krbdBackend with cloneDepthLimit := limit }

def noImages : Forest where
  world := World.start
  ident _ := 0
  name _ := pvcImage
  parent _ := none
  inTrash _ := false
  next := 0

theorem noImages_sound : Sound noImages where
  named _ h := by cases h
  kept _ _ h := by cases h
  fresh _ _ := rfl
  chain _ := ⟨0, Nat.zero_le _, .root rfl⟩

/-- Everything works. -/
def smooth : ForestOutcome := ⟨.ok, [], List.replicate 5 ⟨[], none, false⟩⟩

def smoothly (op : Operation) : Happening := .call 0 op (List.replicate 9 smooth)

def snapshotOf (i : ImageRef) (name : String) : Operation :=
  .createSnapshot ⟨name, i, noSecrets, noSecrets⟩

def restoreOf (i : ImageRef) (snap name : String) : Operation :=
  .createVolume { plainRequest name with
    sourceSnapshot := some (i.at (shortName snapNamePrefix snap)) }

def restoredImage : ImageRef := ⟨"ceph", "pool", shortName volNamePrefix "copy"⟩

/-- A restore of a restore, whose worker meets an image in the trash. -/
def restoreTwice : List Happening :=
  [smoothly (.createVolume (plainRequest "pvc")), smoothly (snapshotOf pvcImage "first"),
    smoothly (restoreOf pvcImage "first" "copy"), .trashed pvcImage,
    smoothly (snapshotOf restoredImage "second"),
    smoothly (restoreOf restoredImage "second" "copy of copy")]

theorem clone_chains_bounded_twice :
    let f := restoreTwice.foldl (Happening.leaves (chainBackend 2)) noImages
    f.parent 1 = some 0 ∧ f.inTrash 0 = true ∧ f.parent 2 = none ∧
      ∀ x, ∃ n : ℕ, (n : ℤ) < 2 ∧ Depth f.parent x n := by
  intro f
  refine ⟨by decide +kernel, by decide +kernel, by decide +kernel, fun x => ?_⟩
  exact clone_chains_bounded (chainBackend 2) (by decide) noImages noImages_sound (fun _ => rfl)
    restoreTwice (by decide +kernel) x

end Examples

end BardCsi.Ceph
