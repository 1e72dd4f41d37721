import BardCsi.Ceph.Evaluate
import BardCsi.Ceph.Stamps

/-!
Clones that hang on their parents. A clone stays linked to the image of its snapshot until it is
flattened or removed, and an image cannot be removed while a clone is linked to it. A linked
clone keeps its snapshot in the trash when that is removed. The other world leaves it to the
environment whether an image has such clones.
-/
namespace BardCsi.Ceph

open Effect

/-- The world, and the image that each linked clone hangs on. -/
structure Linked where
  world : World
  links : List (ImageRef × ImageRef)

namespace Linked

variable (s : Linked)

/-- The clones of an image, of its snapshots in the trash as well. -/
def children (i : ImageRef) : List ImageRef := (s.links.filter fun l => l.2 = i).map Prod.fst

/-- A removal is refused because of clones if there are some. -/
def choice (c : Cmd) (o : Outcome) : Outcome :=
  match c with
  | .rbdRm i => { o with pick := if s.children i = [] then 0 else 1 }
  | _ => o

/-- The links after a request that has left the world `after`. A flatten that depends on the depth
of the clone may do nothing. -/
def linksAfter (c : Cmd) (o : Outcome) (after : World) : List (ImageRef × ImageRef) :=
  match c with
  | .rbdClone parent i _ =>
      if (s.world.images i).isNone && (after.images i).isSome then Assoc.set s.links i parent.image
      else s.links
  | .rbdRm i => if (after.images i).isNone then Assoc.erase s.links i else s.links
  | .backgroundFlatten i depthGated =>
      if o.applies c && (!depthGated || o.pick ≠ 0) then Assoc.erase s.links i else s.links
  | _ => s.links

/-- What a request answers here. -/
def reply (c : Cmd) (o : Outcome) (r : c.Reply) : c.Reply :=
  match c with
  | .rbdChildren i => if o.fault.isNone then .ok (s.children i) else r
  | _ => r

def step (who : ℕ) (c : Cmd) (o : Outcome) : c.Reply × Linked :=
  let r := Ceph.step who c (s.choice c o) s.world
  (s.reply c o r.1, ⟨r.2, s.linksAfter c o r.2⟩)

/-- The snapshot of the image is there, and not in the trash. -/
def Live (i : ImageRef) (n : ObjectName) : Prop :=
  ∃ im, s.world.images i = some im ∧ (Assoc.get im.snaps n).isSome = true

end Linked

def linkMachine : Machine Cmd Cmd.Reply ℕ Outcome Linked := ⟨fun who c o s => s.step who c o⟩

section Live

variable {σ : Type} {i : ImageRef} {n : ObjectName} {who : ℕ} {c : Cmd} {o : Outcome} {s : Linked}

/-- The request has made the snapshot, if it was not there before. -/
def Makes (i : ImageRef) (n : ObjectName) (e : Event Cmd Outcome σ) : Prop :=
  e.cmd = .rbdSnapCreate i n ∧ e.outcome.applies e.cmd = true

/-- The request has removed the snapshot, if it was there. -/
def Removes (i : ImageRef) (n : ObjectName) (e : Event Cmd Outcome σ) : Prop :=
  e.cmd = .rbdSnapRm ⟨i, some n⟩ ∧ e.outcome.applies e.cmd = true

/-- The snapshot was made and not removed afterwards. -/
def Leaves (i : ImageRef) (n : ObjectName) : List (Event Cmd Outcome σ) → Prop
  | [] => False
  | e :: rest => Leaves i n rest ∨ Makes i n e ∧ ∀ e' ∈ rest, ¬Removes i n e'

theorem choice_applies : (s.choice c o).applies c = o.applies c := by
  cases c with
  | rbdRm i => rfl
  | _ => rfl

theorem live_step (h : (s.step who c o).2.Live i n) :
    s.Live i n ∨ Makes i n (⟨c, o, s⟩ : Event Cmd Outcome Linked) := by
  by_cases happlies : o.applies c = true
  · obtain ⟨im', him', hn⟩ := h
    have hb := step_becomes (c := c) (w := s.world) (j := i) who (s.choice c o)
    rw [show (Ceph.step who c (s.choice c o) s.world).2.images i = some im' from him'] at hb
    cases hb with
    | kept hbefore _ hcarried =>
      rcases hcarried.made n hn with hthere | rfl
      · exact .inl ⟨_, hbefore, hthere⟩
      · exact .inr ⟨rfl, happlies⟩
    | set _ hbefore _ hcarried =>
      rcases hcarried.made n hn with hthere | rfl
      · exact .inl ⟨_, hbefore, hthere⟩
      · exact .inr ⟨rfl, happlies⟩
    | created _ _ => cases hn
    | cloned _ _ _ _ hsnaps =>
      rw [hsnaps] at hn
      cases hn
  · left
    have hsame : (Ceph.step who c (s.choice c o) s.world).2 = s.world :=
      step_unapplied (by rw [choice_applies]; simpa using happlies)
    unfold Linked.Live at h ⊢
    rwa [show (s.step who c o).2.world = s.world from hsame] at h

theorem not_live_removed (h : Removes i n (⟨c, o, s⟩ : Event Cmd Outcome Linked)) :
    ¬(s.step who c o).2.Live i n := by
  obtain ⟨rfl, happlies⟩ := h
  rintro ⟨im', him', hn⟩
  have hstate : (Ceph.step who (.rbdSnapRm ⟨i, some n⟩) o s.world).2 =
      (performSnapRm ⟨i, some n⟩ s.world).2 := step_applied happlies
  rw [show (s.step who (.rbdSnapRm ⟨i, some n⟩) o).2.world = _ from hstate] at him'
  unfold performSnapRm onImage at him'
  cases him : s.world.images i with
  | none =>
    rw [him] at him'
    cases him.symm.trans him'
  | some im =>
    rw [him] at him'
    dsimp only at him'
    split_ifs at him' with hnone
    · obtain rfl := Option.some.inj (him.symm.trans him')
      rw [Option.isNone_iff_eq_none.mp hnone] at hn
      cases hn
    · change (s.world.setImage i _).images i = _ at him'
      rw [setImage_images_self] at him'
      obtain rfl := Option.some.inj him'
      simp at hn

theorem live_exec {α : Type} (p : Prog α) (os : List Outcome)
    (h : (linkMachine.exec who p os s).2.1.Live i n) :
    (s.Live i n ∧ ∀ e ∈ (linkMachine.exec who p os s).1, ¬Removes i n e) ∨
      Leaves i n (linkMachine.exec who p os s).1 := by
  induction p generalizing s os with
  | pure a => exact .inl ⟨h, fun e he => absurd he List.not_mem_nil⟩
  | fail e => exact .inl ⟨h, fun e he => absurd he List.not_mem_nil⟩
  | request c k ih =>
    cases os with
    | nil => exact .inl ⟨h, fun e he => absurd he List.not_mem_nil⟩
    | cons o os =>
      rcases ih _ os h with ⟨hlive, hkept⟩ | hleaves
      · rcases live_step hlive with hbefore | hmakes
        · refine .inl ⟨hbefore, fun e he => ?_⟩
          rcases List.mem_cons.mp he with rfl | he
          · exact fun hremoves => not_live_removed hremoves hlive
          · exact hkept e he
        · exact .inr (.inr ⟨hmakes, hkept⟩)
      · exact .inr (.inl hleaves)

theorem present_step (hc : c ≠ .rbdRm i) (h : (s.world.images i).isSome = true) :
    ((s.step who c o).2.world.images i).isSome = true :=
  step_present who (s.choice c o) hc h

theorem live_kept (hc : c ≠ .rbdRm i)
    (hkept : ¬Removes i n (⟨c, o, s⟩ : Event Cmd Outcome Linked)) (h : s.Live i n) :
    (s.step who c o).2.Live i n := by
  by_cases happlies : o.applies c = true
  · obtain ⟨im, him, hn⟩ := h
    have hpresent : ((s.step who c o).2.world.images i).isSome = true :=
      present_step hc (by rw [him]; rfl)
    obtain ⟨im', him'⟩ := Option.isSome_iff_exists.mp hpresent
    refine ⟨im', him', ?_⟩
    have hb := step_becomes (c := c) (w := s.world) (j := i) who (s.choice c o)
    rw [show (Ceph.step who c (s.choice c o) s.world).2.images i = some im' from him'] at hb
    cases hb with
    | kept hbefore _ hcarried =>
      obtain rfl := Option.some.inj (him.symm.trans hbefore)
      exact (hcarried.snaps n hn).resolve_right fun hrm => hkept ⟨hrm, happlies⟩
    | set _ hbefore _ hcarried =>
      obtain rfl := Option.some.inj (him.symm.trans hbefore)
      exact (hcarried.snaps n hn).resolve_right fun hrm => hkept ⟨hrm, happlies⟩
    | created _ hbefore => cases him.symm.trans hbefore
    | cloned _ hbefore => cases him.symm.trans hbefore
  · have hsame : (Ceph.step who c (s.choice c o) s.world).2 = s.world :=
      step_unapplied (by rw [choice_applies]; simpa using happlies)
    unfold Linked.Live at h ⊢
    rwa [show (s.step who c o).2.world = s.world from hsame]

theorem live_made (h : Makes i n (⟨c, o, s⟩ : Event Cmd Outcome Linked))
    (hi : (s.world.images i).isSome = true) : (s.step who c o).2.Live i n := by
  obtain ⟨rfl, happlies⟩ := h
  obtain ⟨im, him⟩ := Option.isSome_iff_exists.mp hi
  have hstate : (Ceph.step who (.rbdSnapCreate i n) o s.world).2 =
      (performSnapCreate i n s.world).2 := step_applied happlies
  unfold Linked.Live
  rw [show (s.step who (.rbdSnapCreate i n) o).2.world = _ from hstate]
  unfold performSnapCreate onImage
  rw [him]
  dsimp only
  split_ifs with hthere
  · exact ⟨im, him, hthere⟩
  · refine ⟨_, setImage_images_self, ?_⟩
    rw [Assoc.get_set_self]
    rfl

variable {α : Type} {p : Prog α}

theorem present_exec (hp : p.Uses fun c => c ≠ .rbdRm i) (os : List Outcome)
    (h : (s.world.images i).isSome = true) :
    ((linkMachine.exec who p os s).2.1.world.images i).isSome = true :=
  (Machine.exec_keeps (I := fun a : Linked => (a.world.images i).isSome = true) hp h
    (fun _ _ _ hc ha => present_step hc ha) os).1

theorem live_exec_kept (hp : p.Uses fun c => c ≠ .rbdRm i) (os : List Outcome)
    (hkept : ∀ e ∈ (linkMachine.exec who p os s).1, ¬Removes i n e) (h : s.Live i n) :
    (linkMachine.exec who p os s).2.1.Live i n := by
  induction p generalizing s os with
  | pure a => exact h
  | fail e => exact h
  | request c k ih =>
    cases os with
    | nil => exact h
    | cons o os =>
      have hfirst : (s.step who c o).2.Live i n :=
        live_kept hp.1 (hkept ⟨c, o, s⟩ List.mem_cons_self) h
      exact ih _ (hp.2 _) os (fun e he => hkept e (List.mem_cons_of_mem _ he)) hfirst

theorem live_exec_left (hp : p.Uses fun c => c ≠ .rbdRm i) (os : List Outcome)
    (hi : (s.world.images i).isSome = true) (h : Leaves i n (linkMachine.exec who p os s).1) :
    (linkMachine.exec who p os s).2.1.Live i n := by
  induction p generalizing s os with
  | pure a => cases h
  | fail e => cases h
  | request c k ih =>
    cases os with
    | nil => cases h
    | cons o os =>
      rcases h with hlater | ⟨hmakes, hkept⟩
      · exact ih _ (hp.2 _) os (present_step hp.1 hi) hlater
      · exact live_exec_kept (hp.2 _) os hkept (live_made hmakes hi)

end Live

section Alone

variable {α : Type} {E : Env} {s : Linked} {c : Cmd} {i : ImageRef}

def linkAlone (E : Env) (c : Cmd) (s : Linked) : c.Reply × Linked :=
  s.step E.who c ⟨none, false, E.pick c s.world⟩

abbrev evalLinked (E : Env) (p : Prog α) (s : Linked) : Except Err α × Linked :=
  p.eval (linkAlone E) s

/-- Requests that neither read nor change the links. -/
def Cmd.unlinked : Cmd → Bool
  | .rbdClone _ _ _ | .rbdRm _ | .rbdChildren _ | .backgroundFlatten _ _ => false
  | _ => true

theorem linkAlone_unlinked (h : c.unlinked = true) :
    linkAlone E c s = ((alone E c s.world).1, ⟨(alone E c s.world).2, s.links⟩) := by
  cases c with
  | rbdClone parent i args => cases h
  | rbdRm i => cases h
  | rbdChildren i => cases h
  | backgroundFlatten i gated => cases h
  | _ => rfl

theorem evalLinked_unlinked {p : Prog α} (h : p.Uses fun c => c.unlinked = true) :
    evalLinked E p s = ((evalIn E p s.world).1, ⟨(evalIn E p s.world).2, s.links⟩) := by
  induction p generalizing s with
  | pure a => rfl
  | fail e => rfl
  | request c k ih =>
    change Program.eval _ (k (linkAlone E c s).1) (linkAlone E c s).2 = _
    rw [linkAlone_unlinked h.1]
    exact ih _ (h.2 _)

theorem evalLinked_flattenEach (l : List ImageRef) :
    ∃ links, evalLinked E (flattenEach l) s = (.ok (), ⟨s.world, links⟩) ∧
      ∀ x, x ∈ links ↔ x ∈ s.links ∧ x.1 ∉ l := by
  induction l generalizing s with
  | nil => exact ⟨s.links, rfl, by simp⟩
  | cons i rest ih =>
    obtain ⟨links, hrun, hmem⟩ := ih (s := ⟨s.world, Assoc.erase s.links i⟩)
    refine ⟨links, hrun, fun x => ?_⟩
    rw [hmem, Assoc.mem_erase, List.mem_cons, not_or, and_assoc]

theorem evalLinked_flattenChildren (i : ImageRef) :
    ∃ links, evalLinked E (flattenChildren i) s = (.ok (), ⟨s.world, links⟩) ∧
      (⟨s.world, links⟩ : Linked).children i = [] := by
  obtain ⟨links, hrun, hmem⟩ := evalLinked_flattenEach (E := E) (s := s) (s.children i)
  refine ⟨links, hrun, ?_⟩
  rw [Linked.children, List.map_eq_nil_iff, List.filter_eq_nil_iff]
  intro x hx hi
  obtain ⟨hlink, hnot⟩ := (hmem x).mp hx
  exact hnot (List.mem_map_of_mem (List.mem_filter.mpr ⟨hlink, hi⟩))

end Alone

end BardCsi.Ceph
