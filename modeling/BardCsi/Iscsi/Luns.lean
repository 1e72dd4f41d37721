import BardCsi.Iscsi.Access
import Mathlib.Data.List.Nodup
import Mathlib.Data.List.Perm.Subperm

/-!
The numbers of exports. Under the lock nobody else changes the list of exports between the read
and the write of a grant, so no initiator has two exports with one number. The search for a free
number ends, since it passes only numbers in use.
-/
namespace BardCsi.Iscsi

open Effect Program

/-- No initiator has two exports with the same number. -/
def NoCollision (es : List TdExport) : Prop :=
  es.Pairwise fun e e' => e.initiatorWWN = e'.initiatorWWN → e.lun ≠ e'.lun

/-- The export of a volume to an initiator. -/
def exported (vol initiator : String) (es : List TdExport) : Option TdExport :=
  es.find? fun e => e.initiatorWWN = initiator ∧ e.volName = vol

/-- The initiator does not use the number and uses all lower ones. -/
def LowestUnused (initiator : String) (es : List TdExport) (lun : Int) : Prop :=
  ∃ n : ℕ, lun = n ∧ (∀ e ∈ es, e.initiatorWWN = initiator → e.lun ≠ n) ∧
    ∀ k < n, ∃ e ∈ es, e.initiatorWWN = initiator ∧ e.lun = (k : ℕ)

section Search

variable {used : List Int} {fuel lun n : ℕ}

theorem lunSearch_none (h : lunSearch used fuel lun = none) :
    ∀ k < fuel, ((lun + k : ℕ) : Int) ∈ used := by
  induction fuel generalizing lun with
  | zero => exact fun k hk => absurd hk (Nat.not_lt_zero k)
  | succ fuel ih =>
    unfold lunSearch at h
    split_ifs at h with hused
    intro k hk
    cases k with
    | zero => exact hused
    | succ k =>
      have hk' := ih h k (Nat.lt_of_succ_lt_succ hk)
      rwa [Nat.add_right_comm, Nat.add_assoc] at hk'

theorem lunSearch_some (h : lunSearch used fuel lun = some n) :
    (n : Int) ∉ used ∧ ∀ k, lun ≤ k → k < n → (k : Int) ∈ used := by
  induction fuel generalizing lun with
  | zero => cases h
  | succ fuel ih =>
    unfold lunSearch at h
    split_ifs at h with hused
    · obtain ⟨hfree, hbelow⟩ := ih h
      refine ⟨hfree, fun k hk hkn => ?_⟩
      rcases Nat.eq_or_lt_of_le hk with rfl | hk
      · exact hused
      · exact hbelow k hk hkn
    · obtain rfl := Option.some.inj h
      exact ⟨hused, fun k hk hkn => absurd hkn (Nat.not_lt.mpr hk)⟩

theorem lunSearch_ends (h : used.length < fuel) : ∃ n, lunSearch used fuel 0 = some n := by
  rw [← Option.isSome_iff_exists, Option.isSome_iff_ne_none]
  intro hnone
  have hsub : (List.range fuel).map (fun k : ℕ => (k : Int)) ⊆ used := by
    intro x hx
    obtain ⟨k, hk, rfl⟩ := List.mem_map.mp hx
    simpa using lunSearch_none hnone k (List.mem_range.mp hk)
  have hnodup : ((List.range fuel).map (fun k : ℕ => (k : Int))).Nodup :=
    List.Nodup.map (fun _ _ => Int.ofNat.inj) List.nodup_range
  have hle := (List.subperm_of_subset hnodup hsub).length_le
  rw [List.length_map, List.length_range] at hle
  exact absurd h (Nat.not_lt.mpr hle)

theorem lowestLUN_spec (used : List Int) :
    (lowestLUN used : Int) ∉ used ∧ ∀ k < lowestLUN used, (k : Int) ∈ used := by
  obtain ⟨n, hn⟩ := lunSearch_ends (Nat.lt_succ_self used.length)
  have hlowest : lowestLUN used = n := by rw [lowestLUN, hn, Option.getD_some]
  rw [hlowest]
  obtain ⟨hfree, hbelow⟩ := lunSearch_some hn
  exact ⟨hfree, fun k hk => hbelow k (Nat.zero_le k) hk⟩

theorem lunSearch_eq (h : used.length < fuel) : lunSearch used fuel 0 = some (lowestLUN used) := by
  obtain ⟨n, hn⟩ := lunSearch_ends h
  obtain ⟨hfree, hbelow⟩ := lunSearch_some hn
  obtain ⟨hfree', hbelow'⟩ := lowestLUN_spec used
  rw [hn]
  rcases Nat.lt_trichotomy n (lowestLUN used) with hlt | heq | hgt
  · exact absurd (hbelow' n hlt) hfree
  · rw [heq]
  · exact absurd (hbelow _ (Nat.zero_le _) hgt) hfree'

end Search

section Scan

variable {vol initiator : String} {es : List TdExport} {used used' : List Int} {l : Int}
variable {e : TdExport}

theorem exported_cons_of_match (h : e.initiatorWWN = initiator ∧ e.volName = vol) :
    exported vol initiator (e :: es) = some e :=
  List.find?_cons_of_pos (decide_eq_true h)

theorem exported_cons_of_ne (h : ¬(e.initiatorWWN = initiator ∧ e.volName = vol)) :
    exported vol initiator (e :: es) = exported vol initiator es :=
  List.find?_cons_of_neg (fun h' => h (of_decide_eq_true h'))

theorem scanExports_inl (h : scanExports vol initiator es used = .inl l) :
    ∃ e, exported vol initiator es = some e ∧ e.lun = l := by
  induction es generalizing used with
  | nil => cases h
  | cons e rest ih =>
    unfold scanExports at h
    split_ifs at h with hinit hvol
    · rw [exported_cons_of_ne fun h' => hinit h'.1]
      exact ih h
    · exact ⟨e, exported_cons_of_match ⟨not_not.mp hinit, hvol⟩, Sum.inl.inj h⟩
    · rw [exported_cons_of_ne fun h' => hvol h'.2]
      exact ih h

theorem scanExports_inr (h : scanExports vol initiator es used = .inr used') :
    exported vol initiator es = none ∧
      ∀ x, x ∈ used' ↔ x ∈ used ∨ ∃ e ∈ es, e.initiatorWWN = initiator ∧ e.lun = x := by
  induction es generalizing used with
  | nil =>
    obtain rfl := Sum.inr.inj h
    exact ⟨rfl, by simp⟩
  | cons e rest ih =>
    unfold scanExports at h
    split_ifs at h with hinit hvol
    · obtain ⟨hnone, hused⟩ := ih h
      refine ⟨(exported_cons_of_ne fun h' => hinit h'.1).trans hnone, fun x => ?_⟩
      simp [hused, hinit]
    · obtain ⟨hnone, hused⟩ := ih h
      refine ⟨(exported_cons_of_ne fun h' => hvol h'.2).trans hnone, fun x => ?_⟩
      rw [hused, List.mem_cons]
      simp only [List.mem_cons, exists_eq_or_imp, not_not.mp hinit, true_and]
      rw [eq_comm, or_comm (a := e.lun = x), or_assoc]

theorem lowestUnused_of_scan (h : scanExports vol initiator es [] = .inr used) :
    LowestUnused initiator es (lowestLUN used) := by
  obtain ⟨_, hused⟩ := scanExports_inr h
  simp only [List.not_mem_nil, false_or] at hused
  obtain ⟨hfree, hbelow⟩ := lowestLUN_spec used
  refine ⟨lowestLUN used, rfl, fun e he hinit heq => ?_, fun k hk => ?_⟩
  · exact hfree ((hused _).mpr ⟨e, he, hinit, heq⟩)
  · exact (hused k).mp (hbelow k hk)

theorem NoCollision.append {pool : String} (h : NoCollision es) (hl : LowestUnused initiator es l) :
    NoCollision (es ++ [⟨initiator, l, vol, pool⟩]) := by
  obtain ⟨n, rfl, hfree, _⟩ := hl
  refine List.pairwise_append.mpr ⟨h, List.pairwise_singleton _ _, fun e he e' he' hinit => ?_⟩
  obtain rfl := List.mem_singleton.mp he'
  exact hfree e he hinit

theorem exported_append {v i : String} {e' : TdExport} (h : exported v i es = some e) :
    exported v i (es ++ [e']) = some e := by
  unfold exported at h ⊢
  rw [List.find?_append, h]
  rfl

end Scan

/-- The lock of the plugin, and the export lists that it protects. -/
def accessLock : Lock ℕ World (String → List TdExport) := ⟨World.holder, World.exports⟩

section Lock

/-- A mutex lets a caller in only while nobody is. -/
def MutexAllows (c : Cmd) (w : World) : Prop := c = .tdLock → w.holder = none

/-- The request does not end the export of a spared volume to an initiator. -/
def Spares (S : String → String → String → Prop) (c : Cmd) : Prop :=
  ∀ endpoint pool vol initiator, c = .exportDestroy endpoint pool vol initiator →
    ¬S endpoint vol initiator

/-- The exports of spared volumes stay. -/
def ExportsStay (S : String → String → String → Prop) (w w' : World) : Prop :=
  ∀ endpoint vol initiator, S endpoint vol initiator → ∀ e,
    exported vol initiator (w.exports endpoint) = some e →
      exported vol initiator (w'.exports endpoint) = some e

/-- A new export has the lowest number that its initiator does not use. -/
def CreatesLowest (c : Cmd) (w : World) : Prop :=
  ∀ endpoint pool vol initiator lun, c = .exportCreate endpoint pool vol initiator lun →
    LowestUnused initiator (w.exports endpoint) lun ∧
      exported vol initiator (w.exports endpoint) = none

def Collisionless (w : World) : Prop := ∀ endpoint, NoCollision (w.exports endpoint)

variable {S : String → String → String → Prop} {t : ℕ} {w w' : World} {α : Type} {endpoint : String}
variable {es : List TdExport}

theorem ExportsStay.of_eq (h : w'.exports = w.exports) : ExportsStay S w w' := by
  intro endpoint vol initiator _ e he
  rwa [h]

theorem exportsStay_trans (a b c : World) (h : ExportsStay S a b) (h' : ExportsStay S b c) :
    ExportsStay S a c :=
  fun endpoint vol initiator hS e he =>
    h' endpoint vol initiator hS e (h endpoint vol initiator hS e he)

/-- What the callers of grants and revocations keep. -/
def accessContract (S : String → String → String → Prop) : ℕ → Contract Cmd Outcome World :=
  accessLock.contract Collisionless (fun c _ w => MutexAllows c w ∧ Spares S c)
    (fun c w _ => CreatesLowest c w) (ExportsStay S) (fun _ => .of_eq rfl) exportsStay_trans

/-- Requests that leave the exports and the lock alone. -/
def Cmd.idle : Cmd → Bool
  | .readChap _ | .readTargetd _ | .initiatorSetAuth _ _ _ | .exportList _ => true
  | _ => false

theorem step_idle {c : Cmd} (hc : c.idle = true) (o : Outcome) : (step t c o w).2 = w := by
  have hperform : (perform t c w).2 = w := by
    cases c with
    | readChap path =>
      change (orNotFound (w.chap path) w).2 = w
      unfold orNotFound
      split <;> rfl
    | readTargetd path =>
      change (orNotFound (w.targetd path) w).2 = w
      unfold orNotFound
      split <;> rfl
    | initiatorSetAuth e i chap => rfl
    | exportList e => rfl
    | _ => cases hc
  obtain h | ⟨e, _, h | h⟩ := step_cases t c o w
  · rw [h, hperform]
  · exact h
  · rw [h, hperform]

theorem idle_meets {c : Cmd} {f : c.Reply → Prog α} {Q : Except Err α → World → Prop}
    (hc : c.idle = true) (hw : w.holder = some t)
    (hf : ∀ o w', w'.holder = some t → w'.exports = w.exports →
      (f (step t c o w').1).Meets machine t (accessContract S t) Q w') :
    (Program.request c f).Meets machine t (accessContract S t) Q w := by
  intro w' hr hi o _
  have hstate : (machine.step t c o w').2 = w' := step_idle hc o
  have hholder : w'.holder = some t := hr.1.1.mpr hw
  rw [hstate]
  refine ⟨⟨Lock.guarantee_holder hholder hholder, .of_eq rfl, ?_⟩, hi,
    hf o w' hholder (hr.1.2 hw)⟩
  rintro endpoint pool vol initiator lun rfl
  cases hc

theorem withAccessLock_meets {p : Prog α} {P : Except Err α → World → Prop}
    (hp : ∀ w', w'.holder = some t →
      p.Meets machine t (accessContract S t) (fun r a => a.holder = some t ∧ P r a) w')
    (hstable : ∀ r a a', ExportsStay S a a' → P r a → P r a') :
    (withAccessLock p).Meets machine t (accessContract S t) P w := by
  have hnew : ∀ {c : Cmd} {a : World}, (c = .tdLock ∨ c = .tdUnlock) → CreatesLowest c a := by
    rintro c a (rfl | rfl) _ _ _ _ _ h
    · cases h
    · cases h
  refine Meets.within (A := fun a => a.holder = some t) ?_ (fun a _ ha => hp a ha) ?_
    fun r a b hr => hstable r a b hr.2
  · apply Meets.ask
    · exact fun _ a b hr ha => hr.1.1.mpr ha
    · intro a o _ hi ⟨hmutex, _⟩
      have htaken : machine.step t .tdLock o a = ((), { a with holder := some t }) := by
        obtain h | ⟨e, he, _⟩ := step_cases t .tdLock o a
        · exact h
        · cases he
      rw [htaken]
      exact ⟨⟨Lock.guarantee_take (hmutex rfl) rfl, .of_eq rfl, hnew (.inl rfl)⟩, hi, rfl⟩
  · intro r a _ ⟨hholder, hP⟩
    apply Meets.ask
    · exact fun _ a b hr => hstable r a b hr.2
    · intro a' o hr hi _
      have hreleased : machine.step t .tdUnlock o a' = ((), { a' with holder := none }) := by
        obtain h | ⟨e, he, _⟩ := step_cases t .tdUnlock o a'
        · exact h
        · cases he
      rw [hreleased]
      exact ⟨⟨Lock.guarantee_release (hr.1.1.mpr hholder) rfl, .of_eq rfl, hnew (.inr rfl)⟩, hi,
        hstable r a' _ (.of_eq rfl) (hstable r a a' hr.2 hP)⟩

variable {m : TdManager} {vol initiator : String}

/-- The volume is exported to the initiator under the number. -/
def HasLUN (endpoint vol initiator : String) (lun : Int) (w : World) : Prop :=
  ∃ e, exported vol initiator (w.exports endpoint) = some e ∧ e.lun = lun

/-- What a grant says of a spared volume. -/
def Grants (S : String → String → String → Prop) (endpoint vol initiator : String) :
    Except Err Int → World → Prop :=
  IfOk fun lun w => S endpoint vol initiator → HasLUN endpoint vol initiator lun w

theorem Grants.stable (r : Except Err Int) (a a' : World) (h : ExportsStay S a a')
    (hr : Grants S endpoint vol initiator r a) :
    Grants S endpoint vol initiator r a' := by
  cases r with
  | error e => trivial
  | ok lun =>
    intro hS
    obtain ⟨e, he, hlun⟩ := hr hS
    exact ⟨e, h _ _ _ hS e he, hlun⟩

theorem setAuth_meets {Q : Except Err α → World → Prop} {f : Unit → Prog α}
    {chap : Option ChapCreds} (hw : w.holder = some t)
    (hok : ∀ w', w'.holder = some t → (f ()).Meets machine t (accessContract S t) Q w')
    (herr : ∀ e w', w'.holder = some t → Q (.error e) w') :
    ((setAuth m initiator chap).bind f).Meets machine t (accessContract S t) Q w := by
  cases chap with
  | none => exact hok w hw
  | some chap =>
    refine idle_meets rfl hw fun o w' hw' _ => ?_
    generalize (step t (.initiatorSetAuth m.endpoint initiator chap) o w').1 = r
    change Except TdError Unit at r
    cases r with
    | ok u => exact hok w' hw'
    | error e => exact fun w'' hr _ => herr _ w'' (hr.1.1.mpr hw')

theorem step_exportCreate (o : Outcome) (endpoint pool : String) (lun : Int) :
    ((step t (.exportCreate endpoint pool vol initiator lun) o w).1 = .ok () ∧
        (step t (.exportCreate endpoint pool vol initiator lun) o w).2 =
          w.setExports endpoint (w.exports endpoint ++ [⟨initiator, lun, vol, pool⟩])) ∨
      ∃ e, (step t (.exportCreate endpoint pool vol initiator lun) o w).1 = .error e ∧
        ((step t (.exportCreate endpoint pool vol initiator lun) o w).2 = w ∨
          (step t (.exportCreate endpoint pool vol initiator lun) o w).2 =
            w.setExports endpoint (w.exports endpoint ++ [⟨initiator, lun, vol, pool⟩])) := by
  obtain h | ⟨e, he, h⟩ := step_cases t (.exportCreate endpoint pool vol initiator lun) o w
  · rw [h]
    exact .inl ⟨rfl, rfl⟩
  · exact .inr ⟨e, (Option.some.inj he).symm, h⟩

@[simp] theorem setExports_self :
    (w.setExports endpoint es).exports endpoint = es :=
  Function.update_self ..

theorem setExports_of_ne {endpoint' : String} (h : endpoint' ≠ endpoint) :
    (w.setExports endpoint es).exports endpoint' = w.exports endpoint' :=
  Function.update_of_ne h ..

theorem Collisionless.setExports (h : Collisionless w) (hes : NoCollision es) :
    Collisionless (w.setExports endpoint es) := by
  intro endpoint'
  by_cases he : endpoint' = endpoint
  · rw [he, setExports_self]
    exact hes
  · rw [setExports_of_ne he]
    exact h endpoint'

theorem exportsStay_setExports (h : ∀ vol initiator e, S endpoint vol initiator →
      exported vol initiator (w.exports endpoint) = some e → exported vol initiator es = some e) :
    ExportsStay S w (w.setExports endpoint es) := by
  intro endpoint' v i hS e he
  by_cases heq : endpoint' = endpoint
  · subst heq
    rw [setExports_self]
    exact h v i e hS he
  · rwa [setExports_of_ne heq]

theorem exportVolume_meets (hw : w.holder = some t) :
    (exportVolume m vol initiator).Meets machine t (accessContract S t)
      (fun r a => a.holder = some t ∧ Grants S m.endpoint vol initiator r a) w := by
  have hend : ∀ {r : Except Err Int} {a a' : World}, (accessContract S t).rely a a' →
      a.holder = some t → Grants S m.endpoint vol initiator r a →
      a'.holder = some t ∧ Grants S m.endpoint vol initiator r a' :=
    fun hr ha hg => ⟨hr.1.1.mpr ha, Grants.stable _ _ _ hr.2 hg⟩
  refine idle_meets rfl hw fun o w₁ hw₁ _ => ?_
  obtain h | ⟨e, he, _⟩ := step_cases t (.exportList m.endpoint) o w₁
  swap
  · rw [← Option.some.inj he]
    exact fun w₂ hr _ => hend hr hw₁ trivial
  rw [h, Program.bind_pure]
  change Meets machine t _ (Program.bind (Program.pure (w₁.exports m.endpoint)) _) _ w₁
  rw [Program.bind_pure]
  cases hscan : scanExports vol initiator (w₁.exports m.endpoint) [] with
  | inl lun =>
    obtain hfound := scanExports_inl hscan
    exact fun w₂ hr _ => hend hr hw₁ fun _ => hfound
  | inr used =>
    obtain ⟨hnone, _⟩ := scanExports_inr hscan
    have hlowest := lowestUnused_of_scan hscan
    intro w₂ hr₂ hi₂ o' _
    have hw₂ : w₂.holder = some t := hr₂.1.1.mpr hw₁
    have hexports : w₂.exports = w₁.exports := hr₂.1.2 hw₁
    rw [← hexports] at hnone hlowest
    generalize (lowestLUN used : Int) = lun at hlowest ⊢
    have hnew : CreatesLowest (.exportCreate m.endpoint m.pool vol initiator lun) w₂ := by
      rintro _ _ _ _ _ ⟨⟩
      exact ⟨hlowest, hnone⟩
    have hadded : ∀ w₃, w₃ = w₂.setExports m.endpoint
          (w₂.exports m.endpoint ++ [⟨initiator, lun, vol, m.pool⟩]) →
        ExportsStay S w₂ w₃ ∧ Collisionless w₃ ∧ w₃.holder = some t ∧
          HasLUN m.endpoint vol initiator lun w₃ := by
      rintro w₃ rfl
      refine ⟨exportsStay_setExports fun _ _ _ _ => exported_append,
        hi₂.setExports ((hi₂ m.endpoint).append hlowest), hw₂, ⟨initiator, lun, vol, m.pool⟩, ?_,
        rfl⟩
      rw [setExports_self, exported, List.find?_append, ← exported, hnone]
      simp
    obtain ⟨hreply, hstate⟩ | ⟨e, hreply, hstate | hstate⟩ :=
      step_exportCreate (t := t) (w := w₂) o' m.endpoint m.pool lun
    · obtain ⟨hstay, hi₃, hw₃, hlun⟩ := hadded _ hstate
      refine ⟨⟨Lock.guarantee_holder hw₂ hw₃, hstay, hnew⟩, hi₃, ?_⟩
      rw [show (machine.step t (.exportCreate m.endpoint m.pool vol initiator lun) o' w₂).1 = _
        from hreply]
      exact fun w₄ hr _ => hend hr hw₃ fun _ => hlun
    · rw [show (machine.step t (.exportCreate m.endpoint m.pool vol initiator lun) o' w₂).2 = _
        from hstate, show (machine.step t (.exportCreate m.endpoint m.pool vol initiator lun) o'
          w₂).1 = _ from hreply]
      exact ⟨⟨Lock.guarantee_holder hw₂ hw₂, .of_eq rfl, hnew⟩, hi₂,
        fun w₄ hr _ => hend hr hw₂ trivial⟩
    · obtain ⟨hstay, hi₃, hw₃, _⟩ := hadded _ hstate
      refine ⟨⟨Lock.guarantee_holder hw₂ hw₃, hstay, hnew⟩, hi₃, ?_⟩
      rw [show (machine.step t (.exportCreate m.endpoint m.pool vol initiator lun) o' w₂).1 = _
        from hreply]
      exact fun w₄ hr _ => hend hr hw₃ trivial

theorem grantAccess_meets {chap : Option ChapCreds} :
    (grantAccess m vol initiator chap).Meets machine t (accessContract S t)
      (Grants S m.endpoint vol initiator) w := by
  refine withAccessLock_meets (fun a ha => ?_) Grants.stable
  exact setAuth_meets ha (fun b hb => exportVolume_meets hb) fun e b hb => ⟨hb, trivial⟩

theorem exported_filter {pool v i : String} (h : ¬(v = vol ∧ i = initiator)) :
    exported v i (es.filter fun e =>
      ¬(e.pool = pool ∧ e.volName = vol ∧ e.initiatorWWN = initiator)) = exported v i es := by
  unfold exported
  rw [List.find?_filter]
  congr 1
  funext e
  simp only [decide_eq_true_eq, decide_eq_decide]
  refine and_iff_right_of_imp fun he hended => h ?_
  exact ⟨he.2.symm.trans hended.2.1, he.1.symm.trans hended.2.2⟩

theorem step_exportDestroy (o : Outcome) (endpoint pool : String) :
    (step t (.exportDestroy endpoint pool vol initiator) o w).2 = w ∨
      (step t (.exportDestroy endpoint pool vol initiator) o w).2 =
        w.setExports endpoint ((w.exports endpoint).filter fun e =>
          ¬(e.pool = pool ∧ e.volName = vol ∧ e.initiatorWWN = initiator)) := by
  have hperform : (performExportDestroy endpoint pool vol initiator w).2 = w ∨
      (performExportDestroy endpoint pool vol initiator w).2 =
        w.setExports endpoint ((w.exports endpoint).filter fun e =>
          ¬(e.pool = pool ∧ e.volName = vol ∧ e.initiatorWWN = initiator)) := by
    unfold performExportDestroy
    dsimp only
    split_ifs
    · exact .inr rfl
    · exact .inl rfl
  obtain h | ⟨_, _, h | h⟩ := step_cases t (.exportDestroy endpoint pool vol initiator) o w
  · rw [h]
    exact hperform
  · exact .inl h
  · rw [h]
    exact hperform

theorem revokeAccess_meets :
    (revokeAccess m vol initiator).Meets machine t (accessContract S t) (fun _ _ => True) w := by
  refine withAccessLock_meets (fun a ha => ?_) fun _ _ _ _ _ => trivial
  apply Meets.returns (P := fun _ b => b.holder = some t)
  · apply Meets.ask
    · exact fun _ b b' hr hb => hr.1.1.mpr hb
    · intro b o hr hi ⟨_, hspares⟩
      have hb : b.holder = some t := hr.1.1.mpr ha
      have hnew : CreatesLowest (.exportDestroy m.endpoint m.pool vol initiator) b := by
        intro _ _ _ _ _ h
        cases h
      have hnot : ¬S m.endpoint vol initiator := hspares _ _ _ _ rfl
      obtain hstate | hstate := step_exportDestroy (t := t) (w := b) o m.endpoint m.pool
      · rw [show (machine.step t (.exportDestroy m.endpoint m.pool vol initiator) o b).2 = _
          from hstate]
        exact ⟨⟨Lock.guarantee_holder hb hb, .of_eq rfl, hnew⟩, hi, hb⟩
      · rw [show (machine.step t (.exportDestroy m.endpoint m.pool vol initiator) o b).2 = _
          from hstate]
        refine ⟨⟨Lock.guarantee_holder hb hb, exportsStay_setExports fun v i e hS he => ?_, hnew⟩,
          hi.setExports ((hi m.endpoint).filter _), hb⟩
        rw [exported_filter]
        · exact he
        · rintro ⟨rfl, rfl⟩
          exact hnot hS
  · intro x b _ hb
    cases x with
    | ok u => exact fun b' hr _ => ⟨hr.1.1.mpr hb, trivial⟩
    | error e =>
      refine Meets.ite (fun _ b' hr _ => ?_) fun _ b' hr _ => ?_
      · exact ⟨hr.1.1.mpr hb, trivial⟩
      · exact ⟨hr.1.1.mpr hb, trivial⟩

end Lock

inductive AccessCall where
  | grant (m : TdManager) (vol initiator : String) (chap : Option ChapCreds)
  | revoke (m : TdManager) (vol initiator : String)

/-- A grant returns a number, a revocation nothing. -/
def AccessCall.program : AccessCall → Prog (Option Int)
  | .grant m vol initiator chap =>
      (grantAccess m vol initiator chap).bind fun lun => .pure (some lun)
  | .revoke m vol initiator => (revokeAccess m vol initiator).bind fun _ => .pure none

/-- A grant of the volume on the target at the endpoint. -/
def AccessCall.GrantOf (endpoint vol initiator : String) (c : AccessCall) : Prop :=
  ∃ pool chap, c = .grant ⟨endpoint, pool⟩ vol initiator chap

section Runs

variable {S : String → String → String → Prop} {t : ℕ} {w : World}

/-- What a finished call says of a spared volume. -/
def CallEnds (S : String → String → String → Prop) (c : AccessCall) :
    Except Err (Option Int) → World → Prop :=
  IfOk fun r w => ∀ lun, r = some lun → ∀ endpoint vol initiator,
    c.GrantOf endpoint vol initiator → S endpoint vol initiator →
      HasLUN endpoint vol initiator lun w

theorem accessCall_meets (c : AccessCall) :
    c.program.Meets machine t (accessContract S t) (CallEnds S c) w := by
  cases c with
  | grant m vol initiator chap =>
    apply grantAccess_meets.andThen
    · intro lun a _ hlun b hr _ lun' hlun'
      obtain rfl := Option.some.inj hlun'
      rintro _ _ _ ⟨pool, chap', ⟨⟩⟩ hS
      exact Grants.stable (.ok lun) a b hr.2 hlun hS
    · exact fun _ _ _ _ => trivial
  | revoke m vol initiator =>
    apply revokeAccess_meets.andThen
    · intro _ a _ _ b _ _ lun hlun
      cases hlun
    · exact fun _ _ _ _ => trivial

theorem access_good (calls : ℕ → AccessCall) (hstart : Collisionless w)
    (schedule : List (ℕ × Outcome))
    (hallowed : Pool.Throughout machine (fun _ c _ w => MutexAllows c w ∧ Spares S c) schedule
      ⟨fun t => (calls t).program, w⟩) :
    Pool.Good machine (accessContract S) Collisionless (fun t => CallEnds S (calls t))
        (Pool.run machine schedule ⟨fun t => (calls t).program, w⟩) ∧
      Pool.Throughout machine (fun _ c _ w => CreatesLowest c w) schedule
        ⟨fun t => (calls t).program, w⟩ := by
  have hgood : Pool.Good machine (accessContract S) Collisionless (fun t => CallEnds S (calls t))
      ⟨fun t => (calls t).program, w⟩ := ⟨hstart, fun t => accessCall_meets (calls t)⟩
  obtain ⟨hrun, hthroughout⟩ := hgood.run (Lock.contract_compatible ..) schedule hallowed
  exact ⟨hrun, hthroughout.mono fun _ _ _ _ hg => hg.2.2⟩

end Runs

/-- Callers that grant and revoke access in any order that the lock allows, with any call of the
server failing with or without its effect. No initiator gets two exports with one number. Every
new export has the lowest number that its initiator does not use. As long as a volume's export
to an initiator is not ended, every grant of it returns the number of that export, so all of
them return the same. The search for a number has an end. -/
theorem luns_never_collide (calls : ℕ → AccessCall) (w : World) (hstart : Collisionless w)
    (schedule : List (ℕ × Outcome))
    (hallowed : Pool.Throughout machine (fun _ c _ w => MutexAllows c w) schedule
      ⟨fun t => (calls t).program, w⟩) :
    Collisionless (Pool.run machine schedule ⟨fun t => (calls t).program, w⟩).state ∧
    Pool.Throughout machine (fun _ c _ w => CreatesLowest c w) schedule
      ⟨fun t => (calls t).program, w⟩ ∧
    (∀ endpoint vol initiator,
      Pool.Throughout machine
        (fun _ c _ _ => ∀ pool, c ≠ .exportDestroy endpoint pool vol initiator)
        schedule ⟨fun t => (calls t).program, w⟩ →
      ∀ t t' lun lun', (calls t).GrantOf endpoint vol initiator →
        (calls t').GrantOf endpoint vol initiator →
        (Pool.run machine schedule ⟨fun t => (calls t).program, w⟩).procs t = .pure (some lun) →
        (Pool.run machine schedule ⟨fun t => (calls t).program, w⟩).procs t' = .pure (some lun') →
        lun' = lun ∧ HasLUN endpoint vol initiator lun
          (Pool.run machine schedule ⟨fun t => (calls t).program, w⟩).state) ∧
    ∀ used fuel, used.length < fuel → lunSearch used fuel 0 = some (lowestLUN used) := by
  have hnone : Pool.Throughout machine
      (fun _ c _ w => MutexAllows c w ∧ Spares (fun _ _ _ => False) c) schedule
      ⟨fun t => (calls t).program, w⟩ :=
    hallowed.mono fun _ _ _ _ h => ⟨h, fun _ _ _ _ _ => id⟩
  obtain ⟨hgood, hlowest⟩ := access_good calls hstart schedule hnone
  refine ⟨hgood.1, hlowest, fun endpoint vol initiator hspared t t' lun lun' ht ht' hp hp' => ?_,
    fun used fuel => lunSearch_eq⟩
  have hboth : Pool.Throughout machine (fun _ c _ w => MutexAllows c w ∧
      Spares (fun e v i => e = endpoint ∧ v = vol ∧ i = initiator) c) schedule
      ⟨fun t => (calls t).program, w⟩ := by
    refine (hallowed.and hspared).mono fun _ c _ _ h => ⟨h.1, ?_⟩
    rintro e pool v i rfl ⟨rfl, rfl, rfl⟩
    exact h.2 pool rfl
  obtain ⟨hgood', _⟩ := access_good calls hstart schedule hboth
  have hlun := hgood'.result (Lock.contract_compatible ..) hp lun rfl _ _ _ ht ⟨rfl, rfl, rfl⟩
  have hlun' := hgood'.result (Lock.contract_compatible ..) hp' lun' rfl _ _ _ ht' ⟨rfl, rfl, rfl⟩
  obtain ⟨e, he, rfl⟩ := hlun
  obtain ⟨e', he', rfl⟩ := hlun'
  obtain rfl := Option.some.inj (he.symm.trans he')
  exact ⟨rfl, e, he, rfl⟩

section Instance

instance (c : Cmd) (w : World) : Decidable (MutexAllows c w) :=
  inferInstanceAs (Decidable (_ → _))

def quietTarget : World := ⟨fun _ => none, fun _ => none, none, fun _ => [], [], []⟩

/-- Two volumes are granted to one node at the same time. -/
def twoGrants (t : ℕ) : AccessCall := .grant ⟨"rpc", "pool"⟩ (toString t) "node" none

/-- The first export is made but reported as failed, then the second caller's turn comes. -/
def grantTurns : List (ℕ × Outcome) :=
  [(0, .ok), (0, .ok), (0, ⟨some (.other "timeout"), true⟩), (0, .ok),
    (1, .ok), (1, .ok), (1, .ok), (1, .ok)]

theorem luns_never_collide_two_grants :
    Collisionless
      (Pool.run machine grantTurns ⟨fun t => (twoGrants t).program, quietTarget⟩).state :=
  (luns_never_collide twoGrants quietTarget (fun _ => List.Pairwise.nil) grantTurns (by decide)).1

example : ((Pool.run machine grantTurns ⟨fun t => (twoGrants t).program, quietTarget⟩).procs
    1).returned = some (some 1) := by
  decide

end Instance

end BardCsi.Iscsi
