import BardCsi.Driver.Listing
import BardCsi.Effect.Embed
import BardCsi.Effect.Lock

/-!
The calls of the driver that are in flight. A call claims the object it is about before it turns
to a backend, is refused if another call has claimed it, and gives the claim up when it ends.
-/
namespace BardCsi.Driver.InFlight

open Effect Program

variable {ι : Type} {ρ : ι → Type} {τ ω σ α : Type}

/-- The calls that claim an object, with what they name it by. -/
inductive Rpc where
  | createVolume (name : String)
  | deleteVolume (volumeId : String)
  | controllerExpandVolume (volumeId : String)
  | createSnapshot (name : String)
  | deleteSnapshot (snapshotId : String)
  | controllerModifyVolume (volumeId : String)
  | controllerPublishVolume (volumeId nodeId : String)
  | controllerUnpublishVolume (volumeId nodeId : String)
  | nodeStageVolume (volumeId : String)
  | nodeUnstageVolume (volumeId : String)
  | nodePublishVolume (volumeId : String)
  | nodeUnpublishVolume (volumeId : String)
  | nodeExpandVolume (volumeId : String)

/-- The kind and the name of the object. -/
def Rpc.object : Rpc → String × String
  | .createVolume name => ("volume-name", name)
  | .deleteVolume id | .controllerExpandVolume id | .controllerModifyVolume id => ("volume", id)
  | .createSnapshot name => ("snapshot-name", name)
  | .deleteSnapshot id => ("snapshot", id)
  | .controllerPublishVolume id node | .controllerUnpublishVolume id node =>
      ("attach", id ++ "@" ++ node)
  | .nodeStageVolume id | .nodeUnstageVolume id | .nodePublishVolume id
  | .nodeUnpublishVolume id | .nodeExpandVolume id => ("node", id)

def Rpc.key (r : Rpc) : String := r.object.1 ++ ":" ++ r.object.2

/-- No kind has a colon, so what is named cannot pass for an object of another kind. -/
theorem key_eq_iff {r r' : Rpc} : r.key = r'.key ↔ r.object = r'.object := by
  have hkind : ∀ r : Rpc, ':' ∉ r.object.1.toList := by
    intro r
    cases r <;> simp [Rpc.object]
  have htext : ∀ r : Rpc, r.key.toList = r.object.1.toList ++ ':' :: r.object.2.toList := by
    intro r
    simp [Rpc.key]
  have hstarts : ∀ r r' : Rpc, r.key = r'.key → r.object.1.toList <+: r'.object.1.toList := by
    intro r r' h
    apply Strings.prefix_of_prefix_append_cons (hkind r)
    rw [← htext r', ← h, htext r]
    exact List.prefix_append _ _
  refine ⟨fun h => ?_, fun h => by rw [Rpc.key, Rpc.key, h]⟩
  have hkinds := (hstarts r r' h).eq_of_length_le (hstarts r' r h.symm).length_le
  have hnames := htext r
  rw [h, htext r', hkinds] at hnames
  have hcons := List.append_cancel_left hnames
  exact Prod.ext (String.toList_inj.mp hkinds) (String.toList_inj.mp (List.cons.inj hcons).2.symm)

inductive Cmd (ι : Type) where
  | tryLock (key : String)
  | unlock (key : String)
  | backend (c : ι)

def Cmd.Reply (ρ : ι → Type) : Cmd ι → Type
  | .tryLock _ => Bool
  | .unlock _ => Unit
  | .backend c => ρ c

abbrev Prog (ι : Type) (ρ : ι → Type) (α : Type) := Program (Cmd ι) (Cmd.Reply ρ) Status α

def claim (key : String) : Prog ι ρ Unit := do
  let free : Bool ← Program.ask (Cmd.tryLock key)
  if free then .pure ()
  else .fail ⟨.aborted, ["an operation on ", key, " is already in progress"]⟩

def release (key : String) : Prog ι ρ Unit := Program.ask (Cmd.unlock key)

/-- A call may be answered by its checks, before it claims anything. What it does with its claim
is left to the backend. -/
structure Call (ι : Type) (ρ : ι → Type) (α : Type) where
  rpc : Rpc
  checks : Option (Except Status α)
  body : Program ι ρ Status α

def Call.program (c : Call ι ρ α) : Prog ι ρ α :=
  match c.checks with
  | some (.ok a) => .pure a
  | some (.error e) => .fail e
  | none => .within (claim c.rpc.key) (release c.rpc.key) (c.body.embed .backend id)

/-- The claimed keys and the state of the backend. Who has claimed a key is noted, but nothing
depends on it. -/
structure World (τ σ : Type) where
  ops : String → Option τ
  backend : σ

def World.note (w : World τ σ) (key : String) (x : Option τ) : World τ σ :=
  { w with ops := Function.update w.ops key x }

def machine (M : Machine ι ρ τ ω σ) : Machine (Cmd ι) (Cmd.Reply ρ) τ ω (World τ σ) where
  step t c o w :=
    match c with
    | .tryLock key => if (w.ops key).isSome then (false, w) else (true, w.note key (some t))
    | .unlock key => ((), w.note key none)
    | .backend c =>
        let r := M.step t c o w.backend
        (r.1, { w with backend := r.2 })

section Claims

variable {M : Machine ι ρ τ ω σ} {calls : τ → Call ι ρ α} {t : τ} {w : World τ σ}

def Holds (calls : τ → Call ι ρ α) (t : τ) (w : World τ σ) : Prop :=
  w.ops (calls t).rpc.key = some t

def Owned (calls : τ → Call ι ρ α) (w : World τ σ) : Prop :=
  ∀ key t, w.ops key = some t → key = (calls t).rpc.key

/-- A call leaves the claims of the others alone, and turns to the backend with its own. -/
def claims (calls : τ → Call ι ρ α) (t : τ) : Contract (Cmd ι) ω (World τ σ) where
  inv := Owned calls
  rely w w' := Holds calls t w' ↔ Holds calls t w
  assume _ _ _ := True
  guarantee c w w' :=
    (∀ t', t' ≠ t → (Holds calls t' w' ↔ Holds calls t' w)) ∧
      ∀ x, c = .backend x → Holds calls t w
  rely_refl _ := Iff.rfl
  rely_trans h h' := h'.trans h

/-- A request that changes the own claim, where nobody else has one. -/
theorem note_own {x : Option τ} {c : Cmd ι} (hc : ∀ y, c ≠ .backend y)
    (hi : Owned calls w) (hw : ∀ t', w.ops (calls t).rpc.key = some t' → t' = t)
    (hx : ∀ t', x = some t' → t' = t) :
    (claims (ω := ω) calls t).guarantee c w (w.note (calls t).rpc.key x) ∧
      Owned calls (w.note (calls t).rpc.key x) := by
  refine ⟨⟨fun t' ht => ?_, fun y hy => absurd hy (hc y)⟩, fun key t' hkey => ?_⟩
  · unfold Holds World.note
    by_cases hsame : (calls t').rpc.key = (calls t).rpc.key
    · simp only [hsame, Function.update_self]
      exact ⟨fun h => absurd (hx t' h) ht, fun h => absurd (hw t' h) ht⟩
    · simp only [Function.update_of_ne hsame]
  · unfold World.note at hkey
    by_cases hsame : key = (calls t).rpc.key
    · simp only [hsame, Function.update_self] at hkey
      rw [hsame, hx t' hkey]
    · simp only [Function.update_of_ne hsame] at hkey
      exact hi key t' hkey

theorem claim_meets (hw : ¬Holds calls t w) :
    (claim (calls t).rpc.key : Prog ι ρ Unit).Meets (machine M) t (claims calls t)
      (Ends (fun _ => Holds calls t) fun _ w => ¬Holds calls t w) w := by
  intro w' hr hi o _
  by_cases hbusy : (w'.ops (calls t).rpc.key).isSome = true
  · have hstep : (machine M).step t (.tryLock (calls t).rpc.key) o w' = (false, w') := if_pos hbusy
    rw [hstep]
    exact ⟨⟨fun _ _ => Iff.rfl, nofun⟩, hi, fun _ hr' _ h => hw (hr.mp (hr'.mp h))⟩
  · have hstep : (machine M).step t (.tryLock (calls t).rpc.key) o w' =
        (true, w'.note (calls t).rpc.key (some t)) := if_neg hbusy
    rw [hstep]
    obtain ⟨hg, hi'⟩ := note_own (c := .tryLock (calls t).rpc.key) nofun hi
      (fun t' h => by simp [h] at hbusy) fun t' (h : some t = some t') => (Option.some.inj h).symm
    exact ⟨hg, hi', fun _ hr' _ => hr'.mpr (Function.update_self ..)⟩

theorem body_meets (p : Program ι ρ Status α) (hw : Holds calls t w) :
    (p.embed .backend id : Prog ι ρ α).Meets (machine M) t (claims calls t)
      (fun _ => Holds calls t) w := by
  induction p generalizing w with
  | pure a => exact fun w' hr _ => hr.mpr hw
  | fail e => exact fun w' hr _ => hr.mpr hw
  | request c k ih =>
    intro w' hr hi o _
    exact ⟨⟨fun _ _ => Iff.rfl, fun _ _ => hr.mpr hw⟩, hi, ih _ (hr.mpr hw)⟩

theorem release_meets (hw : Holds calls t w) :
    (release (calls t).rpc.key : Prog ι ρ Unit).Meets (machine M) t (claims calls t)
      (Returns fun _ w => ¬Holds calls t w) w := by
  intro w' hr hi o _
  obtain ⟨hg, hi'⟩ := note_own (x := none) (c := .unlock (calls t).rpc.key) nofun hi
    (fun t' h => Option.some.inj (h.symm.trans (hr.mpr hw))) nofun
  refine ⟨hg, hi', fun w'' hr' _ h => ?_⟩
  exact Option.some_ne_none t ((hr'.mp h).symm.trans (Function.update_self ..))

theorem call_meets (hw : ¬Holds calls t w) :
    (calls t).program.Meets (machine M) t (claims calls t) (fun _ w => ¬Holds calls t w) w := by
  unfold Call.program
  split
  · exact fun w' hr _ h => hw (hr.mp h)
  · exact fun w' hr _ h => hw (hr.mp h)
  · apply Meets.withinIf (claim_meets hw) fun _ _ h => h
    · exact fun _ _ h => body_meets _ h
    · exact fun _ _ _ h => release_meets h
    · exact fun _ _ _ hr h h' => h (hr.mp h')

end Claims

/-- Calls of the driver run in any number and order, and any of them may be cut short. Two calls
about one object are never at a backend at once, and an object is claimed only by a call about it
that has not ended. -/
theorem one_call_per_object [DecidableEq τ] [Inhabited ω] (M : Machine ι ρ τ ω σ)
    (calls : τ → Call ι ρ α) (s : σ) (schedule : List (τ × ω)) :
    let P := Pool.run (machine M) schedule ⟨fun t => (calls t).program, ⟨fun _ => none, s⟩⟩
    (∀ t t' c c' k k', P.procs t = .request (.backend c) k →
      P.procs t' = .request (.backend c') k' →
      (calls t).rpc.object = (calls t').rpc.object → t = t') ∧
    ∀ (r : Rpc) t, P.state.ops r.key = some t →
      (calls t).rpc.object = r.object ∧ ∃ c k, P.procs t = .request c k := by
  intro P
  have hgood : Pool.Good (machine M) (claims calls) (Owned calls) (fun t _ w => ¬Holds calls t w)
      ⟨fun t => (calls t).program, ⟨fun _ => none, s⟩⟩ := ⟨nofun, fun t => call_meets nofun⟩
  have hcompatible : Pool.Compatible (ω := ω) (σ := World τ σ) (claims calls) (Owned calls) :=
    ⟨fun _ _ => Iff.rfl, fun _ t' _ _ _ ht _ _ hg => hg.1 t' (Ne.symm ht)⟩
  obtain ⟨⟨hi, hall⟩, _⟩ := hgood.run hcompatible schedule
    (Pool.throughout_of_forall _ _ _ fun _ _ _ _ => trivial)
  have hholds : ∀ t c k, P.procs t = .request (.backend c) k → Holds calls t P.state := by
    intro t c k hp
    have ht := hall t
    rw [hp] at ht
    exact (ht P.state Iff.rfl hi default trivial).1.2 c rfl
  refine ⟨fun t t' c c' k k' hp hp' hobject => ?_, fun r t hr => ?_⟩
  · have ht : P.state.ops (calls t).rpc.key = some t := hholds t c k hp
    rw [key_eq_iff.mpr hobject, hholds t' c' k' hp'] at ht
    exact (Option.some.inj ht).symm
  · have hown : P.state.ops (calls t).rpc.key = some t := by rwa [← hi r.key t hr]
    refine ⟨(key_eq_iff.mp (hi r.key t hr)).symm, ?_⟩
    have ht := hall t
    cases hp : P.procs t with
    | request c k => exact ⟨c, k, rfl⟩
    | _ =>
      rw [hp] at ht
      exact absurd hown (ht P.state Iff.rfl hi)

end BardCsi.Driver.InFlight
