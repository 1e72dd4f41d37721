import BardCsi.Effect.Eval
import BardCsi.Effect.Pool

/-!
Callers that share a lock. What the lock protects is stable for the caller that holds it, and
whoever does not hold it leaves it alone. A schedule in which the lock is only taken while it is
free is one that the lock allows. A section under the lock is left at its end, whether it fails
or not.
-/
namespace BardCsi.Effect

variable {ι : Type} {ρ : ι → Type} {τ ω σ ε α β : Type} {take release : Program ι ρ ε Unit}
variable {p : Program ι ρ ε α} {s : σ}

/-- Run a program between taking and releasing a lock. -/
def Program.within (take release : Program ι ρ ε Unit) (p : Program ι ρ ε α) :
    Program ι ρ ε α :=
  take.bind fun _ => p.attempt.bind fun r => release.bind fun _ =>
    match r with
    | .ok a => .pure a
    | .error e => .fail e

/-- A section is entered, run and left, unless the lock is not taken. -/
theorem Program.Meets.withinIf {M : Machine ι ρ τ ω σ} {t : τ} {K : Contract ι ω σ} {A : σ → Prop}
    {E : ε → σ → Prop} {B Q : Except ε α → σ → Prop}
    (htake : take.Meets M t K (Program.Ends (fun _ => A) E) s)
    (hfail : ∀ e s', E e s' → Q (.error e) s') (hp : ∀ s', K.inv s' → A s' → p.Meets M t K B s')
    (hrelease : ∀ r s', K.inv s' → B r s' → release.Meets M t K (Program.Returns fun _ => Q r) s')
    (hstable : ∀ r a b, K.rely a b → Q r a → Q r b) :
    (Program.within take release p).Meets M t K Q s := by
  refine htake.andThen (fun _ s₁ hi₁ hA => ?_) fun e s₁ _ hE => hfail e s₁ hE
  apply Program.Meets.bind
  apply Program.Meets.attempt
  refine (hp s₁ hi₁ hA).mono fun r s₂ hi₂ hB => ?_
  refine (hrelease r s₂ hi₂ hB).returns fun _ s₃ _ hQ => ?_
  cases r with
  | ok a => exact fun s₄ hr _ => hstable _ _ _ hr hQ
  | error e => exact fun s₄ hr _ => hstable _ _ _ hr hQ

/-- A section is entered, run and left, and what is asserted at its end is stable. -/
theorem Program.Meets.within {M : Machine ι ρ τ ω σ} {t : τ} {K : Contract ι ω σ} {A : σ → Prop}
    {B Q : Except ε α → σ → Prop} (htake : take.Meets M t K (Program.Returns fun _ => A) s)
    (hp : ∀ s', K.inv s' → A s' → p.Meets M t K B s')
    (hrelease : ∀ r s', K.inv s' → B r s' → release.Meets M t K (Program.Returns fun _ => Q r) s')
    (hstable : ∀ r a b, K.rely a b → Q r a → Q r b) :
    (Program.within take release p).Meets M t K Q s :=
  htake.withinIf (fun _ _ h => h.elim) hp hrelease hstable

theorem Program.eval_within {answer : (c : ι) → σ → ρ c × σ} {r : Except ε α} {s₁ s₂ s₃ : σ}
    (htake : take.eval answer s = (.ok (), s₁)) (hp : p.eval answer s₁ = (r, s₂))
    (hrelease : release.eval answer s₂ = (.ok (), s₃)) :
    (Program.within take release p).eval answer s = (r, s₃) := by
  rw [Program.within, Program.eval_bind_of htake, Program.eval_attempt_bind_of hp,
    Program.eval_bind_of hrelease]
  cases r with
  | ok a => rfl
  | error e => rfl

/-- A lock: who holds it, and what it protects. -/
structure Lock (τ σ β : Type) where
  holder : σ → Option τ
  protects : σ → β

namespace Lock

variable (L : Lock τ σ β) {t : τ} {s s' s'' : σ}

/-- What a caller may rely on: it keeps the lock while it holds it, nobody gives it the lock,
and what the lock protects stays as it is while the caller holds it. -/
def Rely (t : τ) (s s' : σ) : Prop :=
  (L.holder s' = some t ↔ L.holder s = some t) ∧
    (L.holder s = some t → L.protects s' = L.protects s)

/-- What a caller has to keep for all the others. -/
def Guarantee (t : τ) (s s' : σ) : Prop := ∀ t', t' ≠ t → L.Rely t' s s'

variable {L}

theorem Rely.refl (t : τ) (s : σ) : L.Rely t s s := ⟨Iff.rfl, fun _ => rfl⟩

theorem Rely.trans (h : L.Rely t s s') (h' : L.Rely t s' s'') : L.Rely t s s'' := by
  refine ⟨h'.1.trans h.1, fun hs => ?_⟩
  rw [h'.2 (h.1.mpr hs), h.2 hs]

/-- The holder may do anything but give the lock away. -/
theorem guarantee_holder (h : L.holder s = some t) (h' : L.holder s' = some t) :
    L.Guarantee t s s' := by
  intro t' ht
  have hne : ∀ a, L.holder a = some t → L.holder a ≠ some t' :=
    fun a ha hb => ht (Option.some.inj (hb.symm.trans ha))
  exact ⟨⟨fun h'' => absurd h'' (hne s' h'), fun h'' => absurd h'' (hne s h)⟩,
    fun h'' => absurd h'' (hne s h)⟩

theorem guarantee_take (h : L.holder s = none) (h' : L.holder s' = some t) :
    L.Guarantee t s s' := by
  intro t' ht
  refine ⟨⟨fun h'' => ?_, fun h'' => ?_⟩, fun h'' => ?_⟩
  · exact absurd (Option.some.inj (h''.symm.trans h')) ht
  · cases h.symm.trans h''
  · cases h.symm.trans h''

theorem guarantee_release (h : L.holder s = some t) (h' : L.holder s' = none) :
    L.Guarantee t s s' := by
  intro t' ht
  have hne : L.holder s ≠ some t' := fun hb => ht (Option.some.inj (hb.symm.trans h))
  refine ⟨⟨fun h'' => ?_, fun h'' => absurd h'' hne⟩, fun h'' => absurd h'' hne⟩
  cases h'.symm.trans h''

variable (L)

/-- The contract of the callers of a lock. All of them keep `I` and guarantee `R`, each request
also guarantees `G`, and the environment keeps to `A`. -/
def contract (I : σ → Prop) (A : ι → ω → σ → Prop) (G : ι → σ → σ → Prop) (R : σ → σ → Prop)
    (hrefl : ∀ s, R s s) (htrans : ∀ a b c, R a b → R b c → R a c) (t : τ) :
    Contract ι ω σ where
  inv := I
  rely s s' := L.Rely t s s' ∧ R s s'
  assume := A
  guarantee c s s' := L.Guarantee t s s' ∧ R s s' ∧ G c s s'
  rely_refl s := ⟨Rely.refl t s, hrefl s⟩
  rely_trans h h' := ⟨h.1.trans h'.1, htrans _ _ _ h.2 h'.2⟩

theorem contract_compatible (I : σ → Prop) (A : ι → ω → σ → Prop) (G : ι → σ → σ → Prop)
    (R : σ → σ → Prop) (hrefl : ∀ s, R s s) (htrans : ∀ a b c, R a b → R b c → R a c) :
    Pool.Compatible (L.contract I A G R hrefl htrans) I :=
  ⟨fun _ _ => Iff.rfl, fun _ t' _ _ _ ht _ _ hg => ⟨hg.1 t' (Ne.symm ht), hg.2.1⟩⟩

end Lock
end BardCsi.Effect
