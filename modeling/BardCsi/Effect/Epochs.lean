import BardCsi.Effect.Pool

/-!
Runs in epochs: callers that take turns until the environment makes a change that stops
all of them, after which new callers start from the state that is left.
-/
namespace BardCsi.Effect

variable {ι : Type} {ρ : ι → Type} {τ ω σ ε α β : Type}

/-- The same machine for callers with other names. -/
def Machine.relabel {τ' : Type} (M : Machine ι ρ τ ω σ) (f : τ' → τ) : Machine ι ρ τ' ω σ :=
  ⟨fun t => M.step (f t)⟩

/-- Callers, the order of their turns, and the change that ends them. -/
structure Epoch (ι : Type) (ρ : ι → Type) (τ ε α ω β : Type) where
  procs : τ → Program ι ρ ε α
  schedule : List (τ × ω)
  change : β

namespace Epoch

variable [DecidableEq τ] (M : Machine ι ρ τ ω σ) (env : β → σ → σ)

/-- The state in which the change finds the epoch. -/
def last (e : Epoch ι ρ τ ε α ω β) (s : σ) : σ := (Pool.run M e.schedule ⟨e.procs, s⟩).state

/-- Every request satisfies `φ` at its moment, and every change satisfies `ψ`. -/
def Along (φ : τ → ι → ω → σ → Prop) (ψ : β → σ → Prop) :
    List (Epoch ι ρ τ ε α ω β) → σ → Prop
  | [], _ => True
  | e :: es, s => Pool.Throughout M φ e.schedule ⟨e.procs, s⟩ ∧ ψ e.change (e.last M s) ∧
      Along φ ψ es (env e.change (e.last M s))

instance decidableAlong {φ : τ → ι → ω → σ → Prop} {ψ : β → σ → Prop}
    [∀ t c o s, Decidable (φ t c o s)] [∀ c s, Decidable (ψ c s)] :
    (es : List (Epoch ι ρ τ ε α ω β)) → (s : σ) → Decidable (Along M env φ ψ es s)
  | [], _ => .isTrue trivial
  | e :: es, s =>
      have := decidableAlong (φ := φ) (ψ := ψ) es (env e.change (e.last M s))
      inferInstanceAs (Decidable (_ ∧ _ ∧ _))

variable {M env} {K : τ → Contract ι ω σ} {I : σ → Prop} {may : β → σ → Prop}
variable {φ : τ → ι → ω → σ → Prop}

/-- If every caller keeps its contract from every state of the invariant, every change keeps
the invariant, and every guarantee implies `φ`, then `φ` holds of every request of a run
whose requests and changes are as assumed. -/
theorem along_of_contracts (hK : Pool.Compatible K I)
    (hφ : ∀ t c o s, (K t).guarantee c s (M.step t c o s).2 → φ t c o s)
    (henv : ∀ c s, I s → may c s → I (env c s)) (es : List (Epoch ι ρ τ ε α ω β))
    (hprocs : ∀ e ∈ es, ∀ t s, I s → (e.procs t).Meets M t (K t) (fun _ _ => True) s)
    {s : σ} (hs : I s) (ha : Along M env (fun t => (K t).assume) may es s) :
    Along M env φ (fun _ _ => True) es s := by
  induction es generalizing s with
  | nil => trivial
  | cons e es ih =>
    obtain ⟨hassumed, hmay, hrest⟩ := ha
    have hstart : Pool.Good M K I (fun _ _ _ => True) ⟨e.procs, s⟩ :=
      ⟨hs, fun t => hprocs e List.mem_cons_self t s hs⟩
    obtain ⟨hgood, hguaranteed⟩ := hstart.run hK e.schedule hassumed
    refine ⟨hguaranteed.mono hφ, trivial, ?_⟩
    exact ih (fun e' he' => hprocs e' (List.mem_cons_of_mem _ he')) (henv _ _ hgood.1 hmay) hrest

end Epoch
end BardCsi.Effect
