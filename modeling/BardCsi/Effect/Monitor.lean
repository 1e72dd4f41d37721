import BardCsi.Effect.Pool

/-!
A monitor beside a machine: a value that every request updates, and that no reply depends on. A
property of the requests of a run becomes a property of its last state.
-/
namespace BardCsi.Effect

variable {ι : Type} {ρ : ι → Type} {ε τ ω σ α γ : Type}

/-- The same machine with a monitor, which sees the caller, the request, its outcome and the state
before it. -/
def Machine.monitored (M : Machine ι ρ τ ω σ) (watch : τ → ι → ω → σ → γ → γ) :
    Machine ι ρ τ ω (σ × γ) where
  step t c o s := ((M.step t c o s.1).1, (M.step t c o s.1).2, watch t c o s.1 s.2)

/-- The value of the monitor after the requests of a call. -/
def watched (watch : τ → ι → ω → σ → γ → γ) (t : τ) (tr : List (Event ι ω σ)) (g : γ) : γ :=
  tr.foldl (fun g e => watch t e.cmd e.outcome e.before g) g

/-- A call does not depend on the monitor, and the monitor ends with its value after the
requests of the call. -/
theorem Machine.exec_monitored (M : Machine ι ρ τ ω σ) (watch : τ → ι → ω → σ → γ → γ) (t : τ)
    (p : Program ι ρ ε α) (os : List ω) (s : σ) (g : γ) :
    ((M.monitored watch).exec t p os (s, g)).2 =
      (((M.exec t p os s).2.1, watched watch t (M.exec t p os s).1 g), (M.exec t p os s).2.2) := by
  induction p generalizing os s g with
  | pure a => rfl
  | fail e => rfl
  | request c k ih =>
    cases os with
    | nil => rfl
    | cons o os => exact ih _ os _ _

/-- A program that keeps a contract of the monitored machine, run without the monitor. -/
theorem Program.Meets.exec_monitored {M : Machine ι ρ τ ω σ} {watch : τ → ι → ω → σ → γ → γ}
    {t : τ} {K : Contract ι ω (σ × γ)} {p : Program ι ρ ε α} {Q : Except ε α → σ × γ → Prop}
    {s : σ} {g : γ} (h : p.Meets (M.monitored watch) t K Q (s, g)) (hi : K.inv (s, g))
    (ha : ∀ c o a, K.assume c o a) (os : List ω) :
    K.inv ((M.exec t p os s).2.1, watched watch t (M.exec t p os s).1 g) ∧
      ∀ r, (M.exec t p os s).2.2 = some r →
        Q r ((M.exec t p os s).2.1, watched watch t (M.exec t p os s).1 g) := by
  obtain ⟨_, hinv, hend⟩ := h.exec hi os fun e _ => ha _ _ _
  rw [M.exec_monitored watch t p os s g] at hinv hend
  exact ⟨hinv, hend⟩

end BardCsi.Effect
