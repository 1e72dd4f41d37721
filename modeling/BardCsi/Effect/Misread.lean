import BardCsi.Effect.Calls
import BardCsi.Effect.Pool
import Mathlib.Data.List.Forall2

/-!
A caller that goes by the text of a failure may take it for an answer of its own: a failed lookup
for an object that is missing, a failed creation for one that exists. The machine below gives such
replies beside those of a given machine. As long as they are true, every run is a run of the given
machine.
-/
namespace BardCsi.Effect

variable {ι : Type} {ρ : ι → Type} {τ ω σ ε α : Type}

namespace Machine

/-- The same machine with failures that the caller misreads. The request has the effect that its
outcome says, and a misread one gets the reply of the table. -/
def misreading (M : Machine ι ρ τ ω σ) (misread : (c : ι) → Option (ρ c)) :
    Machine ι ρ τ (ω × Bool) σ where
  step t c x s :=
    let r := M.step t c x.1 s
    (if x.2 then (misread c).getD r.1 else r.1, r.2)

variable (M : Machine ι ρ τ ω σ) (misread : (c : ι) → Option (ρ c))

/-- A reply that was misread is true: the machine can give it here, with the same effect. -/
def Truthful (t : τ) (c : ι) (x : ω × Bool) (s : σ) : Prop :=
  x.2 = true → ∀ r, misread c = some r → ∃ o, M.step t c o s = (r, (M.step t c x.1 s).2)

/-- Every reply of the run that was misread is true. -/
def TruthfulRun (t : τ) (p : Program ι ρ ε α) (xs : List (ω × Bool)) (s : σ) : Prop :=
  ∀ e ∈ ((M.misreading misread).exec t p xs s).1, M.Truthful misread t e.cmd e.outcome e.before

variable {M misread} {t : τ} {c : ι} {x : ω × Bool} {s : σ} {p : Program ι ρ ε α}
  {xs : List (ω × Bool)}

theorem truthful_of_read (h : x.2 = false) : M.Truthful misread t c x s := by
  intro hx
  cases h.symm.trans hx

theorem truthfulRun_of_read (h : ∀ x ∈ xs, x.2 = false) : M.TruthfulRun misread t p xs s :=
  fun _ he => truthful_of_read (h _ (outcome_mem_of_exec he))

/-- An outcome without a misread failure that has the same reply and effect. It is the same one if
nothing was misread. -/
theorem Truthful.outcome (h : M.Truthful misread t c x s) :
    ∃ o, M.step t c o s = (M.misreading misread).step t c x s ∧
      (x.2 = false ∨ misread c = none → o = x.1) := by
  obtain ⟨o, m⟩ := x
  cases m with
  | false => exact ⟨o, rfl, fun _ => rfl⟩
  | true =>
    cases hr : misread c with
    | none => exact ⟨o, by simp [misreading, hr], fun _ => rfl⟩
    | some r =>
      obtain ⟨o', ho'⟩ := h rfl r hr
      exact ⟨o', by simp [misreading, hr, ho'], by simp⟩

/-- The same request in the same state, with the same effect. -/
structure Matches (M : Machine ι ρ τ ω σ) (misread : (c : ι) → Option (ρ c)) (t : τ)
    (e : Event ι ω σ) (e' : Event ι (ω × Bool) σ) : Prop where
  cmd : e.cmd = e'.cmd
  before : e.before = e'.before
  after : M.after t e = (M.misreading misread).after t e'
  outcome : e'.outcome.2 = false ∨ misread e'.cmd = none → e.outcome = e'.outcome.1

theorem exec_truthful (xs : List (ω × Bool)) (h : M.TruthfulRun misread t p xs s) :
    ∃ os, (M.exec t p os s).2 = ((M.misreading misread).exec t p xs s).2 ∧
      List.Forall₂ (M.Matches misread t) (M.exec t p os s).1
        ((M.misreading misread).exec t p xs s).1 := by
  induction p generalizing s xs with
  | pure a => exact ⟨[], rfl, .nil⟩
  | fail e => exact ⟨[], rfl, .nil⟩
  | request c k ih =>
    cases xs with
    | nil => exact ⟨[], rfl, .nil⟩
    | cons x xs =>
      simp only [TruthfulRun, exec, List.forall_mem_cons] at h
      obtain ⟨o, ho, hsame⟩ := h.1.outcome
      obtain ⟨os, hstop, htrace⟩ := ih _ xs h.2
      refine ⟨o :: os, ?_, ?_⟩
      · simp only [exec, ho, hstop]
      · simp only [exec, ho]
        exact .cons ⟨rfl, rfl, by simp only [after, ho], hsame⟩ htrace

variable (M misread t p s) in
theorem exec_read (h : ∀ x ∈ xs, x.2 = false) :
    ((M.misreading misread).exec t p xs s).2 = (M.exec t p (xs.map Prod.fst) s).2 := by
  induction p generalizing s xs with
  | pure a => rfl
  | fail e => rfl
  | request c k ih =>
    cases xs with
    | nil => rfl
    | cons x xs =>
      obtain ⟨o, m⟩ := x
      obtain rfl : m = false := h _ List.mem_cons_self
      exact ih _ _ fun x hx => h x (List.mem_cons_of_mem _ hx)

/-- Every run of the machine is one in which nothing is misread. -/
theorem exists_read (misread : (c : ι) → Option (ρ c)) (os : List ω) :
    ∃ xs, M.TruthfulRun misread t p xs s ∧
      ((M.misreading misread).exec t p xs s).2 = (M.exec t p os s).2 := by
  have hread : ∀ x ∈ os.map (·, false), x.2 = false := by simp
  refine ⟨os.map (·, false), truthfulRun_of_read hread, (exec_read M misread t s p hread).trans ?_⟩
  rw [List.map_map, show Prod.fst ∘ (fun o : ω => (o, false)) = id from rfl, List.map_id]

end Machine

theorem Pool.truthful_of_read [DecidableEq τ] {M : Machine ι ρ τ ω σ}
    {misread : (c : ι) → Option (ρ c)} {xs : List (τ × ω × Bool)} {P : Pool ι ρ τ σ ε α}
    (h : ∀ x ∈ xs, x.2.2 = false) :
    Throughout (M.misreading misread) (M.Truthful misread) xs P :=
  throughout_of_forall _ _ _ fun x hx _ _ => Machine.truthful_of_read (h x hx)

/-- A pool whose misread replies are all true runs as one whose failures are not misread. -/
theorem Pool.run_truthful [DecidableEq τ] {M : Machine ι ρ τ ω σ}
    {misread : (c : ι) → Option (ρ c)} (xs : List (τ × ω × Bool)) (P : Pool ι ρ τ σ ε α)
    (h : Throughout (M.misreading misread) (M.Truthful misread) xs P) :
    ∃ ys, run M ys P = run (M.misreading misread) xs P := by
  induction xs generalizing P with
  | nil => exact ⟨[], rfl⟩
  | cons x xs ih =>
    obtain ⟨hx, hxs⟩ := h
    obtain ⟨ys, hys⟩ := ih _ hxs
    obtain ⟨t, x⟩ := x
    cases hp : P.procs t with
    | pure a => exact ⟨ys, by simpa only [run, turn, hp] using hys⟩
    | fail e => exact ⟨ys, by simpa only [run, turn, hp] using hys⟩
    | request c k =>
      simp only [TurnHolds, hp] at hx
      obtain ⟨o, ho, _⟩ := hx.outcome
      refine ⟨(t, o) :: ys, ?_⟩
      simp only [run, turn, hp, ho] at hys ⊢
      exact hys

end BardCsi.Effect
