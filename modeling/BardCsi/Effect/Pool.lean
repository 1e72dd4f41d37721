import BardCsi.Effect.Contract

/-!
Pools of programs that share one state and take turns, one request at a time, in any
order. A caller that is never scheduled again has crashed, so every prefix of every
schedule is a run of its own.
-/
namespace BardCsi.Effect

variable {ι : Type} {ρ : ι → Type} {τ ω σ ε α : Type}

structure Pool (ι : Type) (ρ : ι → Type) (τ σ ε α : Type) where
  procs : τ → Program ι ρ ε α
  state : σ

namespace Pool

variable [DecidableEq τ]

/-- One turn: the caller's next request is answered. A finished caller stays as it is. -/
def turn (M : Machine ι ρ τ ω σ) (x : τ × ω) (P : Pool ι ρ τ σ ε α) : Pool ι ρ τ σ ε α :=
  match P.procs x.1 with
  | .pure _ => P
  | .fail _ => P
  | .request c k =>
      let r := M.step x.1 c x.2 P.state
      ⟨Function.update P.procs x.1 (k r.1), r.2⟩

def run (M : Machine ι ρ τ ω σ) : List (τ × ω) → Pool ι ρ τ σ ε α → Pool ι ρ τ σ ε α
  | [], P => P
  | x :: xs, P => run M xs (turn M x P)

/-- The request of this turn, if there is one, satisfies `φ`. -/
def TurnHolds (φ : τ → ι → ω → σ → Prop) (x : τ × ω) (P : Pool ι ρ τ σ ε α) : Prop :=
  match P.procs x.1 with
  | .pure _ => True
  | .fail _ => True
  | .request c _ => φ x.1 c x.2 P.state

/-- Every request of a schedule satisfies `φ` at its moment. -/
def Throughout (M : Machine ι ρ τ ω σ) (φ : τ → ι → ω → σ → Prop) :
    List (τ × ω) → Pool ι ρ τ σ ε α → Prop
  | [], _ => True
  | x :: xs, P => TurnHolds φ x P ∧ Throughout M φ xs (turn M x P)

theorem throughout_of_forall (M : Machine ι ρ τ ω σ) {φ : τ → ι → ω → σ → Prop}
    (xs : List (τ × ω)) (P : Pool ι ρ τ σ ε α) (h : ∀ x ∈ xs, ∀ c s, φ x.1 c x.2 s) :
    Throughout M φ xs P := by
  induction xs generalizing P with
  | nil => trivial
  | cons x xs ih =>
    rw [List.forall_mem_cons] at h
    refine ⟨?_, ih _ h.2⟩
    unfold TurnHolds
    split
    · trivial
    · trivial
    · exact h.1 _ _

section Throughout

variable {M : Machine ι ρ τ ω σ} {φ ψ χ : τ → ι → ω → σ → Prop} {xs : List (τ × ω)}
variable {P : Pool ι ρ τ σ ε α}

theorem Throughout.combine (h : Throughout M φ xs P) (h' : Throughout M ψ xs P)
    (himp : ∀ t c o s, φ t c o s → ψ t c o s → χ t c o s) : Throughout M χ xs P := by
  induction xs generalizing P with
  | nil => trivial
  | cons x xs ih =>
    refine ⟨?_, ih h.2 h'.2⟩
    have hx := h.1
    have hx' := h'.1
    unfold TurnHolds at hx hx' ⊢
    split
    · trivial
    · trivial
    · rename_i hp
      simp only [hp] at hx hx'
      exact himp _ _ _ _ hx hx'

theorem Throughout.mono (h : Throughout M φ xs P)
    (himp : ∀ t c o s, φ t c o s → ψ t c o s) : Throughout M ψ xs P :=
  h.combine h fun t c o s hx _ => himp t c o s hx

theorem Throughout.and (h : Throughout M φ xs P) (h' : Throughout M ψ xs P) :
    Throughout M (fun t c o s => φ t c o s ∧ ψ t c o s) xs P :=
  h.combine h' fun _ _ _ _ => And.intro

end Throughout

instance {φ : τ → ι → ω → σ → Prop} [∀ t c o s, Decidable (φ t c o s)] (x : τ × ω)
    (P : Pool ι ρ τ σ ε α) : Decidable (TurnHolds φ x P) := by
  unfold TurnHolds
  split <;> infer_instance

instance decidableThroughout (M : Machine ι ρ τ ω σ) {φ : τ → ι → ω → σ → Prop}
    [∀ t c o s, Decidable (φ t c o s)] :
    (xs : List (τ × ω)) → (P : Pool ι ρ τ σ ε α) → Decidable (Throughout M φ xs P)
  | [], _ => .isTrue trivial
  | x :: xs, P =>
      have := decidableThroughout M (φ := φ) xs (turn M x P)
      inferInstanceAs (Decidable (_ ∧ _))

/-- Callers whose guarantees are within the others' relies. -/
structure Compatible (K : τ → Contract ι ω σ) (I : σ → Prop) : Prop where
  inv : ∀ t s, (K t).inv s ↔ I s
  rely : ∀ t t' c s s', t ≠ t' → I s → I s' → (K t).guarantee c s s' → (K t').rely s s'

/-- Every caller of the pool keeps its contract from here on. -/
def Good (M : Machine ι ρ τ ω σ) (K : τ → Contract ι ω σ) (I : σ → Prop)
    (Q : τ → Except ε α → σ → Prop) (P : Pool ι ρ τ σ ε α) : Prop :=
  I P.state ∧ ∀ t, (P.procs t).Meets M t (K t) (Q t) P.state

variable {M : Machine ι ρ τ ω σ} {K : τ → Contract ι ω σ} {I : σ → Prop}
variable {Q : τ → Except ε α → σ → Prop} {P : Pool ι ρ τ σ ε α}

theorem Good.turn (hK : Compatible K I) (h : Good M K I Q P) (x : τ × ω)
    (ha : TurnHolds (fun t => (K t).assume) x P) :
    Good M K I Q (turn M x P) ∧
      TurnHolds (fun t c o s => (K t).guarantee c s (M.step t c o s).2) x P := by
  obtain ⟨t, o⟩ := x
  obtain ⟨hi, hall⟩ := h
  have ht := hall t
  unfold Pool.turn
  unfold TurnHolds at ha ⊢
  cases hp : P.procs t with
  | pure a => simpa only [hp] using ⟨⟨hi, hall⟩, trivial⟩
  | fail e => simpa only [hp] using ⟨⟨hi, hall⟩, trivial⟩
  | request c k =>
    simp only [hp] at ha ht ⊢
    obtain ⟨hg, hi', hk⟩ := ht P.state ((K t).rely_refl _) ((hK.inv t _).mpr hi) o ha
    refine ⟨⟨(hK.inv t _).mp hi', fun t' => ?_⟩, hg⟩
    by_cases htt : t' = t
    · subst htt
      simpa using hk
    · simp only [Function.update_of_ne htt]
      exact (hall t').rely (hK.rely t t' c _ _ (Ne.symm htt) hi ((hK.inv t _).mp hi') hg)

/-- Rely and guarantee compose: at every point of every schedule the invariant holds and
every caller still keeps its contract. -/
theorem Good.run (hK : Compatible K I) (h : Good M K I Q P) (xs : List (τ × ω))
    (ha : Throughout M (fun t => (K t).assume) xs P) :
    Good M K I Q (run M xs P) ∧
      Throughout M (fun t c o s => (K t).guarantee c s (M.step t c o s).2) xs P := by
  induction xs generalizing P with
  | nil => exact ⟨h, trivial⟩
  | cons x xs ih =>
    obtain ⟨hturn, hx⟩ := h.turn hK x ha.1
    obtain ⟨hrun, hxs⟩ := ih hturn ha.2
    exact ⟨hrun, hx, hxs⟩

omit [DecidableEq τ] in
/-- A caller that has returned satisfies its postcondition in the current state. -/
theorem Good.result (hK : Compatible K I) (h : Good M K I Q P) {t : τ} {a : α}
    (hp : P.procs t = .pure a) : Q t (.ok a) P.state := by
  have ht := h.2 t
  rw [hp] at ht
  exact ht P.state ((K t).rely_refl _) ((hK.inv t _).mpr h.1)

end Pool

/-- The same machine with a log of what `f` shows after every request. The log does not
influence the replies. -/
def Machine.logged {η : Type} (M : Machine ι ρ τ ω σ) (f : σ → η) :
    Machine ι ρ τ ω (σ × List η) where
  step t c o g :=
    let r := M.step t c o g.1
    (r.1, r.2, f r.2 :: g.2)

/-- A call does not depend on the log that is kept beside it. -/
theorem Machine.exec_logged {η : Type} (M : Machine ι ρ τ ω σ) (f : σ → η) (t : τ)
    (p : Program ι ρ ε α) (os : List ω) (s : σ) (log : List η) :
    ((M.logged f).exec t p os (s, log)).2.1.1 = (M.exec t p os s).2.1 := by
  induction p generalizing os s log with
  | pure a => rfl
  | fail e => rfl
  | request c k ih =>
    cases os with
    | nil => rfl
    | cons o os => exact ih _ os _ _

namespace Pool

variable [DecidableEq τ] {η : Type}

/-- A run does not depend on the log that is kept beside it. -/
theorem run_logged (M : Machine ι ρ τ ω σ) (f : σ → η) (xs : List (τ × ω))
    (procs : τ → Program ι ρ ε α) (s : σ) (log : List η) :
    (run (M.logged f) xs ⟨procs, s, log⟩).procs = (run M xs ⟨procs, s⟩).procs ∧
      (run (M.logged f) xs ⟨procs, s, log⟩).state.1 = (run M xs ⟨procs, s⟩).state := by
  induction xs generalizing procs s log with
  | nil => exact ⟨rfl, rfl⟩
  | cons x xs ih =>
    simp only [run, turn]
    cases hp : procs x.1 with
    | pure a => exact ih procs s log
    | fail e => exact ih procs s log
    | request c k => exact ih _ _ _

end Pool
end BardCsi.Effect
