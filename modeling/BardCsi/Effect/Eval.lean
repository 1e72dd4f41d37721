import BardCsi.Effect.Contract

/-!
A program that runs alone against a world that answers every request. Such a run has one
result and one final state, so programs can be computed with by rewriting. It is a complete
run of a machine whose environment chooses as the world does.
-/
namespace BardCsi.Effect

namespace Program

variable {ι : Type} {ρ : ι → Type} {ε α β σ : Type}

section Eval

variable (answer : (c : ι) → σ → ρ c × σ)

/-- The result of a program, and the state that it leaves. -/
def eval : Program ι ρ ε α → σ → Except ε α × σ
  | .pure a, s => (.ok a, s)
  | .fail e, s => (.error e, s)
  | .request c k, s => (k (answer c s).1).eval (answer c s).2

/-- Go on with the result of a program, or stop at its error. -/
def resume (k : α → Program ι ρ ε β) : Except ε α × σ → Except ε β × σ
  | (.ok a, s) => (k a).eval answer s
  | (.error e, s) => (.error e, s)

variable {answer} {k : α → Program ι ρ ε β} {p : Program ι ρ ε α} {s s' : σ}

@[simp] theorem eval_pure (a : α) : (pure a : Program ι ρ ε α).eval answer s = (.ok a, s) := rfl

@[simp] theorem eval_fail (e : ε) :
    (fail e : Program ι ρ ε α).eval answer s = (.error e, s) := rfl

@[simp] theorem resume_ok (a : α) : resume answer k (.ok a, s) = (k a).eval answer s := rfl

@[simp] theorem resume_error (e : ε) : resume answer k (.error e, s) = (.error e, s) := rfl

theorem eval_bind : (p.bind k).eval answer s = resume answer k (p.eval answer s) := by
  induction p generalizing s with
  | pure a => rfl
  | fail e => rfl
  | request c next ih => exact ih _

theorem eval_attempt {ε' : Type} : (p.attempt : Program ι ρ ε' (Except ε α)).eval answer s =
    (.ok (p.eval answer s).1, (p.eval answer s).2) := by
  induction p generalizing s with
  | pure a => rfl
  | fail e => rfl
  | request c next ih => exact ih _

/-- A program goes on from the result of its first part. -/
theorem eval_bind_of {a : α} (h : p.eval answer s = (.ok a, s')) :
    (p.bind k).eval answer s = (k a).eval answer s' := by
  rw [eval_bind, h, resume_ok]

theorem eval_bind_error {e : ε} (h : p.eval answer s = (.error e, s')) :
    (p.bind k).eval answer s = (.error e, s') := by
  rw [eval_bind, h, resume_error]

theorem eval_attempt_bind_of {ε' : Type} {k : Except ε α → Program ι ρ ε' β} {r : Except ε α}
    (h : p.eval answer s = (r, s')) :
    (p.attempt.bind k).eval answer s = (k r).eval answer s' := by
  rw [eval_bind, eval_attempt, h, resume_ok]

theorem eval_ask_bind (c : ι) (k : ρ c → Program ι ρ ε α) :
    ((ask c).bind k).eval answer s = (k (answer c s).1).eval answer (answer c s).2 := rfl

/-- What a program does after its first request, answered. -/
theorem eval_after_ask {c : ι} {k : ρ c → Program ι ρ ε α} {r : ρ c} {x : Except ε α × σ}
    (h : ((ask c).bind k).eval answer s = x) (ha : answer c s = (r, s')) :
    (k r).eval answer s' = x := by
  rwa [eval_ask_bind, ha] at h

theorem eval_ask_of {c : ι} {k : ρ c → Program ι ρ ε α} {r : ρ c} {x : Except ε α × σ}
    (ha : answer c s = (r, s')) (h : (k r).eval answer s' = x) :
    ((ask c).bind k).eval answer s = x := by
  rw [eval_ask_bind, ha, h]

/-- A program with a result had a result at every part. -/
theorem eval_bind_ok {b : β} (h : (p.bind k).eval answer s = (.ok b, s')) :
    ∃ a m, p.eval answer s = (.ok a, m) ∧ (k a).eval answer m = (.ok b, s') := by
  rw [eval_bind] at h
  rcases hp : p.eval answer s with ⟨r, m⟩
  cases r with
  | ok a => exact ⟨a, m, rfl, by rwa [hp] at h⟩
  | error e =>
    rw [hp] at h
    cases h

end Eval

section Keeps

variable (answer : (c : ι) → σ → ρ c × σ)

/-- From a state with `P` the program ends in a state with `P`. -/
def Keeps (P : σ → Prop) (p : Program ι ρ ε α) : Prop := ∀ s, P s → P (p.eval answer s).2

variable {answer} {P : σ → Prop} {p : Program ι ρ ε α}

theorem Keeps.pure (a : α) : (Program.pure a : Program ι ρ ε α).Keeps answer P := fun _ h => h

theorem Keeps.fail (e : ε) : (Program.fail e : Program ι ρ ε α).Keeps answer P := fun _ h => h

theorem Keeps.bind {k : α → Program ι ρ ε β} (hp : p.Keeps answer P)
    (hk : ∀ a, (k a).Keeps answer P) : (p.bind k).Keeps answer P := by
  intro s hs
  have hm := hp s hs
  rw [eval_bind]
  rcases hr : p.eval answer s with ⟨r, m⟩
  rw [hr] at hm
  cases r with
  | ok a => exact hk a m hm
  | error e => exact hm

theorem Keeps.ite {b : Prop} [Decidable b] {q : Program ι ρ ε α} (hp : p.Keeps answer P)
    (hq : q.Keeps answer P) : (if b then p else q).Keeps answer P := by
  split
  · exact hp
  · exact hq

theorem Keeps.ask {c : ι} (h : ∀ s, P s → P (answer c s).2) :
    (Program.ask c : Program ι ρ ε (ρ c)).Keeps answer P := h

theorem Keeps.left (hp : p.Keeps answer P) {s s' : σ} {r : Except ε α} (hs : P s)
    (h : p.eval answer s = (r, s')) : P s' := by
  have hend := hp s hs
  rwa [h] at hend

/-- The first request of a program, answered. -/
theorem holds_after_ask {c : ι} {k : ρ c → Program ι ρ ε α} {r : ρ c} {s s' : σ}
    (h : answer c s = (r, s')) (hk : P ((k r).eval answer s').2) :
    P (((Program.ask c).bind k).eval answer s).2 := by
  rw [eval_ask_bind, h]
  exact hk

/-- What every allowed request keeps is kept by a program that makes no other. -/
theorem Uses.keeps {allowed : ι → Prop} (hu : p.Uses allowed)
    (h : ∀ c s, allowed c → P s → P (answer c s).2) : p.Keeps answer P := by
  induction p with
  | pure a => exact Keeps.pure a
  | fail e => exact Keeps.fail e
  | request c k ih => exact fun s hs => ih _ (hu.2 _) _ (h c s hu.1 hs)

end Keeps

section Machine

variable {τ ω : Type} (M : Machine ι ρ τ ω σ) (t : τ) (choose : ι → σ → ω)

/-- The answers of a machine under a fixed environment. -/
def answers (c : ι) (s : σ) : ρ c × σ := M.step t c (choose c s) s

/-- The choices that the environment makes along the run of a program. -/
def choices : Program ι ρ ε α → σ → List ω
  | .pure _, _ => []
  | .fail _, _ => []
  | .request c k, s =>
      choose c s :: (k (M.step t c (choose c s) s).1).choices (M.step t c (choose c s) s).2

theorem exec_choices (p : Program ι ρ ε α) (s : σ) :
    (M.exec t p (p.choices M t choose s) s).2 =
      ((p.eval (answers M t choose) s).2, some (p.eval (answers M t choose) s).1) := by
  induction p generalizing s with
  | pure a => rfl
  | fail e => rfl
  | request c k ih => exact ih _ _

theorem exec_choices_outcome (p : Program ι ρ ε α) (s : σ) :
    ∀ e ∈ (M.exec t p (p.choices M t choose s) s).1, e.outcome = choose e.cmd e.before := by
  induction p generalizing s with
  | pure a => exact fun e he => absurd he List.not_mem_nil
  | fail e => exact fun e he => absurd he List.not_mem_nil
  | request c k ih =>
    intro e he
    rcases List.mem_cons.mp he with rfl | he
    · rfl
    · exact ih _ _ e he

/-- What a program keeps under a contract holds after it has run alone. -/
theorem Meets.eval {M : Machine ι ρ τ ω σ} {t : τ} {choose : ι → σ → ω}
    {K : Contract ι ω σ} {p : Program ι ρ ε α} {Q : Except ε α → σ → Prop} {s : σ}
    (h : p.Meets M t K Q s) (hi : K.inv s) (ha : ∀ c s, K.assume c (choose c s) s) :
    K.inv (p.eval (answers M t choose) s).2 ∧
      Q (p.eval (answers M t choose) s).1 (p.eval (answers M t choose) s).2 := by
  have hassume : ∀ e ∈ (M.exec t p (p.choices M t choose s) s).1,
      K.assume e.cmd e.outcome e.before := by
    intro e he
    rw [exec_choices_outcome M t choose p s e he]
    exact ha _ _
  obtain ⟨_, hinv, hres⟩ := h.exec hi _ hassume
  rw [exec_choices] at hinv hres
  exact ⟨hinv, hres _ rfl⟩

end Machine

end Program
end BardCsi.Effect
