import BardCsi.Effect.Eval

/-!
Single calls whose requests may fail or be cut short. The run of a program in two parts is a
run of the first part and, if that has a result, a run of the rest on the outcomes that are
left. What every allowed request keeps is kept wherever the call stops.
-/
namespace BardCsi.Effect

variable {ι : Type} {ρ : ι → Type} {τ ω σ ε α β : Type} {φ : α → Prop} {p : Program ι ρ ε α}
variable {k : α → Program ι ρ ε β} {P : σ → Prop} {s' : σ} {a : α} {e : Event ι ω σ}

/-- Whatever the replies, a result of the program satisfies `φ`. -/
def Program.Yields (φ : α → Prop) : Program ι ρ ε α → Prop
  | .pure a => φ a
  | .fail _ => True
  | .request _ k => ∀ r, (k r).Yields φ

theorem Program.Yields.mono {ψ : α → Prop} (hp : p.Yields φ) (h : ∀ a, φ a → ψ a) : p.Yields ψ := by
  induction p with
  | pure a => exact h a hp
  | fail e => trivial
  | request c k ih => exact fun r => ih r (hp r)

theorem Program.Yields.seq {ψ : α → Prop} {φ : β → Prop} (hp : p.Yields ψ)
    (hk : ∀ a, ψ a → (k a).Yields φ) :
    (p.bind k).Yields φ := by
  induction p with
  | pure a => exact hk a hp
  | fail e => trivial
  | request c next ih => exact fun r => ih r (hp r)

theorem Program.Yields.ite {b : Prop} [Decidable b] {q : Program ι ρ ε α} (hp : b → p.Yields φ)
    (hq : ¬b → q.Yields φ) : (if b then p else q).Yields φ := by
  by_cases h : b
  · rw [if_pos h]
    exact hp h
  · rw [if_neg h]
    exact hq h

theorem Program.Yields.any (p : Program ι ρ ε α) : p.Yields fun _ => True := by
  induction p with
  | pure a => trivial
  | fail e => trivial
  | request c k ih => exact ih

theorem Program.Yields.bind {φ : β → Prop} (p : Program ι ρ ε α) (hk : ∀ a, (k a).Yields φ) :
    (p.bind k).Yields φ :=
  (Program.Yields.any p).seq fun a _ => hk a

/-- Whatever the replies, the program asks for a wanted request before it succeeds. -/
def Program.Asks (wanted : ι → Prop) : Program ι ρ ε α → Prop
  | .pure _ => False
  | .fail _ => True
  | .request c k => wanted c ∨ ∀ r, (k r).Asks wanted

theorem Program.Asks.bind {wanted : ι → Prop} (p : Program ι ρ ε α)
    (hk : ∀ a, (k a).Asks wanted) : (p.bind k).Asks wanted := by
  induction p with
  | pure a => exact hk a
  | fail e => trivial
  | request c next ih => exact .inr ih

/-- What a program keeps, and what its results are. -/
theorem Program.Meets.yields {M : Machine ι ρ τ ω σ} {t : τ} {K : Contract ι ω σ} {s : σ}
    (h : p.Meets M t K (fun _ => P) s) (hp : p.Yields φ) :
    p.Meets M t K (Program.IfOk fun x a => φ x ∧ P a) s := by
  induction p generalizing s with
  | pure a => exact fun s' hr hi => ⟨hp, h s' hr hi⟩
  | fail e => exact fun _ _ _ => trivial
  | request c k ih =>
    intro s' hr hi o ho
    obtain ⟨hg, hi', hk⟩ := h s' hr hi o ho
    exact ⟨hg, hi', ih _ hk (hp _)⟩

theorem Program.eval_yields {answer : (c : ι) → σ → ρ c × σ} {s : σ} (hp : p.Yields φ)
    (h : p.eval answer s = (.ok a, s')) : φ a := by
  induction p generalizing s with
  | pure a' =>
    cases h
    exact hp
  | fail e => cases h
  | request c k ih => exact ih _ (hp _) h

namespace Machine

variable (M : Machine ι ρ τ ω σ) (t : τ)

/-- Where a call stands when it stops: what happened, the state, and the result if there is
one. -/
abbrev Stop (ι ω σ ε α : Type) := List (Event ι ω σ) × σ × Option (Except ε α)

/-- Go on after the first part of a program. -/
def continued (k : α → Program ι ρ ε β) (os : List ω) : Stop ι ω σ ε α → Stop ι ω σ ε β
  | (tr, s, none) => (tr, s, none)
  | (tr, s, some (.error e)) => (tr, s, some (.error e))
  | (tr, s, some (.ok a)) =>
      let x := M.exec t (k a) (os.drop tr.length) s
      (tr ++ x.1, x.2)

theorem exec_bind (p : Program ι ρ ε α) (k : α → Program ι ρ ε β) (os : List ω) (s : σ) :
    M.exec t (p.bind k) os s = M.continued t k os (M.exec t p os s) := by
  induction p generalizing os s with
  | pure a => simp [exec, continued]
  | fail e => simp [exec, continued]
  | request c next ih =>
    cases os with
    | nil => rfl
    | cons o os =>
      simp only [Program.bind_request, exec, ih]
      rcases M.exec t (next (M.step t c o s).1) os (M.step t c o s).2 with ⟨tr, s', _ | e | a⟩
      · rfl
      · rfl
      · simp [continued]

variable {M t} {p : Program ι ρ ε α} {s : σ} {os : List ω}

theorem exec_yields {φ : α → Prop} (hp : p.Yields φ) {a : α}
    (h : (M.exec t p os s).2.2 = some (.ok a)) : φ a := by
  induction p generalizing s os with
  | pure a' =>
    cases h
    exact hp
  | fail e => cases h
  | request c k ih =>
    cases os with
    | nil => cases h
    | cons o os => exact ih _ (hp _) h

/-- What every allowed request keeps is kept wherever the call stops, and held at each of its
requests. -/
theorem exec_keeps {allowed : ι → Prop} {I : σ → Prop} (hu : p.Uses allowed) (hs : I s)
    (hstep : ∀ c o a, allowed c → I a → I (M.step t c o a).2) (os : List ω) :
    I (M.exec t p os s).2.1 ∧ ∀ e ∈ (M.exec t p os s).1, allowed e.cmd ∧ I e.before := by
  induction p generalizing s os with
  | pure a => exact ⟨hs, fun e he => absurd he List.not_mem_nil⟩
  | fail e => exact ⟨hs, fun e he => absurd he List.not_mem_nil⟩
  | request c k ih =>
    cases os with
    | nil => exact ⟨hs, fun e he => absurd he List.not_mem_nil⟩
    | cons o os =>
      obtain ⟨hend, htrace⟩ := ih _ (hu.2 _) (hstep c o s hu.1 hs) os
      refine ⟨hend, fun e he => ?_⟩
      rcases List.mem_cons.mp he with rfl | he
      · exact ⟨hu.1, hs⟩
      · exact htrace e he

/-- Every outcome that a run uses comes from the list. -/
theorem outcome_mem_of_exec (he : e ∈ (M.exec t p os s).1) :
    e.outcome ∈ os := by
  induction p generalizing s os with
  | pure a => simp [exec] at he
  | fail e' => simp [exec] at he
  | request c k ih =>
    cases os with
    | nil => simp [exec] at he
    | cons o os =>
      rcases List.mem_cons.mp he with rfl | he
      · exact List.mem_cons_self
      · exact List.mem_cons_of_mem _ (ih _ he)

/-- What a call has established, and every request it may make keeps, holds where it stops. -/
theorem exec_established {allowed : ι → Prop} (hu : p.Uses allowed)
    (hstep : ∀ c o a, allowed c → P a → P (M.step t c o a).2)
    (h : ∃ e ∈ (M.exec t p os s).1, P (M.after t e)) : P (M.exec t p os s).2.1 := by
  induction p generalizing s os with
  | pure a => simp [exec] at h
  | fail e => simp [exec] at h
  | request c k ih =>
    cases os with
    | nil => simp [exec] at h
    | cons o os =>
      obtain ⟨e, he, hP⟩ := h
      rcases List.mem_cons.mp he with rfl | he
      · exact (exec_keeps (hu.2 _) hP hstep os).1
      · exact ih _ (hu.2 _) ⟨e, he, hP⟩

/-- What holds at the end and not at the start was brought about by some request. -/
theorem exec_crossing (hs : ¬P s) (hend : P (M.exec t p os s).2.1) :
    ∃ e ∈ (M.exec t p os s).1, ¬P e.before ∧ P (M.after t e) := by
  induction p generalizing s os with
  | pure a => exact absurd hend hs
  | fail e => exact absurd hend hs
  | request c k ih =>
    cases os with
    | nil => exact absurd hend hs
    | cons o os =>
      by_cases hP : P (M.step t c o s).2
      · exact ⟨⟨c, o, s⟩, List.mem_cons_self, hs, hP⟩
      · obtain ⟨e, he, hcross⟩ := ih _ hP hend
        exact ⟨e, List.mem_cons_of_mem _ he, hcross⟩

/-- What happens in the first part of a call happens in the call. -/
theorem mem_exec_bind (he : e ∈ (M.exec t p os s).1) : e ∈ (M.exec t (p.bind k) os s).1 := by
  rw [exec_bind]
  rcases hp : M.exec t p os s with ⟨tr, s', _ | err | a⟩
  · rwa [hp] at he
  · rwa [hp] at he
  · rw [hp] at he
    exact List.mem_append_left _ he

/-- After a first part that goes well a call can do all that the rest can do. -/
theorem exists_exec_bind {choose : ι → σ → ω}
    (h : p.eval (Program.answers M t choose) s = (.ok a, s')) (os : List ω) :
    ∃ os', (M.exec t (p.bind k) os' s).2 = (M.exec t (k a) os s').2 ∧
      ∀ e ∈ (M.exec t (k a) os s').1, e ∈ (M.exec t (p.bind k) os' s).1 := by
  induction p generalizing s with
  | pure a' =>
    cases h
    exact ⟨os, rfl, fun _ he => he⟩
  | fail err => cases h
  | request c next ih =>
    obtain ⟨os', hos', hmem⟩ := ih _ h
    exact ⟨choose c s :: os', hos', fun e he => List.mem_cons_of_mem _ (hmem e he)⟩

/-- A crash of the first part is a crash of the call. -/
theorem exec_bind_crash (h : (M.exec t p os s).2 = (s', none)) :
    (M.exec t (p.bind k) os s).2 = (s', none) := by
  rw [exec_bind]
  rcases hp : M.exec t p os s with ⟨tr, stop⟩
  rw [hp] at h
  cases h
  rfl

theorem exec_attempt_crash {ε' : Type} (h : (M.exec t p os s).2 = (s', none)) :
    (M.exec t (p.attempt : Program ι ρ ε' (Except ε α)) os s).2 = (s', none) := by
  induction p generalizing s os with
  | pure a => cases h
  | fail e => cases h
  | request c next ih =>
    cases os with
    | nil =>
      cases h
      rfl
    | cons o os => exact ih _ h

/-- Forgetting the result of a program changes nothing but its result. -/
theorem exec_bind_pure (b : β) (p : Program ι ρ ε α) (os : List ω) (s : σ) :
    (M.exec t (p.bind fun _ => .pure b) os s).1 = (M.exec t p os s).1 ∧
      (M.exec t (p.bind fun _ => .pure b) os s).2.1 = (M.exec t p os s).2.1 := by
  rw [exec_bind]
  rcases M.exec t p os s with ⟨tr, s', _ | e | a⟩
  · exact ⟨rfl, rfl⟩
  · exact ⟨rfl, rfl⟩
  · simp [continued, exec]

end Machine
end BardCsi.Effect
