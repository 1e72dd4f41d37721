import BardCsi.Effect.Calls

/-!
A program for one kind of requests as a part of a program for another kind. A machine that
answers the embedded requests as the first machine does runs the embedded program as the first
machine runs the program.
-/
namespace BardCsi.Effect

namespace Program

variable {ι κ : Type} {ρ : κ → Type} {τ ω σ ε ε' α : Type} {f : ι → κ} {g : ε → ε'}

/-- Make the requests of a program through `f`, and report its error through `g`. -/
def embed (f : ι → κ) (g : ε → ε') :
    Program ι (fun c => ρ (f c)) ε α → Program κ ρ ε' α
  | .pure a => .pure a
  | .fail e => .fail (g e)
  | .request c k => .request (f c) fun r => (k r).embed f g

variable {M : Machine ι (fun c => ρ (f c)) τ ω σ} {M' : Machine κ ρ τ ω σ}
variable {K : Contract ι ω σ} {K' : Contract κ ω σ} {p : Program ι (fun c => ρ (f c)) ε α}
variable {Q : Except ε α → σ → Prop} {Q' : Except ε' α → σ → Prop} {t : τ} {s : σ}

/-- An embedded program keeps the contract of the program. -/
theorem Meets.embed (h : p.Meets M t K Q s)
    (hstep : ∀ c o a, M'.step t (f c) o a = M.step t c o a)
    (hrely : ∀ a b, K'.rely a b → K.rely a b) (hinv : ∀ a, K'.inv a ↔ K.inv a)
    (hassume : ∀ c o a, K'.assume (f c) o a → K.assume c o a)
    (hguarantee : ∀ c a b, K.guarantee c a b → K'.guarantee (f c) a b)
    (hok : ∀ x a, Q (.ok x) a → Q' (.ok x) a)
    (herr : ∀ e a, Q (.error e) a → Q' (.error (g e)) a) :
    (p.embed f g).Meets M' t K' Q' s := by
  induction p generalizing s with
  | pure a => exact fun s' hr hi => hok a s' (h s' (hrely s s' hr) ((hinv s').mp hi))
  | fail e => exact fun s' hr hi => herr e s' (h s' (hrely s s' hr) ((hinv s').mp hi))
  | request c k ih =>
    intro s' hr hi o ho
    obtain ⟨hg, hi', hk⟩ := h s' (hrely s s' hr) ((hinv s').mp hi) o (hassume c o s' ho)
    rw [hstep]
    exact ⟨hguarantee c s' _ hg, (hinv _).mpr hi', ih _ hk⟩

theorem embed_bind {β : Type} (p : Program ι (fun c => ρ (f c)) ε α)
    (k : α → Program ι (fun c => ρ (f c)) ε β) :
    (p.bind k).embed f g = (p.embed f g).bind fun a => (k a).embed f g := by
  induction p with
  | pure a => rfl
  | fail e => rfl
  | request c next ih =>
    simp only [bind_request, Program.embed]
    congr 1
    funext r
    exact ih r

theorem Yields.embed {φ : α → Prop} (h : p.Yields φ) : (p.embed f g).Yields φ := by
  induction p with
  | pure a => exact h
  | fail e => trivial
  | request c k ih => exact fun r => ih r (h r)

theorem eval_embed {answer : (c : ι) → σ → ρ (f c) × σ} {answer' : (c : κ) → σ → ρ c × σ}
    (hanswer : ∀ c a, answer' (f c) a = answer c a) :
    (p.embed f g).eval answer' s =
      ((p.eval answer s).1.mapError g, (p.eval answer s).2) := by
  induction p generalizing s with
  | pure a => rfl
  | fail e => rfl
  | request c k ih =>
    simp only [Program.embed, eval, hanswer]
    exact ih _

end Program
end BardCsi.Effect
