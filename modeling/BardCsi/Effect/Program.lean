import Mathlib.Logic.Function.Basic

/-!
Programs that talk to an outside world only through typed requests. A program is
the tree of everything its caller can observe: the next request, and for each
possible reply the program that runs afterwards. Failing is a leaf of its own, so
that an early error return is a short circuit of the bind.
-/
namespace BardCsi.Effect

inductive Program (ι : Type) (ρ : ι → Type) (ε α : Type) : Type where
  | pure (a : α)
  | fail (e : ε)
  | request (c : ι) (k : ρ c → Program ι ρ ε α)

namespace Program

variable {ι : Type} {ρ : ι → Type} {ε α β γ : Type} {allowed : ι → Prop} {p : Program ι ρ ε α}

def bind (p : Program ι ρ ε α) (k : α → Program ι ρ ε β) : Program ι ρ ε β :=
  match p with
  | .pure a => k a
  | .fail e => .fail e
  | .request c next => .request c fun r => (next r).bind k

instance : Monad (Program ι ρ ε) where
  pure := .pure
  bind := .bind

/-- One request, whose reply is the result. -/
def ask (c : ι) : Program ι ρ ε (ρ c) := .request c .pure

/-- One request, made once more when the first reply calls for it. -/
def retryOnce (c : ι) (again : ρ c → Bool) : Program ι ρ ε (ρ c) :=
  (ask c).bind fun r => if again r then ask c else pure r

/-- Run a program and hand its error, if any, to the caller as a value. -/
def attempt {ε' : Type} : Program ι ρ ε α → Program ι ρ ε' (Except ε α)
  | .pure a => .pure (.ok a)
  | .fail e => .pure (.error e)
  | .request c k => .request c fun r => (k r).attempt

/-- The result of a program that has come to its end. -/
def returned : Program ι ρ ε α → Option α
  | .pure a => some a
  | .fail _ => none
  | .request _ _ => none

@[simp] theorem pure_eq (a : α) : (Pure.pure a : Program ι ρ ε α) = .pure a := rfl

@[simp] theorem bind_eq (p : Program ι ρ ε α) (k : α → Program ι ρ ε β) :
    p >>= k = p.bind k := rfl

@[simp] theorem bind_pure (a : α) (k : α → Program ι ρ ε β) : (pure a).bind k = k a := rfl

@[simp] theorem bind_fail (e : ε) (k : α → Program ι ρ ε β) :
    (fail e : Program ι ρ ε α).bind k = .fail e := rfl

@[simp] theorem bind_request (c : ι) (next : ρ c → Program ι ρ ε α)
    (k : α → Program ι ρ ε β) :
    (request c next).bind k = .request c fun r => (next r).bind k := rfl

@[simp] theorem bind_ask (c : ι) (k : ρ c → Program ι ρ ε β) :
    (ask c).bind k = .request c k := rfl

theorem bind_assoc (p : Program ι ρ ε α) (f : α → Program ι ρ ε β)
    (g : β → Program ι ρ ε γ) : (p.bind f).bind g = p.bind fun a => (f a).bind g := by
  induction p with
  | pure a => rfl
  | fail e => rfl
  | request c next ih =>
    simp only [bind_request]
    congr 1
    funext r
    exact ih r

theorem bind_pure_right (p : Program ι ρ ε α) : p.bind pure = p := by
  induction p with
  | pure a => rfl
  | fail e => rfl
  | request c next ih =>
    simp only [bind_request]
    congr 1
    funext r
    exact ih r

/-- Every request the program can ever make satisfies `allowed`. -/
def Uses (allowed : ι → Prop) : Program ι ρ ε α → Prop
  | .pure _ => True
  | .fail _ => True
  | .request c k => allowed c ∧ ∀ r, (k r).Uses allowed

theorem Uses.bind {k : α → Program ι ρ ε β} (hp : p.Uses allowed) (hk : ∀ a, (k a).Uses allowed) :
    (p.bind k).Uses allowed := by
  induction p with
  | pure a => exact hk a
  | fail e => trivial
  | request c next ih => exact ⟨hp.1, fun r => ih r (hp.2 r)⟩

theorem Uses.pure (a : α) : (Program.pure a : Program ι ρ ε α).Uses allowed :=
  trivial

theorem Uses.fail (e : ε) : (Program.fail e : Program ι ρ ε α).Uses allowed :=
  trivial

theorem Uses.ask {c : ι} (h : allowed c) :
    (Program.ask c : Program ι ρ ε (ρ c)).Uses allowed :=
  ⟨h, fun _ => trivial⟩

theorem Uses.ite {b : Prop} [Decidable b] {q : Program ι ρ ε α} (hp : p.Uses allowed)
    (hq : q.Uses allowed) : (if b then p else q).Uses allowed := by
  split
  · exact hp
  · exact hq

theorem Uses.attempt {ε' : Type} (h : p.Uses allowed) :
    (p.attempt : Program ι ρ ε' (Except ε α)).Uses allowed := by
  induction p with
  | pure a => trivial
  | fail e => trivial
  | request c k ih => exact ⟨h.1, fun r => ih r (h.2 r)⟩

theorem Uses.any (p : Program ι ρ ε α) : p.Uses fun _ => True := by
  induction p with
  | pure a => trivial
  | fail e => trivial
  | request c k ih => exact ⟨trivial, ih⟩

theorem Uses.mono {allowed' : ι → Prop} (h : p.Uses allowed) (himp : ∀ c, allowed c → allowed' c) :
    p.Uses allowed' := by
  induction p with
  | pure a => trivial
  | fail e => trivial
  | request c k ih => exact ⟨himp c h.1, fun r => ih r (h.2 r)⟩

theorem Uses.and {allowed' : ι → Prop} (h : p.Uses allowed) (h' : p.Uses allowed') :
    p.Uses fun c => allowed c ∧ allowed' c := by
  induction p with
  | pure a => trivial
  | fail e => trivial
  | request c k ih => exact ⟨⟨h.1, h'.1⟩, fun r => ih r (h.2 r) (h'.2 r)⟩

end Program

/-! What a call returns. -/

section Results

variable {ε ε' α β : Type}

theorem bind_eq_ok {x : Except ε α} {f : α → Except ε β} {b : β} :
    x >>= f = .ok b ↔ ∃ a, x = .ok a ∧ f a = .ok b := by
  cases x with
  | error e => simp [bind, Except.bind]
  | ok a => simp [bind, Except.bind]

theorem mapError_eq_ok {x : Except ε α} {f : ε → ε'} {a : α} :
    x.mapError f = .ok a ↔ x = .ok a := by
  cases x with
  | error e => exact iff_of_false nofun nofun
  | ok a =>
    constructor
    all_goals
      intro h
      cases h
      rfl

theorem succeeded_of_toOption {r : Option (Except ε α)} {a : α}
    (h : r.bind Except.toOption = some a) : r = some (.ok a) := by
  obtain ⟨e, rfl, he⟩ := Option.bind_eq_some_iff.mp h
  cases e with
  | error e => cases he
  | ok a' => rw [Option.some.inj he]

theorem succeeded_of_map {r : Option (Except ε α)} {f : α → β} {b : β}
    (h : (r.bind Except.toOption).map f = some b) : ∃ a, r = some (.ok a) ∧ f a = b := by
  obtain ⟨a, ha, hf⟩ := Option.map_eq_some_iff.mp h
  exact ⟨a, succeeded_of_toOption ha, hf⟩

end Results

end BardCsi.Effect
