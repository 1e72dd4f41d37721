import BardCsi.Effect.Program

/-!
Machines that answer the requests of a program, and contracts that a program keeps
against them. Every answer depends on an outcome chosen by the environment, so a
statement over all outcomes covers every failure and every choice the outside world
can make. A contract has an invariant, a rely relation for what others may change
between two requests, an assumption on the environment's choices, and a guarantee
that each request has to give.
-/
namespace BardCsi.Effect

/-- `τ` names the caller, `ω` is the environment's choice, `σ` the shared state. -/
structure Machine (ι : Type) (ρ : ι → Type) (τ ω σ : Type) where
  step : τ → (c : ι) → ω → σ → ρ c × σ

/-- What the environment decides about a request: whether it fails, and whether a request that
fails took effect. -/
structure Fate (φ : Type) where
  fault : Option φ
  landed : Bool
deriving DecidableEq

def Fate.ok {φ : Type} : Fate φ := ⟨none, false⟩

/-- A request that works, or one that has the reply of a failure and took effect or not. -/
def faulty {β σ : Type} (failed : Option β) (landed : Bool) (works : β × σ) (s : σ) : β × σ :=
  match failed with
  | none => works
  | some r => (r, if landed then works.2 else s)

section Faulty

variable {φ β σ : Type}

theorem faulty_snd (failed : Option β) (landed : Bool) (works : β × σ) (s : σ) :
    (faulty failed landed works s).2 = if failed.isNone || landed then works.2 else s := by
  cases failed with
  | none => rfl
  | some r => rfl

theorem faulty_state (failed : Option β) (landed : Bool) (works : β × σ) (s : σ) :
    (faulty failed landed works s).2 = s ∨ (faulty failed landed works s).2 = works.2 := by
  rw [faulty_snd]
  split
  · exact .inr rfl
  · exact .inl rfl

theorem faulty_cases (fault : Option φ) (failed : φ → Option β) (landed : Bool) (works : β × σ)
    (s : σ) :
    faulty (fault.bind failed) landed works s = works ∨
      ∃ f, fault = some f ∧ failed f = some (faulty (fault.bind failed) landed works s).1 ∧
        ((faulty (fault.bind failed) landed works s).2 = s ∨
          (faulty (fault.bind failed) landed works s).2 = works.2 ∧ landed = true) := by
  cases fault with
  | none => exact .inl rfl
  | some f =>
    cases hr : failed f with
    | none => exact .inl (by simp [faulty, hr])
    | some r =>
      refine .inr ⟨f, rfl, by simp [faulty, hr], ?_⟩
      cases landed with
      | false => exact .inl (by simp [faulty, hr])
      | true => exact .inr ⟨by simp [faulty, hr], rfl⟩

end Faulty

structure Contract (ι ω σ : Type) where
  inv : σ → Prop
  rely : σ → σ → Prop
  assume : ι → ω → σ → Prop
  guarantee : ι → σ → σ → Prop
  rely_refl : ∀ s, rely s s
  rely_trans : ∀ {a b c}, rely a b → rely b c → rely a c

/-- What a single caller keeps when nobody else touches the state. -/
def Contract.alone {ι ω σ : Type} (inv : σ → Prop) (assume : ι → ω → σ → Prop)
    (guarantee : ι → σ → σ → Prop) : Contract ι ω σ where
  inv := inv
  rely := Eq
  assume := assume
  guarantee := guarantee
  rely_refl _ := rfl
  rely_trans h k := h.trans k

structure Event (ι ω σ : Type) where
  cmd : ι
  outcome : ω
  before : σ

variable {ι : Type} {ρ : ι → Type} {τ ω σ ε α β : Type}

namespace Machine

def after (M : Machine ι ρ τ ω σ) (t : τ) (e : Event ι ω σ) : σ :=
  (M.step t e.cmd e.outcome e.before).2

/-- Run a program against a list of outcomes. A list that ends early is a crash. -/
def exec (M : Machine ι ρ τ ω σ) (t : τ) :
    Program ι ρ ε α → List ω → σ → List (Event ι ω σ) × σ × Option (Except ε α)
  | .pure a, _, s => ([], s, some (.ok a))
  | .fail e, _, s => ([], s, some (.error e))
  | .request _ _, [], s => ([], s, none)
  | .request c k, o :: os, s =>
      let r := M.step t c o s
      let x := M.exec t (k r.1) os r.2
      (⟨c, o, s⟩ :: x.1, x.2)

end Machine

namespace Program

/-- From state `s` the program keeps the contract and ends in `Q`. -/
def Meets (M : Machine ι ρ τ ω σ) (t : τ) (K : Contract ι ω σ) :
    Program ι ρ ε α → (Except ε α → σ → Prop) → σ → Prop
  | .pure a, Q, s => ∀ s', K.rely s s' → K.inv s' → Q (.ok a) s'
  | .fail e, Q, s => ∀ s', K.rely s s' → K.inv s' → Q (.error e) s'
  | .request c k, Q, s => ∀ s', K.rely s s' → K.inv s' → ∀ o, K.assume c o s' →
      K.guarantee c s' (M.step t c o s').2 ∧ K.inv (M.step t c o s').2 ∧
        (k (M.step t c o s').1).Meets M t K Q (M.step t c o s').2

variable {M : Machine ι ρ τ ω σ} {t : τ} {K : Contract ι ω σ}
variable {p : Program ι ρ ε α} {Q Q' : Except ε α → σ → Prop} {s s' : σ}

theorem Meets.mono (h : p.Meets M t K Q s)
    (hQ : ∀ r s', K.inv s' → Q r s' → Q' r s') : p.Meets M t K Q' s := by
  induction p generalizing s with
  | pure a => exact fun s' hr hi => hQ _ _ hi (h s' hr hi)
  | fail e => exact fun s' hr hi => hQ _ _ hi (h s' hr hi)
  | request c k ih =>
    intro s' hr hi o ho
    obtain ⟨hg, hi', hk⟩ := h s' hr hi o ho
    exact ⟨hg, hi', ih _ hk⟩

/-- Interference before a program starts does not break its contract. -/
theorem Meets.rely (h : p.Meets M t K Q s) (hr : K.rely s s') : p.Meets M t K Q s' := by
  cases p with
  | pure a => exact fun s'' hr' hi => h s'' (K.rely_trans hr hr') hi
  | fail e => exact fun s'' hr' hi => h s'' (K.rely_trans hr hr') hi
  | request c k => exact fun s'' hr' hi => h s'' (K.rely_trans hr hr') hi

/-- A contract may be proved after the interference that precedes the program. -/
theorem Meets.of_rely (h : ∀ s', K.rely s s' → K.inv s' → p.Meets M t K Q s') :
    p.Meets M t K Q s := by
  cases p with
  | pure a => exact fun s' hr hi => h s' hr hi s' (K.rely_refl s') hi
  | fail e => exact fun s' hr hi => h s' hr hi s' (K.rely_refl s') hi
  | request c k => exact fun s' hr hi => h s' hr hi s' (K.rely_refl s') hi

/-- A program may be followed under a stronger invariant that interference keeps. -/
theorem Meets.narrow {J : σ → Prop} (h : p.Meets M t { K with inv := J } Q s) (hs : J s)
    (hrely : ∀ a b, K.rely a b → J a → J b) (hJ : ∀ a, J a → K.inv a) : p.Meets M t K Q s := by
  induction p generalizing s with
  | pure a => exact fun s' hr _ => h s' hr (hrely s s' hr hs)
  | fail e => exact fun s' hr _ => h s' hr (hrely s s' hr hs)
  | request c k ih =>
    intro s' hr _ o ho
    obtain ⟨hg, hi', hk⟩ := h s' hr (hrely s s' hr hs) o ho
    exact ⟨hg, hJ _ hi', ih _ hk hi'⟩

/-- Two contracts kept at once. -/
theorem Meets.both {K₁ K₂ : Contract ι ω σ} {Q₁ Q₂ : Except ε α → σ → Prop}
    (h₁ : p.Meets M t K₁ Q₁ s) (h₂ : p.Meets M t K₂ Q₂ s)
    (hrely : ∀ a b, K.rely a b → K₁.rely a b ∧ K₂.rely a b)
    (hinv : ∀ a, K.inv a ↔ K₁.inv a ∧ K₂.inv a)
    (hassume : ∀ c o a, K.assume c o a → K₁.assume c o a ∧ K₂.assume c o a)
    (hguarantee : ∀ c a b, K₁.guarantee c a b → K₂.guarantee c a b → K.guarantee c a b) :
    p.Meets M t K (fun r a => Q₁ r a ∧ Q₂ r a) s := by
  induction p generalizing s with
  | pure a =>
    intro s' hr hi
    exact ⟨h₁ s' (hrely s s' hr).1 ((hinv s').mp hi).1, h₂ s' (hrely s s' hr).2 ((hinv s').mp hi).2⟩
  | fail e =>
    intro s' hr hi
    exact ⟨h₁ s' (hrely s s' hr).1 ((hinv s').mp hi).1, h₂ s' (hrely s s' hr).2 ((hinv s').mp hi).2⟩
  | request c k ih =>
    intro s' hr hi o ho
    obtain ⟨hg₁, hi₁, hk₁⟩ := h₁ s' (hrely s s' hr).1 ((hinv s').mp hi).1 o (hassume c o s' ho).1
    obtain ⟨hg₂, hi₂, hk₂⟩ := h₂ s' (hrely s s' hr).2 ((hinv s').mp hi).2 o (hassume c o s' ho).2
    exact ⟨hguarantee c s' _ hg₁ hg₂, (hinv _).mpr ⟨hi₁, hi₂⟩, ih _ hk₁ hk₂⟩

/-- Two postconditions of one run. -/
theorem Meets.and {Q₁ Q₂ : Except ε α → σ → Prop} (h₁ : p.Meets M t K Q₁ s)
    (h₂ : p.Meets M t K Q₂ s) : p.Meets M t K (fun r a => Q₁ r a ∧ Q₂ r a) s :=
  h₁.both h₂ (fun _ _ h => ⟨h, h⟩) (fun _ => (and_self_iff).symm) (fun _ _ _ h => ⟨h, h⟩)
    fun _ _ _ h _ => h

/-- The postcondition under which `k` may follow. -/
def Then (M : Machine ι ρ τ ω σ) (t : τ) (K : Contract ι ω σ) (k : α → Program ι ρ ε β)
    (Q : Except ε β → σ → Prop) : Except ε α → σ → Prop
  | .ok a, s => (k a).Meets M t K Q s
  | .error e, s => Q (.error e) s

theorem Meets.bind {k : α → Program ι ρ ε β} {Q : Except ε β → σ → Prop}
    (h : p.Meets M t K (Then M t K k Q) s) : (p.bind k).Meets M t K Q s := by
  induction p generalizing s with
  | pure a => exact Meets.of_rely h
  | fail e => exact h
  | request c next ih =>
    intro s' hr hi o ho
    obtain ⟨hg, hi', hk⟩ := h s' hr hi o ho
    exact ⟨hg, hi', ih _ hk⟩

/-- Sequencing with an intermediate assertion. -/
theorem Meets.andThen {k : α → Program ι ρ ε β} {P : Except ε α → σ → Prop}
    {Q : Except ε β → σ → Prop} (h : p.Meets M t K P s)
    (hok : ∀ a s', K.inv s' → P (.ok a) s' → (k a).Meets M t K Q s')
    (herr : ∀ e s', K.inv s' → P (.error e) s' → Q (.error e) s') :
    (p.bind k).Meets M t K Q s := by
  apply Meets.bind
  apply h.mono
  intro r s' hi hP
  cases r with
  | ok a => exact hok a s' hi hP
  | error e => exact herr e s' hi hP

/-- A postcondition with one assertion for results and one for errors. -/
def Ends (P : α → σ → Prop) (E : ε → σ → Prop) : Except ε α → σ → Prop
  | .ok a, s => P a s
  | .error e, s => E e s

/-- The program does not fail. -/
abbrev Returns (P : α → σ → Prop) : Except ε α → σ → Prop := Ends P fun _ _ => False

/-- Nothing is said about failures. -/
abbrev IfOk (P : α → σ → Prop) : Except ε α → σ → Prop := Ends P fun _ _ => True

theorem Meets.ifOk {P : σ → Prop} (h : p.Meets M t K (fun _ => P) s) :
    p.Meets M t K (IfOk fun _ => P) s := by
  apply h.mono
  intro r s' _ hP
  cases r with
  | ok a => exact hP
  | error e => trivial

theorem Meets.ite {b : Prop} [Decidable b] {q : Program ι ρ ε α} (hp : b → p.Meets M t K Q s)
    (hq : ¬b → q.Meets M t K Q s) : (if b then p else q).Meets M t K Q s := by
  by_cases hb : b
  · rw [if_pos hb]
    exact hp hb
  · rw [if_neg hb]
    exact hq hb

theorem Meets.ends {P : α → σ → Prop} {E : ε → σ → Prop} {P' : β → σ → Prop}
    {k : α → Program ι ρ ε β} (h : p.Meets M t K (Ends P E) s)
    (hk : ∀ a s', K.inv s' → P a s' → (k a).Meets M t K (Ends P' E) s') :
    (p.bind k).Meets M t K (Ends P' E) s :=
  h.andThen hk fun _ _ _ he => he

theorem Meets.returns {P : α → σ → Prop} {Q : Except ε β → σ → Prop}
    {k : α → Program ι ρ ε β} (h : p.Meets M t K (Returns P) s)
    (hk : ∀ a s', K.inv s' → P a s' → (k a).Meets M t K Q s') :
    (p.bind k).Meets M t K Q s :=
  h.andThen hk fun _ _ _ he => he.elim

theorem Meets.attempt {ε' : Type} {Q : Except ε' (Except ε α) → σ → Prop}
    (h : p.Meets M t K (fun r => Q (.ok r)) s) :
    (p.attempt : Program ι ρ ε' (Except ε α)).Meets M t K Q s := by
  induction p generalizing s with
  | pure a => exact h
  | fail e => exact h
  | request c k ih =>
    intro s' hr hi o ho
    obtain ⟨hg, hi', hk⟩ := h s' hr hi o ho
    exact ⟨hg, hi', ih _ hk⟩

/-- The caller of a program handles its error. -/
theorem Meets.tryThen {ε' : Type} {P : α → σ → Prop} {E : ε → σ → Prop}
    {k : Except ε α → Program ι ρ ε' β} {Q : Except ε' β → σ → Prop}
    (h : p.Meets M t K (Ends P E) s)
    (hok : ∀ a s', K.inv s' → P a s' → (k (.ok a)).Meets M t K Q s')
    (herr : ∀ e s', K.inv s' → E e s' → (k (.error e)).Meets M t K Q s') :
    (p.attempt.bind k).Meets M t K Q s := by
  apply Meets.bind
  apply Meets.attempt
  apply h.mono
  intro r s' hi hr
  cases r with
  | ok a => exact hok a s' hi hr
  | error e => exact herr e s' hi hr

/-- The caller of a program ignores how it ends. -/
theorem Meets.tryAnyway {ε' : Type} {P : σ → Prop} {k : Except ε α → Program ι ρ ε' β}
    {Q : Except ε' β → σ → Prop} (h : p.Meets M t K (fun _ => P) s)
    (hk : ∀ r s', K.inv s' → P s' → (k r).Meets M t K Q s') :
    (p.attempt.bind k).Meets M t K Q s := by
  apply Meets.bind
  apply Meets.attempt
  exact h.mono hk

/-- What interference and every guaranteed request keep is kept by a whole program. -/
theorem Meets.keeping {R : σ → Prop} (h : p.Meets M t K Q s) (hs : R s)
    (hrely : ∀ a b, K.rely a b → R a → R b)
    (hown : ∀ c a b, K.guarantee c a b → R a → R b) :
    p.Meets M t K (fun r s' => Q r s' ∧ R s') s := by
  induction p generalizing s with
  | pure a => exact fun s' hr hi => ⟨h s' hr hi, hrely s s' hr hs⟩
  | fail e => exact fun s' hr hi => ⟨h s' hr hi, hrely s s' hr hs⟩
  | request c k ih =>
    intro s' hr hi o ho
    obtain ⟨hg, hi', hk⟩ := h s' hr hi o ho
    exact ⟨hg, hi', ih _ hk (hown c s' _ hg (hrely s s' hr hs))⟩

/-- A program that only makes requests of a kind that keeps `P` ends in `P`. -/
theorem Meets.of_uses {allowed : ι → Prop} {P : σ → Prop} (hu : p.Uses allowed) (hs : P s)
    (hrely : ∀ a b, K.rely a b → P a → P b)
    (hstep : ∀ c o a, allowed c → K.inv a → K.assume c o a → P a →
      K.guarantee c a (M.step t c o a).2 ∧ K.inv (M.step t c o a).2 ∧ P (M.step t c o a).2) :
    p.Meets M t K (fun _ s' => P s') s := by
  induction p generalizing s with
  | pure a => exact fun s' hr _ => hrely s s' hr hs
  | fail e => exact fun s' hr _ => hrely s s' hr hs
  | request c k ih =>
    intro s' hr hi o ho
    obtain ⟨hg, hi', hP⟩ := hstep c o s' hu.1 hi ho (hrely s s' hr hs)
    exact ⟨hg, hi', ih _ (hu.2 _) hP⟩

@[simp] theorem meets_pure_alone {inv : σ → Prop} {assume : ι → ω → σ → Prop}
    {guarantee : ι → σ → σ → Prop} {a : α} :
    (pure a : Program ι ρ ε α).Meets M t (.alone inv assume guarantee) Q s ↔
      (inv s → Q (.ok a) s) := by
  simp [Meets, Contract.alone]

@[simp] theorem meets_fail_alone {inv : σ → Prop} {assume : ι → ω → σ → Prop}
    {guarantee : ι → σ → σ → Prop} {e : ε} :
    (fail e : Program ι ρ ε α).Meets M t (.alone inv assume guarantee) Q s ↔
      (inv s → Q (.error e) s) := by
  simp [Meets, Contract.alone]

theorem meets_request_alone {inv : σ → Prop} {assume : ι → ω → σ → Prop}
    {guarantee : ι → σ → σ → Prop} {c : ι} {k : ρ c → Program ι ρ ε α} :
    (request c k).Meets M t (.alone inv assume guarantee) Q s ↔
      (inv s → ∀ o, assume c o s → guarantee c s (M.step t c o s).2 ∧
        inv (M.step t c o s).2 ∧
        (k (M.step t c o s).1).Meets M t (.alone inv assume guarantee) Q
          (M.step t c o s).2) := by
  simp [Meets, Contract.alone]

/-- A request whose reply and new state are known. -/
theorem Meets.answered {c : ι} {k : ρ c → Program ι ρ ε α}
    (h : ∀ s', K.rely s s' → K.inv s' → ∀ o, K.assume c o s' →
      ∃ x s'', (M.step t c o s').1 = x ∧ (M.step t c o s').2 = s'' ∧
        K.guarantee c s' s'' ∧ K.inv s'' ∧ (k x).Meets M t K Q s'') :
    (request c k).Meets M t K Q s := by
  intro s' hr hi o ho
  obtain ⟨x, s'', rfl, rfl, hrest⟩ := h s' hr hi o ho
  exact hrest

/-- A single request, with an assertion about its reply that interference keeps. -/
theorem Meets.ask {c : ι} {P : ρ c → σ → Prop}
    (hstable : ∀ x a b, K.rely a b → P x a → P x b)
    (hstep : ∀ a o, K.rely s a → K.inv a → K.assume c o a →
      K.guarantee c a (M.step t c o a).2 ∧ K.inv (M.step t c o a).2 ∧
        P (M.step t c o a).1 (M.step t c o a).2) :
    (Program.ask c : Program ι ρ ε (ρ c)).Meets M t K (Returns P) s := by
  intro s' hr hi o ho
  obtain ⟨hg, hi', hP⟩ := hstep s' o hr hi ho
  exact ⟨hg, hi', fun s'' hr' _ => hstable _ _ _ hr' hP⟩

/-- A request whose effect, if any, is one that the caller tolerates from others. -/
def Quiet (M : Machine ι ρ τ ω σ) (t : τ) (K : Contract ι ω σ) (c : ι) : Prop :=
  ∀ s o, K.inv s → K.assume c o s → K.guarantee c s (M.step t c o s).2 ∧
    K.inv (M.step t c o s).2 ∧ K.rely s (M.step t c o s).2

/-- What is known before a quiet request is known after it. -/
theorem Meets.quiet {c : ι} {k : ρ c → Program ι ρ ε α} (hc : Quiet M t K c)
    (h : ∀ s', K.rely s s' → K.inv s' → ∀ o, K.assume c o s' →
      (k (M.step t c o s').1).Meets M t K Q s') :
    (request c k).Meets M t K Q s := by
  intro s' hr hi o ho
  obtain ⟨hg, hi', hr'⟩ := hc s' o hi ho
  exact ⟨hg, hi', (h s' hr hi o ho).rely hr'⟩

/-- The reply of a repeated request is the reply of its last attempt. -/
theorem Meets.retryOnce {c : ι} {again : ρ c → Bool} {P : ρ c → σ → Prop}
    (hstable : ∀ x a b, K.rely a b → P x a → P x b)
    (hstep : ∀ a o, K.inv a → K.assume c o a → K.guarantee c a (M.step t c o a).2 ∧
      K.inv (M.step t c o a).2 ∧ P (M.step t c o a).1 (M.step t c o a).2) :
    (Program.retryOnce c again : Program ι ρ ε (ρ c)).Meets M t K (Returns P) s := by
  apply (Meets.ask hstable fun a o _ => hstep a o).returns
  intro reply s' _ hP
  refine Meets.ite (fun _ => ?_) fun _ => ?_
  · exact Meets.ask hstable fun a o _ => hstep a o
  · exact fun s'' hr _ => hstable _ _ _ hr hP

/-- Every attempt may be the last one, and an attempt that is made again was quiet. -/
theorem Meets.attempts {c : ι} {again : ρ c → Bool} {P : ρ c → σ → Prop}
    (hstable : ∀ x a b, K.rely a b → P x a → P x b)
    (hstep : ∀ a o, K.rely s a → K.inv a → K.assume c o a →
      K.guarantee c a (M.step t c o a).2 ∧ K.inv (M.step t c o a).2 ∧
        P (M.step t c o a).1 (M.step t c o a).2 ∧
        (again (M.step t c o a).1 = true → K.rely a (M.step t c o a).2)) :
    (Program.retryOnce c again : Program ι ρ ε (ρ c)).Meets M t K (Returns P) s := by
  apply Meets.returns (P := fun x a => P x a ∧ (again x = true → K.rely s a))
  · apply Meets.ask
    · exact fun x a b hr h => ⟨hstable x a b hr h.1, fun ha => K.rely_trans (h.2 ha) hr⟩
    · intro a o hr hi ho
      obtain ⟨hg, hi', hP, hagain⟩ := hstep a o hr hi ho
      exact ⟨hg, hi', hP, fun ha => K.rely_trans hr (hagain ha)⟩
  · intro x a _ ⟨hP, hr⟩
    refine Meets.ite (fun ha => ?_) fun _ b hb _ => hstable x a b hb hP
    apply Meets.ask hstable
    intro b o hb hi ho
    obtain ⟨hg, hi', hP', _⟩ := hstep b o (K.rely_trans (hr ha) hb) hi ho
    exact ⟨hg, hi', hP'⟩

theorem Meets.quiet_retryOnce {c : ι} {again : ρ c → Bool} {k : ρ c → Program ι ρ ε α}
    (hc : Quiet M t K c)
    (h : ∀ s', K.rely s s' → K.inv s' → ∀ o, (k (M.step t c o s').1).Meets M t K Q s') :
    ((Program.retryOnce c again).bind k).Meets M t K Q s := by
  apply Meets.quiet hc
  intro s' hr hi o _
  apply Meets.bind
  refine Meets.ite (fun _ => ?_) fun _ => ?_
  · apply Meets.quiet hc
    intro s'' hr' hi' o' _
    exact fun u hu _ => (h s'' (K.rely_trans hr hr') hi' o').rely hu
  · exact fun u hu _ => (h s' hr hi o).rely hu

/-- A whole run of a program that meets its contract: if the environment keeps to the
assumption at every request, every request gives its guarantee, the invariant holds at
the end (crash or not), and a result satisfies the postcondition. -/
theorem Meets.exec (h : p.Meets M t K Q s) (hi : K.inv s) (os : List ω)
    (ha : ∀ e ∈ (M.exec t p os s).1, K.assume e.cmd e.outcome e.before) :
    (∀ e ∈ (M.exec t p os s).1, K.guarantee e.cmd e.before (M.after t e)) ∧
      K.inv (M.exec t p os s).2.1 ∧
      ∀ r, (M.exec t p os s).2.2 = some r → Q r (M.exec t p os s).2.1 := by
  induction p generalizing s os with
  | pure a => simpa [Machine.exec, hi] using h s (K.rely_refl s) hi
  | fail e => simpa [Machine.exec, hi] using h s (K.rely_refl s) hi
  | request c k ih =>
    cases os with
    | nil => simp [Machine.exec, hi]
    | cons o os =>
      simp only [Machine.exec, List.forall_mem_cons] at ha ⊢
      obtain ⟨hg, hi', hk⟩ := h s (K.rely_refl s) hi o ha.1
      obtain ⟨htrace, hfin, hres⟩ := ih _ hk hi' os ha.2
      exact ⟨⟨hg, htrace⟩, hfin, hres⟩

end Program
end BardCsi.Effect
