import Mathlib.Data.Nat.Notation
import Mathlib.Logic.Function.Basic

/-!
Chains of parents, for things that each have at most one parent. Cutting a thing off its parent
shortens chains, and a new thing lengthens only its own.
-/
namespace BardCsi.Ancestry

variable {α : Type} {parent : α → Option α} {x y : α} {n : ℕ}

/-- `x` has `n` ancestors. -/
inductive Depth (parent : α → Option α) : α → ℕ → Prop
  | root {x : α} (hx : parent x = none) : Depth parent x 0
  | child {x p : α} {n : ℕ} (hx : parent x = some p) (hp : Depth parent p n) :
      Depth parent x (n + 1)

/-- The number of ancestors of `x`, as far as `k` of them. -/
def climb (parent : α → Option α) : ℕ → α → ℕ
  | 0, _ => 0
  | k + 1, x =>
      match parent x with
      | none => 0
      | some p => climb parent k p + 1

theorem Depth.climb (h : Depth parent x n) (k : ℕ) : Ancestry.climb parent k x = min n k := by
  induction h generalizing k with
  | root hx =>
    cases k with
    | zero => rfl
    | succ k => simp [Ancestry.climb, hx]
  | child hx _ ih =>
    cases k with
    | zero => rfl
    | succ k => simp [Ancestry.climb, hx, ih]

variable [DecidableEq α]

theorem Depth.cut (h : Depth parent x n) (y : α) :
    ∃ m ≤ n, Depth (Function.update parent y none) x m := by
  induction h with
  | root hx =>
    refine ⟨0, Nat.le_refl _, .root ?_⟩
    rw [Function.update_apply, hx, ite_self]
  | @child x p n hx _ ih =>
    obtain ⟨m, hm, hp⟩ := ih
    by_cases hy : x = y
    · exact ⟨0, Nat.zero_le _, .root (by rw [hy, Function.update_self])⟩
    · exact ⟨m + 1, Nat.succ_le_succ hm, .child (by rwa [Function.update_of_ne hy]) hp⟩

/-- A thing that is nobody's parent may get another parent. -/
theorem Depth.graft (h : Depth parent x n) (hx : x ≠ y) (hy : ∀ z, parent z ≠ some y)
    (q : Option α) : Depth (Function.update parent y q) x n := by
  induction h with
  | root hroot => exact .root (by rwa [Function.update_of_ne hx])
  | @child x p n hp _ ih =>
    refine .child (by rwa [Function.update_of_ne hx]) (ih fun hpy => ?_)
    exact hy x (hpy ▸ hp)

end BardCsi.Ancestry
