import Mathlib.Logic.Function.Basic
import Mathlib.Tactic.SplitIfs

/-!
Finite maps as association lists. A setting replaces every earlier setting of the same
key, so the list is also the enumeration of the map.
-/
namespace BardCsi.Assoc

variable {α β : Type} [DecidableEq α] {l : List (α × β)} {a : α}

def get : List (α × β) → α → Option β
  | [], _ => none
  | (k, v) :: rest, a => if k = a then some v else get rest a

def erase (l : List (α × β)) (a : α) : List (α × β) := l.filter fun x => x.1 ≠ a

def set (l : List (α × β)) (a : α) (b : β) : List (α × β) := (a, b) :: erase l a

/-- The order in which a loop over a map takes its entries. -/
structure MapOrder (γ : Type) where
  arrange : List γ → List γ
  perm : ∀ l, (arrange l).Perm l

theorem mem_of_get {b : β} (h : get l a = some b) :
    (a, b) ∈ l := by
  induction l with
  | nil => simp [get] at h
  | cons x rest ih =>
    obtain ⟨k, v⟩ := x
    simp only [get] at h
    split_ifs at h with hk
    · obtain rfl := Option.some.inj h
      simp [hk]
    · exact List.mem_cons_of_mem _ (ih h)

theorem get_eq_none (h : get l a = none) (b : β) :
    (a, b) ∉ l := by
  induction l with
  | nil => simp
  | cons x rest ih =>
    obtain ⟨k, v⟩ := x
    simp only [get] at h
    split_ifs at h with hk
    simp only [List.mem_cons, Prod.mk.injEq, not_or, not_and]
    exact ⟨fun h' => absurd h'.symm hk, ih h⟩

@[simp] theorem mem_erase {x : α × β} :
    x ∈ erase l a ↔ x ∈ l ∧ x.1 ≠ a := by
  simp [erase]

@[simp] theorem mem_set {b : β} {x : α × β} :
    x ∈ set l a b ↔ x = (a, b) ∨ x ∈ l ∧ x.1 ≠ a := by
  simp [set]

@[simp] theorem get_erase_self (l : List (α × β)) (a : α) : get (erase l a) a = none := by
  induction l with
  | nil => rfl
  | cons x rest ih =>
    obtain ⟨k, v⟩ := x
    by_cases hk : k = a
    · simpa [erase, hk] using ih
    · simpa [erase, hk, get] using ih

@[simp] theorem get_erase_of_ne {a' : α} (h : a' ≠ a) :
    get (erase l a) a' = get l a' := by
  induction l with
  | nil => rfl
  | cons x rest ih =>
    obtain ⟨k, v⟩ := x
    by_cases hk : k = a
    · have hne : k ≠ a' := fun h' => h (h'.symm.trans hk)
      simpa [erase, hk, get, Ne.symm h] using ih
    · by_cases hk' : k = a'
      · simp [erase, hk', get, h]
      · simpa [erase, hk, get, hk'] using ih

@[simp] theorem get_set_self (l : List (α × β)) (a : α) (b : β) :
    get (set l a b) a = some b := by
  simp [set, get]

@[simp] theorem get_set_of_ne {a' : α} (b : β) (h : a' ≠ a) :
    get (set l a b) a' = get l a' := by
  simp [set, get, Ne.symm h, get_erase_of_ne h]

/-- Dropping keys does not uncover anything. -/
theorem get_filter_key (l : List (α × β)) (keep : α → Bool) (a : α) :
    get (l.filter fun x => keep x.1) a = if keep a then get l a else none := by
  induction l with
  | nil => simp [get]
  | cons x rest ih =>
    obtain ⟨k, v⟩ := x
    by_cases hk : k = a
    · subst hk
      cases hkeep : keep k with
      | true => simp [hkeep, get]
      | false => simpa [hkeep] using ih
    · cases hkeep : keep k with
      | true => simpa [hkeep, get, hk] using ih
      | false => simpa [hkeep, get, hk] using ih

theorem get_map_value {γ : Type} (l : List (α × β)) (f : α → β → γ) (a : α) :
    get (l.map fun x => (x.1, f x.1 x.2)) a = (get l a).map (f a) := by
  induction l with
  | nil => rfl
  | cons x rest ih =>
    obtain ⟨k, v⟩ := x
    by_cases hk : k = a
    · simp [get, hk]
    · simpa [get, hk] using ih

end BardCsi.Assoc
