import BardCsi.Assoc
import Mathlib.Data.List.Nodup
import Mathlib.Data.List.Perm.Basic

/-!
Finite maps with their entries: association lists in which no key occurs twice. A loop over a
map takes the entries in any order, so what such a loop builds is described by the entries it
has taken, as a set.
-/
namespace BardCsi

structure Table (α β : Type) where
  entries : List (α × β)
  nodup : (entries.map Prod.fst).Nodup

namespace Table

variable {α β γ : Type}

def empty : Table α β := ⟨[], by simp⟩

def size (t : Table α β) : ℕ := t.entries.length

theorem nodup_of_perm {l l' : List (α × β)} (h : l.Perm l') (hl : (l'.map Prod.fst).Nodup) :
    (l.map Prod.fst).Nodup :=
  (h.map Prod.fst).nodup_iff.mpr hl

variable [DecidableEq α]

def get (t : Table α β) (k : α) : Option β := Assoc.get t.entries k

def set (t : Table α β) (k : α) (v : β) : Table α β where
  entries := Assoc.set t.entries k v
  nodup := by
    rw [Assoc.set, List.map_cons, List.nodup_cons]
    constructor
    · simp
    · exact t.nodup.sublist (List.filter_sublist.map Prod.fst)

variable {t : Table α β} {k a : α} {v b : β} {l : List (α × β)}

theorem get_eq_some_iff : t.get k = some v ↔ (k, v) ∈ t.entries := by
  constructor
  · exact Assoc.mem_of_get
  · intro h
    rcases hget : t.get k with _ | v'
    · exact absurd h (Assoc.get_eq_none hget v)
    · have hkey := List.inj_on_of_nodup_map t.nodup (Assoc.mem_of_get hget) h rfl
      rw [(Prod.mk.inj hkey).2]

@[simp] theorem get_empty : (empty : Table α β).get k = none := rfl

theorem get_set : (t.set a b).get k = if k = a then some b else t.get k := by
  by_cases h : k = a
  · rw [if_pos h, h]
    exact Assoc.get_set_self _ _ _
  · rw [if_neg h]
    exact Assoc.get_set_of_ne _ h

theorem entries_set_of_get_none (h : t.get a = none) :
    (t.set a b).entries = (a, b) :: t.entries := by
  have hall : Assoc.erase t.entries a = t.entries := by
    rw [Assoc.erase, List.filter_eq_self]
    rintro ⟨k, v⟩ hmem
    have hne : k ≠ a := by
      rintro rfl
      exact Assoc.get_eq_none h v hmem
    simpa using hne
  change Assoc.set t.entries a b = _
  rw [Assoc.set, hall]

/-- The value of a key in Go, which is the zero value when the key is not there. -/
def lookup (t : Table α String) (k : α) : String := (t.get k).getD ""

/-- A loop that sets every key it takes, once, to what `f` makes of its value. -/
theorem get_foldl_set {f : β → γ} {t : Table α γ} {v : γ} (hl : (l.map Prod.fst).Nodup)
    (hfresh : ∀ e ∈ l, t.get e.1 = none) :
    (l.foldl (fun t e => t.set e.1 (f e.2)) t).get k = some v ↔
      t.get k = some v ∨ ∃ b, (k, b) ∈ l ∧ f b = v := by
  induction l generalizing t with
  | nil => simp
  | cons e l ih =>
    obtain ⟨a, b⟩ := e
    rw [List.map_cons, List.nodup_cons] at hl
    have hnone : t.get a = none := hfresh (a, b) List.mem_cons_self
    have hfresh' : ∀ e ∈ l, (t.set a (f b)).get e.1 = none := by
      intro e he
      have hne : e.1 ≠ a := by
        rintro rfl
        exact hl.1 (List.mem_map.mpr ⟨e, he, rfl⟩)
      rw [get_set, if_neg hne]
      exact hfresh e (List.mem_cons_of_mem _ he)
    rw [List.foldl_cons, ih hl.2 hfresh', get_set]
    by_cases hk : k = a
    · subst hk
      have hnot : ∀ c, (k, c) ∉ l := fun c hc => hl.1 (List.mem_map.mpr ⟨(k, c), hc, rfl⟩)
      simp [hnone, hnot]
    · simp [hk]

end Table

end BardCsi
