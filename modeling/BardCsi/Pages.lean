import Mathlib.Data.List.Sort
import Mathlib.Data.Nat.Notation

/-!
Reading a collection page by page. A caller follows tokens from the first call until a call
returns the token that stops it. When every call shows the same sorted list from the offset that
its token stands for, the pages are that list, cut into as few pieces as their size allows.
-/
namespace BardCsi.Pages

variable {α τ ε : Type}

/-- A sort: nothing is lost, and nothing stands behind what it is less than. -/
structure Sorter (less : α → α → Bool) where
  sort : List α → List α
  perm : ∀ l, (sort l).Perm l
  sorted : ∀ l, (sort l).Pairwise fun a b => less b a = false

/-- Every sort of the same entries gives the same list when no two entries are tied. -/
theorem Sorter.sort_eq_of_perm {less : α → α → Bool} (s s' : Sorter less) {l l' : List α}
    (h : l.Perm l')
    (hties : ∀ a ∈ l, ∀ b ∈ l, less b a = false → less a b = false → a = b) :
    s.sort l = s'.sort l' := by
  refine List.Perm.eq_of_pairwise ?_ (s.sorted l) (s'.sorted l')
    ((s.perm l).trans (h.trans (s'.perm l').symm))
  intro a b ha hb
  have ha : a ∈ l := (s.perm l).mem_iff.mp ha
  have hb : b ∈ l := h.mem_iff.mpr ((s'.perm l').mem_iff.mp hb)
  exact hties a ha b hb

/-- Follow the tokens for at most the given number of calls, the first of which is call `i`. -/
def follow [DecidableEq τ] (call : ℕ → τ → Except ε (List α × τ)) (stop : τ) :
    ℕ → ℕ → τ → Option (Except ε (List (List α)))
  | 0, _, _ => none
  | calls + 1, i, token =>
      match call i token with
      | .error e => some (.error e)
      | .ok (page, next) =>
          if next = stop then some (.ok [page])
          else (follow call stop calls (i + 1) next).map (·.map (page :: ·))

section Follow

variable [DecidableEq τ] {call : ℕ → τ → Except ε (List α × τ)} {stop : τ}

theorem follow_ok_iff {calls i : ℕ} {token : τ} {pages : List (List α)} :
    follow call stop (calls + 1) i token = some (.ok pages) ↔
      ∃ page next, call i token = .ok (page, next) ∧
        (next = stop ∧ pages = [page] ∨ next ≠ stop ∧ ∃ rest,
          follow call stop calls (i + 1) next = some (.ok rest) ∧ pages = page :: rest) := by
  rw [follow]
  rcases call i token with e | ⟨page, next⟩
  · simp
  · by_cases hstop : next = stop
    · simp [hstop, eq_comm]
    · rcases hrest : follow call stop calls (i + 1) next with _ | e | rest
      · simp [hstop, hrest]
      · simp [hstop, hrest, Except.map]
      · simp only [if_neg hstop, hrest, Option.map_some, Except.map, Option.some.injEq,
          Except.ok.injEq, Prod.mk.injEq]
        constructor
        · rintro rfl
          exact ⟨page, next, ⟨rfl, rfl⟩, .inr ⟨hstop, rest, hrest, rfl⟩⟩
        · rintro ⟨_, _, ⟨rfl, rfl⟩, ⟨heq, -⟩ | ⟨-, rest', hrest', rfl⟩⟩
          · exact absurd heq hstop
          · rw [hrest] at hrest'
            rw [Except.ok.inj (Option.some.inj hrest')]

/-- Where the tokens lead does not depend on how many calls are allowed. -/
theorem follow_unique {n n' i : ℕ} {token : τ} {pages pages' : List (List α)}
    (h : follow call stop n i token = some (.ok pages))
    (h' : follow call stop n' i token = some (.ok pages')) : pages = pages' := by
  induction n generalizing n' i token pages pages' with
  | zero => cases h
  | succ n ih =>
    cases n' with
    | zero => cases h'
    | succ n' =>
      obtain ⟨page, next, hcall, hrest⟩ := follow_ok_iff.mp h
      obtain ⟨page', next', hcall', hrest'⟩ := follow_ok_iff.mp h'
      obtain ⟨rfl, rfl⟩ := Prod.mk.inj (Except.ok.inj (hcall.symm.trans hcall'))
      rcases hrest with ⟨hstop, rfl⟩ | ⟨hnot, rest, hfollow, rfl⟩
      · rcases hrest' with ⟨-, rfl⟩ | ⟨hnot', -⟩
        · rfl
        · exact absurd hstop hnot'
      · rcases hrest' with ⟨hstop, -⟩ | ⟨-, rest', hfollow', rfl⟩
        · exact absurd hstop hnot
        · rw [ih hfollow hfollow']

theorem follow_succ (calls i : ℕ) (token : τ) :
    follow (fun i => call (i + 1)) stop calls i token = follow call stop calls (i + 1) token := by
  induction calls generalizing i token with
  | zero => rfl
  | succ calls ih =>
    rw [follow, follow]
    simp only [ih]

end Follow

/-- How many pages of size `m` hold `n` entries, with one page for none. -/
def pageCount (n m : ℕ) : ℕ := max 1 ((n + (m - 1)) / m)

theorem pageCount_of_le {n m : ℕ} (hm : 0 < m) (h : n ≤ m) : pageCount n m = 1 := by
  have hle : (n + (m - 1)) / m ≤ 1 := Nat.le_of_lt_succ (Nat.div_lt_of_lt_mul (by omega))
  unfold pageCount
  omega

theorem pageCount_add {n m : ℕ} (hm : 0 < m) (hn : 0 < n) :
    pageCount (n + m) m = pageCount n m + 1 := by
  have hone : 1 ≤ (n + (m - 1)) / m := (Nat.one_le_div_iff hm).mpr (by omega)
  have hadd : (n + m + (m - 1)) / m = (n + (m - 1)) / m + 1 := by
    rw [show n + m + (m - 1) = n + (m - 1) + m by omega, Nat.add_div_right _ hm]
  unfold pageCount
  omega

section Offsets

variable [DecidableEq τ] {l : List α} {m : ℕ}

/-- Calls that show the list `l` from the offsets that the tokens stand for are made as often as
there are pages, and return the rest of the list. -/
theorem follow_offsets (call : ℕ → τ → Except ε (List α × τ)) (stop : τ) (token : ℕ → τ)
    (hm : 0 < m) (htoken : ∀ k, 0 < k → k < l.length → token k ≠ stop)
    (hcall : ∀ i k, k = 0 ∨ k < l.length → call i (token k) =
      .ok ((l.drop k).take m, if k + m < l.length then token (k + m) else stop))
    (i : ℕ) {k : ℕ} (hk : k = 0 ∨ k < l.length) :
    ∃ pages, follow call stop (pageCount (l.length - k) m) i (token k) = some (.ok pages) ∧
      pages.length = pageCount (l.length - k) m ∧ pages.flatten = l.drop k := by
  induction hn : l.length - k using Nat.strong_induction_on generalizing i k with
  | h n ih =>
    subst hn
    by_cases hmore : k + m < l.length
    · -- a full page, and the rest of the list behind it
      obtain ⟨pages, hfollow, hlength, hflat⟩ :=
        ih (l.length - (k + m)) (by omega) (i + 1) (.inr hmore) rfl
      have hcount : pageCount (l.length - k) m = pageCount (l.length - (k + m)) m + 1 := by
        rw [← pageCount_add hm (by omega)]
        congr 1
        omega
      refine ⟨(l.drop k).take m :: pages, ?_, ?_, ?_⟩
      · rw [hcount, follow, hcall i k hk, if_pos hmore]
        simp only [htoken (k + m) (by omega) hmore, if_false, hfollow, Option.map_some]
        rfl
      · rw [hcount, List.length_cons, hlength]
      · rw [List.flatten_cons, hflat, ← List.drop_drop, List.take_append_drop]
    · have hcount : pageCount (l.length - k) m = 1 := pageCount_of_le hm (by omega)
      refine ⟨[(l.drop k).take m], ?_, by rw [hcount, List.length_singleton], ?_⟩
      · rw [hcount, follow, hcall i k hk, if_neg hmore]
        simp
      · simp only [List.flatten_singleton]
        rw [List.take_of_length_le]
        rw [List.length_drop]
        omega

end Offsets

/-! Lists that are put together in two orders. -/

section Turned

variable {l r : List α} {m : ℕ}

/-- A part of two blocks that is not all of both depends on which block comes first. -/
theorem not_perm_take_turned (hnodup : (l ++ r).Nodup) (hl : l ≠ []) (hr : r ≠ []) (hm : 0 < m)
    (hlt : m < (l ++ r).length) : ¬ ((l ++ r).take m).Perm ((r ++ l).take m) := by
  intro hperm
  rw [List.length_append] at hlt
  have hdisjoint := List.disjoint_of_nodup_append hnodup
  rcases Nat.lt_or_ge l.length m with hlong | hshort
  · -- all of `l` is on the left, and its last member is not on the right
    have hmem : l.getLast hl ∈ (l ++ r).take m := by
      rw [List.take_append, List.take_of_length_le hlong.le]
      exact List.mem_append_left _ (List.getLast_mem hl)
    rw [hperm.mem_iff, List.take_append, List.mem_append] at hmem
    rcases hmem with hmem | hmem
    · exact hdisjoint (List.getLast_mem hl) (List.mem_of_mem_take hmem)
    · have hinit : (l.dropLast ++ [l.getLast hl]).Nodup := by
        rw [List.dropLast_append_getLast hl]
        exact (List.nodup_append.mp hnodup).1
      have htake : l.take (m - r.length) = l.dropLast.take (m - r.length) := by
        rw [List.dropLast_eq_take, List.take_take]
        congr 1
        omega
      rw [htake] at hmem
      exact List.disjoint_of_nodup_append hinit (List.mem_of_mem_take hmem) (by simp)
  · -- only members of `l` are on the left, and the first one of `r` is on the right
    have hmem : r.head hr ∈ (r ++ l).take m := by
      obtain ⟨k, rfl⟩ := Nat.exists_eq_succ_of_ne_zero hm.ne'
      obtain ⟨x, r, rfl⟩ := List.exists_cons_of_ne_nil hr
      simp
    rw [← hperm.mem_iff, List.take_append_of_le_length hshort] at hmem
    exact hdisjoint (List.mem_of_mem_take hmem) (List.head_mem hr)

/-- Where only one member gives anything, the order of the members has no effect. -/
theorem flatMap_eq_of_perm {β : Type} {f : α → List β} {l' : List α} (hperm : l.Perm l')
    (hnodup : l.Nodup) (hone : ∀ x ∈ l, ∀ y ∈ l, f x ≠ [] → f y ≠ [] → x = y) :
    l.flatMap f = l'.flatMap f := by
  have hfilter : ∀ l : List α, l.flatMap f = (l.filter fun x => !(f x).isEmpty).flatMap f := by
    intro l
    induction l with
    | nil => rfl
    | cons x l ih =>
      rw [List.flatMap_cons, List.filter_cons, ih]
      rcases hx : f x with _ | ⟨y, ys⟩
      · simp
      · simp [hx]
  have hsub := hperm.filter fun x => !(f x).isEmpty
  rw [hfilter l, hfilter l']
  rcases hgiving : l.filter fun x => !(f x).isEmpty with _ | ⟨x, _ | ⟨y, rest⟩⟩
  · rw [hgiving] at hsub
    rw [hsub.nil_eq]
  · rw [hgiving] at hsub
    rw [List.perm_singleton.mp hsub.symm]
  · -- two different members would both give something
    have hgives : ∀ z ∈ x :: y :: rest, z ∈ l ∧ f z ≠ [] := by
      intro z hz
      rw [← hgiving, List.mem_filter] at hz
      simpa using hz
    have hx := hgives x (by simp)
    have hy := hgives y (by simp)
    have hdistinct : (x :: y :: rest).Nodup := hgiving ▸ hnodup.filter _
    have heq := hone x hx.1 y hy.1 hx.2 hy.2
    rw [heq] at hdistinct
    simp at hdistinct

end Turned

end BardCsi.Pages
