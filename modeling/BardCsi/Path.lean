import BardCsi.Strings
import Mathlib.Data.List.DropRight

/-!
Lexical path processing after Go's `path/filepath`, on lists of characters. A path is cleaned
by pushing its parts on a stack. Cleaning keeps where a path leads, and joining a name without
`..` to a directory leads below that directory, along the parts of the name.
-/
namespace BardCsi.Path

abbrev Part := List Char

def dotdot : Part := ['.', '.']

/-- A part that cleaning drops. -/
def void (p : Part) : Bool := p == [] || p == ['.']

def parts (path : List Char) : List Part := Strings.splitChars (· == '/') path

def rooted (path : List Char) : Bool := path.head? == some '/'

/-- One part of a path, pushed on the stack of the parts before it. -/
def push (root : Bool) (stack : List Part) (p : Part) : List Part :=
  if void p then stack
  else if p = dotdot then
    match stack with
    | [] => if root then [] else [p]
    | top :: below => if top = dotdot then p :: top :: below else below
  else p :: stack

/-- The names that a path leads through. -/
def names (path : List Char) : List Part :=
  ((parts path).foldl (push (rooted path)) []).reverse

def joined : List Part → List Char
  | [] => []
  | [p] => p
  | p :: q :: ps => p ++ '/' :: joined (q :: ps)

def render (root : Bool) (ps : List Part) : List Char :=
  if root then '/' :: joined ps else if ps = [] then ['.'] else joined ps

/-- `filepath.Clean`. -/
def clean (path : List Char) : List Char := render (rooted path) (names path)

/-- `filepath.Join`. -/
def join (elems : List (List Char)) : List Char :=
  match elems.dropWhile (· == []) with
  | [] => []
  | e :: rest => clean (joined (e :: rest))

/-- `filepath.Dir`. -/
def dir (path : List Char) : List Char := clean (path.rdropWhile (· ≠ '/'))

/-- `filepath.Base`. -/
def base (path : List Char) : List Char :=
  if path = [] then ['.']
  else
    match (path.rdropWhile (· == '/')).rtakeWhile (· ≠ '/') with
    | [] => ['/']
    | name => name

theorem parts_cons_slash (cs : List Char) : parts ('/' :: cs) = [] :: parts cs := by
  simp only [parts, Strings.splitChars]
  split
  next h => exact absurd h (Strings.splitChars_ne_nil _ _)
  next w ws h => rw [if_pos (by decide), h]

theorem parts_cons_of_ne {c : Char} (hc : c ≠ '/') {cs : List Char} {w : Part} {ws : List Part}
    (h : parts cs = w :: ws) : parts (c :: cs) = (c :: w) :: ws := by
  simp only [parts, Strings.splitChars] at h ⊢
  rw [h]
  simp [hc]

theorem exists_parts (cs : List Char) : ∃ w ws, parts cs = w :: ws :=
  List.exists_cons_of_ne_nil (Strings.splitChars_ne_nil _ cs)

theorem parts_append_slash (a b : List Char) : parts (a ++ '/' :: b) = parts a ++ parts b := by
  induction a with
  | nil => exact parts_cons_slash b
  | cons c a ih =>
    by_cases hc : c = '/'
    · subst hc
      rw [List.cons_append, parts_cons_slash, parts_cons_slash, ih]
      rfl
    · obtain ⟨w, ws, hw⟩ := exists_parts a
      rw [hw] at ih
      rw [List.cons_append, parts_cons_of_ne hc ih, parts_cons_of_ne hc hw]
      rfl

theorem parts_of_no_slash {cs : List Char} (h : '/' ∉ cs) : parts cs = [cs] := by
  induction cs with
  | nil => rfl
  | cons c cs ih =>
    rw [List.mem_cons, not_or] at h
    exact parts_cons_of_ne (Ne.symm h.1) (ih h.2)

theorem no_slash_of_mem_parts {cs : List Char} {p : Part} (hp : p ∈ parts cs) : '/' ∉ p := by
  induction cs generalizing p with
  | nil =>
    rw [List.mem_singleton.mp hp]
    simp
  | cons c cs ih =>
    by_cases hc : c = '/'
    · subst hc
      rw [parts_cons_slash, List.mem_cons] at hp
      rcases hp with rfl | hp
      · simp
      · exact ih hp
    · obtain ⟨w, ws, hw⟩ := exists_parts cs
      rw [parts_cons_of_ne hc hw, List.mem_cons] at hp
      rcases hp with rfl | hp
      · rw [List.mem_cons, not_or]
        exact ⟨Ne.symm hc, ih (by simp [hw])⟩
      · exact ih (by simp [hw, hp])

theorem infix_of_mem_parts {cs : List Char} {p : Part} (hp : p ∈ parts cs) : p <:+: cs := by
  suffices h : (∀ w ws, parts cs = w :: ws → w <+: cs) ∧ ∀ p ∈ parts cs, p <:+: cs from h.2 p hp
  clear hp
  induction cs with
  | nil =>
    refine ⟨fun w ws h => ?_, by simp [parts, Strings.splitChars]⟩
    cases h
    exact List.nil_prefix
  | cons c cs ih =>
    by_cases hc : c = '/'
    · subst hc
      rw [parts_cons_slash]
      refine ⟨fun w ws h => ?_, fun p hp => ?_⟩
      · cases h
        exact List.nil_prefix
      · rcases List.mem_cons.mp hp with rfl | hp
        · exact List.nil_infix
        · exact List.infix_cons (ih.2 p hp)
    · obtain ⟨w, ws, hw⟩ := exists_parts cs
      have hpre : c :: w <+: c :: cs := List.cons_prefix_cons.mpr ⟨rfl, ih.1 w ws hw⟩
      rw [parts_cons_of_ne hc hw]
      refine ⟨fun w' ws' h => ?_, fun p hp => ?_⟩
      · cases h
        exact hpre
      · rcases List.mem_cons.mp hp with rfl | hp
        · exact hpre.isInfix
        · exact List.infix_cons (ih.2 p (by simp [hw, hp]))

theorem parts_joined {ps : List Part} (hne : ps ≠ []) (h : ∀ p ∈ ps, '/' ∉ p) :
    parts (joined ps) = ps := by
  induction ps with
  | nil => exact absurd rfl hne
  | cons p ps ih =>
    cases ps with
    | nil => exact parts_of_no_slash (h p (by simp))
    | cons q ps =>
      rw [joined, parts_append_slash, parts_of_no_slash (h p (by simp)),
        ih (by simp) fun r hr => h r (by simp [hr])]
      rfl

section Push

variable {root : Bool} {stack below : List Part} {p top : Part}

theorem push_void (h : void p = true) : push root stack p = stack := if_pos h

theorem push_name (h : void p = false) (hd : p ≠ dotdot) : push root stack p = p :: stack := by
  simp [push, h, hd]

theorem push_dotdot_dotdot : push root (dotdot :: below) dotdot = dotdot :: dotdot :: below := rfl

theorem push_dotdot_name (h : top ≠ dotdot) : push root (top :: below) dotdot = below := by
  change (if top = dotdot then dotdot :: top :: below else below) = below
  exact if_neg h

/-- The parts of a stack have no slash, are not dropped, and make the same stack when they are
pushed again. -/
structure Settled (root : Bool) (stack : List Part) : Prop where
  again : stack.reverse.foldl (push root) [] = stack
  solid : ∀ p ∈ stack, void p = false ∧ '/' ∉ p

theorem settled_nil : Settled root [] := ⟨rfl, by simp⟩

theorem Settled.cons (hs : Settled root stack) (hv : void p = false) (hslash : '/' ∉ p)
    (hp : push root stack p = p :: stack) : Settled root (p :: stack) where
  again := by
    rw [List.reverse_cons, List.foldl_append, hs.again]
    exact hp
  solid q hq := by
    rcases List.mem_cons.mp hq with rfl | hq
    · exact ⟨hv, hslash⟩
    · exact hs.solid q hq

theorem Settled.tail (hs : Settled root (top :: below)) (ht : top ≠ dotdot) :
    Settled root below where
  again := by
    have h := hs.again
    rw [List.reverse_cons, List.foldl_append] at h
    change push root _ top = _ at h
    rw [push_name (hs.solid top (by simp)).1 ht] at h
    exact (List.cons.inj h).2
  solid q hq := hs.solid q (by simp [hq])

theorem Settled.push (hs : Settled root stack) (hslash : '/' ∉ p) :
    Settled root (push root stack p) := by
  rcases hv : void p with _ | _
  · by_cases hd : p = dotdot
    · subst hd
      cases stack with
      | nil =>
        cases root with
        | true => exact hs
        | false => exact hs.cons hv hslash rfl
      | cons top below =>
        by_cases ht : top = dotdot
        · subst ht
          exact hs.cons hv hslash push_dotdot_dotdot
        · rw [push_dotdot_name ht]
          exact hs.tail ht
    · rw [push_name hv hd]
      exact hs.cons hv hslash (push_name hv hd)
  · rw [push_void hv]
    exact hs

theorem settled_foldl {ps : List Part} (h : ∀ p ∈ ps, '/' ∉ p) (hs : Settled root stack) :
    Settled root (ps.foldl (Path.push root) stack) := by
  induction ps generalizing stack with
  | nil => exact hs
  | cons p ps ih =>
    exact ih (fun q hq => h q (by simp [hq])) (hs.push (h p (by simp)))

end Push

theorem settled_names (path : List Char) : Settled (rooted path) (names path).reverse := by
  rw [names, List.reverse_reverse]
  exact settled_foldl (fun p hp => no_slash_of_mem_parts hp) settled_nil

theorem parts_render (root : Bool) {ps : List Part} (h : ∀ p ∈ ps, '/' ∉ p) :
    ∃ front back, parts (render root ps) = front ++ ps ++ back ∧
      (∀ p ∈ front, void p = true) ∧ ∀ p ∈ back, void p = true := by
  by_cases hps : ps = []
  · subst hps
    cases root with
    | true => exact ⟨[[], []], [], rfl, by decide, by simp⟩
    | false => exact ⟨[['.']], [], rfl, by decide, by simp⟩
  · cases root with
    | true =>
      refine ⟨[[]], [], ?_, by decide, by simp⟩
      simp [render, parts_cons_slash, parts_joined hps h]
    | false =>
      refine ⟨[], [], ?_, by simp, by simp⟩
      simp [render, hps, parts_joined hps h]

theorem foldl_push_void {root : Bool} {ps stack : List Part} (h : ∀ p ∈ ps, void p = true) :
    ps.foldl (push root) stack = stack := by
  induction ps with
  | nil => rfl
  | cons p ps ih =>
    rw [List.foldl_cons, push_void (h p (by simp))]
    exact ih fun q hq => h q (by simp [hq])

theorem rooted_joined {ps : List Part} (h : ∀ p ∈ ps, void p = false ∧ '/' ∉ p) :
    rooted (joined ps) = false := by
  cases ps with
  | nil => rfl
  | cons p ps =>
    obtain ⟨hv, hslash⟩ := h p (by simp)
    cases p with
    | nil => cases hv
    | cons c p =>
      have hc : c ≠ '/' := by
        rintro rfl
        simp at hslash
      cases ps with
      | nil => simpa [rooted, joined] using hc
      | cons q ps => simpa [rooted, joined] using hc

theorem rooted_clean (path : List Char) : rooted (clean path) = rooted path := by
  rw [clean]
  rcases hr : rooted path with _ | _
  · by_cases hn : names path = []
    · simp [render, hn, rooted]
    · simp only [render, hn, Bool.false_eq_true, if_false]
      exact rooted_joined fun p hp => (settled_names path).solid p (by simpa using hp)
  · rfl

/-- Cleaning keeps where a path leads. -/
theorem names_clean (path : List Char) : names (clean path) = names path := by
  have hset := settled_names path
  obtain ⟨front, back, hparts, hfront, hback⟩ := parts_render (rooted path)
    fun p hp => (hset.solid p (by simpa using hp)).2
  have hagain := hset.again
  rw [List.reverse_reverse] at hagain
  calc names (clean path)
      = ((front ++ names path ++ back).foldl (push (rooted path)) []).reverse := by
        rw [names, rooted_clean]
        exact congrArg (fun ps => (List.foldl (push (rooted path)) [] ps).reverse) hparts
    _ = names path := by
        rw [List.foldl_append, List.foldl_append, foldl_push_void hfront, foldl_push_void hback,
          hagain, List.reverse_reverse]

theorem clean_ne_nil (path : List Char) : clean path ≠ [] := by
  intro h
  have hnames : names path = [] := by
    rw [← names_clean, h]
    rfl
  rw [clean, hnames] at h
  cases hroot : rooted path <;> rw [hroot] at h <;> cases h

/-- What a clean path has before its last name. -/
def leadingTo (root : Bool) (qs : List Part) : List Char :=
  (if root then ['/'] else []) ++ qs.flatMap (· ++ ['/'])

theorem joined_concat (qs : List Part) (last : Part) :
    joined (qs ++ [last]) = qs.flatMap (· ++ ['/']) ++ last := by
  induction qs with
  | nil => rfl
  | cons q qs ih =>
    obtain ⟨p, ps, hp⟩ := List.exists_cons_of_ne_nil (List.append_ne_nil_of_right_ne_nil qs
      (List.cons_ne_nil last []))
    rw [List.cons_append, hp, joined, ← hp, ih]
    simp

theorem parts_leadingTo {root : Bool} {qs : List Part} (h : ∀ q ∈ qs, '/' ∉ q) :
    parts (leadingTo root qs) = (if root then [[]] else []) ++ qs ++ [[]] := by
  have hqs : parts (qs.flatMap (· ++ ['/'])) = qs ++ [[]] := by
    induction qs with
    | nil => rfl
    | cons q qs ih =>
      rw [List.flatMap_cons, List.append_assoc, List.singleton_append, parts_append_slash,
        parts_of_no_slash (h q (by simp)), ih fun r hr => h r (by simp [hr])]
      rfl
  cases root with
  | true => simp [leadingTo, parts_cons_slash, hqs]
  | false => simpa [leadingTo] using hqs

section Last

variable {path : List Char} {qs : List Part} {last : Part} (h : names path = qs ++ [last])
include h

theorem solid_of_names : ∀ q ∈ qs ++ [last], void q = false ∧ '/' ∉ q := fun q hq =>
  (settled_names path).solid q (List.mem_reverse.mpr (h ▸ hq))

theorem clean_eq : clean path = leadingTo (rooted path) qs ++ last := by
  rw [clean, h, render, joined_concat, leadingTo]
  cases rooted path <;> simp

theorem ne_slash_of_mem_last {c : Char} (hc : c ∈ last.reverse) : decide (c ≠ '/') = true := by
  rw [decide_eq_true_eq]
  rintro rfl
  exact (solid_of_names h last (by simp)).2 (List.mem_reverse.mp hc)

omit h in
theorem leadingTo_cases (root : Bool) (qs : List Part) :
    leadingTo root qs = [] ∨ ∃ pre, leadingTo root qs = pre ++ ['/'] := by
  rcases List.eq_nil_or_concat qs with rfl | ⟨qs, q, rfl⟩
  · cases root with
    | true => exact .inr ⟨[], rfl⟩
    | false => exact .inl rfl
  · refine .inr ⟨(if root then ['/'] else []) ++ (qs.flatMap (· ++ ['/']) ++ q), ?_⟩
    simp [leadingTo, List.flatMap_append]

theorem names_dir_clean (hlast : last ≠ dotdot) : names (dir (clean path)) = qs := by
  have hdrop : (clean path).rdropWhile (· ≠ '/') = leadingTo (rooted path) qs := by
    rw [clean_eq h, List.rdropWhile, List.reverse_append,
      List.dropWhile_append_of_pos fun c hc => ne_slash_of_mem_last h hc]
    rcases leadingTo_cases (rooted path) qs with hnil | ⟨pre, hpre⟩
    · rw [hnil]
      rfl
    · rw [hpre]
      simp
  have hsolid : ∀ q ∈ qs, void q = false ∧ '/' ∉ q :=
    fun q hq => solid_of_names h q (List.mem_append_left _ hq)
  have hrooted : rooted (leadingTo (rooted path) qs) = rooted path := by
    cases rooted path with
    | true => rfl
    | false =>
      cases qs with
      | nil => rfl
      | cons q qs =>
        obtain ⟨hv, hslash⟩ := hsolid q List.mem_cons_self
        cases q with
        | nil => cases hv
        | cons c q =>
          have hc : c ≠ '/' := by
            rintro rfl
            simp at hslash
          simpa [rooted, leadingTo] using hc
  have hsettled := settled_names path
  rw [h, List.reverse_append, List.reverse_singleton, List.singleton_append] at hsettled
  have hagain := (hsettled.tail hlast).again
  rw [List.reverse_reverse] at hagain
  rw [dir, hdrop, names_clean, names, hrooted, parts_leadingTo fun q hq => (hsolid q hq).2,
    List.foldl_append, List.foldl_append]
  generalize rooted path = root at hagain ⊢
  cases root <;> simp [push, void, hagain]

theorem base_clean : base (clean path) = last := by
  obtain ⟨c, cs, hlast⟩ := List.exists_cons_of_ne_nil (show last.reverse ≠ [] by
    intro hnil
    rw [List.reverse_eq_nil_iff] at hnil
    have hv := (solid_of_names h last (by simp)).1
    rw [hnil] at hv
    cases hv)
  have hc : c ≠ '/' := by
    simpa using ne_slash_of_mem_last h (hlast ▸ List.mem_cons_self)
  have hkeep : (clean path).rdropWhile (· == '/') = clean path := by
    rw [clean_eq h, List.rdropWhile, List.reverse_append, hlast, List.cons_append,
      List.dropWhile_cons_of_neg (by simpa using hc), ← List.cons_append, ← hlast,
      ← List.reverse_append, List.reverse_reverse]
  have htake : (clean path).rtakeWhile (· ≠ '/') = last := by
    rw [clean_eq h, List.rtakeWhile, List.reverse_append,
      List.takeWhile_append_of_pos fun c hc => ne_slash_of_mem_last h hc]
    rcases leadingTo_cases (rooted path) qs with hnil | ⟨pre, hpre⟩
    · rw [hnil]
      simp
    · rw [hpre]
      simp
  have hne : last ≠ [] := by
    rintro rfl
    cases hlast
  have hpath : clean path ≠ [] := by
    rw [clean_eq h]
    exact List.append_ne_nil_of_right_ne_nil _ hne
  rw [base, if_neg hpath, hkeep, htake]
  cases last with
  | nil => exact absurd rfl hne
  | cons d ds => rfl

end Last

/-- The parts of a name that cleaning keeps. -/
def solidParts (name : List Char) : List Part := (parts name).filter fun p => !void p

theorem foldl_push_solid {root : Bool} {ps stack : List Part} (h : dotdot ∉ ps) :
    ps.foldl (push root) stack = (ps.filter fun p => !void p).reverse ++ stack := by
  induction ps generalizing stack with
  | nil => rfl
  | cons p ps ih =>
    rw [List.mem_cons, not_or] at h
    rw [List.foldl_cons, ih h.2]
    rcases hv : void p with _ | _
    · rw [push_name hv (Ne.symm h.1)]
      simp [hv]
    · rw [push_void hv]
      simp [hv]

/-- A name without `..` leads below the directory it is joined to. -/
theorem names_join {root name : List Char} (hroot : root ≠ []) (hname : dotdot ∉ parts name) :
    names (join [root, name]) = names root ++ solidParts name := by
  have hjoin : join [root, name] = clean (root ++ '/' :: name) := by
    simp [join, hroot, joined]
  have hrooted : rooted (root ++ '/' :: name) = rooted root := by
    obtain ⟨c, cs, rfl⟩ := List.exists_cons_of_ne_nil hroot
    rfl
  rw [hjoin, names_clean, names, hrooted, parts_append_slash, List.foldl_append,
    foldl_push_solid hname, List.reverse_append, List.reverse_reverse]
  rfl

theorem solidParts_trimLeft (name : List Char) :
    solidParts (name.dropWhile (· == '/')) = solidParts name := by
  induction name with
  | nil => rfl
  | cons c name ih =>
    by_cases hc : c = '/'
    · subst hc
      rw [List.dropWhile_cons_of_pos (by decide), ih]
      simp [solidParts, parts_cons_slash, void]
    · rw [List.dropWhile_cons_of_neg (by simpa using hc)]

theorem solidParts_trimRight (name : List Char) :
    solidParts (name.rdropWhile (· == '/')) = solidParts name := by
  induction name using List.reverseRecOn with
  | nil => rfl
  | append_singleton name c ih =>
    by_cases hc : c = '/'
    · subst hc
      rw [List.rdropWhile_concat_pos _ _ _ (by decide), ih]
      rw [solidParts, solidParts, parts_append_slash, List.filter_append]
      exact (List.append_nil _).symm
    · rw [List.rdropWhile_concat_neg _ _ _ (by simpa using hc)]

end BardCsi.Path
