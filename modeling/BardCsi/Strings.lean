import Mathlib.Algebra.Order.Ring.Nat
import Mathlib.Data.List.Infix
import Mathlib.Data.Nat.Notation

/-!
The string functions of the Go standard library that the plugins use, on lists of
characters so that they evaluate. Words without a separator are found in a joined text
exactly when they are found in one of its pieces.
-/
namespace BardCsi.Strings

/-- The characters with the Unicode property White Space. -/
def isSpace (c : Char) : Bool :=
  c.toNat ∈ [0x09, 0x0A, 0x0B, 0x0C, 0x0D, 0x20, 0x85, 0xA0, 0x1680, 0x2028, 0x2029, 0x202F,
    0x205F, 0x3000] || (0x2000 ≤ c.toNat && c.toNat ≤ 0x200A)

def trimChars (cs : List Char) : List Char :=
  ((cs.dropWhile isSpace).reverse.dropWhile isSpace).reverse

@[irreducible] def trimSpace (s : String) : String := String.ofList (trimChars s.toList)

def splitChars (sep : Char → Bool) : List Char → List (List Char)
  | [] => [[]]
  | c :: cs =>
      match splitChars sep cs with
      | [] => [[]]
      | w :: ws => if sep c then [] :: w :: ws else (c :: w) :: ws

/-- `strings.Split` at a one-character separator. -/
def split (s : String) (sep : Char) : List String :=
  (splitChars (· == sep) s.toList).map String.ofList

def fields (s : String) : List String :=
  ((splitChars isSpace s.toList).filter (· ≠ [])).map String.ofList

def hasPrefix (s pre : String) : Bool := pre.toList.isPrefixOf s.toList

/-- What follows the first `n` characters. -/
def dropFirst (s : String) (n : ℕ) : String := String.ofList (s.toList.drop n)

def containsAny (s chars : String) : Bool := s.toList.any (· ∈ chars.toList)

def join (sep : String) : List String → String
  | [] => ""
  | [s] => s
  | s :: rest => s ++ sep ++ join sep rest

/-- `strings.Contains`. -/
def contains (s sub : String) : Bool := s.toList.tails.any (sub.toList.isPrefixOf ·)

def lowerASCII (c : Char) : Char :=
  if 'A' ≤ c ∧ c ≤ 'Z' then Char.ofNat (c.toNat + 32) else c

/-- `strings.EqualFold` with a text in which neither `k` nor `s` occurs. -/
def equalFold (s t : String) : Bool := s.toList.map lowerASCII == t.toList.map lowerASCII

/-- `unicode.ToLower`, as far as the result is an ASCII letter. -/
def lowerChar (c : Char) : Char :=
  if 'A' ≤ c ∧ c ≤ 'Z' then Char.ofNat (c.toNat + 32)
  else if c.toNat = 0x130 then 'i'
  else if c.toNat = 0x212A then 'k'
  else c

def toLower (s : String) : String := String.ofList (s.toList.map lowerChar)

/-- `strings.Trim` with a cutset of one character. -/
def trim (s : String) (c : Char) : String :=
  String.ofList ((s.toList.dropWhile (· == c)).reverse.dropWhile (· == c)).reverse

/-- The text that `strings.NewReplacer` puts at the head of `cs`, with the length of what it
replaces. The first pair that matches wins. -/
def replacementAt (pairs : List (String × String)) (cs : List Char) : Option (ℕ × List Char) :=
  (pairs.find? fun p => p.1.toList.isPrefixOf cs).map fun p => (p.1.length, p.2.toList)

def replaceChars (pairs : List (String × String)) : ℕ → List Char → List Char
  | _, [] => []
  | skip + 1, _ :: cs => replaceChars pairs skip cs
  | 0, c :: cs =>
      match replacementAt pairs (c :: cs) with
      | some (n, new) => new ++ replaceChars pairs (n - 1) cs
      | none => c :: replaceChars pairs 0 cs

/-- `strings.NewReplacer(pairs...).Replace`, for pairs whose old text is not empty. -/
def replace (pairs : List (String × String)) (s : String) : String :=
  String.ofList (replaceChars pairs 0 s.toList)

def parseDigits (cs : List Char) : Option ℕ :=
  if cs ≠ [] ∧ cs.all (fun c => '0' ≤ c && c ≤ '9') then
    some (cs.foldl (fun n c => 10 * n + (c.toNat - '0'.toNat)) 0)
  else none

/-- `strconv.Atoi` with 64-bit integers. -/
def atoi (s : String) : Option Int :=
  match s.toList with
  | '-' :: ds => (parseDigits ds).bind fun n => if n ≤ 2 ^ 63 then some (-(n : Int)) else none
  | '+' :: ds => (parseDigits ds).bind fun n => if n < 2 ^ 63 then some (n : Int) else none
  | ds => (parseDigits ds).bind fun n => if n < 2 ^ 63 then some (n : Int) else none

/-- `strconv.Itoa`. -/
def itoa : Int → String
  | .ofNat n => String.ofList (Nat.toDigits 10 n)
  | .negSucc n => String.ofList ('-' :: Nat.toDigits 10 (n + 1))

theorem toList_trimSpace (s : String) : (trimSpace s).toList = trimChars s.toList := by
  unfold trimSpace
  rw [String.toList_ofList]

theorem contains_iff {s sub : String} :
    contains s sub = true ↔ sub.toList <:+: s.toList := by
  simp only [contains, List.any_eq_true, List.mem_tails, List.isPrefixOf_iff_prefix]
  rw [List.infix_iff_prefix_suffix]
  constructor
  · rintro ⟨t, hs, hp⟩
    exact ⟨t, hp, hs⟩
  · rintro ⟨t, hp, hs⟩
    exact ⟨t, hs, hp⟩

theorem isDigit_of_mem_toDigits {n : ℕ} {c : Char} (h : c ∈ Nat.toDigits 10 n) :
    '0' ≤ c ∧ c ≤ '9' := by
  have hdigit := Nat.isDigit_of_mem_toDigits (by decide) (by decide) h
  simp only [Char.isDigit, Bool.and_eq_true, decide_eq_true_eq] at hdigit
  exact hdigit

/-- A number that is written in decimal is read back. -/
theorem atoi_itoa {n : ℕ} (h : n < 2 ^ 63) : atoi (itoa n) = some (n : Int) := by
  have hdigits : parseDigits (Nat.toDigits 10 n) = some n := by
    have hall : (Nat.toDigits 10 n).all (fun c => '0' ≤ c && c ≤ '9') = true := by
      rw [List.all_eq_true]
      intro c hc
      simpa using isDigit_of_mem_toDigits hc
    have hvalue : Nat.ofDigitChars 10 (Nat.toDigits 10 n) 0 = n :=
      Nat.ofDigitChars_toDigits (by decide) (by decide)
    rw [parseDigits, if_pos ⟨Nat.toDigits_ne_nil, hall⟩]
    exact congrArg some hvalue
  have hplain : ∀ c, c = '-' ∨ c = '+' → c ∉ Nat.toDigits 10 n := by
    rintro c (rfl | rfl) hc
    · exact absurd (isDigit_of_mem_toDigits hc).1 (by decide)
    · exact absurd (isDigit_of_mem_toDigits hc).1 (by decide)
  have htext : (itoa n).toList = Nat.toDigits 10 n := String.toList_ofList
  unfold atoi
  rw [htext]
  split
  · next ds hds => exact absurd (by simp [hds]) (hplain '-' (.inl rfl))
  · next ds hds => exact absurd (by simp [hds]) (hplain '+' (.inr rfl))
  · rw [hdigits, Option.bind_some, if_pos h]

section Separators

variable {α β : Type} {c : α} {w a b : List α}

theorem prefix_of_prefix_append_cons (hc : c ∉ w) (h : w <+: a ++ c :: b) : w <+: a := by
  rcases List.prefix_or_prefix_of_prefix h (List.prefix_append a (c :: b)) with hw | ⟨t, rfl⟩
  · exact hw
  · cases t with
    | nil => simp
    | cons d t =>
      obtain ⟨rest, hrest⟩ := h
      have hd : d = c := by
        have := List.append_cancel_left
          (show a ++ (d :: (t ++ rest)) = a ++ c :: b by simpa using hrest)
        exact (List.cons.inj this).1
      subst hd
      simp at hc

/-- A word without the separator lies on one side of it. -/
theorem infix_append_cons_iff (hc : c ∉ w) : w <:+: a ++ c :: b ↔ w <:+: a ∨ w <:+: b := by
  constructor
  · intro h
    induction a with
    | nil =>
      rcases List.infix_cons_iff.mp h with hp | hi
      · exact .inl (prefix_of_prefix_append_cons (a := []) hc hp).isInfix
      · exact .inr hi
    | cons x a ih =>
      rcases List.infix_cons_iff.mp h with hp | hi
      · exact .inl (prefix_of_prefix_append_cons (a := x :: a) hc hp).isInfix
      · rcases ih hi with ha | hb
        · exact .inl (List.infix_cons ha)
        · exact .inr hb
  · rintro (h | h)
    · exact h.trans (List.infix_append' [] a (c :: b))
    · exact h.trans ⟨a ++ [c], [], by simp⟩

theorem infix_cons_iff_of_head_ne (hw : w ≠ []) (h : w.head? ≠ some c) :
    w <:+: c :: a ↔ w <:+: a := by
  rw [List.infix_cons_iff, or_iff_right]
  intro hp
  cases w with
  | nil => exact hw rfl
  | cons d w => exact h (by rw [List.head?_cons, (List.cons_prefix_cons.mp hp).1])

theorem infix_concat_iff_of_getLast_ne (hw : w ≠ []) (h : w.getLast? ≠ some c) :
    w <:+: a ++ [c] ↔ w <:+: a := by
  rw [← List.reverse_infix, List.reverse_append, List.reverse_singleton, List.singleton_append,
    infix_cons_iff_of_head_ne (by simpa using hw) (by rwa [List.head?_reverse]),
    List.reverse_infix]

end Separators

/-! Pieces of a text, and the spaces around a word. -/

theorem splitChars_ne_nil (sep : Char → Bool) (cs : List Char) : splitChars sep cs ≠ [] := by
  cases cs with
  | nil => simp [splitChars]
  | cons c cs =>
    unfold splitChars
    split
    · simp
    · split <;> simp

/-- The piece of a text that no separator ends. -/
def lastPiece (sep : Char → Bool) (cs : List Char) : List Char :=
  (splitChars sep cs).getLastD []

def firstPiece (sep : Char → Bool) (cs : List Char) : List Char := (splitChars sep cs).headD []

theorem splitChars_eq_cons (sep : Char → Bool) (cs : List Char) :
    splitChars sep cs = firstPiece sep cs :: (splitChars sep cs).tail := by
  unfold firstPiece
  cases h : splitChars sep cs with
  | nil => exact absurd h (splitChars_ne_nil sep cs)
  | cons w ws => rfl

theorem splitChars_eq_concat (sep : Char → Bool) (cs : List Char) :
    splitChars sep cs = (splitChars sep cs).dropLast ++ [lastPiece sep cs] := by
  unfold lastPiece
  rw [List.getLastD_eq_getLast?, List.getLast?_eq_getLast_of_ne_nil (splitChars_ne_nil sep cs)]
  exact (List.dropLast_append_getLast (splitChars_ne_nil sep cs)).symm

theorem exists_splitChars_append (sep : Char → Bool) (a : List Char) :
    ∃ ls l, splitChars sep a = ls ++ [l] ∧ ∀ b, splitChars sep (a ++ b) =
      ls ++ (l ++ firstPiece sep b) :: (splitChars sep b).tail := by
  induction a with
  | nil => exact ⟨[], [], rfl, fun b => splitChars_eq_cons sep b⟩
  | cons c a ih =>
    obtain ⟨ls, l, ha, hb⟩ := ih
    by_cases hc : sep c
    · refine ⟨[] :: ls, l, ?_, ?_⟩
      · cases ls <;> simp_all [splitChars]
      · intro b
        cases ls <;> simp_all [splitChars]
    · cases ls with
      | nil => exact ⟨[], c :: l, by simp_all [splitChars], fun b => by simp_all [splitChars]⟩
      | cons w ws =>
        exact ⟨(c :: w) :: ws, l, by simp_all [splitChars], fun b => by simp_all [splitChars]⟩

/-- Two texts put together share the piece at which they meet. -/
theorem splitChars_append (sep : Char → Bool) (a b : List Char) :
    splitChars sep (a ++ b) = (splitChars sep a).dropLast ++
      (lastPiece sep a ++ firstPiece sep b) :: (splitChars sep b).tail := by
  obtain ⟨ls, l, ha, hb⟩ := exists_splitChars_append sep a
  have hlast : lastPiece sep a = l := by simp [lastPiece, ha]
  rw [hb, hlast, ha, List.dropLast_concat]

/-- Trimming takes spaces off both ends, and nothing else. -/
theorem exists_eq_append_trimChars (cs : List Char) : ∃ pre post,
    cs = pre ++ trimChars cs ++ post ∧ (∀ c ∈ pre, isSpace c = true) ∧
      ∀ c ∈ post, isSpace c = true := by
  refine ⟨cs.takeWhile isSpace, ((cs.dropWhile isSpace).reverse.takeWhile isSpace).reverse,
    ?_, List.all_eq_true.mp List.all_takeWhile,
    fun c hc => List.all_eq_true.mp List.all_takeWhile c (List.mem_reverse.mp hc)⟩
  have hback : trimChars cs ++ ((cs.dropWhile isSpace).reverse.takeWhile isSpace).reverse =
      cs.dropWhile isSpace := by
    rw [trimChars, ← List.reverse_append, List.takeWhile_append_dropWhile, List.reverse_reverse]
  rw [List.append_assoc, hback, List.takeWhile_append_dropWhile]

theorem lowerChar_of_isSpace {c : Char} (h : isSpace c = true) : lowerChar c = c := by
  have hspace : c.toNat < 65 ∨ 90 < c.toNat ∧ c.toNat ≠ 0x130 ∧ c.toNat ≠ 0x212A := by
    simp only [isSpace, Bool.or_eq_true, decide_eq_true_eq, Bool.and_eq_true, List.mem_cons,
      List.not_mem_nil, or_false] at h
    omega
  have hletter : ¬ ('A' ≤ c ∧ c ≤ 'Z') := by
    rintro ⟨hA, hZ⟩
    have hA : 65 ≤ c.toNat := hA
    have hZ : c.toNat ≤ 90 := hZ
    omega
  rw [lowerChar, if_neg hletter, if_neg (by omega), if_neg (by omega)]

theorem toList_join_cons (sep s t : String) (rest : List String) :
    (join sep (s :: t :: rest)).toList =
      s.toList ++ sep.toList ++ (join sep (t :: rest)).toList := by
  simp [join]

/-- A word without the line separator is found in joined lines exactly when it is found in
one of them. -/
theorem infix_map_join_iff {f : Char → Char} {w : List Char} (hw : w ≠ []) (hsep : f '\n' ∉ w)
    (ls : List String) :
    w <:+: (join "\n" ls).toList.map f ↔ ∃ l ∈ ls, w <:+: l.toList.map f := by
  induction ls with
  | nil => simp [join, hw]
  | cons l rest ih =>
    cases rest with
    | nil => simp [join]
    | cons m rest =>
      have hjoin : (join "\n" (l :: m :: rest)).toList.map f =
          l.toList.map f ++ f '\n' :: (join "\n" (m :: rest)).toList.map f := by
        rw [toList_join_cons]
        simp
      rw [hjoin, infix_append_cons_iff hsep, ih]
      simp

end BardCsi.Strings
