import Mathlib.Algebra.Order.Ring.Nat
import Mathlib.Data.Nat.Notation

/-!
Names that end in a digest: the first eight bytes of a hash, as sixteen hexadecimal digits. Such
a name determines its prefix and its digest.
-/
namespace BardCsi

def hexDigit (n : ℕ) : Char := Char.ofNat (if n < 10 then '0'.toNat + n else 'a'.toNat + (n - 10))

/-- `hex.EncodeToString` of eight bytes. -/
def hex (n : Fin (2 ^ 64)) : List Char :=
  (List.range 16).map fun i => hexDigit (n / 16 ^ (15 - i) % 16)

/-- A prefix, and the digest of a CSI name. -/
def digestName (sum : String → Fin (2 ^ 64)) (pre csiName : String) : String :=
  pre ++ String.ofList (hex (sum csiName))

def isHexDigit (c : Char) : Bool := ('0' ≤ c && c ≤ '9') || ('a' ≤ c && c ≤ 'f')

/-- Whether a name can be a prefix with a digest behind it. -/
def hasDigest (name : String) : Bool :=
  16 < name.toList.length && (name.toList.drop (name.toList.length - 16)).all isHexDigit

/-- Digests that tell names apart by their lengths. -/
def lengthSum (name : String) : Fin (2 ^ 64) :=
  ⟨name.length % 2 ^ 64, Nat.mod_lt _ (Nat.two_pow_pos 64)⟩

theorem hexDigit_injOn : ∀ m < 16, ∀ n < 16, hexDigit m = hexDigit n → m = n := by decide

@[simp] theorem length_hex (n : Fin (2 ^ 64)) : (hex n).length = 16 := by simp [hex]

theorem exists_hexDigit_of_mem_hex {n : Fin (2 ^ 64)} {c : Char} (h : c ∈ hex n) :
    ∃ d < 16, hexDigit d = c := by
  obtain ⟨i, _, hi⟩ := List.mem_map.mp h
  exact ⟨_, Nat.mod_lt _ (Nat.succ_pos 15), hi⟩

/-- A character that is no hexadecimal digit is in no digest. -/
theorem notMem_hex {c : Char} (hc : ∀ d < 16, hexDigit d ≠ c) (n : Fin (2 ^ 64)) : c ∉ hex n := by
  intro h
  obtain ⟨d, hd, rfl⟩ := exists_hexDigit_of_mem_hex h
  exact hc d hd rfl

theorem mod_pow_eq_of_digits {m n : ℕ} (k : ℕ)
    (h : ∀ i < k, m / 16 ^ i % 16 = n / 16 ^ i % 16) : m % 16 ^ k = n % 16 ^ k := by
  induction k with
  | zero => rw [pow_zero, Nat.mod_one, Nat.mod_one]
  | succ k ih =>
    rw [Nat.mod_pow_succ, Nat.mod_pow_succ, ih fun i hi => h i (Nat.lt_succ_of_lt hi),
      h k (Nat.lt_succ_self k)]

theorem hex_injective : Function.Injective hex := by
  intro m n h
  have hdigit : ∀ i < 16, (m : ℕ) / 16 ^ i % 16 = n / 16 ^ i % 16 := by
    intro i hi
    have hget := congrArg (fun l : List Char => l[15 - i]?) h
    have hlt : 15 - i < 16 := Nat.lt_succ_of_le (Nat.sub_le 15 i)
    have hsub : 15 - (15 - i) = i := by omega
    simp only [hex, List.getElem?_map, List.getElem?_range hlt, Option.map_some, hsub,
      Option.some.injEq] at hget
    exact hexDigit_injOn _ (Nat.mod_lt _ (Nat.succ_pos 15)) _ (Nat.mod_lt _ (Nat.succ_pos 15)) hget
  have hmod := mod_pow_eq_of_digits 16 hdigit
  have hm : (m : ℕ) < 16 ^ 16 := m.isLt
  have hn : (n : ℕ) < 16 ^ 16 := n.isLt
  rw [Nat.mod_eq_of_lt hm, Nat.mod_eq_of_lt hn] at hmod
  exact Fin.ext hmod

theorem digestName_inj {sum : String → Fin (2 ^ 64)} {p q a b : String}
    (h : digestName sum p a = digestName sum q b) : p = q ∧ sum a = sum b := by
  have hlist : p.toList ++ hex (sum a) = q.toList ++ hex (sum b) := by
    have := congrArg String.toList h
    rwa [digestName, digestName, String.toList_append, String.toList_append, String.toList_ofList,
      String.toList_ofList] at this
  obtain ⟨hpre, hhex⟩ := List.append_inj' hlist (by rw [length_hex, length_hex])
  exact ⟨String.toList_inj.mp hpre, hex_injective hhex⟩

end BardCsi
