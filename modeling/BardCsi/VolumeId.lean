import Mathlib.Data.Nat.Notation
import Mathlib.Logic.Basic
import Mathlib.Tactic.SplitIfs

/-!
Volume handles. A handle is all that the driver gets back about a volume or snapshot, so its
text has to say which backend, instance and object it is about, within the limit of the CSI
specification on the length of an identifier. Reading and writing handles are inverse on the
valid ones.
-/
namespace BardCsi.VolumeId

abbrev Bytes := List UInt8

/-- The bytes of a text. -/
def bytes (s : String) : Bytes := s.toList.flatMap String.utf8EncodeChar

def magic : Bytes := bytes "swsk"
def ver : Bytes := bytes "1"

/-- The byte of the separator `|`. -/
def sep : UInt8 := 124

def maxLength : ℕ := 128

structure Handle where
  backend : Bytes
  inst : Bytes
  location : Bytes
  name : Bytes
deriving DecidableEq, Repr

/-- Why a handle is malformed: a required field is empty, a field contains the separator, the
text is too long, or the text is not one of a handle. -/
inductive Malformed where
  | required
  | separator (field : Bytes)
  | length (n : ℕ)
  | handle (s : Bytes)
deriving DecidableEq, Repr

namespace Handle

def fields (h : Handle) : List Bytes := [h.backend, h.inst, h.location, h.name]

/-- The handle as a CSI volume id. -/
def string (h : Handle) : Bytes := [sep].intercalate (magic :: ver :: h.fields)

def validate (h : Handle) : Except Malformed Unit :=
  if h.backend = [] ∨ h.inst = [] ∨ h.name = [] then .error .required
  else
    match h.fields.find? (sep ∈ ·) with
    | some f => .error (.separator f)
    | none =>
      if h.string.length > maxLength then .error (.length h.string.length)
      else .ok ()

end Handle

def parse (s : Bytes) : Except Malformed Handle :=
  match s.splitOn sep with
  | [m, v, backend, inst, location, name] =>
    if m ≠ magic ∨ v ≠ ver then .error (.handle s)
    else
      let h : Handle := ⟨backend, inst, location, name⟩
      h.validate.map fun _ => h
  | _ => .error (.handle s)

section RoundTrip

variable {h h' : Handle} {s : Bytes}

theorem validate_iff : h.validate = .ok () ↔
    h.backend ≠ [] ∧ h.inst ≠ [] ∧ h.name ≠ [] ∧ (∀ f ∈ h.fields, sep ∉ f) ∧
      h.string.length ≤ maxLength := by
  unfold Handle.validate
  by_cases hempty : h.backend = [] ∨ h.inst = [] ∨ h.name = []
  · rw [if_pos hempty]
    constructor
    · intro hok
      cases hok
    · rintro ⟨h₁, h₂, h₃, _⟩
      obtain he | he | he := hempty
      · exact absurd he h₁
      · exact absurd he h₂
      · exact absurd he h₃
  · rw [if_neg hempty]
    simp only [not_or] at hempty
    obtain ⟨h₁, h₂, h₃⟩ := hempty
    cases hfind : h.fields.find? (sep ∈ ·) with
    | some f =>
      have hf : sep ∈ f := by simpa using List.find?_some hfind
      constructor
      · intro hok
        cases hok
      · rintro ⟨_, _, _, hclean, _⟩
        exact absurd hf (hclean f (List.mem_of_find?_eq_some hfind))
    | none =>
      have hclean : ∀ f ∈ h.fields, sep ∉ f := by simpa using List.find?_eq_none.mp hfind
      by_cases hlen : h.string.length > maxLength
      · simp only [if_pos hlen]
        constructor
        · intro hok
          cases hok
        · rintro ⟨_, _, _, _, hle⟩
          exact absurd hle (Nat.not_le.mpr hlen)
      · simp only [if_neg hlen, true_iff]
        exact ⟨h₁, h₂, h₃, hclean, Nat.not_lt.mp hlen⟩

theorem sep_notMem_magic : sep ∉ magic := by decide

theorem sep_notMem_ver : sep ∉ ver := by decide

theorem count_string : h.string.count sep = 5 + h.fields.flatten.count sep := by
  have hmagic : magic.count sep = 0 := List.count_eq_zero.mpr sep_notMem_magic
  have hver : ver.count sep = 0 := List.count_eq_zero.mpr sep_notMem_ver
  simp only [Handle.string, Handle.fields, List.intercalate, List.intersperse, List.flatten_cons,
    List.flatten_nil, List.count_append, List.count_singleton_self, hmagic, hver, List.count_nil]
  omega

theorem fields_clean_of_string_eq (heq : h.string = h'.string)
    (hclean : ∀ f ∈ h'.fields, sep ∉ f) : ∀ f ∈ h.fields, sep ∉ f := by
  have hnone : h'.fields.flatten.count sep = 0 := by
    rw [List.count_eq_zero]
    intro hmem
    obtain ⟨f, hf, hsep⟩ := List.mem_flatten.mp hmem
    exact hclean f hf hsep
  have hcount := congrArg (List.count sep) heq
  rw [count_string, count_string, hnone] at hcount
  have hzero : h.fields.flatten.count sep = 0 := Nat.add_left_cancel hcount
  intro f hf hsep
  exact List.count_eq_zero.mp hzero (List.mem_flatten.mpr ⟨f, hf, hsep⟩)

theorem splitOn_string (hclean : ∀ f ∈ h.fields, sep ∉ f) :
    h.string.splitOn sep = magic :: ver :: h.fields := by
  apply List.splitOn_intercalate
  · intro f hf
    rcases List.mem_cons.mp hf with rfl | hf
    · exact sep_notMem_magic
    rcases List.mem_cons.mp hf with rfl | hf
    · exact sep_notMem_ver
    · exact hclean f hf
  · exact List.cons_ne_nil _ _

theorem parse_string (hv : h.validate = .ok ()) : parse h.string = .ok h := by
  unfold parse
  rw [splitOn_string (validate_iff.mp hv).2.2.2.1]
  change (if magic ≠ magic ∨ ver ≠ ver then _ else h.validate.map fun _ => h) = _
  rw [if_neg (by simp), hv]
  rfl

theorem string_of_parse (hp : parse s = .ok h) : h.validate = .ok () ∧ h.string = s := by
  unfold parse at hp
  split at hp
  · rename_i m v backend inst location name hsplit
    split_ifs at hp with hhead
    simp only [not_or, ne_eq, not_not] at hhead
    obtain ⟨rfl, rfl⟩ := hhead
    dsimp only at hp
    cases hv : Handle.validate ⟨backend, inst, location, name⟩ with
    | error e =>
      rw [hv] at hp
      cases hp
    | ok u =>
      rw [hv] at hp
      obtain rfl := Except.ok.inj hp
      have hjoin : [sep].intercalate (s.splitOn sep) = s := List.intercalate_splitOn sep
      rw [hsplit] at hjoin
      exact ⟨hv, hjoin⟩
  · cases hp

theorem string_inj (hv : h.validate = .ok ()) (hv' : h'.validate = .ok ())
    (heq : h.string = h'.string) : h = h' := by
  have hp := parse_string hv
  rw [heq, parse_string hv'] at hp
  exact (Except.ok.inj hp).symm

theorem parse_string_iff : (∃ h', parse h.string = .ok h') ↔ h.validate = .ok () := by
  constructor
  · rintro ⟨h', hp⟩
    obtain ⟨hv', heq⟩ := string_of_parse hp
    have hsplit := splitOn_string (fields_clean_of_string_eq heq.symm (validate_iff.mp hv').2.2.2.1)
    rw [← heq, splitOn_string (validate_iff.mp hv').2.2.2.1] at hsplit
    have hfields : h'.fields = h.fields := by simpa using hsplit
    have hhandle : h' = h := by
      cases h
      cases h'
      simpa [Handle.fields] using hfields
    rwa [hhandle] at hv'
  · exact fun hv => ⟨h, parse_string hv⟩

end RoundTrip

/-- Writing is injective on the valid handles, and reading accepts exactly their texts. -/
theorem handle_round_trip :
    (∀ h : Handle, (h.validate = .ok () ↔ ∃ h', parse h.string = .ok h') ∧
      (h.validate = .ok () → parse h.string = .ok h)) ∧
    (∀ s h, parse s = .ok h → h.string = s ∧ s.length ≤ 128) ∧
    (∀ h h' : Handle, h.validate = .ok () → h'.validate = .ok () → h.string = h'.string →
      h = h') ∧
    ∀ s, (∃ h, parse s = .ok h) ↔ ∃ h : Handle, h.validate = .ok () ∧ h.string = s := by
  refine ⟨fun h => ⟨parse_string_iff.symm, parse_string⟩, fun s h hp => ?_,
    fun h h' => string_inj, fun s => ⟨?_, ?_⟩⟩
  · obtain ⟨hv, rfl⟩ := string_of_parse hp
    exact ⟨rfl, (validate_iff.mp hv).2.2.2.2⟩
  · rintro ⟨h, hp⟩
    exact ⟨h, string_of_parse hp⟩
  · rintro ⟨h, hv, rfl⟩
    exact ⟨h, parse_string hv⟩

end BardCsi.VolumeId
