import BardCsi.Assoc
import BardCsi.Pages
import BardCsi.Strings
import BardCsi.VolumeId

/-!
The listing calls of the driver. Every call asks all registered backends again, in whatever
order the registry and the backends happen to use, sorts what they return by id and returns the
page that starts at the offset written in the token. The sort makes the calls agree on one list,
so the pages of successive calls fit together.
-/
namespace BardCsi.Driver

open VolumeId (Handle Bytes)
open Assoc (MapOrder)

inductive Code where
  | alreadyExists
  | notFound
  | invalidArgument
  | unimplemented
  | internal
  | aborted
deriving DecidableEq, Repr

/-- A gRPC status. The parts of the message are kept apart, a quoted text as one of them. -/
structure Status where
  code : Code
  msg : List String
deriving DecidableEq, Repr

/-- What a backend error is wrapped around. -/
inductive ErrKind where
  | alreadyExists
  | notFound
  | invalidArgument
  | unsupported
  | other
deriving DecidableEq, Repr

structure BackendError where
  kind : ErrKind
  text : String
deriving DecidableEq, Repr

def ErrKind.code : ErrKind → Code
  | .alreadyExists => .alreadyExists
  | .notFound => .notFound
  | .invalidArgument => .invalidArgument
  | .unsupported => .unimplemented
  | .other => .internal

def toStatus (err : BackendError) (op : String) : Status := ⟨err.kind.code, [op, ": ", err.text]⟩

structure VolumeListEntry where
  handle : Handle
  capacityBytes : Int
deriving DecidableEq, Repr

structure SnapshotListEntry where
  handle : Handle
  sourceVolume : Handle
  sizeBytes : Int
  creationTime : Int
  readyToUse : Bool
deriving DecidableEq, Repr

/-- The offset that a token stands for. -/
def tokenOffset (startingToken : String) : Except Status ℕ :=
  if startingToken = "" then .ok 0
  else
    match Strings.atoi startingToken with
    | some (.ofNat n) => .ok n
    | some (.negSucc _) | none => .error ⟨.aborted, ["invalid starting_token ", startingToken]⟩

def paginate {α : Type} (entries : List α) (startingToken : String) (maxEntries : Int) :
    Except Status (List α × String) :=
  match tokenOffset startingToken with
  | .error e => .error e
  | .ok offset =>
      if offset > entries.length then
        .error ⟨.aborted, ["starting_token ", startingToken, " out of range"]⟩
      else
        let page := entries.drop offset
        if 0 < maxEntries ∧ maxEntries < page.length then
          .ok (page.take maxEntries.toNat, Strings.itoa (offset + maxEntries))
        else .ok (page, "")

/-- The types of the registered backends, as the keys of a map. -/
structure Registry where
  types : List String
  nodup : types.Nodup

/-- An entry of a response before another, by its id. -/
def lessBy {α : Type} (id : α → Bytes) (a b : α) : Bool := decide (id a < id b)

/-- What one listing call finds: the order of the registry, the answers of the backends, and a
way of sorting. -/
structure Round (ε α : Type) (id : α → Bytes) where
  order : MapOrder String
  reply : String → Except BackendError (List ε)
  sorter : Pages.Sorter (lessBy id)

/-- The entries of the backends of the given types. A backend that cannot list is skipped. -/
def collect {ε α : Type} (op : String) (reply : String → Except BackendError (List ε))
    (entry : ε → Option α) : List String → Except Status (List α)
  | [] => .ok []
  | t :: types =>
      match reply t with
      | .error err =>
          if err.kind = .unsupported then collect op reply entry types
          else .error (toStatus err op)
      | .ok listed => (collect op reply entry types).map (listed.filterMap entry ++ ·)

/-- A listing call: collect, sort, and cut out the page. -/
def list {ε α : Type} {id : α → Bytes} (op : String) (entry : ε → Option α) (reg : Registry)
    (round : Round ε α id) (startingToken : String) (maxEntries : Int) :
    Except Status (List α × String) :=
  match collect op round.reply entry (round.order.arrange reg.types) with
  | .error e => .error e
  | .ok entries => paginate (round.sorter.sort entries) startingToken maxEntries

structure VolumeEntry where
  volumeId : Bytes
  capacityBytes : Int
deriving DecidableEq, Repr

structure SnapshotEntry where
  snapshotId : Bytes
  sourceVolumeId : Bytes
  sizeBytes : Int
  creationTime : Int
  readyToUse : Bool
deriving DecidableEq, Repr

def VolumeListEntry.entry (v : VolumeListEntry) : VolumeEntry :=
  ⟨v.handle.string, v.capacityBytes⟩

def SnapshotListEntry.entry (sn : SnapshotListEntry) : SnapshotEntry :=
  ⟨sn.handle.string, sn.sourceVolume.string, sn.sizeBytes, sn.creationTime, sn.readyToUse⟩

/-- The filter of a listing of snapshots. An empty id stands for any. -/
structure SnapshotFilter where
  snapshotId : Bytes
  sourceVolumeId : Bytes
deriving DecidableEq, Repr

def SnapshotFilter.matching (f : SnapshotFilter) (sn : SnapshotListEntry) : Option SnapshotEntry :=
  if f.snapshotId ≠ [] ∧ f.snapshotId ≠ sn.handle.string then none
  else if f.sourceVolumeId ≠ [] ∧ f.sourceVolumeId ≠ sn.sourceVolume.string then none
  else some sn.entry

def listVolumes (reg : Registry) (round : Round VolumeListEntry VolumeEntry VolumeEntry.volumeId)
    (startingToken : String) (maxEntries : Int) : Except Status (List VolumeEntry × String) :=
  list "list volumes" (fun v => some v.entry) reg round startingToken maxEntries

def listSnapshots (f : SnapshotFilter) (reg : Registry)
    (round : Round SnapshotListEntry SnapshotEntry SnapshotEntry.snapshotId)
    (startingToken : String) (maxEntries : Int) : Except Status (List SnapshotEntry × String) :=
  list "list snapshots" f.matching reg round startingToken maxEntries

/-! Tokens and offsets. -/

/-- The token for an offset. The listing starts with the empty token. -/
def offsetToken (k : ℕ) : String := if k = 0 then "" else Strings.itoa k

theorem itoa_ne_empty (k : ℕ) : Strings.itoa k ≠ "" := by
  intro h
  have hnil := congrArg String.toList h
  exact Nat.toDigits_ne_nil ((String.toList_ofList).symm.trans hnil)

theorem offsetToken_ne_empty {k : ℕ} (hk : 0 < k) : offsetToken k ≠ "" := by
  rw [offsetToken, if_neg hk.ne']
  exact itoa_ne_empty k

theorem tokenOffset_offsetToken {k : ℕ} (hk : k < 2 ^ 63) :
    tokenOffset (offsetToken k) = .ok k := by
  by_cases h : k = 0
  · simp [tokenOffset, offsetToken, h]
  · rw [tokenOffset, offsetToken, if_neg h, if_neg (itoa_ne_empty k), Strings.atoi_itoa hk]

theorem paginate_offsetToken {α : Type} {l : List α} {k m : ℕ} (hl : l.length < 2 ^ 63)
    (hm : 0 < m) (hk : k = 0 ∨ k < l.length) : paginate l (offsetToken k) m =
      .ok ((l.drop k).take m, if k + m < l.length then offsetToken (k + m) else "") := by
  have hle : ¬ k > l.length := by omega
  rw [paginate, tokenOffset_offsetToken (by omega)]
  simp only [hle, if_false]
  by_cases hmore : k + m < l.length
  · have hcond : (0 : Int) < m ∧ (m : Int) < (l.drop k).length := by
      rw [List.length_drop]
      omega
    rw [if_pos hcond, if_pos hmore, Int.toNat_natCast, offsetToken, if_neg (by omega),
      Int.natCast_add]
  · have hcond : ¬ ((0 : Int) < m ∧ (m : Int) < (l.drop k).length) := by
      rw [List.length_drop]
      omega
    rw [if_neg hcond, if_neg hmore, List.take_of_length_le]
    rw [List.length_drop]
    omega

/-! What a call collects. -/

section Collect

variable {ε α : Type} {id : α → Bytes} {op : String} {entry : ε → Option α}
variable {listed : String → List ε} {reply : String → Except BackendError (List ε)}

/-- A backend returns its entries in some order, or has none and cannot list. -/
def Shows (listed : String → List ε) (reply : String → Except BackendError (List ε))
    (t : String) : Prop :=
  (∃ l, reply t = .ok l ∧ l.Perm (listed t)) ∨
    ∃ err, reply t = .error err ∧ err.kind = .unsupported ∧ listed t = []

theorem collect_perm (op : String) (entry : ε → Option α) {types : List String}
    (h : ∀ t ∈ types, Shows listed reply t) :
    ∃ l, collect op reply entry types = .ok l ∧
      l.Perm ((types.flatMap listed).filterMap entry) := by
  induction types with
  | nil => exact ⟨[], rfl, .refl _⟩
  | cons t types ih =>
    obtain ⟨l, hl, hperm⟩ := ih fun u hu => h u (List.mem_cons_of_mem _ hu)
    rw [List.flatMap_cons, List.filterMap_append]
    rcases h t List.mem_cons_self with ⟨found, hreply, hfound⟩ | ⟨err, hreply, hkind, hnone⟩
    · refine ⟨found.filterMap entry ++ l, ?_, (hfound.filterMap entry).append hperm⟩
      rw [collect, hreply, hl]
      rfl
    · refine ⟨l, ?_, by simpa [hnone] using hperm⟩
      rw [collect, hreply]
      simp [hkind, hl]

end Collect

/-! Whole listings. -/

/-- Following the tokens from the empty one takes one call for each page, and returns every
entry once, sorted by id. -/
def Complete {α : Type} (call : ℕ → String → Except Status (List α × String)) (id : α → Bytes)
    (m : ℕ) (all : List α) : Prop :=
  ∃ pages, Pages.follow call "" (Pages.pageCount all.length m) 0 "" = some (.ok pages) ∧
    pages.length = Pages.pageCount all.length m ∧ pages.flatten.Perm all ∧
    pages.flatten.Pairwise fun a b => id a < id b

section Sorted

variable {α : Type} {id : α → Bytes} {l : List α}

theorem eq_of_not_lessBy (hdistinct : (l.map id).Nodup) {a b : α} (ha : a ∈ l) (hb : b ∈ l)
    (hba : lessBy id b a = false) (hab : lessBy id a b = false) : a = b := by
  simp only [lessBy, decide_eq_false_iff_not] at hba hab
  exact List.inj_on_of_nodup_map hdistinct ha hb
    (Std.le_antisymm (Std.not_lt.mp hba) (Std.not_lt.mp hab))

theorem pairwise_lt_of_sorted (hdistinct : (l.map id).Nodup)
    (hsorted : l.Pairwise fun a b => lessBy id b a = false) :
    l.Pairwise fun a b => id a < id b := by
  have hne : l.Pairwise fun a b => id a ≠ id b := List.pairwise_map.mp hdistinct
  refine (hsorted.and hne).imp ?_
  rintro a b ⟨hba, hab⟩
  simp only [lessBy, decide_eq_false_iff_not] at hba
  exact Std.lt_of_le_of_ne (Std.not_lt.mp hba) hab

end Sorted

section Rounds

variable {ε α : Type} {id : α → Bytes} {op : String} {entry : ε → Option α} {reg : Registry}
variable {rounds : ℕ → Round ε α id} {listed : String → List ε}

theorem list_eq (hshows : ∀ i, ∀ t ∈ reg.types, Shows listed (rounds i).reply t)
    (hdistinct : (((reg.types.flatMap listed).filterMap entry).map id).Nodup) (i : ℕ)
    (token : String) (m : Int) : list op entry reg (rounds i) token m =
      paginate ((rounds 0).sorter.sort ((reg.types.flatMap listed).filterMap entry)) token m := by
  have harranged := (rounds i).order.perm reg.types
  obtain ⟨l, hl, hperm⟩ := collect_perm op entry fun t ht => hshows i t (harranged.mem_iff.mp ht)
  have hall : l.Perm ((reg.types.flatMap listed).filterMap entry) :=
    hperm.trans ((harranged.flatMap_right listed).filterMap entry)
  have hsort := Pages.Sorter.sort_eq_of_perm (rounds i).sorter (rounds 0).sorter hall
    fun a ha b hb => eq_of_not_lessBy hdistinct (hall.mem_iff.mp ha) (hall.mem_iff.mp hb)
  rw [list, hl]
  exact congrArg (paginate · token m) hsort

theorem list_complete (hshows : ∀ i, ∀ t ∈ reg.types, Shows listed (rounds i).reply t)
    (hdistinct : (((reg.types.flatMap listed).filterMap entry).map id).Nodup)
    (hlen : ((reg.types.flatMap listed).filterMap entry).length < 2 ^ 63) {m : ℕ} (hm : 0 < m) :
    Complete (fun i token => list op entry reg (rounds i) token m) id m
      ((reg.types.flatMap listed).filterMap entry) := by
  have hperm := (rounds 0).sorter.perm ((reg.types.flatMap listed).filterMap entry)
  have hsorted := (rounds 0).sorter.sorted ((reg.types.flatMap listed).filterMap entry)
  rw [← hperm.length_eq] at hlen
  obtain ⟨pages, hfollow, hlength, hflat⟩ := Pages.follow_offsets
    (fun i token => list op entry reg (rounds i) token m) "" offsetToken hm
    (fun k hk _ => offsetToken_ne_empty hk)
    (fun i k hk => by rw [list_eq hshows hdistinct, paginate_offsetToken hlen hm hk]) 0 (.inl rfl)
  rw [Nat.sub_zero, hperm.length_eq] at hfollow hlength
  rw [List.drop_zero] at hflat
  refine ⟨pages, hfollow, hlength, hflat ▸ hperm, ?_⟩
  rw [hflat]
  exact pairwise_lt_of_sorted ((hperm.map id).nodup_iff.mpr hdistinct) hsorted

end Rounds

theorem filterMap_ids_sublist (f : SnapshotFilter) (l : List SnapshotListEntry) :
    ((l.filterMap f.matching).map SnapshotEntry.snapshotId).Sublist
      (l.map fun sn => sn.handle.string) := by
  induction l with
  | nil => exact .slnil
  | cons sn l ih =>
    rw [List.map_cons]
    rcases h : f.matching sn with _ | e
    · rw [List.filterMap_cons_none h]
      exact ih.cons _
    · rw [List.filterMap_cons_some h, List.map_cons]
      have hid : e.snapshotId = sn.handle.string := by
        unfold SnapshotFilter.matching at h
        split_ifs at h
        rw [← Option.some.inj h]
        rfl
      rw [hid]
      exact ih.cons_cons _

/-- Listing volumes, or snapshots with a fixed filter, by pages returns all of them, whatever the
order in which each call gets them from the backends. -/
theorem listing_by_pages_complete (reg : Registry) (m : ℕ) (hm : 0 < m) :
    (∀ (rounds : ℕ → Round VolumeListEntry VolumeEntry VolumeEntry.volumeId)
      (listed : String → List VolumeListEntry),
      (∀ i, ∀ t ∈ reg.types, Shows listed (rounds i).reply t) →
      ((reg.types.flatMap listed).map fun v => v.handle.string).Nodup →
      (reg.types.flatMap listed).length < 2 ^ 63 →
      Complete (fun i token => listVolumes reg (rounds i) token m) VolumeEntry.volumeId m
        ((reg.types.flatMap listed).map VolumeListEntry.entry)) ∧
    ∀ (f : SnapshotFilter)
      (rounds : ℕ → Round SnapshotListEntry SnapshotEntry SnapshotEntry.snapshotId)
      (listed : String → List SnapshotListEntry),
      (∀ i, ∀ t ∈ reg.types, Shows listed (rounds i).reply t) →
      ((reg.types.flatMap listed).map fun sn => sn.handle.string).Nodup →
      (reg.types.flatMap listed).length < 2 ^ 63 →
      Complete (fun i token => listSnapshots f reg (rounds i) token m) SnapshotEntry.snapshotId m
        ((reg.types.flatMap listed).filterMap f.matching) := by
  constructor
  · intro rounds listed hshows hdistinct hlen
    have hentries : (reg.types.flatMap listed).filterMap (fun v => some v.entry) =
        (reg.types.flatMap listed).map VolumeListEntry.entry := by
      rw [← List.filterMap_eq_map]
      rfl
    rw [← hentries]
    refine list_complete hshows ?_ ?_ hm
    · rw [hentries, List.map_map]
      exact hdistinct
    · rwa [hentries, List.length_map]
  · intro f rounds listed hshows hdistinct hlen
    refine list_complete hshows (hdistinct.sublist (filterMap_ids_sublist f _)) ?_ hm
    exact (List.length_filterMap_le _ _).trans_lt hlen

section Instance

theorem not_lessBy_trans {α : Type} {id : α → Bytes} (a b c : α) (hab : (!lessBy id b a) = true)
    (hbc : (!lessBy id c b) = true) : (!lessBy id c a) = true := by
  simp only [lessBy, Bool.not_eq_true', decide_eq_false_iff_not, Std.not_lt] at hab hbc ⊢
  exact Std.le_trans hab hbc

theorem not_lessBy_total {α : Type} {id : α → Bytes} (a b : α) :
    ((!lessBy id b a) || !lessBy id a b) = true := by
  simp only [lessBy, Bool.or_eq_true, Bool.not_eq_true', decide_eq_false_iff_not, Std.not_lt]
  exact Std.le_total

/-- A stable sort by id. -/
def stableSorter {α : Type} (id : α → Bytes) : Pages.Sorter (lessBy id) where
  sort l := l.mergeSort fun a b => !lessBy id b a
  perm l := List.mergeSort_perm l _
  sorted l := (List.pairwise_mergeSort not_lessBy_trans not_lessBy_total l).imp fun h => by
    simpa using h

def twoBackends : Registry := ⟨["ceph-rbd", "nfs"], by decide⟩

def namedVolume (backend name : String) : VolumeListEntry :=
  ⟨⟨VolumeId.bytes backend, VolumeId.bytes "a", [], VolumeId.bytes name⟩, 1⟩

def threeVolumes (t : String) : List VolumeListEntry :=
  if t = "nfs" then [namedVolume "nfs" "v"]
  else [namedVolume "ceph-rbd" "v", namedVolume "ceph-rbd" "w"]

/-- Every other call gets the entries in the reverse order. -/
def turningRounds (i : ℕ) : Round VolumeListEntry VolumeEntry VolumeEntry.volumeId where
  order := if i % 2 = 0 then ⟨fun l => l, fun l => .refl l⟩ else ⟨List.reverse, List.reverse_perm⟩
  reply t := .ok (if i % 2 = 0 then threeVolumes t else (threeVolumes t).reverse)
  sorter := stableSorter VolumeEntry.volumeId

theorem listing_by_pages_complete_turning :
    Complete (fun i token => listVolumes twoBackends (turningRounds i) token 2)
      VolumeEntry.volumeId 2 ((twoBackends.types.flatMap threeVolumes).map VolumeListEntry.entry) :=
  (listing_by_pages_complete twoBackends 2 (by decide)).1 turningRounds threeVolumes
    (fun i t _ => .inl ⟨_, rfl, by
      split
      · exact .refl _
      · exact List.reverse_perm _⟩)
    (by decide +kernel) (by decide +kernel)

end Instance

end BardCsi.Driver
