import BardCsi.Ceph.Listing
import BardCsi.Driver.VolumeGroups

/-!
Listing volume groups by pages. The groups are not sorted before a page is cut out, so the pages of
successive calls are cut from lists in different orders. They fit together when the list cannot
come in two orders, or is a single page.
-/
namespace BardCsi.Driver.VolumeGroups

open VolumeId (Handle Bytes bytes)
open Assoc (MapOrder)
open Ceph (ClusterConfig)
open Ceph.VolumeGroups (VolumeGroupResponse)
open Ceph.Listing (Groups isBardImageName)

/-- The handle of what a plugin refers to. -/
def clientHandle (bt : Bytes) (r : VolumeRef) : Handle :=
  ⟨bt, bytes r.inst, bytes r.location, bytes r.name⟩

def clientGroup (bt : Bytes) (g : VolumeGroupResponse) : VolumeGroup :=
  ⟨clientHandle bt g.group, g.volumes.map (clientHandle bt)⟩

/-- The orders that the maps have in one call. -/
structure ListOrders where
  types : MapOrder (Bytes × Bool)
  clusters : MapOrder (String × ClusterConfig)

def listVolumeGroups (order : MapOrder (Bytes × Bool)) (reg : Registered)
    (reply : Bytes → Except BackendError (List VolumeGroup)) (startingToken : String)
    (maxEntries : Int) : Except Refusal (List GroupEntry × String) := do
  let bt ← groupBackend order reg []
  let groups ← (reply bt).mapError (refuse · "list volume groups")
  (paginate (groups.map VolumeGroup.entry) startingToken maxEntries).mapError fun e =>
    ⟨e.code, e.msg.map .text⟩

/-- What the plugin replies when no command fails, to a client that reads its errors by `read`. -/
def pluginReply (read : Err → BackendError) (clusters : Table String ClusterConfig) (w : Groups)
    (order : MapOrder (String × ClusterConfig)) (bt : Bytes) :
    Except BackendError (List VolumeGroup) :=
  ((Ceph.Listing.listVolumeGroups clusters order w.rbd).mapError read).map
    (·.map (clientGroup bt))

section Grouper

variable {order : MapOrder (Bytes × Bool)} {reg : Registered} {l : List (Bytes × Bool)}
variable {t : Bytes}

theorem findGrouper_some_ok_iff {r : Option Bytes} :
    findGrouper l (some t) = .ok r ↔ r = some t ∧ ∀ e ∈ l, e.2 = false := by
  induction l with
  | nil =>
    rw [findGrouper, Except.ok.injEq]
    exact ⟨fun h => ⟨h.symm, List.forall_mem_nil _⟩, fun h => h.1.symm⟩
  | cons e l ih =>
    obtain ⟨t', capable⟩ := e
    cases capable with
    | false => simp [findGrouper, ih]
    | true => simp [findGrouper]

theorem findGrouper_none_ok_iff : findGrouper l none = .ok (some t) ↔
    ∃ before after, l = before ++ (t, true) :: after ∧ ∀ e ∈ before ++ after, e.2 = false := by
  induction l with
  | nil => simp [findGrouper]
  | cons e l ih =>
    obtain ⟨t', capable⟩ := e
    cases capable with
    | false =>
      rw [findGrouper, if_pos rfl, ih]
      constructor
      · rintro ⟨before, after, rfl, hall⟩
        exact ⟨(t', false) :: before, after, rfl, List.forall_mem_cons.mpr ⟨rfl, hall⟩⟩
      · rintro ⟨before, after, heq, hall⟩
        cases before with
        | nil => cases (List.cons.inj heq).1
        | cons e before =>
          obtain ⟨-, rfl⟩ := List.cons.inj heq
          exact ⟨before, after, rfl, (List.forall_mem_cons.mp hall).2⟩
    | true =>
      have hstep : findGrouper ((t', true) :: l) none = findGrouper l (some t') := rfl
      rw [hstep, findGrouper_some_ok_iff]
      constructor
      · rintro ⟨ht, hall⟩
        obtain rfl := Option.some.inj ht
        exact ⟨[], l, rfl, hall⟩
      · rintro ⟨before, after, heq, hall⟩
        cases before with
        | nil =>
          obtain ⟨he, rfl⟩ := List.cons.inj heq
          obtain ⟨rfl, -⟩ := Prod.mk.inj he
          exact ⟨rfl, hall⟩
        | cons e before =>
          obtain ⟨rfl, -⟩ := List.cons.inj heq
          cases hall (t', true) (by simp)

/-- Only one registered backend can manage groups. -/
def OnlyGrouper (reg : Registered) (t : Bytes) : Prop := ∀ t', reg.get t' = some true ↔ t' = t

theorem groupBackend_nil_ok_iff : groupBackend order reg [] = .ok t ↔ OnlyGrouper reg t := by
  have hperm := order.perm reg.entries
  have hnodup := Table.nodup_of_perm hperm reg.nodup
  have hfind : groupBackend order reg [] = .ok t ↔
      findGrouper (order.arrange reg.entries) none = .ok (some t) := by
    rw [groupBackend, if_neg (by simp), Effect.bind_eq_ok]
    constructor
    · rintro ⟨_ | t', hfound, helim⟩
      · cases helim
      · rw [hfound, ← Except.ok.inj helim]
    · exact fun hfound => ⟨some t, hfound, rfl⟩
  have hmem : ∀ t', reg.get t' = some true ↔ (t', true) ∈ order.arrange reg.entries := by
    intro t'
    rw [hperm.mem_iff, Table.get_eq_some_iff]
  rw [hfind, findGrouper_none_ok_iff]
  simp only [OnlyGrouper, hmem]
  constructor
  · rintro ⟨before, after, heq, hall⟩ t'
    rw [heq]
    constructor
    · intro ht'
      rcases List.mem_append.mp ht' with hbefore | hafter
      · cases hall (t', true) (List.mem_append_left _ hbefore)
      · rcases List.mem_cons.mp hafter with heq | hafter
        · exact (Prod.mk.inj heq).1
        · cases hall (t', true) (List.mem_append_right _ hafter)
    · rintro rfl
      simp
  · intro honly
    obtain ⟨before, after, heq⟩ := List.append_of_mem ((honly t).mpr rfl)
    refine ⟨before, after, heq, ?_⟩
    rintro ⟨t', capable⟩ he
    cases capable with
    | false => rfl
    | true =>
      -- a second capable type would be a second entry for the same key
      have hin : (t', true) ∈ order.arrange reg.entries := by
        rw [heq]
        rcases List.mem_append.mp he with he | he
        · exact List.mem_append_left _ he
        · exact List.mem_append_right _ (List.mem_cons_of_mem _ he)
      obtain rfl := (honly t').mp hin
      rw [heq, List.map_append, List.map_cons, List.nodup_middle, List.nodup_cons] at hnodup
      have hkey : t' ∈ (before ++ after).map Prod.fst := List.mem_map.mpr ⟨(t', true), he, rfl⟩
      rw [List.map_append] at hkey
      exact absurd hkey hnodup.1

end Grouper

/-! The groups that there are. -/

/-- All volume groups of the configured instances, each with its own id. -/
structure IsAll (clusters : Table String ClusterConfig) (w : Groups) (all : List VolumeRef) :
    Prop where
  names : ∀ inst pool, (w.names inst pool).Nodup
  mem : ∀ r, r ∈ all ↔ (∃ cc, clusters.get r.inst = some cc) ∧
    r.name ∈ w.names r.inst r.location ∧ isBardImageName r.name = true
  distinct : ∀ bt, (all.map fun r => (clientHandle bt r).string).Nodup

/-- Every group is in the pool that its instance is configured with. -/
def Located (clusters : Table String ClusterConfig) (all : List VolumeRef) : Prop :=
  ∀ r ∈ all, ∀ cc, clusters.get r.inst = some cc → r.location = cc.pool

section Found

variable {clusters : Table String ClusterConfig} {w : Groups} {all : List VolumeRef}
variable {l : List (String × ClusterConfig)} {r : VolumeRef}

theorem mem_found {e : String × ClusterConfig} : r ∈ w.found e ↔
    r.inst = e.1 ∧ r.location = e.2.pool ∧ r.name ∈ w.names e.1 e.2.pool ∧
      isBardImageName r.name = true := by
  obtain ⟨inst, location, name⟩ := r
  simp only [Groups.found, List.mem_map, List.mem_filter, VolumeRef.mk.injEq]
  constructor
  · rintro ⟨name, ⟨hname, hbard⟩, rfl, rfl, rfl⟩
    exact ⟨rfl, rfl, hname, hbard⟩
  · rintro ⟨rfl, rfl, hname, hbard⟩
    exact ⟨name, ⟨hname, hbard⟩, rfl, rfl, rfl⟩

theorem mem_flatMap_found (hl : l.Perm clusters.entries) : r ∈ l.flatMap w.found ↔
    ∃ cc, clusters.get r.inst = some cc ∧ r.location = cc.pool ∧
      r.name ∈ w.names r.inst cc.pool ∧ isBardImageName r.name = true := by
  simp only [List.mem_flatMap, hl.mem_iff, mem_found]
  constructor
  · rintro ⟨⟨inst, cc⟩, hmem, rfl, hlocation, hname, hbard⟩
    exact ⟨cc, Table.get_eq_some_iff.mpr hmem, hlocation, hname, hbard⟩
  · rintro ⟨cc, hget, hlocation, hname, hbard⟩
    exact ⟨(r.inst, cc), Table.get_eq_some_iff.mp hget, rfl, hlocation, hname, hbard⟩

theorem nodup_flatMap_found (hnames : ∀ inst pool, (w.names inst pool).Nodup)
    (hl : (l.map Prod.fst).Nodup) : (l.flatMap w.found).Nodup := by
  rw [List.nodup_flatMap]
  constructor
  · intro e _
    refine ((hnames e.1 e.2.pool).filter _).map ?_
    intro name name' heq
    exact (VolumeRef.mk.inj heq).2.2
  · refine (List.pairwise_map.mp hl).imp ?_
    intro e e' hne r hr hr'
    exact hne ((mem_found.mp hr).1.symm.trans (mem_found.mp hr').1)

theorem IsAll.nodup (hall : IsAll clusters w all) : all.Nodup := (hall.distinct []).of_map

theorem IsAll.found_subset (hall : IsAll clusters w all) (hl : l.Perm clusters.entries) :
    ∀ r ∈ l.flatMap w.found, r ∈ all := by
  intro r hr
  obtain ⟨cc, hget, hlocation, hname, hbard⟩ := (mem_flatMap_found hl).mp hr
  exact (hall.mem r).mpr ⟨⟨cc, hget⟩, hlocation ▸ hname, hbard⟩

theorem IsAll.located_iff (hall : IsAll clusters w all) (hl : l.Perm clusters.entries) :
    Located clusters all ↔ (l.flatMap w.found).Perm all := by
  have hnodup := nodup_flatMap_found hall.names (Table.nodup_of_perm hl clusters.nodup)
  constructor
  · intro hlocated
    rw [List.perm_ext_iff_of_nodup hnodup hall.nodup]
    intro r
    refine ⟨hall.found_subset hl r, fun hr => ?_⟩
    obtain ⟨⟨cc, hget⟩, hname, hbard⟩ := (hall.mem r).mp hr
    have hlocation := hlocated r hr cc hget
    exact (mem_flatMap_found hl).mpr ⟨cc, hget, hlocation, hlocation ▸ hname, hbard⟩
  · intro hperm r hr cc hget
    obtain ⟨cc', hget', hlocation, -⟩ := (mem_flatMap_found hl).mp (hperm.mem_iff.mpr hr)
    obtain rfl := Option.some.inj (hget.symm.trans hget')
    exact hlocation

end Found

/-! One call, and all calls. -/

/-- A group as it is listed. -/
def listedAs (bt : Bytes) (w : Groups) (r : VolumeRef) : GroupEntry :=
  (clientGroup bt (w.group r)).entry

/-- One call, where no command of the plugin fails. -/
def pageCall (read : Err → BackendError) (reg : Registered)
    (clusters : Table String ClusterConfig) (w : Groups) (m : ℕ) (o : ListOrders)
    (token : String) : Except Refusal (List GroupEntry × String) :=
  listVolumeGroups o.types reg (pluginReply read clusters w o.clusters) token m

/-- Some backend answers every call, and following the tokens from the empty one returns every
group once. -/
def AllOnce (read : Err → BackendError) (reg : Registered)
    (clusters : Table String ClusterConfig) (w : Groups) (all : List VolumeRef) (m : ℕ)
    (orders : ℕ → ListOrders) : Prop :=
  ∃ bt, (∀ i, groupBackend (orders i).types reg [] = .ok bt) ∧ ∃ calls pages,
    Pages.follow (fun i => pageCall read reg clusters w m (orders i)) "" calls 0 "" =
      some (.ok pages) ∧ pages.flatten.Perm (all.map (listedAs bt w))

/-- The list that a call cuts its page from. -/
def listing (clusters : Table String ClusterConfig) (w : Groups) (bt : Bytes)
    (order : MapOrder (String × ClusterConfig)) : List GroupEntry :=
  ((order.arrange clusters.entries).flatMap w.found).map (listedAs bt w)

section Calls

variable (read : Err → BackendError) {reg : Registered} (clusters : Table String ClusterConfig)
variable (w : Groups) {m : ℕ} {bt : Bytes} (o : ListOrders)

theorem pageCall_eq (hbt : OnlyGrouper reg bt) (token : String) :
    pageCall read reg clusters w m o token =
      (paginate (listing clusters w bt o.clusters) token m).mapError fun e =>
        ⟨e.code, e.msg.map .text⟩ := by
  have hreply : pluginReply read clusters w o.clusters bt = .ok
      (((o.clusters.arrange clusters.entries).flatMap w.found).map
        fun r => clientGroup bt (w.group r)) := by
    rw [pluginReply, Ceph.Listing.listVolumeGroups, Groups.listInstances_rbd]
    simp only [Except.mapError, Except.map, List.map_map]
    rfl
  rw [pageCall, listVolumeGroups, groupBackend_nil_ok_iff.mpr hbt]
  change ((pluginReply read clusters w o.clusters bt).mapError _).bind _ = _
  rw [hreply]
  simp only [Except.mapError, Except.bind, List.map_map]
  rfl

theorem pageCall_offsetToken (hbt : OnlyGrouper reg bt) (hm : 0 < m) {k : ℕ}
    (hlen : (listing clusters w bt o.clusters).length < 2 ^ 63)
    (hk : k = 0 ∨ k < (listing clusters w bt o.clusters).length) :
    pageCall read reg clusters w m o (offsetToken k) =
      .ok (((listing clusters w bt o.clusters).drop k).take m,
        if k + m < (listing clusters w bt o.clusters).length then offsetToken (k + m) else "") := by
  rw [pageCall_eq read clusters w o hbt, paginate_offsetToken hlen hm hk]
  rfl

theorem follow_listing (orders : ℕ → ListOrders) (hbt : OnlyGrouper reg bt) (hm : 0 < m)
    {l : List GroupEntry} (hsame : ∀ i, listing clusters w bt (orders i).clusters = l)
    (hlen : l.length < 2 ^ 63) {k : ℕ} (hk : k = 0 ∨ k < l.length) :
    ∃ calls pages, Pages.follow (fun i => pageCall read reg clusters w m (orders i)) "" calls 0
      (offsetToken k) = some (.ok pages) ∧ pages.flatten = l.drop k := by
  obtain ⟨pages, hfollow, -, hflat⟩ := Pages.follow_offsets
    (fun i => pageCall read reg clusters w m (orders i)) "" offsetToken hm (l := l)
    (fun k hk _ => offsetToken_ne_empty hk)
    (fun i k hk => by
      have hlisting := hsame i
      rw [pageCall_offsetToken read clusters w (orders i) hbt hm (by rw [hlisting]; exact hlen)
        (by rw [hlisting]; exact hk), hlisting]) 0 hk
  exact ⟨_, pages, hfollow, hflat⟩

end Calls

section Listed

variable {clusters : Table String ClusterConfig} {w : Groups} {all : List VolumeRef}

theorem IsAll.length_listing (hall : IsAll clusters w all) (bt : Bytes)
    (order : MapOrder (String × ClusterConfig)) :
    (listing clusters w bt order).length ≤ all.length := by
  have hperm := order.perm clusters.entries
  have hnodup := nodup_flatMap_found hall.names (Table.nodup_of_perm hperm clusters.nodup)
  rw [listing, List.length_map]
  exact (List.subperm_of_subset hnodup (hall.found_subset hperm)).length_le

theorem IsAll.nodup_entries (hall : IsAll clusters w all) (bt : Bytes) :
    (all.map (listedAs bt w)).Nodup := by
  refine List.Nodup.of_map GroupEntry.volumeGroupId ?_
  rw [List.map_map]
  exact hall.distinct bt

theorem IsAll.listing_perm_iff (hall : IsAll clusters w all) (bt : Bytes)
    (order : MapOrder (String × ClusterConfig)) :
    (listing clusters w bt order).Perm (all.map (listedAs bt w)) ↔ Located clusters all := by
  have hperm := order.perm clusters.entries
  have hnodup := nodup_flatMap_found hall.names (Table.nodup_of_perm hperm clusters.nodup)
  rw [hall.located_iff hperm]
  constructor
  · intro hlisting
    have hlength := hlisting.length_eq
    rw [listing, List.length_map, List.length_map] at hlength
    exact (List.subperm_of_subset hnodup (hall.found_subset hperm)).perm_of_length_le hlength.ge
  · exact fun hfound => hfound.map _

end Listed

/-! When the pages fit together. -/

def OneInstance (all : List VolumeRef) : Prop := ∀ r ∈ all, ∀ r' ∈ all, r.inst = r'.inst

/-- The entries of one instance come first. -/
def instanceFirst (inst : String) : MapOrder (String × ClusterConfig) where
  arrange l := (l.filter fun e => e.1 = inst) ++ l.filter fun e => ¬ e.1 = inst
  perm l := by simpa using List.filter_append_perm (fun e => decide (e.1 = inst)) l

/-- The entries of one instance come last. -/
def instanceLast (inst : String) : MapOrder (String × ClusterConfig) where
  arrange l := (l.filter fun e => ¬ e.1 = inst) ++ l.filter fun e => e.1 = inst
  perm l := List.perm_append_comm.trans ((instanceFirst inst).perm l)

/-- An instance comes first in the first call, and last in all others. -/
def turned (types : MapOrder (Bytes × Bool)) (inst : String) : ℕ → ListOrders
  | 0 => ⟨types, instanceFirst inst⟩
  | _ + 1 => ⟨types, instanceLast inst⟩

section Fit

variable {read : Err → BackendError} {reg : Registered} {clusters : Table String ClusterConfig}
variable {w : Groups} {all : List VolumeRef} {m : ℕ} {bt : Bytes}

theorem IsAll.listing_eq_of_oneInstance (hall : IsAll clusters w all) (hone : OneInstance all)
    (order order' : MapOrder (String × ClusterConfig)) :
    listing clusters w bt order = listing clusters w bt order' := by
  have hperm := order.perm clusters.entries
  have hnodup := Table.nodup_of_perm hperm clusters.nodup
  rw [listing, listing, Pages.flatMap_eq_of_perm (hperm.trans (order'.perm _).symm) hnodup.of_map]
  intro e he e' he' hne hne'
  obtain ⟨r, hr⟩ := List.exists_mem_of_ne_nil _ hne
  obtain ⟨r', hr'⟩ := List.exists_mem_of_ne_nil _ hne'
  have hmem := hall.found_subset hperm r (List.mem_flatMap.mpr ⟨e, he, hr⟩)
  have hmem' := hall.found_subset hperm r' (List.mem_flatMap.mpr ⟨e', he', hr'⟩)
  have hkey : e.1 = e'.1 := by
    rw [← (mem_found.mp hr).1, ← (mem_found.mp hr').1, hone r hmem r' hmem']
  exact List.inj_on_of_nodup_map hnodup he he' hkey

theorem IsAll.allOnce (hall : IsAll clusters w all) (hlen : all.length < 2 ^ 63) (hm : 0 < m)
    (hbt : OnlyGrouper reg bt) (hlocated : Located clusters all)
    (hfit : OneInstance all ∨ all.length ≤ m) (orders : ℕ → ListOrders) :
    AllOnce read reg clusters w all m orders := by
  refine ⟨bt, fun i => groupBackend_nil_ok_iff.mpr hbt, ?_⟩
  have hlist := (hall.listing_perm_iff bt (orders 0).clusters).mpr hlocated
  have hlength := hall.length_listing bt (orders 0).clusters
  rcases hfit with hone | hle
  · obtain ⟨calls, pages, hfollow, hflat⟩ := follow_listing read clusters w orders hbt hm
      (fun i => hall.listing_eq_of_oneInstance hone (orders i).clusters (orders 0).clusters)
      (by omega) (.inl rfl)
    refine ⟨calls, pages, hfollow, ?_⟩
    rw [hflat, List.drop_zero]
    exact hlist
  · -- everything is in the first page
    have hpage := pageCall_offsetToken read clusters w (orders 0) hbt hm (by omega) (.inl rfl)
    rw [if_neg (by omega), List.drop_zero, List.take_of_length_le (by omega)] at hpage
    refine ⟨1, [_], Pages.follow_ok_iff.mpr ⟨_, _, hpage, .inl ⟨rfl, rfl⟩⟩, ?_⟩
    rw [List.flatten_singleton]
    exact hlist

theorem IsAll.located_of_allOnce (hall : IsAll clusters w all) (hlen : all.length < 2 ^ 63)
    (hm : 0 < m) (o : ListOrders) (honce : AllOnce read reg clusters w all m fun _ => o) :
    Located clusters all := by
  obtain ⟨bt, hbt, calls, pages, hfollow, hperm⟩ := honce
  have hlength := hall.length_listing bt o.clusters
  obtain ⟨calls', pages', hfollow', hflat⟩ := follow_listing read clusters w (fun _ => o)
    (groupBackend_nil_ok_iff.mp (hbt 0)) hm (fun _ => rfl) (by omega) (.inl rfl)
  rw [Pages.follow_unique hfollow hfollow', hflat, List.drop_zero] at hperm
  exact (hall.listing_perm_iff bt o.clusters).mp hperm

theorem turned_listing (clusters : Table String ClusterConfig) (w : Groups) (bt : Bytes)
    (inst : String) : ∃ l r : List GroupEntry,
      listing clusters w bt (instanceFirst inst) = l ++ r ∧
      listing clusters w bt (instanceLast inst) = r ++ l ∧
      ∀ e ∈ clusters.entries, w.found e ≠ [] → if e.1 = inst then l ≠ [] else r ≠ [] := by
  refine ⟨((clusters.entries.filter fun e => e.1 = inst).flatMap w.found).map (listedAs bt w),
    ((clusters.entries.filter fun e => ¬ e.1 = inst).flatMap w.found).map (listedAs bt w),
    ?_, ?_, ?_⟩
  · rw [listing, instanceFirst, List.flatMap_append, List.map_append]
  · rw [listing, instanceLast, List.flatMap_append, List.map_append]
  · intro e he hne
    split_ifs with hinst
    all_goals
      simp only [ne_eq, List.map_eq_nil_iff, List.flatMap_eq_nil_iff, not_forall]
      exact ⟨e, List.mem_filter.mpr ⟨he, by simpa using hinst⟩, hne⟩

theorem IsAll.not_allOnce_turned (hall : IsAll clusters w all) (hlen : all.length < 2 ^ 63)
    (hm : 0 < m) (hlocated : Located clusters all) (hmore : m < all.length) {r r' : VolumeRef}
    (hr : r ∈ all) (hr' : r' ∈ all) (hne : r.inst ≠ r'.inst) (types : MapOrder (Bytes × Bool)) :
    ¬ AllOnce read reg clusters w all m (turned types r.inst) := by
  rintro ⟨bt, hbt, calls, pages, hfollow, hperm⟩
  have hfirst := (hall.listing_perm_iff bt (instanceFirst r.inst)).mpr hlocated
  have hlast := (hall.listing_perm_iff bt (instanceLast r.inst)).mpr hlocated
  have honly := groupBackend_nil_ok_iff.mp (hbt 0)
  have hfirstLength := hfirst.length_eq
  have hlastLength := hlast.length_eq
  rw [List.length_map] at hfirstLength hlastLength
  obtain ⟨a, b, ha, hb, hnonempty⟩ := turned_listing clusters w bt r.inst
  have hfound : ∀ r ∈ all, ∃ e ∈ clusters.entries, e.1 = r.inst ∧ w.found e ≠ [] := by
    intro r hr
    have hmem := ((hall.located_iff (.refl clusters.entries)).mp hlocated).mem_iff.mpr hr
    obtain ⟨e, he, hre⟩ := List.mem_flatMap.mp hmem
    exact ⟨e, he, (mem_found.mp hre).1.symm, List.ne_nil_of_mem hre⟩
  obtain ⟨e, he, hinst, hsome⟩ := hfound r hr
  obtain ⟨e', he', hinst', hsome'⟩ := hfound r' hr'
  have hane : a ≠ [] := by simpa [hinst] using hnonempty e he hsome
  have hbne : b ≠ [] := by simpa [hinst', hne.symm] using hnonempty e' he' hsome'
  -- the first page is cut from one list, and the rest from the other one
  have hpage := pageCall_offsetToken read clusters w (turned types r.inst 0) honly hm
    (hfirstLength.trans_lt hlen) (.inl rfl)
  have hnext : 0 + m < (listing clusters w bt (turned types r.inst 0).clusters).length := by
    rw [Nat.zero_add]
    exact hmore.trans_eq hfirstLength.symm
  rw [if_pos hnext, List.drop_zero, Nat.zero_add] at hpage
  obtain ⟨calls', pages', hrest, hflat⟩ := follow_listing read clusters w
    (fun i => turned types r.inst (i + 1)) honly hm (fun _ => rfl) (hlastLength.trans_lt hlen)
    (.inr (hmore.trans_eq hlastLength.symm))
  have hlater : Pages.follow (fun i => pageCall read reg clusters w m (turned types r.inst i)) ""
      calls' 1 (offsetToken m) = some (.ok pages') := by
    rw [← hrest]
    exact (Pages.follow_succ calls' 0 (offsetToken m)).symm
  have hpages := Pages.follow_unique hfollow
    (Pages.follow_ok_iff.mpr ⟨_, _, hpage, .inr ⟨offsetToken_ne_empty hm, _, hlater, rfl⟩⟩)
  have htake : ((a ++ b).take m).Perm ((b ++ a).take m) := by
    rw [← ha, ← hb]
    refine (List.perm_append_right_iff ((listing clusters w bt (instanceLast r.inst)).drop m)).mp ?_
    rw [List.take_append_drop]
    refine List.Perm.trans ?_ hlast.symm
    rw [hpages, List.flatten_cons, hflat] at hperm
    exact hperm
  refine Pages.not_perm_take_turned ?_ hane hbne hm ?_ htake
  · rw [← ha]
    exact hfirst.nodup_iff.mpr (hall.nodup_entries bt)
  · rw [← ha, hfirstLength]
    exact hmore

/-- Whatever the orders in each call, every group is returned once, exactly when one backend
manages groups, the groups are in the configured pools, and there is one instance or one page. -/
theorem group_pages_complete_iff (read : Err → BackendError) (reg : Registered)
    (clusters : Table String ClusterConfig) (w : Groups) (all : List VolumeRef) (m : ℕ)
    (hall : IsAll clusters w all) (hlen : all.length < 2 ^ 63) (hm : 0 < m) :
    (∀ orders : ℕ → ListOrders, AllOnce read reg clusters w all m orders) ↔
      (∃ bt, OnlyGrouper reg bt) ∧ Located clusters all ∧
        (OneInstance all ∨ all.length ≤ m) := by
  constructor
  · intro honce
    have hlocated := hall.located_of_allOnce hlen hm _ (honce fun _ => ⟨listedTypes, ⟨id, .refl⟩⟩)
    obtain ⟨bt, hbt, -⟩ := honce fun _ => ⟨listedTypes, ⟨id, .refl⟩⟩
    refine ⟨⟨bt, groupBackend_nil_ok_iff.mp (hbt 0)⟩, hlocated, ?_⟩
    by_contra hfit
    simp only [OneInstance, not_or, not_forall, not_le] at hfit
    obtain ⟨⟨r, hr, r', hr', hne⟩, hmore⟩ := hfit
    exact hall.not_allOnce_turned hlen hm hlocated hmore hr hr' hne listedTypes (honce _)
  · rintro ⟨⟨bt, hbt⟩, hlocated, hfit⟩ orders
    exact hall.allOnce hlen hm hbt hlocated hfit orders

end Fit

section Instance

def twoClusters : Table String ClusterConfig :=
  ⟨[("a", Ceph.VolumeGroups.demoCluster), ("b", Ceph.VolumeGroups.demoCluster)], by decide⟩

def groupName : String := "csi-group-0123456789abcdef"

/-- Two instances with one group each. -/
def oneEach : Groups where
  names inst pool := if (inst = "a" ∨ inst = "b") ∧ pool = "rbd" then [groupName] else []
  members _ _ := []

def bothGroups : List VolumeRef := [⟨"a", "rbd", groupName⟩, ⟨"b", "rbd", groupName⟩]

def asInternal (_ : Err) : BackendError := ⟨.other, ""⟩

/-- One group comes twice, and the other never. -/
theorem turned_order_repeats_group :
    Pages.follow (fun i => pageCall asInternal cephGroups twoClusters oneEach 1
      (turned listedTypes "a" i)) "" 2 0 "" =
        some (.ok [[⟨idOf "ceph-rbd" "a" groupName, []⟩], [⟨idOf "ceph-rbd" "a" groupName, []⟩]]) ∧
      bothGroups.map (listedAs (bytes "ceph-rbd") oneEach) =
        [⟨idOf "ceph-rbd" "a" groupName, []⟩, ⟨idOf "ceph-rbd" "b" groupName, []⟩] := by
  decide +kernel

theorem bothGroups_isAll : IsAll twoClusters oneEach bothGroups := by
  refine ⟨?_, ?_, ?_⟩
  · intro inst pool
    dsimp only [oneEach]
    split_ifs
    · exact List.nodup_singleton _
    · exact List.nodup_nil
  · rintro ⟨inst, location, name⟩
    simp only [bothGroups, List.mem_cons, List.not_mem_nil, or_false, VolumeRef.mk.injEq]
    constructor
    · rintro (⟨rfl, rfl, rfl⟩ | ⟨rfl, rfl, rfl⟩)
      all_goals exact ⟨⟨_, rfl⟩, by decide, by decide⟩
    · rintro ⟨-, hname, -⟩
      dsimp only [oneEach] at hname
      split_ifs at hname with hplace
      · obtain ⟨rfl | rfl, rfl⟩ := hplace
        · exact .inl ⟨rfl, rfl, List.mem_singleton.mp hname⟩
        · exact .inr ⟨rfl, rfl, List.mem_singleton.mp hname⟩
      · cases hname
  · intro bt
    have hrest : ∀ inst, (clientHandle bt ⟨inst, "rbd", groupName⟩).string =
        (VolumeId.magic ++ VolumeId.sep :: VolumeId.ver ++ VolumeId.sep :: bt ++ [VolumeId.sep]) ++
          [VolumeId.sep].intercalate [bytes inst, bytes "rbd", bytes groupName] := by
      intro inst
      simp [clientHandle, Handle.string, Handle.fields, List.intercalate, List.intersperse]
    simp only [bothGroups, List.map_cons, List.map_nil, hrest, List.nodup_cons, List.mem_singleton,
      List.append_cancel_left_eq, List.not_mem_nil, not_false_eq_true, List.nodup_nil, and_true]
    decide

theorem group_pages_complete_iff_one_page :
    (∀ orders, AllOnce asInternal cephGroups twoClusters oneEach bothGroups 2 orders) ↔
      (∃ bt, OnlyGrouper cephGroups bt) ∧ Located twoClusters bothGroups ∧
        (OneInstance bothGroups ∨ bothGroups.length ≤ 2) :=
  group_pages_complete_iff asInternal cephGroups twoClusters oneEach bothGroups 2
    bothGroups_isAll (by decide) (by decide)

end Instance

end BardCsi.Driver.VolumeGroups
