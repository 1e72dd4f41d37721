import BardCsi.Driver.Dispatch

/-!
The configuration that is folded from `BackendCluster` resources. The API server lists the
resources in any order, and each of them is compared with what the ones before it have left. The
comparison is between two resources at a time and does not depend on which of them comes first,
so that the order of the list has no effect.
-/
namespace BardCsi.Dispatch

/-- The endpoint of the plugin of a backend. -/
def Config.endpointOf (c : Config) (bt : String) : Option String :=
  (c.backends.get bt).bind fun bc => bc.plugin.map PluginConfig.endpoint

/-- The instances of a backend, of which there are none when it is not configured. -/
def Config.instancesOf (c : Config) (bt : String) : List (String × InstanceConfig) :=
  ((c.backends.get bt).map fun bc => bc.instances.entries).getD []

/-- What a backend consists of, with the instances as a map. -/
def BackendConfig.contents (bc : BackendConfig) :
    Option PluginConfig × (String → Option InstanceConfig) :=
  (bc.plugin, bc.instances.get)

/-- Two configurations that are equal as maps. -/
structure Config.Same (c c' : Config) : Prop where
  backends : ∀ bt, (c.backends.get bt).map BackendConfig.contents =
    (c'.backends.get bt).map BackendConfig.contents
  defaults : ∀ bt, c.defaults.get bt = c'.defaults.get bt

namespace BackendCluster

/-- The instance that a resource describes. -/
def entry (r : BackendCluster) : String × InstanceConfig := (r.instanceID, ⟨r.zone⟩)

/-- The resource has what the fold and the validation ask of each one by itself. -/
structure WellFormed (r : BackendCluster) : Prop where
  backendType : r.backendType ≠ ""
  endpoint : r.endpoint ≠ ""
  zone : r.zone ≠ ""

/-- Two resources that can stand in one configuration, whichever comes first. -/
def Compatible (r r' : BackendCluster) : Prop :=
  r.backendType = r'.backendType → r.endpoint = r'.endpoint ∧ r.instanceID ≠ r'.instanceID ∧
    ¬ (r.isDefault = true ∧ r'.isDefault = true)

theorem Compatible.symm {r r' : BackendCluster} (h : r.Compatible r') : r'.Compatible r := by
  intro hbt
  obtain ⟨hendpoint, hid, hdefault⟩ := h hbt.symm
  exact ⟨hendpoint.symm, hid.symm, fun hboth => hdefault ⟨hboth.2, hboth.1⟩⟩

end BackendCluster

open BackendCluster (entry Compatible)

def ofType (bt : String) (clusters : List BackendCluster) : List BackendCluster :=
  clusters.filter (·.backendType = bt)

def defaultsOf (bt : String) (clusters : List BackendCluster) : List BackendCluster :=
  (ofType bt clusters).filter (·.isDefault)

/-- The configuration says what the resources say: for each type one instance for each resource
with its zone, the endpoint of every resource, and as default the instance of the only resource
that is marked, which is one of the instances. -/
structure Faithful (clusters : List BackendCluster) (c : Config) : Prop where
  instances : ∀ bt, (c.instancesOf bt).Perm ((ofType bt clusters).map entry)
  endpoint : ∀ r ∈ clusters, c.endpointOf r.backendType = some r.endpoint
  backends : ∀ bt bc, c.backends.get bt = some bc → ∃ r ∈ clusters, r.backendType = bt
  default : ∀ bt, (c.defaults.get bt).toList = (defaultsOf bt clusters).map (·.instanceID)
  configured : c.DefaultsExist

section Fold

variable {clusters clusters' : List BackendCluster} {c c' : Config} {r : BackendCluster}
variable {bt : String}

theorem ofType_cons : ofType bt (r :: clusters) =
    if r.backendType = bt then r :: ofType bt clusters else ofType bt clusters := by
  simp [ofType, List.filter_cons]

theorem mem_ofType : r ∈ ofType bt clusters ↔ r ∈ clusters ∧ r.backendType = bt := by
  simp [ofType]

theorem defaultsOf_cons : defaultsOf bt (r :: clusters) =
    if r.backendType = bt ∧ r.isDefault = true then r :: defaultsOf bt clusters
    else defaultsOf bt clusters := by
  rw [defaultsOf, ofType_cons]
  by_cases hbt : r.backendType = bt
  · by_cases hdefault : r.isDefault = true <;> simp [hbt, hdefault, defaultsOf]
  · simp [hbt, defaultsOf]

theorem Faithful.perm (h : Faithful clusters c) (hperm : clusters.Perm clusters') :
    Faithful clusters' c where
  instances bt := (h.instances bt).trans ((hperm.filter _).map entry)
  endpoint r hr := h.endpoint r (hperm.mem_iff.mpr hr)
  backends bt bc hbc := by
    obtain ⟨r, hr, htype⟩ := h.backends bt bc hbc
    exact ⟨r, hperm.mem_iff.mp hr, htype⟩
  default bt := by
    have hmap : (c.defaults.get bt).toList.Perm ((defaultsOf bt clusters').map (·.instanceID)) := by
      rw [h.default bt]
      exact ((hperm.filter _).filter _).map _
    -- there is at most one default, so that the lists cannot differ in their order
    rcases hd : c.defaults.get bt with _ | inst
    · rw [hd] at hmap
      exact hmap.nil_eq
    · rw [hd] at hmap
      exact (List.perm_singleton.mp hmap.symm).symm
  configured := h.configured

theorem Faithful.get_instances (h : Faithful clusters c) {bc : BackendConfig}
    (hbc : c.backends.get bt = some bc) {inst : String} {ic : InstanceConfig} :
    bc.instances.get inst = some ic ↔ ∃ r ∈ ofType bt clusters, r.entry = (inst, ic) := by
  have hentries : c.instancesOf bt = bc.instances.entries := by
    rw [Config.instancesOf, hbc]
    rfl
  rw [Table.get_eq_some_iff, ← hentries, (h.instances bt).mem_iff, List.mem_map]

theorem Faithful.same (h : Faithful clusters c) (h' : Faithful clusters c') : c.Same c' where
  backends bt := by
    have hsome : ∀ {c c' : Config}, Faithful clusters c → Faithful clusters c' → ∀ bc,
        c.backends.get bt = some bc →
        ∃ bc', c'.backends.get bt = some bc' ∧ bc'.contents = bc.contents := by
      intro c c' h h' bc hbc
      obtain ⟨r, hr, rfl⟩ := h.backends bt bc hbc
      have hendpoint := h.endpoint r hr
      have hendpoint' := h'.endpoint r hr
      rw [Config.endpointOf, Option.bind_eq_some_iff] at hendpoint hendpoint'
      obtain ⟨bc₁, hbc₁, hplugin⟩ := hendpoint
      obtain ⟨bc', hbc', hplugin'⟩ := hendpoint'
      obtain rfl : bc = bc₁ := Option.some.inj (hbc.symm.trans hbc₁)
      refine ⟨bc', hbc', Prod.ext ?_ ?_⟩
      · obtain ⟨⟨e⟩, hp, rfl⟩ := Option.map_eq_some_iff.mp hplugin
        obtain ⟨⟨e'⟩, hp', rfl⟩ := Option.map_eq_some_iff.mp hplugin'
        exact hp'.trans hp.symm
      · funext inst
        apply Option.ext
        intro ic
        exact (h'.get_instances hbc').trans (h.get_instances hbc).symm
    rcases hbc : c.backends.get bt with _ | bc
    · rcases hbc' : c'.backends.get bt with _ | bc'
      · rfl
      · obtain ⟨bc, hsome, -⟩ := hsome h' h bc' hbc'
        rw [hbc] at hsome
        cases hsome
    · obtain ⟨bc', hbc', hcontents⟩ := hsome h h' bc hbc
      rw [hbc', Option.map_some, Option.map_some, hcontents]
  defaults bt := by
    have hlist := (h.default bt).trans (h'.default bt).symm
    rcases hd : c.defaults.get bt with _ | inst
    · rcases hd' : c'.defaults.get bt with _ | inst'
      · rfl
      · simp [hd, hd'] at hlist
    · rcases hd' : c'.defaults.get bt with _ | inst'
      · simp [hd, hd'] at hlist
      · rw [hd, hd'] at hlist
        rw [List.cons.inj hlist |>.1]

end Fold

/-! One resource more. -/

section Add

variable {done : List BackendCluster} {c c' : Config} {r : BackendCluster} {bc : BackendConfig}

theorem backendFor_ok_iff : backendFor c r = .ok bc ↔
    c.backends.get r.backendType = none ∧ bc = ⟨some ⟨r.endpoint⟩, .empty⟩ ∨
    c.backends.get r.backendType = some bc ∧
      ∀ plugin, bc.plugin = some plugin → plugin.endpoint = r.endpoint := by
  unfold backendFor
  rcases hget : c.backends.get r.backendType with _ | bc'
  · simp [eq_comm]
  · rcases hplugin : bc'.plugin with _ | plugin
    · simp only [hplugin, Except.ok.injEq, reduceCtorEq, false_and, false_or, Option.some.injEq]
      constructor
      · rintro rfl
        simp [hplugin]
      · exact And.left
    · by_cases hne : plugin.endpoint = r.endpoint
      · simp only [hplugin, hne, ne_eq, not_true, if_false, Except.ok.injEq, reduceCtorEq,
          false_and, false_or, Option.some.injEq]
        constructor
        · rintro rfl
          simp [hplugin, hne]
        · exact And.left
      · simp only [hplugin, ne_eq, hne, not_false_eq_true, if_true, reduceCtorEq, false_and,
          false_or, Option.some.injEq, false_iff, not_and]
        rintro rfl hall
        exact hne (hall plugin hplugin)

theorem addCluster_ok_iff : addCluster c r = .ok c' ↔
    r.backendType ≠ "" ∧ r.endpoint ≠ "" ∧ ∃ bc, backendFor c r = .ok bc ∧
      bc.instances.get r.instanceID = none ∧
      (r.isDefault = true → c.defaults.get r.backendType = none) ∧
      c' = ⟨c.backends.set r.backendType
          ⟨bc.plugin, bc.instances.set r.instanceID ⟨r.zone⟩⟩,
        if r.isDefault then c.defaults.set r.backendType r.instanceID else c.defaults⟩ := by
  unfold addCluster
  by_cases hbt : r.backendType = ""
  · simp [hbt]
  by_cases hendpoint : r.endpoint = ""
  · simp [hbt, hendpoint]
  rcases hbc : backendFor c r with e | bc
  · simp [hbt, hendpoint]
  rcases hinst : bc.instances.get r.instanceID with _ | ic
  · rcases hdefault : r.isDefault with _ | _
    · simp [hbt, hendpoint, hinst, eq_comm]
    · rcases hprev : c.defaults.get r.backendType with _ | prev
      · simp [hbt, hendpoint, hinst, hprev, eq_comm]
      · simp [hbt, hendpoint, hinst, hprev]
  · simp [hbt, hendpoint, hinst]

theorem Faithful.plugin (h : Faithful done c) (hbc : c.backends.get r.backendType = some bc)
    {r' : BackendCluster} (hr' : r' ∈ done) (htype : r'.backendType = r.backendType) :
    bc.plugin = some ⟨r'.endpoint⟩ := by
  have hendpoint := h.endpoint r' hr'
  rw [Config.endpointOf, htype, hbc, Option.bind_some, Option.map_eq_some_iff] at hendpoint
  obtain ⟨⟨e⟩, hplugin, rfl⟩ := hendpoint
  exact hplugin

theorem Faithful.get_defaults (h : Faithful done c) (bt : String) :
    c.defaults.get bt = none ↔ ∀ r ∈ done, r.backendType = bt → ¬ r.isDefault = true := by
  have hnone : c.defaults.get bt = none ↔ (defaultsOf bt done).map (·.instanceID) = [] := by
    rw [← h.default bt, Option.toList_eq_nil_iff]
  rw [hnone, List.map_eq_nil_iff, defaultsOf, ofType, List.filter_filter, List.filter_eq_nil_iff]
  refine forall_congr' fun r => forall_congr' fun _ => ?_
  simp only [Bool.and_eq_true, decide_eq_true_eq, not_and]
  exact ⟨fun h hbt hd => h hd hbt, fun h hd hbt => h hbt hd⟩

theorem Faithful.exists_addCluster_iff (h : Faithful done c) :
    (∃ c', addCluster c r = .ok c') ↔
      r.backendType ≠ "" ∧ r.endpoint ≠ "" ∧ ∀ r' ∈ done, r'.Compatible r := by
  have hadd : (∃ c', addCluster c r = .ok c') ↔ r.backendType ≠ "" ∧ r.endpoint ≠ "" ∧
      ∃ bc, backendFor c r = .ok bc ∧ bc.instances.get r.instanceID = none ∧
        (r.isDefault = true → c.defaults.get r.backendType = none) := by
    simp only [addCluster_ok_iff]
    constructor
    · rintro ⟨c', hbt, hendpoint, bc, hbc, hinst, hdefault, -⟩
      exact ⟨hbt, hendpoint, bc, hbc, hinst, hdefault⟩
    · rintro ⟨hbt, hendpoint, bc, hbc, hinst, hdefault⟩
      exact ⟨_, hbt, hendpoint, bc, hbc, hinst, hdefault, rfl⟩
  rw [hadd]
  refine and_congr_right fun _ => and_congr_right fun _ => ?_
  constructor
  · rintro ⟨bc, hbc, hinst, hdefault⟩ r' hr' htype
    rcases backendFor_ok_iff.mp hbc with ⟨hnone, -⟩ | ⟨hsome, hplugin⟩
    · have hendpoint := h.endpoint r' hr'
      rw [Config.endpointOf, htype, hnone] at hendpoint
      cases hendpoint
    · refine ⟨hplugin _ (h.plugin hsome hr' htype), ?_, ?_⟩
      · intro hid
        have hget := (h.get_instances hsome).mpr ⟨r', mem_ofType.mpr ⟨hr', htype⟩, rfl⟩
        rw [hid, hinst] at hget
        cases hget
      · rintro ⟨hd', hd⟩
        exact (h.get_defaults _).mp (hdefault hd) r' hr' htype hd'
  · intro hall
    have hdefault : r.isDefault = true → c.defaults.get r.backendType = none := fun hd =>
      (h.get_defaults _).mpr fun r' hr' htype hd' => (hall r' hr' htype).2.2 ⟨hd', hd⟩
    rcases hbc : c.backends.get r.backendType with _ | bc
    · exact ⟨_, backendFor_ok_iff.mpr (.inl ⟨hbc, rfl⟩), rfl, hdefault⟩
    · refine ⟨bc, backendFor_ok_iff.mpr (.inr ⟨hbc, ?_⟩), ?_, hdefault⟩
      · intro plugin hplugin
        obtain ⟨r', hr', htype⟩ := h.backends _ _ hbc
        rw [h.plugin hbc hr' htype, Option.some.injEq] at hplugin
        rw [← hplugin]
        exact (hall r' hr' htype).1
      · rw [Option.eq_none_iff_forall_ne_some]
        intro ic hic
        obtain ⟨r', hr', hentry⟩ := (h.get_instances hbc).mp hic
        obtain ⟨hmem, htype⟩ := mem_ofType.mp hr'
        exact (hall r' hmem htype).2.1 (Prod.mk.inj hentry).1

theorem Faithful.addCluster (h : Faithful done c) (hadd : addCluster c r = .ok c') :
    Faithful (r :: done) c' := by
  have hconfigured := addCluster_defaultsExist hadd h.configured
  obtain ⟨hbt, hendpoint, bc, hbc, hinst, hdefault, rfl⟩ := addCluster_ok_iff.mp hadd
  have hbefore : bc.instances.entries = c.instancesOf r.backendType ∧
      bc.plugin = some ⟨r.endpoint⟩ := by
    rcases backendFor_ok_iff.mp hbc with ⟨hnone, rfl⟩ | ⟨hsome, hplugin⟩
    · exact ⟨by rw [Config.instancesOf, hnone]; rfl, rfl⟩
    · refine ⟨by rw [Config.instancesOf, hsome]; rfl, ?_⟩
      obtain ⟨r', hr', htype⟩ := h.backends _ _ hsome
      have heq := h.plugin hsome hr' htype
      rw [heq, ← hplugin _ heq]
  constructor
  · intro bt
    rw [ofType_cons, Config.instancesOf, Table.get_set]
    by_cases htype : bt = r.backendType
    · subst htype
      rw [if_pos rfl, if_pos rfl, List.map_cons]
      have hentries : (bc.instances.set r.instanceID ⟨r.zone⟩).entries =
          r.entry :: bc.instances.entries := Table.entries_set_of_get_none hinst
      rw [Option.map_some, Option.getD_some, hentries, hbefore.1]
      exact (h.instances _).cons _
    · rw [if_neg htype, if_neg (Ne.symm htype)]
      exact h.instances bt
  · intro r' hr'
    rw [Config.endpointOf, Table.get_set]
    rcases List.mem_cons.mp hr' with rfl | hr'
    · rw [if_pos rfl, Option.bind_some, hbefore.2]
      rfl
    · have hold := h.endpoint r' hr'
      by_cases htype : r'.backendType = r.backendType
      · rw [if_pos htype, Option.bind_some, hbefore.2]
        have hcompatible := (h.exists_addCluster_iff.mp ⟨_, hadd⟩).2.2 r' hr' htype
        rw [Option.map_some, hcompatible.1]
      · rw [if_neg htype]
        exact hold
  · intro bt bc' hbc'
    rw [Table.get_set] at hbc'
    by_cases htype : bt = r.backendType
    · exact ⟨r, List.mem_cons_self, htype.symm⟩
    · rw [if_neg htype] at hbc'
      obtain ⟨r', hr', rfl⟩ := h.backends bt bc' hbc'
      exact ⟨r', List.mem_cons_of_mem _ hr', rfl⟩
  · intro bt
    change (Table.get (if r.isDefault then c.defaults.set r.backendType r.instanceID
      else c.defaults) bt).toList = _
    rw [defaultsOf_cons]
    by_cases hnew : r.backendType = bt ∧ r.isDefault = true
    · obtain ⟨rfl, hd⟩ := hnew
      have hnil := h.default r.backendType
      rw [hdefault hd, Option.toList_none] at hnil
      rw [if_pos hd, if_pos ⟨rfl, hd⟩, Table.get_set, if_pos rfl, List.map_cons, ← hnil]
      rfl
    · rw [if_neg hnew, ← h.default bt]
      by_cases hd : r.isDefault = true
      · have htype : bt ≠ r.backendType := fun htype => hnew ⟨htype.symm, hd⟩
        rw [if_pos hd, Table.get_set, if_neg htype]
      · rw [if_neg hd]
  · exact hconfigured

end Add

/-! All resources. -/

section All

variable {o o' : Orders} {done clusters : List BackendCluster} {c c' : Config}

theorem faithful_empty : Faithful [] ⟨.empty, .empty⟩ where
  instances _ := .refl _
  endpoint _ hr := by cases hr
  backends _ _ hbc := by cases hbc
  default _ := rfl
  configured _ _ hd := by cases hd

theorem Faithful.addClusters (h : Faithful done c) (hadd : addClusters clusters c = .ok c') :
    Faithful (clusters.reverse ++ done) c' := by
  induction clusters generalizing done c with
  | nil =>
    cases hadd
    exact h
  | cons r clusters ih =>
    rw [Dispatch.addClusters] at hadd
    rcases hr : Dispatch.addCluster c r with e | c₁
    · rw [hr] at hadd
      cases hadd
    · rw [hr] at hadd
      rw [List.reverse_cons, List.append_assoc]
      exact ih (h.addCluster hr) hadd

theorem Faithful.exists_addClusters_iff (h : Faithful done c) :
    (∃ c', Dispatch.addClusters clusters c = .ok c') ↔
      (∀ r ∈ clusters, r.backendType ≠ "" ∧ r.endpoint ≠ "" ∧ ∀ r' ∈ done, r'.Compatible r) ∧
        clusters.Pairwise Compatible := by
  induction clusters generalizing done c with
  | nil => simp [Dispatch.addClusters]
  | cons r clusters ih =>
    rw [List.forall_mem_cons, List.pairwise_cons, ← h.exists_addCluster_iff, Dispatch.addClusters]
    rcases hr : Dispatch.addCluster c r with e | c₁
    · simp
    · simp only [ih (h.addCluster hr), List.forall_mem_cons, Except.ok.injEq, exists_eq', true_and]
      constructor
      · rintro ⟨hall, hpairwise⟩
        exact ⟨fun r' hr' => ⟨(hall r' hr').1, (hall r' hr').2.1, (hall r' hr').2.2.2⟩,
          fun r' hr' => (hall r' hr').2.2.1, hpairwise⟩
      · rintro ⟨hall, hfirst, hpairwise⟩
        exact ⟨fun r' hr' => ⟨(hall r' hr').1, (hall r' hr').2.1, hfirst r' hr',
          (hall r' hr').2.2⟩, hpairwise⟩

theorem Faithful.validate_iff (h : Faithful clusters c) :
    validate o c = .ok () ↔ clusters ≠ [] ∧ ∀ r ∈ clusters, r.zone ≠ "" := by
  have hsize : c.backends.size = 0 ↔ clusters = [] := by
    constructor
    · intro hsize
      rw [List.eq_nil_iff_forall_not_mem]
      intro r hr
      have hendpoint := h.endpoint r hr
      rw [Config.endpointOf, Option.bind_eq_some_iff] at hendpoint
      obtain ⟨bc, hbc, -⟩ := hendpoint
      exact (List.length_pos_of_mem (Table.get_eq_some_iff.mp hbc)).ne' hsize
    · rintro rfl
      rw [Table.size, List.length_eq_zero_iff, List.eq_nil_iff_forall_not_mem]
      rintro ⟨bt, bc⟩ hmem
      obtain ⟨r, hr, -⟩ := h.backends bt bc (Table.get_eq_some_iff.mpr hmem)
      cases hr
  unfold validate
  by_cases hnil : clusters = []
  · simp [hsize.mpr hnil, hnil]
  rw [if_neg (mt hsize.mp hnil), validateBackends_ok_iff]
  simp only [(o.backends.perm _).mem_iff, ne_eq, hnil, not_false_eq_true, true_and]
  constructor
  · intro hall r hr
    have hendpoint := h.endpoint r hr
    rw [Config.endpointOf, Option.bind_eq_some_iff] at hendpoint
    obtain ⟨bc, hbc, -⟩ := hendpoint
    have hget := (h.get_instances hbc).mpr ⟨r, mem_ofType.mpr ⟨hr, rfl⟩, rfl⟩
    exact (hall _ (Table.get_eq_some_iff.mp hbc)).2 _ (Table.get_eq_some_iff.mp hget)
  · rintro hall ⟨bt, bc⟩ hmem
    have hbc := Table.get_eq_some_iff.mpr hmem
    obtain ⟨r, hr, rfl⟩ := h.backends bt bc hbc
    have hget := (h.get_instances hbc).mpr ⟨r, mem_ofType.mpr ⟨hr, rfl⟩, rfl⟩
    refine ⟨(List.length_pos_of_mem (Table.get_eq_some_iff.mp hget)).ne', ?_⟩
    rintro ⟨inst, ic⟩ hic
    obtain ⟨r', hr', hentry⟩ := (h.get_instances hbc).mp (Table.get_eq_some_iff.mpr hic)
    rw [← congrArg (fun e => e.2.zone) hentry]
    exact hall r' (mem_ofType.mp hr').1

/-- What makes a set of resources a configuration. It does not mention their order. -/
structure Acceptable (clusters : List BackendCluster) : Prop where
  some : clusters ≠ []
  each : ∀ r ∈ clusters, r.WellFormed
  compatible : clusters.Pairwise Compatible

theorem Acceptable.perm {clusters' : List BackendCluster} (h : Acceptable clusters)
    (hperm : clusters.Perm clusters') : Acceptable clusters' where
  some hnil := h.some (hnil ▸ hperm).eq_nil
  each r hr := h.each r (hperm.mem_iff.mpr hr)
  compatible := hperm.pairwise h.compatible fun hc => hc.symm

theorem fromBackendClusters_ok_iff : fromBackendClusters o clusters = .ok c ↔
    addClusters clusters ⟨.empty, .empty⟩ = .ok c ∧ validate o c = .ok () := by
  unfold fromBackendClusters
  rcases addClusters clusters ⟨.empty, .empty⟩ with e | c₁
  · simp
  · rcases hv : validate o c₁ with e | u
    · simp only [hv, reduceCtorEq, Except.ok.injEq, false_iff, not_and]
      rintro rfl
      simp [hv]
    · simp only [hv, Except.ok.injEq, iff_self_and]
      rintro rfl
      exact hv

theorem faithful_of_fromBackendClusters (h : fromBackendClusters o clusters = .ok c) :
    Faithful clusters c := by
  have hadd := faithful_empty.addClusters (fromBackendClusters_ok_iff.mp h).1
  rw [List.append_nil] at hadd
  exact hadd.perm clusters.reverse_perm

theorem exists_fromBackendClusters_iff :
    (∃ c, fromBackendClusters o clusters = .ok c) ↔ Acceptable clusters := by
  have hfold : (∃ c, addClusters clusters ⟨.empty, .empty⟩ = .ok c) ↔
      (∀ r ∈ clusters, r.backendType ≠ "" ∧ r.endpoint ≠ "" ∧ ∀ r' ∈ [], Compatible r' r) ∧
        clusters.Pairwise Compatible := faithful_empty.exists_addClusters_iff
  constructor
  · rintro ⟨c, hc⟩
    obtain ⟨hadd, hv⟩ := fromBackendClusters_ok_iff.mp hc
    obtain ⟨hsome, hzone⟩ := (faithful_of_fromBackendClusters hc).validate_iff.mp hv
    obtain ⟨heach, hpairwise⟩ := hfold.mp ⟨c, hadd⟩
    exact ⟨hsome, fun r hr => ⟨(heach r hr).1, (heach r hr).2.1, hzone r hr⟩, hpairwise⟩
  · intro h
    obtain ⟨c, hadd⟩ := hfold.mpr ⟨fun r hr => ⟨(h.each r hr).backendType, (h.each r hr).endpoint,
      fun r' hr' => by cases hr'⟩, h.compatible⟩
    have hfaithful := faithful_empty.addClusters hadd
    rw [List.append_nil] at hfaithful
    have hv : validate o c = .ok () := (hfaithful.perm clusters.reverse_perm).validate_iff.mpr
      ⟨h.some, fun r hr => (h.each r hr).zone⟩
    exact ⟨c, fromBackendClusters_ok_iff.mpr ⟨hadd, hv⟩⟩

end All

/-- The order in which the resources are listed, and the orders of the loops, decide neither
whether the resources are accepted nor the configuration, which says what they say. -/
theorem fromBackendClusters_perm (o o' : Orders) (clusters clusters' : List BackendCluster)
    (hperm : clusters.Perm clusters') :
    ((∃ c, fromBackendClusters o clusters = .ok c) ↔
      ∃ c', fromBackendClusters o' clusters' = .ok c') ∧
    ∀ c, fromBackendClusters o clusters = .ok c → Faithful clusters c ∧
      ∀ c', fromBackendClusters o' clusters' = .ok c' → c.Same c' := by
  constructor
  · rw [exists_fromBackendClusters_iff, exists_fromBackendClusters_iff]
    exact ⟨fun h => h.perm hperm, fun h => h.perm hperm.symm⟩
  · intro c hc
    have hfaithful := faithful_of_fromBackendClusters hc
    refine ⟨hfaithful, fun c' hc' => ?_⟩
    exact hfaithful.same ((faithful_of_fromBackendClusters hc').perm hperm.symm)

section Instance

def clusterA : BackendCluster := ⟨"a", "ceph-rbd", "", "zone-a", true, "/run/ceph.sock"⟩

def clusterB : BackendCluster := ⟨"west", "ceph-rbd", "b", "zone-b", false, "/run/ceph.sock"⟩

theorem fromBackendClusters_perm_swapped :
    (∃ c, fromBackendClusters listedOrders [clusterB, clusterA] = .ok c) ∧
      ∀ c, fromBackendClusters listedOrders [clusterA, clusterB] = .ok c →
        Faithful [clusterA, clusterB] c := by
  have hperm := fromBackendClusters_perm listedOrders listedOrders [clusterA, clusterB]
    [clusterB, clusterA] (.swap _ _ _)
  exact ⟨hperm.1.mp ⟨_, rfl⟩, fun c hc => (hperm.2 c hc).1⟩

end Instance

end BardCsi.Dispatch
