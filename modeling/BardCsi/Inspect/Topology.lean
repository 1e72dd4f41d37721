import BardCsi.Inspect.Scan

/-!
The scanner reports zones from which no volume can be provisioned. It looks at the instances of
the configuration where the dispatcher looks at its index of zones. The two agree on every
backend type that has a name; a file may also configure the empty one, which no request can ask
for.
-/
namespace BardCsi.Inspect

open Dispatch

section Resolvable

variable {o : Dispatch.Orders} {c : Config} {bt zone : String} {bc : BackendConfig}

theorem serves_iff (hbc : c.backends.get bt = some bc) :
    c.Serves bt zone ↔ ∃ e ∈ bc.instances.entries, e.2.zone = zone := by
  simp only [Config.Serves, Config.zoneOf, hbc, Option.bind_some, Option.map_eq_some_iff]
  constructor
  · rintro ⟨inst, ic, hic, rfl⟩
    exact ⟨(inst, ic), Table.get_eq_some_iff.mp hic, rfl⟩
  · rintro ⟨⟨inst, ic⟩, hmem, rfl⟩
    exact ⟨inst, ic, Table.get_eq_some_iff.mpr hmem, rfl⟩

theorem zoneResolvable_iff (hbc : c.backends.get bt = some bc) :
    zoneResolvable o c bt zone = true ↔
      c.Serves bt zone ∨ c.defaults.lookup bt ≠ "" ∨ bc.instances.size = 1 := by
  have hany : (o.instances.arrange bc.instances.entries).any (fun e => e.2.zone = zone) = true ↔
      c.Serves bt zone := by
    simp [serves_iff hbc, (o.instances.perm _).mem_iff]
  simp only [zoneResolvable, hbc, Option.map_some, Option.getD_some, Bool.or_eq_true, hany,
    decide_eq_true_eq, or_assoc]

theorem size_eq_one_iff (hbc : c.backends.get bt = some bc) :
    bc.instances.size = 1 ↔
      ∃ inst zone, ∀ i z, c.zoneOf bt i = some z ↔ i = inst ∧ z = zone := by
  have hzone : ∀ i z, c.zoneOf bt i = some z ↔ (i, ⟨z⟩) ∈ bc.instances.entries := by
    intro i z
    rw [← Table.get_eq_some_iff, Config.zoneOf, hbc, Option.bind_some, Option.map_eq_some_iff]
    constructor
    · rintro ⟨ic, hic, rfl⟩
      exact hic
    · exact fun hic => ⟨⟨z⟩, hic, rfl⟩
  simp only [hzone]
  constructor
  · intro hsize
    obtain ⟨⟨inst, ⟨zone⟩⟩, hentries⟩ := List.length_eq_one_iff.mp hsize
    exact ⟨inst, zone, fun i z => by simp [hentries]⟩
  · rintro ⟨inst, zone, honly⟩
    have hnodup : bc.instances.entries.Nodup := bc.instances.nodup.of_map
    have hperm : bc.instances.entries.Perm [(inst, ⟨zone⟩)] := by
      rw [List.perm_ext_iff_of_nodup hnodup (List.nodup_singleton _)]
      rintro ⟨i, ⟨z⟩⟩
      rw [honly]
      simp
    exact hperm.length_eq

theorem exists_picks_iff (hbc : c.backends.get bt = some bc) (hsome : bc.instances.size ≠ 0) :
    (∃ r, Picks c bt [zone] [] r) ↔ zoneResolvable o c bt zone = true := by
  rw [zoneResolvable_iff hbc, size_eq_one_iff hbc]
  constructor
  · rintro ⟨r, hr⟩
    cases hr with
    | preferred hfirst hzone =>
      obtain ⟨hmem, hserves⟩ := hfirst.mem
      exact .inl (List.mem_singleton.mp hmem ▸ hserves)
    | requisite hnone hfirst hzone => exact absurd hfirst.mem.1 (by simp)
    | default hnone hnone' hserved hdefault => exact .inr (.inl hdefault)
    | single hnone hnone' hdefault honly => exact .inr (.inr ⟨_, _, honly⟩)
  · intro h
    by_cases hserves : c.Serves bt zone
    · obtain ⟨inst, hinst⟩ := hserves
      exact ⟨_, .preferred ⟨[], [], rfl, ⟨inst, hinst⟩, by simp⟩ hinst⟩
    have hnone : NoneServed c bt [zone] := by simpa [NoneServed] using hserves
    have hnone' : NoneServed c bt [] := by simp [NoneServed]
    by_cases hdefault : c.defaults.lookup bt = ""
    · rcases h with h | h | ⟨inst, zone', honly⟩
      · exact absurd h hserves
      · exact absurd hdefault h
      · exact ⟨_, .single hnone hnone' hdefault honly⟩
    · obtain ⟨⟨inst, ic⟩, hmem⟩ := List.exists_mem_of_length_pos (Nat.pos_of_ne_zero hsome)
      exact ⟨_, .default hnone hnone'
        ⟨ic.zone, (serves_iff hbc).mpr ⟨_, hmem, rfl⟩⟩ hdefault⟩

end Resolvable

/-- Nothing in the configuration helps a request for the type that comes from the zone. -/
def Unserved (c : Config) (bt zone : String) : Prop :=
  ¬ c.Serves bt zone ∧ c.defaultFor bt = none ∧
    ∃ inst inst', inst ≠ inst' ∧ (∃ z, c.zoneOf bt inst = some z) ∧
      ∃ z, c.zoneOf bt inst' = some z

section Unserved

variable {o : Dispatch.Orders} {c : Config} {bt zone : String} {bc : BackendConfig}

theorem not_unserved_iff (hbc : c.backends.get bt = some bc) (hsome : bc.instances.size ≠ 0) :
    ¬ Unserved c bt zone ↔ zoneResolvable o c bt zone = true := by
  have hdefault : c.defaultFor bt = none ↔ c.defaults.lookup bt = "" := by
    rw [Config.defaultFor]
    split_ifs with h <;> simp [h]
  rw [zoneResolvable_iff hbc, Unserved, hdefault]
  have htwo : (∃ inst inst', inst ≠ inst' ∧ (∃ z, c.zoneOf bt inst = some z) ∧
      ∃ z, c.zoneOf bt inst' = some z) ↔ bc.instances.size ≠ 1 := by
    rw [ne_eq, size_eq_one_iff hbc]
    constructor
    · rintro ⟨inst, inst', hne, ⟨z, hz⟩, z', hz'⟩ ⟨i, zone, honly⟩
      exact hne (((honly _ _).mp hz).1.trans ((honly _ _).mp hz').1.symm)
    · intro hmany
      obtain ⟨⟨inst, ic⟩, hmem⟩ := List.exists_mem_of_length_pos (Nat.pos_of_ne_zero hsome)
      have hzone : c.zoneOf bt inst = some ic.zone := by
        rw [Config.zoneOf, hbc, Option.bind_some, Table.get_eq_some_iff.mpr hmem, Option.map_some]
      by_contra hall
      refine hmany ⟨inst, ic.zone, fun i z => ⟨fun hz => ?_, ?_⟩⟩
      · by_cases hne : i = inst
        · subst hne
          exact ⟨rfl, Option.some.inj (hz.symm.trans hzone)⟩
        · exact absurd ⟨i, inst, hne, ⟨z, hz⟩, _, hzone⟩ hall
      · rintro ⟨rfl, rfl⟩
        exact hzone
  rw [htwo]
  tauto

end Unserved

/-- The scanner and the dispatcher agree on a configured backend type and a zone exactly when the
type has a name, or neither of them finds an instance. -/
theorem zoneResolvable_iff_resolve (o₁ o₂ o₃ o₄ : Dispatch.Orders)
    (dial : String → String → Except String Unit) (c : Config) (d : Dispatcher)
    (params : String → String) (zone : String) (bc : BackendConfig)
    (hvalid : validate o₁ c = .ok ()) (hbuild : build o₂ dial c = .ok d)
    (hbc : c.backends.get (params backendParamKey) = some bc) :
    (zoneResolvable o₃ c (params backendParamKey) zone = true ↔
      ∃ r, resolve o₄ d params [zone] [] = .ok r) ↔
      params backendParamKey ≠ "" ∨ Unserved c (params backendParamKey) zone := by
  have hsome : bc.instances.size ≠ 0 := by
    unfold validate at hvalid
    split_ifs at hvalid
    rw [validateBackends_ok_iff] at hvalid
    have hmem := (o₁.backends.perm _).mem_iff.mpr (Table.get_eq_some_iff.mp hbc)
    exact (hvalid _ hmem).1
  have hunserved : ¬ Unserved c (params backendParamKey) zone ↔
      zoneResolvable o₃ c (params backendParamKey) zone = true := not_unserved_iff hbc hsome
  by_cases hbt : params backendParamKey = ""
  · have hfails : ¬ ∃ r, resolve o₄ d params [zone] [] = .ok r := by
      rintro ⟨r, hr⟩
      exact (picks_of_resolve hbuild hr).1 hbt
    rw [iff_false_right hfails, ← hunserved, not_not]
    simp [hbt]
  · have hresolve : (∃ r, resolve o₄ d params [zone] [] = .ok r) ↔
        ∃ r, Picks c (params backendParamKey) [zone] [] r :=
      ⟨fun ⟨r, hr⟩ => ⟨r, (picks_of_resolve hbuild hr).2⟩,
        fun ⟨r, hr⟩ => ⟨r, resolve_of_picks hbuild hbt hr⟩⟩
    rw [hresolve, exists_picks_iff (o := o₃) hbc hsome]
    simp [hbt]

section Instance

/-- A file with a backend type that has no name. -/
def unnamedBackend : Config where
  backends := ⟨[("", twoZones), ("ceph-rbd", twoZones)], by decide⟩
  defaults := .empty

def paramsFor (bt key : String) : String := if key = backendParamKey then bt else ""

theorem unnamed_backend_not_resolved :
    (load listedOrders "bard.yaml" unnamedBackend).toOption.isSome = true ∧
      zoneResolvable listedOrders unnamedBackend "" "zone-a" = true ∧
      ((build listedOrders answering unnamedBackend).bind fun d =>
        resolve listedOrders d (paramsFor "") ["zone-a"] []) =
          .error ["StorageClass parameter ", "backend", " is required"] := by
  decide +kernel

theorem zoneResolvable_iff_resolve_named :
    ∃ d, build listedOrders answering unnamedBackend = .ok d ∧
    ((zoneResolvable listedOrders unnamedBackend "ceph-rbd" "zone-b" = true ↔
      ∃ r, resolve listedOrders d (paramsFor "ceph-rbd") ["zone-b"] [] = .ok r) ↔
      "ceph-rbd" ≠ "" ∨ Unserved unnamedBackend "ceph-rbd" "zone-b") :=
  ⟨_, rfl, zoneResolvable_iff_resolve listedOrders listedOrders listedOrders listedOrders answering
    unnamedBackend _ (paramsFor "ceph-rbd") "zone-b" twoZones rfl rfl rfl⟩

end Instance

end BardCsi.Inspect
