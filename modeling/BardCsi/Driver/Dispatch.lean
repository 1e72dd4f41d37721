import BardCsi.Strings
import BardCsi.Table

/-!
Which backend instance a new volume is created on. The configuration comes from a file or from
`BackendCluster` resources, is turned into an index of zones, and the index is searched for the
preferred zones, then for the requisite ones. A request without a usable zone goes to the
default, which a file may set to an instance that does not exist.
-/
namespace BardCsi.Dispatch

open Assoc (MapOrder)

/-- The parts of an error message, a quoted text as one of them. -/
abbrev Message := List String

structure PluginConfig where
  endpoint : String
deriving DecidableEq, Repr

structure InstanceConfig where
  zone : String
deriving DecidableEq, Repr

structure BackendConfig where
  plugin : Option PluginConfig
  instances : Table String InstanceConfig

structure Config where
  backends : Table String BackendConfig
  defaults : Table String String

/-- The orders in which the loops over the maps take the entries. -/
structure Orders where
  backends : MapOrder (String × BackendConfig)
  instances : MapOrder (String × InstanceConfig)
  zones : MapOrder (String × Table String String)
  pairs : MapOrder (String × String)

def validateInstances (bt : String) : List (String × InstanceConfig) → Except Message Unit
  | [] => .ok ()
  | (inst, ic) :: rest =>
      if ic.zone = "" then .error ["backend ", bt, " instance ", inst, " has no zone"]
      else validateInstances bt rest

def validateBackends (o : Orders) : List (String × BackendConfig) → Except Message Unit
  | [] => .ok ()
  | (bt, bc) :: rest =>
      if bc.instances.size = 0 then .error ["backend ", bt, " has no instances"]
      else
        match validateInstances bt (o.instances.arrange bc.instances.entries) with
        | .error e => .error e
        | .ok () => validateBackends o rest

def validate (o : Orders) (c : Config) : Except Message Unit :=
  if c.backends.size = 0 then .error ["no backends configured"]
  else validateBackends o (o.backends.arrange c.backends.entries)

/-- Load a file that parses to the given document. -/
def load (o : Orders) (path : String) (c : Config) : Except Message Config :=
  match validate o c with
  | .error e => .error (["invalid config ", path, ": "] ++ e)
  | .ok () => .ok c

structure BackendCluster where
  name : String
  backendType : String
  inst : String
  zone : String
  isDefault : Bool
  endpoint : String
deriving DecidableEq, Repr

def BackendCluster.instanceID (c : BackendCluster) : String :=
  if c.inst ≠ "" then c.inst else c.name

/-- The backend of a cluster resource as the resources before it have left it. -/
def backendFor (cfg : Config) (c : BackendCluster) : Except Message BackendConfig :=
  match cfg.backends.get c.backendType with
  | none => .ok ⟨some ⟨c.endpoint⟩, .empty⟩
  | some bc =>
      match bc.plugin with
      | none => .ok bc
      | some plugin =>
          if plugin.endpoint ≠ c.endpoint then
            .error ["backend ", c.backendType, ": conflicting plugin endpoints ",
              plugin.endpoint, " and ", c.endpoint]
          else .ok bc

def addCluster (cfg : Config) (c : BackendCluster) : Except Message Config :=
  let bt := c.backendType
  let inst := c.instanceID
  if bt = "" then .error ["BackendCluster ", c.name, ": empty backendType"]
  else if c.endpoint = "" then .error ["BackendCluster ", c.name, ": empty plugin.endpoint"]
  else
    match backendFor cfg c with
    | .error e => .error e
    | .ok bc =>
        if (bc.instances.get inst).isSome then
          .error ["backend ", bt, ": duplicate instance ", inst]
        else
          let backends := cfg.backends.set bt ⟨bc.plugin, bc.instances.set inst ⟨c.zone⟩⟩
          if c.isDefault then
            match cfg.defaults.get bt with
            | some prev =>
                .error ["backend ", bt, ": more than one default instance (", prev, " and ", inst,
                  ")"]
            | none => .ok ⟨backends, cfg.defaults.set bt inst⟩
          else .ok ⟨backends, cfg.defaults⟩

def addClusters : List BackendCluster → Config → Except Message Config
  | [], cfg => .ok cfg
  | c :: rest, cfg =>
      match addCluster cfg c with
      | .error e => .error e
      | .ok cfg' => addClusters rest cfg'

def fromBackendClusters (o : Orders) (clusters : List BackendCluster) : Except Message Config :=
  match addClusters clusters ⟨.empty, .empty⟩ with
  | .error e => .error e
  | .ok cfg =>
      match validate o cfg with
      | .error e => .error (["invalid BackendCluster set: "] ++ e)
      | .ok () => .ok cfg

/-! The dispatcher. -/

structure DispatchConfig where
  instances : Table String (Table String String)
  defaults : Table String String

structure Dispatcher where
  cfg : DispatchConfig
  zoneIndex : Table String (Table String String)

def indexZones (bt : String) :
    List (String × String) → Table String String → Except Message (Table String String)
  | [], zi => .ok zi
  | (inst, zone) :: rest, zi =>
      match zi.get zone with
      | some existing =>
          .error ["backend ", bt, ": instances ", existing, " and ", inst, " both claim zone ",
            zone]
      | none => indexZones bt rest (zi.set zone inst)

def indexBackends (o : Orders) : List (String × Table String String) →
    Table String (Table String String) → Except Message (Table String (Table String String))
  | [], idx => .ok idx
  | (bt, instances) :: rest, idx =>
      match indexZones bt (o.pairs.arrange instances.entries) .empty with
      | .error e => .error e
      | .ok zi => indexBackends o rest (idx.set bt zi)

def new (o : Orders) (cfg : DispatchConfig) : Except Message Dispatcher :=
  match indexBackends o (o.zones.arrange cfg.instances.entries) .empty with
  | .error e => .error e
  | .ok idx => .ok ⟨cfg, idx⟩

/-- The zones of the instances of a backend. -/
def zonesOf (o : Orders) (bc : BackendConfig) : Table String String :=
  (o.instances.arrange bc.instances.entries).foldl (fun zones e => zones.set e.1 e.2.zone) .empty

/-- The instances that the dispatcher is given. -/
def zoneTable (o : Orders) (c : Config) : Table String (Table String String) :=
  (o.backends.arrange c.backends.entries).foldl (fun t e => t.set e.1 (zonesOf o e.2)) .empty

/-- Connect the plugins. The registry that this fills is of no interest here. -/
def dialPlugins (dial : String → String → Except String Unit) :
    List (String × BackendConfig) → Except Message Unit
  | [] => .ok ()
  | (bt, bc) :: rest =>
      match bc.plugin with
      | none => .error ["backend ", bt, " has no plugin endpoint"]
      | some plugin =>
          match dial bt plugin.endpoint with
          | .error err => .error ["backend ", bt, " plugin: ", err]
          | .ok () => dialPlugins dial rest

def build (o : Orders) (dial : String → String → Except String Unit) (cfg : Config) :
    Except Message Dispatcher :=
  match dialPlugins dial (o.backends.arrange cfg.backends.entries) with
  | .error e => .error e
  | .ok () => new o ⟨zoneTable o cfg, cfg.defaults⟩

inductive Decision where
  | preferred
  | requisite
  | default
  | singleInstance
deriving DecidableEq, Repr

structure Resolution where
  backend : String
  inst : String
  zone : String
  decision : Decision
deriving DecidableEq, Repr

/-- The first of the zones that is in the index, with its instance. -/
def firstIndexed (zi : Table String String) : List String → Option (String × String)
  | [] => none
  | zone :: rest =>
      match zi.get zone with
      | some inst => some (zone, inst)
      | none => firstIndexed zi rest

def backendParamKey : String := "backend"

/-- The configured default, else the only instance. -/
def fallback (o : Orders) (d : Dispatcher) (bt : String) (zi : Table String String) :
    Except Message Resolution :=
  let inst := d.cfg.defaults.lookup bt
  if inst ≠ "" then
    .ok ⟨bt, inst, ((d.cfg.instances.get bt).getD .empty).lookup inst, .default⟩
  else
    match o.pairs.arrange zi.entries with
    | [(zone, inst)] => .ok ⟨bt, inst, zone, .singleInstance⟩
    | entries => .error ["backend ", bt, " has ", Strings.itoa entries.length,
        " instances but the request carried no matching topology and no default is set"]

def resolve (o : Orders) (d : Dispatcher) (params : String → String)
    (preferred requisite : List String) : Except Message Resolution :=
  let bt := params backendParamKey
  if bt = "" then .error ["StorageClass parameter ", backendParamKey, " is required"]
  else
    match d.zoneIndex.get bt with
    | none => .error ["no instances configured for backend ", bt]
    | some zi =>
        if zi.size = 0 then .error ["no instances configured for backend ", bt]
        else
          match firstIndexed zi preferred with
          | some (zone, inst) => .ok ⟨bt, inst, zone, .preferred⟩
          | none =>
              match firstIndexed zi requisite with
              | some (zone, inst) => .ok ⟨bt, inst, zone, .requisite⟩
              | none => fallback o d bt zi

/-! What loading accepts, whatever order its loops use. -/

section Loops

variable {o : Orders}

theorem validateInstances_ok_iff {bt : String} {l : List (String × InstanceConfig)} :
    validateInstances bt l = .ok () ↔ ∀ e ∈ l, e.2.zone ≠ "" := by
  induction l with
  | nil => simp [validateInstances]
  | cons e l ih =>
    obtain ⟨inst, ic⟩ := e
    by_cases h : ic.zone = "" <;> simp [validateInstances, h, ih]

theorem validateBackends_ok_iff {l : List (String × BackendConfig)} :
    validateBackends o l = .ok () ↔ ∀ e ∈ l, e.2.instances.size ≠ 0 ∧
      ∀ i ∈ e.2.instances.entries, i.2.zone ≠ "" := by
  induction l with
  | nil => simp [validateBackends]
  | cons e l ih =>
    obtain ⟨bt, bc⟩ := e
    have hinst : validateInstances bt (o.instances.arrange bc.instances.entries) = .ok () ↔
        ∀ i ∈ bc.instances.entries, i.2.zone ≠ "" := by
      rw [validateInstances_ok_iff]
      exact forall_congr' fun e => by rw [(o.instances.perm _).mem_iff]
    rw [List.forall_mem_cons, ← ih, ← hinst]
    by_cases hsize : bc.instances.size = 0
    · simp [validateBackends, hsize]
    · rcases h : validateInstances bt (o.instances.arrange bc.instances.entries) with e | u
      · simp [validateBackends, hsize, h]
      · simp [validateBackends, hsize, h]

theorem validate_ok_congr {o' : Orders} {c : Config} (h : validate o c = .ok ()) :
    validate o' c = .ok () := by
  unfold validate at h ⊢
  split_ifs at h ⊢
  rw [validateBackends_ok_iff] at h ⊢
  intro e he
  exact h e ((o.backends.perm _).mem_iff.mpr ((o'.backends.perm _).mem_iff.mp he))

theorem dialPlugins_ok_iff (dial : String → String → Except String Unit)
    (l : List (String × BackendConfig)) :
    dialPlugins dial l = .ok () ↔
      ∀ e ∈ l, ∃ plugin, e.2.plugin = some plugin ∧ dial e.1 plugin.endpoint = .ok () := by
  induction l with
  | nil => simp [dialPlugins]
  | cons e l ih =>
    obtain ⟨bt, bc⟩ := e
    rw [List.forall_mem_cons, ← ih]
    rcases hplugin : bc.plugin with _ | plugin
    · simp [dialPlugins, hplugin]
    · rcases hdial : dial bt plugin.endpoint with e | u
      · simp [dialPlugins, hplugin, hdial]
      · simp [dialPlugins, hplugin, hdial]

end Loops

/-! The index of zones. -/

section Index

variable {o : Orders} {bt : String} {zi : Table String String}

theorem indexZones_ok_iff {l : List (String × String)} {zi' : Table String String}
    (h : indexZones bt l zi = .ok zi') {zone inst : String} :
    zi'.get zone = some inst ↔ zi.get zone = some inst ∨ (inst, zone) ∈ l := by
  induction l generalizing zi with
  | nil =>
    cases h
    simp
  | cons e l ih =>
    obtain ⟨inst', zone'⟩ := e
    rw [indexZones] at h
    rcases hget : zi.get zone' with _ | existing
    · rw [hget] at h
      rw [ih h, Table.get_set]
      by_cases hz : zone = zone'
      · subst hz
        simp only [if_true, Option.some.injEq, hget, List.mem_cons, Prod.mk.injEq, and_true]
        constructor
        · rintro (rfl | hmem)
          · exact .inr (.inl rfl)
          · exact .inr (.inr hmem)
        · rintro (hnone | rfl | hmem)
          · cases hnone
          · exact .inl rfl
          · exact .inr hmem
      · simp [hz]
    · rw [hget] at h
      cases h

theorem exists_indexZones_iff {l : List (String × String)} :
    (∃ zi', indexZones bt l zi = .ok zi') ↔
      (l.map Prod.snd).Nodup ∧ ∀ e ∈ l, zi.get e.2 = none := by
  induction l generalizing zi with
  | nil => simp [indexZones]
  | cons e l ih =>
    obtain ⟨inst, zone⟩ := e
    rw [List.map_cons, List.nodup_cons, List.forall_mem_cons, indexZones]
    rcases hget : zi.get zone with _ | existing
    · have hset : ∀ x, (zi.set zone inst).get x = none ↔ x ≠ zone ∧ zi.get x = none := by
        intro x
        rw [Table.get_set]
        by_cases hx : x = zone <;> simp [hx]
      simp only [ih, hset, true_and]
      constructor
      · rintro ⟨hnodup, hall⟩
        refine ⟨⟨?_, hnodup⟩, fun e he => (hall e he).2⟩
        intro hmem
        obtain ⟨e, he, rfl⟩ := List.mem_map.mp hmem
        exact (hall e he).1 rfl
      · rintro ⟨⟨hnot, hnodup⟩, hall⟩
        refine ⟨hnodup, fun e he => ⟨?_, hall e he⟩⟩
        rintro rfl
        exact hnot (List.mem_map.mpr ⟨e, he, rfl⟩)
    · simp

theorem indexBackends_get {l : List (String × Table String String)}
    {idx idx' : Table String (Table String String)} (h : indexBackends o l idx = .ok idx')
    (hl : (l.map Prod.fst).Nodup) (hfresh : ∀ e ∈ l, idx.get e.1 = none) :
    idx'.get bt = some zi ↔ idx.get bt = some zi ∨
      ∃ t, (bt, t) ∈ l ∧ indexZones bt (o.pairs.arrange t.entries) .empty = .ok zi := by
  induction l generalizing idx with
  | nil =>
    cases h
    simp
  | cons e l ih =>
    obtain ⟨bt', t⟩ := e
    rw [List.map_cons, List.nodup_cons] at hl
    rw [indexBackends] at h
    rcases hzones : indexZones bt' (o.pairs.arrange t.entries) .empty with e | zi'
    · rw [hzones] at h
      cases h
    · rw [hzones] at h
      have hnone : idx.get bt' = none := hfresh (bt', t) List.mem_cons_self
      have hfresh' : ∀ e ∈ l, (idx.set bt' zi').get e.1 = none := by
        intro e he
        have hne : e.1 ≠ bt' := by
          rintro rfl
          exact hl.1 (List.mem_map.mpr ⟨e, he, rfl⟩)
        rw [Table.get_set, if_neg hne]
        exact hfresh e (List.mem_cons_of_mem _ he)
      rw [ih h hl.2 hfresh', Table.get_set]
      by_cases hbt : bt = bt'
      · subst hbt
        have hnot : ∀ t, (bt, t) ∉ l := fun t ht => hl.1 (List.mem_map.mpr ⟨(bt, t), ht, rfl⟩)
        simp [hnone, hnot, hzones]
      · simp [hbt]

theorem exists_indexBackends_iff {l : List (String × Table String String)}
    {idx : Table String (Table String String)} :
    (∃ idx', indexBackends o l idx = .ok idx') ↔ ∀ e ∈ l, (e.2.entries.map Prod.snd).Nodup := by
  induction l generalizing idx with
  | nil => simp [indexBackends]
  | cons e l ih =>
    obtain ⟨bt, t⟩ := e
    have hzones : (∃ zi, indexZones bt (o.pairs.arrange t.entries) .empty = .ok zi) ↔
        (t.entries.map Prod.snd).Nodup := by
      rw [exists_indexZones_iff, ((o.pairs.perm t.entries).map Prod.snd).nodup_iff]
      simp
    rw [List.forall_mem_cons, ← hzones, indexBackends]
    rcases h : indexZones bt (o.pairs.arrange t.entries) .empty with e | zi
    · simp
    · simpa using ih

end Index

/-! What the configuration says, and what a dispatcher that is built from it knows. -/

/-- The zone of an instance of a backend. -/
def Config.zoneOf (c : Config) (bt inst : String) : Option String :=
  (c.backends.get bt).bind fun bc => (bc.instances.get inst).map InstanceConfig.zone

def Config.Serves (c : Config) (bt zone : String) : Prop := ∃ inst, c.zoneOf bt inst = some zone

section Build

variable {o : Orders} {dial : String → String → Except String Unit} {c : Config} {d : Dispatcher}
variable {bt : String} {inst zone : String}

theorem zonesOf_get {bc : BackendConfig} :
    (zonesOf o bc).get inst = some zone ↔
      (bc.instances.get inst).map InstanceConfig.zone = some zone := by
  have hperm := o.instances.perm bc.instances.entries
  rw [zonesOf, Table.get_foldl_set (Table.nodup_of_perm hperm bc.instances.nodup) (by simp),
    Table.get_empty, Option.map_eq_some_iff]
  simp only [hperm.mem_iff, ← Table.get_eq_some_iff]
  simp

theorem zoneTable_get {t : Table String String} :
    (zoneTable o c).get bt = some t ↔ ∃ bc, c.backends.get bt = some bc ∧ zonesOf o bc = t := by
  have hperm := o.backends.perm c.backends.entries
  rw [zoneTable, Table.get_foldl_set (Table.nodup_of_perm hperm c.backends.nodup) (by simp),
    Table.get_empty]
  simp only [hperm.mem_iff, ← Table.get_eq_some_iff]
  simp

theorem build_ok_iff : build o dial c = .ok d ↔
    dialPlugins dial (o.backends.arrange c.backends.entries) = .ok () ∧
      d.cfg = ⟨zoneTable o c, c.defaults⟩ ∧
      indexBackends o (o.zones.arrange (zoneTable o c).entries) .empty = .ok d.zoneIndex := by
  unfold build new
  rcases dialPlugins dial (o.backends.arrange c.backends.entries) with e | u
  · simp
  · rcases indexBackends o (o.zones.arrange (zoneTable o c).entries) .empty with e | idx
    · simp
    · obtain ⟨cfg, idx'⟩ := d
      simp [eq_comm]

theorem zoneIndex_eq_some_iff (h : build o dial c = .ok d) {zi : Table String String} :
    d.zoneIndex.get bt = some zi ↔ ∃ bc, c.backends.get bt = some bc ∧
      indexZones bt (o.pairs.arrange (zonesOf o bc).entries) .empty = .ok zi := by
  obtain ⟨-, -, hindex⟩ := build_ok_iff.mp h
  have hperm := o.zones.perm (zoneTable o c).entries
  rw [indexBackends_get hindex (Table.nodup_of_perm hperm (zoneTable o c).nodup) (by simp)]
  simp only [hperm.mem_iff, ← Table.get_eq_some_iff, zoneTable_get, Table.get_empty]
  constructor
  · rintro (hnone | ⟨_, ⟨bc, hbc, rfl⟩, hzi⟩)
    · cases hnone
    · exact ⟨bc, hbc, hzi⟩
  · rintro ⟨bc, hbc, hzi⟩
    exact .inr ⟨_, ⟨bc, hbc, rfl⟩, hzi⟩

theorem zoneIndex_get (h : build o dial c = .ok d) {zi : Table String String}
    (hzi : d.zoneIndex.get bt = some zi) :
    zi.get zone = some inst ↔ c.zoneOf bt inst = some zone := by
  obtain ⟨bc, hbc, hzones⟩ := (zoneIndex_eq_some_iff h).mp hzi
  rw [indexZones_ok_iff hzones, (o.pairs.perm _).mem_iff, ← Table.get_eq_some_iff, zonesOf_get,
    Config.zoneOf, hbc]
  simp

theorem exists_zoneIndex (h : build o dial c = .ok d) (hzone : c.zoneOf bt inst = some zone) :
    ∃ zi, d.zoneIndex.get bt = some zi := by
  obtain ⟨-, -, hindex⟩ := build_ok_iff.mp h
  rcases hbc : c.backends.get bt with _ | bc
  · simp [Config.zoneOf, hbc] at hzone
  · have hmem : (bt, zonesOf o bc) ∈ o.zones.arrange (zoneTable o c).entries := by
      rw [(o.zones.perm _).mem_iff, ← Table.get_eq_some_iff, zoneTable_get]
      exact ⟨bc, hbc, rfl⟩
    have hnodup := exists_indexBackends_iff.mp ⟨_, hindex⟩ _ hmem
    have hindexed : ∃ zi, indexZones bt (o.pairs.arrange (zonesOf o bc).entries) .empty = .ok zi :=
      exists_indexZones_iff.mpr ⟨((o.pairs.perm _).map Prod.snd).nodup_iff.mpr hnodup, by simp⟩
    obtain ⟨zi, hzi⟩ := hindexed
    exact ⟨zi, (zoneIndex_eq_some_iff h).mpr ⟨bc, hbc, hzi⟩⟩

/-- No two instances of a backend serve one zone. -/
def Config.Unambiguous (c : Config) : Prop :=
  ∀ bt inst inst' zone, c.zoneOf bt inst = some zone → c.zoneOf bt inst' = some zone → inst = inst'

theorem nodup_zonesOf_iff {bc : BackendConfig} (hbc : c.backends.get bt = some bc) :
    ((zonesOf o bc).entries.map Prod.snd).Nodup ↔ ∀ inst inst' zone,
      c.zoneOf bt inst = some zone → c.zoneOf bt inst' = some zone → inst = inst' := by
  have hzone : ∀ inst zone,
      c.zoneOf bt inst = some zone ↔ (inst, zone) ∈ (zonesOf o bc).entries := by
    intro inst zone
    rw [← Table.get_eq_some_iff, zonesOf_get, Config.zoneOf, hbc]
    rfl
  simp only [hzone]
  have hentries : (zonesOf o bc).entries.Nodup := (zonesOf o bc).nodup.of_map
  constructor
  · intro h inst inst' zone hi hi'
    exact (Prod.mk.inj (List.inj_on_of_nodup_map h hi hi' rfl)).1
  · intro h
    refine hentries.map_on ?_
    rintro ⟨inst, zone⟩ hi ⟨inst', zone'⟩ hi' rfl
    rw [h inst inst' zone hi hi']

theorem exists_build_iff : (∃ d, build o dial c = .ok d) ↔
    (∀ e ∈ c.backends.entries, ∃ plugin, e.2.plugin = some plugin ∧
      dial e.1 plugin.endpoint = .ok ()) ∧ c.Unambiguous := by
  have hzones : (∃ idx, indexBackends o (o.zones.arrange (zoneTable o c).entries) .empty =
      .ok idx) ↔ c.Unambiguous := by
    rw [exists_indexBackends_iff]
    constructor
    · intro h bt inst inst' zone hi hi'
      rcases hbc : c.backends.get bt with _ | bc
      · simp [Config.zoneOf, hbc] at hi
      · have hmem : (bt, zonesOf o bc) ∈ o.zones.arrange (zoneTable o c).entries := by
          rw [(o.zones.perm _).mem_iff, ← Table.get_eq_some_iff, zoneTable_get]
          exact ⟨bc, hbc, rfl⟩
        exact (nodup_zonesOf_iff hbc).mp (h _ hmem) inst inst' zone hi hi'
    · rintro h ⟨bt, t⟩ hmem
      rw [(o.zones.perm _).mem_iff, ← Table.get_eq_some_iff, zoneTable_get] at hmem
      obtain ⟨bc, hbc, rfl⟩ := hmem
      exact (nodup_zonesOf_iff hbc).mpr (h bt)
  have hdial := dialPlugins_ok_iff dial (o.backends.arrange c.backends.entries)
  simp only [(o.backends.perm _).mem_iff] at hdial
  rw [← hdial, ← hzones]
  constructor
  · rintro ⟨d, hd⟩
    obtain ⟨h₁, -, h₂⟩ := build_ok_iff.mp hd
    exact ⟨h₁, _, h₂⟩
  · rintro ⟨h₁, idx, h₂⟩
    exact ⟨⟨⟨zoneTable o c, c.defaults⟩, idx⟩, build_ok_iff.mpr ⟨h₁, rfl, h₂⟩⟩

end Build

/-! Which instance a request is sent to, said without the index. -/

/-- The first of the zones that some instance of the backend serves. -/
def FirstServed (c : Config) (bt : String) (zones : List String) (zone : String) : Prop :=
  ∃ before after, zones = before ++ zone :: after ∧ c.Serves bt zone ∧
    ∀ z ∈ before, ¬ c.Serves bt z

def NoneServed (c : Config) (bt : String) (zones : List String) : Prop :=
  ∀ z ∈ zones, ¬ c.Serves bt z

inductive Picks (c : Config) (bt : String) (preferred requisite : List String) :
    Resolution → Prop where
  | preferred {inst zone : String} (hfirst : FirstServed c bt preferred zone)
      (hzone : c.zoneOf bt inst = some zone) :
      Picks c bt preferred requisite ⟨bt, inst, zone, .preferred⟩
  | requisite {inst zone : String} (hpreferred : NoneServed c bt preferred)
      (hfirst : FirstServed c bt requisite zone) (hzone : c.zoneOf bt inst = some zone) :
      Picks c bt preferred requisite ⟨bt, inst, zone, .requisite⟩
  | default (hpreferred : NoneServed c bt preferred) (hrequisite : NoneServed c bt requisite)
      (hserved : ∃ zone, c.Serves bt zone) (hdefault : c.defaults.lookup bt ≠ "") :
      Picks c bt preferred requisite ⟨bt, c.defaults.lookup bt,
        (c.zoneOf bt (c.defaults.lookup bt)).getD "", .default⟩
  | single {inst zone : String} (hpreferred : NoneServed c bt preferred)
      (hrequisite : NoneServed c bt requisite) (hdefault : c.defaults.lookup bt = "")
      (honly : ∀ i z, c.zoneOf bt i = some z ↔ i = inst ∧ z = zone) :
      Picks c bt preferred requisite ⟨bt, inst, zone, .singleInstance⟩

section Resolve

variable {o o' : Orders} {dial : String → String → Except String Unit} {c : Config}
variable {d : Dispatcher} {bt : String} {zi : Table String String} {zones : List String}
variable {zone : String}

theorem firstIndexed_eq_none_iff (hzi : ∀ zone inst, zi.get zone = some inst ↔
    c.zoneOf bt inst = some zone) : firstIndexed zi zones = none ↔ NoneServed c bt zones := by
  induction zones with
  | nil => simp [firstIndexed, NoneServed]
  | cons zone zones ih =>
    rw [NoneServed, List.forall_mem_cons, firstIndexed]
    rcases hget : zi.get zone with _ | inst
    · have hnot : ¬ c.Serves bt zone := by
        rintro ⟨inst, hinst⟩
        rw [← hzi, hget] at hinst
        cases hinst
      rw [← NoneServed, and_iff_right hnot]
      exact ih
    · have hserves : c.Serves bt zone := ⟨inst, (hzi zone inst).mp hget⟩
      simp [hserves]

theorem firstServed_cons_iff {z : String} : FirstServed c bt (z :: zones) zone ↔
    z = zone ∧ c.Serves bt zone ∨ ¬ c.Serves bt z ∧ FirstServed c bt zones zone := by
  constructor
  · rintro ⟨before, after, heq, hserves, hbefore⟩
    cases before with
    | nil =>
      obtain ⟨rfl, -⟩ := List.cons.inj heq
      exact .inl ⟨rfl, hserves⟩
    | cons y before =>
      obtain ⟨rfl, rfl⟩ := List.cons.inj heq
      rw [List.forall_mem_cons] at hbefore
      exact .inr ⟨hbefore.1, before, after, rfl, hserves, hbefore.2⟩
  · rintro (⟨rfl, hserves⟩ | ⟨hnot, before, after, rfl, hserves, hbefore⟩)
    · exact ⟨[], zones, rfl, hserves, by simp⟩
    · exact ⟨z :: before, after, rfl, hserves, List.forall_mem_cons.mpr ⟨hnot, hbefore⟩⟩

theorem firstIndexed_eq_some_iff (hzi : ∀ zone inst, zi.get zone = some inst ↔
    c.zoneOf bt inst = some zone) {inst : String} :
    firstIndexed zi zones = some (zone, inst) ↔
      FirstServed c bt zones zone ∧ c.zoneOf bt inst = some zone := by
  induction zones with
  | nil => simp [firstIndexed, FirstServed]
  | cons z zones ih =>
    rw [firstIndexed, firstServed_cons_iff]
    rcases hget : zi.get z with _ | i
    · have hnot : ¬ c.Serves bt z := by
        rintro ⟨inst, hinst⟩
        rw [← hzi, hget] at hinst
        cases hinst
      have hne : ¬ (z = zone ∧ c.Serves bt zone) := by
        rintro ⟨rfl, hserves⟩
        exact hnot hserves
      simpa [hnot, hne] using ih
    · have hserves : c.Serves bt z := ⟨i, (hzi z i).mp hget⟩
      simp only [Option.some.injEq, Prod.mk.injEq, hserves, not_true, false_and, or_false]
      constructor
      · rintro ⟨rfl, rfl⟩
        exact ⟨⟨rfl, hserves⟩, (hzi z i).mp hget⟩
      · rintro ⟨⟨rfl, -⟩, hzone⟩
        refine ⟨rfl, ?_⟩
        rw [← hzi, hget] at hzone
        exact Option.some.inj hzone

theorem defaults_eq (h : build o dial c = .ok d) : d.cfg.defaults = c.defaults :=
  congrArg DispatchConfig.defaults (build_ok_iff.mp h).2.1

theorem lookup_instances (h : build o dial c = .ok d) (inst : String) :
    ((d.cfg.instances.get bt).getD .empty).lookup inst = (c.zoneOf bt inst).getD "" := by
  obtain ⟨-, hcfg, -⟩ := build_ok_iff.mp h
  rw [hcfg]
  rcases hbc : c.backends.get bt with _ | bc
  · have hnone : (zoneTable o c).get bt = none := by
      rw [Option.eq_none_iff_forall_ne_some]
      intro t ht
      obtain ⟨bc, hbc', -⟩ := zoneTable_get.mp ht
      rw [hbc] at hbc'
      cases hbc'
    simp [hnone, Config.zoneOf, hbc, Table.lookup]
  · have hsome : (zoneTable o c).get bt = some (zonesOf o bc) := zoneTable_get.mpr ⟨bc, hbc, rfl⟩
    have hget : (zonesOf o bc).get inst = c.zoneOf bt inst := by
      apply Option.ext
      intro zone
      rw [zonesOf_get, Config.zoneOf, hbc]
      rfl
    simp [hsome, Table.lookup, hget]

theorem arrange_eq_singleton_iff (hzi : ∀ zone inst, zi.get zone = some inst ↔
    c.zoneOf bt inst = some zone) {inst : String} :
    o.pairs.arrange zi.entries = [(zone, inst)] ↔
      ∀ i z, c.zoneOf bt i = some z ↔ i = inst ∧ z = zone := by
  have hperm := o.pairs.perm zi.entries
  have hmem : ∀ i z, c.zoneOf bt i = some z ↔ (z, i) ∈ o.pairs.arrange zi.entries := by
    intro i z
    rw [hperm.mem_iff, ← Table.get_eq_some_iff, hzi]
  have hnodup : (o.pairs.arrange zi.entries).Nodup := hperm.nodup_iff.mpr zi.nodup.of_map
  constructor
  · intro h i z
    rw [hmem, h]
    simp [and_comm]
  · intro h
    rw [← List.perm_singleton, List.perm_ext_iff_of_nodup hnodup (List.nodup_singleton _)]
    rintro ⟨z, i⟩
    rw [← hmem, h]
    simp [and_comm]

variable {params : String → String} {preferred requisite : List String} {r : Resolution}

theorem picks_of_resolve (h : build o dial c = .ok d)
    (hr : resolve o' d params preferred requisite = .ok r) :
    params backendParamKey ≠ "" ∧ Picks c (params backendParamKey) preferred requisite r := by
  unfold resolve at hr
  by_cases hbt : params backendParamKey = ""
  · rw [if_pos hbt] at hr
    cases hr
  rw [if_neg hbt] at hr
  refine ⟨hbt, ?_⟩
  rcases hzi : d.zoneIndex.get (params backendParamKey) with _ | zi
  · rw [hzi] at hr
    cases hr
  have hget : ∀ zone inst, zi.get zone = some inst ↔
      c.zoneOf (params backendParamKey) inst = some zone := fun _ _ => zoneIndex_get h hzi
  simp only [hzi] at hr
  by_cases hsize : zi.size = 0
  · rw [if_pos hsize] at hr
    cases hr
  rw [if_neg hsize] at hr
  rcases hpref : firstIndexed zi preferred with _ | ⟨zone, inst⟩
  · have hnone := (firstIndexed_eq_none_iff hget).mp hpref
    simp only [hpref] at hr
    rcases hreq : firstIndexed zi requisite with _ | ⟨zone, inst⟩
    · have hnone' := (firstIndexed_eq_none_iff hget).mp hreq
      simp only [hreq, fallback, lookup_instances h, defaults_eq h] at hr
      by_cases hdefault : c.defaults.lookup (params backendParamKey) = ""
      · rw [if_neg (not_not.mpr hdefault)] at hr
        split at hr
        · next zone inst hsingle =>
          cases hr
          exact .single hnone hnone' hdefault ((arrange_eq_singleton_iff hget).mp hsingle)
        · cases hr
      · rw [if_pos hdefault] at hr
        cases hr
        obtain ⟨⟨zone, inst⟩, hmem⟩ := List.exists_mem_of_length_pos (Nat.pos_of_ne_zero hsize)
        exact .default hnone hnone'
          ⟨zone, inst, (hget zone inst).mp (Table.get_eq_some_iff.mpr hmem)⟩ hdefault
    · simp only [hreq] at hr
      cases hr
      obtain ⟨hfirst, hzone⟩ := (firstIndexed_eq_some_iff hget).mp hreq
      exact .requisite hnone hfirst hzone
  · simp only [hpref] at hr
    cases hr
    obtain ⟨hfirst, hzone⟩ := (firstIndexed_eq_some_iff hget).mp hpref
    exact .preferred hfirst hzone

theorem Picks.served (h : Picks c bt preferred requisite r) :
    ∃ inst zone, c.zoneOf bt inst = some zone := by
  cases h with
  | preferred hfirst hzone => exact ⟨_, _, hzone⟩
  | requisite hnone hfirst hzone => exact ⟨_, _, hzone⟩
  | default hnone hnone' hserved hdefault =>
    obtain ⟨zone, inst, hzone⟩ := hserved
    exact ⟨inst, zone, hzone⟩
  | single hnone hnone' hdefault honly => exact ⟨_, _, (honly _ _).mpr ⟨rfl, rfl⟩⟩

theorem resolve_of_picks (h : build o dial c = .ok d) (hbt : params backendParamKey ≠ "")
    (hr : Picks c (params backendParamKey) preferred requisite r) :
    resolve o' d params preferred requisite = .ok r := by
  obtain ⟨inst, zone, hzone⟩ := hr.served
  obtain ⟨zi, hzi⟩ := exists_zoneIndex h hzone
  have hget : ∀ zone inst, zi.get zone = some inst ↔
      c.zoneOf (params backendParamKey) inst = some zone := fun _ _ => zoneIndex_get h hzi
  have hsize : zi.size ≠ 0 := by
    have hmem := Table.get_eq_some_iff.mp ((hget zone inst).mpr hzone)
    exact (List.length_pos_of_mem hmem).ne'
  unfold resolve
  rw [if_neg hbt, hzi]
  simp only [if_neg hsize]
  cases hr with
  | preferred hfirst hzone => rw [(firstIndexed_eq_some_iff hget).mpr ⟨hfirst, hzone⟩]
  | requisite hnone hfirst hzone =>
    rw [(firstIndexed_eq_none_iff hget).mpr hnone,
      (firstIndexed_eq_some_iff hget).mpr ⟨hfirst, hzone⟩]
  | default hnone hnone' hserved hdefault =>
    rw [(firstIndexed_eq_none_iff hget).mpr hnone, (firstIndexed_eq_none_iff hget).mpr hnone']
    simp only [fallback, lookup_instances h, defaults_eq h]
    rw [if_pos hdefault]
  | single hnone hnone' hdefault honly =>
    rw [(firstIndexed_eq_none_iff hget).mpr hnone, (firstIndexed_eq_none_iff hget).mpr hnone']
    simp only [fallback, defaults_eq h]
    rw [if_neg (not_not.mpr hdefault), (arrange_eq_singleton_iff hget).mpr honly]

end Resolve

/-! The defaults of a configuration from resources. -/

/-- The configured default of a backend. -/
def Config.defaultFor (c : Config) (bt : String) : Option String :=
  if c.defaults.lookup bt = "" then none else some (c.defaults.lookup bt)

/-- Every default names an instance of its backend. -/
def Config.DefaultsExist (c : Config) : Prop :=
  ∀ bt inst, c.defaults.get bt = some inst → ∃ zone, c.zoneOf bt inst = some zone

section Clusters

variable {c c' : Config} {cluster : BackendCluster} {clusters : List BackendCluster} {o : Orders}

theorem backendFor_ok {bc : BackendConfig} (h : backendFor c cluster = .ok bc) :
    c.backends.get cluster.backendType = some bc ∨
      c.backends.get cluster.backendType = none ∧ bc.instances = .empty := by
  unfold backendFor at h
  rcases hget : c.backends.get cluster.backendType with _ | bc'
  · rw [hget] at h
    cases h
    exact .inr ⟨rfl, rfl⟩
  · simp only [hget] at h
    left
    rcases hplugin : bc'.plugin with _ | plugin
    · simp only [hplugin] at h
      cases h
      rfl
    · simp only [hplugin] at h
      split_ifs at h
      cases h
      rfl

theorem addCluster_ok (h : addCluster c cluster = .ok c') : ∃ bc,
    backendFor c cluster = .ok bc ∧
    c'.backends = c.backends.set cluster.backendType
      ⟨bc.plugin, bc.instances.set cluster.instanceID ⟨cluster.zone⟩⟩ ∧
    (c'.defaults = c.defaults ∨
      c'.defaults = c.defaults.set cluster.backendType cluster.instanceID) := by
  unfold addCluster at h
  rcases hbc : backendFor c cluster with e | bc
  · simp only [hbc] at h
    split_ifs at h
  · refine ⟨bc, rfl, ?_⟩
    simp only [hbc] at h
    split_ifs at h
    · rcases hdefault : c.defaults.get cluster.backendType with _ | prev
      · simp only [hdefault] at h
        cases h
        exact ⟨rfl, .inr rfl⟩
      · simp only [hdefault] at h
        cases h
    · cases h
      exact ⟨rfl, .inl rfl⟩

theorem zoneOf_addCluster (h : addCluster c cluster = .ok c') (bt inst : String) :
    c'.zoneOf bt inst = if bt = cluster.backendType ∧ inst = cluster.instanceID
      then some cluster.zone else c.zoneOf bt inst := by
  obtain ⟨bc, hbc, hbackends, -⟩ := addCluster_ok h
  rw [Config.zoneOf, hbackends, Table.get_set]
  by_cases hbt : bt = cluster.backendType
  · subst hbt
    by_cases hinst : inst = cluster.instanceID
    · simp [hinst, Table.get_set]
    · rcases backendFor_ok hbc with hget | ⟨hget, hempty⟩
      · simp [hinst, Table.get_set, Config.zoneOf, hget]
      · simp [hinst, Table.get_set, Config.zoneOf, hget, hempty]
  · simp [hbt, Config.zoneOf]

theorem addCluster_defaultsExist (h : addCluster c cluster = .ok c') (hc : c.DefaultsExist) :
    c'.DefaultsExist := by
  intro bt inst hdefault
  rw [zoneOf_addCluster h]
  by_cases hnew : bt = cluster.backendType ∧ inst = cluster.instanceID
  · rw [if_pos hnew]
    exact ⟨_, rfl⟩
  · rw [if_neg hnew]
    apply hc
    obtain ⟨bc, -, -, hdefaults | hdefaults⟩ := addCluster_ok h
    · rwa [hdefaults] at hdefault
    · rw [hdefaults, Table.get_set] at hdefault
      split_ifs at hdefault with hbt
      · exact absurd ⟨hbt, (Option.some.inj hdefault).symm⟩ hnew
      · exact hdefault

/-- What every added resource keeps holds of the whole configuration. -/
theorem addClusters_keeps {P : Config → Prop}
    (hstep : ∀ {cluster c c'}, addCluster c cluster = .ok c' → P c → P c')
    (h : addClusters clusters c = .ok c') (hc : P c) : P c' := by
  induction clusters generalizing c with
  | nil =>
    cases h
    exact hc
  | cons cluster clusters ih =>
    rw [addClusters] at h
    rcases hadd : addCluster c cluster with e | c₁
    · rw [hadd] at h
      cases h
    · rw [hadd] at h
      exact ih h (hstep hadd hc)

theorem addClusters_of_fromBackendClusters (h : fromBackendClusters o clusters = .ok c) :
    addClusters clusters ⟨.empty, .empty⟩ = .ok c := by
  unfold fromBackendClusters at h
  rcases hadd : addClusters clusters ⟨.empty, .empty⟩ with e | c₁
  · rw [hadd] at h
    cases h
  · simp only [hadd] at h
    split at h
    · cases h
    · exact h

theorem fromBackendClusters_defaultsExist (h : fromBackendClusters o clusters = .ok c) :
    c.DefaultsExist :=
  addClusters_keeps addCluster_defaultsExist (addClusters_of_fromBackendClusters h)
    fun bt inst hnone => by cases hnone

/-- Every backend has the plugin that its resources name. -/
def Config.HasPlugins (c : Config) : Prop :=
  ∀ bt bc, c.backends.get bt = some bc → ∃ plugin, bc.plugin = some plugin

theorem backendFor_plugin {bc : BackendConfig} (h : backendFor c cluster = .ok bc)
    (hc : c.HasPlugins) : ∃ plugin, bc.plugin = some plugin := by
  rcases hget : c.backends.get cluster.backendType with _ | bc'
  · rw [backendFor, hget] at h
    cases h
    exact ⟨_, rfl⟩
  · rcases backendFor_ok h with hbc | ⟨hnone, -⟩
    · exact hc _ _ hbc
    · rw [hget] at hnone
      cases hnone

theorem addCluster_hasPlugins (h : addCluster c cluster = .ok c') (hc : c.HasPlugins) :
    c'.HasPlugins := by
  intro bt bc hget
  obtain ⟨bc₀, hbc₀, hbackends, -⟩ := addCluster_ok h
  rw [hbackends, Table.get_set] at hget
  split_ifs at hget with hbt
  · obtain ⟨plugin, hplugin⟩ := backendFor_plugin hbc₀ hc
    cases hget
    exact ⟨plugin, hplugin⟩
  · exact hc bt bc hget

theorem fromBackendClusters_hasPlugins (h : fromBackendClusters o clusters = .ok c) :
    c.HasPlugins :=
  addClusters_keeps addCluster_hasPlugins (addClusters_of_fromBackendClusters h)
    fun bt bc hnone => by cases hnone

end Clusters

/-! The whole way from the configuration to the instance. -/

inductive Source where
  | file (path : String) (document : Config)
  | clusters (resources : List BackendCluster)

def Source.config (o : Orders) : Source → Except Message Config
  | .file path document => load o path document
  | .clusters resources => fromBackendClusters o resources

/-- The instance is the one of the first preferred zone that is served, else of the first
requisite zone that is, else the default, else the only one. -/
def Chosen (c : Config) (bt : String) (preferred requisite : List String) (inst : String) : Prop :=
  (∃ zone, FirstServed c bt preferred zone ∧ c.zoneOf bt inst = some zone) ∨
    NoneServed c bt preferred ∧
      ((∃ zone, FirstServed c bt requisite zone ∧ c.zoneOf bt inst = some zone) ∨
        NoneServed c bt requisite ∧
          (c.defaultFor bt = some inst ∨
            c.defaultFor bt = none ∧ ∀ i, (∃ zone, c.zoneOf bt i = some zone) ↔ i = inst))

/-- The resolution names an instance of the backend with its zone, the right one of them, and is
the same for all orders of the loops. -/
structure Sound (src : Source) (dial : String → String → Except String Unit) (c : Config)
    (params : String → String) (preferred requisite : List String) (r : Resolution) : Prop where
  backend : r.backend = params backendParamKey
  configured : c.zoneOf r.backend r.inst = some r.zone
  chosen : Chosen c r.backend preferred requisite r.inst
  determined : ∀ o₁ o₂ o₃ : Orders, src.config o₁ = .ok c ∧ ∃ d, build o₂ dial c = .ok d ∧
    resolve o₃ d params preferred requisite = .ok r

/-- The condition on the configuration and the request: a file sets no default for the backend,
or an instance of it, unless a zone of the request is served. -/
def Source.DefaultUsable (bt : String) (preferred requisite : List String) : Source → Prop
  | .clusters _ => True
  | .file _ c => (∃ zone ∈ preferred ++ requisite, c.Serves bt zone) ∨
      ∀ inst, c.defaultFor bt = some inst → ∃ zone, c.zoneOf bt inst = some zone

section Source

variable {src : Source} {o o' : Orders} {c : Config}

theorem Source.config_congr (h : src.config o = .ok c) : src.config o' = .ok c := by
  cases src with
  | file path document =>
    simp only [config, load] at h ⊢
    split at h
    · cases h
    · next hok => rwa [validate_ok_congr hok]
  | clusters resources =>
    simp only [config, fromBackendClusters] at h ⊢
    split at h
    · cases h
    · next cfg hadd =>
      split at h
      · cases h
      · next hok => rwa [validate_ok_congr hok]

theorem Config.exists_of_defaultFor {bt inst : String} (h : c.DefaultsExist)
    (hdefault : c.defaultFor bt = some inst) : ∃ zone, c.zoneOf bt inst = some zone := by
  unfold defaultFor at hdefault
  split_ifs at hdefault with hempty
  obtain rfl := Option.some.inj hdefault
  unfold Table.lookup at hempty ⊢
  rcases hget : c.defaults.get bt with _ | i
  · rw [hget] at hempty
    exact absurd rfl hempty
  · rw [Option.getD_some]
    exact h bt i hget

theorem Source.defaultUsable_iff (h : src.config o = .ok c) {bt : String}
    {preferred requisite : List String} : src.DefaultUsable bt preferred requisite ↔
      (∃ zone ∈ preferred ++ requisite, c.Serves bt zone) ∨
        ∀ inst, c.defaultFor bt = some inst → ∃ zone, c.zoneOf bt inst = some zone := by
  cases src with
  | file path document =>
    simp only [config, load] at h
    split at h
    · cases h
    · cases h
      rfl
  | clusters resources =>
    have hexist := fromBackendClusters_defaultsExist (o := o) h
    exact ⟨fun _ => .inr fun inst => c.exists_of_defaultFor hexist, fun _ => trivial⟩

end Source

theorem FirstServed.mem {c : Config} {bt zone : String} {zones : List String}
    (h : FirstServed c bt zones zone) : zone ∈ zones ∧ c.Serves bt zone := by
  obtain ⟨before, after, rfl, hserves, -⟩ := h
  exact ⟨by simp, hserves⟩

/-- A request that is resolved is resolved soundly exactly when the default is usable. -/
theorem resolve_sound_iff (src : Source) (dial : String → String → Except String Unit)
    (o₁ o₂ o₃ : Orders) (c : Config) (d : Dispatcher) (params : String → String)
    (preferred requisite : List String) (r : Resolution) (hload : src.config o₁ = .ok c)
    (hbuild : build o₂ dial c = .ok d)
    (hr : resolve o₃ d params preferred requisite = .ok r) :
    Sound src dial c params preferred requisite r ↔
      src.DefaultUsable (params backendParamKey) preferred requisite := by
  obtain ⟨hbt, hpicks⟩ := picks_of_resolve hbuild hr
  have hdetermined : ∀ o₁ o₂ o₃ : Orders, src.config o₁ = .ok c ∧ ∃ d, build o₂ dial c = .ok d ∧
      resolve o₃ d params preferred requisite = .ok r := by
    intro o₁' o₂' o₃'
    obtain ⟨d', hd'⟩ := exists_build_iff.mpr (exists_build_iff.mp ⟨d, hbuild⟩)
    exact ⟨Source.config_congr hload, d', hd', resolve_of_picks hd' hbt hpicks⟩
  rw [Source.defaultUsable_iff hload]
  cases hpicks with
  | preferred hfirst hzone =>
    obtain ⟨hmem, hserves⟩ := hfirst.mem
    exact iff_of_true ⟨rfl, hzone, .inl ⟨_, hfirst, hzone⟩, hdetermined⟩
      (.inl ⟨_, List.mem_append_left _ hmem, hserves⟩)
  | requisite hnone hfirst hzone =>
    obtain ⟨hmem, hserves⟩ := hfirst.mem
    exact iff_of_true ⟨rfl, hzone, .inr ⟨hnone, .inl ⟨_, hfirst, hzone⟩⟩, hdetermined⟩
      (.inl ⟨_, List.mem_append_right _ hmem, hserves⟩)
  | default hnone hnone' hserved hdefault =>
    have hfor : c.defaultFor (params backendParamKey) =
        some (c.defaults.lookup (params backendParamKey)) := if_neg hdefault
    have hunserved : ¬ ∃ zone ∈ preferred ++ requisite, c.Serves (params backendParamKey) zone := by
      rintro ⟨zone, hmem, hserves⟩
      rcases List.mem_append.mp hmem with hmem | hmem
      · exact hnone zone hmem hserves
      · exact hnone' zone hmem hserves
    rw [or_iff_right hunserved]
    constructor
    · intro hsound inst hinst
      rw [hfor] at hinst
      obtain rfl := Option.some.inj hinst
      exact ⟨_, hsound.configured⟩
    · intro hexists
      obtain ⟨zone, hzone⟩ := hexists _ hfor
      refine ⟨rfl, ?_, .inr ⟨hnone, .inr ⟨hnone', .inl hfor⟩⟩, hdetermined⟩
      simp [hzone]
  | single hnone hnone' hdefault honly =>
    have hfor : c.defaultFor (params backendParamKey) = none := if_pos hdefault
    refine iff_of_true ⟨rfl, (honly _ _).mpr ⟨rfl, rfl⟩, .inr ⟨hnone, .inr ⟨hnone', .inr
      ⟨hfor, ?_⟩⟩⟩, hdetermined⟩ (.inr fun inst hinst => ?_)
    · intro i
      simp [honly]
    · rw [hfor] at hinst
      cases hinst

section Instance

def listed {α : Type} : MapOrder α := ⟨fun l => l, fun l => .refl l⟩

def listedOrders : Orders := ⟨listed, listed, listed, listed⟩

def twoZones : BackendConfig where
  plugin := some ⟨"/run/ceph.sock"⟩
  instances := ⟨[("a", ⟨"zone-a"⟩), ("b", ⟨"zone-b"⟩)], by decide⟩

/-- A file whose default is an instance that it does not have. -/
def staleDefault : Config where
  backends := ⟨[("ceph-rbd", twoZones)], by decide⟩
  defaults := ⟨[("ceph-rbd", "c")], by decide⟩

def answering (_ _ : String) : Except String Unit := .ok ()

def cephParams (key : String) : String := if key = backendParamKey then "ceph-rbd" else ""

/-- Without a zone in the request the file sends the volume to the missing instance. -/
theorem stale_default_resolved :
    (load listedOrders "bard.yaml" staleDefault).toOption.isSome = true ∧
      ((build listedOrders answering staleDefault).bind fun d =>
        resolve listedOrders d cephParams [] []) = .ok ⟨"ceph-rbd", "c", "", .default⟩ ∧
      staleDefault.zoneOf "ceph-rbd" "c" = none := by
  decide +kernel

theorem resolve_sound_iff_stale : ∃ d r, build listedOrders answering staleDefault = .ok d ∧
    resolve listedOrders d cephParams ["zone-x", "zone-b"] [] = .ok r ∧
    (Sound (.file "bard.yaml" staleDefault) answering staleDefault cephParams ["zone-x", "zone-b"]
      [] r ↔ (Source.file "bard.yaml" staleDefault).DefaultUsable (cephParams backendParamKey)
        ["zone-x", "zone-b"] []) :=
  ⟨_, _, rfl, rfl, resolve_sound_iff (.file "bard.yaml" staleDefault) answering listedOrders
    listedOrders listedOrders staleDefault _ cephParams ["zone-x", "zone-b"] [] _ rfl rfl rfl⟩

end Instance

end BardCsi.Dispatch
