import BardCsi.Driver.Dispatch
import BardCsi.Effect.Calls

/-!
How the driver follows the `BackendCluster` resources: it lists them, watches for changes from
the version of the list, and lists again for every change it is told of. The cursor of the watch
and the configuration in use move on separate paths: an event moves the cursor whether or not the
list made for it, or the dials of the plugins that follow, succeed.
-/
namespace BardCsi.Watch

open Dispatch Effect

inductive EventType where
  | added
  | modified
  | deleted
  | bookmark
  | error
deriving DecidableEq, Repr

/-- What the decoder of a stream returns. An object without a version has none to resume from. -/
inductive Decoded where
  | eof
  | broken
  | event (type : EventType) (resourceVersion : Option ℕ)
deriving DecidableEq, Repr

/-- Who lists the resources: the loop itself, or the handler of an event. -/
inductive Lister where
  | loop
  | handler
deriving DecidableEq, Repr

/-- What the driver works with: the endpoint that it reaches the plugin of a backend at, and the
dispatcher. -/
structure Backends where
  registry : String → Option String
  dispatcher : Dispatcher

def build (o : Orders) (dial : String → String → Except String Unit) (cfg : Config) :
    Except Message Backends :=
  (Dispatch.build o dial cfg).map fun d =>
    ⟨fun bt => (cfg.backends.get bt).bind fun bc => bc.plugin.map PluginConfig.endpoint, d⟩

inductive Cmd where
  | list (lister : Lister)
  | watch (resourceVersion : ℕ)
  | decode
  | build (cfg : Config)
  | setBackends (d : Backends)

def Cmd.Reply : Cmd → Type
  | .list _ => Except String (List BackendCluster × ℕ)
  | .watch _ => Except String Unit
  | .decode => Decoded
  | .build _ => Except Message Backends
  | .setBackends _ => Unit

abbrev Prog := Program Cmd Cmd.Reply Unit

def run (c : Cmd) : Prog c.Reply := .ask c

/-- The callback: a configuration that cannot be built leaves the old one in use. -/
def onChange (cfg : Config) : Prog Unit := do
  match (← run (.build cfg) : Except Message Backends) with
  | .error _ => .pure ()
  | .ok d => run (.setBackends d)

/-- A list that is not a configuration is skipped. -/
def reconcile (o : Orders) (items : List BackendCluster) : Prog Unit :=
  match fromBackendClusters o items with
  | .error _ => .pure ()
  | .ok cfg => onChange cfg

/-- What follows an event that names a change. -/
def reload (o : Orders) : Prog Unit := do
  match (← run (.list .handler) : Except String (List BackendCluster × ℕ)) with
  | .error _ => .pure ()
  | .ok (items, _) => reconcile o items

/-- How a cycle ends. -/
inductive Cycle where
  | cancelled
  | failed
  | ended (last : ℕ)
deriving DecidableEq, Repr

/-- The loop over the events of a stream. It is cancelled after a number of events. -/
def decodeEvents (o : Orders) : ℕ → ℕ → Prog Cycle
  | 0, _ => .pure .cancelled
  | n + 1, last => do
      match (← run .decode : Decoded) with
      | .eof => .pure (.ended last)
      | .broken => .pure .failed
      | .event type resourceVersion =>
          let last := resourceVersion.getD last
          match type with
          | .bookmark => decodeEvents o n last
          | .error => .pure .failed
          | _ => do
              reload o
              decodeEvents o n last

def watchCycle (o : Orders) (events rv : ℕ) : Prog Cycle := do
  match (← run (.watch rv) : Except String Unit) with
  | .error _ => .pure .failed
  | .ok () => decodeEvents o events rv

/-- A list for a fresh cursor, unless there is one to resume from. -/
def freshCursor (o : Orders) : Option ℕ → Prog (Option ℕ)
  | some rv => .pure (some rv)
  | none => do
      match (← run (.list .loop) : Except String (List BackendCluster × ℕ)) with
      | .error _ => .pure none
      | .ok (items, rv) => do
          reconcile o items
          .pure (some rv)

/-- The loop, until its context is cancelled after a number of rounds or of events in a round. -/
def watchLoop (o : Orders) (events : ℕ) : ℕ → Option ℕ → Prog Unit
  | 0, _ => .pure ()
  | n + 1, rv => do
      match (← freshCursor o rv : Option ℕ) with
      | none => watchLoop o events n none
      | some rv => do
          match (← watchCycle o events rv : Cycle) with
          | .cancelled => .pure ()
          | .failed => watchLoop o events n none
          | .ended last => watchLoop o events n (some last)

def watchFromAPI (o : Orders) (events rounds : ℕ) : Prog Unit := watchLoop o events rounds none

/-! The API server. -/

/-- What a stream carries next: an object that was written `ahead` versions after the one before,
a bookmark, the error of an expired cursor, or its end. -/
inductive Delivery where
  | object (type : EventType) (ahead : ℕ)
  | bookmark (ahead : ℕ)
  | expired
  | ends
  | breaks
deriving DecidableEq, Repr

/-- The environment's choice: the writes since the last request, whether a request fails, what a
stream carries, and how the plugins answer. -/
structure Outcome where
  writes : ℕ := 0
  failure : Option String := none
  delivery : Delivery := .ends
  orders : Orders
  dial : String → String → Except String Unit

/-- `items` is the history of the collection, `version` how far it has got, `position` that of
the open stream, and `listed` the version of the last list. -/
structure World where
  items : ℕ → List BackendCluster
  version : ℕ
  position : ℕ
  listed : ℕ
  used : Backends

/-- Nothing changes after version `u` up to version `v`. -/
def unchanged (items : ℕ → List BackendCluster) (u v : ℕ) : Bool :=
  (List.range' (u + 1) (v - u)).all fun k => items k == items (k - 1)

/-- A stream carries the writes in order and leaves out no change. -/
def deliver (w : World) : Delivery → Decoded × World
  | .object type ahead =>
      let rv := w.position + ahead + 1
      if rv ≤ w.version ∧ unchanged w.items w.position (w.position + ahead) ∧
          type ≠ .bookmark ∧ type ≠ .error then
        (.event type (some rv), { w with position := rv })
      else (.eof, w)
  | .bookmark ahead =>
      let rv := w.position + ahead
      if rv ≤ w.version ∧ unchanged w.items w.position rv then
        (.event .bookmark (some rv), { w with position := rv })
      else (.eof, w)
  | .expired => (.event .error none, w)
  | .ends => (.eof, w)
  | .breaks => (.broken, w)

def perform (w : World) (x : Outcome) : (c : Cmd) → c.Reply × World
  | .list _ => x.failure.elim (.ok (w.items w.version, w.version), { w with listed := w.version })
      fun err => (.error err, w)
  | .watch rv => x.failure.elim (.ok (), { w with position := rv }) fun err => (.error err, w)
  | .decode => deliver w x.delivery
  | .build cfg => (build x.orders x.dial cfg, w)
  | .setBackends d => ((), { w with used := d })

def machine : Machine Cmd Cmd.Reply Unit Outcome World where
  step _ c x w := perform { w with version := w.version + x.writes } x c

/-! Which lists are new enough for a cursor, and what has been built from them. -/

/-- The list at version `u` shows every change that a watch from version `v` no longer reports. -/
def AsNew (items : ℕ → List BackendCluster) (u v : ℕ) : Prop :=
  ∀ k, u < k → k ≤ v → items k = items u

def BuiltFrom (l : List BackendCluster) (d : Backends) : Prop :=
  ∃ o o' dial cfg, fromBackendClusters o l = .ok cfg ∧ build o' dial cfg = .ok d

/-- No configuration comes from the list, or one that the dispatcher does not accept. -/
def Invalid (l : List BackendCluster) : Prop :=
  ∀ o cfg, fromBackendClusters o l = .ok cfg → ¬cfg.Unambiguous

/-- The configuration in use is built from the list at version `u`, or that list was the last
one and is invalid. -/
def Applied (w : World) (u : ℕ) : Prop :=
  u ≤ w.version ∧ BuiltFrom (w.items u) w.used ∨ u = w.listed ∧ Invalid (w.items u)

def UpToDate (w : World) (rv : ℕ) : Prop := ∃ u, AsNew w.items u rv ∧ Applied w u

/-- The condition on a step: a list for an event does not fail, and the plugins of a
configuration answer their dials. -/
def Undisturbed (c : Cmd) (x : Outcome) : Prop :=
  (c = .list .handler → x.failure = none) ∧
    ∀ cfg, c = .build cfg → ∀ e ∈ cfg.backends.entries, ∀ plugin, e.2.plugin = some plugin →
      x.dial e.1 plugin.endpoint = .ok ()

section Versions

variable {items : ℕ → List BackendCluster} {u v v' : ℕ}

theorem unchanged_iff :
    unchanged items u v = true ↔ ∀ k, u < k → k ≤ v → items k = items (k - 1) := by
  simp only [unchanged, List.all_eq_true, List.mem_range'_1, beq_iff_eq]
  constructor
  · intro h k hk hk'
    exact h k ⟨hk, by omega⟩
  · intro h k hk
    exact h k (by omega) (by omega)

theorem AsNew.ahead (h : AsNew items u v) (hv : unchanged items v v' = true) :
    AsNew items u v' := by
  rw [unchanged_iff] at hv
  have hall : ∀ k, u ≤ k → k ≤ v' → items k = items u := by
    intro k hk
    induction k, hk using Nat.le_induction with
    | base =>
      intro _
      rfl
    | succ k hk ih =>
      intro hle
      by_cases hkv : k + 1 ≤ v
      · exact h (k + 1) (by omega) hkv
      · rw [hv (k + 1) (by omega) hle]
        exact ih (by omega)
  exact fun k hk => hall k hk.le

theorem asNew_of_le (h : v ≤ u) : AsNew items u v := fun k hk hkv => by omega

end Versions

section States

variable {w : World} {rv rv' u : ℕ}

theorem UpToDate.ahead (h : UpToDate w rv) (hrv : unchanged w.items rv rv' = true) :
    UpToDate w rv' := by
  obtain ⟨u, hu, happlied⟩ := h
  exact ⟨u, hu.ahead hrv, happlied⟩

theorem Applied.writes (h : Applied w u) (n : ℕ) :
    Applied { w with version := w.version + n } u := by
  rcases h with ⟨hu, hbuilt⟩ | hinvalid
  · exact .inl ⟨Nat.le_add_right_of_le hu, hbuilt⟩
  · exact .inr hinvalid

theorem UpToDate.writes (h : UpToDate w rv) (n : ℕ) :
    UpToDate { w with version := w.version + n } rv := by
  obtain ⟨u, hu, happlied⟩ := h
  exact ⟨u, hu, happlied.writes n⟩

end States

/-- Every watch starts from a cursor that the configuration is up to date for. -/
def contract : Contract Cmd Outcome World :=
  .alone (fun _ => True) (fun c x _ => Undisturbed c x)
    fun c w _ => ∀ rv, c = .watch rv → UpToDate w rv

section Specs

variable {w : World} {o : Orders} {items : List BackendCluster} {cfg : Config}

theorem meets_run {c : Cmd} {P : c.Reply → World → Prop}
    (hwatch : ∀ rv, c = .watch rv → UpToDate w rv)
    (h : ∀ x, Undisturbed c x →
      P (machine.step () c x w).1 (machine.step () c x w).2) :
    (run c).Meets machine () contract (Program.Returns P) w := by
  refine Program.Meets.ask (fun x a b hab => ?_) fun a x ha _ hx => ?_
  · cases hab
    exact id
  · cases ha
    exact ⟨hwatch, trivial, h x hx⟩

theorem dispatcher_of_build {dial : String → String → Except String Unit} {d : Backends}
    (h : build o dial cfg = .ok d) : Dispatch.build o dial cfg = .ok d.dispatcher := by
  unfold build at h
  cases hd : Dispatch.build o dial cfg with
  | error e =>
    rw [hd] at h
    cases h
  | ok d' =>
    rw [hd] at h
    cases h
    rfl

theorem exists_build {x : Outcome} (hcfg : fromBackendClusters o items = .ok cfg)
    (hx : Undisturbed (.build cfg) x) (hclear : cfg.Unambiguous) :
    ∃ d, Dispatch.build x.orders x.dial cfg = .ok d := by
  refine exists_build_iff.mpr ⟨?_, hclear⟩
  rintro ⟨bt, bc⟩ hmem
  obtain ⟨plugin, hplugin⟩ :=
    fromBackendClusters_hasPlugins hcfg bt bc (Table.get_eq_some_iff.mpr hmem)
  exact ⟨plugin, hplugin, hx.2 cfg rfl _ hmem plugin hplugin⟩

theorem not_unambiguous_of_build {x : Outcome} {e : Message}
    (hcfg : fromBackendClusters o items = .ok cfg) (hx : Undisturbed (.build cfg) x)
    (hbuild : build x.orders x.dial cfg = .error e) :
    ¬cfg.Unambiguous := by
  intro hclear
  obtain ⟨d, hd⟩ := exists_build hcfg hx hclear
  rw [build, hd] at hbuild
  cases hbuild

theorem fromBackendClusters_congr (h : fromBackendClusters o items = .ok cfg) (o' : Orders) :
    fromBackendClusters o' items = .ok cfg := by
  have hsource : (Source.clusters items).config o = .ok cfg := h
  exact Source.config_congr hsource

theorem Invalid.of_ok (hcfg : fromBackendClusters o items = .ok cfg) (h : ¬cfg.Unambiguous) :
    Invalid items := by
  intro o' cfg' hcfg'
  rw [fromBackendClusters_congr hcfg o'] at hcfg'
  cases hcfg'
  exact h

theorem Invalid.of_error {e : Message} (h : fromBackendClusters o items = .error e) :
    Invalid items := by
  intro o' cfg' hcfg'
  rw [fromBackendClusters_congr hcfg' o] at h
  cases h

/-- The last list is applied, and the stream stays where it is. -/
def Lists (w w' : World) : Prop :=
  w'.items = w.items ∧ w'.position = w.position ∧ w'.listed = w.listed ∧ Applied w' w.listed

theorem meets_onChange (hlisted : w.listed ≤ w.version)
    (hcfg : fromBackendClusters o (w.items w.listed) = .ok cfg) :
    (onChange cfg).Meets machine () contract (Program.Returns fun _ => Lists w) w := by
  have hbuild : (run (.build cfg)).Meets machine () contract (Program.Returns
      fun (r : Except Message Backends) w' => (∃ n, w' = { w with version := w.version + n }) ∧
        ∃ x, Undisturbed (.build cfg) x ∧ r = build x.orders x.dial cfg) w :=
    meets_run (fun _ h => by cases h) fun x hx => ⟨⟨_, rfl⟩, x, hx, rfl⟩
  refine hbuild.returns ?_
  rintro r w' - ⟨⟨n, rfl⟩, x, hx, hr⟩
  rcases r with e | d
  · have hinvalid := Invalid.of_ok hcfg (not_unambiguous_of_build hcfg hx hr.symm)
    exact fun s hs _ => hs ▸ ⟨rfl, rfl, rfl, .inr ⟨rfl, hinvalid⟩⟩
  · refine meets_run (fun _ h => by cases h) fun y _ => ⟨rfl, rfl, rfl, .inl ⟨?_, ?_⟩⟩
    · change w.listed ≤ w.version + n + y.writes
      omega
    · exact ⟨o, x.orders, x.dial, cfg, hcfg, hr.symm⟩

theorem meets_reconcile (hlisted : w.listed ≤ w.version) :
    (reconcile o (w.items w.listed)).Meets machine () contract
      (Program.Returns fun _ => Lists w) w := by
  unfold reconcile
  rcases hcfg : fromBackendClusters o (w.items w.listed) with e | cfg
  · exact fun s hs _ => hs ▸ ⟨rfl, rfl, rfl, .inr ⟨rfl, Invalid.of_error hcfg⟩⟩
  · exact meets_onChange hlisted hcfg

theorem meets_reload : (reload o).Meets machine () contract (Program.Returns fun _ w' =>
    w'.position = w.position ∧ ∀ rv ≤ w.version, UpToDate w' rv) w := by
  have hlist : (run (.list .handler)).Meets machine () contract (Program.Returns
      fun (r : Except String (List BackendCluster × ℕ)) w' => w'.position = w.position ∧
        w.version ≤ w'.version ∧ w'.listed = w'.version ∧
          r = .ok (w'.items w'.listed, w'.version)) w := by
    refine meets_run (fun _ h => by cases h) fun x hx => ?_
    simp [machine, perform, hx.1 rfl]
  refine hlist.returns ?_
  rintro r w' - ⟨hposition, hversion, hlisted, rfl⟩
  refine (meets_reconcile hlisted.le).mono ?_
  rintro (- | -) w'' -
  · exact id
  · rintro ⟨-, hposition', -, happlied⟩
    refine ⟨hposition'.trans hposition, fun rv hrv => ⟨w'.listed, asNew_of_le ?_, happlied⟩⟩
    omega

theorem meets_freshCursor {cursor : Option ℕ} (h : ∀ rv, cursor = some rv → UpToDate w rv) :
    (freshCursor o cursor).Meets machine () contract
      (Program.Returns fun r w' => ∀ rv, r = some rv → UpToDate w' rv) w := by
  rcases cursor with _ | rv
  · have hlist : (run (.list .loop)).Meets machine () contract (Program.Returns
        fun (r : Except String (List BackendCluster × ℕ)) w' => ∀ items rv, r = .ok (items, rv) →
          w'.listed ≤ w'.version ∧ items = w'.items w'.listed ∧ rv = w'.listed) w := by
      refine meets_run (fun _ h => by cases h) fun x _ items rv hr => ?_
      rcases hfailure : x.failure with _ | err
      · simp only [machine, perform, hfailure, Option.elim_none] at hr ⊢
        cases hr
        exact ⟨le_rfl, rfl, rfl⟩
      · simp only [machine, perform, hfailure, Option.elim_some] at hr
        cases hr
    refine hlist.returns ?_
    rintro (e | ⟨items, rv⟩) w' - hr
    · exact fun s _ _ rv hrv => by cases hrv
    · obtain ⟨hlisted, rfl, rfl⟩ := hr items rv rfl
      refine (meets_reconcile hlisted).returns ?_
      rintro - w'' - ⟨-, -, -, happlied⟩
      intro s hs _ rv hrv
      cases hs
      cases hrv
      exact ⟨w'.listed, asNew_of_le le_rfl, happlied⟩
  · exact fun s hs _ => hs ▸ h

/-- What the client knows after an event: the stream is where the event says, which no list made
from now on is older than. -/
theorem deliver_event {d : Delivery} {type : EventType} {rv : Option ℕ} {w' : World}
    (h : deliver w d = (.event type rv, w')) (herror : type ≠ .error) :
    ∃ k, rv = some k ∧ w' = { w with position := k } ∧ k ≤ w.version ∧
      (type = .bookmark → unchanged w.items w.position k = true) := by
  cases d with
  | object type' ahead =>
    simp only [deliver] at h
    split_ifs at h with hnext
    · cases h
      exact ⟨_, rfl, rfl, hnext.1, fun hb => absurd hb hnext.2.2.1⟩
    · cases h
  | bookmark ahead =>
    simp only [deliver] at h
    split_ifs at h with hnext
    · cases h
      exact ⟨_, rfl, rfl, hnext.1, fun _ => hnext.2⟩
    · cases h
  | expired =>
    cases h
    exact absurd rfl herror
  | ends => cases h
  | breaks => cases h

theorem deliver_eof {d : Delivery} {w' : World} (h : deliver w d = (.eof, w')) : w' = w := by
  cases d with
  | object type ahead =>
    simp only [deliver] at h
    split_ifs at h with hnext
    · cases h
    · cases h
      rfl
  | bookmark ahead =>
    simp only [deliver] at h
    split_ifs at h with hnext
    · cases h
    · cases h
      rfl
  | expired => cases h
  | ends =>
    cases h
    rfl
  | breaks => cases h

theorem meets_decodeEvents {n last : ℕ} (hposition : w.position = last)
    (h : UpToDate w last) : (decodeEvents o n last).Meets machine () contract
      (Program.Returns fun r w' => ∀ rv, r = .ended rv → UpToDate w' rv) w := by
  induction n generalizing w last with
  | zero => exact fun s _ _ rv hrv => by cases hrv
  | succ n ih =>
    have hdecode : (run .decode).Meets machine () contract (Program.Returns
        fun (r : Decoded) w' => ∃ k d, deliver { w with version := w.version + k } d = (r, w')) w :=
      meets_run (fun _ h => by cases h) fun x _ => ⟨x.writes, x.delivery, rfl⟩
    refine hdecode.returns ?_
    rintro (- | - | ⟨type, rv⟩) w' - ⟨k, d, hd⟩
    · cases deliver_eof hd
      intro s hs _ rv hrv
      cases hs
      cases hrv
      exact h.writes k
    · exact fun s _ _ rv hrv => by cases hrv
    · have hchange : type ≠ .error →
          ((reload o).bind fun _ => decodeEvents o n (rv.getD last)).Meets machine () contract
            (Program.Returns fun r w' => ∀ rv, r = .ended rv → UpToDate w' rv) w' := by
        intro herror
        obtain ⟨v, rfl, rfl, hv, -⟩ := deliver_event hd herror
        refine meets_reload.returns ?_
        rintro - w'' - ⟨hposition', hall⟩
        exact ih hposition' (hall v hv)
      cases type with
      | added => exact hchange (by decide)
      | modified => exact hchange (by decide)
      | deleted => exact hchange (by decide)
      | bookmark =>
        obtain ⟨v, rfl, rfl, -, hquiet⟩ := deliver_event hd (by decide)
        have hahead := hquiet rfl
        rw [hposition] at hahead
        exact ih rfl ((h.writes k).ahead hahead)
      | error => exact fun s _ _ rv hrv => by cases hrv

theorem meets_watchCycle {events rv : ℕ} (h : UpToDate w rv) :
    (watchCycle o events rv).Meets machine () contract
      (Program.Returns fun r w' => ∀ last, r = .ended last → UpToDate w' last) w := by
  have hwatch : (run (.watch rv)).Meets machine () contract (Program.Returns
      fun (r : Except String Unit) w' => UpToDate w' rv ∧ (r = .ok () → w'.position = rv)) w := by
    refine meets_run (fun rv' hrv' => ?_) fun x _ => ?_
    · cases hrv'
      exact h
    · rcases hfailure : x.failure with _ | err
      · simp only [machine, perform, hfailure, Option.elim_none]
        exact ⟨h.writes x.writes, fun _ => trivial⟩
      · simp only [machine, perform, hfailure, Option.elim_some]
        exact ⟨h.writes x.writes, fun hok => by cases hok⟩
  refine hwatch.returns ?_
  rintro (e | ⟨⟩) w' - ⟨hup, hposition⟩
  · exact fun s _ _ rv hrv => by cases hrv
  · exact meets_decodeEvents (hposition rfl) hup

theorem meets_watchLoop {events n : ℕ} {cursor : Option ℕ}
    (h : ∀ rv, cursor = some rv → UpToDate w rv) :
    (watchLoop o events n cursor).Meets machine () contract (fun _ _ => True) w := by
  induction n generalizing w cursor with
  | zero => exact fun _ _ _ => trivial
  | succ n ih =>
    refine (meets_freshCursor h).returns ?_
    rintro (- | rv) w' - hrv
    · exact ih fun rv hnone => by cases hnone
    · refine (meets_watchCycle (hrv rv rfl)).returns ?_
      rintro (- | - | last) w'' - hlast
      · exact fun _ _ _ => trivial
      · exact ih fun rv hnone => by cases hnone
      · refine ih fun rv hsome => ?_
        cases hsome
        exact hlast last rfl

end Specs

/-- In every run in which the lists for events succeed and the plugins answer their dials, a
watch starts from a cursor that the configuration in use is up to date for. -/
theorem watch_starts_up_to_date (o : Orders) (events rounds : ℕ) (xs : List Outcome) (w : World)
    (hxs : ∀ e ∈ (machine.exec () (watchFromAPI o events rounds) xs w).1,
      Undisturbed e.cmd e.outcome) :
    ∀ e ∈ (machine.exec () (watchFromAPI o events rounds) xs w).1, ∀ rv, e.cmd = .watch rv →
      UpToDate e.before rv := by
  have hmeets : (watchFromAPI o events rounds).Meets machine () contract (fun _ _ => True) w :=
    meets_watchLoop fun rv hnone => by cases hnone
  exact (hmeets.exec trivial xs hxs).1

section Instance

/-- A cluster that is moved to another zone. -/
def history : ℕ → List BackendCluster
  | 0 => [⟨"a", "ceph-rbd", "", "east", true, "/run/ceph.sock"⟩]
  | _ + 1 => [⟨"a", "ceph-rbd", "", "west", true, "/run/ceph.sock"⟩]

def start : World := ⟨history, 0, 0, 0, ⟨fun _ => none, ⟨⟨.empty, .empty⟩, .empty⟩⟩⟩

def quietly : Outcome := { orders := listedOrders, dial := answering }

/-- A list and its configuration, a watch, and the event of the move. -/
def untilEvent : List Outcome :=
  [quietly, quietly, quietly, quietly,
    { quietly with writes := 1, delivery := .object .modified 0 }]

/-- The list for the event fails. -/
def listFails : List Outcome :=
  untilEvent ++ [{ quietly with failure := some "connection refused" }, quietly, quietly]

/-- The list for the event succeeds, but the plugin does not answer. -/
def dialFails : List Outcome :=
  untilEvent ++ [quietly, { quietly with dial := fun _ _ => .error "connection refused" },
    quietly, quietly]

def zoneInUse (d : Dispatcher) : String :=
  ((d.cfg.instances.get "ceph-rbd").getD .empty).lookup "a"

theorem asNew_history {u : ℕ} (h : AsNew history u 1) : history u = history 1 := by
  cases u with
  | zero => exact absurd (h 1 (by decide) le_rfl) (by decide)
  | succ u => rfl

theorem not_upToDate {w : World} (hitems : w.items = history)
    (hzone : zoneInUse w.used.dispatcher = "east") : ¬UpToDate w 1 := by
  rintro ⟨u, hnew, happlied⟩
  rw [hitems] at hnew
  rw [Applied, hitems, asNew_history hnew] at happlied
  have hcfg : ∃ cfg d, fromBackendClusters listedOrders (history 1) = .ok cfg ∧
      cfg.zoneOf "ceph-rbd" "a" = some "west" ∧ Dispatch.build listedOrders answering cfg = .ok d :=
    ⟨_, _, rfl, rfl, rfl⟩
  obtain ⟨cfg, d, hcfg, hwest, hd⟩ := hcfg
  rcases happlied with ⟨-, o, o', dial, cfg', hcfg', hbuild⟩ | ⟨-, hinvalid⟩
  · have heq := fromBackendClusters_congr hcfg' listedOrders
    rw [hcfg] at heq
    cases heq
    have hlookup : zoneInUse w.used.dispatcher = (cfg.zoneOf "ceph-rbd" "a").getD "" :=
      lookup_instances (dispatcher_of_build hbuild) "a"
    rw [hwest, hzone] at hlookup
    exact absurd hlookup (by decide)
  · exact hinvalid listedOrders cfg hcfg (exists_build_iff.mp ⟨d, hd⟩).2

/-- The event has moved the cursor past a change that the configuration does not have. -/
theorem watch_loses_change :
    (∃ e ∈ (machine.exec () (watchFromAPI listedOrders 2 2) listFails start).1,
      e.cmd = .watch 1 ∧ ¬UpToDate e.before 1) ∧
    ∃ e ∈ (machine.exec () (watchFromAPI listedOrders 2 2) dialFails start).1,
      e.cmd = .watch 1 ∧ ¬UpToDate e.before 1 := by
  constructor
  · exact ⟨_, List.mem_of_getElem? (i := 7) rfl, rfl, not_upToDate rfl rfl⟩
  · exact ⟨_, List.mem_of_getElem? (i := 8) rfl, rfl, not_upToDate rfl rfl⟩

/-- The event is followed by a list and a configuration. -/
def followed : List Outcome := untilEvent ++ List.replicate 5 quietly

theorem watch_starts_up_to_date_followed :
    (∃ e ∈ (machine.exec () (watchFromAPI listedOrders 2 2) followed start).1,
      e.cmd = .watch 1) ∧
    ∀ e ∈ (machine.exec () (watchFromAPI listedOrders 2 2) followed start).1, ∀ rv,
      e.cmd = .watch rv → UpToDate e.before rv := by
  refine ⟨⟨_, List.mem_of_getElem? (i := 9) rfl, rfl⟩,
    watch_starts_up_to_date listedOrders 2 2 followed start fun e he => ?_⟩
  have hquiet : ∀ x ∈ followed, x.failure = none ∧ x.dial = answering := by
    simp [followed, untilEvent, quietly]
  obtain ⟨hfailure, hdial⟩ := hquiet _ (Machine.outcome_mem_of_exec he)
  exact ⟨fun _ => hfailure, fun cfg _ entry _ plugin _ => by rw [hdial]; rfl⟩

end Instance

end BardCsi.Watch
