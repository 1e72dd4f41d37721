import BardCsi.Ceph.StageIdentity

/-!
Device identity on one node. Sessions of stage and unstage calls, one for each staging path,
take turns until the plugin restarts or the node reboots. The records of the devices survive
both, while the numbers of the devices are given out again.
-/
namespace BardCsi.Ceph

open Effect Program

/-- A reboot unmaps every device and drops every mount. The records stay. -/
def World.reboot (w : World) : World := { w with mapped := [], mappers := [], mounts := [] }

/-- The kernel may release the device of a userspace map unless something holds it. -/
def World.releases (w : World) (released : List Device) (d : Device) : Bool :=
  d.isNbd && released.contains d && !w.held d

def Mapping.serverLost (d : Device) (m : Mapping) : Mapping :=
  if d.isNbd then { m with live := false } else m

/-- A restart of the plugin takes the servers of the userspace maps with it. -/
def World.restart (released : List Device) (w : World) : World :=
  { w with mapped := (w.mapped.filter fun x => !w.releases released x.1).map fun x =>
      (x.1, Mapping.serverLost x.1 x.2) }

/-- What ends the calls that are running. The healer runs when the plugin comes back. -/
inductive NodeEvent where
  | reboot (healing : List Outcome)
  | restart (released : List Device) (healing : List Outcome)

def nodeEvent (b : Backend) : NodeEvent → World → World
  | .reboot healing, w => (machine.exec 0 (heal b) healing w.reboot).2.1
  | .restart released healing, w => (machine.exec 0 (heal b) healing (w.restart released)).2.1

section Events

variable {P : Placement} {w : World} {entries : List (String × DeviceRecord)} {b : Backend}

theorem consistent_reboot (hi : Consistent P w) : Consistent P w.reboot := by
  constructor
  · exact fun d i h => by cases h
  · exact fun x _ d i _ h => by cases h
  · exact hi.volume
  · exact fun x hx => by cases hx
  · exact fun x hx => by cases hx
  · exact hi.made

@[simp] theorem serverLost_image (d : Device) (m : Mapping) : (m.serverLost d).image = m.image := by
  unfold Mapping.serverLost
  split
  · rfl
  · rfl

theorem imageOf_restart (released : List Device) (w : World) (d : Device) :
    (w.restart released).imageOf d =
      if w.releases released d then none else w.imageOf d := by
  change ((Assoc.get (List.map _ _) d).map Mapping.image) = _
  rw [Assoc.get_map_value _ Mapping.serverLost,
    Assoc.get_filter_key _ fun d => !w.releases released d]
  cases w.releases released d with
  | true => rfl
  | false =>
    unfold World.imageOf
    cases Assoc.get w.mapped d with
    | none => rfl
    | some m => simp

theorem held_of_mapper {x : String × Device} (h : x ∈ w.mappers) : w.held x.2 = true := by
  simp only [World.held, Bool.or_eq_true, List.any_eq_true, beq_iff_eq]
  exact .inr ⟨x, h, rfl⟩

theorem held_of_mount {x : String × Device} (h : x ∈ w.mounts) : w.held x.2 = true := by
  simp only [World.held, Bool.or_eq_true, List.any_eq_true, beq_iff_eq]
  exact .inl ⟨x, h, rfl⟩

theorem consistent_restart (hi : Consistent P w) (released : List Device) :
    Consistent P (w.restart released) := by
  have hkept : ∀ d i, (w.restart released).imageOf d = some i → w.imageOf d = some i := by
    intro d i h
    rw [imageOf_restart] at h
    split at h
    · cases h
    · exact h
  have hheld : ∀ d, w.held d = true → (w.restart released).imageOf d = w.imageOf d := by
    intro d h
    simp [imageOf_restart, World.releases, h]
  constructor
  · exact fun d i h => hi.raw d i (hkept d i h)
  · exact fun x hx d i hdev h => hi.record x hx d i hdev (hkept d i h)
  · exact hi.volume
  · intro x hx
    rw [hheld x.2 (held_of_mapper hx)]
    exact hi.mapper x hx
  · intro x hx
    rw [hheld x.2 (held_of_mount hx)]
    exact hi.mount x hx
  · exact hi.made

/-- The records that the healer has read are about what their devices map. -/
def Listed (entries : List (String × DeviceRecord)) (w : World) : Prop :=
  ∀ e ∈ entries, ∀ i, w.imageOf e.2.device = some i → i = e.2.volume

theorem step_nbdAttach {d : Device} {i : ImageRef} (cookie : Text) (o : Outcome) (w : World)
    (himage : ∀ j, w.imageOf d = some j → j = i) :
    (step 0 (.nbdAttach d cookie i) o w).2.imageOf = w.imageOf ∧
      (step 0 (.nbdAttach d cookie i) o w).2.records = w.records ∧
      (step 0 (.nbdAttach d cookie i) o w).2.mappers = w.mappers ∧
      (step 0 (.nbdAttach d cookie i) o w).2.mounts = w.mounts := by
  obtain h | h := step_state 0 (.nbdAttach d cookie i) o w
  · rw [h]
    exact ⟨rfl, rfl, rfl, rfl⟩
  · rw [h]
    change (performAttach d i w).2.imageOf = _ ∧ (performAttach d i w).2.records = _ ∧
      (performAttach d i w).2.mappers = _ ∧ (performAttach d i w).2.mounts = _
    unfold performAttach
    split
    · rename_i j client hmapped
      refine ⟨?_, rfl, rfl, rfl⟩
      change ({ w with mapped := Assoc.set w.mapped d _, seq := _ } : World).imageOf = _
      rw [imageOf_mapped]
      funext d'
      by_cases hd : d' = d
      · subst hd
        have hj : w.imageOf d' = some j := by simp [World.imageOf, hmapped]
        rw [Function.update_self, hj, himage j hj]
      · rw [Function.update_of_ne hd]
    · exact ⟨rfl, rfl, rfl, rfl⟩

/-- The requests of the healer once it has read the records. -/
def Cmd.heals (entries : List (String × DeviceRecord)) : Cmd → Prop
  | .removeRecord _ => True
  | .nbdAttach d _ i => ∃ e ∈ entries, e.2.device = d ∧ e.2.volume = i
  | c => c.offNode = true

theorem heals_step {c : Cmd} (o : Outcome) (hc : c.heals entries) (hi : Consistent P w)
    (hl : Listed entries w) :
    Consistent P (step 0 c o w).2 ∧ Listed entries (step 0 c o w).2 := by
  have hsame : c.offNode = true →
      Consistent P (step 0 c o w).2 ∧ Listed entries (step 0 c o w).2 := by
    intro hoff
    have h := step_offNode hoff 0 o w
    refine ⟨h.consistent hi, ?_⟩
    unfold Listed
    rwa [h.imageOf]
  cases c with
  | removeRecord q =>
    rcases step_removeRecord 0 o w q with h | h
    · rw [h]
      exact ⟨hi, hl⟩
    · rw [h]
      exact ⟨consistent_removeRecord hi q, hl⟩
  | nbdAttach d cookie i =>
    obtain ⟨e, he, rfl, rfl⟩ := hc
    obtain ⟨himage, hrecords, hmappers, hmounts⟩ :=
      step_nbdAttach cookie o w (hl e he)
    refine ⟨hi.congr himage hrecords hmappers hmounts, ?_⟩
    unfold Listed
    rwa [himage]
  | _ => exact hsame hc

abbrev Heals {α : Type} (entries : List (String × DeviceRecord)) (prog : Prog α) : Prop :=
  prog.Uses fun c => c.heals entries

theorem Remote.heals {α : Type} {s : Spec} {prog : Prog α} (h : Remote s prog)
    (entries : List (String × DeviceRecord)) : Heals entries prog := by
  apply h.mono
  intro c hc
  cases c with
  | fs c => cases hc
  | secret s m => rfl
  | _ =>
    first
    | rfl
    | cases hc

theorem reattachNBD_heals {e : String × DeviceRecord} (he : e ∈ entries) :
    Heals entries (reattachNBD b e.2) := by
  apply ((cluster_remote (s := e.2.volume.spec) b _).heals entries).bind
  intro cc
  apply ((connArgs_remote (s := e.2.volume.spec) cc _ _).heals entries).bind
  intro _
  have hattach : Heals entries (run (.nbdAttach e.2.device e.2.cookie e.2.volume)) :=
    ⟨⟨e, he, rfl, rfl⟩, fun _ => trivial⟩
  exact hattach.bind fun r => orFail_uses r _

theorem healRecord_heals {live : List Device} {e : String × DeviceRecord} (he : e ∈ entries) :
    Heals entries (healRecord b live e.1 e.2) := by
  refine Uses.ite trivial ?_
  have hprobe : Heals entries (deviceMapped e.2.device) := ⟨rfl, fun _ => trivial⟩
  have hremove : Heals entries (run (.removeRecord e.1)) := ⟨trivial, fun _ => trivial⟩
  apply hprobe.bind
  intro mapped
  apply Uses.ite
  · exact (reattachNBD_heals he).attempt.bind fun _ => trivial
  · exact hremove.bind fun _ => trivial

theorem healAll_heals {live : List Device} {rest : List (String × DeviceRecord)}
    (hrest : ∀ e ∈ rest, e ∈ entries) :
    Heals entries (healAll b live rest) := by
  induction rest with
  | nil => trivial
  | cons e rest ih =>
    apply (healRecord_heals (hrest e List.mem_cons_self)).bind
    exact fun _ => ih fun e' he' => hrest e' (List.mem_cons_of_mem _ he')

theorem listed_of_consistent (hi : Consistent P w) : Listed (w.records.filterMap nbdRecord) w := by
  intro e he i himage
  obtain ⟨x, hx, hrec⟩ := List.mem_filterMap.mp he
  obtain ⟨q, file⟩ := x
  cases file with
  | bare d => cases hrec
  | json rec =>
    simp only [nbdRecord, Option.ite_none_right_eq_some, Option.some.injEq] at hrec
    obtain ⟨_, rfl⟩ := hrec
    rw [hi.volume _ hx rec rfl]
    exact hi.record _ hx rec.device i rfl himage

theorem heal_keeps (b : Backend) (healing : List Outcome) (hi : Consistent P w) :
    Consistent P (machine.exec 0 (heal b) healing w).2.1 := by
  have hmeets : (heal b).Meets machine 0
      (.alone (Consistent P) (fun _ _ _ => True) fun _ _ _ => True) (fun _ _ => True) w := by
    unfold heal
    refine Meets.ite (fun _ => fun _ _ _ => trivial) fun _ => ?_
    apply meets_request_alone.mpr
    intro _ o _
    have hsame : SameNode w (step 0 .listRecords o w).2 := step_offNode rfl 0 o w
    refine ⟨trivial, hsame.consistent hi, ?_⟩
    change Meets _ _ _ (Program.bind (Program.pure (step 0 .listRecords o w).1) _) _ _
    rw [Program.bind_pure]
    rcases step_listRecords_reply 0 o w with h | ⟨e, h⟩
    · rw [h]
      refine Meets.ite (fun _ => fun _ _ _ => trivial) fun _ => ?_
      have hlisted : Listed (w.records.filterMap nbdRecord) (step 0 .listRecords o w).2 := by
        unfold Listed
        rw [hsame.imageOf]
        exact listed_of_consistent hi
      have hlist : Heals (w.records.filterMap nbdRecord) (run .nbdListMapped) :=
        ⟨rfl, fun _ => trivial⟩
      refine (Meets.of_uses (hlist.bind fun r => ?_) hlisted ?_ ?_).mono
        fun _ _ _ _ => trivial
      · cases r with
        | error e => trivial
        | ok live => exact healAll_heals fun _ h => h
      · exact fun a b hab ha => hab ▸ ha
      · intro c o a hc hi' _ hl
        exact ⟨trivial, heals_step o hc hi' hl⟩
    · rw [h]
      exact fun _ _ _ => trivial
  exact (hmeets.exec hi healing fun _ _ => trivial).2.1

theorem consistent_nodeEvent (b : Backend) (e : NodeEvent) (hi : Consistent P w) :
    Consistent P (nodeEvent b e w) := by
  cases e with
  | reboot healing => exact heal_keeps b healing (consistent_reboot hi)
  | restart released healing => exact heal_keeps b healing (consistent_restart hi released)

end Events

/-- A call for the volume that is staged at a path. -/
inductive NodeCall (P : Placement) (p : String) where
  | stage (req : NodeStageRequest) (path : req.stagingPath = p) (volume : req.volume = P.volumeAt p)
  | unstage (req : NodeUnstageRequest) (path : req.stagingPath = p)
      (volume : req.volume = P.volumeAt p)

def NodeCall.program {P : Placement} {p : String} (b : Backend) : NodeCall P p → Prog Unit
  | .stage req _ _ => nodeStage b req
  | .unstage req _ _ => nodeUnstage b req

/-- The calls for one volume, one after the other, whatever each of them returns. -/
def session {P : Placement} {p : String} (b : Backend) : List (NodeCall P p) → Prog Unit
  | [] => .pure ()
  | call :: rest => do
      let _ : Except Err Unit ← (call.program b).attempt
      session b rest

/-- The calls of every volume between two events of the node, the order in which their requests
are made, and the event that ends them. -/
structure NodeEpoch (P : Placement) where
  calls : (p : String) → List (NodeCall P p)
  schedule : List (String × Outcome)
  event : NodeEvent

def NodeEpoch.epoch {P : Placement} (b : Backend) (e : NodeEpoch P) :
    Epoch Cmd Cmd.Reply String Err Unit Outcome NodeEvent :=
  ⟨fun p => session b (e.calls p), e.schedule, e.event⟩

/-- Nothing has been staged on the node yet. -/
structure World.Unstaged (w : World) : Prop where
  mapped : w.mapped = []
  mappers : w.mappers = []
  mounts : w.mounts = []
  records : w.records = []

section Runs

variable {P : Placement} {p : String} {w : World}

theorem Consistent.of_unstaged (h : w.Unstaged) : Consistent P w := by
  constructor
  · intro d i himage
    simp [World.imageOf, h.mapped, Assoc.get] at himage
  · simp [h.records]
  · simp [h.records]
  · simp [h.mappers]
  · simp [h.mounts]
  · simp [h.records]

theorem session_keeps (b : Backend) (calls : List (NodeCall P p)) :
    SessionMeets P p (session b calls) (fun _ _ => True) w := by
  induction calls generalizing w with
  | nil => exact fun _ _ _ => trivial
  | cons call rest ih =>
    have hcall : SessionMeets P p (call.program b) (fun _ _ => True) w := by
      cases call with
      | stage req hpath hvol => exact (nodeStage_keeps hpath hvol).mono fun _ _ _ _ => trivial
      | unstage req hpath hvol => exact (nodeUnstage_keeps hpath).mono fun _ _ _ _ => trivial
    exact Meets.tryAnyway hcall fun _ a _ _ => ih

theorem identityContract_compatible (P : Placement) :
    Pool.Compatible (identityContract P) (Consistent P) :=
  ⟨fun _ _ => Iff.rfl, fun _ q _ _ _ hpq _ _ hg => hg.2 q (Ne.symm hpq)⟩

end Runs

/-- In every run of stages and unstages with restarts and reboots in between, in which a fresh
map never gets a device that a record of another staging path names, every device that is handed
to a tool or unmapped is the volume's own. -/
theorem staging_hands_own_device (b : Backend) (P : Placement) (epochs : List (NodeEpoch P))
    (w : World) (hw : w.Unstaged)
    (hfresh : Epoch.Along nodeMachine (nodeEvent b) (fun p c o w => freshDevice p c o w = true)
      (fun _ _ => True) (epochs.map (NodeEpoch.epoch b)) w) :
    Epoch.Along nodeMachine (nodeEvent b) (fun p c _ w => handsOwnDevice P p w c = true)
      (fun _ _ => True) (epochs.map (NodeEpoch.epoch b)) w := by
  apply Epoch.along_of_contracts (identityContract_compatible P) (fun _ _ _ _ hg => hg.1)
    (fun e a hi _ => consistent_nodeEvent b e hi) _ _ (Consistent.of_unstaged hw) hfresh
  intro e he p a _
  obtain ⟨e', _, rfl⟩ := List.mem_map.mp he
  exact session_keeps b (e'.calls p)

section Reboot

/-- The volumes are named after their staging paths. -/
def twoVolumes : Placement where
  volumeAt p := ⟨"ceph", "pool", .plain p⟩
  injective p q h := by
    injection h with _ _ h
    injection h

def krbdBackend : Backend where
  clusters _ := some ⟨["mon"], "pool", "admin", .krbd, "", false, ""⟩
  encKeyDir := "keys"
  stateDir := "state"
  providers _ := none
  cloneDepthLimit := 0
  devicePolls := 0

def stageAt (p : String) : NodeCall twoVolumes p :=
  .stage ⟨twoVolumes.volumeAt p, p, "ext4", [], false, false, true, fun _ => .empty, "",
    fun _ => .empty⟩ rfl rfl

def twoImages : World :=
  (World.start.setImage (twoVolumes.volumeAt "/a") (.new 1)).setImage
    (twoVolumes.volumeAt "/b") (.new 1)

/-- Requests of one session that all work, with the number that a map would get. -/
def turns (p : String) (n pick : ℕ) : List (String × Outcome) :=
  List.replicate n (p, ⟨none, false, pick⟩)

/-- A volume is staged, the node reboots, and both volumes are staged in some order. -/
def rebootRun (after : List (String × Outcome)) : List (NodeEpoch twoVolumes) :=
  [⟨fun p => [stageAt p], turns "/a" 12 0, .reboot [.ok]⟩,
    ⟨fun p => [stageAt p], after, .reboot []⟩]

theorem staging_hands_own_device_after_reboot :
    Epoch.Along nodeMachine (nodeEvent krbdBackend)
      (fun p c _ w => handsOwnDevice twoVolumes p w c = true) (fun _ _ => True)
      ((rebootRun (turns "/a" 12 0 ++ turns "/b" 12 1)).map (NodeEpoch.epoch krbdBackend))
      twoImages :=
  staging_hands_own_device krbdBackend twoVolumes _ twoImages ⟨rfl, rfl, rfl, rfl⟩
    (by decide +kernel)

/-- After the reboot the second volume gets the number that the record of the first one still
names, and the next stage of the first volume works on the device of the second. -/
theorem restage_after_reboot_takes_foreign_device :
    ¬Epoch.Along nodeMachine (nodeEvent krbdBackend)
      (fun p c _ w => handsOwnDevice twoVolumes p w c = true) (fun _ _ => True)
      ((rebootRun (turns "/b" 12 0 ++ turns "/a" 12 1)).map (NodeEpoch.epoch krbdBackend))
      twoImages := by
  decide +kernel

end Reboot

end BardCsi.Ceph
