import BardCsi.Ceph.ImageCalls
import BardCsi.Ceph.SelfFence

/-!
Taking over an exclusive volume. A stage that maps the image first blocks every client that
watches it and has an address, so a writer on an earlier node cannot reach the image once this
node has it.
-/
namespace BardCsi.Ceph

open Effect Program

def Cmd.isMap : Cmd → Bool
  | .rbdMap _ _ _ _ _ _ => true
  | _ => false

/-- An image is mapped only once the clients are blocked. -/
def takeoverContract (clients : List Address) : Contract Cmd Outcome World :=
  .alone (fun _ => True) (fun _ _ _ => True) fun c w _ => c.isMap = true → clients ⊆ w.blocked

/-- A stage that fails on the way need not have blocked anybody. -/
abbrev TakesOver {α : Type} (clients : List Address) (prog : Prog α) (P : α → World → Prop)
    (w : World) : Prop :=
  prog.Meets machine 0 (takeoverContract clients) (IfOk P) w

section Takeover

variable {α : Type} {clients found : List Address} {w : World} {P : α → World → Prop}
variable {b : Backend} {cc : ClusterConfig} {req : NodeStageRequest} {vol : ImageRef}

theorem takesOver_request {c : Cmd} {k : c.Reply → Prog α} (hc : c.isMap = false)
    (hk : ∀ o, TakesOver clients (k (step 0 c o w).1) P (step 0 c o w).2) :
    TakesOver clients (.request c k) P w :=
  meets_request_alone.mpr fun _ o _ => ⟨by simp [hc], trivial, hk o⟩

theorem takesOver_pure {a : α} (h : P a w) : TakesOver clients (.pure a) P w :=
  meets_pure_alone.mpr fun _ => h

theorem takesOver_fail {e : Err} : TakesOver clients (.fail e) P w :=
  meets_fail_alone.mpr fun _ => trivial

theorem takesOver_mapless {prog : Prog α} (hu : prog.Uses fun c => c.isMap = false) :
    TakesOver clients prog (fun _ _ => True) w := by
  induction prog generalizing w with
  | pure a => exact takesOver_pure trivial
  | fail e => exact takesOver_fail
  | request c k ih => exact takesOver_request hu.1 fun o => ih _ (hu.2 _)

theorem takesOver_reads {i : ImageRef} {prog : Prog α} (hu : prog.Uses fun c => c.reads = true)
    (h : w.watchers i = found) :
    TakesOver clients prog (fun _ a => a.watchers i = found) w := by
  induction prog generalizing w with
  | pure a => exact takesOver_pure h
  | fail e => exact takesOver_fail
  | request c k ih =>
    have hc : c.isMap = false := by
      cases c with
      | rbdMap => exact absurd hu.1 (by simp [Cmd.reads])
      | _ => rfl
    refine takesOver_request hc fun o => ih _ (hu.2 _) ?_
    rcases step_reads hu.1 0 o w with hs | hs
    · rwa [hs]
    · rwa [hs]

theorem recordedDevice_reads (p : String) :
    (recordedDevice b p).Uses fun c => c.reads = true := by
  have hlookup : (lookupDevice b p).Uses fun c => c.reads = true := by
    refine Uses.bind (Uses.ite trivial ⟨rfl, fun r => ?_⟩) fun _ => trivial
    cases r with
    | ok file => trivial
    | error e => trivial
  apply hlookup.bind
  intro found
  cases found with
  | none => trivial
  | some d => exact ⟨rfl, fun _ => Uses.ite trivial trivial⟩

theorem step_rbdStatus_ok {o : Outcome}
    (h : (step 0 (.rbdStatus vol) o w).1 = .ok found) : found = w.watchers vol := by
  rw [step_worked 0 o w fun f hf => by rw [h] at hf; cases hf] at h
  change (onImage vol w fun _ => (.ok (w.watchers vol), w)).1 = _ at h
  unfold onImage at h
  cases him : w.images vol with
  | none => simp [him, refused] at h
  | some im => simpa [him] using h.symm

theorem step_blocklistAdd_ok {x : Address} {o : Outcome}
    (h : (step 0 (.blocklistAdd x) o w).1 = .ok ()) :
    (step 0 (.blocklistAdd x) o w).2 = { w with blocked := x :: w.blocked } := by
  rw [step_worked 0 o w fun f hf => by rw [h] at hf; cases hf]
  rfl

theorem blocklistAll_takesOver {done todo : List Address} (h : done ⊆ w.blocked) :
    TakesOver clients (blocklistAll vol todo)
      (fun _ a => done ++ todo.filter Address.given ⊆ a.blocked) w := by
  induction todo generalizing w done with
  | nil => exact takesOver_pure (by rwa [List.filter_nil, List.append_nil])
  | cons x rest ih =>
    unfold blocklistAll
    cases hx : x.given with
    | false =>
      rw [List.filter_cons_of_neg (by simp [hx])]
      exact ih h
    | true =>
      rw [List.filter_cons_of_pos hx]
      apply takesOver_request rfl
      intro o
      cases hreply : (step 0 (.blocklistAdd x) o w).1 with
      | error e => exact takesOver_fail
      | ok u =>
        rw [step_blocklistAdd_ok hreply, List.append_cons]
        apply ih
        exact List.append_subset.mpr ⟨List.subset_cons_of_subset x h, by simp⟩

theorem fenceStaleWatchers_takesOver (secrets : Params) (h : w.watchers vol = found) :
    TakesOver clients (fenceStaleWatchers cc vol secrets)
      (fun _ a => found.filter Address.given ⊆ a.blocked) w := by
  apply takesOver_request rfl
  intro o
  cases hreply : (step 0 (.rbdStatus vol) o w).1 with
  | error e => exact takesOver_fail
  | ok listed =>
    obtain rfl : listed = found := (step_rbdStatus_ok hreply).trans h
    refine Meets.ite (fun hnil => takesOver_pure ?_) fun _ => takesOver_request rfl ?_
    · rw [hnil]
      exact List.nil_subset _
    · intro o'
      cases (step 0 (.cephCLIConn vol.inst (userID cc secrets)) o' _).1 with
      | error e => exact takesOver_fail
      | ok u => exact blocklistAll_takesOver (List.nil_subset _)

theorem mapImage_takesOver {m : Mounter} {opts : String} {cookie log : Text} {ro : Bool}
    (h : clients ⊆ w.blocked) :
    TakesOver clients (mapImage m vol opts cookie log ro) (fun _ a => clients ⊆ a.blocked) w := by
  have hmap : ∀ (m : Mounter) (opts cookie log : Text),
      TakesOver clients (run (.rbdMap m vol opts cookie log ro))
        (fun _ a => clients ⊆ a.blocked) w := by
    intro m opts cookie log
    refine meets_request_alone.mpr fun _ o _ => ⟨fun _ => h, trivial, takesOver_pure ?_⟩
    change clients ⊆ (step 0 _ o w).2.blocked
    rcases step_rbdMap 0 o w m vol opts cookie log ro with hs | ⟨_, hs⟩
    · rwa [hs]
    · rwa [hs]
  cases m with
  | krbd => exact hmap _ _ _ _
  | nbd => exact hmap _ _ _ _

theorem mapWithFallback_takesOver {cookie : Text} (h : clients ⊆ w.blocked) :
    TakesOver clients (mapWithFallback cc req cookie) (fun _ _ => True) w := by
  apply (mapImage_takesOver h).ends
  intro r a _ ha
  cases r with
  | ok d => exact takesOver_pure trivial
  | error e =>
    refine Meets.ite (fun _ => takesOver_fail) fun _ => ?_
    apply (mapImage_takesOver ha).ends
    intro r' a' _ _
    cases r' with
    | ok d => exact takesOver_pure trivial
    | error e' => exact takesOver_fail

theorem KeepsMaps.mapless {prog : Prog α} (h : KeepsMaps prog) :
    prog.Uses fun c => c.isMap = false := by
  apply h.mono
  intro c hc
  cases c with
  | rbdMap => cases hc
  | _ => rfl

theorem mapFresh_takesOver (hexcl : req.exclusive = true) (h : w.watchers req.volume = found) :
    TakesOver (found.filter Address.given) (mapFresh b cc req) (fun _ _ => True) w := by
  unfold mapFresh fenceExclusive
  rw [if_pos hexcl]
  apply (fenceStaleWatchers_takesOver req.secrets h).ends
  intro _ a _ ha
  apply (mapWithFallback_takesOver ha).ends
  rintro ⟨d, m⟩ a₁ _ _
  apply takesOver_mapless
  apply ((waitForDevice_idle d _).actsOn (p := "") (.other "")).keepsMaps.mapless.bind
  intro _
  refine Uses.bind (Uses.ite trivial ⟨rfl, fun r => ?_⟩) fun _ => trivial
  exact orFail_uses r _

theorem nodeStage_takesOver (hexcl : req.exclusive = true) (w : World) :
    TakesOver ((w.watchers req.volume).filter Address.given) (nodeStage b req)
      (fun _ _ => True) w := by
  apply (takesOver_reads (i := req.volume) (cluster_uses b _) rfl).ends
  intro cc a _ ha
  apply (takesOver_reads (connArgs_reads cc _ _) ha).ends
  intro _ a₁ _ ha₁
  have hdevice :
      TakesOver ((w.watchers req.volume).filter Address.given) (mappedDevice b cc req)
        (fun _ _ => True) a₁ := by
    apply (takesOver_reads (recordedDevice_reads _) ha₁).ends
    intro recorded a₂ _ ha₂
    cases recorded with
    | some d => exact takesOver_pure trivial
    | none => exact mapFresh_takesOver hexcl ha₂
  apply hdevice.ends
  exact fun d a₂ _ _ => takesOver_mapless (stageMapped_keepsMaps d).mapless

end Takeover

/-- In every run of a stage of an exclusive volume, whatever fails, an image is mapped only after
all clients with an address have been blocked that watched the volume when the stage began. -/
theorem exclusive_maps_after_fencing (b : Backend) (req : NodeStageRequest)
    (hexcl : req.exclusive = true) (w : World) (outcomes : List Outcome) :
    ∀ e ∈ (machine.exec 0 (nodeStage b req) outcomes w).1, e.cmd.isMap = true →
      ∀ x ∈ w.watchers req.volume, x.given = true → x ∈ e.before.blocked :=
  fun e he hmap _ hx hgiven =>
    ((nodeStage_takesOver hexcl w).exec trivial outcomes fun _ _ => trivial).1 e he hmap
      (List.mem_filter.mpr ⟨hx, hgiven⟩)

/-- A stage of a volume that a client on another node watches. -/
def watchedStage : Trace :=
  (machine.exec 0 ((stageAt "/a").program krbdBackend) (List.replicate 30 .ok) watchedImage).1

theorem exclusive_maps_after_fencing_watched :
    (watchedStage.any fun e => e.cmd.isMap) = true ∧
      ∀ e ∈ watchedStage, e.cmd.isMap = true → .foreign "10.0.0.7:0/1" ∈ e.before.blocked :=
  ⟨by decide +kernel, fun e he hmap => exclusive_maps_after_fencing krbdBackend _ rfl watchedImage _
    e he hmap _ List.mem_cons_self (by decide)⟩

end BardCsi.Ceph
