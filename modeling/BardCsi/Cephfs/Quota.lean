import BardCsi.Cephfs.Provision

/-!
The quotas of subvolumes. Two requests set a quota whatever it was: the creation of a subvolume
that is already there, and the change of its size. A call that makes one of them shrinks the
subvolume if it asks for less than the quota of the moment, which may be more than what was ever
asked for.
-/
namespace BardCsi.Cephfs.Provision

open Effect Program

/-- No subvolume has a smaller quota than before. -/
def KeepsQuota (w w' : World) : Prop :=
  ∀ sub s s', w.subvolumes sub = some s → w'.subvolumes sub = some s' → s.quota ≤ s'.quota

/-- The quota of a subvolume that is there is not smaller than a size. -/
def AtLeast (sub : SubvolumeRef) (size : Int) (w : World) : Prop :=
  ∀ s, w.subvolumes sub = some s → (size.toNat : ℕ∞) ≤ s.quota

/-- A quota that is not larger than a size. -/
def AtMost (sub : SubvolumeRef) (size : Int) (w : World) : Prop :=
  ∀ s, w.subvolumes sub = some s → s.quota ≤ size.toNat

/-- Requests that lower no quota. -/
def Cmd.growing : Cmd → Bool
  | .subvolumeCreate _ (some _) | .subvolumeResize _ _ false => false
  | _ => true

/-- Requests that change nothing. -/
def Cmd.still : Cmd → Bool
  | .cephConn _ _ | .subvolumegroupCreate _ _ | .nfsExportCreate _ _ _ _ | .getpath _
  | .metadataSet _ _ _ | .subvolumePin _ _ _ => true
  | _ => false

section Steps

variable {w : World} {sub : SubvolumeRef} {c : Cmd}

theorem KeepsQuota.refl (w : World) : KeepsQuota w w := by
  intro sub s s' hs hs'
  rw [Option.some.inj (hs.symm.trans hs')]

@[simp] theorem put_self (x : Option Subvolume) : (w.put sub x).subvolumes sub = x :=
  Function.update_self ..

theorem put_of_ne {sub' : SubvolumeRef} (h : sub' ≠ sub) (x : Option Subvolume) :
    (w.put sub x).subvolumes sub' = w.subvolumes sub' :=
  Function.update_of_ne h ..

theorem keepsQuota_put {x : Option Subvolume}
    (h : ∀ s s', w.subvolumes sub = some s → x = some s' → s.quota ≤ s'.quota) :
    KeepsQuota w (w.put sub x) := by
  intro sub' s s' hs hs'
  by_cases heq : sub' = sub
  · subst heq
    rw [put_self] at hs'
    exact h s s' hs hs'
  · rw [put_of_ne heq] at hs'
    rw [Option.some.inj (hs.symm.trans hs')]

theorem onSubvolume_state {α : Type} {f : Subvolume → Except RunError α × World}
    {P : World → Prop} (hw : P w) (hf : ∀ s, w.subvolumes sub = some s → P (f s).2) :
    P (onSubvolume w sub f).2 := by
  unfold onSubvolume
  cases hs : w.subvolumes sub with
  | none => exact hw
  | some s => exact hf s hs

theorem keepsQuota_update {s t : Subvolume} (hs : w.subvolumes sub = some s)
    (h : s.quota ≤ t.quota) : KeepsQuota w (w.put sub (some t)) := by
  refine keepsQuota_put fun s₁ s₂ h₁ h₂ => ?_
  rw [← Option.some.inj (hs.symm.trans h₁), ← Option.some.inj h₂]
  exact h

theorem performCreate_grows {size : Option Int} (h : ∀ n, size = some n → AtMost sub n w) :
    KeepsQuota w (performCreate sub size w).2 := by
  unfold performCreate
  split
  · rename_i s n hs
    exact keepsQuota_update hs (h n rfl s hs)
  · exact .refl w
  · rename_i n hs
    refine keepsQuota_put fun s s' h' => ?_
    cases hs.symm.trans h'
  · rename_i hs
    refine keepsQuota_put fun s s' h' => ?_
    cases hs.symm.trans h'

theorem performResize_grows {size : Int} {noShrink : Bool}
    (h : noShrink = false → 0 < size → AtMost sub size w) :
    KeepsQuota w (performResize sub size noShrink w).2 := by
  refine onSubvolume_state (.refl w) fun s hs => ?_
  split_ifs with hsize hno
  · exact .refl w
  · exact .refl w
  · apply keepsQuota_update hs
    cases noShrink with
    | false => exact h rfl (Int.not_le.mp hsize) s hs
    | true => exact (not_le.mp fun hle => hno ⟨rfl, hle⟩).le

theorem perform_still (hc : c.still = true) (said : CloneReply) :
    (perform said c w).2 = w := by
  have hon : ∀ {α : Type} {sub : SubvolumeRef} {x : Except RunError α},
      (onSubvolume w sub fun _ => (x, w)).2 = w := by
    intro α sub x
    exact onSubvolume_state (P := fun a => a = w) rfl fun _ _ => rfl
  cases c with
  | cephConn inst user => rfl
  | subvolumegroupCreate fs group => rfl
  | nfsExportCreate cluster pseudo fs path => rfl
  | getpath sub => exact hon
  | metadataSet sub key value => exact hon
  | subvolumePin sub pinType pinSetting => exact hon
  | _ => cases hc

theorem perform_growing (hc : c.growing = true) (said : CloneReply) :
    KeepsQuota w (perform said c w).2 := by
  by_cases hstill : c.still = true
  · rw [perform_still hstill]
    exact .refl w
  cases c with
  | subvolumeCreate sub size =>
    cases size with
    | none => exact performCreate_grows fun n hn => by cases hn
    | some n => cases hc
  | subvolumeResize sub size noShrink =>
    cases noShrink with
    | false => cases hc
    | true => exact performResize_grows fun h => by cases h
  | subvolumeRm sub =>
    refine onSubvolume_state (.refl w) fun s hs => ?_
    split_ifs
    · exact .refl w
    · exact keepsQuota_put fun s s' _ h => by cases h
  | snapshotCreate sub snap =>
    refine onSubvolume_state (.refl w) fun s hs => ?_
    split_ifs
    · exact .refl w
    · exact keepsQuota_update hs le_rfl
  | snapshotClone sub snap target =>
    refine onSubvolume_state (.refl w) fun s hs => ?_
    split
    · exact .refl w
    · split_ifs with hsome
      · exact .refl w
      · refine keepsQuota_put fun s₁ s₂ h₁ _ => ?_
        rw [h₁] at hsome
        exact absurd rfl hsome
  | snapshotRm sub snap => exact onSubvolume_state (.refl w) fun s hs => keepsQuota_update hs le_rfl
  | cloneStatus target =>
    refine onSubvolume_state (.refl w) fun s hs => ?_
    split
    · exact .refl w
    · exact keepsQuota_update hs le_rfl
    · exact .refl w
  | _ => exact absurd rfl hstill

theorem step_still (hc : c.still = true) (o : Outcome) : (step c o w).2 = w := by
  obtain h | h := step_state c o w
  · exact h
  · rw [h, perform_still hc]

theorem step_growing (hc : c.growing = true) (o : Outcome) : KeepsQuota w (step c o w).2 := by
  obtain h | h := step_state c o w
  · rw [h]
    exact .refl w
  · rw [h]
    exact perform_growing hc _

end Steps

inductive Call where
  | create (req : CreateVolumeRequest)
  | expand (req : ExpandVolumeRequest)

/-- A call returns the capacity that it reports. -/
def Call.program (b : Backend) : Call → Prog Int
  | .create req => (createVolume b req).bind fun resp => .pure resp.capacityBytes
  | .expand req => (expandVolume b req).bind fun resp => .pure resp.capacityBytes

/-- The subvolume that a creation works on, if the request passes its checks and is not for a
volume that only refers to a snapshot. -/
def CreateVolumeRequest.target (b : Backend) (cc : ClusterConfig) (req : CreateVolumeRequest) :
    Option SubvolumeRef :=
  match validateEncryptionParams cc req.parameters req.isClone,
    validateMutableParams b req.mutableParams, req.shallow,
    namePrefix "volumeNamePrefix" (req.parameters "volumeNamePrefix") "bard-" with
  | .ok (), .ok (), none, .ok pre =>
      some ⟨cc.fsName, resolveSubvolumeGroup req.parameters cc, subvolName b pre req.name⟩
  | _, _, _, _ => none

/-- The subvolume that a call works on. -/
def Call.target (b : Backend) : Call → Option SubvolumeRef
  | .create req => (b.clusters req.inst).bind fun cc => req.target b cc
  | .expand req =>
      if Strings.hasPrefix req.volume.name shallowPrefix then none
      else (b.clusters req.volume.inst).map (·.subvolume req.volume)

/-- The size to which a call sets the quota, whatever it was. -/
def Call.sets : Call → Option Int
  | .create req => if req.isClone then none else sizeArg req.capacityBytes
  | .expand req => sizeArg req.newSizeBytes

/-- The call asks for no less than the quota of the moment. -/
def Fits (b : Backend) (call : Call) (w : World) : Prop :=
  ∀ sub size, call.target b = some sub → call.sets = some size → AtMost sub size w

/-- A call reports no more than the quota that is in force. -/
def Reports (b : Backend) (call : Call) : Except Err Int → World → Prop :=
  IfOk fun capacity w => ∀ sub, call.target b = some sub →
    ∃ s, w.subvolumes sub = some s ∧ (capacity.toNat : ℕ∞) ≤ s.quota

section Programs

variable {α β : Type} {strict : Prop} {w : World} {b : Backend} {cc : ClusterConfig}
variable {sub : SubvolumeRef} {p : Prog α} {c : Cmd} {allowed : Cmd → Prop}
variable {Q : Except Err α → World → Prop} {size : Int} {req : CreateVolumeRequest} {s : Subvolume}
variable {f : c.Reply → Prog α}

/-- One call at a time. If it has to, it lowers no quota. -/
def quotaContract (strict : Prop) : Contract Cmd Outcome World :=
  .alone (fun _ => True) (fun _ _ _ => True) fun _ w w' => strict → KeepsQuota w w'

theorem growing_meets (h : p.Uses fun c => c.growing = true) :
    p.Meets machine () (quotaContract strict) (fun _ _ => True) w :=
  Meets.of_uses h trivial (fun _ _ _ _ => trivial) fun _ o _ hc _ _ _ =>
    ⟨fun _ => step_growing hc o, trivial, trivial⟩

theorem growing_of_still (h : c.still = true) : c.growing = true := by
  cases c <;> first | rfl | cases h

theorem still_meets (h : p.Uses fun c => c.still = true) :
    p.Meets machine () (quotaContract strict) (fun _ a => a = w) w := by
  refine Meets.of_uses (P := fun a => a = w) h rfl ?_ fun c o a hc _ _ ha => ?_
  · rintro a _ rfl ha
    exact ha
  · exact ⟨fun _ => step_growing (growing_of_still hc) o, trivial, (step_still hc o).trans ha⟩

theorem orFail_uses (r : Except RunError α) (what : String) :
    (orFail r what).Uses allowed := by
  cases r <;> trivial

theorem orExists_uses (r : Except RunError Unit) (what : String) :
    (orExists r what).Uses allowed := by
  unfold orExists
  split <;> trivial

theorem ask_uses (h : allowed c) (hf : ∀ r, (f r).Uses allowed) : ((run c).bind f).Uses allowed :=
  (Uses.ask h).bind hf

theorem pollClone_uses {next : Prog Unit} (hlook : allowed (.cloneStatus sub))
    (hrm : allowed (.subvolumeRm sub)) (h : next.Uses allowed) :
    (pollClone sub next).Uses allowed := by
  refine ask_uses hlook fun r => (orFail_uses r _).bind fun state => ?_
  cases state with
  | inProgress => exact h
  | complete => trivial
  | failed => exact ask_uses hrm fun _ => trivial
  | canceled => exact ask_uses hrm fun _ => trivial

theorem waitClone_uses (hlook : allowed (.cloneStatus sub)) (hrm : allowed (.subvolumeRm sub))
    (n : ℕ) : (waitClone sub n).Uses allowed := by
  induction n with
  | zero => exact pollClone_uses hlook hrm trivial
  | succ n ih => exact pollClone_uses hlook hrm ih

theorem cloneFromSnapshot_uses (fs : String) (snap : VolumeRef) :
    (cloneFromSnapshot b fs snap sub).Uses fun c => c.growing = true := by
  unfold cloneFromSnapshot
  split
  · trivial
  · exact ask_uses rfl fun r => (orExists_uses r _).bind fun _ => waitClone_uses (by rfl) (by rfl) _

theorem cloneFromVolume_uses (fs : String) (vol : VolumeRef) :
    (cloneFromVolume b fs vol sub).Uses fun c => c.growing = true := by
  refine ask_uses rfl fun r => (orExists_uses r _).bind fun _ => ?_
  refine ask_uses rfl fun r => (orExists_uses r _).bind fun _ => ?_
  exact (waitClone_uses (by rfl) (by rfl) _).bind fun _ => ask_uses rfl fun _ => trivial

theorem setOwnerMetadata_uses (params : String → String) (keys : List (String × String)) :
    (setOwnerMetadata sub params keys).Uses fun c => c.still = true := by
  induction keys with
  | nil => trivial
  | cons kv rest ih => exact Uses.ite (ask_uses rfl fun _ => ih) ih

theorem metaSet_uses (spec key value : String) :
    (metaSet spec key value).Uses fun c => c.still = true := by
  unfold metaSet
  split
  · trivial
  · exact ask_uses rfl fun r => orFail_uses r _

theorem exportContext_uses (path : String) :
    (exportContext cc sub path).Uses fun c => c.still = true := by
  refine Uses.ite (Uses.bind ?_ fun _ => trivial) trivial
  exact Uses.ite trivial (ask_uses rfl fun r => orExists_uses r _)

theorem finishCreate_uses (req : CreateVolumeRequest) :
    (finishCreate cc req sub).Uses fun c => c.still = true := by
  refine ask_uses rfl fun r => (orFail_uses r _).bind fun path => ?_
  refine (setOwnerMetadata_uses _ _).bind fun _ => ?_
  refine Uses.bind ?_ fun _ => Uses.bind ?_ fun _ => ?_
  · exact Uses.ite trivial (ask_uses rfl fun r => orFail_uses r _)
  · exact Uses.ite trivial (Uses.ite (metaSet_uses _ _ _) trivial)
  · exact (exportContext_uses _).bind fun _ => trivial

theorem ensureSubvolumeGroup_uses (fs group : String) :
    (ensureSubvolumeGroup fs group).Uses fun c => c.still = true :=
  Uses.ite trivial (ask_uses rfl fun r => orFail_uses r _)

theorem cephConn_uses (inst : String) (secrets : String → String) :
    (cephConn cc inst secrets).Uses fun c => c.still = true :=
  ask_uses rfl fun r => orFail_uses r _

theorem createShallowVolume_uses (req : CreateVolumeRequest) (snap : VolumeRef) :
    (createShallowVolume cc req snap).Uses fun c => c.still = true := by
  refine Uses.ite trivial ?_
  split
  · trivial
  · exact ask_uses rfl fun r => (orFail_uses r _).bind fun _ => trivial

theorem quota_request (hgrows : ∀ o, strict → KeepsQuota w (step c o w).2)
    (hf : ∀ o, (f (step c o w).1).Meets machine () (quotaContract strict) Q (step c o w).2) :
    ((run c).bind f).Meets machine () (quotaContract strict) Q w := by
  rintro _ rfl _ o _
  exact ⟨hgrows o, trivial, hf o⟩

theorem quota_ok {a : α} (h : Q (.ok a) w) :
    (Program.pure a : Prog α).Meets machine () (quotaContract strict) Q w :=
  meets_pure_alone.mpr fun _ => h

theorem quota_error {e : Err} (h : Q (.error e) w) :
    (Program.fail e : Prog α).Meets machine () (quotaContract strict) Q w :=
  meets_fail_alone.mpr fun _ => h

theorem performCreate_atLeast :
    AtLeast sub size (performCreate sub (sizeArg size) w).2 := by
  have hput : ∀ s : Subvolume, s.quota = size.toNat → AtLeast sub size (w.put sub (some s)) := by
    intro s hs s' hs'
    rw [put_self] at hs'
    rw [← Option.some.inj hs', hs]
  unfold performCreate sizeArg
  by_cases hpos : 0 < size
  · rw [if_pos hpos]
    cases w.subvolumes sub with
    | some s => exact hput _ rfl
    | none => exact hput _ rfl
  · intro s _
    rw [Int.toNat_eq_zero.mpr (Int.not_lt.mp hpos)]
    exact zero_le

theorem performResize_atLeast {noShrink : Bool} {u : Unit}
    (h : (performResize sub size noShrink w).1 = .ok u) :
    ∃ s, (performResize sub size noShrink w).2.subvolumes sub = some s ∧
      (size.toNat : ℕ∞) ≤ s.quota := by
  unfold performResize onSubvolume at h ⊢
  cases hs : w.subvolumes sub with
  | none =>
    rw [hs] at h
    cases h
  | some s =>
    rw [hs] at h
    dsimp only at h ⊢
    split_ifs at h ⊢ with hsize hno
    · exact ⟨s, hs, hno.2⟩
    · exact ⟨_, put_self _, le_rfl⟩

theorem populate_meets
    (hfits : strict → req.isClone = false → ∀ n, sizeArg req.capacityBytes = some n →
      AtMost sub n w) :
    (populate b cc req sub).Meets machine () (quotaContract strict)
      (IfOk fun _ a => req.isClone = false → AtLeast sub req.capacityBytes a) w := by
  have hclone : ∀ {p : Prog Unit}, p.Uses (fun c => c.growing = true) → req.isClone = true →
      p.Meets machine () (quotaContract strict)
        (IfOk fun _ a => req.isClone = false → AtLeast sub req.capacityBytes a) w := by
    intro p hp hreq
    refine (growing_meets hp).mono fun r a _ _ => ?_
    cases r with
    | error e => trivial
    | ok u =>
      intro hno
      cases hreq.symm.trans hno
  unfold populate
  cases hsnap : req.sourceSnapshot with
  | some snap =>
    exact hclone (cloneFromSnapshot_uses _ _) (by rw [CreateVolumeRequest.isClone, hsnap]; rfl)
  | none =>
  cases hvol : req.sourceVolume with
  | some vol =>
    exact hclone (cloneFromVolume_uses _ _) (by rw [CreateVolumeRequest.isClone, hsnap, hvol]; rfl)
  | none =>
    have hreq : req.isClone = false := by rw [CreateVolumeRequest.isClone, hsnap, hvol]; rfl
    refine quota_request (fun o hstrict => ?_) fun o => ?_
    · obtain h | h := step_state (.subvolumeCreate sub (sizeArg req.capacityBytes)) o w
      · rw [h]
        exact .refl w
      · rw [h]
        exact performCreate_grows (hfits hstrict hreq)
    · obtain h | ⟨msg, h⟩ := step_cases (.subvolumeCreate sub (sizeArg req.capacityBytes)) o w
      · rw [h]
        change Meets _ _ _ (orFail (performCreate sub _ w).1 _) _ (performCreate sub _ w).2
        have hatLeast : AtLeast sub req.capacityBytes
            (performCreate sub (sizeArg req.capacityBytes) w).2 := performCreate_atLeast
        cases (performCreate sub (sizeArg req.capacityBytes) w).1 with
        | error e => exact quota_error trivial
        | ok u => exact quota_ok fun _ => hatLeast
      · rw [h]
        exact quota_error trivial

theorem growClone_meets (h : req.isClone = false → AtLeast sub req.capacityBytes w) :
    (growClone req sub).Meets machine () (quotaContract strict)
      (IfOk fun _ a => AtLeast sub req.capacityBytes a) w := by
  refine Meets.ite (fun hgrow => ?_) fun hgrow => quota_ok ?_
  · refine quota_request (fun o _ => step_growing rfl o) fun o => ?_
    obtain hstep | ⟨msg, hstep⟩ := step_cases (.subvolumeResize sub req.capacityBytes true) o w
    · rw [hstep]
      change Meets _ _ _ (orFail (performResize sub _ true w).1 _) _
        (performResize sub _ true w).2
      cases hreply : (performResize sub req.capacityBytes true w).1 with
      | error e => exact quota_error trivial
      | ok u =>
        obtain ⟨s, hs, hle⟩ := performResize_atLeast hreply
        refine quota_ok fun s' hs' => ?_
        rwa [← Option.some.inj (hs.symm.trans hs')]
    · rw [hstep]
      exact quota_error trivial
  · by_cases hclone : req.isClone = true
    · intro s _
      rw [Int.toNat_eq_zero.mpr (Int.not_lt.mp fun hpos => hgrow ⟨hclone, hpos⟩)]
      exact zero_le
    · exact h (Bool.eq_false_iff.mpr hclone)

theorem finishCreate_meets (h : AtLeast sub req.capacityBytes w) :
    (finishCreate cc req sub).Meets machine () (quotaContract strict)
      (IfOk fun resp a => ∃ s, a.subvolumes sub = some s ∧
        (resp.capacityBytes.toNat : ℕ∞) ≤ s.quota) w := by
  refine quota_request (fun o _ => step_growing rfl o) fun o => ?_
  have hfinish : (finishCreate cc req sub).Uses fun c => c.still = true := finishCreate_uses req
  have huses := hfinish.2 (step (.getpath sub) o w).1
  rw [step_still rfl]
  cases hs : w.subvolumes sub with
  | some s =>
    refine ((still_meets huses).yields (finishCreate_yields cc req sub _)).mono fun r a _ hr => ?_
    cases r with
    | error e => trivial
    | ok resp =>
      obtain ⟨⟨_, _, hcapacity⟩, rfl⟩ := hr
      have hle : (resp.capacityBytes.toNat : ℕ∞) ≤ s.quota := by
        rw [hcapacity]
        exact h s hs
      exact ⟨s, hs, hle⟩
  | none =>
    have hmissing : perform o.toCloneReply (.getpath sub) w = (.error .notFound, w) := by
      rw [perform, onSubvolume, hs]
      rfl
    obtain hstep | ⟨msg, hstep⟩ := step_cases (.getpath sub) o w
    · rw [hstep, hmissing]
      exact quota_error trivial
    · rw [hstep]
      exact quota_error trivial

theorem createVolume_eq (hcc : b.clusters req.inst = some cc) (htarget : req.target b cc = some sub)
    :
    createVolume b req = (cephConn cc req.inst req.secrets).bind fun _ =>
      (ensureSubvolumeGroup cc.fsName sub.group).bind fun _ => (populate b cc req sub).bind fun _ =>
      (growClone req sub).bind fun _ => finishCreate cc req sub := by
  unfold CreateVolumeRequest.target at htarget
  split at htarget
  · rename_i pre henc hmut hshallow hpre
    obtain rfl := Option.some.inj htarget
    unfold createVolume cluster clusterFor
    rw [hcc]
    change (cephConn cc req.inst req.secrets).bind _ = _
    congr 1
    funext _
    rw [henc, hmut, hshallow]
    change createSubvolume b cc req = _
    unfold createSubvolume
    rw [hpre]
    rfl
  · cases htarget

theorem createVolume_uses (htarget : (Call.create req).target b = none) :
    (createVolume b req).Uses fun c => c.still = true := by
  unfold createVolume cluster clusterFor
  cases hcc : b.clusters req.inst with
  | none => trivial
  | some cc =>
    have hnone : req.target b cc = none := by
      rwa [Call.target, hcc] at htarget
    refine (cephConn_uses _ _).bind fun _ => ?_
    cases henc : validateEncryptionParams cc req.parameters req.isClone with
    | error e => trivial
    | ok u =>
    cases hmut : validateMutableParams b req.mutableParams with
    | error e => trivial
    | ok u' =>
    cases hshallow : req.shallow with
    | some snap => exact createShallowVolume_uses req snap
    | none =>
    change (createSubvolume b cc req).Uses _
    unfold createSubvolume
    cases hpre : namePrefix "volumeNamePrefix" (req.parameters "volumeNamePrefix") "bard-" with
    | error e => trivial
    | ok pre =>
      rw [CreateVolumeRequest.target, henc, hmut, hshallow, hpre] at hnone
      cases hnone

theorem createVolume_meets (hfits : strict → Fits b (.create req) w) :
    (Call.program b (.create req)).Meets machine () (quotaContract strict)
      (Reports b (.create req)) w := by
  cases htarget : (Call.create req).target b with
  | none =>
    have hstill : (createVolume b req).Meets machine () (quotaContract strict)
        (fun _ a => a = w) w := still_meets (createVolume_uses htarget)
    refine Meets.andThen hstill (fun resp a _ _ => quota_ok ?_) fun _ _ _ _ => trivial
    intro sub hsub
    cases htarget.symm.trans hsub
  | some sub =>
    obtain ⟨cc, hcc, hsub⟩ := Option.bind_eq_some_iff.mp htarget
    have hmost : strict → req.isClone = false → ∀ n, sizeArg req.capacityBytes = some n →
        AtMost sub n w := by
      intro hstrict hclone n hn
      refine hfits hstrict sub n htarget ?_
      rw [Call.sets, if_neg (Bool.eq_false_iff.mp hclone), hn]
    refine Meets.ends (P := fun resp a => ∃ s, a.subvolumes sub = some s ∧
      (resp.capacityBytes.toNat : ℕ∞) ≤ s.quota) ?_ fun resp a _ h => quota_ok ?_
    · rw [createVolume_eq hcc hsub]
      refine (still_meets (cephConn_uses _ _)).andThen ?_ fun _ _ _ _ => trivial
      rintro _ _ _ rfl
      refine (still_meets (ensureSubvolumeGroup_uses _ _)).andThen ?_ fun _ _ _ _ => trivial
      rintro _ _ _ rfl
      refine (populate_meets hmost).ends fun _ w₁ _ h₁ => ?_
      exact (growClone_meets h₁).ends fun _ w₂ _ h₂ => finishCreate_meets h₂
    · intro sub' hsub'
      rw [← Option.some.inj (htarget.symm.trans hsub')]
      exact h

theorem expandVolume_eq {req : ExpandVolumeRequest}
    (hshallow : ¬Strings.hasPrefix req.volume.name shallowPrefix = true)
    (hcc : b.clusters req.volume.inst = some cc) :
    expandVolume b req = (cephConn cc req.volume.inst req.secrets).bind fun _ =>
      (run (.subvolumeResize (cc.subvolume req.volume) req.newSizeBytes false)).bind fun r =>
      (orFail r ("cephfs: subvolume resize " ++ cc.fsName ++ "/" ++ req.volume.name)).bind fun _ =>
      .pure ⟨req.newSizeBytes, false⟩ := by
  unfold expandVolume cluster clusterFor
  rw [if_neg hshallow, hcc]
  rfl

theorem expand_target {req : ExpandVolumeRequest} (h : (Call.expand req).target b = some sub) :
    ¬Strings.hasPrefix req.volume.name shallowPrefix = true ∧
      ∃ cc, b.clusters req.volume.inst = some cc ∧ cc.subvolume req.volume = sub := by
  rw [Call.target] at h
  split_ifs at h with hshallow
  exact ⟨hshallow, Option.map_eq_some_iff.mp h⟩

theorem expandVolume_uses {req : ExpandVolumeRequest}
    (htarget : (Call.expand req).target b = none) :
    (expandVolume b req).Uses fun c => c.still = true := by
  unfold expandVolume cluster clusterFor
  by_cases hshallow : Strings.hasPrefix req.volume.name shallowPrefix = true
  · rw [if_pos hshallow]
    trivial
  · rw [Call.target, if_neg hshallow, Option.map_eq_none_iff] at htarget
    rw [if_neg hshallow, htarget]
    trivial

theorem expandVolume_meets {req : ExpandVolumeRequest} (hfits : strict → Fits b (.expand req) w) :
    (Call.program b (.expand req)).Meets machine () (quotaContract strict)
      (Reports b (.expand req)) w := by
  cases htarget : (Call.expand req).target b with
  | none =>
    have hstill : (expandVolume b req).Meets machine () (quotaContract strict)
        (fun _ a => a = w) w := still_meets (expandVolume_uses htarget)
    refine Meets.andThen hstill (fun resp a _ _ => quota_ok ?_) fun _ _ _ _ => trivial
    intro sub hsub
    cases htarget.symm.trans hsub
  | some sub =>
    obtain ⟨hshallow, cc, hcc, rfl⟩ := expand_target htarget
    have hreports : (expandVolume b req).Meets machine () (quotaContract strict)
        (IfOk fun resp a => ∃ s, a.subvolumes (cc.subvolume req.volume) = some s ∧
          (resp.capacityBytes.toNat : ℕ∞) ≤ s.quota) w := by
      rw [expandVolume_eq hshallow hcc]
      refine (still_meets (cephConn_uses _ _)).andThen ?_ fun _ _ _ _ => trivial
      rintro _ a _ rfl
      refine quota_request (fun o hstrict => ?_) fun o => ?_
      · obtain h | h := step_state
          (.subvolumeResize (cc.subvolume req.volume) req.newSizeBytes false) o a
        · rw [h]
          exact .refl a
        · rw [h]
          refine performResize_grows fun _ hpos => ?_
          exact hfits hstrict _ _ htarget (if_pos hpos)
      · obtain h | ⟨msg, h⟩ := step_cases
          (.subvolumeResize (cc.subvolume req.volume) req.newSizeBytes false) o a
        · rw [h]
          change Meets _ _ _ ((orFail (performResize _ _ false a).1 _).bind _) _
            (performResize _ _ false a).2
          cases hreply : (performResize (cc.subvolume req.volume) req.newSizeBytes false a).1 with
          | error e => exact quota_error trivial
          | ok u => exact quota_ok (performResize_atLeast hreply)
        · rw [h]
          exact quota_error trivial
    refine hreports.ends fun resp a _ h => quota_ok ?_
    intro sub' hsub'
    rw [← Option.some.inj (htarget.symm.trans hsub')]
    exact h

theorem call_meets (call : Call) (hfits : strict → Fits b call w) :
    (call.program b).Meets machine () (quotaContract strict) (Reports b call) w := by
  cases call with
  | create req => exact createVolume_meets hfits
  | expand req => exact expandVolume_meets hfits

/-- A request that works, and a clone that is done at the first look. -/
def calm : Cmd → World → Outcome := fun _ _ => .ok

/-- Some request of a call may shrink a subvolume. -/
def MayShrink (p : Prog α) (w : World) : Prop :=
  ∃ os, ∃ e ∈ (machine.exec () p os w).1, ¬KeepsQuota e.before (machine.after () e)

theorem MayShrink.bind {k : α → Prog β} (h : MayShrink p w) :
    MayShrink (p.bind k) w := by
  obtain ⟨os, e, he, hshrinks⟩ := h
  exact ⟨os, e, Machine.mem_exec_bind he, hshrinks⟩

theorem MayShrink.after {k : α → Prog β} {a : α}
    (hp : p.eval (Program.answers machine () calm) w = (.ok a, w)) (h : MayShrink (k a) w) :
    MayShrink (p.bind k) w := by
  obtain ⟨os, e, he, hshrinks⟩ := h
  obtain ⟨os', _, hmem⟩ := Machine.exists_exec_bind hp os
  exact ⟨os', e, hmem e he, hshrinks⟩

theorem mayShrink_request (h : ¬KeepsQuota w (perform Outcome.ok.toCloneReply c w).2) :
    MayShrink ((run c).bind f) w :=
  ⟨[.ok], ⟨c, .ok, w⟩, List.mem_cons_self, h⟩

theorem shrunk_put {t : Subvolume} (hs : w.subvolumes sub = some s) (h : ¬s.quota ≤ t.quota) :
    ¬KeepsQuota w (w.put sub (some t)) :=
  fun hkeeps => h (hkeeps sub s t hs (put_self _))

theorem sizeArg_pos {n : Int} (h : sizeArg size = some n) : 0 < size ∧ n = size := by
  unfold sizeArg at h
  split_ifs at h with hpos
  exact ⟨hpos, (Option.some.inj h).symm⟩

theorem createVolume_mayShrink (htarget : (Call.create req).target b = some sub)
    (hsets : (Call.create req).sets = some size) (hs : w.subvolumes sub = some s)
    (h : ¬s.quota ≤ size.toNat) :
    MayShrink (createVolume b req) w := by
  obtain ⟨cc, hcc, hsub⟩ := Option.bind_eq_some_iff.mp htarget
  rw [Call.sets] at hsets
  split_ifs at hsets with hclone
  have hsources : req.sourceSnapshot = none ∧ req.sourceVolume = none := by
    simpa [CreateVolumeRequest.isClone] using hclone
  have hgroup : (ensureSubvolumeGroup cc.fsName sub.group).eval
      (Program.answers machine () calm) w = (.ok (), w) := by
    unfold ensureSubvolumeGroup
    split_ifs
    · rfl
    · rfl
  rw [createVolume_eq hcc hsub]
  refine MayShrink.after rfl (MayShrink.after hgroup (MayShrink.bind ?_))
  unfold populate
  rw [hsources.1, hsources.2, hsets]
  refine mayShrink_request ?_
  change ¬KeepsQuota w (performCreate sub (some size) w).2
  unfold performCreate
  rw [hs]
  exact shrunk_put hs h

theorem expandVolume_mayShrink {req : ExpandVolumeRequest}
    (htarget : (Call.expand req).target b = some sub) (hsets : (Call.expand req).sets = some size)
    (hs : w.subvolumes sub = some s) (h : ¬s.quota ≤ size.toNat) :
    MayShrink (expandVolume b req) w := by
  obtain ⟨hshallow, cc, hcc, rfl⟩ := expand_target htarget
  obtain ⟨hpos, rfl⟩ := sizeArg_pos hsets
  rw [expandVolume_eq hshallow hcc]
  refine MayShrink.after rfl (mayShrink_request ?_)
  change ¬KeepsQuota w (performResize (cc.subvolume req.volume) req.newSizeBytes false w).2
  have hresize : (performResize (cc.subvolume req.volume) req.newSizeBytes false w).2 =
      w.put (cc.subvolume req.volume) (some { s with quota := req.newSizeBytes.toNat }) := by
    unfold performResize onSubvolume
    rw [hs]
    exact congrArg Prod.snd (if_neg (Int.not_le.mpr hpos))
  rw [hresize]
  exact shrunk_put hs h

theorem call_grows_iff (call : Call) :
    (∀ os, ∀ e ∈ (machine.exec () (call.program b) os w).1,
      KeepsQuota e.before (machine.after () e)) ↔ Fits b call w := by
  constructor
  · intro hgrows sub size htarget hsets s hs
    by_contra hlarger
    have hmay : MayShrink (call.program b) w := by
      cases call with
      | create req => exact (createVolume_mayShrink htarget hsets hs hlarger).bind
      | expand req => exact (expandVolume_mayShrink htarget hsets hs hlarger).bind
    obtain ⟨os, e, he, hshrinks⟩ := hmay
    exact hshrinks (hgrows os e he)
  · intro hfits os e he
    have hmeets : (call.program b).Meets machine () (quotaContract True) (Reports b call) w :=
      call_meets call fun _ => hfits
    exact (hmeets.exec trivial os fun _ _ => trivial).1 e he trivial

end Programs

section Runs

/-- What happens in a run of calls, each with its outcomes. -/
def history (b : Backend) : List (Call × List Outcome) → World → List (Event Cmd Outcome World)
  | [], _ => []
  | (call, os) :: rest, w =>
      (machine.exec () (call.program b) os w).1 ++
        history b rest (machine.exec () (call.program b) os w).2.1

/-- Every call of the run fits when its turn comes. -/
def AllFit (b : Backend) : List (Call × List Outcome) → World → Prop
  | [], _ => True
  | (call, os) :: rest, w =>
      Fits b call w ∧ AllFit b rest (machine.exec () (call.program b) os w).2.1

theorem history_grows {b : Backend} {calls : List (Call × List Outcome)} {w : World}
    (h : AllFit b calls w) : ∀ e ∈ history b calls w, KeepsQuota e.before (machine.after () e) := by
  induction calls generalizing w with
  | nil => exact fun e he => absurd he List.not_mem_nil
  | cons x rest ih =>
    obtain ⟨call, os⟩ := x
    intro e he
    rcases List.mem_append.mp he with he | he
    · exact (call_grows_iff call).mpr h.1 os e he
    · exact ih h.2 e he

/-- In every run of creations and expansions whose calls all fit, no request lowers the quota of
a subvolume. A single call lowers none, however its requests fail, exactly if it fits. What a
call reports when it succeeds is never more than the quota that is then in force. -/
theorem quota_never_shrinks_iff (b : Backend) :
    (∀ calls w, AllFit b calls w →
      ∀ e ∈ history b calls w, KeepsQuota e.before (machine.after () e)) ∧
    (∀ (call : Call) w, (∀ os, ∀ e ∈ (machine.exec () (call.program b) os w).1,
      KeepsQuota e.before (machine.after () e)) ↔ Fits b call w) ∧
    ∀ (call : Call) w os capacity,
      (machine.exec () (call.program b) os w).2.2 = some (.ok capacity) →
      ∀ sub, call.target b = some sub →
        ∃ s, (machine.exec () (call.program b) os w).2.1.subvolumes sub = some s ∧
          (capacity.toNat : ℕ∞) ≤ s.quota := by
  refine ⟨fun calls w => history_grows, fun call w => call_grows_iff call,
    fun call w os capacity hresult => ?_⟩
  have hmeets : (call.program b).Meets machine () (quotaContract False) (Reports b call) w :=
    call_meets call fun h => h.elim
  exact (hmeets.exec trivial os fun _ _ => trivial).2.2 _ hresult

/-- One filesystem, with digests that do not matter. -/
def oneFilesystem : Backend where
  clusters inst := if inst = "fs1" then some
    { fsName := "cephfs", userID := "", mounter := .kernel, nfsCluster := "", nfsServer := "",
      subvolumeGroup := "" } else none
  sum _ := 0
  isProbability _ := false
  clonePolls := 0

/-- A subvolume with a quota of 100 and a snapshot. -/
def largeSource : World :=
  ⟨fun sub => if sub = ⟨"cephfs", "csi", "src"⟩ then some ⟨100, [("snap", 100)], none⟩ else none⟩

/-- A volume of size 50 from the snapshot. -/
def restoreSmall : CreateVolumeRequest where
  name := "pvc"
  inst := "fs1"
  capacityBytes := 50
  parameters _ := ""
  mutableParams := []
  secrets _ := ""
  sourceSnapshot := some ⟨"fs1", "cephfs/csi", "src@snap"⟩
  sourceVolume := none

def expandRestored (size : Int) : ExpandVolumeRequest :=
  ⟨⟨"fs1", "cephfs/csi", "bard-0000000000000000"⟩, size, fun _ => ""⟩

def restoredSubvolume : SubvolumeRef := ⟨"cephfs", "csi", "bard-0000000000000000"⟩

/-- The volume is restored and then expanded beyond the quota that it has from the snapshot. -/
def restoreThenGrow : List (Call × List Outcome) :=
  [(.create restoreSmall, List.replicate 6 .ok), (.expand (expandRestored 200), [.ok, .ok])]

theorem restore_then_grow_keeps :
    ∀ e ∈ history oneFilesystem restoreThenGrow largeSource,
      KeepsQuota e.before (machine.after () e) := by
  apply (quota_never_shrinks_iff oneFilesystem).1
  refine ⟨fun sub size _ hsets => ?_, fun sub size htarget hsets => ?_, trivial⟩
  · cases hsets
  · obtain rfl : restoredSubvolume = sub := Option.some.inj htarget
    obtain rfl : 200 = size := Option.some.inj hsets
    intro s hs
    have hquota : (((machine.exec () (Call.program oneFilesystem (.create restoreSmall))
        (List.replicate 6 .ok) largeSource).2.1.subvolumes restoredSubvolume).map
        Subvolume.quota) = some 100 := by decide +kernel
    rw [hs] at hquota
    rw [Option.some.inj hquota]
    decide

/-- A volume of size 50 is restored from a snapshot with a quota of 100 and keeps that quota. It
is then expanded to 80, which makes it smaller. No request fails. -/
theorem expand_shrinks_restored :
    ∃ w₁ w₂, (machine.exec () (Call.program oneFilesystem (.create restoreSmall))
        (List.replicate 6 .ok) largeSource).2 = (w₁, some (.ok 50)) ∧
      (machine.exec () (Call.program oneFilesystem (.expand (expandRestored 80)))
        (List.replicate 2 .ok) w₁).2 = (w₂, some (.ok 80)) ∧
      (w₁.subvolumes restoredSubvolume).map Subvolume.quota = some 100 ∧
      (w₂.subvolumes restoredSubvolume).map Subvolume.quota = some 80 := by
  refine ⟨_, _, Prod.ext rfl ?_, Prod.ext rfl ?_, ?_, ?_⟩
  all_goals decide +kernel

end Runs

end BardCsi.Cephfs.Provision
