import BardCsi.Effect.Misread
import BardCsi.Iscsi.Luns

/-!
Attaching and detaching one volume. A volume of targetd is looked for in the exports of the node
by its name, whatever its pool is. A local volume is detached by an entry whose two names are
derived from the configuration of the day.
-/
namespace BardCsi.Iscsi

open Effect Program

/-- One call with nobody else at work, and any request failing. -/
abbrev Sole : Contract Cmd Outcome World :=
  .alone (fun _ => True) (fun _ _ _ => True) fun _ _ _ => True

/-- A request that works. -/
def calm : Cmd → World → Outcome := fun _ _ => .ok

abbrev evalCalm {α : Type} (who : ℕ) (p : Prog α) (w : World) : Except Err α × World :=
  p.eval (Program.answers machine who calm) w

section Sole

variable {α β : Type} {who : ℕ} {w w' : World} {p : Prog α} {Q : Except Err α → World → Prop}

theorem sole_exec (h : p.Meets machine who Sole Q w) {os : List Outcome} {r : Except Err α}
    (hrun : (machine.exec who p os w).2 = (w', some r)) : Q r w' := by
  obtain ⟨_, _, hQ⟩ := h.exec trivial os fun _ _ => trivial
  rw [hrun] at hQ
  exact hQ r rfl

theorem run_of_evalCalm {r : Except Err α} (h : evalCalm who p w = (r, w')) :
    ∃ os, (machine.exec who p os w).2 = (w', some r) := by
  refine ⟨p.choices machine who calm w, ?_⟩
  rw [Program.exec_choices, show Program.eval _ p w = _ from h]

theorem sole_request {c : Cmd} {f : c.Reply → Prog α}
    (h : ∀ o, (f (step who c o w).1).Meets machine who Sole Q (step who c o w).2) :
    (Program.request c f).Meets machine who Sole Q w := by
  rintro _ rfl _ o _
  exact ⟨trivial, trivial, h o⟩

theorem sole_ok {a : α} (h : Q (.ok a) w) : (Program.pure a : Prog α).Meets machine who Sole Q w :=
  meets_pure_alone.mpr fun _ => h

theorem sole_error {e : Err} (h : Q (.error e) w) :
    (Program.fail e : Prog α).Meets machine who Sole Q w :=
  meets_fail_alone.mpr fun _ => h

theorem sole_any (p : Prog α) : p.Meets machine who Sole (IfOk fun _ _ => True) w := by
  induction p generalizing w with
  | pure a => exact sole_ok trivial
  | fail e => exact sole_error trivial
  | request c f ih => exact sole_request fun o => ih _

theorem sole_wrapping {P : α → World → Prop} {msg : List Text}
    (h : p.Meets machine who Sole (IfOk P) w) :
    (wrapping msg p).Meets machine who Sole (IfOk P) w :=
  h.tryThen (fun _ _ _ hP => sole_ok hP) fun _ _ _ _ => sole_error trivial

theorem evalCalm_wrapping {msg : List Text} {a : α} (h : evalCalm who p w = (.ok a, w')) :
    evalCalm who (wrapping msg p) w = (.ok a, w') :=
  eval_attempt_bind_of h

end Sole

section Inst

variable {b : Backend} {name : String} {ic : InstanceConfig}

theorem checkManagement_chapAuth {found : Bool} {u : Unit}
    (h : checkManagement name found ic = .ok u) (htd : ic.isTargetd = true) :
    ic.chapAuth = false := by
  have hmgmt : ic.management = mgmtTargetd := of_decide_eq_true htd
  unfold checkManagement at h
  rw [hmgmt, if_neg (by decide), if_pos rfl] at h
  split_ifs at h with _ hchap
  exact Bool.eq_false_iff.mpr hchap

theorem inst_ok (h : inst b name = .ok ic) :
    ∃ ic₀, b.instances name = some ic₀ ∧ ic.iqnBase = ic₀.base ∧ ic.isTargetd = ic₀.isTargetd ∧
      (ic₀.isTargetd = true → ic₀.chapAuth = false) := by
  unfold inst at h
  dsimp only at h
  cases hcheck : checkManagement name (b.instances name).isSome ((b.instances name).getD .zero) with
  | error e =>
    rw [hcheck] at h
    cases h
  | ok u =>
    rw [hcheck] at h
    obtain ⟨ic₀, hic₀⟩ : ∃ ic₀, b.instances name = some ic₀ := by
      cases hb : b.instances name with
      | some ic₀ => exact ⟨ic₀, rfl⟩
      | none =>
        rw [hb] at hcheck
        cases hcheck
    refine ⟨ic₀, hic₀, ?_⟩
    rw [hic₀] at h hcheck
    rw [Option.getD_some] at h
    cases hfind : ic₀.portalList.find? fun p => Strings.contains p "[" with
    | some p =>
      rw [hfind] at h
      cases h
    | none =>
      rw [hfind] at h
      obtain rfl := Except.ok.inj h
      exact ⟨rfl, rfl, checkManagement_chapAuth hcheck⟩

end Inst

section Targetd

variable {who : ℕ} {w : World} {b : Backend} {m : TdManager} {vol initiator name : String}

/-- The credentials of a targetd instance are there and well formed. -/
def HasCredentials (b : Backend) (name : String) (w : World) : Prop :=
  ∃ data, w.targetd (b.targetdDir ++ "/" ++ name) = some data ∧
    ((credentialLines data).any fun l => Strings.containsAny l " \t'\"") = false ∧
    (credentialLines data).length = 2

/-- The number stands for the volume of the pool, and for no other, at the initiator. -/
def Attaches (pool vol initiator : String) (lun : Int) (es : List TdExport) : Prop :=
  (∃ e ∈ es, e.initiatorWWN = initiator ∧ e.lun = lun) ∧
    ∀ e ∈ es, e.initiatorWWN = initiator → e.lun = lun → e.volName = vol ∧ e.pool = pool

/-- The first export of a volume of that name to the initiator, if any, is one of the pool. -/
def ExportedFrom (pool vol initiator : String) (es : List TdExport) : Prop :=
  ∀ e, exported vol initiator es = some e → Attaches pool vol initiator e.lun es

/-- The exports after a grant that returned the number. -/
def GrantedFrom (m : TdManager) (vol initiator : String) (es : List TdExport) (lun : Int)
    (w : World) : Prop :=
  (w.exports m.endpoint = es ∧ ∃ e, exported vol initiator es = some e ∧ e.lun = lun) ∨
    (w.exports m.endpoint = es ++ [⟨initiator, lun, vol, m.pool⟩] ∧
      LowestUnused initiator es lun)

theorem GrantedFrom.attaches {es : List TdExport} {lun : Int}
    (h : GrantedFrom m vol initiator es lun w) (hes : ExportedFrom m.pool vol initiator es) :
    Attaches m.pool vol initiator lun (w.exports m.endpoint) := by
  obtain ⟨hexports, e, he, rfl⟩ | ⟨hexports, n, rfl, hfree, _⟩ := h
  · rw [hexports]
    exact hes e he
  · rw [hexports]
    refine ⟨⟨_, List.mem_append_right _ List.mem_cons_self, rfl, rfl⟩, fun e he hinit hlun => ?_⟩
    rcases List.mem_append.mp he with he | he
    · exact absurd hlun (hfree e he hinit)
    · obtain rfl := List.mem_singleton.mp he
      exact ⟨rfl, rfl⟩

theorem exportVolume_sole :
    (exportVolume m vol initiator).Meets machine who Sole
      (IfOk (GrantedFrom m vol initiator (w.exports m.endpoint))) w := by
  refine sole_request fun o => ?_
  rw [step_idle rfl]
  obtain h | ⟨e, he, _⟩ := step_cases who (.exportList m.endpoint) o w
  swap
  · rw [← Option.some.inj he]
    exact sole_error trivial
  rw [h, Program.bind_pure]
  change Meets machine who _ (Program.bind (Program.pure (w.exports m.endpoint)) _) _ w
  rw [Program.bind_pure]
  cases hscan : scanExports vol initiator (w.exports m.endpoint) [] with
  | inl lun => exact sole_ok (.inl ⟨rfl, scanExports_inl hscan⟩)
  | inr used =>
    have hlowest := lowestUnused_of_scan hscan
    refine sole_request fun o' => ?_
    obtain ⟨hreply, hstate⟩ | ⟨e, hreply, _⟩ :=
      step_exportCreate (t := who) (w := w) o' m.endpoint m.pool (lowestLUN used)
    · rw [hreply, hstate]
      exact sole_ok (.inr ⟨setExports_self, hlowest⟩)
    · rw [hreply]
      exact sole_error trivial

theorem grantAccess_sole :
    (grantAccess m vol initiator none).Meets machine who Sole
      (IfOk (GrantedFrom m vol initiator (w.exports m.endpoint))) w := by
  refine Meets.within (A := fun a => a.exports = w.exports)
    (B := IfOk (GrantedFrom m vol initiator (w.exports m.endpoint))) ?_ ?_ ?_ ?_
  · refine sole_request fun o => ?_
    obtain h | ⟨e, he, _⟩ := step_cases who .tdLock o w
    · rw [h]
      exact sole_ok rfl
    · cases he
  · intro a _ ha
    rw [← ha]
    exact exportVolume_sole
  · intro r a _ hr
    refine sole_request fun o => ?_
    obtain h | ⟨e, he, _⟩ := step_cases who .tdUnlock o a
    · rw [h]
      cases r with
      | ok lun => exact sole_ok hr
      | error e => exact sole_ok trivial
    · cases he
  · rintro r a _ rfl hr
    exact hr

theorem perform_readTargetd (path : String) :
    perform who (.readTargetd path) w = orNotFound (w.targetd path) w := rfl

/-- The check of the credentials of a targetd instance changes nothing, and passes exactly if
they are there and well formed. -/
theorem targetdCredsFor_sole (hic : b.instances name = some ic) (htd : ic.isTargetd = true) :
    (targetdCredsFor b name).Meets machine who Sole
      (IfOk fun _ a => a = w ∧ HasCredentials b name w) w := by
  unfold targetdCredsFor
  rw [hic]
  dsimp only
  rw [if_neg (by simp [htd])]
  refine sole_request fun o => ?_
  rw [step_idle rfl]
  obtain h | ⟨e, he, _⟩ := step_cases who (.readTargetd (b.targetdDir ++ "/" ++ name)) o w
  swap
  · rw [← Option.some.inj he]
    exact sole_error trivial
  rw [h, perform_readTargetd]
  cases hdata : w.targetd (b.targetdDir ++ "/" ++ name) with
  | none => exact sole_error trivial
  | some data =>
    refine Meets.ite (fun _ => sole_error trivial) fun hclean => ?_
    refine Meets.ite (fun _ => sole_error trivial) fun hlines => ?_
    exact sole_ok ⟨rfl, data, hdata, Bool.eq_false_iff.mpr hclean, not_not.mp hlines⟩

theorem targetdCredsFor_calm (hic : b.instances name = some ic) (htd : ic.isTargetd = true)
    (h : HasCredentials b name w) :
    evalCalm who (targetdCredsFor b name) w = (.ok (), w) := by
  obtain ⟨data, hdata, hclean, hlines⟩ := h
  have hread : Program.answers machine who calm (.readTargetd (b.targetdDir ++ "/" ++ name)) w =
      (.ok data, w) := by
    change perform who (.readTargetd _) w = _
    rw [perform_readTargetd, hdata]
    rfl
  unfold targetdCredsFor
  rw [hic]
  dsimp only
  rw [if_neg (by simp [htd])]
  refine (eval_ask_bind _ _).trans ?_
  rw [hread]
  dsimp only
  rw [if_neg (Bool.eq_false_iff.mp hclean), if_neg (not_not.mpr hlines)]
  rfl

theorem chapFor_eq_none (hic : b.instances name = some ic) (hchap : ic.chapAuth = false) :
    chapFor b name = .pure none := by
  unfold chapFor
  rw [hic]
  dsimp only
  rw [if_pos hchap]
  rfl

theorem grantAccess_calm {e : TdExport}
    (he : exported vol initiator (w.exports m.endpoint) = some e) :
    evalCalm who (grantAccess m vol initiator none) w = (.ok e.lun, { w with holder := none }) := by
  have hscan : scanExports vol initiator (w.exports m.endpoint) [] = .inl e.lun := by
    cases h : scanExports vol initiator (w.exports m.endpoint) [] with
    | inl l =>
      obtain ⟨e', he', rfl⟩ := scanExports_inl h
      rw [Option.some.inj (he.symm.trans he')]
    | inr used => cases he.symm.trans (scanExports_inr h).1
  have hexport : evalCalm who (exportVolume m vol initiator) { w with holder := some who } =
      (.ok e.lun, { w with holder := some who }) := by
    refine (eval_ask_bind _ _).trans ?_
    change evalCalm who (Program.bind (Program.pure (w.exports m.endpoint)) _) _ = _
    rw [Program.bind_pure, hscan]
    rfl
  refine (eval_ask_bind _ _).trans ?_
  exact (eval_attempt_bind_of hexport).trans rfl

variable {req : ControllerPublishRequest} {ic : InstanceConfig} {pool : String}

theorem controllerPublish_targetd (hinst : inst b req.volume.inst = .ok ic)
    (htd : ic.isTargetd = true) (hpool : pool ≠ "") (hloc : req.volume.location = tdLocation pool) :
    controllerPublish b req = (targetdCredsFor b req.volume.inst).bind fun _ =>
      (wrapping ["iscsi: targetd grant access for ", initiatorIQN ic.iqnBase req.nodeID, ": "]
        (grantAccess ⟨ic.targetdEndpoint, pool⟩ req.volume.name
          (initiatorIQN ic.iqnBase req.nodeID) none)).bind fun lun =>
      .pure (publishContext ic ic.targetIQN lun) := by
  obtain ⟨ic₀, hic₀, _, htd₀, hchap⟩ := inst_ok hinst
  unfold controllerPublish
  rw [hinst, hloc]
  change (if ic.isTargetd = true then
    controllerPublishTargetd b (tdWithHandlePool ic (tdLocation pool)) req else _) = _
  rw [if_pos htd, tdWithHandlePool_tdLocation hpool]
  unfold controllerPublishTargetd newTdManager
  rw [chapFor_eq_none hic₀ (hchap (htd₀.symm.trans htd)), Program.bind_eq, Program.bind_eq,
    Program.bind_assoc]
  rfl

/-- A volume of targetd is attached as its own export exactly if the first export of a volume of
that name to the node is one of the pool that the handle names, under a number of its own. The
credentials of the instance have to be usable for anything to happen. -/
theorem publish_attaches_volume_iff (who : ℕ) (b : Backend) (req : ControllerPublishRequest)
    (pool : String) (hpool : pool ≠ "") (hloc : req.volume.location = tdLocation pool)
    (ic : InstanceConfig) (hinst : inst b req.volume.inst = .ok ic) (htd : ic.isTargetd = true)
    (w : World) :
    (∀ os w' pc, (machine.exec who (controllerPublish b req) os w).2 = (w', some (.ok pc)) →
        Attaches pool req.volume.name (initiatorIQN ic.iqnBase req.nodeID) pc.lun
          (w'.exports ic.targetdEndpoint)) ↔
      (HasCredentials b req.volume.inst w →
        ExportedFrom pool req.volume.name (initiatorIQN ic.iqnBase req.nodeID)
          (w.exports ic.targetdEndpoint)) := by
  obtain ⟨ic₀, hic₀, _, htd₀, _⟩ := inst_ok hinst
  have hprogram := controllerPublish_targetd hinst htd hpool hloc
  constructor
  · intro hattaches hcreds e he
    have heval : evalCalm who (controllerPublish b req) w =
        (.ok (publishContext ic ic.targetIQN e.lun), { w with holder := none }) := by
      rw [hprogram]
      refine (eval_bind_of
        (targetdCredsFor_calm hic₀ (htd₀.symm.trans htd) hcreds)).trans ?_
      exact eval_bind_of (evalCalm_wrapping (grantAccess_calm he))
    obtain ⟨os, hos⟩ := run_of_evalCalm heval
    exact hattaches os _ _ hos
  · intro hexported os w' pc hrun
    rw [hprogram] at hrun
    refine sole_exec (Q := IfOk fun pc a => Attaches pool req.volume.name
      (initiatorIQN ic.iqnBase req.nodeID) pc.lun (a.exports ic.targetdEndpoint)) ?_ hrun
    refine (targetdCredsFor_sole hic₀ (htd₀.symm.trans htd)).ends ?_
    rintro _ _ _ ⟨rfl, hcreds⟩
    refine (sole_wrapping grantAccess_sole).ends fun lun a _ hgranted => ?_
    exact sole_ok (hgranted.attaches (hexported hcreds))

section Pools

def sanConfig : InstanceConfig :=
  { InstanceConfig.zero with
    portal := "10.0.0.1:3260", management := mgmtTargetd, targetdEndpoint := "rpc",
    targetdPool := "fast", targetIQN := "iqn.2025-01.io.bard:shared" }

/-- A target whose pools may have volumes of the same name. -/
def twoPools : Backend where
  instances name := if name = "san" then some sanConfig else none
  nodeID := ""
  stateDir := ""
  chapDir := "/chap"
  targetdDir := "/targetd"

/-- The volume of the pool `fast` is exported to the node. -/
def fastExported : World :=
  { quietTarget with
    targetd := fun path => if path = "/targetd/san" then some "admin\nsecret\n" else none
    exports := fun _ => [⟨"iqn.2025-01.io.bard:init-n1", 0, "v", "fast"⟩] }

def publishSlow : ControllerPublishRequest := ⟨⟨"san", tdLocation "slow", "v"⟩, "n1"⟩

/-- The volume `v` of the pool `slow` is published, and the node gets the number under which it
has the volume `v` of the pool `fast`. -/
theorem publish_attaches_other_pool :
    ∃ os w' pc, (machine.exec 0 (controllerPublish twoPools publishSlow) os fastExported).2 =
        (w', some (.ok pc)) ∧
      ¬Attaches "slow" "v" "iqn.2025-01.io.bard:init-n1" pc.lun (w'.exports "rpc") := by
  refine ⟨List.replicate 4 .ok, _, ⟨"10.0.0.1:3260", "iqn.2025-01.io.bard:shared", 0, []⟩,
    Prod.ext rfl ?_, fun hattaches => ?_⟩
  · decide +kernel
  · have hfast : "fast" = "slow" :=
      (hattaches.2 ⟨"iqn.2025-01.io.bard:init-n1", 0, "v", "fast"⟩ (by decide +kernel) rfl rfl).2
    exact absurd hfast (by decide)

def publishFast : ControllerPublishRequest := ⟨⟨"san", tdLocation "fast", "v"⟩, "n1"⟩

/-- The volume `v` of the pool `fast` is published again, as what it is. -/
theorem publish_attaches_volume_again :
    ∃ os w' pc, (machine.exec 0 (controllerPublish twoPools publishFast) os fastExported).2 =
        (w', some (.ok pc)) ∧
      Attaches "fast" "v" "iqn.2025-01.io.bard:init-n1" pc.lun (w'.exports "rpc") := by
  have hexported : ExportedFrom "fast" "v" "iqn.2025-01.io.bard:init-n1"
      (fastExported.exports "rpc") := by
    intro e he
    obtain rfl := Option.some.inj he
    refine ⟨⟨_, List.mem_singleton.mpr rfl, rfl, rfl⟩, fun e' he' _ _ => ?_⟩
    obtain rfl := List.mem_singleton.mp he'
    exact ⟨rfl, rfl⟩
  have hrun : (machine.exec 0 (controllerPublish twoPools publishFast) (List.replicate 4 .ok)
      fastExported).2.2 = some (.ok ⟨"10.0.0.1:3260", "iqn.2025-01.io.bard:shared", 0, []⟩) := by
    decide +kernel
  exact ⟨_, _, _, Prod.ext rfl hrun,
    (publish_attaches_volume_iff 0 twoPools publishFast "fast" (by decide) rfl
      { sanConfig with iqnBase := defaultIQNBase } (by decide +kernel) rfl fastExported).mpr
      (fun _ => hexported) _ _ _ (Prod.ext rfl hrun)⟩

end Pools

end Targetd

section Local

variable {who : ℕ} {w w' : World} {b : Backend} {req : ControllerPublishRequest}
variable {iqn initiator : String}

/-- The answer that a failed request may be taken for. -/
def Cmd.misread (c : Cmd) : Option c.Reply :=
  match c with
  | .aclCreate _ _ => some (.error .alreadyExists)
  | .aclDelete _ _ => some (.error .notFound)
  | _ => none

/-- The world with failures that are misread. -/
def tools : Machine Cmd Cmd.Reply ℕ (Outcome × Bool) World := machine.misreading Cmd.misread

abbrev TruthfulRun {α : Type} : ℕ → Prog α → List (Outcome × Bool) → World → Prop :=
  machine.TruthfulRun Cmd.misread

theorem tools_exec {α : Type} {p : Prog α} {Q : Except Err α → World → Prop}
    (h : p.Meets machine who Sole Q w) {xs : List (Outcome × Bool)} {r : Except Err α}
    (htrue : TruthfulRun who p xs w) (hrun : (tools.exec who p xs w).2 = (w', some r)) :
    Q r w' := by
  obtain ⟨os, hstop, _⟩ := Machine.exec_truthful xs htrue
  exact sole_exec h (hstop.trans hrun)

/-- The instance is not one of targetd. It may be missing. -/
def LocalMode (b : Backend) (name : String) : Prop :=
  ∀ ic, b.instances name = some ic → ic.isTargetd = false

/-- The base of the names of an instance, which may be missing. -/
def currentBase (b : Backend) (name : String) : String := ((b.instances name).getD .zero).base

/-- The entry of the node in the access list of the target of the volume. -/
def accessEntry (base : String) (req : ControllerPublishRequest) : String × String :=
  (targetIQN base req.volume.name, initiatorIQN base req.nodeID)

theorem accessEntry_inj {base base' : String} (h : accessEntry base req = accessEntry base' req) :
    base = base' := by
  have htarget : base ++ ":tgt-" ++ req.volume.name = base' ++ ":tgt-" ++ req.volume.name :=
    congrArg Prod.fst h
  rw [String.append_assoc, String.append_assoc, String.append_left_inj] at htarget
  exact htarget

theorem createACL_sole :
    (createACL iqn initiator).Meets machine who Sole
      (IfOk fun _ a => (iqn, initiator) ∈ a.acls) w := by
  refine sole_request fun o => ?_
  obtain h | ⟨e, he, _⟩ := step_cases who (.aclCreate iqn initiator) o w
  · rw [h]
    change Meets _ _ _ (Program.bind (.pure (performACLCreate iqn initiator w).1) _) _
      (performACLCreate iqn initiator w).2
    unfold performACLCreate
    split_ifs with htarget hacl
    · exact sole_ok hacl
    · exact sole_ok List.mem_cons_self
    · exact sole_error trivial
  · rw [← Option.some.inj he]
    cases e <;> exact sole_error trivial

theorem setACLAuth_sole {chap : Option ChapCreds} :
    (setACLAuth iqn initiator chap).Meets machine who Sole
      (IfOk fun _ a => a.acls = w.acls) w := by
  cases chap with
  | none => exact sole_ok rfl
  | some chap =>
    refine sole_request fun o => ?_
    obtain h | ⟨e, he, _⟩ := step_cases who (.aclSetAuth iqn initiator chap) o w
    · rw [h, perform]
      split_ifs
      · exact sole_ok rfl
      · exact sole_error trivial
    · rw [← Option.some.inj he]
      exact sole_error trivial

theorem deleteACL_sole :
    (deleteACL iqn initiator).Meets machine who Sole
      (IfOk fun _ a => ∀ x, x ∈ a.acls ↔ x ∈ w.acls ∧ x ≠ (iqn, initiator)) w := by
  refine sole_request fun o => ?_
  obtain h | ⟨e, he, _⟩ := step_cases who (.aclDelete iqn initiator) o w
  · rw [h]
    change Meets _ _ _ (Program.bind (.pure (performACLDelete iqn initiator w).1) _) _
      (performACLDelete iqn initiator w).2
    unfold performACLDelete
    split_ifs with hacl
    · refine sole_ok fun x => ?_
      rw [List.mem_filter, decide_eq_true_eq]
    · refine sole_ok fun x => (and_iff_left_of_imp ?_).symm
      rintro hx rfl
      exact hacl hx
  · rw [← Option.some.inj he]
    cases e <;> exact sole_error trivial

theorem controllerPublish_local {ic : InstanceConfig} (hinst : inst b req.volume.inst = .ok ic)
    (hlocal : LocalMode b req.volume.inst) :
    controllerPublish b req = (chapFor b req.volume.inst).bind fun chap =>
      (createACL (targetIQN ic.iqnBase req.volume.name) (initiatorIQN ic.iqnBase req.nodeID)).bind
        fun _ => (setACLAuth (targetIQN ic.iqnBase req.volume.name)
          (initiatorIQN ic.iqnBase req.nodeID) chap).bind fun _ =>
      .pure (publishContext ic (targetIQN ic.iqnBase req.volume.name) 0) := by
  obtain ⟨ic₀, hic₀, _, htd₀, _⟩ := inst_ok hinst
  unfold controllerPublish
  rw [hinst]
  change (if ic.isTargetd = true then _ else _) = _
  rw [if_neg (by rw [htd₀, hlocal ic₀ hic₀]; decide)]
  rfl

theorem controllerPublish_adds_entry (hlocal : LocalMode b req.volume.inst) :
    (controllerPublish b req).Meets machine who Sole
      (IfOk fun _ a => accessEntry (currentBase b req.volume.inst) req ∈ a.acls) w := by
  cases hinst : inst b req.volume.inst with
  | error e =>
    unfold controllerPublish
    rw [hinst]
    exact sole_error trivial
  | ok ic =>
    obtain ⟨ic₀, hic₀, hbase, _, _⟩ := inst_ok hinst
    have hcurrent : currentBase b req.volume.inst = ic.iqnBase := by
      rw [currentBase, hic₀, hbase]
      rfl
    rw [controllerPublish_local hinst hlocal, hcurrent]
    refine (sole_any _).ends fun chap a _ _ => ?_
    refine createACL_sole.ends fun _ a₁ _ hentry => ?_
    refine setACLAuth_sole.ends fun _ a₂ _ hacls => ?_
    have hkept : accessEntry ic.iqnBase req ∈ a₂.acls := by rwa [hacls]
    exact sole_ok hkept

theorem controllerUnpublish_local (hlocal : LocalMode b req.volume.inst)
    (hloc : ¬(b.instances req.volume.inst = none ∧ isTdLocation req.volume.location = true)) :
    controllerUnpublish b req =
      deleteACL (targetIQN (currentBase b req.volume.inst) req.volume.name)
        (initiatorIQN (currentBase b req.volume.inst) req.nodeID) := by
  unfold controllerUnpublish
  dsimp only
  rw [if_neg (by rwa [Option.isNone_iff_eq_none]), if_neg]
  · rfl
  · rintro ⟨hsome, htd⟩
    obtain ⟨ic, hic⟩ := Option.isSome_iff_exists.mp hsome
    rw [hic, Option.getD_some, hlocal ic hic] at htd
    cases htd

theorem deleteACL_calm :
    ∃ a, evalCalm who (deleteACL iqn initiator) w = (.ok (), a) := by
  have hstep : Program.answers machine who calm (.aclDelete iqn initiator) w =
      performACLDelete iqn initiator w := rfl
  by_cases hacl : (iqn, initiator) ∈ w.acls
  · refine ⟨{ w with acls := w.acls.filter (· ≠ (iqn, initiator)) }, ?_⟩
    refine (eval_ask_bind _ _).trans ?_
    rw [hstep, performACLDelete, if_pos hacl]
    rfl
  · refine ⟨w, ?_⟩
    refine (eval_ask_bind _ _).trans ?_
    rw [hstep, performACLDelete, if_neg hacl]
    rfl

/-- A publish of a local volume returned, so that the node has its entry. Whatever happens after
it, an unpublish under a later configuration takes the entry away exactly if that configuration
has the same base of names, or refuses to detach the volume at all. Neither call misreads a
failure. -/
theorem detach_revokes_iff (b₁ b₂ : Backend) (req : ControllerPublishRequest)
    (hlocal₁ : LocalMode b₁ req.volume.inst) (hlocal₂ : LocalMode b₂ req.volume.inst)
    (who : ℕ) (xs : List (Outcome × Bool)) (w w₁ : World) (pc : PublishContext)
    (htrue : TruthfulRun who (controllerPublish b₁ req) xs w)
    (hpublish : (tools.exec who (controllerPublish b₁ req) xs w).2 = (w₁, some (.ok pc))) :
    accessEntry (currentBase b₁ req.volume.inst) req ∈ w₁.acls ∧
    ((∀ who' xs' w₂ w₃, TruthfulRun who' (controllerUnpublish b₂ req) xs' w₂ →
        (tools.exec who' (controllerUnpublish b₂ req) xs' w₂).2 = (w₃, some (.ok ())) →
          accessEntry (currentBase b₁ req.volume.inst) req ∉ w₃.acls) ↔
      (b₂.instances req.volume.inst = none ∧ isTdLocation req.volume.location = true) ∨
        currentBase b₂ req.volume.inst = currentBase b₁ req.volume.inst) := by
  have hentry := tools_exec (controllerPublish_adds_entry hlocal₁) htrue hpublish
  refine ⟨hentry, ?_⟩
  by_cases hrefused :
      b₂.instances req.volume.inst = none ∧ isTdLocation req.volume.location = true
  · refine iff_of_true (fun who' xs' w₂ w₃ _ hrun => ?_) (.inl hrefused)
    unfold controllerUnpublish at hrun
    dsimp only at hrun
    rw [if_pos (by rwa [Option.isNone_iff_eq_none])] at hrun
    cases hrun
  · rw [or_iff_right hrefused, controllerUnpublish_local hlocal₂ hrefused]
    constructor
    · intro hrevokes
      by_contra hbase
      obtain ⟨w₃, heval⟩ := deleteACL_calm (w := w₁)
      obtain ⟨os', hrun⟩ := run_of_evalCalm heval
      have hkept := sole_exec deleteACL_sole hrun
      obtain ⟨xs', htrue', hstop⟩ := Machine.exists_read Cmd.misread os'
      refine hrevokes who xs' w₁ w₃ htrue' (hstop.trans hrun)
        ((hkept _).mpr ⟨hentry, fun heq => ?_⟩)
      exact hbase (accessEntry_inj heq).symm
    · intro hbase who' xs' w₂ w₃ htrue' hrun
      rw [hbase] at htrue' hrun
      exact fun hmem => ((tools_exec deleteACL_sole htrue' hrun _).mp hmem).2 rfl

section Bases

def localConfig (iqnBase : String) : InstanceConfig :=
  { InstanceConfig.zero with vg := "vg0", portal := "10.0.0.1:3260", iqnBase := iqnBase }

/-- One local instance, with the base of its names. -/
def localBackend (iqnBase : String) : Backend where
  instances name := if name = "san" then some (localConfig iqnBase) else none
  nodeID := ""
  stateDir := ""
  chapDir := "/chap"
  targetdDir := "/targetd"

def publishLocal : ControllerPublishRequest := ⟨⟨"san", "vg0", "v"⟩, "n1"⟩

def localTarget : World := { quietTarget with targets := ["iqn.2025-01.io.bard:tgt-v"] }

theorem localMode_localBackend (base : String) : LocalMode (localBackend base) "san" := by
  rintro ic ⟨⟩
  rfl

/-- The base of the names is changed between the two calls: detaching succeeds, and the node
keeps its entry. -/
theorem detach_keeps_entry :
    ∃ w₁ pc w₃,
      (tools.exec 0 (controllerPublish (localBackend "") publishLocal) [(.ok, false)]
        localTarget).2 = (w₁, some (.ok pc)) ∧
      (tools.exec 0 (controllerUnpublish (localBackend "iqn.2026-01.org.site") publishLocal)
        [(.ok, false)] w₁).2 = (w₃, some (.ok ())) ∧
      accessEntry (currentBase (localBackend "") "san") publishLocal ∈ w₃.acls := by
  refine ⟨_, ⟨"10.0.0.1:3260", "iqn.2025-01.io.bard:tgt-v", 0, []⟩, _, Prod.ext rfl ?_,
    Prod.ext rfl ?_, ?_⟩
  all_goals decide +kernel

/-- With one base of names the entry is taken away, whatever happens in between. -/
theorem detach_revokes_same_base :
    ∃ w₁ pc,
      (tools.exec 0 (controllerPublish (localBackend "") publishLocal) [(.ok, false)]
        localTarget).2 = (w₁, some (.ok pc)) ∧
      ∀ who' xs' w₂ w₃,
        TruthfulRun who' (controllerUnpublish (localBackend defaultIQNBase) publishLocal) xs' w₂ →
        (tools.exec who' (controllerUnpublish (localBackend defaultIQNBase) publishLocal) xs'
          w₂).2 = (w₃, some (.ok ())) →
        accessEntry (currentBase (localBackend "") "san") publishLocal ∉ w₃.acls := by
  have hrun : (tools.exec 0 (controllerPublish (localBackend "") publishLocal) [(.ok, false)]
      localTarget).2.2 = some (.ok ⟨"10.0.0.1:3260", "iqn.2025-01.io.bard:tgt-v", 0, []⟩) := by
    decide +kernel
  exact ⟨_, _, Prod.ext rfl hrun,
    (detach_revokes_iff (localBackend "") (localBackend defaultIQNBase) publishLocal
      (localMode_localBackend _) (localMode_localBackend _) 0 _ _ _ _
      (Machine.truthfulRun_of_read (by decide)) (Prod.ext rfl hrun)).2.mpr (.inr (by decide))⟩

end Bases

end Local

end BardCsi.Iscsi
