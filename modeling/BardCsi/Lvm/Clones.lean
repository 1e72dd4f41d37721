import BardCsi.Lvm.Targets

/-!
Clones of logical volumes that are requested again. Both plugins create a clone, activate it and
grow it, and a repeated request goes by whether the volume exists. The steps that follow the
creation are taken up again where the size shows that they are missing, which it does not for the
activation.
-/
namespace BardCsi.Lvm

open Effect
open Iscsi (inst)
open Targets (splitPortal)

/-- A plugin that makes logical volumes. -/
inductive Creator where
  | lvm (b : Backend)
  | iscsi (b : Targets.Plugin)
      (targetd : CreateVolumeRequest → Prog CreateVolumeResponse)

namespace Creator

def createVolume : Creator → CreateVolumeRequest → Prog CreateVolumeResponse
  | .lvm b, req => Lvm.createVolume b req
  | .iscsi b targetd, req => Targets.createVolume b targetd req

/-- The volume of a request. -/
def lv : Creator → CreateVolumeRequest → String
  | .lvm b, req => lvName b.sum req.name
  | .iscsi b _, req => lvName b.sum req.name

/-- The instance of a request is one that the plugin can serve, and makes volumes in a group. -/
inductive Serves : Creator → CreateVolumeRequest → String → Prop
  | lvm {b : Backend} {req : CreateVolumeRequest} {vg : String} (h : b.vg req.inst = .ok vg) :
      Serves (.lvm b) req vg
  | iscsi {b : Targets.Plugin}
      {targetd : CreateVolumeRequest → Prog CreateVolumeResponse} {req : CreateVolumeRequest}
      {ic : Iscsi.InstanceConfig} (hinst : inst b.toBackend req.inst = .ok ic)
      (hlocal : ic.isTargetd = false)
      (hportals : 2 ≤ ic.portalList.length → ∀ p ∈ ic.portalList, ∃ a, splitPortal p = .ok a)
      (hlocation : req.src.location = "" ∨ req.src.location = ic.vg) :
      Serves (.iscsi b targetd) req ic.vg

/-- A request for a clone of a thin volume of the group. -/
structure Clones (c : Creator) (req : CreateVolumeRequest) (vg : String) (w : World) : Prop where
  clone : req.isClone = true
  serves : c.Serves req vg
  source : ∃ l, w.lvs vg req.src.name = some l ∧ l.thin = true

/-- On a host on which nothing fails the request succeeds, and the volume is active and as large as
requested. -/
def Usable (c : Creator) (req : CreateVolumeRequest) (vg : String) (w : World) : Prop :=
  ∃ resp w', (c.createVolume req).eval clean w = (.ok resp, w') ∧
    ∃ l, w'.lvs vg (c.lv req) = some l ∧ l.active = true ∧ req.capacityBytes ≤ l.size

/-- The volume was created and not activated. -/
def Dormant (c : Creator) (req : CreateVolumeRequest) (vg : String) (w : World) : Prop :=
  ∃ l, w.lvs vg (c.lv req) = some l ∧ l.active = false

section Retry

variable {c : Creator} {req : CreateVolumeRequest} {vg : String} {w : World} {l : LV}

theorem lvs_createVolume_found (hserves : c.Serves req vg) (hclone : req.isClone = true)
    (hlv : w.lvs vg (c.lv req) = some l) : ∃ n : ℕ,
      ((c.createVolume req).eval clean w).2.lvs vg (c.lv req) = some { l with size := n } ∧
        req.capacityBytes ≤ n := by
  cases hserves with
  | lvm hvg =>
    obtain ⟨resp, n, hrun, hn⟩ := eval_createVolume_found hvg hclone hlv
    refine ⟨n, ?_, hn⟩
    rw [createVolume, hrun]
    exact lvs_setLV_self _ _ _ _
  | iscsi hinst hlocal => exact Targets.lvs_createVolume_found hinst hlocal hclone hlv

theorem eval_found (hserves : c.Serves req vg) (hclone : req.isClone = true)
    (hlv : w.lvs vg (c.lv req) = some l) (hactive : l.active = true) :
    ∃ resp w', (c.createVolume req).eval clean w = (.ok resp, w') := by
  cases hserves with
  | lvm hvg =>
    obtain ⟨resp, n, hrun, -⟩ := eval_createVolume_found hvg hclone hlv
    exact ⟨resp, _, hrun⟩
  | iscsi hinst hlocal hportals =>
    exact Targets.eval_createVolume_found hinst hlocal hclone hlv hactive hportals

theorem eval_new (hserves : c.Serves req vg) (hclone : req.isClone = true)
    (hlv : w.lvs vg (c.lv req) = none) (hsrc : w.lvs vg req.src.name = some l)
    (hthin : l.thin = true) : c.Usable req vg w := by
  cases hserves with
  | lvm hvg =>
    obtain ⟨resp, n, hrun, hn⟩ := eval_createVolume_new hvg hclone hlv hsrc hthin
    exact ⟨resp, _, hrun, _, lvs_setLV_self _ _ _ _, rfl, hn⟩
  | iscsi hinst hlocal hportals hlocation =>
    obtain ⟨resp, w', n, hrun, hlvs, hn⟩ := Targets.eval_createVolume_new hinst hlocal
      hclone hlv hlocation hsrc hthin hportals
    exact ⟨resp, w', hrun, _, hlvs, rfl, hn⟩

theorem Clones.usable_iff (hclones : c.Clones req vg w) :
    c.Usable req vg w ↔ ¬ c.Dormant req vg w := by
  obtain ⟨hclone, hserves, lsrc, hsrc, hthin⟩ := hclones
  rcases hlv : w.lvs vg (c.lv req) with _ | l
  · refine iff_of_true (eval_new hserves hclone hlv hsrc hthin) ?_
    rintro ⟨l, hlv', -⟩
    rw [hlv] at hlv'
    cases hlv'
  · obtain ⟨n, hlvs, hn⟩ := lvs_createVolume_found hserves hclone hlv
    constructor
    · rintro ⟨resp, w', heval, l', hlv', hactive, -⟩ ⟨l'', hlv'', hinactive⟩
      rw [heval, hlv'] at hlvs
      obtain rfl := Option.some.inj hlvs
      obtain rfl := Option.some.inj (hlv.symm.trans hlv'')
      exact absurd hactive (by simp [hinactive])
    · intro hawake
      have hactive : l.active = true := by
        by_contra hinactive
        exact hawake ⟨l, hlv, by simpa using hinactive⟩
      obtain ⟨resp, w', heval⟩ := eval_found hserves hclone hlv hactive
      rw [heval] at hlvs
      exact ⟨resp, w', heval, _, hlvs, hactive, hn⟩

end Retry

/-- The volume exists and is thin. -/
def HasThin (vg lv : String) (w : World) : Prop := ∃ l, w.lvs vg lv = some l ∧ l.thin = true

section Thin

variable {vg lv vg' lv' : String} {w : World}

theorem HasThin.setLV (h : HasThin vg lv w) {l : LV}
    (hl : ∀ l', w.lvs vg' lv' = some l' → l.thin = l'.thin) :
    HasThin vg lv (w.setLV vg' lv' l) := by
  obtain ⟨l', hlv, hthin⟩ := h
  by_cases hsame : vg = vg' ∧ lv = lv'
  · obtain ⟨rfl, rfl⟩ := hsame
    exact ⟨l, lvs_setLV_self _ _ _ _, (hl l' hlv).trans hthin⟩
  · exact ⟨l', (lvs_setLV_of_ne hsame l w).trans hlv, hthin⟩

theorem HasThin.create (h : HasThin vg lv w) (l : LV) :
    HasThin vg lv (performCreate vg' lv' l w).2 := by
  unfold performCreate
  split_ifs with hexists
  · exact h
  · refine h.setLV fun l' hlv' => ?_
    simp [hlv'] at hexists

theorem HasThin.perform (h : HasThin vg lv w) (cmd : Cmd) :
    HasThin vg lv (Lvm.perform cmd w).2 := by
  cases cmd with
  | lvSize | lvAttr => exact h
  | lvcreateSnapshot vg' src lv' =>
    change HasThin vg lv (performSnapshot vg' src lv' w).2
    unfold performSnapshot
    cases w.lvs vg' src with
    | none => exact h
    | some l => exact h.create _
  | lvcreateThin | lvcreateThick => exact h.create _
  | lvchangeActivate vg' lv' =>
    change HasThin vg lv (performActivate vg' lv' w).2
    unfold performActivate
    cases hlv : w.lvs vg' lv' with
    | none => exact h
    | some l => exact h.setLV fun l' hlv' => by rw [← Option.some.inj (hlv.symm.trans hlv')]
  | lvextend vg' lv' size =>
    change HasThin vg lv (performExtend vg' lv' size w).2
    unfold performExtend
    cases hlv : w.lvs vg' lv' with
    | none => exact h
    | some l =>
      dsimp only
      split_ifs
      · exact h
      · exact h.setLV fun l' hlv' => by rw [← Option.some.inj (hlv.symm.trans hlv')]
  | _ =>
    unfold HasThin
    rw [Targets.lvs_perform]
    · exact h
    · trivial

theorem HasThin.step (h : HasThin vg lv w) (cmd : Cmd) (o : Outcome) :
    HasThin vg lv (Lvm.step () cmd o w).2 := by
  rcases step_state cmd o w with hstate | hstate
  · rw [hstate]
    exact h
  · rw [hstate]
    exact h.perform cmd

end Thin

/-- After a first attempt that came to any end, the repeated request makes the clone usable exactly
when the first attempt has not left it created and not activated. -/
theorem clone_usable_iff (c : Creator) (req : CreateVolumeRequest) (vg : String) (w : World)
    (os : List Outcome) (hclones : c.Clones req vg w) :
    c.Usable req vg (machine.exec () (c.createVolume req) os w).2.1 ↔
      ¬ c.Dormant req vg (machine.exec () (c.createVolume req) os w).2.1 := by
  have hkeeps := Machine.exec_keeps (M := machine) (t := ()) (I := HasThin vg req.src.name)
    (Program.Uses.any (c.createVolume req)) hclones.source (fun cmd o v _ hv => hv.step cmd o) os
  exact Clones.usable_iff ⟨hclones.clone, hclones.serves, hkeeps.1⟩

end Creator

section Instance

def oneGroup : Backend := ⟨fun _ => some ⟨"vg", "pool"⟩, lengthSum⟩

def oneTarget : Targets.Plugin where
  instances _ := some ⟨"vg", "10.0.0.1:3260", [], "", false, "", "", "", ""⟩
  nodeID := ""
  stateDir := ""
  chapDir := ""
  targetdDir := ""
  thinPool _ := "pool"
  sum := lengthSum

/-- A restore of a snapshot. -/
def restore : CreateVolumeRequest where
  name := "clone"
  capacityBytes := 2 ^ 20
  inst := "a"
  parameters _ := ""
  sourceSnapshot := some ⟨"a", "vg", "snap"⟩
  sourceVolume := none

/-- A host with the snapshot only. -/
def snapshotHost : World where
  lvs vg lv := if vg = "vg" ∧ lv = "snap" then some ⟨2 ^ 20, true, false⟩ else none
  extent := 4096
  backstores := []
  targets := []
  portals := []
  luns := []

/-- The state after a first attempt that was cut short behind the creation of the clone. -/
def cutShort (c : Creator) : World :=
  (machine.exec () (c.createVolume restore) (.replicate 3 .ok) snapshotHost).2.1

def outcome (c : Creator) : Option CreateVolumeResponse × Option LV :=
  let r := (c.createVolume restore).eval clean (cutShort c)
  (r.1.toOption, r.2.lvs "vg" (c.lv restore))

/-- The LVM plugin returns a volume that is not active, and the iSCSI plugin fails. -/
theorem clone_cut_short_unusable :
    (outcome (.lvm oneGroup)).1.isSome = true ∧
      (outcome (.lvm oneGroup)).2.map LV.active = some false ∧
      (outcome (.iscsi oneTarget fun _ => fail (errorf []))).1 = none := by
  decide +kernel

/-- The state after a first attempt whose creation of the clone failed. -/
def notCreated (c : Creator) : World :=
  (machine.exec () (c.createVolume restore) [.ok, .ok, ⟨some "", false⟩] snapshotHost).2.1

theorem clone_usable_iff_restore :
    (Creator.lvm oneGroup).Usable restore "vg" (notCreated (.lvm oneGroup)) ∧
      ¬ (Creator.lvm oneGroup).Usable restore "vg" (cutShort (.lvm oneGroup)) := by
  have hiff := fun os => Creator.clone_usable_iff (.lvm oneGroup) restore "vg" snapshotHost os
    ⟨rfl, .lvm rfl, _, rfl, rfl⟩
  constructor
  · apply (hiff _).mpr
    rintro ⟨l, hlv, _⟩
    have hnone : (notCreated (.lvm oneGroup)).lvs "vg" ((Creator.lvm oneGroup).lv restore) =
        none := by decide +kernel
    cases hlv.symm.trans hnone
  · rw [cutShort, hiff, not_not]
    exact ⟨⟨2 ^ 20, true, false⟩, by decide +kernel⟩

end Instance

end BardCsi.Lvm
