import BardCsi.Lvm.Volumes

/-!
Volumes of the iSCSI plugin on a host that it manages itself: a logical volume as the LVM plugin
makes it, and a target that exports it. The export is opened on the device node of the volume, so
a volume that was created and not activated cannot be exported.
-/
namespace BardCsi.Lvm.Targets

open Effect Program

/-- The plugin, the default pools of its instances, and the digests of names. -/
structure Plugin extends Iscsi.Backend where
  thinPool : String → String
  sum : String → Fin (2 ^ 64)

/-- Whether a volume is thin, if it exists. -/
def isThinLV (vg lv : String) : Prog (Option Bool) := do
  match ← run (.lvAttr vg lv) with
  | .ok out => return some (Strings.hasPrefix (Strings.trimSpace out) "V")
  | .error .notFound => return none
  | .error e => fail (errorf ["iscsi: lvs attr " ++ vg ++ "/" ++ lv ++ ": ", e.text])

def createClone (vg lv : String) (req : CreateVolumeRequest) : Prog Unit := do
  if req.src.location ≠ "" ∧ req.src.location ≠ vg then
    fail ⟨.invalidArg, ["iscsi: clone/restore source " ++ req.src.location ++ "/" ++
      req.src.name ++ " is not in this instance's VG " ++ vg]⟩
  else
    match ← isThinLV vg req.src.name with
    | none => fail ⟨.notFound,
        ["iscsi: clone/restore source " ++ vg ++ "/" ++ req.src.name ++ " not found"]⟩
    | some false => fail ⟨.invalidArg, ["iscsi: clone/restore requires a thin source volume"]⟩
    | some true =>
      thinClone "iscsi" vg req.src.name lv
      extendTo "iscsi" vg lv req.capacityBytes

/-- The volume of a request, from the size it has if it exists. -/
def provide (b : Plugin) (vg lv : String) (req : CreateVolumeRequest) : Option Int → Prog Unit
  | some size => reuse "iscsi" vg lv req size
  | none =>
      if req.isClone then createClone vg lv req
      else createEmpty "iscsi" vg (thinPoolFor (b.thinPool req.inst) req.parameters) lv
        req.capacityBytes

/-- The address and the port, which follows the last colon. -/
def splitPortal (portal : String) : Except Err (String × String) :=
  match portal.toList.reverse.span (· ≠ ':') with
  | (_, []) =>
      .error ⟨.invalidArg, ["iscsi: malformed portal " ++ portal ++ " (want ip:port)"]⟩
  | (port, _ :: ip) => .ok (String.ofList ip.reverse, String.ofList port.reverse)

def createPortals (iqn : String) : List String → Prog Unit
  | [] => .pure ()
  | p :: rest =>
      match splitPortal p with
      | .error e => fail e
      | .ok (ip, port) => do
          tolerating .alreadyExists (← run (.createPortal iqn ip port))
            ["iscsi: create portal " ++ p ++ " on /iscsi/" ++ iqn ++ "/tpg1: "]
          createPortals iqn rest

def setExplicitPortals (iqn : String) (portals : List String) : Prog Unit := do
  tolerating .notFound (← run (.deletePortal iqn "0.0.0.0" "3260"))
    ["iscsi: delete default portal 0.0.0.0:3260 on /iscsi/" ++ iqn ++ "/tpg1: "]
  tolerating .notFound (← run (.deletePortal iqn "::0" "3260"))
    ["iscsi: delete default portal ::0:3260 on /iscsi/" ++ iqn ++ "/tpg1: "]
  createPortals iqn portals

/-- An instance with one portal keeps the default one. -/
def explicitPortals (ic : Iscsi.InstanceConfig) (iqn : String) : Prog Unit :=
  if ic.portalList.length ≥ 2 then setExplicitPortals iqn ic.portalList else .pure ()

/-- The backstore, the target and its unit. -/
def exportLV (ic : Iscsi.InstanceConfig) (lv : String) : Prog Unit := do
  let iqn := Iscsi.targetIQN ic.iqnBase lv
  tolerating .alreadyExists (← run (.createBackstore lv ic.vg))
    ["iscsi: create backstore " ++ lv ++ ": "]
  let _ ← run (.setEmulateTpu lv)
  tolerating .alreadyExists (← run (.createTarget iqn)) ["iscsi: create target " ++ iqn ++ ": "]
  explicitPortals ic iqn
  tolerating .alreadyExists (← run (.createLun iqn lv)) ["iscsi: map lun for " ++ iqn ++ ": "]
  orFail (← run (.setTpgAttributes iqn ic.chapAuth))
    ["iscsi: set tpg attributes for " ++ iqn ++ ": "]

/-- The branch for instances that targetd manages is a parameter. It is not taken for a clone. -/
def createVolume (b : Plugin) (targetd : CreateVolumeRequest → Prog CreateVolumeResponse)
    (req : CreateVolumeRequest) : Prog CreateVolumeResponse :=
  match Iscsi.inst b.toBackend req.inst with
  | .error e => fail e
  | .ok ic =>
      if ic.isTargetd ∧ req.isClone then
        fail ⟨.invalidArg, ["iscsi: creating a volume from a snapshot or another volume is not " ++
          "supported on targetd-managed instance " ++ req.inst ++ " (targetd's vol_copy is a " ++
          "synchronous full copy, unsafe under provisioner retries); local-management " ++
          "instances support snapshots and clones"]⟩
      else if ic.isTargetd then targetd req
      else do
        let lv := lvName b.sum req.name
        provide b ic.vg lv req (← lvSizeBytes "iscsi" ic.vg lv)
        let size := (← lvSizeBytes "iscsi" ic.vg lv).getD 0
        exportLV ic lv
        return ⟨ic.vg, lv, size, none⟩

/-- Requests that are about exports. -/
def AboutExport : Cmd → Prop
  | .createBackstore _ _ | .setEmulateTpu _ | .createTarget _ | .deletePortal _ _ _
  | .createPortal _ _ _ | .createLun _ _ | .setTpgAttributes _ _ => True
  | _ => False

theorem lvs_perform {c : Cmd} (hc : AboutExport c) (w : World) : (perform c w).2.lvs = w.lvs := by
  cases c with
  | createBackstore lv vg =>
    change (performBackstore lv vg w).2.lvs = w.lvs
    unfold performBackstore
    split_ifs <;> rfl
  | createTarget iqn =>
    change (performTarget iqn w).2.lvs = w.lvs
    unfold performTarget
    split_ifs <;> rfl
  | deletePortal iqn ip port =>
    change (performDeletePortal _ w).2.lvs = w.lvs
    unfold performDeletePortal
    split_ifs <;> rfl
  | createPortal iqn ip port =>
    change (performCreatePortal _ w).2.lvs = w.lvs
    unfold performCreatePortal
    split_ifs <;> rfl
  | createLun iqn lv =>
    change (performLun iqn lv w).2.lvs = w.lvs
    unfold performLun
    split_ifs <;> rfl
  | setTpgAttributes iqn authentication =>
    change (if iqn ∈ w.targets then done w else refused w .notFound).2.lvs = w.lvs
    split_ifs <;> rfl
  | setEmulateTpu lv => rfl
  | _ => cases hc

theorem uses_request {α : Type} {c : Cmd} {k : c.Reply → Prog α} (hc : AboutExport c)
    (hk : ∀ r, (k r).Uses AboutExport) : ((run c).bind k).Uses AboutExport :=
  ⟨hc, hk⟩

theorem createPortals_uses (iqn : String) (portals : List String) :
    (createPortals iqn portals).Uses AboutExport := by
  induction portals with
  | nil => exact Uses.pure _
  | cons p rest ih =>
    unfold createPortals
    rcases splitPortal p with e | ⟨ip, port⟩
    · exact Uses.fail _
    · exact uses_request trivial fun _ => tolerating_uses.bind fun _ => ih

theorem setExplicitPortals_uses (iqn : String) (portals : List String) :
    (setExplicitPortals iqn portals).Uses AboutExport := by
  refine uses_request trivial fun _ => tolerating_uses.bind fun _ => ?_
  refine uses_request trivial fun _ => tolerating_uses.bind fun _ => ?_
  exact createPortals_uses iqn portals

theorem exportLV_uses (ic : Iscsi.InstanceConfig) (lv : String) :
    (exportLV ic lv).Uses AboutExport := by
  refine uses_request trivial fun _ => tolerating_uses.bind fun _ => ?_
  refine uses_request trivial fun _ => ?_
  refine uses_request trivial fun _ => tolerating_uses.bind fun _ => ?_
  refine Uses.bind ?_ fun _ => ?_
  · exact Uses.ite (setExplicitPortals_uses _ _) (Uses.pure _)
  · refine uses_request trivial fun _ => tolerating_uses.bind fun _ => ?_
    exact uses_request trivial fun _ => orFail_uses _ _

theorem lvs_exportLV (ic : Iscsi.InstanceConfig) (lv : String) (w : World) :
    ((exportLV ic lv).eval clean w).2.lvs = w.lvs := by
  have hkeeps : (exportLV ic lv).Keeps clean fun w' => w'.lvs = w.lvs :=
    (exportLV_uses ic lv).keeps fun c s hc hs => (lvs_perform hc s).trans hs
  exact hkeeps w rfl

/-- The backstores and targets are as before. -/
structure Kept (w w' : World) : Prop where
  backstores : w'.backstores = w.backstores
  targets : w'.targets = w.targets

theorem Kept.trans {w w' w'' : World} (h : Kept w w') (h' : Kept w' w'') : Kept w w'' :=
  ⟨h'.backstores.trans h.backstores, h'.targets.trans h.targets⟩

section Export

variable (msg : List Text) {w : World}

theorem eval_backstore {lv vg : String} (hactive : (w.lvs vg lv).any LV.active = true) :
    ∃ w', (do tolerating .alreadyExists (← run (.createBackstore lv vg)) msg : Prog Unit).eval
      clean w = (.ok (), w') ∧ lv ∈ w'.backstores := by
  by_cases hmem : lv ∈ w.backstores
  · have hreply : performBackstore lv vg w = (.error .alreadyExists, w) := if_pos hmem
    exact ⟨w, eval_ask_of (c := .createBackstore lv vg) hreply, hmem⟩
  · have hreply : performBackstore lv vg w =
        (.ok (), { w with backstores := lv :: w.backstores }) := by
      rw [performBackstore, if_neg hmem, if_pos hactive]
      rfl
    exact ⟨_, eval_ask_of (c := .createBackstore lv vg) hreply, List.mem_cons_self⟩

theorem eval_target (iqn : String) :
    ∃ w', (do tolerating .alreadyExists (← run (.createTarget iqn)) msg : Prog Unit).eval
      clean w = (.ok (), w') ∧ iqn ∈ w'.targets ∧ w'.backstores = w.backstores := by
  by_cases hmem : iqn ∈ w.targets
  · have hreply : performTarget iqn w = (.error .alreadyExists, w) := if_pos hmem
    exact ⟨w, eval_ask_of (c := .createTarget iqn) hreply, hmem, rfl⟩
  · have hreply : performTarget iqn w = done _ := if_neg hmem
    exact ⟨_, eval_ask_of (c := .createTarget iqn) hreply, List.mem_cons_self, rfl⟩

theorem eval_lun {iqn lv : String} (htarget : iqn ∈ w.targets) (hstore : lv ∈ w.backstores) :
    ∃ w', (do tolerating .alreadyExists (← run (.createLun iqn lv)) msg : Prog Unit).eval
      clean w = (.ok (), w') ∧ w'.targets = w.targets := by
  by_cases hmem : w.luns.contains (iqn, lv) = true
  · have hreply : performLun iqn lv w = (.error .alreadyExists, w) := if_pos hmem
    exact ⟨w, eval_ask_of (c := .createLun iqn lv) hreply, rfl⟩
  · have hreply : performLun iqn lv w = done { w with luns := (iqn, lv) :: w.luns } := by
      rw [performLun, if_neg hmem, if_neg (not_not_intro htarget), if_neg (not_not_intro hstore)]
    exact ⟨_, eval_ask_of (c := .createLun iqn lv) hreply, rfl⟩

theorem eval_deletePortal (p : String × String × String) :
    ∃ w', (do tolerating .notFound (← run (.deletePortal p.1 p.2.1 p.2.2)) msg : Prog Unit).eval
      clean w = (.ok (), w') ∧ Kept w w' := by
  by_cases hmem : p ∈ w.portals
  · have hreply : performDeletePortal p w = done _ := if_pos hmem
    exact ⟨_, eval_ask_of (c := .deletePortal p.1 p.2.1 p.2.2) hreply, rfl, rfl⟩
  · have hreply : performDeletePortal p w = (.error .notFound, w) := if_neg hmem
    exact ⟨w, eval_ask_of (c := .deletePortal p.1 p.2.1 p.2.2) hreply, rfl, rfl⟩

theorem eval_createPortal (p : String × String × String) :
    ∃ w', (do
        tolerating .alreadyExists (← run (.createPortal p.1 p.2.1 p.2.2)) msg : Prog Unit).eval
      clean w = (.ok (), w') ∧ Kept w w' := by
  by_cases hmem : p ∈ w.portals
  · have hreply : performCreatePortal p w = (.error .alreadyExists, w) := if_pos hmem
    exact ⟨w, eval_ask_of (c := .createPortal p.1 p.2.1 p.2.2) hreply, rfl, rfl⟩
  · have hreply : performCreatePortal p w = done _ := if_neg hmem
    exact ⟨_, eval_ask_of (c := .createPortal p.1 p.2.1 p.2.2) hreply, rfl, rfl⟩

theorem eval_createPortals (iqn : String) {portals : List String}
    (hportals : ∀ p ∈ portals, ∃ a, splitPortal p = .ok a) :
    ∃ w', (createPortals iqn portals).eval clean w = (.ok (), w') ∧ Kept w w' := by
  induction portals generalizing w with
  | nil => exact ⟨w, rfl, rfl, rfl⟩
  | cons p rest ih =>
    obtain ⟨⟨ip, port⟩, hsplit⟩ := hportals p List.mem_cons_self
    obtain ⟨w₁, h₁, hkept₁⟩ := eval_createPortal (w := w)
      ["iscsi: create portal " ++ p ++ " on /iscsi/" ++ iqn ++ "/tpg1: "] (iqn, ip, port)
    obtain ⟨w₂, h₂, hkept₂⟩ := ih (w := w₁) fun q hq => hportals q (List.mem_cons_of_mem _ hq)
    refine ⟨w₂, ?_, hkept₁.trans hkept₂⟩
    rw [createPortals, hsplit]
    exact (eval_bind_of (k := fun _ => createPortals iqn rest) h₁).trans h₂

theorem eval_explicitPortals (ic : Iscsi.InstanceConfig) (iqn : String)
    (hportals : 2 ≤ ic.portalList.length → ∀ p ∈ ic.portalList, ∃ a, splitPortal p = .ok a) :
    ∃ w', (explicitPortals ic iqn).eval clean w = (.ok (), w') ∧ Kept w w' := by
  unfold explicitPortals
  split_ifs with hmany
  · obtain ⟨w₁, h₁, hkept₁⟩ := eval_deletePortal (w := w)
      ["iscsi: delete default portal 0.0.0.0:3260 on /iscsi/" ++ iqn ++ "/tpg1: "]
      (iqn, "0.0.0.0", "3260")
    obtain ⟨w₂, h₂, hkept₂⟩ := eval_deletePortal (w := w₁)
      ["iscsi: delete default portal ::0:3260 on /iscsi/" ++ iqn ++ "/tpg1: "]
      (iqn, "::0", "3260")
    obtain ⟨w₃, h₃, hkept₃⟩ := eval_createPortals (w := w₂) iqn (hportals hmany)
    refine ⟨w₃, ?_, (hkept₁.trans hkept₂).trans hkept₃⟩
    exact (eval_bind_of (k := fun _ => _) h₁).trans
      ((eval_bind_of (k := fun _ => createPortals iqn ic.portalList) h₂).trans h₃)
  · exact ⟨w, rfl, rfl, rfl⟩

theorem eval_exportLV (ic : Iscsi.InstanceConfig) {lv : String}
    (hactive : (w.lvs ic.vg lv).any LV.active = true)
    (hportals : 2 ≤ ic.portalList.length → ∀ p ∈ ic.portalList, ∃ a, splitPortal p = .ok a) :
    ∃ w', (exportLV ic lv).eval clean w = (.ok (), w') ∧ w'.lvs = w.lvs := by
  obtain ⟨w₁, h₁, hstore⟩ :=
    eval_backstore ["iscsi: create backstore " ++ lv ++ ": "] hactive
  obtain ⟨w₂, h₂, htarget, hstores⟩ := eval_target (w := w₁)
    ["iscsi: create target " ++ Iscsi.targetIQN ic.iqnBase lv ++ ": "]
    (Iscsi.targetIQN ic.iqnBase lv)
  obtain ⟨w₃, h₃, hkept⟩ :=
    eval_explicitPortals (w := w₂) ic (Iscsi.targetIQN ic.iqnBase lv) hportals
  have htarget₃ : Iscsi.targetIQN ic.iqnBase lv ∈ w₃.targets := hkept.targets ▸ htarget
  have hstore₃ : lv ∈ w₃.backstores := by
    rw [hkept.backstores, hstores]
    exact hstore
  obtain ⟨w₄, h₄, htargets⟩ := eval_lun
    ["iscsi: map lun for " ++ Iscsi.targetIQN ic.iqnBase lv ++ ": "] htarget₃ hstore₃
  have hattributes : perform (.setTpgAttributes (Iscsi.targetIQN ic.iqnBase lv) ic.chapAuth) w₄ =
      (.ok (), w₄) := if_pos (htargets ▸ htarget₃)
  have heval : (exportLV ic lv).eval clean w = (.ok (), w₄) := by
    refine (eval_bind_of (k := fun _ => _) h₁).trans ?_
    refine (eval_bind_of (k := fun _ => _) h₂).trans ?_
    refine (eval_bind_of (k := fun _ => _) h₃).trans ?_
    refine (eval_bind_of (k := fun _ => _) h₄).trans ?_
    exact (eval_ask_of hattributes).trans rfl
  have hlvs := lvs_exportLV ic lv w
  rw [heval] at hlvs
  exact ⟨w₄, heval, hlvs⟩

end Export

section Create

variable {b : Plugin} {targetd : CreateVolumeRequest → Prog CreateVolumeResponse}
variable {req : CreateVolumeRequest} {ic : Iscsi.InstanceConfig} {w : World} {l : LV}

theorem eval_isThinLV {vg lv : String} (hlv : w.lvs vg lv = some l) :
    (isThinLV vg lv).eval clean w = (.ok (some l.thin), w) := by
  refine (eval_ask_of (perform_lvAttr hlv)).trans ?_
  change (Except.ok (some (Strings.hasPrefix _ "V")), w) = _
  rw [hasPrefix_attr]

/-- The part of a request for a local instance after the volume is there. -/
def finish (ic : Iscsi.InstanceConfig) (lv : String) : Prog CreateVolumeResponse := do
  let size := (← lvSizeBytes "iscsi" ic.vg lv).getD 0
  exportLV ic lv
  return ⟨ic.vg, lv, size, none⟩

theorem eval_createVolume (hinst : Iscsi.inst b.toBackend req.inst = .ok ic)
    (hlocal : ic.isTargetd = false) {w' : World}
    (h : (provide b ic.vg (lvName b.sum req.name) req
      ((w.lvs ic.vg (lvName b.sum req.name)).map fun l => (l.size : Int))).eval clean w =
        (.ok (), w')) :
    (createVolume b targetd req).eval clean w =
      (finish ic (lvName b.sum req.name)).eval clean w' := by
  rw [createVolume, hinst]
  simp only [hlocal, Bool.false_eq_true, false_and, if_false]
  exact (eval_bind_of (eval_lvSizeBytes "iscsi" ic.vg _ w)).trans (eval_bind_of h)

theorem lvs_finish (ic : Iscsi.InstanceConfig) (lv : String) (w : World) :
    ((finish ic lv).eval clean w).2.lvs = w.lvs := by
  have hsize : (lvSizeBytes "iscsi" ic.vg lv).Keeps clean fun w' => w'.lvs = w.lvs := by
    intro s hs
    rw [eval_lvSizeBytes]
    exact hs
  have hexport : (exportLV ic lv).Keeps clean fun w' => w'.lvs = w.lvs :=
    (exportLV_uses ic lv).keeps fun c s hc hs => (lvs_perform hc s).trans hs
  have hfinish : (finish ic lv).Keeps clean fun w' => w'.lvs = w.lvs :=
    hsize.bind fun _ => hexport.bind fun _ => Keeps.pure _
  exact hfinish w rfl

theorem eval_finish {lv : String} (hactive : (w.lvs ic.vg lv).any LV.active = true)
    (hportals : 2 ≤ ic.portalList.length → ∀ p ∈ ic.portalList, ∃ a, splitPortal p = .ok a) :
    ∃ resp w', (finish ic lv).eval clean w = (.ok resp, w') ∧ w'.lvs = w.lvs := by
  obtain ⟨w', heval, hlvs⟩ := eval_exportLV ic hactive hportals
  exact ⟨_, w', (eval_bind_of (eval_lvSizeBytes "iscsi" ic.vg lv w)).trans
    (eval_bind_of heval), hlvs⟩

theorem lvs_createVolume_found (hinst : Iscsi.inst b.toBackend req.inst = .ok ic)
    (hlocal : ic.isTargetd = false) (hclone : req.isClone = true)
    (hlv : w.lvs ic.vg (lvName b.sum req.name) = some l) : ∃ n : ℕ,
      ((createVolume b targetd req).eval clean w).2.lvs ic.vg (lvName b.sum req.name) =
        some { l with size := n } ∧
      req.capacityBytes ≤ n := by
  obtain ⟨n, heval, hn⟩ := eval_reuse "iscsi" hclone hlv
  refine ⟨n, ?_, hn⟩
  rw [eval_createVolume hinst hlocal (by rw [hlv]; exact heval), lvs_finish]
  exact lvs_setLV_self _ _ _ _

theorem eval_createVolume_found (hinst : Iscsi.inst b.toBackend req.inst = .ok ic)
    (hlocal : ic.isTargetd = false) (hclone : req.isClone = true)
    (hlv : w.lvs ic.vg (lvName b.sum req.name) = some l) (hactive : l.active = true)
    (hportals : 2 ≤ ic.portalList.length → ∀ p ∈ ic.portalList, ∃ a, splitPortal p = .ok a) :
    ∃ resp w', (createVolume b targetd req).eval clean w = (.ok resp, w') := by
  obtain ⟨n, heval, -⟩ := eval_reuse "iscsi" hclone hlv
  rw [eval_createVolume hinst hlocal (by rw [hlv]; exact heval)]
  obtain ⟨resp, w', h, -⟩ := eval_finish
    (w := w.setLV ic.vg (lvName b.sum req.name) { l with size := n })
    (by rw [lvs_setLV_self]; exact hactive) hportals
  exact ⟨resp, w', h⟩

theorem eval_createVolume_new (hinst : Iscsi.inst b.toBackend req.inst = .ok ic)
    (hlocal : ic.isTargetd = false) (hclone : req.isClone = true)
    (hlv : w.lvs ic.vg (lvName b.sum req.name) = none)
    (hlocation : req.src.location = "" ∨ req.src.location = ic.vg)
    (hsrc : w.lvs ic.vg req.src.name = some l) (hthin : l.thin = true)
    (hportals : 2 ≤ ic.portalList.length → ∀ p ∈ ic.portalList, ∃ a, splitPortal p = .ok a) :
    ∃ resp w' n, (createVolume b targetd req).eval clean w = (.ok resp, w') ∧
      w'.lvs ic.vg (lvName b.sum req.name) = some ⟨n, true, true⟩ ∧ req.capacityBytes ≤ n := by
  obtain ⟨n, heval, hn⟩ := eval_cloned "iscsi" hsrc hlv req.capacityBytes
  have hhere : ¬ (req.src.location ≠ "" ∧ req.src.location ≠ ic.vg) := by tauto
  have hclones : (createClone ic.vg (lvName b.sum req.name) req).eval clean w =
      (.ok (), w.setLV ic.vg (lvName b.sum req.name) ⟨n, true, true⟩) := by
    rw [createClone, if_neg hhere, Program.bind_eq, eval_bind_of (eval_isThinLV hsrc),
      hthin]
    exact heval
  rw [eval_createVolume hinst hlocal (by
    rw [hlv, Option.map_none, provide, hclone, if_pos rfl]
    exact hclones)]
  obtain ⟨resp, w', h, hlvs⟩ := eval_finish
    (w := w.setLV ic.vg (lvName b.sum req.name) ⟨n, true, true⟩) (by rw [lvs_setLV_self]; rfl)
    hportals
  exact ⟨resp, w', n, h, by rw [hlvs, lvs_setLV_self], hn⟩

end Create

end BardCsi.Lvm.Targets
