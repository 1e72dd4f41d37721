import BardCsi.Lvm.Host

/-!
Volumes of the LVM plugin, and what the steps that both plugins share do on a host on which nothing
fails. Whether a volume exists is the only thing that a repeated request looks at.
-/
namespace BardCsi.Lvm

open Effect Program

structure InstanceConfig where
  vg : String
  thinPool : String
deriving DecidableEq, Repr

structure Backend where
  instances : String → Option InstanceConfig
  sum : String → Fin (2 ^ 64)

def Backend.vg (b : Backend) (inst : String) : Except Err String :=
  let vg := ((b.instances inst).map InstanceConfig.vg).getD ""
  if vg = "" then
    .error ⟨.invalidArg, ["lvm: no volume group configured for instance " ++ inst]⟩
  else .ok vg

/-- A source that does not exist is an error of the command. -/
def isThinLV (vg lv : String) : Prog Bool := do
  let out ← orFail (← run (.lvAttr vg lv)) ["lvm: lvs attr " ++ vg ++ "/" ++ lv ++ ": "]
  return Strings.hasPrefix (Strings.trimSpace out) "V"

def createClone (vg lv : String) (req : CreateVolumeRequest) : Prog Unit := do
  if ← isThinLV vg req.src.name then
    thinClone "lvm" vg req.src.name lv
    extendTo "lvm" vg lv req.capacityBytes
  else fail ⟨.invalidArg, ["lvm: clone/restore requires a thin source volume"]⟩

/-- The volume of a request, from the size it has if it exists. -/
def provide (b : Backend) (vg lv : String) (req : CreateVolumeRequest) : Option Int → Prog Int
  | some size => do
      if size < req.capacityBytes then
        reuse "lvm" vg lv req size
        return (← lvSizeBytes "lvm" vg lv).getD 0
      else return size
  | none => do
      let pool := thinPoolFor (((b.instances req.inst).map InstanceConfig.thinPool).getD "")
        req.parameters
      if req.isClone then createClone vg lv req
      else createEmpty "lvm" vg pool lv req.capacityBytes
      return (← lvSizeBytes "lvm" vg lv).getD 0

def createVolume (b : Backend) (req : CreateVolumeRequest) : Prog CreateVolumeResponse :=
  match b.vg req.inst with
  | .error e => fail e
  | .ok vg => do
      let lv := lvName b.sum req.name
      let size ← provide b vg lv req (← lvSizeBytes "lvm" vg lv)
      return ⟨vg, lv, size, some (devPath vg lv)⟩

/-- The answers of a host on which nothing fails. -/
def clean : (c : Cmd) → World → c.Reply × World := Program.answers machine () fun _ _ => .ok

theorem eval_ask_of {α : Type} {c : Cmd} {k : c.Reply → Prog α} {r : c.Reply} {w w' : World}
    (h : perform c w = (r, w')) : ((run c).bind k).eval clean w = (k r).eval clean w' := by
  change (k (perform c w).1).eval clean (perform c w).2 = _
  rw [h]

section Clean

variable {plugin vg lv src : String} {w : World} {l : LV} {req : CreateVolumeRequest}

@[simp] theorem lvs_setLV_self (vg lv : String) (l : LV) (w : World) :
    (w.setLV vg lv l).lvs vg lv = some l := by
  simp [World.setLV]

theorem lvs_setLV_of_ne {vg' lv' : String} (h : ¬ (vg' = vg ∧ lv' = lv)) (l : LV) (w : World) :
    (w.setLV vg lv l).lvs vg' lv' = w.lvs vg' lv' := by
  by_cases hvg : vg' = vg
  · subst hvg
    have hlv : lv' ≠ lv := fun hlv => h ⟨rfl, hlv⟩
    simp [World.setLV, Function.update_of_ne hlv]
  · simp [World.setLV, Function.update_of_ne hvg]

theorem setLV_self (hlv : w.lvs vg lv = some l) : w.setLV vg lv l = w := by
  simp [World.setLV, ← hlv]

theorem le_rounded (w : World) (size : Int) : size ≤ w.rounded size := by
  unfold World.rounded
  omega

theorem eval_lvSizeBytes (plugin vg lv : String) (w : World) :
    (lvSizeBytes plugin vg lv).eval clean w =
      (.ok ((w.lvs vg lv).map fun l => (l.size : Int)), w) := by
  have hreply : perform (.lvSize vg lv) w =
      ((w.lvs vg lv).elim (.error .notFound) fun l => .ok (some l.size), w) := rfl
  refine (eval_ask_of hreply).trans ?_
  rcases w.lvs vg lv with _ | l
  · rfl
  · rfl

theorem eval_extendTo (plugin : String) (hlv : w.lvs vg lv = some l) (size : Int) :
    ∃ n, (extendTo plugin vg lv size).eval clean w = (.ok (), w.setLV vg lv { l with size := n }) ∧
      size ≤ n := by
  unfold extendTo
  split_ifs with hpos
  · exact ⟨l.size, by rw [setLV_self hlv]; rfl, by omega⟩
  · by_cases hlarge : w.rounded size ≤ l.size
    · have hreply : performExtend vg lv size w = (.error .notLarger, w) := by
        simp [performExtend, hlv, hlarge]
      refine ⟨l.size, ?_, (le_rounded w size).trans (by exact_mod_cast hlarge)⟩
      rw [setLV_self hlv]
      exact (eval_ask_of (c := .lvextend vg lv size) hreply).trans rfl
    · have hreply : performExtend vg lv size w =
          (.ok (), w.setLV vg lv { l with size := w.rounded size }) := by
        simp [performExtend, hlv, hlarge]
      exact ⟨w.rounded size, (eval_ask_of (c := .lvextend vg lv size) hreply).trans rfl,
        le_rounded w size⟩

theorem eval_thinClone (hsrc : w.lvs vg src = some l) (hlv : w.lvs vg lv = none) :
    (thinClone plugin vg src lv).eval clean w =
      (.ok (), w.setLV vg lv ⟨l.size, true, true⟩) := by
  have hcreate : performSnapshot vg src lv w =
      (.ok (), w.setLV vg lv ⟨l.size, true, false⟩) := by
    simp [performSnapshot, performCreate, hsrc, hlv, done]
  have hactivate : performActivate vg lv (w.setLV vg lv ⟨l.size, true, false⟩) =
      (.ok (), w.setLV vg lv ⟨l.size, true, true⟩) := by
    simp [performActivate, done, World.setLV]
  exact (eval_ask_of (c := .lvcreateSnapshot vg src lv) hcreate).trans
    ((eval_ask_of (c := .lvchangeActivate vg lv) hactivate).trans rfl)

theorem hasPrefix_attr :
    ∀ thin active, Strings.hasPrefix (Strings.trimSpace (attr thin active)) "V" = thin := by
  decide +kernel

theorem eval_reuse (plugin : String) (hclone : req.isClone = true) (hlv : w.lvs vg lv = some l) :
    ∃ n : ℕ, (reuse plugin vg lv req l.size).eval clean w =
      (.ok (), w.setLV vg lv { l with size := n }) ∧ req.capacityBytes ≤ n := by
  by_cases hsmall : (l.size : Int) < req.capacityBytes
  · rw [reuse, if_pos hsmall, if_neg (by simp [hclone])]
    exact eval_extendTo plugin hlv req.capacityBytes
  · rw [reuse, if_neg hsmall]
    exact ⟨l.size, by rw [setLV_self hlv]; rfl, by omega⟩

theorem eval_cloned (plugin : String) (hsrc : w.lvs vg src = some l) (hlv : w.lvs vg lv = none)
    (size : Int) : ∃ n : ℕ, (do
        thinClone plugin vg src lv
        extendTo plugin vg lv size : Prog Unit).eval clean w =
      (.ok (), w.setLV vg lv ⟨n, true, true⟩) ∧ size ≤ n := by
  obtain ⟨n, heval, hn⟩ :=
    eval_extendTo plugin (lvs_setLV_self vg lv ⟨l.size, true, true⟩ w) size
  refine ⟨n, (eval_bind_of (eval_thinClone hsrc hlv)).trans (heval.trans ?_), hn⟩
  simp [World.setLV]

end Clean

section Create

variable {b : Backend} {req : CreateVolumeRequest} {vg : String} {w : World} {l : LV}

theorem perform_lvAttr {lv : String} (hlv : w.lvs vg lv = some l) :
    perform (.lvAttr vg lv) w = (.ok (attr l.thin l.active), w) := by
  change ((w.lvs vg lv).elim _ _, w) = _
  rw [hlv]
  rfl

theorem eval_isThinLV {lv : String} (hlv : w.lvs vg lv = some l) :
    (isThinLV vg lv).eval clean w = (.ok l.thin, w) := by
  refine (eval_ask_of (perform_lvAttr hlv)).trans ?_
  change (Except.ok (Strings.hasPrefix _ "V"), w) = _
  rw [hasPrefix_attr]

theorem eval_createVolume (hvg : b.vg req.inst = .ok vg) {size : Int} {w' : World}
    (h : (provide b vg (lvName b.sum req.name) req
      ((w.lvs vg (lvName b.sum req.name)).map fun l => (l.size : Int))).eval clean w =
        (.ok size, w')) : ∃ resp, (createVolume b req).eval clean w = (.ok resp, w') := by
  rw [createVolume, hvg]
  refine ⟨⟨vg, lvName b.sum req.name, size, some (devPath vg (lvName b.sum req.name))⟩, ?_⟩
  exact (eval_bind_of (eval_lvSizeBytes "lvm" vg _ w)).trans (eval_bind_of h)

theorem eval_resized (vg lv : String) (w : World) :
    (do return (← lvSizeBytes "lvm" vg lv).getD 0 : Prog Int).eval clean w =
      (.ok (((w.lvs vg lv).map fun l => (l.size : Int)).getD 0), w) :=
  eval_bind_of (eval_lvSizeBytes "lvm" vg lv w)

theorem eval_createVolume_found (hvg : b.vg req.inst = .ok vg) (hclone : req.isClone = true)
    (hlv : w.lvs vg (lvName b.sum req.name) = some l) : ∃ resp n,
      (createVolume b req).eval clean w =
        (.ok resp, w.setLV vg (lvName b.sum req.name) { l with size := n }) ∧
      req.capacityBytes ≤ n := by
  by_cases hsmall : (l.size : Int) < req.capacityBytes
  · obtain ⟨n, heval, hn⟩ := eval_reuse "lvm" hclone hlv
    obtain ⟨resp, hresp⟩ := eval_createVolume hvg (by
      rw [hlv, Option.map_some, provide, if_pos hsmall]
      exact (eval_bind_of heval).trans (eval_resized vg _ _))
    exact ⟨resp, n, hresp, hn⟩
  · have hprovide : (provide b vg (lvName b.sum req.name) req (some l.size)).eval clean w =
        (.ok (l.size : Int), w) := by
      rw [provide, if_neg hsmall]
      rfl
    obtain ⟨resp, hresp⟩ := eval_createVolume hvg (by rw [hlv]; exact hprovide)
    exact ⟨resp, l.size, by rw [hresp, setLV_self hlv], by omega⟩

theorem eval_createVolume_new (hvg : b.vg req.inst = .ok vg) (hclone : req.isClone = true)
    (hlv : w.lvs vg (lvName b.sum req.name) = none) (hsrc : w.lvs vg req.src.name = some l)
    (hthin : l.thin = true) : ∃ resp n,
      (createVolume b req).eval clean w =
        (.ok resp, w.setLV vg (lvName b.sum req.name) ⟨n, true, true⟩) ∧
      req.capacityBytes ≤ n := by
  obtain ⟨n, heval, hn⟩ := eval_cloned "lvm" hsrc hlv req.capacityBytes
  have hclones : (createClone vg (lvName b.sum req.name) req).eval clean w =
      (.ok (), w.setLV vg (lvName b.sum req.name) ⟨n, true, true⟩) := by
    rw [createClone, Program.bind_eq, eval_bind_of (eval_isThinLV hsrc), hthin, if_pos rfl]
    exact heval
  obtain ⟨resp, hresp⟩ := eval_createVolume hvg (by
    rw [hlv, Option.map_none, provide, hclone, if_pos rfl]
    exact (eval_bind_of hclones).trans (eval_resized vg _ _))
  exact ⟨resp, n, hresp, hn⟩

end Create

end BardCsi.Lvm
