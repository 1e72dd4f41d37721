import BardCsi.Cephfs.Names

/-!
Retries of a create that clones another subvolume. The clone runs in the background, an attempt
may stop anywhere, and each attempt starts from whatever the earlier ones left: a temporary
snapshot or none, and a target that is absent, pending, done or dead. A dead target is removed by
the attempt that finds it, so the next attempt makes it again. A target that is there is met only
by an attempt that reads Ceph's refusal to clone onto it as one.
-/
namespace BardCsi.Cephfs.Provision

open Effect Program

/-- A request to clone a volume into `target` that passes all checks of a create. -/
structure Accepted (b : Backend) (req : CreateVolumeRequest) (cc : ClusterConfig) (vol : VolumeRef)
    (target : SubvolumeRef) : Prop where
  cluster : b.clusters req.inst = some cc
  target : req.target b cc = some target
  snapshot : req.sourceSnapshot = none
  volume : req.sourceVolume = some vol
  exported : cc.mounter = .nfs → cc.nfsCluster ≠ "" ∧ cc.nfsServer ≠ ""

/-- The source is there, and the target is absent or a clone without snapshots. -/
def Ready (src target : SubvolumeRef) (w : World) : Prop :=
  (w.subvolumes src).isSome ∧
    ∀ v, w.subvolumes target = some v → v.snaps = [] ∧ v.clone.isSome

/-- The requests of an attempt. -/
def cloning (src target : SubvolumeRef) : Cmd → Prop
  | .snapshotCreate sub _ | .snapshotRm sub _ => sub = src
  | .snapshotClone _ _ sub | .cloneStatus sub | .subvolumeRm sub | .subvolumeResize sub _ _ =>
      sub = target
  | .subvolumeCreate _ _ => False
  | _ => True

section Attempts

variable {src target : SubvolumeRef} {w : World} (hne : src ≠ target) {c : Cmd}
include hne

theorem Ready.put_source (h : Ready src target w) (x : Subvolume) :
    Ready src target (w.put src (some x)) :=
  ⟨by rw [put_self]; rfl, fun v hv => h.2 v (by rwa [put_of_ne hne.symm] at hv)⟩

theorem Ready.put_target (h : Ready src target w) {x : Option Subvolume}
    (hx : ∀ v, x = some v → v.snaps = [] ∧ v.clone.isSome) :
    Ready src target (w.put target x) :=
  ⟨by rw [put_of_ne hne]; exact h.1, fun v hv => hx v (by rwa [put_self] at hv)⟩

theorem Ready.perform (hc : cloning src target c) (h : Ready src target w) (said : CloneReply) :
    Ready src target (perform said c w).2 := by
  have hstill : c.still = true → Ready src target (Provision.perform said c w).2 := by
    intro hs
    rwa [perform_still hs]
  cases c with
  | subvolumeCreate sub size => exact hc.elim
  | snapshotCreate sub snap =>
    obtain rfl : sub = src := hc
    refine onSubvolume_state (P := Ready sub target) h fun v _ => ?_
    split_ifs
    · exact h
    · exact h.put_source hne _
  | snapshotRm sub snap =>
    obtain rfl : sub = src := hc
    exact onSubvolume_state (P := Ready sub target) h fun v _ => h.put_source hne _
  | snapshotClone sub snap target' =>
    obtain rfl : target' = target := hc
    refine onSubvolume_state (P := Ready src target') h fun v _ => ?_
    split
    · exact h
    · split_ifs
      · exact h
      · exact h.put_target hne fun v hv => by cases hv; exact ⟨rfl, rfl⟩
  | cloneStatus target' =>
    obtain rfl : target' = target := hc
    refine onSubvolume_state (P := Ready src target') h fun v hv => ?_
    split
    · exact h
    · exact h.put_target hne fun v' hv' => by cases hv'; exact ⟨(h.2 v hv).1, rfl⟩
    · exact h
  | subvolumeRm target' =>
    obtain rfl : target' = target := hc
    refine onSubvolume_state (P := Ready src target') h fun v _ => ?_
    split_ifs
    · exact h
    · exact h.put_target hne fun v hv => by cases hv
  | subvolumeResize target' size noShrink =>
    obtain rfl : target' = target := hc
    refine onSubvolume_state (P := Ready src target') h fun v hv => ?_
    split_ifs
    · exact h
    · exact h
    · exact h.put_target hne fun v' hv' => by cases hv'; exact h.2 v hv
  | _ => exact hstill rfl

theorem Ready.step (hc : cloning src target c) (h : Ready src target w) (o : Outcome) :
    Ready src target (step c o w).2 := by
  obtain hstep | hstep := step_state c o w
  · rwa [hstep]
  · rw [hstep]
    exact h.perform hne hc _

omit hne

theorem cloning_of_still (h : c.still = true) : cloning src target c := by
  cases c <;> trivial

variable {b : Backend} {req : CreateVolumeRequest} {cc : ClusterConfig} {vol : VolumeRef}

theorem createVolume_clone (h : Accepted b req cc vol target) :
    createVolume b req = (cephConn cc req.inst req.secrets).bind fun _ =>
      (ensureSubvolumeGroup cc.fsName target.group).bind fun _ =>
      (cloneFromVolume b cc.fsName vol target).bind fun _ =>
      (growClone req target).bind fun _ => finishCreate cc req target := by
  have hpopulate : populate b cc req target = cloneFromVolume b cc.fsName vol target := by
    unfold populate
    rw [h.snapshot, h.volume]
  rw [createVolume_eq h.cluster h.target, hpopulate]

theorem createVolume_cloning (h : Accepted b req cc vol target) :
    (createVolume b req).Uses (cloning (cc.subvolume vol) target) := by
  rw [createVolume_clone h]
  have hstill : ∀ c : Cmd, c.still = true → cloning (cc.subvolume vol) target c :=
    fun _ => cloning_of_still
  refine ((cephConn_uses _ _).mono hstill).bind fun _ => ?_
  refine ((ensureSubvolumeGroup_uses _ _).mono hstill).bind fun _ => ?_
  refine Uses.bind ?_ fun _ => Uses.bind ?_ fun _ =>
    (finishCreate_uses req).mono hstill
  · refine ask_uses rfl fun r => (orExists_uses r _).bind fun _ => ?_
    refine ask_uses rfl fun r => (orExists_uses r _).bind fun _ => ?_
    exact (waitClone_uses (by rfl) (by rfl) _).bind fun _ => ask_uses rfl fun _ => trivial
  · exact Uses.ite (ask_uses rfl fun r => orFail_uses r _) trivial

/-- The subvolumes after attempts with any outcomes, each of which may be cut short. -/
def afterAttempts (b : Backend) (req : CreateVolumeRequest) (earlier : List (List Outcome))
    (w : World) : World :=
  earlier.foldl (fun w os => (machine.exec () (createVolume b req) os w).2.1) w

theorem ready_afterAttempts (h : Accepted b req cc vol target)
    (hne : cc.subvolume vol ≠ target) (earlier : List (List Outcome))
    (hw : Ready (cc.subvolume vol) target w) :
    Ready (cc.subvolume vol) target (afterAttempts b req earlier w) := by
  induction earlier generalizing w with
  | nil => exact hw
  | cons os earlier ih =>
    exact ih (Machine.exec_keeps (createVolume_cloning h) hw
      (fun _ o _ hc ha => ha.step hne hc o) os).1

end Attempts

def Cmd.isLook : Cmd → Bool
  | .cloneStatus _ => true
  | _ => false

/-- The state of such an attempt: the subvolumes, and what the coming looks find a pending clone
to be. -/
abbrev Watched := World × List CloneState

def answerClean (taken : String) (c : Cmd) (s : Watched) : c.Reply × Watched :=
  let r := perform ⟨s.2.headD .inProgress, taken⟩ c s.1
  (r.1, r.2, if c.isLook then s.2.tail else s.2)

def attempt (taken : String) (b : Backend) (req : CreateVolumeRequest) (s : Watched) :
    Except Err CreateVolumeResponse × Watched :=
  (createVolume b req).eval (answerClean taken) s

/-- What the looks of one attempt, at most `n` after the first, find in the end. -/
def ending (n : ℕ) (looks : List CloneState) : CloneState :=
  ((looks.take (n + 1)).find? (· ≠ .inProgress)).getD .inProgress

/-- What is left of a target after an attempt has waited for it. -/
def leftover (v : Subvolume) : CloneState → Option Subvolume
  | .complete => some { v with clone := some .complete }
  | .inProgress => some { v with clone := some .inProgress }
  | .failed | .canceled => none

section Clean

variable {src target : SubvolumeRef} {w : World} {l : List CloneState} {v : Subvolume}
variable {x : CloneState} {taken : String}

/-- Waiting ends well exactly if the clone does, and touches the target only. -/
def Waited (target : SubvolumeRef) (e : CloneState) (v : Subvolume) (w : World)
    (r : Except Err Unit × Watched) : Prop :=
  (e = .complete → r.1 = .ok ()) ∧ (e ≠ .complete → ∃ err, r.1 = .error err) ∧
    r.2.1 = w.put target (leftover v e)

theorem put_put (x y : Option Subvolume) : (w.put target x).put target y = w.put target y := by
  simp [World.put]

theorem put_eq_self (hv : w.subvolumes target = some v) : w.put target (some v) = w := by
  simp [World.put, ← hv]

/-- What a look finds a clone in state `x` to be. -/
def seen (x : CloneState) (l : List CloneState) : CloneState :=
  if x = .inProgress then l.headD .inProgress else x

theorem answerClean_look (hv : w.subvolumes target = some v) (hx : v.clone = some x) :
    answerClean taken (.cloneStatus target) (w, l) =
      (.ok (seen x l), w.put target (some { v with clone := some (seen x l) }),
        l.tail) := by
  have hlook : performCloneStatus target (l.headD .inProgress) w =
      (.ok (seen x l), w.put target (some { v with clone := some (seen x l) })) := by
    have hself : x ≠ .inProgress → w.put target (some { v with clone := some x }) = w := by
      intro _
      rw [← hx]
      exact put_eq_self hv
    unfold performCloneStatus onSubvolume seen
    rw [hv]
    cases x with
    | inProgress => simp [hx]
    | complete => simp [hx, hself]
    | failed => simp [hx, hself]
    | canceled => simp [hx, hself]
  change ((performCloneStatus target (l.headD .inProgress) w).1, _, l.tail) = _
  rw [hlook]
  exact congrArg (fun r : _ × World => (Except.ok (seen x l), r.2, l.tail)) hlook

theorem leftover_clone (x : Option CloneState) (e : CloneState) :
    leftover { v with clone := x } e = leftover v e := by
  cases e <;> rfl

theorem pollClone_ended {next : Prog Unit} (hv : w.subvolumes target = some v)
    (hx : v.clone = some x) (hsnaps : v.snaps = []) (hend : seen x l ≠ .inProgress) :
    Waited target (seen x l) v w ((pollClone target next).eval (answerClean taken) (w, l)) := by
  have hrm : performRm target (w.put target (some { v with clone := some (seen x l) })) =
      (.ok (), w.put target none) := by
    simp [performRm, onSubvolume, hsnaps, put_put]
  unfold pollClone run
  rw [Program.bind_eq, eval_ask_bind, answerClean_look hv hx]
  generalize hp : seen x l = p at hend hrm
  cases p with
  | inProgress => exact absurd rfl hend
  | complete => exact ⟨fun _ => rfl, fun h => absurd rfl h, rfl⟩
  | failed => exact ⟨(fun h => by cases h), fun _ => ⟨_, rfl⟩, congrArg Prod.snd hrm⟩
  | canceled => exact ⟨(fun h => by cases h), fun _ => ⟨_, rfl⟩, congrArg Prod.snd hrm⟩

theorem pollClone_pending {next : Prog Unit} (hv : w.subvolumes target = some v)
    (hx : v.clone = some x) (hpending : seen x l = .inProgress) :
    (pollClone target next).eval (answerClean taken) (w, l) =
      next.eval (answerClean taken)
        (w.put target (some { v with clone := some .inProgress }), l.tail) := by
  unfold pollClone run
  rw [Program.bind_eq, eval_ask_bind, answerClean_look hv hx, hpending]
  rfl

theorem ending_succ (n : ℕ) :
    ending (n + 1) l =
      if l.headD .inProgress = .inProgress then ending n l.tail
      else l.headD .inProgress := by
  cases l with
  | nil => simp [ending]
  | cons y rest =>
    by_cases hl : y = .inProgress
    · simp [ending, hl]
    · simp [ending, hl]

theorem ending_zero : ending 0 l = l.headD .inProgress := by
  cases l with
  | nil => rfl
  | cons y rest =>
    by_cases hl : y = .inProgress
    · simp [ending, hl]
    · simp [ending, hl]

theorem waitClone_waited (n : ℕ) (hv : w.subvolumes target = some v) (hx : v.clone = some x)
    (hsnaps : v.snaps = []) :
    Waited target (if x = .inProgress then ending n l else x) v w
      ((waitClone target n).eval (answerClean taken) (w, l)) := by
  induction n generalizing w v x l with
  | zero =>
    have hseen : (if x = .inProgress then ending 0 l else x) = seen x l := by
      rw [ending_zero, seen]
    rw [hseen]
    by_cases hend : seen x l = .inProgress
    · rw [waitClone, pollClone_pending hv hx hend, hend]
      exact ⟨(fun h => by cases h), fun _ => ⟨_, rfl⟩, rfl⟩
    · exact pollClone_ended hv hx hsnaps hend
  | succ n ih =>
    by_cases hend : seen x l = .inProgress
    · have hx' : x = .inProgress := by
        by_contra hne
        rw [seen, if_neg hne] at hend
        exact hne hend
      subst hx'
      rw [seen, if_pos rfl] at hend
      have hrest := ih (w := w.put target (some { v with clone := some .inProgress }))
        (l := l.tail) (put_self _) rfl hsnaps
      rw [waitClone, pollClone_pending hv hx (by rw [seen, if_pos rfl, hend]), if_pos rfl,
        ending_succ, if_pos hend]
      rw [if_pos rfl, Waited, put_put, leftover_clone] at hrest
      exact hrest
    · have hseen : (if x = .inProgress then ending (n + 1) l else x) = seen x l := by
        rw [seen] at hend ⊢
        split_ifs at hend ⊢ with hx'
        · rw [ending_succ, if_neg hend]
        · rfl
      rw [hseen]
      exact pollClone_ended hv hx hsnaps hend

/-- The state in which an attempt starts to wait for its target: a target that is absent is
started. -/
def started (t : Option Subvolume) : CloneState := (t.bind Subvolume.clone).getD .inProgress

/-- What becomes of the target in an attempt. -/
def fate (n : ℕ) (l : List CloneState) (t : Option Subvolume) : CloneState :=
  if started t = .inProgress then ending n l else started t

theorem snapshotCreate_clean {u : Subvolume} (hu : w.subvolumes src = some u) (snap what : String) :
    ∃ r w₁, answerClean taken (.snapshotCreate src snap) (w, l) = (r, w₁, l) ∧
      orExists r what = .pure () ∧ (∀ t ≠ src, w₁.subvolumes t = w.subvolumes t) ∧
      hasSnap w₁ src snap := by
  have hperform : (performSnapshotCreate src snap w = (.error .alreadyExists, w) ∧
      (u.snaps.lookup snap).isSome) ∨ performSnapshotCreate src snap w =
        (.ok (), w.put src (some { u with snaps := (snap, u.quota) :: u.snaps })) := by
    unfold performSnapshotCreate onSubvolume
    rw [hu]
    dsimp only
    split_ifs with h
    · exact .inl ⟨rfl, h⟩
    · exact .inr rfl
  change ∃ r w₁, ((performSnapshotCreate src snap w).1, (performSnapshotCreate src snap w).2,
    l) = (r, w₁, l) ∧ _
  rcases hperform with ⟨h, hsnap⟩ | h
  · rw [h]
    exact ⟨_, _, rfl, rfl, fun _ _ => rfl, u, hu, hsnap⟩
  · rw [h]
    refine ⟨_, _, rfl, rfl, fun t ht => put_of_ne ht _, _, put_self _, ?_⟩
    simp

theorem snapshotClone_clean {snap : String} (htaken : isAlreadyExists taken = true)
    (hsnap : hasSnap w src snap)
    (htarget : ∀ v, w.subvolumes target = some v → v.snaps = [] ∧ v.clone.isSome)
    (what : String) :
    ∃ r w₁ v, answerClean taken (.snapshotClone src snap target) (w, l) = (r, w₁, l) ∧
      orExists r what = .pure () ∧ (∀ t ≠ target, w₁.subvolumes t = w.subvolumes t) ∧
      w₁.subvolumes target = some v ∧ v.snaps = [] ∧
      v.clone = some (started (w.subvolumes target)) := by
  obtain ⟨u, hu, hlookup⟩ := hsnap
  obtain ⟨quota, hquota⟩ := Option.isSome_iff_exists.mp hlookup
  change ∃ r w₁ v, ((performClone taken src snap target w).1,
    (performClone taken src snap target w).2, l) = (r, w₁, l) ∧ _
  cases hv : w.subvolumes target with
  | none =>
    have h : performClone taken src snap target w =
        (.ok (), w.put target (some ⟨quota, [], some .inProgress⟩)) := by
      simp [performClone, onSubvolume, hu, hquota, hv]
    rw [h]
    exact ⟨_, _, _, rfl, rfl, fun t ht => put_of_ne ht _, put_self _, rfl, rfl⟩
  | some v =>
    have h : performClone taken src snap target w = (.error .alreadyExists, w) := by
      simp [performClone, onSubvolume, hu, hquota, hv, refusal, htaken]
    obtain ⟨hsnaps, hclone⟩ := htarget v hv
    obtain ⟨x, hx⟩ := Option.isSome_iff_exists.mp hclone
    rw [h]
    exact ⟨_, _, v, rfl, rfl, fun _ _ => rfl, hv, hsnaps, by simp [started, hx]⟩

theorem not_hasSnap_snapshotRm (src : SubvolumeRef) (snap : String) (w : World) :
    ¬ hasSnap (performSnapshotRm src snap w).2 src snap := by
  rintro ⟨v, hv, hsome⟩
  rw [Snapshots.performSnapshotRm_subvolumes, if_pos rfl, Option.map_eq_some_iff] at hv
  obtain ⟨u, -, rfl⟩ := hv
  rw [Snapshots.lookup_filter_ne, if_pos rfl] at hsome
  cases hsome

/-- The target is a complete clone, and its temporary snapshot is gone. -/
def Done (src target : SubvolumeRef) (w : World) : Prop :=
  (∃ v, w.subvolumes target = some v ∧ v.clone = some .complete) ∧
    ¬ hasSnap w src (tmpClonePrefix ++ target.name)

/-- An attempt has succeeded, and its work is done. -/
def Converged (src target : SubvolumeRef) (r : Except Err CreateVolumeResponse × Watched) : Prop :=
  (∃ resp, r.1 = .ok resp) ∧ Done src target r.2.1

variable {b : Backend} {req : CreateVolumeRequest} {cc : ClusterConfig} {vol : VolumeRef}

theorem leftover_unfinished (v : Subvolume) {e : CloneState} (he : e ≠ .complete) :
    started (leftover v e) = .inProgress ∧ (e ≠ .inProgress → leftover v e = none) := by
  cases e with
  | complete => exact absurd rfl he
  | inProgress => exact ⟨rfl, fun h => absurd rfl h⟩
  | failed | canceled => exact ⟨rfl, fun _ => rfl⟩

theorem cloneFromVolume_clean (htaken : isAlreadyExists taken = true)
    (hne : cc.subvolume vol ≠ target) (hw : Ready (cc.subvolume vol) target w) :
    ∃ r w' l', (cloneFromVolume b cc.fsName vol target).eval (answerClean taken) (w, l) =
        (r, w', l') ∧
      (fate b.clonePolls l (w.subvolumes target) = .complete →
        r = .ok () ∧ Done (cc.subvolume vol) target w') ∧
      (fate b.clonePolls l (w.subvolumes target) ≠ .complete →
        (∃ err, r = .error err) ∧ Ready (cc.subvolume vol) target w' ∧
          started (w'.subvolumes target) = .inProgress ∧
          (fate b.clonePolls l (w.subvolumes target) ≠ .inProgress →
            w'.subvolumes target = none)) := by
  obtain ⟨hsrc, htarget⟩ := hw
  obtain ⟨u, hu⟩ := Option.isSome_iff_exists.mp hsrc
  obtain ⟨r₁, w₁, ha₁, ho₁, hsame₁, hsnap₁⟩ := snapshotCreate_clean (l := l) hu
    (tmpClonePrefix ++ target.name) ("cephfs: temp snapshot " ++ cc.fsName ++ "/" ++ vol.name ++
      "@" ++ (tmpClonePrefix ++ target.name))
  have htarget₁ : w₁.subvolumes target = w.subvolumes target := hsame₁ target hne.symm
  obtain ⟨r₂, w₂, v, ha₂, ho₂, hsame₂, hv, hsnaps, hclone⟩ := snapshotClone_clean
    (l := l) htaken hsnap₁ (fun v h => htarget v (htarget₁ ▸ h)) ("cephfs: clone " ++ cc.fsName ++
      "/" ++ vol.name ++ "@" ++ (tmpClonePrefix ++ target.name) ++ " -> " ++ target.name)
  rw [htarget₁] at hclone
  have heval : (cloneFromVolume b cc.fsName vol target).eval (answerClean taken) (w, l) =
      ((waitClone target b.clonePolls).bind fun _ =>
        (run (.snapshotRm (cc.subvolume vol) (tmpClonePrefix ++ target.name))).bind
          fun _ => .pure ()).eval (answerClean taken) (w₂, l) := by
    unfold cloneFromVolume run
    rw [Program.bind_eq, eval_ask_bind]
    change (Program.bind (orExists (answerClean taken (.snapshotCreate (cc.subvolume vol) _)
      (w, l)).1 _) _).eval _ (answerClean taken (.snapshotCreate (cc.subvolume vol) _) (w, l)).2 = _
    rw [ha₁, ho₁, Program.bind_pure, Program.bind_eq, eval_ask_bind]
    change (Program.bind (orExists (answerClean taken (.snapshotClone (cc.subvolume vol) _ target)
      (w₁, l)).1 _) _).eval _
        (answerClean taken (.snapshotClone (cc.subvolume vol) _ target) (w₁, l)).2 = _
    rw [ha₂, ho₂, Program.bind_pure]
    rfl
  have hwait : Waited target (fate b.clonePolls l (w.subvolumes target)) v w₂
      ((waitClone target b.clonePolls).eval (answerClean taken) (w₂, l)) :=
    waitClone_waited b.clonePolls hv hclone hsnaps
  generalize fate b.clonePolls l (w.subvolumes target) = e at hwait ⊢
  rw [heval, eval_bind]
  generalize (waitClone target b.clonePolls).eval (answerClean taken) (w₂, l) = x at hwait ⊢
  obtain ⟨r, w₃, l₃⟩ := x
  obtain ⟨hok, herror, rfl : w₃ = w₂.put target (leftover v e)⟩ := hwait
  have hsrc₃ : (w₂.put target (leftover v e)).subvolumes (cc.subvolume vol) =
      w₁.subvolumes (cc.subvolume vol) := (put_of_ne hne _).trans (hsame₂ _ hne)
  by_cases he : e = .complete
  · obtain rfl : r = .ok () := hok he
    subst he
    refine ⟨_, _, _, rfl, fun _ => ⟨rfl, ?_, ?_⟩, fun h => absurd rfl h⟩
    · refine ⟨{ v with clone := some .complete }, ?_, rfl⟩
      change (performSnapshotRm (cc.subvolume vol) _ _).2.subvolumes target = _
      rw [Snapshots.performSnapshotRm_subvolumes, if_neg hne.symm, put_self]
      rfl
    · exact not_hasSnap_snapshotRm _ _ _
  · obtain ⟨err, rfl : r = .error err⟩ := herror he
    refine ⟨_, _, _, rfl, fun h => absurd h he, fun _ => ⟨⟨err, rfl⟩, ⟨?_, ?_⟩, ?_, ?_⟩⟩
    · rw [hsrc₃]
      obtain ⟨u₁, hu₁, -⟩ := hsnap₁
      rw [hu₁]
      rfl
    · intro v' hv'
      rw [put_self] at hv'
      cases e <;> cases hv'
      · exact ⟨hsnaps, rfl⟩
      · exact ⟨hsnaps, rfl⟩
    · rw [put_self]
      exact (leftover_unfinished v he).1
    · rw [put_self]
      exact (leftover_unfinished v he).2

theorem answerClean_still {c : Cmd} (hc : c.still = true) :
    (answerClean taken c (w, l)).2 = (w, l) := by
  have hlook : c.isLook = false := by cases c <;> first | rfl | cases hc
  simp only [answerClean, perform_still hc, hlook]
  rfl

theorem setOwnerMetadata_clean (params : String → String) (keys : List (String × String)) :
    (setOwnerMetadata target params keys).eval (answerClean taken) (w, l) = (.ok (), w, l) := by
  induction keys with
  | nil => rfl
  | cons kv keys ih =>
    unfold setOwnerMetadata
    split_ifs
    · change ((setOwnerMetadata target params keys).eval (answerClean taken)
        (answerClean taken _ (w, l)).2) = _
      rw [answerClean_still rfl, ih]
    · exact ih

theorem growClone_clean (req : CreateVolumeRequest) (hv : w.subvolumes target = some v) :
    ∃ quota, (growClone req target).eval (answerClean taken) (w, l) =
      (.ok (), w.put target (some { v with quota := quota }), l) := by
  unfold growClone
  split_ifs with hgrow
  · have hresize : ∃ quota, performResize target req.capacityBytes true w =
        (.ok (), w.put target (some { v with quota := quota })) := by
      unfold performResize onSubvolume
      rw [hv]
      dsimp only
      rw [if_neg (Int.not_le.mpr hgrow.2)]
      split_ifs
      · exact ⟨v.quota, by rw [put_eq_self hv]⟩
      · exact ⟨_, rfl⟩
    obtain ⟨quota, h⟩ := hresize
    refine ⟨quota, ?_⟩
    change Program.eval (answerClean taken)
      (orFail (performResize target req.capacityBytes true w).1 _)
      ((performResize target req.capacityBytes true w).2, l) = _
    rw [h]
    rfl
  · exact ⟨v.quota, by rw [put_eq_self hv]; rfl⟩

theorem onTarget_clean {α : Type} (hv : w.subvolumes target = some v) (x : α) :
    onSubvolume w target (fun _ => (.ok x, w)) = (.ok x, w) := by
  rw [onSubvolume, hv]

theorem finishCreate_clean (hv : w.subvolumes target = some v)
    (hplain : req.parameters "encrypted" ≠ "true")
    (hexport : cc.mounter = .nfs → cc.nfsCluster ≠ "" ∧ cc.nfsServer ≠ "") :
    ∃ resp, (finishCreate cc req target).eval (answerClean taken) (w, l) = (.ok resp, w, l) := by
  obtain ⟨path, hpath⟩ : ∃ path, answerClean taken (.getpath target) (w, l) = (.ok path, w, l) := by
    refine ⟨"/volumes/" ++ target.group ++ "/" ++ target.name ++ "\n", ?_⟩
    change ((onSubvolume w target _).1, (onSubvolume w target _).2, l) = _
    rw [onTarget_clean hv]
    rfl
  have hpin : (applyPin target req.mutableParams).eval (answerClean taken) (w, l) =
      (.ok (), w, l) := by
    unfold applyPin
    split_ifs
    · rfl
    · change Program.eval (answerClean taken) (orFail (onSubvolume w target _).1 _)
        ((onSubvolume w target _).2, l) = _
      rw [onTarget_clean hv]
      rfl
  have hrecord : (recordEncryption req.parameters (metaSpec target)).eval (answerClean taken)
      (w, l) = (.ok (), w, l) := by
    unfold recordEncryption
    rw [if_pos hplain]
    rfl
  have hnfs : ∀ path, ∃ ctx, (exportContext cc target path).eval (answerClean taken) (w, l) =
      (.ok ctx, w, l) := by
    intro path
    unfold exportContext createNFSExport
    split_ifs with hm hno
    · rcases hno with h | h
      · exact absurd h (hexport hm).1
      · exact absurd h (hexport hm).2
    · exact ⟨_, rfl⟩
    · exact ⟨_, rfl⟩
  obtain ⟨ctx, hnfs⟩ := hnfs (Strings.trimSpace path)
  refine ⟨⟨cephfsLocation cc.fsName target.group, target.name, req.capacityBytes,
    [("path", Strings.trimSpace path)] ++ encryptionVolumeContext req.parameters ++ ctx⟩, ?_⟩
  unfold finishCreate run
  rw [Program.bind_eq, eval_ask_bind, hpath]
  exact (eval_bind_of (setOwnerMetadata_clean _ _)).trans
    ((eval_bind_of hpin).trans ((eval_bind_of hrecord).trans
      (eval_bind_of hnfs)))

theorem Accepted.plain (h : Accepted b req cc vol target) :
    req.parameters "encrypted" ≠ "true" := by
  intro hencrypted
  have htarget := h.target
  have hclone : req.isClone = true := by simp [CreateVolumeRequest.isClone, h.volume]
  unfold CreateVolumeRequest.target at htarget
  split at htarget
  · rename_i henc _ _ _
    unfold validateEncryptionParams at henc
    rw [if_neg (not_not.mpr hencrypted), hclone] at henc
    split_ifs at henc with _ _ _ htrue
    exact htrue rfl
  · cases htarget

theorem attempt_clean (htaken : isAlreadyExists taken = true) (h : Accepted b req cc vol target)
    (hne : cc.subvolume vol ≠ target) (hw : Ready (cc.subvolume vol) target w) :
    (fate b.clonePolls l (w.subvolumes target) = .complete →
      Converged (cc.subvolume vol) target (attempt taken b req (w, l))) ∧
    (fate b.clonePolls l (w.subvolumes target) ≠ .complete →
      Ready (cc.subvolume vol) target (attempt taken b req (w, l)).2.1 ∧
        started ((attempt taken b req (w, l)).2.1.subvolumes target) = .inProgress ∧
        (fate b.clonePolls l (w.subvolumes target) ≠ .inProgress →
          (attempt taken b req (w, l)).2.1.subvolumes target = none)) := by
  have hgroup : (ensureSubvolumeGroup cc.fsName target.group).eval (answerClean taken) (w, l) =
      (.ok (), w, l) := by
    unfold ensureSubvolumeGroup
    split_ifs <;> rfl
  obtain ⟨r, w', l', heval, hgood, hbad⟩ := cloneFromVolume_clean (b := b) (l := l) htaken hne hw
  have hattempt : attempt taken b req (w, l) = Program.resume (answerClean taken) (fun _ =>
      (growClone req target).bind fun _ => finishCreate cc req target) (r, w', l') := by
    rw [attempt, createVolume_clone h, ← heval, ← eval_bind]
    exact (eval_bind_of rfl).trans (eval_bind_of hgroup)
  constructor
  · intro hfate
    obtain ⟨rfl, ⟨v, hv, hcomplete⟩, hgone⟩ := hgood hfate
    obtain ⟨quota, hgrow⟩ := growClone_clean (l := l') req hv
    obtain ⟨resp, hfinish⟩ := finishCreate_clean (l := l') (put_self (w := w') _) h.plain h.exported
    rw [hattempt, Program.resume_ok, eval_bind_of hgrow, hfinish]
    refine ⟨⟨resp, rfl⟩, ⟨_, put_self _, hcomplete⟩, ?_⟩
    rintro ⟨u, hu, hsnap⟩
    exact hgone ⟨u, by rwa [put_of_ne hne] at hu, hsnap⟩
  · intro hfate
    obtain ⟨⟨err, rfl⟩, hrest⟩ := hbad hfate
    rw [hattempt, Program.resume_error]
    exact hrest

/-- What the environment grants two attempts that start from `w`, with what they see of a clone: a
clone that one of them starts completes while it waits, and a clone that is pending at the start
ends while the first one waits or completes while the second one does. -/
structure Granted (taken : String) (b : Backend) (req : CreateVolumeRequest)
    (target : SubvolumeRef) (w : World) (looks looks' : List CloneState) : Prop where
  started : w.subvolumes target = none → ending b.clonePolls looks = .complete
  pending : (w.subvolumes target).bind Subvolume.clone = some .inProgress →
    ending b.clonePolls looks ≠ .inProgress ∨ ending b.clonePolls looks' = .complete
  again : (attempt taken b req (w, looks)).2.1.subvolumes target = none →
    ending b.clonePolls looks' = .complete

theorem two_attempts (htaken : isAlreadyExists taken = true) (h : Accepted b req cc vol target)
    (hne : cc.subvolume vol ≠ target) (hw : Ready (cc.subvolume vol) target w)
    {l' : List CloneState} (hgrant : Granted taken b req target w l l') :
    Converged (cc.subvolume vol) target (attempt taken b req (w, l)) ∨
      Converged (cc.subvolume vol) target
        (attempt taken b req ((attempt taken b req (w, l)).2.1, l')) := by
  obtain ⟨hgood, hbad⟩ := attempt_clean htaken h hne hw (l := l)
  by_cases hfate : fate b.clonePolls l (w.subvolumes target) = .complete
  · exact .inl (hgood hfate)
  obtain ⟨hready, hfresh, hgone⟩ := hbad hfate
  refine .inr ((attempt_clean htaken h hne hready).1 ?_)
  rw [fate, if_pos hfresh]
  by_cases hstuck : fate b.clonePolls l (w.subvolumes target) = .inProgress
  · -- the first attempt has waited in vain, for a clone that it did not start
    have hending : ending b.clonePolls l = .inProgress := by
      rw [fate] at hstuck
      split_ifs at hstuck with hx
      · exact hstuck
      · exact absurd hstuck hx
    have hx : started (w.subvolumes target) = .inProgress := by
      by_contra hx
      rw [fate, if_neg hx] at hstuck
      exact hx hstuck
    cases hv : w.subvolumes target with
    | none => cases hending.symm.trans (hgrant.started hv)
    | some v =>
      obtain ⟨x, hclone⟩ := Option.isSome_iff_exists.mp (hw.2 v hv).2
      have hsome : (w.subvolumes target).bind Subvolume.clone = some .inProgress := by
        rw [hv, started, Option.bind_some, hclone, Option.getD_some] at hx
        rw [hv, Option.bind_some, hclone, hx]
      exact (hgrant.pending hsome).resolve_left (not_not.mpr hending)
  · exact hgrant.again (hgone hstuck)

/-- A create that clones a volume converges, if the plugin can tell that Ceph refuses a clone for
a target that is there. After earlier attempts with any outcomes, each cut short anywhere, one of
two attempts in which every command succeeds has a complete target and no temporary snapshot in
the end. -/
theorem clone_converges (taken : String) (htaken : isAlreadyExists taken = true)
    (h : Accepted b req cc vol target) {w₀ : World}
    (hsrc : (w₀.subvolumes (cc.subvolume vol)).isSome) (hnew : w₀.subvolumes target = none)
    (earlier : List (List Outcome)) (looks looks' : List CloneState)
    (hgrant : Granted taken b req target (afterAttempts b req earlier w₀) looks looks') :
    Converged (cc.subvolume vol) target
        (attempt taken b req (afterAttempts b req earlier w₀, looks)) ∨
      Converged (cc.subvolume vol) target (attempt taken b req
        ((attempt taken b req (afterAttempts b req earlier w₀, looks)).2.1, looks')) := by
  have hne : cc.subvolume vol ≠ target := by
    intro heq
    rw [heq, hnew] at hsrc
    cases hsrc
  refine two_attempts htaken h hne (ready_afterAttempts h hne earlier ⟨hsrc, fun v hv => ?_⟩) hgrant
  rw [hnew] at hv
  cases hv

end Clean

section Example

open Snapshots (demoBackend createRequest dataVolume)

/-- A request for a copy of a volume. -/
def copyRequest : CreateVolumeRequest :=
  { createRequest "copy-of" "" none with sourceVolume := some dataVolume }

def copyTarget : SubvolumeRef := ⟨"cephfs", "csi", "bard-0000000000000007"⟩

def copyCluster : ClusterConfig :=
  { fsName := "cephfs", userID := "", mounter := .kernel, nfsCluster := "", nfsServer := "",
    subvolumeGroup := "" }

theorem copyRequest_accepted :
    Accepted demoBackend copyRequest copyCluster dataVolume copyTarget where
  cluster := rfl
  target := by decide +kernel
  snapshot := rfl
  volume := rfl
  exported h := by cases h

def sourceOnly : World :=
  ⟨fun sub => if sub = copyCluster.subvolume dataVolume then some ⟨1, [], none⟩ else none⟩

/-- An attempt is cut short after it has started the clone, the next one finds that the clone has
failed, and the one after it succeeds. -/
theorem clone_converges_failed :
    let w := afterAttempts demoBackend copyRequest [List.replicate 4 .ok] sourceOnly
    Converged (copyCluster.subvolume dataVolume) copyTarget
        (attempt "file exists" demoBackend copyRequest (w, [.failed])) ∨
      Converged (copyCluster.subvolume dataVolume) copyTarget
        (attempt "file exists" demoBackend copyRequest
          ((attempt "file exists" demoBackend copyRequest (w, [.failed])).2.1, [.complete])) := by
  refine clone_converges "file exists" (by decide +kernel) copyRequest_accepted
    (by decide +kernel) (by decide +kernel) [List.replicate 4 .ok] [.failed] [.complete]
    ⟨fun h => absurd h (by decide +kernel), ?_, ?_⟩
  · exact fun _ => .inl (by decide)
  · exact fun _ => by decide

def targetExists : String := "Error EEXIST: subvolume 'bard-0000000000000007' exists"

/-- An attempt is cut short once its clone is complete. The refusal to clone again does not say
that something already exists, so the attempts that follow fail. -/
theorem taken_target_never_met :
    let w := afterAttempts demoBackend copyRequest [List.replicate 5 .ok] sourceOnly
    let first := attempt targetExists demoBackend copyRequest (w, [])
    let second := attempt targetExists demoBackend copyRequest (first.2.1, [])
    isAlreadyExists targetExists = false ∧
      (w.subvolumes copyTarget).bind Subvolume.clone = some .complete ∧
      first.1.toOption = none ∧ second.1.toOption = none ∧
      (second.2.1.subvolumes (copyCluster.subvolume dataVolume)).map
        (fun v => v.snaps.map Prod.fst) = some ["clonetmp-bard-0000000000000007"] := by
  decide +kernel

end Example

end BardCsi.Cephfs.Provision
