import BardCsi.Nfs.Containment
import BardCsi.Nfs.Snapshots

/-!
What becomes of the archive of a snapshot. A call touches the two files of its own snapshot on
its own export and no other, so an archive stays as it is as long as the snapshot is neither
asked for again nor deleted, and no user has a directory that the archive lies in and writes to
it. If the snapshot is asked for again, the archive is written again.
-/
namespace BardCsi.Nfs

open Effect Effect.Program

section Files

variable {b : Backend} {s t : String}

theorem names_joinPath_snapDir (h : Plain s) :
    Path.names (joinPath snapDir s).toList = [snapDir.toList, s.toList] := by
  rw [names_joinPath_plain (by decide) h]
  rfl

theorem joinPath_snapDir_inj (hs : Plain s) (ht : Plain t)
    (h : joinPath snapDir s = joinPath snapDir t) : s = t := by
  have hnames := names_joinPath_snapDir hs
  rw [h, names_joinPath_snapDir ht] at hnames
  simp only [List.cons.injEq, and_true, true_and] at hnames
  exact String.toList_inj.mp hnames.symm

theorem plain_snapName {suffix : String} (h : '/' ∉ suffix.toList) (csiName : String) :
    Plain (snapName b csiName ++ suffix) := by
  have hlist : (snapName b csiName ++ suffix).toList =
      's' :: 'n' :: 'a' :: 'p' :: '-' :: (hex (b.sum csiName) ++ suffix.toList) := by
    simp [snapName, digestName]
  refine ⟨?_, ?_, ?_⟩
  · rw [hlist]
    simp [slash_notMem_hex, h]
  · rw [hlist]
    rfl
  · rw [hlist]
    intro hdots
    cases hdots

theorem snapArchive_inj {csiName csiName' : String}
    (h : snapArchive (snapName b csiName) = snapArchive (snapName b csiName')) :
    snapName b csiName = snapName b csiName' := by
  have heq := joinPath_snapDir_inj (plain_snapName (by decide) _) (plain_snapName (by decide) _) h
  exact (String.append_left_inj _).mp heq

theorem snapSrcFile_ne_snapArchive (csiName csiName' : String) :
    snapSrcFile (snapName b csiName) ≠ snapArchive (snapName b csiName') := by
  intro h
  have heq := joinPath_snapDir_inj (plain_snapName (by decide) _) (plain_snapName (by decide) _) h
  have hlast := congrArg (fun s : String => s.toList.getLast?) heq
  simp at hlast

end Files

section Frame

open Snapshot

variable {α : Type} {E : SnapEnv} {b : Backend} {e e' : Export} {file : String}
variable {x : Option String} {w : SnapWorld} {tmp : TempDir}

/-- The file has the content `x`. -/
def Holds (e : Export) (file : String) (x : Option String) (w : SnapWorld) : Prop :=
  w.files e file = x

theorem answerHost_files (c : NfsCmd) : (E.answerHost c w).2.files = w.files := by
  cases c with
  | mount e tmp =>
    rw [SnapEnv.answerHost]
    split_ifs <;> rfl
  | umount tmp =>
    rw [SnapEnv.answerHost]
    split_ifs <;> rfl
  | _ => rfl

theorem host_uses (p : NfsProg α) : (host p).Uses fun c => ∃ c', c = .host c' := by
  induction p with
  | pure a => trivial
  | fail e => trivial
  | request c k ih => exact ⟨⟨c, rfl⟩, ih⟩

theorem host_keeps (p : NfsProg α) : (host p).Keeps E.answer (Holds e file x) := by
  refine (host_uses p).keeps ?_
  rintro _ s ⟨c, rfl⟩ hs
  change (E.answerHost c s).2.files e file = x
  rw [answerHost_files]
  exact hs

theorem setFile_mounted (y : Option String) : (w.setFile tmp file y).mounted = w.mounted := by
  unfold SnapWorld.setFile
  split <;> rfl

theorem write_mounted (c : SnapCmd) (y : Option String) :
    (E.write c tmp file y w).mounted = w.mounted := by
  unfold SnapEnv.write
  split
  · exact setFile_mounted _
  · exact setFile_mounted _
  · rfl

theorem exportAt_mounted (hm : w.mounted = some (tmp, e)) : w.exportAt tmp = some e := by
  rw [SnapWorld.exportAt, hm]
  exact if_pos rfl

theorem setFile_files (hm : w.mounted = some (tmp, e)) (y : Option String) :
    (w.setFile tmp file y).files e file = y := by
  rw [SnapWorld.setFile, exportAt_mounted hm]
  change Function.update w.files e _ e file = y
  rw [Function.update_self, Function.update_self]

theorem write_files {file' : String} (c : SnapCmd) (y : Option String)
    (hm : w.mounted = some (tmp, e')) (hne : ¬(e' = e ∧ file' = file)) :
    (E.write c tmp file' y w).files e file = w.files e file := by
  have hset : ∀ z, (w.setFile tmp file' z).files e file = w.files e file := by
    intro z
    rw [SnapWorld.setFile, exportAt_mounted hm]
    by_cases he : e' = e
    · subst he
      change Function.update w.files e' _ e' file = _
      rw [Function.update_self, Function.update_of_ne fun h => hne ⟨rfl, h.symm⟩]
    · change Function.update w.files e' _ e file = _
      rw [Function.update_of_ne fun h => he h.symm]
  unfold SnapEnv.write
  split
  · exact hset _
  · exact hset _
  · rfl

/-- A request that leaves the file alone, made where the export `e'` is mounted at `tmp`. -/
def SnapCmd.Spares (e : Export) (file : String) (e' : Export) (tmp : TempDir) : SnapCmd → Prop
  | .host (.mkdirAll _) | .readFile _ _ | .stat _ _ => True
  | .tarCreate mnt f _ | .writeFile mnt f _ | .remove mnt f => mnt = tmp ∧ ¬(e' = e ∧ f = file)
  | _ => False

theorem spares_keeps {p : SnapProg α} (hp : p.Uses (SnapCmd.Spares e file e' tmp)) :
    p.Keeps E.answer fun w => w.mounted = some (tmp, e') ∧ Holds e file x w := by
  refine hp.keeps fun c s hc ⟨hm, hx⟩ => ?_
  have hwrite : ∀ {c : SnapCmd} {f : String} (y : Option String), ¬(e' = e ∧ f = file) →
      (E.write c tmp f y s).mounted = some (tmp, e') ∧ Holds e file x (E.write c tmp f y s) :=
    fun y hne => ⟨(write_mounted _ _).trans hm, (write_files _ _ hm hne).trans hx⟩
  cases c with
  | host c =>
    cases c with
    | mkdirAll dir => exact ⟨hm, hx⟩
    | _ => cases hc
  | readFile mnt f =>
    rw [SnapEnv.answer]
    split <;> exact ⟨hm, hx⟩
  | stat mnt f =>
    rw [SnapEnv.answer]
    split <;> exact ⟨hm, hx⟩
  | tarCreate mnt f dir =>
    obtain ⟨rfl, hne⟩ := hc
    exact hwrite _ hne
  | writeFile mnt f data =>
    obtain ⟨rfl, hne⟩ := hc
    exact hwrite _ hne
  | remove mnt f =>
    obtain ⟨rfl, hne⟩ := hc
    exact hwrite _ hne

theorem answer_mount (h : E.exit (.host (.mount e' tmp)) = none) :
    E.answer (.host (.mount e' tmp)) w = (.ok (), { w with mounted := some (tmp, e') }) := by
  rw [SnapEnv.answer, SnapEnv.answerHost, SnapEnv.result, h]
  rfl

theorem answer_mount_error {err : OsError} (h : E.exit (.host (.mount e' tmp)) = some err) :
    E.answer (.host (.mount e' tmp)) w = (.error err, w) := by
  rw [SnapEnv.answer, SnapEnv.answerHost, SnapEnv.result, h]
  rfl

/-- The end of a call whose body ended with `r`. -/
def unmountAfter (tmp : TempDir) (r : Except Err α) : SnapProg α := do
  host (unmountExport tmp (r.map fun _ => ()))
  match r with
  | .ok a => return a
  | .error e => .fail e

theorem unmountAfter_keeps (r : Except Err α) :
    (unmountAfter tmp r).Keeps E.answer (Holds e file x) := by
  refine (host_keeps _).bind fun _ => ?_
  cases r with
  | ok a => exact Keeps.pure a
  | error e => exact Keeps.fail e

theorem withExportMounted_keeps_file {ic : InstanceConfig} {fn : TempDir → SnapProg α}
    (hfn : ∀ tmp, (fn tmp).Uses (SnapCmd.Spares e file ⟨ic.server, ic.exported⟩ tmp)) :
    (Snapshot.withExportMounted ic fn).Keeps E.answer (Holds e file x) := by
  refine (host_keeps _).bind fun tmp => ?_
  intro w hw
  rcases hexit : E.exit (.host (.mount ⟨ic.server, ic.exported⟩ tmp)) with _ | err
  · refine holds_after_ask (answer_mount hexit) ?_
    have hbody := spares_keeps (hfn tmp) (E := E) (x := x)
      { w with mounted := some (tmp, ⟨ic.server, ic.exported⟩) } ⟨rfl, hw⟩
    change Holds e file x (Program.eval _ ((fn tmp).attempt.bind _) _).2
    rw [eval_bind, eval_attempt, resume_ok]
    exact unmountAfter_keeps _ _ hbody.2
  · exact holds_after_ask (answer_mount_error hexit) hw

theorem lookup_some {inst : String} {ic : InstanceConfig} (h : b.instances inst = some ic) :
    lookup b inst = .pure ic := by
  rw [lookup, h]
  rfl

theorem host_orFail_uses {allowed : SnapCmd → Prop} (r : Except OsError α) (what : List Text) :
    (host (orFail r what)).Uses allowed := by
  cases r with
  | ok a => trivial
  | error e => trivial

theorem checkSource_uses {allowed : SnapCmd → Prop} (req : CreateSnapshotRequest)
    (data : Except OsError String) : (checkSource req data).Uses allowed := by
  cases data with
  | error e => trivial
  | ok text => exact Uses.ite trivial trivial

theorem writeArchive_spares {req : CreateSnapshotRequest} {snapID : String}
    (harchive : ¬(e' = e ∧ snapArchive snapID = file))
    (hsrc : ¬(e' = e ∧ snapSrcFile snapID = file)) :
    (writeArchive req snapID tmp).Uses (SnapCmd.Spares e file e' tmp) := by
  refine ⟨trivial, fun made => (host_orFail_uses made _).bind fun _ => ⟨trivial, fun data => ?_⟩⟩
  refine (checkSource_uses req data).bind fun _ => ⟨⟨rfl, harchive⟩, fun archived => ?_⟩
  refine (host_orFail_uses archived _).bind fun _ => ⟨⟨rfl, hsrc⟩, fun _ => ⟨trivial, ?_⟩⟩
  rintro (err | n) <;> trivial

theorem createSnapshot_keeps_file {req : CreateSnapshotRequest}
    (h : ∀ ic, b.instances req.sourceVolume.inst = some ic → ⟨ic.server, ic.exported⟩ = e →
      snapArchive (snapName b req.name) ≠ file ∧ snapSrcFile (snapName b req.name) ≠ file) :
    (createSnapshot b req).Keeps E.answer (Holds e file x) := by
  unfold createSnapshot
  rcases hic : b.instances req.sourceVolume.inst with _ | ic
  · rw [lookup, hic]
    exact Keeps.fail _
  · rw [lookup_some hic]
    change (((Snapshot.withExportMounted ic _).bind _).Keeps _ _)
    refine (withExportMounted_keeps_file fun tmp => ?_).bind fun _ => Keeps.pure _
    exact writeArchive_spares (fun hbad => (h ic hic hbad.1).1 hbad.2)
      fun hbad => (h ic hic hbad.1).2 hbad.2

theorem deleteSnapshot_keeps_file {snapshot : VolumeRef}
    (h : ∀ ic, b.instances snapshot.inst = some ic → ⟨ic.server, ic.exported⟩ = e →
      snapArchive snapshot.name ≠ file ∧ snapSrcFile snapshot.name ≠ file) :
    (deleteSnapshot b snapshot).Keeps E.answer (Holds e file x) := by
  unfold deleteSnapshot
  rcases hic : b.instances snapshot.inst with _ | ic
  · rw [lookup, hic]
    exact Keeps.fail _
  · rw [lookup_some hic]
    change ((Snapshot.withExportMounted ic _).Keeps _ _)
    refine withExportMounted_keeps_file fun tmp => ?_
    exact ⟨⟨rfl, fun hbad => (h ic hic hbad.1).2 hbad.2⟩, fun _ =>
      ⟨⟨rfl, fun hbad => (h ic hic hbad.1).1 hbad.2⟩, fun removed => host_orFail_uses removed _⟩⟩

end Frame

section Written

open Snapshot

variable {α : Type} {E : SnapEnv} {b : Backend} {w w' : SnapWorld} {tmp : TempDir}
variable {ic : InstanceConfig} {req : CreateSnapshotRequest} {e : Export}

/-- The export of an instance. -/
def InstanceConfig.export (ic : InstanceConfig) : Export := ⟨ic.server, ic.exported⟩

theorem tempDir_eval {s : SnapWorld}
    (h : (host do
      let made : Except OsError TempDir ← Nfs.run .mkdirTemp
      orFail made []).eval E.answer w = (.ok tmp, s)) : s = w := by
  change (host (orFail E.tempDir [])).eval E.answer w = _ at h
  rcases hd : E.tempDir with err | dir
  · rw [hd] at h
    cases h
  · rw [hd] at h
    cases h
    rfl

theorem withExportMounted_ok {fn : TempDir → SnapProg α} {a : α}
    (h : (Snapshot.withExportMounted ic fn).eval E.answer w = (.ok a, w')) :
    ∃ tmp m, (fn tmp).eval E.answer { w with mounted := some (tmp, ic.export) } = (.ok a, m) ∧
      ∀ e file, w'.files e file = m.files e file := by
  obtain ⟨tmp, s, htmp, hrest⟩ := eval_bind_ok h
  obtain rfl := tempDir_eval htmp
  rcases hexit : E.exit (.host (.mount ic.export tmp)) with _ | err
  · have hmounted := eval_after_ask hrest (answer_mount hexit)
    change Program.eval _ ((fn tmp).attempt.bind (unmountAfter tmp)) _ = _ at hmounted
    rw [eval_bind, eval_attempt, resume_ok] at hmounted
    rcases hbody : (fn tmp).eval E.answer
      { s with mounted := some (tmp, ⟨ic.server, ic.exported⟩) } with ⟨r, m⟩
    rw [hbody] at hmounted
    refine ⟨tmp, m, ?_, fun e file => ?_⟩
    · obtain ⟨_, _, _, hend⟩ := eval_bind_ok hmounted
      cases r with
      | ok a' =>
        cases hend
        exact hbody
      | error e => cases hend
    · exact (unmountAfter_keeps r).left (P := Holds e file (m.files e file)) rfl hmounted
  · cases eval_after_ask hrest (answer_mount_error hexit)

theorem write_of_ok {c : SnapCmd} {file : String} {y : Option String}
    (hm : w.mounted = some (tmp, e)) (h : E.exit c = none) :
    (E.write c tmp file y w).files e file = y := by
  rw [SnapEnv.write, h]
  exact setFile_files hm y

theorem orFail_eval {r : Except OsError α} {what : List Text} {a : α} {m : SnapWorld}
    (h : (host (orFail r what)).eval E.answer w = (.ok a, m)) : r = .ok a ∧ m = w := by
  cases r with
  | ok a' =>
    cases h
    exact ⟨rfl, rfl⟩
  | error e => cases h

theorem checkSource_eval {data : Except OsError String} {m : SnapWorld}
    (h : (checkSource req data).eval E.answer w = (.ok (), m)) : m = w := by
  have hnone : (checkSource req data).Uses fun _ => False := checkSource_uses req data
  exact (hnone.keeps fun _ _ hno => hno.elim).left (P := fun v => v = w) rfl h

theorem answer_readFile (mnt : TempDir) (file : String) :
    ∃ data, E.answer (.readFile mnt file) w = (data, w) := by
  rw [SnapEnv.answer]
  split <;> exact ⟨_, rfl⟩

theorem contentAt_mounted (hm : w.mounted = some (tmp, e)) (dir : String) :
    w.contentAt tmp dir = w.below e dir := by
  funext p
  rw [SnapWorld.contentAt, exportAt_mounted hm, Option.bind_some]

theorem exit_of_result {c : SnapCmd} {u : Unit} (h : E.result c = .ok u) : E.exit c = none := by
  unfold SnapEnv.result at h
  split at h
  · assumption
  · cases h

theorem archive_kept (b : Backend) (req : CreateSnapshotRequest) (csiName : String) :
    (do
      let _ : Except OsError Unit ←
        Snapshot.run (.writeFile tmp (snapSrcFile (snapName b csiName)) req.sourceVolume.name)
      let size : Except OsError ℤ ← Snapshot.run (.stat tmp (snapArchive (snapName b csiName)))
      match size with
      | .ok n => return n
      | .error _ => return 0 : SnapProg ℤ).Uses
        (SnapCmd.Spares e (snapArchive (snapName b csiName)) e tmp) := by
  refine ⟨⟨rfl, fun h => snapSrcFile_ne_snapArchive _ _ h.2⟩, fun _ => ⟨trivial, ?_⟩⟩
  rintro (err | n) <;> trivial

theorem writeArchive_ok {csiName : String} {n : ℤ} (hm : w.mounted = some (tmp, e))
    (h : (writeArchive req (snapName b csiName) tmp).eval E.answer w = (.ok n, w')) :
    w'.files e (snapArchive (snapName b csiName)) =
      some (E.pack (w.below e req.sourceVolume.name)) := by
  have hdir := eval_after_ask h rfl
  obtain ⟨_, m, hmade, hread⟩ := eval_bind_ok hdir
  obtain ⟨_, rfl⟩ := orFail_eval hmade
  obtain ⟨data, hdata⟩ := answer_readFile (E := E) (w := m) tmp (snapSrcFile (snapName b csiName))
  obtain ⟨_, v, hchecked, htar⟩ := eval_bind_ok (eval_after_ask hread hdata)
  obtain rfl := checkSource_eval hchecked
  obtain ⟨_, u, hwritten, hend⟩ := eval_bind_ok (eval_after_ask htar rfl)
  obtain ⟨hresult, rfl⟩ := orFail_eval hwritten
  have hkeep := (spares_keeps (archive_kept b req csiName)).left ⟨(write_mounted _ _).trans hm,
    (write_of_ok hm (exit_of_result hresult)).trans
      (congrArg (fun fs => some (E.pack fs)) (contentAt_mounted hm req.sourceVolume.name))⟩ hend
  exact hkeep.2

theorem createSnapshot_ok {resp : CreateSnapshotResponse}
    (h : (createSnapshot b req).eval E.answer w = (.ok resp, w')) :
    resp.name = snapName b req.name ∧ ∃ ic, b.instances req.sourceVolume.inst = some ic ∧
      resp.location = ic.exported ∧
      w'.files ic.export (snapArchive resp.name) =
        some (E.pack (w.below ic.export req.sourceVolume.name)) := by
  unfold createSnapshot at h
  rcases hic : b.instances req.sourceVolume.inst with _ | ic
  · rw [lookup, hic] at h
    cases h
  · rw [lookup_some hic] at h
    change Program.eval _ ((Snapshot.withExportMounted ic _).bind _) w = _ at h
    obtain ⟨n, m, hbody, hend⟩ := eval_bind_ok h
    cases hend
    obtain ⟨tmp, v, hwritten, hfiles⟩ := withExportMounted_ok hbody
    refine ⟨rfl, ic, rfl, rfl, ?_⟩
    rw [hfiles]
    have harchive := writeArchive_ok rfl hwritten
    exact harchive

/-- The temporary directory of the environments below. -/
def someDir : TempDir := ⟨"/tmp/bard-nfs", by decide⟩

/-- Everything works, but the second file of the snapshot cannot be read and the archive is cut
short, with the content `y`. -/
def cutShort (y : Option String) : SnapEnv where
  tempDir := .ok someDir
  exit
    | .readFile _ _ => some ⟨false, "input/output error"⟩
    | .tarCreate _ _ _ => some ⟨false, "exit status 1"⟩
    | _ => none
  left
    | .tarCreate _ _ _ => some y
    | _ => none
  size := 0
  pack _ := ""
  written := y

theorem createSnapshot_cutShort (hic : b.instances req.sourceVolume.inst = some ic)
    (y : Option String) :
    ((createSnapshot b req).eval (cutShort y).answer w).2.files ic.export
      (snapArchive (snapName b req.name)) = y := by
  have hrun : ((createSnapshot b req).eval (cutShort y).answer w).2.files =
      ({ w with mounted := some (someDir, ic.export) }.setFile someDir
        (snapArchive (snapName b req.name)) y).files := by
    unfold createSnapshot
    rw [lookup_some hic]
    rfl
  rw [hrun]
  exact setFile_files rfl y

end Written

/-- A call for a snapshot, or a write of a user to a file below their directory. -/
inductive SnapMove where
  | create (req : CreateSnapshotRequest)
  | delete (snapshot : VolumeRef)
  | write (e : Export) (dir file : String)

namespace SnapMove

def step (b : Backend) (E : SnapEnv) (w : SnapWorld) : SnapMove → SnapWorld
  | .create req => ((Snapshot.createSnapshot b req).eval E.answer w).2
  | .delete snapshot => ((Snapshot.deleteSnapshot b snapshot).eval E.answer w).2
  | .write e dir file =>
      let files := Function.update (w.files e) (fileBelow dir file) E.written
      { w with files := Function.update w.files e files }

/-- The world after some moves, each in its environment. -/
def after (b : Backend) (run : List (SnapMove × SnapEnv)) (w : SnapWorld) : SnapWorld :=
  run.foldl (fun w m => m.1.step b m.2 w) w

/-- A request for the snapshot of that name on the export, or a write of a user to its archive. -/
def Rewrites (b : Backend) (e : Export) (name : String) : SnapMove → Prop
  | .create req => (b.instances req.sourceVolume.inst).map InstanceConfig.export = some e ∧
      snapName b req.name = name
  | .write e' dir file => e' = e ∧ fileBelow dir file = snapArchive name
  | .delete _ => False

/-- A request to delete the snapshot, or one whose files include the archive. -/
def Deletes (b : Backend) (e : Export) (name : String) : SnapMove → Prop
  | .delete snapshot => (b.instances snapshot.inst).map InstanceConfig.export = some e ∧
      (snapArchive snapshot.name = snapArchive name ∨
        snapSrcFile snapshot.name = snapArchive name)
  | _ => False

variable {b : Backend} {e : Export} {csiName : String} {x : Option String} {w : SnapWorld}

theorem step_keeps_archive {m : SnapMove} {E : SnapEnv}
    (hreq : ¬m.Rewrites b e (snapName b csiName)) (hdel : ¬m.Deletes b e (snapName b csiName))
    (h : Holds e (snapArchive (snapName b csiName)) x w) :
    Holds e (snapArchive (snapName b csiName)) x (m.step b E w) := by
  cases m with
  | create req =>
    refine createSnapshot_keeps_file (fun ic hic he => ?_) w h
    refine ⟨fun hfile => hreq ?_, snapSrcFile_ne_snapArchive _ _⟩
    rw [Rewrites, hic]
    exact ⟨congrArg some he, snapArchive_inj hfile⟩
  | delete snapshot =>
    refine deleteSnapshot_keeps_file (fun ic hic he => ?_) w h
    rw [Deletes, hic] at hdel
    exact not_or.mp fun hfile => hdel ⟨congrArg some he, hfile⟩
  | write e' dir file =>
    by_cases he : e' = e
    · subst he
      change Function.update w.files e' _ e' _ = x
      rw [Function.update_self, Function.update_of_ne fun hfile => hreq ⟨rfl, hfile.symm⟩]
      exact h
    · change Function.update w.files e' _ e _ = x
      rw [Function.update_of_ne (Ne.symm he)]
      exact h

theorem after_keeps_archive {run : List (SnapMove × SnapEnv)}
    (hreq : ∀ m ∈ run, ¬m.1.Rewrites b e (snapName b csiName))
    (hdel : ∀ m ∈ run, ¬m.1.Deletes b e (snapName b csiName))
    (h : Holds e (snapArchive (snapName b csiName)) x w) :
    Holds e (snapArchive (snapName b csiName)) x (after b run w) := by
  induction run generalizing w with
  | nil => exact h
  | cons m rest ih =>
    rw [List.forall_mem_cons] at hreq hdel
    exact ih hreq.2 hdel.2 (step_keeps_archive hreq.1 hdel.1 h)

theorem after_append_singleton {run : List (SnapMove × SnapEnv)} {m : SnapMove} {E : SnapEnv} :
    after b (run ++ [(m, E)]) w = m.step b E (after b run w) :=
  List.foldl_concat _ _ _ _

end SnapMove

/-- A snapshot that was taken holds its source as it was. It stays so whatever else happens, as
long as it is not deleted, if and only if nobody asks for it again or writes to its archive. -/
theorem archive_stays_iff {b : Backend} {req : CreateSnapshotRequest} {E : SnapEnv}
    {w w' : SnapWorld} {resp : CreateSnapshotResponse} {ic : InstanceConfig}
    (h : (Snapshot.createSnapshot b req).eval E.answer w = (.ok resp, w'))
    (hic : b.instances req.sourceVolume.inst = some ic) (moves : List SnapMove)
    (hdel : ∀ m ∈ moves, ¬m.Deletes b ic.export resp.name) :
    w'.files ic.export (snapArchive resp.name) =
      some (E.pack (w.below ic.export req.sourceVolume.name)) ∧
    ((∀ run, run.map Prod.fst <+: moves →
        (SnapMove.after b run w').files ic.export (snapArchive resp.name) =
          w'.files ic.export (snapArchive resp.name)) ↔
      ∀ m ∈ moves, ¬m.Rewrites b ic.export resp.name) := by
  obtain ⟨hname, ic', hic', _, hfile⟩ := createSnapshot_ok h
  obtain rfl : ic = ic' := Option.some_injective _ (hic.symm.trans hic')
  refine ⟨hfile, fun hstays m hm hrewrites => ?_, fun hnone run hrun => ?_⟩
  · -- The move is made after the others before it, and leaves nothing of the archive.
    obtain ⟨before, rest, rfl⟩ := List.append_of_mem hm
    have hcut := hstays (before.map (·, cutShort none) ++ [(m, cutShort none)]) (by
      rw [List.map_append, List.map_map]
      change before.map id ++ [m] <+: _
      rw [List.map_id]
      exact ⟨rest, by simp⟩)
    rw [SnapMove.after_append_singleton, hfile] at hcut
    cases m with
    | create again =>
      obtain ⟨hexport, hsame⟩ := hrewrites
      obtain ⟨ic', hinst, hsameExport⟩ := Option.map_eq_some_iff.mp hexport
      rw [SnapMove.step, ← hsame, ← hsameExport, createSnapshot_cutShort hinst] at hcut
      cases hcut
    | delete snapshot => exact hrewrites
    | write e dir file =>
      obtain ⟨rfl, hpath⟩ := hrewrites
      rw [SnapMove.step, ← hpath] at hcut
      dsimp only at hcut
      rw [Function.update_self, Function.update_self] at hcut
      cases hcut
  · have hsub : ∀ m ∈ run, m.1 ∈ moves := fun m hm => hrun.subset (List.mem_map_of_mem hm)
    rw [hname] at hdel hnone ⊢
    exact SnapMove.after_keeps_archive (fun m hm => hnone _ (hsub m hm))
      (fun m hm => hdel _ (hsub m hm)) rfl

/-- A daily snapshot of a volume. -/
def daily : CreateSnapshotRequest where
  name := "snapshot-1"
  sourceVolume := ⟨"a", "/srv", "pvc-1"⟩

def allWell : SnapEnv where
  tempDir := .ok someDir
  exit _ := none
  left _ := none
  size := 1
  pack files := (files "pvc-1/data").getD ""
  written := some "tuesday"

def beforeSnapshot : SnapWorld where
  files _ p := if p = "pvc-1/data" then some "monday" else none
  mounted := none

def writeData : SnapMove := .write ⟨"nas", "/srv"⟩ "pvc-1" "data"

theorem archive_stays_iff_unasked :
    (SnapMove.after oneExport [(writeData, allWell)]
      ((Snapshot.createSnapshot oneExport daily).eval allWell.answer beforeSnapshot).2).files
        ⟨"nas", "/srv"⟩ (snapArchive (snapName oneExport "snapshot-1")) = some "monday" := by
  have hfirst : (Snapshot.createSnapshot oneExport daily).eval allWell.answer beforeSnapshot =
      (.ok ⟨"/srv", snapName oneExport "snapshot-1", 1⟩, _) := rfl
  have hic : oneExport.instances daily.sourceVolume.inst = some ⟨"nas", "/srv", "delete"⟩ := rfl
  have hstays := archive_stays_iff hfirst hic [writeData] fun m hm => by
    obtain rfl := List.mem_singleton.mp hm
    exact id
  have hother : ¬writeData.Rewrites oneExport ⟨"nas", "/srv"⟩
      (snapName oneExport "snapshot-1") := by
    rintro ⟨-, hfile⟩
    revert hfile
    decide +kernel
  refine (hstays.2.mpr (fun m hm => ?_) _ (List.prefix_refl _)).trans (hstays.1.trans ?_)
  · obtain rfl := List.mem_singleton.mp hm
    exact hother
  · decide +kernel

/-- The same snapshot is asked for again after its source has changed. Both calls succeed, and
the second leaves another archive. -/
theorem repeated_request_rewrites_archive :
    ∃ w₁ w₂ : SnapWorld, ∃ resp : CreateSnapshotResponse,
      (Snapshot.createSnapshot oneExport daily).eval allWell.answer beforeSnapshot =
        (.ok resp, w₁) ∧
      (Snapshot.createSnapshot oneExport daily).eval allWell.answer
        (writeData.step oneExport allWell w₁) =
          (.ok resp, w₂) ∧
      w₁.files ⟨"nas", "/srv"⟩ (snapArchive resp.name) = some "monday" ∧
      w₂.files ⟨"nas", "/srv"⟩ (snapArchive resp.name) = some "tuesday" := by
  refine ⟨_, _, ⟨"/srv", snapName oneExport "snapshot-1", 1⟩, rfl, Prod.ext ?_ rfl, ?_, ?_⟩
  · decide +kernel
  · decide +kernel
  · decide +kernel

end BardCsi.Nfs
