import BardCsi.Nfs.Containment

/-!
Deleting volumes of an instance that archives them. The directory of a volume is renamed, and its
new name is a function of the old one alone. A name that is used again meets the archive of its
last use, and a directory is not renamed onto another one, not even onto an empty one.
-/
namespace BardCsi.Nfs

open Effect Effect.Program

/-- Where the directory of a volume lies on its export. -/
def volumePath (name : String) : List Path.Part := Path.solidParts name.toList

/-- The archive of a directory lies beside it. -/
def archivePath (rel : List Path.Part) : List Path.Part :=
  rel.dropLast ++ ["archived-".toList ++ rel.getLastD []]

theorem joinPath_toList (root name : String) :
    (joinPath root name).toList = Path.join [root.toList, name.toList] := String.toList_ofList

theorem clean_join {root name : List Char} (hroot : root ≠ []) :
    Path.join [root, name] = Path.clean (root ++ '/' :: name) := by
  simp [Path.join, hroot, Path.joined]

theorem names_archivedName {root name : String} (hroot : root ≠ "") (h : reserved name = false)
    (hne : volumePath name ≠ []) :
    Path.names (archivedName (joinPath root name)).toList =
      Path.names root.toList ++ archivePath (volumePath name) := by
  have hlist : root.toList ≠ [] := by simpa using hroot
  obtain ⟨qs, last, hparts⟩ : ∃ qs last, volumePath name = qs ++ [last] :=
    ⟨_, _, (List.dropLast_append_getLast hne).symm⟩
  have hnames : Path.names (root.toList ++ '/' :: name.toList) =
      (Path.names root.toList ++ qs) ++ [last] := by
    have hjoin := names_joinPath hroot h
    rw [joinPath_toList, clean_join hlist, Path.names_clean] at hjoin
    rw [hjoin, List.append_assoc, ← hparts, volumePath]
  have hlast : last ∈ Path.parts name.toList :=
    (List.mem_filter.mp (show last ∈ volumePath name by rw [hparts]; simp)).1
  have hdots : last ≠ Path.dotdot := fun heq => dotdot_notMem_parts h (heq ▸ hlast)
  have hplain : Plain ("archived-" ++ String.ofList last) := by
    have hchars : ("archived-" ++ String.ofList last).toList = "archived-".toList ++ last := by
      simp
    refine ⟨?_, ?_, ?_⟩
    · rw [hchars, List.mem_append, not_or]
      exact ⟨by decide, Path.no_slash_of_mem_parts hlast⟩
    · rw [hchars]
      rfl
    · rw [hchars]
      intro heq
      cases heq
  have hdir : dirPath (joinPath root name) ≠ "" := by
    simpa [dirPath, Path.dir] using Path.clean_ne_nil _
  rw [archivedName, joinPath_toList root name, clean_join hlist, Path.base_clean hnames,
    names_joinPath_plain hdir hplain, dirPath, String.toList_ofList, joinPath_toList,
    clean_join hlist, Path.names_dir_clean hnames hdots, archivePath, hparts]
  simp

/-- Why a directory cannot be renamed. -/
def renameError (w : World) (old new : String) : Option OsError :=
  match w.locate old, w.locate new with
  | some (e, src), some (_, dst) =>
      if ∀ p ∈ w.trees e, ¬ src <+: p then some ⟨true, "no such file or directory"⟩
      else if ∃ p ∈ w.trees e, dst <+: p then some ⟨false, "file exists"⟩
      else if src <+: dst then some ⟨false, "invalid argument"⟩
      else none
  | _, _ => some ⟨false, "invalid cross-device link"⟩

def diskAnswer (E : Env) (c : NfsCmd) (w : World) : c.Reply × World :=
  match c with
  | .rename old new =>
      match renameError w old new with
      | some err => (.error err, w)
      | none => answer E (.rename old new) w
  | c => answer E c w

/-- A call with the choices of its environment, or a file that a volume's user writes. -/
inductive ArchiveCall where
  | createVolume (req : CreateVolumeRequest) (E : Env)
  | deleteVolume (vol : VolumeRef) (E : Env)
  | write (e : Export) (path : List Path.Part)

def ArchiveCall.step (b : Backend) (w : World) : ArchiveCall → World
  | .createVolume req E => ((Nfs.createVolume b req).eval (diskAnswer E) w).2
  | .deleteVolume vol E => ((Nfs.deleteVolume b vol).eval (diskAnswer E) w).2
  | .write e path => { w with trees := Function.update w.trees e (w.trees e ++ [path]) }

def afterCalls (b : Backend) (calls : List ArchiveCall) (w : World) : World :=
  calls.foldl (ArchiveCall.step b) w

/-- What was below a directory is below its archive, and all else is where it was. -/
structure Archived (w w' : World) (e : Export) (rel : List Path.Part) : Prop where
  moved : ∀ rest, rel ++ rest ∈ w.trees e → archivePath rel ++ rest ∈ w'.trees e
  kept : ∀ e' p, p ∈ w.trees e' → (e' = e → ¬ rel <+: p) → p ∈ w'.trees e'

/-- An environment without failures. -/
structure Clean (E : Env) (tmp : TempDir) : Prop where
  tempDir : E.tempDir = .ok tmp
  exit : ∀ c, E.exit c = none

section Clean

variable {E : Env} {tmp : TempDir} {w : World} (hE : Clean E tmp) {ic : InstanceConfig}
include hE

theorem withExportMounted_clean (ic : InstanceConfig) (fn : String → NfsProg Unit) :
    (withExportMounted ic fn).eval (diskAnswer E) w =
      (((fn tmp).eval (diskAnswer E)
          ⟨w.trees, some (Path.names tmp.1.toList, ⟨ic.server, ic.exported⟩)⟩).1,
        ⟨((fn tmp).eval (diskAnswer E)
          ⟨w.trees, some (Path.names tmp.1.toList, ⟨ic.server, ic.exported⟩)⟩).2.trees, none⟩) := by
  have hmake : diskAnswer E .mkdirTemp w = (.ok tmp, w) := congrArg (·, w) hE.tempDir
  have hmount : diskAnswer E (.mount ⟨ic.server, ic.exported⟩ tmp) w =
      (.ok (), ⟨w.trees, some (Path.names tmp.1.toList, ⟨ic.server, ic.exported⟩)⟩) := by
    simp [diskAnswer, answer, Env.result, hE.exit]
  have humount : ∀ w : World, diskAnswer E (.umount tmp) w = (.ok (), ⟨w.trees, none⟩) := by
    simp [diskAnswer, answer, Env.result, hE.exit]
  have hremove : ∀ w : World, diskAnswer E (.removeTemp tmp) w = (.ok (), w) := by
    simp [diskAnswer, answer, Env.result, hE.exit]
  refine eval_ask_of hmake (eval_ask_of hmount ((eval_attempt_bind_of rfl).trans ?_))
  generalize (fn tmp).eval (diskAnswer E) _ = x
  obtain ⟨r, w'⟩ := x
  refine eval_ask_of (humount w') (eval_ask_of (hremove _) ?_)
  cases r <;> rfl

omit hE in
theorem deleteVolume_clean {b : Backend} {vol : VolumeRef} (hic : b.instances vol.inst = some ic)
    (harchive : Strings.equalFold ic.onDelete "archive" = true) :
    (deleteVolume b vol).eval (diskAnswer E) w =
      (withExportMounted ic fun mnt => deleteDir ic (joinPath mnt vol.name)).eval
        (diskAnswer E) w := by
  have hretain : Strings.equalFold ic.onDelete "retain" = false := by
    rw [Strings.equalFold, beq_iff_eq] at harchive
    rw [Strings.equalFold, harchive]
    decide
  unfold deleteVolume lookup
  rw [hic]
  change eval (diskAnswer E) (if Strings.equalFold ic.onDelete "retain" = true then _ else _) w = _
  rw [hretain]
  rfl

omit hE in
theorem deleteDir_refused {dir : String} {err : OsError}
    (harchive : Strings.equalFold ic.onDelete "archive" = true)
    (herr : renameError w dir (archivedName dir) = some err) (hthere : err.notExist = false) :
    (deleteDir ic dir).eval (diskAnswer E) w =
      (.error (errorf ["nfs: archive ", dir, ": ", err.text]), w) := by
  have hrename : diskAnswer E (.rename dir (archivedName dir)) w = (.error err, w) := by
    simp only [diskAnswer, herr]
  unfold deleteDir
  rw [if_pos harchive]
  refine eval_ask_of hrename ?_
  simp only [hthere]
  rfl

theorem deleteDir_renames {dir : String} (harchive : Strings.equalFold ic.onDelete "archive" = true)
    (hnone : renameError w dir (archivedName dir) = none) :
    (deleteDir ic dir).eval (diskAnswer E) w =
      (.ok (), (answer E (.rename dir (archivedName dir)) w).2) := by
  have hrename : diskAnswer E (.rename dir (archivedName dir)) w =
      (.ok (), (answer E (.rename dir (archivedName dir)) w).2) := by
    simp only [diskAnswer, hnone, answer, Env.result, hE.exit]
  unfold deleteDir
  rw [if_pos harchive]
  exact eval_ask_of hrename rfl

end Clean

section Delete

variable {E : Env} {tmp : TempDir} {w : World} {e : Export} {name : String}

/-- There is no archive of the directory. -/
def ArchiveFree (tree : Tree) (rel : List Path.Part) : Prop :=
  ∀ p ∈ tree, ¬ archivePath rel <+: p

theorem locate_of_names {path : String} {rel : List Path.Part}
    (hm : w.mounted = some (Path.names tmp.1.toList, e))
    (hn : Path.names path.toList = Path.names tmp.1.toList ++ rel) :
    w.locate path = some (e, rel) := by
  simp only [World.locate, hm, hn, List.prefix_append, if_true, List.drop_left]

theorem not_prefix_archivePath {rel : List Path.Part} (hne : rel ≠ []) :
    ¬ rel <+: archivePath rel := by
  obtain ⟨qs, last, rfl⟩ : ∃ qs last, rel = qs ++ [last] :=
    ⟨_, _, (List.dropLast_append_getLast hne).symm⟩
  intro hpre
  have heq := hpre.eq_of_length (by simp [archivePath])
  have hlength := congrArg (fun l : List Path.Part => (l.getLastD []).length) heq
  simp [archivePath] at hlength
  omega

variable (hm : w.mounted = some (Path.names tmp.1.toList, e)) (hres : reserved name = false)
  (hthere : volumePath name ∈ w.trees e)
include hm hres hthere

theorem renameError_cases :
    (volumePath name ≠ [] ∧ ArchiveFree (w.trees e) (volumePath name) ∧
      renameError w (joinPath tmp name) (archivedName (joinPath tmp name)) = none) ∨
    (¬ (volumePath name ≠ [] ∧ ArchiveFree (w.trees e) (volumePath name)) ∧
      ∃ err, renameError w (joinPath tmp name) (archivedName (joinPath tmp name)) = some err ∧
        err.notExist = false) := by
  have hold : w.locate (joinPath tmp name) = some (e, volumePath name) :=
    locate_of_names hm (names_joinPath tmp.2 hres)
  have hsource : ¬ ∀ p ∈ w.trees e, ¬ volumePath name <+: p :=
    fun h => h _ hthere List.prefix_rfl
  by_cases hne : volumePath name = []
  · refine .inr ⟨fun h => h.1 hne, ?_⟩
    unfold renameError
    rw [hold]
    rcases w.locate (archivedName (joinPath tmp name)) with _ | ⟨e', dst⟩
    · exact ⟨_, rfl, rfl⟩
    · simp only [if_neg hsource]
      rw [hne, if_pos List.nil_prefix]
      split_ifs
      · exact ⟨_, rfl, rfl⟩
      · exact ⟨_, rfl, rfl⟩
  · have hnew : w.locate (archivedName (joinPath tmp name)) =
        some (e, archivePath (volumePath name)) :=
      locate_of_names hm (names_archivedName tmp.2 hres hne)
    have hrename : renameError w (joinPath tmp name) (archivedName (joinPath tmp name)) =
        if ∃ p ∈ w.trees e, archivePath (volumePath name) <+: p then some ⟨false, "file exists"⟩
        else none := by
      unfold renameError
      rw [hold, hnew]
      simp only [if_neg hsource, if_neg (not_prefix_archivePath hne)]
    by_cases hfree : ArchiveFree (w.trees e) (volumePath name)
    · refine .inl ⟨hne, hfree, ?_⟩
      rw [hrename, if_neg]
      rintro ⟨p, hp, hpre⟩
      exact hfree p hp hpre
    · refine .inr ⟨fun h => hfree h.2, ⟨false, "file exists"⟩, ?_, rfl⟩
      rw [hrename, if_pos]
      unfold ArchiveFree at hfree
      push Not at hfree
      exact hfree

omit hthere in
theorem archived_of_rename (hE : Clean E tmp) (hne : volumePath name ≠ []) :
    Archived w (answer E (.rename (joinPath tmp name) (archivedName (joinPath tmp name))) w).2 e
      (volumePath name) := by
  have hold : w.locate (joinPath tmp name) = some (e, volumePath name) :=
    locate_of_names hm (names_joinPath tmp.2 hres)
  have hnew : w.locate (archivedName (joinPath tmp name)) =
      some (e, archivePath (volumePath name)) :=
    locate_of_names hm (names_archivedName tmp.2 hres hne)
  refine ⟨fun rest hrest => ?_, fun e' p hp hout => rename_keeps hold hout hp⟩
  simp only [answer, hE.exit, Option.isNone_none, if_true, hnew, World.edit, hold]
  rw [Function.update_self]
  refine List.mem_map.mpr ⟨_, hrest, ?_⟩
  rw [moveBelow, if_pos (List.prefix_append _ _), List.drop_left]

end Delete

/-- A delete without failures that archives a volume succeeds, keeps the data of the volume in its
archive and keeps all else, exactly if the volume is not the export itself and there is no archive
of its directory yet. -/
theorem archive_converges_iff {b : Backend} {vol : VolumeRef} {ic : InstanceConfig} {E : Env}
    {tmp : TempDir} (calls : List ArchiveCall) (w₀ : World)
    (hic : b.instances vol.inst = some ic)
    (harchive : Strings.equalFold ic.onDelete "archive" = true)
    (hres : reserved vol.name = false) (hE : Clean E tmp)
    (hthere : volumePath vol.name ∈ (afterCalls b calls w₀).trees ⟨ic.server, ic.exported⟩) :
    (((deleteVolume b vol).eval (diskAnswer E) (afterCalls b calls w₀)).1 = .ok () ∧
      Archived (afterCalls b calls w₀)
        ((deleteVolume b vol).eval (diskAnswer E) (afterCalls b calls w₀)).2
        ⟨ic.server, ic.exported⟩ (volumePath vol.name)) ↔
    volumePath vol.name ≠ [] ∧
      ArchiveFree ((afterCalls b calls w₀).trees ⟨ic.server, ic.exported⟩)
        (volumePath vol.name) := by
  generalize afterCalls b calls w₀ = w at hthere ⊢
  rw [deleteVolume_clean hic harchive, withExportMounted_clean hE]
  have hcases := renameError_cases
    (w := ⟨w.trees, some (Path.names tmp.1.toList, ⟨ic.server, ic.exported⟩)⟩) rfl hres hthere
  rcases hcases with ⟨hne, hfree, hnone⟩ | ⟨hnot, err, herr, hexist⟩
  · rw [deleteDir_renames hE harchive hnone]
    have harchived := archived_of_rename
      (w := ⟨w.trees, some (Path.names tmp.1.toList, ⟨ic.server, ic.exported⟩)⟩) rfl hres hE hne
    exact ⟨fun _ => ⟨hne, hfree⟩, fun _ => ⟨rfl, ⟨harchived.moved, harchived.kept⟩⟩⟩
  · rw [deleteDir_refused harchive herr hexist]
    exact ⟨(fun h => by cases h.1), fun h => absurd h hnot⟩

def archiving : Backend where
  instances _ := some ⟨"nas", "/srv", "archive"⟩
  sum := lengthSum

/-- A volume is made, a file is written to it, and the volume is deleted. -/
def useOnce : List ArchiveCall :=
  [.createVolume (templated "v") working, .write ⟨"nas", "/srv"⟩ ["v".toList, "data".toList],
    .deleteVolume ⟨"a", "/srv", "v"⟩ working]

/-- The same name is used again, up to the second delete. -/
def useAgain : List ArchiveCall := useOnce ++ useOnce.take 2

def noExports : World := ⟨fun _ => [], none⟩

theorem archive_converges_once :
    ((deleteVolume archiving ⟨"a", "/srv", "v"⟩).eval (diskAnswer working)
      (afterCalls archiving (useOnce.take 2) noExports)).1 = .ok () := by
  refine ((archive_converges_iff (useOnce.take 2) noExports rfl (by decide) (by decide +kernel)
    ⟨rfl, fun _ => rfl⟩ (by decide +kernel)).mpr ⟨by decide +kernel, ?_⟩).1
  unfold ArchiveFree
  decide +kernel

/-- A directory that is made again under the same name is there with its data, and cannot be
deleted: its archive is in the way. -/
theorem archive_in_the_way :
    ["v".toList, "data".toList] ∈ (afterCalls archiving useAgain noExports).trees ⟨"nas", "/srv"⟩ ∧
      ["archived-v".toList, "data".toList] ∈
        (afterCalls archiving useAgain noExports).trees ⟨"nas", "/srv"⟩ ∧
      ((deleteVolume archiving ⟨"a", "/srv", "v"⟩).eval (diskAnswer working)
        (afterCalls archiving useAgain noExports)).1.toOption = none := by
  decide +kernel

end BardCsi.Nfs
