import BardCsi.Nfs.Volumes

/-!
Where the directory of an accepted nfs volume lies. The guard of `createVolume` looks at the
expanded template, while the paths are made by a join that cleans them, so a template that
starts with `./` or goes into the snapshot store passes the guard. Every other accepted volume
lies below the export's root, beside the snapshot store and the archived data, and deleting it
leaves those alone.
-/
namespace BardCsi.Nfs

open Effect Effect.Program

/-- The directory of a volume is below the root, in a subtree that holds neither snapshots nor
archived data. -/
def Contained (root name : String) : Prop :=
  ∃ first rest, Path.names (joinPath root name).toList =
      Path.names root.toList ++ first :: rest ∧
    first ≠ snapDir.toList ∧ ¬ "archived-".toList <+: first

/-- The data beside the volumes: the root itself, the snapshot store with its archives, and what
deleted volumes left. -/
def Beside : List Path.Part → Prop
  | [] => True
  | first :: _ => first = snapDir.toList ∨ "archived-".toList <+: first

/-- The first part of the expanded template that is neither empty nor `.`. -/
def leading (d : String) : Option Path.Part := (Path.solidParts d.toList).head?

/-- The template names something, and not the snapshot store or archived data. -/
def PlainSubDir (req : CreateVolumeRequest) : Prop :=
  ∀ d, subDir req = some d → ∃ first, leading d = some first ∧ first ≠ snapDir.toList ∧
    ¬ "archived-".toList <+: first

theorem dotdot_notMem_parts {name : String} (h : reserved name = false) :
    Path.dotdot ∉ Path.parts name.toList := by
  intro hmem
  have hc : Strings.contains name ".." = true :=
    Strings.contains_iff.mpr (Path.infix_of_mem_parts hmem)
  simp [reserved, hc] at h

theorem names_joinPath {root name : String} (hroot : root ≠ "") (h : reserved name = false) :
    Path.names (joinPath root name).toList =
      Path.names root.toList ++ Path.solidParts name.toList := by
  have hne : root.toList ≠ [] := by simpa using hroot
  rw [joinPath, String.toList_ofList]
  exact Path.names_join hne (dotdot_notMem_parts h)

/-- A text that is one name in a path. -/
def Plain (s : String) : Prop :=
  '/' ∉ s.toList ∧ Path.void s.toList = false ∧ s.toList ≠ Path.dotdot

theorem names_joinPath_plain {root s : String} (hroot : root ≠ "") (h : Plain s) :
    Path.names (joinPath root s).toList = Path.names root.toList ++ [s.toList] := by
  have hparts := Path.parts_of_no_slash h.1
  have hne : root.toList ≠ [] := by simpa using hroot
  rw [joinPath, String.toList_ofList, Path.names_join hne, Path.solidParts, hparts]
  · simp only [List.filter_cons, h.2.1, Bool.not_false, if_true, List.filter_nil]
  · rw [hparts, List.mem_singleton]
    exact fun heq => h.2.2 heq.symm

theorem contained_iff {root name : String} (hroot : root ≠ "") (h : reserved name = false) :
    Contained root name ↔ ∃ first, (Path.solidParts name.toList).head? = some first ∧
      first ≠ snapDir.toList ∧ ¬ "archived-".toList <+: first := by
  unfold Contained
  rw [names_joinPath hroot h]
  constructor
  · rintro ⟨first, rest, hn, hfirst⟩
    rw [List.append_right_inj] at hn
    exact ⟨first, by simp [hn], hfirst⟩
  · rintro ⟨first, hn, hfirst⟩
    cases hp : Path.solidParts name.toList with
    | nil => simp [hp] at hn
    | cons p ps =>
      simp only [hp, List.head?_cons, Option.some.injEq] at hn
      subst hn
      exact ⟨p, ps, rfl, hfirst⟩

theorem solidParts_trim (d : String) :
    Path.solidParts (Strings.trim d '/').toList = Path.solidParts d.toList := by
  rw [Strings.trim, String.toList_ofList]
  exact (Path.solidParts_trimRight _).trans (Path.solidParts_trimLeft _)

theorem slash_notMem_hex (n : Fin (2 ^ 64)) : '/' ∉ hex n := notMem_hex (by decide) n

theorem toList_volName (b : Backend) (csiName : String) :
    (volName b csiName).toList = 'b' :: 'a' :: 'r' :: 'd' :: '-' :: hex (b.sum csiName) := by
  simp [volName]

theorem solidParts_volName (b : Backend) (csiName : String) :
    Path.solidParts (volName b csiName).toList = [(volName b csiName).toList] := by
  have hslash : '/' ∉ (volName b csiName).toList := by
    rw [toList_volName]
    simp [slash_notMem_hex]
  rw [Path.solidParts, Path.parts_of_no_slash hslash, toList_volName]
  rfl

theorem volName_plain (b : Backend) (csiName : String) :
    (volName b csiName).toList ≠ snapDir.toList ∧
      ¬ "archived-".toList <+: (volName b csiName).toList := by
  rw [toList_volName]
  constructor
  · intro h
    cases (List.cons.inj h).1
  · intro h
    cases (List.cons_prefix_cons.mp h).1

theorem leading_volDir_iff (b : Backend) (req : CreateVolumeRequest) :
    (∃ first, (Path.solidParts (volDir b req).toList).head? = some first ∧
      first ≠ snapDir.toList ∧ ¬ "archived-".toList <+: first) ↔ PlainSubDir req := by
  unfold PlainSubDir volDir
  cases hd : subDir req with
  | none =>
    simp only [reduceCtorEq, false_implies, implies_true, iff_true]
    exact ⟨_, by rw [solidParts_volName]; rfl, volName_plain b req.name⟩
  | some d =>
    simp only [solidParts_trim, Option.some.injEq, leading]
    constructor
    · rintro h d' rfl
      exact h
    · intro h
      exact h d rfl

section Delete

variable {E : Env} {e : Export} {p : List Path.Part} {w : World} {rel : List Path.Part}
variable {e' : Export}

/-- The requests that do not touch what an export holds. -/
def NfsCmd.idle : NfsCmd → Prop
  | .mkdirTemp | .mount _ _ | .umount _ | .removeTemp _ | .chmod _ _ => True
  | _ => False

theorem answer_idle {c : NfsCmd} (h : c.idle) (w : World) :
    (answer E c w).2.trees = w.trees := by
  cases c with
  | mkdirTemp => rfl
  | mount e tmp =>
    simp only [answer]
    split <;> rfl
  | umount tmp =>
    simp only [answer]
    split <;> rfl
  | removeTemp tmp => rfl
  | chmod dir mode => rfl
  | mkdirAll dir => cases h
  | tarExtract archive dir => cases h
  | copyAll src dir => cases h
  | rename old new => cases h
  | removeAll dir => cases h

theorem run_idle_keeps {c : NfsCmd} (h : c.idle) :
    (run c).Keeps (answer E) fun w => p ∈ w.trees e := by
  apply Keeps.ask
  intro w hw
  rw [answer_idle h]
  exact hw

theorem orFail_keeps {α : Type} {P : World → Prop} (r : Except OsError α) (what : List Text) :
    (orFail r what).Keeps (answer E) P := by
  cases r with
  | ok a => exact Keeps.pure a
  | error err => exact Keeps.fail _

theorem unmountExport_keeps (tmp : TempDir) (ferr : Except Err Unit) :
    (unmountExport tmp ferr).Keeps (answer E) fun w => p ∈ w.trees e := by
  refine Keeps.bind (run_idle_keeps (c := .umount tmp) trivial) fun unmounted => ?_
  refine Keeps.bind (run_idle_keeps (c := .removeTemp tmp) trivial) fun _ => ?_
  rcases ferr with err | u <;> rcases unmounted with err' | u'
  · exact Keeps.fail _
  · exact Keeps.fail _
  · exact Keeps.fail _
  · exact Keeps.pure _

theorem withExportMounted_keeps {ic : InstanceConfig} {fn : String → NfsProg Unit}
    (h : ∀ (tmp : TempDir) (w : World),
      w.mounted = some (Path.names tmp.1.toList, ⟨ic.server, ic.exported⟩) →
      p ∈ w.trees e → p ∈ ((fn tmp).eval (answer E) w).2.trees e) :
    (withExportMounted ic fn).Keeps (answer E) fun w => p ∈ w.trees e := by
  refine Keeps.bind (run_idle_keeps (c := .mkdirTemp) trivial) fun made => ?_
  refine Keeps.bind (orFail_keeps made []) fun tmp => ?_
  intro w hw
  rcases hexit : E.exit (.mount ⟨ic.server, ic.exported⟩ tmp) with _ | err
  · have hstep : answer E (.mount ⟨ic.server, ic.exported⟩ tmp) w = (.ok (),
        { w with mounted := some (Path.names tmp.1.toList, ⟨ic.server, ic.exported⟩) }) := by
      simp [answer, Env.result, hexit]
    refine holds_after_ask (P := fun w => p ∈ w.trees e) hstep ?_
    have hbody := h tmp ⟨w.trees, some (Path.names tmp.1.toList, ⟨ic.server, ic.exported⟩)⟩
      rfl hw
    refine (congrArg (fun r : Except Err Unit × World => p ∈ r.2.trees e)
      (eval_attempt_bind_of rfl)).mpr ?_
    exact unmountExport_keeps tmp _ _ hbody
  · have hstep : answer E (.mount ⟨ic.server, ic.exported⟩ tmp) w = (.error err, w) := by
      simp [answer, Env.result, hexit]
    refine holds_after_ask (P := fun w => p ∈ w.trees e) hstep ?_
    exact Keeps.bind (run_idle_keeps (c := .removeTemp tmp) trivial) (fun _ => Keeps.fail _) w hw

theorem locate_joinPath {tmp : TempDir} {name : String}
    (hm : w.mounted = some (Path.names tmp.1.toList, e))
    (hn : Path.names (joinPath tmp name).toList = Path.names tmp.1.toList ++ rel) :
    w.locate (joinPath tmp name) = some (e, rel) := by
  simp only [World.locate, hm, hn, List.prefix_append, if_true, List.drop_left]

theorem mem_edit {path : String} {f : List Path.Part → Tree → Tree}
    (hl : w.locate path = some (e', rel)) (hp : p ∈ w.trees e)
    (hf : e = e' → p ∈ w.trees e' → p ∈ f rel (w.trees e')) : p ∈ (w.edit path f).trees e := by
  simp only [World.edit, hl]
  by_cases he : e = e'
  · subst he
    rw [Function.update_self]
    exact hf rfl hp
  · rwa [Function.update_of_ne he]

theorem not_prefix_of_beside {first : Path.Part} {rest : List Path.Part} (hp : Beside p)
    (h1 : first ≠ snapDir.toList) (h2 : ¬ "archived-".toList <+: first) :
    ¬ first :: rest <+: p := by
  intro hpre
  cases p with
  | nil => simp at hpre
  | cons q ps =>
    obtain ⟨rfl, _⟩ := List.cons_prefix_cons.mp hpre
    rcases hp with hp | hp
    · exact h1 hp
    · exact h2 hp

theorem rename_keeps {old new : String} (hl : w.locate old = some (e', rel))
    (hout : e = e' → ¬ rel <+: p) (hw : p ∈ w.trees e) :
    p ∈ (answer E (.rename old new) w).2.trees e := by
  simp only [answer]
  split
  · split
    · exact hw
    · refine mem_edit hl hw fun he hmem => List.mem_map.mpr ⟨p, hmem, ?_⟩
      exact if_neg (hout he)
  · exact hw

theorem removeAll_keeps {dir : String} (hl : w.locate dir = some (e', rel))
    (hout : e = e' → ¬ rel <+: p) (hw : p ∈ w.trees e) :
    p ∈ (answer E (.removeAll dir) w).2.trees e := by
  refine mem_edit hl hw fun he hmem => List.mem_filter.mpr ⟨hmem, ?_⟩
  have hpre : rel.isPrefixOf p = false := by
    rw [Bool.eq_false_iff]
    exact fun h => hout he (List.isPrefixOf_iff_prefix.mp h)
  simp [hpre]

theorem deleteDir_keeps {ic : InstanceConfig} {dir : String} (hl : w.locate dir = some (e', rel))
    (hout : e = e' → ¬ rel <+: p) (hw : p ∈ w.trees e) :
    p ∈ ((deleteDir ic dir).eval (answer E) w).2.trees e := by
  unfold deleteDir
  split
  · have hstep : p ∈ (answer E (.rename dir (archivedName dir)) w).2.trees e :=
      rename_keeps hl hout hw
    obtain ⟨r, w', hanswer⟩ : ∃ (r : Except OsError Unit) (w' : World),
        answer E (.rename dir (archivedName dir)) w = (r, w') := ⟨_, _, rfl⟩
    rw [hanswer] at hstep
    refine holds_after_ask (P := fun w : World => p ∈ w.trees e) hanswer ?_
    cases r with
    | ok u => exact hstep
    | error err =>
      change p ∈ (eval (answer E) (if err.notExist then _ else _) w').2.trees e
      split
      · exact hstep
      · exact hstep
  · have hstep := removeAll_keeps (E := E) hl hout hw
    obtain ⟨r, w', hanswer⟩ : ∃ (r : Except OsError Unit) (w' : World),
        answer E (.removeAll dir) w = (r, w') := ⟨_, _, rfl⟩
    rw [hanswer] at hstep
    refine holds_after_ask (P := fun w : World => p ∈ w.trees e) hanswer ?_
    exact orFail_keeps (P := fun w => p ∈ w.trees e) r [] w' hstep

theorem deleteVolume_keeps_beside {b : Backend} {vol : VolumeRef}
    (hc : ∀ tmp : TempDir, Contained tmp vol.name) (hp : Beside p) :
    (deleteVolume b vol).Keeps (answer E) fun w => p ∈ w.trees e := by
  refine Keeps.bind ?_ fun ic => Keeps.ite (Keeps.pure _) (withExportMounted_keeps ?_)
  · unfold lookup
    split
    · exact Keeps.pure _
    · exact Keeps.fail _
  · intro tmp w hm hw
    obtain ⟨first, rest, hn, h1, h2⟩ := hc tmp
    exact deleteDir_keeps (locate_joinPath hm hn) (fun _ => not_prefix_of_beside hp h1 h2) hw

end Delete

theorem createVolume_ok {E : Env} {b : Backend} {req : CreateVolumeRequest} {w : World}
    {resp : CreateVolumeResponse}
    (h : ((createVolume b req).eval (answer E) w).1 = .ok resp) :
    resp.name = volDir b req ∧ reserved (volDir b req) = false := by
  obtain ⟨w', hw⟩ : ∃ w', (createVolume b req).eval (answer E) w = (.ok resp, w') :=
    ⟨_, Prod.ext h rfl⟩
  obtain ⟨ic, m, _, hrest⟩ := eval_bind_ok hw
  rcases hres : reserved (volDir b req) with _ | _
  · simp only [hres] at hrest
    obtain ⟨_, m', _, hlast⟩ := eval_bind_ok hrest
    cases hlast
    exact ⟨rfl, rfl⟩
  · simp only [hres] at hrest
    cases hrest

/-- What is claimed of an accepted volume, now and when it is deleted. -/
structure Safe (b : Backend) (inst : String) (resp : CreateVolumeResponse) : Prop where
  contained : ∀ tmp : TempDir, Contained tmp resp.name
  delete : ∀ (E : Env) (w : World) (e : Export) (p : List Path.Part), Beside p → p ∈ w.trees e →
    p ∈ ((deleteVolume b ⟨inst, resp.location, resp.name⟩).eval (answer E) w).2.trees e

/-- An accepted volume is safe exactly when its expanded template, past empty parts and `.`
parts, starts with a part that is neither the snapshot store nor marked as archived. -/
theorem createVolume_safe_iff {E : Env} {b : Backend} {req : CreateVolumeRequest} {w : World}
    {resp : CreateVolumeResponse}
    (h : ((createVolume b req).eval (answer E) w).1 = .ok resp) :
    Safe b req.inst resp ↔ PlainSubDir req := by
  obtain ⟨hname, hres⟩ := createVolume_ok h
  have hiff : ∀ tmp : TempDir, Contained tmp resp.name ↔ PlainSubDir req := by
    intro tmp
    rw [hname, contained_iff tmp.2 hres]
    exact leading_volDir_iff b req
  constructor
  · intro hs
    exact (hiff ⟨"/tmp", by decide⟩).mp (hs.contained _)
  · intro hp
    have hc : ∀ tmp : TempDir, Contained tmp resp.name := fun tmp => (hiff tmp).mpr hp
    refine ⟨hc, fun E w e p hb hm => ?_⟩
    have hkeeps : (deleteVolume b ⟨req.inst, resp.location, resp.name⟩).Keeps (answer E)
        fun w => p ∈ w.trees e := deleteVolume_keeps_beside hc hb
    exact hkeeps w hm

def working : Env where
  tempDir := .ok ⟨"/tmp/bard-nfs-1", by decide⟩
  exit _ := none
  written _ := []
  survives _ := true

def oneExport : Backend where
  instances _ := some ⟨"nas", "/srv", "delete"⟩
  sum _ := ⟨0, Nat.two_pow_pos 64⟩

def templated (tmpl : String) : CreateVolumeRequest where
  name := "pvc-1"
  capacityBytes := 1
  inst := "a"
  parameters key := if key = "subDir" then tmpl else ""
  sourceSnapshot := none
  sourceVolume := none

/-- An export with one volume and one snapshot on it. -/
def inUse : World where
  trees _ := [["v".toList], [".snapshots".toList], [".snapshots".toList, "s".toList]]
  mounted := none

theorem createVolume_safe_plain :
    ((createVolume oneExport (templated "team/v")).eval (answer working) inUse).1 =
      .ok ⟨"/srv", "team/v", 1, "nas"⟩ ∧
    Safe oneExport "a" ⟨"/srv", "team/v", 1, "nas"⟩ := by
  have h : ((createVolume oneExport (templated "team/v")).eval (answer working) inUse).1 =
      .ok ⟨"/srv", "team/v", 1, "nas"⟩ := by rfl
  refine ⟨h, (createVolume_safe_iff h).mpr ?_⟩
  intro d hd
  have hsub : subDir (templated "team/v") = some "team/v" := by decide +kernel
  obtain rfl : "team/v" = d := Option.some.inj (hsub.symm.trans hd)
  exact ⟨"team".toList, by decide +kernel, by decide, by decide⟩

/-- The template `.` is accepted, its directory is the root of the export, and deleting the
volume removes the other volumes and the snapshots. -/
theorem dot_subDir_removes_export :
    ((createVolume oneExport (templated ".")).eval (answer working) inUse).1.toOption =
      some ⟨"/srv", ".", 1, "nas"⟩ ∧
    Path.names (joinPath "/tmp/bard-nfs-1" ".").toList = Path.names "/tmp/bard-nfs-1".toList ∧
    ((deleteVolume oneExport ⟨"a", "/srv", "."⟩).eval (answer working) inUse).2.trees
      ⟨"nas", "/srv"⟩ = [] := by
  decide +kernel

end BardCsi.Nfs
