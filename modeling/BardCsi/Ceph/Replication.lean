import BardCsi.Ceph.Types
import BardCsi.Effect.Eval
import BardCsi.Path

/-!
The replication calls of the ceph-rbd plugin. A call runs one `rbd mirror image` command and
reads a refusal as success when its text seems to say that the image is in the requested state
already. The text that is searched is the whole error of the runner: the command line with the
names of the pool, the image, the monitors and the user, and everything that `rbd` printed.
-/
namespace BardCsi.Ceph.Replication

open Effect Effect.Program

/-- The pool and the rados namespace of a location, which is a pool or `pool/namespace`. -/
def splitImageSpec (vol : VolumeRef) : String × String × String :=
  let pool := vol.location.toList.takeWhile (· ≠ '/')
  (String.ofList pool, String.ofList (vol.location.toList.drop (pool.length + 1)), vol.name)

/-- What is left of a command that failed: Go's account of the exit, and the error output. -/
structure ExitError where
  err : String
  stderr : String
deriving DecidableEq, Repr

/-- The error text of `ExecRunner.Run`. -/
def runError (name : String) (args : List String) (e : ExitError) : String :=
  name ++ " " ++ Strings.join " " args ++ ": " ++ e.err ++ ": " ++ Strings.trimSpace e.stderr

/-- The text of an error without the lines that mention `ceph.conf`. -/
def errString (text : String) : String :=
  Strings.join "\n" ((Strings.split text '\n').filter fun l => !Strings.contains l "ceph.conf")

def errContains (text : String) (subs : List String) : Bool :=
  subs.all fun sub => Strings.contains (Strings.toLower (errString text)) (Strings.toLower sub)

def isNotMirrored (text : String) : Bool := errContains text ["not", "mirror"]

def isAlreadyPrimary (text : String) : Bool := errContains text ["primary"]

def isAlreadySecondary (text : String) : Bool :=
  errContains text ["non-primary"] || errContains text ["secondary"]

inductive MirrorOp where
  | scheduleRemove (pool ns image : String)
  | disable (spec : String)
  | promote (spec : String) (force : Bool)
  | demote (spec : String)
deriving DecidableEq, Repr

def MirrorOp.args : MirrorOp → List String
  | .scheduleRemove pool ns image =>
      ["mirror", "snapshot", "schedule", "remove", "--pool", pool, "--image", image] ++
        if ns ≠ "" then ["--namespace", ns] else []
  | .disable spec => ["mirror", "image", "disable", spec, "--force"]
  | .promote spec force =>
      ["mirror", "image", "promote", spec] ++ if force then ["--force"] else []
  | .demote spec => ["mirror", "image", "demote", spec]

inductive KeyRead where
  | found (data : String)
  | missing
  | failed (err : String)
deriving DecidableEq, Repr

inductive MirrorCmd where
  | readKey (inst : String)
  | keyFile (key : String)
  | rbd (conn : List String) (op : MirrorOp)
deriving DecidableEq, Repr

def MirrorCmd.Reply : MirrorCmd → Type
  | .readKey _ => KeyRead
  | .keyFile _ => Except String String
  | .rbd _ _ => Except ExitError Unit

abbrev MirrorProg := Program MirrorCmd MirrorCmd.Reply Err

def run (c : MirrorCmd) : MirrorProg c.Reply := ask c

structure Config where
  clusters : String → Option ClusterConfig
  keyDir : String

abbrev Secrets := String → String

def cluster (b : Config) (inst : String) : MirrorProg ClusterConfig :=
  clusterFor "ceph-rbd" b.clusters inst

def keyFor (b : Config) (inst : String) (secrets : Secrets) : MirrorProg String := do
  if b.keyDir ≠ "" then
    let read : KeyRead ← run (.readKey inst)
    match read with
    | .found data => return Strings.trimSpace data
    | .failed err => .fail (errorf ["ceph-rbd: read key for instance ", inst, ": ", err])
    | .missing =>
        if secrets "userKey" ≠ "" then return secrets "userKey"
        else .fail (errorf ["ceph-rbd: no cephx key for instance ", inst, " (no ",
          String.ofList (Path.join [b.keyDir.toList, inst.toList]), " and no CSI secret)"])
  else return secrets "userKey"

/-- What the other calls run as one request: the flags of the connection, with the key in a
file. -/
def connArgs (b : Config) (cc : ClusterConfig) (inst : String) (secrets : Secrets) :
    MirrorProg (List String) := do
  let args := ["-c", "/dev/null", "-m", Strings.join "," cc.monitors, "--id",
    cephUser id cc.userID (secrets "userID")]
  let key ← keyFor b inst secrets
  if key ≠ "" then
    let file : Except String String ← run (.keyFile key)
    match file with
    | .ok path => return args ++ ["--keyfile", path]
    | .error err => .fail (errorf ["ceph-rbd: keyfile: ", err])
  else return args

def replConn (b : Config) (vol : VolumeRef) (secrets : Secrets) : MirrorProg (List String) := do
  let cc ← cluster b vol.inst
  connArgs b cc vol.inst secrets

/-- One mirror command, whose refusal counts as success when `already` says so. -/
def mirrorImage (conn : List String) (op : MirrorOp) (already : String → Bool) (what : String)
    (spec : String) : MirrorProg Unit := do
  let exit : Except ExitError Unit ← run (.rbd conn op)
  match exit with
  | .ok () => return ()
  | .error e =>
      let text := runError "rbd" (conn ++ op.args) e
      if already text then return ()
      else .fail (errorf [what, spec, ": ", text])

def disableVolumeReplication (b : Config) (vol : VolumeRef) (secrets : Secrets) :
    MirrorProg Unit := do
  let conn ← replConn b vol secrets
  let (pool, ns, image) := splitImageSpec vol
  let _ ← run (.rbd conn (.scheduleRemove pool ns image))
  mirrorImage conn (.disable vol.imageSpec) isNotMirrored "ceph-rbd: mirror image disable "
    vol.imageSpec

def promoteVolume (b : Config) (vol : VolumeRef) (force : Bool) (secrets : Secrets) :
    MirrorProg Unit := do
  let conn ← replConn b vol secrets
  mirrorImage conn (.promote vol.imageSpec force) isAlreadyPrimary
    "ceph-rbd: mirror image promote " vol.imageSpec

def demoteVolume (b : Config) (vol : VolumeRef) (secrets : Secrets) : MirrorProg Unit := do
  let conn ← replConn b vol secrets
  mirrorImage conn (.demote vol.imageSpec) isAlreadySecondary "ceph-rbd: mirror image demote "
    vol.imageSpec

/-! The images, and what the outside world answers. -/

structure MirrorState where
  mirrored : Bool
  primary : Bool
deriving DecidableEq, Repr

abbrev Images := String → MirrorState

def MirrorOp.apply : MirrorOp → Images → Images
  | .scheduleRemove _ _ _, s => s
  | .disable spec, s => Function.update s spec ⟨false, false⟩
  | .promote spec _, s => Function.update s spec ⟨(s spec).mirrored, true⟩
  | .demote spec, s => Function.update s spec ⟨(s spec).mirrored, false⟩

/-- The answers of one call. Every command runs at most once in it. -/
structure Env where
  key : KeyRead
  keyFile : Except String String
  exit : MirrorOp → Except ExitError Unit

/-- A command that exits zero did the change, and one that does not changed nothing. -/
def answer (E : Env) : (c : MirrorCmd) → Images → c.Reply × Images
  | .readKey _, s => (E.key, s)
  | .keyFile _, s => (E.keyFile, s)
  | .rbd _ op, s =>
      match E.exit op with
      | .ok () => (.ok (), op.apply s)
      | .error e => (.error e, s)

/-- A call that reports a verdict on the mirror state of its image. -/
inductive Call where
  | disable
  | promote (force : Bool)
  | demote
deriving DecidableEq, Repr

def Call.program (b : Config) (vol : VolumeRef) (secrets : Secrets) : Call → MirrorProg Unit
  | .disable => disableVolumeReplication b vol secrets
  | .promote force => promoteVolume b vol force secrets
  | .demote => demoteVolume b vol secrets

/-- What the success of a call says about the image. -/
def Call.Verdict : Call → MirrorState → Prop
  | .disable, s => s.mirrored = false
  | .promote _, s => s.primary = true
  | .demote, s => s.primary = false

def Call.op (vol : VolumeRef) : Call → MirrorOp
  | .disable => .disable vol.imageSpec
  | .promote force => .promote vol.imageSpec force
  | .demote => .demote vol.imageSpec

def Call.already : Call → String → Bool
  | .disable => isNotMirrored
  | .promote _ => isAlreadyPrimary
  | .demote => isAlreadySecondary

/-- Some line of a text, not about `ceph.conf`, has the word in it, in any case. -/
def Mentions (text word : String) : Prop :=
  ∃ l ∈ Strings.split text '\n', ¬ "ceph.conf".toList <:+: l.toList ∧
    word.toList <:+: l.toList.map Strings.lowerChar

/-- The words that a call takes for a refusal of what is done already. -/
def Call.Misled : Call → String → Prop
  | .disable, text => Mentions text "not" ∧ Mentions text "mirror"
  | .promote _, text => Mentions text "primary"
  | .demote, text => Mentions text "non-primary" ∨ Mentions text "secondary"

theorem contains_lower_errString_iff {text word : String} (hw : word.toList ≠ [])
    (hsep : Strings.lowerChar '\n' ∉ word.toList) :
    Strings.contains (Strings.toLower (errString text)) word = true ↔ Mentions text word := by
  rw [Strings.contains_iff]
  simp only [Strings.toLower, String.toList_ofList, errString]
  rw [Strings.infix_map_join_iff hw hsep]
  simp only [List.mem_filter, Bool.not_eq_true', Mentions]
  constructor
  · rintro ⟨l, ⟨hl, hconf⟩, h⟩
    refine ⟨l, hl, ?_, h⟩
    intro hin
    rw [Strings.contains_iff.mpr hin] at hconf
    cases hconf
  · rintro ⟨l, hl, hconf, h⟩
    refine ⟨l, ⟨hl, ?_⟩, h⟩
    rw [Bool.eq_false_iff]
    exact fun hin => hconf (Strings.contains_iff.mp hin)

theorem already_iff (c : Call) (text : String) : c.already text = true ↔ c.Misled text := by
  have hword : ∀ word : String, word.toList ≠ [] → Strings.lowerChar '\n' ∉ word.toList →
      Strings.toLower word = word →
      (Strings.contains (Strings.toLower (errString text)) (Strings.toLower word) = true ↔
        Mentions text word) := by
    intro word hne hsep hlow
    rw [hlow]
    exact contains_lower_errString_iff hne hsep
  cases c with
  | disable =>
    simp only [Call.already, isNotMirrored, errContains, List.all_cons, List.all_nil,
      Bool.and_true, Bool.and_eq_true, Call.Misled]
    rw [hword "not" (by decide) (by decide) (by decide),
      hword "mirror" (by decide) (by decide) (by decide)]
  | promote force =>
    simp only [Call.already, isAlreadyPrimary, errContains, List.all_cons, List.all_nil,
      Bool.and_true, Call.Misled]
    exact hword "primary" (by decide) (by decide) (by decide)
  | demote =>
    simp only [Call.already, isAlreadySecondary, errContains, List.all_cons, List.all_nil,
      Bool.and_true, Bool.or_eq_true, Call.Misled]
    rw [hword "non-primary" (by decide) (by decide) (by decide),
      hword "secondary" (by decide) (by decide) (by decide)]

section Verdicts

variable {E : Env} {b : Config} {vol : VolumeRef} {secrets : Secrets} {s : Images}
variable {P : Images → Prop} {conn : List String}

theorem run_keeps {c : MirrorCmd} (h : ∀ conn op, c ≠ .rbd conn op) :
    (run c).Keeps (answer E) P := by
  apply Keeps.ask
  intro s hs
  cases c with
  | readKey inst => exact hs
  | keyFile key => exact hs
  | rbd conn op => exact absurd rfl (h conn op)

theorem keyFor_keeps (inst : String) :
    (keyFor b inst secrets).Keeps (answer E) P := by
  unfold keyFor
  split
  · refine Keeps.bind (run_keeps (c := .readKey inst) (by simp)) ?_
    intro read
    cases read with
    | found data => exact Keeps.pure _
    | failed err => exact Keeps.fail _
    | missing => exact (Keeps.pure _).ite (Keeps.fail _)
  · exact Keeps.pure _

theorem replConn_keeps : (replConn b vol secrets).Keeps (answer E) P := by
  unfold replConn cluster clusterFor
  apply Keeps.bind
  · split
    · exact Keeps.pure _
    · exact Keeps.fail _
  · intro cc
    refine Keeps.bind (keyFor_keeps vol.inst) ?_
    intro key
    apply Keeps.ite
    · refine Keeps.bind (run_keeps (c := .keyFile key) (by simp)) ?_
      intro file
      cases file with
      | ok path => exact Keeps.pure _
      | error err => exact Keeps.fail _
    · exact Keeps.pure _

theorem eval_replConn : (replConn b vol secrets).eval (answer E) s =
    (((replConn b vol secrets).eval (answer E) s).1, s) :=
  Prod.ext rfl (replConn_keeps (P := (· = s)) s rfl)

theorem eval_schedule (conn : List String) (pool ns image : String) :
    ((run (.rbd conn (.scheduleRemove pool ns image))).eval (answer E) s).2 = s := by
  change (answer E (.rbd conn (.scheduleRemove pool ns image)) s).2 = s
  rcases h : E.exit (.scheduleRemove pool ns image) with e | u
  · simp [answer, h]
  · simp [answer, h, MirrorOp.apply]

theorem eval_program (c : Call) (h : ((replConn b vol secrets).eval (answer E) s).1 = .ok conn) :
    ∃ what, (c.program b vol secrets).eval (answer E) s =
      (mirrorImage conn (c.op vol) c.already what vol.imageSpec).eval (answer E) s := by
  have hconn : (replConn b vol secrets).eval (answer E) s = (.ok conn, s) := by
    rw [eval_replConn, h]
  cases c with
  | disable =>
    refine ⟨"ceph-rbd: mirror image disable ", (eval_bind_of hconn).trans ?_⟩
    rcases splitImageSpec vol with ⟨pool, ns, image⟩
    have hschedule : (run (.rbd conn (.scheduleRemove pool ns image))).eval (answer E) s =
        (.ok (answer E (.rbd conn (.scheduleRemove pool ns image)) s).1, s) :=
      Prod.ext rfl (eval_schedule conn pool ns image)
    exact eval_bind_of hschedule
  | promote force => exact ⟨_, eval_bind_of hconn⟩
  | demote => exact ⟨_, eval_bind_of hconn⟩

theorem eval_program_error (c : Call) {e : Err}
    (h : ((replConn b vol secrets).eval (answer E) s).1 = .error e) :
    (c.program b vol secrets).eval (answer E) s = (.error e, s) := by
  have hconn : (replConn b vol secrets).eval (answer E) s = (.error e, s) := by
    rw [eval_replConn, h]
  cases c with
  | disable => exact eval_bind_error hconn
  | promote force => exact eval_bind_error hconn
  | demote => exact eval_bind_error hconn

theorem apply_verdict (c : Call) : c.Verdict ((c.op vol).apply s vol.imageSpec) := by
  cases c <;> simp [Call.Verdict, Call.op, MirrorOp.apply]

theorem eval_mirrorImage_ok {op : MirrorOp} {already : String → Bool} {what spec : String}
    (h : E.exit op = .ok ()) :
    (mirrorImage conn op already what spec).eval (answer E) s = (.ok (), op.apply s) := by
  have hstep : answer E (.rbd conn op) s = (.ok (), op.apply s) := by
    simp [answer, h]
  refine (eval_ask_bind _ _).trans ?_
  rw [hstep]
  rfl

theorem eval_mirrorImage_refused {op : MirrorOp} {already : String → Bool} {what spec : String}
    {e : ExitError} (h : E.exit op = .error e) :
    (mirrorImage conn op already what spec).eval (answer E) s =
      (if already (runError "rbd" (conn ++ op.args) e) then .ok ()
        else .error (errorf [what, spec, ": ", runError "rbd" (conn ++ op.args) e]), s) := by
  have hstep : answer E (.rbd conn op) s = (.error e, s) := by
    simp [answer, h]
  refine (eval_ask_bind _ _).trans ?_
  rw [hstep]
  change (if _ then _ else _ : MirrorProg Unit).eval (answer E) s = _
  split <;> rfl

/-- The success of a call is true exactly when no refusal in another state has the words in it
that the call looks for, be it in the names of the command line or in the output. -/
theorem success_verdict_iff (E : Env) (b : Config) (vol : VolumeRef) (secrets : Secrets)
    (c : Call) (s : Images) :
    (((c.program b vol secrets).eval (answer E) s).1 = .ok () →
        c.Verdict (((c.program b vol secrets).eval (answer E) s).2 vol.imageSpec)) ↔
      ∀ conn e, ((replConn b vol secrets).eval (answer E) s).1 = .ok conn →
        E.exit (c.op vol) = .error e → ¬ c.Verdict (s vol.imageSpec) →
        ¬ c.Misled (runError "rbd" (conn ++ (c.op vol).args) e) := by
  rcases hconn : ((replConn b vol secrets).eval (answer E) s).1 with err | conn
  · rw [eval_program_error c hconn]
    simp
  obtain ⟨what, hprog⟩ := eval_program c hconn
  rw [hprog]
  rcases hexit : E.exit (c.op vol) with e | u
  · rw [eval_mirrorImage_refused hexit]
    constructor
    · intro h conn' e' hc he hv hm
      cases hc
      cases he
      rw [← already_iff] at hm
      exact hv (h (if_pos hm))
    · intro h hok
      by_contra hv
      have hno := h conn e rfl rfl hv
      rw [← already_iff] at hno
      rw [if_neg hno] at hok
      cases hok
  · rw [eval_mirrorImage_ok hexit]
    simp only [reduceCtorEq, false_implies, implies_true, iff_true]
    exact fun _ => apply_verdict c

end Verdicts

theorem mentions_iff_chars {text word : String} : Mentions text word ↔
    ∃ l ∈ Strings.splitChars (· == '\n') text.toList, ¬ "ceph.conf".toList <:+: l ∧
      word.toList <:+: l.map Strings.lowerChar := by
  simp [Mentions, Strings.split]

def refusing (err stderr : String) : Env where
  key := .missing
  keyFile := .error ""
  exit _ := .error ⟨err, stderr⟩

def oneCluster : Config where
  clusters _ := some ⟨["10.0.0.1"], "rbd", "bard", .krbd, "", false, ""⟩
  keyDir := ""

def image : VolumeRef := ⟨"a", "rbd", "bard-1"⟩

theorem connected (E : Env) (s : Images) : ((replConn oneCluster image fun _ => "").eval
    (answer E) s).1 = .ok ["-c", "/dev/null", "-m", "10.0.0.1", "--id", "bard"] := rfl

/-- A secondary image whose peer is primary is reported as promoted, and a mirrored image that
may not be touched is reported as not mirrored. -/
theorem refusals_reported_as_success :
    ((Call.promote false).program oneCluster image fun _ => "").eval
        (answer (refusing "exit status 22" "image is still primary within a remote cluster"))
        (fun _ => ⟨true, false⟩) = (.ok (), fun _ => ⟨true, false⟩) ∧
    (Call.disable.program oneCluster image fun _ => "").eval
        (answer (refusing "exit status 1" "(1) Operation not permitted"))
        (fun _ => ⟨true, true⟩) = (.ok (), fun _ => ⟨true, true⟩) := by
  constructor
  · obtain ⟨what, h⟩ := eval_program (.promote false) (connected _ _)
    rw [h, eval_mirrorImage_refused rfl, if_pos]
    rw [already_iff]
    apply mentions_iff_chars.mpr
    simp only [runError, Call.op, MirrorOp.args, String.toList_append,
      Strings.toList_trimSpace]
    decide +kernel
  · obtain ⟨what, h⟩ := eval_program .disable (connected _ _)
    rw [h, eval_mirrorImage_refused rfl, if_pos]
    rw [already_iff]
    simp only [Call.Misled, mentions_iff_chars, runError, Call.op, MirrorOp.args,
      String.toList_append, Strings.toList_trimSpace]
    decide +kernel

end BardCsi.Ceph.Replication
