import BardCsi.Ceph.Replication

/-!
What the ceph-rbd plugin takes an error of the runner for. A classifier searches the whole text
for its words, the command line as much as what the command printed, after it has dropped the
lines about `ceph.conf`. The command line has no say in the verdict exactly when none of the
words is in it and its last line is not one of the dropped ones.
-/
namespace BardCsi.Ceph.Classifiers

open Replication

def isNotFound (text : String) : Bool :=
  let s := Strings.toLower (errString text)
  Strings.contains s "does not exist" || Strings.contains s "no such file" ||
    Strings.contains s "not found"

def isAlreadyExists (text : String) : Bool :=
  let s := Strings.toLower (errString text)
  Strings.contains s "exists" || Strings.contains s "file exists"

def isNotMounted (text : String) : Bool :=
  let s := Strings.toLower (errString text)
  Strings.contains s "not mounted" || Strings.contains s "not currently mounted"

def isAlreadyMirrored (text : String) : Bool := errContains text ["already", "enabled"]

def isParentNotMirrored (text : String) : Bool := errContains text ["parent", "mirror"]

inductive Classifier where
  | notFound | alreadyExists | notMounted | alreadyMirrored | parentNotMirrored | notMirrored
  | alreadyPrimary | alreadySecondary
deriving DecidableEq, Repr

def Classifier.verdict : Classifier → String → Bool
  | .notFound => isNotFound
  | .alreadyExists => isAlreadyExists
  | .notMounted => isNotMounted
  | .alreadyMirrored => isAlreadyMirrored
  | .parentNotMirrored => isParentNotMirrored
  | .notMirrored => isNotMirrored
  | .alreadyPrimary => isAlreadyPrimary
  | .alreadySecondary => isAlreadySecondary

/-- What a classifier looks for: all the words of one of the lists. -/
def Classifier.alternatives : Classifier → List (List String)
  | .notFound => [["does not exist"], ["no such file"], ["not found"]]
  | .alreadyExists => [["exists"], ["file exists"]]
  | .notMounted => [["not mounted"], ["not currently mounted"]]
  | .alreadyMirrored => [["already", "enabled"]]
  | .parentNotMirrored => [["parent", "mirror"]]
  | .notMirrored => [["not", "mirror"]]
  | .alreadyPrimary => [["primary"]]
  | .alreadySecondary => [["non-primary"], ["secondary"]]

def Classifier.words (c : Classifier) : List String := c.alternatives.flatten

/-- The error text of the runner up to what the command printed. -/
def commandText (name : String) (args : List String) (err : String) : String :=
  name ++ " " ++ Strings.join " " args ++ ": " ++ err ++ ": "

/-- The line of a text on which whatever is appended goes on. -/
def lastLine (text : String) : List Char := Strings.lastPiece (· == '\n') text.toList

/-- A word in lower case that neither a colon, nor a line end, nor trimming can cut. -/
def Solid (w : List Char) : Prop :=
  w ≠ [] ∧ ':' ∉ w ∧ '\n' ∉ w ∧ w.head?.any Strings.isSpace = false ∧
    w.getLast?.any Strings.isSpace = false

instance (w : List Char) : Decidable (Solid w) := by
  unfold Solid
  infer_instance

theorem Classifier.solid {c : Classifier} {w : String} (h : w ∈ c.words) : Solid w.toList := by
  have hall : ∀ c : Classifier, ∀ w ∈ c.words, Solid w.toList := by
    intro c
    cases c <;> decide
  exact hall c w h

theorem solid_conf : Solid "ceph.conf".toList := by decide

theorem Classifier.verdict_iff (c : Classifier) (text : String) :
    c.verdict text = true ↔ ∃ ws ∈ c.alternatives, ∀ w ∈ ws, Mentions text w := by
  have hword : ∀ w ∈ c.words, Strings.contains (Strings.toLower (errString text)) w = true ↔
      Mentions text w := by
    intro w hw
    obtain ⟨hne, -, hline, -⟩ := c.solid hw
    exact contains_lower_errString_iff hne hline
  have hlower : ∀ w ∈ c.words, Strings.toLower w = w := by
    cases c <;> decide
  cases c <;>
    simp_all [words, alternatives, verdict, isNotFound, isAlreadyExists, isNotMounted,
      isAlreadyMirrored, isParentNotMirrored, isNotMirrored, isAlreadyPrimary,
      isAlreadySecondary, errContains, or_assoc]

/-! Lines, and the words on them. -/

/-- A line that is not dropped has the word on it. -/
def Says (l w : List Char) : Prop :=
  ¬ "ceph.conf".toList <:+: l ∧ w <:+: l.map Strings.lowerChar

instance (l w : List Char) : Decidable (Says l w) := by
  unfold Says
  infer_instance

def lines (cs : List Char) : List (List Char) := Strings.splitChars (· == '\n') cs

def Told (cs w : List Char) : Prop := ∃ l ∈ lines cs, Says l w

instance (cs w : List Char) : Decidable (Told cs w) := by
  unfold Told
  infer_instance

theorem mentions_iff {text word : String} : Mentions text word ↔ Told text.toList word.toList := by
  simp [Mentions, Told, lines, Says, Strings.split]

section Words

variable {w : List Char} {c : Char} {l q : List Char}

theorem not_says_nil (hw : Solid w) : ¬ Says [] w := by
  rintro ⟨-, h⟩
  exact hw.1 (List.infix_nil.mp h)

theorem Solid.head_ne (hw : Solid w) (hc : Strings.isSpace c = true) : w.head? ≠ some c := by
  intro h
  have := hw.2.2.2.1
  simp [h, hc] at this

theorem Solid.getLast_ne (hw : Solid w) (hc : Strings.isSpace c = true) :
    w.getLast? ≠ some c := by
  intro h
  have := hw.2.2.2.2
  simp [h, hc] at this

theorem says_cons_iff (hw : Solid w) (hc : Strings.isSpace c = true) :
    Says (c :: l) w ↔ Says l w := by
  rw [Says, List.map_cons, Strings.lowerChar_of_isSpace hc,
    Strings.infix_cons_iff_of_head_ne hw.1 (hw.head_ne hc),
    Strings.infix_cons_iff_of_head_ne solid_conf.1 (solid_conf.head_ne hc), Says]

theorem says_concat_iff (hw : Solid w) (hc : Strings.isSpace c = true) :
    Says (l ++ [c]) w ↔ Says l w := by
  rw [Says, List.map_append, List.map_singleton, Strings.lowerChar_of_isSpace hc,
    Strings.infix_concat_iff_of_getLast_ne hw.1 (hw.getLast_ne hc),
    Strings.infix_concat_iff_of_getLast_ne solid_conf.1 (solid_conf.getLast_ne hc), Says]

theorem infix_colon_iff (hw : Solid w) {a b : List Char} :
    w <:+: a ++ ':' :: ' ' :: b ↔ w <:+: a ∨ w <:+: b := by
  rw [Strings.infix_append_cons_iff hw.2.1,
    Strings.infix_cons_iff_of_head_ne hw.1 (hw.head_ne rfl)]

theorem says_colon_iff (hw : Solid w) : Says (q ++ ':' :: ' ' :: l) w ↔
    (¬ "ceph.conf".toList <:+: q ∧ ¬ "ceph.conf".toList <:+: l) ∧
      (w <:+: q.map Strings.lowerChar ∨ w <:+: l.map Strings.lowerChar) := by
  have hmap : (q ++ ':' :: ' ' :: l).map Strings.lowerChar =
      q.map Strings.lowerChar ++ ':' :: ' ' :: l.map Strings.lowerChar := by
    simp only [List.map_append, List.map_cons]
    rfl
  rw [Says, hmap, infix_colon_iff hw, infix_colon_iff solid_conf, not_or]

end Words

section Texts

variable {w a b cs : List Char} {c : Char}

abbrev lastOf (cs : List Char) : List Char := Strings.lastPiece (· == '\n') cs

abbrev firstOf (cs : List Char) : List Char := Strings.firstPiece (· == '\n') cs

theorem told_append : Told (a ++ b) w ↔ (∃ l ∈ (lines a).dropLast, Says l w) ∨
    Says (lastOf a ++ firstOf b) w ∨ ∃ l ∈ (lines b).tail, Says l w := by
  rw [Told, lines, Strings.splitChars_append]
  simp [lines, or_and_right, exists_or]

theorem told_iff_first (cs : List Char) :
    Told cs w ↔ Says (firstOf cs) w ∨ ∃ l ∈ (lines cs).tail, Says l w := by
  rw [Told, lines, Strings.splitChars_eq_cons]
  simp

theorem told_iff_last (cs : List Char) :
    Told cs w ↔ (∃ l ∈ (lines cs).dropLast, Says l w) ∨ Says (lastOf cs) w := by
  rw [Told, lines, Strings.splitChars_eq_concat]
  simp [or_and_right, exists_or]

theorem told_cons_iff (hw : Solid w) (hc : Strings.isSpace c = true) :
    Told (c :: cs) w ↔ Told cs w := by
  rw [← List.singleton_append, told_append, told_iff_first cs]
  by_cases h : c = '\n'
  · subst h
    simp [lines, Strings.splitChars, lastOf, Strings.lastPiece, not_says_nil hw]
  · simp [lines, Strings.splitChars, lastOf, Strings.lastPiece, h, says_cons_iff hw hc]

theorem told_concat_iff (hw : Solid w) (hc : Strings.isSpace c = true) :
    Told (cs ++ [c]) w ↔ Told cs w := by
  rw [told_append, told_iff_last cs]
  by_cases h : c = '\n'
  · subst h
    simp [lines, Strings.splitChars, firstOf, Strings.firstPiece, not_says_nil hw]
  · simp [lines, Strings.splitChars, firstOf, Strings.firstPiece, h, says_concat_iff hw hc]

theorem told_trimChars (hw : Solid w) (cs : List Char) :
    Told (Strings.trimChars cs) w ↔ Told cs w := by
  have hpre : ∀ pre cs : List Char, (∀ c ∈ pre, Strings.isSpace c = true) →
      (Told (pre ++ cs) w ↔ Told cs w) := by
    intro pre cs h
    induction pre with
    | nil => rfl
    | cons c pre ih =>
      rw [List.cons_append, told_cons_iff hw (h c (by simp)), ih fun d hd => h d (by simp [hd])]
  have hpost : ∀ post cs : List Char, (∀ c ∈ post, Strings.isSpace c = true) →
      (Told (cs ++ post) w ↔ Told cs w) := by
    intro post
    induction post with
    | nil => simp
    | cons c post ih =>
      intro cs h
      rw [← List.singleton_append, ← List.append_assoc, ih _ fun d hd => h d (by simp [hd]),
        told_concat_iff hw (h c (by simp))]
  obtain ⟨pre, post, hcs, hfront, hback⟩ := Strings.exists_eq_append_trimChars cs
  conv_rhs => rw [hcs]
  rw [hpost _ _ hback, hpre _ _ hfront]

end Texts

/-! The command line in front of the output. -/

section Command

variable {name err : String} {args : List String} {w : List Char}

theorem toList_runError (stderr : String) : (runError name args ⟨err, stderr⟩).toList =
    (commandText name args err).toList ++ Strings.trimChars stderr.toList := by
  simp [runError, commandText, Strings.toList_trimSpace]

theorem exists_lastLine (name err : String) (args : List String) :
    ∃ q, lastLine (commandText name args err) = q ++ [':', ' '] := by
  have htext : (commandText name args err).toList =
      (name ++ " " ++ Strings.join " " args ++ ": " ++ err).toList ++ [':', ' '] := by
    simp [commandText]
  refine ⟨lastOf (name ++ " " ++ Strings.join " " args ++ ": " ++ err).toList, ?_⟩
  rw [lastLine, htext, Strings.lastPiece, Strings.splitChars_append]
  simp [Strings.splitChars, Strings.firstPiece]

theorem told_command_append_iff (hw : Solid w)
    (hclear : ¬ Told (commandText name args err).toList w)
    (hconf : ¬ "ceph.conf".toList <:+: lastLine (commandText name args err)) (b : List Char) :
    Told ((commandText name args err).toList ++ b) w ↔ Told b w := by
  obtain ⟨q, hq⟩ := exists_lastLine name err args
  rw [told_iff_last, not_or] at hclear
  have hlast : lastOf (commandText name args err).toList = q ++ [':', ' '] := hq
  obtain ⟨hinit, hline⟩ := hclear
  rw [hlast, says_colon_iff hw] at hline
  rw [hq, infix_colon_iff solid_conf, not_or] at hconf
  have hword : ¬ w <:+: q.map Strings.lowerChar := fun h => hline ⟨hconf, .inl h⟩
  rw [told_append, told_iff_first, hlast, List.append_assoc, List.cons_append,
    List.singleton_append, says_colon_iff hw, or_iff_right hinit]
  simp only [hconf.1, hword, false_or, not_false_eq_true, true_and, Says]

theorem told_command_append (hw : Solid w) {b : List Char}
    (hfirst : ¬ "ceph.conf".toList <:+: firstOf b)
    (h : Told (commandText name args err).toList w) :
    Told ((commandText name args err).toList ++ b) w := by
  obtain ⟨q, hq⟩ := exists_lastLine name err args
  have hlast : lastOf (commandText name args err).toList = q ++ [':', ' '] := hq
  rw [told_append]
  rcases (told_iff_last _).mp h with h | h
  · exact .inl h
  · refine .inr (.inl ?_)
    rw [hlast, says_colon_iff hw] at h
    rw [hlast, List.append_assoc, List.cons_append, List.singleton_append, says_colon_iff hw]
    exact ⟨⟨h.1.1, hfirst⟩, h.2.imp_right fun h' => absurd (List.infix_nil.mp h') hw.1⟩

end Command

/-- An output with every word of an alternative but one. -/
def companion (ws : List String) (w : String) : String :=
  ":\n" ++ Strings.join " " (ws.filter (· ≠ w)) ++ ":"

theorem companion_spec {c : Classifier} {ws : List String} (hws : ws ∈ c.alternatives)
    {w : String} (hw : w ∈ ws) : c.verdict (companion ws w) = false ∧
      Strings.trimChars (companion ws w).toList = (companion ws w).toList ∧
      firstOf (companion ws w).toList = [':'] ∧
      ∀ v ∈ ws, v = w ∨ ∃ l ∈ (lines (companion ws w).toList).tail, Says l v.toList := by
  have hall : ∀ c : Classifier, ∀ ws ∈ c.alternatives, ∀ w ∈ ws,
      c.verdict (companion ws w) = false ∧
      Strings.trimChars (companion ws w).toList = (companion ws w).toList ∧
      firstOf (companion ws w).toList = [':'] ∧
      ∀ v ∈ ws, v = w ∨ ∃ l ∈ (lines (companion ws w).toList).tail, Says l v.toList := by
    intro c
    cases c <;> decide +kernel
  exact hall c ws hws w hw

/-- An output that a classifier is made for, on one line. -/
def Classifier.sample (c : Classifier) : String := Strings.join " " (c.alternatives.headD [])

theorem Classifier.sample_spec (c : Classifier) : c.verdict c.sample = true ∧
    Strings.trimChars c.sample.toList = c.sample.toList ∧ (lines c.sample.toList).tail = [] := by
  cases c <;> decide +kernel

section Verdict

variable {c : Classifier} {name err : String} {args : List String}

theorem not_mentions_of_ignores
    (h : ∀ stderr, c.verdict (runError name args ⟨err, stderr⟩) = c.verdict stderr) :
    ∀ w ∈ c.words, ¬ Mentions (commandText name args err) w := by
  intro w hw hin
  obtain ⟨ws, hws, hmem⟩ := List.mem_flatten.mp hw
  obtain ⟨hfalse, htrim, hfirst, hrest⟩ := companion_spec hws hmem
  have htrue : c.verdict (runError name args ⟨err, companion ws w⟩) = true := by
    rw [c.verdict_iff]
    refine ⟨ws, hws, ?_⟩
    intro v hv
    rw [mentions_iff, toList_runError, htrim]
    rcases hrest v hv with rfl | hl
    · refine told_command_append (c.solid hw) ?_ (mentions_iff.mp hin)
      rw [hfirst]
      decide
    · exact told_append.mpr (.inr (.inr hl))
  rw [h, hfalse] at htrue
  cases htrue

theorem not_conf_of_ignores
    (h : ∀ stderr, c.verdict (runError name args ⟨err, stderr⟩) = c.verdict stderr) :
    ¬ "ceph.conf".toList <:+: lastLine (commandText name args err) := by
  intro hconf
  have hclear := not_mentions_of_ignores h
  obtain ⟨htrue, htrim, htail⟩ := c.sample_spec
  rw [← h, c.verdict_iff] at htrue
  obtain ⟨ws, hws, hall⟩ := htrue
  obtain ⟨w, hw⟩ : ∃ w, w ∈ ws := by
    cases ws with
    | nil => exact absurd hws (by cases c <;> decide)
    | cons w ws => exact ⟨w, by simp⟩
  have hin := hclear w (List.mem_flatten.mpr ⟨ws, hws, hw⟩)
  rw [mentions_iff, told_iff_last, not_or] at hin
  have htold := mentions_iff.mp (hall w hw)
  rw [toList_runError, htrim, told_append, htail] at htold
  rcases htold with hl | hl | hl
  · exact hin.1 hl
  · exact hl.1 (hconf.trans (List.infix_append' [] _ _))
  · simp at hl

theorem ignores_of_not_mentions (hclear : ∀ w ∈ c.words, ¬ Mentions (commandText name args err) w)
    (hconf : ¬ "ceph.conf".toList <:+: lastLine (commandText name args err)) (stderr : String) :
    c.verdict (runError name args ⟨err, stderr⟩) = c.verdict stderr := by
  rw [Bool.eq_iff_iff, c.verdict_iff, c.verdict_iff]
  refine exists_congr fun ws => and_congr_right fun hws => forall₂_congr fun w hw => ?_
  have hmem : w ∈ c.words := List.mem_flatten.mpr ⟨ws, hws, hw⟩
  rw [mentions_iff, toList_runError,
    told_command_append_iff (c.solid hmem) (mentions_iff.not.mp (hclear w hmem)) hconf,
    told_trimChars (c.solid hmem), mentions_iff]

end Verdict

/-- A classifier reads what the command printed, whatever that is, exactly when no word it looks
for is in the command line and the line on which the output starts is not dropped. -/
theorem ignores_command_line_iff (c : Classifier) (name : String) (args : List String)
    (err : String) :
    (∀ stderr, c.verdict (runError name args ⟨err, stderr⟩) = c.verdict stderr) ↔
      (∀ w ∈ c.words, ¬ Mentions (commandText name args err) w) ∧
        ¬ "ceph.conf".toList <:+: lastLine (commandText name args err) :=
  ⟨fun h => ⟨not_mentions_of_ignores h, not_conf_of_ignores h⟩,
    fun ⟨hclear, hconf⟩ => ignores_of_not_mentions hclear hconf⟩

/-- The pool `primary` makes every failed promotion look like one of a primary image. -/
theorem pool_name_decides_verdict :
    let refused : ExitError := ⟨"exit status 22", "rbd: denied"⟩
    let promote := fun spec => runError "rbd" ["mirror", "image", "promote", spec] refused
    Classifier.alreadyPrimary.verdict (promote "primary/img") = true ∧
      Classifier.alreadyPrimary.verdict (promote "rbd/img") = false ∧
      Classifier.alreadyPrimary.verdict refused.stderr = false := by
  have hverdict : ∀ text, Classifier.alreadyPrimary.verdict text = true ↔
      Told text.toList "primary".toList := by
    intro text
    rw [Classifier.verdict_iff, ← mentions_iff]
    simp [Classifier.alternatives]
  simp only [← Bool.not_eq_true, hverdict, toList_runError]
  decide +kernel

end BardCsi.Ceph.Classifiers
