import BardCsi.Strings
import BardCsi.Table
import Mathlib.Algebra.BigOperators.Group.List.Lemmas
import Mathlib.Algebra.Order.Ring.Rat
import Mathlib.Data.List.Sort

/-!
The metrics of the driver: counters and histograms kept side by side, and the text a scrape gets.
Label values are arbitrary strings, so two series stay apart in the text only because the escaping
of a value can be undone.
-/
namespace BardCsi.Metrics

section Escaping

/-- The three escapes of the text exposition format. -/
def escapes : List (String × String) := [("\\", "\\\\"), ("\"", "\\\""), ("\n", "\\n")]

def escLabel (s : String) : String :=
  if !Strings.containsAny s "\\\"\n" then s else Strings.replace escapes s

/-- Whether a quote stands in the text that no backslash escapes. -/
def unescapedQuote : List Char → Bool
  | [] => false
  | '\\' :: _ :: cs => unescapedQuote cs
  | c :: cs => c == '"' || unescapedQuote cs

/-- The value up to the quote that ends it, its escapes undone, and the text after the quote. -/
def unquote : List Char → List Char × List Char
  | [] => ([], [])
  | '"' :: cs => ([], cs)
  | '\\' :: c :: cs => ((if c = 'n' then '\n' else c) :: (unquote cs).1, (unquote cs).2)
  | c :: cs => (c :: (unquote cs).1, (unquote cs).2)

def escChar (c : Char) : List Char :=
  if c = '\\' then ['\\', '\\'] else if c = '"' then ['\\', '"']
  else if c = '\n' then ['\\', 'n'] else [c]

theorem escChar_cases (c : Char) :
    (c = '\\' ∧ escChar c = ['\\', '\\']) ∨ (c = '"' ∧ escChar c = ['\\', '"']) ∨
      (c = '\n' ∧ escChar c = ['\\', 'n']) ∨
      (c ≠ '\\' ∧ c ≠ '"' ∧ c ≠ '\n' ∧ escChar c = [c]) := by
  unfold escChar
  grind

theorem replaceChars_escapes (cs : List Char) :
    Strings.replaceChars escapes 0 cs = cs.flatMap escChar := by
  induction cs with
  | nil => rfl
  | cons c cs ih =>
    rw [List.flatMap_cons, ← ih]
    rcases escChar_cases c with ⟨rfl, h⟩ | ⟨rfl, h⟩ | ⟨rfl, h⟩ | ⟨h₁, h₂, h₃, h⟩
    · rfl
    · rfl
    · rfl
    · have hnone : Strings.replacementAt escapes (c :: cs) = none := by
        simp [Strings.replacementAt, escapes, h₁.symm, h₂.symm, h₃.symm]
      rw [Strings.replaceChars, hnone, h]
      rfl

theorem toList_escLabel (s : String) : (escLabel s).toList = s.toList.flatMap escChar := by
  unfold escLabel
  cases hany : Strings.containsAny s "\\\"\n" with
  | true => simp [Strings.replace, replaceChars_escapes]
  | false =>
    have hplain : ∀ c ∈ s.toList, escChar c = [c] := by
      intro c hc
      have hne := List.any_eq_false.mp hany c hc
      simp only [show "\\\"\n".toList = ['\\', '"', '\n'] from rfl, List.mem_cons,
        List.not_mem_nil, or_false, decide_eq_true_eq, not_or] at hne
      rcases escChar_cases c with h | h | h | h
      · exact absurd h.1 hne.1
      · exact absurd h.1 hne.2.1
      · exact absurd h.1 hne.2.2
      · exact h.2.2.2
    rw [List.flatMap_congr hplain]
    simp

theorem unquote_escChars (cs rest : List Char) :
    unquote (cs.flatMap escChar ++ '"' :: rest) = (cs, rest) := by
  induction cs with
  | nil => rfl
  | cons c cs ih =>
    rw [List.flatMap_cons, List.append_assoc]
    rcases escChar_cases c with ⟨rfl, he⟩ | ⟨rfl, he⟩ | ⟨rfl, he⟩ | ⟨hb, hq, -, he⟩
    · simp [he, unquote, ih]
    · simp [he, unquote, ih]
    · simp [he, unquote, ih]
    · rw [he, List.singleton_append, unquote, ih]
      · exact hq
      · exact fun _ _ h => absurd h hb

theorem escLabel_inj {s t : String} (h : escLabel s = escLabel t) : s = t := by
  have hchars := congrArg String.toList h
  rw [toList_escLabel, toList_escLabel] at hchars
  have hread := unquote_escChars s.toList []
  rw [hchars, unquote_escChars] at hread
  exact String.toList_inj.mp (Prod.mk.inj hread).1.symm

theorem newline_notMem_escLabel (s : String) : '\n' ∉ (escLabel s).toList := by
  rw [toList_escLabel, List.mem_flatMap]
  rintro ⟨c, -, hc⟩
  rcases escChar_cases c with ⟨-, he⟩ | ⟨-, he⟩ | ⟨-, he⟩ | ⟨-, -, hn, he⟩ <;> grind

theorem unescapedQuote_escLabel (s : String) : unescapedQuote (escLabel s).toList = false := by
  rw [toList_escLabel]
  induction s.toList with
  | nil => rfl
  | cons c cs ih =>
    rw [List.flatMap_cons]
    rcases escChar_cases c with ⟨-, he⟩ | ⟨-, he⟩ | ⟨-, he⟩ | ⟨hb, hq, -, he⟩
    · rw [he]; exact ih
    · rw [he]; exact ih
    · rw [he]; exact ih
    · rw [he, List.singleton_append, unescapedQuote, ih]
      · simpa using hq
      · intro _ _ h
        simp_all

end Escaping

section Recording

/-- An upper bound in seconds, with the text it is printed as. -/
structure Bound where
  text : String
  le : ℚ

/-- The bounds of a histogram: they increase, and their texts name different buckets. -/
structure Bounds where
  list : List Bound
  increasing : list.Pairwise fun a b => a.le < b.le
  distinct : (list.map Bound.text ++ ["+Inf"]).Nodup

def bucketLe : Bounds where
  list := [⟨"0.005", 5 / 1000⟩, ⟨"0.01", 10 / 1000⟩, ⟨"0.025", 25 / 1000⟩, ⟨"0.05", 50 / 1000⟩,
    ⟨"0.1", 100 / 1000⟩, ⟨"0.25", 250 / 1000⟩, ⟨"0.5", 500 / 1000⟩, ⟨"1", 1⟩, ⟨"2.5", 5 / 2⟩,
    ⟨"5", 5⟩, ⟨"10", 10⟩]
  increasing := by decide +kernel
  distinct := by decide

def pluginBucketLe : Bounds where
  list := [⟨"0.005", 5 / 1000⟩, ⟨"0.025", 25 / 1000⟩, ⟨"0.1", 100 / 1000⟩, ⟨"0.25", 250 / 1000⟩,
    ⟨"0.5", 500 / 1000⟩, ⟨"1", 1⟩, ⟨"2.5", 5 / 2⟩, ⟨"5", 5⟩, ⟨"10", 10⟩, ⟨"30", 30⟩,
    ⟨"60", 60⟩, ⟨"180", 180⟩, ⟨"600", 600⟩]
  increasing := by decide +kernel
  distinct := by decide

/-- The float64 numbers that a sum is made of. Their addition rounds, so its order matters. -/
structure Floats (F : Type) where
  zero : F
  add : F → F → F
  seconds : Int → F

structure Histogram (F : Type) where
  le : Bounds
  buckets : List ℕ
  sum : F
  count : ℕ

/-- `n++` on a `uint64` -/
def next (n : ℕ) : ℕ := (n + 1) % 2 ^ 64

/-- The seconds of a number of nanoseconds. A float64 of them compares with a bound as they do. -/
def seconds (d : Int) : ℚ := d / 1000000000

structure CodeKey where
  method : String
  code : String
deriving DecidableEq

structure PluginKey where
  backend : String
  inst : String
  endpoint : String
deriving DecidableEq

structure PluginResultKey where
  backend : String
  inst : String
  endpoint : String
  result : String
deriving DecidableEq

structure PlacementKey where
  backend : String
  inst : String
  zone : String
  decision : String
  result : String
deriving DecidableEq

structure Collector (F : Type) where
  byMethod : Table String (Histogram F)
  byCode : Table CodeKey ℕ
  pluginDur : Table PluginKey (Histogram F)
  pluginRes : Table PluginResultKey ℕ
  pluginInFlight : Table String Int
  placements : Table PlacementKey ℕ
  inFlight : Int

inductive Call where
  | observe (method code : String) (d : Int)
  | observePluginCall (backendType inst endpoint result : String) (d : Int)

def instanceAll : String := "all"

variable {F κ η : Type} [DecidableEq κ] [DecidableEq η] (A : Floats F)

def newHistogram (le : Bounds) : Histogram F := ⟨le, le.list.map fun _ => 0, A.zero, 0⟩

def Histogram.observe (h : Histogram F) (d : Int) : Histogram F :=
  { h with
    sum := A.add h.sum (A.seconds d)
    count := next h.count
    buckets :=
      List.zipWith (fun b n => if seconds d ≤ b.le then next n else n) h.le.list h.buckets }

def newCollector : Collector F := ⟨.empty, .empty, .empty, .empty, .empty, .empty, 0⟩

/-- `t[k]++` -/
def increment (t : Table κ ℕ) (k : κ) : Table κ ℕ := t.set k (next ((t.get k).getD 0))

/-- Observe in the histogram of the key, which the first observation makes. -/
def observeIn (le : Bounds) (t : Table η (Histogram F)) (k : η) (d : Int) :
    Table η (Histogram F) :=
  t.set k (((t.get k).getD (newHistogram A le)).observe A d)

def Collector.observe (c : Collector F) (method code : String) (d : Int) : Collector F :=
  { c with
    byCode := increment c.byCode ⟨method, code⟩
    byMethod := observeIn A bucketLe c.byMethod method d }

def Collector.observePluginCall (c : Collector F) (backendType inst endpoint result : String)
    (d : Int) : Collector F :=
  let inst := if inst = "" then instanceAll else inst
  { c with
    pluginRes := increment c.pluginRes ⟨backendType, inst, endpoint, result⟩
    pluginDur := observeIn A pluginBucketLe c.pluginDur ⟨backendType, inst, endpoint⟩ d }

def Collector.call (c : Collector F) : Call → Collector F
  | .observe method code d => c.observe A method code d
  | .observePluginCall backendType inst endpoint result d =>
      c.observePluginCall A backendType inst endpoint result d

/-- The collector after a sequence of calls. -/
def record (calls : List Call) : Collector F := calls.foldl (Collector.call A) newCollector

/-- The key and the duration of a call that `observe` records. -/
def Call.grpc : Call → Option (CodeKey × Int)
  | .observe method code d => some (⟨method, code⟩, d)
  | .observePluginCall .. => none

def Call.plugin : Call → Option (PluginResultKey × Int)
  | .observe .. => none
  | .observePluginCall backendType inst endpoint result d =>
      some (⟨backendType, if inst = "" then instanceAll else inst, endpoint, result⟩, d)

def PluginResultKey.pluginKey (k : PluginResultKey) : PluginKey := ⟨k.backend, k.inst, k.endpoint⟩

/-- The histogram of a list of durations, added up in their order. -/
def Histogram.of (le : Bounds) (ds : List Int) : Histogram F where
  le := le
  buckets := le.list.map fun b => ds.countP (seconds · ≤ b.le) % 2 ^ 64
  sum := ds.foldl (fun s d => A.add s (A.seconds d)) A.zero
  count := ds.length % 2 ^ 64

/-- The counter of a key with `n` calls. -/
def counted (n : ℕ) : Option ℕ := if n = 0 then none else some (n % 2 ^ 64)

/-- The histogram of a key whose calls took `ds`. -/
def observed (le : Bounds) (ds : List Int) : Option (Histogram F) :=
  if ds = [] then none else some (.of A le ds)

theorem next_mod (n : ℕ) : next (n % 2 ^ 64) = (n + 1) % 2 ^ 64 := Nat.mod_add_mod n _ 1

theorem counted_succ (n : ℕ) : some (next ((counted n).getD 0)) = counted (n + 1) := by
  by_cases hn : n = 0
  · subst hn
    rfl
  · simp only [counted, hn, if_false, Option.getD_some, next_mod, Nat.succ_ne_zero]

theorem Histogram.of_concat (le : Bounds) (ds : List Int) (d : Int) :
    Histogram.of A le (ds ++ [d]) = (Histogram.of A le ds).observe A d := by
  simp only [Histogram.of, Histogram.observe, List.zipWith_map_right, List.zipWith_self,
    List.foldl_append, List.foldl_cons, List.foldl_nil, List.length_append, List.length_singleton,
    next_mod]
  congr 1
  apply List.map_congr_left
  intro b _
  by_cases hd : seconds d ≤ b.le <;> simp [List.countP_append, hd]

theorem observed_concat (le : Bounds) (ds : List Int) (d : Int) :
    some (((observed A le ds).getD (newHistogram A le)).observe A d) =
      observed A le (ds ++ [d]) := by
  have hof : (observed A le ds).getD (newHistogram A le) = .of A le ds := by
    by_cases hds : ds = []
    · subst hds
      simp [observed, newHistogram, Histogram.of]
    · simp [observed, hds]
  rw [hof, ← Histogram.of_concat, observed, if_neg (by simp)]

/-- The tables of one kind of call have each of the observed calls once: in the counter of its
key, and in the histogram that its key belongs to. -/
def Exact (project : κ → η) (le : Bounds) (calls : List (κ × Int)) (t : Table κ ℕ)
    (u : Table η (Histogram F)) : Prop :=
  (∀ k, t.get k = counted ((calls.map Prod.fst).count k)) ∧
    ∀ key, u.get key = observed A le ((calls.filter (project ·.1 = key)).map Prod.snd)

section

variable {A} {project : κ → η} {le : Bounds} {calls : List (κ × Int)} {t : Table κ ℕ}
  {u : Table η (Histogram F)}

theorem exact_empty : Exact A project le [] .empty .empty := ⟨fun _ => rfl, fun _ => rfl⟩

theorem Exact.call (h : Exact A project le calls t u) (k : κ) (d : Int) :
    Exact A project le (calls ++ [(k, d)]) (increment t k) (observeIn A le u (project k) d) := by
  constructor
  · intro k'
    rw [increment, Table.get_set, h.1, h.1, List.map_append, List.count_append]
    by_cases hk : k' = k
    · simp [hk, counted_succ]
    · simp [hk, Ne.symm hk]
  · intro key
    rw [observeIn, Table.get_set, h.2, h.2, List.filter_append, List.map_append]
    by_cases hkey : key = project k
    · simp [hkey, observed_concat]
    · simp [hkey, Ne.symm hkey]

variable (A) in
/-- The tables of both kinds of call are exact. -/
def Collector.Exact (calls : List Call) (c : Collector F) : Prop :=
  Metrics.Exact A CodeKey.method bucketLe (calls.filterMap Call.grpc) c.byCode c.byMethod ∧
    Metrics.Exact A PluginResultKey.pluginKey pluginBucketLe (calls.filterMap Call.plugin)
      c.pluginRes c.pluginDur

variable (A) in
theorem exact_record (calls : List Call) : (record A calls).Exact A calls := by
  induction calls using List.reverseRecOn with
  | nil => exact ⟨exact_empty, exact_empty⟩
  | append_singleton calls call ih =>
    have hrecord : record A (calls ++ [call]) = (record A calls).call A call := by simp [record]
    rw [hrecord, Collector.Exact, List.filterMap_append, List.filterMap_append]
    cases call with
    | observe method code d =>
      refine ⟨ih.1.call ⟨method, code⟩ d, ?_⟩
      rw [show List.filterMap Call.plugin [_] = [] from rfl, List.append_nil]
      exact ih.2
    | observePluginCall backendType inst endpoint result d =>
      refine ⟨?_, ih.2.call ⟨backendType, _, endpoint, result⟩ d⟩
      rw [show List.filterMap Call.grpc [_] = [] from rfl, List.append_nil]
      exact ih.1

variable (A) in
/-- After any calls with any labels and durations, a request counter is the number of calls with
its labels, and a histogram that of the durations of these calls in their order: no call is lost
or counted twice, and none is counted elsewhere. -/
theorem record_exact (calls : List Call) :
    let c := record A calls
    let grpc := calls.filterMap Call.grpc
    let plugin := calls.filterMap Call.plugin
    (∀ k, c.byCode.get k = counted ((grpc.map Prod.fst).count k)) ∧
      (∀ method, c.byMethod.get method =
        observed A bucketLe ((grpc.filter (·.1.method = method)).map Prod.snd)) ∧
      (∀ k, c.pluginRes.get k = counted ((plugin.map Prod.fst).count k)) ∧
      ∀ key, c.pluginDur.get key =
        observed A pluginBucketLe ((plugin.filter (·.1.pluginKey = key)).map Prod.snd) := by
  obtain ⟨⟨hcode, hmethod⟩, hres, hdur⟩ := exact_record A calls
  exact ⟨hcode, hmethod, hres, hdur⟩

/-- The counts of a histogram increase with its bounds, up to the total count. -/
structure Histogram.Cumulative (h : Histogram F) : Prop where
  length : h.buckets.length = h.le.list.length
  buckets : h.buckets.Pairwise (· ≤ ·)
  count : ∀ n ∈ h.buckets, n ≤ h.count

theorem Histogram.of_cumulative {ds : List Int} (hds : ds.length < 2 ^ 64) :
    (Histogram.of A le ds).Cumulative := by
  have hmod : ∀ p : Int → Bool, ds.countP p % 2 ^ 64 = ds.countP p := fun p =>
    Nat.mod_eq_of_lt (List.countP_le_length.trans_lt hds)
  constructor
  · simp [Histogram.of]
  · refine List.pairwise_map.mpr (le.increasing.imp ?_)
    intro a b hab
    rw [hmod, hmod]
    refine List.countP_mono_left fun d _ hd => ?_
    simp only [decide_eq_true_eq] at hd ⊢
    exact hd.trans hab.le
  · intro n hn
    obtain ⟨b, -, rfl⟩ := List.mem_map.mp hn
    rw [hmod, Histogram.of, Nat.mod_eq_of_lt hds]
    exact List.countP_le_length

/-- The counters of the keys that `p` selects, summed. -/
def total (p : κ → Bool) (t : Table κ ℕ) : ℕ := ((t.entries.filter (p ·.1)).map Prod.snd).sum

theorem total_eq {l : List κ} (ht : ∀ k, t.get k = counted (l.count k))
    (hl : l.length < 2 ^ 64) (p : κ → Bool) : total p t = l.countP p := by
  have hget : ∀ k n, (k, n) ∈ t.entries ↔ k ∈ l ∧ n = l.count k := by
    intro k n
    rw [← Table.get_eq_some_iff, ht, counted,
      Nat.mod_eq_of_lt (List.count_le_length.trans_lt hl)]
    by_cases hk : k ∈ l
    · simp [List.count_eq_zero, hk, eq_comm]
    · simp [List.count_eq_zero.mpr hk, hk]
  have hkeys : (t.entries.map Prod.fst).Perm l.dedup := by
    refine (List.perm_ext_iff_of_nodup t.nodup l.nodup_dedup).mpr fun k => ?_
    simp [hget]
  calc total p t = (((t.entries.map Prod.fst).filter p).map l.count).sum := by
        rw [total, List.filter_map, List.map_map]
        refine congrArg List.sum (List.map_congr_left fun e he => ?_)
        exact ((hget e.1 e.2).mp (List.mem_of_mem_filter he)).2
    _ = ((l.dedup.filter p).map l.count).sum := ((hkeys.filter p).map _).sum_eq
    _ = l.countP p := List.sum_map_count_dedup_filter_eq_countP p l

theorem Exact.count_eq (h : Exact A project le calls t u) (hlen : calls.length < 2 ^ 64) {key : η}
    {m : Histogram F} (hm : u.get key = some m) :
    m.Cumulative ∧ m.count = total (project · == key) t := by
  rw [h.2, observed] at hm
  split_ifs at hm
  obtain rfl := Option.some.inj hm
  have hds : ((calls.filter (project ·.1 = key)).map Prod.snd).length < 2 ^ 64 := by
    rw [List.length_map]
    exact (List.length_filter_le _ _).trans_lt hlen
  refine ⟨Histogram.of_cumulative hds, ?_⟩
  rw [total_eq h.1 (by rwa [List.length_map]), List.countP_map, Histogram.of,
    Nat.mod_eq_of_lt hds, List.length_map, ← List.countP_eq_length_filter]
  rfl

end

end Recording

section Rendering

/-- A line of the text with the labels as they are before the escaping. -/
structure Sample where
  name : String
  labels : List (String × String)
  value : String

/-- The text of a bound has nothing to escape. -/
def labelText (l : String × String) : String := l.1 ++ "=\"" ++ escLabel l.2 ++ "\""

/-- What a sample line has before its value. -/
def Sample.series (s : Sample) : String :=
  if s.labels = [] then s.name
  else
    s.name ++ "\x7b" ++
      Strings.join "," (s.labels.map labelText) ++ "\x7d"

inductive Line where
  | comment (text : String)
  | sample (s : Sample)

def Line.text : Line → String
  | .comment text => "# " ++ text
  | .sample s => s.series ++ " " ++ s.value

def header (name help kind : String) : List Line :=
  [.comment ("HELP " ++ name ++ " " ++ help), .comment ("TYPE " ++ name ++ " " ++ kind)]

variable {F κ β : Type}

/-- The bounds of a histogram with their counts, as they are printed. -/
def Histogram.counts (h : Histogram F) : List (String × ℕ) :=
  ((h.le.list.zip h.buckets).map fun b => (b.1.text, b.2)) ++ [("+Inf", h.count)]

/-- The bucket, sum and count lines of a histogram. `g` prints a float. -/
def hist (g : F → String) (name : String) (labels : List (String × String)) (h : Histogram F) :
    List Line :=
  (h.counts.map fun b =>
    .sample ⟨name ++ "_bucket", labels ++ [("le", b.1)], Strings.itoa b.2⟩) ++
    [.sample ⟨name ++ "_sum", labels, g h.sum⟩,
      .sample ⟨name ++ "_count", labels, Strings.itoa h.count⟩]

def methodFields (method : String) : List (String × String) := [("method", method)]

def CodeKey.fields (k : CodeKey) : List (String × String) :=
  [("method", k.method), ("code", k.code)]

def backendFields (backend : String) : List (String × String) := [("backend", backend)]

def PluginKey.fields (k : PluginKey) : List (String × String) :=
  [("backend", k.backend), ("instance", k.inst), ("endpoint", k.endpoint)]

def PluginResultKey.fields (k : PluginResultKey) : List (String × String) :=
  [("backend", k.backend), ("instance", k.inst), ("endpoint", k.endpoint), ("result", k.result)]

def PlacementKey.fields (k : PlacementKey) : List (String × String) :=
  [("backend", k.backend), ("instance", k.inst), ("zone", k.zone), ("decision", k.decision),
    ("result", k.result)]

/-- The entries of a map in the order of their keys, compared field by field. -/
def sorted (fields : κ → List (String × String)) (t : Table κ β) : List (κ × β) :=
  t.entries.insertionSort fun a b =>
    ¬ ((fields b.1).map Prod.snd < (fields a.1).map Prod.snd)

def values (name : String) (fields : κ → List (String × String)) (print : β → String)
    (t : Table κ β) : List Line :=
  (sorted fields t).map fun e => .sample ⟨name, fields e.1, print e.2⟩

def histograms (g : F → String) (name : String) (fields : κ → List (String × String))
    (t : Table κ (Histogram F)) : List Line :=
  (sorted fields t).flatMap fun e => hist g name (fields e.1) e.2

def Collector.formatGRPC (c : Collector F) (g : F → String) : List Line :=
  header "bard_csi_grpc_requests_total" "Total gRPC requests by method and status code."
    "counter" ++
  values "bard_csi_grpc_requests_total" CodeKey.fields (fun n : ℕ => Strings.itoa n) c.byCode ++
  header "bard_csi_grpc_request_duration_seconds" "gRPC handler latency." "histogram" ++
  histograms g "bard_csi_grpc_request_duration_seconds" methodFields c.byMethod ++
  header "bard_csi_grpc_requests_in_flight" "In-flight gRPC requests." "gauge" ++
  [.sample ⟨"bard_csi_grpc_requests_in_flight", [], Strings.itoa c.inFlight⟩]

def Collector.formatPlugin (c : Collector F) (g : F → String) : List Line :=
  header "bard_csi_plugin_requests_total"
    "Total core->plugin socket calls by backend, instance, endpoint and outcome." "counter" ++
  values "bard_csi_plugin_requests_total" PluginResultKey.fields (fun n : ℕ => Strings.itoa n)
    c.pluginRes ++
  header "bard_csi_plugin_request_duration_seconds"
    "Core->plugin socket round-trip latency (not the backend command inside the plugin)."
    "histogram" ++
  histograms g "bard_csi_plugin_request_duration_seconds" PluginKey.fields c.pluginDur ++
  header "bard_csi_plugin_requests_in_flight"
    "In-flight core->plugin socket calls by backend." "gauge" ++
  values "bard_csi_plugin_requests_in_flight" backendFields Strings.itoa c.pluginInFlight

def Collector.formatPlacements (c : Collector F) : List Line :=
  header "bard_csi_volume_placement_attempts_total"
    ("CreateVolume attempts by backend, instance, zone and how dispatch chose it. Counts " ++
      "attempts (CSI creates are idempotent and retried), not distinct volumes.") "counter" ++
  values "bard_csi_volume_placement_attempts_total" PlacementKey.fields
    (fun n : ℕ => Strings.itoa n) c.placements

/-- The lines of the text that a scrape gets. -/
def Collector.format (c : Collector F) (g : F → String) : List Line :=
  c.formatGRPC g ++ c.formatPlugin g ++ c.formatPlacements

def Line.sample? : Line → Option Sample
  | .comment _ => none
  | .sample s => some s

def samples (lines : List Line) : List Sample := lines.filterMap Line.sample?

/-- The labels up to the closing brace, at most `n` of them, and the text after the brace. -/
def readLabels : ℕ → List Char → List (String × String) × List Char
  | 0, cs => ([], cs)
  | n + 1, cs =>
    let value := unquote ((cs.dropWhile (· ≠ '=')).drop 2)
    let rest := if value.2.head? = some ',' then readLabels n value.2.tail else ([], value.2.tail)
    ((String.ofList (cs.takeWhile (· ≠ '=')), String.ofList value.1) :: rest.1, rest.2)

def nameChar (c : Char) : Bool := c ≠ '\x7b' && c ≠ ' ' && c ≠ '#'

/-- What a scraper makes of a line of the text. -/
def readLine (line : String) : Option Sample :=
  let name := line.toList.takeWhile nameChar
  match line.toList.dropWhile nameChar with
  | [] => none
  | '#' :: _ => none
  | '\x7b' :: cs =>
    let labels := readLabels cs.length cs
    some ⟨String.ofList name, labels.1, String.ofList labels.2.tail⟩
  | _ :: cs => some ⟨String.ofList name, [], String.ofList cs⟩

/-- A sample whose name and label names have no character that ends them. -/
def Sample.Readable (s : Sample) : Prop :=
  s.name.toList.all nameChar ∧ ∀ l ∈ s.labels, '=' ∉ l.1.toList

theorem readLabels_join {n : ℕ} {ls : List (String × String)} (hne : ls ≠ [])
    (hls : ∀ l ∈ ls, '=' ∉ l.1.toList)
    (hn : (Strings.join "," (ls.map labelText)).toList.length < n) (cs : List Char) :
    readLabels n ((Strings.join "," (ls.map labelText)).toList ++ '\x7d' :: cs) = (ls, cs) := by
  induction n generalizing ls with
  | zero => exact absurd hn (Nat.not_lt_zero _)
  | succ n ih =>
    obtain ⟨l, ls, rfl⟩ := List.exists_cons_of_ne_nil hne
    have hname : ∀ c ∈ l.1.toList, decide (c ≠ '=') = true := fun c hc =>
      decide_eq_true fun h => hls l (by simp) (h ▸ hc)
    have hfirst : ∀ rest, readLabels (n + 1) ((labelText l).toList ++ rest) =
        let r := if rest.head? = some ',' then readLabels n rest.tail else ([], rest.tail)
        (l :: r.1, r.2) := by
      intro rest
      simp only [labelText, String.toList_append, List.append_assoc, toList_escLabel]
      rw [readLabels, List.dropWhile_append_of_pos hname, List.takeWhile_append_of_pos hname]
      simp [unquote_escChars]
    cases ls with
    | nil => simpa [Strings.join] using hfirst ('\x7d' :: cs)
    | cons l' ls =>
      rw [List.map_cons, List.map_cons, Strings.toList_join_cons] at hn ⊢
      have hrest := ih (List.cons_ne_nil l' ls) (fun x hx => hls x (List.mem_cons_of_mem _ hx))
        (by simp at hn ⊢; omega)
      rw [List.append_assoc, List.append_assoc, hfirst]
      rw [List.map_cons] at hrest
      simp [hrest]

theorem readLine_text {s : Sample} (h : s.Readable) : readLine (Line.sample s).text = some s := by
  have hname := List.all_eq_true.mp h.1
  have hspace : nameChar ' ' = false := by decide
  have hbrace : nameChar '\x7b' = false := by decide
  by_cases hls : s.labels = []
  · have htext : (Line.sample s).text.toList = s.name.toList ++ ' ' :: s.value.toList := by
      simp [Line.text, Sample.series, hls]
    simp [readLine, htext, List.takeWhile_append_of_pos hname,
      List.dropWhile_append_of_pos hname, hspace, ← hls]
  · have htext : (Line.sample s).text.toList = s.name.toList ++ '\x7b' :: ((Strings.join ","
        (s.labels.map labelText)).toList ++ '\x7d' :: ' ' :: s.value.toList) := by
      simp [Line.text, Sample.series, hls]
    simp only [readLine, htext, List.takeWhile_append_of_pos hname,
      List.dropWhile_append_of_pos hname, hbrace, List.takeWhile_cons_of_neg,
      List.dropWhile_cons_of_neg, Bool.false_eq_true, not_false_eq_true]
    rw [readLabels_join hls h.2 (by simp)]
    simp

theorem read_text {lines : List Line} (h : ∀ s ∈ samples lines, s.Readable) :
    (lines.map Line.text).filterMap readLine = samples lines := by
  rw [List.filterMap_map]
  refine List.filterMap_congr fun line hline => ?_
  cases line with
  | comment text => simp [Line.text, readLine, Line.sample?, nameChar]
  | sample s => exact readLine_text (h s (List.mem_filterMap.mpr ⟨_, hline, rfl⟩))

/-- Two samples of different series. -/
def Sample.Distinct (s s' : Sample) : Prop := ¬ (s.name = s'.name ∧ s.labels.Perm s'.labels)

/-- Samples with names from a list, all of different series. -/
structure Apart (names : List String) (l : List Sample) : Prop where
  distinct : l.Pairwise Sample.Distinct
  names : ∀ s ∈ l, s.name ∈ names
  labels : ∀ s ∈ l, ∀ f ∈ s.labels, '=' ∉ f.1.toList

theorem Apart.append {names names' : List String} {l l' : List Sample} (h : Apart names l)
    (h' : Apart names' l') (hnames : ∀ n ∈ names, n ∉ names') :
    Apart (names ++ names') (l ++ l') := by
  constructor
  · refine List.pairwise_append.mpr ⟨h.distinct, h'.distinct, ?_⟩
    rintro s hs s' hs' ⟨hname, -⟩
    exact hnames _ (h.names s hs) (hname ▸ h'.names s' hs')
  · intro s hs
    exact List.mem_append.mpr ((List.mem_append.mp hs).imp (h.names s) (h'.names s))
  · intro s hs
    exact (List.mem_append.mp hs).elim (h.labels s) (h'.labels s)

/-- The fields of a key can be told from its labels, also beside a bound. -/
structure Separating (fields : κ → List (String × String)) : Prop where
  inj : ∀ k k' t, fields k ⊆ fields k' ++ [("le", t)] → k = k'
  names : ∀ k, ∀ f ∈ fields k, f.1 ≠ "le" ∧ '=' ∉ f.1.toList

theorem methodFields_separating : Separating methodFields where
  inj k k' t h := by simpa [methodFields] using h
  names k := by simp [methodFields]

theorem backendFields_separating : Separating backendFields where
  inj k k' t h := by simpa [backendFields] using h
  names k := by simp [backendFields]

theorem codeKey_separating : Separating CodeKey.fields where
  inj := by
    rintro ⟨⟩ ⟨⟩ t h
    simpa [CodeKey.fields] using h
  names k := by simp [CodeKey.fields]

theorem pluginKey_separating : Separating PluginKey.fields where
  inj := by
    rintro ⟨⟩ ⟨⟩ t h
    simpa [PluginKey.fields] using h
  names k := by simp [PluginKey.fields]

theorem pluginResultKey_separating : Separating PluginResultKey.fields where
  inj := by
    rintro ⟨⟩ ⟨⟩ t h
    simpa [PluginResultKey.fields] using h
  names k := by simp [PluginResultKey.fields]

theorem placementKey_separating : Separating PlacementKey.fields where
  inj := by
    rintro ⟨⟩ ⟨⟩ t h
    simpa [PlacementKey.fields] using h
  names k := by simp [PlacementKey.fields]

theorem nodup_sorted (fields : κ → List (String × String)) (t : Table κ β) :
    ((sorted fields t).map Prod.fst).Nodup :=
  Table.nodup_of_perm (List.perm_insertionSort _ _) t.nodup

@[simp] theorem samples_map (f : β → Sample) (l : List β) :
    samples (l.map fun x => .sample (f x)) = l.map f := by
  simp [samples, List.filterMap_map, Function.comp_def, Line.sample?]

@[simp] theorem samples_append (l l' : List Line) : samples (l ++ l') = samples l ++ samples l' :=
  List.filterMap_append

@[simp] theorem samples_header (name help kind : String) : samples (header name help kind) = [] :=
  rfl

theorem samples_hist (g : F → String) (name : String) (ls : List (String × String))
    (h : Histogram F) :
    samples (hist g name ls h) =
      (h.counts.map fun b => ⟨name ++ "_bucket", ls ++ [("le", b.1)], Strings.itoa b.2⟩) ++
        [⟨name ++ "_sum", ls, g h.sum⟩, ⟨name ++ "_count", ls, Strings.itoa h.count⟩] := by
  rw [hist, samples_append, samples_map]
  rfl

theorem Histogram.pairwise_counts (h : Histogram F) :
    h.counts.Pairwise fun a b => a.1 ≠ b.1 := by
  obtain ⟨htexts, -, hinf⟩ := List.nodup_append.mp h.le.distinct
  refine List.pairwise_append.mpr ⟨?_, List.pairwise_singleton _ _, ?_⟩
  · rw [List.pairwise_map, List.pairwise_iff_getElem]
    intro i j hi hj hij
    simp only [List.length_zip, lt_inf_iff] at hi hj
    simp only [List.getElem_zip]
    exact List.pairwise_iff_getElem.mp (List.pairwise_map.mp htexts) i j hi.1 hj.1 hij
  · rintro a ha b hb
    obtain ⟨x, hx, rfl⟩ := List.mem_map.mp ha
    rw [List.mem_singleton.mp hb]
    exact hinf _ (List.mem_map_of_mem (List.of_mem_zip hx).1) _ (List.mem_singleton_self _)

def histogramNames (name : String) : List String :=
  [name ++ "_bucket", name ++ "_sum", name ++ "_count"]

section

variable {fields : κ → List (String × String)} (hf : Separating fields) {name : String}
include hf

variable (name) in
theorem values_apart (print : β → String) (t : Table κ β) :
    Apart [name] (samples (values name fields print t)) := by
  rw [values, samples_map]
  constructor
  · refine List.pairwise_map.mpr ((List.pairwise_map.mp (nodup_sorted fields t)).imp ?_)
    rintro e e' hne ⟨-, hperm⟩
    exact hne (hf.inj e.1 e'.1 "" fun l hl => List.mem_append_left _ (hperm.subset hl))
  · simp only [List.forall_mem_map]
    exact fun _ _ => List.mem_singleton_self _
  · simp only [List.forall_mem_map]
    exact fun e _ f hmem => (hf.names e.1 f hmem).2

theorem Separating.of_perm {k k' : κ} {t t' : String}
    (h : (fields k ++ [("le", t)]).Perm (fields k' ++ [("le", t')])) : k = k' ∧ t = t' := by
  refine ⟨hf.inj k k' t' fun l hl => h.subset (List.mem_append_left _ hl), ?_⟩
  rcases List.mem_append.mp (h.subset (List.mem_append_right _ (List.mem_singleton_self _)))
    with hl | hl
  · exact absurd rfl (hf.names k' _ hl).1
  · simpa using hl

omit hf in
theorem mem_samples_hist {g : F → String} {ls : List (String × String)} {h : Histogram F}
    {s : Sample} (hs : s ∈ samples (hist g name ls h)) :
    (∃ b ∈ h.counts, s.name = name ++ "_bucket" ∧ s.labels = ls ++ [("le", b.1)]) ∨
      (s.name = name ++ "_sum" ∨ s.name = name ++ "_count") ∧ s.labels = ls := by
  rw [samples_hist] at hs
  simp only [List.mem_append, List.mem_map, List.mem_cons, List.not_mem_nil, or_false] at hs
  rcases hs with ⟨b, hb, rfl⟩ | rfl | rfl
  · exact .inl ⟨b, hb, rfl, rfl⟩
  · exact .inr ⟨.inl rfl, rfl⟩
  · exact .inr ⟨.inr rfl, rfl⟩

theorem hist_distinct (g : F → String) (k : κ) (h : Histogram F) :
    (samples (hist g name (fields k) h)).Pairwise Sample.Distinct := by
  rw [samples_hist]
  refine List.pairwise_append.mpr ⟨?_, ?_, ?_⟩
  · refine List.pairwise_map.mpr (h.pairwise_counts.imp ?_)
    rintro a b hne ⟨-, hperm⟩
    exact hne (hf.of_perm hperm).2
  · simp [Sample.Distinct]
  · rintro s hs s' hs' ⟨hname, -⟩
    obtain ⟨b, -, rfl⟩ := List.mem_map.mp hs
    simp only [List.mem_cons, List.not_mem_nil, or_false] at hs'
    rcases hs' with rfl | rfl
    · simp at hname
    · simp at hname

theorem key_eq_of_mem_hist {g : F → String} {k k' : κ} {h h' : Histogram F} {s s' : Sample}
    (hs : s ∈ samples (hist g name (fields k) h))
    (hs' : s' ∈ samples (hist g name (fields k') h')) (hsame : ¬ s.Distinct s') :
    k = k' := by
  obtain ⟨hname, hperm⟩ := not_not.mp hsame
  rcases mem_samples_hist hs with ⟨b, -, hn, hl⟩ | ⟨hn, hl⟩ <;>
    rcases mem_samples_hist hs' with ⟨b', -, hn', hl'⟩ | ⟨hn', hl'⟩
  · rw [hl, hl'] at hperm
    exact (hf.of_perm hperm).1
  · rw [hn] at hname
    rcases hn' with hn' | hn' <;> simp [hn'] at hname
  · rw [hn'] at hname
    rcases hn with hn | hn <;> simp [hn] at hname
  · rw [hl, hl'] at hperm
    exact hf.inj k k' "" fun l hl => List.mem_append_left _ (hperm.subset hl)

variable (name) in
theorem histograms_apart (g : F → String) (t : Table κ (Histogram F)) :
    Apart (histogramNames name) (samples (histograms g name fields t)) := by
  have hsamples : samples (histograms g name fields t) =
      (sorted fields t).flatMap fun e => samples (hist g name (fields e.1) e.2) :=
    List.filterMap_flatMap
  rw [hsamples]
  constructor
  · refine List.pairwise_flatMap.mpr ⟨fun e _ => hist_distinct hf g e.1 e.2, ?_⟩
    refine (List.pairwise_map.mp (nodup_sorted fields t)).imp ?_
    intro e e' hne s hs s' hs'
    exact not_not.mp fun hsame => hne (key_eq_of_mem_hist hf hs hs' hsame)
  · intro s hs
    obtain ⟨e, -, hs⟩ := List.mem_flatMap.mp hs
    rcases mem_samples_hist hs with ⟨b, -, hn, -⟩ | ⟨hn | hn, -⟩ <;> simp [hn, histogramNames]
  · intro s hs f hmem
    obtain ⟨e, -, hs⟩ := List.mem_flatMap.mp hs
    rcases mem_samples_hist hs with ⟨b, -, -, hl⟩ | ⟨-, hl⟩ <;> rw [hl] at hmem
    · rcases List.mem_append.mp hmem with hmem | hmem
      · exact (hf.names e.1 f hmem).2
      · simp [List.mem_singleton.mp hmem]
    · exact (hf.names e.1 f hmem).2

end

theorem inFlight_apart (value : String) :
    Apart ["bard_csi_grpc_requests_in_flight"]
      (samples [.sample ⟨"bard_csi_grpc_requests_in_flight", [], value⟩]) := by
  exact ⟨List.pairwise_singleton _ _, by simp [samples, Line.sample?],
    by simp [samples, Line.sample?]⟩

theorem format_apart (c : Collector F) (g : F → String) :
    ∃ names, Apart names (samples (c.format g)) ∧ ∀ n ∈ names, n.toList.all nameChar := by
  have hcode := values_apart codeKey_separating "bard_csi_grpc_requests_total"
    (fun n : ℕ => Strings.itoa n) c.byCode
  have hmethod := histograms_apart methodFields_separating
    "bard_csi_grpc_request_duration_seconds" g c.byMethod
  have hres := values_apart pluginResultKey_separating "bard_csi_plugin_requests_total"
    (fun n : ℕ => Strings.itoa n) c.pluginRes
  have hdur := histograms_apart pluginKey_separating "bard_csi_plugin_request_duration_seconds"
    g c.pluginDur
  have hcalls := values_apart backendFields_separating "bard_csi_plugin_requests_in_flight"
    Strings.itoa c.pluginInFlight
  have hplaced := values_apart placementKey_separating "bard_csi_volume_placement_attempts_total"
    (fun n : ℕ => Strings.itoa n) c.placements
  have hgrpc := (hcode.append hmethod (by decide)).append
    (inFlight_apart (Strings.itoa c.inFlight)) (by decide)
  have hplugin := (hres.append hdur (by decide)).append hcalls (by decide)
  simp only [Collector.format, Collector.formatGRPC, Collector.formatPlugin,
    Collector.formatPlacements, samples_append, samples_header, List.nil_append, List.append_nil]
  exact ⟨_, (hgrpc.append hplugin (by decide)).append hplaced (by decide), by decide⟩

/-- The lines of each histogram of a map are printed, one after the other. -/
theorem hist_printed [DecidableEq κ] {t : Table κ (Histogram F)} {k : κ} {h : Histogram F}
    (hget : t.get k = some h) (g : F → String) (name : String)
    (fields : κ → List (String × String)) :
    hist g name (fields k) h <:+: histograms g name fields t := by
  have hmem : (k, h) ∈ sorted fields t :=
    (List.perm_insertionSort _ _).mem_iff.mpr (Table.get_eq_some_iff.mp hget)
  obtain ⟨l, l', hl⟩ := List.append_of_mem hmem
  rw [histograms, hl, List.flatMap_append, List.flatMap_cons]
  exact ⟨_, _, List.append_assoc ..⟩

/-- The text a scrape gets after fewer than `2 ^ 64` calls. A reader of the lines finds no series
twice, though label values are arbitrary: the escaping can be undone, and an escaped value stays
in its line and its quotes. The lines of every histogram are in the text, its counts are
cumulative, and it has counted what the request counters have. -/
theorem exposition_wellFormed (A : Floats F) (g : F → String) (calls : List Call)
    (hcalls : calls.length < 2 ^ 64) :
    let c := record A calls
    let text := (c.format g).map Line.text
    (text.filterMap readLine = samples (c.format g) ∧
        (text.filterMap readLine).Pairwise Sample.Distinct) ∧
      Function.Injective escLabel ∧
      (∀ s, '\n' ∉ (escLabel s).toList ∧ unescapedQuote (escLabel s).toList = false) ∧
      (∀ method h, c.byMethod.get method = some h →
        (hist g "bard_csi_grpc_request_duration_seconds" (methodFields method) h).map Line.text
            <:+: text ∧
          h.Cumulative ∧ h.count = total (·.method == method) c.byCode) ∧
      ∀ key h, c.pluginDur.get key = some h →
        (hist g "bard_csi_plugin_request_duration_seconds" key.fields h).map Line.text
            <:+: text ∧
          h.Cumulative ∧ h.count = total (·.pluginKey == key) c.pluginRes := by
  intro c text
  obtain ⟨names, hapart, hnames⟩ := format_apart c g
  have hread : text.filterMap readLine = samples (c.format g) :=
    read_text fun s hs => ⟨hnames _ (hapart.names s hs), hapart.labels s hs⟩
  obtain ⟨hgrpc, hplugin⟩ := exact_record A calls
  refine ⟨⟨hread, hread ▸ hapart.distinct⟩, fun _ _ => escLabel_inj, ?_, ?_, ?_⟩
  · exact fun s => ⟨newline_notMem_escLabel s, unescapedQuote_escLabel s⟩
  · intro method h hget
    have hprinted : histograms g "bard_csi_grpc_request_duration_seconds" methodFields c.byMethod
        <:+: c.formatGRPC g :=
      List.infix_append_of_infix_left (List.infix_append_of_infix_left List.infix_append_right)
    exact ⟨((hist_printed hget g _ _).trans (List.infix_append_of_infix_left
      (List.infix_append_of_infix_left hprinted))).map _,
      hgrpc.count_eq ((List.length_filterMap_le _ _).trans_lt hcalls) hget⟩
  · intro key h hget
    have hprinted : histograms g "bard_csi_plugin_request_duration_seconds" PluginKey.fields
        c.pluginDur <:+: c.formatPlugin g :=
      List.infix_append_of_infix_left (List.infix_append_of_infix_left List.infix_append_right)
    exact ⟨((hist_printed hget g _ _).trans (List.infix_append_of_infix_left
      (List.infix_append_of_infix_right hprinted))).map _,
      hplugin.count_eq ((List.length_filterMap_le _ _).trans_lt hcalls) hget⟩

/-- Sums without rounding. -/
def exactFloats : Floats ℚ := ⟨0, (· + ·), seconds⟩

theorem exposition_wellFormed_two_codes :
    let c := record exactFloats [.observe "m" "OK" 0, .observe "m" "Aborted" 7000000]
    ∃ h, c.byMethod.get "m" = some h ∧ h.count = total (·.method == "m") c.byCode := by
  intro c
  exact ⟨_, rfl, ((exposition_wellFormed exactFloats (fun _ => "") _ (by decide)).2.2.2.1 "m" _
    rfl).2.2⟩

/-- The count wraps before a bucket does that a call was too long for. -/
theorem wrapped_count_below_bucket :
    ∃ calls h, (record exactFloats calls).byMethod.get "m" = some h ∧
      ∃ n ∈ h.buckets, h.count < n := by
  have hrun : ∀ n < 2 ^ 64, ∃ calls h, (record exactFloats calls).byMethod.get "m" = some h ∧
      n ∈ h.buckets ∧ h.count = (n + 1) % 2 ^ 64 := by
    intro n hn
    have hget := (exact_record exactFloats (List.replicate n (.observe "m" "OK" 0) ++
      [.observe "m" "OK" 20000000000])).1.2 "m"
    refine ⟨_, .of exactFloats bucketLe (List.replicate n 0 ++ [20000000000]), hget.trans ?_, ?_,
      ?_⟩
    · have hsome : Call.grpc (.observe "m" "OK" 0) = some (⟨"m", "OK"⟩, 0) := rfl
      simp [observed, List.filterMap_replicate_of_some hsome, Call.grpc]
    · refine List.mem_map.mpr ⟨⟨"10", 10⟩, by simp [bucketLe], ?_⟩
      have hshort : seconds 0 ≤ 10 := by decide +kernel
      have hlong : ¬ seconds 20000000000 ≤ 10 := by decide +kernel
      simpa [List.countP_append, List.countP_replicate, hshort, hlong] using hn
    · simp [Histogram.of]
  obtain ⟨calls, h, hget, hmem, hcount⟩ := hrun (2 ^ 64 - 1) (by decide)
  exact ⟨calls, h, hget, _, hmem, by rw [hcount]; decide⟩

end Rendering

end BardCsi.Metrics
