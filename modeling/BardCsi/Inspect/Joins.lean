import BardCsi.Inspect.Scan

/-!
What the parts of a scan compute: what is known after collecting, which instances count as
missing, and what a join of objects with listed handles has found at its end.
-/
namespace BardCsi.Inspect

open VolumeId (Handle Bytes Malformed bytes sep)
open Driver (VolumeListEntry SnapshotListEntry BackendError)

section Keys

variable {β : Type} {t : Table Bytes β} {k : Bytes}

theorem sortBy_perm {α : Type} (key : α → Bytes) (l : List α) : (sortBy key l).Perm l :=
  List.mergeSort_perm l _

theorem sortedKeys_perm : (sortedKeys t).Perm (t.entries.map Prod.fst) := sortBy_perm _ _

theorem mem_sortedKeys : k ∈ sortedKeys t ↔ (t.get k).isSome := by
  rw [sortedKeys_perm.mem_iff, List.mem_map]
  constructor
  · rintro ⟨⟨k, v⟩, hmem, rfl⟩
    rw [Table.get_eq_some_iff.mpr hmem]
    rfl
  · intro h
    obtain ⟨v, hv⟩ := Option.isSome_iff_exists.mp h
    exact ⟨(k, v), Table.get_eq_some_iff.mp hv, rfl⟩

end Keys

/-! Collecting. -/

section Replies

variable {ε : Type} (call : BackendTruth → Except BackendError (List ε)) (backends : Backends)

/-- A listing call of a backend that succeeds. -/
def Lists (bt : Bytes) (entries : List ε) : Prop :=
  ∃ be, backends.get bt = some be ∧ call be = .ok entries

/-- A listing call of a backend that fails. -/
def Fails (bt : Bytes) (err : BackendError) : Prop :=
  ∃ be, backends.get bt = some be ∧ call be = .error err

/-- The replies of the backends of the types that have been asked. -/
structure Replied (what affected : String) (asked : List Bytes) (r : Replies ε) : Prop where
  listed : ∀ bt entries, r.listed.get bt = some entries ↔
    bt ∈ asked ∧ Lists call backends bt entries
  unlisted : ∀ bt, bt ∈ r.unlisted ↔
    bt ∈ asked ∧ ∃ err, Fails call backends bt err ∧ err.kind = .unsupported
  skipped : ∀ bt ∈ asked, ∀ err, Fails call backends bt err → err.kind ≠ .unsupported →
    listingFailed bt what affected err ∈ r.skips

variable {call backends} {what affected : String} {asked : List Bytes} {r : Replies ε}
variable {bt : Bytes} {be : BackendTruth}

theorem Replied.notMem_unlisted (h : Replied call backends what affected asked r)
    {entries : List ε} (hlists : Lists call backends bt entries) : bt ∉ r.unlisted := by
  rw [h.unlisted]
  rintro ⟨-, err, ⟨be', hbe', herr⟩, -⟩
  obtain ⟨be, hbe, hok⟩ := hlists
  obtain rfl := Option.some.inj (hbe.symm.trans hbe')
  rw [hok] at herr
  cases herr

theorem replied_nil {skips : List Skip} :
    Replied call backends what affected [] ⟨.empty, [], skips⟩ where
  listed _ _ := by simp
  unlisted _ := by simp
  skipped _ h := by cases h

theorem Replied.mono (h : Replied call backends what affected asked r) {r' : Replies ε}
    (hlisted : r'.listed = r.listed) (hunlisted : r'.unlisted = r.unlisted)
    (hskips : ∀ s ∈ r.skips, s ∈ r'.skips) : Replied call backends what affected asked r' where
  listed bt entries := by rw [hlisted, h.listed]
  unlisted bt := by rw [hunlisted, h.unlisted]
  skipped bt hbt err hfails hkind := hskips _ (h.skipped bt hbt err hfails hkind)

theorem mem_skips_add {s : Skip} (hs : s ∈ r.skips) (reply : Except BackendError (List ε)) :
    s ∈ (r.add what affected bt reply).skips := by
  unfold Replies.add
  split
  · exact hs
  · split_ifs
    · exact hs
    · exact List.mem_append_left _ hs

theorem Replied.add (h : Replied call backends what affected asked r)
    (hbe : backends.get bt = some be) :
    Replied call backends what affected (bt :: asked) (r.add what affected bt (call be)) := by
  have hlists : ∀ entries, Lists call backends bt entries ↔ call be = .ok entries := by
    simp [Lists, hbe]
  have hfails : ∀ err, Fails call backends bt err ↔ call be = .error err := by
    simp [Fails, hbe]
  constructor
  · intro bt' entries
    rw [List.mem_cons]
    by_cases hbt : bt' = bt
    · subst hbt
      rw [hlists]
      rcases hcall : call be with err | found
      · have hlisted : (r.add what affected bt' (.error err)).listed = r.listed := by
          unfold Replies.add
          dsimp only
          split_ifs <;> rfl
        rw [hlisted, h.listed, hlists, hcall]
        simp
      · simp [Replies.add, Table.get_set]
    · have hlisted : (r.add what affected bt (call be)).listed.get bt' = r.listed.get bt' := by
        unfold Replies.add
        split
        · rw [Table.get_set, if_neg hbt]
        · split_ifs <;> rfl
      rw [hlisted, h.listed]
      simp [hbt]
  · intro bt'
    rw [List.mem_cons]
    by_cases hbt : bt' = bt
    · subst hbt
      simp only [hfails, true_or, true_and]
      rcases hcall : call be with err | found
      · by_cases hkind : err.kind = .unsupported
        · simp [Replies.add, hkind]
        · have hnot : bt' ∉ r.unlisted := by
            rw [h.unlisted]
            rintro ⟨-, err', hfail, hkind'⟩
            rw [hfails, hcall] at hfail
            cases hfail
            exact hkind hkind'
          simp [Replies.add, hkind, hnot]
      · have hnot : bt' ∉ r.unlisted := by
          rw [h.unlisted]
          rintro ⟨-, err', hfail, -⟩
          rw [hfails, hcall] at hfail
          cases hfail
        simp [Replies.add, hnot]
    · have hunlisted : bt' ∈ (r.add what affected bt (call be)).unlisted ↔ bt' ∈ r.unlisted := by
        unfold Replies.add
        split
        · rfl
        · split_ifs
          · simp [hbt]
          · rfl
      rw [hunlisted, h.unlisted]
      simp [hbt]
  · intro bt' hbt' err hfail hkind
    rcases List.mem_cons.mp hbt' with rfl | hbt'
    · rw [hfails] at hfail
      rw [hfail]
      simp [Replies.add, hkind]
    · exact mem_skips_add (h.skipped bt' hbt' err hfail hkind) _

end Replies

/-- What is known once the backends of the given types have been asked. -/
structure Collected (ob : Objects) (backends : Backends) (asked : List Bytes) (st : State) :
    Prop where
  objects : st.toObjects = ob
  probes : st.healthProbes = .empty
  volumes : Replied BackendTruth.listVolumes backends "volumes" "ghost-pv, orphan-volume" asked
    st.volumeReplies
  snapshots : Replied BackendTruth.listSnapshots backends "snapshots"
    "ghost-snapshot, orphan-snapshot" asked st.snapshotReplies

section Collect

variable {ob : Objects} {backends : Backends} {asked : List Bytes} {st : State} {bt : Bytes}

theorem collected_start : Collected ob backends [] ob.start :=
  ⟨rfl, rfl, replied_nil, replied_nil⟩

theorem Collected.ask (h : Collected ob backends asked st) (hbt : (backends.get bt).isSome) :
    Collected ob backends (bt :: asked) (collectBackend backends st bt) := by
  obtain ⟨be, hbe⟩ := Option.isSome_iff_exists.mp hbt
  have hstep : collectBackend backends st bt =
      collectSnapshots (collectVolumes st bt be) bt be := by
    rw [collectBackend, hbe]
  have hsnapshots : Replied BackendTruth.listSnapshots backends "snapshots"
      "ghost-snapshot, orphan-snapshot" asked (collectVolumes st bt be).snapshotReplies :=
    h.snapshots.mono rfl rfl fun s hs => mem_skips_add (r := st.volumeReplies) hs be.listVolumes
  rw [hstep]
  refine ⟨h.objects, h.probes, (h.volumes.add hbe).mono rfl rfl fun s hs => ?_,
    hsnapshots.add hbe⟩
  exact mem_skips_add (r := (collectVolumes st bt be).snapshotReplies) hs be.listSnapshots

theorem Collected.askAll {keys : List Bytes} (h : Collected ob backends asked st)
    (hkeys : ∀ bt ∈ keys, (backends.get bt).isSome) :
    Collected ob backends (keys.reverse ++ asked) (keys.foldl (collectBackend backends) st) := by
  induction keys generalizing asked st with
  | nil => exact h
  | cons bt keys ih =>
    rw [List.forall_mem_cons] at hkeys
    rw [List.reverse_cons, List.append_assoc, List.foldl_cons]
    exact ih (h.ask hkeys.1) hkeys.2

theorem collected (ob : Objects) (backends : Backends) :
    Collected ob backends (sortedKeys backends).reverse
      (collectBackendTruth ob.start backends) := by
  rw [← List.append_nil (sortedKeys backends).reverse]
  exact collected_start.askAll fun bt hbt => mem_sortedKeys.mp hbt

section

variable {entries : List VolumeListEntry} {snapshots : List SnapshotListEntry}

theorem mem_asked : bt ∈ (sortedKeys backends).reverse ↔ ∃ be, backends.get bt = some be := by
  rw [List.mem_reverse, mem_sortedKeys, Option.isSome_iff_exists]

theorem collect_objects : (collect ob backends).toObjects = ob := (collected ob backends).objects

theorem collect_volumes : (collect ob backends).backendVolumes.get bt = some entries ↔
    Lists BackendTruth.listVolumes backends bt entries := by
  refine ((collected ob backends).volumes.listed bt entries).trans (and_iff_right_of_imp ?_)
  rintro ⟨be, hbe, -⟩
  exact mem_asked.mpr ⟨be, hbe⟩

theorem collect_snapshots : (collect ob backends).backendSnapshots.get bt = some snapshots ↔
    Lists BackendTruth.listSnapshots backends bt snapshots := by
  refine ((collected ob backends).snapshots.listed bt snapshots).trans (and_iff_right_of_imp ?_)
  rintro ⟨be, hbe, -⟩
  exact mem_asked.mpr ⟨be, hbe⟩

end

end Collect

/-! Missing instances. -/

/-- Some probe that was recorded says that the plugin does not know the instance. -/
def ReportedUnknown (st : State) (bt inst : Bytes) : Prop :=
  ∃ hs probe h, st.healthProbes.get hs = some probe ∧ probe.instanceUnknown = true ∧
    VolumeId.parse hs = .ok h ∧ h.backend = bt ∧ h.inst = inst

section Missing

variable {o : Orders} {st : State} {h h' : Handle}

theorem sep_notMem_backend {s : Bytes} (hp : VolumeId.parse s = .ok h) : sep ∉ h.backend :=
  (VolumeId.validate_iff.mp (VolumeId.string_of_parse hp).1).2.2.2.1 _ (by simp [Handle.fields])

theorem cut_instanceKey (hsep : sep ∉ h.backend) :
    (instanceKey h).takeWhile (· ≠ sep) = h.backend ∧
      ((instanceKey h).dropWhile (· ≠ sep)).drop 1 = h.inst := by
  have hall : ∀ b ∈ h.backend, decide (b ≠ sep) = true := by
    intro b hb
    simp only [ne_eq, decide_eq_true_eq]
    rintro rfl
    exact hsep hb
  constructor
  · rw [instanceKey, List.takeWhile_append_of_pos hall]
    simp
  · rw [instanceKey, List.dropWhile_append_of_pos hall]
    simp

theorem instanceKey_inj (hsep : sep ∉ h.backend) (hsep' : sep ∉ h'.backend) :
    instanceKey h = instanceKey h' ↔ h.backend = h'.backend ∧ h.inst = h'.inst := by
  constructor
  · intro heq
    obtain ⟨hb, hi⟩ := cut_instanceKey hsep
    obtain ⟨hb', hi'⟩ := cut_instanceKey hsep'
    rw [heq] at hb hi
    exact ⟨hb.symm.trans hb', hi.symm.trans hi'⟩
  · rintro ⟨hb, hi⟩
    rw [instanceKey, instanceKey, hb, hi]

theorem isSome_foldl_recordMissing {key : Bytes} (l : List (Bytes × HealthProbe))
    (out : Table Bytes String) : ((l.foldl recordMissing out).get key).isSome ↔
      (out.get key).isSome ∨ ∃ e ∈ l, e.2.instanceUnknown = true ∧
        ∃ h, VolumeId.parse e.1 = .ok h ∧ instanceKey h = key := by
  induction l generalizing out with
  | nil => simp
  | cons e l ih =>
    rw [List.foldl_cons, ih, List.exists_mem_cons_iff, ← or_assoc]
    refine or_congr_left ?_
    unfold recordMissing
    by_cases hunknown : e.2.instanceUnknown = true
    · rcases hp : VolumeId.parse e.1 with err | h
      · simp [hunknown]
      · by_cases hkey : instanceKey h = key
        · subst hkey
          rcases hout : out.get (instanceKey h) with _ | v <;>
            simp [hunknown, hout, Table.get_set]
        · have hne : key ≠ instanceKey h := Ne.symm hkey
          rcases hout : out.get (instanceKey h) with _ | v <;>
            simp [hunknown, hout, Table.get_set, hkey, hne]
    · simp [hunknown]

theorem isSome_missing_iff {s : Bytes} (hp : VolumeId.parse s = .ok h) :
    ((missingInstances o st).get (instanceKey h)).isSome ↔ ReportedUnknown st h.backend h.inst := by
  rw [missingInstances, isSome_foldl_recordMissing]
  simp only [Table.get_empty, Option.isSome_none, Bool.false_eq_true, false_or,
    (o.probes.perm _).mem_iff]
  constructor
  · rintro ⟨⟨hs, probe⟩, hmem, hunknown, h', hp', hkey⟩
    obtain ⟨hb, hi⟩ := (instanceKey_inj (sep_notMem_backend hp') (sep_notMem_backend hp)).mp hkey
    exact ⟨hs, probe, h', Table.get_eq_some_iff.mpr hmem, hunknown, hp', hb, hi⟩
  · rintro ⟨hs, probe, h', hget, hunknown, hp', hb, hi⟩
    exact ⟨(hs, probe), Table.get_eq_some_iff.mp hget, hunknown, h', hp',
      (instanceKey_inj (sep_notMem_backend hp') (sep_notMem_backend hp)).mpr ⟨hb, hi⟩⟩

theorem mem_missingInstanceFindings {missing : Table Bytes String} (hsep : sep ∉ h.backend)
    (hsome : (missing.get (instanceKey h)).isSome) :
    ∃ err, missingInstance h.backend h.inst err ∈ missingInstanceFindings missing := by
  obtain ⟨hb, hi⟩ := cut_instanceKey hsep
  refine ⟨(missing.get (instanceKey h)).getD "", List.mem_map.mpr
    ⟨instanceKey h, mem_sortedKeys.mpr hsome, ?_⟩⟩
  rw [missingFinding, hb, hi]

end Missing

/-! Joins. -/

section Join

variable {α : Type} {c : Dispatch.Config} {s : Side α}

/-- The object has a handle. -/
def Names (s : Side α) (a : α) (h : Handle) : Prop :=
  s.taken a = true ∧ VolumeId.parse (s.handle a) = .ok h

theorem joinItem_out (acc : Joined) (a : α) :
    (joinItem c s acc a).out = acc.out ++ itemFindings c s a := by
  unfold joinItem itemFindings
  cases s.taken a with
  | false => simp
  | true =>
    rcases VolumeId.parse (s.handle a) with e | h
    · simp
    by_cases hunlisted : h.backend ∈ s.unlisted
    · simp [hunlisted]
    rcases hlisted : s.listed h.backend with _ | listed
    · simp [hunlisted, hlisted]
    by_cases hmem : s.handle a ∈ listed
    · simp [hunlisted, hlisted, hmem]
    · simp [hunlisted, hlisted, hmem]

theorem joinItem_handles (acc : Joined) (a : α) (hs : Bytes) :
    hs ∈ (joinItem c s acc a).handles ↔
      hs ∈ acc.handles ∨ s.handle a = hs ∧ ∃ h, Names s a h := by
  unfold joinItem Names
  cases s.taken a with
  | false => simp
  | true =>
    rcases hp : VolumeId.parse (s.handle a) with e | h
    · simp
    · have hcons : ∀ out counts, hs ∈ (⟨out, s.handle a :: acc.handles, counts⟩ : Joined).handles ↔
          hs ∈ acc.handles ∨ s.handle a = hs := by
        intro out counts
        rw [List.mem_cons, or_comm, eq_comm]
      simp only [Bool.true_eq_false, if_false, Except.ok.injEq, true_and, exists_eq', and_true]
      split_ifs
      · exact hcons _ _
      · split
        · exact hcons _ _
        · split_ifs
          · exact hcons _ _
          · exact hcons _ _

theorem joinItem_unverifiable (acc : Joined) (a : α) (bt : Bytes) :
    ((joinItem c s acc a).unverifiable.get bt).isSome ↔
      (acc.unverifiable.get bt).isSome ∨ ∃ h, Names s a h ∧ h.backend = bt ∧ bt ∈ s.unlisted := by
  unfold joinItem Names
  cases s.taken a with
  | false => simp
  | true =>
    rcases hp : VolumeId.parse (s.handle a) with e | h
    · simp
    · simp only [Bool.true_eq_false, if_false, Except.ok.injEq, true_and, exists_eq_left']
      by_cases hunlisted : h.backend ∈ s.unlisted
      · by_cases hbt : bt = h.backend
        · subst hbt
          simp [hunlisted, Table.get_set]
        · simp [hunlisted, Table.get_set, hbt, Ne.symm hbt]
      · have hnone : ¬ (h.backend = bt ∧ bt ∈ s.unlisted) := by
          rintro ⟨rfl, hmem⟩
          exact hunlisted hmem
        simp only [if_neg hunlisted, hnone, or_false]
        split
        · rfl
        · split_ifs <;> rfl

variable (c s) in
theorem foldl_joinItem (items : List α) (acc : Joined) :
    (items.foldl (joinItem c s) acc).out = acc.out ++ items.flatMap (itemFindings c s) ∧
    (∀ hs, hs ∈ (items.foldl (joinItem c s) acc).handles ↔
      hs ∈ acc.handles ∨ ∃ a ∈ items, s.handle a = hs ∧ ∃ h, Names s a h) ∧
    ∀ bt, ((items.foldl (joinItem c s) acc).unverifiable.get bt).isSome ↔
      (acc.unverifiable.get bt).isSome ∨
        ∃ a ∈ items, ∃ h, Names s a h ∧ h.backend = bt ∧ bt ∈ s.unlisted := by
  induction items generalizing acc with
  | nil => simp
  | cons a items ih =>
    obtain ⟨hout, hhandles, hcounts⟩ := ih (joinItem c s acc a)
    rw [List.foldl_cons]
    refine ⟨?_, fun hs => ?_, fun bt => ?_⟩
    · rw [hout, joinItem_out, List.flatMap_cons, List.append_assoc]
    · rw [hhandles, joinItem_handles, List.exists_mem_cons_iff, or_assoc]
    · rw [hcounts, joinItem_unverifiable, List.exists_mem_cons_iff, or_assoc]

variable (items : List α)

theorem joinItems_out : (joinItems c s items).out = items.flatMap (itemFindings c s) := by
  rw [joinItems, (foldl_joinItem c s items _).1, List.nil_append]

theorem mem_joinItems_handles {hs : Bytes} :
    hs ∈ (joinItems c s items).handles ↔ ∃ a ∈ items, s.handle a = hs ∧ ∃ h, Names s a h := by
  rw [joinItems, (foldl_joinItem c s items _).2.1]
  simp

theorem isSome_joinItems_unverifiable {bt : Bytes} :
    ((joinItems c s items).unverifiable.get bt).isSome ↔
      ∃ a ∈ items, ∃ h, Names s a h ∧ h.backend = bt ∧ bt ∈ s.unlisted := by
  rw [joinItems, (foldl_joinItem c s items _).2.2]
  simp

end Join

end BardCsi.Inspect
