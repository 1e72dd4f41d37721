import BardCsi.Inspect.Volumes

/-!
Snapshot contents of an instance that the plugin does not know. The scanner learns that an
instance is unknown only by probing volumes, so it mistakes the snapshots of such an instance for
lost ones when no PV of the instance is left.
-/
namespace BardCsi.Inspect

open VolumeId (Handle Bytes Malformed bytes sep)
open Driver (VolumeListEntry SnapshotListEntry BackendError)

/-- The plugin has no configuration for the instance: it lists nothing there and refuses to say
how a volume of it is. -/
structure Invisible (backends : Backends) (bt inst : Bytes) (be : BackendTruth) : Prop where
  backend : backends.get bt = some be
  volumes : ∀ entries, be.listVolumes = .ok entries → ∀ e ∈ entries,
    ¬ (e.handle.backend = bt ∧ e.handle.inst = inst)
  snapshots : ∀ entries, be.listSnapshots = .ok entries → ∀ e ∈ entries,
    ¬ (e.handle.backend = bt ∧ e.handle.inst = inst)
  health : ∀ k h, h.backend = bt → h.inst = inst →
    ∃ err, be.getVolumeHealth k h = .error err ∧ err.kind = .invalidArgument

/-- The driver has a PV of the instance. -/
def HasPV (ob : Objects) (bt inst : Bytes) : Prop :=
  ∃ pv ∈ ob.pvs, pv.driver = ob.driver ∧
    ∃ h, VolumeId.parse pv.volumeHandle = .ok h ∧ h.backend = bt ∧ h.inst = inst

/-- The driver has a snapshot content of the instance, with this handle. -/
def HasContent (ob : Objects) (bt inst : Bytes) (sc : SnapshotContent) (h : Handle) : Prop :=
  sc ∈ ob.snapshotContents ∧ sc.driver = ob.driver ∧
    VolumeId.parse sc.snapshotHandle = .ok h ∧ h.backend = bt ∧ h.inst = inst

/-! Probing. -/

section Probes

variable {backends : Backends} {hs : Bytes}

theorem recordProbe_get {probes : Table Bytes HealthProbe} {h : Handle} {p : Option HealthProbe} :
    (recordProbe probes h p).get hs = if hs = h.string then p.or (probes.get hs)
      else probes.get hs := by
  cases p with
  | none => simp [recordProbe]
  | some p => simp [recordProbe, Table.get_set]

theorem exists_probed {p : HealthProbe} (l : List Handle) (i : ℕ)
    (probes : Table Bytes HealthProbe) (hget : (probeAll backends i l probes).get hs = some p) :
    probes.get hs = some p ∨ ∃ h ∈ l, h.string = hs ∧ ∃ k, probed backends k h = some p := by
  induction l generalizing i probes with
  | nil => exact .inl hget
  | cons h l ih =>
    rcases ih _ _ hget with hget | ⟨h', hh', hrest⟩
    · rw [recordProbe_get] at hget
      by_cases hkey : hs = h.string
      · rw [if_pos hkey, Option.or_eq_some_iff] at hget
        rcases hget with hp | ⟨-, hget⟩
        · exact .inr ⟨h, List.mem_cons_self, hkey.symm, i, hp⟩
        · exact .inl hget
      · rw [if_neg hkey] at hget
        exact .inl hget
    · exact .inr ⟨h', List.mem_cons_of_mem _ hh', hrest⟩

theorem probeAll_get {P : HealthProbe → Prop} (l : List Handle) (i : ℕ)
    (probes : Table Bytes HealthProbe)
    (hall : ∀ h ∈ l, h.string = hs → ∀ k, ∃ p, probed backends k h = some p ∧ P p)
    (hsome : (∃ p, probes.get hs = some p ∧ P p) ∨ ∃ h ∈ l, h.string = hs) :
    ∃ p, (probeAll backends i l probes).get hs = some p ∧ P p := by
  induction l generalizing i probes with
  | nil =>
    rcases hsome with hsome | ⟨h, hh, -⟩
    · exact hsome
    · cases hh
  | cons h l ih =>
    rw [List.forall_mem_cons] at hall
    refine ih _ _ hall.2 ?_
    by_cases hkey : h.string = hs
    · obtain ⟨p, hp, hP⟩ := hall.1 hkey i
      refine .inl ⟨p, ?_, hP⟩
      rw [recordProbe_get, if_pos hkey.symm, hp, Option.some_or]
    · rcases hsome with ⟨p, hp, hP⟩ | ⟨h', hh', hkey'⟩
      · refine .inl ⟨p, ?_, hP⟩
        rw [recordProbe_get, if_neg (Ne.symm hkey), hp]
      · rcases List.mem_cons.mp hh' with rfl | hh'
        · exact absurd hkey' hkey
        · exact .inr ⟨h', hh', hkey'⟩

end Probes

section Unknown

variable {ob : Objects} {backends : Backends} {bt inst : Bytes} {be : BackendTruth} {h : Handle}

theorem handle_eq_of_string_eq {h' : Handle} {s : Bytes} (hp : VolumeId.parse s = .ok h)
    (heq : h'.string = s) : h' = h := by
  have hp' : VolumeId.parse h'.string = .ok h := heq ▸ hp
  have hv := VolumeId.parse_string_iff.mp ⟨h, hp'⟩
  rw [VolumeId.parse_string hv] at hp'
  exact Except.ok.inj hp'

theorem ghostCandidate_eq_some_iff {st : State} {pv : PV} :
    ghostCandidate st pv = some h ↔ pv.driver = st.driver ∧
      VolumeId.parse pv.volumeHandle = .ok h ∧
      ∃ entries, st.backendVolumes.get h.backend = some entries ∧
        pv.volumeHandle ∉ volumeHandles entries := by
  unfold ghostCandidate
  by_cases hdriver : pv.driver = st.driver
  · rcases VolumeId.parse pv.volumeHandle with e | h'
    · simp [hdriver]
    · rcases hget : st.backendVolumes.get h'.backend with _ | entries
      · simp only [hdriver, ne_eq, not_true, if_false, hget, reduceCtorEq, true_and, false_iff]
        rintro ⟨hh, entries, hget', -⟩
        obtain rfl := Except.ok.inj hh
        rw [hget] at hget'
        cases hget'
      · by_cases hmem : pv.volumeHandle ∈ volumeHandles entries
        · simp only [hdriver, ne_eq, not_true, if_false, hget, hmem, if_true, reduceCtorEq,
            true_and, false_iff]
          rintro ⟨hh, entries', hget', hnot⟩
          obtain rfl := Except.ok.inj hh
          obtain rfl := Option.some.inj (hget.symm.trans hget')
          exact hnot hmem
        · simp only [hdriver, ne_eq, not_true, if_false, hget, hmem, Option.some.injEq, true_and]
          constructor
          · rintro rfl
            exact ⟨rfl, entries, hget, hmem⟩
          · rintro ⟨hh, -⟩
            exact Except.ok.inj hh
  · simp [hdriver]

theorem mem_ghostCandidates :
    h ∈ ghostCandidates (collectBackendTruth ob.start backends) ↔ ∃ pv ∈ ob.pvs,
      pv.driver = ob.driver ∧ VolumeId.parse pv.volumeHandle = .ok h ∧
      ∃ entries, Lists BackendTruth.listVolumes backends h.backend entries ∧
        pv.volumeHandle ∉ volumeHandles entries := by
  have hobjects := (collected ob backends).objects
  have hvolumes : ∀ bt entries, (collectBackendTruth ob.start backends).backendVolumes.get bt =
      some entries ↔ Lists BackendTruth.listVolumes backends bt entries := by
    intro bt entries
    change (collect ob backends).backendVolumes.get bt = some entries ↔ _
    exact collect_volumes
  simp only [ghostCandidates, List.mem_filterMap, ghostCandidate_eq_some_iff, hvolumes]
  rw [hobjects]

theorem Invisible.probed (hinv : Invisible backends bt inst be) (hb : h.backend = bt)
    (hi : h.inst = inst) (k : ℕ) :
    ∃ p, probed backends k h = some p ∧ p.instanceUnknown = true := by
  obtain ⟨err, herr, hkind⟩ := hinv.health k h hb hi
  refine ⟨⟨false, false, true, err.text⟩, ?_, rfl⟩
  simp [Inspect.probed, hb, hinv.backend, herr, healthProbe, hkind]

theorem reportedUnknown_iff (hinv : Invisible backends bt inst be) :
    ReportedUnknown (collect ob backends) bt inst ↔
      HasPV ob bt inst ∧ ∃ entries, be.listVolumes = .ok entries := by
  constructor
  · rintro ⟨hs, probe, h, hget, -, hp, hb, hi⟩
    rcases exists_probed _ _ _ hget with hnone | ⟨h', hh', hstring, -⟩
    · rw [(collected ob backends).probes] at hnone
      cases hnone
    obtain ⟨pv, hpv, hdriver, hp', entries, ⟨be', hbe', hlist⟩, -⟩ := mem_ghostCandidates.mp hh'
    obtain rfl := handle_eq_of_string_eq hp hstring
    rw [hb, hinv.backend] at hbe'
    obtain rfl := Option.some.inj hbe'
    exact ⟨⟨pv, hpv, hdriver, h', hp', hb, hi⟩, entries, hlist⟩
  · rintro ⟨⟨pv, hpv, hdriver, h, hp, hb, hi⟩, entries, hlist⟩
    have hmem : h ∈ ghostCandidates (collectBackendTruth ob.start backends) := by
      refine mem_ghostCandidates.mpr ⟨pv, hpv, hdriver, hp, entries, ⟨be, hb ▸ hinv.backend, hlist⟩,
        ?_⟩
      intro hlisted
      obtain ⟨e, he, hstring⟩ := List.mem_map.mp hlisted
      have heq := handle_eq_of_string_eq hp hstring
      exact hinv.volumes entries hlist e he ⟨heq ▸ hb, heq ▸ hi⟩
    obtain ⟨hv, -⟩ := VolumeId.string_of_parse hp
    have hprobe := probeAll_get (P := fun p => p.instanceUnknown = true) _ 0
      (collectBackendTruth ob.start backends).healthProbes
      (fun h' _ hstring k => by
        have heq : h' = h := handle_eq_of_string_eq (VolumeId.parse_string hv) hstring
        exact hinv.probed (heq ▸ hb) (heq ▸ hi) k) (.inr ⟨h, hmem, rfl⟩)
    obtain ⟨p, hget, hunknown⟩ := hprobe
    exact ⟨h.string, p, h, hget, hunknown, VolumeId.parse_string hv, hb, hi⟩

end Unknown

/-! What is reported about snapshots. -/

section Report

variable {o : Orders} {ob : Objects} {backends : Backends} {sc : SnapshotContent} {h : Handle}
variable {st : State}

theorem checkVolumes_only {missing : Table Bytes String} :
    Only [.unparseableHandle, .unknownInstance, .listInconsistent, .ghostPV, .orphanVolume,
      .unverifiable] (checkVolumes st missing) := by
  refine only_append.mpr ⟨only_append.mpr ⟨?_, ?_⟩, ?_⟩
  · exact volumes_only.mono (by simp)
  · exact orphanFindings_only.mono (by simp [orphanVolume])
  · exact unverifiableFindings_only.mono (by simp)

theorem mem_check_ghostSnapshot : ghostSnapshot sc h ∈ (check o st).findings ↔
    st.haveSnapshotContents = true ∧ ∃ sc' ∈ st.snapshotContents, ghostSnapshot sc h ∈
      itemFindings st.config (snapshotSide st (missingInstances o st)) sc' := by
  have hnot : ∀ {names : List CheckName} {fs : List Finding}, Only names fs →
      .ghostSnapshot ∉ names → ghostSnapshot sc h ∉ fs := fun honly hnames hf =>
    hnames (honly _ hf)
  have hskips : ghostSnapshot sc h ∉ st.skips.map Skip.finding := by
    intro hf
    obtain ⟨s, -, hs⟩ := List.mem_map.mp hf
    cases congrArg Finding.check hs
  rw [check_perm.mem_iff]
  simp only [findings, List.mem_append, hnot missingInstanceFindings_only (by decide),
    hnot checkVolumes_only (by decide), hnot checkTopology_only (by decide),
    hnot checkAttachments_only (by decide), hskips, false_or, or_false]
  unfold checkSnapshots
  cases st.haveSnapshotContents with
  | false => simp
  | true =>
    have horphan : ghostSnapshot sc h ∉ orphanFindings orphanSnapshot SnapshotListEntry.handle
        st.backendSnapshots (joinItems st.config (snapshotSide st (missingInstances o st))
          st.snapshotContents).handles := hnot orphanFindings_only (by decide)
    simp only [Bool.true_eq_false, if_false, List.mem_append, true_and, horphan,
      hnot unverifiableFindings_only (by decide), or_false, joinItems_out, List.mem_flatMap]

theorem mem_itemFindings_iff {α : Type} {c : Dispatch.Config} {s : Side α} {a : α} {f : Finding}
    (hf : f.check ∉ [.unparseableHandle, .unknownInstance])
    (hunparseable : ∀ a e, (s.unparseable a e).check = .unparseableHandle) :
    f ∈ itemFindings c s a ↔ ∃ h, Names s a h ∧ h.backend ∉ s.unlisted ∧
      ∃ listed, s.listed h.backend = some listed ∧ s.handle a ∉ listed ∧ f ∈ s.absent a h := by
  unfold itemFindings Names
  cases s.taken a with
  | false => simp
  | true =>
    rcases VolumeId.parse (s.handle a) with e | h
    · have hne : f ≠ s.unparseable a e := by
        rintro rfl
        exact hf (by simp [hunparseable])
      simp [hne]
    · have hconfig : f ∉ (checkHandleConfig c h (s.resource a)).toList := fun hmem =>
        hf (checkHandleConfig_only f hmem)
      simp only [Bool.true_eq_false, if_false, Except.ok.injEq, true_and, exists_eq_left',
        List.mem_append, hconfig, false_or]
      by_cases hunlisted : h.backend ∈ s.unlisted
      · simp [hunlisted]
      rcases hlisted : s.listed h.backend with _ | listed
      · simp [hunlisted]
      by_cases hmem : s.handle a ∈ listed
      · simp [hunlisted, hmem]
      · simp [hunlisted, hmem]

theorem ghostSnapshot_inj {sc' : SnapshotContent} {h' : Handle}
    (heq : ghostSnapshot sc h = ghostSnapshot sc' h') :
    h.backend = h'.backend ∧ h.inst = h'.inst := by
  have hdetail := congrArg Finding.detail heq
  simp only [ghostSnapshot, notFoundDetail, List.cons.injEq, Piece.value.injEq,
    Piece.quoted.injEq, true_and, and_true] at hdetail
  exact ⟨hdetail.2.2.1, hdetail.2.2.2⟩

theorem ghostSnapshot_mem_iff {missing : Table Bytes String} {sc' : SnapshotContent} :
    ghostSnapshot sc h ∈ itemFindings st.config (snapshotSide st missing) sc' ↔
      ∃ h', sc'.driver = st.driver ∧ VolumeId.parse sc'.snapshotHandle = .ok h' ∧
        h'.backend ∉ st.unlistedSnapshots ∧
        (∃ entries, st.backendSnapshots.get h'.backend = some entries ∧
          sc'.snapshotHandle ∉ snapshotHandles entries) ∧
        (missing.get (instanceKey h')).isSome = false ∧
        ghostSnapshot sc h = ghostSnapshot sc' h' := by
  rw [mem_itemFindings_iff (by simp [ghostSnapshot]) fun _ _ => rfl]
  refine exists_congr fun h' => ?_
  have htaken : Names (snapshotSide st missing) sc' h' ↔
      sc'.driver = st.driver ∧ VolumeId.parse sc'.snapshotHandle = .ok h' := by
    simp only [Names, snapshotSide, decide_eq_true_eq]
    constructor
    · rintro ⟨⟨hdriver, -⟩, hp⟩
      exact ⟨hdriver, hp⟩
    · rintro ⟨hdriver, hp⟩
      refine ⟨⟨hdriver, ?_⟩, hp⟩
      intro hnil
      rw [hnil] at hp
      cases hp
  rw [htaken, and_assoc]
  simp only [snapshotSide, Option.map_eq_some_iff]
  constructor
  · rintro ⟨hdriver, hp, hunlisted, _, ⟨entries, hget, rfl⟩, hmem, hf⟩
    split_ifs at hf with hmissing
    · cases hf
    · exact ⟨hdriver, hp, hunlisted, ⟨entries, hget, hmem⟩, by simpa using hmissing,
        List.mem_singleton.mp hf⟩
  · rintro ⟨hdriver, hp, hunlisted, ⟨entries, hget, hmem⟩, hmissing, heq⟩
    refine ⟨hdriver, hp, hunlisted, _, ⟨entries, hget, rfl⟩, hmem, ?_⟩
    rw [if_neg (by simp [hmissing])]
    exact List.mem_singleton.mpr heq

end Report

/-- No snapshot content of an instance that the plugin does not know is reported as a ghost
exactly when the instance is found out by a PV of it while volumes are listed, or when there is
nothing to compare: no contents, no list of snapshots, or no content of the instance. -/
theorem no_ghostSnapshot_iff (o : Orders) (ob : Objects) (backends : Backends) (bt inst : Bytes)
    (be : BackendTruth) (hinv : Invisible backends bt inst be) :
    (∀ sc h, HasContent ob bt inst sc h →
      ghostSnapshot sc h ∉ (check o (collect ob backends)).findings) ↔
      (HasPV ob bt inst ∧ ∃ entries, be.listVolumes = .ok entries) ∨
      ob.haveSnapshotContents = false ∨ (∀ entries, be.listSnapshots ≠ .ok entries) ∨
      ∀ sc h, ¬ HasContent ob bt inst sc h := by
  have hobjects : (collect ob backends).toObjects = ob := collect_objects
  rw [← reportedUnknown_iff hinv]
  constructor
  · intro hnone
    by_contra hcond
    simp only [not_or, not_forall, not_not, Bool.not_eq_false] at hcond
    obtain ⟨hunknown, hhave, ⟨entries, hlist⟩, sc, h, hcontent⟩ := hcond
    obtain ⟨hsc, hdriver, hp, hb, hi⟩ := hcontent
    refine hnone sc h ⟨hsc, hdriver, hp, hb, hi⟩ (mem_check_ghostSnapshot.mpr ?_)
    rw [hobjects]
    have hlists : Lists BackendTruth.listSnapshots backends h.backend entries :=
      ⟨be, hb ▸ hinv.backend, hlist⟩
    refine ⟨hhave, sc, hsc, ?_⟩
    have hitem : ghostSnapshot sc h ∈ itemFindings (collect ob backends).config (snapshotSide
        (collect ob backends) (missingInstances o (collect ob backends))) sc := by
      refine ghostSnapshot_mem_iff.mpr ⟨h, by rw [hobjects, hdriver], hp,
        (collected _ _).snapshots.notMem_unlisted hlists,
        ⟨entries, collect_snapshots.mpr hlists, ?_⟩, ?_, rfl⟩
      · intro hmem
        obtain ⟨e, he, hstring⟩ := List.mem_map.mp hmem
        have heq := handle_eq_of_string_eq hp hstring
        exact hinv.snapshots entries hlist e he ⟨heq ▸ hb, heq ▸ hi⟩
      · rw [← Bool.not_eq_true, isSome_missing_iff hp, hb, hi]
        exact hunknown
    rwa [hobjects] at hitem
  · intro hcond sc h hcontent hf
    obtain ⟨hsc, hdriver, hp, hb, hi⟩ := hcontent
    obtain ⟨hhave, sc', hsc', hitem⟩ := mem_check_ghostSnapshot.mp hf
    obtain ⟨h', -, hp', -, ⟨entries, hget, -⟩, hmissing, heq⟩ := ghostSnapshot_mem_iff.mp hitem
    obtain ⟨hb', hi'⟩ := ghostSnapshot_inj heq
    rw [← Bool.not_eq_true, isSome_missing_iff hp', ← hb', ← hi', hb, hi] at hmissing
    obtain ⟨be', hbe', hlist⟩ := collect_snapshots.mp hget
    rw [← hb', hb, hinv.backend] at hbe'
    obtain rfl := Option.some.inj hbe'
    rw [hobjects] at hhave
    rcases hcond with hunknown | hhave' | hnolist | hnone
    · exact hmissing hunknown
    · rw [hhave] at hhave'
      cases hhave'
    · exact hnolist entries hlist
    · exact hnone sc h ⟨hsc, hdriver, hp, hb, hi⟩

section Instance

def contentOn (inst : String) : SnapshotContent where
  name := "snapcontent-1"
  driver := "csi.bard.io"
  snapshotHandle :=
    (⟨bytes "ceph-rbd", bytes inst, bytes "rbd", bytes "csi-vol-1@csi-snap-1"⟩ : Handle).string

/-- With no PV left, the snapshot of an instance without configuration is reported as lost. -/
theorem invisible_snapshot_reported :
    ((check listedOrders (collect (objectsWith [] [contentOn "a"]) emptyBackends)).findings.map
      fun f => (f.check, f.resource)) =
      [(.ghostSnapshot, bytes "volumesnapshotcontent/snapcontent-1")] := by
  decide +kernel

theorem emptyPlugin_invisible (inst : Bytes) :
    Invisible emptyBackends (bytes "ceph-rbd") inst emptyPlugin where
  backend := rfl
  volumes entries hlist e he := by
    obtain rfl := Except.ok.inj hlist
    cases he
  snapshots entries hlist e he := by
    obtain rfl := Except.ok.inj hlist
    cases he
  health _ _ _ _ := ⟨_, rfl, rfl⟩

theorem hasPV_pvOn :
    HasPV (objectsWith [pvOn "a"] [contentOn "a"]) (bytes "ceph-rbd") (bytes "a") :=
  ⟨pvOn "a", List.mem_cons_self, rfl, ⟨bytes "ceph-rbd", bytes "a", bytes "rbd", bytes "csi-vol-1"⟩,
    by decide +kernel, rfl, rfl⟩

theorem no_ghostSnapshot_iff_found_out :
    HasPV (objectsWith [pvOn "a"] [contentOn "a"]) (bytes "ceph-rbd") (bytes "a") ∧
    ∀ sc h,
      HasContent (objectsWith [pvOn "a"] [contentOn "a"]) (bytes "ceph-rbd") (bytes "a") sc h →
      ghostSnapshot sc h ∉ (check listedOrders (collect (objectsWith [pvOn "a"] [contentOn "a"])
        emptyBackends)).findings :=
  ⟨hasPV_pvOn, (no_ghostSnapshot_iff listedOrders (objectsWith [pvOn "a"] [contentOn "a"])
    emptyBackends (bytes "ceph-rbd") (bytes "a") emptyPlugin (emptyPlugin_invisible _)).mpr
      (.inl ⟨hasPV_pvOn, [], rfl⟩)⟩

end Instance

end BardCsi.Inspect
