import BardCsi.Inspect.Joins

/-!
What a scan says about volumes. A PV of the driver that its backend does not list is never passed
over, a ghost is reported for exactly the PVs that nothing speaks for, and an orphan for exactly
the listed volumes that no PV names.
-/
namespace BardCsi.Inspect

open VolumeId (Handle Bytes Malformed bytes sep)
open Driver (VolumeListEntry SnapshotListEntry BackendError)

/-! Which checks report what. -/

/-- All findings are of the given checks. -/
def Only (names : List CheckName) (fs : List Finding) : Prop := ∀ f ∈ fs, f.check ∈ names

section Only

variable {names : List CheckName} {fs fs' : List Finding}

theorem only_nil : Only names [] := fun _ hf => by cases hf

theorem only_singleton {f : Finding} : Only names [f] ↔ f.check ∈ names := by simp [Only]

theorem only_append : Only names (fs ++ fs') ↔ Only names fs ∧ Only names fs' :=
  List.forall_mem_append

theorem only_flatMap {α : Type} {l : List α} {g : α → List Finding}
    (h : ∀ a ∈ l, Only names (g a)) : Only names (l.flatMap g) := by
  intro f hf
  obtain ⟨a, ha, hfa⟩ := List.mem_flatMap.mp hf
  exact h a ha f hfa

theorem only_map {α : Type} {l : List α} {g : α → Finding} (h : ∀ a, (g a).check ∈ names) :
    Only names (l.map g) := by
  intro f hf
  obtain ⟨a, -, rfl⟩ := List.mem_map.mp hf
  exact h a

theorem only_ite {p : Prop} [Decidable p] (h : p → Only names fs) (h' : ¬ p → Only names fs') :
    Only names (if p then fs else fs') := by
  split_ifs with hp
  · exact h hp
  · exact h' hp

theorem Only.filter_eq_nil (h : Only names fs) {k : CheckName} (hk : k ∉ names) :
    fs.filter (·.check = k) = [] := by
  rw [List.filter_eq_nil_iff]
  intro f hf
  have hne : f.check ≠ k := by
    rintro rfl
    exact hk (h f hf)
  simpa using hne

end Only

section Checks

variable {o : Orders} {st : State} {missing : Table Bytes String}

theorem missingInstanceFindings_only :
    Only [.pluginMissingInstance] (missingInstanceFindings missing) :=
  only_map fun _ => by simp [missingFinding, missingInstance]

theorem checkHandleConfig_only {c : Dispatch.Config} {h : Handle} {resource : String} :
    Only [.unparseableHandle, .unknownInstance] (checkHandleConfig c h resource).toList := by
  intro f hf
  rw [Option.mem_toList] at hf
  unfold checkHandleConfig at hf
  split at hf
  · cases hf
    simp
  · split_ifs at hf
    cases hf
    simp

theorem itemFindings_only {α : Type} {c : Dispatch.Config} {s : Side α} {names : List CheckName}
    (hhandle : .unparseableHandle ∈ names ∧ .unknownInstance ∈ names)
    (hunparseable : ∀ a e, (s.unparseable a e).check = .unparseableHandle)
    (habsent : ∀ a h, Only names (s.absent a h)) (a : α) : Only names (itemFindings c s a) := by
  unfold itemFindings
  refine only_ite (fun _ => only_nil) fun _ => ?_
  split
  · next e _ =>
    rw [only_singleton, hunparseable a e]
    exact hhandle.1
  · next h _ =>
    refine only_append.mpr ⟨?_, only_ite (fun _ => only_nil) fun _ => ?_⟩
    · intro f hf
      rcases List.mem_cons.mp (checkHandleConfig_only f hf) with heq | hmem
      · rw [heq]
        exact hhandle.1
      · rw [List.mem_singleton.mp hmem]
        exact hhandle.2
    · split
      · exact only_nil
      · exact only_ite (fun _ => only_nil) fun _ => habsent a h

theorem volumes_only : Only [.unparseableHandle, .unknownInstance, .listInconsistent, .ghostPV]
    (joinItems st.config (volumeSide st missing) st.pvs).out := by
  rw [joinItems_out]
  refine only_flatMap fun pv _ => itemFindings_only (by simp) (fun _ _ => rfl) (fun pv h => ?_) pv
  refine only_ite (fun _ => only_nil) fun _ => only_ite (fun _ => ?_) fun _ => ?_
  · exact only_singleton.mpr (by simp [listInconsistent])
  · exact only_singleton.mpr (by simp [ghostPV])

theorem orphanFindings_only {ε : Type} {t : OrphanText} {handle : ε → Handle}
    {listed : Table Bytes (List ε)} {handles : List Bytes} :
    Only [t.check] (orphanFindings t handle listed handles) :=
  only_flatMap fun _ _ => only_map fun _ => List.mem_singleton.mpr rfl

theorem unverifiableFindings_only {what call : String} {counts : Table Bytes ℕ} :
    Only [.unverifiable] (unverifiableFindings what call counts) :=
  only_map fun _ => List.mem_singleton.mpr rfl

theorem Only.mono {names names' : List CheckName} {fs : List Finding} (h : Only names fs)
    (hsub : ∀ k ∈ names, k ∈ names') : Only names' fs :=
  fun f hf => hsub _ (h f hf)

theorem checkSnapshots_only : Only
    [.unparseableHandle, .unknownInstance, .ghostSnapshot, .orphanSnapshot, .unverifiable]
    (checkSnapshots st missing) := by
  refine only_ite (fun _ => only_nil) fun _ => ?_
  refine only_append.mpr ⟨only_append.mpr ⟨?_, ?_⟩, ?_⟩
  · rw [joinItems_out]
    refine only_flatMap fun sc _ => itemFindings_only (by simp) (fun _ _ => rfl) (fun sc h => ?_) sc
    exact only_ite (fun _ => only_nil) fun _ => only_singleton.mpr (by simp [ghostSnapshot])
  · exact orphanFindings_only.mono (by simp [orphanSnapshot])
  · exact unverifiableFindings_only.mono (by simp)

theorem checkTopology_only :
    Only [.nodeNoZone, .zoneCollision, .zoneNoBackend, .backendNoNodes] (checkTopology o st) := by
  refine only_ite (fun _ => only_nil) fun _ => only_append.mpr ⟨?_, ?_⟩
  · refine only_flatMap fun n _ => only_append.mpr ⟨only_append.mpr ⟨?_, ?_⟩, ?_⟩
    · refine only_ite (fun _ => only_singleton.mpr (by simp [unregisteredTopology])) fun _ => ?_
      exact only_ite (fun _ => only_singleton.mpr (by simp [unlabelledNode])) fun _ => only_nil
    · exact only_ite (fun _ => only_singleton.mpr (by simp [zoneCollision])) fun _ => only_nil
    · exact only_ite (fun _ => only_singleton.mpr (by simp [zoneNoBackend])) fun _ => only_nil
  · exact only_flatMap fun _ _ => only_map fun _ => by simp [backendNoNodes]

theorem checkAttachments_only : Only [.staleAttachment] (checkAttachments st) := by
  refine only_ite (fun _ => only_nil) fun _ => only_flatMap fun va _ => ?_
  refine only_ite (fun _ => only_nil) fun _ => only_append.mpr ⟨?_, ?_⟩
  · exact only_ite (fun _ => only_singleton.mpr (by simp [staleAttachment])) fun _ => only_nil
  · exact only_ite (fun _ => only_singleton.mpr (by simp [staleAttachment])) fun _ => only_nil

theorem check_perm : (check o st).findings.Perm (findings o st) := List.mergeSort_perm _ _

theorem filter_check_perm {k : CheckName} (hk : k = .ghostPV ∨ k = .orphanVolume) :
    ((check o st).findings.filter (·.check = k)).Perm
      ((checkVolumes st (missingInstances o st)).filter (·.check = k)) := by
  have hskips : Only [.collect] (st.skips.map Skip.finding) := only_map fun _ => by
    simp [Skip.finding]
  have hnone : k ∉ [.pluginMissingInstance] ∧ k ∉ [.staleAttachment] ∧ k ∉ [.collect] ∧
      k ∉ [.nodeNoZone, .zoneCollision, .zoneNoBackend, .backendNoNodes] ∧
      k ∉ [.unparseableHandle, .unknownInstance, .ghostSnapshot, .orphanSnapshot,
        .unverifiable] := by
    rcases hk with rfl | rfl <;> decide
  refine (check_perm.filter _).trans (.of_eq ?_)
  simp only [findings, List.filter_append, missingInstanceFindings_only.filter_eq_nil hnone.1,
    checkAttachments_only.filter_eq_nil hnone.2.1, hskips.filter_eq_nil hnone.2.2.1,
    checkTopology_only.filter_eq_nil hnone.2.2.2.1, checkSnapshots_only.filter_eq_nil hnone.2.2.2.2,
    List.append_nil, List.nil_append]

end Checks

/-! Ghosts. -/

/-- A PV that nothing speaks for: its backend lists its volumes without this one, the plugin has
not been found to lack the instance, and no probe has found the volume. -/
def Ghost (st : State) (pv : PV) : Prop :=
  pv.driver = st.driver ∧ ∃ h, VolumeId.parse pv.volumeHandle = .ok h ∧
    (∃ entries, st.backendVolumes.get h.backend = some entries ∧
      pv.volumeHandle ∉ volumeHandles entries) ∧
    ¬ ReportedUnknown st h.backend h.inst ∧
    ∀ probe, st.healthProbes.get pv.volumeHandle = some probe → probe.healthy = false

/-- No PV of the driver names the volume. -/
def Unreferenced (ob : Objects) (h : Handle) : Prop :=
  ∀ pv ∈ ob.pvs, pv.driver = ob.driver → (∃ h', VolumeId.parse pv.volumeHandle = .ok h') →
    pv.volumeHandle ≠ h.string

/-- The findings that account for a PV that is not listed: one about the PV itself, one about its
backend, or one about its instance. -/
inductive Accounted (fs : List Finding) (pv : PV) : Prop where
  | named {f : Finding} (hf : f ∈ fs)
      (hcheck : f.check ∈ [.unparseableHandle, .unknownInstance, .ghostPV, .listInconsistent])
      (hresource : f.resource = bytes ("pv/" ++ pv.name))
  | unverifiable {h : Handle} {n : ℕ} (hp : VolumeId.parse pv.volumeHandle = .ok h)
      (hf : unverifiableFinding " PV(s)" "ListVolumes" h.backend n ∈ fs)
  | skipped {h : Handle} {err : BackendError} (hp : VolumeId.parse pv.volumeHandle = .ok h)
      (hf : (listingFailed h.backend "volumes" "ghost-pv, orphan-volume" err).finding ∈ fs)
  | missing {h : Handle} {err : String} (hp : VolumeId.parse pv.volumeHandle = .ok h)
      (hf : missingInstance h.backend h.inst err ∈ fs)

section Ghosts

variable {o : Orders} {st : State} {h : Handle}

theorem ghost_itemFindings
    (hlisted : ∀ bt entries, st.backendVolumes.get bt = some entries → bt ∉ st.unlistedVolumes)
    (pv : PV) [Decidable (Ghost st pv)] :
    ((itemFindings st.config (volumeSide st (missingInstances o st)) pv).filter
      (·.check = .ghostPV)).map Finding.resource =
      if Ghost st pv then [bytes ("pv/" ++ pv.name)] else [] := by
  unfold itemFindings
  by_cases htaken : pv.driver = st.driver
  swap
  · have hnot : ¬ Ghost st pv := fun hg => htaken hg.1
    simp [volumeSide, htaken, hnot]
  rcases hp : VolumeId.parse pv.volumeHandle with e | h
  · have hnot : ¬ Ghost st pv := by
      rintro ⟨-, h, hp', -⟩
      rw [hp] at hp'
      cases hp'
    simp [volumeSide, htaken, hp, hnot, unparseablePV]
  have hconfig : (checkHandleConfig st.config h ("pv/" ++ pv.name)).toList.filter
      (·.check = .ghostPV) = [] := checkHandleConfig_only.filter_eq_nil (by decide)
  have hghost : Ghost st pv ↔ (∃ entries, st.backendVolumes.get h.backend = some entries ∧
      pv.volumeHandle ∉ volumeHandles entries) ∧ ¬ ReportedUnknown st h.backend h.inst ∧
      ∀ probe, st.healthProbes.get pv.volumeHandle = some probe → probe.healthy = false := by
    simp [Ghost, htaken, hp]
  rcases hvols : st.backendVolumes.get h.backend with _ | entries
  · have hnot : ¬ Ghost st pv := by simp [hghost, hvols]
    simp [volumeSide, htaken, hp, hvols, hconfig, hnot]
  have hnotUnlisted := hlisted _ _ hvols
  by_cases hmem : pv.volumeHandle ∈ volumeHandles entries
  · have hnot : ¬ Ghost st pv := by simp [hghost, hvols, hmem]
    simp [volumeSide, htaken, hp, hvols, hnotUnlisted, hmem, hconfig, hnot]
  have habsent : ((absentPV st (missingInstances o st) pv h).filter (·.check = .ghostPV)).map
      Finding.resource = if Ghost st pv then [bytes ("pv/" ++ pv.name)] else [] := by
    unfold absentPV
    by_cases hmissing : ((missingInstances o st).get (instanceKey h)).isSome
    · have hnot : ¬ Ghost st pv := fun hg =>
        (hghost.mp hg).2.1 ((isSome_missing_iff hp).mp hmissing)
      rw [if_pos hmissing, if_neg hnot]
      rfl
    rw [if_neg hmissing]
    have hunknown : ¬ ReportedUnknown st h.backend h.inst := mt (isSome_missing_iff hp).mpr hmissing
    rcases hprobe : st.healthProbes.get pv.volumeHandle with _ | probe
    · have hg : Ghost st pv := by simp [hghost, hvols, hmem, hunknown, hprobe]
      rw [if_pos hg]
      rfl
    · rcases hhealthy : probe.healthy with _ | _
      · have hg : Ghost st pv := by simp [hghost, hvols, hmem, hunknown, hprobe, hhealthy]
        simp [hg, hhealthy, ghostPV]
      · have hnot : ¬ Ghost st pv := by simp [hghost, hprobe, hhealthy]
        simp [hnot, hhealthy, listInconsistent]
  rw [← habsent]
  simp [volumeSide, htaken, hp, hvols, hnotUnlisted, hmem, hconfig]

theorem map_filter_flatMap {α : Type} {g : α → List Finding} {p : Finding → Bool} {r : α → Bytes}
    {q : α → Prop} [DecidablePred q]
    (hg : ∀ a, ((g a).filter p).map Finding.resource = if q a then [r a] else []) (l : List α) :
    ((l.flatMap g).filter p).map Finding.resource = (l.filter (q ·)).map r := by
  induction l with
  | nil => rfl
  | cons a l ih =>
    rw [List.flatMap_cons, List.filter_append, List.map_append, hg, ih, List.filter_cons]
    by_cases ha : q a <;> simp [ha]

theorem ghost_checkVolumes
    (hlisted : ∀ bt entries, st.backendVolumes.get bt = some entries → bt ∉ st.unlistedVolumes)
    [DecidablePred (Ghost st)] :
    ((checkVolumes st (missingInstances o st)).filter (·.check = .ghostPV)).map Finding.resource =
      (st.pvs.filter (Ghost st ·)).map fun pv => bytes ("pv/" ++ pv.name) := by
  have horphan : Only [.orphanVolume] (orphanFindings orphanVolume VolumeListEntry.handle
      st.backendVolumes (joinItems st.config (volumeSide st (missingInstances o st))
        st.pvs).handles) := orphanFindings_only
  rw [checkVolumes]
  simp only [List.filter_append, horphan.filter_eq_nil (by decide : CheckName.ghostPV ∉ _),
    unverifiableFindings_only.filter_eq_nil (by decide : CheckName.ghostPV ∉ _), List.append_nil,
    joinItems_out]
  exact map_filter_flatMap (fun pv => ghost_itemFindings hlisted pv) st.pvs

theorem flatMap_sortedKeys_perm {β γ : Type} (t : Table Bytes β) (g : Bytes → β → List γ) (d : β) :
    ((sortedKeys t).flatMap fun k => g k ((t.get k).getD d)).Perm
      (t.entries.flatMap fun e => g e.1 e.2) := by
  refine (sortedKeys_perm.flatMap_right _).trans (.of_eq ?_)
  rw [List.flatMap_map]
  refine List.flatMap_congr fun e he => ?_
  rw [Table.get_eq_some_iff.mpr he, Option.getD_some]

theorem orphan_checkVolumes [DecidablePred (Unreferenced st.toObjects)] :
    ((checkVolumes st (missingInstances o st)).filter (·.check = .orphanVolume)).Perm
      (st.backendVolumes.entries.flatMap fun e =>
        (e.2.filter fun v => Unreferenced st.toObjects v.handle).map fun v =>
          orphanFinding orphanVolume e.1 v.handle) := by
  have hall : ∀ f ∈ orphanFindings orphanVolume VolumeListEntry.handle st.backendVolumes
      (joinItems st.config (volumeSide st (missingInstances o st)) st.pvs).handles,
      decide (f.check = .orphanVolume) = true := by
    intro f hf
    exact decide_eq_true (List.mem_singleton.mp (orphanFindings_only f hf))
  have hhandles : ∀ h : Handle, h.string ∉ (joinItems st.config (volumeSide st
      (missingInstances o st)) st.pvs).handles ↔ Unreferenced st.toObjects h := by
    intro h
    simp only [mem_joinItems_handles, Names, volumeSide, Unreferenced, decide_eq_true_eq]
    constructor
    · intro hnone pv hpv hdriver hp heq
      obtain ⟨h', hp⟩ := hp
      exact hnone ⟨pv, hpv, heq, h', hdriver, hp⟩
    · rintro hall ⟨pv, hpv, heq, h', hdriver, hp⟩
      exact hall pv hpv hdriver ⟨h', hp⟩ heq
  rw [checkVolumes]
  simp only [List.filter_append,
    volumes_only.filter_eq_nil (by decide : CheckName.orphanVolume ∉ _),
    unverifiableFindings_only.filter_eq_nil (by decide : CheckName.orphanVolume ∉ _),
    List.append_nil, List.nil_append, List.filter_eq_self.mpr hall]
  refine (flatMap_sortedKeys_perm st.backendVolumes (fun bt entries => (entries.filter fun e =>
    e.handle.string ∉ (joinItems st.config (volumeSide st (missingInstances o st))
      st.pvs).handles).map fun e => orphanFinding orphanVolume bt e.handle) []).trans (.of_eq ?_)
  simp only [hhandles]

end Ghosts

/-! Every PV. -/

section Accounted

variable {o : Orders} {ob : Objects} {backends : Backends} {pv : PV} {st : State}

theorem mem_check {f : Finding} (hf : f ∈ findings o st) :
    f ∈ (check o st).findings := check_perm.mem_iff.mpr hf

theorem mem_unverifiableFindings {counts : Table Bytes ℕ} {bt : Bytes} (what call : String)
    (h : (counts.get bt).isSome) :
    ∃ n, unverifiableFinding what call bt n ∈ unverifiableFindings what call counts :=
  ⟨_, List.mem_map.mpr ⟨bt, mem_sortedKeys.mpr h, rfl⟩⟩

theorem mem_check_of_item {f : Finding} (hpv : pv ∈ st.pvs)
    (hf : f ∈ itemFindings st.config (volumeSide st (missingInstances o st)) pv) :
    f ∈ (check o st).findings := by
  apply mem_check
  simp only [findings, checkVolumes, joinItems_out, List.mem_append, List.mem_flatMap]
  exact .inl (.inl (.inl (.inl (.inr (.inl (.inl ⟨pv, hpv, hf⟩))))))

theorem accounted_of_lists {h : Handle} {entries : List VolumeListEntry} (hpv : pv ∈ st.pvs)
    (hdriver : pv.driver = st.driver) (hp : VolumeId.parse pv.volumeHandle = .ok h)
    (hvols : st.backendVolumes.get h.backend = some entries)
    (hunlisted : h.backend ∉ st.unlistedVolumes) (hmem : pv.volumeHandle ∉ volumeHandles entries) :
    Accounted (check o st).findings pv := by
  by_cases hmissing : ((missingInstances o st).get (instanceKey h)).isSome
  · obtain ⟨err, hf⟩ := mem_missingInstanceFindings (sep_notMem_backend hp) hmissing
    refine .missing hp (mem_check (f := missingInstance h.backend h.inst err) ?_)
    simp only [findings, List.mem_append]
    exact .inl (.inl (.inl (.inl (.inl hf))))
  have hfound : ∀ f ∈ absentPV st (missingInstances o st) pv h, f ∈ (check o st).findings := by
    intro f hf
    apply mem_check_of_item hpv
    simp [itemFindings, volumeSide, hdriver, hp, hunlisted, hvols, hmem, hf]
  by_cases hhealthy : (st.healthProbes.get pv.volumeHandle).any (·.healthy) = true
  · have hf := hfound (listInconsistent pv h) (by simp [absentPV, hmissing, hhealthy])
    exact .named hf (by simp [listInconsistent]) rfl
  · have hf := hfound (ghostPV pv h (st.healthProbes.get pv.volumeHandle))
      (by simp [absentPV, hmissing, hhealthy])
    exact .named hf (by simp [ghostPV]) rfl

theorem backendAt_eq_none_iff {c : Dispatch.Config} {bt : Bytes} :
    backendAt c bt = none ↔ ¬ ∃ e ∈ c.backends.entries, bytes e.1 = bt := by
  simp [backendAt, List.find?_eq_none]

theorem accounted (hconfigured : ∀ bt, (∃ be, backends.get bt = some be) ↔
      ∃ e ∈ ob.config.backends.entries, bytes e.1 = bt)
    (hpv : pv ∈ ob.pvs) (hdriver : pv.driver = ob.driver) :
    (∃ h entries, VolumeId.parse pv.volumeHandle = .ok h ∧
      Lists BackendTruth.listVolumes backends h.backend entries ∧
      pv.volumeHandle ∈ volumeHandles entries) ∨
    Accounted (check o (collect ob backends)).findings pv := by
  have hobjects : (collect ob backends).toObjects = ob := collect_objects
  have hpv' : pv ∈ (collect ob backends).pvs := by rwa [hobjects]
  have hdriver' : pv.driver = (collect ob backends).driver := by rwa [hobjects]
  rcases hp : VolumeId.parse pv.volumeHandle with e | h
  · refine .inr (.named (f := unparseablePV pv e) (mem_check_of_item hpv' ?_) (by
      simp [unparseablePV]) rfl)
    simp [itemFindings, volumeSide, hdriver', hp]
  rcases hbe : backends.get h.backend with _ | be
  · -- the type is not registered, so it is not configured either
    have hnone : backendAt ob.config h.backend = none := by
      rw [backendAt_eq_none_iff, ← hconfigured, hbe]
      simp
    have hfound : ∃ f,
        checkHandleConfig (collect ob backends).config h ("pv/" ++ pv.name) = some f ∧
        f.check = .unknownInstance ∧ f.resource = bytes ("pv/" ++ pv.name) := by
      rw [hobjects, checkHandleConfig, hnone]
      exact ⟨_, rfl, rfl, rfl⟩
    obtain ⟨f, hf, hcheck, hresource⟩ := hfound
    refine .inr (.named (mem_check_of_item hpv' ?_) (by simp [hcheck]) hresource)
    simp [itemFindings, volumeSide, hdriver', hp, hf]
  rcases hcall : be.listVolumes with err | entries
  · by_cases hkind : err.kind = .unsupported
    · have hunlisted : h.backend ∈ (collect ob backends).unlistedVolumes :=
        ((collected ob backends).volumes.unlisted _).mpr
          ⟨mem_asked.mpr ⟨be, hbe⟩, err, ⟨be, hbe, hcall⟩, hkind⟩
      have hcount : ((joinItems (collect ob backends).config (volumeSide (collect ob backends)
          (missingInstances o (collect ob backends))) (collect ob backends).pvs).unverifiable.get
            h.backend).isSome := by
        rw [isSome_joinItems_unverifiable]
        exact ⟨pv, hpv', h, ⟨by simpa [volumeSide] using hdriver', hp⟩, rfl, hunlisted⟩
      obtain ⟨n, hf⟩ := mem_unverifiableFindings " PV(s)" "ListVolumes" hcount
      refine .inr (.unverifiable (n := n) hp (mem_check ?_))
      simp only [findings, checkVolumes, List.mem_append]
      exact .inl (.inl (.inl (.inl (.inr (.inr hf)))))
    · have hskip := (collected ob backends).volumes.skipped _ (mem_asked.mpr ⟨be, hbe⟩) err
        ⟨be, hbe, hcall⟩ hkind
      have hf := List.mem_map_of_mem (f := Skip.finding) hskip
      refine .inr (.skipped hp (mem_check (List.mem_append_right _ hf)))
  · have hlists : Lists BackendTruth.listVolumes backends h.backend entries := ⟨be, hbe, hcall⟩
    by_cases hmem : pv.volumeHandle ∈ volumeHandles entries
    · exact .inl ⟨h, entries, rfl, hlists, hmem⟩
    · exact .inr (accounted_of_lists hpv' hdriver' hp (collect_volumes.mpr hlists)
        ((collected _ _).volumes.notMem_unlisted hlists) hmem)

end Accounted

open Classical in
/-- A scan passes over no PV of the driver, and it reports the ghosts and the orphans among the
volumes, each once, and nothing else as such. -/
theorem scan_volumes (o : Orders) (ob : Objects) (backends : Backends)
    (hconfigured : ∀ bt, (∃ be, backends.get bt = some be) ↔
      ∃ e ∈ ob.config.backends.entries, bytes e.1 = bt) :
    (∀ pv ∈ ob.pvs, pv.driver = ob.driver →
      (∃ h entries, VolumeId.parse pv.volumeHandle = .ok h ∧
        Lists BackendTruth.listVolumes backends h.backend entries ∧
        pv.volumeHandle ∈ volumeHandles entries) ∨
      Accounted (check o (collect ob backends)).findings pv) ∧
    (((check o (collect ob backends)).findings.filter (·.check = .ghostPV)).map
      Finding.resource).Perm
        ((ob.pvs.filter (Ghost (collect ob backends) ·)).map fun pv => bytes ("pv/" ++ pv.name)) ∧
    ((check o (collect ob backends)).findings.filter (·.check = .orphanVolume)).Perm
      ((collect ob backends).backendVolumes.entries.flatMap fun e =>
        (e.2.filter fun v => Unreferenced ob v.handle).map fun v =>
          orphanFinding orphanVolume e.1 v.handle) ∧
    ∀ bt entries, (bt, entries) ∈ (collect ob backends).backendVolumes.entries ↔
      Lists BackendTruth.listVolumes backends bt entries := by
  have hobjects : (collect ob backends).toObjects = ob := collect_objects
  refine ⟨fun pv hpv hdriver => accounted hconfigured hpv hdriver, ?_, ?_, ?_⟩
  · have hlisted : ∀ bt entries, (collect ob backends).backendVolumes.get bt = some entries →
        bt ∉ (collect ob backends).unlistedVolumes := fun bt entries hget =>
      (collected _ _).volumes.notMem_unlisted (collect_volumes.mp hget)
    have hghosts := ghost_checkVolumes (o := o) hlisted
    rw [hobjects] at hghosts
    rw [← hghosts]
    exact (filter_check_perm (.inl rfl)).map _
  · refine (filter_check_perm (.inr rfl)).trans (orphan_checkVolumes.trans (.of_eq ?_))
    rw [hobjects]
  · intro bt entries
    rw [← Table.get_eq_some_iff]
    exact collect_volumes

section Instance

def listedOrders : Orders := ⟨Dispatch.listed, Dispatch.listedOrders⟩

/-- A PV whose volume is on the given instance. -/
def pvOn (inst : String) : PV where
  name := "pvc-1"
  driver := "csi.bard.io"
  volumeHandle := (⟨bytes "ceph-rbd", bytes inst, bytes "rbd", bytes "csi-vol-1"⟩ : Handle).string
  phase := "Bound"
  claim := "default/data"

def oneBackend : Dispatch.Config where
  backends := Dispatch.staleDefault.backends
  defaults := .empty

def objectsWith (pvs : List PV) (snapshotContents : List SnapshotContent) : Objects where
  driver := "csi.bard.io"
  zoneLabel := "topology.kubernetes.io/zone"
  config := oneBackend
  pvs := pvs
  snapshotContents := snapshotContents
  nodes := []
  csiNodes := []
  attachments := []
  haveSnapshotContents := true
  haveNodes := false
  haveCSINodes := false
  haveAttachments := false
  unread := []

/-- A plugin that lists nothing, and knows no instance when it is probed. -/
def emptyPlugin : BackendTruth where
  listVolumes := .ok []
  listSnapshots := .ok []
  getVolumeHealth _ _ := .error ⟨.invalidArgument, "no cluster configured for instance"⟩

def emptyBackends : Backends := ⟨[(bytes "ceph-rbd", emptyPlugin)], by simp⟩

theorem emptyBackends_get (bt : Bytes) :
    (∃ be, emptyBackends.get bt = some be) ↔ bytes "ceph-rbd" = bt := by
  simp [Table.get, Assoc.get, emptyBackends]

theorem scan_volumes_invisible :
    Accounted (check listedOrders (collect (objectsWith [pvOn "a"] []) emptyBackends)).findings
      (pvOn "a") := by
  have hscan := scan_volumes listedOrders (objectsWith [pvOn "a"] []) emptyBackends fun bt => by
    rw [emptyBackends_get]
    simp [objectsWith, oneBackend, Dispatch.staleDefault]
  refine (hscan.1 (pvOn "a") List.mem_cons_self rfl).resolve_left ?_
  rintro ⟨h, entries, -, ⟨be, hbe, hlist⟩, hmem⟩
  obtain ⟨-, hmem'⟩ := List.mem_singleton.mp (Table.get_eq_some_iff.mp hbe) |> Prod.mk.inj
  rw [hmem'] at hlist
  obtain rfl := Except.ok.inj hlist
  cases hmem

end Instance

end BardCsi.Inspect
