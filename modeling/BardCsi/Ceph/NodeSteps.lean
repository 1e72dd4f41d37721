import BardCsi.Ceph.Frame

/-!
What each request that changes the devices, mounts or records of the node can do to them. A
request that does not work leaves the state as it is.
-/
namespace BardCsi.Ceph

open Effect

section Inversion

variable (who : ℕ) (o : Outcome) (w : World)

theorem step_worked {c : Cmd} (h : ∀ f, c.failed f ≠ some (step who c o w).1) :
    step who c o w = perform who o.pick c w := by
  obtain hs | ⟨f, _, hf, _⟩ := step_cases who c o w
  · exact hs
  · exact absurd hf (h f)

theorem step_writeRecord (p : String) (r : DeviceRecord) :
    (step who (.writeRecord p r) o w).2 = w ∨
      (step who (.writeRecord p r) o w).2 =
        { w with records := Assoc.set w.records p (.json r) } :=
  step_state who (.writeRecord p r) o w

theorem step_removeRecord (p : String) :
    (step who (.removeRecord p) o w).2 = w ∨
      (step who (.removeRecord p) o w).2 = { w with records := Assoc.erase w.records p } :=
  step_state who (.removeRecord p) o w

theorem performMap_cases (pick : ℕ) (m : Mounter) (i : ImageRef) :
    (∃ e, performMap pick m i w = (.error e, w)) ∨
      Assoc.get w.mapped (m.device pick) = none ∧ performMap pick m i w =
        (.ok (m.device pick), { w with
          mapped := Assoc.set w.mapped (m.device pick) ⟨i, w.seq, true⟩
          seq := w.seq + 1 }) := by
  unfold performMap
  simp only
  split_ifs with himage hused
  · exact .inl ⟨_, rfl⟩
  · exact .inl ⟨_, rfl⟩
  · exact .inr ⟨by simpa using hused, rfl⟩

theorem step_rbdMap (m : Mounter) (i : ImageRef) (opts cookie log : Text) (ro : Bool) :
    (step who (.rbdMap m i opts cookie log ro) o w).2 = w ∨
      Assoc.get w.mapped (m.device o.pick) = none ∧
        (step who (.rbdMap m i opts cookie log ro) o w).2 = { w with
          mapped := Assoc.set w.mapped (m.device o.pick) ⟨i, w.seq, true⟩
          seq := w.seq + 1 } := by
  obtain h | h := step_state who (.rbdMap m i opts cookie log ro) o w
  · exact .inl h
  · change _ = (performMap o.pick m i w).2 at h
    rw [h]
    obtain ⟨e, hp⟩ | ⟨hfree, hp⟩ := performMap_cases w o.pick m i
    · exact .inl (by rw [hp])
    · exact .inr ⟨hfree, by rw [hp]⟩

theorem step_rbdMap_ok {m : Mounter} {i : ImageRef} {opts cookie log : Text} {ro : Bool}
    {d : Device} (h : (step who (.rbdMap m i opts cookie log ro) o w).1 = .ok d) :
    d = m.device o.pick ∧ (step who (.rbdMap m i opts cookie log ro) o w).2 = { w with
      mapped := Assoc.set w.mapped (m.device o.pick) ⟨i, w.seq, true⟩
      seq := w.seq + 1 } := by
  have hstep : step who (.rbdMap m i opts cookie log ro) o w = perform who o.pick _ w := by
    apply step_worked
    intro f hf
    rw [h] at hf
    cases hf
  rw [hstep] at h ⊢
  change (performMap o.pick m i w).1 = _ at h
  change _ ∧ (performMap o.pick m i w).2 = _
  obtain ⟨e, hp⟩ | ⟨_, hp⟩ := performMap_cases w o.pick m i
  · rw [hp] at h
    cases h
  · rw [hp] at h ⊢
    exact ⟨(Except.ok.inj h).symm, rfl⟩

theorem step_rbdUnmap (m : Mounter) (d : Device) (opts : String) :
    (step who (.rbdUnmap m d opts) o w).2 = w ∨
      w.held d = false ∧ (step who (.rbdUnmap m d opts) o w).2 =
        { w with mapped := Assoc.erase w.mapped d } := by
  obtain h | h := step_state who (.rbdUnmap m d opts) o w
  · exact .inl h
  · change _ = (performUnmap m d w).2 at h
    rw [h]
    unfold performUnmap
    split
    · split_ifs with hfree hheld
      · exact .inl rfl
      · exact .inl rfl
      · exact .inr ⟨by simpa using hheld, rfl⟩
    · split_ifs with hfree hheld
      · exact .inl rfl
      · exact .inl rfl
      · exact .inr ⟨by simpa using hheld, rfl⟩
    · exact .inl rfl

theorem performLuksOpen_cases (d : Device) (p : String) (pass : Text) :
    (∃ e, performLuksOpen d p pass w = (.error e, w)) ∨
      Assoc.get w.mappers p = none ∧ performLuksOpen d p pass w =
        (.ok (), { w with mappers := Assoc.set w.mappers p d }) := by
  unfold performLuksOpen
  split
  · split_ifs with hpass
    · exact .inr ⟨‹_›, rfl⟩
    · exact .inl ⟨_, rfl⟩
  · exact .inl ⟨_, rfl⟩

theorem step_luksOpen (d : Device) (p : String) (pass : Text) (discards : Bool) :
    (step who (.luksOpen d p pass discards) o w).2 = w ∨
      Assoc.get w.mappers p = none ∧ (step who (.luksOpen d p pass discards) o w).2 =
        { w with mappers := Assoc.set w.mappers p d } := by
  obtain h | h := step_state who (.luksOpen d p pass discards) o w
  · exact .inl h
  · change _ = (performLuksOpen d p pass w).2 at h
    rw [h]
    obtain ⟨e, hp⟩ | ⟨hfree, hp⟩ := performLuksOpen_cases w d p pass
    · exact .inl (by rw [hp])
    · exact .inr ⟨hfree, by rw [hp]⟩

theorem step_luksOpen_ok {d : Device} {p : String} {pass : Text} {discards : Bool} {u : Unit}
    (h : (step who (.luksOpen d p pass discards) o w).1 = .ok u) :
    Assoc.get w.mappers p = none ∧ (step who (.luksOpen d p pass discards) o w).2 =
      { w with mappers := Assoc.set w.mappers p d } := by
  have hstep : step who (.luksOpen d p pass discards) o w = perform who o.pick _ w := by
    apply step_worked
    intro f hf
    rw [h] at hf
    cases hf
  rw [hstep] at h ⊢
  change (performLuksOpen d p pass w).1 = _ at h
  change _ ∧ (performLuksOpen d p pass w).2 = _
  obtain ⟨e, hp⟩ | ⟨hfree, hp⟩ := performLuksOpen_cases w d p pass
  · rw [hp] at h
    cases h
  · rw [hp]
    exact ⟨hfree, rfl⟩

theorem step_luksClose (p : String) :
    (step who (.luksClose p) o w).2 = w ∨
      (step who (.luksClose p) o w).2 = { w with mappers := Assoc.erase w.mappers p } := by
  obtain h | h := step_state who (.luksClose p) o w
  · exact .inl h
  · change _ = (performLuksClose p w).2 at h
    rw [h]
    unfold performLuksClose
    split_ifs with hheld hactive
    · exact .inl rfl
    · exact .inl rfl
    · exact .inr rfl

theorem step_mount (t : String) (flags : List String) (d : Device) (p : String) :
    (step who (.fs (.mount t flags d p)) o w).2 = w ∨
      (step who (.fs (.mount t flags d p)) o w).2 =
        { w with mounts := Assoc.set w.mounts p d } := by
  obtain h | h := step_state who (.fs (.mount t flags d p)) o w
  · exact .inl h
  · change _ = (performFs (.mount t flags d p) w).2 at h
    rw [h]
    simp only [performFs]
    cases w.contentOf d with
    | none => exact .inl rfl
    | some content =>
      cases content with
      | filesystem t => exact .inr rfl
      | blank => exact .inl rfl
      | luks slots inner => exact .inl rfl

theorem step_umount (p : String) :
    (step who (.umount p) o w).2 = w ∨
      (step who (.umount p) o w).2 = { w with mounts := Assoc.erase w.mounts p } := by
  obtain h | h := step_state who (.umount p) o w
  · exact .inl h
  · change _ = (performUmount p w).2 at h
    rw [h]
    unfold performUmount
    split_ifs with hmounted
    · exact .inl rfl
    · exact .inr rfl

end Inversion

end BardCsi.Ceph
