import BardCsi.Ceph.Stored

/-!
The keyslots of a volume's LUKS header, and the requests that rewrite them.
-/
namespace BardCsi.Ceph

open Effect

/-- The keyslots of the header on an image. -/
def header (w : World) (i : ImageRef) : List Text :=
  match w.images i with
  | some im => im.content.slots
  | none => []

/-- A device that shows the data of an image itself, not a decrypted view. -/
def Maps (w : World) (d : Device) (i : ImageRef) : Prop :=
  w.imageOf d = some i ∧ ∀ p, d ≠ .luks p

/-- Replace the data of an image. -/
def World.setContent (w : World) (i : ImageRef) (c : Content) : World :=
  match w.images i with
  | some im => w.setImage i { im with content := c }
  | none => w

section SetContent

variable {w : World} {i j : ImageRef} {c : Content}

theorem setContent_metaAt : metaAt (w.setContent i c) j = metaAt w j := by
  unfold metaAt World.setContent
  cases him : w.images i with
  | none => rfl
  | some im =>
    by_cases hj : j = i
    · subst hj
      simp [World.setImage, him]
    · simp [World.setImage, Function.update_of_ne hj]

theorem setContent_rest : ∃ images, w.setContent i c = { w with images := images } := by
  unfold World.setContent
  cases w.images i with
  | none => exact ⟨w.images, rfl⟩
  | some im => exact ⟨_, rfl⟩

theorem header_setContent_self (h : (w.images i).isSome) :
    header (w.setContent i c) i = c.slots := by
  obtain ⟨im, him⟩ := Option.isSome_iff_exists.mp h
  simp [header, World.setContent, him, World.setImage]

theorem header_setMeta {q : QKey} {v : Text} : header (w.setMeta i q v) j = header w j := by
  unfold header World.setMeta
  cases him : w.images i with
  | none => rfl
  | some im =>
    by_cases hj : j = i
    · subst hj
      simp [World.setImage, him]
    · simp [World.setImage, Function.update_of_ne hj]

end SetContent

section Maps

variable {w : World} {d : Device} {i : ImageRef}

theorem Maps.contentOf (h : Maps w d i) : w.contentOf d = (w.images i).map Image.content := by
  obtain ⟨himage, hraw⟩ := h
  cases d with
  | luks p => exact absurd rfl (hraw p)
  | rbd n => cases hi : w.images i <;> simp [World.contentOf, himage, hi]
  | nbd n => cases hi : w.images i <;> simp [World.contentOf, himage, hi]
  | other p => cases hi : w.images i <;> simp [World.contentOf, himage, hi]

theorem Maps.writeContent (h : Maps w d i) (hi : (w.images i).isSome) (c : Content) :
    w.writeContent d c = some (w.setContent i c) := by
  obtain ⟨himage, hraw⟩ := h
  obtain ⟨im, him⟩ := Option.isSome_iff_exists.mp hi
  cases d with
  | luks p => exact absurd rfl (hraw p)
  | rbd n => simp [World.writeContent, World.setContent, himage, him]
  | nbd n => simp [World.writeContent, World.setContent, himage, him]
  | other p => simp [World.writeContent, World.setContent, himage, him]

theorem withHeader_spec (h : Maps w d i) (f : List Text → Except RunError (List Text)) :
    (∃ inner slots, f (header w i) = .ok slots ∧ (w.images i).isSome ∧
      withHeader d w f = (.ok (), w.setContent i (.luks slots inner))) ∨
    ∃ e, withHeader d w f = (.error e, w) := by
  unfold withHeader
  rw [h.contentOf]
  cases him : w.images i with
  | none => exact .inr ⟨_, rfl⟩
  | some im =>
    have hwrite := h.writeContent (by rw [him]; rfl)
    have hheader : header w i = im.content.slots := by simp [header, him]
    cases hc : im.content with
    | blank => exact .inr ⟨.other "not a LUKS device", by simp [hc, refused]⟩
    | filesystem t => exact .inr ⟨.other "not a LUKS device", by simp [hc, refused]⟩
    | luks slots inner =>
      rw [hc] at hheader
      cases hf : f slots with
      | error e => exact .inr ⟨e, by simp [hc, hf, refused]⟩
      | ok slots' =>
        refine .inl ⟨inner, slots', ?_, rfl, ?_⟩
        · rw [hheader]
          exact hf
        · simp [hc, hf, hwrite, orRefused, done]

theorem withHeader_rewrites {f : List Text → Except RunError (List Text)} {slots : List Text}
    {p : Text} (h : Maps w d i) (hp : p ∈ header w i) (hf : f (header w i) = .ok slots) :
    ∃ inner, (w.images i).isSome ∧
      withHeader d w f = (.ok (), w.setContent i (.luks slots inner)) := by
  unfold header at hp hf
  cases him : w.images i with
  | none => simp [him] at hp
  | some im =>
    have hwrite := h.writeContent (by rw [him]; rfl)
    cases hc : im.content with
    | blank => simp [him, hc, Content.slots] at hp
    | filesystem t => simp [him, hc, Content.slots] at hp
    | luks old inner =>
      have hf' : f old = .ok slots := by simpa [him, hc, Content.slots] using hf
      refine ⟨inner, rfl, ?_⟩
      simp [withHeader, h.contentOf, him, hc, hf', hwrite, orRefused, done]

theorem step_luksAddKey (h : Maps w d i) (who : ℕ) (old new : Text) (o : Outcome) :
    ((∃ e, (step who (.luksAddKey d old new) o w).1 = .error e) ∧
      (step who (.luksAddKey d old new) o w).2 = w) ∨
    ∃ inner, (w.images i).isSome ∧ (step who (.luksAddKey d old new) o w).2 =
      w.setContent i (.luks (header w i ++ [new]) inner) := by
  have hperform : (∃ e, (perform who o.pick (.luksAddKey d old new) w).1 = .error e) ∧
      (perform who o.pick (.luksAddKey d old new) w).2 = w ∨
      ∃ inner, (w.images i).isSome ∧ (perform who o.pick (.luksAddKey d old new) w).2 =
        w.setContent i (.luks (header w i ++ [new]) inner) := by
    obtain ⟨inner, slots, hf, hi, hw⟩ | ⟨e, hw⟩ := withHeader_spec h fun slots =>
      if old ∈ slots then .ok (slots ++ [new]) else .error .noKeyAvailable
    · split at hf
      · obtain rfl := Except.ok.inj hf
        exact .inr ⟨inner, hi, congrArg Prod.snd hw⟩
      · cases hf
    · exact .inl ⟨⟨e, congrArg Prod.fst hw⟩, congrArg Prod.snd hw⟩
  obtain hs | ⟨f, _, hf, hs | ⟨hs, _⟩⟩ := step_cases who (.luksAddKey d old new) o w
  · rw [hs]
    exact hperform
  · exact .inl ⟨⟨_, (Option.some.inj hf).symm⟩, hs⟩
  · rw [hs]
    obtain ⟨_, hw⟩ | hw := hperform
    · exact .inl ⟨⟨_, (Option.some.inj hf).symm⟩, hw⟩
    · exact .inr hw

theorem step_luksRemoveKey (h : Maps w d i) (who : ℕ) (p : Text) (o : Outcome) :
    (step who (.luksRemoveKey d p) o w).2 = w ∨
    ∃ inner, (w.images i).isSome ∧ (step who (.luksRemoveKey d p) o w).2 =
      w.setContent i (.luks ((header w i).erase p) inner) := by
  obtain hs | hs := step_state who (.luksRemoveKey d p) o w
  · exact .inl hs
  · rw [hs]
    obtain ⟨inner, slots, hf, hi, hw⟩ | ⟨e, hw⟩ := withHeader_spec h fun slots =>
      if p ∈ slots then .ok (slots.erase p) else .error .noKeyAvailable
    · split at hf
      · obtain rfl := Except.ok.inj hf
        exact .inr ⟨inner, hi, congrArg Prod.snd hw⟩
      · cases hf
    · exact .inl (congrArg Prod.snd hw)

end Maps

end BardCsi.Ceph
