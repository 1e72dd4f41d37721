import BardCsi.Effect.Epochs
import BardCsi.Ceph.NodeReads
import BardCsi.Ceph.NodeSteps
import BardCsi.Ceph.Remote

/-!
The sessions of one node, one for each staging path. A session acts only on its own record,
mount and decrypted view and on devices that map its own image, and the requests of other
sessions leave these alone.
-/
namespace BardCsi.Ceph

open Effect Program

/-- Where the volumes of a node are staged: every volume has a staging path of its own. -/
structure Placement where
  volumeAt : String → ImageRef
  injective : Function.Injective volumeAt

section Identity

variable (P : Placement) (p : String)

/-- The device is a mapping of the volume's own image, or the decrypted view of one. -/
def owns (w : World) (d : Device) : Bool :=
  w.imageOf d = some (P.volumeAt p) ||
    (d = .luks p && (Assoc.get w.mappers p).bind w.imageOf = some (P.volumeAt p))

/-- A device that the request hands to a tool is the volume's own, and a device that the
request unmaps is the volume's own or not mapped at all. -/
def handsOwnDevice (w : World) : Cmd → Bool
  | .isLuks d | .luksFormat d _ _ | .luksOpen d _ _ _ | .fs (.blkid d) | .fs (.mkfs _ _ d)
  | .fs (.mount _ _ d _) | .fs (.resize2fs d) => owns P p w d
  | .rbdUnmap _ d _ => w.imageOf d = none || w.imageOf d = some (P.volumeAt p)
  | _ => true

/-- A fresh map gets a device that no record of another staging path names. -/
def freshDevice (c : Cmd) (o : Outcome) (w : World) : Bool :=
  match c with
  | .rbdMap m _ _ _ _ _ => (Assoc.get w.mapped (m.device o.pick)).isSome ||
      w.records.all fun x => x.1 = p || x.2.device ≠ some (m.device o.pick)
  | _ => true

/-- The records, decrypted views and mounts of the node are about the volume of their path, and
the records name devices that a mounter made. -/
structure Consistent (w : World) : Prop where
  raw : ∀ d i, w.imageOf d = some i → d.isRaw = true
  record : ∀ x ∈ w.records, ∀ d i, x.2.device = some d → w.imageOf d = some i →
    i = P.volumeAt x.1
  volume : ∀ x ∈ w.records, ∀ rec, x.2 = .json rec → rec.volume = P.volumeAt x.1
  mapper : ∀ x ∈ w.mappers, w.imageOf x.2 = some (P.volumeAt x.1)
  mount : ∀ x ∈ w.mounts, x.2 = .luks x.1 ∨ w.imageOf x.2 = some (P.volumeAt x.1)
  made : ∀ x ∈ w.records, ∀ d, x.2.device = some d → d.isRaw = true

/-- What other sessions leave to the session of a path. -/
structure Undisturbed (w w' : World) : Prop where
  record : Assoc.get w'.records p = Assoc.get w.records p
  mapper : Assoc.get w'.mappers p = Assoc.get w.mappers p
  mount : Assoc.get w'.mounts p = Assoc.get w.mounts p
  device : ∀ d, w.imageOf d = some (P.volumeAt p) → w'.imageOf d = some (P.volumeAt p)

/-- The requests that the session of a path may make in a state. -/
def Confined (w : World) : Cmd → Prop
  | .writeRecord q r =>
      q = p ∧ r.volume = P.volumeAt p ∧ w.imageOf r.device = some (P.volumeAt p)
  | .rbdMap _ i _ _ _ _ => i = P.volumeAt p
  | .removeRecord q | .luksOpen _ q _ _ | .luksClose q | .umount q | .fs (.mount _ _ _ q) => q = p
  | .rbdUnmap _ _ _ => True
  | c => c.offNode = true

end Identity

theorem Undisturbed.refl (P : Placement) (p : String) (w : World) : Undisturbed P p w w :=
  ⟨rfl, rfl, rfl, fun _ h => h⟩

theorem Undisturbed.trans {P : Placement} {p : String} {w₁ w₂ w₃ : World}
    (h : Undisturbed P p w₁ w₂) (h' : Undisturbed P p w₂ w₃) : Undisturbed P p w₁ w₃ :=
  ⟨h'.record.trans h.record, h'.mapper.trans h.mapper, h'.mount.trans h.mount,
    fun d hd => h'.device d (h.device d hd)⟩

def identityContract (P : Placement) (p : String) : Contract Cmd Outcome World where
  inv := Consistent P
  rely := Undisturbed P p
  assume c o w := freshDevice p c o w = true
  guarantee c w w' := handsOwnDevice P p w c = true ∧ ∀ q, q ≠ p → Undisturbed P q w w'
  rely_refl := Undisturbed.refl P p
  rely_trans := Undisturbed.trans

section Moves

variable {P : Placement} {p : String} {w w' : World} {d : Device}

theorem imageOf_mapped (w : World) (d : Device) (m : Mapping) (n : ℕ) :
    ({ w with mapped := Assoc.set w.mapped d m, seq := n } : World).imageOf =
      Function.update w.imageOf d (some m.image) := by
  funext d'
  unfold World.imageOf
  by_cases h : d' = d
  · simp [h]
  · simp [h, Assoc.get_set_of_ne]

theorem imageOf_unmapped (w : World) (d : Device) :
    ({ w with mapped := Assoc.erase w.mapped d } : World).imageOf =
      Function.update w.imageOf d none := by
  funext d'
  unfold World.imageOf
  by_cases h : d' = d
  · simp [h]
  · simp [h, Assoc.get_erase_of_ne]

theorem SameNode.imageOf (h : SameNode w w') : w'.imageOf = w.imageOf := by
  funext d
  simp only [World.imageOf, h.mapped]

theorem SameNode.undisturbed (h : SameNode w w') (q : String) : Undisturbed P q w w' :=
  ⟨by rw [h.records], by rw [h.mappers], by rw [h.mounts], fun d hd => by rw [h.imageOf, hd]⟩

theorem Consistent.congr (hi : Consistent P w) (himage : w'.imageOf = w.imageOf)
    (hrecords : w'.records = w.records) (hmappers : w'.mappers = w.mappers)
    (hmounts : w'.mounts = w.mounts) : Consistent P w' := by
  obtain ⟨hraw, hrecord, hvolume, hmapper, hmount, hmade⟩ := hi
  constructor
  · rwa [himage]
  · rwa [hrecords, himage]
  · rwa [hrecords]
  · rwa [hmappers, himage]
  · rwa [hmounts, himage]
  · rwa [hrecords]

theorem SameNode.consistent (h : SameNode w w') (hi : Consistent P w) : Consistent P w' :=
  hi.congr h.imageOf h.records h.mappers h.mounts

theorem isRaw_device (m : Mounter) (n : ℕ) : (m.device n).isRaw = true := by
  cases m with
  | krbd => rfl
  | nbd => rfl

theorem consistent_map (hi : Consistent P w) {m : Mapping} (n : ℕ) (hraw : d.isRaw = true)
    (hfree : w.imageOf d = none) (himage : m.image = P.volumeAt p)
    (hfresh : ∀ x ∈ w.records, x.1 = p ∨ x.2.device ≠ some d) :
    Consistent P { w with mapped := Assoc.set w.mapped d m, seq := n } := by
  have hother : ∀ d' i, w.imageOf d' = some i → d' ≠ d := by
    rintro d' i h rfl
    rw [hfree] at h
    cases h
  constructor
  · intro d' i h
    rw [imageOf_mapped] at h
    by_cases hd : d' = d
    · rwa [hd]
    · exact hi.raw d' i (by rwa [Function.update_of_ne hd] at h)
  · intro x hx d' i hdev h
    rw [imageOf_mapped] at h
    by_cases hd : d' = d
    · subst hd
      rw [Function.update_self, himage] at h
      rcases hfresh x hx with hp | hne
      · rw [hp]
        exact (Option.some.inj h).symm
      · exact absurd hdev hne
    · exact hi.record x hx d' i hdev (by rwa [Function.update_of_ne hd] at h)
  · exact hi.volume
  · intro x hx
    have h := hi.mapper x hx
    rwa [imageOf_mapped, Function.update_of_ne (hother _ _ h)]
  · intro x hx
    rcases hi.mount x hx with h | h
    · exact .inl h
    · right
      rwa [imageOf_mapped, Function.update_of_ne (hother _ _ h)]
  · exact hi.made

theorem undisturbed_map (m : Mapping) (n : ℕ) (hfree : w.imageOf d = none) (q : String) :
    Undisturbed P q w { w with mapped := Assoc.set w.mapped d m, seq := n } := by
  refine ⟨rfl, rfl, rfl, fun d' h => ?_⟩
  have hne : d' ≠ d := by
    rintro rfl
    rw [hfree] at h
    cases h
  rwa [imageOf_mapped, Function.update_of_ne hne]

theorem consistent_unmap (hi : Consistent P w) (hheld : w.held d = false) :
    Consistent P { w with mapped := Assoc.erase w.mapped d } := by
  simp only [World.held, Bool.or_eq_false_iff, List.any_eq_false, beq_iff_eq] at hheld
  have hkept : ∀ d' i, ({ w with mapped := Assoc.erase w.mapped d } : World).imageOf d' = some i →
      w.imageOf d' = some i := by
    intro d' i h
    rw [imageOf_unmapped] at h
    by_cases hd : d' = d
    · simp [hd] at h
    · rwa [Function.update_of_ne hd] at h
  constructor
  · exact fun d' i h => hi.raw d' i (hkept d' i h)
  · exact fun x hx d' i hdev h => hi.record x hx d' i hdev (hkept d' i h)
  · exact hi.volume
  · intro x hx
    rw [imageOf_unmapped, Function.update_of_ne (hheld.2 x hx)]
    exact hi.mapper x hx
  · intro x hx
    rcases hi.mount x hx with h | h
    · exact .inl h
    · right
      rwa [imageOf_unmapped, Function.update_of_ne (hheld.1 x hx)]
  · exact hi.made

theorem undisturbed_unmap {q : String} (hq : q ≠ p)
    (hown : w.imageOf d = none ∨ w.imageOf d = some (P.volumeAt p)) :
    Undisturbed P q w { w with mapped := Assoc.erase w.mapped d } := by
  refine ⟨rfl, rfl, rfl, fun d' h => ?_⟩
  have hne : d' ≠ d := by
    rintro rfl
    rcases hown with hown | hown
    · rw [hown] at h
      cases h
    · rw [hown] at h
      exact hq (P.injective (Option.some.inj h)).symm
  rwa [imageOf_unmapped, Function.update_of_ne hne]

theorem consistent_writeRecord (hi : Consistent P w) {r : DeviceRecord}
    (hvol : r.volume = P.volumeAt p) (hdev : w.imageOf r.device = some (P.volumeAt p)) :
    Consistent P { w with records := Assoc.set w.records p (.json r) } := by
  constructor
  · exact hi.raw
  · intro x hx d i hd h
    rcases Assoc.mem_set.mp hx with rfl | ⟨hx, _⟩
    · obtain rfl := Option.some.inj hd
      exact Option.some.inj (h.symm.trans hdev)
    · exact hi.record x hx d i hd h
  · intro x hx rec hrec
    rcases Assoc.mem_set.mp hx with rfl | ⟨hx, _⟩
    · injection hrec with hrec
      rw [← hrec, hvol]
    · exact hi.volume x hx rec hrec
  · exact hi.mapper
  · exact hi.mount
  · intro x hx d hd
    rcases Assoc.mem_set.mp hx with rfl | ⟨hx, _⟩
    · obtain rfl := Option.some.inj hd
      exact hi.raw _ _ hdev
    · exact hi.made x hx d hd

theorem consistent_removeRecord (hi : Consistent P w) (q : String) :
    Consistent P { w with records := Assoc.erase w.records q } := by
  constructor
  · exact hi.raw
  · exact fun x hx => hi.record x (Assoc.mem_erase.mp hx).1
  · exact fun x hx => hi.volume x (Assoc.mem_erase.mp hx).1
  · exact hi.mapper
  · exact hi.mount
  · exact fun x hx => hi.made x (Assoc.mem_erase.mp hx).1

theorem consistent_luksOpen (hi : Consistent P w) (hown : w.imageOf d = some (P.volumeAt p)) :
    Consistent P { w with mappers := Assoc.set w.mappers p d } := by
  constructor
  · exact hi.raw
  · exact hi.record
  · exact hi.volume
  · intro x hx
    rcases Assoc.mem_set.mp hx with rfl | ⟨hx, _⟩
    · exact hown
    · exact hi.mapper x hx
  · exact hi.mount
  · exact hi.made

theorem consistent_luksClose (hi : Consistent P w) (q : String) :
    Consistent P { w with mappers := Assoc.erase w.mappers q } := by
  constructor
  · exact hi.raw
  · exact hi.record
  · exact hi.volume
  · exact fun x hx => hi.mapper x (Assoc.mem_erase.mp hx).1
  · exact hi.mount
  · exact hi.made

theorem consistent_mount (hi : Consistent P w)
    (hown : d = .luks p ∨ w.imageOf d = some (P.volumeAt p)) :
    Consistent P { w with mounts := Assoc.set w.mounts p d } := by
  constructor
  · exact hi.raw
  · exact hi.record
  · exact hi.volume
  · exact hi.mapper
  · intro x hx
    rcases Assoc.mem_set.mp hx with rfl | ⟨hx, _⟩
    · exact hown
    · exact hi.mount x hx
  · exact hi.made

theorem consistent_umount (hi : Consistent P w) (q : String) :
    Consistent P { w with mounts := Assoc.erase w.mounts q } := by
  constructor
  · exact hi.raw
  · exact hi.record
  · exact hi.volume
  · exact hi.mapper
  · exact fun x hx => hi.mount x (Assoc.mem_erase.mp hx).1
  · exact hi.made

theorem owns_cases (h : owns P p w d = true) :
    w.imageOf d = some (P.volumeAt p) ∨
      d = .luks p ∧ (Assoc.get w.mappers p).bind w.imageOf = some (P.volumeAt p) := by
  simpa [owns] using h

theorem imageOf_eq_none : w.imageOf d = none ↔ Assoc.get w.mapped d = none := by
  simp [World.imageOf]

theorem confined_step {c : Cmd} {o : Outcome} (who : ℕ) (hi : Consistent P w)
    (hc : Confined P p w c) (hown : handsOwnDevice P p w c = true)
    (hfresh : freshDevice p c o w = true) :
    Consistent P (step who c o w).2 ∧ ∀ q, q ≠ p → Undisturbed P q w (step who c o w).2 := by
  have hsame : SameNode w (step who c o w).2 →
      Consistent P (step who c o w).2 ∧ ∀ q, q ≠ p → Undisturbed P q w (step who c o w).2 :=
    fun h => ⟨h.consistent hi, fun q _ => h.undisturbed q⟩
  have hidle : (step who c o w).2 = w →
      Consistent P (step who c o w).2 ∧ ∀ q, q ≠ p → Undisturbed P q w (step who c o w).2 :=
    fun h => hsame (by rw [h]; exact SameNode.refl w)
  cases c with
  | writeRecord q r =>
    obtain ⟨rfl, hvol, hdev⟩ := hc
    rcases step_writeRecord who o w q r with h | h
    · exact hidle h
    · rw [h]
      exact ⟨consistent_writeRecord hi hvol hdev,
        fun q' hq => ⟨Assoc.get_set_of_ne _ hq, rfl, rfl, fun _ h => h⟩⟩
  | removeRecord q =>
    obtain rfl : q = p := hc
    rcases step_removeRecord who o w q with h | h
    · exact hidle h
    · rw [h]
      exact ⟨consistent_removeRecord hi q,
        fun q' hq => ⟨Assoc.get_erase_of_ne hq, rfl, rfl, fun _ h => h⟩⟩
  | rbdMap m i opts cookie log ro =>
    obtain rfl : i = P.volumeAt p := hc
    rcases step_rbdMap who o w m (P.volumeAt p) opts cookie log ro with h | ⟨hfree, h⟩
    · exact hidle h
    · have hfree' := imageOf_eq_none.mpr hfree
      have hrecords : ∀ x ∈ w.records, x.1 = p ∨ x.2.device ≠ some (m.device o.pick) := by
        simpa [freshDevice, hfree] using hfresh
      rw [h]
      exact ⟨consistent_map hi _ (isRaw_device m _) hfree' rfl hrecords,
        fun q _ => undisturbed_map _ _ hfree' q⟩
  | rbdUnmap m d opts =>
    have hd : w.imageOf d = none ∨ w.imageOf d = some (P.volumeAt p) := by
      simpa [handsOwnDevice] using hown
    rcases step_rbdUnmap who o w m d opts with h | ⟨hheld, h⟩
    · exact hidle h
    · rw [h]
      exact ⟨consistent_unmap hi hheld, fun q hq => undisturbed_unmap hq hd⟩
  | luksOpen d q pass discards =>
    obtain rfl : q = p := hc
    rcases step_luksOpen who o w d q pass discards with h | ⟨hfree, h⟩
    · exact hidle h
    · rcases owns_cases hown with hd | ⟨_, hd⟩
      · rw [h]
        exact ⟨consistent_luksOpen hi hd,
          fun q' hq => ⟨rfl, Assoc.get_set_of_ne _ hq, rfl, fun _ h => h⟩⟩
      · simp [hfree] at hd
  | luksClose q =>
    obtain rfl : q = p := hc
    rcases step_luksClose who o w q with h | h
    · exact hidle h
    · rw [h]
      exact ⟨consistent_luksClose hi q,
        fun q' hq => ⟨rfl, Assoc.get_erase_of_ne hq, rfl, fun _ h => h⟩⟩
  | umount q =>
    obtain rfl : q = p := hc
    rcases step_umount who o w q with h | h
    · exact hidle h
    · rw [h]
      exact ⟨consistent_umount hi q,
        fun q' hq => ⟨rfl, rfl, Assoc.get_erase_of_ne hq, fun _ h => h⟩⟩
  | fs c =>
    cases c with
    | mount t flags d q =>
      obtain rfl : q = p := hc
      rcases step_mount who o w t flags d q with h | h
      · exact hidle h
      · rw [h]
        refine ⟨consistent_mount hi ?_,
          fun q' hq => ⟨rfl, rfl, Assoc.get_set_of_ne _ hq, fun _ h => h⟩⟩
        rcases owns_cases hown with hd | ⟨hd, _⟩
        · exact .inr hd
        · exact .inl hd
    | _ => exact hsame (step_offNode hc who o w)
  | _ => exact hsame (step_offNode hc who o w)

end Moves

/-- The requests of all sessions go to the one node. -/
def nodeMachine : Machine Cmd Cmd.Reply String Outcome World := machine.relabel fun _ => 0

abbrev SessionMeets {α : Type} (P : Placement) (p : String) (prog : Prog α)
    (Q : Except Err α → World → Prop) (w : World) : Prop :=
  prog.Meets nodeMachine p (identityContract P p) Q w

/-- Requests that leave the node alone, name no device and block no client. -/
def Cmd.idle : Cmd → Bool
  | .blocklistAdd _ | .isLuks _ | .luksFormat _ _ _ | .fs (.blkid _) | .fs (.mkfs _ _ _)
  | .fs (.resize2fs _) => false
  | c => c.offNode

theorem Cmd.idle_of_remote {s : Spec} {c : Cmd} (h : c.remote s = true) : c.idle = true := by
  cases c with
  | fs c => cases h
  | _ =>
    first
    | rfl
    | cases h

theorem idle_confined {c : Cmd} (h : c.idle = true) (P : Placement) (p : String) (w : World) :
    c.offNode = true ∧ Confined P p w c ∧ handsOwnDevice P p w c = true := by
  cases c with
  | fs c =>
    cases c with
    | blkid d => cases h
    | mkfs t args d => cases h
    | resize2fs d => cases h
    | mount t flags d q => cases h
    | _ => exact ⟨rfl, rfl, rfl⟩
  | _ =>
    first
    | exact ⟨rfl, rfl, rfl⟩
    | cases h

/-- Requests on one device of a session, and requests that name no device. -/
def Cmd.actsOn (p : String) (d : Device) : Cmd → Bool
  | .isLuks d' | .luksFormat d' _ _ | .fs (.blkid d') | .fs (.mkfs _ _ d')
  | .fs (.resize2fs d') => d' = d
  | .luksOpen d' q _ _ | .fs (.mount _ _ d' q) => d' = d && q = p
  | c => c.idle

abbrev ActsOn {α : Type} (p : String) (d : Device) (prog : Prog α) : Prop :=
  prog.Uses fun c => c.actsOn p d = true

abbrev Idle {α : Type} (prog : Prog α) : Prop := prog.Uses fun c => c.idle = true

theorem Remote.idle {α : Type} {s : Spec} {prog : Prog α} (h : Remote s prog) : Idle prog :=
  h.mono fun _ => Cmd.idle_of_remote

section Keeping

variable {P : Placement} {p : String} {w : World} {α : Type} {Q : Except Err α → World → Prop}
variable {c : Cmd} {d : Device} {prog : Prog α}

theorem keeps_request {k : c.Reply → Prog α} (h : ∀ a, Undisturbed P p w a → Consistent P a →
      Confined P p a c ∧ handsOwnDevice P p a c = true ∧
        ∀ o, SessionMeets P p (k (step 0 c o a).1) Q (step 0 c o a).2) :
    SessionMeets P p (.request c k) Q w := by
  intro a hr hi o ho
  obtain ⟨hc, hown, hk⟩ := h a hr hi
  obtain ⟨hi', hg⟩ := confined_step 0 hi hc hown ho
  exact ⟨⟨hown, hg⟩, hi', hk o⟩

theorem keeps_idle {k : c.Reply → Prog α} (hc : c.idle = true)
    (h : ∀ a o, Undisturbed P p w a → Consistent P a → SessionMeets P p (k (step 0 c o a).1) Q a) :
    SessionMeets P p (.request c k) Q w := by
  apply keeps_request
  intro a hr hi
  obtain ⟨hoff, hconf, hown⟩ := idle_confined hc P p a
  refine ⟨hconf, hown, fun o => ?_⟩
  exact (h a o hr hi).rely ((step_offNode hoff 0 o a).undisturbed p)

/-- The device is a mapping of the session's own image. -/
abbrev Mine (P : Placement) (p : String) (d : Device) (w : World) : Prop :=
  w.imageOf d = some (P.volumeAt p)

theorem Mine.owns (h : Mine P p d w) : owns P p w d = true := by
  unfold Mine at h
  simp [Ceph.owns, h]

theorem owns_of_undisturbed {a b : World} (hr : Undisturbed P p a b) (h : owns P p a d = true) :
    owns P p b d = true := by
  rcases owns_cases h with h | ⟨hd, h⟩
  · simp [owns, hr.device d h]
  · obtain ⟨d', hd', himage⟩ := Option.bind_eq_some_iff.mp h
    simp [owns, hd, hr.mapper, hd', hr.device d' himage]

theorem actsOn_step (hc : c.actsOn p d = true) (o : Outcome) (hown : owns P p w d = true) :
    Confined P p w c ∧ handsOwnDevice P p w c = true ∧ owns P p (step 0 c o w).2 d = true := by
  have hoff : c.offNode = true → owns P p (step 0 c o w).2 d = true :=
    fun h => owns_of_undisturbed ((step_offNode h 0 o w).undisturbed p) hown
  have hidle : c.idle = true →
      Confined P p w c ∧ handsOwnDevice P p w c = true ∧ owns P p (step 0 c o w).2 d = true := by
    intro h
    obtain ⟨hnode, hconf, hhands⟩ := idle_confined h P p w
    exact ⟨hconf, hhands, hoff hnode⟩
  cases c with
  | isLuks d' =>
    obtain rfl : d' = d := by simpa [Cmd.actsOn] using hc
    exact ⟨rfl, hown, hoff rfl⟩
  | luksFormat d' pass args =>
    obtain rfl : d' = d := by simpa [Cmd.actsOn] using hc
    exact ⟨rfl, hown, hoff rfl⟩
  | luksOpen d' q pass discards =>
    obtain ⟨rfl, rfl⟩ : d' = d ∧ q = p := by simpa [Cmd.actsOn] using hc
    refine ⟨rfl, hown, ?_⟩
    rcases step_luksOpen 0 o w d' q pass discards with h | ⟨hfree, h⟩
    · rwa [h]
    · rcases owns_cases hown with hd | ⟨_, hd⟩
      · rw [h]
        exact Mine.owns hd
      · simp [hfree] at hd
  | fs c =>
    cases c with
    | blkid d' =>
      obtain rfl : d' = d := by simpa [Cmd.actsOn] using hc
      exact ⟨rfl, hown, hoff rfl⟩
    | mkfs t args d' =>
      obtain rfl : d' = d := by simpa [Cmd.actsOn] using hc
      exact ⟨rfl, hown, hoff rfl⟩
    | resize2fs d' =>
      obtain rfl : d' = d := by simpa [Cmd.actsOn] using hc
      exact ⟨rfl, hown, hoff rfl⟩
    | mount t flags d' q =>
      obtain ⟨rfl, rfl⟩ : d' = d ∧ q = p := by simpa [Cmd.actsOn] using hc
      refine ⟨rfl, hown, ?_⟩
      rcases step_mount 0 o w t flags d' q with h | h
      · rwa [h]
      · rw [h]
        exact hown
    | _ => exact hidle hc
  | _ => exact hidle hc

theorem keeps_actsOn (hu : ActsOn p d prog) (hown : owns P p w d = true) :
    SessionMeets P p prog (fun _ a => owns P p a d = true) w := by
  refine Meets.of_uses (P := fun a => owns P p a d = true) hu hown ?_ ?_
  · exact fun a b => owns_of_undisturbed
  · intro c o a hc hi ho ha
    obtain ⟨hconf, hhands, hkept⟩ := actsOn_step hc o ha
    obtain ⟨hi', hg⟩ := confined_step 0 hi hconf hhands ho
    exact ⟨⟨hhands, hg⟩, hi', hkept⟩

theorem Idle.actsOn (h : Idle prog) (d : Device) : ActsOn p d prog := by
  apply h.mono
  intro c hc
  cases c with
  | isLuks d' => cases hc
  | luksFormat d' pass args => cases hc
  | luksOpen d' q pass discards => cases hc
  | fs c =>
    cases c with
    | blkid d' => cases hc
    | mkfs t args d' => cases hc
    | resize2fs d' => cases hc
    | mount t flags d' q => cases hc
    | _ => exact hc
  | _ => exact hc

theorem keeps_idleUses {A : World → Prop} (hu : Idle prog) (hw : A w)
    (hA : ∀ a b, Undisturbed P p a b → A a → A b) :
    SessionMeets P p prog (fun _ => A) w := by
  apply Meets.of_uses hu hw hA
  intro c o a hc hi ho ha
  obtain ⟨hoff, hconf, hown⟩ := idle_confined hc P p a
  obtain ⟨hi', hg⟩ := confined_step 0 hi hconf hown ho
  exact ⟨⟨hown, hg⟩, hi', hA a _ ((step_offNode hoff 0 o a).undisturbed p) ha⟩

theorem keeps_fencing (hu : Fencing prog) :
    SessionMeets P p prog (fun _ _ => True) w := by
  refine Meets.of_uses (P := fun _ => True) hu trivial (fun _ _ _ _ => trivial) ?_
  intro c o a hc hi ho _
  have hconf : Confined P p a c ∧ handsOwnDevice P p a c = true := by
    cases c with
    | rbdStatus i => exact ⟨rfl, rfl⟩
    | cephCLIConn inst user => exact ⟨rfl, rfl⟩
    | blocklistAdd addr => exact ⟨rfl, rfl⟩
    | _ => cases hc
  obtain ⟨hi', hg⟩ := confined_step 0 hi hconf.1 hconf.2 ho
  exact ⟨⟨hconf.2, hg⟩, hi', trivial⟩

theorem idle_tool {f : c.Reply → Prog α} (h : c.idle = true) (hf : ∀ r, Idle (f r)) :
    Idle ((run c).bind f) := by
  have hrun : Idle (run c) := ⟨h, fun _ => trivial⟩
  exact hrun.bind hf

theorem idle_then {β : Type} {f : α → Prog β} {R : β → World → Prop} {A : World → Prop}
    (hu : Idle prog) (hw : A w) (hA : ∀ a b, Undisturbed P p a b → A a → A b)
    (hf : ∀ x a, A a → SessionMeets P p (f x) (IfOk R) a) :
    SessionMeets P p (prog.bind f) (IfOk R) w :=
  (keeps_idleUses hu hw hA).andThen (fun x a _ h => hf x a h) fun _ _ _ _ => trivial

theorem actsOn_tool {f : c.Reply → Prog α} (h : c.actsOn p d = true) (hf : ∀ r, ActsOn p d (f r)) :
    ActsOn p d ((run c).bind f) := by
  have hrun : ActsOn p d (run c) := ⟨h, fun _ => trivial⟩
  exact hrun.bind hf

theorem actsOn_then {β : Type} {f : α → Prog β} {R : β → World → Prop} (hu : ActsOn p d prog)
    (hown : owns P p w d = true)
    (hf : ∀ x a, owns P p a d = true → SessionMeets P p (f x) (IfOk R) a) :
    SessionMeets P p (prog.bind f) (IfOk R) w :=
  (keeps_actsOn hu hown).andThen (fun x a _ h => hf x a h) fun _ _ _ _ => trivial

end Keeping

end BardCsi.Ceph
