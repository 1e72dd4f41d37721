import BardCsi.Ceph.Descriptor

/-!
What creating and deleting a snapshot may touch: the entries of the snapshot on its image, its
secrets, and objects of its own. Everything else, and the key of the image in particular, is as
it was, wherever a call stops.
-/
namespace BardCsi.Ceph

open Effect Program

def snapsOf (w : World) (i : ImageRef) : List (ObjectName × Snapshot) :=
  match w.images i with
  | some im => im.snaps
  | none => []

/-- Only drawn keys lie between the two worlds. -/
def Later (w x : World) : Prop := ∃ n, w.seq ≤ n ∧ x = { w with seq := n }

/-- The same metadata and the same keys. -/
structure Alike (w x : World) : Prop where
  present : ∀ j, (x.images j).isSome = (w.images j).isSome
  info : ∀ j q, metaAt x j q = metaAt w j q
  secrets : x.secrets = w.secrets
  kmip : x.kmip = w.kmip
  master : x.master = w.master
  seq : w.seq ≤ x.seq

/-- Nothing has changed but what belongs to `s`: its entries, its secrets, and the objects
`mine`. -/
structure Apart (s : Spec) (mine : Text → Prop) (w x : World) : Prop where
  present : ∀ j, (x.images j).isSome = (w.images j).isSome
  info : ∀ j q, j ≠ s.image ∨ q.snap ≠ s.snap → metaAt x j q = metaAt w j q
  secrets : ∀ t : Secret, t.spec ≠ s → x.secrets t = w.secrets t
  kmip : ∀ e u, ¬mine u → x.kmip e u = w.kmip e u
  master : x.master = w.master
  seq : w.seq ≤ x.seq

section Frames

variable {s : Spec} {mine : Text → Prop} {w a x : World}

theorem Later.refl (w : World) : Later w w := ⟨w.seq, Nat.le_refl _, rfl⟩

theorem Later.trans {w₁ w₂ w₃ : World} (h : Later w₁ w₂) (h' : Later w₂ w₃) : Later w₁ w₃ := by
  obtain ⟨m, hm, rfl⟩ := h
  obtain ⟨n, hn, rfl⟩ := h'
  exact ⟨n, Nat.le_trans hm hn, rfl⟩

theorem Later.alike (h : Later w x) : Alike w x := by
  obtain ⟨n, hn, rfl⟩ := h
  exact ⟨fun _ => rfl, fun _ _ => rfl, rfl, rfl, rfl, hn⟩

theorem Alike.trans {w₁ w₂ w₃ : World} (h : Alike w₁ w₂) (h' : Alike w₂ w₃) : Alike w₁ w₃ where
  present j := (h'.present j).trans (h.present j)
  info j q := (h'.info j q).trans (h.info j q)
  secrets := h'.secrets.trans h.secrets
  kmip := h'.kmip.trans h.kmip
  master := h'.master.trans h.master
  seq := Nat.le_trans h.seq h'.seq

theorem Alike.stored (h : Alike w x) (b : Backend) (ks : KeyService) (inst : String) (s : Spec) :
    stored b ks inst s x = stored b ks inst s w := by
  unfold Ceph.stored
  rw [slot_congr (funext fun q => h.info s.image q) h.secrets]
  exact decode_congr h.master fun e _ => by rw [h.kmip]

theorem Apart.refl (s : Spec) (mine : Text → Prop) (w : World) : Apart s mine w w :=
  ⟨fun _ => rfl, fun _ _ _ => rfl, fun _ _ => rfl, fun _ _ _ => rfl, rfl, Nat.le_refl _⟩

theorem Apart.alike (h : Apart s mine w a) (h' : Alike a x) : Apart s mine w x where
  present j := (h'.present j).trans (h.present j)
  info j q hq := (h'.info j q).trans (h.info j q hq)
  secrets t ht := by rw [h'.secrets, h.secrets t ht]
  kmip e u hu := by rw [h'.kmip, h.kmip e u hu]
  master := h'.master.trans h.master
  seq := Nat.le_trans h.seq h'.seq

theorem Apart.setMeta (h : Apart s mine w a) (k : MetaKey) (v : Text) :
    Apart s mine w (a.setMeta s.image ⟨k, s.snap⟩ v) where
  present j := by rw [setMeta_isSome, h.present]
  info j q hq := by
    rw [metaAt_setMeta_of_ne, h.info j q hq]
    obtain hj | hsnap := hq
    · exact .inl hj
    · exact .inr fun hq => hsnap (by rw [hq])
  secrets t ht := by rw [setMeta_secrets, h.secrets t ht]
  kmip e u hu := by rw [setMeta_kmip, h.kmip e u hu]
  master := by rw [setMeta_master, h.master]
  seq := by rw [setMeta_seq]; exact h.seq

theorem Apart.putSecret (h : Apart s mine w a) {t : Secret} (ht : t.spec = s) (v : Option Text) :
    Apart s mine w (a.putSecret t v) where
  present := h.present
  info := h.info
  secrets u hu := by
    rw [← h.secrets u hu]
    exact Function.update_of_ne (fun h => hu (by rw [h, ht])) _ _
  kmip := h.kmip
  master := h.master
  seq := h.seq

theorem Apart.setKmip (h : Apart s mine w a) {e : String} {u : Text} (hu : mine u)
    (p : Option Text) {n : ℕ} (hn : a.seq ≤ n) :
    Apart s mine w { a.setKmip e u p with seq := n } where
  present := h.present
  info := h.info
  secrets := h.secrets
  kmip e' u' hu' := by
    rw [← h.kmip e' u' hu']
    exact setKmip_kmip_of_ne fun heq => hu' (heq ▸ hu)
  master := h.master
  seq := Nat.le_trans h.seq hn

theorem Apart.keysKept (h : Apart s mine w x) (hs : s.snap ≠ none)
    (hw : (w.images s.image).isSome = true)
    (hown : ¬mine (metaOf w s.image.spec .kmipUID)) : KeysKept s.image w x where
  present := by rw [h.present, hw]
  descriptor k _ := h.info _ _ (.inr (Ne.symm hs))
  secrets t ht := by rw [h.secrets t fun he => hs (by rw [← he, ht]; rfl)]
  kmip e := h.kmip e _ hown
  master := h.master

/-- Requests about a snapshot that touch neither metadata nor keys. -/
def Cmd.keyless : Cmd → Bool
  | .claimSnapName _ _ _ | .releaseSnapName _ | .rbdSnapCreate _ _ | .rbdSnapRm _ => true
  | c => c.reads

theorem alike_setImage {i : ImageRef} {im im' : Image} (him : w.images i = some im)
    (hinfo : im'.info = im.info) : Alike w (w.setImage i im') where
  present j := by
    by_cases hj : j = i
    · subst hj
      rw [setImage_images_self, him]
      rfl
    · rw [setImage_images_of_ne hj]
  info j q := by
    by_cases hj : j = i
    · subst hj
      rw [metaAt, metaAt, setImage_images_self, him]
      exact congrFun hinfo q
    · rw [metaAt, metaAt, setImage_images_of_ne hj]
  secrets := rfl
  kmip := rfl
  master := rfl
  seq := Nat.le_refl _

theorem alike_index {index : List (String × ImageRef)} {names : List (Spec × String)} :
    Alike w { w with snapIndex := index, snapNames := names } :=
  ⟨fun _ => rfl, fun _ _ => rfl, rfl, rfl, rfl, Nat.le_refl _⟩

theorem perform_alike {c : Cmd} (hc : c.keyless = true) (who pick : ℕ) :
    Alike w (perform who pick c w).2 := by
  have hrefl : Alike w w := (Later.refl w).alike
  have hreads (h : c.reads = true) : Alike w (perform who pick c w).2 := by
    obtain hw | hw := perform_reads h who pick w
    · rw [hw]
      exact hrefl
    · rw [hw]
      exact Later.alike ⟨_, Nat.le_succ _, rfl⟩
  cases c with
  | claimSnapName name source handle =>
    change Alike w (performClaim name source handle w).2
    unfold performClaim
    split
    · exact hrefl
    · exact alike_index
  | releaseSnapName handle =>
    change Alike w (performRelease handle w).2
    unfold performRelease
    split
    · exact alike_index
    · exact hrefl
  | rbdSnapCreate i n =>
    change Alike w (performSnapCreate i n w).2
    unfold performSnapCreate onImage
    cases him : w.images i with
    | none => exact hrefl
    | some im =>
      dsimp only
      split
      · exact hrefl
      · exact alike_setImage him rfl
  | rbdSnapRm t =>
    change Alike w (performSnapRm t w).2
    unfold performSnapRm onImage
    cases him : w.images t.image with
    | none => exact hrefl
    | some im =>
      dsimp only
      split
      · exact hrefl
      · split
        · exact hrefl
        · exact alike_setImage him rfl
  | _ => exact hreads hc

theorem step_alike {c : Cmd} (hc : c.keyless = true) (who : ℕ) (o : Outcome) :
    Alike w (step who c o w).2 := by
  obtain h | h := step_state who c o w
  · rw [h]
    exact (Later.refl w).alike
  · rw [h]
    exact perform_alike hc who o.pick

end Frames

/-- The caller is alone and keeps `I`. -/
def laterContract (I : World → Prop) : Contract Cmd Outcome World where
  inv := I
  rely := Later
  assume _ _ _ := True
  guarantee _ _ _ := True
  rely_refl := Later.refl
  rely_trans := Later.trans

/-- The caller is alone and keeps to what belongs to `s`. -/
abbrev apartContract (s : Spec) (mine : Text → Prop) (w : World) : Contract Cmd Outcome World :=
  laterContract (Apart s mine w)

/-- `I` is about metadata and keys. -/
def KeyMatter (I : World → Prop) : Prop := ∀ a x, I a → Alike a x → I x

theorem apart_keyMatter (s : Spec) (mine : Text → Prop) (w : World) :
    KeyMatter (Apart s mine w) := fun _ _ h hx => h.alike hx

section Rules

variable {α : Type} {I : World → Prop} {a : World} {who : ℕ} {Q : Except Err α → World → Prop}

theorem later_images {a a' : World} (h : Later a a') : a'.images = a.images := by
  obtain ⟨n, _, rfl⟩ := h
  rfl

theorem KeyMatter.reads (hI : KeyMatter I) (who : ℕ) :
    QuietReads machine who (laterContract I) := by
  intro c hc a o hi _
  have hlater : Later a (step who c o a).2 := by
    obtain h | h := step_reads hc who o a
    · rw [h]
      exact .refl a
    · exact ⟨_, Nat.le_succ _, h⟩
  exact ⟨trivial, hI _ _ hi hlater.alike, hlater⟩

theorem KeyMatter.metaGet (hI : KeyMatter I) {t : Spec} {k : MetaKey} {f : Text → Prog α}
    (hok : (f (metaOf a t k)).Meets machine who (laterContract I) Q a)
    (herr : ∀ e x, Q (.error e) x) :
    ((imageMetaGetChecked t k).bind f).Meets machine who (laterContract I) Q a := by
  apply imageMetaGetChecked_meets machine_answers (hI.reads who)
  · intro x hr _
    have hmeta : metaOf (id x) t k = metaOf a t k := (Later.alike hr).info _ _
    rw [hmeta]
    exact hok.rely hr
  · exact fun _ e _ _ x _ _ => herr e x

theorem KeyMatter.inherited (hI : KeyMatter I) {first second : Spec} {k : MetaKey} {v : Text}
    {f : Text → Prog α} (hv : firstOf (metaOf a first k) (metaOf a second k) = v)
    (hok : (f v).Meets machine who (laterContract I) Q a) (herr : ∀ e x, Q (.error e) x) :
    ((Ceph.inherited first second k).bind f).Meets machine who (laterContract I) Q a := by
  refine inherited_meets (hI.reads who) (fun _ _ h => later_images h) ?_ ?_
  · intro x hr _
    rw [hv]
    exact hok.rely hr
  · exact fun e x _ _ => herr e x

theorem KeyMatter.keyless {β : Type} (hI : KeyMatter I) {p : Prog β} {f : β → Prog α}
    (hp : p.Uses fun c => c.keyless = true)
    (hok : ∀ r x, Alike a x → (f r).Meets machine who (laterContract I) Q x)
    (herr : ∀ e x, Q (.error e) x) :
    (p.bind f).Meets machine who (laterContract I) Q a := by
  apply Meets.andThen (P := fun _ x => Alike a x)
  · refine Meets.of_uses (P := Alike a) hp (Later.refl a).alike ?_ ?_
    · exact fun x y hr hx => hx.trans (Later.alike hr)
    · intro c o x hc hi _ hx
      have hstep : Alike x (step who c o x).2 := step_alike hc who o
      exact ⟨trivial, hI _ _ hi hstep, hx.trans hstep⟩
  · exact fun r x _ hx => hok r x hx
  · exact fun e x _ _ => herr e x

end Rules

section Apart

variable {α : Type} {s : Spec} {mine : Text → Prop} {w a : World} {who : ℕ}
variable {Q : Except Err α → World → Prop}

theorem imageMetaSet_apart {k : MetaKey} {v : Text} {f : Unit → Prog α}
    (hok : (f ()).Meets machine who (apartContract s mine w) Q
      (a.setMeta s.image ⟨k, s.snap⟩ v))
    (herr : ∀ e x, Q (.error e) x) :
    ((imageMetaSet s k v).bind f).Meets machine who (apartContract s mine w) Q a := by
  apply Meets.answered
  rintro _ ⟨n, hn, rfl⟩ hi o _
  have hset := Apart.setMeta hi k v
  obtain ⟨hreply, _, hstate⟩ | ⟨⟨err, hreply⟩, hstate⟩ :=
    step_metaSet who s.image ⟨k, s.snap⟩ v o { a with seq := n }
  · refine ⟨_, _, hreply, hstate, trivial, hset, ?_⟩
    refine hok.rely ⟨n, by rwa [setMeta_seq], ?_⟩
    unfold World.setMeta
    cases a.images s.image with
    | none => rfl
    | some im => rfl
  · have hi' : Apart s mine w
        (step who (.imageMetaSet s.image ⟨k, s.snap⟩ v) o { a with seq := n }).2 := by
      obtain hstate | ⟨hstate, _⟩ := hstate
      · rw [hstate]
        exact hi
      · rw [hstate]
        exact hset
    exact ⟨_, _, hreply, rfl, trivial, hi', fun x _ _ => herr _ x⟩

theorem imageMetaSetNonEmpty_apart {k : MetaKey} {v : Text} {f : Unit → Prog α}
    (hset : v ≠ .empty → (f ()).Meets machine who (apartContract s mine w) Q
      (a.setMeta s.image ⟨k, s.snap⟩ v))
    (hsame : v = .empty → (f ()).Meets machine who (apartContract s mine w) Q a)
    (herr : ∀ e x, Q (.error e) x) :
    ((imageMetaSetNonEmpty s k v).bind f).Meets machine who (apartContract s mine w) Q a := by
  unfold imageMetaSetNonEmpty
  by_cases hv : v = .empty
  · rw [if_neg (not_not.mpr hv)]
    exact hsame hv
  · rw [if_pos hv]
    exact imageMetaSet_apart (hset hv) herr

theorem step_secret_apart (who : ℕ) {x : World} (hi : Apart s mine w x) {t : Secret}
    (ht : t.spec = s) (m : SecretMethod) (o : Outcome) :
    Apart s mine w (step who (.secret t m) o x).2 ∧
      (step who (.secret t m) o x).2.images = x.images := by
  obtain h | h := step_state who (.secret t m) o x
  · rw [h]
    exact ⟨hi, rfl⟩
  · obtain ⟨v, hv⟩ := performSecret_state (w := x) t m
    rw [h, show (perform who o.pick (.secret t m) x).2 = _ from hv]
    exact ⟨hi.putSecret ht v, rfl⟩

end Apart

end BardCsi.Ceph
