import BardCsi.Ceph.Luks
import BardCsi.Ceph.Stored
import BardCsi.Effect.Eval

/-!
Requests that run alone and do not fail. The functions of the image metadata and of the key
providers then have one result and one effect, which are computed here.
-/
namespace BardCsi.Ceph

open Effect Program

/-- A caller and what the world leaves open when nothing fails: the device of a map, and
whether a snapshot in the trash still has linked clones. -/
structure Env where
  who : ℕ
  pick : Cmd → World → ℕ

def alone (E : Env) (c : Cmd) (w : World) : c.Reply × World := perform E.who (E.pick c w) c w

/-- The result of a program that runs alone, and the state that it leaves. -/
abbrev evalIn {α : Type} (E : Env) (p : Prog α) (w : World) : Except Err α × World :=
  p.eval (alone E) w

theorem alone_answers (E : Env) :
    alone E = answers machine E.who fun c w => ⟨none, false, E.pick c w⟩ := rfl

section Rules

variable {α : Type} {E : Env} {w w' : World}

theorem eval_run {c : Cmd} {f : c.Reply → Prog α} {r : c.Reply} (h : alone E c w = (r, w')) :
    evalIn E ((run c).bind f) w = evalIn E (f r) w' := by
  change evalIn E (f (alone E c w).1) (alone E c w).2 = _
  rw [h]

theorem eval_connArgs (cc : ClusterConfig) (inst : String) (secrets : Params) :
    evalIn E (connArgs cc inst secrets) w = (.ok (), w) := rfl

theorem eval_cluster (b : Backend) (inst : String) :
    (∃ cc, b.clusters inst = some cc ∧ cluster b inst = .pure cc) ∨
      ∃ e, cluster b inst = .fail e := by
  unfold cluster clusterFor
  cases b.clusters inst with
  | some cc => exact .inl ⟨cc, rfl, rfl⟩
  | none => exact .inr ⟨_, rfl⟩

end Rules

section Metadata

variable {E : Env} {w : World} (s : Spec) (k : MetaKey)

theorem eval_imageMetaGetChecked :
    evalIn E (imageMetaGetChecked s k) w = (.ok (metaOf w s k), w) := by
  obtain ⟨i, snap⟩ := s
  cases him : w.images i with
  | none =>
    have hstep : performMetaGet i ⟨k, snap⟩ w = (.error .notFound, w) := by
      simp [performMetaGet, onImage, him, refused]
    have hmeta : metaOf w ⟨i, snap⟩ k = .empty := by simp [metaOf, metaAt, him]
    rw [hmeta]
    exact eval_run (E := E) (c := .imageMetaGet i ⟨k, snap⟩) hstep
  | some im =>
    have hmeta : metaOf w ⟨i, snap⟩ k = im.info ⟨k, snap⟩ := by simp [metaOf, metaAt, him]
    by_cases hv : im.info ⟨k, snap⟩ = .empty
    · have hstep : performMetaGet i ⟨k, snap⟩ w = (.error .notFound, w) := by
        simp [performMetaGet, onImage, him, hv, refused]
      rw [hmeta, hv]
      exact eval_run (E := E) (c := .imageMetaGet i ⟨k, snap⟩) hstep
    · have hstep : performMetaGet i ⟨k, snap⟩ w = (.ok (im.info ⟨k, snap⟩), w) := by
        simp [performMetaGet, onImage, him, hv]
      rw [hmeta]
      exact eval_run (E := E) (c := .imageMetaGet i ⟨k, snap⟩) hstep

theorem eval_imageMetaGet : evalIn E (imageMetaGet s k) w = (.ok (metaOf w s k), w) :=
  eval_attempt_bind_of (eval_imageMetaGetChecked s k)

variable {s} (v : Text)

theorem eval_imageMetaSet (h : (w.images s.image).isSome) :
    evalIn E (imageMetaSet s k v) w = (.ok (), w.setMeta s.image ⟨k, s.snap⟩ v) := by
  obtain ⟨im, him⟩ := Option.isSome_iff_exists.mp h
  have hstep : performMetaSet s.image ⟨k, s.snap⟩ v w =
      (.ok (), w.setMeta s.image ⟨k, s.snap⟩ v) := by
    simp [performMetaSet, onImage, World.setMeta, him, done]
  exact eval_run (E := E) (c := .imageMetaSet s.image ⟨k, s.snap⟩ v) hstep

theorem eval_imageMetaSet_missing (h : w.images s.image = none) :
    ∃ e, evalIn E (imageMetaSet s k v) w = (.error e, w) := by
  have hstep : performMetaSet s.image ⟨k, s.snap⟩ v w = (.error .notFound, w) := by
    simp [performMetaSet, onImage, h, refused]
  exact ⟨_, eval_run (E := E) (c := .imageMetaSet s.image ⟨k, s.snap⟩ v) hstep⟩

end Metadata

section Keys

variable {E : Env} {w : World}

theorem eval_readMasterKey {keyDir inst m : String} (h : masterKey keyDir inst w = some m) :
    evalIn E (readMasterKey keyDir inst) w = (.ok m, w) := by
  unfold masterKey at h
  unfold readMasterKey
  by_cases hdir : keyDir = ""
  · simp [hdir] at h
  · rw [if_neg hdir] at h ⊢
    obtain ⟨data, hdata, hm⟩ := Option.bind_eq_some_iff.mp h
    have hstep : orNotFound (w.master inst) w = (.ok data, w) := by
      simp [orNotFound, hdata]
    rw [Program.bind_eq, eval_run (E := E) (c := .readMasterKey keyDir inst) hstep]
    by_cases hempty : Strings.trimSpace data = ""
    · simp [hempty] at hm
    · rw [if_neg hempty] at hm
      obtain rfl := Option.some.inj hm
      simp [orFail, hempty]

theorem eval_readMasterKey_none {keyDir inst : String} (h : masterKey keyDir inst w = none) :
    ∃ e, evalIn E (readMasterKey keyDir inst) w = (.error e, w) := by
  unfold masterKey at h
  unfold readMasterKey
  by_cases hdir : keyDir = ""
  · rw [if_pos hdir]
    exact ⟨_, rfl⟩
  · rw [if_neg hdir] at h ⊢
    rw [Program.bind_eq]
    cases hdata : w.master inst with
    | none =>
      have hstep : orNotFound (w.master inst) w = (.error .notFound, w) := by
        simp [orNotFound, hdata, refused]
      rw [eval_run (E := E) (c := .readMasterKey keyDir inst) hstep]
      exact ⟨_, rfl⟩
    | some data =>
      have hstep : orNotFound (w.master inst) w = (.ok data, w) := by
        simp [orNotFound, hdata]
      have hempty : Strings.trimSpace data = "" := by simpa [hdata] using h
      rw [eval_run (E := E) (c := .readMasterKey keyDir inst) hstep]
      simp [orFail, hempty, fail]

theorem eval_randomText (msg : String) :
    evalIn E (randomText msg) w = (.ok (.minted E.who w.seq), { w with seq := w.seq + 1 }) := rfl

end Keys

section Secrets

variable {E : Env} {w w' : World} (c : SecretClient) (s : Secret) {p : Text}

theorem eval_secretRequest {m : SecretMethod} {resp : HttpResponse}
    (h : performSecret s m w = (.ok resp, w')) (hstatus : resp.status ∉ [401, 403]) :
    evalIn E (c.request s m) w = (.ok (.ok resp), w') := by
  have honce : c.tokenRejected (.ok resp) = false := by
    rw [Bool.eq_false_iff]
    intro hr
    obtain ⟨_, hresp, hin⟩ := c.rejected _ hr
    exact hstatus (Except.ok.inj hresp ▸ hin)
  refine (eval_run (E := E) (c := .secret s m) h).trans ?_
  change evalIn E (if c.tokenRejected (.ok resp) then run (.secret s m) else .pure (.ok resp)) w' =
    _
  rw [honce]
  rfl

theorem eval_secretRead : evalIn E (c.read s) w = (.ok (held (w.secrets s)), w) := by
  unfold SecretClient.read
  cases hs : w.secrets s with
  | none =>
    have hstep : performSecret s .get w = (.ok ⟨404, .empty⟩, w) := by
      simp [performSecret, hs]
    exact eval_bind_of (eval_secretRequest c s hstep (by simp))
  | some p =>
    have hstep : performSecret s .get w = (.ok ⟨200, p⟩, w) := by
      simp [performSecret, hs]
    refine (eval_bind_of (eval_secretRequest c s hstep (by simp))).trans ?_
    by_cases hp : p = .empty
    · simp [hp, held, Option.filter]
    · simp [hp, held, Option.filter]

theorem eval_secretCommand {m : SecretMethod} {accepted : List ℕ} {what : String}
    {failed : ℕ → Err} {n : ℕ} (h : performSecret s m w = (.ok ⟨n, .empty⟩, w'))
    (hn : n ∉ [401, 403]) : evalIn E (c.command s m accepted what failed) w =
      (if n ∈ accepted then .ok () else .error (failed n), w') := by
  refine (eval_bind_of (eval_secretRequest c s h hn)).trans ?_
  by_cases hok : n ∈ accepted
  · simp [hok]
  · simp [hok, fail]

variable (pass : Text)

theorem eval_secretWrite {createOnly : Bool} (h : createOnly = true → w.secrets s = none) :
    evalIn E (c.write s pass createOnly) w = (.ok (), w.putSecret s (some pass)) := by
  have hstep : performSecret s (.write pass createOnly) w =
      (.ok ⟨200, .empty⟩, w.putSecret s (some pass)) := by
    have hfree : ¬(createOnly = true ∧ (w.secrets s).isSome = true) := by
      rintro ⟨hc, hsome⟩
      rw [h hc] at hsome
      cases hsome
    simp [performSecret, hfree]
  rw [SecretClient.write, eval_secretCommand c s hstep (by decide), if_pos c.accepts.1]

theorem eval_secretWrite_taken (h : (w.secrets s).isSome = true) :
    ∃ e, evalIn E (c.write s pass true) w = (.error e, w) := by
  have hstep : performSecret s (.write pass true) w = (.ok ⟨400, .empty⟩, w) := by
    simp [performSecret, h]
  have hrefused : 400 ∉ c.written := fun hc => absurd (c.accepts.2 hc) (by decide)
  rw [SecretClient.write, eval_secretCommand c s hstep (by decide), if_neg hrefused]
  exact ⟨_, rfl⟩

theorem eval_secretDelete : evalIn E (c.deleteKey s) w = (.ok (), w.putSecret s none) := by
  have hstatus : s.store.deleted (w.secrets s) ∈ [200, 204, 404] := by
    cases s.store with
    | vault => simp [SecretStore.deleted]
    | azureKV => cases w.secrets s <;> simp [SecretStore.deleted]
  have hgiven : s.store.deleted (w.secrets s) ∉ [401, 403] := by
    simp only [List.mem_cons, List.not_mem_nil, or_false] at hstatus ⊢
    omega
  rw [SecretClient.deleteKey, eval_secretCommand c s rfl hgiven, if_pos hstatus]

theorem eval_secretPassphrase_held (h : held (w.secrets s) = some p) :
    evalIn E (c.passphrase s) w = (.ok p, w) := by
  refine (eval_bind_of (eval_secretRead c s)).trans ?_
  rw [h]
  rfl

theorem eval_secretPassphrase_new (h : held (w.secrets s) = none)
    (hfree : c.createOnly = true → w.secrets s = none) :
    evalIn E (c.passphrase s) w = (.ok (.minted E.who w.seq),
      ({ w with seq := w.seq + 1 } : World).putSecret s (some (.minted E.who w.seq))) := by
  refine (eval_bind_of (eval_secretRead c s)).trans ?_
  rw [h]
  refine (eval_bind_of (eval_randomText _)).trans ?_
  exact eval_attempt_bind_of (eval_secretWrite (w := { w with seq := w.seq + 1 }) c s _ hfree)

variable (v : VaultConfig) (a : AzureConfig) (inst : String) (source clone : Spec)

theorem eval_vaultClone_none (h : held (w.secrets (Vault.secretPath v inst source)) = none) :
    evalIn E (Vault.cloneKey v inst source clone) w = (.ok (), w) := by
  refine (eval_bind_of (eval_secretRead _ _)).trans ?_
  rw [h]
  rfl

theorem eval_vaultClone_new (h : held (w.secrets (Vault.secretPath v inst source)) = some p)
    (hfree : w.secrets (Vault.secretPath v inst clone) = none) :
    evalIn E (Vault.cloneKey v inst source clone) w =
      (.ok (), w.putSecret (Vault.secretPath v inst clone) (some p)) := by
  refine (eval_bind_of (eval_secretRead _ _)).trans ?_
  rw [h]
  exact eval_attempt_bind_of (eval_secretWrite _ _ _ fun _ => hfree)

theorem eval_vaultClone_taken (h : held (w.secrets (Vault.secretPath v inst source)) = some p)
    (htaken : (w.secrets (Vault.secretPath v inst clone)).isSome = true) :
    ∃ r, evalIn E (Vault.cloneKey v inst source clone) w = (r, w) ∧
      (r = .ok () ↔ held (w.secrets (Vault.secretPath v inst clone)) = some p) := by
  obtain ⟨e, he⟩ := eval_secretWrite_taken (E := E) (Vault.client v) _ p htaken
  refine ⟨if held (w.secrets (Vault.secretPath v inst clone)) = some p then .ok () else .error e,
    ?_, by split_ifs <;> simp_all⟩
  refine (eval_bind_of (eval_secretRead _ _)).trans ?_
  rw [h]
  refine (eval_attempt_bind_of he).trans ?_
  refine (eval_attempt_bind_of (eval_secretRead _ _)).trans ?_
  cases held (w.secrets (Vault.secretPath v inst clone)) with
  | none => rfl
  | some q =>
    by_cases hq : q = p
    · simp [hq]
    · simp [hq, fail]

theorem eval_azureClone_none (h : held (w.secrets (AzureKV.secretName a inst source)) = none) :
    evalIn E (AzureKV.cloneKey a inst source clone) w = (.ok (), w) := by
  refine (eval_bind_of (eval_secretRead _ _)).trans ?_
  rw [h]
  rfl

theorem eval_azureClone_some (h : held (w.secrets (AzureKV.secretName a inst source)) = some p) :
    evalIn E (AzureKV.cloneKey a inst source clone) w =
      (.ok (), w.putSecret (AzureKV.secretName a inst clone) (some p)) := by
  refine (eval_bind_of (eval_secretRead _ _)).trans ?_
  rw [h]
  exact eval_secretWrite _ _ _ nofun

end Secrets

section Kmip

variable {E : Env} {w : World} (e : String) {u : Text}

theorem eval_kmipGet {p : Text} (h : w.kmip e u = some p) :
    evalIn E (Kmip.get e u) w = (.ok p, w) := by
  have hstep : orNotFound (w.kmip e u) w = (.ok p, w) := by
    simp [orNotFound, h]
  exact eval_run (E := E) (c := .kmipGet e u) hstep

theorem eval_kmipGet_none (h : w.kmip e u = none) :
    ∃ err, evalIn E (Kmip.get e u) w = (.error err, w) := by
  have hstep : orNotFound (w.kmip e u) w = (.error .notFound, w) := by
    simp [orNotFound, h, refused]
  exact ⟨_, eval_run (E := E) (c := .kmipGet e u) hstep⟩

theorem eval_kmipRegister (p : Text) :
    evalIn E (Kmip.register e p) w = (.ok (.uid E.who w.seq), w.registered E.who e p) := rfl

theorem setKmip_none_of_none (h : w.kmip e u = none) : w.setKmip e u none = w := by
  have hinner : Function.update (w.kmip e) u none = w.kmip e := by
    rw [← h]
    exact Function.update_eq_self u (w.kmip e)
  simp [World.setKmip, hinner]

theorem eval_kmipDestroy (u : Text) :
    evalIn E (Kmip.destroy e u) w = (.ok (), w.setKmip e u none) := by
  cases hu : w.kmip e u with
  | none =>
    have hstep : performDestroy e u w = (.error .notFound, w) := by
      simp [performDestroy, hu, refused]
    rw [setKmip_none_of_none e hu]
    exact eval_run (E := E) (c := .kmipDestroy e u) hstep
  | some p =>
    have hstep : performDestroy e u w = (.ok (), w.setKmip e u none) := by
      simp [performDestroy, hu, done]
    exact eval_run (E := E) (c := .kmipDestroy e u) hstep

variable (source clone : Spec)

theorem eval_kmipClone_kept (h : metaOf w source .kmipUID = .empty ∨
    metaOf w clone .kmipOwner = .spec clone) :
    evalIn E (Kmip.cloneKey e source clone) w = (.ok (), w) := by
  refine (eval_bind_of (eval_imageMetaGetChecked source .kmipUID)).trans ?_
  by_cases hu : metaOf w source .kmipUID = .empty
  · rw [if_pos hu]
    rfl
  · rw [if_neg hu]
    refine (eval_bind_of (eval_imageMetaGetChecked clone .kmipOwner)).trans ?_
    rw [if_pos (h.resolve_left hu)]
    rfl

theorem eval_kmipClone_missing (hu : metaOf w source .kmipUID ≠ .empty)
    (ho : metaOf w clone .kmipOwner ≠ .spec clone)
    (hp : w.kmip e (metaOf w source .kmipUID) = none) :
    ∃ err, evalIn E (Kmip.cloneKey e source clone) w = (.error err, w) := by
  obtain ⟨err, herr⟩ := eval_kmipGet_none (E := E) e hp
  refine ⟨err, ?_⟩
  refine (eval_bind_of (eval_imageMetaGetChecked source .kmipUID)).trans ?_
  rw [if_neg hu]
  refine (eval_bind_of (eval_imageMetaGetChecked clone .kmipOwner)).trans ?_
  rw [if_neg ho]
  exact eval_bind_error herr

/-- The state after a clone has got an object of its own. -/
def World.kmipCloned (w : World) (who : ℕ) (e : String) (clone : Spec) (p : Text) : World :=
  ((w.registered who e p).setMeta clone.image ⟨.kmipUID, clone.snap⟩ (.uid who w.seq)).setMeta
    clone.image ⟨.kmipOwner, clone.snap⟩ (.spec clone)

theorem eval_kmipClone_new {p : Text} (hc : (w.images clone.image).isSome)
    (hu : metaOf w source .kmipUID ≠ .empty) (ho : metaOf w clone .kmipOwner ≠ .spec clone)
    (hp : w.kmip e (metaOf w source .kmipUID) = some p) :
    evalIn E (Kmip.cloneKey e source clone) w = (.ok (), w.kmipCloned E.who e clone p) := by
  refine (eval_bind_of (eval_imageMetaGetChecked source .kmipUID)).trans ?_
  rw [if_neg hu]
  refine (eval_bind_of (eval_imageMetaGetChecked clone .kmipOwner)).trans ?_
  rw [if_neg ho]
  refine (eval_bind_of (eval_kmipGet e hp)).trans ?_
  refine (eval_bind_of (eval_kmipRegister e p)).trans ?_
  have hc' : ((w.registered E.who e p).images clone.image).isSome := hc
  refine (eval_bind_of (eval_imageMetaSet .kmipUID _ hc')).trans ?_
  exact eval_imageMetaSet .kmipOwner _ (setMeta_isSome.trans hc')

end Kmip

end BardCsi.Ceph
