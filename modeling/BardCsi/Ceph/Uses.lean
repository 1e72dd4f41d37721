import BardCsi.Ceph.Frame
import BardCsi.Ceph.Volumes

/-!
The requests that the building blocks of the plugin make, for any property `allowed` of
requests.
-/
namespace BardCsi.Ceph

open Effect Program

section Uses

variable {α : Type} {allowed : Cmd → Prop} {inst : String} {s source clone : Spec} {k : MetaKey}
variable {v : Text} {i : ImageRef} {t : Secret}

theorem tool_uses {c : Cmd} {f : c.Reply → Prog α} (h : allowed c)
    (hf : ∀ r, (f r).Uses allowed) : ((run c).bind f).Uses allowed :=
  (Uses.ask h).bind hf

theorem retryOnce_uses {c : Cmd} (h : allowed c) (again : c.Reply → Bool) :
    (retryOnce c again).Uses allowed :=
  (Uses.ask h).bind fun r =>
    Uses.ite (Uses.ask h) (Uses.pure r)

theorem liftExcept_uses (r : Except Err α) : (liftExcept r).Uses allowed := by
  cases r with
  | ok a => trivial
  | error e => trivial

theorem cluster_uses (b : Backend) (inst : String) : (cluster b inst).Uses allowed := by
  unfold cluster clusterFor
  split
  · trivial
  · trivial

theorem resolve_uses (b : Backend) (id : Text) : (resolve b id).Uses allowed := by
  unfold resolve
  split
  · trivial
  · split
    · trivial
    · trivial
  · trivial

theorem connArgs_uses (h : ∀ inst user, allowed (.connArgs inst user)) (cc : ClusterConfig)
    (inst : String) (secrets : Params) : (connArgs cc inst secrets).Uses allowed :=
  tool_uses (h _ _) fun _ => orFail_uses _ _

theorem readMasterKey_uses {keyDir : String} (h : allowed (.readMasterKey keyDir inst)) :
    (readMasterKey keyDir inst).Uses allowed := by
  refine Uses.ite trivial ?_
  apply tool_uses h
  intro r
  apply (orFail_uses _ _).bind
  exact fun data => Uses.ite trivial trivial

theorem randomPassphrase_uses (h : allowed .rand) : randomPassphrase.Uses allowed :=
  tool_uses h fun _ => orFail_uses _ _

theorem tempKeyFile_uses {pass : Text} (h : allowed (.tempKeyFile pass)) :
    (tempKeyFile pass).Uses allowed :=
  tool_uses h fun _ => orFail_uses _ _

theorem imageMetaSet_uses (h : allowed (.imageMetaSet s.image ⟨k, s.snap⟩ v)) :
    (imageMetaSet s k v).Uses allowed :=
  tool_uses h fun _ => orFail_uses _ _

theorem imageMetaGetChecked_uses (h : allowed (.imageMetaGet s.image ⟨k, s.snap⟩)) :
    (imageMetaGetChecked s k).Uses allowed := by
  apply tool_uses h
  intro r
  split
  · trivial
  · trivial
  · trivial

theorem imageMetaGet_uses (h : allowed (.imageMetaGet s.image ⟨k, s.snap⟩)) :
    (imageMetaGet s k).Uses allowed := by
  apply (imageMetaGetChecked_uses h).attempt.bind
  intro r
  split
  · trivial
  · trivial

theorem imageMetaLabel_uses (h : allowed (.imageMetaSet s.image ⟨k, s.snap⟩ v)) :
    (imageMetaLabel s k v).Uses allowed :=
  Uses.ite ((imageMetaSet_uses h).attempt.bind fun _ => trivial) trivial

theorem setOwnerMetadata_uses {params : Params} {labels : List (String × MetaKey)}
    (h : ∀ l ∈ labels, ∀ v, allowed (.imageMetaSet i ⟨l.2, none⟩ v)) :
    (setOwnerMetadata i params labels).Uses allowed := by
  induction labels with
  | nil => trivial
  | cons l rest ih =>
    apply (imageMetaLabel_uses (h l List.mem_cons_self _)).bind
    exact fun _ => ih fun l' hl' => h l' (List.mem_cons_of_mem l hl')

theorem imageInfo_uses (h : allowed (.rbdInfo i)) :
    (imageInfo i).Uses allowed := by
  apply tool_uses h
  intro r
  split
  · trivial
  · trivial
  · trivial

theorem existingInfo_uses (h : allowed (.rbdInfo i)) :
    (existingInfo i).Uses allowed := by
  apply (imageInfo_uses h).bind
  intro found
  split
  · trivial
  · trivial

theorem resizeImage_uses {sizeMiB : Int} (h : allowed (.rbdResize i sizeMiB)) :
    (resizeImage i sizeMiB).Uses allowed :=
  tool_uses h fun _ => orFail_uses _ _

theorem backgroundFlatten_uses {depthGated : Bool} (h : allowed (.backgroundFlatten i depthGated)) :
    (backgroundFlatten i depthGated).Uses allowed :=
  tool_uses h fun _ => trivial

theorem flattenEach_uses (h : ∀ i depthGated, allowed (.backgroundFlatten i depthGated))
    (children : List ImageRef) : (flattenEach children).Uses allowed := by
  induction children with
  | nil => trivial
  | cons i rest ih => exact (backgroundFlatten_uses (h i false)).bind fun _ => ih

theorem listSnaps_uses (h : allowed (.rbdSnapLs i)) :
    (listSnaps i).Uses allowed := by
  apply tool_uses h
  intro r
  split
  · trivial
  · trivial
  · trivial

theorem removeImage_uses (hrm : allowed (.rbdRm i)) (hchildren : allowed (.rbdChildren i))
    (hflatten : ∀ i depthGated, allowed (.backgroundFlatten i depthGated)) :
    (removeImage i).Uses allowed := by
  apply tool_uses hrm
  intro r
  split
  · trivial
  · trivial
  · apply Uses.bind
    · apply tool_uses hchildren
      intro r
      split
      · trivial
      · exact flattenEach_uses hflatten _
    · exact fun _ => trivial
  · trivial

theorem applyMutableParams_uses (h : ∀ k v, allowed (.rbdConfigImage i k v))
    (params : List (String × Text)) : (applyMutableParams i params).Uses allowed := by
  induction params with
  | nil => trivial
  | cons p rest ih =>
    apply tool_uses (h _ _)
    intro r
    split
    · exact ih
    · split
      · exact ih
      · trivial

theorem ensureNamespace_uses (hls : ∀ inst pool, allowed (.namespaceLs inst pool))
    (hcreate : ∀ inst pool n, allowed (.namespaceCreate inst pool n)) (inst pool ns : String) :
    (ensureNamespace inst pool ns).Uses allowed := by
  apply tool_uses (hls _ _)
  intro r
  apply (orFail_uses _ _).bind
  intro existing
  refine Uses.ite trivial ?_
  exact tool_uses (hcreate _ _ _) fun _ => orFail_uses _ _

theorem imageMetaSetNonEmpty_uses (h : allowed (.imageMetaSet s.image ⟨k, s.snap⟩ v)) :
    (imageMetaSetNonEmpty s k v).Uses allowed :=
  Uses.ite (imageMetaSet_uses h) trivial

theorem secretRead_uses (h : allowed (.secret t .get)) (c : SecretClient) :
    (c.read t).Uses allowed := by
  apply (retryOnce_uses h _).bind
  intro r
  split
  · trivial
  · refine Uses.ite trivial ?_
    refine Uses.ite trivial ?_
    exact Uses.ite trivial trivial

theorem secretCommand_uses {m : SecretMethod} {accepted : List ℕ} {what : String}
    {failed : ℕ → Err} (h : allowed (.secret t m)) (c : SecretClient) :
    (c.command t m accepted what failed).Uses allowed := by
  apply (retryOnce_uses h _).bind
  intro r
  split
  · trivial
  · exact Uses.ite trivial trivial

/-- Requests to the key stores, and reads of a descriptor. -/
def Cmd.storesKey : Cmd → Bool
  | .secret _ _ | .kmipRegister _ _ | .kmipGet _ _ | .kmipDestroy _ _
  | .imageMetaGet _ _ => true
  | _ => false

theorem kmipDestroy_uses {e : String} {u : Text} (h : allowed (.kmipDestroy e u)) :
    (Kmip.destroy e u).Uses allowed := by
  apply tool_uses h
  intro r
  split
  · trivial
  · trivial
  · trivial

variable (hstore : ∀ c : Cmd, c.storesKey = true → allowed c)

include hstore

theorem vaultClone_uses (v : VaultConfig) (inst : String) (source clone : Spec) :
    (Vault.cloneKey v inst source clone).Uses allowed := by
  apply (secretRead_uses (hstore _ rfl) _).bind
  intro found
  split
  · trivial
  · apply (secretCommand_uses (hstore _ rfl) _).attempt.bind
    intro r
    split
    · trivial
    · apply (secretRead_uses (hstore _ rfl) _).attempt.bind
      intro r
      split
      · exact Uses.ite trivial trivial
      · trivial

theorem azureClone_uses (a : AzureConfig) (inst : String) (source clone : Spec) :
    (AzureKV.cloneKey a inst source clone).Uses allowed := by
  apply (secretRead_uses (hstore _ rfl) _).bind
  intro found
  split
  · trivial
  · exact secretCommand_uses (hstore _ rfl) _

theorem kmipClone_uses (e : String) (h : ∀ k ∈ [MetaKey.kmipUID, .kmipOwner], ∀ v,
      allowed (.imageMetaSet clone.image ⟨k, clone.snap⟩ v)) :
    (Kmip.cloneKey e source clone).Uses allowed := by
  apply (imageMetaGetChecked_uses (hstore _ rfl)).bind
  intro srcUID
  refine Uses.ite trivial ?_
  apply (imageMetaGetChecked_uses (hstore _ rfl)).bind
  intro owner
  refine Uses.ite trivial ?_
  have hget : (Kmip.get e srcUID).Uses allowed :=
    tool_uses (hstore _ rfl) fun _ => orFail_uses _ _
  apply hget.bind
  intro pass
  have hreg : (Kmip.register e pass).Uses allowed :=
    tool_uses (hstore _ rfl) fun _ => orFail_uses _ _
  apply hreg.bind
  intro uid
  apply (imageMetaSet_uses (h .kmipUID (by simp) _)).bind
  exact fun _ => imageMetaSet_uses (h .kmipOwner (by simp) _)

theorem registryClone_uses (b : Backend) (inst : String) (kmsID : Text)
    (h : ∀ k ∈ [MetaKey.kmipUID, .kmipOwner], ∀ v,
      allowed (.imageMetaSet clone.image ⟨k, clone.snap⟩ v)) :
    (Registry.cloneKey b inst kmsID source clone).Uses allowed := by
  apply (resolve_uses b kmsID).bind
  intro ks
  cases ks with
  | vault v => exact vaultClone_uses hstore v inst source clone
  | azureKV a => exact azureClone_uses hstore a inst source clone
  | kmip e => exact kmipClone_uses hstore e h
  | _ => trivial

theorem registryDelete_uses (b : Backend) (inst : String) (kmsID : Text) (s : Spec) :
    (Registry.deleteKey b inst kmsID s).Uses allowed := by
  apply (resolve_uses b kmsID).bind
  intro ks
  cases ks with
  | vault v => exact secretCommand_uses (hstore _ rfl) _
  | azureKV a => exact secretCommand_uses (hstore _ rfl) _
  | kmip e =>
    apply (imageMetaGetChecked_uses (hstore _ rfl)).bind
    exact fun uid => Uses.ite trivial (kmipDestroy_uses (hstore _ rfl))
  | _ => trivial

theorem inherited_uses (first second : Spec) (k : MetaKey) :
    (inherited first second k).Uses allowed := by
  apply (imageMetaGetChecked_uses (hstore _ rfl)).bind
  exact fun v => Uses.ite trivial (imageMetaGetChecked_uses (hstore _ rfl))

theorem inheritFrom_uses (b : Backend) (inst : String) (first second : Spec)
    (h : ∀ k ∈ descriptorKeys, ∀ v, allowed (.imageMetaSet clone.image ⟨k, clone.snap⟩ v)) :
    (inheritFrom b inst source clone first second).Uses allowed := by
  apply (inherited_uses hstore _ _ _).bind
  intro recorded
  apply (imageMetaSet_uses (h .keyID (by simp [descriptorKeys]) _)).bind
  intro _
  apply (inherited_uses hstore _ _ _).bind
  intro kmsID
  apply (imageMetaSetNonEmpty_uses (h .kmsID (by simp [descriptorKeys]) _)).bind
  intro _
  apply (inherited_uses hstore _ _ _).bind
  intro dek
  apply (imageMetaSetNonEmpty_uses (h .wrappedDEK (by simp [descriptorKeys]) _)).bind
  intro _
  refine Uses.ite ?_ trivial
  apply (registryClone_uses hstore b inst kmsID fun k hk v => h k ?_ v).bind
  · exact fun _ => trivial
  · revert k
    decide

theorem inheritEncryption_uses (b : Backend) (inst : String)
    (h : ∀ k ∈ descriptorKeys, ∀ v, allowed (.imageMetaSet clone.image ⟨k, clone.snap⟩ v)) :
    (inheritEncryption b inst source clone).Uses allowed :=
  Uses.ite (inheritFrom_uses hstore b inst _ _ h) (inheritFrom_uses hstore b inst _ _ h)

theorem recordEncryption_uses (b : Backend) (req : CreateVolumeRequest)
    (h : ∀ k ∈ descriptorKeys, ∀ v, allowed (.imageMetaSet i ⟨k, none⟩ v)) :
    (recordEncryption b req i).Uses allowed := by
  refine Uses.ite ?_ trivial
  split
  · apply Uses.bind
    · unfold encryptionSourceSpec
      split
      · trivial
      · apply (imageMetaGetChecked_uses (hstore _ rfl)).bind
        exact fun _ => Uses.ite trivial trivial
    · exact fun src => inheritEncryption_uses hstore b req.inst h
  · apply (imageMetaSetNonEmpty_uses (h .kmsID (by decide) _)).bind
    exact fun _ => trivial

end Uses

end BardCsi.Ceph
