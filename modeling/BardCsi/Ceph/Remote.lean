import BardCsi.Ceph.Uses

/-!
Resolving a passphrase and fencing only talk to the cluster and the key stores. They name no
device of the node and leave the node alone. A passphrase is only stored where its own volume
or snapshot has it. Only fencing blocks clients.
-/
namespace BardCsi.Ceph

open Effect Program

/-- The metadata that a key provider writes. -/
def MetaKey.isKey : MetaKey → Bool
  | .wrappedDEK | .kmipUID => true
  | _ => false

/-- Requests to the cluster and the key stores that keep or resolve the key of `s`. -/
def Cmd.remote (s : Spec) : Cmd → Bool
  | .connArgs _ _ | .cephCLIConn _ _ | .readMasterKey _ _ | .rand | .tempKeyFile _
  | .imageMetaGet _ _ | .awsGenerateDataKey _ | .awsDecrypt _ _ | .kmipRegister _ _
  | .kmipGet _ _ | .kmipDestroy _ _ => true
  | .imageMetaSet i q _ => i = s.image && q.snap = s.snap && q.key.isKey
  | .secret t m => t.spec = s && m ≠ .delete
  | _ => false

def Cmd.fencing : Cmd → Bool
  | .rbdStatus _ | .cephCLIConn _ _ | .blocklistAdd _ => true
  | _ => false

abbrev Fencing {α : Type} (p : Prog α) : Prop := p.Uses fun c => c.fencing = true

abbrev Remote {α : Type} (s : Spec) (p : Prog α) : Prop := p.Uses fun c => c.remote s = true

section Basics

variable {α : Type} {s : Spec}

theorem remote_run {c : Cmd} (h : c.remote s = true) : Remote s (run c) := Uses.ask h

theorem remote_tool {c : Cmd} {f : c.Reply → Prog α} (h : c.remote s = true)
    (hf : ∀ r, Remote s (f r)) : Remote s ((run c).bind f) :=
  (remote_run h).bind hf

theorem connArgs_remote (cc : ClusterConfig) (inst : String) (secrets : Params) :
    Remote s (connArgs cc inst secrets) :=
  remote_tool rfl fun _ => orFail_uses _ _

theorem tempKeyFile_remote (pass : Text) : Remote s (tempKeyFile pass) :=
  tempKeyFile_uses rfl

theorem cluster_remote (b : Backend) (inst : String) : Remote s (cluster b inst) :=
  cluster_uses b inst

theorem imageMetaSet_remote (s : Spec) {k : MetaKey} (hk : k.isKey = true) (v : Text) :
    Remote s (imageMetaSet s k v) :=
  imageMetaSet_uses (by simp [Cmd.remote, hk])

theorem imageMetaGetChecked_remote (t : Spec) (k : MetaKey) :
    Remote s (imageMetaGetChecked t k) :=
  imageMetaGetChecked_uses rfl

theorem imageMetaGet_remote (t : Spec) (k : MetaKey) : Remote s (imageMetaGet t k) :=
  imageMetaGet_uses rfl

theorem readMasterKey_remote (keyDir inst : String) : Remote s (readMasterKey keyDir inst) :=
  readMasterKey_uses rfl

theorem randomText_remote (msg : String) : Remote s (randomText msg) :=
  remote_tool rfl fun _ => orFail_uses _ _

end Basics

section Passphrases

variable {s : Spec}

theorem unwrapDEK_remote (kek : String) (t : Text) :
    Remote s (SecretsMetadata.unwrapDEK kek t) := by
  unfold SecretsMetadata.unwrapDEK
  split
  · exact Uses.ite trivial trivial
  · trivial

theorem secretsMetadata_remote (keyDir inst : String) :
    Remote s (SecretsMetadata.passphrase keyDir inst s) := by
  apply (readMasterKey_remote keyDir inst).bind
  intro kek
  apply (imageMetaGetChecked_remote _ _).bind
  intro wrapped
  apply Uses.ite (unwrapDEK_remote _ _)
  apply (randomText_remote _).bind
  intro dek
  apply (imageMetaSet_remote s rfl _).attempt.bind
  intro r
  split
  · trivial
  · apply (imageMetaGet_remote _ _).bind
    exact fun w => Uses.ite (unwrapDEK_remote _ _) trivial

variable {t : Secret}

theorem remote_secret {m : SecretMethod} (ht : t.spec = s) (hm : m ≠ .delete) :
    (Cmd.secret t m).remote s = true :=
  Bool.and_eq_true_iff.mpr ⟨decide_eq_true ht, decide_eq_true hm⟩

theorem secret_remote (c : SecretClient) (ht : t.spec = s) : Remote s (c.passphrase t) := by
  have hread : Remote s (c.read t) := secretRead_uses (remote_secret ht (by nofun)) c
  apply hread.bind
  intro found
  split
  · trivial
  · apply (randomText_remote _).bind
    intro pass
    apply (secretCommand_uses (remote_secret ht (by nofun)) c).attempt.bind
    intro r
    split
    · trivial
    · apply hread.attempt.bind
      intro r
      split
      · trivial
      · trivial

theorem decrypt_remote (key : String) (blob : Text) : Remote s (AwsKMS.decrypt key blob) :=
  remote_tool rfl fun _ => orFail_uses _ _

theorem generateDataKey_remote (key : String) : Remote s (AwsKMS.generateDataKey key) :=
  remote_tool rfl fun _ => orFail_uses _ _

theorem awsKMS_remote (key : String) : Remote s (AwsKMS.passphrase key s) := by
  refine Uses.ite trivial ?_
  apply (imageMetaGetChecked_remote _ _).bind
  intro blob
  apply Uses.ite (decrypt_remote _ _)
  apply (generateDataKey_remote _).bind
  intro dk
  apply (imageMetaSet_remote s rfl _).attempt.bind
  intro r
  split
  · trivial
  · apply (imageMetaGet_remote _ _).bind
    intro blob
    refine Uses.ite ?_ trivial
    apply (decrypt_remote _ _).attempt.bind
    intro r
    split
    · trivial
    · trivial

theorem kmipGet_remote (e : String) (u : Text) : Remote s (Kmip.get e u) :=
  remote_tool rfl fun _ => orFail_uses _ _

theorem kmipRegister_remote (e : String) (p : Text) : Remote s (Kmip.register e p) :=
  remote_tool rfl fun _ => orFail_uses _ _

theorem kmipDestroy_remote (e : String) (u : Text) : Remote s (Kmip.destroy e u) := by
  apply remote_tool rfl
  intro r
  split
  · trivial
  · trivial
  · trivial

theorem kmip_remote (e : String) : Remote s (Kmip.passphrase e s) := by
  apply (imageMetaGetChecked_remote _ _).bind
  intro recorded
  apply Uses.ite (kmipGet_remote _ _)
  apply (randomText_remote _).bind
  intro pass
  apply (kmipRegister_remote _ _).bind
  intro uid
  apply (imageMetaSet_remote s rfl _).attempt.bind
  intro r
  split
  · trivial
  · apply (imageMetaGet_remote _ _).bind
    intro u
    apply Uses.ite
    · exact (kmipDestroy_remote _ _).attempt.bind fun _ => kmipGet_remote _ _
    · exact (kmipDestroy_remote _ _).attempt.bind fun _ => trivial

theorem resolve_remote (b : Backend) (id : Text) : Remote s (resolve b id) := resolve_uses b id

theorem registryPassphrase_remote (b : Backend) (inst : String) (kmsID keyID : Text)
    (secrets : Params) : Remote s (Registry.passphrase b inst kmsID s keyID secrets) := by
  refine Uses.ite trivial ?_
  apply (resolve_remote b kmsID).bind
  intro ks
  cases ks with
  | derived dir => exact (readMasterKey_remote _ _).bind fun _ => trivial
  | secretsMetadata => exact secretsMetadata_remote _ _
  | vault v => exact secret_remote _ rfl
  | awsKMS key => exact awsKMS_remote _
  | azureKV a => exact secret_remote _ rfl
  | kmip e => exact kmip_remote _
  | misconfigured msg => trivial

theorem volumePassphrase_remote (b : Backend) (req : NodeStageRequest) :
    Remote req.volume.spec (volumePassphrase b req) :=
  registryPassphrase_remote b _ _ _ _

end Passphrases

section Fencing

variable {α : Type}

theorem fencing_tool {c : Cmd} {f : c.Reply → Prog α} (h : c.fencing = true)
    (hf : ∀ r, Fencing (f r)) : Fencing ((run c).bind f) := by
  have hrun : Fencing (run c) := ⟨h, fun _ => trivial⟩
  exact hrun.bind hf

theorem blocklistAll_fencing (vol : ImageRef) (addrs : List Address) :
    Fencing (blocklistAll vol addrs) := by
  induction addrs with
  | nil => trivial
  | cons a rest ih =>
    refine Uses.ite ?_ ih
    exact fencing_tool rfl fun _ => (orFail_uses _ _).bind fun _ => ih

theorem fenceStaleWatchers_fencing (cc : ClusterConfig) (vol : ImageRef) (secrets : Params) :
    Fencing (fenceStaleWatchers cc vol secrets) := by
  apply fencing_tool rfl
  intro r
  apply (orFail_uses _ _).bind
  intro watchers
  refine Uses.ite trivial ?_
  exact fencing_tool rfl fun _ => (orFail_uses _ _).bind fun _ => blocklistAll_fencing _ _

theorem fenceExclusive_fencing (cc : ClusterConfig) (req : NodeStageRequest) :
    Fencing (fenceExclusive cc req) :=
  Uses.ite (fenceStaleWatchers_fencing _ _ _) trivial

end Fencing

end BardCsi.Ceph
