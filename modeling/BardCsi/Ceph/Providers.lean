import BardCsi.Ceph.Commands

/-!
The key providers: how each resolves, copies, rotates and deletes the passphrase of a
volume. The Vault and Key Vault clients keep their one retry on a rejected token. The
connection argument of the source only selects flags of the metadata commands and is left
out.
-/
namespace BardCsi.Ceph

open Effect

def readMasterKey (keyDir inst : String) : Prog String := do
  if keyDir = "" then
    fail (errorf ["cephenc: volume is encrypted but no master key dir configured and no " ++
      "encryptionPassphrase secret given"])
  else
    let data ← orFail (← run (.readMasterKey keyDir inst))
      ["cephenc: read encryption master key for instance ", inst, ": "]
    let master := Strings.trimSpace data
    if master = "" then
      fail (errorf ["cephenc: empty encryption master key for instance ", inst])
    else return master

def randomText (msg : String) : Prog Text := do
  orFail (← run .rand) [msg]

def randomPassphrase : Prog Text := randomText "cephenc: generate key: "

namespace Derived

def passphrase (keyDir inst : String) (keyID : Text) : Prog Text := do
  let master ← readMasterKey keyDir inst
  return .derived master keyID

end Derived

namespace SecretsMetadata

def wrapDEK (kek : String) (dek : Text) : Text := .wrapped kek dek

def unwrapDEK (kek : String) : Text → Prog Text
  | .wrapped kek' dek =>
      if kek' = kek then .pure dek
      else fail (errorf ["cephenc: unwrap DEK (wrong master key or corrupt metadata): "])
  | _ => fail (errorf ["cephenc: malformed wrapped DEK"])

def passphrase (keyDir inst : String) (spec : Spec) : Prog Text := do
  let kek ← readMasterKey keyDir inst
  let wrapped ← imageMetaGetChecked spec .wrappedDEK
  if wrapped ≠ .empty then
    unwrapDEK kek wrapped
  else
    let dek ← randomText "cephenc: generate DEK: "
    match ← (imageMetaSet spec .wrappedDEK (wrapDEK kek dek)).attempt with
    | .ok () => return dek
    | .error err =>
      let w ← imageMetaGet spec .wrappedDEK
      if w ≠ .empty then unwrapDEK kek w else fail err

def rotateKey (keyDir inst : String) (spec : Spec) (apply : Text → Prog Unit) :
    Prog Unit := do
  let kek ← readMasterKey keyDir inst
  let newDEK ← randomPassphrase
  apply newDEK
  imageMetaSet spec .wrappedDEK (wrapDEK kek newDEK)

end SecretsMetadata

/-- A client of a store of secrets. The clients differ in their texts, in the answers that they
take for a write that worked, and in when they log in again. -/
structure SecretClient where
  reading : String
  writing : String
  deleting : String
  generating : String
  deleteFailed : Spec → ℕ → Err
  /-- The server rejected the token of a login. -/
  tokenRejected : Except RunError HttpResponse → Bool
  written : List ℕ
  /-- The first write of a passphrase does not replace one. -/
  createOnly : Bool
  rejected : ∀ x, tokenRejected x = true → ∃ resp, x = .ok resp ∧ resp.status ∈ [401, 403]
  accepts : 200 ∈ written ∧ written ⊆ [200, 204]

namespace SecretClient

variable (c : SecretClient) (s : Secret)

/-- One request, with one more after a new login when the token was rejected. -/
def request (m : SecretMethod) : Prog (Except RunError HttpResponse) :=
  retryOnce (.secret s m) c.tokenRejected

def read : Prog (Option Text) := do
  match ← c.request s .get with
  | .error e => fail (errorf [c.reading ++ ": ", e.text])
  | .ok resp =>
    if resp.status = 404 then return none
    else if resp.status ≠ 200 then
      fail (errorf [c.reading ++ " ", .spec s.spec, ": HTTP " ++ toString resp.status])
    else if resp.body = .empty then return none
    else return some resp.body

/-- A request that has no result but its status. -/
def command (m : SecretMethod) (accepted : List ℕ) (what : String) (failed : ℕ → Err) :
    Prog Unit := do
  match ← c.request s m with
  | .error e => fail (errorf [what ++ ": ", e.text])
  | .ok resp => if resp.status ∈ accepted then return () else fail (failed resp.status)

abbrev write (pass : Text) (createOnly : Bool) : Prog Unit :=
  c.command s (.write pass createOnly) c.written c.writing fun n =>
    errorf [c.writing ++ " ", .spec s.spec, ": HTTP " ++ toString n]

def passphrase : Prog Text := do
  match ← c.read s with
  | some existing => return existing
  | none =>
    let pass ← randomText c.generating
    match ← (c.write s pass c.createOnly).attempt with
    | .ok () => return pass
    | .error err =>
      match ← (c.read s).attempt with
      | .ok (some existing) => return existing
      | _ => fail err

def rotateKey (apply : Text → Prog Unit) : Prog Unit := do
  let pass ← randomPassphrase
  apply pass
  c.write s pass false

abbrev deleteKey : Prog Unit :=
  c.command s .delete [200, 204, 404] c.deleting (c.deleteFailed s.spec)

end SecretClient

namespace Vault

variable (v : VaultConfig)

def secretPath (inst : String) (spec : Spec) : Secret :=
  ⟨.vault, v.addr, v.kvMount, v.pathPrefix, inst, spec⟩

def tokenRejected : Except RunError HttpResponse → Bool
  | .ok resp => v.authMethod = "kubernetes" && (resp.status = 403 || resp.status = 401)
  | .error _ => false

def client : SecretClient where
  reading := "cephenc: vault read"
  writing := "cephenc: vault write"
  deleting := "cephenc: vault delete"
  generating := "cephenc: generate passphrase: "
  deleteFailed spec n := errorf ["cephenc: vault delete ", .spec spec, ": HTTP " ++ toString n]
  tokenRejected := tokenRejected v
  written := [200, 204]
  createOnly := true
  rejected x h := by
    cases x with
    | error e => cases h
    | ok resp =>
      simp only [tokenRejected, Bool.and_eq_true, Bool.or_eq_true, decide_eq_true_eq] at h
      exact ⟨resp, rfl, by simpa using h.2.symm⟩
  accepts := by decide

abbrev read (s : Secret) : Prog (Option Text) := (client v).read s

abbrev write (s : Secret) (pass : Text) (createOnly : Bool) : Prog Unit :=
  (client v).write s pass createOnly

def passphrase (inst : String) (spec : Spec) : Prog Text :=
  (client v).passphrase (secretPath v inst spec)

def cloneKey (inst : String) (source clone : Spec) : Prog Unit := do
  match ← read v (secretPath v inst source) with
  | none => return ()
  | some pass =>
    match ← (write v (secretPath v inst clone) pass true).attempt with
    | .ok () => return ()
    | .error err =>
      match ← (read v (secretPath v inst clone)).attempt with
      | .ok (some existing) => if existing = pass then return () else fail err
      | _ => fail err

def rotateKey (inst : String) (spec : Spec) (apply : Text → Prog Unit) : Prog Unit :=
  (client v).rotateKey (secretPath v inst spec) apply

def deleteKey (inst : String) (spec : Spec) : Prog Unit :=
  (client v).deleteKey (secretPath v inst spec)

end Vault

namespace AwsKMS

variable (key : String)

def decrypt (blob : Text) : Prog Text := do
  orFail (← run (.awsDecrypt key blob)) ["cephenc: aws-kms TrentService.Decrypt: "]

/-- The plaintext of a new data key, and its encrypted form. -/
def generateDataKey : Prog (Text × Text) := do
  orFail (← run (.awsGenerateDataKey key)) ["cephenc: aws-kms TrentService.GenerateDataKey: "]

def passphrase (spec : Spec) : Prog Text := do
  if key = "" then
    fail (errorf ["cephenc: aws-kms provider has no keyId configured"])
  else
    let blob ← imageMetaGetChecked spec .wrappedDEK
    if blob ≠ .empty then
      decrypt key blob
    else
      let dk ← generateDataKey key
      match ← (imageMetaSet spec .wrappedDEK dk.2).attempt with
      | .ok () => return dk.1
      | .error err =>
        let b ← imageMetaGet spec .wrappedDEK
        if b ≠ .empty then
          match ← (decrypt key b).attempt with
          | .ok p => return p
          | .error _ => fail err
        else fail err

def rotateKey (spec : Spec) (apply : Text → Prog Unit) : Prog Unit := do
  let dk ← generateDataKey key
  apply dk.1
  imageMetaSet spec .wrappedDEK dk.2

end AwsKMS

namespace AzureKV

variable (a : AzureConfig)

def secretName (inst : String) (spec : Spec) : Secret :=
  ⟨.azureKV, a.vaultURL, "", a.secretPrefix, inst, spec⟩

def tokenRejected : Except RunError HttpResponse → Bool
  | .ok resp => resp.status = 401
  | .error _ => false

def client : SecretClient where
  reading := "cephenc: azure-kv get"
  writing := "cephenc: azure-kv set"
  deleting := "cephenc: azure-kv delete"
  generating := "cephenc: azure-kv generate passphrase: "
  deleteFailed _ n := errorf ["cephenc: azure-kv delete: HTTP " ++ toString n]
  tokenRejected := tokenRejected
  written := [200]
  createOnly := false
  rejected x h := by
    cases x with
    | error e => cases h
    | ok resp => exact ⟨resp, rfl, by simp [of_decide_eq_true h]⟩
  accepts := by decide

abbrev getSecret (s : Secret) : Prog (Option Text) := client.read s

abbrev setSecret (s : Secret) (value : Text) : Prog Unit := client.write s value false

def passphrase (inst : String) (spec : Spec) : Prog Text :=
  client.passphrase (secretName a inst spec)

def cloneKey (inst : String) (source clone : Spec) : Prog Unit := do
  match ← getSecret (secretName a inst source) with
  | none => return ()
  | some v => setSecret (secretName a inst clone) v

def rotateKey (inst : String) (spec : Spec) (apply : Text → Prog Unit) : Prog Unit :=
  client.rotateKey (secretName a inst spec) apply

def deleteKey (inst : String) (spec : Spec) : Prog Unit :=
  client.deleteKey (secretName a inst spec)

end AzureKV

namespace Kmip

variable (endpoint : String)

def register (pass : Text) : Prog Text := do
  orFail (← run (.kmipRegister endpoint pass)) ["cephenc: kmip Register failed: "]

def get (uid : Text) : Prog Text := do
  orFail (← run (.kmipGet endpoint uid)) ["cephenc: kmip Get failed: "]

def destroy (uid : Text) : Prog Unit := do
  match ← run (.kmipDestroy endpoint uid) with
  | .ok () => return ()
  | .error .notFound => return ()
  | .error e => fail (errorf ["cephenc: kmip Destroy failed: ", e.text])

def passphrase (spec : Spec) : Prog Text := do
  let recorded ← imageMetaGetChecked spec .kmipUID
  if recorded ≠ .empty then
    get endpoint recorded
  else
    let pass ← randomText "cephenc: kmip generate passphrase: "
    let uid ← register endpoint pass
    match ← (imageMetaSet spec .kmipUID uid).attempt with
    | .ok () => return pass
    | .error err =>
      let u ← imageMetaGet spec .kmipUID
      if u ≠ .empty ∧ u ≠ uid then
        let _ : Except Err Unit ← (destroy endpoint uid).attempt
        get endpoint u
      else
        let _ : Except Err Unit ← (destroy endpoint uid).attempt
        fail err

def cloneKey (source clone : Spec) : Prog Unit := do
  let srcUID ← imageMetaGetChecked source .kmipUID
  if srcUID = .empty then return ()
  else
    let owner ← imageMetaGetChecked clone .kmipOwner
    if owner = .spec clone then return ()
    else
      let pass ← get endpoint srcUID
      let newUID ← register endpoint pass
      imageMetaSet clone .kmipUID newUID
      imageMetaSet clone .kmipOwner (.spec clone)

def rotateKey (spec : Spec) (apply : Text → Prog Unit) : Prog Unit := do
  let oldUID ← imageMetaGetChecked spec .kmipUID
  let pass ← randomPassphrase
  let newUID ← register endpoint pass
  match ← (apply pass).attempt with
  | .error err =>
    let _ : Except Err Unit ← (destroy endpoint newUID).attempt
    fail err
  | .ok () =>
    imageMetaSet spec .kmipUID newUID
    if oldUID ≠ .empty then
      let _ : Except Err Unit ← (destroy endpoint oldUID).attempt
      return ()
    else return ()

def deleteKey (spec : Spec) : Prog Unit := do
  let uid ← imageMetaGetChecked spec .kmipUID
  if uid = .empty then return ()
  else destroy endpoint uid

end Kmip

def resolve (b : Backend) : Text → Prog KeyService
  | .lit "" => .pure (.derived b.encKeyDir)
  | .lit id =>
      match b.providers id with
      | some ks => .pure ks
      | none => fail ⟨.invalidArg, ["cephenc: unknown encryptionKMSID ", id]⟩
  | t => fail ⟨.invalidArg, ["cephenc: unknown encryptionKMSID ", t]⟩

namespace KeyService

variable (b : Backend) (ks : KeyService)

def passphrase (inst : String) (spec : Spec) (keyID : Text) : Prog Text :=
  match ks with
  | .derived keyDir => Derived.passphrase keyDir inst keyID
  | .secretsMetadata => SecretsMetadata.passphrase b.encKeyDir inst spec
  | .vault v => Vault.passphrase v inst spec
  | .awsKMS key => AwsKMS.passphrase key spec
  | .azureKV a => AzureKV.passphrase a inst spec
  | .kmip endpoint => Kmip.passphrase endpoint spec
  | .misconfigured msg => fail ⟨.invalidArg, [msg]⟩

def deleteKey (inst : String) (spec : Spec) : Prog Unit :=
  match ks with
  | .vault v => Vault.deleteKey v inst spec
  | .azureKV a => AzureKV.deleteKey a inst spec
  | .kmip endpoint => Kmip.deleteKey endpoint spec
  | .derived _ | .secretsMetadata | .awsKMS _ | .misconfigured _ => .pure ()

def cloneKey (inst : String) (source clone : Spec) : Prog Unit :=
  match ks with
  | .vault v => Vault.cloneKey v inst source clone
  | .azureKV a => AzureKV.cloneKey a inst source clone
  | .kmip endpoint => Kmip.cloneKey endpoint source clone
  | .derived _ | .secretsMetadata | .awsKMS _ | .misconfigured _ => .pure ()

/-- `apply` puts the new passphrase on the volume while the old one still opens it. -/
def rotateKey (id : Text) (inst : String) (spec : Spec) (apply : Text → Prog Unit) :
    Prog Unit :=
  match ks with
  | .secretsMetadata => SecretsMetadata.rotateKey b.encKeyDir inst spec apply
  | .vault v => Vault.rotateKey v inst spec apply
  | .awsKMS key => AwsKMS.rotateKey key spec apply
  | .azureKV a => AzureKV.rotateKey a inst spec apply
  | .kmip endpoint => Kmip.rotateKey endpoint spec apply
  | .derived _ | .misconfigured _ =>
      fail ⟨.invalidArg, ["cephenc: provider ", if id = .empty then "derived" else id,
        " does not support key rotation (rotate the instance master key instead)"]⟩

end KeyService

def secretPassphrase : String := "encryptionPassphrase"

namespace Registry

variable (b : Backend)

def passphrase (inst : String) (kmsID : Text) (spec : Spec) (keyID : Text)
    (secrets : Params) : Prog Text := do
  if secrets secretPassphrase ≠ .empty then
    return secrets secretPassphrase
  else
    let ks ← resolve b kmsID
    KeyService.passphrase b ks inst spec keyID

def deleteKey (inst : String) (kmsID : Text) (spec : Spec) : Prog Unit := do
  let ks ← resolve b kmsID
  KeyService.deleteKey ks inst spec

def cloneKey (inst : String) (kmsID : Text) (source clone : Spec) : Prog Unit := do
  let ks ← resolve b kmsID
  KeyService.cloneKey ks inst source clone

def rotateKey (inst : String) (kmsID : Text) (spec : Spec) (secrets : Params)
    (apply : Text → Prog Unit) : Prog Unit := do
  if secrets secretPassphrase ≠ .empty then
    fail ⟨.invalidArg, ["cephenc: cannot rotate an explicit encryptionPassphrase secret"]⟩
  else
    let ks ← resolve b kmsID
    KeyService.rotateKey b ks kmsID inst spec apply

end Registry
end BardCsi.Ceph
