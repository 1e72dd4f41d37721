import BardCsi.Base

/-!
Block device contents and the part of staging that the block plugins share: probing a
device, formatting it, mounting it, and growing the filesystem. The functions are
parameterised by how a plugin runs a tool and by the name it puts in its errors.
-/
namespace BardCsi

open Effect

/-- What a block device holds. The slots of a LUKS header are the passphrases that open
it. -/
inductive Content where
  | blank
  | filesystem (fsType : String)
  | luks (slots : List Text) (inner : Content)
deriving DecidableEq, Repr

namespace Content

/-- The `TYPE` that `blkid` prints. -/
def blkid : Content → String
  | .blank => ""
  | .filesystem t => t
  | .luks _ _ => "crypto_LUKS"

def slots : Content → List Text
  | .luks ps _ => ps
  | _ => []

/-- What the decrypted view of a device holds. -/
def inner : Content → Content
  | .luks _ c => c
  | _ => .blank

end Content

inductive FsCmd (δ : Type) where
  | blkid (dev : δ)
  | mkfs (fsType : String) (args : List String) (dev : δ)
  | mkdirAll (path : String)
  | findmntMountpoint (path : String)
  | mount (fsType : String) (flags : List String) (dev : δ) (path : String)
  | xfsGrowfs (path : String)
  | btrfsResizeMax (path : String)
  | resize2fs (dev : δ)

def FsCmd.Reply {δ : Type} : FsCmd δ → Type
  | .blkid _ => Output String
  | .findmntMountpoint _ => Output (Option δ)
  | _ => Except RunError Unit

def defaultFsType : String := "ext4"

def supportedFsTypes : List String := ["ext2", "ext3", "ext4", "xfs", "btrfs"]

section Staging

variable {ι : Type} {ρ : ι → Type} {δ : Type}
variable (sh : (c : FsCmd δ) → Program ι ρ Err c.Reply) (plugin : String) (path : δ → Text)

/-- Turn the failure of a tool into an error of the plugin. -/
def orFail {α : Type} (r : Except RunError α) (msg : List Text) : Program ι ρ Err α :=
  match r with
  | .ok a => .pure a
  | .error e => .fail (errorf (msg ++ [e.text]))

/-- Accept a failure that says that the work was done before. -/
def tolerating (known : RunError) (r : Except RunError Unit) (msg : List Text) :
    Program ι ρ Err Unit :=
  match r with
  | .ok () => .pure ()
  | .error e => if e = known then .pure () else .fail (errorf (msg ++ [e.text]))

theorem orFail_uses {α : Type} {allowed : ι → Prop} (r : Except RunError α) (msg : List Text) :
    (orFail r msg : Program ι ρ Err α).Uses allowed := by
  cases r with
  | ok a => trivial
  | error e => trivial

theorem tolerating_uses {allowed : ι → Prop} {known : RunError} {r : Except RunError Unit}
    {msg : List Text} : (tolerating known r msg : Program ι ρ Err Unit).Uses allowed := by
  cases r with
  | ok u => trivial
  | error e => exact Program.Uses.ite trivial trivial

def ensureFormatted (dev : δ) (fsType : String) (mkfsArgs : List String) :
    Program ι ρ Err Unit := do
  let probe ← sh (.blkid dev)
  if probe.out ≠ "" then
    return ()
  orFail (← sh (.mkfs fsType mkfsArgs dev))
    [plugin ++ ": mkfs." ++ fsType ++ " ", path dev, ": "]

def growFilesystem (fsType : String) (dev : δ) (mountPoint : String) :
    Program ι ρ Err Unit := do
  let done ← match fsType with
    | "xfs" => sh (.xfsGrowfs mountPoint)
    | "btrfs" => sh (.btrfsResizeMax mountPoint)
    | _ => sh (.resize2fs dev)
  orFail done [plugin ++ ": grow " ++ fsType ++ " filesystem on ", path dev, ": "]

/-- Create the staging directory and mount the device there, unless something is mounted
there already. -/
def mountStaging (fsType : String) (flags : List String) (dev : δ) (stagingPath : String) :
    Program ι ρ Err Unit := do
  orFail (← sh (.mkdirAll stagingPath)) [plugin ++ ": mkdir staging: "]
  let mounted ← sh (.findmntMountpoint stagingPath)
  match mounted.out with
  | some _ => return ()
  | none =>
    orFail (← sh (.mount fsType flags dev stagingPath))
      [plugin ++ ": mount ", path dev, " -> " ++ stagingPath ++ ": "]

/-- The filesystem type of a request, or the error for one that no tool can format. -/
def fsTypeOf (requested : String) : Program ι ρ Err String :=
  let fsType := if requested = "" then defaultFsType else requested
  if fsType ∈ supportedFsTypes then .pure fsType
  else .fail ⟨.invalidArg, [plugin ++ ": unsupported fsType " ++ fsType ++
    " (supported: ext4, ext3, ext2, xfs, btrfs)"]⟩

end Staging
end BardCsi
