import BardCsi.Effect.Contract
import Mathlib.Data.Nat.Notation

/-!
The strings of the plugins, kept symbolic. A digest is represented by what it is a
digest of, so equal texts stand for equal strings as long as digests do not collide.
Random keys are tagged with the caller that drew them and with a serial number, which
is what makes a fresh key different from every key drawn before.
-/
namespace BardCsi

/-- An object name: a prefix with the digest of a CSI name, or a name chosen by an
administrator. -/
inductive ObjectName where
  | short (namePrefix csiName : String)
  | plain (name : String)
deriving DecidableEq, Repr

def shortName (namePrefix csiName : String) : ObjectName := .short namePrefix csiName

/-- A volume of one backend instance. -/
structure ImageRef where
  inst : String
  location : String
  name : ObjectName
deriving DecidableEq, Repr

/-- The name of a volume as the core hands it to a plugin. -/
structure VolumeRef where
  inst : String
  location : String
  name : String
deriving DecidableEq, Repr

/-- The image of a volume, `pool[/namespace]/image`. -/
def VolumeRef.imageSpec (vol : VolumeRef) : String := vol.location ++ "/" ++ vol.name

/-- A volume, or one of its snapshots. -/
structure Spec where
  image : ImageRef
  snap : Option ObjectName
deriving DecidableEq, Repr

def ImageRef.spec (i : ImageRef) : Spec := ⟨i, none⟩

def ImageRef.at (i : ImageRef) (snap : ObjectName) : Spec := ⟨i, some snap⟩

inductive Text where
  | lit (s : String)
  | name (n : ObjectName)
  | spec (s : Spec)
  | digest (tag of : String)
  | tagged (tag : String) (t : Text)
  | minted (who seq : ℕ)
  | uid (who seq : ℕ)
  | derived (master : String) (keyID : Text)
  | wrapped (kek : String) (dek : Text)
  | blob (key : String) (dek : Text)
deriving DecidableEq, Repr

abbrev Text.empty : Text := .lit ""

instance : Coe String Text := ⟨.lit⟩

/-- The settings, contexts and secrets of requests. An absent key reads as the empty
string. -/
abbrev Params := String → Text

inductive ErrorCode where
  | internal
  | notFound
  | alreadyExists
  | invalidArg
deriving DecidableEq, Repr

structure Err where
  code : ErrorCode
  msg : List Text
deriving DecidableEq, Repr

/-- An error without a code of its own is reported as internal. -/
def errorf (msg : List Text) : Err := ⟨.internal, msg⟩

def Err.wrap (msg : List Text) (e : Err) : Err := ⟨e.code, msg ++ e.msg⟩

/-- How a command that ran failed, as far as the callers tell failures apart. -/
inductive RunError where
  | notFound
  | alreadyExists
  | notMounted
  | noKeyAvailable
  | linkedClones
  | other (text : String)
deriving DecidableEq, Repr

def RunError.text : RunError → Text
  | .notFound => "does not exist"
  | .alreadyExists => "exists"
  | .notMounted => "not mounted"
  | .noKeyAvailable => "no key available"
  | .linkedClones => "linked clones"
  | .other s => s

/-- The cluster of an instance, which its plugin has to be configured for. -/
def clusterFor {ι γ : Type} {ρ : ι → Type} (plugin : String) (clusters : String → Option γ)
    (inst : String) : Effect.Program ι ρ Err γ :=
  match clusters inst with
  | some cc => .pure cc
  | none => .fail ⟨.invalidArg, [plugin ++ ": no cluster configured for instance ", inst]⟩

/-- The cephx user of a request: its secret, the cluster's, or the default. -/
def cephUser {α : Type} [DecidableEq α] (lit : String → α) (configured : String) (secret : α) : α :=
  if secret ≠ lit "" then secret else if configured ≠ "" then lit configured else lit "admin"

/-- What a command printed, and its error if it failed. -/
structure Output (α : Type) where
  out : α
  err : Option RunError
deriving Repr

end BardCsi
