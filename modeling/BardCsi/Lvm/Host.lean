import BardCsi.Digest
import BardCsi.Effect.Calls
import BardCsi.Filesystem
import BardCsi.Iscsi.Config

/-!
A storage host: the logical volumes of its volume groups, and the targets that export them. A
thin snapshot is not active when it is created, and only an active volume has a device node. The
LVM plugin and the iSCSI plugin work on the volumes in the same way.
-/
namespace BardCsi.Lvm

open Effect

/-- How `lvextend` fails. -/
inductive ExtendError where
  | notLarger
  | failed (e : RunError)
deriving DecidableEq, Repr

inductive Cmd where
  -- reads
  | lvSize (vg lv : String)
  | lvAttr (vg lv : String)
  -- changes of volumes
  | lvcreateSnapshot (vg src lv : String)
  | lvcreateThin (vg pool : String) (size : Int) (lv : String)
  | lvcreateThick (vg lv : String) (size : Int)
  | lvchangeActivate (vg lv : String)
  | lvextend (vg lv : String) (size : Int)
  -- the export of a volume
  | createBackstore (lv vg : String)
  | setEmulateTpu (lv : String)
  | createTarget (iqn : String)
  | deletePortal (iqn ip port : String)
  | createPortal (iqn ip port : String)
  | createLun (iqn lv : String)
  | setTpgAttributes (iqn : String) (authentication : Bool)
deriving DecidableEq

/-- The size is what the output is read as, if it is a number. -/
def Cmd.Reply : Cmd → Type
  | .lvSize _ _ => Except RunError (Option Int)
  | .lvAttr _ _ => Except RunError String
  | .lvextend _ _ _ => Except ExtendError Unit
  | _ => Except RunError Unit

abbrev Prog (α : Type) := Program Cmd Cmd.Reply Err α

def run (c : Cmd) : Prog c.Reply := .ask c

def fail {α : Type} (e : Err) : Prog α := .fail e

structure CreateVolumeRequest where
  name : String
  capacityBytes : Int
  inst : String
  parameters : String → String
  sourceSnapshot : Option VolumeRef
  sourceVolume : Option VolumeRef

def CreateVolumeRequest.isClone (req : CreateVolumeRequest) : Bool :=
  req.sourceSnapshot.isSome || req.sourceVolume.isSome

/-- The volume to clone. A snapshot comes before a volume. -/
def CreateVolumeRequest.src (req : CreateVolumeRequest) : VolumeRef :=
  (req.sourceSnapshot <|> req.sourceVolume).getD ⟨"", "", ""⟩

structure CreateVolumeResponse where
  location : String
  name : String
  capacityBytes : Int
  devPath : Option String
deriving DecidableEq, Repr

def devPath (vg lv : String) : String := "/dev/" ++ vg ++ "/" ++ lv

def lvName (sum : String → Fin (2 ^ 64)) (csiName : String) : String :=
  digestName sum "bard-" csiName

def paramThinPool : String := "thinPool"

/-- The parameter comes before the default of the instance. -/
def thinPoolFor (default : String) (parameters : String → String) : String :=
  if parameters paramThinPool ≠ "" then parameters paramThinPool else default

/-- A size for `lvcreate`, which does not take zero. -/
def lvBytes (b : Int) : Int := if b ≤ 0 then 2 ^ 20 else b

/-- The size of a volume, if it exists. -/
def lvSizeBytes (plugin vg lv : String) : Prog (Option Int) := do
  match ← run (.lvSize vg lv) with
  | .ok (some n) => return some n
  | .ok none => fail (errorf [plugin ++ ": parse lv_size: "])
  | .error .notFound => return none
  | .error e => fail (errorf [plugin ++ ": lvs " ++ vg ++ "/" ++ lv ++ ": ", e.text])

def extendTo (plugin vg lv : String) (size : Int) : Prog Unit := do
  if size ≤ 0 then return ()
  else
    match ← run (.lvextend vg lv size) with
    | .ok () => return ()
    | .error .notLarger => return ()
    | .error (.failed e) =>
      fail (errorf [plugin ++ ": lvextend " ++ vg ++ "/" ++ lv ++ ": ", e.text])

/-- Create a volume as a snapshot of another one, and activate it. -/
def thinClone (plugin vg src lv : String) : Prog Unit := do
  match ← run (.lvcreateSnapshot vg src lv) with
  | .ok () | .error .alreadyExists =>
    orFail (← run (.lvchangeActivate vg lv))
      [plugin ++ ": activate clone " ++ vg ++ "/" ++ lv ++ ": "]
  | .error e =>
    fail (errorf [plugin ++ ": thin clone " ++ vg ++ "/" ++ src ++ " -> " ++ lv ++ ": ", e.text])

/-- Create an empty volume, in a pool if there is one. -/
def createEmpty (plugin vg pool lv : String) (size : Int) : Prog Unit := do
  if pool ≠ "" then
    orFail (← run (.lvcreateThin vg pool (lvBytes size) lv))
      [plugin ++ ": lvcreate thin " ++ vg ++ "/" ++ lv ++ ": "]
  else
    orFail (← run (.lvcreateThick vg lv (lvBytes size)))
      [plugin ++ ": lvcreate " ++ vg ++ "/" ++ lv ++ ": "]

/-- A volume that exists is large enough, or is a clone that has not been grown yet. -/
def reuse (plugin vg lv : String) (req : CreateVolumeRequest) (size : Int) : Prog Unit := do
  if size < req.capacityBytes then
    if req.isClone = false then
      fail ⟨.alreadyExists, [plugin ++ ": volume " ++ req.name ++ " exists at " ++ toString size ++
        " bytes, smaller than requested " ++ toString req.capacityBytes]⟩
    else extendTo plugin vg lv req.capacityBytes
  else return ()

structure LV where
  size : ℕ
  thin : Bool
  active : Bool
deriving DecidableEq, Repr

/-- The attributes of a volume as they are printed. -/
def attr (thin active : Bool) : String :=
  (if thin then "V" else "-") ++ "wi-" ++ (if active then "a" else "-") ++ "-----"

structure World where
  lvs : String → String → Option LV
  extent : ℕ
  backstores : List String
  targets : List String
  portals : List (String × String × String)
  luns : List (String × String)

namespace World

variable (w : World)

def setLV (vg lv : String) (l : LV) : World :=
  { w with lvs := Function.update w.lvs vg (Function.update (w.lvs vg) lv (some l)) }

/-- Sizes are rounded up to extents. -/
def rounded (size : Int) : ℕ := size.toNat + (w.extent - size.toNat % w.extent) % w.extent

end World

abbrev Outcome := Fate String

def done (w : World) : Except RunError Unit × World := (.ok (), w)

def refused {α : Type} (w : World) (e : RunError) : Except RunError α × World := (.error e, w)

def performCreate (vg lv : String) (l : LV) (w : World) : Except RunError Unit × World :=
  if (w.lvs vg lv).isSome then refused w .alreadyExists else done (w.setLV vg lv l)

/-- A snapshot has the size of its source, and is not activated. -/
def performSnapshot (vg src lv : String) (w : World) : Except RunError Unit × World :=
  match w.lvs vg src with
  | none => refused w .notFound
  | some l => performCreate vg lv ⟨l.size, true, false⟩ w

def performActivate (vg lv : String) (w : World) : Except RunError Unit × World :=
  match w.lvs vg lv with
  | none => refused w .notFound
  | some l => done (w.setLV vg lv { l with active := true })

def performExtend (vg lv : String) (size : Int) (w : World) : Except ExtendError Unit × World :=
  match w.lvs vg lv with
  | none => (.error (.failed .notFound), w)
  | some l =>
      if w.rounded size ≤ l.size then (.error .notLarger, w)
      else (.ok (), w.setLV vg lv { l with size := w.rounded size })

/-- A backstore is opened on the device node of the volume. -/
def performBackstore (lv vg : String) (w : World) : Except RunError Unit × World :=
  if lv ∈ w.backstores then refused w .alreadyExists
  else if (w.lvs vg lv).any LV.active then done { w with backstores := lv :: w.backstores }
  else refused w (.other "no device node")

def performTarget (iqn : String) (w : World) : Except RunError Unit × World :=
  if iqn ∈ w.targets then refused w .alreadyExists
  else done { w with targets := iqn :: w.targets, portals := (iqn, "::0", "3260") :: w.portals }

def performDeletePortal (p : String × String × String) (w : World) :
    Except RunError Unit × World :=
  if p ∈ w.portals then done { w with portals := w.portals.filter (· ≠ p) }
  else refused w .notFound

def performCreatePortal (p : String × String × String) (w : World) :
    Except RunError Unit × World :=
  if p ∈ w.portals then refused w .alreadyExists else done { w with portals := p :: w.portals }

def performLun (iqn lv : String) (w : World) : Except RunError Unit × World :=
  if w.luns.contains (iqn, lv) then refused w .alreadyExists
  else if iqn ∉ w.targets then refused w .notFound
  else if lv ∉ w.backstores then refused w .notFound
  else done { w with luns := (iqn, lv) :: w.luns }

/-- What a request does when it works. -/
def perform (c : Cmd) (w : World) : c.Reply × World :=
  match c with
  | .lvSize vg lv => ((w.lvs vg lv).elim (.error .notFound) fun l => .ok (some l.size), w)
  | .lvAttr vg lv => ((w.lvs vg lv).elim (.error .notFound) fun l => .ok (attr l.thin l.active), w)
  | .lvcreateSnapshot vg src lv => performSnapshot vg src lv w
  | .lvcreateThin vg _ size lv => performCreate vg lv ⟨w.rounded size, true, true⟩ w
  | .lvcreateThick vg lv size => performCreate vg lv ⟨w.rounded size, false, true⟩ w
  | .lvchangeActivate vg lv => performActivate vg lv w
  | .lvextend vg lv size => performExtend vg lv size w
  | .createBackstore lv vg => performBackstore lv vg w
  | .setEmulateTpu _ => done w
  | .createTarget iqn => performTarget iqn w
  | .deletePortal iqn ip port => performDeletePortal (iqn, ip, port) w
  | .createPortal iqn ip port => performCreatePortal (iqn, ip, port) w
  | .createLun iqn lv => performLun iqn lv w
  | .setTpgAttributes iqn _ => if iqn ∈ w.targets then done w else refused w .notFound

def Cmd.failed (c : Cmd) (f : String) : c.Reply :=
  match c with
  | .lvSize _ _ | .lvAttr _ _ | .lvcreateSnapshot _ _ _ | .lvcreateThin _ _ _ _
  | .lvcreateThick _ _ _ | .lvchangeActivate _ _ | .createBackstore _ _ | .setEmulateTpu _
  | .createTarget _ | .deletePortal _ _ _ | .createPortal _ _ _ | .createLun _ _
  | .setTpgAttributes _ _ => .error (.other f)
  | .lvextend _ _ _ => .error (.failed (.other f))

def step (_ : Unit) (c : Cmd) (o : Outcome) (w : World) : c.Reply × World :=
  faulty (o.fault.map c.failed) o.landed (perform c w) w

def machine : Machine Cmd Cmd.Reply Unit Outcome World := ⟨step⟩

/-- A step leaves the state as it is, or does what the request does when it works. -/
theorem step_state (c : Cmd) (o : Outcome) (w : World) :
    (step () c o w).2 = w ∨ (step () c o w).2 = (perform c w).2 :=
  faulty_state ..

end BardCsi.Lvm
