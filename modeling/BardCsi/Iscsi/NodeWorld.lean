import BardCsi.Assoc
import BardCsi.Iscsi.Node

/-!
The node that the plugin works on: its sessions, the units that are attached over them, the
multipath maps, the mounts, and the records of the plugin.
-/
namespace BardCsi.Iscsi.Node

open Effect

/-- A unit of a target, seen over a portal. -/
structure Path where
  portal : String
  iqn : String
  lun : String
deriving DecidableEq, Repr

structure World where
  holder : String → Option ℕ
  records : List (String × RecordFile)
  sessions : List (String × String)
  attached : List Path
  wwid : String → String → String
  maps : List String
  mounts : List (String × Device)

abbrev Outcome := Fate String

namespace World

variable (w : World)

/-- The map over the paths to a unit. -/
def mapOf (iqn lun : String) : Option String :=
  (mpathID (Strings.trimSpace (w.wwid iqn lun))).toOption

/-- A map without a path goes away. -/
def reap : World :=
  { w with maps := w.maps.filter fun id =>
      w.attached.any fun p => w.mapOf p.iqn p.lun = some id }

/-- The unit that a device shows. -/
def unitOf : Device → Option (String × String)
  | .path portal iqn lun =>
      if (⟨portal, iqn, lun⟩ : Path) ∈ w.attached then some (iqn, lun) else none
  | .mpath id =>
      if id ∈ w.maps then
        (w.attached.find? fun p => w.mapOf p.iqn p.lun = some id).map fun p => (p.iqn, p.lun)
      else none

def mounted (dev : Device) : Bool := w.mounts.any fun m => m.2 = dev

end World

def done (w : World) : Except RunError Unit × World := (.ok (), w)

def refused {α : Type} (w : World) (e : RunError) : Except RunError α × World := (.error e, w)

def performLogout (iqn portal : String) (w : World) : Except RunError Unit × World :=
  if w.sessions.contains (iqn, portal) then
    done ({ w with
      sessions := w.sessions.filter (· ≠ (iqn, portal))
      attached := w.attached.filter fun p => ¬(p.iqn = iqn ∧ p.portal = portal) }).reap
  else refused w .notFound

def performDetach (dev : Device) (w : World) : Except RunError Unit × World :=
  match dev with
  | .path portal iqn lun =>
      if (⟨portal, iqn, lun⟩ : Path) ∈ w.attached then
        done { w with attached := w.attached.filter (· ≠ ⟨portal, iqn, lun⟩) }
      else refused w .notFound
  | .mpath _ => refused w .notFound

def performFlush (dev : Device) (w : World) : Except RunError Unit × World :=
  match dev with
  | .path _ _ _ => refused w .notFound
  | .mpath id =>
      if id ∉ w.maps then refused w .notFound
      else if w.mounted dev then refused w (.other "map in use")
      else done { w with maps := w.maps.filter (· ≠ id) }

/-- A device is there. -/
def performStat (dev : Device) (w : World) : Except RunError Unit × World :=
  match w.unitOf dev with
  | some _ => done w
  | none => refused w .notFound

def performWwid (dev : Device) (w : World) : Except RunError String × World :=
  match w.unitOf dev with
  | some u => (.ok (w.wwid u.1 u.2), w)
  | none => refused w .notFound

def performGetsize (dev : Device) (w : World) : Output (Option ℕ) × World :=
  match w.unitOf dev with
  | some _ => (⟨some 1, none⟩, w)
  | none => (⟨none, some .notFound⟩, w)

def performUmount (path : String) (w : World) : Except RunError Unit × World :=
  if (Assoc.get w.mounts path).isNone then refused w .notMounted
  else done { w with mounts := Assoc.erase w.mounts path }

def orNotFound {α : Type} (x : Option α) (w : World) : Except RunError α × World :=
  match x with
  | some a => (.ok a, w)
  | none => refused w .notFound

/-- What a request does when it works. -/
def perform (who : ℕ) (c : Cmd) (w : World) : c.Reply × World :=
  match c with
  | .mkdirState => done w
  | .openLock _ => done w
  | .flock iqn => done { w with holder := Function.update w.holder iqn (some who) }
  | .funlock iqn => ((), { w with holder := Function.update w.holder iqn none })
  | .listRecords => (.ok (w.records.map Prod.fst), w)
  | .readRecord path => orNotFound (Assoc.get w.records path) w
  | .removeRecord path => done { w with records := Assoc.erase w.records path }
  | .logout iqn portal => performLogout iqn portal w
  | .deleteNode _ _ => done w
  | .listSessions => if w.sessions = [] then refused w .notFound else (.ok w.sessions, w)
  | .getsize dev => performGetsize dev w
  | .evalSymlinks dev => performStat dev w
  | .readWwid dev => performWwid dev w
  | .lstat dev => performStat dev w
  | .detach dev => performDetach dev w
  | .multipathFlush dev => performFlush dev w
  | .dmsetupInfo dev => performStat dev w
  | .umount path => performUmount path w

/-- The reply of a request that fails. Giving up a lock does not fail. -/
def Cmd.failed (c : Cmd) (f : String) : Option c.Reply :=
  match c with
  | .funlock _ => none
  | .getsize _ => some ⟨none, some (.other f)⟩
  | .mkdirState | .openLock _ | .flock _ | .listRecords | .readRecord _ | .removeRecord _
  | .logout _ _ | .deleteNode _ _ | .listSessions | .evalSymlinks _ | .readWwid _ | .lstat _
  | .detach _ | .multipathFlush _ | .dmsetupInfo _ | .umount _ => some (.error (.other f))

def step (who : ℕ) (c : Cmd) (o : Outcome) (w : World) : c.Reply × World :=
  faulty (o.fault.bind c.failed) o.landed (perform who c w) w

def machine : Machine Cmd Cmd.Reply ℕ Outcome World := ⟨step⟩

theorem step_cases (who : ℕ) (c : Cmd) (o : Outcome) (w : World) :
    step who c o w = perform who c w ∨
      ∃ f, c.failed f = some (step who c o w).1 ∧
        ((step who c o w).2 = w ∨ (step who c o w).2 = (perform who c w).2) := by
  obtain h | ⟨f, _, hf, h⟩ := faulty_cases o.fault c.failed o.landed (perform who c w) w
  · exact .inl h
  · exact .inr ⟨f, hf, h.imp_right And.left⟩

end BardCsi.Iscsi.Node
