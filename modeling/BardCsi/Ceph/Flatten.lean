import BardCsi.Ancestry
import BardCsi.Ceph.World

/-!
The worker that flattens clones, and the images that it walks over. The worker looks up the
parents of an image by name. An image in the trash cannot be looked up, and its name may be given
to another image, but it is still the parent of its clones. So each image below has an identity
of its own next to its name.
-/
namespace BardCsi.Ceph

open Effect Ancestry

/-- What the worker asks for: a connection, the parent of an image and whether that is in the
trash, and a flatten. -/
inductive ChainCmd where
  | connArgs
  | parent (i : ImageRef)
  | flatten (i : ImageRef)
deriving DecidableEq, Repr

def ChainCmd.Reply : ChainCmd → Type
  | .connArgs => Except RunError Unit
  | .parent _ => Except RunError (Option (ImageRef × Bool))
  | .flatten _ => Except RunError Unit

abbrev ChainProg (α : Type) := Program ChainCmd ChainCmd.Reply Err α

def chainRun (c : ChainCmd) : ChainProg c.Reply := .ask c

def imageParent (i : ImageRef) : ChainProg (Option (ImageRef × Bool)) := do
  match ← chainRun (.parent i) with
  | .ok found => return found
  | .error e => .fail (errorf ["ceph-rbd: info ", .spec i.spec, ": ", e.text])

/-- Count the ancestors of `cur` on top of `depth`, for a number of rounds. The count is exact
unless there is an ancestor in the trash. -/
def walkParents : ℕ → ℕ → ImageRef → ChainProg (ℕ × Bool)
  | 0, depth, _ => .pure (depth, true)
  | rounds + 1, depth, cur => do
      match ← imageParent cur with
      | none => return (depth, true)
      | some (parent, trashed) =>
        if trashed then return (depth + 1, false)
        else walkParents rounds (depth + 1) parent

/-- The walk goes on while the depth is at most 64. -/
def cloneDepth (i : ImageRef) : ChainProg (ℕ × Bool) := walkParents 65 0 i

def flattenImage (i : ImageRef) (why : List Text) : ChainProg Unit := do
  match ← chainRun (.flatten i) with
  | .ok () => return ()
  | .error e =>
    .fail (errorf (.lit "ceph-rbd: flatten " :: .spec i.spec :: why ++ [.lit ": ", e.text]))

/-- A clone whose depth cannot be told is flattened as well. -/
def flattenIfDeep (b : Backend) (i : ImageRef) : ChainProg Unit :=
  if b.cloneDepthLimit ≤ 0 then .pure ()
  else do
    let walk : Except Err (ℕ × Bool) ← (cloneDepth i).attempt
    match walk with
    | .error derr => flattenImage i (.lit " (depth walk failed: " :: derr.msg ++ [.lit ")"])
    | .ok (depth, exact) =>
      if exact = true ∧ (depth : Int) < b.cloneDepthLimit then return ()
      else if depth = 0 then return ()
      else
        flattenImage i [" (clone depth " ++ toString depth ++ ", exact=" ++ toString exact ++ ")"]

/-- An image that is known to have no parent needs no flatten. -/
def flattenLinked (i : ImageRef) : ChainProg Unit := do
  let parent : Except Err (Option (ImageRef × Bool)) ← (imageParent i).attempt
  match parent with
  | .ok none => return ()
  | _ => flattenImage i []

def flattenWorker (b : Backend) (i : ImageRef) (depthGated : Bool) : ChainProg Unit :=
  match b.clusters i.inst with
  | none => .fail ⟨.invalidArg, ["ceph-rbd: no cluster configured for instance ", i.inst]⟩
  | some _ => do
      match ← chainRun .connArgs with
      | .error e => .fail (errorf [e.text])
      | .ok () => if depthGated then flattenIfDeep b i else flattenLinked i

/-- The world, the identity of the image under each name, and of each identity its name, its
parent and whether it is in the trash. -/
structure Forest where
  world : World
  ident : ImageRef → ℕ
  name : ℕ → ImageRef
  parent : ℕ → Option ℕ
  inTrash : ℕ → Bool
  next : ℕ

/-- More ancestors than this are refused. -/
def maxAncestors : ℕ := 64

namespace Forest

variable (f : Forest)

/-- An administrator moves the image to the trash. -/
def trash (i : ImageRef) : Forest :=
  if (f.world.images i).isSome then
    { f with
      world := { f.world with images := Function.update f.world.images i none }
      inTrash := Function.update f.inTrash (f.ident i) true }
  else f

def moveToTrash (l : List ImageRef) : Forest := l.foldl trash f

/-- The image has no parent any more. -/
def cut (x : ℕ) : Forest := { f with parent := Function.update f.parent x none }

/-- A new image under the name `i`, in the world `w`. -/
def grow (i : ImageRef) (p : Option ℕ) (w : World) : Forest where
  world := w
  ident := Function.update f.ident i f.next
  name := Function.update f.name f.next i
  parent := Function.update f.parent f.next p
  inTrash := Function.update f.inTrash f.next false
  next := f.next + 1

/-- An image without a parent appears from outside. -/
def imported (i : ImageRef) (sizeMiB : Int) : Forest :=
  if (f.world.images i).isSome then f
  else f.grow i none (f.world.setImage i (.new sizeMiB))

def children (x : ℕ) : List ℕ := (List.range f.next).filter fun y => f.parent y = some x

def lookup (i : ImageRef) : Except RunError (Option (ImageRef × Bool)) :=
  if (f.world.images i).isSome then
    .ok ((f.parent (f.ident i)).map fun p => (f.name p, f.inTrash p))
  else .error .notFound

def flattened (i : ImageRef) : Except RunError Unit × Forest :=
  if (f.world.images i).isNone then (.error .notFound, f)
  else if (f.parent (f.ident i)).isNone then (.error (.other "image has no parent"), f)
  else (.ok (), f.cut (f.ident i))

end Forest

/-- How one request of the worker goes: what is moved to the trash before it, whether it fails,
and whether a failed flatten took effect. -/
structure ChainOutcome where
  trash : List ImageRef
  fault : Option String
  landed : Bool

/-- A lookup that fails answers with an error. -/
def chainStep (c : ChainCmd) (o : ChainOutcome) (f₀ : Forest) : c.Reply × Forest :=
  let f := f₀.moveToTrash o.trash
  match c, o.fault with
  | .connArgs, none => (.ok (), f)
  | .connArgs, some t => (.error (.other t), f)
  | .parent i, none => (f.lookup i, f)
  | .parent _, some t => (.error (.other t), f)
  | .flatten i, none => f.flattened i
  | .flatten i, some t => (.error (.other t), if o.landed then (f.flattened i).2 else f)

def chainMachine : Machine ChainCmd ChainCmd.Reply Unit ChainOutcome Forest :=
  ⟨fun _ => chainStep⟩

/-- How one request of the plugin goes: what is moved to the trash before it, and how the
requests of the worker go that it may start. -/
structure ForestOutcome where
  base : Outcome
  trash : List ImageRef
  worker : List ChainOutcome

namespace Forest

variable (f : Forest) (b : Backend)

/-- A run of the worker until it is done. -/
def runWorker (i : ImageRef) (depthGated : Bool) (os : List ChainOutcome) :
    Forest × Option (Except Err Unit) :=
  (chainMachine.exec () (flattenWorker b i depthGated) os f).2

/-- A clone with too many ancestors is refused, and so is a removal of an image with clones. -/
def choice (c : Cmd) (o : Outcome) : Outcome :=
  match c with
  | .rbdClone parent _ _ =>
      if (f.world.images parent.image).isSome ∧
          climb f.parent maxAncestors (f.ident parent.image) = maxAncestors then
        ⟨some (.error "too many ancestors"), false, o.pick⟩
      else o
  | .rbdRm i => { o with pick := if f.children (f.ident i) = [] then 0 else 1 }
  | _ => o

/-- An image has come to be under the name. -/
def born (i : ImageRef) (w : World) : Bool := (f.world.images i).isNone && (w.images i).isSome

/-- What a request leaves that has left the world `w`. -/
def after (c : Cmd) (o : ForestOutcome) (w : World) : Forest :=
  match c with
  | .rbdCreate i _ _ => if f.born i w then f.grow i none w else { f with world := w }
  | .rbdClone parent i _ =>
      if f.born i w then f.grow i (some (f.ident parent.image)) w else { f with world := w }
  | .rbdRm i =>
      if (f.world.images i).isSome && (w.images i).isNone then
        { f.cut (f.ident i) with world := w }
      else { f with world := w }
  | .backgroundFlatten i depthGated => (f.runWorker b i depthGated o.worker).1
  | _ => { f with world := w }

/-- Clones in the trash are not listed. -/
def reply (c : Cmd) (o : Outcome) (r : c.Reply) : c.Reply :=
  match c with
  | .rbdChildren i =>
      if o.fault.isSome then r
      else if (f.world.images i).isNone then .error .notFound
      else .ok (((f.children (f.ident i)).filter fun x => !f.inTrash x).map f.name)
  | _ => r

def step (who : ℕ) (c : Cmd) (o : ForestOutcome) (f₀ : Forest) : c.Reply × Forest :=
  let f := f₀.moveToTrash o.trash
  let r := Ceph.step who c (f.choice c o.base) f.world
  (f.reply c o.base r.1, f.after b c o r.2)

end Forest

def forestMachine (b : Backend) : Machine Cmd Cmd.Reply ℕ ForestOutcome Forest :=
  ⟨Forest.step b⟩

end BardCsi.Ceph
