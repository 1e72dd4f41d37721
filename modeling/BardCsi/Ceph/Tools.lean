import BardCsi.Ceph.Reads
import BardCsi.Effect.Misread

/-!
The tools as the plugin hears them. It tells failures apart by words in the command line, the exit
status and the error output together, so that a failure of any cause may read as one of a missing
or an existing object: a tool that is not found, an image named after a word that is looked for.
-/
namespace BardCsi.Ceph

open Effect

/-- The answer that a failed request may be taken for. -/
def Cmd.misread (c : Cmd) : Option c.Reply :=
  match c with
  | .imageMetaGet _ _ | .imageMetaRemove _ _ | .rbdInfo _ | .rbdSnapLs _ | .rbdSnapRm _ | .rbdRm _
  | .rbdConfigImage _ _ _ => some (.error .notFound)
  | .rbdCreate _ _ _ | .rbdClone _ _ _ | .rbdSnapCreate _ _ => some (.error .alreadyExists)
  | .umount _ => some (.error .notMounted)
  | .secret _ _ => some (.ok ⟨404, .empty⟩)
  | _ => none

/-- The world with failures that are misread. -/
def tools : Machine Cmd Cmd.Reply ℕ (Outcome × Bool) World := machine.misreading Cmd.misread

/-- No failure is taken for an answer that is wrong. -/
abbrev Truthful : ℕ → Cmd → Outcome × Bool → World → Prop := machine.Truthful Cmd.misread

abbrev TruthfulRun {α : Type} : ℕ → Prog α → List (Outcome × Bool) → World → Prop :=
  machine.TruthfulRun Cmd.misread

end BardCsi.Ceph
