import ClusterOperator.Drift
import ClusterOperator.Manifest
import ClusterOperator.Program

/-!
# Applying children

The stored child is made to match the desired one: it is created where there is none, updated with
the version it was read at where it has drifted, and left alone otherwise. The children of a
deployment are applied one after the other, and the first failure ends the row.

## Main definitions

* `Applied`: what was done.
* `apply`: one child.
* `ensure`: all children of a deployment.
-/

namespace ClusterOperator

/-- What was done to a child. -/
inductive Applied where
  | created
  | updated
  | unchanged
  deriving DecidableEq, Repr

/-- Makes the stored child match the desired one. -/
def apply (c : Child) (space : String) (desired : c.Object) : Pass Applied := do
  let name := (c.kind.metadata desired).displayName
  match ← Pass.request (.get c.kind space name) with
  | none =>
    let _ ← Pass.request (.create c.kind space desired)
    return .created
  | some live =>
    if c.drifted desired live then
      let _ ← Pass.request (.update c.kind space (c.adopt desired live))
      return .updated
    else return .unchanged

/-- Applies children one after the other. -/
def applyAll (space : String) : List ((c : Child) × c.Object) → Pass (List Applied)
  | [] => return []
  | ⟨c, desired⟩ :: rest => do
    let first ← apply c space desired
    return first :: (← applyAll space rest)

/-- Applies every child of a deployment. -/
def ensure (domain : String) (d : Declaration) : Pass (List Applied) := do
  let plan ← Pass.ofExcept (Plan.ofDeclaration d domain)
  applyAll plan.space plan.children

end ClusterOperator
