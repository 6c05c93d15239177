import ClusterOperator.Request

/-!
# Injected failures

To see what the operator makes of trouble, requests of a verb and a kind are made to fail, so many
times or without end. The first failure in the list that fits a request is the one it runs into.

## Main definitions

* `Injection`: a failure and the requests that run into it.
* `Injection.first?`: the failure that a request runs into.

## Main results

* `Injection.first?_eq_none`: a request that no failure fits runs into none.
-/

namespace ClusterOperator

/-- A failure of the requests of a verb and a kind, or of all verbs or kinds, so many times or
without end. -/
structure Injection (ε : Type) where
  verb : Option Verb
  kind : Option Kind
  failure : ε
  left : Option Nat

namespace Injection

variable {ε : Type}

/-- Whether a request runs into the failure. -/
def hits (i : Injection ε) (r : Request) : Bool :=
  i.left != some 0 && (i.verb.map (· == r.verb)).getD true && (i.kind.map (· == r.kind)).getD true

/-- The failure after a request ran into it. -/
def spent (i : Injection ε) : Injection ε := { i with left := i.left.map (· - 1) }

/-- The first failure that a request runs into, and the failures that are left for later. -/
def first? (r : Request) : List (Injection ε) → Option (ε × List (Injection ε))
  | [] => none
  | i :: rest =>
    if i.hits r then some (i.failure, i.spent :: rest)
    else (first? r rest).map fun found => (found.1, i :: found.2)

theorem first?_eq_none {r : Request} {is : List (Injection ε)} (h : ∀ i ∈ is, i.hits r = false) :
    first? r is = none := by
  induction is with
  | nil => rfl
  | cons i is ih =>
    simp [first?, h i (by simp), ih fun j hj => h j (by simp [hj])]

end Injection

end ClusterOperator
