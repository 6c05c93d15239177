import ClusterOperator.Error
import ClusterOperator.Labels
import ClusterOperator.Request

/-!
# The object store

The orchestration API keeps its objects as JSON documents under their kind, namespace and name. A
counter gives every write a version of its own, and an update is accepted only if it carries the
version of the document it replaces. So of two writers that read the same document at most one can
replace it.

A status is written past the versions: it replaces the status of the stored document and leaves
the version as it is.

## Main definitions

* `Key`: what a document is stored under, ordered by kind, namespace and name.
* `Store`, `Store.get?`: the documents and the counter.
* `Store.put`, `Store.amend`, `Store.remove`: changes from outside.
* `Store.Refusal`: why a request is refused.
* `Store.answer`: what a request comes to.

## Main results

* `Store.get?_put_self`, `Store.get?_put_of_ne`: looking up after a document is put.
* `Store.create_taken`, `Store.update_missing`, `Store.update_stale`: a refused write leaves the
  store as it is.
-/

namespace ClusterOperator

/-- What a document is stored under. -/
structure Key where
  kind : Kind
  space : String
  name : String
  deriving DecidableEq, Repr

theorem Kind.name_injective {a b : Kind} (h : a.name = b.name) : a = b := by
  revert h
  cases a <;> cases b <;> decide

namespace Key

/-- Keys are ordered by the name of the kind, then the namespace, then the name. -/
protected def lt (a b : Key) : Prop :=
  a.kind.name < b.kind.name ∨
    (a.kind = b.kind ∧ (a.space < b.space ∨ (a.space = b.space ∧ a.name < b.name)))

instance : DecidableRel Key.lt := fun a b => by unfold Key.lt; infer_instance

instance : KeyOrder Key where
  lt := Key.lt
  decLt := inferInstanceAs (DecidableRel Key.lt)
  decEq := inferInstance
  irrefl a h := by
    rcases h with h | ⟨_, h | ⟨_, h⟩⟩ <;> exact String.lt_irrefl _ h
  trans {a b c} hab hbc := by
    rcases hab with hab | ⟨hk, hab⟩
    · rcases hbc with hbc | ⟨hk', _⟩
      · exact .inl (String.lt_trans hab hbc)
      · exact .inl (hk' ▸ hab)
    · rcases hbc with hbc | ⟨hk', hbc⟩
      · exact .inl (hk ▸ hbc)
      · refine .inr ⟨hk.trans hk', ?_⟩
        rcases hab with hab | ⟨hs, hab⟩
        · rcases hbc with hbc | ⟨hs', _⟩
          · exact .inl (String.lt_trans hab hbc)
          · exact .inl (hs' ▸ hab)
        · rcases hbc with hbc | ⟨hs', hbc⟩
          · exact .inl (hs ▸ hbc)
          · exact .inr ⟨hs.trans hs', String.lt_trans hab hbc⟩
  connected {a b} h hne := by
    by_cases hk : a.kind = b.kind
    · refine .inr ⟨hk.symm, ?_⟩
      by_cases hs : a.space = b.space
      · refine .inr ⟨hs.symm, KeyOrder.connected (fun hn => h (.inr ⟨hk, .inr ⟨hs, hn⟩⟩)) ?_⟩
        intro hn
        apply hne
        cases a; cases b; simp_all
      · exact .inl (KeyOrder.connected (fun hl => h (.inr ⟨hk, .inl hl⟩)) hs)
    · exact .inl (KeyOrder.connected (fun hl => h (.inl hl)) fun hn => hk (Kind.name_injective hn))

/-- A key in one line. -/
def describe (k : Key) : String := k.kind.name ++ " " ++ k.space ++ "/" ++ k.name

/-- A key as a triple of quoted texts. -/
def describeQuoted (k : Key) : String :=
  "(" ++ String.intercalate ", " ([k.kind.name, k.space, k.name].map Text.quoted) ++ ")"

end Key

/-- The stored documents, and the number of the last version. -/
structure Store where
  objects : SortedMap Key Json := ∅
  version : Nat := 0

namespace Store

instance : Inhabited Store := ⟨{}⟩

/-! ### Stored documents -/

/-- The version that a document carries. -/
def versionOf (j : Json) : Option String :=
  ((j.getD "metadata").get? "resourceVersion").bind Json.string?

/-- The labels that a document carries. -/
def labelsOf (j : Json) : Json := (j.getD "metadata").getD "labels"

/-- A version as it is written. -/
def versionText (version : Nat) : String := version.repr

/-- A document under a new version. -/
def stamp (version : Nat) (j : Json) : Json :=
  j.set "metadata" ((j.getD "metadata").set "resourceVersion" (.string (versionText version)))

/-- The document stored under a key. -/
def get? (s : Store) (k : Key) : Option Json := s.objects.get? k

/-! ### Changes from outside -/

/-- Stores a document as it is, under a new version. -/
def put (s : Store) (k : Key) (j : Json) : Store where
  objects := s.objects.insert k (stamp (s.version + 1) j)
  version := s.version + 1

/-- Changes a stored document and gives it a new version. The counter moves even if there is no
such document. -/
def amend (s : Store) (k : Key) (change : Json → Json) : Store :=
  match s.get? k with
  | some j => s.put k (change j)
  | none => { s with version := s.version + 1 }

/-- Removes a document. -/
def remove (s : Store) (k : Key) : Store := { s with objects := s.objects.erase k }

/-- How many documents of a kind are stored. -/
def count (s : Store) (k : Kind) : Nat :=
  (s.objects.entries.filter fun e => decide (e.1.kind = k)).length

/-! ### Requests -/

/-- Why a request is refused. -/
inductive Refusal where
  /-- An object to be created exists. -/
  | taken (key : Key)
  /-- An object to be changed does not exist. -/
  | missing (key : Key)
  /-- An object to be changed has got another version. -/
  | stale (key : Key)
  /-- A stored document is not of the type of its kind. -/
  | undecodable (problem : ReadProblem)
  deriving DecidableEq

/-- The object stored under a key, if there is one. -/
def get (s : Store) (k : Kind) (space name : String) : Except Refusal (Option k.Object) :=
  match s.get? ⟨k, space, name⟩ with
  | none => .ok none
  | some j => ((Document.read k.Object j).mapError .undecodable).map some

/-- Stores an object under a new version and gives it back with this version. -/
def write (s : Store) (key : Key) (o : key.kind.Object) : key.kind.Object × Store :=
  let stored := key.kind.withVersion (some (versionText (s.version + 1))) o
  (stored,
    { objects := s.objects.insert key (Document.write stored), version := s.version + 1 })

/-- The key under which an object of a namespace is stored. -/
def keyOf (k : Kind) (space : String) (o : k.Object) : Key :=
  ⟨k, space, (k.metadata o).displayName⟩

/-- Stores an object that must not exist yet. -/
def create (s : Store) (k : Kind) (space : String) (o : k.Object) :
    Except Refusal k.Object × Store :=
  let key := keyOf k space o
  match s.get? key with
  | some _ => (.error (.taken key), s)
  | none =>
    let (stored, s') := s.write key o
    (.ok stored, s')

/-- Replaces an object whose stored version is the one that the new object carries. -/
def update (s : Store) (k : Kind) (space : String) (o : k.Object) :
    Except Refusal k.Object × Store :=
  let key := keyOf k space o
  match s.get? key with
  | none => (.error (.missing key), s)
  | some j =>
    if versionOf j = (k.metadata o).resourceVersion then
      let (stored, s') := s.write key o
      (.ok stored, s')
    else (.error (.stale key), s)

/-- The stored documents of a kind and a namespace that a selector picks out, by name. -/
def select (s : Store) (k : Kind) (space : String) (selector : Option String) : List Json :=
  (s.objects.entries.filter fun e =>
    decide (e.1.kind = k ∧ e.1.space = space) &&
      (selector.map fun text => Selector.holds text (labelsOf e.2)).getD true).map (·.2)

/-- The objects of a kind and a namespace that a selector picks out, by name. -/
def list (s : Store) (k : Kind) (space : String) (selector : Option String) :
    Except Refusal (List k.Object) :=
  ((s.select k space selector).mapM (Document.read k.Object)).mapError .undecodable

/-- Replaces the status of a stored deployment; the version stays. -/
def updateStatus (s : Store) (d : Declaration) : Except Refusal Unit × Store :=
  let key := keyOf .declaration d.metadata.spaceOrEmpty d
  match s.get? key with
  | none => (.error (.missing key), s)
  | some j =>
    let status := (d.status.map Document.write).getD .null
    (.ok (), { s with objects := s.objects.insert key (j.set "status" status) })

/-- What a request comes to. -/
def answer (s : Store) : (r : Request) → Except Refusal r.Result × Store
  | .get k space name => (s.get k space name, s)
  | .create k space o => s.create k space o
  | .update k space o => s.update k space o
  | .delete k space name => (.ok (), s.remove ⟨k, space, name⟩)
  | .list k space selector => (s.list k space selector, s)
  | .updateStatus d => s.updateStatus d

/-! ### Wording -/

namespace Refusal

/-- Whether the store turned the request down; a document that cannot be read is found only after
the request was granted. -/
def isDenial : Refusal → Bool
  | taken _ | missing _ | stale _ => true
  | undecodable _ => false

/-- A refusal as an error, in short words. -/
def error : Refusal → Error
  | taken key => .conflict (key.describe ++ " exists")
  | missing key => .internal (key.describe ++ " not found")
  | stale key => .conflict (key.describe ++ " is stale")
  | undecodable problem => .undecodable problem

/-- A refusal as an error, with the key in quotes. -/
def errorQuoted : Refusal → Error
  | taken key => .conflict (key.describeQuoted ++ " already exists")
  | missing key => .internal (key.describeQuoted ++ " not found")
  | stale key => .conflict (key.describeQuoted ++ " has a newer version")
  | undecodable problem => .undecodable problem

end Refusal

/-! ### Laws -/

@[simp] theorem get?_put_self (s : Store) (k : Key) (j : Json) :
    (s.put k j).get? k = some (stamp (s.version + 1) j) :=
  SortedMap.get?_insert_self ..

theorem get?_put_of_ne (s : Store) {k k' : Key} (j : Json) (h : k' ≠ k) :
    (s.put k j).get? k' = s.get? k' :=
  SortedMap.get?_insert_of_ne _ _ h

/-- A stamped document carries the version it was stamped with. -/
@[simp] theorem versionOf_stamp (version : Nat) (j : Json) :
    versionOf (stamp version j) = some (versionText version) := by
  simp [versionOf, stamp, Json.getD, Json.string?]

theorem create_taken {s : Store} {k : Kind} {space : String} {o : k.Object} {j : Json}
    (h : s.get? (keyOf k space o) = some j) :
    s.create k space o = (.error (.taken (keyOf k space o)), s) := by
  simp [create, h]

theorem update_missing {s : Store} {k : Kind} {space : String} {o : k.Object}
    (h : s.get? (keyOf k space o) = none) :
    s.update k space o = (.error (.missing (keyOf k space o)), s) := by
  simp [update, h]

theorem update_stale {s : Store} {k : Kind} {space : String} {o : k.Object} {j : Json}
    (h : s.get? (keyOf k space o) = some j)
    (hv : versionOf j ≠ (k.metadata o).resourceVersion) :
    s.update k space o = (.error (.stale (keyOf k space o)), s) := by
  simp [update, h, hv]

end Store

end ClusterOperator
