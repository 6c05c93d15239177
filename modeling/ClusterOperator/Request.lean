import ClusterOperator.Objects

/-!
# Requests to the orchestration API

Six verbs are enough for the operator: it gets, creates, updates, deletes and lists objects of a
kind in a namespace, and it writes the status of a declared deployment. The type of the result of a
request depends on the verb and the kind.

## Main definitions

* `Request`, `Request.Result`: the requests and the types of their results.
* `Verb`, `Request.verb`, `Request.kind`, `Request.space`, `Request.name`: what a request is about.
* `Request.summary`, `Request.describe`: a request in one line.
-/

namespace ClusterOperator

open Kubernetes

/-- What is asked of the orchestration API. -/
inductive Verb where
  | get
  | create
  | update
  | delete
  | list
  | updateStatus
  deriving DecidableEq, Repr

namespace Verb

/-- The name of a verb. -/
def name : Verb → String
  | get => "get"
  | create => "create"
  | update => "update"
  | delete => "delete"
  | list => "list"
  | updateStatus => "update_status"

/-- All verbs. -/
def all : List Verb := [get, create, update, delete, list, updateStatus]

/-- The verb of a name. -/
def ofName? (s : String) : Option Verb := all.find? fun v => v.name == s

end Verb

/-- A request to the orchestration API. -/
inductive Request where
  | get (kind : Kind) (space name : String)
  | create (kind : Kind) (space : String) (object : kind.Object)
  | update (kind : Kind) (space : String) (object : kind.Object)
  | delete (kind : Kind) (space name : String)
  | list (kind : Kind) (space : String) (selector : Option String)
  | updateStatus (declaration : Declaration)

namespace Request

/-- The type of the result of a request. -/
@[reducible] def Result : Request → Type
  | get kind _ _ => Option kind.Object
  | create kind _ _ => kind.Object
  | update kind _ _ => kind.Object
  | delete _ _ _ => Unit
  | list kind _ _ => List kind.Object
  | updateStatus _ => Unit

/-- The verb of a request. -/
def verb : Request → Verb
  | get _ _ _ => .get
  | create _ _ _ => .create
  | update _ _ _ => .update
  | delete _ _ _ => .delete
  | list _ _ _ => .list
  | updateStatus _ => .updateStatus

/-- The kind of objects that a request is about. -/
def kind : Request → Kind
  | get kind _ _ | create kind _ _ | update kind _ _ | delete kind _ _ | list kind _ _ => kind
  | updateStatus _ => .declaration

/-- The namespace that a request is about. -/
def space : Request → String
  | get _ space _ | create _ space _ | update _ space _ | delete _ space _ | list _ space _ => space
  | updateStatus d => d.metadata.spaceOrEmpty

/-- The name of the object that a request is about; a request for a list names none. -/
def name : Request → String
  | get _ _ name | delete _ _ name => name
  | create kind _ object | update kind _ object => (kind.metadata object).displayName
  | list _ _ _ => ""
  | updateStatus d => d.displayName

/-- A request in one line. -/
def summary (r : Request) : String :=
  r.verb.name ++ " " ++ r.kind.name ++ " " ++ r.space ++ "/" ++ r.name ++
    (match r with
      | updateStatus d => " " ++ d.phase.name
      | _ => "")

/-- A request in one line, a list with its selector in place of a name. -/
def describe : Request → String
  | list kind space selector =>
    Verb.list.name ++ " " ++ kind.name ++ " " ++ space ++ " [" ++ selector.getD "" ++ "]"
  | r => r.summary

end Request

end ClusterOperator
