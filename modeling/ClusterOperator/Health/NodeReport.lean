import ClusterOperator.Error

/-!
# What a server reports

Each server answers a request for the state of its peers with a code and a list of the members it
sees. Only the code decides about health.

## Main definitions

* `Member`, `NodeReport`.
* `NodeReport.ofBody`: the report in the body of an answer.
-/

namespace ClusterOperator

/-- A member of a cluster as one server sees it. -/
structure Member where
  ip : String := ""
  port : Width.unsigned16.Val := Width.zero _
  state : String := ""
  address : String := ""
  failAccessCnt : Width.unsigned32.Val := Width.zero _
  deriving DecidableEq

instance : Document Member :=
  .ofMembers (.strictNamed "ClusterNode")
    (.defaulted "ip" String <|
      .defaulted "port" Width.unsigned16.Val <|
      .defaulted "state" String <|
      .defaulted "address" String <|
      .defaulted "failAccessCnt" Width.unsigned32.Val .nil)
    (fun (ip, port, state, address, failAccessCnt, _) =>
      { ip, port, state, address, failAccessCnt })
    (fun m => (m.ip, m.port, m.state, m.address, m.failAccessCnt, ()))
    (fun _ => rfl) (fun _ => rfl)

/-- What a server reports. -/
structure NodeReport where
  code : Signed32
  message : Option String := none
  data : List Member := []
  deriving DecidableEq

namespace NodeReport

instance : Document NodeReport :=
  .ofMembers (.strictNamed "ClusterNodes")
    (.required "code" Signed32 <|
      .nullable "message" String <|
      .defaulted "data" (List Member) .nil)
    (fun (code, message, data, _) => { code, message, data })
    (fun r => (r.code, r.message, r.data, ()))
    (fun _ => rfl) (fun _ => rfl)

/-- The code of a healthy server. -/
def healthy : Signed32 := ⟨200, by decide⟩

/-- The report in the body of an answer. -/
def ofBody (body : String) : Except Error NodeReport :=
  (Document.readText NodeReport body).mapError .unreadable

end NodeReport

end ClusterOperator
