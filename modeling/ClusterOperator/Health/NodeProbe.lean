import ClusterOperator.Health.NodeReport
import ClusterOperator.Web.Url

/-!
# Asking a server

A server is asked for the state of its peers over the web, at a fixed port and path of the address
of its pod. The address is put into the text of the URL as it is, and only the text is read as a
URL: an address with colons of its own does not come out as the host. The status code of the
response is not looked at; its body decides.

## Main definitions

* `NodeProbe.urlText`: the text of the URL for an address.
* `NodeProbe.ask`: the report of the server at an address.
-/

namespace ClusterOperator.NodeProbe

/-- The port at which servers are asked. -/
def port : Nat := 8848

/-- The path at which servers are asked. -/
def path : String := "/nacos/v1/core/cluster/nodes"

/-- What follows the scheme in the URL for an address. -/
def afterScheme (address : String) : String := address ++ ":" ++ port.repr ++ path

/-- The text of the URL for an address. -/
def urlText (address : String) : String := Web.Url.schemeText ++ afterScheme address

/-- The URL for an address, if it is one. -/
def url (address : String) : Except HttpProblem Web.Url :=
  (Web.Url.parse (afterScheme address)).mapError .badUrl

/-- The report of the server at an address; `fetch` gives the body found at a URL. -/
def ask (fetch : Web.Url → Except HttpProblem String) (address : String) :
    Except Error NodeReport := do
  let u ← (url address).mapError .http
  let body ← (fetch u).mapError .http
  NodeReport.ofBody body

/-- What is found at any URL where there is no network. -/
def offline (u : Web.Url) : Except HttpProblem String := .error (.networkUnreachable u.text)

end ClusterOperator.NodeProbe
