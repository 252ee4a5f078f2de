import Intake.Metrics
import Intake.Network.Isolated

/-!
# The endpoint for metrics

Metrics are served over HTTP: a `GET` of the path `/metrics` is answered with
all families, anything else is not found.
-/

namespace Intake

/-- Why the endpoint cannot be served. -/
inductive EndpointError where
  | badAddress (text : String)
  | unbound (address : SocketAddress) (source : NetworkError)
  deriving Repr, DecidableEq

namespace EndpointError

def message : EndpointError → String
  | badAddress text => "Invalid metrics listen address " ++ Text.quoted text
  | unbound address _ => "Failed to bind metrics server to " ++ address.text

/-- The texts of an error and of its cause. -/
def chain : EndpointError → List String
  | badAddress text => [(badAddress text).message, "invalid socket address syntax"]
  | unbound address source => [(unbound address source).message, source.text]

end EndpointError

namespace Endpoint

/-- Listens on the address that a text stands for. -/
def listen (text : String) : Except EndpointError SocketAddress :=
  match SocketAddress.read? text with
  | none => .error (.badAddress text)
  | some address =>
      match address.listen with
      | .ok () => .ok address
      | .error source => .error (.unbound address source)

/-- A request, as its first line has it. -/
structure Request where
  method : String
  target : String
  deriving Repr, DecidableEq

/-- A reply. -/
structure Reply where
  status : Nat
  contentType : Option String
  body : List String
  deriving Repr, DecidableEq

/-- The path that a target asks for, without its query.  A target may name the
server too. -/
def path (target : String) : String :=
  let cs := target.toList
  let scheme := cs.takeWhile fun c => c.isAlphanum || c == '+' || c == '-' || c == '.'
  let cs :=
    if !scheme.isEmpty && (cs.drop scheme.length).take 3 = [':', '/', '/'] then
      (cs.drop (scheme.length + 3)).dropWhile fun c => c != '/' && c != '?' && c != '#'
    else cs
  let cs := cs.takeWhile fun c => c != '?' && c != '#'
  if cs.isEmpty then "/" else String.ofList cs

def contentType : String := "text/plain; version=0.0.4"

/-- What is said about a family before its values. -/
def about (family : MetricFamily) : List String :=
  ["# HELP " ++ family.name ++ " " ++ family.help,
   "# TYPE " ++ family.name ++ " " ++ (if family.isGauge then "gauge" else "counter")]

/-- The reply to a request, of which metrics leave out the values. -/
def reply (request : Request) : Reply :=
  if request.method = "GET" && path request.target = "/metrics" then
    ⟨200, some contentType, MetricFamily.all.flatMap about⟩
  else ⟨404, none, ["Not Found"]⟩

/-- Sends requests to an endpoint of one's own. -/
def replies (requests : List Request) : Except NetworkError (List Reply) :=
  requests.mapM fun request => do
    (SocketAddress.v4 [127, 0, 0, 1] 0).connect
    .ok (reply request)

end Endpoint

end Intake
