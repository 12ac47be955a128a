import GatewayClient.Http.Header
import GatewayClient.Text.Utf8

/-!
# GatewayClient.Http.Request

Requests as they are put together, and as they go out: a body that is said to be coded comes
in chunks, and no more of a body goes out than its headers say.
-/

namespace GatewayClient.Http

/-- The methods in use. -/
inductive Method where
  | get
  | post
deriving DecidableEq

/-- The name of a method. -/
def Method.name : Method → String
  | get => "GET"
  | post => "POST"

/-- A request. -/
structure Request where
  method : Method
  url : String
  headers : List Header
  body : String
deriving DecidableEq

namespace Request

/-- The headers that every request has unless it sets its own. -/
def defaultHeaders : List Header := [("accept", "*/*"), ("user-agent", "ssegw/0.1.0")]

/-- All headers of a request. -/
def allHeaders (r : Request) : List Header :=
  let headers := r.headers ++ defaultHeaders.filter (fun d => !hasHeader r.headers d.1)
  if isCoded headers && !isChunked headers then addChunks headers else headers

/-- The body as a receiver gets it that goes by its stated length alone: nothing if it comes in
chunks, and otherwise as many bytes as a header of the request says. There is none if so many
never come. -/
def bodyByLength? (r : Request) : Option String :=
  let bytes := Text.Utf8.encode r.body
  if isCoded r.headers then some ""
  else match statedLength? r.headers with
    | none => some r.body
    | some n => if n ≤ bytes.length then some (Text.Utf8.lossyText (bytes.take n)) else none

end Request

end GatewayClient.Http
