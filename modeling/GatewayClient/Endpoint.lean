import GatewayClient.ClientId
import GatewayClient.Text.Basic
import GatewayClient.Text.Percent

/-!
# GatewayClient.Endpoint

The URLs of the gateway: where to ask for a dispatcher, where to listen for its frames, and
where to post its configuration. All of them lie under the base URL of the server.
-/

namespace GatewayClient.Endpoint

/-- The path of the gateway on its server. -/
def gatewayPath : String := "sse-gateway"

/-- Drops the slashes at the back. -/
def dropSlashes (cs : List Char) : List Char := (cs.reverse.dropWhile (· == '/')).reverse

/-- A base URL without the blanks around it and the slashes at its end, unless nothing is left
of it. -/
def normalize? (url : String) : Option String :=
  let base := dropSlashes (Text.trim url.toList)
  if base.isEmpty then none else some (String.ofList base)

/-- Where a client asks for its dispatcher. -/
def connectUrl (server : String) (tab : TabId) : String :=
  server ++ "/" ++ gatewayPath ++ "/connect?clientId=" ++ Text.Percent.component tab.name

/-- The end of a listen URL that names the session. -/
def sessionSuffix : Option String → String
  | none => ""
  | some id => ";jsessionid=" ++ id

/-- Where a client listens for its frames. -/
def listenUrl (server : String) (tab : TabId) (jsessionid : Option String) : String :=
  server ++ "/" ++ gatewayPath ++ "/listen/" ++ Text.Percent.component tab.name ++
    sessionSuffix jsessionid

/-- Where a batch of configuration changes is posted. -/
def configureUrl (server : String) (batchId : Nat) : String :=
  server ++ "/" ++ gatewayPath ++ "/configure?batchId=" ++ Text.decimal batchId

end GatewayClient.Endpoint
