import GatewayClient.Json.Printer
import GatewayClient.Text.Numeral

/-!
# GatewayClient.ClientId

Identities of clients. A client id names a connection towards its caller. Where the host
keeps storage for each tab, the id sent to the gateway is a tab id: the client id with the
time and a random token appended, stored under a key of its own, so that a reloaded tab
finds its dispatcher again and two tabs get two.
-/

namespace GatewayClient

/-- The identity of a connection towards its caller. -/
structure ClientId where
  name : String
deriving DecidableEq

/-- The identity that is sent to the gateway. -/
structure TabId where
  name : String
deriving DecidableEq

/-- What distinguishes two mints: the milliseconds since 1970 and a random token. -/
structure Moment where
  millis : Nat
  token : UInt32

namespace TabId

/-- The tab id of a client without tab storage: its client id. -/
def ofClient (id : ClientId) : TabId := ⟨id.name⟩

/-- The prefix of the keys under which tab ids are stored. -/
def storagePrefix : String := "jenkins-sse-gateway-client-"

/-- The key under which the tab id of a client is stored. -/
def storageKey (id : ClientId) : String := storagePrefix ++ id.name

/-- The end of a minted id: the time in decimal and the token in base 36, each after a
dash. -/
def mintedSuffix (m : Moment) : String :=
  "-" ++ Text.decimal m.millis ++ "-" ++ String.ofList (Text.numeral 36 m.token.toNat)

/-- A new tab id for a client. -/
def mint (id : ClientId) (m : Moment) : TabId := ⟨id.name ++ mintedSuffix m⟩

end TabId

/-- The prefix of client ids that were generated for connections without one. -/
def ClientId.generatedPrefix : String := "sse-client-"

/-- The `n`-th generated client id. -/
def ClientId.generated (n : Nat) : ClientId := ⟨generatedPrefix ++ Text.decimal n⟩

/-- The client id in diagnostics. -/
def ClientId.inspect (id : ClientId) : String := "ClientId(" ++ Text.quoted id.name ++ ")"

end GatewayClient
