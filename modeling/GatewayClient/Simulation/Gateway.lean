import GatewayClient.Error
import GatewayClient.EventStream

/-!
# GatewayClient.Simulation.Gateway

A gateway inside the simulation. It answers each kind of request as it is told to, or makes it
wait, and keeps a push stream for each listen request that succeeded.
-/

namespace GatewayClient.Simulation

/-- How posting a batch fails: with an error, or in a way that takes the sender with it. -/
inductive PostFailure where
  | error (e : TransportError)
  | crash

/-- What the gateway is told: whether the transport can push, the session id in its answers,
which requests fail, and which ones wait. -/
structure Behaviour where
  pushes : Bool
  jsessionid : Option String
  failConnect : Option TransportError
  failListen : Option TransportError
  failConfigure : Option PostFailure
  holdConnect : Bool
  holdListen : Bool
  holdConfigure : Bool

/-- A gateway that answers every request. -/
def Behaviour.obliging : Behaviour :=
  { pushes := true, jsessionid := none, failConnect := none, failListen := none
    failConfigure := none, holdConnect := false, holdListen := false, holdConfigure := false }

/-- A push stream: the frames that were not read yet, whether it has an end, whether someone
still holds it, the connection whose reader does, and whether that reader was told to stop. -/
structure Stream where
  frames : List EventStream.Frame
  ended : Bool
  held : Bool
  reader : Option Nat
  stopping : Bool

/-- A stream as it is opened. -/
def Stream.fresh : Stream :=
  { frames := [], ended := false, held := true, reader := none, stopping := false }

end GatewayClient.Simulation
