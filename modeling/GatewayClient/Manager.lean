import GatewayClient.Connection.Flushing
import GatewayClient.Connection.Opening
import GatewayClient.Connection.Receiving
import GatewayClient.Connection.Subscribing

/-!
# GatewayClient.Manager

What all connections share: the host, the settings for new connections, and the registrations
by which each client id belongs to one live connection at most. The steps of connections that
concern what is shared are steps of the manager: connecting, disconnecting and dropping.
-/

namespace GatewayClient

/-- The number of a connection, in the order in which they were made. -/
abbrev ConnectionKey := Nat

/-- A connection, and whether its last handle was given up. A dropped connection has nothing
left to do but to post what is in its outbox. -/
structure Member where
  connection : Connection
  dropped : Bool
deriving DecidableEq

/-- How a new connection is made; whatever is not given is chosen. -/
structure ConnectConfig where
  clientId : Option ClientId
  serverUrl : Option String
  hook : Option SessionHook
deriving DecidableEq

/-- The state of a manager with all its connections. -/
structure Manager where
  host : Host
  settings : Settings
  /-- How many client ids were generated. It is a natural number and never comes round: fewer
  than `2 ^ 64` generated ids are assumed. -/
  generated : Nat
  /-- Which connection a client id belongs to. -/
  registered : List (ClientId × ConnectionKey)
  members : List Member
deriving DecidableEq

/-- How a connect begins: it is over at once, or the gateway has to be asked. -/
inductive ConnectStart where
  | finished (result : Except ClientError Unit)
  | requesting (attempt : ConnectAttempt)

namespace Manager

/-- A manager without connections. -/
def create (host : Host) (settings : Settings) : Manager :=
  { host, settings, generated := 0, registered := [], members := [] }

/-! ## settings and ids -/

/-- Changes the settings for new connections. -/
def configure (m : Manager) (patch : SettingsPatch) : Manager × List Command :=
  let settings := m.settings.apply patch
  ({ m with settings },
    [.log
      { level := .debug, component := .manager, message := "client settings updated"
        fields := [("settings", .text settings.inspect)] }])

/-- Generates a client id. -/
def generate (m : Manager) : Manager × ClientId :=
  ({ m with generated := m.generated + 1 }, ClientId.generated (m.generated + 1))

/-- Makes a connection. It takes over the settings as they are now. -/
def connection (m : Manager) (config : ConnectConfig) : Manager × ConnectionKey :=
  let (m, id) := match config.clientId with
    | some id => (m, id)
    | none => m.generate
  let connection := Connection.create id config.serverUrl config.hook m.settings
  ({ m with members := m.members ++ [⟨connection, false⟩] }, m.members.length)

/-! ## members -/

/-- The state of a connection. -/
def get? (m : Manager) (key : ConnectionKey) : Option Connection :=
  (m.members[key]?).map Member.connection

/-- Whether a connection exists and was not dropped. -/
def isLive (m : Manager) (key : ConnectionKey) : Bool :=
  (m.members[key]?).any (fun member => !member.dropped)

/-- Sets the state of a connection. -/
def set (m : Manager) (key : ConnectionKey) (connection : Connection) : Manager :=
  { m with members := m.members.modify key (fun member => { member with connection }) }

/-- Carries out a step of one connection, if it exists. -/
def step (m : Manager) (key : ConnectionKey) (f : Connection → Connection × List Command) :
    Manager × List Command :=
  match m.get? key with
  | none => (m, [])
  | some connection =>
    let (connection, commands) := f connection
    (m.set key connection, commands)

/-! ## registrations -/

/-- The connection that a client id belongs to. -/
def owner? (m : Manager) (id : ClientId) : Option ConnectionKey := m.registered.lookup id

/-- The live connection that a client id belongs to. -/
def find? (m : Manager) (id : ClientId) : Option ConnectionKey :=
  (m.owner? id).filter m.isLive

/-- Whether a client id belongs to a live connection. -/
def isRegistered (m : Manager) (id : ClientId) : Bool := (m.find? id).isSome

/-- The number of live connections that are registered. -/
def liveCount (m : Manager) : Nat := m.registered.countP (fun r => m.isLive r.2)

/-- A log entry about a registration. -/
def entry (level : Log.Level) (message : String) (id : ClientId)
    (more : List (String × Log.Datum)) : Command :=
  .log { level, component := .manager, message, fields := ("client_id", .text id.name) :: more }

/-- Registers a connection under its client id, unless the id belongs to another live one. -/
def register (m : Manager) (id : ClientId) (key : ConnectionKey) :
    Manager × List Command × Except ClientError Unit :=
  if (m.find? id).any (· != key) then
    (m, [entry .error
        "a connection with this client id already exists; disconnect it first" id []],
      .error (.alreadyConnected id))
  else
    let m := { m with registered := (id, key) :: m.registered.filter (fun r => r.1 != id) }
    (m, [entry .info "connection registered" id [("live", .number m.registered.length)]], .ok ())

/-- Gives up the registration of a connection, if its client id still belongs to it. -/
def unregister (m : Manager) (id : ClientId) (key : ConnectionKey) : Manager × List Command :=
  if m.owner? id = some key then
    let m := { m with registered := m.registered.filter (fun r => r.1 != id) }
    (m, [entry .debug "connection unregistered" id [("live", .number m.registered.length)]])
  else (m, [])

/-! ## connecting -/

/-- Begins to connect, up to the first request. -/
def beginConnect (m : Manager) (key : ConnectionKey) (pushes : Bool) (moment : Moment) :
    Manager × List Command × ConnectStart :=
  match m.get? key with
  | none => (m, [], .finished (.ok ()))
  | some c =>
    if c.isOpening then (m, [c.alreadyConnected], .finished (.ok ()))
    else match m.register c.clientId key with
      | (m, log, .error e) => (m, log, .finished (.error e))
      | (m, log, .ok ()) =>
        let (host, resolved) := m.host.resolveTab c.clientId moment
        let minted := if resolved.minted then c.mintedTab resolved.tab else []
        let (c, commands, attempt) := c.beginConnect host resolved.tab pushes
        ({ m with host }.set key c, log ++ minted ++ commands,
          attempt.elim (.finished (.ok ())) .requesting)

/-- Ends a connect with what the requests gave: the number of a push stream, or an error. -/
def endConnect (m : Manager) (key : ConnectionKey) (attempt : ConnectAttempt)
    (opened : Except TransportError StreamId) : Manager × List Command × Except ClientError Unit :=
  match m.get? key with
  | none => (m, [], .ok ())
  | some c =>
    if c.isOvertaken attempt then (m, c.discardAttempt, .ok ())
    else match opened with
      | .ok id =>
        let (c, commands) := c.openStream attempt id
        (m.set key c, commands, .ok ())
      | .error e =>
        let (m, released) := (m.set key c.failConnect).unregister c.clientId key
        (m, released ++ [c.connectFailed attempt e], .error (.transport e))

/-- Disconnects a connection, and gives up its registration. -/
def disconnect (m : Manager) (key : ConnectionKey) : Manager × List Command :=
  match m.get? key with
  | none => (m, [])
  | some c =>
    let (c, commands) := c.disconnect
    let (m, released) := (m.set key c).unregister c.clientId key
    (m, commands ++ released)

/-- Drops a connection: its last handle was given up. -/
def drop (m : Manager) (key : ConnectionKey) : Manager × List Command :=
  match m.members[key]? with
  | none => (m, [])
  | some member =>
    if member.dropped then (m, [])
    else
      let (c, commands) := member.connection.abandon
      let m := { m with members := m.members.set key ⟨c, true⟩ }
      let (m, released) := m.unregister c.clientId key
      (m, commands ++ released)

/-! ## frames and flushes -/

/-- A connection receives a frame, unless it was dropped. -/
def receive (m : Manager) (key : ConnectionKey) (frame : EventStream.Frame) :
    Manager × List Command :=
  if m.isLive key then m.step key (fun c => c.receive frame) else (m, [])

/-- The push stream of a connection ends. -/
def streamEnded (m : Manager) (key : ConnectionKey) : Manager × List Command :=
  if m.isLive key then m.step key (fun c => (c, c.streamEnded)) else (m, [])

/-- A flush of a connection runs, unless the connection was dropped. -/
def flush (m : Manager) (key : ConnectionKey) (generation : UInt64) (pushes : Bool) :
    Manager × List Command :=
  if m.isLive key then m.step key (fun c => c.flush generation pushes) else (m, [])

/-- The manager in diagnostics. -/
def inspect (m : Manager) : String :=
  "ConnectionManager \x7b settings: " ++ m.settings.inspect ++
  ", connections: " ++ Text.decimal m.liveCount ++ ", .. \x7d"

end Manager

end GatewayClient
