import GatewayClient.Connection.Basic
import GatewayClient.Endpoint
import GatewayClient.Host

/-!
# GatewayClient.Connection.Opening

Opening and closing the push stream. A connect is two requests with steps before, between and
after them, and a disconnect may come in between: it begins a new epoch, and a connect that
began in an older one is discarded when it ends.
-/

namespace GatewayClient

/-- A connect that waits for the gateway: what it asks for, and the epoch in which it began. -/
structure ConnectAttempt where
  server : String
  tab : TabId
  epoch : Nat
deriving DecidableEq

namespace ConnectAttempt

/-- The URL of the first request. -/
def connectUrl (a : ConnectAttempt) : String := Endpoint.connectUrl a.server a.tab

/-- The URL of the second request. -/
def listenUrl (a : ConnectAttempt) (jsessionid : Option String) : String :=
  Endpoint.listenUrl a.server a.tab jsessionid

end ConnectAttempt

namespace Connection

/-- The base URL of the gateway: the one that the caller gave, or else that of the settings, or
else that of the host. Only the first of them that is there is looked at. -/
def resolveServer (c : Connection) (host : Host) : Option String :=
  ((c.configuredUrl.or c.settings.serverUrl).or host.rootUrl).bind Endpoint.normalize?

/-- Whether the connection has a push stream or is about to get one. -/
def isOpening (c : Connection) : Bool := c.isConnected || c.connecting

/-- The command to log that a connect has nothing to do. -/
def alreadyConnected (c : Connection) : Command := c.log .debug "already connected" []

/-- The commands that tell of a tab id that was minted. -/
def mintedTab (c : Connection) (tab : TabId) : List Command :=
  [ .stored (TabId.storageKey c.clientId) tab.name,
    c.log .debug "minted tab client id" [("tab_client_id", .text tab.name)] ]

/-- Begins a connect, after the client id was registered and the tab id found. Without a server
or without push streams the connection stays inert, and there is nothing to wait for. -/
def beginConnect (c : Connection) (host : Host) (tab : TabId) (pushes : Bool) :
    Connection × List Command × Option ConnectAttempt :=
  let c := { c with tab := some tab }
  match c.resolveServer host with
  | none =>
    (c, [c.log .warn "no gateway URL configured or discoverable; connection stays inert" []], none)
  | some server =>
    let c := { c with serverUrl := some server }
    if pushes then
      ({ c with connecting := true }, [], some ⟨server, tab, c.epoch⟩)
    else
      (c, [c.log .warn "host does not support push streams; connection stays inert" []], none)

/-- The session id to pass on from the answer to the first request. -/
def passedSession (c : Connection) (jsessionid : Option String) : Option String × List Command :=
  if !c.settings.sendSessionId then (none, [])
  else match jsessionid with
    | none => (none, [c.log .debug "gateway returned no session id to propagate" []])
    | some id => (some id, [])

/-- Whether a connect was overtaken by a disconnect. -/
def isOvertaken (c : Connection) (a : ConnectAttempt) : Bool := c.epoch != a.epoch

/-- Ends a connect that was overtaken by a disconnect. The connection does not change. -/
def discardAttempt (c : Connection) : List Command :=
  [c.log .debug "disconnected while connecting; discarding push stream" []]

/-- Ends a connect that opened a push stream: the channels that waited are attached. -/
def openStream (c : Connection) (a : ConnectAttempt) (id : StreamId) :
    Connection × List Command :=
  let (registry, waiting) := c.registry.takeQueue
  let stream := waiting.foldl PushStream.attach ⟨id, []⟩
  ({ c with connecting := false, registry, stream := some stream },
    [ .startReader id,
      c.log .info "connected to gateway"
        [("tab_client_id", .text a.tab.name), ("server_url", .text a.server)] ])

/-- Ends a connect that failed. -/
def failConnect (c : Connection) : Connection := { c with connecting := false }

/-- The command to log that a connect failed. -/
def connectFailed (c : Connection) (a : ConnectAttempt) (e : TransportError) : Command :=
  c.log .error "failed to connect to gateway"
    [("server_url", .text a.server), ("error", .text e.message)]

/-- Closes the push stream, and overtakes a connect that is under way. -/
def disconnect (c : Connection) : Connection × List Command :=
  let c := { c with epoch := c.epoch + 1, connecting := false }
  match c.stream with
  | none => (c, [])
  | some stream =>
    let (registry, drained) := c.registry.drainListeners
    ({ c with registry, stream := none },
      [ .stopReader stream.id,
        c.log .info "disconnected from gateway" [("listeners", .number drained.length)] ])

/-- Gives up the connection with its push stream and its armed flush. What is in the outbox
is still posted. -/
def abandon (c : Connection) : Connection × List Command :=
  let stopped := c.stream.toList.map (fun s => .stopReader s.id)
  let (c, cancelled) := { c with stream := none }.cancelFlush
  (c, stopped ++ cancelled)

end Connection

end GatewayClient
