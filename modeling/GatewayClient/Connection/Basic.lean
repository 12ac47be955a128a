import GatewayClient.Configuration.Batcher
import GatewayClient.Configuration.Outbox
import GatewayClient.DebounceTimer
import GatewayClient.Settings.Basic
import GatewayClient.Subscription.Registry

/-!
# GatewayClient.Connection.Basic

The state of a connection, one logical client of the gateway. Every operation on it is one
step: it gives the next state, and commands for the surroundings to carry out in their order.
Callbacks are among the commands, so that they run when the step is over and may begin steps
of their own.
-/

namespace GatewayClient

/-- The number of a push stream and of the task that reads it. -/
abbrev StreamId := Nat

/-- An open push stream: which one it is, and the channels that are attached to it. -/
structure PushStream where
  id : StreamId
  attached : List String
deriving DecidableEq

/-- Attaches a channel. -/
def PushStream.attach (s : PushStream) (channel : String) : PushStream :=
  if s.attached.contains channel then s else { s with attached := s.attached ++ [channel] }

/-- The state of a connection. -/
structure Connection where
  /-- The identity towards the caller. -/
  clientId : ClientId
  /-- The base URL that the caller gave. -/
  configuredUrl : Option String
  /-- The settings at the time when the connection was made. -/
  settings : Settings
  /-- The identity towards the gateway, as the last connect found it. -/
  tab : Option TabId
  /-- The base URL in use, as the last connect found it. -/
  serverUrl : Option String
  /-- The open push stream. -/
  stream : Option PushStream
  /-- Whether a connect is under way that may still open a stream. -/
  connecting : Bool
  /-- The number of disconnects so far. It is a natural number and never comes round: fewer
  than `2 ^ 64` disconnects of one connection are assumed. -/
  epoch : Nat
  /-- The session that was announced last. -/
  session : Option Session
  /-- The hook for the first session, until it is called. -/
  hook : Option SessionHook
  /-- The live subscriptions and channel listeners. -/
  registry : Registry
  /-- The changes that were not sent yet. -/
  batcher : Batcher
  /-- The timer that puts off flushes. -/
  timer : DebounceTimer
  /-- The batches on their way. -/
  outbox : Outbox
deriving DecidableEq

/-- What a step asks of the surroundings. -/
inductive Command where
  /-- Write a log entry. -/
  | log (entry : Log.Entry)
  /-- Run a flush of a generation after so many milliseconds. -/
  | armFlush (delay generation : UInt64)
  /-- Keep the flush of a generation from running, unless it has begun. -/
  | cancelFlush (generation : UInt64)
  /-- Read the frames of a push stream. -/
  | startReader (stream : StreamId)
  /-- Stop reading a push stream. -/
  | stopReader (stream : StreamId)
  /-- Look after the outbox: a batch was put in. -/
  | wakeSender
  /-- Reload the page, where the host can. -/
  | reload
  /-- Record that a tab id was stored. -/
  | stored (key value : String)
  /-- Make a call, on its own. -/
  | call (i : Invocation)

namespace Connection

/-- A connection as it is made. -/
def create (id : ClientId) (url : Option String) (hook : Option SessionHook)
    (settings : Settings) : Connection :=
  { clientId := id
    configuredUrl := url
    settings
    tab := none
    serverUrl := none
    stream := none
    connecting := false
    epoch := 0
    session := none
    hook
    registry := Registry.empty
    batcher := Batcher.start
    timer := DebounceTimer.start
    outbox := Outbox.empty }

/-- Whether a push stream is open. -/
def isConnected (c : Connection) : Bool := c.stream.isSome

/-- Whether a channel is attached to the open push stream. -/
def isAttached (c : Connection) (channel : String) : Bool :=
  c.stream.any (fun s => s.attached.contains channel)

/-- A log entry about the connection. -/
def entry (c : Connection) (level : Log.Level) (message : String)
    (fields : List (String × Log.Datum)) : Log.Entry :=
  { level, component := .connection, message
    fields := ("client_id", .text c.clientId.name) :: fields }

/-- The command to log something about the connection. -/
def log (c : Connection) (level : Log.Level) (message : String)
    (fields : List (String × Log.Datum)) : Command :=
  .log (c.entry level message fields)

/-- The connection in diagnostics. -/
def inspect (c : Connection) : String :=
  "Connection \x7b client_id: " ++ c.clientId.inspect ++
  ", connected: " ++ (if c.isConnected then "true" else "false") ++
  ", subscriptions: " ++ Text.decimal c.registry.subscriptions.length ++
  ", batcher: " ++ c.batcher.inspect ++ ", .. \x7d"

/-! ## the flush timer -/

/-- Cancels the armed flush. -/
def cancelFlush (c : Connection) : Connection × List Command :=
  let (timer, cancelled) := c.timer.cancel
  ({ c with timer }, cancelled.toList.map .cancelFlush)

/-- Arms a flush in the place of the one before. -/
def scheduleFlush (c : Connection) (delay : UInt64) : Connection × List Command :=
  let (timer, replaced) := c.timer.arm
  ({ c with timer }, replaced.toList.map .cancelFlush ++ [.armFlush delay timer.generation])

end Connection

end GatewayClient
