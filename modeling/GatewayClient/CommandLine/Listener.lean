import GatewayClient.CommandLine.Arguments
import GatewayClient.EventStream
import GatewayClient.Manager
import GatewayClient.Settings.Layers

/-!
# GatewayClient.CommandLine.Listener

The listener of the command line: one connection whose subscriptions, one for each channel that
was named, share one callback, and the callback prints each event as a line. The listener
carries out what its connection commands as far as that is a matter of the program: it prints,
it logs, and it keeps track of the flush that is armed. Requests are left to whoever runs it.
-/

namespace GatewayClient.CommandLine

/-! ## failures -/

/-- Why the listener gave up. -/
inductive ListenError where
  | settings (path : String) (e : SettingsError)
  | noServer
  | connect (e : ClientError)
  | inert
  | subscribe (channel : String) (e : ClientError)

namespace ListenError

/-- What the listener was about to do when it gave up. -/
def message : ListenError → String
  | settings path _ => "failed to load settings from " ++ path
  | noServer => "no gateway server URL; pass --server or set SSEGW_SERVER_URL"
  | connect _ => "failed to connect to gateway"
  | inert => "connection is inert; see the warnings above"
  | subscribe channel _ => "failed to subscribe to '" ++ channel ++ "'"

/-- The error behind it, if there is one. -/
def cause? : ListenError → Option String
  | settings _ e => some e.message
  | noServer => none
  | connect e => some e.message
  | inert => none
  | subscribe _ e => some e.message

end ListenError

/-! ## settings -/

namespace Options

/-- The settings of a file under the environment, or else the headless preset under the
environment. -/
def loadSettings (o : Options) (file : String → Settings.File) (env : Environment) :
    Except ListenError Settings × List Log.Entry :=
  match o.settings with
  | some path =>
    let (result, log) := Settings.load path (file path) env
    (result.mapError (.settings path), log)
  | none =>
    let (s, log) := Settings.override env Settings.headless
    (.ok s, log)

/-- The settings that the listener runs with. They need a server. -/
def listenSettings (o : Options) (file : String → Settings.File) (env : Environment) :
    Except ListenError Settings × List Log.Entry :=
  let (result, log) := o.loadSettings file env
  (result.bind (fun s =>
    let s := { s with serverUrl := o.server.or s.serverUrl }
    if s.serverUrl.isNone then .error .noServer else .ok s), log)

/-- The filter of every subscription, if there is one. Of several values for one key the last
one counts. -/
def filter? (o : Options) : Option Filter :=
  if o.filters.isEmpty then none
  else some (Json.Fields.ofList (o.filters.map (fun (key, value) => (key, .string value))))

end Options

/-! ## the listener -/

/-- A listener: the manager of its connection, the flush that is armed, the lines that were
printed and the entries that were logged. -/
structure Listener where
  manager : Manager
  key : ConnectionKey
  armed : Option UInt64
  printed : List String
  log : List Log.Entry

namespace Listener

/-- The callback that all subscriptions share. -/
def printer : Callback := ⟨"printer"⟩

/-- The hook for the first session. -/
def sessionHook : SessionHook := ⟨"session"⟩

/-- A listener before it connects. -/
def create (settings : Settings) (clientId : String) : Listener :=
  let (manager, key) := (Manager.create Host.headless settings).connection
    { clientId := some ⟨clientId⟩, serverUrl := none, hook := some sessionHook }
  { manager, key, armed := none, printed := [], log := [] }

/-- The state of the connection. -/
def connection? (l : Listener) : Option Connection := l.manager.get? l.key

/-- Whether the push stream is open. -/
def isConnected (l : Listener) : Bool := l.connection?.any Connection.isConnected

/-! ## commands -/

/-- An entry of the listener itself. -/
def entry (message : String) (fields : List (String × Log.Datum)) : Log.Entry :=
  { level := .info, component := .commandLine, message, fields }

/-- Writes a log entry. -/
def write (l : Listener) (e : Log.Entry) : Listener := { l with log := l.log ++ [e] }

/-- Makes a call: an event is printed, everything else is logged. -/
def invoke (l : Listener) : Invocation → Listener
  | .event _ e => { l with printed := l.printed ++ [e.text] }
  | .acknowledged listener => l.write (entry "subscribed" [("channel", .text listener.label)])
  | .session _ s =>
    l.write (entry "gateway session established"
      [("dispatcher_id", .text (Text.quotedOption s.dispatcherId))])

/-- Carries out a command. -/
def obey (l : Listener) : Command → Listener
  | .log e => l.write e
  | .armFlush _ generation => { l with armed := some generation }
  | .cancelFlush generation =>
    { l with armed := l.armed.filter (fun armed => armed != generation) }
  | .call i => l.invoke i
  | .startReader _ | .stopReader _ | .wakeSender | .reload | .stored _ _ => l

/-- Takes over a manager after a step, and carries out the commands of the step. -/
def follow (l : Listener) (result : Manager × List Command) : Listener :=
  result.2.foldl obey { l with manager := result.1 }

/-! ## steps -/

/-- Begins to connect. The host keeps no tab storage, so that no tab id is minted and the time
does not matter. -/
def beginConnect (l : Listener) : Listener × ConnectStart :=
  let (manager, commands, start) := l.manager.beginConnect l.key true ⟨0, 0⟩
  (l.follow (manager, commands), start)

/-- The session id to pass on from the answer to the first request. -/
def passedSession (l : Listener) (jsessionid : Option String) : Listener × Option String :=
  match l.connection? with
  | none => (l, none)
  | some c =>
    let (passed, commands) := c.passedSession jsessionid
    (l.follow (l.manager, commands), passed)

/-- Ends the connect with what the requests gave. -/
def endConnect (l : Listener) (attempt : ConnectAttempt)
    (opened : Except TransportError StreamId) : Listener × Except ListenError Unit :=
  let (manager, commands, result) := l.manager.endConnect l.key attempt opened
  (l.follow (manager, commands), result.mapError .connect)

/-- The request that subscribes to a channel. -/
def request (filter : Option Filter) (channel : String) : SubscribeRequest :=
  { channel, filter, callback := printer, onSubscribed := some ⟨channel⟩ }

/-- Subscribes to a channel. -/
def subscribe (l : Listener) (filter : Option Filter) (channel : String) :
    Listener × Except ListenError Unit :=
  match l.connection? with
  | none => (l, .ok ())
  | some c =>
    let (c, commands, result) := c.subscribe (request filter channel)
    (l.follow (l.manager.set l.key c, commands), result.mapError (.subscribe channel))

/-- Subscribes to channels one after the other, up to the first one that is refused. -/
def subscribeAll (l : Listener) (filter : Option Filter) :
    List String → Listener × Except ListenError Unit
  | [] => (l, .ok ())
  | channel :: rest =>
    match l.subscribe filter channel with
    | (l, .ok ()) => l.subscribeAll filter rest
    | (l, .error e) => (l, .error e)

/-- Receives a frame. -/
def receive (l : Listener) (frame : EventStream.Frame) : Listener :=
  l.follow (l.manager.receive l.key frame)

/-- Runs the flush that is armed, if there is one. -/
def flush (l : Listener) : Listener :=
  match l.armed with
  | none => l
  | some generation => { l with armed := none }.follow (l.manager.flush l.key generation true)

/-- Begins to post the next batch, if there is one. -/
def beginPost? (l : Listener) : Option (Listener × OutgoingBatch) := do
  let c ← l.connection?
  let (c, batch) ← c.beginPost?
  return ({ l with manager := l.manager.set l.key c }, batch)

/-- Ends the posting of a batch. -/
def endPost (l : Listener) (result : Except TransportError Unit) : Listener :=
  l.follow (l.manager.step l.key (fun c => c.endPost result))

/-- Gives up the connection. -/
def drop (l : Listener) : Listener := l.follow (l.manager.drop l.key)

/-- Ends on request. -/
def shutDown (l : Listener) : Listener :=
  let l := l.write (entry "shutting down" [])
  (l.follow (l.manager.disconnect l.key)).drop

end Listener

end GatewayClient.CommandLine
