import GatewayClient.CommandLine.Listener
import GatewayClient.Simulation.Server

/-!
# GatewayClient.Simulation.Rehearsal

One run of the listener of the command line against a server that answers as it was told to.
The push stream is told in full: the session is announced when all subscriptions were made,
every batch that was posted is acknowledged, then come the bytes of the stream, and at last an
event that satisfies the first subscription.
-/

namespace GatewayClient.Simulation

open CommandLine (Listener ListenError Options)

/-- What the push stream of a run holds: the data of the frame that announces the session, and
the bytes behind the acknowledgments. -/
structure Programme where
  session : String
  bytes : List UInt8

/-- A run: the listener, once it could be made, the server, the batches that were posted, and
the entries that were logged before there was a listener. -/
structure Rehearsal where
  listener : Option Listener
  server : Server
  posted : List OutgoingBatch
  loading : List Log.Entry

namespace Rehearsal

/-- The lines that were printed. -/
def printed (r : Rehearsal) : List String := r.listener.elim [] Listener.printed

/-- Everything that was logged. -/
def log (r : Rehearsal) : List Log.Entry := r.loading ++ r.listener.elim [] Listener.log

/-! ## connecting -/

/-- Makes the two requests of a connect. -/
def requestStream (l : Listener) (s : Server) (a : ConnectAttempt) :
    Listener × Server × Except TransportError StreamId :=
  match s.connect a.connectUrl with
  | (s, .error e) => (l, s, .error e)
  | (s, .ok reply) =>
    let (l, jsessionid) := l.passedSession reply.jsessionid
    let (s, answer) := s.send (Http.listenRequest? (a.listenUrl jsessionid) none)
    (l, s, (Http.checked answer).map (fun _ => 0))

/-- Connects a listener. -/
def connect (l : Listener) (s : Server) : Listener × Server × Except ListenError Unit :=
  match l.beginConnect with
  | (l, .finished (.error e)) => (l, s, .error (.connect e))
  | (l, .finished (.ok ())) => (l, s, if l.isConnected then .ok () else .error .inert)
  | (l, .requesting attempt) =>
    let (l, s, opened) := requestStream l s attempt
    let (l, result) := l.endConnect attempt opened
    (l, s, result.bind (fun _ => if l.isConnected then .ok () else .error .inert))

/-! ## posting -/

/-- Posts up to `n` batches. -/
def post (l : Listener) (s : Server) : (n : Nat) → Listener × Server × List OutgoingBatch
  | 0 => (l, s, [])
  | n + 1 =>
    match l.beginPost? with
    | none => (l, s, [])
    | some (l, batch) =>
      let (s, result) := s.configure batch.url batch.request batch.session
      let (l, s, more) := post (l.endPost result) s n
      (l, s, batch :: more)

/-- Posts all batches that wait. -/
def postAll (l : Listener) (s : Server) : Listener × Server × List OutgoingBatch :=
  post l s (l.connection?.elim 0 (fun c => c.outbox.waiting.length))

/-! ## the push stream -/

/-- The frame that announces the session. -/
def sessionFrame (data : String) : EventStream.Frame := ⟨Connection.openFrame, data, none⟩

/-- The frame that acknowledges a batch. -/
def ackFrame (batch : OutgoingBatch) : EventStream.Frame :=
  ⟨Connection.configureFrame,
    (Json.Value.object [("batchId", .number (.natural (UInt64.ofNat batch.batchId)))]).text, none⟩

/-- The frame of the last event: it has the fields that the first subscription asks for. -/
def lastFrame? (posted : List OutgoingBatch) : Option EventStream.Frame := do
  let config ← (posted.flatMap (fun batch => batch.request.subscribe)).head?
  return ⟨← config.channel?, config.text, none⟩

/-- Receives a frame without printing anything. -/
def receiveSilently (l : Listener) (frame : EventStream.Frame) : Listener :=
  { l.receive frame with printed := l.printed }

/-- Receives the frames of the stream behind the acknowledgments of the posted batches, and
ends with the last event, which is not printed. -/
def attend (l : Listener) (posted : List OutgoingBatch) (bytes : List UInt8) : Listener :=
  let frames := posted.map ackFrame ++ Http.framesOf (EventStream.decode bytes)
  let l := frames.foldl Listener.receive l
  ((lastFrame? posted).elim l (receiveSilently l)).shutDown

/-! ## the run -/

/-- Runs a listener that was not connected yet. -/
def listen (l : Listener) (s : Server) (o : Options) (p : Programme) :
    Listener × Server × List OutgoingBatch × Except ListenError Unit :=
  match connect l s with
  | (l, s, .error e) => (l.drop, s, [], .error e)
  | (l, s, .ok ()) =>
    match l.subscribeAll o.filter? o.channels with
    | (l, .error e) => (l.drop, s, [], .error e)
    | (l, .ok ()) =>
      let (l, s, posted) := postAll (l.receive (sessionFrame p.session)).flush s
      (attend l posted p.bytes, s, posted, .ok ())

/-- Runs the listener as the arguments ask for it, with the files and variables that there
are. -/
def run (o : Options) (file : String → Settings.File) (env : Environment) (s : Server)
    (p : Programme) : Rehearsal × Except ListenError Unit :=
  match o.listenSettings file env with
  | (.error e, loading) => (⟨none, s, [], loading⟩, .error e)
  | (.ok settings, loading) =>
    let (l, s, posted, result) := listen (Listener.create settings o.clientId) s o p
    (⟨some l, s, posted, loading⟩, result)

end Rehearsal

end GatewayClient.Simulation
