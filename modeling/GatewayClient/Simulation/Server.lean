import GatewayClient.Http.Transport
import GatewayClient.Http.Url

/-!
# GatewayClient.Simulation.Server

A server that answers the requests that reach it one after the other as it was told to, and
says that there is no content when it was told nothing more. The calls of the HTTP transport
are carried out against it.
-/

namespace GatewayClient.Simulation

open Http (Request Response)

/-- The authority under which a server is reached, the answers that it has left, and the
requests that have reached it. -/
structure Server where
  authority : String
  answers : List Http.Answer
  requests : List Request

namespace Server

/-- Whether requests for a URL reach the server. -/
def isReached (s : Server) (url : String) : Bool :=
  (Http.Url.parse? url).any (fun u => u.scheme == "http" && u.authority == s.authority)

/-- The answers in their order, as far as they matter: nothing goes on after the one that says
that there is no content. -/
def outlook (s : Server) : List Http.Answer := s.answers ++ [.response Response.empty]

/-- Takes note of a request that has used up an answer. -/
def note (s : Server) (r : Request) : Server :=
  { s with answers := s.answers.drop 1, requests := s.requests ++ [r] }

/-- Makes a request, if there is one. The server goes by the length that it states. -/
def send (s : Server) (r : Option Request) : Server × Http.Answer :=
  match r with
  | none => (s, .lost)
  | some r =>
    match r.bodyByLength? with
    | none => (s, .lost)
    | some body =>
      if s.isReached r.url then (s.note { r with body }, s.outlook.headD .lost) else (s, .lost)

/-- Asks for a dispatcher. -/
def connect (s : Server) (url : String) : Server × Except TransportError ConnectReply :=
  let (s, answer) := s.send (Http.connectRequest url)
  (s, Http.readConnect answer)

/-- Posts a batch. -/
def configure (s : Server) (url : String) (request : ConfigurationRequest) (session : Session) :
    Server × Except TransportError Unit :=
  let (s, answer) := s.send (Http.configureRequest? url request session)
  (s, Http.readConfigure answer)

/-! ## push streams -/

/-- What has come of a push stream: its frames, what was logged, and whether it has ended. -/
structure Listening where
  frames : List EventStream.Frame
  log : List Log.Entry
  ended : Bool

/-- What happens until a number of frames has come in, and whether they all have. -/
def untilFrames : Nat → List Http.Happening → List Http.Happening × Bool
  | 0, _ => ([], true)
  | _, [] => ([], false)
  | n + 1, h :: rest =>
    let left := match h with
      | .frame _ => n
      | _ => n + 1
    let (more, all) := untilFrames left rest
    (h :: more, all)

/-- Listens on a push stream until a number of frames has come in, if one is given, or until
it ends. -/
def listen (s : Server) (url : String) (reconnectDelay : UInt64) (take : Option Nat) :
    Server × Except TransportError Listening :=
  let (s, answer) := s.send (Http.listenRequest? url none)
  match Http.checked answer with
  | .error e => (s, .error e)
  | .ok first =>
    let all := Http.listen url reconnectDelay first s.outlook
    let (happened, stopped) := take.elim (all, false) (fun n => untilFrames n all)
    let frames := happened.filterMap (fun
      | .frame f => some f
      | _ => none)
    let log := happened.filterMap (fun
      | .log entry => some entry
      | _ => none)
    let requests := happened.filterMap (fun
      | .request r => some r
      | _ => none)
    (requests.foldl note s, .ok { frames, log, ended := !stopped })

end Server

end GatewayClient.Simulation
