import GatewayClient.Configuration
import GatewayClient.Error
import GatewayClient.EventStream
import GatewayClient.Http.Request
import GatewayClient.Http.Response
import GatewayClient.Settings.Basic

/-!
# GatewayClient.Http.Transport

The requests to the gateway over HTTP, and what is made of their answers. A push stream that
drops is opened again after a delay, until the gateway refuses it or says that there is no
content: `listen` gives everything that happens on the way, in its order.
-/

namespace GatewayClient.Http

open EventStream (Frame Item)

/-! ## requests -/

/-- The request for a dispatcher. -/
def connectRequest (url : String) : Request :=
  { method := .get, url, headers := [], body := "" }

/-- The request that posts a batch for a session. The session's cookie and its crumb become
headers; there is no request if they cannot. -/
def configureRequest? (url : String) (request : ConfigurationRequest) (session : Session) :
    Option Request := do
  let cookie ← match session.cookie? with
    | none => some []
    | some value => (header? "cookie" value).map (fun h => [h])
  let crumb ← match session.crumbHeader? with
    | none => some []
    | some (name, value) => (header? name value).map (fun h => [h])
  return {
    method := .post
    url
    headers := [("content-type", "application/json")] ++ cookie ++ crumb
    body := request.text }

/-- The request for a push stream, behind the frame with an id if there was one. There is no
request if the id cannot be a header. -/
def listenRequest? (url : String) (lastId : Option String) : Option Request := do
  let resume ← match lastId with
    | none => some []
    | some id => (header? "last-event-id" id).map (fun h => [h])
  return {
    method := .get
    url
    headers := [("accept", "text/event-stream"), ("cache-control", "no-cache")] ++ resume
    body := "" }

/-! ## answers -/

/-- The response that succeeded. The body of an error that breaks off is not shown. -/
def checked : Answer → Except TransportError Response
  | .lost => .error .http
  | .response first =>
    match first.final? with
    | none => .error .http
    | some r =>
      if r.isSuccess then .ok r
      else .error (.status r.status (if r.broken then "" else Text.Utf8.lossyText r.body))

/-- What is made of the answer to a request for a dispatcher. A blank body is an answer that
says nothing. -/
def readConnect (answer : Answer) : Except TransportError ConnectReply := do
  let r ← checked answer
  if r.broken then .error .http
  else
    let text := Text.Utf8.lossyText r.body
    if Text.isAllBlank text then return ⟨none⟩
    else (ConnectReply.read text).mapError .decode

/-- What is made of the answer to a batch. -/
def readConfigure (answer : Answer) : Except TransportError Unit := do
  let _ ← checked answer
  return ()

/-! ## push streams -/

/-- What happens on a push stream: a frame comes in, the client waits before it opens the
stream again, it makes a request for that, or it logs something. -/
inductive Happening where
  | frame (f : Frame)
  | wait (millis : UInt64)
  | request (r : Request)
  | log (entry : Log.Entry)

/-- What is known from the bodies so far: the delay before the stream is opened again, and the
id of the last frame that had one. -/
structure Resumption where
  delay : UInt64
  lastId : Option String
deriving DecidableEq

/-- What one item of a body adds. -/
def Resumption.after (r : Resumption) : Item → Resumption
  | .retry millis => { r with delay := millis }
  | .frame f => { r with lastId := f.id.or r.lastId }

/-- The frames among the items of a body. -/
def framesOf (items : List Item) : List Frame :=
  items.filterMap (fun
    | .frame f => some f
    | .retry _ => none)

/-- The items of a body, and what is logged at its end. -/
def readBody (r : Response) : List Item × List Log.Entry :=
  EventStream.read ([.bytes r.body] ++ if r.broken then [.failure ""] else [])

/-- What happens when a body is read to its end. -/
def readThrough (r : Response) : List Happening :=
  let (items, log) := readBody r
  (framesOf items).map .frame ++ log.map .log

/-- What is known after a body was read. -/
def Resumption.afterBody (known : Resumption) (r : Response) : Resumption :=
  (readBody r).1.foldl Resumption.after known

/-- A log entry about the push stream of a URL. -/
def streamEntry (level : Log.Level) (message url : String)
    (more : List (String × Log.Datum)) : Happening :=
  .log { level, component := .http, message, fields := ("url", .text url) :: more }

/-- How a stream goes on after an attempt to open it again. -/
inductive Reopened where
  | reading (r : Response)
  | failed
  | over

/-- What is made of the answer to an attempt to open the stream again. -/
def readReopen (url : String) (answer : Answer) : Reopened × List Happening :=
  match checked answer with
  | .ok r =>
    if r.status = Response.noContent then
      (.over, [streamEntry .info "gateway closed the push stream" url []])
    else (.reading r, [])
  | .error (.status code body) =>
    (.over, [streamEntry .warn "push stream reconnect refused" url
      [("status", .number code), ("body", .text body)]])
  | .error e =>
    (.failed, [streamEntry .warn "push stream reconnect failed" url [("error", .text e.message)]])

/-- What happens from the moment when the push stream has dropped, if the attempts to open it
again are answered by `answers`. With an id that cannot be a header no attempt gets as far as
a request, and there is no end to them: only the first one is given. -/
def reopen (url : String) (known : Resumption) : (answers : List Answer) → List Happening
  | [] => []
  | answer :: answers =>
    let dropped :=
      [ streamEntry .debug "push stream dropped, reconnecting" url
          [("delay_ms", .number known.delay.toNat)],
        .wait known.delay ]
    match listenRequest? url known.lastId with
    | none => dropped ++ (readReopen url .lost).2
    | some request =>
      let (next, log) := readReopen url answer
      dropped ++ .request request :: log ++
        match next with
        | .reading r => readThrough r ++ reopen url (known.afterBody r) answers
        | .failed => reopen url known answers
        | .over => []

/-- What happens on a push stream that was opened with a response, if the attempts to open it
again are answered by `answers`. -/
def listen (url : String) (reconnectDelay : UInt64) (first : Response) (answers : List Answer) :
    List Happening :=
  readThrough first ++ reopen url (Resumption.afterBody ⟨reconnectDelay, none⟩ first) answers

end GatewayClient.Http
