import GatewayClient.Json.Decode

/-!
# GatewayClient.Session

What the gateway tells about a session: in the answer to a connect request, and in the
`open` frame of the push stream. Older gateways spell the dispatcher and the session id in
another way; both spellings are read, one is written.
-/

namespace GatewayClient

open Json (Decoder)

/-- The optional string field of a JSON object. -/
def optionalText (name : String) (value : Option String) : Json.Fields :=
  value.elim [] (fun s => [(name, .string s)])

/-- A token against forged requests: the name of a header and its value. -/
structure Crumb where
  name : String
  value : String
deriving DecidableEq

namespace Crumb

/-- Decodes a crumb; a part that is not given is empty. -/
def decoder : Decoder Crumb :=
  Decoder.record "Crumb"
    [ Decoder.field "name" Decoder.string (fun s c => { c with name := s }) [],
      Decoder.field "value" Decoder.string (fun s c => { c with value := s }) [] ]
    ⟨"", ""⟩

/-- The crumb as a JSON value. -/
def toJson (c : Crumb) : Json.Value :=
  .object [("name", .string c.name), ("value", .string c.value)]

end Crumb

/-- The session that an `open` frame announces. -/
structure Session where
  dispatcherId : Option String
  sessionId : Option String
  cookieName : Option String
  crumb : Option Crumb
deriving DecidableEq

namespace Session

/-- The session of which nothing is known. -/
def empty : Session := ⟨none, none, none, none⟩

/-- Decodes a session. -/
def decoder : Decoder Session :=
  Decoder.record "SessionInfo"
    [ Decoder.field "dispatcherId" (.nullable .string) (fun s i => { i with dispatcherId := s })
        ["dispatcher"],
      Decoder.field "sessionId" (.nullable .string) (fun s i => { i with sessionId := s })
        ["sessionid"],
      Decoder.field "cookieName" (.nullable .string) (fun s i => { i with cookieName := s }) [],
      Decoder.field "crumb" (.nullable Crumb.decoder) (fun c i => { i with crumb := c }) [] ]
    empty

/-- Reads the payload of an `open` frame. -/
def read (data : String) : Except Json.Error Session := Decoder.read decoder data

/-- The session as a JSON value, in the order in which its fields are written. -/
def toJson (s : Session) : Json.Value :=
  .object (optionalText "dispatcherId" s.dispatcherId ++ optionalText "sessionId" s.sessionId ++
    optionalText "cookieName" s.cookieName ++ s.crumb.elim [] (fun c => [("crumb", c.toJson)]))

/-- The JSON text of the session. -/
def text (s : Session) : String := s.toJson.text

/-- The header that carries the crumb, if both its parts are there. -/
def crumbHeader? (s : Session) : Option (String × String) :=
  s.crumb.bind (fun c => if c.name.isEmpty || c.value.isEmpty then none else some (c.name, c.value))

/-- The value of the cookie header, if the cookie's name and the session id are there and
not empty. -/
def cookie? (s : Session) : Option String := do
  let name ← s.cookieName
  let id ← s.sessionId
  if name.isEmpty || id.isEmpty then none else some (name ++ "=" ++ id)

end Session

/-- The answer to a connect request. -/
structure ConnectReply where
  jsessionid : Option String
deriving DecidableEq

namespace ConnectReply

/-- Decodes the answer. -/
def decoder : Decoder ConnectReply :=
  Decoder.record "ConnectResponse"
    [Decoder.field "jsessionid" (.nullable .string) (fun s r => { r with jsessionid := s }) []]
    ⟨none⟩

/-- Reads the body of the answer. -/
def read (body : String) : Except Json.Error ConnectReply := Decoder.read decoder body

/-- The answer as a JSON value. -/
def toJson (r : ConnectReply) : Json.Value := .object (optionalText "jsessionid" r.jsessionid)

end ConnectReply

end GatewayClient
