import GatewayClient.Event
import GatewayClient.Log
import GatewayClient.Session

/-!
# GatewayClient.Callback

What callers leave with the client to be called later. A callback is known by its name, and
two with one name are the same callback. Every call is made on its own: one that fails is
logged and does not keep the others from being made.
-/

namespace GatewayClient

/-- The callback of a subscription, called with each event. -/
structure Callback where
  name : String
deriving DecidableEq

/-- A listener that is called once, when its batch is acknowledged. -/
structure AckListener where
  label : String
deriving DecidableEq

/-- A hook that is called once, with the first session. -/
structure SessionHook where
  label : String
deriving DecidableEq

/-- A call that is due. -/
inductive Invocation where
  | event (callback : Callback) (e : Event)
  | acknowledged (listener : AckListener)
  | session (hook : SessionHook) (s : Session)

namespace Invocation

/-- What is called, as it is named in the log. -/
def role : Invocation → String
  | event _ _ => "subscriber"
  | acknowledged _ => "ack listener"
  | session _ _ => "on_connect"

/-- How a call can fail: with a text, or with something that is no text. -/
inductive Failure where
  | text (message : String)
  | other

/-- What the log says of a failure. -/
def Failure.shown : Failure → String
  | text message => message
  | other => "non-string panic payload"

/-- The log entry about a call that failed. -/
def failureEntry (i : Invocation) (f : Failure) : Log.Entry :=
  { level := .error, component := .callbacks, message := "callback panicked"
    fields := [("callback", .text i.role), ("panic", .text f.shown)] }

end Invocation

end GatewayClient
