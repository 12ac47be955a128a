import GatewayClient.Log
import GatewayClient.Text.Basic
import GatewayClient.Text.Terminal

/-!
# GatewayClient.CommandLine.Arguments

The arguments of the command line: `listen` with its options, and the options for logging,
which may stand before it or behind it. An option has its value behind an equals sign or as the
next argument. Values are looked at when the next option begins or the arguments end, so that
an argument that is no option at all is refused before the value in front of it.
-/

namespace GatewayClient.CommandLine

/-- The options. -/
inductive Flag where
  | logLevel
  | logFormat
  | server
  | clientId
  | channel
  | filter
  | settings
deriving DecidableEq

namespace Flag

/-- All options. -/
def all : List Flag := [logLevel, logFormat, server, clientId, channel, filter, settings]

/-- The name of an option, without its dashes. -/
def name : Flag → String
  | logLevel => "log-level"
  | logFormat => "log-format"
  | server => "server"
  | clientId => "client-id"
  | channel => "channel"
  | filter => "filter"
  | settings => "settings"

/-- Whether an option may stand before the command too. -/
def isGlobal : Flag → Bool
  | logLevel | logFormat => true
  | _ => false

/-- Whether an option may be given more than once. -/
def isRepeatable : Flag → Bool
  | channel | filter => true
  | _ => false

/-- The option of a name, before or behind the command. -/
def named? (listening : Bool) (name : String) : Option Flag :=
  all.find? (fun f => f.name == name && (listening || f.isGlobal))

end Flag

/-! ## values -/

/-- Why arguments were refused: a filter that is none, for a reason, or anything else. -/
inductive UsageError where
  | filter (message : String)
  | other
deriving DecidableEq

/-- Reads a filter: a key, an equals sign and a value. The key is trimmed and may not be empty;
the value is everything behind the first equals sign. A refusal shows the filter without what
would tell a terminal what to do. -/
def readFilter (raw : String) : Except UsageError (String × String) :=
  match raw.toList.dropWhile (· != '=') with
  | [] => .error (.filter (Text.plainText ("expected key=value, got '" ++ raw ++ "'")))
  | _ :: value =>
    let key := Text.trim (raw.toList.takeWhile (· != '='))
    if key.isEmpty then .error (.filter "filter key must not be empty")
    else .ok (String.ofList key, String.ofList value)

/-- Reads a log format. -/
def readFormat? : String → Option Log.Format
  | "compact" => some .compact
  | "json" => some .json
  | _ => none

/-- Checks the value of an option. -/
def checkValue (flag : Flag) (value : String) : Except UsageError Unit :=
  match flag with
  | .filter => (readFilter value).map (fun _ => ())
  | .logFormat => if (readFormat? value).isSome then .ok () else .error .other
  | .settings => if value.isEmpty then .error .other else .ok ()
  | _ => .ok ()

/-! ## options -/

/-- An option that was given: where, which, and its value. -/
structure Given where
  listening : Bool
  flag : Flag
  value : String
deriving DecidableEq

/-- What the arguments ask for. -/
structure Options where
  logLevel : String
  logFormat : Log.Format
  server : Option String
  clientId : String
  channels : List String
  filters : List (String × String)
  settings : Option String
deriving DecidableEq

/-- The last value of an option; behind the command it counts more than before it. -/
def lastValue? (given : List Given) (flag : Flag) : Option String :=
  (given.reverse.find? (fun g => g.flag == flag)).map Given.value

/-- All values of an option. -/
def allValues (given : List Given) (flag : Flag) : List String :=
  (given.filter (fun g => g.flag == flag)).map Given.value

/-- The options that were given, with defaults for the others. At least one channel is
required. -/
def Options.ofGiven (given : List Given) : Except UsageError Options := do
  let filters ← (allValues given .filter).mapM readFilter
  let channels := allValues given .channel
  if channels.isEmpty then throw .other
  return {
    logLevel := (lastValue? given .logLevel).getD "info"
    logFormat := ((lastValue? given .logFormat).bind readFormat?).getD .compact
    server := lastValue? given .server
    clientId := (lastValue? given .clientId).getD "ssegw-cli"
    channels
    filters
    settings := lastValue? given .settings }

/-! ## scanning -/

/-- What the arguments come to. -/
inductive Action where
  | listen (options : Options)
  | help
  | version
deriving DecidableEq

/-- What is printed when the version is asked for. -/
def versionLine : String := "ssegw 0.1.0"

/-- How far the arguments were read: whether behind the command, which options were given, and
the option that was begun last, with its value if it has come. -/
structure Scan where
  listening : Bool
  given : List Given
  begun : Option (Flag × Option String)

namespace Scan

/-- The start. -/
def start : Scan := ⟨false, [], none⟩

/-- Whether the next argument is the value of an option. -/
def awaitsValue (s : Scan) : Bool := s.begun.any (fun b => b.2.isNone)

/-- Takes an option with its value. -/
def give (s : Scan) (flag : Flag) (value : String) : Except UsageError Scan := do
  if !flag.isRepeatable && s.given.any (fun g => g.flag == flag && g.listening == s.listening) then
    throw .other
  checkValue flag value
  return { s with given := s.given ++ [⟨s.listening, flag, value⟩] }

/-- Takes the option that was begun. -/
def finishBegun (s : Scan) : Except UsageError Scan :=
  match s.begun with
  | none => .ok s
  | some (_, none) => .error .other
  | some (flag, some value) => { s with begun := none }.give flag value

/-- The end of the arguments. -/
def finish (s : Scan) : Except UsageError Action := do
  let s ← s.finishBegun
  if s.listening then return .listen (← Options.ofGiven s.given) else throw .other

/-- Begins an option, with its value if that was behind an equals sign. -/
def begin (s : Scan) (flag : Flag) (value : Option String) : Except UsageError Scan := do
  let s ← s.finishBegun
  match value with
  | some v => s.give flag v
  | none => return { s with begun := some (flag, none) }

end Scan

/-- The name and the attached value of an argument with two dashes. -/
def splitOption (cs : List Char) : String × Option String :=
  (String.ofList (cs.takeWhile (· != '=')),
    match cs.dropWhile (· != '=') with
    | [] => none
    | _ :: value => some (String.ofList value))

/-- Scans the arguments behind what was read. -/
def scan (s : Scan) : List String → Except UsageError Action
  | [] => s.finish
  | arg :: rest =>
    match arg.toList with
    | '-' :: '-' :: [] => if rest.isEmpty then s.finish else .error .other
    | '-' :: '-' :: cs =>
      let (name, value) := splitOption cs
      match Flag.named? s.listening name with
      | some flag => do scan (← s.begin flag value) rest
      | none =>
        if value.isSome then .error .other
        else if name == "help" then s.finishBegun.map (fun _ => .help)
        else if name == "version" && !s.listening then s.finishBegun.map (fun _ => .version)
        else .error .other
    | '-' :: c :: _ =>
      if c == 'h' then s.finishBegun.map (fun _ => .help)
      else if c == 'V' && !s.listening then s.finishBegun.map (fun _ => .version)
      else .error .other
    | _ =>
      match s.begun with
      | some (flag, none) => scan { s with begun := some (flag, some arg) } rest
      | _ =>
        if s.listening then .error .other
        else if arg == "listen" then do scan { (← s.finishBegun) with listening := true } rest
        else if arg == "help" && (rest.isEmpty || rest == ["listen"]) then .ok .help
        else .error .other

/-- Reads the arguments. -/
def read (args : List String) : Except UsageError Action := scan Scan.start args

end GatewayClient.CommandLine
