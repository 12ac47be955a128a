import GatewayClient.CommandLine.Listener
import GatewayClient.Log.Filter
import GatewayClient.Log.Line

/-!
# GatewayClient.Main

The command line. The push stream is read from standard input, where a program for transfers
puts it; the requests of the listener are taken as granted. Events go to standard output, log
entries and errors to standard error.
-/

namespace GatewayClient.Program

open CommandLine (Listener ListenError Options)

/-- What is printed when help is asked for. -/
def usage : String :=
  "Usage: ssegw [OPTIONS] listen --channel <CHANNEL> [--server <URL>] [--client-id <ID>]\n" ++
  "             [--filter <KEY=VALUE>] [--settings <FILE>]\n" ++
  "             [--log-level <LEVEL>] [--log-format <compact|json>]"

/-- What stands at a path. -/
def fileAt (path : String) : IO Settings.File := do
  try
    let content ← IO.FS.readBinFile path
    return .bytes content.toList
  catch
    | .noFileOrDirectory _ _ _ => return .absent
    | _ => return .directory

/-- The variables that override settings. -/
def environment : IO Environment := do
  let found ← Settings.Variable.all.mapM (fun v => do
    return (← IO.getEnv v.name).map (fun value => (v.name, value)))
  return found.filterMap id

/-- Writes what a listener has printed and logged, and takes it off. -/
def report (filter : Log.Filter) (format : Log.Format) (l : Listener) : IO Listener := do
  let output ← IO.getStdout
  for line in l.printed do output.putStrLn line
  output.flush
  for e in l.log do
    if filter.shows e then IO.eprintln (e.line format)
  return { l with printed := [], log := [] }

/-- Takes up to `n` posts as granted. -/
def grantPosts (l : Listener) : (n : Nat) → Listener
  | 0 => l
  | n + 1 => (l.beginPost?.map (fun (l, _) => grantPosts (l.endPost (.ok ())) n)).getD l

/-- Takes all posts that wait as granted. -/
def grantAll (l : Listener) : Listener :=
  grantPosts l (l.connection?.elim 0 (fun c => c.outbox.waiting.length))

/-- Takes the requests of a connect as granted. -/
def grantConnect (l : Listener) : Listener × Except ListenError Unit :=
  match l.beginConnect with
  | (l, .finished result) =>
    (l, (result.mapError ListenError.connect).bind (fun _ => .error .inert))
  | (l, .requesting attempt) => l.endConnect attempt (.ok 0)

/-- Receives the frames of a push stream until it ends. -/
partial def attend (say : Listener → IO Listener) (input : IO.FS.Stream)
    (d : EventStream.Decoder) (l : Listener) : IO Listener := do
  let chunk ← input.read 4096
  if chunk.isEmpty then return l
  let (d, items) := d.feed chunk.toList
  let frames := items.filterMap (fun
    | .frame f => some f
    | .retry _ => none)
  let l ← say (frames.foldl (fun l frame => grantAll (l.receive frame).flush) l)
  attend say input d l

/-- Runs a listener until its push stream ends. -/
def listen (say : Listener → IO Listener) (l : Listener) (o : Options) :
    IO (Except ListenError Unit) := do
  let (l, connected) := grantConnect l
  let (l, ready) := match connected with
    | .error e => (l, Except.error e)
    | .ok () => l.subscribeAll o.filter? o.channels
  let l ← say l
  match ready with
  | .error e =>
    let _ ← say l.drop
    return .error e
  | .ok () =>
    let l ← attend say (← IO.getStdin) EventStream.Decoder.start l
    let _ ← say l.shutDown
    return .ok ()

/-- Writes an error with the one behind it, and gives the exit code for it. -/
def fail (e : ListenError) : IO UInt32 := do
  IO.eprintln ("Error: " ++ e.message)
  if let some cause := e.cause? then IO.eprintln ("\nCaused by:\n    " ++ cause)
  return 1

/-- Runs the command line, and gives the exit code. -/
def run (args : List String) : IO UInt32 := do
  match CommandLine.read args with
  | .error e =>
    match e with
    | .filter message => IO.eprintln ("error: " ++ message)
    | .other => pure ()
    IO.eprintln usage
    return 2
  | .ok .help =>
    IO.println usage
    return 0
  | .ok .version =>
    IO.println CommandLine.versionLine
    return 0
  | .ok (.listen o) =>
    let filter := Log.Filter.choose (← IO.getEnv Log.Filter.variableName) o.logLevel
    let file ← (o.settings.mapM fileAt : IO (Option Settings.File))
    let (result, log) := o.listenSettings (fun _ => file.getD .absent) (← environment)
    for e in log do
      if filter.shows e then IO.eprintln (e.line o.logFormat)
    match result with
    | .error e => fail e
    | .ok settings =>
      let l := Listener.create settings o.clientId
      match ← listen (report filter o.logFormat) l o with
      | .error e => fail e
      | .ok () => return 0

end GatewayClient.Program

def main (args : List String) : IO UInt32 := GatewayClient.Program.run args
