import GatewayClient.Simulation.World

/-!
# GatewayClient.Simulation.Scenario

Scenarios: steps in their order, and between them the time that passes. When time passes, or
when what is ready is let run, the tasks in the background go on: readers handle the frames of
their streams, senders post their batches, flushes run.
-/

namespace GatewayClient.Simulation

namespace World

/-! ## calls -/

/-- Takes the steps of a script, and shows that it did. -/
def takeSteps (w : World) (steps : List Step) : World :=
  steps.foldl
    (fun w step =>
      let (w, answer) := w.perform step
      w.emit (.did step answer))
    w

/-- The name under which a call finds its script. -/
def scriptName : Invocation → String
  | .event callback _ => callback.name
  | .acknowledged listener => listener.label
  | .session hook _ => hook.label

/-- Makes a call: it is shown, and then does what its script says. A failure is logged. -/
def invoke (w : World) (i : Invocation) : World :=
  let w := w.emit (.call i)
  match w.scripts.lookup (scriptName i) with
  | none => w
  | some script =>
    let w := w.takeSteps script.steps
    script.failure.elim w (fun f => w.log (i.failureEntry f))

/-- Carries out a command of a connection. -/
def carryOut (key : ConnectionKey) (w : World) (command : Command) : World :=
  match command with
  | .call i => w.invoke i
  | _ => obey key w command

/-- Handles a frame for a connection. The connection stays alive at least until it is done. -/
def handleFrame (w : World) (key : ConnectionKey) (frame : EventStream.Frame) : World :=
  let (manager, commands) := w.manager.receive key frame
  let w := commands.foldl (carryOut key) { w with manager, busy := some key }
  { w with busy := none }.release key

/-! ## tasks -/

/-- The reader of a stream lets it go. -/
def freeStream (w : World) (id : StreamId) : World :=
  w.modifyStream id (fun s => { s with held := false, frames := [] })

/-- Makes a task go on before all others. -/
def goOn (w : World) (job : Job) : World := { w with agenda := w.agenda.resume job }

/-- A reader reads the next frame of its stream, if there is one. -/
def readNext (w : World) (id : StreamId) (s : Stream) (key : ConnectionKey) : World :=
  match s.frames with
  | frame :: frames =>
    if w.manager.isLive key then
      ((w.modifyStream id (fun s => { s with frames })).handleFrame key frame).goOn (.readOn id)
    else w.freeStream id
  | [] =>
    if s.ended then (w.freeStream id).follow key (w.manager.streamEnded key)
    else if s.stopping then w.freeStream id
    else w

/-- A sender posts the next batch of its connection, if there is one. -/
def postNext (w : World) (key : ConnectionKey) : World :=
  match (w.manager.get? key).bind Connection.beginPost? with
  | none => w
  | some (connection, batch) =>
    ({ w with manager := w.manager.set key connection }.emit (.post batch)).goOn (.post key)

/-- A post is answered, unless it has to wait. -/
def answerPost (w : World) (key : ConnectionKey) : World :=
  if w.behaviour.holdConfigure then
    { w with unanswered := w.unanswered.filter (· != key) ++ [key] }
  else
    let finish (result : Except TransportError Unit) : World :=
      (w.follow key (w.manager.step key (fun c => c.endPost result))).goOn (.post key)
    match w.behaviour.failConfigure with
    | some .crash => w.follow key (w.manager.step key (fun c => (c.stopSender, [])))
    | some (.error e) => finish (.error e)
    | none => finish (.ok ())

/-- Lets a task go on until it has done one thing, or has to wait. -/
def poll (job : Job) (w : World) : World :=
  match job with
  | .read id =>
    match w.streams[id]? with
    | none => w
    | some s => if s.stopping then w.freeStream id else w.goOn (.readOn id)
  | .readOn id =>
    match w.streams[id]? with
    | none => w
    | some s =>
      match s.held, s.reader with
      | true, some key => w.readNext id s key
      | _, _ => w
  | .post key =>
    if ((w.manager.get? key).bind (fun c => c.outbox.posting)).isSome then w.answerPost key
    else w.postNext key
  | .awaitFlush key generation delay =>
    { w with agenda := w.agenda.schedule delay.toNat (.flush key generation) }
  | .flush key generation => w.runFlush key generation
  | .idle => w

/-- Lets time pass, and runs what becomes ready. The fuel bounds the tasks that go on. -/
def pass (w : World) (millis fuel : Nat) : World :=
  Agenda.play World.agenda (fun w agenda => { w with agenda }) poll (w.agenda.now + millis) fuel w

/-! ## what can be seen -/

/-- What can be seen of a connection. -/
structure ConnectionView where
  connection : Connection
  registered : Bool

/-- The connections by their handles. -/
def views (w : World) : List (String × ConnectionView) :=
  w.handles.filterMap (fun (handle, key) =>
    (w.manager.get? key).map (fun connection =>
      (handle, ⟨connection, w.manager.isRegistered connection.clientId⟩)))

end World

/-- A step of a scenario: one that runs at once, or time that passes. Passing no time lets run
what is ready. -/
inductive Turn where
  | step (s : Step)
  | pass (millis : Nat)

/-- What a step of a scenario has led to: the answer, what it showed, and the world after it. -/
structure Outcome where
  answer : Answer
  record : Record
  world : World

/-- Carries out one step of a scenario. -/
def World.advance (w : World) (fuel : Nat) (t : Turn) : Outcome :=
  let w := { w with record := Record.empty }
  match t with
  | .step s =>
    let (w, answer) := w.perform s
    ⟨answer, w.record.inOrder, w⟩
  | .pass millis =>
    let w := w.pass millis fuel
    ⟨.done, w.record.inOrder, w⟩

/-- Carries out a scenario. -/
def World.play (w : World) (fuel : Nat) : List Turn → List Outcome
  | [] => []
  | t :: rest =>
    let outcome := w.advance fuel t
    outcome :: outcome.world.play fuel rest

end GatewayClient.Simulation
