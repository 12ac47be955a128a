/-!
# GatewayClient.Simulation.Agenda

Background work in virtual time. Time moves only when asked to. Work that is ready runs first
in, first out, until nothing is ready or a burst of it has run. In the break that follows, work
that has stepped back becomes ready again, the latest first. Work that sleeps becomes ready
when its time has come.
-/

namespace GatewayClient.Simulation

/-- Background work: the time in milliseconds, what is ready, what has stepped back (the latest
first), what sleeps until when, and how many pieces of work have run since the last break. -/
structure Agenda (α : Type) where
  now : Nat
  ready : List α
  aside : List α
  sleeping : List (Nat × α)
  run : Nat

namespace Agenda

variable {α : Type}

/-- The agenda at the start of time. -/
def empty : Agenda α := ⟨0, [], [], [], 0⟩

/-- Makes work ready, unless it is already. -/
def wake [DecidableEq α] (a : Agenda α) (work : α) : Agenda α :=
  if a.ready.contains work then a else { a with ready := a.ready ++ [work] }

/-- Makes work ready before everything else: the piece of it that has run was no whole one. -/
def resume (a : Agenda α) (work : α) : Agenda α :=
  { a with ready := work :: a.ready, run := a.run - 1 }

/-- Puts work off for a time. Without delay it steps back once. -/
def schedule (a : Agenda α) (delay : Nat) (work : α) : Agenda α :=
  if delay = 0 then { a with aside := work :: a.aside }
  else { a with sleeping := a.sleeping ++ [(a.now + delay, work)] }

/-- Puts a remnant in the place of work that is ready, or makes the remnant ready if the work
waits elsewhere. -/
def cancel (a : Agenda α) (isIt : α → Bool) (remnant : α) : Agenda α :=
  if a.ready.any isIt then
    { a with ready := a.ready.map (fun work => if isIt work then remnant else work) }
  else if a.aside.any isIt || a.sleeping.any (fun s => isIt s.2) then
    { a with
      ready := a.ready ++ [remnant]
      aside := a.aside.filter (fun work => !isIt work)
      sleeping := a.sleeping.filter (fun s => !isIt s.2) }
  else a

/-- How many pieces of work run at most between two breaks. -/
def burst : Nat := 61

/-- A break: work that has stepped back becomes ready. -/
def pause (a : Agenda α) : Agenda α :=
  { a with ready := a.ready ++ a.aside, aside := [], run := 0 }

/-- Takes the work that runs next at this time, behind a break if it is time for one. -/
def next? (a : Agenda α) : Option (α × Agenda α) :=
  let a := if a.ready.isEmpty || burst ≤ a.run then a.pause else a
  match a.ready with
  | [] => none
  | work :: rest => some (work, { a with ready := rest, run := a.run + 1 })

/-- Moves the time to the moment when the next sleeping work becomes ready, if that is not
after `limit`. -/
def skipTo? (a : Agenda α) (limit : Nat) : Option (Agenda α) :=
  match (a.sleeping.map Prod.fst).min? with
  | none => none
  | some time =>
    if limit < time then none
    else
      let (due, rest) := a.sleeping.partition (fun s => s.1 == time)
      some { a with now := time, ready := a.ready ++ due.map Prod.snd, sleeping := rest }

/-- Runs what becomes ready up to a time, and moves the time there. `poll` runs one piece of
work in a state that holds an agenda. The fuel bounds the pieces of work and the moments. -/
def play {σ : Type} (agenda : σ → Agenda α) (store : σ → Agenda α → σ) (poll : α → σ → σ)
    (limit : Nat) : (fuel : Nat) → σ → σ
  | 0, s => s
  | fuel + 1, s =>
    match (agenda s).next? with
    | some (work, rest) => play agenda store poll limit fuel (poll work (store s rest))
    | none =>
      match (agenda s).skipTo? limit with
      | some later => play agenda store poll limit fuel (store s later)
      | none => store s { agenda s with now := limit }

end Agenda

end GatewayClient.Simulation
