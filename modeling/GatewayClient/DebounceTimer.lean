import GatewayClient.Text.Numeral

/-!
# GatewayClient.DebounceTimer

A timer for work that is put off again and again: only the task that was armed last is let
through. Each arming and each cancellation begins a new generation, and a task carries the
generation under which it was armed, so that one that was replaced after it had begun to run
is found out when it reports.
-/

namespace GatewayClient

/-- The current generation, and the generation of the armed task unless it was cancelled or
let through. Generations count modulo `2^64`. -/
structure DebounceTimer where
  generation : UInt64
  pending : Option UInt64
deriving DecidableEq

namespace DebounceTimer

/-- The timer before its first task. -/
def start : DebounceTimer := ⟨0, none⟩

/-- Gives up the armed task: the timer without it, and the task to cancel, if any. -/
def cancel (t : DebounceTimer) : DebounceTimer × Option UInt64 :=
  (⟨t.generation + 1, none⟩, t.pending)

/-- Arms a task in the place of the one before: the timer, and the task to cancel, if any. The
new task has the generation of the timer. -/
def arm (t : DebounceTimer) : DebounceTimer × Option UInt64 :=
  let (t, replaced) := t.cancel
  ({ t with pending := some t.generation }, replaced)

/-- A task reports that it runs: the timer if the task is let through. -/
def fire? (t : DebounceTimer) (generation : UInt64) : Option DebounceTimer :=
  if generation = t.generation then some { t with pending := none } else none

/-- The timer in diagnostics; `armed` says whether its task is still to run. -/
def inspect (t : DebounceTimer) (armed : Bool) : String :=
  "DebounceTimer \x7b armed: " ++ (if armed then "true" else "false") ++
  ", generation: " ++ Text.decimal t.generation.toNat ++ ", .. \x7d"

end DebounceTimer

end GatewayClient
