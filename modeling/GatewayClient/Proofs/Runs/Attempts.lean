import GatewayClient.Proofs.Runs.Surroundings

/-!
# GatewayClient.Proofs.Runs.Attempts

Connects that are under way. A connect that began in an older epoch has been overtaken; of the
current epoch there is at most one, and while it waits there is no push stream:

```
connecting      one connect of the current epoch may wait, no stream
not connecting  every connect that waits was overtaken
```
-/

namespace GatewayClient.Runs

/-- The connects that wait and were not overtaken. -/
def Surroundings.current (around : Surroundings) (epoch : Nat) : List ConnectAttempt :=
  around.attempts.filter (fun a => a.epoch == epoch)

/-- A connection among the connects that wait for it. -/
structure Connects (c : Connection) (around : Surroundings) : Prop where
  past : ∀ a ∈ around.attempts, a.epoch ≤ c.epoch
  single : (around.current c.epoch).length ≤ if c.connecting then 1 else 0
  closed : c.connecting = true → c.stream = none

namespace Connects

variable {c c' : Connection} {around next : Surroundings}

/-- A step that leaves connects alone keeps them. -/
theorem idle (connects : Connects c around) (attempts : next.attempts = around.attempts)
    (epoch : c'.epoch = c.epoch) (connecting : c'.connecting = c.connecting)
    (stream : c.stream = none → c'.stream = none) : Connects c' next := by
  constructor
  · rw [attempts, epoch]; exact connects.past
  · rw [Surroundings.current, attempts, epoch, connecting]; exact connects.single
  · intro waits
    rw [connecting] at waits
    exact stream (connects.closed waits)

/-- A new connect is the only one of its epoch. -/
theorem begin (connects : Connects c around) (idle : c.isOpening = false)
    (attempts : next.attempts = around.attempts ++ [a]) (own : a.epoch = c.epoch)
    (epoch : c'.epoch = c.epoch) (connecting : c'.connecting = true)
    (stream : c'.stream = c.stream) : Connects c' next := by
  have both : c.stream = none ∧ c.connecting = false := by
    simpa [Connection.isOpening, Connection.isConnected] using idle
  obtain ⟨closed, quiet⟩ := both
  have none := connects.single
  rw [quiet] at none
  constructor
  · intro b member
    rw [attempts, List.mem_append, List.mem_singleton] at member
    rw [epoch]
    rcases member with old | rfl
    · exact connects.past b old
    · exact Nat.le_of_eq own
  · rw [Surroundings.current, attempts, epoch, connecting, List.filter_append, List.length_append]
    have one : ([a].filter (fun a => a.epoch == c.epoch)).length = 1 := by simp [own]
    rw [one]
    exact Nat.succ_le_succ none
  · intro _
    rw [stream, closed]

/-- The end of an overtaken connect concerns nobody. -/
theorem overtake (connects : Connects c around)
    (attempts : next.attempts = around.attempts.erase a) : Connects c next := by
  constructor
  · intro b member
    rw [attempts] at member
    exact connects.past b (List.mem_of_mem_erase member)
  · have fewer : (next.current c.epoch).length ≤ (around.current c.epoch).length := by
      rw [Surroundings.current, attempts]
      exact (List.erase_sublist.filter _).length_le
    exact Nat.le_trans fewer connects.single
  · exact connects.closed

/-- The end of the current connect leaves no other of its epoch. -/
theorem finish (connects : Connects c around) (waited : a ∈ around.attempts)
    (own : c.epoch = a.epoch) (attempts : next.attempts = around.attempts.erase a)
    (epoch : c'.epoch = c.epoch) (connecting : c'.connecting = false) : Connects c' next := by
  constructor
  · intro b member
    rw [attempts] at member
    rw [epoch]
    exact connects.past b (List.mem_of_mem_erase member)
  · have member : a ∈ around.current c.epoch := List.mem_filter.mpr ⟨waited, by simp [own]⟩
    have gone : next.current c'.epoch = (around.current c.epoch).erase a := by
      rw [Surroundings.current, attempts, epoch, Surroundings.current, List.erase_filter]
    have single : (around.current c.epoch).length ≤ 1 :=
      Nat.le_trans connects.single (by split <;> decide)
    rw [gone, List.length_erase_of_mem member, connecting]
    omega
  · intro waits
    rw [connecting] at waits
    contradiction

/-- A connect that waits in the current epoch is under way. -/
theorem waiting (connects : Connects c around) (waited : a ∈ around.attempts)
    (own : c.epoch = a.epoch) : c.connecting = true ∧ c.stream = none := by
  have member : a ∈ around.current c.epoch := List.mem_filter.mpr ⟨waited, by simp [own]⟩
  have some := List.length_pos_of_mem member
  have single := connects.single
  cases connecting : c.connecting with
  | false =>
    rw [connecting] at single
    exact absurd single (Nat.not_le_of_lt some)
  | true => exact ⟨rfl, connects.closed connecting⟩

/-- A disconnect overtakes every connect. -/
theorem disconnect (connects : Connects c around) (attempts : next.attempts = around.attempts)
    (epoch : c'.epoch = c.epoch + 1) (connecting : c'.connecting = false) :
    Connects c' next := by
  have none : next.current c'.epoch = [] := by
    rw [Surroundings.current, List.filter_eq_nil_iff]
    intro a member
    rw [attempts] at member
    have bound := connects.past a member
    simp only [beq_iff_eq, epoch]
    omega
  constructor
  · intro a member
    rw [attempts] at member
    rw [epoch]
    exact Nat.le_succ_of_le (connects.past a member)
  · rw [none]
    exact Nat.zero_le _
  · intro waits
    rw [connecting] at waits
    contradiction

/-- With the connection its connects are gone. -/
theorem drop (attempts : next.attempts = []) (stream : c'.stream = none) : Connects c' next := by
  constructor
  · rw [attempts]
    exact nofun
  · rw [Surroundings.current, attempts]
    exact Nat.zero_le _
  · exact fun _ => stream

end Connects

theorem Life.connects (life : Life trace x around) : Connects x.connection around := by
  induction life with
  | born id url hook settings => exact ⟨nofun, Nat.zero_le _, nofun⟩
  | @next trace x around action outcome y life change key connects =>
    have attempts := around.attempts_after action outcome
    cases change with
    | @subscribe c request commands named done =>
      refine connects.idle attempts rfl rfl (fun closed => ?_)
      simp only [Connection.withSubscription, Connection.streamFor]
      split
      · exact closed
      · rw [closed]; rfl
    | connectBegun moment commands idle quiet =>
      exact connects.begin idle attempts rfl rfl rfl rfl
    | connectOvertaken attempt failure commands waited overtaken quiet =>
      exact connects.overtake attempts
    | connectOpened attempt id commands waited current done =>
      exact connects.finish waited current attempts rfl rfl
    | connectFailed attempt e commands waited current quiet =>
      exact connects.finish waited current attempts rfl rfl
    | disconnectClosed commands closed quiet => exact connects.disconnect attempts rfl rfl
    | disconnectOpen stream commands opened done => exact connects.disconnect attempts rfl rfl
    | drop commands done => exact Connects.drop attempts rfl
    | connectRefused pushes moment commands answer reason quiet =>
      exact connects.idle (attempts.trans (List.append_nil _)) rfl rfl id
    | connectInert pushes moment commands idle quiet server =>
      exact connects.idle (attempts.trans (List.append_nil _)) rfl rfl id
    | _ => exact connects.idle attempts rfl rfl id

end GatewayClient.Runs
