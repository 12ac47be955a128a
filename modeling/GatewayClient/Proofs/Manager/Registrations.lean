import GatewayClient.Proofs.Runs.Attempts

/-!
# GatewayClient.Proofs.Manager.Registrations

Whom a client id belongs to. A step of a connection does one of four things to the registrations,
and all four concern its own client id only:

```
kept      nothing: it was no connect, or the connection was opening already
refused   nothing: the id belongs to another live connection
claimed   the id belongs to the connection from now on
released  the id belongs to nobody from now on, if it belonged to the connection
```

`claim_of_take?` says that every step is one of them.
-/

namespace GatewayClient

/-- Taking all pairs of a name away hides that name and no other. -/
theorem lookup_filter_ne [DecidableEq α] (rs : List (α × β)) (id i : α) :
    (rs.filter (fun r => r.1 != id)).lookup i = if i = id then none else rs.lookup i := by
  induction rs with
  | nil => simp
  | cons r rest ih =>
    obtain ⟨name, key⟩ := r
    by_cases gone : name = id
    · subst gone
      rw [List.filter_cons_of_neg (by simp), ih]
      by_cases here : i = name
      · rw [if_pos here, if_pos here]
      · rw [if_neg here, if_neg here, List.lookup_cons, beq_false_of_ne here]
    · rw [List.filter_cons_of_pos (by simpa using gone), List.lookup_cons, List.lookup_cons, ih]
      by_cases here : i = name
      · subst here
        simp [gone]
      · rw [beq_false_of_ne here]

namespace Manager

/-- Whether a client id belongs to a live connection other than the one that asks for it. -/
def Contested (m : Manager) (id : ClientId) (key : ConnectionKey) : Prop :=
  ∃ other, other ≠ key ∧ m.owner? id = some other ∧ m.isLive other = true

@[simp] theorem owner?_set (m : Manager) (key : ConnectionKey) (c : Connection) (i : ClientId) :
    (m.set key c).owner? i = m.owner? i := rfl

/-- What was contested is refused, and everything stays as it is. -/
theorem register_of_contested {m : Manager} {id : ClientId} (contested : m.Contested id key) :
    (m.register id key).1 = m ∧ (m.register id key).2.2 = .error (.alreadyConnected id) := by
  obtain ⟨other, apart, owned, live⟩ := contested
  have found : (m.find? id).any (· != key) = true := by
    simp [find?, owned, live, apart]
  simp [register, found]

/-- What was not contested belongs to the connection from now on. -/
theorem register_of_free {m : Manager} {id : ClientId} (free : ¬ m.Contested id key) :
    (∀ i, (m.register id key).1.owner? i = if i = id then some key else m.owner? i) ∧
      (m.register id key).2.2 = .ok () := by
  have nobody : (m.find? id).any (· != key) = false := by
    rw [Bool.eq_false_iff, ne_eq, Option.any_eq_true]
    rintro ⟨other, found, apart⟩
    obtain ⟨owned, live⟩ := Option.filter_eq_some_iff.mp found
    exact free ⟨other, by simpa using apart, owned, live⟩
  constructor
  · intro i
    by_cases here : i = id
    · simp [register, nobody, owner?, here]
    · simp [register, nobody, owner?, List.lookup_cons, beq_false_of_ne here, here,
        lookup_filter_ne]
  · simp [register, nobody]

/-- Only the connection that an id belongs to can give it up. -/
theorem owner?_unregister (m : Manager) (id : ClientId) (key : ConnectionKey) (i : ClientId) :
    (m.unregister id key).1.owner? i =
      if i = id ∧ m.owner? id = some key then none else m.owner? i := by
  by_cases own : m.owner? id = some key
  · simp only [unregister, own, if_true, and_true]
    exact lookup_filter_ne _ _ _
  · simp [unregister, own]

end Manager

namespace Runs

/-! ## steps -/

/-- What a step of a connection does to the registrations. -/
inductive Claim (m m' : Manager) (key : ConnectionKey) (x y : Member) (action : Action)
    (outcome : Outcome) : Prop
  | kept (same : ∀ i, m'.owner? i = m.owner? i) (begun : outcome.attempt = none)
      (calm : ∀ id, outcome.answer ≠ .error (.alreadyConnected id))
      (alive : y.dropped = x.dropped)
      (opening : ∀ pushes moment, action = .beginConnect pushes moment →
        x.connection.isOpening = true ∧ outcome.answer = .ok ())
  | refused (contested : m.Contested x.connection.clientId key)
      (same : ∀ i, m'.owner? i = m.owner? i) (begun : outcome.attempt = none)
      (alive : y.dropped = x.dropped)
      (answer : outcome.answer = .error (.alreadyConnected x.connection.clientId))
  | claimed (free : ¬ m.Contested x.connection.clientId key)
      (taken : ∀ i, m'.owner? i = if i = x.connection.clientId then some key else m.owner? i)
      (live : y.dropped = false) (answer : outcome.answer = .ok ())
  | released (gone : ∀ i, m'.owner? i =
        if i = x.connection.clientId ∧ m.owner? x.connection.clientId = some key then none
        else m.owner? i)
      (closed : y.dropped = true ∨ y.connection.isOpening = false)
      (calm : ∀ id, outcome.answer ≠ .error (.alreadyConnected id))
      (other : ∀ pushes moment, action ≠ .beginConnect pushes moment)

/-- A connect asks for the client id, unless the connection is opening already. -/
theorem claim_beginConnect {s : System} {m' : Manager} {outcome : Outcome}
    (known : s.manager.members[key]? = some ⟨c, false⟩)
    (performed : s.perform key c (.beginConnect pushes moment) = (m', outcome))
    (live : y.dropped = false) :
    Claim s.manager m' key ⟨c, false⟩ y (.beginConnect pushes moment) outcome := by
  simp only [System.perform, Manager.beginConnect, get?_eq known] at performed
  cases opening : c.isOpening with
  | true =>
    simp only [opening, if_true, Prod.mk.injEq] at performed
    obtain ⟨rfl, rfl⟩ := performed
    exact .kept (fun _ => rfl) rfl (by simp) live (fun _ _ _ => ⟨opening, rfl⟩)
  | false =>
    rcases registered : s.manager.register c.clientId key with ⟨m, log, result⟩
    by_cases contested : s.manager.Contested c.clientId key
    · obtain ⟨same, answer⟩ := Manager.register_of_contested contested
      rw [registered] at same answer
      obtain rfl : m = s.manager := same
      obtain rfl : result = .error (.alreadyConnected c.clientId) := answer
      simp only [opening, registered, Bool.false_eq_true, if_false, Prod.mk.injEq] at performed
      obtain ⟨rfl, rfl⟩ := performed
      exact .refused contested (fun _ => rfl) rfl live rfl
    · obtain ⟨taken, answer⟩ := Manager.register_of_free contested
      rw [registered] at taken answer
      obtain rfl : result = .ok () := answer
      rcases begun : Connection.beginConnect c (m.host.resolveTab c.clientId moment).1
        (m.host.resolveTab c.clientId moment).2.tab pushes with ⟨c', commands, attempt⟩
      simp only [opening, registered, begun, Bool.false_eq_true, if_false] at performed
      -- what the connect goes on with does not concern the registrations
      cases attempt with
      | none =>
        obtain ⟨rfl, rfl⟩ := Prod.mk.inj performed
        exact .claimed contested taken live rfl
      | some attempt =>
        obtain ⟨rfl, rfl⟩ := Prod.mk.inj performed
        exact .claimed contested taken live rfl

/-- Whether an action can change to whom a client id belongs. -/
def Action.registers : Action → Bool
  | .beginConnect _ _ | .endConnect _ _ | .disconnect | .drop => true
  | _ => false

/-- Every other action leaves all but the connections as it is. -/
theorem exists_members_perform (s : System) (key : ConnectionKey) (c : Connection) {action : Action}
    (other : action.registers = false) :
    ∃ members, (s.perform key c action).1 = { s.manager with members } := by
  have stepped : ∀ f, ∃ members, (s.manager.step key f).1 = { s.manager with members } := by
    intro f
    unfold Manager.step
    split <;> exact ⟨_, rfl⟩
  cases action with
  | subscribe request => exact ⟨_, rfl⟩
  | unsubscribe callback listener => exact ⟨_, rfl⟩
  | beginConnect pushes moment => contradiction
  | endConnect attempt failure => contradiction
  | disconnect => contradiction
  | drop => contradiction
  | receive stream frame =>
    simp only [System.perform, Manager.receive]
    split
    · exact stepped _
    · exact ⟨_, rfl⟩
  | endStream stream =>
    simp only [System.perform, Manager.streamEnded]
    split
    · exact stepped _
    · exact ⟨_, rfl⟩
  | flush task generation pushes =>
    simp only [System.perform, Manager.flush]
    split
    · exact stepped _
    · exact ⟨_, rfl⟩
  | beginPost =>
    simp only [System.perform]
    split <;> exact ⟨_, rfl⟩
  | endPost result => exact ⟨_, rfl⟩
  | loseSender => exact ⟨_, rfl⟩

/-- A refused listener is no refused client id. -/
theorem reception_ne_alreadyConnected (b : Batcher) (listener : Option AckListener)
    (id : ClientId) : b.reception listener ≠ .error (.alreadyConnected id) := by
  unfold Batcher.reception
  split <;> exact nofun

theorem clientId_disconnect (c : Connection) : c.disconnect.1.clientId = c.clientId := by
  unfold Connection.disconnect
  cases c.stream <;> rfl

/-- Every change of a connection makes its claim. -/
theorem claim_of_change {s : System} {m' : Manager} {outcome : Outcome}
    (known : s.manager.members[key]? = some x) (connects : Connects x.connection (s.around key))
    (performed : s.perform key x.connection action = (m', outcome))
    (change : Change (s.around key) x action outcome y) :
    Claim s.manager m' key x y action outcome := by
  have idle : action.registers = false → ∀ i, m'.owner? i = s.manager.owner? i := by
    intro other i
    obtain ⟨members, same⟩ := exists_members_perform s key x.connection other
    rw [performed] at same
    obtain rfl : m' = { s.manager with members } := same
    rfl
  cases change with
  | subscribe request commands named done =>
    exact .kept (idle rfl) rfl (reception_ne_alreadyConnected _ _) rfl (by simp)
  | unsubscribe callback listener commands done =>
    exact .kept (idle rfl) rfl (reception_ne_alreadyConnected _ _) rfl (by simp)
  | connectRefused pushes moment commands answer reason quiet =>
    exact claim_beginConnect known performed rfl
  | connectInert pushes moment commands idle quiet server =>
    exact claim_beginConnect known performed rfl
  | connectBegun moment commands idle quiet => exact claim_beginConnect known performed rfl
  | @connectOvertaken c attempt failure commands waited overtaken quiet =>
    have left : c.isOvertaken attempt = true := by simp [Connection.isOvertaken, overtaken]
    simp only [System.perform, Manager.endConnect, get?_eq known, left, if_true,
      Prod.mk.injEq] at performed
    obtain ⟨rfl, -⟩ := performed
    exact .kept (fun _ => rfl) rfl (by simp) rfl (by simp)
  | @connectOpened c attempt id commands waited current done =>
    have kept : c.isOvertaken attempt = false := by simp [Connection.isOvertaken, current]
    simp only [System.perform, Manager.endConnect, get?_eq known, kept, Bool.false_eq_true,
      if_false, Option.elim_none, Prod.mk.injEq] at performed
    obtain ⟨rfl, -⟩ := performed
    exact .kept (fun _ => rfl) rfl (by simp) rfl (by simp)
  | @connectFailed c attempt e commands waited current quiet =>
    have kept : c.isOvertaken attempt = false := by simp [Connection.isOvertaken, current]
    simp only [System.perform, Manager.endConnect, get?_eq known, kept, Bool.false_eq_true,
      if_false, Option.elim_some, Prod.mk.injEq] at performed
    obtain ⟨rfl, -⟩ := performed
    have closed : c.stream = none := (connects.waiting waited current).2
    exact .released (Manager.owner?_unregister _ _ _)
      (.inr (by simp [Connection.isOpening, Connection.isConnected, closed]))
      (by simp) (by simp)
  | @disconnectClosed c commands closed quiet =>
    simp only [System.perform, Manager.disconnect, get?_eq known, clientId_disconnect,
      Prod.mk.injEq] at performed
    obtain ⟨rfl, -⟩ := performed
    exact .released (Manager.owner?_unregister _ _ _)
      (.inr (by simp [Connection.isOpening, Connection.isConnected, closed]))
      (by simp) (by simp)
  | @disconnectOpen c stream commands opened done =>
    simp only [System.perform, Manager.disconnect, get?_eq known, clientId_disconnect,
      Prod.mk.injEq] at performed
    obtain ⟨rfl, -⟩ := performed
    exact .released (Manager.owner?_unregister _ _ _) (.inr rfl) (by simp)
      (by simp)
  | @drop c commands done =>
    simp only [System.perform, Manager.drop, known, Bool.false_eq_true, if_false,
      Prod.mk.injEq] at performed
    obtain ⟨rfl, -⟩ := performed
    exact .released (Manager.owner?_unregister _ _ _) (.inl rfl) (by simp)
      (by simp)
  | _ => exact .kept (idle rfl) rfl (by simp) rfl (by simp)

/-- Every step of a connection makes its claim. -/
theorem claim_of_take? {s s' : System} (taken : s.take? key action = some (s', e))
    (known : s.manager.members[key]? = some x) (connects : Connects x.connection (s.around key))
    (change : Change (s.around key) x action e.outcome y) :
    Claim s.manager s'.manager key x y action e.outcome := by
  unfold System.take? at taken
  rw [get?_eq known] at taken
  simp only [Option.ite_none_right_eq_some, Option.some.injEq, Prod.mk.injEq] at taken
  obtain ⟨-, rfl, rfl⟩ := taken
  exact claim_of_change known connects rfl change

end Runs

end GatewayClient
