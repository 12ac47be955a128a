import GatewayClient.Proofs.Manager.Registrations

/-!
# GatewayClient.Proofs.Manager.Exclusivity

A client id belongs to one live connection at most. Streams, epochs and connects are private to
each connection, the registrations are shared; what ties them together is

```
connecting or connected  →  the client id belongs to the connection
the client id belongs to a connection  →  the connection is live and has that id
```

so that of all connections with one id a single one can be connecting, connected or registered.
-/

namespace GatewayClient.Runs

/-! ## what a step does to its connection -/

/-- Whoever is connecting is opening. -/
theorem isOpening_of_connecting {c : Connection} (connecting : c.connecting = true) :
    c.isOpening = true := by
  rw [Connection.isOpening, connecting, Bool.or_true]

/-- A connection begins to open by a connect and in no other way. -/
theorem Change.opening (change : Change around x action outcome y)
    (connects : Connects x.connection around) (opens : y.connection.isOpening = true) :
    x.connection.isOpening = true ∨ outcome.attempt.isSome = true := by
  cases change with
  | subscribe request commands named done =>
    left
    simpa [Connection.isOpening, Connection.isConnected, Connection.withSubscription,
      Connection.streamFor, apply_ite Option.isSome] using opens
  | connectBegun moment commands idle quiet => exact .inr rfl
  | connectOpened attempt id commands waited current done =>
    exact .inl (isOpening_of_connecting (connects.waiting waited current).1)
  | connectFailed attempt e commands waited current quiet =>
    exact .inl (isOpening_of_connecting (connects.waiting waited current).1)
  | disconnectClosed commands closed quiet =>
    simp [Connection.isOpening, Connection.isConnected, closed] at opens
  | disconnectOpen stream commands opened done =>
    simp [Connection.isOpening, Connection.isConnected] at opens
  | drop commands done =>
    exact .inl (isOpening_of_connecting (by
      simpa [Connection.isOpening, Connection.isConnected] using opens))
  | _ => exact .inl opens

/-- A connection that was given up has no stream, and no connect waits for it. -/
theorem Life.gone (life : Life trace x around) (dropped : x.dropped = true) :
    x.connection.stream = none ∧ around.attempts = [] := by
  induction life with
  | born id url hook settings => contradiction
  | @next trace x around action outcome y life change key ih =>
    rw [Surroundings.attempts_after]
    cases change with
    | drop commands done => exact ⟨rfl, rfl⟩
    | beginPost batch rest idle running waiting => exact ih dropped
    | endPost batch result commands posting quiet => exact ih dropped
    | loseSender => exact ih dropped
    | _ => contradiction

/-! ## the invariant -/

/-- The registrations and the connections agree: an id belongs to a live connection that has it,
and a live connection that is connecting or connected has its id. -/
structure Exclusive (s : System) : Prop where
  owner {id : ClientId} : s.manager.owner? id = some key →
    ∃ c, s.manager.members[key]? = some ⟨c, false⟩ ∧ c.clientId = id
  opening : s.manager.members[key]? = some ⟨c, false⟩ → c.isOpening = true →
    s.manager.owner? c.clientId = some key

namespace Exclusive

variable {s s' : System} {x y : Member} {id : ClientId}

/-- Whom an id belongs to is live. -/
theorem isLive (exclusive : Exclusive s) (owned : s.manager.owner? id = some key) :
    s.manager.isLive key = true := by
  obtain ⟨c, known, -⟩ := exclusive.owner owned
  rw [isLive_eq known]
  rfl

theorem find?_eq (exclusive : Exclusive s) (owned : s.manager.owner? id = some key) :
    s.manager.find? id = some key := by
  rw [Manager.find?, owned, Option.filter_some, if_pos (exclusive.isLive owned)]

/-- Making a connection registers nobody. -/
theorem connection (exclusive : Exclusive s) (config : ConnectConfig) :
    Exclusive { s with manager := (s.manager.connection config).1 } := by
  obtain ⟨name, url, hook, settings, made⟩ := members_connection s.manager config
  have same : ∀ i, (s.manager.connection config).1.owner? i = s.manager.owner? i := by
    obtain ⟨name, url, hook⟩ := config
    cases name <;> exact fun _ => rfl
  constructor
  · intro key id owned
    obtain ⟨c, known, own⟩ := exclusive.owner ((same id).symm.trans owned)
    refine ⟨c, ?_, own⟩
    rw [made, List.getElem?_append_left (List.getElem?_eq_some_iff.mp known).1, known]
  · intro key c known opens
    rw [same]
    rw [made, List.getElem?_append] at known
    split at known
    · exact exclusive.opening known opens
    · -- the new connection is neither connecting nor connected
      have new := List.mem_of_getElem? known
      rw [List.mem_singleton, Member.mk.injEq] at new
      rw [new.1] at opens
      contradiction

/-- A step leaves the ids of other connections with them. -/
theorem keeps (exclusive : Exclusive s)
    (claim : Claim s.manager s'.manager key x y action outcome)
    (owned : s.manager.owner? id = some other) (apart : other ≠ key) :
    s'.manager.owner? id = some other := by
  cases claim with
  | kept same begun calm alive opening => rw [same, owned]
  | refused contested same begun alive answer => rw [same, owned]
  | claimed free taken live answer =>
    rw [taken]
    by_cases own : id = x.connection.clientId
    · subst own
      exact absurd ⟨other, apart, owned, exclusive.isLive owned⟩ free
    · rw [if_neg own, owned]
  | released gone closed calm begins =>
    rw [gone, if_neg, owned]
    rintro ⟨rfl, mine⟩
    exact apart (Option.some.inj (owned.symm.trans mine))

/-- Whoever has an id after a step of another connection had it before. -/
theorem had (claim : Claim s.manager s'.manager key x y action outcome)
    (owned : s'.manager.owner? id = some other) (apart : other ≠ key) :
    s.manager.owner? id = some other := by
  cases claim with
  | kept same begun calm alive opening => rw [← same, owned]
  | refused contested same begun alive answer => rw [← same, owned]
  | claimed free taken live answer =>
    rw [taken] at owned
    split at owned
    · exact absurd (Option.some.inj owned).symm apart
    · exact owned
  | released gone closed calm begins =>
    rw [gone] at owned
    split at owned
    · contradiction
    · exact owned

/-- A connection that has an id after its step is live, and the id is its own. -/
theorem own (exclusive : Exclusive s) (known : s.manager.members[key]? = some x)
    (claim : Claim s.manager s'.manager key x y action outcome)
    (owned : s'.manager.owner? id = some key) :
    y.dropped = false ∧ x.connection.clientId = id := by
  have before : ∀ i, s.manager.owner? i = some key →
      x.dropped = false ∧ x.connection.clientId = i := by
    intro i mine
    obtain ⟨c, found, named⟩ := exclusive.owner mine
    obtain rfl : x = ⟨c, false⟩ := Option.some.inj (known.symm.trans found)
    exact ⟨rfl, named⟩
  cases claim with
  | kept same begun calm alive opening =>
    rw [same] at owned
    rw [alive]
    exact before id owned
  | refused contested same begun alive answer =>
    rw [same] at owned
    rw [alive]
    exact before id owned
  | claimed free taken live answer =>
    rw [taken] at owned
    split at owned
    · next own => exact ⟨live, own.symm⟩
    · exact ⟨live, (before id owned).2⟩
  | released gone closed calm begins =>
    rw [gone] at owned
    split at owned
    · contradiction
    · next apart =>
      obtain rfl := (before id owned).2
      exact absurd ⟨rfl, owned⟩ apart

/-- A connection that is opening after its step has its id. -/
theorem opens (exclusive : Exclusive s) (known : s.manager.members[key]? = some ⟨c, false⟩)
    (claim : Claim s.manager s'.manager key ⟨c, false⟩ y action outcome)
    (change : Change (s.around key) ⟨c, false⟩ action outcome y)
    (connects : Connects c (s.around key)) (live : y.dropped = false)
    (opens : y.connection.isOpening = true) : s'.manager.owner? c.clientId = some key := by
  have before : outcome.attempt = none → s.manager.owner? c.clientId = some key := by
    intro begun
    rcases change.opening connects opens with opening | began
    · exact exclusive.opening known opening
    · rw [begun] at began
      contradiction
  cases claim with
  | kept same begun calm alive opening => rw [same, before begun]
  | refused contested same begun alive answer => rw [same, before begun]
  | claimed free taken live answer => rw [taken, if_pos rfl]
  | released gone closed calm begins =>
    rcases closed with dropped | closed
    · rw [live] at dropped
      contradiction
    · rw [opens] at closed
      contradiction

/-- A step keeps the registrations and the connections in agreement. -/
theorem step (exclusive : Exclusive s) (known : s.manager.members[key]? = some x)
    (moved : s'.manager.members = s.manager.members.set key y)
    (claim : Claim s.manager s'.manager key x y action outcome)
    (change : Change (s.around key) x action outcome y)
    (connects : Connects x.connection (s.around key)) : Exclusive s' := by
  have bound : key < s.manager.members.length := (List.getElem?_eq_some_iff.mp known).1
  have here : s'.manager.members[key]? = some y := by rw [moved, List.getElem?_set_self bound]
  have there : ∀ other, other ≠ key →
      s'.manager.members[other]? = s.manager.members[other]? := by
    intro other apart
    rw [moved, List.getElem?_set_ne (Ne.symm apart)]
  constructor
  · intro other id owned
    by_cases mine : other = key
    · subst mine
      obtain ⟨live, named⟩ := exclusive.own known claim owned
      rw [← change.clientId] at named
      refine ⟨y.connection, ?_, named⟩
      rw [here, ← live]
    · rw [there other mine]
      exact exclusive.owner (had claim owned mine)
  · intro other c found opening
    by_cases mine : other = key
    · subst mine
      obtain rfl : y = ⟨c, false⟩ := Option.some.inj (here.symm.trans found)
      have alive : x.dropped = false := change.alive rfl
      obtain ⟨before, dropped⟩ := x
      obtain rfl : dropped = false := alive
      have named : c.clientId = before.clientId := change.clientId
      rw [named]
      exact exclusive.opens known claim change connects rfl opening
    · rw [there other mine] at found
      exact exclusive.keeps claim (exclusive.opening found opening) mine

end Exclusive

/-- In every run the registrations and the connections agree. -/
theorem Run.exclusive (run : Run trace s) : Exclusive s := by
  induction run with
  | start host settings =>
    constructor
    · intro key id owned
      contradiction
    · intro key c known
      simp [System.start, Manager.create] at known
  | connection run config exclusive => exact exclusive.connection config
  | configure run patch exclusive => exact ⟨exclusive.owner, exclusive.opening⟩
  | generate run exclusive => exact ⟨exclusive.owner, exclusive.opening⟩
  | rehost run host exclusive => exact ⟨exclusive.owner, exclusive.opening⟩
  | step run taken exclusive =>
    obtain ⟨x, y, known, moved, -, -, -, change⟩ := change_of_take? taken
    have connects := (run.lives.life known).connects
    exact exclusive.step known moved (claim_of_take? taken known connects change) change connects

/-! ## one connection for each id -/

namespace System

/-- Whether a connection has a push stream, or a connect waits that can still open one. -/
def MayStream (s : System) (key : ConnectionKey) (c : Connection) : Prop :=
  c.isConnected = true ∨ ∃ a ∈ (s.around key).attempts, c.isOvertaken a = false

/-- Whether a connection is connecting, connected, or registered, if only as an inert one. -/
def Holds (s : System) (key : ConnectionKey) (c : Connection) : Prop :=
  c.isOpening = true ∨ s.manager.owner? c.clientId = some key

end System

/-- A connection that may stream is opening, and was not given up. -/
theorem Life.mayStream (life : Life trace ⟨c, dropped⟩ around)
    (may : c.isConnected = true ∨ ∃ a ∈ around.attempts, c.isOvertaken a = false) :
    dropped = false ∧ c.isOpening = true := by
  have alive : dropped = false := by
    by_contra gone
    obtain ⟨closed, none⟩ := life.gone (by simpa using gone)
    rcases may with opened | ⟨a, waits, -⟩
    · rw [Connection.isConnected, show c.stream = Option.none from closed] at opened
      contradiction
    · rw [none] at waits
      contradiction
  refine ⟨alive, ?_⟩
  rcases may with opened | ⟨a, waits, current⟩
  · rw [Connection.isOpening, opened, Bool.true_or]
  · have own : c.epoch = a.epoch := by simpa [Connection.isOvertaken] using current
    exact isOpening_of_connecting (life.connects.waiting waits own).1

/-- A live connection that is connecting, connected or registered has its client id. -/
theorem Exclusive.holder (exclusive : Exclusive s) (known : s.manager.get? key = some c)
    (live : s.manager.isLive key = true) (holds : s.Holds key c) :
    s.manager.owner? c.clientId = some key := by
  obtain ⟨⟨c, dropped⟩, member, rfl⟩ := Option.map_eq_some_iff.mp known
  obtain rfl : dropped = false := by simpa [isLive_eq member] using live
  exact holds.elim (exclusive.opening member) id

/-- **Exclusivity**: a connection that has a push stream, or that a connect can still give one,
is the one that its client id belongs to; of the live connections with one client id a single one
is connecting, connected or registered; a connect is refused exactly if the id belongs to another
live connection; and no step of a connection takes an id away from another one. -/
theorem client_id_exclusive (run : Run trace s) :
    (∀ key c, s.manager.get? key = some c → s.MayStream key c →
        s.manager.find? c.clientId = some key) ∧
      (∀ k₁ k₂ c₁ c₂, s.manager.get? k₁ = some c₁ → s.manager.get? k₂ = some c₂ →
        s.manager.isLive k₁ = true → s.manager.isLive k₂ = true → c₁.clientId = c₂.clientId →
        s.Holds k₁ c₁ → s.Holds k₂ c₂ → k₁ = k₂) ∧
      (∀ key c pushes moment s' e, s.manager.get? key = some c →
        s.take? key (.beginConnect pushes moment) = some (s', e) →
        (e.outcome.answer = .error (.alreadyConnected c.clientId) ↔
          s.manager.Contested c.clientId key) ∧
        (e.outcome.answer = .ok () ↔ ¬ s.manager.Contested c.clientId key)) ∧
      (∀ key action s' e, s.take? key action = some (s', e) →
        ∀ id other, other ≠ key → s.manager.owner? id = some other →
          s'.manager.owner? id = some other) := by
  have exclusive := run.exclusive
  refine ⟨?_, ?_, ?_, ?_⟩
  · intro key c known may
    obtain ⟨⟨c, dropped⟩, member, rfl⟩ := Option.map_eq_some_iff.mp known
    obtain ⟨rfl, opens⟩ := (run.lives.life member).mayStream may
    exact exclusive.find?_eq (exclusive.opening member opens)
  · intro k₁ k₂ c₁ c₂ known₁ known₂ live₁ live₂ same holds₁ holds₂
    have owned₁ := exclusive.holder known₁ live₁ holds₁
    have owned₂ := exclusive.holder known₂ live₂ holds₂
    rw [same, owned₂, Option.some.injEq] at owned₁
    exact owned₁.symm
  · intro key c pushes moment s' e got taken
    obtain ⟨x, y, known, -, -, -, live, change⟩ := change_of_take? taken
    obtain rfl : x.connection = c := Option.some.inj ((get?_eq known).symm.trans got)
    have connects := (run.lives.life known).connects
    cases claim_of_take? taken known connects change with
    | kept same begun calm alive opening =>
      obtain ⟨opens, ok⟩ := opening pushes moment rfl
      have free : ¬ s.manager.Contested x.connection.clientId key := by
        rintro ⟨other, apart, owned, -⟩
        have mine := exclusive.holder got live (.inl opens)
        exact apart (Option.some.inj (owned.symm.trans mine))
      simp [ok, free]
    | refused contested same begun alive answer => simp [answer, contested]
    | claimed free taken live answer => simp [answer, free]
    | released gone closed calm begins => exact absurd rfl (begins pushes moment)
  · intro key action s' e taken id other apart owned
    obtain ⟨x, y, known, -, -, -, -, change⟩ := change_of_take? taken
    have connects := (run.lives.life known).connects
    exact exclusive.keeps (claim_of_take? taken known connects change) owned apart

/-- How both of two twins are made. -/
def twin : ConnectConfig := ⟨some ⟨"client"⟩, some "http://gateway", none⟩

/-- The system of a client that made two connections with one client id, and connected the first
of them. -/
def twins : System × List Step :=
  System.play { System.lone with manager := (System.lone.manager.connection twin).1 } 0
    (tour.take 3)

theorem run_twins : Run twins.2 twins.1 := (run_lone.connection twin).play 0 (tour.take 3)

/-- The first of two twins has the client id, and keeps it when the second is refused. -/
theorem client_id_exclusive_of_twins :
    ∃ c₀ c₁ s' e, twins.1.manager.get? 0 = some c₀ ∧ twins.1.manager.get? 1 = some c₁ ∧
      c₀.isConnected = true ∧ c₀.clientId = c₁.clientId ∧
      twins.1.manager.find? c₀.clientId = some 0 ∧
      twins.1.take? 1 (.beginConnect true ⟨0, 0⟩) = some (s', e) ∧
      e.outcome.answer = .error (.alreadyConnected c₁.clientId) ∧
      s'.manager.owner? c₀.clientId = some 0 := by
  have first : (twins.1.manager.get? 0).any (fun c =>
      c.isConnected && c.clientId == ⟨"client"⟩) := by
    decide +kernel
  have second : (twins.1.manager.get? 1).any (fun c => c.clientId == ⟨"client"⟩) := by
    decide +kernel
  have begins : (twins.1.take? 1 (.beginConnect true ⟨0, 0⟩)).isSome := by decide +kernel
  rw [Option.any_eq_true] at first second
  obtain ⟨c₀, known₀, opened⟩ := first
  obtain ⟨c₁, known₁, named₁⟩ := second
  obtain ⟨⟨s', e⟩, taken⟩ := Option.isSome_iff_exists.mp begins
  simp only [Bool.and_eq_true, beq_iff_eq] at opened named₁
  have same : c₀.clientId = c₁.clientId := opened.2.trans named₁.symm
  obtain ⟨streams, -, refused, keeps⟩ := client_id_exclusive run_twins
  have found := streams 0 c₀ known₀ (.inl opened.1)
  obtain ⟨owned, live⟩ := Option.filter_eq_some_iff.mp found
  have contested : twins.1.manager.Contested c₁.clientId 1 :=
    ⟨0, by decide, by rw [← same]; exact owned, live⟩
  exact ⟨c₀, c₁, s', e, known₀, known₁, opened.1, same, found, taken,
    (refused 1 c₁ true ⟨0, 0⟩ s' e known₁ taken).1.mpr contested,
    keeps 1 _ s' e taken c₀.clientId 0 (by decide) owned⟩

end GatewayClient.Runs
