import GatewayClient.Proofs.Connection.Straddling
import GatewayClient.Proofs.Manager.Exclusivity
import GatewayClient.Proofs.Subscription.Listeners

/-!
# GatewayClient.Proofs.Connection.Retrying

Connects that fail, and connects that come after them. A connect is refused at once if its client
id belongs to another live connection, or it fails when the gateway does not answer it:

```
refused   everything is as it was
failed    the client id is free again, and all that is left of the connect are the tab id
          and the server that it found
```

So the same connect can be begun again. It asks for the same URLs while the host gives it the same
root URL and the same tab id, and the stream that opens at last has all the channels that have
waited for it.
-/

namespace GatewayClient

/-! ## what a connect asks for -/

/-- What a storage has as the tab id of a client, if there is a storage. -/
def Host.storedTab (host : Host) (id : ClientId) : Option (Option String) :=
  host.storage.map (fun storage => storage.lookup (TabId.storageKey id))

/-- Whether two hosts are the same for the connects of a client: they have the same root URL, and
the same tab id stored for it. -/
structure Host.SameFor (host other : Host) (id : ClientId) : Prop where
  rootUrl : host.rootUrl = other.rootUrl
  storedTab : host.storedTab id = other.storedTab id

theorem Host.tab_resolveTab (host : Host) (id : ClientId) (moment : Moment) :
    (host.resolveTab id moment).2.tab = match host.storedTab id with
      | none => TabId.ofClient id
      | some none => TabId.mint id moment
      | some (some stored) => ⟨stored⟩ := by
  unfold resolveTab storedTab
  cases host.storage with
  | none => rfl
  | some storage =>
    cases found : storage.lookup (TabId.storageKey id) <;> simp [found]

theorem Host.rootUrl_resolveTab (host : Host) (id : ClientId) (moment : Moment) :
    (host.resolveTab id moment).1.rootUrl = host.rootUrl := by
  unfold resolveTab
  cases host.storage with
  | none => rfl
  | some storage =>
    cases found : storage.lookup (TabId.storageKey id) <;> simp [found]

/-- A tab id that is found in a storage is stored there from then on. -/
theorem Host.storedTab_resolveTab (host : Host) (id : ClientId) (moment : Moment) :
    (host.resolveTab id moment).1.storedTab id =
      host.storage.map (fun _ => some (host.resolveTab id moment).2.tab.name) := by
  unfold resolveTab storedTab
  cases kept : host.storage with
  | none => simp [kept]
  | some storage =>
    cases found : storage.lookup (TabId.storageKey id) <;>
      simp [kept, found, TabStorage.setItem]

/-- Whoever finds its tab id again finds the same one. -/
theorem Host.SameFor.tab_eq {host next : Host} {id : ClientId} {moment : Moment}
    (same : next.SameFor (host.resolveTab id moment).1 id) (later : Moment) :
    (next.resolveTab id later).2.tab = (host.resolveTab id moment).2.tab := by
  have stored := same.storedTab
  rw [Host.storedTab_resolveTab] at stored
  rw [Host.tab_resolveTab next, stored]
  cases kept : host.storage with
  | none => simp [Host.tab_resolveTab, Host.storedTab, kept]
  | some storage => rfl

namespace Connection

/-- Whether two states are of one client: what the caller chose for the connection is the same. -/
structure SameClient (c other : Connection) : Prop where
  clientId : c.clientId = other.clientId
  configuredUrl : c.configuredUrl = other.configuredUrl
  settings : c.settings = other.settings

/-- The connect that a connection begins on a host, if it finds a server. -/
def attemptOn (c : Connection) (host : Host) (moment : Moment) : Option ConnectAttempt :=
  (c.resolveServer host).map
    (fun server => ⟨server, (host.resolveTab c.clientId moment).2.tab, c.epoch⟩)

/-- The URLs that a connect asks for, the second one after the answer to the first. -/
def requests (c : Connection) (a : ConnectAttempt) (jsessionid : Option String) : List String :=
  [a.connectUrl, a.listenUrl (c.passedSession jsessionid).1]

theorem SameClient.passedSession_eq {c other : Connection} (same : c.SameClient other)
    (jsessionid : Option String) :
    (c.passedSession jsessionid).1 = (other.passedSession jsessionid).1 := by
  unfold passedSession
  rw [same.settings]
  cases other.settings.sendSessionId <;> cases jsessionid <;> rfl

/-- A connect that is begun again, on the host as the first one has left it, asks for the same. -/
theorem SameClient.attemptOn_eq {c other : Connection} {host next : Host} {moment : Moment}
    (same : c.SameClient other) (begun : other.attemptOn host moment = some a)
    (unchanged : next.SameFor (host.resolveTab other.clientId moment).1 other.clientId)
    (later : Moment) : c.attemptOn next later = some ⟨a.server, a.tab, c.epoch⟩ := by
  obtain ⟨server, found, rfl⟩ := Option.map_eq_some_iff.mp begun
  have root : next.rootUrl = host.rootUrl := by
    rw [unchanged.rootUrl, Host.rootUrl_resolveTab]
  have again : c.resolveServer next = some server := by
    rw [← found, resolveServer, resolveServer, same.configuredUrl, same.settings, root]
  rw [attemptOn, again, same.clientId, unchanged.tab_eq later]
  rfl

end Connection

namespace Runs

/-! ## how a connect begins, and how it fails -/

section steps

variable {s : System} {c : Connection}

/-- An action that may come next makes a step. -/
theorem exists_take? (known : s.manager.get? key = some c) (action : Action)
    (permitted : s.permits key c action = true) :
    ∃ s' e, s.take? key action = some (s', e) := by
  simp [System.take?, known, permitted]

/-- Registering is no concern of the host. -/
theorem host_register (m : Manager) (id : ClientId) (key : ConnectionKey) :
    (m.register id key).1.host = m.host := by
  unfold Manager.register
  split <;> rfl

/-- A connect whose client id belongs to another live connection is refused, and the manager stays
as it is. -/
theorem perform_beginConnect_contested (known : s.manager.get? key = some c)
    (idle : c.isOpening = false) (contested : s.manager.Contested c.clientId key)
    (pushes : Bool) (moment : Moment) :
    s.perform key c (.beginConnect pushes moment) =
      (s.manager, { commands := (s.manager.register c.clientId key).2.1
                    answer := .error (.alreadyConnected c.clientId) }) := by
  obtain ⟨same, answer⟩ := Manager.register_of_contested contested
  rcases registered : s.manager.register c.clientId key with ⟨m, log, result⟩
  rw [registered] at same answer
  obtain rfl : m = s.manager := same
  obtain rfl : result = .error (.alreadyConnected c.clientId) := answer
  simp [System.perform, Manager.beginConnect, known, idle, registered]

/-- A connect whose client id is free asks the server that it finds, for the tab id that it finds,
and the host keeps the tab id. -/
theorem perform_beginConnect_free (known : s.manager.get? key = some c)
    (idle : c.isOpening = false) (free : ¬ s.manager.Contested c.clientId key)
    (moment : Moment) :
    (s.perform key c (.beginConnect true moment)).2.attempt =
        c.attemptOn s.manager.host moment ∧
      (s.perform key c (.beginConnect true moment)).1.host =
        (s.manager.host.resolveTab c.clientId moment).1 := by
  obtain ⟨-, answer⟩ := Manager.register_of_free free
  have host := host_register s.manager c.clientId key
  rcases registered : s.manager.register c.clientId key with ⟨m, log, result⟩
  simp only [registered] at answer host
  subst answer
  rw [← host]
  have root := m.host.rootUrl_resolveTab c.clientId moment
  have server : Connection.resolveServer
      { c with tab := some (m.host.resolveTab c.clientId moment).2.tab }
      (m.host.resolveTab c.clientId moment).1 = c.resolveServer m.host := by
    rw [Connection.resolveServer, Connection.resolveServer, root]
  simp only [System.perform, Manager.beginConnect, known, idle, registered,
    Connection.beginConnect, server, Connection.attemptOn, Bool.false_eq_true, if_false]
  cases c.resolveServer m.host <;> exact ⟨rfl, rfl⟩

/-- A connect that failed gives up the client id, and is not under way any more. -/
theorem perform_endConnect_failed (known : s.manager.get? key = some c)
    (current : c.isOvertaken a = false) (failure : TransportError) :
    s.perform key c (.endConnect a (some failure)) =
      (((s.manager.set key c.failConnect).unregister c.clientId key).1,
        { commands := ((s.manager.set key c.failConnect).unregister c.clientId key).2 ++
            [c.connectFailed a failure]
          answer := .error (.transport failure) }) := by
  simp [System.perform, Manager.endConnect, known, current]

end steps

/-- A connect that begins leaves the tab id and the server on the connection, and nothing else. -/
theorem Change.leaves (change : Change around x action outcome y)
    (begun : outcome.attempt = some a) :
    (∃ moment, action = .beginConnect true moment) ∧ deeds outcome.commands = [] ∧
      y = ⟨{ x.connection with
        tab := some a.tab, serverUrl := some a.server, connecting := true }, false⟩ := by
  cases change with
  | connectBegun moment commands idle quiet =>
    obtain rfl : _ = a := Option.some.inj begun
    exact ⟨⟨moment, rfl⟩, quiet, rfl⟩
  | _ => contradiction

/-! ## what is kept between connects -/

/-- Every step leaves what the caller chose for its connection. -/
theorem Life.sameClient (life : Life trace x around) (past : e ∈ trace) :
    x.connection.SameClient e.before := by
  induction life with
  | born id url hook settings => contradiction
  | @next trace x around action outcome y life change key ih =>
    have kept : y.connection.SameClient x.connection :=
      ⟨change.clientId, change.configuredUrl, change.settings⟩
    rcases List.mem_append.mp past with old | new
    · have before := ih old
      exact ⟨kept.clientId.trans before.clientId,
        kept.configuredUrl.trans before.configuredUrl, kept.settings.trans before.settings⟩
    · rw [List.mem_singleton.mp new]
      exact kept

/-- Whether the gateway has opened a stream for a connection, and it was installed. -/
def Step.succeeds (e : Step) : Bool := e.opensStream && !e.discards

/-- A listener waits until a connect succeeds. -/
theorem Change.queue_kept (change : Change around x action outcome y) (key : ConnectionKey)
    (lost : Step.succeeds ⟨key, action, x.connection, outcome⟩ = false)
    (waits : channel ∈ x.connection.registry.queue) :
    channel ∈ y.connection.registry.queue := by
  cases change with
  | @subscribe c request commands named done =>
    by_cases there : request.channel ∈ c.registry.listeners
    · rw [(Connection.withSubscription_of_mem there).2.1]
      exact waits
    · rw [(Connection.withSubscription_of_not_mem there).2.1]
      split
      · exact waits
      · exact List.mem_append_left _ waits
  | connectOpened attempt id commands waited current done =>
    simp [Step.succeeds, Step.opensStream, Step.discards, Connection.isOvertaken, current] at lost
  | _ => exact waits

/-- What waited before a step waits still, unless a connect has succeeded since. -/
theorem Life.queue_kept (life : Life trace x around) (cut : trace = pre ++ e :: post)
    (lost : ∀ f ∈ e :: post, f.succeeds = false)
    (waits : channel ∈ e.before.registry.queue) :
    channel ∈ x.connection.registry.queue := by
  induction life generalizing post with
  | born id url hook settings => simp at cut
  | next life change key ih =>
    rcases snoc_eq_append_cons.mp cut with ⟨rfl, -, rfl⟩ | ⟨rest, rfl, shorter⟩
    · exact change.queue_kept key (lost _ List.mem_cons_self) waits
    · have earlier := ih shorter (fun f member => lost f (by
        rw [← List.cons_append]
        exact List.mem_append_left _ member))
      exact change.queue_kept key (lost _ (by simp)) earlier

/-- The stream that opens for a connect takes over what waited. -/
theorem Life.attached_openStream (life : Life trace ⟨c, false⟩ around)
    (closed : c.stream = none) (id : StreamId) :
    (c.registry.queue.foldl PushStream.attach ⟨id, []⟩).attached = c.registry.queue := by
  have listening := life.listening
  have distinct : c.registry.queue.Nodup := by
    rw [show c.registry.queue = c.registry.listeners from listening.closed rfl closed]
    exact listening.distinct
  exact PushStream.attached_foldl _ _ (by simpa using distinct)

/-! ## all runs -/

section runs

variable {s : System} {c : Connection}

/-- A refused connect leaves the whole system as it is. -/
theorem connect_refused (run : Run trace s) (known : s.manager.get? key = some c)
    (live : s.manager.isLive key = true) (contested : s.manager.Contested c.clientId key)
    (pushes : Bool) (moment : Moment) :
    ∃ e, s.take? key (.beginConnect pushes moment) = some (s, e) ∧
      e.outcome.answer = .error (.alreadyConnected c.clientId) := by
  have idle : c.isOpening = false := by
    by_contra opens
    obtain ⟨other, apart, owned, -⟩ := contested
    have mine := run.exclusive.holder known live (.inl (by simpa using opens))
    exact apart (Option.some.inj (owned.symm.trans mine))
  obtain ⟨s', e, taken⟩ := exists_take? known (.beginConnect pushes moment) live
  obtain ⟨x, y, -, -, around, -, -, -⟩ := change_of_take? taken
  obtain ⟨moved, performed, streams⟩ := perform_of_take? taken known
  rw [perform_beginConnect_contested known idle contested] at moved performed
  have nothing : (s.around key).after (.beginConnect pushes moment) e.outcome = s.around key := by
    rw [performed, Surroundings.after_of_deeds (deeds_register s.manager c.clientId key)]
    simp [Surroundings.consume]
  have same : s' = s := by
    obtain ⟨manager, surroundings, count⟩ := s'
    rw [nothing, Function.update_eq_self] at around
    obtain rfl : manager = s.manager := moved
    obtain rfl : surroundings = s.around := around
    obtain rfl : count = s.streams := streams
    rfl
  subst same
  exact ⟨e, taken, by rw [performed]⟩

/-- A connect that waits and was not overtaken waits for a live connection that is connecting, and
has no stream. -/
theorem life_of_current (run : Run trace s) (known : s.manager.get? key = some c)
    (waits : a ∈ (s.around key).attempts) (current : c.isOvertaken a = false) :
    Life (onKey key trace) ⟨c, false⟩ (s.around key) ∧ s.manager.isLive key = true ∧
      c.isOpening = true ∧ c.stream = none := by
  obtain ⟨dropped, alive, life⟩ := life_of_run run known
  obtain ⟨rfl, opening⟩ := life.mayStream (.inr ⟨a, waits, current⟩)
  have own : c.epoch = a.epoch := by simpa [Connection.isOvertaken] using current
  exact ⟨life, alive, opening, (life.connects.waiting waits own).2⟩

/-- A connect that failed leaves the connection as it was, and not under way any more. -/
theorem connect_failed (run : Run trace s) (known : s.manager.get? key = some c)
    (waits : a ∈ (s.around key).attempts) (current : c.isOvertaken a = false)
    (failure : TransportError) :
    ∃ s' e, s.take? key (.endConnect a (some failure)) = some (s', e) ∧
      e.outcome.answer = .error (.transport failure) ∧
      s'.manager.get? key = some { c with connecting := false } ∧ c.isConnected = false ∧
      (s'.around key).flushes = (s.around key).flushes ∧
      s.manager.owner? c.clientId = some key ∧
      ∀ id, s'.manager.owner? id = if id = c.clientId then none else s.manager.owner? id := by
  obtain ⟨-, live, opening, closed⟩ := life_of_current run known waits current
  have owned := run.exclusive.holder known live (.inl opening)
  obtain ⟨s', e, taken⟩ := exists_take? known (.endConnect a (some failure))
    (by simp [System.permits, live, waits])
  obtain ⟨dropped, y, -, -, around, -⟩ := change_of_known known taken
  obtain ⟨moved, performed, -⟩ := perform_of_take? taken known
  rw [perform_endConnect_failed known current] at moved performed
  have quiet : deeds e.outcome.commands = [] := by
    rw [performed]
    simp [Connection.connectFailed, Connection.log, Command.isNote]
  refine ⟨s', e, taken, by rw [performed], ?_, by simp [Connection.isConnected, closed], ?_,
    owned, ?_⟩
  · rw [moved, Manager.get?, members_unregister]
    exact get?_set known _
  · rw [around, Surroundings.after_of_deeds quiet]
    rfl
  · intro id
    rw [moved, Manager.owner?_unregister, Manager.owner?_set, Manager.owner?_set]
    simp only [owned, and_true]

/-- A connect that begins leaves everything else as it was. -/
theorem connect_begun {s' : System} (known : s.manager.get? key = some c)
    (taken : s.take? key (.beginConnect pushes moment) = some (s', b))
    (begun : b.outcome.attempt = some a) :
    s'.manager.get? key =
        some { c with tab := some a.tab, serverUrl := some a.server, connecting := true } ∧
      (s'.around key).flushes = (s.around key).flushes := by
  obtain ⟨dropped, y, -, known', around, change⟩ := change_of_known known taken
  obtain ⟨-, quiet, rfl⟩ := change.leaves begun
  refine ⟨known', ?_⟩
  rw [around, Surroundings.after_of_deeds quiet]
  rfl

/-- What a connect that began has asked for, and what the host became by it. -/
theorem attemptOn_of_begun {s' : System} (run : Run trace s) (known : s.manager.get? key = some c)
    (taken : s.take? key (.beginConnect pushes moment) = some (s', b))
    (begun : b.outcome.attempt = some a) :
    c.attemptOn s.manager.host moment = some a ∧
      s'.manager.host = (s.manager.host.resolveTab c.clientId moment).1 := by
  obtain ⟨dropped, y, member, -, -, change⟩ := change_of_known known taken
  have connects := (run.lives.life member).connects
  have idle := (change.begun begun).1
  have free : ¬ s.manager.Contested c.clientId key := by
    cases claim_of_take? taken member connects change with
    | kept same unbegun calm alive opening => simp [unbegun] at begun
    | refused contested same unbegun alive answer => simp [unbegun] at begun
    | claimed free taken live answer => exact free
    | released gone closed calm begins => exact absurd rfl (begins pushes moment)
  obtain ⟨⟨moment, called⟩, -, -⟩ := change.leaves begun
  obtain ⟨rfl, rfl⟩ := Action.beginConnect.inj called
  obtain ⟨moved, performed, -⟩ := perform_of_take? taken known
  obtain ⟨attempt, host⟩ := perform_beginConnect_free known idle free moment
  rw [performed, attempt] at begun
  exact ⟨begun, by rw [moved, host]⟩

/-- On a host that has not changed for its client, a connect that is begun again asks for what the
first one asked for. -/
theorem connect_again {s' t : System} {c' : Connection} (run : Run trace s)
    (known : s.manager.get? key = some c)
    (taken : s.take? key (.beginConnect pushes moment) = some (s', b))
    (begun : b.outcome.attempt = some a) (run' : Run (trace ++ b :: more) t)
    (known' : t.manager.get? key = some c') (live : t.manager.isLive key = true)
    (idle : c'.isOpening = false) (free : ¬ t.manager.Contested c'.clientId key)
    (unchanged : t.manager.host.SameFor s'.manager.host c.clientId) (later : Moment) :
    ∃ t' e a', t.take? key (.beginConnect true later) = some (t', e) ∧
      e.outcome.attempt = some a' ∧
      ∀ jsessionid, c'.requests a' jsessionid = c.requests a jsessionid := by
  obtain ⟨asked, host⟩ := attemptOn_of_begun run known taken begun
  rw [host] at unchanged
  obtain ⟨-, shape, -⟩ := perform_of_take? taken known
  have past : b ∈ onKey key (trace ++ b :: more) := by
    rw [shape]
    simp [onKey]
  obtain ⟨dropped, -, life⟩ := life_of_run run' known'
  have same : c'.SameClient c := by
    have kept := life.sameClient past
    rw [shape] at kept
    exact kept
  obtain ⟨t', e, taken'⟩ := exists_take? known' (.beginConnect true later) live
  obtain ⟨-, performed, -⟩ := perform_of_take? taken' known'
  have attempt := (perform_beginConnect_free known' idle free later).1
  rw [same.attemptOn_eq asked unchanged later] at attempt
  refine ⟨t', e, _, taken', by rw [performed, attempt], fun jsessionid => ?_⟩
  rw [Connection.requests, Connection.requests, same.passedSession_eq jsessionid]
  rfl

/-- A connect that ends well attaches what waits, and what has waited since the last connect
that ended so. -/
theorem connect_attaches (run : Run trace s) (known : s.manager.get? key = some c)
    (waits : a ∈ (s.around key).attempts) (current : c.isOvertaken a = false) :
    ∃ s' e c' stream, s.take? key (.endConnect a none) = some (s', e) ∧
      s'.manager.get? key = some c' ∧ c'.stream = some stream ∧
      (∀ channel ∈ c.registry.queue, channel ∈ stream.attached) ∧
      ∀ pre first post, onKey key trace = pre ++ first :: post →
        (∀ f ∈ first :: post, f.succeeds = false) →
        ∀ channel ∈ first.before.registry.queue, channel ∈ stream.attached := by
  obtain ⟨life, live, -, closed⟩ := life_of_current run known waits current
  obtain ⟨s', e, taken⟩ := exists_take? known (.endConnect a none)
    (by simp [System.permits, live, waits])
  obtain ⟨moved, -, -⟩ := perform_of_take? taken known
  rw [perform_endConnect_opened known current] at moved
  have attached := life.attached_openStream closed s.streams
  refine ⟨s', e, _, c.registry.queue.foldl PushStream.attach ⟨s.streams, []⟩, taken,
    by rw [moved, get?_set known], by rw [(c.openStream_eq a s.streams).1], ?_, ?_⟩
  · rw [attached]
    exact fun _ => id
  · intro pre first post cut lost channel waited
    rw [attached]
    exact life.queue_kept cut lost waited

end runs

/-- **Retrying**: a connect that is refused because its client id belongs to another live connection
changes nothing at all. A connect that fails and was not overtaken leaves the connection, with its
flush tasks, as it was just before, and as it was before it began but for the tab id and the server
that were found; the connection is neither connecting nor connected, and its client id is free.
A later connect asks for the same URLs, if the host has not changed for the client; and when one
ends well, what waits is attached, with all that has waited since the last one that did. -/
theorem failed_connect_retried (run : Run trace s) (known : s.manager.get? key = some c) :
    (s.manager.isLive key = true → s.manager.Contested c.clientId key → ∀ pushes moment,
      ∃ e, s.take? key (.beginConnect pushes moment) = some (s, e) ∧
        e.outcome.answer = .error (.alreadyConnected c.clientId)) ∧
    (∀ a ∈ (s.around key).attempts, c.isOvertaken a = false → ∀ failure,
      ∃ s' e, s.take? key (.endConnect a (some failure)) = some (s', e) ∧
        e.outcome.answer = .error (.transport failure) ∧
        s'.manager.get? key = some { c with connecting := false } ∧ c.isConnected = false ∧
        (s'.around key).flushes = (s.around key).flushes ∧
        s.manager.owner? c.clientId = some key ∧
        ∀ id, s'.manager.owner? id = if id = c.clientId then none else s.manager.owner? id) ∧
    (∀ pushes moment s' b a, s.take? key (.beginConnect pushes moment) = some (s', b) →
      b.outcome.attempt = some a →
      s'.manager.get? key =
          some { c with tab := some a.tab, serverUrl := some a.server, connecting := true } ∧
        (s'.around key).flushes = (s.around key).flushes ∧
        ∀ more t c', Run (trace ++ b :: more) t → t.manager.get? key = some c' →
          t.manager.isLive key = true → c'.isOpening = false →
          ¬ t.manager.Contested c'.clientId key →
          t.manager.host.SameFor s'.manager.host c.clientId → ∀ later,
          ∃ t' e a', t.take? key (.beginConnect true later) = some (t', e) ∧
            e.outcome.attempt = some a' ∧
            ∀ jsessionid, c'.requests a' jsessionid = c.requests a jsessionid) ∧
    ∀ a ∈ (s.around key).attempts, c.isOvertaken a = false →
      ∃ s' e c' stream, s.take? key (.endConnect a none) = some (s', e) ∧
        s'.manager.get? key = some c' ∧ c'.stream = some stream ∧
        (∀ channel ∈ c.registry.queue, channel ∈ stream.attached) ∧
        ∀ pre first post, onKey key trace = pre ++ first :: post →
          (∀ f ∈ first :: post, f.succeeds = false) →
          ∀ channel ∈ first.before.registry.queue, channel ∈ stream.attached := by
  refine ⟨connect_refused run known, fun a => connect_failed run known, ?_,
    fun a => connect_attaches run known⟩
  intro pushes moment s' b a taken begun
  obtain ⟨left, flushes⟩ := connect_begun known taken begun
  exact ⟨left, flushes, fun more t c' => connect_again run known taken begun⟩

/-- How a caller subscribes to a channel. -/
def subscribing (channel : String) : Action :=
  .subscribe ⟨channel, none, ⟨"callback"⟩, none⟩

/-- The first connect of a caller that has nothing but a URL. -/
def firstAttempt : ConnectAttempt := ⟨"http://gateway", ⟨"client"⟩, 0⟩

/-- A caller subscribes before and during a connect that fails. It connects again, which asks for
the same URLs, and both channels are attached. -/
theorem failed_connect_retried_unlucky :
    ∃ s c s' b m t e c' t' e' a u f d stream, Run (System.lone.play 0 [subscribing "job"]).2 s ∧
      s.manager.get? 0 = some c ∧
      s.take? 0 (.beginConnect true ⟨0, 0⟩) = some (s', b) ∧
      b.outcome.attempt = some firstAttempt ∧
      m = (s'.play 0 [subscribing "build"]).1 ∧
      m.take? 0 (.endConnect firstAttempt (some .http)) = some (t, e) ∧
      e.outcome.answer = .error (.transport .http) ∧ t.manager.get? 0 = some c' ∧
      t.take? 0 (.beginConnect true ⟨1, 0⟩) = some (t', e') ∧ e'.outcome.attempt = some a ∧
      (∀ jsessionid, c'.requests a jsessionid = c.requests firstAttempt jsessionid) ∧
      t'.take? 0 (.endConnect a none) = some (u, f) ∧ u.manager.get? 0 = some d ∧
      d.stream = some stream ∧ "job" ∈ stream.attached ∧ "build" ∈ stream.attached := by
  have run : Run (System.lone.play 0 [subscribing "job"]).2
      (System.lone.play 0 [subscribing "job"]).1 := run_lone.play 0 [subscribing "job"]
  have course : ((System.lone.play 0 [subscribing "job"]).1.take? 0
      (.beginConnect true ⟨0, 0⟩)).any (fun (s', b) =>
        b.outcome.attempt == some firstAttempt &&
        ((s'.play 0 [subscribing "build"]).1.manager.get? 0).any (fun c =>
          !c.isOvertaken firstAttempt) &&
        ((s'.play 0 [subscribing "build"]).1.around 0).attempts.contains firstAttempt &&
        ((s'.play 0 [subscribing "build"]).1.take? 0
          (.endConnect firstAttempt (some .http))).any (fun (t, _) =>
            t.manager.isLive 0 && t.manager.host == s'.manager.host &&
            (t.take? 0 (.beginConnect true ⟨1, 0⟩)).any (fun (t', e') =>
              e'.outcome.attempt.any (fun a => (t'.around 0).attempts.contains a &&
                (t'.manager.get? 0).any (fun c => !c.isOvertaken a &&
                  c.registry.queue == ["job", "build"]))))) := by
    decide +kernel
  simp only [Option.any_eq_true, Bool.and_eq_true, Bool.not_eq_true', beq_iff_eq,
    List.contains_iff_mem] at course
  obtain ⟨⟨s', b⟩, taken, ⟨⟨begun, c₁, known₁, current⟩, waits⟩, ⟨t, e⟩, failed, ⟨live, host⟩,
    ⟨t', e'⟩, again, a, attempt, waits', c₂, known₂, current', queue⟩ := course
  obtain ⟨c, known⟩ : ∃ c, (System.lone.play 0 [subscribing "job"]).1.manager.get? 0 = some c := by
    obtain ⟨x, y, member, -, -⟩ := get?_of_take? taken
    exact ⟨x.connection, get?_eq member⟩
  -- the connect fails
  have run₁ := (run.step taken).play 0 [subscribing "build"]
  obtain ⟨t₀, e₀, failed₀, answer, left, closed, -, -, owner⟩ :=
    (failed_connect_retried run₁ known₁).2.1 firstAttempt waits current .http
  obtain ⟨rfl, rfl⟩ := Prod.mk.inj (Option.some.inj (failed₀.symm.trans failed))
  -- it is begun again
  have run₂ := run₁.step failed
  have idle : ({ c₁ with connecting := false } : Connection).isOpening = false := by
    simpa [Connection.isOpening, Connection.isConnected] using closed
  have free : ¬ t₀.manager.Contested c₁.clientId 0 := by
    rintro ⟨other, -, owned, -⟩
    simp [owner] at owned
  obtain ⟨t₁, e₁, a₁, again₁, attempt₁, same⟩ :=
    ((failed_connect_retried run known).2.2.1 true ⟨0, 0⟩ s' b firstAttempt taken begun).2.2
      _ t₀ _ (by simpa using run₂) left live idle free ⟨by rw [host], by rw [host]⟩ ⟨1, 0⟩
  obtain ⟨rfl, rfl⟩ := Prod.mk.inj (Option.some.inj (again₁.symm.trans again))
  obtain rfl : a₁ = a := Option.some.inj (attempt₁.symm.trans attempt)
  -- and it ends well
  obtain ⟨u, f, d, stream, ended, known₃, opened, attached, -⟩ :=
    (failed_connect_retried (run₂.step again) known₂).2.2.2 a₁ waits' current'
  exact ⟨_, c, s', b, _, t₀, e₀, _, t₁, e₁, a₁, u, f, d, stream, run, known, taken, begun, rfl,
    failed, answer, left, again, attempt, same, ended, known₃, opened,
    attached _ (by simp [queue]), attached _ (by simp [queue])⟩

end Runs

end GatewayClient
