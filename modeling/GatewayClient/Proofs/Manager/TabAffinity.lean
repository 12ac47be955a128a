import GatewayClient.Proofs.Connection.Retrying
import GatewayClient.Proofs.Text.Numerals

/-!
# GatewayClient.Proofs.Manager.TabAffinity

A reloaded tab finds its dispatchers again. In the storage of a tab every client has one entry,
which the first of its connects mints and all later ones find:

```
key    "jenkins-sse-gateway-client-" client
value  client "-" time "-" token
```

There is no dash in a time or in a token. So a tab id is cut at its last two dashes, and what
stands before them is the client that it was minted for, even if that client's own id looks like a
tab id.
-/

namespace GatewayClient

/-! ## minted ids -/

/-- A text is cut at its last separator in one way only. -/
theorem append_cons_inj_of_not_mem {sep : α} {xs ys zs ws : List α} (free : sep ∉ ys)
    (free' : sep ∉ ws) : xs ++ sep :: ys = zs ++ sep :: ws ↔ xs = zs ∧ ys = ws := by
  constructor
  · intro same
    rcases List.append_eq_append_iff.mp same with ⟨as, rfl, rest⟩ | ⟨as, rfl, rest⟩
    · cases as <;> simp_all
    · cases as <;> simp_all
  · rintro ⟨rfl, rfl⟩
    rfl

namespace TabId

theorem toList_mint (id : ClientId) (m : Moment) : (mint id m).name.toList =
    id.name.toList ++ '-' :: Text.numeral 10 m.millis ++ '-' :: Text.numeral 36 m.token.toNat := by
  simp [mint, mintedSuffix, Text.decimal]

/-- A tab id is minted for one client only. -/
theorem client_of_mint {id id' : ClientId} {m m' : Moment} (same : mint id m = mint id' m') :
    id = id' := by
  have texts := congrArg (fun tab => tab.name.toList) same
  simp only [toList_mint] at texts
  rw [append_cons_inj_of_not_mem (Text.dash_not_mem_numeral (by decide) (by decide) _)
    (Text.dash_not_mem_numeral (by decide) (by decide) _)] at texts
  have front := texts.1
  rw [append_cons_inj_of_not_mem (Text.dash_not_mem_numeral (by decide) (by decide) _)
    (Text.dash_not_mem_numeral (by decide) (by decide) _), String.toList_inj] at front
  exact congrArg ClientId.mk front.1

/-- Each client has a key of its own. -/
theorem storageKey_inj {id id' : ClientId} : storageKey id = storageKey id' ↔ id = id' := by
  rw [storageKey, storageKey, String.append_right_inj, ClientId.mk.injEq]

end TabId

/-- What is stored is found under its key, and under other keys what was there. -/
theorem TabStorage.lookup_setItem (storage : TabStorage) (key value other : String) :
    (storage.setItem key value).lookup other =
      if other = key then some value else storage.lookup other := by
  rw [setItem, List.lookup_cons, lookup_filter_ne]
  by_cases same : other = key
  · simp [same]
  · simp [same, beq_false_of_ne same]

/-! ## connects of a tab -/

section resolving

variable {host : Host} {storage : TabStorage} {id : ClientId} {value : String}

/-- A tab id that is stored is found, and none is minted. -/
theorem Host.resolveTab_stored (hosted : host.storage = some storage)
    (there : storage.lookup (TabId.storageKey id) = some value) (moment : Moment) :
    host.resolveTab id moment = (host, ⟨⟨value⟩, false⟩) := by
  simp [resolveTab, hosted, there]

/-- Where none is stored, one is minted and stored. -/
theorem Host.resolveTab_absent (hosted : host.storage = some storage)
    (absent : storage.lookup (TabId.storageKey id) = none) (moment : Moment) :
    host.resolveTab id moment =
      ({ host with
          storage := some (storage.setItem (TabId.storageKey id) (TabId.mint id moment).name) },
        ⟨TabId.mint id moment, true⟩) := by
  simp [resolveTab, hosted, absent]

end resolving

/-- A connect that begins leaves the tab id on the connection, and asks for it. -/
theorem Connection.tab_beginConnect (c : Connection) (host : Host) (tab : TabId) (pushes : Bool) :
    (c.beginConnect host tab pushes).1.tab = some tab ∧
      ∀ a, (c.beginConnect host tab pushes).2.2 = some a → a.tab = tab := by
  simp only [beginConnect]
  cases resolveServer { c with tab := some tab } host with
  | none => simp
  | some server => cases pushes <;> simp +contextual

namespace Manager

/-- Whether a connect of a connection looks for its tab id: it has something to do, and is not
refused. -/
structure Looks (m : Manager) (key : ConnectionKey) (c : Connection) : Prop where
  known : m.get? key = some c
  idle : c.isOpening = false
  free : ¬ m.Contested c.clientId key

/-- A connect that looks for its tab id leaves it with the connection, and asks for it. -/
theorem tab_beginConnect {m : Manager} (looks : m.Looks key c) (pushes : Bool) (moment : Moment) :
    (m.beginConnect key pushes moment).1.host = (m.host.resolveTab c.clientId moment).1 ∧
    ((m.beginConnect key pushes moment).1.get? key).bind Connection.tab =
      some (m.host.resolveTab c.clientId moment).2.tab ∧
    ∀ a, (m.beginConnect key pushes moment).2.2 = .requesting a →
      a.tab = (m.host.resolveTab c.clientId moment).2.tab := by
  obtain ⟨-, answer⟩ := register_of_free looks.free
  have host := Runs.host_register m c.clientId key
  have members := Runs.members_register m c.clientId key
  rcases registered : m.register c.clientId key with ⟨claimed, log, result⟩
  simp only [registered] at answer host members
  subst answer
  rw [← host]
  rcases resolved : claimed.host.resolveTab c.clientId moment with ⟨host', found⟩
  have there : { claimed with host := host' }.get? key = some c := by
    rw [← looks.known, get?, get?, ← members]
  have begun := c.tab_beginConnect host' found.tab pushes
  simp only [beginConnect, looks.known, looks.idle, registered, resolved, Bool.false_eq_true,
    if_false]
  refine ⟨rfl, ?_, ?_⟩
  · rw [Runs.get?_set there]
    exact begun.1
  · intro a
    cases attempt : (c.beginConnect host' found.tab pushes).2.2 with
    | none => simp
    | some a' =>
      simp only [Option.elim_some, ConnectStart.requesting.injEq]
      rintro rfl
      exact begun.2 a' attempt

/-- Every other connect leaves the host as it is. -/
theorem host_beginConnect {m : Manager} (quiet : ∀ c, ¬ m.Looks key c) (pushes : Bool)
    (moment : Moment) : (m.beginConnect key pushes moment).1.host = m.host := by
  unfold beginConnect
  cases known : m.get? key with
  | none => rfl
  | some c =>
    cases idle : c.isOpening with
    | true => simp [idle]
    | false =>
      have contested : m.Contested c.clientId key := by
        by_contra free
        exact quiet c ⟨known, idle, free⟩
      obtain ⟨same, answer⟩ := register_of_contested contested
      rcases registered : m.register c.clientId key with ⟨claimed, log, result⟩
      simp only [registered] at same answer
      subst same answer
      simp [idle, registered]

end Manager

/-- A tab id that a connect has found, and the client that it was found for. -/
structure FoundTab where
  client : ClientId
  tab : TabId

/-- The connects of a tab whose storage was empty at first: what those that look for their tab id
find, each for its client, and the storage that they leave. The connections may have any managers
in any states, so that anything but a change of the storage may come between two connects. -/
inductive TabConnects : List FoundTab → TabStorage → Prop where
  | opened : TabConnects [] []
  | looked (connects : TabConnects found storage) (m : Manager)
      (hosted : m.host.storage = some storage) (looks : m.Looks key c) (pushes : Bool)
      (moment : Moment)
      (has : ((m.beginConnect key pushes moment).1.get? key).bind Connection.tab = some tab)
      (left : (m.beginConnect key pushes moment).1.host.storage = some storage') :
      TabConnects (found ++ [⟨c.clientId, tab⟩]) storage'
  | idle (connects : TabConnects found storage) (m : Manager)
      (hosted : m.host.storage = some storage) (quiet : ∀ c, ¬ m.Looks key c) (pushes : Bool)
      (moment : Moment)
      (left : (m.beginConnect key pushes moment).1.host.storage = some storage') :
      TabConnects found storage'

/-- What was found in a tab agrees with its storage: every tab id that was found is stored under
its client, and what is stored under a client was minted for it. -/
structure Affine (found : List FoundTab) (storage : TabStorage) : Prop where
  stored : ∀ f ∈ found, storage.lookup (TabId.storageKey f.client) = some f.tab.name
  minted : ∀ id value, storage.lookup (TabId.storageKey id) = some value →
    ∃ moment, value = (TabId.mint id moment).name

namespace Affine

variable {found : List FoundTab} {storage : TabStorage}

/-- A look-up keeps them in agreement. -/
theorem resolve (affine : Affine found storage) {host : Host} (hosted : host.storage = some storage)
    (id : ClientId) (moment : Moment) :
    ∃ storage', (host.resolveTab id moment).1.storage = some storage' ∧
      Affine (found ++ [⟨id, (host.resolveTab id moment).2.tab⟩]) storage' := by
  cases there : storage.lookup (TabId.storageKey id) with
  | some value =>
    rw [Host.resolveTab_stored hosted there]
    refine ⟨storage, hosted, fun f member => ?_, affine.minted⟩
    rcases List.mem_append.mp member with old | new
    · exact affine.stored f old
    · rw [List.mem_singleton.mp new]
      exact there
  | none =>
    rw [Host.resolveTab_absent hosted there]
    refine ⟨_, rfl, fun f member => ?_, fun other value => ?_⟩
    · simp only [TabStorage.lookup_setItem, TabId.storageKey_inj]
      rcases List.mem_append.mp member with old | new
      · have kept := affine.stored f old
        have apart : f.client ≠ id := by
          rintro rfl
          simp [there] at kept
        rw [if_neg apart, kept]
      · simp [List.mem_singleton.mp new]
    · rw [TabStorage.lookup_setItem]
      split
      · next same =>
        obtain rfl := TabId.storageKey_inj.mp same
        intro own
        exact ⟨moment, (Option.some.inj own).symm⟩
      · exact affine.minted other value

/-- Each tab id was minted for its client. -/
theorem exists_mint (affine : Affine found storage) (member : f ∈ found) :
    ∃ moment, f.tab = TabId.mint f.client moment := by
  obtain ⟨moment, own⟩ := affine.minted f.client f.tab.name (affine.stored f member)
  exact ⟨moment, congrArg TabId.mk own⟩

end Affine

/-- Whatever has connected in a tab, what was found agrees with its storage. -/
theorem TabConnects.affine (connects : TabConnects found storage) : Affine found storage := by
  induction connects with
  | opened => exact ⟨nofun, nofun⟩
  | looked connects m hosted looks pushes moment has left affine =>
    obtain ⟨host, own, -⟩ := Manager.tab_beginConnect looks pushes moment
    obtain ⟨storage', left', affine'⟩ := affine.resolve hosted _ moment
    rw [host, left', Option.some.injEq] at left
    rw [own, Option.some.injEq] at has
    rw [← left, ← has]
    exact affine'
  | idle connects m hosted quiet pushes moment left affine =>
    rw [Manager.host_beginConnect quiet, hosted, Option.some.injEq] at left
    rw [← left]
    exact affine

/-- **Tab affinity**: whatever connects a tab has seen, the tab ids of each client are one and the
same, it begins with the client id and a dash, no other client has it, and it is stored under the
client. And every connect that is neither idle nor refused finds one, leaves it with its
connection, and asks for it. -/
theorem tab_affinity (connects : TabConnects found storage) :
    (∀ f ∈ found, ∃ rest, f.tab.name = f.client.name ++ "-" ++ rest) ∧
    (∀ f ∈ found, ∀ g ∈ found, f.tab = g.tab ↔ f.client = g.client) ∧
    (∀ f ∈ found, storage.lookup (TabId.storageKey f.client) = some f.tab.name) ∧
    ∀ (m : Manager) key c pushes moment, m.host.storage = some storage → m.Looks key c →
      ∃ tab storage', TabConnects (found ++ [⟨c.clientId, tab⟩]) storage' ∧
        (m.beginConnect key pushes moment).1.host.storage = some storage' ∧
        ((m.beginConnect key pushes moment).1.get? key).bind Connection.tab = some tab ∧
        ∀ a, (m.beginConnect key pushes moment).2.2 = .requesting a → a.tab = tab := by
  have affine := connects.affine
  refine ⟨fun f member => ?_, fun f member g member' => ⟨fun same => ?_, fun same => ?_⟩,
    affine.stored, fun m key c pushes moment hosted looks => ?_⟩
  · obtain ⟨moment, minted⟩ := affine.exists_mint member
    refine ⟨Text.decimal moment.millis ++ "-" ++
      String.ofList (Text.numeral 36 moment.token.toNat), ?_⟩
    simp [minted, TabId.mint, TabId.mintedSuffix, String.append_assoc]
  · obtain ⟨moment, minted⟩ := affine.exists_mint member
    obtain ⟨moment', minted'⟩ := affine.exists_mint member'
    rw [minted, minted'] at same
    exact TabId.client_of_mint same
  · have stored := affine.stored f member
    rw [same, affine.stored g member', Option.some.injEq] at stored
    exact congrArg TabId.mk stored.symm
  · obtain ⟨host, own, asked⟩ := Manager.tab_beginConnect looks pushes moment
    obtain ⟨storage', left, -⟩ := affine.resolve hosted c.clientId moment
    rw [← host] at left
    exact ⟨_, storage', connects.looked m hosted looks pushes moment own left, left, own, asked⟩

/-- A manager in a tab, with one connection of a client. -/
def tabManager (storage : TabStorage) (client : ClientId) : Manager :=
  ((Manager.create ⟨some storage, none, false⟩ Settings.default).connection
    ⟨some client, some "http://gateway", none⟩).1

theorem looks_tabManager (storage : TabStorage) (client : ClientId) :
    (tabManager storage client).Looks 0
      (Connection.create client (some "http://gateway") none Settings.default) :=
  ⟨rfl, rfl, by rintro ⟨other, -, owned, -⟩; contradiction⟩

/-- A client with an empty id, and one whose id is the tab id of the first; then the first again. -/
theorem tab_affinity_lookalikes :
    ∃ storage, TabConnects [⟨⟨""⟩, ⟨"-0-0"⟩⟩, ⟨⟨"-0-0"⟩, ⟨"-0-0-5-7"⟩⟩] storage ∧
      (((tabManager storage ⟨""⟩).beginConnect 0 true ⟨9, 9⟩).1.get? 0).bind Connection.tab =
        some ⟨"-0-0"⟩ := by
  have first : TabConnects [⟨⟨""⟩, ⟨"-0-0"⟩⟩] [("jenkins-sse-gateway-client-", "-0-0")] :=
    TabConnects.opened.looked (tabManager [] ⟨""⟩) rfl (looks_tabManager _ _) true ⟨0, 0⟩
      (by decide +kernel) (by decide +kernel)
  have both : TabConnects [⟨⟨""⟩, ⟨"-0-0"⟩⟩, ⟨⟨"-0-0"⟩, ⟨"-0-0-5-7"⟩⟩] _ :=
    first.looked (tabManager _ ⟨"-0-0"⟩) rfl (looks_tabManager _ _) true ⟨5, 7⟩
      (by decide +kernel) rfl
  refine ⟨_, both, ?_⟩
  obtain ⟨-, -, -, looking⟩ := tab_affinity both
  obtain ⟨tab, storage', again, -, own, -⟩ :=
    looking (tabManager _ ⟨""⟩) 0 _ true ⟨9, 9⟩ rfl (looks_tabManager _ _)
  obtain ⟨-, alike, -, -⟩ := tab_affinity again
  have same := (alike ⟨⟨""⟩, tab⟩ (by simp [Connection.create]) ⟨⟨""⟩, ⟨"-0-0"⟩⟩ (by simp)).mpr rfl
  rw [own, show tab = ⟨"-0-0"⟩ from same]

end GatewayClient
