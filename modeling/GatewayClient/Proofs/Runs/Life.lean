import GatewayClient.Proofs.Runs.Change

/-!
# GatewayClient.Proofs.Runs.Life

The life of one connection. In a run the steps of the connections are mixed, but what a
connection and its surroundings have become depends on its own steps alone: `life_of_run` takes
them out of the run. What holds of every run is shown by induction on a `Life`.

`play` carries out actions of one connection, for runs that are written down.
-/

namespace GatewayClient.Runs

/-- The steps of a connection since it was made, the connection, and what stands around it. -/
inductive Life : List Step → Member → Surroundings → Prop
  | born (id : ClientId) (url : Option String) (hook : Option SessionHook)
      (settings : Settings) :
      Life [] ⟨Connection.create id url hook settings, false⟩ Surroundings.empty
  | next (life : Life trace x around) (change : Change around x action outcome y)
      (key : ConnectionKey) :
      Life (trace ++ [⟨key, action, x.connection, outcome⟩]) y (around.after action outcome)

/-- A history that goes on is cut at its new step, or before it. -/
theorem snoc_eq_append_cons {trace pre post : List Step} {last e : Step} :
    trace ++ [last] = pre ++ e :: post ↔
      (post = [] ∧ trace = pre ∧ last = e) ∨
        ∃ rest, post = rest ++ [last] ∧ trace = pre ++ e :: rest := by
  constructor
  · intro cut
    rcases List.eq_nil_or_concat post with rfl | ⟨rest, final, rfl⟩
    · obtain ⟨same, one⟩ := List.append_inj' cut rfl
      exact .inl ⟨rfl, same, (List.cons.inj one).1⟩
    · rw [List.concat_eq_append, ← List.cons_append, ← List.append_assoc] at cut
      obtain ⟨same, one⟩ := List.append_inj' cut rfl
      obtain rfl := (List.cons.inj one).1
      exact .inr ⟨rest, by simp, same⟩
  · rintro (⟨rfl, rfl, rfl⟩ | ⟨rest, rfl, rfl⟩)
    · rfl
    · simp

/-- Whether a step of a history began something that no later step has ended. -/
def Since (begins ends : Step → Prop) (trace : List Step) : Prop :=
  ∃ pre e post, trace = pre ++ e :: post ∧ begins e ∧ ∀ later ∈ post, ¬ ends later

section since

variable {begins ends : Step → Prop}

theorem not_since_nil : ¬ Since begins ends [] := by
  rintro ⟨pre, e, post, cut, -⟩
  simp at cut

/-- What holds since some step was begun by the last step, or goes on through it. -/
theorem since_snoc (trace : List Step) (e : Step) :
    Since begins ends (trace ++ [e]) ↔ begins e ∨ Since begins ends trace ∧ ¬ ends e := by
  constructor
  · rintro ⟨pre, first, post, cut, begun, kept⟩
    rcases snoc_eq_append_cons.mp cut with ⟨rfl, rfl, rfl⟩ | ⟨rest, rfl, shorter⟩
    · exact .inl begun
    · exact .inr ⟨⟨pre, first, rest, shorter, begun,
        fun later member => kept later (by simp [member])⟩, kept e (by simp)⟩
  · rintro (begun | ⟨⟨pre, first, post, rfl, begun, kept⟩, still⟩)
    · exact ⟨trace, e, [], rfl, begun, by simp⟩
    · refine ⟨pre, first, post ++ [e], by simp, begun, fun later member => ?_⟩
      rcases List.mem_append.mp member with old | new
      · exact kept later old
      · rw [List.mem_singleton.mp new]
        exact still

end since

/-- A life can be looked at in the middle: every step was taken from a life before it. -/
theorem Life.split (life : Life trace x around) (cut : trace = pre ++ e :: post) :
    ∃ dropped before y, Life pre ⟨e.before, dropped⟩ before ∧
      Change before ⟨e.before, dropped⟩ e.action e.outcome y := by
  induction life generalizing post with
  | born id url hook settings => simp at cut
  | @next trace x around action outcome y life change key ih =>
    rcases snoc_eq_append_cons.mp cut with ⟨-, rfl, rfl⟩ | ⟨rest, -, shorter⟩
    · exact ⟨x.dropped, around, y, life, change⟩
    · exact ih shorter

/-- The last step of a life, and the life before it. -/
theorem Life.unsnoc (life : Life (trace ++ [e]) y around') :
    ∃ x around, Life trace x around ∧ Change around x e.action e.outcome y ∧
      e.before = x.connection ∧ around' = around.after e.action e.outcome := by
  generalize whole : trace ++ [e] = steps at life
  cases life with
  | born id url hook settings => simp at whole
  | @next trace' x around action outcome y life change key =>
    obtain ⟨rfl, last⟩ := List.append_inj' whole rfl
    obtain rfl := (List.cons.inj last).1
    exact ⟨x, around, life, change, rfl, rfl⟩

/-! ## the steps of one connection -/

@[simp] theorem onKey_append (key : ConnectionKey) (xs ys : List Step) :
    onKey key (xs ++ ys) = onKey key xs ++ onKey key ys := List.filter_append xs ys

theorem onKey_own {e : Step} (own : e.key = key) : onKey key [e] = [e] := by
  simp [onKey, own]

theorem onKey_other {e : Step} (other : e.key ≠ key) : onKey key [e] = [] := by
  simp [onKey, other]

/-! ## from runs to lives -/

/-- A new connection stands behind the others. -/
theorem members_connection (m : Manager) (config : ConnectConfig) :
    ∃ id url hook settings, (m.connection config).1.members =
      m.members ++ [⟨Connection.create id url hook settings, false⟩] := by
  obtain ⟨id, url, hook⟩ := config
  cases id with
  | none => exact ⟨_, url, hook, m.settings, rfl⟩
  | some id => exact ⟨id, url, hook, m.settings, rfl⟩

/-- What a run makes of the connections: each has its life, and nothing happened yet to those
that are still to be made. -/
structure Lives (trace : List Step) (s : System) : Prop where
  life : s.manager.members[key]? = some x → Life (onKey key trace) x (s.around key)
  unborn : s.manager.members.length ≤ key → s.around key = Surroundings.empty ∧
    onKey key trace = []

/-- Making a connection begins its life. -/
theorem Lives.connection (lives : Lives trace s) (config : ConnectConfig) :
    Lives trace { s with manager := (s.manager.connection config).1 } := by
  obtain ⟨id, url, hook, settings, made⟩ := members_connection s.manager config
  constructor
  · intro key x known
    rw [made, List.getElem?_append] at known
    split at known
    · exact lives.life known
    · next beyond =>
      obtain ⟨empty, silent⟩ := lives.unborn (Nat.le_of_not_lt beyond)
      obtain rfl : _ = x := by
        cases at0 : key - s.manager.members.length with
        | zero => simpa [at0] using known
        | succ n => simp [at0] at known
      rw [empty, silent]
      exact .born id url hook settings
  · intro key beyond
    rw [made, List.length_append] at beyond
    exact lives.unborn (Nat.le_trans (Nat.le_add_right _ _) beyond)

/-- A step goes on with the life of its connection and with no other. -/
theorem Lives.step (lives : Lives trace s) (taken : s.take? key action = some (s', e)) :
    Lives (trace ++ [e]) s' := by
  obtain ⟨x, y, known, moved, around, shape, -, change⟩ := change_of_take? taken
  have own : e.key = key := by rw [shape]
  have bound : key < s.manager.members.length := (List.getElem?_eq_some_iff.mp known).1
  constructor
  · intro k z found
    by_cases here : k = key
    · subst here
      rw [moved, List.getElem?_set_self bound] at found
      obtain rfl : y = z := Option.some.inj found
      rw [onKey_append, onKey_own own, around, Function.update_self, shape]
      exact (lives.life known).next change _
    · rw [moved, List.getElem?_set_ne (Ne.symm here)] at found
      rw [onKey_append, onKey_other (by rw [own]; exact Ne.symm here), List.append_nil, around,
        Function.update_of_ne here]
      exact lives.life found
  · intro k beyond
    rw [moved, List.length_set] at beyond
    have other : k ≠ key := Nat.ne_of_gt (Nat.lt_of_lt_of_le bound beyond)
    rw [onKey_append, onKey_other (by rw [own]; exact Ne.symm other), List.append_nil, around,
      Function.update_of_ne other]
    exact lives.unborn beyond

/-- **Lives**: every run makes lives of the connections. -/
theorem Run.lives (run : Run trace s) : Lives trace s := by
  induction run with
  | start host settings =>
    constructor
    · intro key x known
      simp [System.start, Manager.create] at known
    · intro key _
      exact ⟨rfl, rfl⟩
  | connection run config lives => exact lives.connection config
  | configure run patch lives => exact ⟨lives.life, lives.unborn⟩
  | generate run lives => exact ⟨lives.life, lives.unborn⟩
  | rehost run host lives => exact ⟨lives.life, lives.unborn⟩
  | step run taken lives => exact lives.step taken

/-- The life of a connection in a run. -/
theorem life_of_run (run : Run trace s) (known : s.manager.get? key = some c) :
    ∃ dropped, s.manager.isLive key = !dropped ∧
      Life (onKey key trace) ⟨c, dropped⟩ (s.around key) := by
  obtain ⟨⟨c, dropped⟩, member, rfl⟩ := Option.map_eq_some_iff.mp known
  exact ⟨dropped, isLive_eq member, run.lives.life member⟩

/-! ## runs that are written down -/

namespace System

/-- A system with one connection. -/
def single (settings : Settings) (config : ConnectConfig) : System :=
  { start .headless settings with
    manager := (Manager.connection (Manager.create .headless settings) config).1 }

/-- Carries out actions of one connection, those that may come next, and gives the steps. -/
def play (s : System) (key : ConnectionKey) : List Action → System × List Step
  | [] => (s, [])
  | action :: rest =>
    match s.take? key action with
    | none => s.play key rest
    | some (s, e) =>
      let (s, trace) := s.play key rest
      (s, e :: trace)

end System

theorem Run.single (settings : Settings) (config : ConnectConfig) :
    Run [] (System.single settings config) := (Run.start .headless settings).connection config

/-- Playing actions goes on with a run. -/
theorem Run.play (run : Run trace s) (key : ConnectionKey) (actions : List Action) :
    Run (trace ++ (s.play key actions).2) (s.play key actions).1 := by
  induction actions generalizing trace s with
  | nil => simpa [System.play] using run
  | cons action rest ih =>
    unfold System.play
    cases taken : s.take? key action with
    | none => exact ih run
    | some next =>
      have run' := ih (run.step taken)
      simpa using run'

/-- The actions that are carried out come in the order in which they were to be, and some of them
may be left out. -/
theorem sublist_play (s : System) (key : ConnectionKey) (actions : List Action) :
    ((s.play key actions).2.map Step.action).Sublist actions := by
  induction actions generalizing s with
  | nil => exact .slnil
  | cons action rest ih =>
    unfold System.play
    cases next : s.take? key action with
    | none => exact (ih s).cons action
    | some moved =>
      obtain ⟨s', first⟩ := moved
      obtain ⟨x, y, -, -, -, shape, -, -⟩ := change_of_take? next
      have own : first.action = action := by rw [shape]
      simpa [own] using ih s'

/-- Only actions that were to be carried out are. -/
theorem mem_play {s : System} {e : Step} (taken : e ∈ (s.play key actions).2) :
    e.action ∈ actions :=
  (sublist_play s key actions).mem (List.mem_map_of_mem taken)

/-- The actions of a connection that subscribes before it connects, has its batch posted and
acknowledged, and unsubscribes. -/
def tour : List Action :=
  [ .subscribe ⟨"job", none, ⟨"callback"⟩, some ⟨"subscribed"⟩⟩,
    .beginConnect true ⟨0, 0⟩,
    .endConnect ⟨"http://gateway", ⟨"client"⟩, 0⟩ none,
    .receive 0 ⟨"open", "\x7b\x7d", none⟩,
    .flush 1 3 true,
    .beginPost,
    .endPost (.ok ()),
    .receive 0 ⟨"configure", "\x7b\"batchId\":1\x7d", none⟩,
    .unsubscribe ⟨"callback"⟩ none ]

/-- The system of a client whose only connection has nothing but a URL. -/
def System.lone : System :=
  System.single Settings.default ⟨some ⟨"client"⟩, some "http://gateway", none⟩

theorem run_lone : Run [] System.lone := Run.single _ _

/-- The system after the tour, and its steps. -/
def toured : System × List Step := System.lone.play 0 tour

theorem run_toured : Run toured.2 toured.1 := run_lone.play 0 tour

-- every action of the tour may come when it does
example : toured.2.length = tour.length := by decide +kernel

end GatewayClient.Runs
