import GatewayClient.CommandLine.Listener
import GatewayClient.Proofs.Settings.Layering

/-!
# GatewayClient.Proofs.Settings.Validity

Settings that a listener runs with are valid. Only those that come with a file are checked:

```
with a file      checked when the variables have been looked at
without a file   not checked; the preset is valid, and no variable makes it invalid
```

so that the second line rests on the bounds of the two variables that set a delay which must not be
zero: both begin at one.
-/

namespace GatewayClient.Settings

open CommandLine (Options Listener)
open Json (bind_eq_ok mapError_eq_ok)

/-! ## variables -/

/-- A number that begins at one does not become zero by a variable whose bounds begin at one. -/
theorem getD_given?_ne_zero {n : UInt64} (positive : n ≠ 0) (env : Environment) (name : String)
    (greatest : UInt64) : (given? env name (readBounded? · 1 greatest)).getD n ≠ 0 := by
  cases said : given? env name (readBounded? · 1 greatest) with
  | none => exact positive
  | some m =>
    obtain ⟨text, -, read⟩ := Option.bind_eq_some_iff.mp said
    have least : 1 ≤ m := (readBounded?_eq_some_iff.mp read).2.1
    rintro rfl
    exact absurd least (by decide)

/-- No environment makes valid settings invalid. -/
theorem validate_override {s : Settings} (valid : s.validate = .ok ()) (env : Environment) :
    (s.override env).1.validate = .ok () := by
  obtain ⟨retry, timeout⟩ := validate_eq_ok_iff.mp valid
  rw [override_fst, validate_eq_ok_iff]
  exact ⟨getD_given?_ne_zero retry env _ _, getD_given?_ne_zero timeout env _ _⟩

/-! ## the settings of a listener -/

/-- Settings that were loaded from a file are valid. -/
theorem validate_of_load {path : String} {file : File} {env : Environment}
    (loaded : (load path file env).1 = .ok s) : s.validate = .ok () := by
  simp only [load_fst, bind_eq_ok] at loaded
  obtain ⟨merged, -, u, valid, same⟩ := loaded
  cases same
  exact valid

theorem validate_headless : headless.validate = .ok () := rfl

variable {o : Options} {file : String → File} {env : Environment}

/-- Without a file the settings are those of the environment over the preset. -/
theorem loadSettings_of_none (unset : o.settings = none) :
    (o.loadSettings file env).1 = .ok (headless.override env).1 := by
  rw [Options.loadSettings, unset]

theorem validate_of_loadSettings (loaded : (o.loadSettings file env).1 = .ok s) :
    s.validate = .ok () := by
  cases named : o.settings with
  | none =>
    rw [loadSettings_of_none named] at loaded
    cases loaded
    exact validate_override validate_headless env
  | some path =>
    rw [Options.loadSettings, named] at loaded
    exact validate_of_load (mapError_eq_ok.mp loaded)

/-- A server is all that is added to the settings, and all that may be missing. -/
theorem listenSettings_eq_ok : (o.listenSettings file env).1 = .ok s ↔
    ∃ loaded, (o.loadSettings file env).1 = .ok loaded ∧
      s = { loaded with serverUrl := o.server.or loaded.serverUrl } ∧ s.serverUrl.isSome := by
  refine bind_eq_ok.trans (exists_congr fun loaded => and_congr_right fun _ => ?_)
  dsimp only
  split
  · next missing =>
    refine iff_of_false (by simp) ?_
    rintro ⟨rfl, found⟩
    simp [Option.isNone_iff_eq_none.mp missing] at found
  · next found =>
    rw [Except.ok.injEq, eq_comm]
    refine (and_iff_left_of_imp ?_).symm
    rintro rfl
    exact Option.isSome_iff_ne_none.mpr (mt Option.isNone_iff_eq_none.mpr found)

/-- **Validity**: no environment makes valid settings invalid. With any file or none and in any
environment, the settings that a listener hands to its manager are valid, and so are those that its
connection takes over; and without a file there are such settings as soon as there is a server. -/
theorem listener_settings_valid (env : Environment) :
    (∀ s : Settings, s.validate = .ok () → (s.override env).1.validate = .ok ()) ∧
    (∀ (o : Options) (file : String → File) (s : Settings), (o.listenSettings file env).1 = .ok s →
      (Listener.create s o.clientId).manager.settings.validate = .ok () ∧
        ∀ c, (Listener.create s o.clientId).connection? = some c → c.settings.validate = .ok ()) ∧
    ∀ (o : Options) (file : String → File), o.settings = none →
      (o.server.isSome ∨ (given? env "SSEGW_SERVER_URL" nonEmpty?).isSome) →
      ∃ s, (o.listenSettings file env).1 = .ok s := by
  refine ⟨fun s valid => validate_override valid env, ?_, ?_⟩
  · intro o file s found
    obtain ⟨loaded, before, rfl, -⟩ := listenSettings_eq_ok.mp found
    have valid := validate_of_loadSettings before
    refine ⟨valid, ?_⟩
    rintro c known
    cases known
    exact valid
  · intro o file unset server
    refine ⟨_, listenSettings_eq_ok.mpr ⟨_, loadSettings_of_none unset, rfl, ?_⟩⟩
    rw [override_fst, withVariables]
    rcases server with server | server <;> simp [server]

/-- A retry delay of zero is passed over, and the least timeout is taken. -/
theorem listener_settings_valid_extreme :
    let env := [ ("SSEGW_SESSION_RETRY_MS", "0"), ("SSEGW_REQUEST_TIMEOUT_MS", "+1"),
      ("SSEGW_SERVER_URL", "http://ci") ]
    let o : Options := ⟨"info", .compact, none, "ssegw-cli", ["job"], [], none⟩
    let s := { headless with serverUrl := some "http://ci", requestTimeout := 1 }
    (o.listenSettings (fun _ => .absent) env).1 = .ok s ∧
      (Listener.create s o.clientId).manager.settings.validate = .ok () ∧
      (s.override env).1.validate = .ok () := by
  intro env o s
  have found : (o.listenSettings (fun _ => .absent) env).1 = .ok s :=
    Json.eq_ok_of_toOption (by decide +kernel)
  obtain ⟨kept, handed, -⟩ := listener_settings_valid env
  exact ⟨found, (handed o _ s found).1, kept s rfl⟩

end GatewayClient.Settings
