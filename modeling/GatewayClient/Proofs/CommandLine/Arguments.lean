import GatewayClient.CommandLine.Arguments
import GatewayClient.Proofs.Json.Sorted
import GatewayClient.Proofs.Text.Trimming

/-!
# GatewayClient.Proofs.CommandLine.Arguments

What arguments give that ask for a listener. They are the command with options behind it, and
before it those that may stand there, each option with its value:

```
--name=value      the value is all that stands behind the first equals sign
--name value      the value does not begin with a dash, unless it is nothing else
```

The scanner is never ahead of them: what it has taken and what is still given are the options of the
arguments as a whole (`Completes`).
-/

namespace GatewayClient.CommandLine

open Json (bind_eq_ok map_eq_ok)

/-! ## filters -/

/-- How a filter is spelled: its key, which is not empty, with any blanks around it, the first
equals sign, and its value. -/
structure SpellsFilter (raw : String) (filter : String × String) : Prop where
  cut : ∃ front, '=' ∉ front ∧ raw.toList = front ++ '=' :: filter.2.toList ∧
    filter.1.toList = Text.trim front
  named : filter.1 ≠ ""

/-- A filter is cut at the first equals sign; its key is trimmed, its value is not. -/
theorem readFilter_of_cut {raw : String} {front value : List Char} (bare : '=' ∉ front)
    (cut : raw.toList = front ++ '=' :: value) :
    readFilter raw =
      if (Text.trim front).isEmpty then .error (.filter "filter key must not be empty")
      else .ok (String.ofList (Text.trim front), String.ofList value) := by
  rw [readFilter, cut, Text.dropWhile_append_cons bare, Text.takeWhile_append_cons bare]

/-- A filter is read as what it spells. -/
theorem readFilter_eq_ok_iff {raw : String} {filter : String × String} :
    readFilter raw = .ok filter ↔ SpellsFilter raw filter := by
  constructor
  · intro read
    by_cases there : '=' ∈ raw.toList
    · obtain ⟨front, value, cut, bare⟩ := List.eq_append_cons_of_mem there
      rw [readFilter_of_cut bare cut] at read
      split at read
      · contradiction
      · next full =>
        cases read
        exact ⟨⟨front, bare, by simpa using cut, by simp⟩, by simpa using full⟩
    · rw [readFilter, Text.dropWhile_of_not_mem there] at read
      contradiction
  · rintro ⟨⟨front, bare, cut, key⟩, named⟩
    have full : (Text.trim front).isEmpty = false := by
      rw [← key]
      simpa using named
    rw [readFilter_of_cut bare cut, full, ← key]
    simp

/-- A text that spells a filter passes the check of its option. -/
theorem checkValue_filter {raws : List String} {filters : List (String × String)}
    (spelled : List.Forall₂ SpellsFilter raws filters) (member : raw ∈ raws) :
    checkValue .filter raw = .ok () := by
  induction spelled with
  | nil => contradiction
  | cons first rest ih =>
    rcases List.mem_cons.mp member with rfl | behind
    · exact map_eq_ok.mpr ⟨_, readFilter_eq_ok_iff.mpr first, rfl⟩
    · exact ih behind

/-- Texts are read one by one. -/
theorem mapM_eq_ok_iff {f : α → Except ε β} {xs : List α} {ys : List β} :
    xs.mapM f = .ok ys ↔ List.Forall₂ (fun x y => f x = .ok y) xs ys := by
  induction xs generalizing ys with
  | nil => cases ys <;> simp [pure, Except.pure]
  | cons x xs ih =>
    rw [List.mapM_cons]
    simp only [bind_eq_ok, ih, List.forall₂_cons_left_iff]
    simp only [pure, Except.pure, Except.ok.injEq, exists_and_left, eq_comm]

/-! ## options -/

/-- Whether a text can be the value of an option by standing behind it. -/
def CanFollow (value : String) : Prop := value = "-" ∨ value.toList.head? ≠ some '-'

/-- A value may stand by itself if it is no dash with something behind it. -/
theorem canFollow_of_ne {value : String} (single : ∀ c cs, value.toList ≠ '-' :: c :: cs) :
    CanFollow value := by
  rw [CanFollow, or_iff_not_imp_right, not_not]
  intro dash
  obtain ⟨cs, whole⟩ := List.head?_eq_some_iff.mp dash
  cases cs with
  | nil => exact String.toList_inj.mp whole
  | cons c cs => exact absurd whole (single c cs)

/-- The options that arguments give, those before the command and those behind it. -/
inductive Gives : Bool → List String → List Given → Prop where
  | done : Gives true [] []
  | closed : Gives true ["--"] []
  | command (behind : Gives true rest given) : Gives false ("listen" :: rest) given
  | attached (flag : Flag) (value : String) (allowed : (listening || flag.isGlobal) = true)
      (behind : Gives listening rest given) :
      Gives listening (("--" ++ flag.name ++ "=" ++ value) :: rest)
        (⟨listening, flag, value⟩ :: given)
  | separate (flag : Flag) (value : String) (allowed : (listening || flag.isGlobal) = true)
      (follows : CanFollow value) (behind : Gives listening rest given) :
      Gives listening (("--" ++ flag.name) :: value :: rest) (⟨listening, flag, value⟩ :: given)

/-- An option is known by its name, where it may stand. -/
theorem Flag.named?_eq_some {listening : Bool} {name : String} {flag : Flag}
    (found : named? listening name = some flag) :
    name = flag.name ∧ (listening || flag.isGlobal) = true := by
  have chosen := List.find?_some found
  rw [Bool.and_eq_true, beq_iff_eq] at chosen
  exact ⟨chosen.1.symm, chosen.2⟩

theorem splitOption_of_not_mem {cs : List Char} (bare : '=' ∉ cs) :
    splitOption cs = (String.ofList cs, none) := by
  rw [splitOption, Text.takeWhile_of_not_mem bare, Text.dropWhile_of_not_mem bare]

/-- An option has its value behind the first equals sign. -/
theorem splitOption_append_cons {name : List Char} (bare : '=' ∉ name) (value : List Char) :
    splitOption (name ++ '=' :: value) = (String.ofList name, some (String.ofList value)) := by
  rw [splitOption, Text.takeWhile_append_cons bare, Text.dropWhile_append_cons bare]

/-- An argument with two dashes is a name, or a name with a value. -/
theorem eq_of_splitOption {arg name : String} {value : Option String} {cs : List Char}
    (dashed : arg.toList = '-' :: '-' :: cs) (cut : splitOption cs = (name, value)) :
    arg = "--" ++ name ++ value.elim "" ("=" ++ ·) := by
  rw [← String.toList_inj, dashed]
  by_cases there : '=' ∈ cs
  · obtain ⟨front, back, rfl, bare⟩ := List.eq_append_cons_of_mem there
    rw [splitOption_append_cons bare] at cut
    cases cut
    simp
  · rw [splitOption_of_not_mem there] at cut
    cases cut
    simp

/-! ## scanning -/

namespace Scan

/-- The options that were taken, together with the one that was begun if its value has come. -/
def taken (s : Scan) : List Given :=
  s.given ++ match s.begun with
    | some (flag, some value) => [⟨s.listening, flag, value⟩]
    | _ => []

/-- An option is taken with its value, and nothing else changes. -/
theorem give_eq_ok {s t : Scan} {flag : Flag} {value : String} (given : s.give flag value = .ok t) :
    t = { s with given := s.given ++ [⟨s.listening, flag, value⟩] } := by
  unfold give at given
  split at given
  · contradiction
  · obtain ⟨u, -, same⟩ := bind_eq_ok.mp given
    cases same
    rfl

/-- An option is finished when it does not wait for its value. -/
theorem finishBegun_eq_ok {s t : Scan} (finished : s.finishBegun = .ok t) :
    s.awaitsValue = false ∧ t = ⟨s.listening, s.taken, none⟩ := by
  obtain ⟨listening, given, begun⟩ := s
  match begun with
  | none =>
    cases finished
    simp [awaitsValue, taken]
  | some (flag, none) => contradiction
  | some (flag, some value) =>
    rw [give_eq_ok finished]
    simp [awaitsValue, taken]

/-- An option begins when none waits for its value; with a value of its own it is complete. -/
theorem begin_eq_ok {s t : Scan} {flag : Flag} {value : Option String}
    (begun : s.begin flag value = .ok t) :
    s.awaitsValue = false ∧ t.listening = s.listening ∧ value.elim
      (t.begun = some (flag, none) ∧ t.given = s.taken)
      (fun v => t.awaitsValue = false ∧ t.taken = s.taken ++ [⟨s.listening, flag, v⟩]) := by
  obtain ⟨f, finished, rest⟩ := bind_eq_ok.mp begun
  obtain ⟨ready, rfl⟩ := finishBegun_eq_ok finished
  cases value with
  | none =>
    cases rest
    exact ⟨ready, rfl, rfl, rfl⟩
  | some v =>
    rw [give_eq_ok rest]
    exact ⟨ready, rfl, rfl, List.append_nil _⟩

end Scan

/-- How the options of all arguments are made up when some were scanned and others are left: what
was taken and what the others give, or else the option that waits for its value comes first. -/
inductive Completes (s : Scan) : List String → List Given → Prop where
  | ready (idle : s.awaitsValue = false) (behind : Gives s.listening args more) :
      Completes s args (s.taken ++ more)
  | waiting (begun : s.begun = some (flag, none)) (follows : CanFollow value)
      (behind : Gives s.listening rest more) :
      Completes s (value :: rest) (s.given ++ ⟨s.listening, flag, value⟩ :: more)

namespace Completes

variable {s t : Scan} {args rest : List String} {given : List Given}

/-- When no option waits, all that follows is what the arguments give. -/
theorem of_idle (completes : Completes s args given) (idle : s.awaitsValue = false) :
    ∃ more, Gives s.listening args more ∧ given = s.taken ++ more := by
  cases completes with
  | ready _ behind => exact ⟨_, behind, rfl⟩
  | waiting begun follows behind => simp [Scan.awaitsValue, begun] at idle

/-- When an option waits, the next argument is its value. -/
theorem of_begun (completes : Completes s args given) (begun : s.begun = some (flag, none)) :
    ∃ value rest more, args = value :: rest ∧ CanFollow value ∧ Gives s.listening rest more ∧
      given = s.given ++ ⟨s.listening, flag, value⟩ :: more := by
  cases completes with
  | ready idle behind => simp [Scan.awaitsValue, begun] at idle
  | waiting begun' follows behind =>
    cases begun.symm.trans begun'
    exact ⟨_, _, _, rfl, follows, behind, rfl⟩

/-- An argument that begins an option. -/
theorem option (begun : s.begin flag value = .ok t)
    (allowed : (s.listening || flag.isGlobal) = true) (behind : Completes t rest given) :
    Completes s (("--" ++ flag.name ++ value.elim "" ("=" ++ ·)) :: rest) given := by
  obtain ⟨ready, place, after⟩ := Scan.begin_eq_ok begun
  cases value with
  | some v =>
    obtain ⟨idle, taken⟩ := after
    obtain ⟨more, gives, rfl⟩ := behind.of_idle idle
    rw [place] at gives
    have whole := gives.attached flag v allowed
    rw [taken, List.append_assoc]
    exact .ready ready (by simpa [String.append_assoc] using whole)
  | none =>
    obtain ⟨waits, taken⟩ := after
    obtain ⟨v, rest, more, rfl, follows, gives, rfl⟩ := behind.of_begun waits
    rw [place] at gives
    rw [taken, place]
    exact .ready ready (by simpa using gives.separate flag v allowed follows)

/-- An argument that is the value of the option before it. -/
theorem value (begun : s.begun = some (flag, none)) (follows : CanFollow arg)
    (behind : Completes { s with begun := some (flag, some arg) } rest given) :
    Completes s (arg :: rest) given := by
  obtain ⟨more, gives, rfl⟩ := behind.of_idle rfl
  rw [Scan.taken, List.append_assoc]
  exact .waiting begun follows gives

/-- The argument that is the command. -/
theorem command (before : s.listening = false) (finished : s.finishBegun = .ok t)
    (behind : Completes { t with listening := true } rest given) :
    Completes s ("listen" :: rest) given := by
  obtain ⟨ready, rfl⟩ := Scan.finishBegun_eq_ok finished
  obtain ⟨more, gives, rfl⟩ := behind.of_idle rfl
  rw [Scan.taken, List.append_nil]
  refine .ready ready ?_
  rw [before]
  exact .command gives

end Completes

/-- In the end no option waits, the command was given, and its options make sense. -/
theorem finish_eq_listen {s : Scan} (finished : s.finish = .ok (.listen o)) :
    s.awaitsValue = false ∧ s.listening = true ∧ Options.ofGiven s.taken = .ok o := by
  obtain ⟨t, begun, rest⟩ := bind_eq_ok.mp finished
  obtain ⟨ready, rfl⟩ := Scan.finishBegun_eq_ok begun
  simp only at rest
  split at rest
  · next listening =>
    obtain ⟨o', made, same⟩ := bind_eq_ok.mp rest
    cases same
    exact ⟨ready, listening, made⟩
  · contradiction

/-- Whoever scans arguments that ask for a listener completes what was taken. -/
theorem completes_of_scan {args : List String} {s : Scan} (asked : scan s args = .ok (.listen o)) :
    ∃ given, Completes s args given ∧ Options.ofGiven given = .ok o := by
  induction args generalizing s with
  | nil =>
    obtain ⟨ready, listening, made⟩ := finish_eq_listen asked
    have none : Gives s.listening [] [] := by
      rw [listening]
      exact .done
    exact ⟨_, .ready ready none, by rwa [List.append_nil]⟩
  | cons arg rest ih =>
    rw [scan] at asked
    split at asked
    · next dashes =>
      split at asked
      · next last =>
        obtain ⟨ready, listening, made⟩ := finish_eq_listen asked
        have none : Gives s.listening (arg :: rest) [] := by
          rw [listening, List.isEmpty_iff.mp last, show arg = "--" from String.toList_inj.mp dashes]
          exact .closed
        exact ⟨_, .ready ready none, by rwa [List.append_nil]⟩
      · contradiction
    · next cs full dashed =>
      rcases cut : splitOption cs with ⟨name, value⟩
      simp only [cut] at asked
      split at asked
      · next flag found =>
        obtain ⟨t, begun, scanned⟩ := bind_eq_ok.mp asked
        obtain ⟨rfl, allowed⟩ := Flag.named?_eq_some found
        obtain ⟨given, behind, made⟩ := ih scanned
        rw [eq_of_splitOption dashed cut]
        exact ⟨given, .option begun allowed behind, made⟩
      · -- only the texts of help and version are asked for without an option
        split_ifs at asked
        · obtain ⟨-, -, ⟨⟩⟩ := map_eq_ok.mp asked
        · obtain ⟨-, -, ⟨⟩⟩ := map_eq_ok.mp asked
    · split_ifs at asked
      · obtain ⟨-, -, ⟨⟩⟩ := map_eq_ok.mp asked
      · obtain ⟨-, -, ⟨⟩⟩ := map_eq_ok.mp asked
    · next dashes dashed single =>
      split at asked
      · next flag begun =>
        obtain ⟨given, behind, made⟩ := ih asked
        exact ⟨given, .value begun (canFollow_of_ne single) behind, made⟩
      · split_ifs at asked with listening named helped
        · obtain ⟨t, finished, scanned⟩ := bind_eq_ok.mp asked
          obtain ⟨given, behind, made⟩ := ih scanned
          rw [eq_of_beq named]
          exact ⟨given, .command (by simpa using listening) finished behind, made⟩
        · cases asked

/-- Arguments that ask for a listener are made of the options that it gets. -/
theorem gives_of_read {args : List String} (asked : read args = .ok (.listen o)) :
    ∃ given, Gives false args given ∧ Options.ofGiven given = .ok o := by
  obtain ⟨given, completes, made⟩ := completes_of_scan asked
  obtain ⟨_, gives, rfl⟩ := completes.of_idle rfl
  exact ⟨_, gives, made⟩

/-! ## what is asked for -/

/-- Which channels and filters come of options. -/
theorem exists_ofGiven_iff {given : List Given} {channels : List String}
    {filters : List (String × String)} :
    (∃ o, Options.ofGiven given = .ok o ∧ o.channels = channels ∧ o.filters = filters) ↔
      channels = allValues given .channel ∧ channels ≠ [] ∧
        List.Forall₂ SpellsFilter (allValues given .filter) filters := by
  have spells : SpellsFilter = fun raw filter => readFilter raw = .ok filter :=
    funext₂ fun raw filter => propext readFilter_eq_ok_iff.symm
  rw [spells, ← mapM_eq_ok_iff]
  constructor
  · rintro ⟨o, made, rfl, rfl⟩
    obtain ⟨filters, read, rest⟩ := bind_eq_ok.mp made
    simp only at rest
    split at rest
    · contradiction
    · next some =>
      cases rest
      exact ⟨rfl, by simpa using some, read⟩
  · rintro ⟨rfl, some, read⟩
    have full : (allValues given .channel).isEmpty = false := by simpa using some
    simp only [Options.ofGiven, read, full]
    exact ⟨_, rfl, rfl, rfl⟩

/-- Arguments ask for channels and filters: these are what the options of their kind have as
values, in their order. -/
structure Asks (args channels : List String) (filters : List (String × String)) : Prop where
  given : ∃ given, Gives false args given ∧ channels = allValues given .channel ∧
    List.Forall₂ SpellsFilter (allValues given .filter) filters
  some : channels ≠ []

/-- Arguments that ask for a listener ask for its channels and filters. -/
theorem asks_of_read {args : List String} (asked : read args = .ok (.listen o)) :
    Asks args o.channels o.filters := by
  obtain ⟨given, gives, made⟩ := gives_of_read asked
  obtain ⟨channels, some, filters⟩ := exists_ofGiven_iff.mp ⟨o, made, rfl, rfl⟩
  exact ⟨⟨given, gives, channels, filters⟩, some⟩

/-! ## every list can be asked for -/

/-- An option that may be repeated is taken with the value that is attached to it. -/
theorem scan_attached {flag : Flag} (repeatable : flag.isRepeatable = true)
    (checked : checkValue flag value = .ok ()) (given : List Given) (rest : List String) :
    scan ⟨true, given, none⟩ (("--" ++ flag.name ++ "=" ++ value) :: rest) =
      scan ⟨true, given ++ [⟨true, flag, value⟩], none⟩ rest := by
  have bare : '=' ∉ flag.name.toList := by cases flag <;> decide
  have named : Flag.named? true flag.name = some flag := by cases flag <;> decide
  have whole : ("--" ++ flag.name ++ "=" ++ value).toList =
      '-' :: '-' :: (flag.name.toList ++ '=' :: value.toList) := by simp
  rw [scan]
  split
  · next dashes => simp [whole] at dashes
  · next cs _ dashed =>
    cases whole.symm.trans dashed
    simp only [splitOption_append_cons bare, String.ofList_toList, named]
    simp [Scan.begin, Scan.finishBegun, Scan.give, repeatable, checked, bind, Except.bind, pure,
      Except.pure]
  · next apart single =>
    cases whole.symm.trans single
    exact absurd rfl apart
  · next dashed single => exact absurd whole (dashed _)

theorem finish_behind (given : List Given) :
    Scan.finish ⟨true, given, none⟩ = (Options.ofGiven given).map .listen := by
  simp only [Scan.finish, Scan.finishBegun, bind, Except.bind, if_true]
  cases Options.ofGiven given <;> rfl

/-- Options that may be repeated are all taken. -/
theorem scan_attached_all {options : List (Flag × String)}
    (each : ∀ x ∈ options, x.1.isRepeatable = true ∧ checkValue x.1 x.2 = .ok ())
    (given : List Given) :
    scan ⟨true, given, none⟩ (options.map (fun x => "--" ++ x.1.name ++ "=" ++ x.2)) =
      (Options.ofGiven (given ++ options.map (fun x => ⟨true, x.1, x.2⟩))).map .listen := by
  induction options generalizing given with
  | nil =>
    rw [List.map_nil, List.map_nil, List.append_nil, scan, finish_behind]
  | cons x rest ih =>
    obtain ⟨repeatable, checked⟩ := each x List.mem_cons_self
    rw [List.map_cons, scan_attached repeatable checked,
      ih (fun y member => each y (List.mem_cons_of_mem x member))]
    simp

theorem read_listen (rest : List String) :
    read ("listen" :: rest) = scan ⟨true, [], none⟩ rest := rfl

/-- Any channels, at least one, and any filters that are spelled can be asked for. -/
theorem exists_read_eq_listen {channels raws : List String} {filters : List (String × String)}
    (some : channels ≠ []) (spelled : List.Forall₂ SpellsFilter raws filters) :
    ∃ o, read ("listen" :: (channels.map ("--channel=" ++ ·) ++ raws.map ("--filter=" ++ ·))) =
      .ok (.listen o) ∧ o.channels = channels ∧ o.filters = filters := by
  let options : List (Flag × String) := channels.map (.channel, ·) ++ raws.map (.filter, ·)
  have written : channels.map ("--channel=" ++ ·) ++ raws.map ("--filter=" ++ ·) =
      options.map (fun x => "--" ++ x.1.name ++ "=" ++ x.2) := by
    simp [options, Function.comp_def, Flag.name]
  have each : ∀ x ∈ options, x.1.isRepeatable = true ∧ checkValue x.1 x.2 = .ok () := by
    intro x member
    rcases List.mem_append.mp member with channel | filter
    · obtain ⟨name, -, rfl⟩ := List.mem_map.mp channel
      exact ⟨rfl, rfl⟩
    · obtain ⟨raw, there, rfl⟩ := List.mem_map.mp filter
      exact ⟨rfl, checkValue_filter spelled there⟩
  have named : allValues (options.map (fun x => ⟨true, x.1, x.2⟩)) .channel = channels := by
    simp [allValues, options, List.filter_map, Function.comp_def]
  have narrowed : allValues (options.map (fun x => ⟨true, x.1, x.2⟩)) .filter = raws := by
    simp [allValues, options, List.filter_map, Function.comp_def]
  obtain ⟨o, made, asked⟩ := exists_ofGiven_iff.mpr ⟨named.symm, some, narrowed.symm ▸ spelled⟩
  refine ⟨o, ?_, asked⟩
  rw [read_listen, written, scan_attached_all each, List.nil_append, made]
  rfl

end GatewayClient.CommandLine
