import GatewayClient.Proofs.Configuration.Batcher
import Mathlib.Data.List.Basic
import Mathlib.Data.List.Induction

/-!
# GatewayClient.Proofs.Configuration.Slots

The slots of a batcher after any calls, whatever batches the acknowledgments among them name.
A slot is opened with its batch, and closed by the first acknowledgment that names it after that;
an acknowledgment of a batch that is still to come changes nothing. So a listener that is accepted
waits for the batch that was current then, and for nothing else:

```
slots     =  batches 1 to current,  less those acknowledged since they were opened
slot n    =  the listeners accepted while n was current,  if no acknowledgment of n followed
```

Calls are known by their places, since two calls may well leave the same listener.
-/

namespace GatewayClient.Batcher

/-! ## calls -/

/-- A call of a batcher. -/
inductive Call where
  | queueSubscribe (config : SubscriptionConfig)
  | queueUnsubscribe (config : SubscriptionConfig)
  | addListener (listener : AckListener)
  | take (dispatcherId : Option String)
  | acknowledge (batchId : Nat)
deriving DecidableEq

/-- The batcher after a call. A listener that is refused and a batch that is empty leave it as it
is. -/
def after (b : Batcher) : Call → Batcher
  | .queueSubscribe config => b.queueSubscribe config
  | .queueUnsubscribe config => b.queueUnsubscribe config
  | .addListener l => b.accept (some l)
  | .take dispatcherId => ((b.take? dispatcherId).map Prod.fst).getD b
  | .acknowledge n => (b.acknowledge n).1

/-- The listeners that a call gives back. -/
def gives (b : Batcher) : Call → List AckListener
  | .acknowledge n => (b.acknowledge n).2
  | _ => []

/-- The batch and the listener of a call, if it leaves one that is accepted. -/
def accepts? (b : Batcher) : Call → Option (Nat × AckListener)
  | .addListener l => (b.addListener l).toOption.map (fun _ => (b.batchId, l))
  | _ => none

/-- The batcher after calls from the start. -/
def run (calls : List Call) : Batcher := calls.foldl after start

theorem run_append (past later : List Call) :
    run (past ++ later) = later.foldl after (run past) := List.foldl_append

theorem run_snoc (past : List Call) (call : Call) :
    run (past ++ [call]) = (run past).after call := run_append past [call]

/-! ## the history of a batch -/

/-- Whether a batch was acknowledged since it was opened. -/
def Closed (calls : List Call) (n : Nat) : Prop :=
  ∃ k < calls.length, calls[k]? = some (.acknowledge n) ∧ n ≤ (run (calls.take k)).batchId

instance (calls : List Call) (n : Nat) : Decidable (Closed calls n) :=
  inferInstanceAs (Decidable (∃ k < calls.length, _))

/-- The batch and the listener of the call at a place, if it leaves one that is accepted. -/
def accepted? (calls : List Call) (i : Nat) : Option (Nat × AckListener) :=
  calls[i]?.bind (run (calls.take i)).accepts?

/-- The place of the first acknowledgment of a batch after a place. -/
def firstAck? (calls : List Call) (n i : Nat) : Option Nat :=
  ((calls.drop (i + 1)).findIdx? (· == .acknowledge n)).map (· + (i + 1))

/-- The listener that the call at a place leaves for a batch, if it is accepted and no
acknowledgment of the batch follows. -/
def waits? (calls : List Call) (n i : Nat) : Option AckListener :=
  (accepted? calls i).bind (fun a =>
    if a.1 = n ∧ firstAck? calls n i = none then some a.2 else none)

/-- The listeners that wait for a batch, in the order in which they were accepted. -/
def waiting (calls : List Call) (n : Nat) : List AckListener :=
  (List.range calls.length).filterMap (waits? calls n)

/-- The places of the calls whose listeners the call at a place gives back: those for whose batch
it is the first acknowledgment. -/
def answered (calls : List Call) (k : Nat) : List Nat :=
  (List.range k).filter (fun i => (accepted? calls i).any (fun a =>
    firstAck? calls a.1 i == some k))

section snoc

variable (past : List Call) (call : Call)

theorem closed_snoc (n : Nat) : Closed (past ++ [call]) n ↔
    Closed past n ∨ call = .acknowledge n ∧ n ≤ (run past).batchId := by
  constructor
  · rintro ⟨k, bound, named, opened⟩
    rw [List.length_append, List.length_singleton] at bound
    rcases Nat.lt_succ_iff_lt_or_eq.mp bound with before | rfl
    · rw [List.getElem?_append_left before] at named
      rw [List.take_append_of_le_length (Nat.le_of_lt before)] at opened
      exact .inl ⟨k, before, named, opened⟩
    · rw [List.getElem?_concat_length, Option.some.injEq] at named
      rw [List.take_left] at opened
      exact .inr ⟨named, opened⟩
  · rintro (⟨k, before, named, opened⟩ | ⟨rfl, opened⟩)
    · refine ⟨k, by simp; omega, ?_, ?_⟩
      · rw [List.getElem?_append_left before, named]
      · rwa [List.take_append_of_le_length (Nat.le_of_lt before)]
    · refine ⟨past.length, by simp, List.getElem?_concat_length, ?_⟩
      rwa [List.take_left]

/-- What the call at a place leaves is settled by the calls up to it. -/
theorem accepted?_append (later : List Call) (before : i < past.length) :
    accepted? (past ++ later) i = accepted? past i := by
  rw [accepted?, accepted?, List.getElem?_append_left before,
    List.take_append_of_le_length (Nat.le_of_lt before)]

theorem accepted?_last : accepted? (past ++ [call]) past.length = (run past).accepts? call := by
  rw [accepted?, List.getElem?_concat_length, List.take_left, Option.bind_some]

theorem firstAck?_append (later : List Call) (n : Nat) (before : i < past.length) :
    firstAck? (past ++ later) n i =
      (firstAck? past n i).or
        ((later.findIdx? (· == .acknowledge n)).map (· + past.length)) := by
  have rest : (past ++ later).drop (i + 1) = past.drop (i + 1) ++ later :=
    List.drop_append_of_le_length before
  rw [firstAck?, firstAck?, rest, List.findIdx?_append, Option.map_or, Option.map_map,
    List.length_drop]
  congr 2
  funext k
  simp
  omega

theorem waits?_snoc (n : Nat) (before : i < past.length) : waits? (past ++ [call]) n i =
    if call = .acknowledge n then none else waits? past n i := by
  rw [waits?, waits?, accepted?_append past [call] before, firstAck?_append past [call] n before]
  by_cases acks : call = .acknowledge n
  · simp [acks]
  · simp [acks]

theorem waits?_last (n : Nat) : waits? (past ++ [call]) n past.length =
    ((run past).accepts? call).bind (fun a => if a.1 = n then some a.2 else none) := by
  have last : firstAck? (past ++ [call]) n past.length = none := by simp [firstAck?]
  simp only [waits?, accepted?_last, last, and_true]

/-- An acknowledgment of a batch leaves nobody waiting for it; every other call adds the listener
that it leaves for the batch. -/
theorem waiting_snoc (n : Nat) : waiting (past ++ [call]) n =
    if call = .acknowledge n then []
    else waiting past n ++
      (((run past).accepts? call).bind (fun a => if a.1 = n then some a.2 else none)).toList := by
  have before : (List.range past.length).filterMap (waits? (past ++ [call]) n) =
      if call = .acknowledge n then [] else waiting past n := by
    have each : ∀ i ∈ List.range past.length, waits? (past ++ [call]) n i =
        if call = .acknowledge n then none else waits? past n i :=
      fun i member => waits?_snoc past call n (List.mem_range.mp member)
    rw [List.filterMap_congr each]
    by_cases acks : call = .acknowledge n
    · simp [acks]
    · simp [acks, waiting]
  rw [waiting, List.length_append, List.length_singleton, List.range_succ, List.filterMap_append,
    before, List.filterMap_cons, waits?_last]
  by_cases acks : call = .acknowledge n
  · subst acks
    simp [accepts?]
  · cases ((run past).accepts? call).bind (fun a => if a.1 = n then some a.2 else none) <;>
      simp [acks]

end snoc

/-! ## batches -/

theorem addListener_of_isSome {b : Batcher} (opened : (b.slot? b.batchId).isSome)
    (l : AckListener) : b.addListener l = .ok { b with slots := b.slots.map (fun s =>
      if s.batchId = b.batchId then { s with listeners := s.listeners ++ [l] } else s) } :=
  if_pos opened

theorem addListener_of_isNone {b : Batcher} (gone : (b.slot? b.batchId).isNone)
    (l : AckListener) : b.addListener l = .error (.obsoleteBatch b.batchId) := by
  rw [Option.isNone_iff_eq_none] at gone
  simp [addListener, gone]

/-- Batches are opened one after the other and never taken back. -/
theorem batchId_le_after (b : Batcher) (call : Call) : b.batchId ≤ (b.after call).batchId := by
  cases call with
  | take d =>
    cases pending : b.hasPending with
    | true => simp [after, take?, pending, advance]
    | false => simp [after, take?, pending]
  | addListener l => simp [after]
  | _ => exact Nat.le_refl _

theorem batchId_of_accepts? {b : Batcher} {call : Call} (accepted : b.accepts? call = some a) :
    a.1 = b.batchId := by
  cases call with
  | addListener l =>
    obtain ⟨-, -, rfl⟩ := Option.map_eq_some_iff.mp accepted
    rfl
  | _ => contradiction

theorem first_le (calls : List Call) : 1 ≤ (run calls).batchId := by
  induction calls using List.reverseRecOn with
  | nil => exact Nat.le_refl 1
  | append_singleton past call ih =>
    rw [run_snoc]
    exact Nat.le_trans ih (batchId_le_after _ call)

/-- Only a batch that was opened is ever closed. -/
theorem le_of_closed {calls : List Call} (closed : Closed calls n) : n ≤ (run calls).batchId := by
  induction calls using List.reverseRecOn with
  | nil =>
    obtain ⟨k, bound, -⟩ := closed
    contradiction
  | append_singleton past call ih =>
    rw [run_snoc]
    refine Nat.le_trans ?_ (batchId_le_after _ call)
    rcases (closed_snoc past call n).mp closed with before | ⟨-, opened⟩
    · exact ih before
    · exact opened

/-- Nobody waits for a batch that is still to come. -/
theorem waiting_of_lt {calls : List Call} (beyond : (run calls).batchId < n) :
    waiting calls n = [] := by
  induction calls using List.reverseRecOn with
  | nil => rfl
  | append_singleton past call ih =>
    rw [run_snoc] at beyond
    have before : (run past).batchId < n := Nat.lt_of_le_of_lt (batchId_le_after _ call) beyond
    rw [waiting_snoc, ih before]
    cases accepted : (run past).accepts? call with
    | none => simp
    | some a =>
      have other : ¬ a.1 = n := by
        rw [batchId_of_accepts? accepted]
        exact Nat.ne_of_lt before
      simp [other]

/-! ## slots -/

/-- The batches that were opened and not acknowledged since. -/
def unacknowledged (calls : List Call) : List Nat :=
  (List.range' 1 (run calls).batchId).filter (fun n => ¬ Closed calls n)

/-- The slots that calls should have left. -/
def slotted (calls : List Call) : List AckSlot :=
  (unacknowledged calls).map (fun n => ⟨n, waiting calls n⟩)

section kept

variable {past : List Call} {call : Call}

/-- A call that acknowledges nothing closes nothing. -/
theorem unacknowledged_snoc (deaf : ∀ n, call ≠ .acknowledge n)
    (same : ((run past).after call).batchId = (run past).batchId) :
    unacknowledged (past ++ [call]) = unacknowledged past := by
  simp [unacknowledged, run_snoc, same, closed_snoc, deaf]

/-- A call that acknowledges nothing and leaves no listener keeps the slots. -/
theorem slotted_snoc_idle (deaf : ∀ n, call ≠ .acknowledge n)
    (silent : (run past).accepts? call = none)
    (same : ((run past).after call).batchId = (run past).batchId) :
    slotted (past ++ [call]) = slotted past := by
  simp [slotted, unacknowledged_snoc deaf same, waiting_snoc, deaf, silent]

/-- A listener that is accepted joins those that wait for the current batch. -/
theorem slotted_snoc_accepted (accepted : (run past).accepts? (.addListener l) =
    some ((run past).batchId, l)) :
    slotted (past ++ [.addListener l]) = (slotted past).map (fun s =>
      if s.batchId = (run past).batchId then { s with listeners := s.listeners ++ [l] }
      else s) := by
  have same : ((run past).after (.addListener l)).batchId = (run past).batchId :=
    batchId_accept _ _
  rw [slotted, slotted, unacknowledged_snoc (by simp) same, List.map_map]
  apply List.map_congr_left
  intro n _
  by_cases current : n = (run past).batchId
  · simp [waiting_snoc, accepted, current]
  · simp [waiting_snoc, accepted, current, Ne.symm current]

/-- A batch that is taken opens the next one, for which nobody waits yet. -/
theorem slotted_snoc_taken
    (next : ((run past).after (.take d)).batchId = (run past).batchId + 1) :
    slotted (past ++ [.take d]) = slotted past ++ [⟨(run past).batchId + 1, []⟩] := by
  have fresh : ¬ Closed past ((run past).batchId + 1) :=
    fun closed => Nat.not_succ_le_self _ (le_of_closed closed)
  have nobody : waiting past ((run past).batchId + 1) = [] := waiting_of_lt (Nat.lt_succ_self _)
  have opened : unacknowledged (past ++ [.take d]) =
      unacknowledged past ++ [(run past).batchId + 1] := by
    rw [unacknowledged, run_snoc, next, List.range'_1_concat, List.filter_append]
    simp [unacknowledged, closed_snoc, Nat.add_comm 1, fresh]
  have same : ∀ n, waiting (past ++ [.take d]) n = waiting past n := by
    intro n
    simp [waiting_snoc, accepts?]
  simp [slotted, opened, same, nobody]

/-- An acknowledgment closes the slot that it names. -/
theorem slotted_snoc_acknowledged (m : Nat) :
    slotted (past ++ [.acknowledge m]) =
      (slotted past).filter (fun s => s.batchId != m) := by
  have kept : unacknowledged (past ++ [.acknowledge m]) =
      (unacknowledged past).filter (fun n => n != m) := by
    rw [unacknowledged, unacknowledged, List.filter_filter, run_snoc]
    apply List.filter_congr
    intro n member
    have opened : n ≤ (run past).batchId := by
      have bounds := List.mem_range'_1.mp member
      change 1 ≤ n ∧ n < 1 + (run past).batchId at bounds
      omega
    by_cases named : n = m
    · subst named
      simp [closed_snoc, opened]
    · simp [closed_snoc, named, Ne.symm named]
  rw [slotted, slotted, kept, List.filter_map]
  apply List.map_congr_left
  intro n member
  have other : ¬ m = n := by
    have apart := (List.mem_filter.mp member).2
    exact fun same => by simp [same] at apart
  simp [waiting_snoc, accepts?, other]

end kept

/-- **Slots**: after any calls there is one slot for each batch that was opened and not
acknowledged since, with the listeners that wait for it. -/
theorem slots_run (calls : List Call) : (run calls).slots = slotted calls := by
  induction calls using List.reverseRecOn with
  | nil => decide
  | append_singleton past call ih =>
    rw [run_snoc]
    cases call with
    | queueSubscribe config => exact ih.trans (slotted_snoc_idle (by simp) rfl rfl).symm
    | queueUnsubscribe config => exact ih.trans (slotted_snoc_idle (by simp) rfl rfl).symm
    | addListener l =>
      cases found : ((run past).slot? (run past).batchId).isSome with
      | true =>
        have added := addListener_of_isSome found l
        have accepted : (run past).accepts? (.addListener l) = some ((run past).batchId, l) := by
          simp [accepts?, added, Except.toOption]
        rw [slotted_snoc_accepted accepted, ← ih]
        simp [after, accept, added, Except.toOption]
      | false =>
        have refused := addListener_of_isNone (by simpa using found) l
        have same : (run past).after (.addListener l) = run past := by
          simp [after, accept, refused, Except.toOption]
        rw [same, ih]
        exact (slotted_snoc_idle (by simp) (by simp [accepts?, refused, Except.toOption])
          (by rw [same])).symm
    | take d =>
      cases pending : (run past).hasPending with
      | true =>
        have taken : (run past).after (.take d) =
            advance { run past with subscribe := [], unsubscribe := [] } := by
          simp [after, take?, pending]
        rw [slotted_snoc_taken (by rw [taken]; rfl), taken, ← ih]
        rfl
      | false =>
        have same : (run past).after (.take d) = run past := by simp [after, take?, pending]
        rw [same, ih]
        exact (slotted_snoc_idle (by simp) rfl (by rw [same])).symm
    | acknowledge m => rw [slotted_snoc_acknowledged, ← ih]; rfl

/-! ## answers -/

theorem mem_unacknowledged {calls : List Call} : n ∈ unacknowledged calls ↔
    1 ≤ n ∧ n ≤ (run calls).batchId ∧ ¬ Closed calls n := by
  have bounds : 1 ≤ n ∧ n < 1 + (run calls).batchId ↔ 1 ≤ n ∧ n ≤ (run calls).batchId := by omega
  rw [unacknowledged, List.mem_filter, List.mem_range'_1, bounds, decide_eq_true_iff, and_assoc]

/-- The current batch has its slot unless it was closed. -/
theorem current_unacknowledged {calls : List Call} :
    (run calls).batchId ∈ unacknowledged calls ↔ ¬ Closed calls (run calls).batchId := by
  rw [mem_unacknowledged, and_iff_right (first_le calls), and_iff_right (Nat.le_refl _)]

theorem slot?_run (calls : List Call) (n : Nat) : (run calls).slot? n =
    if n ∈ unacknowledged calls then some ⟨n, waiting calls n⟩ else none := by
  rw [slot?, slots_run, slotted, List.find?_map]
  by_cases opened : n ∈ unacknowledged calls
  · have found : (unacknowledged calls).find? (· == n) = some n := by
      rw [List.find?_eq_some_iff_append]
      obtain ⟨smaller, larger, cut⟩ := List.append_of_mem opened
      have distinct : (unacknowledged calls).Nodup := List.Pairwise.filter _ List.nodup_range'
      rw [cut, List.nodup_append] at distinct
      refine ⟨by simp, smaller, larger, cut, fun m member => ?_⟩
      simpa using distinct.2.2 m member n List.mem_cons_self
    rw [if_pos opened]
    exact congrArg (Option.map _) found
  · have none : (unacknowledged calls).find? (· == n) = none := by
      rw [List.find?_eq_none]
      intro m member same
      rw [beq_iff_eq] at same
      exact opened (same ▸ member)
    rw [if_neg opened]
    exact congrArg (Option.map _) none

/-- Whoever is accepted finds the current batch unacknowledged. -/
theorem mem_of_accepts? {past : List Call} (accepted : (run past).accepts? call = some a) :
    a.1 ∈ unacknowledged past := by
  cases call with
  | addListener l =>
    by_contra gone
    rw [batchId_of_accepts? accepted] at gone
    have refused := addListener_of_isNone (by rw [slot?_run, if_neg gone]; rfl) l
    simp [accepts?, refused, Except.toOption] at accepted
  | _ => contradiction

/-- A batch without a slot has nobody waiting for it. -/
theorem waiting_of_not_mem {calls : List Call} (gone : n ∉ unacknowledged calls) :
    waiting calls n = [] := by
  induction calls using List.reverseRecOn with
  | nil => rfl
  | append_singleton past call ih =>
    rw [waiting_snoc]
    by_cases acks : call = .acknowledge n
    · rw [if_pos acks]
    · have before : n ∉ unacknowledged past := by
        intro opened
        rw [mem_unacknowledged] at opened gone
        refine gone ⟨opened.1, ?_, ?_⟩
        · rw [run_snoc]
          exact Nat.le_trans opened.2.1 (batchId_le_after _ call)
        · simp [closed_snoc, acks, opened.2.2]
      rw [if_neg acks, ih before]
      cases accepted : (run past).accepts? call with
      | none => rfl
      | some a =>
        have other : ¬ a.1 = n := fun same => before (same ▸ mem_of_accepts? accepted)
        simp [other]

/-- An acknowledgment gives back the listeners that wait for the batch that it names. -/
theorem acknowledge_run (calls : List Call) (n : Nat) :
    ((run calls).acknowledge n).2 = waiting calls n := by
  rw [acknowledge_snd, slot?_run]
  by_cases opened : n ∈ unacknowledged calls
  · rw [if_pos opened]
    rfl
  · rw [if_neg opened, waiting_of_not_mem opened]
    rfl

/-- The call behind `past` is the first acknowledgment of a batch since a place if none of `past`
is and it names the batch. -/
theorem firstAck?_eq_length (past later : List Call) (before : i < past.length) :
    firstAck? (past ++ call :: later) n i = some past.length ↔
      firstAck? past n i = none ∧ call = .acknowledge n := by
  rw [firstAck?_append past _ n before, List.findIdx?_cons]
  cases found : firstAck? past n i with
  | some j =>
    obtain ⟨d, here, rfl⟩ := Option.map_eq_some_iff.mp found
    have bound := (List.findIdx?_eq_some_iff_findIdx_eq.mp here).1
    rw [List.length_drop] at bound
    refine iff_of_false ?_ (fun both => nomatch both.1)
    rw [Option.some_or, Option.some.injEq]
    omega
  | none =>
    by_cases acks : call = .acknowledge n
    · simp [acks]
    · refine iff_of_false ?_ (fun both => acks both.2)
      rw [if_neg (by simpa using acks), Option.none_or, Option.map_map, Option.map_eq_some_iff]
      rintro ⟨d, -, same⟩
      rw [Function.comp_apply] at same
      omega

/-- Only an acknowledgment answers. -/
theorem answered_of_deaf (past later : List Call) (deaf : ∀ n, call ≠ .acknowledge n) :
    answered (past ++ call :: later) past.length = [] := by
  rw [answered, List.filter_eq_nil_iff]
  intro i member found
  rw [Option.any_eq_true] at found
  obtain ⟨a, -, first⟩ := found
  have before := List.mem_range.mp member
  exact deaf a.1 ((firstAck?_eq_length past later before).mp (eq_of_beq first)).2

/-- A call gives back the listeners of the calls that it answers. -/
theorem gives_run {calls : List Call} (here : calls[k]? = some call) :
    (run (calls.take k)).gives call =
      (answered calls k).filterMap (fun i => (accepted? calls i).map Prod.snd) := by
  obtain ⟨past, later, rfl, rfl⟩ :
      ∃ past later, calls = past ++ call :: later ∧ k = past.length := by
    obtain ⟨bound, rfl⟩ := List.getElem?_eq_some_iff.mp here
    refine ⟨calls.take k, calls.drop (k + 1), ?_, by simp; omega⟩
    rw [← List.drop_eq_getElem_cons bound, List.take_append_drop]
  rw [List.take_left]
  cases call with
  | acknowledge n =>
    rw [answered, List.filterMap_filter]
    refine (acknowledge_run past n).trans (List.filterMap_congr fun i member => ?_)
    have before := List.mem_range.mp member
    rw [waits?, accepted?_append past _ before]
    cases accepted? past i with
    | none => rfl
    | some a =>
      by_cases same : a.1 = n
      · simp [firstAck?_eq_length past later before, same]
      · simp [firstAck?_eq_length past later before, same, Ne.symm same]
  | _ => rw [answered_of_deaf past later (by simp)]; rfl

/-- A call answers those calls for whose batch it is the first acknowledgment. -/
theorem mem_answered {calls : List Call} (accepted : accepted? calls i = some (n, l)) :
    i ∈ answered calls k ↔ firstAck? calls n i = some k := by
  rw [answered, List.mem_filter, accepted, List.mem_range]
  constructor
  · rintro ⟨-, first⟩
    simpa using first
  · intro first
    refine ⟨?_, by simpa using first⟩
    obtain ⟨d, -, rfl⟩ := Option.map_eq_some_iff.mp first
    omega

/-- An acknowledgment of a batch that is still to come changes nothing. -/
theorem acknowledge_of_lt {calls : List Call} (beyond : (run calls).batchId < n) :
    (run calls).acknowledge n = (run calls, []) := by
  have kept : (run calls).slots.filter (fun s => s.batchId != n) = (run calls).slots := by
    rw [List.filter_eq_self, slots_run]
    intro s member
    obtain ⟨m, opened, rfl⟩ := List.mem_map.mp member
    have bound := (mem_unacknowledged.mp opened).2.1
    simp only [bne_iff_ne]
    omega
  refine Prod.ext ?_ ((acknowledge_run calls n).trans (waiting_of_lt beyond))
  rw [acknowledge, kept]

/-- A listener is refused while the current batch is closed. -/
theorem addListener_of_closed {calls : List Call} (closed : Closed calls (run calls).batchId)
    (l : AckListener) :
    (run calls).addListener l = .error (.obsoleteBatch (run calls).batchId) := by
  have gone : (run calls).batchId ∉ unacknowledged calls :=
    fun opened => current_unacknowledged.mp opened closed
  exact addListener_of_isNone (by rw [slot?_run, if_neg gone]; rfl) l

/-- A listener is accepted while the current batch is not closed. -/
theorem accepted?_of_not_closed {calls : List Call}
    (opened : ¬ Closed calls (run calls).batchId) (l : AckListener) :
    accepted? (calls ++ [.addListener l]) calls.length = some ((run calls).batchId, l) := by
  have there : (run calls).batchId ∈ unacknowledged calls := current_unacknowledged.mpr opened
  have added := addListener_of_isSome (by rw [slot?_run, if_pos there]; rfl) l
  rw [accepted?_last, accepts?, added]
  rfl

/-- The batch that comes after one that was taken is not closed yet. -/
theorem batchId_take {calls : List Call} (pending : (run calls).hasPending = true)
    (d : Option String) : (run (calls ++ [.take d])).batchId = (run calls).batchId + 1 ∧
      ¬ Closed (calls ++ [.take d]) ((run calls).batchId + 1) := by
  constructor
  · simp [run_snoc, after, take?, pending, advance]
  · rw [closed_snoc]
    rintro (closed | ⟨other, -⟩)
    · exact Nat.not_succ_le_self _ (le_of_closed closed)
    · contradiction

/-- **Listeners**: after any calls, the batches with a slot are those up to the current one, each
once, less those that were acknowledged since they were opened. A call gives back the listeners
of the calls that it answers, in their order, and an accepted call is answered by the first
acknowledgment of the batch that was current then, and by no other call. What names a batch that
is still to come gives nothing back and changes nothing that follows. A listener is refused, and
left nowhere, exactly if the current batch was acknowledged since it was opened; once a batch that
is not empty is taken, listeners are accepted again. -/
theorem listeners_answered_once (calls : List Call) :
    (run calls).slots.map AckSlot.batchId =
        (List.range' 1 (run calls).batchId).filter (fun n => ¬ Closed calls n) ∧
      (∀ k call, calls[k]? = some call → (run (calls.take k)).gives call =
        (answered calls k).filterMap (fun i => (accepted? calls i).map Prod.snd)) ∧
      (∀ i n l, accepted? calls i = some (n, l) → ∀ k,
        i ∈ answered calls k ↔ firstAck? calls n i = some k) ∧
      (∀ n, (run calls).batchId < n → (run calls).gives (.acknowledge n) = [] ∧
        ∀ later, run (calls ++ .acknowledge n :: later) = run (calls ++ later)) ∧
      (∀ l, if Closed calls (run calls).batchId then
          (run calls).addListener l = .error (.obsoleteBatch (run calls).batchId) ∧
            run (calls ++ [.addListener l]) = run calls
        else accepted? (calls ++ [.addListener l]) calls.length = some ((run calls).batchId, l)) ∧
      ((run calls).hasPending = true → ∀ d l,
        accepted? (calls ++ [.take d, .addListener l]) (calls.length + 1) =
          some ((run calls).batchId + 1, l)) := by
  refine ⟨?_, fun k call => gives_run, fun i n l accepted k => mem_answered accepted, ?_, ?_, ?_⟩
  · rw [slots_run, slotted, List.map_map]
    exact List.map_id _
  · intro n beyond
    have ignored := acknowledge_of_lt beyond
    refine ⟨congrArg Prod.snd ignored, fun later => ?_⟩
    rw [run_append, run_append, List.foldl_cons]
    exact congrArg (later.foldl after ·) (congrArg Prod.fst ignored)
  · intro l
    split
    · next closed =>
      have refused := addListener_of_closed closed l
      refine ⟨refused, ?_⟩
      rw [run_snoc, after, accept, Option.elim_some, refused]
      rfl
    · next opened => exact accepted?_of_not_closed opened l
  · intro pending d l
    obtain ⟨next, opened⟩ := batchId_take pending d
    rw [← next] at opened ⊢
    have accepted := accepted?_of_not_closed opened l
    rwa [List.append_assoc, List.length_append] at accepted

-- batch 2 is acknowledged before it is opened and batch 1 twice; each listener is given back once
example : (List.range 8).map (answered
    [ .addListener ⟨"a"⟩, .acknowledge 2, .queueSubscribe (SubscriptionConfig.ofChannel "job" none),
      .take none, .addListener ⟨"b"⟩, .acknowledge 1, .acknowledge 1, .acknowledge 2 ]) =
    [[], [], [], [], [], [0], [], [4]] := by decide +kernel

end GatewayClient.Batcher
