import GatewayClient.Configuration.Batcher

/-!
# GatewayClient.Proofs.Configuration.Batcher

What each operation of the batcher does to its slots. A slot is looked up by its batch:

* `advance` opens the slot of the next batch;
* a listener that is accepted is added to the slot of the current batch and to no other;
* `acknowledge` closes the slot that is named and no other.
-/

namespace GatewayClient.Batcher

/-- The batcher with a listener, if there is one and it is not refused. -/
def accept (b : Batcher) (listener : Option AckListener) : Batcher :=
  listener.elim b (fun l => (b.addListener l).toOption.getD b)

/-- The answer to whoever leaves a listener, if there is one. -/
def reception (b : Batcher) (listener : Option AckListener) : Except ClientError Unit :=
  if listener.isSome && (b.slot? b.batchId).isNone then .error (.obsoleteBatch b.batchId)
  else .ok ()

@[simp] theorem batchId_accept (b : Batcher) (listener : Option AckListener) :
    (b.accept listener).batchId = b.batchId := by
  cases listener with
  | none => rfl
  | some l =>
    simp only [accept, addListener, Option.elim_some]
    split <;> rfl

@[simp] theorem subscribe_accept (b : Batcher) (listener : Option AckListener) :
    (b.accept listener).subscribe = b.subscribe := by
  cases listener with
  | none => rfl
  | some l =>
    simp only [accept, addListener, Option.elim_some]
    split <;> rfl

@[simp] theorem unsubscribe_accept (b : Batcher) (listener : Option AckListener) :
    (b.accept listener).unsubscribe = b.unsubscribe := by
  cases listener with
  | none => rfl
  | some l =>
    simp only [accept, addListener, Option.elim_some]
    split <;> rfl

/-- Queueing the ends of several subscriptions puts them behind one another. -/
theorem foldl_queueUnsubscribe (b : Batcher) (configs : List SubscriptionConfig) :
    configs.foldl queueUnsubscribe b = { b with unsubscribe := b.unsubscribe ++ configs } := by
  induction configs generalizing b with
  | nil => simp
  | cons config rest ih =>
    rw [List.foldl_cons, ih]
    simp [queueUnsubscribe]

/-- A refused listener leaves the batcher as it is. -/
theorem accept_of_refused {b : Batcher} {listener : Option AckListener} {e : ClientError}
    (refused : b.reception listener = .error e) : b.accept listener = b := by
  cases listener with
  | none => rfl
  | some l =>
    simp only [reception, Option.isSome_some, Bool.true_and] at refused
    cases found : b.slot? b.batchId with
    | none => simp [accept, addListener, found, Except.toOption]
    | some slot => simp [found] at refused

/-! ## slots -/

theorem batchId_of_slot? {b : Batcher} (found : b.slot? n = some slot) : slot.batchId = n := by
  have chosen := List.find?_some found
  simpa using chosen

/-- The next batch gets a slot, unless there is one. -/
theorem slot?_advance (b : Batcher) (n : Nat) :
    b.advance.slot? n = (b.slot? n).or (if n = b.batchId + 1 then some ⟨n, []⟩ else none) := by
  simp only [slot?, advance, List.find?_append]
  by_cases next : n = b.batchId + 1
  · subst next
    simp
  · have other : ¬ b.batchId + 1 = n := fun same => next same.symm
    simp [next, other]

/-- Closing a slot leaves the others. -/
theorem slot?_acknowledge (b : Batcher) (m n : Nat) :
    (b.acknowledge m).1.slot? n = if n = m then none else b.slot? n := by
  simp only [slot?, acknowledge, List.find?_filter]
  by_cases named : n = m
  · subst named
    simp
  · rw [if_neg named]
    congr 1
    funext s
    by_cases here : s.batchId = n
    · simp [here, named]
    · simp [here]

/-- The listeners of a slot that is closed are those that waited in it. -/
theorem acknowledge_snd (b : Batcher) (m : Nat) :
    (b.acknowledge m).2 = ((b.slot? m).map AckSlot.listeners).getD [] := rfl

/-- Changing the slots' listeners does not change which slot is found. -/
theorem slot?_map (b : Batcher) {f : AckSlot → AckSlot} (same : ∀ s, (f s).batchId = s.batchId)
    (n : Nat) : { b with slots := b.slots.map f }.slot? n = (b.slot? n).map f := by
  simp only [slot?, List.find?_map]
  congr 2
  funext s
  simp [same]

/-- A listener is accepted while the current batch has its slot, and joins it at the end. -/
theorem slot?_accept {b : Batcher} (opened : b.slot? b.batchId = some slot)
    (listener : Option AckListener) (n : Nat) :
    (b.accept listener).slot? n =
      if n = b.batchId then some { slot with listeners := slot.listeners ++ listener.toList }
      else b.slot? n := by
  cases listener with
  | none =>
    by_cases current : n = b.batchId
    · simp [accept, current, opened]
    · simp [accept, current]
  | some l =>
    have added : b.accept (some l) = { b with slots := b.slots.map (fun s =>
        if s.batchId = b.batchId then { s with listeners := s.listeners ++ [l] } else s) } := by
      simp [accept, addListener, opened, Except.toOption]
    rw [added, slot?_map b (by intro s; split <;> rfl)]
    by_cases current : n = b.batchId
    · subst current
      simp [opened, batchId_of_slot? opened]
    · rw [if_neg current]
      cases found : b.slot? n with
      | none => rfl
      | some other => simp [batchId_of_slot? found, current]

/-- A batch that has its slot refuses no listener. -/
theorem reception_of_slot? {b : Batcher} (opened : b.slot? b.batchId = some slot)
    (listener : Option AckListener) : b.reception listener = .ok () := by
  simp [reception, opened]

end GatewayClient.Batcher
