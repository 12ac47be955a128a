import GatewayClient.Proofs.Configuration.Credentials
import GatewayClient.Proofs.Text.Numerals

/-!
# GatewayClient.Proofs.Configuration.Posting

How batches are posted. A flush makes a batch whole, with its number, its URL and its session; the
sender posts one batch at a time, and goes on with the next one whatever has become of the last:

```
posted    1, 2, ..., n                n posts were begun, of which n or n - 1 have ended
waiting   n + 1, ..., current - 1     for the posts after that, in this order
```
-/

namespace GatewayClient

/-! ## numbers in URLs -/

namespace Endpoint

/-- The batch that a URL names: the number at its end. -/
def namedBatch (url : String) : Nat :=
  Text.decimalValue (url.toList.reverse.takeWhile Text.isDigit).reverse

/-- The URL of a batch names that batch. -/
theorem namedBatch_configureUrl (server : String) (n : Nat) :
    namedBatch (configureUrl server n) = n := by
  have parts : ∃ front, (configureUrl server n).toList = front ++ '=' :: Text.numeral 10 n := by
    refine ⟨server.toList ++ "/sse-gateway/configure?batchId".toList, ?_⟩
    simp [configureUrl, gatewayPath, Text.decimal]
  obtain ⟨front, parts⟩ := parts
  have digits : ∀ c ∈ (Text.numeral 10 n).reverse, Text.isDigit c = true :=
    fun c member => Text.isDigit_of_mem_numeral (List.mem_reverse.mp member)
  have ends : Text.isDigit '=' = false := by decide
  have last : (configureUrl server n).toList.reverse.takeWhile Text.isDigit =
      (Text.numeral 10 n).reverse := by
    rw [parts, List.reverse_append, List.reverse_cons, List.append_assoc,
      List.takeWhile_append_of_pos digits, List.singleton_append,
      List.takeWhile_cons_of_neg (by simp [ends]), List.append_nil]
  rw [namedBatch, last, List.reverse_reverse, Text.decimalValue_numeral]

end Endpoint

/-! ## whole batches -/

/-- What makes a batch whole: it holds a change, its URL is the one of its number, and it is meant
for the dispatcher of the session that it goes with. -/
structure OutgoingBatch.Whole (batch : OutgoingBatch) : Prop where
  changes : batch.request.subscribe ≠ [] ∨ batch.request.unsubscribe ≠ []
  url : ∃ server, batch.url = Endpoint.configureUrl server batch.batchId
  named : Endpoint.namedBatch batch.url = batch.batchId
  dispatcher : batch.request.dispatcherId = batch.session.dispatcherId

namespace Runs

/-- A batch is whole when it is handed over. -/
theorem Step.whole_of_handsOver {e : Step} (given : batch ∈ e.handsOver) : batch.Whole := by
  have waits := Step.hasPending_of_handsOver given
  obtain ⟨session, server, -, rfl⟩ := Step.mem_handsOver given
  constructor
  · simpa [Batcher.hasPending, Connection.nextBatch] using waits
  · exact ⟨server, rfl⟩
  · exact Endpoint.namedBatch_configureUrl server _
  · rfl

/-! ## one post at a time -/

/-- Whether a step ends a post. -/
def Step.endsPost (e : Step) : Bool :=
  match e.action with
  | .endPost _ => true
  | _ => false

/-- The number of posts that have ended. -/
def postsEnded (trace : List Step) : Nat := trace.countP Step.endsPost

theorem postsEnded_snoc (trace : List Step) (e : Step) :
    postsEnded (trace ++ [e]) = postsEnded trace + if e.endsPost then 1 else 0 := by
  simp [postsEnded, List.countP_cons]

/-- All posts that were begun have ended, but for the one that is under way. -/
def OneAtATime (trace : List Step) (c : Connection) : Prop :=
  (posted trace).length = postsEnded trace + c.outbox.posting.toList.length

/-- A step that neither begins nor ends a post. -/
theorem OneAtATime.idle (single : OneAtATime trace c) (silent : e.outcome.posted = none)
    (goesOn : e.endsPost = false) (same : c'.outbox.posting = c.outbox.posting) :
    OneAtATime (trace ++ [e]) c' := by
  simpa [OneAtATime, postsEnded_snoc, silent, goesOn, same] using single

/-- While the sender lives, it posts one batch at a time. -/
theorem Life.oneAtATime (life : Life trace x around) (kept : ∀ e ∈ trace, e.action ≠ .loseSender) :
    OneAtATime trace x.connection := by
  induction life with
  | born id url hook settings => rfl
  | next life change key ih =>
    have single := ih (fun e member => kept e (List.mem_append_left _ member))
    cases change with
    | beginPost batch rest idle running waiting =>
      simp only [OneAtATime, idle, Option.toList_none, List.length_nil, Nat.add_zero] at single
      simp [OneAtATime, postsEnded_snoc, Step.endsPost, single]
    | endPost batch result commands posting quiet =>
      simp only [OneAtATime, posting, Option.toList_some, List.length_singleton] at single
      simp [OneAtATime, postsEnded_snoc, Step.endsPost, single]
    | loseSender => exact absurd rfl (kept _ (List.mem_append_right _ List.mem_cons_self))
    | _ => exact single.idle rfl rfl rfl

/-- A post begins when none is under way, with the batch that has waited longest. -/
theorem Change.posts (change : Change around x action outcome y)
    (begun : outcome.posted = some batch) :
    x.connection.outbox.posting = none ∧ ∃ rest, x.connection.outbox.waiting = batch :: rest := by
  cases change with
  | beginPost first rest idle running waiting =>
    obtain rfl : first = batch := Option.some.inj begun
    exact ⟨idle, rest, waiting⟩
  | _ => contradiction

/-- The batch that waits longest has the number after those that were posted. -/
theorem Accounted.first_id (account : Accounted trace c)
    (waiting : c.outbox.waiting = batch :: rest) : batch.batchId = (posted trace).length + 1 := by
  have here := congrArg (·[(posted trace).length]?) account.ids
  simp only [handed, waiting, List.map_append, List.map_cons, List.length_append,
    List.length_cons] at here
  rw [List.getElem?_append_right (by simp), List.getElem?_range' (by omega)] at here
  simp only [List.length_map, Nat.sub_self, List.getElem?_cons_zero, Option.some.injEq] at here
  omega

/-- The posted batches are numbered from one. -/
theorem Accounted.posted_ids (account : Accounted trace c) :
    (posted trace).map OutgoingBatch.batchId = List.range' 1 (posted trace).length := by
  have ids := account.ids
  rw [handed, List.map_append, List.length_append, ← List.range'_append_1] at ids
  exact (List.append_inj ids (by simp)).1

/-! ## the sender goes on -/

/-- What the sender does about the batches that wait: it posts one after the other, and each post
ends with its own result. -/
def sending (results : List (Except TransportError Unit)) : List Action :=
  results.flatMap (fun result => [.beginPost, .endPost result])

theorem posted_append (xs ys : List Step) : posted (xs ++ ys) = posted xs ++ posted ys :=
  List.filterMap_append

theorem posted_cons (e : Step) (rest : List Step) :
    posted (e :: rest) = e.outcome.posted.toList ++ posted rest := by
  cases posts : e.outcome.posted <;> simp [posted, posts]

theorem onKey_cons {e : Step} (own : e.key = key) (rest : List Step) :
    onKey key (e :: rest) = e :: onKey key rest := by
  simp [onKey, own]

section steps

variable {s : System} {c : Connection}

/-- The sender takes up the next batch if it posts none. -/
theorem take?_beginPost (known : s.manager.get? key = some c) (running : c.outbox.stopped = false)
    (idle : c.outbox.posting = none) (waiting : c.outbox.waiting = batch :: rest) :
    ∃ s' e, s.take? key .beginPost = some (s', e) ∧ e.key = key ∧
      e.outcome.posted = some batch ∧
      s'.manager.get? key = some { c with outbox := ⟨rest, some batch, false⟩ } := by
  have begun : c.beginPost? = some ({ c with outbox := ⟨rest, some batch, false⟩ }, batch) := by
    simp [Connection.beginPost?, Outbox.next?, idle, waiting, running]
  simp only [System.take?, known, System.permits, System.perform, begun, Option.isSome_some,
    if_true]
  exact ⟨_, _, rfl, rfl, rfl, get?_set known _⟩

/-- A post that is under way ends with any result. -/
theorem take?_endPost (known : s.manager.get? key = some c)
    (posting : c.outbox.posting = some batch) (result : Except TransportError Unit) :
    ∃ s' e, s.take? key (.endPost result) = some (s', e) ∧ e.key = key ∧
      e.outcome.posted = none ∧
      s'.manager.get? key = some { c with outbox := { c.outbox with posting := none } } := by
  simp only [System.take?, known, System.permits, System.perform, posting, Option.isSome_some,
    if_true]
  exact ⟨_, _, rfl, rfl, rfl, get?_set known _⟩

/-- A sender that goes on posts all that waits, whatever has become of each post. -/
theorem posted_sending {results : List (Except TransportError Unit)}
    (known : s.manager.get? key = some c) (running : c.outbox.stopped = false)
    (idle : c.outbox.posting = none) (all : results.length = c.outbox.waiting.length) :
    posted (onKey key (s.play key (sending results)).2) = c.outbox.waiting := by
  induction results generalizing s c with
  | nil =>
    rw [List.length_nil, eq_comm, List.length_eq_zero_iff] at all
    rw [all]
    rfl
  | cons result more ih =>
    cases waiting : c.outbox.waiting with
    | nil => rw [waiting] at all; contradiction
    | cons batch rest =>
      obtain ⟨s₁, e₁, begins, own₁, posts₁, known₁⟩ := take?_beginPost known running idle waiting
      obtain ⟨s₂, e₂, ends, own₂, posts₂, known₂⟩ := take?_endPost known₁ rfl result
      rw [waiting, List.length_cons, List.length_cons, Nat.add_right_cancel_iff] at all
      have later := ih known₂ rfl rfl all
      have plays : (s.play key (sending (result :: more))).2 =
          e₁ :: e₂ :: (s₂.play key (sending more)).2 := by
        simp [sending, System.play, begins, ends]
      rw [plays, onKey_cons own₁, onKey_cons own₂, posted_cons, posted_cons, posts₁, posts₂, later]
      rfl

end steps

/-- **Posting**: while its sender lives, a connection posts its batches one at a time, numbered 1,
2, 3 and so on, and has none left out: what was taken and not yet posted waits in this order, and
is posted by a sender that goes on, whatever each post results in. Every batch holds a change,
and its URL, its number, its dispatcher and its session agree, for it was made by one flush from the
session that was known then. -/
theorem posted_in_order (run : Run trace s) (known : s.manager.get? key = some c)
    (kept : ∀ e ∈ onKey key trace, e.action ≠ .loseSender) :
    (posted (onKey key trace)).map OutgoingBatch.batchId =
        List.range' 1 (posted (onKey key trace)).length ∧
      (∀ pre e post batch, onKey key trace = pre ++ e :: post → e.outcome.posted = some batch →
        postsEnded pre = (posted pre).length ∧ batch.batchId = (posted pre).length + 1) ∧
      (∀ batch ∈ posted (onKey key trace), batch.Whole ∧
        ∃ e ∈ onKey key trace, batch ∈ e.handsOver ∧ e.before.session = some batch.session) ∧
      (posted (onKey key trace) ++ c.outbox.waiting).map OutgoingBatch.batchId =
        List.range' 1 (c.batcher.batchId - 1) ∧
      (∀ result results, results.length = c.outbox.waiting.length →
        posted (onKey key (trace ++ (s.play key (.endPost result :: sending results)).2)) =
          posted (onKey key trace) ++ c.outbox.waiting) := by
  obtain ⟨dropped, -, life⟩ := life_of_run run known
  have account : Accounted (onKey key trace) c := life.accounted kept
  refine ⟨account.posted_ids, ?_, ?_, ?_, ?_⟩
  · intro pre e post batch cut begun
    obtain ⟨gone, around, y, before, change⟩ := life.split cut
    have keeps : ∀ f ∈ pre, f.action ≠ .loseSender := fun f past =>
      kept f (by simp [cut, past])
    obtain ⟨idle, rest, waiting⟩ := change.posts begun
    have single : OneAtATime pre e.before := before.oneAtATime keeps
    rw [OneAtATime, idle] at single
    exact ⟨single.symm, (before.accounted keeps).first_id waiting⟩
  · intro batch sent
    obtain ⟨e, member, given⟩ := life.handed_over batch (List.mem_append_left _ sent)
    obtain ⟨session, server, told, same⟩ := Step.mem_handsOver given
    exact ⟨Step.whole_of_handsOver given, e, member, given, by rw [told, same]; rfl⟩
  · rw [account.current, Nat.add_sub_cancel]
    exact account.ids
  · intro result results all
    have tail : posted (onKey key (s.play key (.endPost result :: sending results)).2) =
        c.outbox.waiting := by
      cases posting : c.outbox.posting with
      | none =>
        have refused : s.take? key (.endPost result) = none := by
          simp [System.take?, known, System.permits, posting]
        rw [System.play, refused]
        exact posted_sending known account.running posting all
      | some batch =>
        obtain ⟨s', e, ends, own, silent, known'⟩ := take?_endPost known posting result
        have rest := posted_sending known' account.running rfl all
        rw [System.play, ends, onKey_cons own, posted_cons, silent, rest]
        rfl
    rw [onKey_append, posted_append, tail]

/-- A connection that is told of another dispatcher, and takes a second batch, before the first
one is posted and rejected. -/
def backlog : List Action :=
  [ .subscribe ⟨"job", none, ⟨"callback"⟩, none⟩,
    .beginConnect true ⟨0, 0⟩,
    .endConnect ⟨"http://gateway", ⟨"client"⟩, 0⟩ none,
    .receive 0 (announcing "d1"),
    .flush 1 3 true,
    .receive 0 (announcing "d2"),
    .unsubscribe ⟨"callback"⟩ none,
    .flush 2 5 true,
    .beginPost,
    .endPost (.error (.status 500 "")),
    .beginPost ]

/-- Both batches are posted, each whole and with the session of its own flush. -/
theorem posted_in_order_backlog :
    (posted (onKey 0 (System.lone.play 0 backlog).2)).map OutgoingBatch.batchId = [1, 2] ∧
      (posted (onKey 0 (System.lone.play 0 backlog).2)).map
        (fun batch => batch.session.dispatcherId) = [some "d1", some "d2"] ∧
      ∀ batch ∈ posted (onKey 0 (System.lone.play 0 backlog).2), batch.Whole := by
  have known : ((System.lone.play 0 backlog).1.manager.get? 0).isSome := by decide +kernel
  obtain ⟨c, known⟩ := Option.isSome_iff_exists.mp known
  have kept : ∀ e ∈ onKey 0 (System.lone.play 0 backlog).2, e.action ≠ .loseSender := by
    intro e member lost
    have listed := mem_play (List.mem_filter.mp member).1
    simp [backlog, lost] at listed
  have two : (posted (onKey 0 (System.lone.play 0 backlog).2)).length = 2 := by decide +kernel
  obtain ⟨ids, -, whole, -⟩ := posted_in_order (run_lone.play 0 backlog) known kept
  rw [List.nil_append, two] at ids
  exact ⟨ids, by decide +kernel, fun batch member => (whole batch member).1⟩

end Runs

end GatewayClient
