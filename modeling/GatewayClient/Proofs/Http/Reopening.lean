import GatewayClient.Http.Transport
import Mathlib.Data.List.Induction

/-!
# GatewayClient.Proofs.Http.Reopening

How a push stream goes on over the connections that carry it. Every body is read for itself, and
what was heard in all of them so far decides how the stream is opened again:

```
first body,  then for each answer   wait  request  its body
wait      the last hint that was heard, or the delay that was set
request   behind the last id that was heard, if there was one
```

Answers are asked for up to the first one that refuses the stream.
-/

namespace GatewayClient.Http

open EventStream (Frame Item)

/-! ## answers -/

/-- The response that an answer comes to. -/
def Answer.final? : Answer → Option Response
  | .lost => none
  | .response r => r.final?

/-- Whether an answer refuses the stream: its status is no success, or it has no content. -/
def Answer.refuses (a : Answer) : Bool :=
  a.final?.any (fun r => !r.isSuccess || r.status == Response.noContent)

/-- The response whose body carries the stream on. -/
def Answer.body? (a : Answer) : Option Response :=
  a.final?.filter (fun r => r.isSuccess && r.status != Response.noContent)

/-- The number of attempts that are made: as many as there are answers, up to the first one that
refuses. -/
def attempts (answers : List Answer) : Nat :=
  min answers.length (answers.findIdx Answer.refuses + 1)

/-- The bodies that are read by the time when some answers have come, behind those that were read
before. -/
def bodies (read : List Response) (answers : List Answer) : List Response :=
  read ++ answers.filterMap Answer.body?

/-! ## what was heard -/

/-- The items of bodies, each decoded for itself. -/
def heard (read : List Response) : List Item := read.flatMap (fun r => EventStream.decode r.body)

/-- The retry hints among items. -/
def hintsOf (items : List Item) : List UInt64 :=
  items.filterMap (fun
    | .retry millis => some millis
    | .frame _ => none)

/-- What an attempt goes by when some bodies were read: the last hint in any of them, or the delay
that was set, and the last id of a frame in any of them. -/
def resumption (delay : UInt64) (read : List Response) : Resumption :=
  { delay := (hintsOf (heard read)).getLast?.getD delay
    lastId := ((framesOf (heard read)).filterMap Frame.id).getLast? }

/-- The request of an attempt. -/
def attemptRequest (url : String) (lastId : Option String) : Request :=
  { method := .get
    url
    headers := [("accept", "text/event-stream"), ("cache-control", "no-cache")] ++
      lastId.toList.map (fun id => ("last-event-id", id))
    body := "" }

/-- What an attempt leads to: it waits, it makes its request, and the body of its answer is
read. -/
def attempt (url : String) (delay : UInt64) (read : List Response) (answers : List Answer)
    (i : Nat) : List Happening :=
  let known := resumption delay (bodies read (answers.take i))
  [.wait known.delay, .request (attemptRequest url known.lastId)] ++
    (framesOf (heard (answers[i]?.bind Answer.body?).toList)).map .frame

/-- What happens but for log entries. -/
def visible (happenings : List Happening) : List Happening :=
  happenings.filter (fun
    | .log _ => false
    | _ => true)

@[simp] theorem visible_nil : visible [] = [] := rfl

@[simp] theorem visible_cons_wait (millis : UInt64) (rest : List Happening) :
    visible (.wait millis :: rest) = .wait millis :: visible rest := rfl

@[simp] theorem visible_cons_request (r : Request) (rest : List Happening) :
    visible (.request r :: rest) = .request r :: visible rest := rfl

@[simp] theorem visible_cons_entry (level : Log.Level) (message url : String)
    (more : List (String × Log.Datum)) (rest : List Happening) :
    visible (streamEntry level message url more :: rest) = visible rest := rfl

@[simp] theorem visible_append (xs ys : List Happening) :
    visible (xs ++ ys) = visible xs ++ visible ys := List.filter_append _ _

theorem visible_map_frame (frames : List Frame) :
    visible (frames.map .frame) = frames.map .frame := by
  simp [visible]

theorem visible_map_log (entries : List Log.Entry) : visible (entries.map .log) = [] := by
  simp [visible]

/-! ## bodies -/

/-- A body that breaks off holds what came of it. -/
theorem readBody_fst (r : Response) : (readBody r).1 = EventStream.decode r.body := by
  cases broken : r.broken <;>
    simp [readBody, broken, EventStream.read, EventStream.readChunks, EventStream.decode]

/-- Reading a body through yields its frames, and else only log entries. -/
theorem visible_readThrough (r : Response) :
    visible (readThrough r) = (framesOf (heard [r])).map .frame := by
  simp [readThrough, readBody_fst, heard, visible_map_frame, visible_map_log]

/-- What one item after the other adds to what is known. -/
theorem foldl_after (known : Resumption) (items : List Item) :
    items.foldl Resumption.after known =
      { delay := (hintsOf items).getLast?.getD known.delay
        lastId := ((framesOf items).filterMap Frame.id).getLast?.or known.lastId } := by
  induction items using List.reverseRecOn with
  | nil => rfl
  | append_singleton items item ih =>
    rw [List.foldl_append, ih]
    cases item with
    | retry millis => simp [Resumption.after, hintsOf, framesOf]
    | frame f => cases told : f.id <;> simp [Resumption.after, hintsOf, framesOf, told]

/-- What is known after one more body is what was heard in all of them. -/
theorem afterBody_resumption (delay : UInt64) (read : List Response) (r : Response) :
    (resumption delay read).afterBody r = resumption delay (read ++ [r]) := by
  rw [Resumption.afterBody, readBody_fst, foldl_after]
  simp [resumption, heard, hintsOf, framesOf]

/-! ## attempts -/

/-- An id that is a legal value becomes a header, and no id becomes none. -/
theorem listenRequest?_eq (url : String) {lastId : Option String}
    (legal : ∀ id, lastId = some id → id.toList.all isValueChar = true) :
    listenRequest? url lastId = some (attemptRequest url lastId) := by
  cases lastId with
  | none => rfl
  | some id =>
    have header : header? "last-event-id" id = some ("last-event-id", id) := by
      have token : isToken "last-event-id".toList = true := by decide +kernel
      have lower : Text.lower "last-event-id" = "last-event-id" := by decide +kernel
      rw [header?, token, legal id rfl, lower]
      rfl
    simp [listenRequest?, header, attemptRequest]

/-- An answer is good if there is one in the end and its status is a success. -/
theorem checked_eq (answer : Answer) :
    checked answer = match answer.final? with
      | none => .error .http
      | some r =>
        if r.isSuccess then .ok r
        else .error (.status r.status (if r.broken then "" else Text.Utf8.lossyText r.body)) := by
  cases answer <;> rfl

/-- What is made of an answer. Besides, it is only logged. -/
theorem readReopen_eq (url : String) (answer : Answer) :
    (readReopen url answer).1 = (match answer.body? with
      | some r => .reading r
      | none => if answer.refuses then .over else .failed) ∧
      visible (readReopen url answer).2 = [] := by
  rw [readReopen, checked_eq, Answer.body?, Answer.refuses]
  cases come : answer.final? with
  | none => exact ⟨rfl, rfl⟩
  | some r =>
    cases good : r.isSuccess with
    | false => simp [good, Option.filter_some]
    | true =>
      by_cases empty : r.status = Response.noContent <;> simp [good, empty, Option.filter_some]

/-- What carries the stream on does not refuse it. -/
theorem refuses_of_body? {answer : Answer} (body : answer.body? = some r) :
    answer.refuses = false := by
  obtain ⟨come, good⟩ := Option.filter_eq_some_iff.mp body
  rw [Answer.refuses, come, Option.any_some]
  simpa using good

theorem attempts_cons (answer : Answer) (rest : List Answer) :
    attempts (answer :: rest) = if answer.refuses then 1 else attempts rest + 1 := by
  cases refused : answer.refuses <;> simp [attempts, List.findIdx_cons, refused]

/-- A body that is read comes behind those before it. -/
theorem bodies_cons (read : List Response) (answer : Answer) (rest : List Answer) :
    bodies read (answer :: rest) = bodies (read ++ answer.body?.toList) rest := by
  cases body : answer.body? <;> simp [bodies, body]

/-- After the first answer the attempts go on from what was read by then. -/
theorem attempt_succ (url : String) (delay : UInt64) (read : List Response) (answer : Answer)
    (rest : List Answer) (i : Nat) :
    attempt url delay read (answer :: rest) (i + 1) =
      attempt url delay (read ++ answer.body?.toList) rest i := by
  simp only [attempt, List.take_succ_cons, bodies_cons, List.getElem?_cons_succ]

/-- The ids that frames of bodies have can be headers. -/
def LegalIds (read : List Response) : Prop :=
  ∀ f ∈ framesOf (heard read), ∀ id, f.id = some id → id.toList.all isValueChar = true

theorem LegalIds.left {xs ys : List Response} (legal : LegalIds (xs ++ ys)) : LegalIds xs := by
  intro f member
  refine legal f ?_
  rw [heard, List.flatMap_append, framesOf, List.filterMap_append]
  exact List.mem_append_left _ member

/-- The id that an attempt goes by can be a header. -/
theorem LegalIds.last {read : List Response} (legal : LegalIds read) (delay : UInt64)
    {id : String} (last : (resumption delay read).lastId = some id) :
    id.toList.all isValueChar = true := by
  obtain ⟨f, member, told⟩ := List.mem_filterMap.mp (List.mem_of_getLast? last)
  exact legal f member id told

/-- A stream that has dropped makes an attempt, and goes on unless it is refused. -/
theorem visible_reopen_cons (url : String) (delay : UInt64) {read : List Response}
    (legal : LegalIds read) (answer : Answer) (rest : List Answer) :
    visible (reopen url (resumption delay read) (answer :: rest)) =
      attempt url delay read (answer :: rest) 0 ++
        if answer.refuses then []
        else visible (reopen url (resumption delay (read ++ answer.body?.toList)) rest) := by
  have sent := listenRequest?_eq url (fun _ last => legal.last delay last)
  obtain ⟨next, quiet⟩ := readReopen_eq url answer
  rcases made : readReopen url answer with ⟨reopened, log⟩
  rw [made] at next quiet
  obtain rfl : reopened = _ := next
  have begun : attempt url delay read (answer :: rest) 0 =
      [ .wait (resumption delay read).delay,
        .request (attemptRequest url (resumption delay read).lastId) ] ++
        (framesOf (heard answer.body?.toList)).map .frame := by
    simp [attempt, bodies]
  simp only [reopen, sent, made, begun, visible_append, visible_cons_entry, visible_cons_wait,
    visible_cons_request, visible_nil, quiet]
  cases body : answer.body? with
  | some r => simp [refuses_of_body? body, visible_readThrough, afterBody_resumption]
  | none => cases refused : answer.refuses <;> simp [heard, framesOf]

/-- What happens from the moment when the stream has dropped, some bodies having been read. -/
theorem visible_reopen (url : String) (delay : UInt64) (read : List Response)
    (answers : List Answer) (legal : LegalIds (bodies read (answers.take (attempts answers)))) :
    visible (reopen url (resumption delay read) answers) =
      (List.range (attempts answers)).flatMap (attempt url delay read answers) := by
  induction answers generalizing read with
  | nil => rfl
  | cons answer rest ih =>
    rw [visible_reopen_cons url delay legal.left, attempts_cons]
    cases refused : answer.refuses with
    | true => simp [List.range_succ_eq_map]
    | false =>
      simp only [attempts_cons, refused, Bool.false_eq_true, if_false, List.take_succ_cons,
        bodies_cons] at legal
      simp [List.range_succ_eq_map, List.flatMap_map, attempt_succ, ih _ legal]

/-! ## the whole stream -/

/-- The frames that a stream yields. -/
def yielded (happenings : List Happening) : List Frame :=
  happenings.filterMap (fun
    | .frame f => some f
    | _ => none)

theorem yielded_visible (happenings : List Happening) :
    yielded (visible happenings) = yielded happenings := by
  rw [yielded, visible, List.filterMap_filter, yielded]
  congr 1
  funext h
  cases h <;> rfl

theorem yielded_append (xs ys : List Happening) :
    yielded (xs ++ ys) = yielded xs ++ yielded ys := List.filterMap_append

theorem yielded_map_frame (frames : List Frame) : yielded (frames.map .frame) = frames := by
  rw [yielded, List.filterMap_map]
  exact List.filterMap_some

/-- The frames that were heard are those of each body by itself. -/
theorem framesOf_heard (read : List Response) :
    framesOf (heard read) = read.flatMap (fun r => framesOf (EventStream.decode r.body)) := by
  simp [framesOf, heard, List.filterMap_flatMap]

theorem framesOf_heard_append (xs ys : List Response) :
    framesOf (heard (xs ++ ys)) = framesOf (heard xs) ++ framesOf (heard ys) := by
  simp [framesOf_heard]

/-- With one more answer one more body is read, if it has one. -/
theorem bodies_take_succ (read : List Response) (answers : List Answer) (i : Nat) :
    bodies read (answers.take (i + 1)) =
      bodies read (answers.take i) ++ (answers[i]?.bind Answer.body?).toList := by
  rw [bodies, bodies, List.take_add_one, List.filterMap_append, List.append_assoc]
  cases answers[i]? with
  | none => rfl
  | some answer => cases body : answer.body? <;> simp [body]

/-- Attempts yield the frames of the bodies that they read. -/
theorem yielded_attempts (url : String) (delay : UInt64) (read : List Response)
    (answers : List Answer) (n : Nat) :
    framesOf (heard read) ++
        yielded ((List.range n).flatMap (attempt url delay read answers)) =
      framesOf (heard (bodies read (answers.take n))) := by
  induction n with
  | zero => simp [bodies, yielded]
  | succ n ih =>
    have last : yielded (attempt url delay read answers n) =
        framesOf (heard (answers[n]?.bind Answer.body?).toList) := yielded_map_frame _
    rw [List.range_succ, List.flatMap_append, List.flatMap_singleton, yielded_append, last,
      ← List.append_assoc, ih, bodies_take_succ, framesOf_heard_append]

/-- Once the stream was refused, no further answer is asked for. -/
theorem reopen_append_of_refused (url : String) (known : Resumption) {answers : List Answer}
    (refused : answers.any Answer.refuses = true) (more : List Answer) :
    reopen url known (answers ++ more) = reopen url known answers := by
  induction answers generalizing known with
  | nil => contradiction
  | cons answer rest ih =>
    rw [List.any_cons, Bool.or_eq_true] at refused
    simp only [List.cons_append, reopen]
    cases listenRequest? url known.lastId with
    | none => rfl
    | some request =>
      have next := (readReopen_eq url answer).1
      rcases made : readReopen url answer with ⟨reopened, log⟩
      rw [made] at next
      obtain rfl : reopened = _ := next
      cases body : answer.body? with
      | some r =>
        have later := refused.resolve_left (by simp [refuses_of_body? body])
        simp only [ih _ later]
      | none =>
        cases ended : answer.refuses with
        | true => rfl
        | false =>
          have later := refused.resolve_left (by simp [ended])
          simp [ih _ later]

/-- **Reopening**: as long as the ids that it hears can be headers, a stream yields the frames of
every body that it reads, each decoded for itself; before each attempt it waits as the last hint
says, and the attempt goes behind the last id; after an attempt that comes to nothing the next
one is the same; and once it was refused there is no other. -/
theorem stream_reopened (url : String) (delay : UInt64) (first : Response) (answers : List Answer)
    (legal : LegalIds (bodies [first] (answers.take (attempts answers)))) :
    visible (listen url delay first answers) =
        (framesOf (EventStream.decode first.body)).map .frame ++
          (List.range (attempts answers)).flatMap (attempt url delay [first] answers) ∧
      yielded (listen url delay first answers) =
        (bodies [first] (answers.take (attempts answers))).flatMap
          (fun r => framesOf (EventStream.decode r.body)) ∧
      (∀ i, answers[i]?.bind Answer.final? = none →
        resumption delay (bodies [first] (answers.take (i + 1))) =
          resumption delay (bodies [first] (answers.take i))) ∧
      (answers.any Answer.refuses = true → ∀ more,
        listen url delay first (answers ++ more) = listen url delay first answers) := by
  have known : Resumption.afterBody ⟨delay, none⟩ first = resumption delay [first] :=
    afterBody_resumption delay [] first
  have seen : visible (listen url delay first answers) =
      (framesOf (heard [first])).map .frame ++
        (List.range (attempts answers)).flatMap (attempt url delay [first] answers) := by
    rw [listen, visible_append, visible_readThrough, known, visible_reopen url delay _ _ legal]
  have one : heard [first] = EventStream.decode first.body := by simp [heard]
  refine ⟨by rw [seen, one], ?_, fun i failed => ?_, fun refused more => ?_⟩
  · rw [← yielded_visible, seen, yielded_append, yielded_map_frame, yielded_attempts,
      framesOf_heard]
  · have nothing : answers[i]?.bind Answer.body? = none := by
      cases asked : answers[i]? with
      | none => rfl
      | some answer =>
        rw [asked, Option.bind_some] at failed
        rw [Option.bind_some, Answer.body?, failed]
        rfl
    rw [bodies_take_succ, nothing, Option.toList_none, List.append_nil]
  · rw [listen, listen, reopen_append_of_refused url _ refused]

/-- A body that breaks off within a block, behind a frame with an id. -/
def brokenBody : Response := ⟨200, Text.Utf8.encode "id: 7\ndata: a\n\ndata: b", true⟩

/-- A body with a hint. -/
def hintingBody : Response := ⟨200, Text.Utf8.encode "retry: 5\ndata: c\n\n", false⟩

/-- A failed attempt, one that goes on, one that is refused, and one that is not made. -/
def reopenings : List Answer :=
  [.lost, .response hintingBody, .response Response.empty, .response brokenBody]

/-- The stream that breaks off is opened again behind its last id. -/
theorem stream_reopened_three_times :
    visible (listen "http://gateway" 100 brokenBody reopenings) =
      [ .frame ⟨"message", "a", some "7"⟩,
        .wait 100, .request (attemptRequest "http://gateway" (some "7")),
        .wait 100, .request (attemptRequest "http://gateway" (some "7")),
        .frame ⟨"message", "c", none⟩,
        .wait 5, .request (attemptRequest "http://gateway" (some "7")) ] := by
  have legal : LegalIds (bodies [brokenBody] (reopenings.take (attempts reopenings))) := by
    have checked : (framesOf (heard (bodies [brokenBody] (reopenings.take
        (attempts reopenings))))).all (fun f =>
          f.id.all (fun id => id.toList.all isValueChar)) := by
      decide +kernel
    intro f member id told
    simpa [told] using List.all_eq_true.mp checked f member
  have made : attempts reopenings = 3 := by decide +kernel
  have first : framesOf (EventStream.decode brokenBody.body) = [⟨"message", "a", some "7"⟩] := by
    decide +kernel
  have before : resumption 100 (bodies [brokenBody] (reopenings.take 0)) = ⟨100, some "7"⟩ ∧
      resumption 100 (bodies [brokenBody] (reopenings.take 1)) = ⟨100, some "7"⟩ ∧
      resumption 100 (bodies [brokenBody] (reopenings.take 2)) = ⟨5, some "7"⟩ := by
    decide +kernel
  have after : framesOf (heard (reopenings[0]?.bind Answer.body?).toList) = [] ∧
      framesOf (heard (reopenings[1]?.bind Answer.body?).toList) = [⟨"message", "c", none⟩] ∧
      framesOf (heard (reopenings[2]?.bind Answer.body?).toList) = [] := by
    decide +kernel
  have seen := (stream_reopened "http://gateway" 100 brokenBody reopenings legal).1
  rw [seen, made, first]
  simp only [List.range_succ, List.range_zero, List.nil_append, List.cons_append,
    List.flatMap_cons, List.flatMap_nil, attempt, before, after]
  rfl

end GatewayClient.Http
