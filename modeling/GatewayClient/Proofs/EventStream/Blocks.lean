import GatewayClient.Proofs.EventStream.Chunks
import GatewayClient.Proofs.Text.Trimming

/-!
# GatewayClient.Proofs.EventStream.Blocks

What an event stream holds, read off its text as a whole. Empty lines cut the lines into blocks,
and each block speaks for itself:

```
block  =  fields            every retry hint in it, in order
block  =  fields, ended     then its frame, from the last event, all data and the last id
```

`Block.line` builds the same line by line: what it has gathered depends on the lines since the
last empty one alone, so that nothing passes from one block to another.
-/

namespace GatewayClient.EventStream

/-! ## fields -/

/-- A field: a name and a value. -/
structure Field where
  name : String
  value : String
deriving DecidableEq

/-- How a field is written: its name alone, or its name, a colon and its value, with one space
between these that does not belong to the value. -/
def Field.IsOn (f : Field) (line : List Char) : Prop :=
  line ≠ [] ∧ line.head? ≠ some ':' ∧ ':' ∉ f.name.toList ∧
    (line = f.name.toList ∧ f.value = "" ∨
      ∃ written, line = f.name.toList ++ ':' :: written ∧
        (written = ' ' :: f.value.toList ∨
          written = f.value.toList ∧ written.head? ≠ some ' '))

/-- The field on a line. Empty lines and comments have none. -/
def field? : List Char → Option Field
  | [] => none
  | ':' :: _ => none
  | line => some ⟨(splitField line).1, String.ofList (splitField line).2⟩

/-- A line that is neither empty nor a comment has the field that its two parts make. -/
theorem field?_of_plain {line : List Char} (full : line ≠ []) (plain : ∀ rest, line ≠ ':' :: rest) :
    field? line = some ⟨(splitField line).1, String.ofList (splitField line).2⟩ := by
  unfold field?
  split
  · contradiction
  · next rest => exact absurd rfl (plain rest)
  · rfl

/-- Only such a line has a field. -/
theorem field?_eq {line : List Char} :
    field? line = if line = [] ∨ line.head? = some ':' then none
      else some ⟨(splitField line).1, String.ofList (splitField line).2⟩ := by
  split
  · next other =>
    rcases other with rfl | comment
    · rfl
    · obtain ⟨rest, rfl⟩ := List.head?_eq_some_iff.mp comment
      rfl
  · next other =>
    rw [not_or] at other
    refine field?_of_plain other.1 (fun rest comment => other.2 ?_)
    rw [comment, List.head?_cons]

/-- A line without a colon is a name. -/
theorem splitField_of_not_mem {line : List Char} (bare : ':' ∉ line) :
    splitField line = (String.ofList line, []) := by
  rw [splitField, Text.takeWhile_of_not_mem bare, Text.dropWhile_of_not_mem bare]
  rfl

/-- The first colon ends the name. -/
theorem splitField_append_cons {name : List Char} (bare : ':' ∉ name) (written : List Char) :
    splitField (name ++ ':' :: written) = (String.ofList name, dropSpace written) := by
  rw [splitField, Text.takeWhile_append_cons bare, Text.dropWhile_append_cons bare]
  rfl

theorem dropSpace_eq_iff {written value : List Char} :
    dropSpace written = value ↔
      written = ' ' :: value ∨ written = value ∧ written.head? ≠ some ' ' := by
  unfold dropSpace
  split
  · simp [eq_comm]
  · next other =>
    constructor
    · rintro rfl
      refine .inr ⟨rfl, fun spaced => ?_⟩
      obtain ⟨rest, same⟩ := List.head?_eq_some_iff.mp spaced
      exact other rest same
    · rintro (spaced | ⟨rfl, -⟩)
      · exact absurd spaced (other value)
      · rfl

/-- A line has the field that is written on it. -/
theorem field?_eq_some_iff {line : List Char} {f : Field} :
    field? line = some f ↔ f.IsOn line := by
  rw [field?_eq, Option.ite_none_left_eq_some, Option.some.injEq, Field.IsOn, not_or, and_assoc]
  refine and_congr_right fun full => and_congr_right fun plain => ?_
  constructor
  · rintro rfl
    by_cases colon : ':' ∈ line
    · obtain ⟨name, written, rfl, bare⟩ := List.eq_append_cons_of_mem colon
      have value := dropSpace_eq_iff.mp (Eq.refl (dropSpace written))
      simp only [splitField_append_cons bare, String.toList_ofList]
      exact ⟨bare, .inr ⟨written, rfl, value⟩⟩
    · simp [splitField_of_not_mem colon, colon]
  · obtain ⟨name, value⟩ := f
    rintro ⟨bare, ⟨rfl, rfl⟩ | ⟨written, rfl, spaced⟩⟩
    · simp [splitField_of_not_mem bare]
    · simp [splitField_append_cons bare, dropSpace_eq_iff.mpr spaced]

/-- The values of the fields with a name, in their order. -/
def values (name : String) (block : List (List Char)) : List String :=
  ((block.filterMap field?).filter (fun f => f.name == name)).map Field.value

/-! ## blocks -/

/-- The hint that the value of a retry field gives. -/
def hint? (value : String) : Option Item :=
  (Text.readUnsigned? (Text.trim value.toList)).map .retry

/-- The retry hints among the fields of a block. -/
def hints (block : List (List Char)) : List Item := (values "retry" block).filterMap hint?

/-- The frame of a block that has ended. -/
def frameOf? (block : List (List Char)) : Option Frame :=
  if values "event" block = [] ∧ values "data" block = [] then none
  else some
    { event :=
        ((values "event" block).getLast?.filter (fun name => !name.isEmpty)).getD defaultEvent
      data := "\n".intercalate (values "data" block)
      id := (values "id" block).getLast? }

/-- What lines hold: block by block the hints, and the frame if the block has ended. -/
def reading (lines : List (List Char)) : List Item :=
  let blocks := lines.splitOn []
  blocks.dropLast.flatMap (fun block => hints block ++ ((frameOf? block).map .frame).toList) ++
    hints (blocks.getLastD [])

/-- The text of a line, without one carriage return at its end. A line that is not UTF-8 has
none. -/
def text? (line : List UInt8) : Option (List Char) :=
  (Text.Utf8.decode? (if line.getLast? = some 13 then line.dropLast else line)).map String.toList

/-- The texts of the lines that bytes end. -/
def texts (bytes : List UInt8) : List (List Char) := (endedLines bytes).filterMap text?

/-! ## line by line -/

/-- What a block's fields come to: the last event name, all data, the last id. -/
def gathered (block : List (List Char)) : Block :=
  ⟨(values "event" block).getLast?, values "data" block, (values "id" block).getLast?⟩

theorem values_append (name : String) (xs ys : List (List Char)) :
    values name (xs ++ ys) = values name xs ++ values name ys := by
  simp [values]

theorem hints_append (xs ys : List (List Char)) : hints (xs ++ ys) = hints xs ++ hints ys := by
  simp [hints, values_append]

theorem hints_of_retry (value : String) : [value].filterMap hint? = (hint? value).toList := by
  cases given : hint? value <;> simp [given]

theorem values_singleton {line : List Char} (found : field? line = some f) (name : String) :
    values name [line] = if f.name = name then [f.value] else [] := by
  by_cases named : f.name = name <;> simp [values, found, named]

/-- A block ends with its frame. -/
theorem frame?_gathered (block : List (List Char)) : (gathered block).frame? = frameOf? block := by
  simp [Block.frame?, frameOf?, gathered]

/-- A line adds its field to what was gathered, and a hint takes effect at once. -/
theorem line_gathered (block : List (List Char)) {line : List Char} (full : line ≠ []) :
    ((gathered block).line line).1 = gathered (block ++ [line]) ∧
      ((gathered block).line line).2.toList = hints [line] := by
  unfold Block.line
  split
  · contradiction
  · simp [gathered, values, hints, field?]
  · next full plain =>
    have found := field?_of_plain full plain
    generalize splitField line = parts at found
    obtain ⟨name, value⟩ := parts
    simp only
    -- one case for each name that means something, and one for all others
    split <;> simp_all [gathered, values_append, values_singleton found, hints, hint?,
      hints_of_retry]

/-! ## all lines -/

theorem reading_of_not_mem {block : List (List Char)} (running : [] ∉ block) :
    reading block = hints block := by
  simp [reading, splitOn_of_not_mem running]

/-- The first empty line ends the first block, and what follows is read for itself. -/
theorem reading_append_cons {block : List (List Char)} (running : [] ∉ block)
    (rest : List (List Char)) :
    reading (block ++ [] :: rest) =
      hints block ++ ((frameOf? block).map .frame).toList ++ reading rest := by
  have more : rest.splitOn [] ≠ [] := List.splitOnP_ne_nil _ _
  obtain ⟨next, blocks, split⟩ := List.exists_cons_of_ne_nil more
  simp [reading, splitOn_append_cons running, split]

/-- A line that ends loses one carriage return. -/
theorem Decoder.lineBytes_reverse (line : List UInt8) :
    lineBytes line.reverse = if line.getLast? = some 13 then line.dropLast else line := by
  rcases List.eq_nil_or_concat line with rfl | ⟨front, last, rfl⟩
  · rfl
  · simp only [List.concat_eq_append, List.reverse_append, List.reverse_singleton,
      List.singleton_append, List.getLast?_concat, List.dropLast_concat, Option.some.injEq]
    unfold lineBytes
    split
    · next same =>
      obtain ⟨rfl, rfl⟩ := List.cons.inj same
      simp
    · next other =>
      rw [if_neg (fun same => other _ (by rw [same])), List.reverse_cons, List.reverse_reverse]

/-- A line that ends adds its text to the block, if it has one. -/
theorem Decoder.endLine_reverse (line : List UInt8) (b : Block) :
    Decoder.endLine ⟨line.reverse, b⟩ = match text? line with
      | none => (⟨[], b⟩, [])
      | some text => (⟨[], (b.line text).1⟩, (b.line text).2.toList) := by
  rw [endLine, lineBytes_reverse, text?]
  cases Text.Utf8.decode? (if line.getLast? = some 13 then line.dropLast else line) <;> rfl

/-- Taking lines is reading their texts, behind the lines of the block that is open. -/
theorem Block.takeLines_gathered (lines : List (List UInt8)) {block : List (List Char)}
    (running : [] ∉ block) :
    hints block ++ ((gathered block).takeLines lines).2 =
      reading (block ++ lines.filterMap text?) := by
  induction lines generalizing block with
  | nil => simp [takeLines, reading_of_not_mem running]
  | cons line rest ih =>
    rw [takeLines, Decoder.endLine_reverse]
    cases shown : text? line with
    | none =>
      rw [List.filterMap_cons_none shown]
      exact ih running
    | some text =>
      rw [List.filterMap_cons_some shown]
      by_cases ended : text = []
      · subst ended
        have fresh : (empty.takeLines rest).2 = reading (rest.filterMap text?) :=
          ih List.not_mem_nil
        rw [reading_append_cons running, ← frame?_gathered, ← fresh, List.append_assoc]
        rfl
      · obtain ⟨grown, hinted⟩ := line_gathered block ended
        have longer : [] ∉ block ++ [text] := by simp [running, Ne.symm ended]
        have extended := ih longer
        rw [hints_append, List.append_assoc, List.append_assoc] at extended
        simp only [grown, hinted]
        exact extended

/-! ## what a stream holds -/

/-- An empty line as it is written: with or without a carriage return. -/
def blankLine (returned : Bool) : List UInt8 := if returned then [13, 10] else [10]

/-- A line without text takes the decoder back to the start. -/
theorem Decoder.endLine_of_blank {line : List UInt8} (blank : text? line = some []) (b : Block) :
    (Decoder.endLine ⟨line.reverse, b⟩).1 = start := by
  rw [endLine_reverse, blank]
  rfl

/-- After an empty line the decoder is where it was at the start. -/
theorem Decoder.feed_blankLine (d : Decoder) (returned : Bool) :
    (d.feed (10 :: blankLine returned)).1 = start := by
  have clear : d.endLine.1 = ⟨[], d.endLine.1.block⟩ := by
    rw [← endLine_line d]
  rw [feed_cons_lineFeed, clear]
  cases returned with
  | false => exact endLine_of_blank (by decide +kernel : text? [] = some []) d.endLine.1.block
  | true => exact endLine_of_blank (by decide +kernel : text? [13] = some []) d.endLine.1.block

/-- What is read of chunks are the texts of the lines that their bytes end. -/
theorem read_eq (cuts : List (List UInt8)) :
    read (cuts.map .bytes) = (reading (texts cuts.flatten), []) := by
  have whole : read (cuts.map .bytes ++ []) = ((Decoder.start.feed cuts.flatten).2 ++ [], []) :=
    readChunks_append Decoder.start cuts []
  have items : (Decoder.start.feed cuts.flatten).2 = reading (texts cuts.flatten) := by
    have fed := Decoder.feed_eq_takeLines [] cuts.flatten .empty List.not_mem_nil
    exact (congrArg Prod.snd fed).trans (Block.takeLines_gathered _ List.not_mem_nil)
  rwa [List.append_nil, List.append_nil, items] at whole

/-- **Blocks**: however its bytes are cut, a stream holds what its blocks say, each for itself:
the fields are those that are written on the lines, and nothing passes over an empty line. -/
theorem read_eq_reading (cuts : List (List UInt8)) :
    (read (cuts.map .bytes)).1 = reading (texts cuts.flatten) ∧
      (∀ line f, field? line = some f ↔ f.IsOn line) ∧
      ∀ before returned after,
        decode (before ++ 10 :: blankLine returned ++ after) =
          decode (before ++ 10 :: blankLine returned) ++ decode after := by
  refine ⟨?_, fun line f => field?_eq_some_iff, fun before returned after => ?_⟩
  · rw [read_eq]
  · rw [decode, Decoder.feed_append, Decoder.feed_append, Decoder.feed_blankLine]
    rw [decode, Decoder.feed_append, decode]

example : decode (Text.Utf8.encode "data: a\nretry: 5\nid: 1\ndata:b\n\nid: 2\n\nevent: job\n\n") =
    [.retry 5, .frame ⟨"message", "a\nb", some "1"⟩, .frame ⟨"job", "", none⟩] := by
  decide +kernel

end GatewayClient.EventStream
