import GatewayClient.EventStream

/-!
# GatewayClient.Proofs.EventStream.Chunks

How an event stream is cut into chunks does not matter. Between chunks the decoder keeps what
stands after the last line feed, and the block that the lines before it have left:

```
consumed  =  line LF line LF ... line LF  unended
```

so that only the lines that were ended count, wherever the chunks begin and end.
-/

namespace GatewayClient.EventStream

/-! ## lines -/

/-- The lines of bytes that a line feed has ended. -/
def endedLines (bytes : List UInt8) : List (List UInt8) := (bytes.splitOn 10).dropLast

/-- The bytes after the last line feed. -/
def unended (bytes : List UInt8) : List UInt8 := (bytes.splitOn 10).getLastD []

/-- Takes whole lines, one after the other. -/
def Block.takeLines (b : Block) : List (List UInt8) → Block × List Item
  | [] => (b, [])
  | line :: rest =>
    let (d, items) := Decoder.endLine ⟨line.reverse, b⟩
    let (b, more) := d.block.takeLines rest
    (b, items ++ more)

/-- A list without separators is one piece. -/
theorem splitOn_of_not_mem [BEq α] [LawfulBEq α] {sep : α} {p : List α} (running : sep ∉ p) :
    p.splitOn sep = [p] := by
  refine List.splitOnP_eq_singleton (fun x member => ?_)
  rw [beq_eq_false_iff_ne]
  rintro rfl
  exact running member

/-- The first separator ends the first piece. -/
theorem splitOn_append_cons [BEq α] [LawfulBEq α] {sep : α} {p : List α} (running : sep ∉ p)
    (rest : List α) : (p ++ sep :: rest).splitOn sep = p :: rest.splitOn sep := by
  refine List.splitOnP_append_cons_of_forall_mem (fun x member => ?_) sep (by simp) rest
  rw [beq_eq_false_iff_ne]
  rintro rfl
  exact running member

theorem endedLines_append_cons {p : List UInt8} (running : 10 ∉ p) (rest : List UInt8) :
    endedLines (p ++ 10 :: rest) = p :: endedLines rest := by
  rw [endedLines, splitOn_append_cons running, endedLines]
  exact List.dropLast_cons_of_ne_nil (List.splitOnP_ne_nil _ _)

theorem unended_append_cons {p : List UInt8} (running : 10 ∉ p) (rest : List UInt8) :
    unended (p ++ 10 :: rest) = unended rest := by
  rw [unended, splitOn_append_cons running, unended]
  cases pieces : rest.splitOn 10 with
  | nil => exact absurd pieces (List.splitOnP_ne_nil _ _)
  | cons first more => rfl

/-- The end of a line leaves no bytes behind. -/
theorem Decoder.endLine_line (d : Decoder) : d.endLine.1.line = [] := by
  unfold Decoder.endLine
  cases Text.Utf8.decode? (Decoder.lineBytes d.line) <;> rfl

/-- A line feed ends the line, and the next one starts. -/
theorem Decoder.feed_cons_lineFeed (d : Decoder) (rest : List UInt8) :
    d.feed (10 :: rest) =
      ((d.endLine.1.feed rest).1, d.endLine.2 ++ (d.endLine.1.feed rest).2) := rfl

/-- Feeding bytes is taking the lines that they end, and keeping what is not ended. -/
theorem Decoder.feed_eq_takeLines (p bytes : List UInt8) (b : Block) (running : 10 ∉ p) :
    Decoder.feed ⟨p.reverse, b⟩ bytes =
      (⟨(unended (p ++ bytes)).reverse, (b.takeLines (endedLines (p ++ bytes))).1⟩,
        (b.takeLines (endedLines (p ++ bytes))).2) := by
  induction bytes generalizing p b with
  | nil =>
    rw [List.append_nil, endedLines, unended, splitOn_of_not_mem running]
    rfl
  | cons x rest ih =>
    by_cases ended : x = 10
    · subst ended
      have after := ih [] (endLine ⟨p.reverse, b⟩).1.block List.not_mem_nil
      rw [List.reverse_nil, List.nil_append, ← endLine_line ⟨p.reverse, b⟩] at after
      rw [endedLines_append_cons running, unended_append_cons running, feed_cons_lineFeed, after]
      rfl
    · have longer : 10 ∉ p ++ [x] := by simp [running, Ne.symm ended]
      have extended := ih (p ++ [x]) b longer
      rw [List.reverse_append, List.append_assoc] at extended
      rw [feed, byte, if_neg ended]
      exact extended

/-! ## chunks -/

/-- Chunks before anything else are their bytes together. -/
theorem readChunks_append (d : Decoder) (cuts : List (List UInt8)) (later : List Chunk) :
    readChunks d (cuts.map .bytes ++ later) =
      ((d.feed cuts.flatten).2 ++ (readChunks (d.feed cuts.flatten).1 later).1,
        (readChunks (d.feed cuts.flatten).1 later).2) := by
  induction cuts generalizing d with
  | nil => simp [Decoder.feed]
  | cons cut rest ih => simp [readChunks, ih, Decoder.feed_append]

/-- **Chunks**: however the bytes are cut, a stream holds the items of the lines that they end,
as it does when they come at once. A failure ends it after these, and what would have come later
does not matter. -/
theorem read_cuts (cuts : List (List UInt8)) :
    read (cuts.map .bytes) = read [.bytes cuts.flatten] ∧
      (read (cuts.map .bytes)).1 = (Block.empty.takeLines (endedLines cuts.flatten)).2 ∧
      ∀ reason later, read (cuts.map .bytes ++ .failure reason :: later) =
        ((read [.bytes cuts.flatten]).1, [failureEntry reason]) := by
  have whole : ∀ later, read (cuts.map .bytes ++ later) =
      ((Decoder.start.feed cuts.flatten).2 ++
          (readChunks (Decoder.start.feed cuts.flatten).1 later).1,
        (readChunks (Decoder.start.feed cuts.flatten).1 later).2) :=
    readChunks_append Decoder.start cuts
  have once : read [.bytes cuts.flatten] = ((Decoder.start.feed cuts.flatten).2, []) := by
    simp [read, readChunks]
  have closed : read (cuts.map .bytes) = ((Decoder.start.feed cuts.flatten).2, []) := by
    simpa [readChunks] using whole []
  refine ⟨closed.trans once.symm, ?_, fun reason later => ?_⟩
  · rw [closed]
    exact congrArg Prod.snd (Decoder.feed_eq_takeLines [] cuts.flatten .empty List.not_mem_nil)
  · rw [whole, once, readChunks, List.append_nil]

end GatewayClient.EventStream
