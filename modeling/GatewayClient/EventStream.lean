import GatewayClient.Log
import GatewayClient.Text.Basic
import GatewayClient.Text.Utf8

/-!
# GatewayClient.EventStream

Decoding of a `text/event-stream`. The bytes come in chunks that may be cut anywhere; a line
ends at a line feed, with at most one carriage return before it, and a line that is not UTF-8
is skipped. Lines are the fields of a block; an empty line ends the block and makes a frame of
it. `feed_append` says that the cuts between chunks do not matter.
-/

namespace GatewayClient.EventStream

/-- A named frame with its data, and its id if it has one. -/
structure Frame where
  event : String
  data : String
  id : Option String
deriving DecidableEq

/-- What a stream holds: frames, and hints on how many milliseconds to wait before the stream is
opened again. -/
inductive Item where
  | frame (f : Frame)
  | retry (millis : UInt64)
deriving DecidableEq

/-- The name of a frame that was given none. -/
def defaultEvent : String := "message"

/-! ## lines and blocks -/

/-- The fields of a block so far: the last event name, all data lines, the last id. -/
structure Block where
  event : Option String
  data : List String
  id : Option String
deriving DecidableEq

namespace Block

/-- The block without any field. -/
def empty : Block := ⟨none, [], none⟩

/-- The frame that a block makes when it ends. Without an event name and without data it makes
none. -/
def frame? (b : Block) : Option Frame :=
  if b.event.isNone && b.data.isEmpty then none
  else some
    { event := (b.event.filter (fun e => !e.isEmpty)).getD defaultEvent
      data := "\n".intercalate b.data
      id := b.id }

end Block

/-- Drops one space at the front. -/
def dropSpace : List Char → List Char
  | ' ' :: rest => rest
  | cs => cs

/-- The name and the value of a line's field: what stands before the first colon, and what
stands after it less one space. Without a colon the whole line is the name. -/
def splitField (line : List Char) : String × List Char :=
  (String.ofList (line.takeWhile (· != ':')), dropSpace ((line.dropWhile (· != ':')).drop 1))

/-- A block with one more line, and what the line completes: an empty line ends the block, a
retry hint takes effect at once, a line that starts with a colon is a comment. -/
def Block.line (b : Block) : List Char → Block × Option Item
  | [] => (Block.empty, b.frame?.map .frame)
  | ':' :: _ => (b, none)
  | line =>
    let (name, value) := splitField line
    match name with
    | "event" => ({ b with event := some (String.ofList value) }, none)
    | "data" => ({ b with data := b.data ++ [String.ofList value] }, none)
    | "id" => ({ b with id := some (String.ofList value) }, none)
    | "retry" => (b, (Text.readUnsigned? (Text.trim value)).map .retry)
    | _ => (b, none)

/-! ## bytes -/

/-- The state of a decoder: the bytes of the line that has not ended, the latest one first, and
the block. -/
structure Decoder where
  line : List UInt8
  block : Block
deriving DecidableEq

namespace Decoder

/-- The state at the start of a stream. -/
def start : Decoder := ⟨[], Block.empty⟩

/-- The bytes of a line, given in reverse, without a carriage return at its end. -/
def lineBytes : List UInt8 → List UInt8
  | 13 :: rest => rest.reverse
  | line => line.reverse

/-- Ends the current line. -/
def endLine (d : Decoder) : Decoder × List Item :=
  match Text.Utf8.decode? (lineBytes d.line) with
  | none => (⟨[], d.block⟩, [])
  | some text =>
    let (block, item) := d.block.line text.toList
    (⟨[], block⟩, item.toList)

/-- Takes one byte. -/
def byte (d : Decoder) (b : UInt8) : Decoder × List Item :=
  if b = 10 then d.endLine else ({ d with line := b :: d.line }, [])

/-- Takes the bytes of a chunk. -/
def feed (d : Decoder) : List UInt8 → Decoder × List Item
  | [] => (d, [])
  | b :: rest =>
    let (d, items) := d.byte b
    let (d, more) := d.feed rest
    (d, items ++ more)

/-- Taking two chunks is taking their bytes together. -/
theorem feed_append (d : Decoder) (xs ys : List UInt8) :
    d.feed (xs ++ ys) =
      (((d.feed xs).1.feed ys).1, (d.feed xs).2 ++ ((d.feed xs).1.feed ys).2) := by
  induction xs generalizing d with
  | nil => simp [feed]
  | cons x xs ih => simp [feed, ih]

end Decoder

/-- The items of a whole byte sequence. -/
def decode (bytes : List UInt8) : List Item := (Decoder.start.feed bytes).2

/-! ## chunks -/

/-- What reading from a connection gives: bytes, or a failure. -/
inductive Chunk where
  | bytes (bs : List UInt8)
  | failure (reason : String)

/-- The warning about a failure. -/
def failureEntry (reason : String) : Log.Entry :=
  { level := .warn, component := .eventStream, message := "SSE stream read error: " ++ reason
    fields := [] }

/-- The items of a sequence of chunks, from a state on. A failure ends the stream and is
logged. -/
def readChunks (d : Decoder) : List Chunk → List Item × List Log.Entry
  | [] => ([], [])
  | .failure reason :: _ => ([], [failureEntry reason])
  | .bytes bs :: rest =>
    let (d, items) := d.feed bs
    let (more, log) := readChunks d rest
    (items ++ more, log)

/-- The items of a stream that comes in chunks. -/
def read (chunks : List Chunk) : List Item × List Log.Entry := readChunks Decoder.start chunks

end GatewayClient.EventStream
