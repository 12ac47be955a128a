import GatewayClient.Proofs.EventStream.Blocks
import GatewayClient.Proofs.Text.Utf8
import Mathlib.Data.List.Basic

/-!
# GatewayClient.Proofs.EventStream.Writing

Frames that are written as a stream are read back. A frame is written as a block of fields, one
for each line of its data, and an empty line:

```
event: job            the name
: any comment         lines that are no field of the frame, anywhere
data: one             the lines of the data, in their order
id: 7                 the id, if there is one, anywhere in the block
data:                 an empty line of the data
                      the end of the block
```

Each line ends with a line feed, with or without a carriage return before it. What must not be in
a name, an id or a line of the data is what would end the line, or be taken for a part of its end
(`FitsLine`).
-/

namespace GatewayClient

namespace EventStream

/-- A line and whether it ends with a carriage return before its line feed. -/
structure WrittenLine where
  text : List Char
  returned : Bool

namespace WrittenLine

/-- The bytes of a line up to its line feed. -/
def front (l : WrittenLine) : List UInt8 :=
  Text.Utf8.encode (.ofList l.text) ++ if l.returned then [13] else []

/-- The bytes of a line. -/
def bytes (l : WrittenLine) : List UInt8 := l.front ++ [10]

/-- What is read from a line: without a carriage return of its own at its end, if no other one
follows. -/
def shown (l : WrittenLine) : List Char :=
  if l.returned = false ∧ l.text.getLast? = some '\r' then l.text.dropLast else l.text

/-- The bytes of a text without a line feed hold none either. -/
theorem not_mem_front {l : WrittenLine} (running : '\n' ∉ l.text) : 10 ∉ l.front := by
  rw [front, List.mem_append, not_or]
  constructor
  · intro member
    obtain ⟨c, listed, code⟩ := Text.Utf8.exists_of_mem_encode (by decide) member
    have feed : c = '\n' := Char.toNat_inj.mp code
    exact running (feed ▸ listed)
  · cases l.returned <;> decide

/-- What is read from the bytes of a line is what it shows. -/
theorem text?_front (l : WrittenLine) : text? l.front = some l.shown := by
  obtain ⟨cs, returned⟩ := l
  cases returned with
  | true => simp [text?, front, shown, Text.Utf8.decode?_encode]
  | false =>
    by_cases last : cs.getLast? = some '\r'
    · obtain ⟨kept, rfl⟩ := List.getLast?_eq_some_iff.mp last
      have ending : Text.Utf8.encode (.ofList (kept ++ ['\r'])) =
          Text.Utf8.encode (.ofList kept) ++ [13] := Text.Utf8.encode_append kept ['\r']
      rw [front, text?, shown]
      simp only [ending, Bool.false_eq_true, if_false, List.append_nil, List.getLast?_concat,
        List.dropLast_concat, Text.Utf8.decode?_encode, Option.map_some, String.toList_ofList,
        and_self, if_true]
    · have other : (Text.Utf8.encode (.ofList cs)).getLast? ≠ some 13 := by
        intro ended
        obtain ⟨c, here, code⟩ := Text.Utf8.exists_of_getLast?_encode (by decide) ended
        have same : c = '\r' := Char.toNat_inj.mp code
        exact last (same ▸ here)
      simp [text?, front, shown, last, other, Text.Utf8.decode?_encode]

/-- The bytes of lines are taken apart into these lines again. -/
theorem texts_bytes {ls : List WrittenLine} (running : ∀ l ∈ ls, '\n' ∉ l.text) :
    texts (ls.flatMap bytes) = ls.map shown := by
  induction ls with
  | nil => rfl
  | cons l ls ih =>
    rw [List.flatMap_cons, bytes, List.append_assoc, List.singleton_append, texts,
      endedLines_append_cons (not_mem_front (running l List.mem_cons_self)),
      List.filterMap_cons_some (text?_front l), ← texts,
      ih (fun m later => running m (.tail _ later))]
    rfl

/-- All that a line does not show is a carriage return. -/
theorem running_of_shown {l : WrittenLine} (running : '\n' ∉ l.shown) : '\n' ∉ l.text := by
  rw [shown] at running
  split at running
  · next dropped =>
    obtain ⟨kept, whole⟩ := List.getLast?_eq_some_iff.mp dropped.2
    simpa [whole] using running
  · exact running

end WrittenLine

/-! ## lines of a block -/

/-- A field on a line, with a space behind the colon. -/
def fieldLine (name value : String) : List Char := name.toList ++ ':' :: ' ' :: value.toList

/-- Whether a text can be the value of a field: it has no line feed, and no carriage return at its
end. -/
def FitsLine (s : String) : Prop := '\n' ∉ s.toList ∧ s.toList.getLast? ≠ some '\r'

instance (s : String) : Decidable (FitsLine s) := inferInstanceAs (Decidable (_ ∧ _))

/-- The names of the fields that mean something. -/
def knownNames : List String := ["event", "data", "id", "retry"]

/-- Whether a line means nothing where it is read, so that it may stand anywhere: a comment, or a
field with a name that is none of the known ones, with a colon behind the name or without. -/
inductive IsAside : List Char → Prop where
  | comment {text : List Char} (running : '\n' ∉ text) : IsAside (':' :: text)
  | field {name text : List Char} (full : name ≠ []) (bare : ':' ∉ name)
      (running : '\n' ∉ name ++ text) (unknown : String.ofList name ∉ knownNames) :
      IsAside (name ++ ':' :: text)
  | name {name : List Char} (full : name ≠ []) (bare : ':' ∉ name) (running : '\n' ∉ name)
      (unknown : String.ofList name ∉ knownNames) : IsAside name

/-- The lines of a block with an event name, an id and data, in any order that keeps the data in
order, with other lines among them. Whether one of these means nothing is asked of what is read
from it: a carriage return at its end may belong to its name, or to the end of the line. -/
inductive IsBlock :
    (event id : Option String) → (data : List String) → List WrittenLine → Prop where
  | done : IsBlock none none [] []
  | event {id data ls} (name : String) (returned : Bool) (rest : IsBlock none id data ls) :
      IsBlock (some name) id data (⟨fieldLine "event" name, returned⟩ :: ls)
  | id {event data ls} (id : String) (returned : Bool) (rest : IsBlock event none data ls) :
      IsBlock event (some id) data (⟨fieldLine "id" id, returned⟩ :: ls)
  | data {event id data ls} (line : String) (returned : Bool) (rest : IsBlock event id data ls) :
      IsBlock event id (line :: data) (⟨fieldLine "data" line, returned⟩ :: ls)
  | aside {event id data ls} (line : WrittenLine) (aside : IsAside line.shown)
      (rest : IsBlock event id data ls) : IsBlock event id data (line :: ls)

/-- The lines of a text. -/
def dataLines (data : String) : List String := (data.toList.splitOn '\n').map .ofList

/-- The lines of a stream of frames: a block for each with an empty line behind it, and perhaps
lines and blocks of lines among them that mean nothing. -/
inductive IsStream : List Frame → List WrittenLine → Prop where
  | done {ls} (asides : IsBlock none none [] ls) : IsStream [] ls
  | pause {fs block ls} (returned : Bool) (asides : IsBlock none none [] block)
      (rest : IsStream fs ls) : IsStream fs (block ++ ⟨[], returned⟩ :: ls)
  | frame {f fs block ls} (returned : Bool)
      (written : IsBlock (some f.event) f.id (dataLines f.data) block) (rest : IsStream fs ls) :
      IsStream (f :: fs) (block ++ ⟨[], returned⟩ :: ls)

/-- Whether a frame can be written: it has a name, and its parts fit on lines. -/
structure Frame.Writable (f : Frame) : Prop where
  named : f.event ≠ ""
  event : FitsLine f.event
  id : ∀ id ∈ f.id, FitsLine id
  data : ∀ line ∈ dataLines f.data, FitsLine line

/-! ## fields of a line -/

theorem fieldLine_ne_nil (name value : String) : fieldLine name value ≠ [] := by simp [fieldLine]

theorem knownNames_bare : ∀ name ∈ knownNames, name.toList ≠ [] ∧ ':' ∉ name.toList := by decide

/-- A line with a known name is read as that field, with its whole value. -/
theorem field?_fieldLine {name : String} (known : name ∈ knownNames) (value : String) :
    field? (fieldLine name value) = some ⟨name, value⟩ := by
  obtain ⟨full, bare⟩ := knownNames_bare name known
  refine field?_eq_some_iff.mpr ⟨fieldLine_ne_nil name value, ?_, bare,
    .inr ⟨_, rfl, .inl rfl⟩⟩
  rw [fieldLine, List.head?_append_of_ne_nil _ full]
  exact fun colon => bare (List.mem_of_mem_head? colon)

theorem fieldLine_running {name value : String} (known : name ∈ knownNames)
    (fits : FitsLine value) : '\n' ∉ fieldLine name value := by
  have plain : ∀ name ∈ knownNames, '\n' ∉ name.toList := by decide
  simp [fieldLine, plain name known, fits.1]

/-- A value that fits on a line leaves nothing at its end that could get lost. -/
theorem shown_fieldLine {value : String} (fits : FitsLine value) (name : String) (returned : Bool) :
    WrittenLine.shown ⟨fieldLine name value, returned⟩ = fieldLine name value := by
  have last : (fieldLine name value).getLast? ≠ some '\r' := by
    have back := fits.2
    rw [fieldLine, List.getLast?_append, List.getLast?_cons_cons]
    cases written : value.toList with
    | nil => simp
    | cons c cs =>
      rw [written] at back
      simpa [List.getLast?_cons_cons] using back
  rw [WrittenLine.shown, if_neg (fun both => last both.2)]

/-- A field adds its value to those under its name. -/
theorem values_fieldLine_cons {name : String} (known : name ∈ knownNames) (value other : String)
    (block : List (List Char)) : values other (fieldLine name value :: block) =
      if name = other then value :: values other block else values other block := by
  have split : values other (fieldLine name value :: block) =
      values other [fieldLine name value] ++ values other block :=
    values_append other [fieldLine name value] block
  rw [split, values_singleton (field?_fieldLine known value)]
  split <;> rfl

/-! ## other lines -/

theorem IsAside.ne_nil {line : List Char} (aside : IsAside line) : line ≠ [] := by
  cases aside with
  | comment => simp
  | field => simp
  | name full => exact full

theorem IsAside.running {line : List Char} (aside : IsAside line) : '\n' ∉ line := by
  cases aside with
  | comment running => simpa using running
  | field full bare running => simpa using running
  | name full bare running => exact running

/-- A line that means nothing adds no value under a name that means something. -/
theorem IsAside.values_cons {line : List Char} (aside : IsAside line) {name : String}
    (known : name ∈ knownNames) (block : List (List Char)) :
    values name (line :: block) = values name block := by
  have split : values name (line :: block) = values name [line] ++ values name block :=
    values_append name [line] block
  -- all but a comment is a field, with a name that is not known
  have other : ∀ {f : Field}, field? line = some f → f.name ∉ knownNames →
      values name (line :: block) = values name block := by
    intro f found unknown
    rw [split, values_singleton found, if_neg, List.nil_append]
    rintro rfl
    exact unknown known
  cases aside with
  | comment => rfl
  | @field own text full bare running unknown =>
    have plain : ∀ rest, own ++ ':' :: text ≠ ':' :: rest := by
      obtain ⟨c, cs, rfl⟩ := List.exists_cons_of_ne_nil full
      intro rest same
      obtain ⟨rfl, -⟩ := List.cons.inj same
      exact bare List.mem_cons_self
    have found := field?_of_plain (by simp) plain
    rw [splitField_append_cons bare] at found
    exact other found unknown
  | name full bare running unknown =>
    have found := field?_of_plain full (by
      rintro rest rfl
      simp at bare)
    rw [splitField_of_not_mem bare] at found
    exact other found unknown

/-! ## blocks -/

/-- What the lines of a block hold: its event name, its id and its data, and no hint. -/
structure Holds (event id : Option String) (data : List String) (block : List (List Char)) :
    Prop where
  event : values "event" block = event.toList
  id : values "id" block = id.toList
  data : values "data" block = data
  retry : values "retry" block = []
  running : [] ∉ block

namespace Holds

variable {event id : Option String} {data : List String} {block : List (List Char)}

theorem event_cons (held : Holds none id data block) (name : String) :
    Holds (some name) id data (fieldLine "event" name :: block) := by
  have add := fun other =>
    values_fieldLine_cons (show "event" ∈ knownNames by decide) name other block
  constructor <;>
    simp [add, held.event, held.id, held.data, held.retry, held.running, fieldLine_ne_nil]

theorem id_cons (held : Holds event none data block) (id : String) :
    Holds event (some id) data (fieldLine "id" id :: block) := by
  have add := fun other => values_fieldLine_cons (show "id" ∈ knownNames by decide) id other block
  constructor <;>
    simp [add, held.event, held.id, held.data, held.retry, held.running, fieldLine_ne_nil]

theorem data_cons (held : Holds event id data block) (line : String) :
    Holds event id (line :: data) (fieldLine "data" line :: block) := by
  have add := fun other =>
    values_fieldLine_cons (show "data" ∈ knownNames by decide) line other block
  constructor <;>
    simp [add, held.event, held.id, held.data, held.retry, held.running, fieldLine_ne_nil]

theorem aside_cons (held : Holds event id data block) {line : List Char} (aside : IsAside line) :
    Holds event id data (line :: block) where
  event := (aside.values_cons (by decide) block).trans held.event
  id := (aside.values_cons (by decide) block).trans held.id
  data := (aside.values_cons (by decide) block).trans held.data
  retry := (aside.values_cons (by decide) block).trans held.retry
  running := by simp [aside.ne_nil, held.running]

end Holds

/-- Whether each part of a block fits on a line. -/
structure PartsFit (event id : Option String) (data : List String) : Prop where
  event : ∀ s ∈ event, FitsLine s
  id : ∀ s ∈ id, FitsLine s
  data : ∀ s ∈ data, FitsLine s

theorem PartsFit.none : PartsFit none none [] := ⟨by simp, by simp, by simp⟩

theorem Frame.Writable.fits {f : Frame} (writable : f.Writable) :
    PartsFit (some f.event) f.id (dataLines f.data) :=
  ⟨by simpa using writable.event, writable.id, writable.data⟩

/-- Lines that are written as a block hold what it has, if each part fits on a line. -/
theorem IsBlock.holds {event id : Option String} {data : List String} {ls : List WrittenLine}
    (written : IsBlock event id data ls) (fits : PartsFit event id data) :
    Holds event id data (ls.map WrittenLine.shown) := by
  induction written with
  | done => exact ⟨rfl, rfl, rfl, rfl, List.not_mem_nil⟩
  | @event id data ls name returned rest ih =>
    rw [List.map_cons, shown_fieldLine (fits.event name rfl)]
    exact (ih ⟨by simp, fits.id, fits.data⟩).event_cons name
  | @id event data ls name returned rest ih =>
    rw [List.map_cons, shown_fieldLine (fits.id name rfl)]
    exact (ih ⟨fits.event, by simp, fits.data⟩).id_cons name
  | @data event id data ls line returned rest ih =>
    rw [List.map_cons, shown_fieldLine (fits.data line List.mem_cons_self)]
    exact (ih ⟨fits.event, fits.id, fun s later => fits.data s (.tail _ later)⟩).data_cons line
  | @aside event id data ls line aside rest ih => exact (ih fits).aside_cons aside

/-! ## frames -/

/-- The lines of a text, joined again, are the text. -/
theorem intercalate_dataLines (data : String) : "\n".intercalate (dataLines data) = data := by
  refine String.toList_inj.mp ?_
  rw [String.toList_intercalate, dataLines, List.map_map]
  have same : (data.toList.splitOn '\n').map (String.toList ∘ String.ofList) =
      (data.toList.splitOn '\n').map id :=
    List.map_congr_left (fun _ _ => String.toList_ofList)
  rw [same, List.map_id]
  exact List.intercalate_splitOn '\n'

variable {block : List (List Char)} {f : Frame}

/-- A block that holds what a frame has makes that frame. -/
theorem Holds.frameOf?_eq_some (held : Holds (some f.event) f.id (dataLines f.data) block)
    (named : f.event ≠ "") : frameOf? block = some f := by
  obtain ⟨event, data, id⟩ := f
  simp only at held named
  have kept : (some event).filter (fun name => !name.isEmpty) = some event := by simpa using named
  rw [frameOf?, held.event, held.id, held.data, intercalate_dataLines]
  cases id <;> simp [kept]

/-- A block that holds neither a name nor data makes no frame. -/
theorem Holds.frameOf?_eq_none (held : Holds none none [] block) : frameOf? block = none := by
  simp [frameOf?, held.event, held.data]

/-- A block before an empty line is read as its frame, if it makes one, and nothing else. -/
theorem Holds.reading_append {event id : Option String} {data : List String}
    (held : Holds event id data block) (rest : List (List Char)) :
    reading (block ++ [] :: rest) = ((frameOf? block).map .frame).toList ++ reading rest := by
  rw [reading_append_cons held.running, hints, held.retry]
  rfl

/-! ## streams -/

/-- A stream is read as its frames. -/
theorem IsStream.reading {fs : List Frame} {ls : List WrittenLine} (stream : IsStream fs ls)
    (writable : ∀ f ∈ fs, f.Writable) :
    EventStream.reading (ls.map WrittenLine.shown) = fs.map .frame := by
  induction stream with
  | done asides =>
    have held := asides.holds .none
    rw [reading_of_not_mem held.running, hints, held.retry]
    rfl
  | pause returned asides rest ih =>
    have held := asides.holds .none
    have empty : WrittenLine.shown ⟨[], returned⟩ = [] := by simp [WrittenLine.shown]
    rw [List.map_append, List.map_cons, empty, held.reading_append, held.frameOf?_eq_none,
      ih writable]
    rfl
  | @frame f fs block ls returned written rest ih =>
    have own := writable f List.mem_cons_self
    have held := written.holds own.fits
    have empty : WrittenLine.shown ⟨[], returned⟩ = [] := by simp [WrittenLine.shown]
    have others := ih (fun g later => writable g (.tail _ later))
    rw [List.map_append, List.map_cons, empty, held.reading_append,
      held.frameOf?_eq_some own.named, others]
    rfl

/-- No text of a line goes on over a line feed, if each part of the block fits on a line. -/
theorem IsBlock.running {event id : Option String} {data : List String} {ls : List WrittenLine}
    (written : IsBlock event id data ls) (fits : PartsFit event id data) :
    ∀ l ∈ ls, '\n' ∉ l.text := by
  induction written with
  | done => simp
  | @event id data ls name returned rest ih =>
    exact List.forall_mem_cons.mpr ⟨fieldLine_running (by decide) (fits.event name rfl),
      ih ⟨by simp, fits.id, fits.data⟩⟩
  | @id event data ls name returned rest ih =>
    exact List.forall_mem_cons.mpr ⟨fieldLine_running (by decide) (fits.id name rfl),
      ih ⟨fits.event, by simp, fits.data⟩⟩
  | @data event id data ls line returned rest ih =>
    exact List.forall_mem_cons.mpr
      ⟨fieldLine_running (by decide) (fits.data line List.mem_cons_self),
        ih ⟨fits.event, fits.id, fun s later => fits.data s (.tail _ later)⟩⟩
  | @aside event id data ls line aside rest ih =>
    exact List.forall_mem_cons.mpr ⟨WrittenLine.running_of_shown aside.running, ih fits⟩

theorem IsStream.running {fs : List Frame} {ls : List WrittenLine} (stream : IsStream fs ls)
    (writable : ∀ f ∈ fs, f.Writable) : ∀ l ∈ ls, '\n' ∉ l.text := by
  induction stream with
  | done asides => exact asides.running .none
  | pause returned asides rest ih =>
    exact List.forall_mem_append.mpr
      ⟨asides.running .none, List.forall_mem_cons.mpr ⟨List.not_mem_nil, ih writable⟩⟩
  | @frame f fs block ls returned written rest ih =>
    have before := written.running (writable f List.mem_cons_self).fits
    have behind := ih (fun g later => writable g (.tail _ later))
    exact List.forall_mem_append.mpr ⟨before, List.forall_mem_cons.mpr ⟨List.not_mem_nil, behind⟩⟩

/-- The lines of a frame in one order: the name, the id, the data. -/
def Frame.lines (f : Frame) : List (List Char) :=
  fieldLine "event" f.event ::
    (f.id.toList.map (fieldLine "id") ++ (dataLines f.data).map (fieldLine "data"))

/-- The lines of frames, all ended alike. -/
def written (returned : Bool) (fs : List Frame) : List WrittenLine :=
  fs.flatMap (fun f => (f.lines ++ [[]]).map (⟨·, returned⟩))

theorem isBlock_data (returned : Bool) (data : List String) :
    IsBlock none none data ((data.map (fieldLine "data")).map (⟨·, returned⟩)) := by
  induction data with
  | nil => exact .done
  | cons line data ih => exact .data line returned ih

/-- The one order is among the ways to write frames. -/
theorem isStream_written (returned : Bool) (fs : List Frame) :
    IsStream fs (written returned fs) := by
  induction fs with
  | nil => exact .done .done
  | cons f fs ih =>
    have parts : IsBlock (some f.event) f.id (dataLines f.data) (f.lines.map (⟨·, returned⟩)) := by
      rw [Frame.lines, List.map_cons, List.map_append]
      refine .event f.event returned ?_
      cases f.id with
      | none => exact isBlock_data returned _
      | some id => exact .id id returned (isBlock_data returned _)
    have stream := IsStream.frame returned parts ih
    simpa [written] using stream

/-- **Writing**: frames that are written as a stream, in any of the ways to do so and cut into
chunks anywhere, are read back. -/
theorem read_written {fs : List Frame} (writable : ∀ f ∈ fs, f.Writable) :
    (∀ returned, IsStream fs (written returned fs)) ∧
      ∀ ls, IsStream fs ls → ∀ cuts : List (List UInt8),
        cuts.flatten = ls.flatMap WrittenLine.bytes →
          read (cuts.map .bytes) = (fs.map .frame, []) := by
  refine ⟨fun returned => isStream_written returned fs, fun ls stream cuts bytes => ?_⟩
  rw [read_eq, bytes, WrittenLine.texts_bytes (stream.running writable), stream.reading writable]

/-- A frame without data, and one with an empty id, an empty line, a space and a colon in front. -/
theorem read_written_mixed :
    read [.bytes (Text.Utf8.encode ": hi\r\ndata: \neve"),
        .bytes (Text.Utf8.encode "nt: job\r\n\nid: \ndata:  é\r\nx-y\ndata: \r\nevent: a b\n"),
        .bytes (Text.Utf8.encode "data: :y\n\r\n")] =
      ([.frame ⟨"job", "", none⟩, .frame ⟨"a b", " é\n\n:y", some ""⟩], []) := by
  have empty : dataLines "" = [""] := by decide +kernel
  have lines : dataLines " é\n\n:y" = [" é", "", ":y"] := by decide +kernel
  have first : IsBlock (some "job") none (dataLines "")
      [⟨": hi".toList, true⟩, ⟨fieldLine "data" "", false⟩, ⟨fieldLine "event" "job", true⟩] := by
    rw [empty]
    have comment : IsAside (WrittenLine.shown ⟨": hi".toList, true⟩) := .comment (by decide)
    exact .aside _ comment (.data "" false (.event "job" true .done))
  have second : IsBlock (some "a b") (some "") (dataLines " é\n\n:y")
      [⟨fieldLine "id" "", false⟩, ⟨fieldLine "data" " é", true⟩, ⟨"x-y".toList, false⟩,
        ⟨fieldLine "data" "", true⟩, ⟨fieldLine "event" "a b", false⟩,
        ⟨fieldLine "data" ":y", false⟩] := by
    rw [lines]
    have nothing : IsAside (WrittenLine.shown ⟨"x-y".toList, false⟩) :=
      .name (by decide) (by decide) (by decide) (by decide)
    exact .id "" false (.data " é" true (.aside _ nothing
      (.data "" true (.event "a b" false (.data ":y" false .done)))))
  have stream := IsStream.frame (f := ⟨"job", "", none⟩) false first
    (.frame (f := ⟨"a b", " é\n\n:y", some ""⟩) true second (.done .done))
  have writable : ∀ f ∈ [Frame.mk "job" "" none, ⟨"a b", " é\n\n:y", some ""⟩], f.Writable := by
    refine List.forall_mem_cons.mpr ⟨⟨by decide, by decide, by decide, ?_⟩,
      List.forall_mem_cons.mpr ⟨⟨by decide, by decide, by decide, ?_⟩, by simp⟩⟩
    · rw [empty]
      decide
    · rw [lines]
      decide
  exact (read_written writable).2 _ stream [_, _, _] (by decide +kernel)

end EventStream

end GatewayClient
