import GatewayClient.Text.Utf8

/-!
# GatewayClient.Text.Terminal

Text as it is written where no terminal reads it: control characters other than blanks are left
out, and with them the sequences that tell a terminal what to do.
-/

namespace GatewayClient.Text

/-! ## control sequences -/

/-- What a reader of control sequences is in the middle of: nothing, a sequence behind its
escape character or behind a sign after it, a sequence with parameters, the start of a text for
the device, the rest of such a text, or a command, which ends with a bell. -/
inductive ControlSequence where
  | none
  | escape
  | selection
  | parameters
  | device
  | hidden
  | command
deriving DecidableEq

namespace ControlSequence

/-- Whether a control character is a blank, which is written. -/
def isSpacing (c : Char) : Bool := c == '\t' || c == '\n' || c == '\x0c' || c == '\r'

/-- Whether a character of ASCII is visible, or a space. -/
def isPrintable (c : Char) : Bool := ' ' ≤ c && c < '\x7f'

/-- What a sign behind the escape character begins. Most signs are a whole sequence. -/
def begun (sign : Char) : ControlSequence :=
  if sign ≤ '/' then selection
  else if sign == '[' then parameters
  else if sign == ']' then command
  else if sign == 'P' then device
  else if sign == 'X' || sign == '^' || sign == '_' then hidden
  else none

/-- What a character of ASCII makes of a sequence. The escape character begins a new one, and
two control characters break off any. -/
def after (s : ControlSequence) (c : Char) : ControlSequence :=
  if c == '\x1b' then escape
  else if c == '\x18' || c == '\x1a' then none
  else match s with
    | escape => if isPrintable c then begun c else s
    | selection => if isPrintable c && '0' ≤ c then none else s
    | parameters => if isPrintable c && '@' ≤ c then none else s
    | device => if isPrintable c && '@' ≤ c then hidden else s
    | command => if c == '\x07' then none else s
    | none | hidden => s

/-- What a character above ASCII makes of a sequence: one of its bytes can end a hidden text. -/
def afterBytes (s : ControlSequence) (c : Char) : ControlSequence :=
  if s == hidden && (String.utf8EncodeChar c).contains 0x9c then none else s

/-- Whether a character of ASCII is written in the middle of a sequence. -/
def writes (s : ControlSequence) (c : Char) : Bool :=
  match s with
  | none => isPrintable c || isSpacing c
  | escape | selection | parameters => isSpacing c
  | device | hidden | command => false

end ControlSequence

/-! ## reading -/

/-- A reader of text with control sequences: what it is in the middle of, and whether it has
written the last character. -/
structure TerminalReader where
  sequence : ControlSequence
  writing : Bool

namespace TerminalReader

/-- The reader at the start of a text. -/
def start : TerminalReader := ⟨.none, true⟩

/-- Reads a character. A sequence in which something was written goes on when a character comes
that is not written. -/
def read (r : TerminalReader) (c : Char) : TerminalReader :=
  if '\x7f' < c then
    if r.writing || r.sequence == .none then ⟨.none, true⟩
    else ⟨r.sequence.afterBytes c, false⟩
  else if r.writing && ControlSequence.none.writes c then r
  else ⟨r.sequence.after c, r.sequence.writes c⟩

/-- The characters of a text that are written. -/
def written (r : TerminalReader) : List Char → List Char
  | [] => []
  | c :: rest =>
    if (r.read c).writing then c :: (r.read c).written rest else (r.read c).written rest

end TerminalReader

/-- A text without control sequences. -/
def plainText (s : String) : String := String.ofList (TerminalReader.start.written s.toList)

end GatewayClient.Text
