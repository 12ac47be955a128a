import GatewayClient.Log
import GatewayClient.Text.Alphanumeric
import GatewayClient.Text.Basic
import GatewayClient.Text.Numeral

/-!
# GatewayClient.Log.Filter

Which log entries are shown. A filter is a list of directives, each of which shows the entries
of a level and above: all of them, those of components whose name starts in a certain way,
those that have a certain field, or those that are logged within named work. For an entry only
the most specific directive that covers it counts.
-/

namespace GatewayClient.Log

/-- What a directive asks of entries besides their component: nothing, that they have a field,
or that they are logged within work that has a name or a field of a certain value. -/
inductive Scope where
  | anywhere
  | having (field : String)
  | within
deriving DecidableEq

/-- The field that a scope asks for. -/
def Scope.field? : Scope → Option String
  | having field => some field
  | _ => none

/-- A directive: the start of the names of the components that it is for, what else it asks of
entries, and the least level of those that it shows, if it shows any. -/
structure Directive where
  target : Option String
  scope : Scope
  threshold : Option Level
deriving DecidableEq

/-- A filter: its directives in the order in which they were given. -/
abbrev Filter := List Directive

namespace Directive

/-! ## reading -/

/-- The threshold of a number: greater ones show more, and zero shows nothing. -/
def numbered? : Nat → Option (Option Level)
  | 0 => some none
  | 1 => some (some .error)
  | 2 => some (some .warn)
  | 3 => some (some .info)
  | 4 => some (some .debug)
  | 5 => some (some .trace)
  | _ => none

/-- Reads a threshold: a number, the name of a level in any case, or the word that shows
nothing. -/
def readThreshold? (cs : List Char) : Option (Option Level) :=
  match Text.readUnsigned? cs with
  | some n => numbered? n.toNat
  | none =>
    match Text.lower (String.ofList cs) with
    | "off" => some none
    | "error" => some (some .error)
    | "warn" => some (some .warn)
    | "info" => some (some .info)
    | "debug" => some (some .debug)
    | "trace" => some (some .trace)
    | _ => none

/-- Whether a character may begin a level or the name of a component. -/
def startsName (c : Char) : Bool :=
  Text.isAlphanumeric c || c == '_' || c == ':' || c == '-'

/-- Whether a character behind the first one belongs to a name: all do but the signs that end
it. -/
def continuesName (c : Char) : Bool := c != '=' && c != '['

/-- The part of a text from a place on. -/
def cut (cs : List Char) (start length : Nat) : String :=
  String.ofList ((cs.drop start).take length)

/-- Gives a directive the threshold that stands in a text behind a place. Without one
everything is shown. -/
def withThreshold? (d : Directive) (cs : List Char) (start : Nat) : Option Directive :=
  match cs.drop start with
  | [] => some d
  | level => (readThreshold? level).map (fun threshold => { d with threshold })

/-- Reads what stands behind the brackets of a directive: nothing, or a threshold. -/
def readBehindScope? (d : Directive) (cs : List Char) (start : Nat) :
    (rest : List Char) → Option Directive
  | [] => some d
  | '=' :: _ => d.withThreshold? cs (start + 1)
  | _ => none

/-- Reads the brackets of a directive, from the place behind the first one: the name of work,
and in braces a field, which may have a value. -/
def readScoped? (target : Option String) (cs : List Char) (start : Nat) (rest : List Char) :
    Option Directive :=
  let work := rest.takeWhile (fun c => c != ']' && c != '\x7b')
  match rest.drop work.length with
  | ']' :: behind =>
    readBehindScope? ⟨target, .within, some .trace⟩ cs (start + work.length + 1) behind
  | '\x7b' :: inner =>
    let inside := inner.takeWhile (· != '\x7d')
    let place := start + work.length + 1
    let field := cut cs place inside.length
    match inner.drop inside.length with
    | '\x7d' :: ']' :: behind =>
      if field.isEmpty then none
      else
        let scope := if work.isEmpty && !field.contains '=' then .having field else .within
        readBehindScope? ⟨target, scope, some .trace⟩ cs (place + inside.length + 2) behind
    | _ => none
  | _ => none

/-- Reads a directive: a threshold, or a name and behind it brackets, an equals sign with a
threshold, or both. The signs are looked for in the text without the blanks around it, and the
parts are cut at their places from the text with them. -/
def read? (s : String) : Option Directive :=
  let cs := s.toList
  match Text.trim cs with
  | [] => none
  | '[' :: rest => readScoped? none cs 1 rest
  | c :: rest =>
    let length := 1 + (rest.takeWhile continuesName).length
    let target := some (cut cs 0 length)
    if !startsName c then none
    else match rest.dropWhile continuesName with
      | [] =>
        match readThreshold? cs with
        | some threshold => some ⟨none, .anywhere, threshold⟩
        | none => some ⟨some s, .anywhere, some .trace⟩
      | '=' :: _ => withThreshold? ⟨target, .anywhere, some .trace⟩ cs (length + 1)
      | _ :: behind => readScoped? target cs (length + 1) behind

/-! ## entries -/

/-- Whether an entry is one of those that a scope asks for. A message is a field too, and no
entry is logged within work that has a name. -/
def admits (e : Entry) : Scope → Bool
  | .anywhere => true
  | .having field => field == "message" || e.fields.any (fun f => f.1 == field)
  | .within => false

/-- Whether the directive is for a component. -/
def isFor (d : Directive) (c : Component) : Bool :=
  d.target.all (fun t => t.toList.isPrefixOf c.target.toList)

/-- Whether the directive is for an entry. -/
def covers (d : Directive) (e : Entry) : Bool := d.isFor e.component && admits e d.scope

/-- The weight of a directive: the length of its name, with none below every length. -/
def weight (d : Directive) : Nat := d.target.elim 0 (fun t => t.length + 1)

/-- Whether a directive counts for an entry rather than one that stands before it: the longer
name does, then the one that asks for a field, and of two that do the one whose field comes
later in order. -/
def outranks (d before : Directive) : Bool :=
  if d.weight = before.weight then
    match before.scope.field?, d.scope.field? with
    | some x, some y => x ≤ y
    | some _, none => false
    | none, _ => true
  else before.weight < d.weight

/-- Whether the directive shows entries of a level. -/
def shows (d : Directive) (level : Level) : Bool :=
  d.threshold.any (fun least => least.rank ≤ level.rank)

end Directive

namespace Filter

/-- The filter that shows errors only. -/
def errorsOnly : Filter := [⟨none, .anywhere, some .error⟩]

/-- The parts of a text between its commas, empty ones apart. -/
def parts (s : String) : List String :=
  ((s.splitOn ",").filter (fun part => !part.isEmpty))

/-- Reads a filter in which every directive has to be legal. One without directives shows
nothing. -/
def read? (s : String) : Option Filter := (parts s).mapM Directive.read?

/-- Reads a filter, passing over directives that are not legal. If none is left, errors are
shown. -/
def readLenient (s : String) : Filter :=
  match (parts s).filterMap Directive.read? with
  | [] => errorsOnly
  | directives => directives

/-- The directive that outranks the others. -/
def foremost? (f : Filter) : Option Directive :=
  f.foldl (fun best d => if best.all (fun b => d.outranks b) then some d else best) none

/-- The directive that counts for an entry: the foremost one of those that are for it. -/
def directiveFor? (f : Filter) (e : Entry) : Option Directive :=
  foremost? (f.filter (fun d => d.covers e))

/-- Whether entries of a level are shown for a component at all: it counts what directives say
of entries that may have any field. -/
def allows (f : Filter) (c : Component) (level : Level) : Bool :=
  (foremost? (f.filter (fun d => d.isFor c && d.scope != .within))).any (fun d => d.shows level)

/-- Whether an entry is shown. -/
def shows (f : Filter) (e : Entry) : Bool :=
  (f.directiveFor? e).any (fun d => d.shows e.level) &&
    (!e.inDetail || f.allows e.component e.level)

/-- The variable of the environment that may hold a filter. -/
def variableName : String := "RUST_LOG"

/-- The filter of a program: the one in its environment, if it is legal, or else the one of its
arguments. -/
def choose (environment : Option String) (argument : String) : Filter :=
  (environment.bind read?).getD (readLenient argument)

end Filter

end GatewayClient.Log
