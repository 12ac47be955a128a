import GatewayClient.Text.Basic
import GatewayClient.Text.Percent

/-!
# GatewayClient.Http.Url

URLs of HTTP requests: the authority to connect to, and the target that is asked for. In the
path, dot segments are resolved; characters that may not stand in a path or query are
percent-encoded, and what is encoded already stays as it is. The fragment is no part of the
target.
-/

namespace GatewayClient.Http

/-- A URL as it is used for a request. -/
structure Url where
  scheme : String
  authority : String
  target : String
deriving DecidableEq

namespace Url

/-! ## characters -/

/-- Whether a character ends a part of the path: a slash of either kind. -/
def isSlash (c : Char) : Bool := c == '/' || c == '\\'

/-- Whether a character ends the path: the start of the query or of the fragment. -/
def endsPath (c : Char) : Bool := c == '?' || c == '#'

/-- Whether a character is written as itself, apart from a few: a visible character of
ASCII. -/
def isVisible (c : Char) : Bool := '!' ≤ c && c ≤ '~'

/-- Whether a character may stand in a path. -/
def isPathChar (c : Char) : Bool := isVisible c && !"\"#<>?`\x7b\x7d".toList.contains c

/-- Whether a character may stand in a query. -/
def isQueryChar (c : Char) : Bool := isVisible c && !"\"#<>'".toList.contains c

/-- A text with every character percent-encoded that may not stand there. -/
def escape (allowed : Char → Bool) (cs : List Char) : List Char :=
  cs.flatMap (fun c =>
    if allowed c then [c] else (String.utf8EncodeChar c).flatMap Text.Percent.escapeByte)

/-! ## paths -/

/-- The segments between the slashes of a path. -/
def segments (cs : List Char) : List (List Char) :=
  match cs with
  | [] => [[]]
  | c :: rest =>
    if isSlash c then [] :: segments rest
    else match segments rest with
      | [] => [[c]]
      | s :: more => (c :: s) :: more

/-- Whether a segment stands for the place where it is. -/
def isHere (segment : List Char) : Bool :=
  [".", "%2e"].contains (Text.lower (String.ofList segment))

/-- Whether a segment stands for the place above. -/
def isAbove (segment : List Char) : Bool :=
  ["..", ".%2e", "%2e.", "%2e%2e"].contains (Text.lower (String.ofList segment))

/-- Whether a segment names a drive: a letter and a colon or a bar. -/
def isDrive : List Char → Bool
  | [letter, mark] => letter.isAlpha && (mark == ':' || mark == '|')
  | _ => false

/-- The place above resolved segments, the latest one first. There is none above a drive. -/
def above : List (List Char) → List (List Char)
  | [] => []
  | segment :: before => if isDrive segment then segment :: before else before

/-- Resolves dot segments behind segments that were resolved before, the latest one first. One
that is the last names a place, so an empty segment follows it. -/
def resolve (before : List (List Char)) : List (List Char) → List (List Char)
  | [] => before.reverse
  | segment :: rest =>
    let place (before : List (List Char)) : List (List Char) :=
      if rest.isEmpty then [] :: before else before
    if isAbove segment then resolve (place (above before)) rest
    else if isHere segment then resolve (place before) rest
    else resolve (escape isPathChar segment :: before) rest

/-- The path of a target. -/
def pathOf (cs : List Char) : List Char :=
  let relative := match cs with
    | c :: rest => if isSlash c then rest else cs
    | [] => []
  (resolve [] (segments relative)).flatMap (fun segment => '/' :: segment)

/-- The query of a target, with its question mark. -/
def queryOf : List Char → List Char
  | '?' :: rest => '?' :: escape isQueryChar (rest.takeWhile (· != '#'))
  | _ => []

/-! ## reading -/

/-- Whether a character counts as blank around a URL: a space or a control character. -/
def isPadding (c : Char) : Bool := c ≤ ' '

/-- A text as URLs are read: without what stands around it, and without tabs and line ends. -/
def clean (cs : List Char) : List Char :=
  ((cs.dropWhile isPadding).reverse.dropWhile isPadding).reverse.filter
    (fun c => !(['\t', '\n', '\r'].contains c))

/-- Reads a URL, which has to be one of HTTP with a host. -/
def parse? (text : String) : Option Url :=
  let cs := clean text.toList
  let scheme := cs.takeWhile (· != ':')
  match cs.dropWhile (· != ':') with
  | [] => none
  | _ :: rest =>
    let name := Text.lower (String.ofList scheme)
    let body := rest.dropWhile isSlash
    let authority := body.takeWhile (fun c => !isSlash c && !endsPath c)
    let behind := body.dropWhile (fun c => !isSlash c && !endsPath c)
    if !(["http", "https"].contains name) || authority.isEmpty then none
    else some
      { scheme := name
        authority := Text.lower (String.ofList authority)
        target := String.ofList (pathOf (behind.takeWhile (fun c => !endsPath c)) ++
          queryOf (behind.dropWhile (fun c => !endsPath c))) }

end Url

end GatewayClient.Http
