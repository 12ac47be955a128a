import GatewayClient.Text.Basic
import GatewayClient.Text.Numeral

/-!
# GatewayClient.Http.Header

Headers: which names and values are legal, and what headers say about the body behind them. A
body may have a stated length, on which all its headers agree, or come in chunks.
-/

namespace GatewayClient.Http

/-- A header: its name in lower case, and its value. -/
abbrev Header := String × String

/-- Whether a character may stand in the name of a header. -/
def isTokenChar (c : Char) : Bool :=
  ('a' ≤ c && c ≤ 'z') || ('A' ≤ c && c ≤ 'Z') || ('0' ≤ c && c ≤ '9') ||
    "!#$%&'*+-.^_`|~".toList.contains c

/-- Whether a text is the name of a header. -/
def isToken (cs : List Char) : Bool := !cs.isEmpty && cs.all isTokenChar

/-- Whether a character may stand in the value of a header: any but the control characters,
tab apart. -/
def isValueChar (c : Char) : Bool := (' ' ≤ c && c != '\x7f') || c == '\t'

/-- The header of a name and a value, if both are legal. Blanks around a value belong to it. -/
def header? (name value : String) : Option Header :=
  if isToken name.toList && value.toList.all isValueChar then some (Text.lower name, value)
  else none

/-- The name of the header that states the length of a body. -/
def lengthHeader : String := "content-length"

/-- The name of the header that lists how a body is coded. -/
def codingHeader : String := "transfer-encoding"

/-- The values of all headers of a name. -/
def valuesOf (headers : List Header) (name : String) : List String :=
  (headers.filter (fun h => h.1 == name)).map Prod.snd

/-- Whether there is a header of a name. -/
def hasHeader (headers : List Header) (name : String) : Bool := headers.any (fun h => h.1 == name)

/-! ## lists in values -/

/-- Whether a character is a blank around a part of a value. -/
def isPad (c : Char) : Bool := c == ' ' || c == '\t'

/-- A text without the blanks around it. -/
def unpadded (cs : List Char) : List Char :=
  ((cs.dropWhile isPad).reverse.dropWhile isPad).reverse

/-- The parts of a value between its commas, without the blanks around them. -/
def itemsOf (value : String) : List (List Char) :=
  (value.splitOn ",").map (fun item => unpadded item.toList)

/-! ## what headers say about a body -/

/-- Reads the length of a body: decimal digits that denote less than `2^64`. -/
def readLength? (cs : List Char) : Option Nat :=
  if cs.isEmpty || !cs.all Text.isDigit || UInt64.size ≤ Text.decimalValue cs then none
  else some (Text.decimalValue cs)

/-- The length that headers state, if all that state one agree. -/
def statedLength? (headers : List Header) : Option Nat :=
  match ((valuesOf headers lengthHeader).flatMap itemsOf).mapM readLength? with
  | some (n :: more) => if more.all (· == n) then some n else none
  | _ => none

/-- Whether a body is coded in some way. -/
def isCoded (headers : List Header) : Bool := hasHeader headers codingHeader

/-- Whether a list of codings ends with the one that cuts a body into chunks. -/
def endsInChunks (codings : String) : Bool :=
  codings.toList.all (· ≤ '~') &&
    (itemsOf codings).getLast?.any (fun c => Text.lower (String.ofList c) == "chunked")

/-- Whether a body comes in chunks: that is the last of its codings. -/
def isChunked (headers : List Header) : Bool :=
  (valuesOf headers codingHeader).getLast?.any endsInChunks

/-- Headers with chunks as the last coding behind those that they list. -/
def addChunks : List Header → List Header
  | [] => []
  | (name, value) :: rest =>
    if name == codingHeader && !isCoded rest then (name, value ++ ", chunked") :: rest
    else (name, value) :: addChunks rest

end GatewayClient.Http
