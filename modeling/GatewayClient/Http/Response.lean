import GatewayClient.Http.Header

/-!
# GatewayClient.Http.Response

Responses, and how they are read from a connection. A response with a status below 200 only
says that another one follows it on the connection, unless it switches to another protocol.
-/

namespace GatewayClient.Http

/-- A response: its status, its body as far as it came, and whether the connection broke off
before the end of the body. -/
structure Response where
  status : Nat
  body : List UInt8
  broken : Bool
deriving DecidableEq

/-- What comes of a request: a response, or nothing. -/
inductive Answer where
  | response (r : Response)
  | lost
deriving DecidableEq

namespace Response

/-- The status of a switch to another protocol. -/
def switching : Nat := 101

/-- The status of a response without content. -/
def noContent : Nat := 204

/-- The status of a response that has not changed. -/
def notModified : Nat := 304

/-- A response without content. -/
def empty : Response := ⟨noContent, [], false⟩

/-- Whether the status tells of success. -/
def isSuccess (r : Response) : Bool := 200 ≤ r.status && r.status < 300

end Response

/-- Whether a status says that another response follows. -/
def isInterim (status : Nat) : Bool :=
  100 ≤ status && status < 200 && status != Response.switching

/-- Whether responses of a status have no body. -/
def isBodiless (status : Nat) : Bool :=
  [Response.switching, Response.noContent, Response.notModified].contains status

/-! ## lines -/

/-- Takes the first line of bytes, each of which is one character, without its end. -/
def takeLine? (bs : List UInt8) : Option (List Char × List UInt8) :=
  match bs.dropWhile (· != 10) with
  | [] => none
  | _ :: rest =>
    let line := (bs.takeWhile (· != 10)).map (fun b => Char.ofNat b.toNat)
    some (if line.getLast? = some '\r' then line.dropLast else line, rest)

/-- Drops the empty lines at the front. -/
def skipEmptyLines : List UInt8 → List UInt8
  | 13 :: 10 :: rest => skipEmptyLines rest
  | 10 :: rest => skipEmptyLines rest
  | bs => bs

/-! ## heads -/

/-- The head of a response: whether it is of version 1.1 or 1.0, the status, and the
headers. -/
structure Head where
  current : Bool
  status : Nat
  headers : List Header

/-- Reads the first line of a response: the version, a status of three digits, and a reason,
which does not matter. -/
def readStatusLine? (line : List Char) : Option (Bool × Nat) :=
  match line with
  | 'H' :: 'T' :: 'T' :: 'P' :: '/' :: '1' :: '.' :: minor :: ' ' :: a :: b :: c :: reason =>
    let status := Text.decimalValue [a, b, c]
    if (minor == '0' || minor == '1') && [a, b, c].all Text.isDigit && 100 ≤ status &&
        reason.all isValueChar && reason.head?.all (· == ' ') then
      some (minor == '1', status)
    else none
  | _ => none

/-- Reads a header: a name, a colon and a value with blanks around it. -/
def readHeader? (line : List Char) : Option Header :=
  match line.dropWhile (· != ':') with
  | [] => none
  | _ :: value =>
    if isToken (line.takeWhile (· != ':')) then
      header? (String.ofList (line.takeWhile (· != ':'))) (String.ofList (unpadded value))
    else none

/-- Reads at most `limit` headers and the empty line behind them. -/
def readHeaders? (limit : Nat) (bs : List UInt8) : Option (List Header × List UInt8) := do
  let (line, rest) ← takeLine? bs
  if line.isEmpty then return ([], rest)
  match limit with
  | 0 => none
  | limit + 1 =>
    let header ← readHeader? line
    let (headers, rest) ← readHeaders? limit rest
    return (header :: headers, rest)

/-- The number of headers that a response may have. -/
def maxHeaders : Nat := 100

/-- Reads the head of a response. -/
def readHead? (bs : List UInt8) : Option (Head × List UInt8) := do
  let (line, rest) ← takeLine? (skipEmptyLines bs)
  let (current, status) ← readStatusLine? line
  let (headers, rest) ← readHeaders? maxHeaders rest
  return ({ current, status, headers }, rest)

/-! ## bodies -/

/-- Reads the line in front of a chunk: its size as a hexadecimal numeral, and behind blanks or
a semicolon what does not matter. -/
def readChunkSize? (line : List Char) : Option Nat :=
  let size := line.takeWhile (fun c => (Text.hexValue? c).isSome)
  let behind := (line.dropWhile (fun c => (Text.hexValue? c).isSome)).dropWhile isPad
  if size.isEmpty || !(behind.head?.all (· == ';')) then none
  else some (Text.ofDigits 16 (size.filterMap Text.hexValue?))

/-- Whether lines up to an empty one follow. The fuel bounds the lines. -/
def endsInEmptyLine : (fuel : Nat) → List UInt8 → Bool
  | 0, _ => false
  | fuel + 1, bs =>
    match takeLine? bs with
    | none => false
    | some ([], _) => true
    | some (_, rest) => endsInEmptyLine fuel rest

/-- The bytes of chunks, and whether they break off before the last one. The fuel bounds the
chunks. -/
def readChunks : (fuel : Nat) → List UInt8 → List UInt8 × Bool
  | 0, _ => ([], true)
  | fuel + 1, bs =>
    match (takeLine? bs).bind (fun (line, rest) => (readChunkSize? line).map (·, rest)) with
    | none => ([], true)
    | some (0, rest) => ([], !endsInEmptyLine (rest.length + 1) rest)
    | some (size, rest) =>
      match rest.drop size with
      | 13 :: 10 :: behind =>
        let (more, broken) := readChunks fuel behind
        (rest.take size ++ more, broken)
      | _ => (rest.take size, true)

/-- Reads the body behind a head: in chunks, of the length that is stated, or up to the end of
the connection. There is no response if the head contradicts itself. -/
def readBody? (head : Head) (bs : List UInt8) : Option Response :=
  if isBodiless head.status then some ⟨head.status, [], false⟩
  else if isCoded head.headers then
    if !head.current then none
    else if isChunked head.headers then
      let (body, broken) := readChunks (bs.length + 1) bs
      some ⟨head.status, body, broken⟩
    else some ⟨head.status, bs, false⟩
  else match statedLength? head.headers with
    | some n => some ⟨head.status, bs.take n, bs.length < n⟩
    | none =>
      if hasHeader head.headers lengthHeader then none else some ⟨head.status, bs, false⟩

/-! ## responses -/

/-- Reads responses up to the one that is no interim one. The fuel bounds their number. -/
def readResponse? : (fuel : Nat) → List UInt8 → Option Response
  | 0, _ => none
  | fuel + 1, bs => do
    let (head, rest) ← readHead? bs
    if isInterim head.status then readResponse? fuel rest else readBody? head rest

/-- The response that answers a request: the first one, or the one that follows it if it is an
interim one. Three statuses have no body. -/
def Response.final? (r : Response) : Option Response :=
  if isInterim r.status then readResponse? (r.body.length + 1) r.body
  else if r.status < 100 || 1000 ≤ r.status then none
  else if isBodiless r.status then some ⟨r.status, [], false⟩
  else some r

end GatewayClient.Http
