import LlmMaxxing.Adapters.Contract
import LlmMaxxing.Core.KeyMaterial
import LlmMaxxing.Lib.Check
import LlmMaxxing.Lib.Meter

/-!
# Ingress (`gateway/ingress.py`)

The checks of an HTTP scope and the reading of its body. A scope and a message are mappings to
values of any type. Every read is charged to the reader and byte counters that all requests of a
process share; what a wait for a message ends in, and whether the deadline has passed, is an input.
-/

namespace LlmMaxxing.Ingress

open Check Json Adapters

/-! ## Values of a scope -/

/-- A value, as far as a check looks at it. -/
inductive Value where
  | str (s : String)
  | bytes (b : Bytes)
  | bool (b : Bool)
  | seq (items : List Value)
  | other (truthy : Bool)

/-- `isinstance(value, str)`. -/
def Value.str? : Value → Option String
  | .str s => some s
  | _ => none

/-- `isinstance(value, bytes)`. -/
def Value.bytes? : Value → Option Bytes
  | .bytes b => some b
  | _ => none

/-- `bool(value)`. -/
def Value.truthy : Value → Bool
  | .str s => s != ""
  | .bytes b => !b.isEmpty
  | .bool b => b
  | .seq items => !items.isEmpty
  | .other truthy => truthy

/-- `Mapping[str, Any]`. -/
abbrev Mapping := Dict String Value

/-- What the module raises: `IngressError`, `ValueError` and `RuntimeError`. -/
inductive Fault where
  | ingress (status : Nat) (code : String)
  | value (message : String)
  | runtime (message : String)
  deriving DecidableEq, Repr

/-- Take a value that is there. -/
def demand {α : Type} (x : Option α) (e : Fault) : Except Fault α :=
  match x with
  | some a => .ok a
  | none => .error e

/-! ## Limits -/

/-- `IngressLimits`, the limits that bound a request and its body. -/
structure IngressLimits where
  bodyReadersGlobal : Nat := 16
  bodyReadersPerKey : Nat := 4
  maxBodyBytes : Nat := 32 * 1024 * 1024
  retainedBytesGlobal : Nat := 256 * 1024 * 1024
  retainedBytesPerKey : Nat := 64 * 1024 * 1024
  maxTargetBytes : Nat := 8 * 1024
  maxHeaderCount : Nat := 100
  maxHeaderBytes : Nat := 64 * 1024
  maxHeaderNameBytes : Nat := 256
  maxHeaderValueBytes : Nat := 8 * 1024
  multipartSpoolBytes : Nat := 1024 * 1024
  maxBodyEvents : Nat := 100_000
  positive : ∀ n ∈ [bodyReadersGlobal, bodyReadersPerKey, maxBodyBytes, retainedBytesGlobal,
    retainedBytesPerKey, maxTargetBytes, maxHeaderCount, maxHeaderBytes, maxHeaderNameBytes,
    maxHeaderValueBytes, multipartSpoolBytes, maxBodyEvents], 1 ≤ n
  readers_ordered : bodyReadersPerKey ≤ bodyReadersGlobal
  body_le : maxBodyBytes ≤ retainedBytesPerKey
  retained_ordered : retainedBytesPerKey ≤ retainedBytesGlobal

/-! ## Bytes -/

/-- The bytes of an ASCII literal. -/
def ascii (s : String) : Bytes := s.toList.map fun c => UInt8.ofNat c.toNat

/-- `bytes.lower`. -/
def lower (b : Bytes) : Bytes := b.map fun c => if 0x41 ≤ c ∧ c ≤ 0x5a then c + 0x20 else c

/-- The blanks of `bytes.strip`. -/
def isBlank (c : UInt8) : Bool := c == 0x20 || (0x09 ≤ c && c ≤ 0x0d)

/-- `bytes.strip`. -/
def strip (b : Bytes) : Bytes := ((b.dropWhile isBlank).reverse.dropWhile isBlank).reverse

/-- `bytes.isdigit`. -/
def isDigits (b : Bytes) : Bool := !b.isEmpty && b.all fun c => 0x30 ≤ c && c ≤ 0x39

/-- `bytes.decode("ascii")`. -/
def decodeAscii (b : Bytes) : Option String :=
  if b.all (· < 0x80) then some (String.ofList (b.map fun c => Char.ofNat c.toNat)) else none

/-- `int(digits)`: the interpreter refuses more than 4300 digits, leading zeros included. -/
def pyInt (digits : Bytes) : Except Fault Nat :=
  if 4300 < digits.length then
    .error (.value ("Exceeds the limit (4300 digits) for integer string conversion: value has " ++
      toString digits.length ++ " digits; use sys.set_int_max_str_digits() to increase the limit"))
  else .ok (digits.foldl (fun n c => 10 * n + (c.toNat - 0x30)) 0)

/-! ## Headers -/

/-- `[!#$%&'*+.^_`|~0-9A-Za-z-]`. -/
def isNameByte (c : UInt8) : Bool :=
  (ascii "!#$%&'*+.^_|~-").contains c || c == 0x60 || (0x30 ≤ c && c ≤ 0x39) ||
    (0x41 ≤ c && c ≤ 0x5a) || (0x61 ≤ c && c ≤ 0x7a)

/-- `_SINGLETON_HEADERS`. -/
def singletonHeaders : List Bytes :=
  ["authorization", "content-length", "content-type", "content-encoding", "expect", "host",
    "transfer-encoding", "upgrade"].map ascii

/-- A header: its lower-case name and its value. -/
abbrev Header := Bytes × Bytes

/-- The bytes that a header counts for. -/
def headerSize (h : Header) : Nat := h.1.length + h.2.length + 4

/-- The checks of one item of the list. -/
def readHeader (limits : IngressLimits) : Value → Except Fault Header
  | .seq [.bytes name, .bytes value] => do
    require (name ≠ [] ∧ name.length ≤ limits.maxHeaderNameBytes ∧
      value.length ≤ limits.maxHeaderValueBytes ∧ name.all isNameByte = true ∧
      0x0d ∉ value ∧ 0x0a ∉ value ∧ 0x00 ∉ value) (.ingress 431 "header_limit")
    return (lower name, value)
  | _ => .error (.ingress 400 "malformed_headers")

/-- The loop over the items, with the bytes so far. -/
def collect (limits : IngressLimits) : List Value → Nat → Except Fault (List Header)
  | [], _ => .ok []
  | item :: rest, total => do
    let h ← readHeader limits item
    require (total + headerSize h ≤ limits.maxHeaderBytes) (.ingress 431 "headers_too_large")
    let others ← collect limits rest (total + headerSize h)
    return h :: others

/-- How often a name occurs. -/
def occurrences (headers : List Header) (name : Bytes) : Nat := headers.countP fun h => h.1 == name

/-- `_headers`. -/
def readHeaders (limits : IngressLimits) (scope : Mapping) : Except Fault (List Header) :=
  match scope.get? "headers" with
  | some (.seq items) => do
    require (items.length ≤ limits.maxHeaderCount) (.ingress 431 "too_many_headers")
    let headers ← collect limits items 0
    require (∀ name ∈ singletonHeaders, occurrences headers name ≤ 1)
      (.ingress 400 "duplicate_singleton_header")
    return headers
  | _ => .error (.ingress 400 "malformed_headers")

/-- `_one`. -/
def one (headers : List Header) (name : String) : Option Bytes :=
  (headers.find? fun h => h.1 == ascii name).map Prod.snd

/-! ## The request -/

/-- `IngressRequest`. -/
structure IngressRequest where
  endpoint : CertifiedEndpoint
  headers : List Header
  contentLength : Option Nat
  contentType : String
  chunked : Bool

/-- `multipart`. -/
def IngressRequest.multipart (r : IngressRequest) : Bool :=
  r.endpoint.modelLocator == .multipart

/-- The checks of method, path and query: the method and the path. -/
def readTarget (limits : IngressLimits) (scope : Mapping) : Except Fault (String × String) := do
  require ((scope.get? "type").bind Value.str? = some "http")
    (.ingress 400 "unsupported_asgi_scope")
  let method ← demand ((scope.get? "method").bind Value.str?) (.ingress 400 "malformed_target")
  let path ← demand ((scope.get? "path").bind Value.str?) (.ingress 400 "malformed_target")
  let rawPath ← demand ((scope.get? "raw_path").bind Value.bytes?) (.ingress 400 "malformed_target")
  let query ← demand ((scope.get? "query_string").elim (some []) Value.bytes?)
    (.ingress 400 "malformed_target")
  require (rawPath.length + (if query = [] then 0 else 1 + query.length) ≤ limits.maxTargetBytes)
    (.ingress 414 "target_too_long")
  let canonicalRawPath ← demand (KeyMaterial.encodeAscii path.toList)
    (.ingress 400 "noncanonical_target")
  require (rawPath = canonicalRawPath ∧ 0x25 ∉ rawPath ∧ query = [])
    (.ingress 400 "noncanonical_target")
  return (method, path)

/-- The headers that are refused. -/
def refuseUnsupported (headers : List Header) : Except Fault Unit := do
  let connection := lower ((one headers "connection").getD [])
  require (one headers "upgrade" = none ∧
      ascii "upgrade" ∉ (connection.splitOn 0x2c).map strip) (.ingress 426 "upgrade_not_supported")
  require (one headers "expect" = none) (.ingress 417 "expect_not_supported")
  require (one headers "proxy-authorization" = none)
    (.ingress 400 "proxy_authorization_not_supported")

/-- The value of `Content-Length`. -/
def readLength (limits : IngressLimits) (value : Bytes) : Except Fault (Option Nat) := do
  require (isDigits value = true) (.ingress 400 "malformed_content_length")
  let n ← pyInt value
  require (n ≤ limits.maxBodyBytes) (.ingress 413 "body_too_large")
  return some n

/-- `Content-Length` and `Transfer-Encoding`: the declared length. -/
def readFraming (limits : IngressLimits) (headers : List Header) : Except Fault (Option Nat) := do
  let transferEncoding := one headers "transfer-encoding"
  require (¬ ((one headers "content-length").isSome = true ∧ transferEncoding.isSome = true))
    (.ingress 400 "ambiguous_framing")
  let contentLength ← (one headers "content-length").elim (.ok none) (readLength limits)
  require (transferEncoding.all (fun value => lower value == ascii "chunked") = true)
    (.ingress 400 "unsupported_transfer_encoding")
  return contentLength

/-- The endpoint of a method and a path. -/
def findEndpoint (contract : AdapterContract) (method path : String) :
    Except Fault CertifiedEndpoint :=
  match contract.endpoints.find? fun e => e.path == path && e.method == method with
  | some endpoint => .ok endpoint
  | none =>
    if path ∈ contract.endpoints.map CertifiedEndpoint.path then
      .error (.ingress 405 "method_not_allowed")
    else .error (.ingress 404 "route_not_found")

/-- The blanks of `str.strip` in ASCII. -/
def isBlankChar (c : Char) : Bool :=
  c == ' ' || (9 ≤ c.toNat && c.toNat ≤ 13) || (28 ≤ c.toNat && c.toNat ≤ 31)

/-- `content_type.split(";", 1)[0].strip().lower()`. -/
def mediaType (contentType : String) : List Char :=
  let head := contentType.toList.takeWhile (· ≠ ';')
  (((head.dropWhile isBlankChar).reverse.dropWhile isBlankChar).reverse).map Char.toLower

/-- The media type fits the place where the endpoint looks for the model. -/
def mediaTypeFits (locator : ModelLocator) (media : List Char) : Bool :=
  match locator with
  | .json => media == "application/json".toList || "+json".toList.isSuffixOf media
  | .multipart => media == "multipart/form-data".toList

/-- `validate_http_request`. -/
def validateHttpRequest (limits : IngressLimits) (contract : AdapterContract) (scope : Mapping) :
    Except Fault IngressRequest := do
  let (method, path) ← readTarget limits scope
  let headers ← readHeaders limits scope
  refuseUnsupported headers
  let contentLength ← readFraming limits headers
  let contentEncoding := lower ((one headers "content-encoding").getD (ascii "identity"))
  require (contentEncoding = [] ∨ contentEncoding = ascii "identity")
    (.ingress 415 "unsupported_content_encoding")
  let endpoint ← findEndpoint contract method path
  let contentType ← demand (decodeAscii ((one headers "content-type").getD []))
    (.ingress 415 "unsupported_content_type")
  require (mediaTypeFits endpoint.modelLocator (mediaType contentType) = true)
    (.ingress 415 "unsupported_content_type")
  return ⟨endpoint, headers, contentLength, contentType, (one headers "transfer-encoding").isSome⟩

/-! ## Shared counters -/

/-- `IngressResources`: the body readers and the retained bytes, in all and by key. -/
structure IngressResources where
  bodyReaders : Meter String
  retained : Meter String

/-- Nothing is read or retained. -/
def IngressResources.fresh : IngressResources := ⟨.empty, .empty⟩

/-- `try_body_reader`. -/
def tryBodyReader (limits : IngressLimits) (r : IngressResources) (keyId : String) :
    Option IngressResources :=
  if r.bodyReaders.total ≥ limits.bodyReadersGlobal ∨
      r.bodyReaders.count keyId ≥ limits.bodyReadersPerKey then none
  else some { r with bodyReaders := r.bodyReaders.add keyId 1 }

/-- `_release_body_reader`. -/
def releaseBodyReader (r : IngressResources) (keyId : String) : Except Fault IngressResources :=
  match r.bodyReaders.release keyId 1 with
  | some readers => .ok { r with bodyReaders := readers }
  | none => .error (.runtime "body-reader lease underflow")

/-- `BodyReservation.grow` of an open reservation of `current` bytes. -/
def grow (limits : IngressLimits) (r : IngressResources) (keyId : String) (current amount : Nat) :
    Option IngressResources :=
  if amount = 0 then some r
  else if current + amount > limits.maxBodyBytes ∨
      r.retained.total + amount > limits.retainedBytesGlobal ∨
      r.retained.count keyId + amount > limits.retainedBytesPerKey then none
  else some { r with retained := r.retained.add keyId amount }

/-- `_release_body`. -/
def releaseBody (r : IngressResources) (keyId : String) (amount : Nat) :
    Except Fault IngressResources :=
  match r.retained.release keyId amount with
  | some retained => .ok { r with retained := retained }
  | none => .error (.runtime "retained-body reservation underflow")

/-! ## Reading a body -/

/-- `read_retained_body` in its loop: `reserved` is the size of the reservation. -/
structure BodyRead where
  keyId : String
  request : IngressRequest
  reserved : Nat := 0
  size : Nat := 0
  events : Nat := 0
  file : Bytes := []

/-- `RetainedBody`. -/
structure RetainedBody where
  keyId : String
  reserved : Nat
  file : Bytes
  size : Nat
  spooledToDisk : Bool

/-- One turn of the loop: whether the deadline has passed, the message unless the wait times out,
and whether the mode of the spool file is `0o600`. -/
structure Arrival where
  late : Bool
  message : Option Mapping
  safeMode : Bool

/-- The chunk of a message. -/
def bodyChunk (message : Mapping) : Except Fault Bytes :=
  demand ((message.get? "body").elim (some []) Value.bytes?) (.ingress 400 "invalid_asgi_body_event")

/-- The checks of a turn up to the reservation: the chunk, and whether more follows. -/
def receive (limits : IngressLimits) (st : BodyRead) (a : Arrival) : Except Fault (Bytes × Bool) := do
  require (st.events ≤ limits.maxBodyEvents) (.ingress 408 "body_event_limit")
  require (a.late = false) (.ingress 408 "body_timeout")
  let message ← demand a.message (.ingress 408 "body_timeout")
  let type := (message.get? "type").bind Value.str?
  require (type ≠ some "http.disconnect") (.ingress 499 "client_disconnected")
  require (type = some "http.request") (.ingress 400 "invalid_asgi_body_event")
  let chunk ← bodyChunk message
  require (st.request.contentLength.all (fun n => decide (st.size + chunk.length ≤ n)) = true)
    (.ingress 400 "content_length_mismatch")
  return (chunk, (message.get? "more_body").elim false Value.truthy)

/-- `SpooledTemporaryFile(max_size=threshold)`: where the file is rolled over to disk. -/
def spoolThreshold (limits : IngressLimits) (request : IngressRequest) : Nat :=
  if request.multipart then limits.multipartSpoolBytes else limits.maxBodyBytes + 1

/-- After the last chunk. -/
def finish (limits : IngressLimits) (st : BodyRead) (a : Arrival) : Except Fault RetainedBody := do
  require (st.request.contentLength.all (fun n => st.size == n) = true)
    (.ingress 400 "content_length_mismatch")
  let spooled := decide (spoolThreshold limits st.request < st.size)
  require (¬ (spooled = true ∧ a.safeMode = false)) (.ingress 500 "unsafe_spool_mode")
  return ⟨st.keyId, st.reserved, st.file, st.size, spooled⟩

/-- One turn of the loop: the counters, the reader, and a body after the last chunk. -/
def turn (limits : IngressLimits) (r : IngressResources) (st : BodyRead) (a : Arrival) :
    IngressResources × BodyRead × Except Fault (Option RetainedBody) :=
  let st := { st with events := st.events + 1 }
  match receive limits st a with
  | .error e => (r, st, .error e)
  | .ok (chunk, more) =>
    match grow limits r st.keyId st.reserved chunk.length with
    | none =>
      (r, st, .error (if st.size + chunk.length > limits.maxBodyBytes then
        .ingress 413 "body_too_large" else .ingress 429 "retained_body_limit"))
    | some r' =>
      let st' := { st with
        reserved := st.reserved + chunk.length
        file := st.file ++ chunk
        size := st.size + chunk.length }
      (r', st', if more then .ok none else (finish limits st' a).map some)

/-- A call of `read_retained_body` and the body it returned. -/
inductive Call where
  | reading (st : BodyRead)
  | failed (keyId : String) (e : Fault)
  | returned (body : RetainedBody)
  | released (keyId : String)

/-- `finally`: the reader is released, and the call ends as it would unless that raises. -/
def endCall (r : IngressResources) (keyId : String) (c : Call) : IngressResources × Call :=
  match releaseBodyReader r keyId with
  | .ok r' => (r', c)
  | .error e => (r, .failed keyId e)

/-- A turn with the handlers around the loop. -/
def advance (limits : IngressLimits) (r : IngressResources) (st : BodyRead) (a : Arrival) :
    IngressResources × Call :=
  match turn limits r st a with
  | (r', st', .ok none) => (r', .reading st')
  | (r', st', .ok (some body)) => endCall r' st'.keyId (.returned body)
  | (r', st', .error e) =>
    match releaseBody r' st'.keyId st'.reserved with
    | .ok r'' => endCall r'' st'.keyId (.failed st'.keyId e)
    | .error e' => endCall r' st'.keyId (.failed st'.keyId e')

/-! ## All requests of a process -/

/-- The shared counters and every call so far. -/
structure System where
  resources : IngressResources
  calls : List Call

/-- A call starts, a wait of a call ends, a retained body is released. -/
inductive Event where
  | start (keyId : String) (request : IngressRequest)
  | arrival (i : Nat) (a : Arrival)
  | release (i : Nat)

/-- One step; `none` where a call does not wait or has no body to release. -/
def step (limits : IngressLimits) (s : System) : Event → Option System
  | .start keyId request =>
    match tryBodyReader limits s.resources keyId with
    | none => some { s with calls := s.calls ++ [.failed keyId (.ingress 429 "body_reader_limit")] }
    | some r => some ⟨r, s.calls ++ [.reading { keyId, request }]⟩
  | .arrival i a =>
    match s.calls[i]? with
    | some (.reading st) =>
      let (r, c) := advance limits s.resources st a
      some ⟨r, s.calls.set i c⟩
    | _ => none
  | .release i =>
    match s.calls[i]? with
    | some (.returned body) =>
      match releaseBody s.resources body.keyId body.reserved with
      | .ok r => some ⟨r, s.calls.set i (.released body.keyId)⟩
      | .error e => some { s with calls := s.calls.set i (.failed body.keyId e) }
    | _ => none

/-- A run of all requests. -/
def run (limits : IngressLimits) (s : System) : List Event → Option System
  | [] => some s
  | e :: rest => (step limits s e).bind fun s' => run limits s' rest

/-- No call was made. -/
def System.fresh : System := ⟨.fresh, []⟩

end LlmMaxxing.Ingress
