/-
# `GoatCoin.Worker.Fetch` — `fetch.rs`: one request to a pinned address

A transfer opens a wire to the target's address, writes one request head, and reads until the body
is complete, the stream ends, or something fails:

    head   bytes are gathered up to the first blank line, at most `maxHeadBytes`
    body   by its declared length, in chunks, or up to the end of the stream

What the body decodes to goes to a sink, which may refuse and so end the transfer; the body of a
redirect goes nowhere.  The socket's own count (`observed`) is of both directions and, with TLS, of
its records as well: a read brings some bytes and costs the socket an overhead that only the TLS
library knows.

A cut is a failure, a timeout or the kill switch, and may come at any time.
-/
import GoatCoin.Worker.Ledger

namespace GoatCoin.Worker

open Text

/-! ## Requests -/

/-- The schemes of a URL. -/
inductive Scheme where
  | http
  | https
deriving DecidableEq

def Scheme.requiredPort : Scheme → Nat
  | .http => 80
  | .https => 443

/-- The methods of a request. -/
inductive Method where
  | get
  | head
  | post
  | other (token : Text)
deriving DecidableEq

/-- Why a fetch fails. -/
inductive FetchError where
  | denied (r : DenyReason)
  | transport
  | malformedResponse
  | responseTooLarge
  | halted
deriving DecidableEq

/-- What a fetch returns. -/
structure FetchOutcome where
  status : Nat
  location : Option Text
  socketBytes : Nat
  bodyBytesToConsumer : Nat
deriving DecidableEq

def readBuf : Nat := 65536

def maxHeadBytes : Nat := readBuf * 4

def maxResponseBytes : Nat := 268435456

def robotsUa : Text :=
  "GoatCoin-Research-Fetcher/1.0 (+https://goatcoin.org/crawler-contact)".toList

/-- The head of a request. -/
def requestHead (methodToken pathAndQuery host : Text) : Text :=
  methodToken ++ [' '] ++ pathAndQuery ++ " HTTP/1.1".toList ++ crlf
    ++ ("Host: ".toList ++ host) ++ crlf
    ++ ("User-Agent: ".toList ++ robotsUa) ++ crlf
    ++ "Accept-Encoding: identity".toList ++ crlf
    ++ "Connection: close".toList ++ crlf ++ crlf

/-! ## The head of a response -/

inductive BodyFraming where
  | length (n : Nat)
  | chunked
  | toEof
deriving DecidableEq

structure Head where
  status : Nat
  location : Option Text
  framing : BodyFraming
deriving DecidableEq

/-- What the lines of a head have said so far. -/
structure HeadFields where
  location : Option Text := none
  contentLength : Option Nat := none
  chunked : Bool := false

def headLine (f : HeadFields) (line : Text) : Except FetchError HeadFields :=
  match splitOnce ':' line with
  | none => .ok f
  | some (k, v) =>
      let key := toAsciiLowercase (trim k)
      if key = "location".toList then .ok { f with location := some (trim v) }
      else if key = "content-length".toList then
        match parseDecimal 64 (trim v) with
        | none => .error .malformedResponse
        | some n =>
            if f.contentLength.any (· ≠ n) then .error .malformedResponse
            else .ok { f with contentLength := some n }
      else if key = "transfer-encoding".toList && hasPart (toAsciiLowercase v) "chunked".toList then
        .ok { f with chunked := true }
      else .ok f

def framingOf (f : HeadFields) : Except FetchError BodyFraming :=
  match f.chunked, f.contentLength with
  | true, some _ => .error .malformedResponse
  | true, none => .ok .chunked
  | false, some n => .ok (.length n)
  | false, none => .ok .toEof

/-- A response head, line by line. -/
def parseHead (head : Text) : Except FetchError Head := do
  let lines := splitCrlf head
  let status ← match ((lines.headD []).splitOn ' ')[1]? with
    | none => .error .malformedResponse
    | some token =>
        match parseDecimal 16 token with
        | none => .error .malformedResponse
        | some status => .ok status
  let fields ← lines.tail.foldlM headLine {}
  let framing ← framingOf fields
  return ⟨status, fields.location, framing⟩

def isRedirectStatus (status : Nat) : Bool :=
  status = 301 || status = 302 || status = 303 || status = 307 || status = 308

/-- The body is not the consumer's. -/
def Head.redirecting (h : Head) : Bool := isRedirectStatus h.status && h.location.isSome

/-- Where the blank line begins. -/
def findHeadEnd : List UInt8 → Option Nat
  | [] => none
  | b :: acc =>
      if (b :: acc).take 4 = [13, 10, 13, 10] then some 0 else (findHeadEnd acc).map (· + 1)

theorem length_of_take_four {acc : List UInt8}
    (h : acc.take 4 = [13, 10, 13, 10]) : 4 ≤ acc.length := by
  have hlen := congrArg List.length h
  rw [List.length_take] at hlen
  simp only [List.length_cons, List.length_nil] at hlen
  omega

theorem findHeadEnd_le {acc : List UInt8} {p : Nat}
    (h : findHeadEnd acc = some p) : p + 4 ≤ acc.length := by
  induction acc generalizing p with
  | nil => cases h
  | cons b acc ih =>
      unfold findHeadEnd at h
      split at h
      · rename_i hhere
        cases h
        exact length_of_take_four hhere
      · obtain ⟨q, hq, rfl⟩ := Option.map_eq_some_iff.mp h
        have := ih hq
        rw [List.length_cons]
        omega

theorem findHeadEnd_append {acc : List UInt8} {p : Nat} (h : findHeadEnd acc = some p)
    (rest : List UInt8) : findHeadEnd (acc ++ rest) = some p := by
  induction acc generalizing p with
  | nil => cases h
  | cons b acc ih =>
      have hlen : 4 ≤ (b :: acc).length := (Nat.le_add_left 4 p).trans (findHeadEnd_le h)
      have htake : (b :: (acc ++ rest)).take 4 = (b :: acc).take 4 := by
        rw [← List.cons_append, List.take_append_of_le_length hlen]
      unfold findHeadEnd at h
      rw [List.cons_append, findHeadEnd, htake]
      split at h
      · rename_i hhere
        rw [if_pos hhere]
        exact h
      · rename_i hlater
        obtain ⟨q, hq, rfl⟩ := Option.map_eq_some_iff.mp h
        rw [if_neg hlater, ih hq]
        rfl

/-! ## The body -/

/-- Where a body goes; the socket's count is shared. -/
structure Sink (σ : Type) where
  write : (observed : Nat) → σ → List UInt8 → σ × Option FetchError

def discardSink (σ : Type) : Sink σ := ⟨fun _ s _ => (s, none)⟩

inductive ChunkPhase where
  | size (line : List UInt8)
  | data (left : Nat)
  | afterData (seen : Nat)
  | trailer (line : List UInt8)
  | done
deriving DecidableEq

/-- The reader of a body. -/
structure BodyReader where
  framing : BodyFraming
  remaining : Nat
  phase : ChunkPhase
  total : Nat
  complete : Bool
deriving DecidableEq

def BodyReader.new (framing : BodyFraming) : BodyReader where
  framing := framing
  remaining := match framing with
    | .length n => n
    | _ => 0
  phase := .size []
  total := 0
  complete := framing = .length 0

def chunkSize (line : List UInt8) : Option Nat :=
  let head := trimEndMatches '\r' (fromUtf8Lossy line)
  parseHex 64 (trim ((head.splitOn ';').headD []))

section
variable {σ : Type} (sink : Sink σ) (observed : Nat)

def BodyReader.emit (r : BodyReader) (bytes : List UInt8) (s : σ) :
    σ × Except FetchError BodyReader :=
  if bytes = [] then (s, .ok r)
  else if r.total + bytes.length > maxResponseBytes then (s, .error .responseTooLarge)
  else match sink.write observed s bytes with
    | (s, some e) => (s, .error e)
    | (s, none) => (s, .ok { r with total := r.total + bytes.length })

/-- The loop of `feed_chunked`; every round takes a byte at least. -/
def BodyReader.feedChunked : (fuel : Nat) → BodyReader → List UInt8 → σ →
    σ × Except FetchError BodyReader
  | 0, r, _, s => (s, .ok r)
  | _ + 1, r, [], s => (s, .ok r)
  | fuel + 1, r, b :: bytes, s =>
      match r.phase with
      | .done => (s, .ok r)
      | .size line =>
          if b = 10 then
            match chunkSize line with
            | none => (s, .error .malformedResponse)
            | some 0 => feedChunked fuel { r with phase := .trailer [] } bytes s
            | some size => feedChunked fuel { r with phase := .data size } bytes s
          else if line.length > 64 then (s, .error .malformedResponse)
          else feedChunked fuel { r with phase := .size (line ++ [b]) } bytes s
      | .data left =>
          let take := min left (b :: bytes).length
          let nowLeft := left - take
          let r := { r with phase := if nowLeft = 0 then .afterData 0 else .data nowLeft }
          match r.emit sink observed ((b :: bytes).take take) s with
          | (s, .error e) => (s, .error e)
          | (s, .ok r) => feedChunked fuel r ((b :: bytes).drop take) s
      | .afterData seen =>
          if b = 10 then feedChunked fuel { r with phase := .size [] } bytes s
          else if b = 13 ∧ seen = 0 then feedChunked fuel { r with phase := .afterData 1 } bytes s
          else (s, .error .malformedResponse)
      | .trailer line =>
          if b = 10 then
            if line.all (· = 13) then (s, .ok { r with phase := .done, complete := true })
            else feedChunked fuel { r with phase := .trailer [] } bytes s
          else if line.length > 8192 then (s, .error .malformedResponse)
          else feedChunked fuel { r with phase := .trailer (line ++ [b]) } bytes s

/-- Takes what arrived of a body. -/
def BodyReader.feed (r : BodyReader) (bytes : List UInt8) (s : σ) :
    σ × Except FetchError BodyReader :=
  match r.framing with
  | .length _ =>
      if bytes.length > r.remaining then (s, .error .malformedResponse)
      else match r.emit sink observed bytes s with
        | (s, .error e) => (s, .error e)
        | (s, .ok r) =>
            let remaining := r.remaining - bytes.length
            (s, .ok { r with remaining := remaining, complete := r.complete || remaining = 0 })
  | .toEof => r.emit sink observed bytes s
  | .chunked => r.feedChunked sink observed (2 * bytes.length + 1) bytes s

end

def BodyReader.finish (r : BodyReader) : Except FetchError Unit :=
  match r.framing with
  | .length n => if n ≠ r.total then .error .malformedResponse else .ok ()
  | .chunked => if r.complete then .ok () else .error .malformedResponse
  | .toEof => .ok ()

/-! ## A transfer -/

/-- What one read brings. -/
structure Arrival where
  bytes : List UInt8
  overhead : Nat
  fits : bytes.length ≤ readBuf

/-- What one read costs the socket. -/
def Arrival.cost (scheme : Scheme) (a : Arrival) : Nat :=
  match scheme with
  | .http => a.bytes.length
  | .https => a.bytes.length + a.overhead

/-- Why a transfer is cut. -/
inductive Cut where
  | failed
  | timedOut
  | killed
deriving DecidableEq

def Cut.error : Cut → FetchError
  | .failed => .transport
  | .timedOut => .transport
  | .killed => .halted

/-- The other side of a transfer. -/
structure Origin where
  /-- The kill switch is engaged before the wire is opened. -/
  halted : Bool
  connect : Option Cut
  /-- `ServerName::try_from` takes the name. -/
  serverName : Bool
  handshake : Option Cut
  handshakeSent : Nat
  handshakeReceived : Nat
  write : Option Cut
  /-- What the socket has taken of the request when it is cut, and what TLS adds to it. -/
  partly : Nat
  writeOverhead : Nat
  arrivals : List Arrival
  ending : Option Cut

/-- What the worker does on the network. -/
inductive NetEvent where
  | resolved (host : Text) (answer : Except PolicyError (List IpAddr))
  | dial (addr : SocketAddr)
  | wrote (head : Text)
deriving DecidableEq

/-- What a transfer did. -/
structure Transfer (σ : Type) where
  events : List NetEvent
  sink : σ
  sent : Nat
  received : Nat
  result : Except FetchError FetchOutcome

/-- The socket's count when the transfer is over. -/
def Transfer.observed {σ : Type} (t : Transfer σ) : Nat := t.sent + t.received

inductive ReadPhase where
  | head (acc : List UInt8)
  | body (h : Head) (r : BodyReader)

/-- How the reading ended. -/
structure Reading (σ : Type) where
  sink : σ
  received : Nat
  result : Except FetchError FetchOutcome

section
variable {σ : Type} (sink : Sink σ) (scheme : Scheme) (sent : Nat)

def Head.out (h : Head) (sink : Sink σ) : Sink σ := if h.redirecting then discardSink σ else sink

/-- After the loop. -/
def conclude (phase : ReadPhase) (received : Nat) : Except FetchError FetchOutcome :=
  match phase with
  | .head _ => .error .malformedResponse
  | .body h r =>
      match r.finish with
      | .error e => .error e
      | .ok () => .ok ⟨h.status, h.location, sent + received, if h.redirecting then 0 else r.total⟩

/-- A body has been fed, and the loop goes on or is left. -/
inductive Fed (σ : Type) where
  | on (s : σ) (phase : ReadPhase)
  | over (s : σ) (result : Except FetchError ReadPhase)

def feedBody (h : Head) (r : BodyReader) (bytes : List UInt8) (observed : Nat) (s : σ) : Fed σ :=
  match r.feed (h.out sink) observed bytes s with
  | (s, .error e) => .over s (.error e)
  | (s, .ok r) => if r.complete then .over s (.ok (.body h r)) else .on s (.body h r)

/-- What a read that brings something does. -/
def readBytes (phase : ReadPhase) (fresh : List UInt8) (observed : Nat) (s : σ) : Fed σ :=
  match phase with
  | .head acc =>
      if (acc ++ fresh).length > maxHeadBytes then .over s (.error .malformedResponse)
      else match findHeadEnd (acc ++ fresh) with
        | none => .on s (.head (acc ++ fresh))
        | some p =>
            match parseHead (fromUtf8Lossy ((acc ++ fresh).take (p + 4))) with
            | .error e => .over s (.error e)
            | .ok parsed =>
                feedBody sink parsed (BodyReader.new parsed.framing)
                  ((acc ++ fresh).drop (p + 4)) observed s
  | .body h r => feedBody sink h r fresh observed s

/-- Reads the head, then the body. -/
def readLoop (ending : Option Cut) : ReadPhase → (received : Nat) → List Arrival → σ → Reading σ
  | phase, received, [], s =>
      match ending with
      | some cut => ⟨s, received, .error cut.error⟩
      | none => ⟨s, received, conclude sent phase received⟩
  | phase, received, a :: arrivals, s =>
      let received := received + a.cost scheme
      if a.bytes = [] then ⟨s, received, conclude sent phase received⟩
      else match readBytes sink phase a.bytes (sent + received) s with
        | .over s (.error e) => ⟨s, received, .error e⟩
        | .over s (.ok phase) => ⟨s, received, conclude sent phase received⟩
        | .on s phase => readLoop ending phase received arrivals s

end

def methodToken : Method → Except FetchError Text
  | .get => .ok "GET".toList
  | .head => .ok "HEAD".toList
  | .post => .error (.denied .requestBodyNotPermitted)
  | .other _ => .error (.denied .methodNotAllowed)

/-- What opening the wire does: the event, what the socket has carried, and an error. -/
def openWire (target : PinnedTarget) (scheme : Scheme) (o : Origin) :
    List NetEvent × (Nat × Nat) × Option FetchError :=
  if o.halted then ([], (0, 0), some .halted)
  else
    let dialled := [.dial target.socketAddr]
    match o.connect with
    | some cut => (dialled, (0, 0), some cut.error)
    | none =>
        match scheme with
        | .http => (dialled, (0, 0), none)
        | .https =>
            if o.serverName = false then (dialled, (0, 0), some (.denied .malformedHost))
            else (dialled, (o.handshakeSent, o.handshakeReceived), o.handshake.map Cut.error)

/-- One request, and its answer. -/
def fetchOnce {σ : Type} (sink : Sink σ) (target : PinnedTarget) (scheme : Scheme) (method : Method)
    (pathAndQuery : Text) (o : Origin) (s : σ) : Transfer σ :=
  match methodToken method with
  | .error e => ⟨[], s, 0, 0, .error e⟩
  | .ok token =>
      match openWire target scheme o with
      | (events, (sent, received), some e) => ⟨events, s, sent, received, .error e⟩
      | (events, (sent, received), none) =>
          let req := requestHead token pathAndQuery target.sniName
          let overhead := match scheme with
            | .http => 0
            | .https => o.writeOverhead
          match o.write with
          | some cut =>
              ⟨events ++ [.wrote req], s, sent + min o.partly (byteLength req) + overhead, received,
              .error cut.error⟩
          | none =>
              let sent := sent + byteLength req + overhead
              let reading := readLoop sink scheme sent o.ending (.head []) received o.arrivals s
              ⟨events ++ [.wrote req], reading.sink, sent, reading.received, reading.result⟩

end GoatCoin.Worker
