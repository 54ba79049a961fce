/-
# `GoatCoin.Worker.Policy` — `policy.rs` and the redirect loop of `fetch.rs`

A request passes these gates, in this order, before a page is dialled:

    admit      hop bound, host literal, allowlist, port, scheme, method, path
    pin        the entry's own host is resolved, and all of the answer is public
    robots     the origin's rules; they are fetched, over the pin, if they are not known
    rate       the entry's requests of the last minute
    budget     what is left of the day
    indicator  the operator can see it

Every redirect is a new request that passes all of them again.
-/
import GoatCoin.Worker.Robots
import GoatCoin.Lib.Evm
import Mathlib.Data.List.Dedup
import Mathlib.Data.List.Lex
import Mathlib.Data.Char

namespace GoatCoin.Worker

open Text Assoc
open Evm (require)

/-! ## The allowlist -/

/-- How a host is matched. -/
inductive MatchMode where
  | exact
deriving DecidableEq

inductive PathScope where
  | prefixes
  | wholeOrigin
deriving DecidableEq

/-- An entry of the allowlist. -/
structure AllowlistEntry where
  id : Nat
  host : Text
  matchMode : MatchMode
  pathScope : PathScope
  pathPrefixes : List Text
  maxRequestsPerMinute : Nat
deriving DecidableEq

structure WireEntry where
  id : Nat
  host : Text
  matchMode : Text
  pathScope : Text
  pathPrefixes : List Text
  maxRequestsPerMinute : Nat

/-- The file: what reading and deserialising it gives. -/
inductive AllowlistFile where
  | absent
  | unreadable (kind : String)
  | schema (e : String)
  | wire (schemaId : Text) (entries : List WireEntry)

def allowlistSchemaId : Text := "GOAT_PROXY_ALLOWLIST_V1".toList

def quoted (s : Text) : String := (String.ofList s).quote

def checkPathPrefix (p : Text) : Except PolicyError Unit := do
  require (startsWith p ['/'] = true ∧ endsWith p ['/'] = true ∧ 2 ≤ byteLength p)
    (.allowlistCorrupt
      ("path prefix " ++ quoted p ++ " must start and end with '/' and be at least two bytes; "
      ++ "a bare \"/\" is `whole_origin` spelled ambiguously"))
  require (hasPart p ['/', '/'] = false ∧ hasPart p ['.', '.'] = false ∧ allAscii p = true)
    (.allowlistCorrupt ("path prefix " ++ quoted p ++ " is not a plain path"))

/-- The refusals of `parseCanonicalIpLiteral`, as they are shown. -/
def hostRefusal : PolicyError → String
  | .denied .nonCanonicalIpLiteral => "refused: NonCanonicalIpLiteral"
  | _ => "refused: MalformedHost"

def checkHost (host : Text) : Except PolicyError Unit :=
  match parseCanonicalIpLiteral host with
  | .ok none => .ok ()
  | .ok (some _) =>
      .error (.allowlistCorrupt
        ("host " ++ quoted host ++ " is an IP literal; entries name hosts, and an address "
        ++ "entry would bypass the resolve-and-pin step entirely"))
  | .error e => .error (.allowlistCorrupt ("host " ++ quoted host ++ ": " ++ hostRefusal e))

def readMatchMode (s : Text) : Except PolicyError MatchMode :=
  if s = "exact".toList then .ok .exact
    else .error (.allowlistCorrupt ("unknown match_mode " ++ quoted s))

def readPathScope (s : Text) : Except PolicyError PathScope :=
  if s = "prefixes".toList then .ok .prefixes
  else if s = "whole_origin".toList then .ok .wholeOrigin
  else .error (.allowlistCorrupt ("unknown path_scope " ++ quoted s))

/-- An entry that may be used. -/
def validateEntry (w : WireEntry) : Except PolicyError AllowlistEntry := do
  require (w.id ≠ 0)
    (.allowlistCorrupt "entry id 0 is reserved so that an uninitialised integer names no entry")
  let matchMode ← readMatchMode w.matchMode
  require (w.host = toAsciiLowercase w.host)
    (.allowlistCorrupt ("host " ++ quoted w.host ++ " is not lower case"))
  checkHost w.host
  let pathScope ← readPathScope w.pathScope
  w.pathPrefixes.forM checkPathPrefix
  require (¬ (pathScope = .prefixes ∧ w.pathPrefixes = []))
    (.allowlistCorrupt
      ("entry " ++ toString w.id ++ " declares prefix scope with no prefixes; an empty prefix "
      ++ "list read as \"matches everything\" is the fail-open shape this loader exists to refuse"))
  require (w.maxRequestsPerMinute ≠ 0)
    (.allowlistCorrupt
      ("entry " ++ toString w.id ++ " has a zero request ceiling, which is a missing field "
      ++ "read as a value"))
  return ⟨w.id, w.host, matchMode, pathScope,
    (w.pathPrefixes.mergeSort fun a b => decide (a ≤ b)).dedup, w.maxRequestsPerMinute⟩

/-- No two entries share an id or a host. -/
def checkClash : List AllowlistEntry → Except PolicyError Unit
  | [] => .ok ()
  | a :: rest =>
      match rest.find? fun b => a.id = b.id || a.host = b.host with
      | some b =>
          if a.id = b.id then .error (.allowlistCorrupt ("duplicate entry id " ++ toString a.id))
          else .error
            (.allowlistCorrupt
            ("duplicate host " ++ quoted a.host ++ " under ids " ++ toString a.id ++ " and "
            ++ toString b.id))
      | none => checkClash rest

/-- `load_entries`, with the digest of the canonical registry. -/
def loadEntries (digest : List AllowlistEntry → Except String (List UInt8)) (file : AllowlistFile) :
    Except PolicyError (List AllowlistEntry × List UInt8) :=
  match file with
  | .absent => .error .allowlistAbsent
  | .unreadable kind => .error (.allowlistCorrupt kind)
  | .schema e => .error (.allowlistCorrupt ("schema: " ++ e))
  | .wire schemaId wire => do
      require (schemaId = allowlistSchemaId)
        (.allowlistCorrupt
          ("schema_id is " ++ quoted schemaId ++ ", expected " ++ quoted allowlistSchemaId))
      require (wire ≠ []) .allowlistEmpty
      let entries ← wire.mapM validateEntry
      checkClash entries
      match digest entries with
      | .ok d => .ok (entries, d)
      | .error e =>
          .error (.allowlistCorrupt
            ("the list cannot be named canonically, so it cannot be consented to: " ++ e))

/-! ## Paths and redirects -/

def pathOf (pathAndQuery : Text) : Text := pathAndQuery.takeWhile fun c => c ≠ '?' && c ≠ '#'

/-- The entry covers the path. -/
def pathInScope (entry : AllowlistEntry) (pathAndQuery : Text) : Bool :=
  if startsWith pathAndQuery ['/'] = false ∨ startsWith pathAndQuery ['/', '/'] then false
  else if allAscii pathAndQuery = false
      ∨ pathAndQuery.any (fun c => isAsciiControl c || c = ' ' || c = '\\') then false
  else
    let path := pathOf pathAndQuery
    let lowered := toAsciiLowercase path
    if ["%2e".toList, "%2f".toList, "%5c".toList].any (hasPart lowered) then false
    else if hasPart path ['/', '/'] then false
    else if ((path.splitOn '/').drop 1).any
      (fun segment => segment = ['.'] || segment = ['.', '.']) then false
    else match entry.pathScope with
      | .wholeOrigin => true
      | .prefixes => entry.pathPrefixes.any fun p =>
          startsWith path p || path = trimEndMatches '/' p

/-- What is to be fetched. -/
structure ProxyRequest where
  scheme : Scheme
  method : Method
  host : Text
  port : Nat
  pathAndQuery : Text
  hop : Nat
deriving DecidableEq

def maxRedirectHops : Nat := 3

def hasUriScheme (s : Text) : Bool :=
  match splitOnce ':' s with
  | none => false
  | some (scheme, _) =>
      scheme.head?.any isAsciiAlpha
        && scheme.all fun c => isAsciiAlpha c || isAsciiDigit c || c = '+' || c = '-' || c = '.'

def nextHop (hop : Nat) : Nat := min (hop + 1) 255

/-- Scheme and rest of an absolute location. -/
def absoluteLocation (location : Text) : Option (Scheme × Text) :=
  let lowered := toAsciiLowercase location
  if startsWith lowered "https://".toList then some (.https, location.drop 8)
  else if startsWith lowered "http://".toList then some (.http, location.drop 7)
  else none

/-- The request of a redirect. -/
def nextRequest (prev : ProxyRequest) (location : Text) : Except DenyReason ProxyRequest :=
  if location = [] ∨ allAscii location = false then .error .malformedRedirectLocation
  else if location.any (fun c => isAsciiControl c || c = ' ') then .error .malformedRedirectLocation
  else if startsWith location ['/'] then
    if startsWith location ['/', '/'] then .error .malformedRedirectLocation
    else .ok { prev with pathAndQuery := location, hop := nextHop prev.hop }
  else match absoluteLocation location with
    | none =>
        .error (if hasUriScheme location then .redirectSchemeNotAllowed
          else .malformedRedirectLocation)
    | some (scheme, rest) =>
        let authority := rest.takeWhile (· ≠ '/')
        let path := rest.dropWhile (· ≠ '/')
        let pathAndQuery := if path = [] then ['/'] else path
        if authority = [] ∨ '@' ∈ authority then .error .malformedRedirectLocation
        else
          let hostPort := match rsplitOnce ':' authority with
            | some (h, p) => (parseDecimal 16 p).map fun port => (h, port)
            | none => some (authority, scheme.requiredPort)
          match hostPort with
          | none => .error .malformedRedirectLocation
          | some (host, port) =>
              if host = [] then .error .malformedRedirectLocation
              else .ok ⟨scheme, prev.method, host, port, pathAndQuery, nextHop prev.hop⟩

/-! ## The gates -/

/-- The allowlist in force. -/
structure EgressPolicy where
  entries : List AllowlistEntry
  ttlSecs : Nat

def EgressPolicy.entry (policy : EgressPolicy) (id : Nat) : Option AllowlistEntry :=
  policy.entries.find? fun e => e.id = id

def allowedPorts : List Nat := [80, 443]

/-- The gates that look at the request alone. -/
def EgressPolicy.earlyGates (policy : EgressPolicy) (req : ProxyRequest) :
    Except DenyReason AllowlistEntry :=
  if req.hop ≥ maxRedirectHops then .error .redirectHopLimit
  else match parseCanonicalIpLiteral req.host with
    | .error (.denied r) => .error r
    | .error _ => .error .malformedHost
    | .ok literal =>
        if literal.any isDeniedNet then .error .deniedNetwork
        else
          let host := toAsciiLowercase req.host
          match policy.entries.find? fun e => match e.matchMode with
              | .exact => decide (e.host = host) with
          | none => .error .hostNotAllowlisted
          | some entry =>
              if req.port ∉ allowedPorts then .error .portNotAllowed
              else if req.scheme.requiredPort ≠ req.port then .error .schemeNotAllowed
              else match req.method with
                | .post => .error .requestBodyNotPermitted
                | .other _ => .error .methodNotAllowed
                | .get | .head =>
                    if pathInScope entry req.pathAndQuery = false then .error .pathOutOfScope
                      else .ok entry

abbrev RateWindows := Map Nat (List Nat)

def rateWindowMs : Nat := 60000

/-- The requests of the last minute. -/
def RateWindows.recent (windows : RateWindows) (entryId nowMs : Nat) : List Nat :=
  ((windows.lookup entryId).getD []).filter fun t => t > nowMs - rateWindowMs

def RateWindows.tryAdmit (windows : RateWindows) (entryId limit nowMs : Nat) : RateWindows × Bool :=
  let stamps := windows.recent entryId nowMs
  if stamps.length ≥ limit then (windows.insert entryId stamps, false)
  else (windows.insert entryId (stamps ++ [nowMs]), true)

structure WorkerState where
  robots : RobotsCache
  rate : RateWindows
  ledger : EgressLedger
  indicator : Indicator

/-- What one evaluation is told; the clock is read three times. -/
structure EvalAnswer where
  /-- `none` if the lookup panics. -/
  resolver : Option (Except PolicyError (List IpAddr))
  robotsMs : Nat
  robots : RobotsAnswer
  rateMs : Nat
  budgetMs : Nat

inductive PolicyDecision where
  | allow (entryId : Nat) (pinnedIp : IpAddr) (port : Nat)
  | deny (r : DenyReason)
deriving DecidableEq

structure Evaluated where
  state : WorkerState
  decision : PolicyDecision
  events : List NetEvent := []
  sent : Nat := 0
  received : Nat := 0

/-- The gates after the robots one. -/
def lateGates (entry : AllowlistEntry) (s : WorkerState) (rateMs budgetMs : Nat) :
    WorkerState × Except DenyReason Unit :=
  match s.rate.tryAdmit entry.id entry.maxRequestsPerMinute rateMs with
  | (rate, false) => ({ s with rate := rate }, .error .entryRateExceeded)
  | (rate, true) =>
      let s := { s with rate := rate }
      match s.ledger.remainingToday (budgetMs / 1000) with
      | .error e => (s, .error e.reason)
      | .ok 0 => (s, .error .dailyCeilingExceeded)
      | .ok _ =>
          if s.indicator.isFresh (budgetMs / 1000) then (s, .ok ()) else (s, .error .indicatorStale)

/-- The robots gate. -/
def askRobots (policy : EgressPolicy) (s : WorkerState) (req : ProxyRequest) (pinned : PinnedTarget)
    (a : EvalAnswer) :
    RobotsAsked :=
  s.robots.allows policy.ttlSecs s.ledger req.scheme pinned req.pathAndQuery
    (a.robotsMs / 1000) a.robots

/-- What is decided once an address is pinned. -/
def decideLate (entry : AllowlistEntry) (pinned : PinnedTarget) (verdict : RobotsVerdict)
    (s : WorkerState) (a : EvalAnswer) : WorkerState × PolicyDecision :=
  match verdict with
  | .disallowed => (s, .deny .robotsDisallowed)
  | .unavailable => (s, .deny .robotsUnavailable)
  | .allowed =>
      match lateGates entry s a.rateMs a.budgetMs with
      | (s, .error r) => (s, .deny r)
      | (s, .ok ()) => (s, .allow pinned.entryId pinned.ip pinned.port)

/-- The gates from the robots one on. -/
def afterPin (policy : EgressPolicy) (s : WorkerState) (req : ProxyRequest) (entry : AllowlistEntry)
    (answer : Except PolicyError (List IpAddr)) (pinned : PinnedTarget)
    (a : EvalAnswer) : Evaluated :=
  let asked := askRobots policy s req pinned a
  let (state, decision) :=
    decideLate entry pinned asked.verdict { s with robots := asked.cache, ledger := asked.ledger } a
  { state := state, decision := decision, events := .resolved entry.host answer :: asked.events,
    sent := asked.sent,
    received := asked.received }

/-- All gates, in their order. -/
def EgressPolicy.evaluate (policy : EgressPolicy) (s : WorkerState) (req : ProxyRequest)
    (a : EvalAnswer) :
    Evaluated :=
  match policy.earlyGates req with
  | .error r => { state := s, decision := .deny r }
  | .ok entry =>
      match a.resolver with
      | none => { state := s, decision := .deny .resolutionFailed }
      | some answer =>
          match resolveAndPin answer entry.host req.port entry.id with
          | .error (.denied r) =>
              { state := s, decision := .deny r, events := [.resolved entry.host answer] }
          | .error _ =>
              { state := s, decision := .deny .resolutionFailed,
                events := [.resolved entry.host answer] }
          | .ok pinned => afterPin policy s req entry answer pinned a

/-- **An evaluation** is over before it has a pin, or goes on from it. -/
theorem evaluate_cases (policy : EgressPolicy) (s : WorkerState) (req : ProxyRequest)
    (a : EvalAnswer) :
    (∃ r, (policy.evaluate s req a).decision = .deny r ∧ (policy.evaluate s req a).state = s
        ∧ ((policy.evaluate s req a).events = []
          ∨ ∃ host answer, (policy.evaluate s req a).events = [.resolved host answer])
        ∧ (policy.evaluate s req a).sent = 0 ∧ (policy.evaluate s req a).received = 0)
      ∨ ∃ entry answer pinned, policy.earlyGates req = .ok entry
        ∧ resolveAndPin answer entry.host req.port entry.id = .ok pinned
        ∧ policy.evaluate s req a = afterPin policy s req entry answer pinned a := by
  unfold EgressPolicy.evaluate
  cases hearly : policy.earlyGates req with
  | error r => exact .inl ⟨r, rfl, rfl, .inl rfl, rfl, rfl⟩
  | ok entry =>
      cases hresolver : a.resolver with
      | none => exact .inl ⟨_, rfl, rfl, .inl rfl, rfl, rfl⟩
      | some answer =>
          dsimp only
          cases hpin : resolveAndPin answer entry.host req.port entry.id with
          | ok pinned => exact .inr ⟨entry, answer, pinned, rfl, hpin, rfl⟩
          | error e =>
              cases e with
              | denied r => exact .inl ⟨r, rfl, rfl, .inr ⟨_, _, rfl⟩, rfl, rfl⟩
              | allowlistAbsent => exact .inl ⟨_, rfl, rfl, .inr ⟨_, _, rfl⟩, rfl, rfl⟩
              | allowlistEmpty => exact .inl ⟨_, rfl, rfl, .inr ⟨_, _, rfl⟩, rfl, rfl⟩
              | allowlistCorrupt detail => exact .inl ⟨_, rfl, rfl, .inr ⟨_, _, rfl⟩, rfl, rfl⟩

section
variable {policy : EgressPolicy} {s : WorkerState} {req : ProxyRequest} {entry : AllowlistEntry}
  {answer : Except PolicyError (List IpAddr)} {pinned : PinnedTarget} {a : EvalAnswer}

theorem afterPin_events : (afterPin policy s req entry answer pinned a).events
    = .resolved entry.host answer :: (askRobots policy s req pinned a).events := rfl

theorem askRobots_events {e : NetEvent} (he : e ∈ (askRobots policy s req pinned a).events) :
    e ∈ (robotsTransfer req.scheme pinned a.robots).events := by
  unfold askRobots RobotsCache.allows at he
  dsimp only at he
  split at he
  · cases he
  · exact he

theorem afterPin_allow {id port : Nat} {ip : IpAddr}
    (h : (afterPin policy s req entry answer pinned a).decision = .allow id ip port) :
    id = pinned.entryId ∧ ip = pinned.ip ∧ port = pinned.port := by
  unfold afterPin decideLate at h
  dsimp only at h
  split at h
  · cases h
  · cases h
  · split at h
    · cases h
    · cases h
      exact ⟨rfl, rfl, rfl⟩

end

/-! ## The redirect loop -/

/-- The consumer's side of a body. -/
structure BodySink (σ : Type) where
  write : σ → List UInt8 → σ × Option FetchError

/-- `BudgetSink`: the consumer's sink, the ledger, and what has been debited of this hop. -/
structure BudgetSink (σ : Type) where
  inner : σ
  ledger : EgressLedger
  spent : Nat
  debits : Nat

/-- The time of every debit of a hop, and whether the ledger can be written then. -/
structure DebitAnswers where
  now : Nat → Nat
  saveError : Nat → Option String

section
variable {σ : Type} (inner : BodySink σ) (d : DebitAnswers)

/-- A debit of what the socket has carried beyond what is debited. -/
def BudgetSink.debit (g : BudgetSink σ) (observed : Nat) : BudgetSink σ × Option CapError :=
  if observed - g.spent > 0 then
    match g.ledger.spend (observed - g.spent) (d.now g.debits) (d.saveError g.debits) with
    | (ledger, .error e) =>
        ({ g with ledger := ledger, spent := observed, debits := g.debits + 1 }, some e)
    | (ledger, .ok ()) =>
        ({ g with ledger := ledger, spent := observed, debits := g.debits + 1 }, none)
  else (g, none)

def budgetSink : Sink (BudgetSink σ) where
  write observed g chunk :=
    match g.debit d observed with
    | (g, some e) => (g, some (.denied e.reason))
    | (g, none) =>
        match inner.write g.inner chunk with
        | (s, e) => ({ g with inner := s }, e)

/-- The page request of a hop, and its transfer. -/
def pageTransfer (target : PinnedTarget) (req : ProxyRequest) (page : Origin)
    (ledger : EgressLedger) (s : σ) : Transfer (BudgetSink σ) :=
  fetchOnce (budgetSink inner d) target req.scheme req.method req.pathAndQuery page
    ⟨s, ledger, 0, 0⟩

/-- What a hop's page request leaves: the sink and the ledger, after the residual debit, and how it
came out. -/
def settle (t : Transfer (BudgetSink σ)) : BudgetSink σ × Except FetchError FetchOutcome :=
  match t.sink.debit d t.observed with
  | (g, some e) => (g, .error (.denied e.reason))
  | (g, none) => (g, t.result)

end

structure HopAnswer where
  eval : EvalAnswer
  page : Origin
  debits : DebitAnswers

/-- What happened in a hop. -/
structure Hop where
  req : ProxyRequest
  evalEvents : List NetEvent
  /-- The page's, if it was asked for. -/
  pageEvents : Option (List NetEvent)

def Hop.events (h : Hop) : List NetEvent := h.evalEvents ++ h.pageEvents.getD []

/-- What a whole fetch did. -/
structure Run (σ : Type) where
  hops : List Hop
  state : WorkerState
  sink : σ
  result : Except FetchError FetchOutcome

/-- `fetch_with_redirects`; the hops are answered in their order.  `none` if the fuel runs out. -/
def fetchWithRedirects {σ : Type} (policy : EgressPolicy) (inner : BodySink σ) :
    (fuel : Nat) → (answers : Nat → HopAnswer) → ProxyRequest → WorkerState → σ → Option (Run σ)
  | 0, _, _, _, _ => none
  | fuel + 1, answers, req, state, s =>
      let a := answers 0
      let e := policy.evaluate state req a.eval
      match e.decision with
      | .deny r => some ⟨[⟨req, e.events, none⟩], e.state, s, .error (.denied r)⟩
      | .allow entryId ip port =>
          match policy.entry entryId with
          | none => some ⟨[⟨req, e.events, none⟩], e.state, s, .error (.denied .hostNotAllowlisted)⟩
          | some entry =>
              let t := pageTransfer inner a.debits ⟨entryId, entry.host, port, ip⟩ req a.page
                e.state.ledger s
              let (g, result) := settle a.debits t
              let hop : Hop := ⟨req, e.events, some t.events⟩
              let state := { e.state with ledger := g.ledger }
              match result with
              | .error err => some ⟨[hop], state, g.inner, .error err⟩
              | .ok out =>
                  if isRedirectStatus out.status = false then some ⟨[hop], state, g.inner, .ok out⟩
                  else match out.location with
                    | none => some ⟨[hop], state, g.inner, .error .malformedResponse⟩
                    | some location =>
                        match nextRequest req location with
                        | .error r => some ⟨[hop], state, g.inner, .error (.denied r)⟩
                        | .ok req =>
                            (fetchWithRedirects policy inner fuel (fun i => answers (i + 1)) req
                              state g.inner).map fun run => { run with hops := hop :: run.hops }

end GoatCoin.Worker
