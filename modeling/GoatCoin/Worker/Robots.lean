/-
# `GoatCoin.Worker.Robots` — `robots.rs`, and the fetcher of `fetch.rs`

The rules of an origin are fetched over the pinned address and kept for a while:

    2xx                          the rules of the body
    4xx                          no rules
    anything else, or no debit   a complete disallow

A failure is kept as well.
-/
import GoatCoin.Worker.Fetch
import GoatCoin.Lib.Assoc

namespace GoatCoin.Worker

open Text Assoc

/-! ## Rules -/

/-- A rule of a robots file. -/
structure Rule where
  allow : Bool
  pattern : Text
deriving DecidableEq

/-- `none` if the file could not be reached. -/
structure Rules where
  lines : Option (List Rule)
deriving DecidableEq

inductive RobotsVerdict where
  | allowed
  | disallowed
  | unavailable
deriving DecidableEq

def Rules.allowAll : Rules := ⟨some []⟩

def Rules.unavailable : Rules := ⟨none⟩

def robotsUaProductToken : Text := "goatcoin-research-fetcher".toList

/-- The groups that have been read. -/
structure RulesParse where
  named : List Rule := []
  wildcard : List Rule := []
  namedSeen : Bool := false
  wildcardSeen : Bool := false
  inNamed : Bool := false
  inWildcard : Bool := false
  collectingAgents : Bool := false

def RulesParse.agent (p : RulesParse) (value : Text) : RulesParse :=
  let p := if p.collectingAgents then p
    else { p with inNamed := false, inWildcard := false, collectingAgents := true }
  let token := toAsciiLowercase value
  if token = ['*'] then { p with inWildcard := true, wildcardSeen := true }
  else if startsWith robotsUaProductToken token && !token.isEmpty then
    { p with inNamed := true, namedSeen := true }
  else p

def RulesParse.rule (p : RulesParse) (allow : Bool) (value : Text) : RulesParse :=
  let p := { p with collectingAgents := false }
  if value = [] then p
  else
    { p with named := if p.inNamed then p.named ++ [⟨allow, value⟩] else p.named,
             wildcard := if p.inWildcard then p.wildcard ++ [⟨allow, value⟩] else p.wildcard }

def RulesParse.line (p : RulesParse) (raw : Text) : RulesParse :=
  -- a `\r` at the end of a line is trimmed with the rest
  let line := trim (raw.takeWhile (· ≠ '#'))
  if line = [] then p
  else match splitOnce ':' line with
    | none => p
    | some (key, value) =>
        let key := toAsciiLowercase (trim key)
        if key = "user-agent".toList then p.agent (trim value)
        else if key = "allow".toList then p.rule true (trim value)
        else if key = "disallow".toList then p.rule false (trim value)
        else { p with collectingAgents := false }

/-- The rules of our group. -/
def Rules.parse (body : Text) : Rules :=
  let p := (body.splitOn '\n').foldl RulesParse.line {}
  ⟨some (if p.namedSeen then p.named else if p.wildcardSeen then p.wildcard else [])⟩

/-- Where a part first occurs. -/
def findPart (part : Text) : Text → Option Nat
  | [] => if part = [] then some 0 else none
  | c :: s => if part <+: c :: s then some 0 else (findPart part s).map (· + 1)

/-- Where the cursor stands after the segments that follow a `*`. -/
def matchSegments (path : Text) : (cursor : Nat) → List Text → Option Nat
  | cursor, [] => some cursor
  | cursor, seg :: segments =>
      if seg = [] then matchSegments path cursor segments
      else match findPart seg (path.drop cursor) with
        | none => none
        | some i => matchSegments path (cursor + i + seg.length) segments

def patternMatches (pattern path : Text) : Bool :=
  let anchored := endsWith pattern ['$']
  let body := if anchored then pattern.dropLast else pattern
  match body.splitOn '*' with
  | [] => true
  | first :: segments =>
      if startsWith path first = false then false
      else match matchSegments path first.length segments with
        | none => false
        | some cursor =>
            if anchored = false then true
            else if segments ≠ [] then cursor = path.length
            else path.length = body.length

/-- The longest rule that matches. -/
def Rules.best (path : Text) (best : Option Rule) (rule : Rule) : Option Rule :=
  if patternMatches rule.pattern path = false then best
  else match best with
    | none => some rule
    | some b =>
        if byteLength rule.pattern > byteLength b.pattern
            ∨ (byteLength rule.pattern = byteLength b.pattern ∧ rule.allow = true
              ∧ b.allow = false) then some rule
        else some b

/-- What the longest rule says. -/
def Rules.verdict (rules : Rules) (path : Text) : RobotsVerdict :=
  match rules.lines with
  | none => .unavailable
  | some lines =>
      match lines.foldl (Rules.best path) none with
      | some r => if r.allow then .allowed else .disallowed
      | none => .allowed

example :
    (Rules.parse "User-agent: *\r\nDisallow: /private\nAllow: /private/*.html$".toList).verdict
    "/private/a.html".toList = .allowed := by decide

/-! ## The fetcher -/

inductive RobotsFetchOutcome where
  | body (text : Text)
  | allowAll
  | unavailable
deriving DecidableEq

def maxRobotsBytes : Nat := 512000

def stringSink : Sink (List UInt8) where
  write _ s chunk :=
    if s.length + chunk.length > maxRobotsBytes then (s, some .responseTooLarge)
      else (s ++ chunk, none)

def robotsPath : Text := "/robots.txt".toList

/-- What the fetcher is told: the origin, the time of the debit and whether the ledger can be
written. -/
structure RobotsAnswer where
  origin : Origin
  now : Nat
  saveError : Option String

/-- The transfer of a `robots.txt`. -/
def robotsTransfer (scheme : Scheme) (target : PinnedTarget)
    (a : RobotsAnswer) : Transfer (List UInt8) :=
  fetchOnce stringSink target scheme .get robotsPath a.origin []

/-- `HttpRobotsFetcher::fetch`. -/
def robotsFetch (ledger : EgressLedger) (scheme : Scheme) (target : PinnedTarget)
    (a : RobotsAnswer) : EgressLedger × RobotsFetchOutcome :=
  let t := robotsTransfer scheme target a
  let (ledger, debit) :=
    if t.observed > 0 then ledger.spend t.observed a.now a.saveError else (ledger, .ok ())
  match debit with
  | .error _ => (ledger, .unavailable)
  | .ok () =>
      match t.result with
      | .error _ => (ledger, .unavailable)
      | .ok o =>
          if 200 ≤ o.status ∧ o.status < 300 then (ledger, .body (fromUtf8Lossy t.sink))
          else if 400 ≤ o.status ∧ o.status < 500 then (ledger, .allowAll)
          else (ledger, .unavailable)

/-! ## The cache -/

structure Cached where
  rules : Rules
  fetchedAtUnix : Nat

abbrev RobotsCache := Map (Nat × Scheme) Cached

def RobotsFetchOutcome.rules : RobotsFetchOutcome → Rules
  | .body text => Rules.parse text
  | .allowAll => Rules.allowAll
  | .unavailable => Rules.unavailable

/-- What the cache still knows of an origin. -/
def RobotsCache.fresh (cache : RobotsCache) (ttlSecs : Nat) (key : Nat × Scheme)
    (nowUnix : Nat) : Option Rules :=
  match cache.lookup key with
  | none => none
  | some c => if nowUnix - c.fetchedAtUnix < ttlSecs then some c.rules else none

/-- What asking for a path leaves behind. -/
structure RobotsAsked where
  cache : RobotsCache
  ledger : EgressLedger
  verdict : RobotsVerdict
  events : List NetEvent := []
  sent : Nat := 0
  received : Nat := 0

/-- The rules, cached or fetched. -/
def RobotsCache.allows (cache : RobotsCache) (ttlSecs : Nat) (ledger : EgressLedger)
    (scheme : Scheme)
    (target : PinnedTarget) (path : Text) (nowUnix : Nat) (a : RobotsAnswer) : RobotsAsked :=
  let key := (target.entryId, scheme)
  match cache.fresh ttlSecs key nowUnix with
  | some rules => { cache := cache, ledger := ledger, verdict := rules.verdict path }
  | none =>
      let (ledger, outcome) := robotsFetch ledger scheme target a
      let t := robotsTransfer scheme target a
      { cache := cache.insert key ⟨outcome.rules, nowUnix⟩, ledger := ledger,
        verdict := outcome.rules.verdict path,
        events := t.events, sent := t.sent, received := t.received }

end GoatCoin.Worker
