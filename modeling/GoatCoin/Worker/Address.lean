/-
# `GoatCoin.Worker.Address` — `resolve.rs`: addresses, host literals and the pin

An address may be dialled only if it is ordinary global unicast.  An IPv6 address that carries an
IPv4 address is judged by the one it carries:

    2002:a:b::       6to4                       ::ffff:a:b       mapped
    64:ff9b::a:b     NAT64                      ::a:b            compatible
    64:ff9b:1::      NAT64, the local prefix

A host is resolved once, every address of the answer is judged, and one of them is kept.
-/
import GoatCoin.Lib.Text

namespace GoatCoin.Worker

open Text

/-! ## Refusals -/

/-- Why a request is denied. -/
inductive DenyReason where
  | redirectHopLimit
  | malformedHost
  | nonCanonicalIpLiteral
  | hostNotAllowlisted
  | portNotAllowed
  | schemeNotAllowed
  | methodNotAllowed
  | requestBodyNotPermitted
  | pathOutOfScope
  | noResolvedAddress
  | resolutionFailed
  | deniedNetwork
  | robotsDisallowed
  | robotsUnavailable
  | entryRateExceeded
  | dailyCeilingExceeded
  | budgetUnavailable
  | scheduleClosed
  | indicatorStale
  | consentWithdrawn
  | killSwitchEngaged
  | concurrencyLimit
  | malformedRedirectLocation
  | redirectSchemeNotAllowed
  | responseTooLarge
deriving DecidableEq

/-- Why there is no decision. -/
inductive PolicyError where
  | allowlistAbsent
  | allowlistEmpty
  | allowlistCorrupt (detail : String)
  | denied (r : DenyReason)
deriving DecidableEq

/-! ## Addresses -/

/-- The four octets. -/
structure Ipv4Addr where
  a : UInt8
  b : UInt8
  c : UInt8
  d : UInt8
deriving DecidableEq

/-- An address by its segments. -/
structure Ipv6Addr where
  s0 : UInt16
  s1 : UInt16
  s2 : UInt16
  s3 : UInt16
  s4 : UInt16
  s5 : UInt16
  s6 : UInt16
  s7 : UInt16
deriving DecidableEq

inductive IpAddr where
  | v4 (a : Ipv4Addr)
  | v6 (a : Ipv6Addr)
deriving DecidableEq

/-- An address and a port. -/
structure SocketAddr where
  ip : IpAddr
  port : Nat
deriving DecidableEq

def v4From (hi lo : UInt16) : Ipv4Addr :=
  ⟨(hi >>> 8).toUInt8, (hi &&& 0xff).toUInt8, (lo >>> 8).toUInt8, (lo &&& 0xff).toUInt8⟩

def unwrapEmbeddedV4 (v6 : Ipv6Addr) : Option Ipv4Addr :=
  if v6.s0 = 0x2002 then some (v4From v6.s1 v6.s2)
  else if v6.s0 = 0x0064 ∧ v6.s1 = 0xff9b ∧ v6.s2 = 0 ∧ v6.s3 = 0 ∧ v6.s4 = 0 ∧ v6.s5 = 0 then
    some (v4From v6.s6 v6.s7)
  else if v6.s0 = 0x0064 ∧ v6.s1 = 0xff9b ∧ v6.s2 = 0x0001 then
    -- the address straddles an octet that is reserved
    some ⟨(v6.s3 >>> 8).toUInt8, (v6.s3 &&& 0xff).toUInt8, (v6.s4 &&& 0xff).toUInt8,
      (v6.s5 >>> 8).toUInt8⟩
  else if v6.s0 ≠ 0 ∨ v6.s1 ≠ 0 ∨ v6.s2 ≠ 0 ∨ v6.s3 ≠ 0 ∨ v6.s4 ≠ 0 then none
  else if v6.s5 = 0xffff then some (v4From v6.s6 v6.s7)
  else if v6.s5 = 0 ∧ ¬ (v6.s6 = 0 ∧ (v6.s7 = 0 ∨ v6.s7 = 1)) then some (v4From v6.s6 v6.s7)
  else none

/-- The assignments within the band of ordinary unicast. -/
def isSpecialV4 (x : Ipv4Addr) : Bool :=
  match x.a.toNat with
  | 10 => true
  | 100 => 64 ≤ x.b.toNat && x.b.toNat ≤ 127
  | 127 => true
  | 169 => x.b = 254
  | 172 => 16 ≤ x.b.toNat && x.b.toNat ≤ 31
  | 192 => (x.b = 0 && x.c = 0) || (x.b = 0 && x.c = 2) || (x.b = 88 && x.c = 99) || x.b = 168
  | 198 => (x.b = 18 || x.b = 19) || (x.b = 51 && x.c = 100)
  | 203 => x.b = 0 && x.c = 113
  | _ => false

/-- No reserved block has it. -/
def isPublicUnicastV4 (x : Ipv4Addr) : Bool :=
  if ¬ (1 ≤ x.a.toNat ∧ x.a.toNat ≤ 223) then false else !isSpecialV4 x

def isPublicUnicastV6 (x : Ipv6Addr) : Bool :=
  if x.s0 &&& 0xe000 ≠ 0x2000 then false
  else if x.s0 = 0x2001 ∧ x.s1 = 0x0db8 then false
  else if x.s0 = 0x2001 ∧ x.s1 = 0x0000 then false
  else if x.s0 = 0x2002 then false
  else true

def isPublicUnicast : IpAddr → Bool
  | .v4 x => isPublicUnicastV4 x
  | .v6 x =>
      match unwrapEmbeddedV4 x with
      | some v4 => isPublicUnicastV4 v4
      | none => isPublicUnicastV6 x

def isDeniedNet (ip : IpAddr) : Bool := !isPublicUnicast ip

/-! ## Addresses as text -/

/-- The digits at the start of a text, at most so many. -/
def readNumber (radix maxDigits width : Nat) (zeroFirst : Bool) (s : Text) : Option (Nat × Text) :=
  let digits := s.takeWhile fun c => (digitValue c).any (· < radix)
  if digits.length > maxDigits then none
  else if zeroFirst = false ∧ digits.length > 1 ∧ digits.head? = some '0' then none
  else if digits = [] then none
  else (digitsValue radix digits).bind fun n => if n < 2 ^ width then some (n, s.drop digits.length)
    else none

def readGivenChar (c : Char) : Text → Option Text
  | [] => none
  | d :: s => if d = c then some s else none

def readIpv4Addr (s : Text) : Option (Ipv4Addr × Text) := do
  let (a, s) ← readNumber 10 3 8 false s
  let s ← readGivenChar '.' s
  let (b, s) ← readNumber 10 3 8 false s
  let s ← readGivenChar '.' s
  let (c, s) ← readNumber 10 3 8 false s
  let s ← readGivenChar '.' s
  let (d, s) ← readNumber 10 3 8 false s
  return (⟨.ofNat a, .ofNat b, .ofNat c, .ofNat d⟩, s)

/-- The groups at the start of a text, at most `limit`, and whether they end in an IPv4 address. -/
def readGroups (first : Bool) : (limit : Nat) → Text → List UInt16 × Bool × Text
  | 0, s => ([], false, s)
  | limit + 1, s =>
      let here := if first then some s else readGivenChar ':' s
      let v4 := if limit = 0 then none else here.bind readIpv4Addr
      match v4 with
      | some (x, rest) =>
          ([.ofNat (x.a.toNat * 256 + x.b.toNat), .ofNat (x.c.toNat * 256 + x.d.toNat)], true, rest)
      | none =>
          match here.bind (readNumber 16 4 16 true) with
          | none => ([], false, s)
          | some (g, rest) =>
              let (gs, v4, rest) := readGroups false limit rest
              (.ofNat g :: gs, v4, rest)

def ofSegments : List UInt16 → Option Ipv6Addr
  | [s0, s1, s2, s3, s4, s5, s6, s7] => some ⟨s0, s1, s2, s3, s4, s5, s6, s7⟩
  | _ => none

/-- `Ipv6Addr::from_str`. -/
def parseIpv6 (s : Text) : Option Ipv6Addr :=
  let (head, headV4, rest) := readGroups true 8 s
  if head.length = 8 then if rest = [] then ofSegments head else none
  else if headV4 then none
  else do
    let rest ← readGivenChar ':' rest
    let rest ← readGivenChar ':' rest
    let (tail, _, rest) := readGroups true (7 - head.length) rest
    if rest = [] then ofSegments (head ++ List.replicate (8 - head.length - tail.length) 0 ++ tail)
      else none

def Ipv6Addr.segments (x : Ipv6Addr) : List UInt16 :=
  [x.s0, x.s1, x.s2, x.s3, x.s4, x.s5, x.s6, x.s7]

/-- The first of the longest runs of zeroes, by its start and length. -/
def longestZeroes : (i : Nat) → (current longest : Nat × Nat) → List UInt16 → Nat × Nat
  | _, _, longest, [] => longest
  | i, current, longest, s :: segments =>
      if s = 0 then
        let current := (if current.2 = 0 then i else current.1, current.2 + 1)
        longestZeroes (i + 1) current (if current.2 > longest.2 then current else longest) segments
      else longestZeroes (i + 1) (0, 0) longest segments

def showHexGroups (segments : List UInt16) : Text :=
  List.intercalate [':'] (segments.map fun s => Nat.toDigits 16 s.toNat)

def showIpv4 (x : Ipv4Addr) : Text :=
  List.intercalate ['.'] ([x.a, x.b, x.c, x.d].map fun o => Nat.toDigits 10 o.toNat)

/-- `Ipv6Addr::to_string`. -/
def showIpv6 (x : Ipv6Addr) : Text :=
  if x.s0 = 0 ∧ x.s1 = 0 ∧ x.s2 = 0 ∧ x.s3 = 0 ∧ x.s4 = 0 ∧ x.s5 = 0xffff then
    "::ffff:".toList ++ showIpv4 (v4From x.s6 x.s7)
  else
    let (start, len) := longestZeroes 0 (0, 0) (0, 0) x.segments
    if len > 1 then
      showHexGroups (x.segments.take start) ++ "::".toList ++ showHexGroups
        (x.segments.drop (start + len))
    else showHexGroups x.segments

/-! ## Host literals -/

def maxHostLen : Nat := 253

def maxLabelLen : Nat := 63

def isInetAtonNumeric (p : Text) : Bool :=
  match p with
  | '0' :: 'x' :: hex => !hex.isEmpty && hex.all isAsciiHexDigit
  | _ => !p.isEmpty && p.all isAsciiDigit

def isCanonicalDecimalOctet (p : Text) : Bool :=
  if p.length > 1 ∧ p.head? = some '0' then false
  else p.all isAsciiDigit && (parseDecimal 8 p).isSome

/-- A byte that no host may have. -/
def isHostDelimiter (c : Char) : Bool := c ∈ [' ', '@', '/', '\\', '?', '#', '%']

def isHostLabel (label : Text) : Bool :=
  !(byteLength label > maxLabelLen) && !(startsWith label ['-']) && !(endsWith label ['-'])
    && label.all fun c => isAsciiLower c || isAsciiDigit c || c = '-'

def parseCanonicalIpLiteral (host : Text) : Except PolicyError (Option IpAddr) :=
  if host = [] ∨ byteLength host > maxHostLen then .error (.denied .malformedHost)
  else if allAscii host = false then .error (.denied .malformedHost)
  else if host.any fun c => isAsciiControl c || isHostDelimiter c then .error
    (.denied .malformedHost)
  else if host.contains '[' || host.contains ']' then .error (.denied .nonCanonicalIpLiteral)
  else if endsWith host ['.'] then .error (.denied .nonCanonicalIpLiteral)
  else
    let lowered := toAsciiLowercase host
    if lowered.contains ':' then
      match parseIpv6 lowered with
      | some v6 =>
          if showIpv6 v6 = lowered then .ok (some (.v6 v6))
            else .error (.denied .nonCanonicalIpLiteral)
      | none => .error (.denied .malformedHost)
    else
      let parts := lowered.splitOn '.'
      if parts.any (·.isEmpty) then .error (.denied .malformedHost)
      else if parts.all isInetAtonNumeric then
        match parts with
        | [a, b, c, d] =>
            if parts.all isCanonicalDecimalOctet then
              let octet := fun p => UInt8.ofNat ((parseDecimal 8 p).getD 0)
              .ok (some (.v4 ⟨octet a, octet b, octet c, octet d⟩))
            else .error (.denied .nonCanonicalIpLiteral)
        | _ => .error (.denied .nonCanonicalIpLiteral)
      else if parts.all isHostLabel then .ok none
      else .error (.denied .malformedHost)

example : parseCanonicalIpLiteral "cafe.example.com".toList = .ok none := by decide
example : parseCanonicalIpLiteral "0xa9fea9fe".toList
    = .error (.denied .nonCanonicalIpLiteral) := by decide
example : parseCanonicalIpLiteral "2001:db8::1".toList
    = .ok (some (.v6 ⟨0x2001, 0xdb8, 0, 0, 0, 0, 0, 1⟩)) := by
  decide

theorem plain_of_parseCanonicalIpLiteral {host : Text} {literal : Option IpAddr}
    (h : parseCanonicalIpLiteral host = .ok literal) :
    ∀ c ∈ host, isAsciiControl c = false ∧ isHostDelimiter c = false := by
  unfold parseCanonicalIpLiteral at h
  split at h
  · cases h
  · split at h
    · cases h
    · split at h
      · cases h
      · rename_i hany
        intro c hc
        have hnone := List.any_eq_false.mp (Bool.not_eq_true _ ▸ hany) c hc
        simpa using hnone

theorem byteLength_of_parseCanonicalIpLiteral {host : Text} {literal : Option IpAddr}
    (h : parseCanonicalIpLiteral host = .ok literal) : byteLength host ≤ maxHostLen := by
  unfold parseCanonicalIpLiteral at h
  split at h
  · cases h
  · rename_i hsize
    exact Nat.not_lt.mp fun hlong => hsize (.inr hlong)

/-! ## The pin -/

structure PinnedTarget where
  entryId : Nat
  host : Text
  port : Nat
  ip : IpAddr
deriving DecidableEq

def PinnedTarget.socketAddr (t : PinnedTarget) : SocketAddr := ⟨t.ip, t.port⟩

def PinnedTarget.sniName (t : PinnedTarget) : Text := t.host

/-- `resolve_and_pin`, with what the resolver answers. -/
def resolveAndPin (answer : Except PolicyError (List IpAddr)) (host : Text) (port entryId : Nat) :
    Except PolicyError PinnedTarget :=
  match answer with
  | .error e => .error e
  | .ok [] => .error (.denied .noResolvedAddress)
  | .ok (ip :: rest) =>
      if (ip :: rest).any isDeniedNet then .error (.denied .deniedNetwork)
      else .ok ⟨entryId, host, port, ip⟩

/-- **What is pinned is an address of the answer, and all of the answer is public.** -/
theorem resolveAndPin_ok {answer : Except PolicyError (List IpAddr)} {host : Text}
    {port entryId : Nat} {t : PinnedTarget} (h : resolveAndPin answer host port entryId = .ok t) :
    ∃ addrs, answer = .ok addrs ∧ t.ip ∈ addrs ∧ (∀ ip ∈ addrs, isPublicUnicast ip = true)
      ∧ t.entryId = entryId ∧ t.host = host ∧ t.port = port := by
  unfold resolveAndPin at h
  split at h
  · cases h
  · cases h
  · rename_i ip rest
    split at h
    · cases h
    · rename_i hany
      cases h
      refine ⟨ip :: rest, rfl, List.mem_cons_self, fun x hx => ?_, rfl, rfl, rfl⟩
      have hpublic := List.any_eq_false.mp (Bool.not_eq_true _ ▸ hany) x hx
      simpa [isDeniedNet] using hpublic

end GoatCoin.Worker
