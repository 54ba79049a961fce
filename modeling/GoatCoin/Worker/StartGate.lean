/-
# `GoatCoin.Worker.StartGate` — `consent.rs` and the startup gate of `lib.rs`

The worker starts on a list, and on a record that the operator's wallet has signed.  The record is a
text of eleven lines, one of them free:

    header ⏎ schema ⏎ version ⏎ policy ⏎ list ⏎ wallet ⏎ device ⏎ ceiling ⏎ throttle ⏎ granted ⏎ expires
    └──────────────── no newline ───────────────────┘   free    └──────────── no newline ──────────────┘

so the text that was signed has one reading, whatever the device is called.  The ceiling and the
throttle are the smaller of what was signed and what is configured; each is then clamped into a
band, and a value below the band is clamped up.
-/
import GoatCoin.Worker.Destinations
import Mathlib.Tactic

namespace GoatCoin.Worker

open Text Destinations
open Evm (require bind_ok bind_ok₃ bind_ok₄ bind_ok₂ require_ok require_of)

/-! ## The record -/

def consentTtlSecs : Nat := 7776000

def consentSchema : Nat := 1

def minPolicyVersion : Nat := 1

def consentPreimageHeader : Text := "GOAT Residential Proxy Consent Record v1".toList

structure ConsentRecord where
  schema : Nat
  policyVersion : Nat
  policyDigest : List UInt8
  allowlistDigest : List UInt8
  wallet : List UInt8
  deviceId : Text
  dailyCeilingBytes : Nat
  throttleBytesPerSec : Nat
  grantedAtUnix : Nat
  expiresAtUnix : Nat
  signature : List UInt8
deriving DecidableEq

inductive ConsentError where
  | absent
  | unreadable (kind : String)
  | malformed (detail : String)
  | schemaMismatch (found expected : Nat)
  | policyVersionTooOld (found expected : Nat)
  | policyDigestMismatch
  | allowlistDigestMismatch
  | badSignature
  | foreignSigner
  | expired
  | notYetValid
deriving DecidableEq

def numberLine (label : String) (n : Nat) : Text := label.toList ++ decimal n

def hexLine (label : String) (bs : List UInt8) : Text := label.toList ++ '0' :: 'x' :: Hex.encode bs

/-- The lines before the free one. -/
def ConsentRecord.front (r : ConsentRecord) : List Text :=
  [consentPreimageHeader, numberLine "schema: " r.schema,
    numberLine "policy_version: " r.policyVersion,
    hexLine "policy_digest: " r.policyDigest, hexLine "allowlist_digest: " r.allowlistDigest,
    hexLine "wallet: " r.wallet]

/-- The lines after it. -/
def ConsentRecord.back (r : ConsentRecord) : List Text :=
  [numberLine "daily_ceiling_bytes: " r.dailyCeilingBytes,
    numberLine "throttle_bytes_per_sec: " r.throttleBytesPerSec,
    numberLine "granted_at_unix: " r.grantedAtUnix, numberLine "expires_at_unix: " r.expiresAtUnix]

/-- The text that is signed. -/
def preimage (r : ConsentRecord) : Text :=
  joinLines (r.front ++ ("device_id: ".toList ++ r.deviceId) :: r.back)

/-- The file: what reading and deserialising it gives. -/
inductive ConsentFile where
  | absent
  | unreadable (kind : String)
  | malformed (e : String)
  | record (r : ConsentRecord)

/-- The record in the file. -/
def loadConsent : ConsentFile → Except ConsentError ConsentRecord
  | .absent => .error .absent
  | .unreadable kind => .error (.unreadable kind)
  | .malformed e => .error (.malformed e)
  | .record r => .ok r

section
variable (recover : List UInt8 → Text → Option (List UInt8)) (sha256 : Text → List UInt8)

/-- The address that a signature of a text gives back is the one that is expected. -/
def checkSigner (r : ConsentRecord) : Except ConsentError Unit :=
  match recover r.signature (preimage r) with
  | none => .error .badSignature
  | some recovered => require (recovered = r.wallet) .badSignature

def verifyConsent (r : ConsentRecord) (nowUnix : Nat)
    (policyTextHash allowlistDigest expectedWallet : List UInt8) :
    Except ConsentError Unit := do
  require (r.schema = consentSchema) (.schemaMismatch r.schema consentSchema)
  require (r.expiresAtUnix = min (r.grantedAtUnix + consentTtlSecs) (2 ^ 64 - 1))
    (.malformed ("expires_at - granted_at is " ++ toString (r.expiresAtUnix - r.grantedAtUnix)
      ++ ", and the term is fixed at 7776000"))
  checkSigner recover r
  require (r.wallet = expectedWallet) .foreignSigner
  require (r.policyDigest = policyTextHash) .policyDigestMismatch
  require (r.allowlistDigest = allowlistDigest) .allowlistDigestMismatch
  require (minPolicyVersion ≤ r.policyVersion)
    (.policyVersionTooOld r.policyVersion minPolicyVersion)
  require (r.grantedAtUnix ≤ nowUnix) .notYetValid
  require (nowUnix ≤ r.expiresAtUnix) .expired

/-! ## The gate -/

def effectiveDailyCeiling (r : ConsentRecord) (configured : Nat) : Nat :=
  min r.dailyCeilingBytes configured

def effectiveThrottle (r : ConsentRecord) (configured : Nat) : Nat :=
  min r.throttleBytesPerSec configured

/-- What the gate reads of the configuration. -/
structure ProxyConfig where
  policyTextHash : List UInt8
  dailyCeilingBytes : Nat
  throttleBytesPerSec : Nat
  operatorWallet : List UInt8

inductive StartupRefusal where
  | allowlist (e : PolicyError)
  | consent (e : ConsentError)

/-- What the gate hands to the policy. -/
structure Started where
  entries : List AllowlistEntry
  allowlistDigest : List UInt8
  budget : EgressLedger
  bucket : TokenBucket

def allowlistDigest (entries : List AllowlistEntry) : Except String (List UInt8) :=
  (canonicalDigestById sha256 (entries.map fun e => (e.id, e.host))).mapError RegistryError.display

def startGateWith (allowlist : AllowlistFile) (consent : ConsentFile) (ledger : LedgerFile)
    (cfg : ProxyConfig) (nowUnix : Nat) : Except StartupRefusal (Started × ConsentRecord) := do
  let (entries, digest) ← (loadEntries (allowlistDigest sha256) allowlist).mapError .allowlist
  let record ← (loadConsent consent).mapError .consent
  (verifyConsent recover record nowUnix cfg.policyTextHash digest cfg.operatorWallet).mapError
    .consent
  let ceiling := effectiveDailyCeiling record cfg.dailyCeilingBytes
  let throttle := effectiveThrottle record cfg.throttleBytesPerSec
  return (⟨entries, digest, .new ledger ceiling, .atRate throttle⟩, record)

end

/-- The destinations that were loaded, with their hosts. -/
def Started.pairs (s : Started) : List (Nat × Text) := s.entries.map fun e => (e.id, e.host)

/-! ## The signed text has one reading -/

variable {label : String}

theorem newline_not_mem_numberLine (h : '\n' ∉ label.toList) (n : Nat) :
    '\n' ∉ numberLine label n := by
  intro hmem
  rcases List.mem_append.mp hmem with hlabel | hdigit
  · exact h hlabel
  · exact not_mem_decimal (by decide) n hdigit

theorem newline_not_mem_hexLine (h : '\n' ∉ label.toList) (bs : List UInt8) :
    '\n' ∉ hexLine label bs := by
  intro hmem
  rcases List.mem_append.mp hmem with hlabel | hhex
  · exact h hlabel
  · rcases List.mem_cons.mp hhex with hzero | hhex
    · exact absurd hzero (by decide)
    · rcases List.mem_cons.mp hhex with hx | hhex
      · exact absurd hx (by decide)
      · exact newline_not_mem_hex bs hhex

theorem front_no_newline (r : ConsentRecord) : ∀ l ∈ r.front, '\n' ∉ l := by
  unfold ConsentRecord.front
  simp only [List.mem_cons, List.not_mem_nil, or_false]
  rintro l (rfl | rfl | rfl | rfl | rfl | rfl)
  · decide
  · exact newline_not_mem_numberLine (by decide) _
  · exact newline_not_mem_numberLine (by decide) _
  · exact newline_not_mem_hexLine (by decide) _
  · exact newline_not_mem_hexLine (by decide) _
  · exact newline_not_mem_hexLine (by decide) _

theorem back_no_newline (r : ConsentRecord) : ∀ l ∈ r.back, '\n' ∉ l := by
  unfold ConsentRecord.back
  simp only [List.mem_cons, List.not_mem_nil, or_false]
  rintro l (rfl | rfl | rfl | rfl)
  · exact newline_not_mem_numberLine (by decide) _
  · exact newline_not_mem_numberLine (by decide) _
  · exact newline_not_mem_numberLine (by decide) _
  · exact newline_not_mem_numberLine (by decide) _

theorem numberLine_inj {m n : Nat} (h : numberLine label m = numberLine label n) : m = n :=
  decimal_injective (List.append_cancel_left h)

theorem hexLine_inj {bs cs : List UInt8} (h : hexLine label bs = hexLine label cs) : bs = cs := by
  have htail := List.append_cancel_left h
  exact Hex.encode_injective (List.cons.inj (List.cons.inj htail).2).2

/-- **The signed text determines the record**, all but the signature. -/
theorem preimage_inj {r q : ConsentRecord} (h : preimage r = preimage q) :
    q = { r with signature := q.signature } := by
  unfold preimage at h
  have hfrontLength : r.front.length = q.front.length := rfl
  have hbackLength : r.back.length = q.back.length := rfl
  obtain ⟨hfront, hrest⟩ :=
    joinLines_front hfrontLength (List.cons_ne_nil _ _) (List.cons_ne_nil _ _)
    (front_no_newline r) (front_no_newline q) h
  obtain ⟨hdevice, hback⟩ :=
    joinLines_back hbackLength (back_no_newline r) (back_no_newline q) hrest
  unfold ConsentRecord.front at hfront
  unfold ConsentRecord.back at hback
  simp only [List.cons.injEq, and_true, true_and] at hfront hback
  obtain ⟨hschema, hversion, hpolicy, hlist, hwallet⟩ := hfront
  obtain ⟨hceiling, hthrottle, hgranted, hexpires⟩ := hback
  cases r
  cases q
  dsimp only at *
  rw [numberLine_inj hschema, numberLine_inj hversion, hexLine_inj hpolicy, hexLine_inj hlist,
    hexLine_inj hwallet,
    List.append_cancel_left hdevice, numberLine_inj hceiling, numberLine_inj hthrottle,
    numberLine_inj hgranted, numberLine_inj hexpires]

/-! ## What the gate has checked -/

section
variable {recover : List UInt8 → Text → Option (List UInt8)} {sha256 : Text → List UInt8}

theorem mapError_ok {ε ε' α : Type} {f : ε → ε'} {x : Except ε α} {a : α}
    (h : x.mapError f = .ok a) : x = .ok a := by
  cases x with
  | ok b =>
      cases h
      rfl
  | error e => cases h

theorem verifyConsent_ok {r : ConsentRecord} {nowUnix : Nat}
    {policyTextHash digest expectedWallet : List UInt8}
    (h : verifyConsent recover r nowUnix policyTextHash digest expectedWallet = .ok ()) :
    recover r.signature (preimage r) = some expectedWallet ∧ r.policyDigest = policyTextHash
      ∧ r.allowlistDigest = digest ∧ r.grantedAtUnix ≤ nowUnix
      ∧ nowUnix ≤ r.grantedAtUnix + consentTtlSecs := by
  obtain ⟨_, -, _, hterm, _, hsigner, _, hwallet, h⟩ := bind_ok₄.mp h
  obtain ⟨_, hpolicy, _, hlist, _, -, _, hgranted, hexpired⟩ := bind_ok₄.mp h
  have hrecovered : recover r.signature (preimage r) = some r.wallet := by
    unfold checkSigner at hsigner
    cases hrecover : recover r.signature (preimage r) with
    | none =>
        rw [hrecover] at hsigner
        cases hsigner
    | some recovered =>
        rw [hrecover] at hsigner
        rw [require_ok.mp hsigner]
  have hend : r.expiresAtUnix ≤ r.grantedAtUnix + consentTtlSecs := by
    rw [require_ok.mp hterm]
    exact Nat.min_le_left _ _
  refine ⟨?_, require_ok.mp hpolicy, require_ok.mp hlist, require_ok.mp hgranted,
    (require_ok.mp hexpired).trans hend⟩
  rw [hrecovered, require_ok.mp hwallet]

theorem loadEntries_digest {allowlist : AllowlistFile} {entries : List AllowlistEntry}
    {digest : List UInt8}
    (h : loadEntries (allowlistDigest sha256) allowlist = .ok (entries, digest)) :
    canonicalDigestById sha256 (entries.map fun e => (e.id, e.host)) = .ok digest := by
  unfold loadEntries at h
  cases allowlist with
  | absent => cases h
  | unreadable kind => cases h
  | schema e => cases h
  | wire schemaId wire =>
      obtain ⟨_, -, _, -, loaded, -, _, -, h⟩ := bind_ok₄.mp h
      cases hdigest : allowlistDigest sha256 loaded with
      | error e =>
          rw [hdigest] at h
          cases h
      | ok d =>
          rw [hdigest] at h
          cases h
          exact mapError_ok hdigest

/-- **An open gate**: what was loaded and checked, and the limits it runs with. -/
theorem startGateWith_ok {allowlist : AllowlistFile} {consent : ConsentFile} {ledger : LedgerFile}
    {cfg : ProxyConfig} {nowUnix : Nat} {started : Started} {record : ConsentRecord}
    (h : startGateWith recover sha256 allowlist consent ledger cfg nowUnix
      = .ok (started, record)) :
    canonicalDigestById sha256 started.pairs = .ok started.allowlistDigest
      ∧ verifyConsent recover record nowUnix cfg.policyTextHash started.allowlistDigest
        cfg.operatorWallet = .ok ()
      ∧ started.budget = .new ledger (min record.dailyCeilingBytes cfg.dailyCeilingBytes)
      ∧ started.bucket = .atRate (min record.throttleBytesPerSec cfg.throttleBytesPerSec) := by
  obtain ⟨⟨entries, digest⟩, hload, h⟩ := bind_ok.mp h
  obtain ⟨loaded, -, _, hverify, h⟩ := bind_ok₂.mp h
  cases h
  exact ⟨loadEntries_digest (mapError_ok hload), mapError_ok hverify, rfl, rfl⟩

theorem digestById_text {entries : List (Nat × Text)} {digest : List UInt8}
    (h : canonicalDigestById sha256 entries = .ok digest) :
    ∃ text, canonicalPreimageById entries = .ok text ∧ sha256 text = digest := by
  obtain ⟨text, htext, h⟩ := bind_ok.mp h
  cases h
  exact ⟨text, htext, rfl⟩

theorem digestBySlug_text {entries : List (Text × Text)} {digest : List UInt8}
    (h : canonicalDigestBySlug sha256 entries = .ok digest) :
    ∃ text, canonicalPreimageBySlug entries = .ok text ∧ sha256 text = digest := by
  obtain ⟨text, htext, h⟩ := bind_ok.mp h
  cases h
  exact ⟨text, htext, rfl⟩

end

/-! ## Consent as a ceiling -/

/-- What the operator was promised of a worker that has started. -/
structure ConsentIsCeiling (Signed : List UInt8 → Text → Prop) (sha256 : Text → List UInt8)
    (cfg : ProxyConfig) (nowUnix : Nat) (started : Started) (record : ConsentRecord) : Prop where
  signed : Signed cfg.operatorWallet (preimage record)
  oneReading : ∀ r, preimage r = preimage record → r = { record with signature := r.signature }
  named : canonicalDigestById sha256 started.pairs = .ok record.allowlistDigest
  onlyById : ∀ entries, canonicalDigestById sha256 entries = .ok record.allowlistDigest →
    ∀ p, p ∈ entries ↔ p ∈ started.pairs
  onlyBySlug : ∀ entries, canonicalDigestBySlug sha256 entries = .ok record.allowlistDigest →
    ∀ id host, (∃ slug, (slug, host) ∈ entries ∧ idForSlug slug = .ok id)
    ↔ (id, host) ∈ started.pairs
  disclosure : record.policyDigest = cfg.policyTextHash
  term : record.grantedAtUnix ≤ nowUnix ∧ nowUnix ≤ record.grantedAtUnix + consentTtlSecs
  ceiling : started.budget.ceilingBytes ≤ record.dailyCeilingBytes
    ∧ started.budget.ceilingBytes ≤ cfg.dailyCeilingBytes
  rate : started.bucket.rateBytesPerSec ≤ record.throttleBytesPerSec
    ∧ started.bucket.rateBytesPerSec ≤ cfg.throttleBytesPerSec

/-- A clamp into a band stays below a value exactly when the value reaches the band. -/
theorem clamp_le_iff {low high m n : Nat} (hband : low ≤ high) :
    max low (min (min m n) high) ≤ m ∧ max low (min (min m n) high) ≤ n ↔ low ≤ min m n := by
  omega

section
variable {recover : List UInt8 → Text → Option (List UInt8)} {sha256 : Text → List UInt8}
  {Signed : List UInt8 → Text → Prop}

/-- **Consent is a ceiling if and only if the smaller limits reach their bands**, whenever the gate
opens. -/
theorem consent_is_ceiling_iff
    (hrecover : ∀ sig text wallet, recover sig text = some wallet → Signed wallet text)
    {allowlist : AllowlistFile} {consent : ConsentFile} {ledger : LedgerFile}
    {cfg : ProxyConfig} {nowUnix : Nat} {started : Started} {record : ConsentRecord}
    (hgate : startGateWith recover sha256 allowlist consent ledger cfg nowUnix
      = .ok (started, record))
    (hsha : ∀ t t', sha256 t = record.allowlistDigest → sha256 t' = record.allowlistDigest →
      t = t') :
    ConsentIsCeiling Signed sha256 cfg nowUnix started record ↔
      minDailyByteCap ≤ min record.dailyCeilingBytes cfg.dailyCeilingBytes
        ∧ minRateBytesPerSec ≤ min record.throttleBytesPerSec cfg.throttleBytesPerSec := by
  obtain ⟨hdigest, hverify, hbudget, hbucket⟩ := startGateWith_ok hgate
  obtain ⟨hrecovered, hpolicy, hlist, hgranted, hexpired⟩ := verifyConsent_ok hverify
  rw [← hlist] at hdigest
  obtain ⟨text, htext, hsum⟩ := digestById_text hdigest
  have hceiling := clamp_le_iff (m := record.dailyCeilingBytes) (n := cfg.dailyCeilingBytes)
    (show minDailyByteCap ≤ maxDailyByteCap by decide)
  have hrate := clamp_le_iff (m := record.throttleBytesPerSec) (n := cfg.throttleBytesPerSec)
    (show minRateBytesPerSec ≤ maxRateBytesPerSec by decide)
  constructor
  · intro h
    have hc := h.ceiling
    have hr := h.rate
    rw [hbudget] at hc
    rw [hbucket] at hr
    exact ⟨hceiling.mp hc, hrate.mp hr⟩
  · rintro ⟨hc, hr⟩
    refine ⟨hrecover _ _ _ hrecovered, fun r hr => preimage_inj hr.symm, hdigest, ?_, ?_, hpolicy,
      ⟨hgranted, hexpired⟩, ?_, ?_⟩
    · intro entries hentries p
      obtain ⟨text', htext', hsum'⟩ := digestById_text hentries
      rw [hsha text' text hsum' hsum] at htext'
      exact byId_names htext' htext p
    · intro entries hentries id host
      obtain ⟨text', htext', hsum'⟩ := digestBySlug_text hentries
      rw [hsha text' text hsum' hsum] at htext'
      exact bySlug_names htext' htext id host
    · rw [hbudget]
      exact hceiling.mpr hc
    · rw [hbucket]
      exact hrate.mpr hr

end

/-! ## Samples -/

def sampleHost : Text := "api.crossref.org".toList

def sampleCanonical : Text :=
  canonicalDigestDomain ++ '\n' :: (Row.mk 4 "crossref-api".toList sampleHost).record

def sampleListDigest : List UInt8 :=
    [0xd4, 0xd0, 0xa4, 0x5b, 0xf0, 0x41, 0xa7, 0xad, 0x27, 0x5f, 0xe5, 0xb5, 0x58, 0x9b, 0x5b,
      0x00, 0x16, 0x18,
     0xf7, 0xa0, 0x34, 0x28, 0xf5, 0xb3, 0x7e, 0x28, 0xd9, 0x9a, 0xbe, 0x0f, 0xff, 0xd3]

def sampleSha256 (text : Text) : List UInt8 :=
  if text = sampleCanonical then sampleListDigest else List.replicate 32 0

def sampleWallet : List UInt8 :=
    [0xdd, 0xf2, 0x4f, 0x34, 0x03, 0x81, 0x9c, 0xc2, 0xe7, 0x6a, 0xaa, 0xe3, 0xce, 0x26, 0x0e,
      0x63, 0x82, 0xd5,
     0x4e, 0x61]

/-- A record for one destination. -/
def sampleConsent (dailyCeilingBytes : Nat) (signature : List UInt8) : ConsentRecord :=
  ⟨1, 1, List.replicate 32 0xaa, sampleListDigest, sampleWallet, "device-1".toList,
    dailyCeilingBytes, 1000000, 1780000000, 1787776000, signature⟩

/-- The signature of the record with a ceiling of 10 GiB. -/
def signatureTenGib : List UInt8 :=
    [0x43, 0x48, 0xf5, 0xa4, 0xf1, 0x34, 0x3c, 0xd4, 0x12, 0x55, 0x05, 0x99, 0xa1, 0x64, 0x08,
      0x55, 0x0e, 0xc1,
     0x7e, 0xe3, 0xec, 0x56, 0x54, 0x9d, 0xe2, 0xaa, 0x95, 0xc0, 0xd2, 0x58, 0x0b, 0xe8, 0x6f,
     0xc1, 0x08, 0x5a,
     0x06, 0x95, 0xd3, 0x5e, 0x4c, 0xda, 0x5f, 0x9c, 0x4f, 0xe7, 0x4e, 0x8a, 0x83, 0xe9, 0x13,
     0x4a, 0x06, 0x50, 0xe5, 0x50, 0xf1, 0xe9, 0x59, 0x99, 0x75, 0x7c, 0xaf, 0x68, 0x1c]

/-- The signature of the record with a ceiling of half a gigabyte. -/
def signatureHalfGb : List UInt8 :=
    [0xcb, 0xe4, 0x7a, 0x22, 0x79, 0x5e, 0xa0, 0x2e, 0x2d, 0x94, 0x59, 0x73, 0xc5, 0xdf, 0xc5,
      0x52, 0xa5, 0x12,
     0xf6, 0x89, 0xc5, 0xda, 0x16, 0x4d, 0xda, 0x16, 0x2c, 0xde, 0xb9, 0xb8, 0xea, 0x7a, 0x51,
     0xd9, 0x91, 0xf9,
     0x05, 0x85, 0xce, 0x52, 0x82, 0x93, 0x71, 0x27, 0x03, 0xda, 0xec, 0x22, 0x41, 0xd2, 0xc6,
     0xfa, 0x26, 0x41, 0x0b, 0x83, 0x03, 0x31, 0x1f, 0xfd, 0xc8, 0xe5, 0x9d, 0x09, 0x1c]

/-- The one signature that was made. -/
def recoverOnly (r : ConsentRecord) (signature : List UInt8) (text : Text) : Option (List UInt8) :=
  if signature = r.signature ∧ text = preimage r then some r.wallet else none

def sampleAllowlist : AllowlistFile :=
  .wire allowlistSchemaId [⟨4, sampleHost, "exact".toList, "whole_origin".toList, [], 60⟩]

def sampleConfig : ProxyConfig := ⟨List.replicate 32 0xaa, 20000000000, 500000, sampleWallet⟩

theorem sampleCanonical_eq : canonicalPreimageById [(4, sampleHost)] = .ok sampleCanonical := by
  have hrows : [(4, sampleHost)].mapM rowById = .ok [⟨4, "crossref-api".toList, sampleHost⟩] := rfl
  unfold canonicalPreimageById
  rw [hrows]
  show render [⟨4, "crossref-api".toList, sampleHost⟩] = .ok sampleCanonical
  unfold render
  rw [List.mergeSort_singleton]
  rfl

theorem sampleAllowlist_loads :
    loadEntries (allowlistDigest sampleSha256) sampleAllowlist
      = .ok ([⟨4, sampleHost, .exact, .wholeOrigin, [], 60⟩], sampleListDigest) := by
  have hentry : validateEntry ⟨4, sampleHost, "exact".toList, "whole_origin".toList, [], 60⟩
      = .ok ⟨4, sampleHost, .exact, .wholeOrigin, [], 60⟩ := by
    unfold validateEntry
    rw [List.mergeSort_nil]
    rfl
  have hdigest : allowlistDigest sampleSha256 [⟨4, sampleHost, .exact, .wholeOrigin, [], 60⟩]
    = .ok sampleListDigest := by
    unfold allowlistDigest canonicalDigestById
    rw [List.map_singleton, sampleCanonical_eq]
    show Except.ok (sampleSha256 sampleCanonical) = _
    rw [sampleSha256, if_pos rfl]
  unfold sampleAllowlist loadEntries
  refine bind_ok.mpr ⟨(), rfl, bind_ok.mpr ⟨(), rfl, bind_ok.mpr
    ⟨[⟨4, sampleHost, .exact, .wholeOrigin, [], 60⟩], ?_, bind_ok.mpr ⟨(), rfl, ?_⟩⟩⟩⟩
  · rw [List.mapM_cons, hentry]
    rfl
  · rw [hdigest]

theorem sampleGate_opens (dailyCeilingBytes : Nat) (signature : List UInt8) :
    startGateWith (recoverOnly (sampleConsent dailyCeilingBytes signature))
      sampleSha256 sampleAllowlist
        (.record (sampleConsent dailyCeilingBytes signature)) .absent sampleConfig 1780000001
      = .ok (⟨[⟨4, sampleHost, .exact, .wholeOrigin, [], 60⟩], sampleListDigest,
          .new .absent (min dailyCeilingBytes 20000000000), .atRate (min 1000000 500000)⟩,
            sampleConsent dailyCeilingBytes signature) := by
  have hsigner : checkSigner (recoverOnly (sampleConsent dailyCeilingBytes signature))
      (sampleConsent dailyCeilingBytes signature) = .ok () := by
    unfold checkSigner recoverOnly
    rw [if_pos ⟨rfl, rfl⟩]
    exact if_pos rfl
  have hverify : verifyConsent (recoverOnly (sampleConsent dailyCeilingBytes signature))
      (sampleConsent dailyCeilingBytes signature) 1780000001 sampleConfig.policyTextHash
        sampleListDigest
      sampleConfig.operatorWallet = .ok () :=
    bind_ok₄.mpr ⟨(), require_of rfl, (),
      require_of (by decide : 1787776000 = min (1780000000 + 7776000) _), (),
      hsigner, (), require_of rfl, bind_ok₄.mpr ⟨(), require_of rfl, (), require_of rfl, (),
      require_of (by decide : 1 ≤ 1), (), require_of (by decide : 1780000000 ≤ 1780000001),
      require_of (by decide : 1780000001 ≤ 1787776000)⟩⟩
  have hload :
    (loadEntries (allowlistDigest sampleSha256) sampleAllowlist).mapError StartupRefusal.allowlist
      = .ok ([⟨4, sampleHost, .exact, .wholeOrigin, [], 60⟩], sampleListDigest) := by
    rw [sampleAllowlist_loads]
    rfl
  refine bind_ok₃.mpr ⟨_, hload, sampleConsent dailyCeilingBytes signature, rfl, (), ?_, rfl⟩
  rw [hverify]
  rfl

theorem sampleSha256_inj (t t' : Text) (ht : sampleSha256 t = sampleListDigest)
    (ht' : sampleSha256 t' = sampleListDigest) : t = t' := by
  have honly : ∀ t, sampleSha256 t = sampleListDigest → t = sampleCanonical := by
    intro t h
    unfold sampleSha256 at h
    split at h
    · rename_i heq
      exact heq
    · exact absurd h (by decide)
  rw [honly t ht, honly t' ht']

theorem consent_is_ceiling_sample :
    ConsentIsCeiling (fun wallet text => wallet = sampleWallet
      ∧ text = preimage (sampleConsent 10737418240 signatureTenGib))
      sampleSha256 sampleConfig 1780000001
      ⟨[⟨4, sampleHost, .exact, .wholeOrigin, [], 60⟩], sampleListDigest,
        .new .absent (min 10737418240 20000000000),
        .atRate (min 1000000 500000)⟩ (sampleConsent 10737418240 signatureTenGib) := by
  refine (consent_is_ceiling_iff ?_ (sampleGate_opens 10737418240 signatureTenGib)
    sampleSha256_inj).mpr ?_
  · intro signature text wallet h
    unfold recoverOnly at h
    split at h
    · rename_i hmade
      cases h
      exact ⟨rfl, hmade.2⟩
    · cases h
  · decide

/-- **A ceiling of half a gigabyte is signed, and the worker starts with a whole one.** -/
theorem signed_ceiling_raised :
    ¬ ∀ (recover : List UInt8 → Text → Option (List UInt8)) (sha256 : Text → List UInt8)
      (Signed : List UInt8 → Text → Prop) (allowlist : AllowlistFile) (consent : ConsentFile)
        (ledger : LedgerFile)
      (cfg : ProxyConfig) (nowUnix : Nat) (started : Started) (record : ConsentRecord),
      (∀ sig text wallet, recover sig text = some wallet → Signed wallet text) →
      startGateWith recover sha256 allowlist consent ledger cfg nowUnix = .ok (started, record) →
      (∀ t t', sha256 t = record.allowlistDigest → sha256 t' = record.allowlistDigest → t = t') →
      ConsentIsCeiling Signed sha256 cfg nowUnix started record := by
  intro h
  have hpromised := h _ sampleSha256 (fun _ _ => True) _ _ _ _ _ _ _ (fun _ _ _ _ => trivial)
    (sampleGate_opens 500000000 signatureHalfGb) sampleSha256_inj
  have hceiling := hpromised.ceiling.1
  revert hceiling
  decide

end GoatCoin.Worker
