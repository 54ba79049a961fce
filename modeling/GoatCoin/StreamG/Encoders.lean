/-
# `GoatCoin.StreamG.Encoders` — `models.rs` and `preflight.rs`: an enrollment hashed again

The relayer has its own copies of the structs that the gateway takes, narrower than the chain's, and
hashes them itself:

    address_word   12 zero bytes and the address
    u256_be        16 zero bytes and a `u128`
    u256_be_u8     31 zero bytes and a byte

A word that fits is the word that `abi.encode` writes, so a digest of the relayer is the digest of
the contract (`…_abi`), as long as the struct can be passed to the contract at all: a timestamp is a
`u64` here and a `uint48` there.
-/
import GoatCoin.Attestor.Merkle
import GoatCoin.Contracts.Gateway
import GoatCoin.Lib.Hex
import GoatCoin.Lib.Text

namespace GoatCoin.StreamG.Preflight

open Evm Wire Attestor

/-! ## Words -/

/-- A `[u8; 32]`. -/
def bytes32 (h : Bytes32) : List UInt8 := toBE 32 h.val

def addressWord (a : Address) : List UInt8 := List.replicate 12 0 ++ toBE 20 a.val

def u256Be (v : Word 128) : List UInt8 := List.replicate 16 0 ++ toBE 16 v.val

def u256BeU8 (v : Word 8) : List UInt8 := List.replicate 31 0 ++ toBE 1 v.val

/-- `u128::from`. -/
def fromU64 (v : Word 64) : Word 128 := ⟨v.val, v.isLt.trans (by decide)⟩

@[simp] theorem bytes32_eq (h : Bytes32) : bytes32 h = abiWord h.val := rfl

@[simp] theorem addressWord_eq (a : Address) : addressWord a = abiWord a.val := by
  have hfits : a.val < 256 ^ 20 := a.isLt.trans_le (by decide)
  exact (abiWord_eq (by decide) hfits).symm

@[simp] theorem u256Be_eq (v : Word 128) : u256Be v = abiWord v.val := by
  have hfits : v.val < 256 ^ 16 := v.isLt.trans_le (by decide)
  exact (abiWord_eq (by decide) hfits).symm

@[simp] theorem u256BeU8_eq (v : Word 8) : u256BeU8 v = abiWord v.val := by
  have hfits : v.val < 256 ^ 1 := v.isLt.trans_le (by decide)
  exact (abiWord_eq (by decide) hfits).symm

@[simp] theorem fromU64_val (v : Word 64) : (fromU64 v).val = v.val := rfl

theorem keccak256_words (typehash : Bytes32) (fields : List Nat) :
    keccak256 (abiWord typehash.val ++ fields.flatMap abiWord) = structHash typehash fields := rfl

/-! ## EIP-712 -/

def eip712Digest (domain hash : Bytes32) : Bytes32 :=
  keccak256 (0x19 :: 0x01 :: (bytes32 domain ++ bytes32 hash))

def eip712DomainSeparator (name version : String) (chainId : Word 64)
    (verifyingContract : Address) : Bytes32 :=
  keccak256
    (bytes32 eip712DomainTypehash ++ bytes32 (keccakText name) ++ bytes32 (keccakText version)
    ++ u256Be (fromU64 chainId) ++ addressWord verifyingContract)

theorem eip712Digest_eq (domain hash : Bytes32) :
    eip712Digest domain hash = hashTypedData domain hash := rfl

theorem eip712DomainSeparator_eq {chainId : Word 64} {id : Uint256} (h : chainId.val = id.val)
    (name version : String) (verifyingContract : Address) :
    eip712DomainSeparator name version chainId verifyingContract
      = domainSeparator name version id verifyingContract := by
  unfold eip712DomainSeparator domainSeparator
  rw [← keccak256_words]
  simp [List.append_assoc, h]

/-! ## The structs -/

structure SponsorEnrollment where
  intentId : Bytes32
  deploymentManifestHash : Bytes32
  feeTokenConfigHash : Bytes32
  root : Address
  controller : Address
  controllerEpoch : Word 64
  secondary : Address
  enrollDigest : Bytes32
  linkDigest : Bytes32
  rootAuthorizationDigest : Bytes32
  feeToken : Address
  feeAuthorizationMode : Word 8
  feeAuthorizationDigest : Bytes32
  maxFee : Word 128
  feeQuoteHash : Bytes32
  nonce : Word 64
  deadline : Word 64

/-- The quote of a fee. -/
structure FeeQuote where
  quoteId : Bytes32
  actionType : Bytes32
  actionCoreHash : Bytes32
  deploymentManifestHash : Bytes32
  feeTokenConfigHash : Bytes32
  feeScheduleHash : Bytes32
  payer : Address
  feeToken : Address
  feeAmount : Word 128
  feeRecipient : Address
  validAfter : Word 64
  validUntil : Word 64

structure LinkSecondary where
  root : Address
  secondary : Address
  nonce : Word 64
  deadline : Word 64

structure V1Enrollment where
  wallet : Address
  nonce : Word 64
  deadline : Word 64
  signatureHex : Text

/-- The root's consent. -/
structure RootAuthorization where
  root : Address
  secondary : Address
  enrollDigest : Bytes32
  linkDigest : Bytes32
  nonce : Word 64
  deadline : Word 64

/-- A permit. -/
structure Eip2612Authorization where
  owner : Address
  spender : Address
  value : Word 128
  deadline : Word 64
  v : Word 8
  r : Bytes32
  s : Bytes32

/-! ### As the chain takes them -/

/-- A number that fits. -/
def narrow (w n : Nat) : Option (Word w) := if h : n < 2 ^ w then some ⟨n, h⟩ else none

theorem narrow_some {w n : Nat} {x : Word w} (h : narrow w n = some x) : x.val = n := by
  unfold narrow at h
  split at h
  · cases h
    rfl
  · cases h

def uint48 (t : Word 64) : Option (Word 48) := narrow 48 t.val

theorem uint48_some {t : Word 64} {x : Word 48} (h : uint48 t = some x) : x.val = t.val :=
  narrow_some h

def SponsorEnrollment.abi (i : SponsorEnrollment) : Option StreamG.SponsorEnrollment := do
  let deadline ← uint48 i.deadline
  return ⟨i.intentId, i.deploymentManifestHash, i.feeTokenConfigHash, i.root, i.controller,
    widen word64_le i.controllerEpoch, i.secondary, i.enrollDigest, i.linkDigest,
    i.rootAuthorizationDigest,
    i.feeToken, i.feeAuthorizationMode, i.feeAuthorizationDigest, widen word128_le i.maxFee,
    i.feeQuoteHash, widen word64_le i.nonce, deadline⟩

def FeeQuote.abi (q : FeeQuote) : Option StreamG.FeeQuote := do
  let validAfter ← uint48 q.validAfter
  let validUntil ← uint48 q.validUntil
  return ⟨q.quoteId, q.actionType, q.actionCoreHash, q.deploymentManifestHash, q.feeTokenConfigHash,
    q.feeScheduleHash,
    q.payer, q.feeToken, widen word128_le q.feeAmount, q.feeRecipient, validAfter, validUntil⟩

def LinkSecondary.abi (l : LinkSecondary) : Option StreamG.LinkSecondary := do
  let deadline ← uint48 l.deadline
  return ⟨l.root, l.secondary, widen word64_le l.nonce, deadline⟩

def RootAuthorization.abi (r : RootAuthorization) : Option StreamG.RootAuthorization := do
  let deadline ← uint48 r.deadline
  return ⟨r.root, r.secondary, r.enrollDigest, r.linkDigest, widen word64_le r.nonce, deadline⟩

def Eip2612Authorization.abi (p : Eip2612Authorization) : StreamG.Eip2612Authorization :=
  ⟨p.owner, p.spender, widen word128_le p.value, widen word64_le p.deadline, p.v, p.r, p.s⟩

/-! ## The digests -/

def enrollDigest (wallet : Address) (nonce deadline chainId : Word 64)
    (verifyingContract : Address) : Bytes32 :=
  eip712Digest (eip712DomainSeparator "GoatEnrollmentRegistry" "1" chainId verifyingContract)
    (keccak256
      (bytes32 (keccakText "Enroll(address wallet,uint256 nonce,uint256 deadline)")
      ++ addressWord wallet ++ u256Be (fromU64 nonce) ++ u256Be (fromU64 deadline)))

def linkSecondaryStructHash (l : LinkSecondary) : Bytes32 :=
  keccak256
    (bytes32 (keccakText
    "LinkSecondary(address root,address secondary,uint256 nonce,uint48 deadline)")
    ++ addressWord l.root ++ addressWord l.secondary ++ u256Be (fromU64 l.nonce) ++ u256Be
      (fromU64 l.deadline))

def linkSecondaryDigest (l : LinkSecondary) (chainId : Word 64)
    (walletSponsorshipRegistry : Address) : Bytes32 :=
  eip712Digest (eip712DomainSeparator "GoatWalletSponsorship" "1" chainId walletSponsorshipRegistry)
    (linkSecondaryStructHash l)

def feeQuoteTypehashStr : String :=
  "FeeQuote(bytes32 quoteId,bytes32 actionType,bytes32 actionCoreHash,bytes32 deploymentManifestHash,bytes32 feeTokenConfigHash,bytes32 feeScheduleHash,address payer,address feeToken,uint256 feeAmount,address feeRecipient,uint48 validAfter,uint48 validUntil)"

def feeQuoteStructHash (q : FeeQuote) : Bytes32 :=
  keccak256 (bytes32 (keccakText feeQuoteTypehashStr) ++ bytes32 q.quoteId ++ bytes32 q.actionType
    ++ bytes32 q.actionCoreHash ++ bytes32 q.deploymentManifestHash ++ bytes32 q.feeTokenConfigHash
    ++ bytes32 q.feeScheduleHash ++ addressWord q.payer ++ addressWord q.feeToken
    ++ u256Be q.feeAmount
    ++ addressWord q.feeRecipient ++ u256Be (fromU64 q.validAfter) ++ u256Be (fromU64 q.validUntil))

/-- What the quote signer signs. -/
def feeQuoteDigest (q : FeeQuote) (chainId : Word 64) (verifyingContract : Address) : Bytes32 :=
  eip712Digest (eip712DomainSeparator "GoatRelayGateway" "1" chainId verifyingContract)
    (feeQuoteStructHash q)

def sponsorEnrollmentCoreTypehashStr : String :=
  "SponsorEnrollmentCore(bytes32 intentId,bytes32 deploymentManifestHash,bytes32 feeTokenConfigHash,address root,address controller,uint256 controllerEpoch,address secondary,bytes32 enrollDigest,bytes32 linkDigest,bytes32 rootAuthorizationDigest,address feeToken,uint8 feeAuthorizationMode,uint256 maxFee,uint256 nonce,uint48 deadline)"

/-- The core is rebuilt from the intent. -/
def sponsorEnrollmentCoreHash (i : SponsorEnrollment) : Bytes32 :=
  keccak256 (bytes32 (keccakText sponsorEnrollmentCoreTypehashStr) ++ bytes32 i.intentId
    ++ bytes32 i.deploymentManifestHash ++ bytes32 i.feeTokenConfigHash ++ addressWord i.root
    ++ addressWord i.controller ++ u256Be (fromU64 i.controllerEpoch) ++ addressWord i.secondary
    ++ bytes32 i.enrollDigest ++ bytes32 i.linkDigest ++ bytes32 i.rootAuthorizationDigest
    ++ addressWord i.feeToken ++ u256BeU8 i.feeAuthorizationMode ++ u256Be i.maxFee ++ u256Be
      (fromU64 i.nonce)
    ++ u256Be (fromU64 i.deadline))

def sponsorEnrollmentTypehashStr : String :=
  "SponsorEnrollment(bytes32 intentId,bytes32 deploymentManifestHash,bytes32 feeTokenConfigHash,address root,address controller,uint256 controllerEpoch,address secondary,bytes32 enrollDigest,bytes32 linkDigest,bytes32 rootAuthorizationDigest,address feeToken,uint8 feeAuthorizationMode,bytes32 feeAuthorizationDigest,uint256 maxFee,bytes32 feeQuoteHash,uint256 nonce,uint48 deadline)"

def sponsorEnrollmentStructHash (i : SponsorEnrollment) : Bytes32 :=
  keccak256 (bytes32 (keccakText sponsorEnrollmentTypehashStr) ++ bytes32 i.intentId
    ++ bytes32 i.deploymentManifestHash ++ bytes32 i.feeTokenConfigHash ++ addressWord i.root
    ++ addressWord i.controller ++ u256Be (fromU64 i.controllerEpoch) ++ addressWord i.secondary
    ++ bytes32 i.enrollDigest ++ bytes32 i.linkDigest ++ bytes32 i.rootAuthorizationDigest
    ++ addressWord i.feeToken ++ u256BeU8 i.feeAuthorizationMode ++ bytes32 i.feeAuthorizationDigest
    ++ u256Be i.maxFee ++ bytes32 i.feeQuoteHash ++ u256Be (fromU64 i.nonce) ++ u256Be
      (fromU64 i.deadline))

/-- What the controller signs. -/
def sponsorEnrollmentDigest (i : SponsorEnrollment) (chainId : Word 64)
    (gateway : Address) : Bytes32 :=
  eip712Digest (eip712DomainSeparator "GoatRelayGateway" "1" chainId gateway)
    (sponsorEnrollmentStructHash i)

/-! ### Are the contract's -/

theorem linkSecondaryStructHash_abi {l : LinkSecondary} {x : StreamG.LinkSecondary}
    (h : l.abi = some x) : linkSecondaryStructHash l = StreamG.linkSecondaryStructHash x := by
  obtain ⟨deadline, hdeadline, heq⟩ := Option.bind_eq_some_iff.mp h
  cases heq
  unfold linkSecondaryStructHash StreamG.linkSecondaryStructHash
  rw [← keccak256_words]
  simp [List.append_assoc, uint48_some hdeadline, widen, linkSecondaryTypehash]

theorem feeQuoteStructHash_abi {q : FeeQuote} {x : StreamG.FeeQuote} (h : q.abi = some x) :
    feeQuoteStructHash q = StreamG.feeQuoteStructHash x := by
  obtain ⟨validAfter, hafter, h⟩ := Option.bind_eq_some_iff.mp h
  obtain ⟨validUntil, huntil, heq⟩ := Option.bind_eq_some_iff.mp h
  cases heq
  unfold feeQuoteStructHash StreamG.feeQuoteStructHash
  rw [← keccak256_words]
  simp [List.append_assoc, uint48_some hafter, uint48_some huntil, widen,
    feeQuoteTypehash, feeQuoteFields, feeQuoteTypehashStr]

theorem sponsorEnrollmentCoreHash_abi {i : SponsorEnrollment} {x : StreamG.SponsorEnrollment}
    (h : i.abi = some x) : sponsorEnrollmentCoreHash i = StreamG.sponsorEnrollmentCoreHash x := by
  obtain ⟨deadline, hdeadline, heq⟩ := Option.bind_eq_some_iff.mp h
  cases heq
  unfold sponsorEnrollmentCoreHash StreamG.sponsorEnrollmentCoreHash
  rw [← keccak256_words]
  simp [List.append_assoc, uint48_some hdeadline, widen, sponsorEnrollmentCoreTypehash,
    sponsorEnrollmentCoreTypehashStr]

theorem sponsorEnrollmentStructHash_abi {i : SponsorEnrollment} {x : StreamG.SponsorEnrollment}
    (h : i.abi = some x) :
    sponsorEnrollmentStructHash i = StreamG.sponsorEnrollmentStructHash x := by
  obtain ⟨deadline, hdeadline, heq⟩ := Option.bind_eq_some_iff.mp h
  cases heq
  unfold sponsorEnrollmentStructHash StreamG.sponsorEnrollmentStructHash
  rw [← keccak256_words]
  simp [List.append_assoc, uint48_some hdeadline, widen, sponsorEnrollmentTypehash,
    sponsorEnrollmentTypehashStr, sponsorEnrollmentFields]

/-! ## Signatures -/

/-- A signature of the client, without white space and a `0x`. -/
def stripHex (s : Text) : Text :=
  match Text.trim s with
  | '0' :: 'x' :: rest => rest
  | '0' :: 'X' :: rest => rest
  | rest => rest

def decodeHexBytes (s : Text) : Option EthSignature := Hex.decode (stripHex s)

/-- Recovery on the curve: the digest, whether `y` is odd, `r` and `s`; `none` if there is no such
key. -/
structure Curve where
  recover : Bytes32 → Bool → Bytes32 → Bytes32 → Option Address

namespace Curve

variable (c : Curve)

/-- `normalize_v`: bare, as in legacy transactions, or with a chain id. -/
def normalizeV (v : Nat) : Option Bool :=
  if v ≤ 1 then some (v = 1)
  else if v = 27 ∨ v = 28 then some (v = 28)
  else if v ≥ 35 then some ((v - 35) % 2 = 1)
  else none

/-- `Signature::try_from` and `recover_address_from_prehash`, of 65 bytes. -/
def recoverAddressFromPrehash (digest : Bytes32) (signature : EthSignature) : Option Address :=
  (normalizeV (signature.getD 64 0).toNat).bind fun odd =>
    c.recover digest odd (wordOfBytes (signature.take 32))
      (wordOfBytes ((signature.drop 32).take 32))

/-- Half of the order of the group. -/
def halfOrder : Nat := 0x7FFFFFFFFFFFFFFFFFFFFFFFFFFFFFFF5D576E7357A4501DDFE92F46681B20A0

/-- `ecrecover` knows two values of `v`. -/
def ecrecoverV (v : Nat) : Option Bool := if v = 27 ∨ v = 28 then some (v = 28) else none

/-- What the contracts recover with: only the lower half of `s`, and no zero address. -/
def openZeppelin : Ecdsa where
  tryRecover digest v r s :=
    if s.val > halfOrder then none
    else ((ecrecoverV v.val).bind fun odd => c.recover digest odd r s).filter (· ≠ 0)

theorem normalizeV_of_ecrecoverV {v : Nat} {odd : Bool} (h : ecrecoverV v = some odd) :
    normalizeV v = some odd := by
  unfold ecrecoverV at h
  split at h
  · rename_i hv
    cases h
    unfold normalizeV
    rw [if_neg (by omega), if_pos hv]
  · cases h

end Curve

/-- A signature that the contracts take apart as the relayer does. -/
structure Canonical (signature : EthSignature) : Prop where
  low : (wordOfBytes ((signature.drop 32).take 32)).val ≤ Curve.halfOrder
  v : (signature.getD 64 0).toNat = 27 ∨ (signature.getD 64 0).toNat = 28

/-- `recovers_to`. -/
def recoversTo (c : Curve) (digest : Bytes32) (signatureHex : Text) (expected : Address) : Bool :=
  match decodeHexBytes signatureHex with
  | none => false
  | some bytes => bytes.length = 65 && c.recoverAddressFromPrehash digest bytes = some expected

/-- **What the contracts recover, the relayer recovers.** -/
theorem recoversTo_of_recover {c : Curve} {digest : Bytes32} {signatureHex : Text}
    {signature : EthSignature}
    (hhex : decodeHexBytes signatureHex = some signature) {signer : Address}
    (h : c.openZeppelin.recover digest signature = .ok signer) :
    recoversTo c digest signatureHex signer = true ∧ Canonical signature ∧ signer ≠ 0 := by
  obtain ⟨_, hlength, h⟩ := bind_ok.mp h
  have hlength := require_ok.mp hlength
  have hv : (Fin.ofNat (2 ^ 8) (signature.getD 64 0).toNat).val = (signature.getD 64 0).toNat :=
    Nat.mod_eq_of_lt (UInt8.toNat_lt _)
  unfold Ecdsa.recoverVrs Curve.openZeppelin at h
  dsimp only at h
  rw [hv] at h
  split at h
  · rename_i signer' hsome
    cases h
    split at hsome
    · cases hsome
    · rename_i hlow
      obtain ⟨hbind, hne⟩ := Option.filter_eq_some_iff.mp hsome
      obtain ⟨odd, hodd, hrecover⟩ := Option.bind_eq_some_iff.mp hbind
      refine ⟨?_, ⟨Nat.not_lt.mp hlow, ?_⟩, of_decide_eq_true hne⟩
      · unfold recoversTo Curve.recoverAddressFromPrehash
        rw [hhex]
        dsimp only
        rw [Curve.normalizeV_of_ecrecoverV hodd, Option.bind_some, hrecover]
        simp [hlength]
      · unfold Curve.ecrecoverV at hodd
        split at hodd
        · assumption
        · cases hodd
  · cases h

/-- **What the relayer recovers from a canonical signature, the contracts recover.** -/
theorem recover_of_recoversTo {c : Curve} {digest : Bytes32} {signatureHex : Text}
    {signature : EthSignature}
    (hhex : decodeHexBytes signatureHex = some signature) {expected : Address}
    (h : recoversTo c digest signatureHex expected = true) (hcanonical : Canonical signature)
    (hne : expected ≠ 0) : c.openZeppelin.recover digest signature = .ok expected := by
  have hv : (Fin.ofNat (2 ^ 8) (signature.getD 64 0).toNat).val = (signature.getD 64 0).toNat :=
    Nat.mod_eq_of_lt (UInt8.toNat_lt _)
  have hodd : Curve.ecrecoverV (signature.getD 64 0).toNat
    = some (decide ((signature.getD 64 0).toNat = 28)) :=
    if_pos hcanonical.v
  unfold recoversTo at h
  rw [hhex] at h
  simp only [Bool.and_eq_true, decide_eq_true_eq] at h
  obtain ⟨hlength, hrecover⟩ := h
  unfold Curve.recoverAddressFromPrehash at hrecover
  rw [Curve.normalizeV_of_ecrecoverV hodd, Option.bind_some] at hrecover
  refine bind_ok.mpr ⟨_, require_of hlength, ?_⟩
  unfold Ecdsa.recoverVrs Curve.openZeppelin
  dsimp only
  rw [hv, if_neg (Nat.not_lt.mpr hcanonical.low), hodd, Option.bind_some, hrecover]
  rw [Option.filter_some, if_pos (decide_eq_true hne)]

end GoatCoin.StreamG.Preflight
