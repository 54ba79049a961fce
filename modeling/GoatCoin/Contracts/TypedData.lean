/-
# `GoatCoin.Contracts.TypedData` — what is signed, after `StreamGTypes.sol` and `StreamGHashes.sol`

A signature is over a digest, the digest over a struct and over the contract that is meant:

    structHash   keccak256 (typehash ‖ one word for each field)
    digest       keccak256 ("\x19\x01" ‖ domain separator ‖ struct hash)

All fields of the structs are static, so `abi.encode` is one word for each.  The curve is not
modelled: `Ecdsa.tryRecover` stands for the precompile, and `recover` takes a signature apart as
the library does.
-/
import GoatCoin.Contracts.Erc20
import GoatCoin.Contracts.Merkle
import GoatCoin.Lib.Utf8

namespace GoatCoin

open Evm

/-! ## EIP-712 and ECDSA -/

/-- The signer of a digest by `v`, `r` and `s`, or `none` where the library reverts. -/
structure Ecdsa where
  tryRecover : Bytes32 → Word 8 → Bytes32 → Bytes32 → Option Address

/-- `bytes calldata signature`. -/
abbrev EthSignature := List UInt8

namespace Ecdsa

variable (e : Ecdsa)

/-- `recover(hash, v, r, s)`. -/
def recoverVrs (digest : Bytes32) (v : Word 8) (r s : Bytes32) : Except Revert Address :=
  match e.tryRecover digest v r s with
  | some signer => .ok signer
  | none => .error .ecdsaInvalidSignature

/-- `recover(hash, signature)`: `r ‖ s ‖ v`. -/
def recover (digest : Bytes32) (signature : EthSignature) : Except Revert Address := do
  require (signature.length = 65) .ecdsaInvalidSignatureLength
  e.recoverVrs digest (Fin.ofNat _ (signature.getD 64 0).toNat) (wordOfBytes (signature.take 32))
    (wordOfBytes ((signature.drop 32).take 32))

end Ecdsa

def abiEncode (words : List Nat) : List UInt8 := words.flatMap abiWord

theorem word_lt {w : Nat} (hw : w ≤ 256) (x : Word w) : x.val < 2 ^ 256 :=
  x.isLt.trans_le (Nat.pow_le_pow_right (by decide) hw)

theorem abiWord_inj {m n : Nat} (hm : m < 2 ^ 256) (hn : n < 2 ^ 256) (h : abiWord m = abiWord n) :
    m = n := by
  have hpow : (256 : Nat) ^ 32 = 2 ^ 256 := by norm_num
  exact Wire.toLE_inj (hpow ▸ hm) (hpow ▸ hn) (List.reverse_injective h)

theorem length_abiEncode (words : List Nat) : (abiEncode words).length = 32 * words.length := by
  induction words with
  | nil => rfl
  | cons m words ih =>
      rw [abiEncode, List.flatMap_cons, List.length_append, length_abiWord, ← abiEncode, ih,
        List.length_cons]
      omega

theorem abiEncode_inj : ∀ {ms ns : List Nat}, (∀ m ∈ ms, m < 2 ^ 256) → (∀ n ∈ ns, n < 2 ^ 256) →
    abiEncode ms = abiEncode ns → ms = ns := by
  intro ms
  induction ms with
  | nil =>
      intro ns _ _ h
      have hlength := congrArg List.length h
      rw [length_abiEncode, length_abiEncode, List.length_nil] at hlength
      exact (List.length_eq_zero_iff.mp (by omega)).symm
  | cons m ms ih =>
      intro ns hms hns h
      cases ns with
      | nil =>
          have hlength := congrArg List.length h
          rw [length_abiEncode, length_abiEncode, List.length_nil, List.length_cons] at hlength
          omega
      | cons n ns =>
          have hlengths : (abiWord m).length = (abiWord n).length := by
            rw [length_abiWord, length_abiWord]
          obtain ⟨hword, hrest⟩ := List.append_inj h hlengths
          have hhead := abiWord_inj (hms m List.mem_cons_self) (hns n List.mem_cons_self) hword
          have htail := ih (fun x hx => hms x (List.mem_cons_of_mem m hx))
            (fun x hx => hns x (List.mem_cons_of_mem n hx)) hrest
          rw [hhead, htail]

def structHash (typehash : Bytes32) (fields : List Nat) : Bytes32 :=
  keccak256 (abiEncode (typehash.val :: fields))

/-- `_hashTypedDataV4`. -/
def hashTypedData (domainSeparator structHash : Bytes32) : Bytes32 :=
  keccak256 (0x19 :: 0x01 :: abiWord domainSeparator.val ++ abiWord structHash.val)

def keccakText (text : String) : Bytes32 := keccak256 text.toUTF8.toList

theorem keccakText_eq (text : String) : keccakText text = keccak256 text.toUTF8.data.toList := by
  rw [keccakText, Utf8.toList_eq]

theorem keccakText_ofList (text : List Char) :
    keccakText (String.ofList text) = keccak256 (text.flatMap String.utf8EncodeChar) := by
  have hbytes : (String.ofList text).toUTF8.data.toList = text.flatMap String.utf8EncodeChar := by
    show text.utf8Encode.data.toList = _
    simp [List.utf8Encode]
  rw [keccakText_eq, hbytes]

def eip712DomainTypehash : Bytes32 := keccakText
  "EIP712Domain(string name,string version,uint256 chainId,address verifyingContract)"

/-- `_domainSeparatorV4`. -/
def domainSeparator (name version : String) (chainId : Uint256) (self : Address) : Bytes32 :=
  structHash eip712DomainTypehash
    [(keccakText name).val, (keccakText version).val, chainId.val, self.val]

namespace StreamG

/-! ## Modes, capabilities and actions -/

/-- The ordinals of `AuthorizationMode`. -/
inductive AuthorizationMode where
  | none
  | eip2612
  | eip3009
  | priorAllowance

def AuthorizationMode.ordinal : AuthorizationMode → Word 8
  | .none => 0
  | .eip2612 => 1
  | .eip3009 => 2
  | .priorAllowance => 3

def capEip2612 : Uint256 := 1
def capEip3009 : Uint256 := 2
def capPriorAllowance : Uint256 := 4
def capSellSplit : Uint256 := 8

def actionSponsoredEnrollment : Bytes32 := keccakText "GOAT_STREAM_G_SPONSORED_ENROLLMENT_V1"
def actionSponsoredSell : Bytes32 := keccakText "GOAT_STREAM_G_SPONSORED_SELL_V1"
def actionGoatTransfer : Bytes32 := keccakText "GOAT_STREAM_G_GOAT_TRANSFER_V1"
def actionUsdtTransfer : Bytes32 := keccakText "GOAT_STREAM_G_USDT_TRANSFER_V1"

/-! ## The structs -/

structure FeeQuote where
  quoteId : Bytes32
  actionType : Bytes32
  actionCoreHash : Bytes32
  deploymentManifestHash : Bytes32
  feeTokenConfigHash : Bytes32
  feeScheduleHash : Bytes32
  payer : Address
  feeToken : Address
  feeAmount : Uint256
  feeRecipient : Address
  validAfter : Word 48
  validUntil : Word 48
deriving DecidableEq

structure LinkSecondary where
  root : Address
  secondary : Address
  nonce : Uint256
  deadline : Word 48

structure RootAuthorization where
  root : Address
  secondary : Address
  enrollDigest : Bytes32
  linkDigest : Bytes32
  nonce : Uint256
  deadline : Word 48
deriving DecidableEq

/-- A struct whose fields are all zero, as `memory` is. -/
def RootAuthorization.zero : RootAuthorization := ⟨0, 0, 0, 0, 0, 0⟩

structure ControllerRotation where
  root : Address
  oldController : Address
  newController : Address
  nonce : Uint256
  deadline : Word 48

structure SponsorEnrollment where
  intentId : Bytes32
  deploymentManifestHash : Bytes32
  feeTokenConfigHash : Bytes32
  root : Address
  controller : Address
  controllerEpoch : Uint256
  secondary : Address
  enrollDigest : Bytes32
  linkDigest : Bytes32
  rootAuthorizationDigest : Bytes32
  feeToken : Address
  feeAuthorizationMode : Word 8
  feeAuthorizationDigest : Bytes32
  maxFee : Uint256
  feeQuoteHash : Bytes32
  nonce : Uint256
  deadline : Word 48
deriving DecidableEq

structure SellIntent where
  intentId : Bytes32
  deploymentManifestHash : Bytes32
  feeTokenConfigHash : Bytes32
  seller : Address
  expectedRoot : Address
  desk : Address
  goatAmount : Uint256
  minNetUsdtOut : Uint256
  goatPermitDigest : Bytes32
  maxFee : Uint256
  feeQuoteHash : Bytes32
  nonce : Uint256
  deadline : Word 48
deriving DecidableEq

structure GoatTransferIntent where
  intentId : Bytes32
  deploymentManifestHash : Bytes32
  feeTokenConfigHash : Bytes32
  owner : Address
  expectedRoot : Address
  recipient : Address
  amount : Uint256
  goatPermitDigest : Bytes32
  feeToken : Address
  feeAuthorizationMode : Word 8
  feeAuthorizationDigest : Bytes32
  maxFee : Uint256
  feeQuoteHash : Bytes32
  nonce : Uint256
  deadline : Word 48
deriving DecidableEq

structure UsdtTransferIntent where
  intentId : Bytes32
  deploymentManifestHash : Bytes32
  feeTokenConfigHash : Bytes32
  owner : Address
  expectedRoot : Address
  token : Address
  recipient : Address
  amount : Uint256
  authorizationMode : Word 8
  transferAuthorizationDigest : Bytes32
  maxFee : Uint256
  feeQuoteHash : Bytes32
  nonce : Uint256
  deadline : Word 48
deriving DecidableEq

structure PriorAllowanceAuthorization where
  intentId : Bytes32
  actionType : Bytes32
  owner : Address
  token : Address
  spender : Address
  value : Uint256
  nonce : Uint256
  deadline : Word 48

structure FeeTokenConfig where
  chainId : Uint256
  token : Address
  runtimeCodeHash : Bytes32
  proxyIdentityHash : Bytes32
  capabilityMask : Uint256
  decimals : Word 8
  domainNameHash : Bytes32
  domainVersionHash : Bytes32
  builtInModeId : Bytes32
  configVersion : Word 64
  active : Bool

/-- The nonce is the signed one; the registry is not told it. -/
structure V1Enrollment where
  wallet : Address
  nonce : Uint256
  deadline : Uint256
  signature : EthSignature

/-- A permit. -/
structure Eip2612Authorization where
  owner : Address
  spender : Address
  value : Uint256
  deadline : Uint256
  v : Word 8
  r : Bytes32
  s : Bytes32

structure Eip3009Authorization where
  src : Address
  dst : Address
  value : Uint256
  validAfter : Uint256
  validBefore : Uint256
  nonce : Bytes32
  v : Word 8
  r : Bytes32
  s : Bytes32

/-- The mode says which of the payloads is meant. -/
structure TokenAuthorization where
  mode : Word 8
  eip2612 : Eip2612Authorization
  eip3009 : Eip3009Authorization
  priorAllowance : PriorAllowanceAuthorization
  priorAllowanceSignature : EthSignature

/-! ## The struct hashes -/

def feeQuoteTypehash : Bytes32 := keccakText
  "FeeQuote(bytes32 quoteId,bytes32 actionType,bytes32 actionCoreHash,bytes32 deploymentManifestHash,bytes32 feeTokenConfigHash,bytes32 feeScheduleHash,address payer,address feeToken,uint256 feeAmount,address feeRecipient,uint48 validAfter,uint48 validUntil)"

def sponsorEnrollmentCoreTypehash : Bytes32 := keccakText
  "SponsorEnrollmentCore(bytes32 intentId,bytes32 deploymentManifestHash,bytes32 feeTokenConfigHash,address root,address controller,uint256 controllerEpoch,address secondary,bytes32 enrollDigest,bytes32 linkDigest,bytes32 rootAuthorizationDigest,address feeToken,uint8 feeAuthorizationMode,uint256 maxFee,uint256 nonce,uint48 deadline)"

def sellCoreTypehash : Bytes32 := keccakText
  "SellCore(bytes32 intentId,bytes32 deploymentManifestHash,bytes32 feeTokenConfigHash,address seller,address expectedRoot,address desk,uint256 goatAmount,uint256 minNetUsdtOut,bytes32 goatPermitDigest,uint256 maxFee,uint256 nonce,uint48 deadline)"

def goatTransferCoreTypehash : Bytes32 := keccakText
  "GoatTransferCore(bytes32 intentId,bytes32 deploymentManifestHash,bytes32 feeTokenConfigHash,address owner,address expectedRoot,address recipient,uint256 amount,bytes32 goatPermitDigest,address feeToken,uint8 feeAuthorizationMode,uint256 maxFee,uint256 nonce,uint48 deadline)"

def usdtTransferCoreTypehash : Bytes32 := keccakText
  "UsdtTransferCore(bytes32 intentId,bytes32 deploymentManifestHash,bytes32 feeTokenConfigHash,address owner,address expectedRoot,address token,address recipient,uint256 amount,uint8 authorizationMode,uint256 maxFee,uint256 nonce,uint48 deadline)"

def linkSecondaryTypehash : Bytes32 := keccakText
  "LinkSecondary(address root,address secondary,uint256 nonce,uint48 deadline)"

def rootAuthorizationTypehash : Bytes32 := keccakText
  "RootAuthorization(address root,address secondary,bytes32 enrollDigest,bytes32 linkDigest,uint256 nonce,uint48 deadline)"

def sponsorEnrollmentTypehash : Bytes32 := keccakText
  "SponsorEnrollment(bytes32 intentId,bytes32 deploymentManifestHash,bytes32 feeTokenConfigHash,address root,address controller,uint256 controllerEpoch,address secondary,bytes32 enrollDigest,bytes32 linkDigest,bytes32 rootAuthorizationDigest,address feeToken,uint8 feeAuthorizationMode,bytes32 feeAuthorizationDigest,uint256 maxFee,bytes32 feeQuoteHash,uint256 nonce,uint48 deadline)"

def sellIntentTypehash : Bytes32 := keccakText
  "SellIntent(bytes32 intentId,bytes32 deploymentManifestHash,bytes32 feeTokenConfigHash,address seller,address expectedRoot,address desk,uint256 goatAmount,uint256 minNetUsdtOut,bytes32 goatPermitDigest,uint256 maxFee,bytes32 feeQuoteHash,uint256 nonce,uint48 deadline)"

def goatTransferIntentTypehash : Bytes32 := keccakText
  "GoatTransferIntent(bytes32 intentId,bytes32 deploymentManifestHash,bytes32 feeTokenConfigHash,address owner,address expectedRoot,address recipient,uint256 amount,bytes32 goatPermitDigest,address feeToken,uint8 feeAuthorizationMode,bytes32 feeAuthorizationDigest,uint256 maxFee,bytes32 feeQuoteHash,uint256 nonce,uint48 deadline)"

def usdtTransferIntentTypehash : Bytes32 := keccakText
  "UsdtTransferIntent(bytes32 intentId,bytes32 deploymentManifestHash,bytes32 feeTokenConfigHash,address owner,address expectedRoot,address token,address recipient,uint256 amount,uint8 authorizationMode,bytes32 transferAuthorizationDigest,uint256 maxFee,bytes32 feeQuoteHash,uint256 nonce,uint48 deadline)"

def priorAllowanceAuthorizationTypehash : Bytes32 := keccakText
  "PriorAllowanceAuthorization(bytes32 intentId,bytes32 actionType,address owner,address token,address spender,uint256 value,uint256 nonce,uint48 deadline)"

def controllerRotationTypehash : Bytes32 := keccakText
  "ControllerRotation(address root,address oldController,address newController,uint256 nonce,uint48 deadline)"

def feeTokenConfigTypehash : Bytes32 := keccakText
  "FeeTokenConfig(uint256 chainId,address token,bytes32 runtimeCodeHash,bytes32 proxyIdentityHash,uint256 capabilityMask,uint8 decimals,bytes32 domainNameHash,bytes32 domainVersionHash,bytes32 builtInModeId,uint64 configVersion,bool active)"

def eip2612PermitTypehash : Bytes32 := keccakText
  "Permit(address owner,address spender,uint256 value,uint256 nonce,uint256 deadline)"

def eip3009ReceiveWithAuthorizationTypehash : Bytes32 := keccakText
  "ReceiveWithAuthorization(address from,address to,uint256 value,uint256 validAfter,uint256 validBefore,bytes32 nonce)"

def enrollTypehash : Bytes32 := keccakText "Enroll(address wallet,uint256 nonce,uint256 deadline)"

def feeQuoteFields (quote : FeeQuote) : List Nat :=
  [quote.quoteId.val, quote.actionType.val, quote.actionCoreHash.val,
   quote.deploymentManifestHash.val, quote.feeTokenConfigHash.val, quote.feeScheduleHash.val,
   quote.payer.val, quote.feeToken.val, quote.feeAmount.val, quote.feeRecipient.val,
   quote.validAfter.val, quote.validUntil.val]

def feeQuoteStructHash (quote : FeeQuote) : Bytes32 :=
  structHash feeQuoteTypehash (feeQuoteFields quote)

def sponsorEnrollmentFields (intent : SponsorEnrollment) : List Nat :=
  [intent.intentId.val, intent.deploymentManifestHash.val, intent.feeTokenConfigHash.val,
   intent.root.val, intent.controller.val, intent.controllerEpoch.val, intent.secondary.val,
   intent.enrollDigest.val, intent.linkDigest.val, intent.rootAuthorizationDigest.val,
   intent.feeToken.val, intent.feeAuthorizationMode.val, intent.feeAuthorizationDigest.val,
   intent.maxFee.val, intent.feeQuoteHash.val, intent.nonce.val, intent.deadline.val]

def sponsorEnrollmentStructHash (intent : SponsorEnrollment) : Bytes32 :=
  structHash sponsorEnrollmentTypehash (sponsorEnrollmentFields intent)

def sponsorEnrollmentCoreHash (intent : SponsorEnrollment) : Bytes32 :=
  structHash sponsorEnrollmentCoreTypehash
    [intent.intentId.val, intent.deploymentManifestHash.val, intent.feeTokenConfigHash.val,
     intent.root.val, intent.controller.val, intent.controllerEpoch.val, intent.secondary.val,
     intent.enrollDigest.val, intent.linkDigest.val, intent.rootAuthorizationDigest.val,
     intent.feeToken.val, intent.feeAuthorizationMode.val, intent.maxFee.val, intent.nonce.val,
     intent.deadline.val]

def sellCoreHash (intent : SellIntent) : Bytes32 :=
  structHash sellCoreTypehash
    [intent.intentId.val, intent.deploymentManifestHash.val, intent.feeTokenConfigHash.val,
     intent.seller.val, intent.expectedRoot.val, intent.desk.val, intent.goatAmount.val,
     intent.minNetUsdtOut.val, intent.goatPermitDigest.val, intent.maxFee.val, intent.nonce.val,
     intent.deadline.val]

def sellIntentFields (intent : SellIntent) : List Nat :=
  [intent.intentId.val, intent.deploymentManifestHash.val, intent.feeTokenConfigHash.val,
   intent.seller.val, intent.expectedRoot.val, intent.desk.val, intent.goatAmount.val,
   intent.minNetUsdtOut.val, intent.goatPermitDigest.val, intent.maxFee.val,
   intent.feeQuoteHash.val, intent.nonce.val, intent.deadline.val]

def sellIntentStructHash (intent : SellIntent) : Bytes32 :=
  structHash sellIntentTypehash (sellIntentFields intent)

def goatTransferCoreHash (intent : GoatTransferIntent) : Bytes32 :=
  structHash goatTransferCoreTypehash
    [intent.intentId.val, intent.deploymentManifestHash.val, intent.feeTokenConfigHash.val,
     intent.owner.val, intent.expectedRoot.val, intent.recipient.val, intent.amount.val,
     intent.goatPermitDigest.val, intent.feeToken.val, intent.feeAuthorizationMode.val,
     intent.maxFee.val, intent.nonce.val, intent.deadline.val]

def goatTransferIntentFields (intent : GoatTransferIntent) : List Nat :=
  [intent.intentId.val, intent.deploymentManifestHash.val, intent.feeTokenConfigHash.val,
   intent.owner.val, intent.expectedRoot.val, intent.recipient.val, intent.amount.val,
   intent.goatPermitDigest.val, intent.feeToken.val, intent.feeAuthorizationMode.val,
   intent.feeAuthorizationDigest.val, intent.maxFee.val, intent.feeQuoteHash.val,
   intent.nonce.val, intent.deadline.val]

def goatTransferIntentStructHash (intent : GoatTransferIntent) : Bytes32 :=
  structHash goatTransferIntentTypehash (goatTransferIntentFields intent)

def usdtTransferCoreHash (intent : UsdtTransferIntent) : Bytes32 :=
  structHash usdtTransferCoreTypehash
    [intent.intentId.val, intent.deploymentManifestHash.val, intent.feeTokenConfigHash.val,
     intent.owner.val, intent.expectedRoot.val, intent.token.val, intent.recipient.val,
     intent.amount.val, intent.authorizationMode.val, intent.maxFee.val, intent.nonce.val,
     intent.deadline.val]

def usdtTransferIntentFields (intent : UsdtTransferIntent) : List Nat :=
  [intent.intentId.val, intent.deploymentManifestHash.val, intent.feeTokenConfigHash.val,
   intent.owner.val, intent.expectedRoot.val, intent.token.val, intent.recipient.val,
   intent.amount.val, intent.authorizationMode.val, intent.transferAuthorizationDigest.val,
   intent.maxFee.val, intent.feeQuoteHash.val, intent.nonce.val, intent.deadline.val]

def usdtTransferIntentStructHash (intent : UsdtTransferIntent) : Bytes32 :=
  structHash usdtTransferIntentTypehash (usdtTransferIntentFields intent)

def linkSecondaryStructHash (link : LinkSecondary) : Bytes32 :=
  structHash linkSecondaryTypehash
    [link.root.val, link.secondary.val, link.nonce.val, link.deadline.val]

def rootAuthorizationStructHash (auth : RootAuthorization) : Bytes32 :=
  structHash rootAuthorizationTypehash
    [auth.root.val, auth.secondary.val, auth.enrollDigest.val, auth.linkDigest.val, auth.nonce.val,
     auth.deadline.val]

def controllerRotationStructHash (rotation : ControllerRotation) : Bytes32 :=
  structHash controllerRotationTypehash
    [rotation.root.val, rotation.oldController.val, rotation.newController.val, rotation.nonce.val,
     rotation.deadline.val]

def priorAllowanceStructHash (p : PriorAllowanceAuthorization) : Bytes32 :=
  structHash priorAllowanceAuthorizationTypehash
    [p.intentId.val, p.actionType.val, p.owner.val, p.token.val, p.spender.val, p.value.val,
     p.nonce.val, p.deadline.val]

def enrollStructHash (wallet : Address) (nonce deadline : Nat) : Bytes32 :=
  structHash enrollTypehash [wallet.val, nonce, deadline]

end StreamG

end GoatCoin
