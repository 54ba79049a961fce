/-
# `GoatCoin.StreamG.ChainReading` — the chain that the preflight reads, and the call that is sent

An honest node answers with what the contracts hold at the block (`chainAt`), as far as it fits the
types of the relayer.  What was read is then known (`reads`):

    snapshot     the words of the gateway, of a root and a secondary that are not zero
    liveToken    the registry's entry of the fee token
    chainNow     the clock of the block

`sponsored_enrollment_calldata` writes the call; a timestamp beyond 48 bits is refused where the
call is decoded.
-/
import GoatCoin.Contracts.EnrollmentFrontRun
import GoatCoin.StreamG.Preflight

namespace GoatCoin.StreamG.Preflight

open Evm Attestor StreamGCommon

/-! ## The call that is sent -/

/-- The arms that the call does not carry are zero. -/
def tokenAuthorization (mode : Word 8) (eip2612 : Eip2612Authorization) : TokenAuthorization where
  mode
  eip2612 := eip2612.abi
  eip3009 := ⟨0, 0, 0, 0, 0, 0, 0, 0, 0⟩
  priorAllowance := ⟨0, 0, 0, 0, 0, 0, 0, 0⟩
  priorAllowanceSignature := []

def V1Enrollment.abi (v : V1Enrollment) (signature : EthSignature) : StreamG.V1Enrollment :=
  ⟨v.wallet, widen word64_le v.nonce, widen word64_le v.deadline, signature⟩

/-- `sponsored_enrollment_calldata`, decoded by the gateway. -/
def SponsoredEnrollmentCall.onChain (call : SponsoredEnrollmentCall) : Option EnrollmentCall := do
  let sponsorSignature ← decodeHexBytes call.sponsorSignatureHex
  let quoteSignature ← decodeHexBytes call.quoteSignatureHex
  let linkSignature ← decodeHexBytes call.linkSignatureHex
  let rootAuthorizationSignature ← decodeHexBytes call.rootAuthorizationSignatureHex
  let v1Signature ← decodeHexBytes call.v1Enrollment.signatureHex
  let intent ← call.intent.abi
  let quote ← call.quote.abi
  let link ← call.link.abi
  let rootAuthorization ← call.rootAuthorization.abi
  return ⟨intent, quote, call.v1Enrollment.abi v1Signature, link, rootAuthorization,
    tokenAuthorization call.feeAuthorizationMode call.feeEip2612Authorization,
    sponsorSignature, quoteSignature, linkSignature, rootAuthorizationSignature⟩

/-- What is sent is what was checked. -/
structure Sends (call : SponsoredEnrollmentCall) (x : EnrollmentCall) : Prop where
  sponsorSignature : decodeHexBytes call.sponsorSignatureHex = some x.sponsorSignature
  quoteSignature : decodeHexBytes call.quoteSignatureHex = some x.quoteSignature
  linkSignature : decodeHexBytes call.linkSignatureHex = some x.linkSignature
  rootAuthorizationSignature :
    decodeHexBytes call.rootAuthorizationSignatureHex = some x.rootAuthorizationSignature
  v1Signature : decodeHexBytes call.v1Enrollment.signatureHex = some x.v1Enrollment.signature
  intent : call.intent.abi = some x.intent
  quote : call.quote.abi = some x.quote
  v1Enrollment : x.v1Enrollment = call.v1Enrollment.abi x.v1Enrollment.signature
  link : call.link.abi = some x.link
  rootAuthorization : call.rootAuthorization.abi = some x.rootAuthorization
  feeAuthorization :
    x.feeAuthorization = tokenAuthorization call.feeAuthorizationMode call.feeEip2612Authorization

theorem onChain_some {call : SponsoredEnrollmentCall} {x : EnrollmentCall} : call.onChain = some x
    ↔ Sends call x := by
  constructor
  · intro h
    obtain ⟨sponsorSignature, hsponsor, h⟩ := Option.bind_eq_some_iff.mp h
    obtain ⟨quoteSignature, hquoteSignature, h⟩ := Option.bind_eq_some_iff.mp h
    obtain ⟨linkSignature, hlinkSignature, h⟩ := Option.bind_eq_some_iff.mp h
    obtain ⟨rootSignature, hroot, h⟩ := Option.bind_eq_some_iff.mp h
    obtain ⟨v1Signature, hv1, h⟩ := Option.bind_eq_some_iff.mp h
    obtain ⟨intent, hintent, h⟩ := Option.bind_eq_some_iff.mp h
    obtain ⟨quote, hquote, h⟩ := Option.bind_eq_some_iff.mp h
    obtain ⟨link, hlink, h⟩ := Option.bind_eq_some_iff.mp h
    obtain ⟨rootAuthorization, hrootAuthorization, h⟩ := Option.bind_eq_some_iff.mp h
    cases h
    exact ⟨hsponsor, hquoteSignature, hlinkSignature, hroot, hv1, hintent, hquote, rfl, hlink,
      hrootAuthorization, rfl⟩
  · intro h
    obtain ⟨intent, quote, v1Enrollment, link, rootAuthorization, feeAuthorization,
      sponsorSignature, quoteSignature, linkSignature, rootAuthorizationSignature⟩ := x
    obtain ⟨hsponsor, hquoteSignature, hlinkSignature, hroot, hv1, hintent, hquote,
      henrollment, hlink, hrootAuthorization, hfee⟩ := h
    dsimp only at *
    unfold SponsoredEnrollmentCall.onChain
    rw [hsponsor, hquoteSignature, hlinkSignature, hroot, hv1, hintent, hquote, hlink,
      hrootAuthorization, hfee]
    simp only [Option.bind_eq_bind, Option.bind_some, Option.pure_def]
    rw [← henrollment]

/-! ## An honest node -/

/-- An answer, or that it does not fit. -/
def fits {α : Type} (answer : Option α) : Except String α :=
  match answer with
  | some a => .ok a
  | none => .error "refusing to truncate"

theorem fits_ok {α : Type} {answer : Option α} {a : α} : fits answer = .ok a ↔ answer = some a := by
  cases answer with
  | none =>
      constructor
      · rintro ⟨⟩
      · rintro ⟨⟩
  | some b =>
      constructor
      · rintro ⟨⟩
        rfl
      · rintro ⟨⟩
        rfl

/-- The contract is at this address. -/
def located {α : Type} (expected asked : Address) (answer : Except String α) : Except String α :=
  if asked = expected then answer else .error "execution reverted"

/-- The chain at a block that has the state `g`, `w`. -/
def chainAt (d : RelaySite) (g : GoatRelayGateway) (w : World) (block : Word 64) : ChainClient where
  pinnedBlockNumber := .ok block
  chainId := fits (narrow 64 w.site.chainId.val)
  feeTokenCodeHash token _ :=
    if w.site.codehash token = 0 ∨ w.site.codehash token = keccak256 [] then .error "empty code"
    else .ok (w.site.codehash token)
  feeTokenConfig registry token _ :=
    located d.config.feeTokenRegistry registry
      (fits (decodeFeeTokenConfig (w.fees.tokenConfigs token)))
  feeTokenConfigHash registry token _ :=
    located d.config.feeTokenRegistry registry (.ok (w.fees.tokenConfigHashes token))
  activeManifestHash registry _ :=
    located d.config.feeTokenRegistry registry (.ok w.fees.activeManifestHash)
  secondaryEnrollmentNonceSnapshot gateway root secondary feeToken block :=
    located d.config.self gateway (fits (decodeNonceSnapshot
      (g.secondaryEnrollmentNonceSnapshot d.config w block root secondary feeToken)))
  erc2612Nonces token owner _ :=
    -- a token without permits has no `nonces`
    if (w.tokens token).permits = true then fits (narrow 64 ((w.tokens token).nonces owner))
    else .error "execution reverted"
  blockTimestampAt _ := fits (narrow 64 w.now)

theorem located_ok {α : Type} {expected asked : Address} {answer : Except String α} {a : α}
    (h : located expected asked answer = .ok a) : asked = expected ∧ answer = .ok a := by
  unfold located at h
  split at h
  · rename_i heq
    exact ⟨heq, h⟩
  · cases h

theorem mapError_ok {α : Type} {f : String → PreflightError} {answer : Except String α} {a : α} :
    answer.mapError f = .ok a ↔ answer = .ok a := by
  cases answer with
  | error what =>
      constructor
      · rintro ⟨⟩
      · rintro ⟨⟩
  | ok b =>
      constructor
      · rintro ⟨⟩
        rfl
      · rintro ⟨⟩
        rfl

/-! ## What was read -/

/-- The state of the relayer is the chain's. -/
structure Mirrors (d : RelaySite) (g : GoatRelayGateway) (w : World) (manifest : DeploymentManifest)
    (state : LivePreflightState) : Prop where
  gateway : state.gateway = manifest.goatRelayGateway
  named : manifest.goatRelayGateway = d.config.self
  registry : state.registry = manifest.feeTokenRegistry
  feeToken : state.queriedFeeToken = manifest.feeToken
  chainId : state.liveToken.liveChainId.val = w.site.chainId.val
  now : state.chainNow.val = w.now
  manifestHash : state.activeManifestHash = w.fees.activeManifestHash
  authorized : w.fees.IsAuthorized w.site manifest.feeToken capEip2612
  configHash : state.liveToken.feeTokenConfigHash = w.fees.tokenConfigHashes manifest.feeToken
  permits : (w.tokens manifest.feeToken).permits = true
  controller : state.snapshot.controller = w.wallets.controllerOf state.queriedRoot
  epoch : state.snapshot.controllerEpoch.val = w.wallets.controllerEpoch state.queriedRoot
  actionNonce : state.snapshot.controller ≠ 0 →
    state.snapshot.actionNonce.val = g.actionNonces state.snapshot.controller
      actionSponsoredEnrollment
  snapshotManifest : state.snapshot.deploymentManifestHash = w.fees.activeManifestHash
  schedule : state.snapshot.feeScheduleHash = g.feeScheduleHash
  v1Nonce : state.liveNonces.v1EnrollNonce.val = w.v1.nonces state.queriedSecondary
  linkNonce : state.liveNonces.linkNonce.val = w.wallets.linkNonces state.queriedSecondary

section
variable {d : RelaySite} {g : GoatRelayGateway} {w : World} {block : Word 64}
  {manifest : DeploymentManifest} {root secondary feeToken : Address} {state : LivePreflightState}

theorem snapshot_bits (s : NonceSnapshot)
    (h : s = g.secondaryEnrollmentNonceSnapshot d.config w block root secondary feeToken) :
    (s.presentMask &&& snapFeeTokenPermitNonce ≠ 0 → w.fees.IsAuthorized w.site feeToken capEip2612)
      ∧ (s.presentMask &&& snapLinkNonce ≠ 0 → secondary ≠ 0)
      ∧ (s.presentMask &&& snapController ≠ 0 → root ≠ 0) := by
  subst h
  refine ⟨fun hbit => ?_, fun hbit => ?_, fun hbit => ?_⟩
  · by_contra hnot
    refine hbit ?_
    have hunauthorized : ¬ (feeToken ≠ 0 ∧ w.fees.IsAuthorized w.site feeToken capEip2612) :=
      fun h => hnot h.2
    show (snapActionNonce ||| snapV1EnrollNonce ||| _ ||| _ ||| snapGoatPermitNonce
      ||| snapConfigHashes
      ||| (if feeToken ≠ 0
        ∧ w.fees.IsAuthorized w.site feeToken capEip2612 then snapFeeTokenPermitNonce else 0))
      &&& snapFeeTokenPermitNonce = 0
    rw [if_neg hunauthorized]
    split <;> split <;> decide
  · by_contra hnot
    refine hbit ?_
    show (snapActionNonce ||| snapV1EnrollNonce
      ||| (if secondary ≠ 0 then snapLinkNonce else 0) ||| _
      ||| snapGoatPermitNonce ||| snapConfigHashes ||| _) &&& snapLinkNonce = 0
    rw [if_neg (not_not.mpr hnot)]
    split <;> split <;> decide
  · by_contra hnot
    refine hbit ?_
    show (snapActionNonce ||| snapV1EnrollNonce ||| _
      ||| (if root ≠ 0 then snapRootRegNonce ||| snapRotationNonce ||| snapController else 0)
      ||| snapGoatPermitNonce ||| snapConfigHashes ||| _) &&& snapController = 0
    rw [if_neg (not_not.mpr hnot)]
    split <;> split <;> decide

variable {view : NonceSnapshotView}

theorem decodeNonceSnapshot_ok (hroot : root ≠ 0) (hsecondary : secondary ≠ 0)
    (h : decodeNonceSnapshot
      (g.secondaryEnrollmentNonceSnapshot d.config w block root secondary feeToken) = some view) :
    view.controller = w.wallets.controllerOf root
      ∧ view.controllerEpoch.val = w.wallets.controllerEpoch root
      ∧ (view.controller ≠ 0 →
        view.actionNonce.val = g.actionNonces view.controller actionSponsoredEnrollment)
      ∧ view.deploymentManifestHash = w.fees.activeManifestHash
      ∧ view.feeScheduleHash = g.feeScheduleHash
      ∧ view.v1EnrollNonce.val = w.v1.nonces secondary
      ∧ view.linkNonce.val = w.wallets.linkNonces secondary := by
  obtain ⟨actionNonce, haction, h⟩ := Option.bind_eq_some_iff.mp h
  obtain ⟨v1EnrollNonce, hv1, h⟩ := Option.bind_eq_some_iff.mp h
  obtain ⟨linkNonce, hlink, h⟩ := Option.bind_eq_some_iff.mp h
  obtain ⟨_, -, h⟩ := Option.bind_eq_some_iff.mp h
  obtain ⟨_, -, h⟩ := Option.bind_eq_some_iff.mp h
  obtain ⟨controllerEpoch, hepoch, h⟩ := Option.bind_eq_some_iff.mp h
  obtain ⟨_, -, h⟩ := Option.bind_eq_some_iff.mp h
  obtain ⟨_, -, h⟩ := Option.bind_eq_some_iff.mp h
  cases h
  have hcontroller :
    (g.secondaryEnrollmentNonceSnapshot d.config w block root secondary feeToken).controller
      = w.wallets.controllerOf root := if_pos hroot
  refine ⟨hcontroller, (narrow_some hepoch).trans (if_pos hroot), fun hset => ?_, rfl, rfl, ?_,
    (narrow_some hlink).trans (if_pos hsecondary)⟩
  · dsimp only at hset ⊢
    rw [hcontroller] at hset ⊢
    rw [narrow_some haction]
    show g.actionNonces
      (if w.wallets.controllerOf root = 0 then root else w.wallets.controllerOf root) _ = _
    rw [if_neg hset]
  · rw [narrow_some hv1]
    show w.v1.nonces (if secondary = 0 then _ else secondary) = w.v1.nonces secondary
    rw [if_neg hsecondary]

/-- The bits are not changed on the way. -/
theorem decodeNonceSnapshot_mask {s : NonceSnapshot} (h : decodeNonceSnapshot s = some view) :
    view.presentMask = s.presentMask := by
  obtain ⟨_, -, h⟩ := Option.bind_eq_some_iff.mp h
  obtain ⟨_, -, h⟩ := Option.bind_eq_some_iff.mp h
  obtain ⟨_, -, h⟩ := Option.bind_eq_some_iff.mp h
  obtain ⟨_, -, h⟩ := Option.bind_eq_some_iff.mp h
  obtain ⟨_, -, h⟩ := Option.bind_eq_some_iff.mp h
  obtain ⟨_, -, h⟩ := Option.bind_eq_some_iff.mp h
  obtain ⟨_, -, h⟩ := Option.bind_eq_some_iff.mp h
  obtain ⟨_, -, h⟩ := Option.bind_eq_some_iff.mp h
  cases h
  rfl

theorem narrowNonce_ok {value : Word 128} {field : String} {n : Word 64}
    (h : narrowNonce value field = .ok n) : n.val = value.val := by
  unfold narrowNonce at h
  split at h
  · rename_i hn
    cases h
    exact narrow_some hn
  · cases h

theorem fromSnapshot_ok {nonces : LiveEnrollmentNonces} (h : fromSnapshot view = .ok nonces) :
    view.presentMask &&& snapFeeTokenPermitNonce ≠ 0 ∧ view.presentMask &&& snapLinkNonce ≠ 0
      ∧ nonces.v1EnrollNonce.val = view.v1EnrollNonce.val
      ∧ nonces.linkNonce.val = view.linkNonce.val := by
  obtain ⟨_, hpermit, _, -, _, hlink, _, -, h⟩ := bind_ok₄.mp h
  obtain ⟨v1EnrollNonce, hv1, linkNonce, hnonce, h⟩ := bind_ok₂.mp h
  cases h
  exact ⟨require_ok.mp hpermit, require_ok.mp hlink, narrowNonce_ok hv1, narrowNonce_ok hnonce⟩

theorem readLiveTokenState_ok {registry token : Address} {reading : LiveTokenReading}
    (h : readLiveTokenState (chainAt d g w block) registry token block = .ok reading) :
    reading.liveChainId.val = w.site.chainId.val
    ∧ reading.feeTokenConfigHash = w.fees.tokenConfigHashes token := by
  obtain ⟨liveChainId, hchain, _, -, _, -, hash, hhash, h⟩ := bind_ok₄.mp h
  obtain ⟨_, -, _, -, _, -, h⟩ := bind_ok₃.mp h
  cases h
  obtain ⟨-, hhash⟩ := located_ok (mapError_ok.mp hhash)
  cases hhash
  exact ⟨narrow_some (fits_ok.mp (mapError_ok.mp hchain)), rfl⟩

/-- **What was read from an honest node is the chain's.** -/
theorem mirrors_of_read
    (h : readLivePreflightState (chainAt d g w block) manifest root secondary = .ok state) :
    Mirrors d g w manifest state := by
  obtain ⟨block', hblock, h⟩ := bind_ok.mp h
  cases mapError_ok.mp hblock
  obtain ⟨liveToken, htoken, _, -, activeManifestHash, hmanifest, snapshot, hsnapshot, h⟩ :=
    bind_ok₄.mp h
  obtain ⟨liveNonces, hnonces, _, hcontroller, _, -, _, -, h⟩ := bind_ok₄.mp h
  obtain ⟨permitNonce, hpermit, _, -, chainNow, hnow, _, -, h⟩ := bind_ok₄.mp h
  cases h
  obtain ⟨hchain, hconfig⟩ := readLiveTokenState_ok htoken
  obtain ⟨-, hmanifest⟩ := located_ok (mapError_ok.mp hmanifest)
  cases hmanifest
  obtain ⟨hnamed, hsnapshot⟩ := located_ok (mapError_ok.mp hsnapshot)
  have hdecoded := fits_ok.mp hsnapshot
  obtain ⟨hpermitBit, hlinkBit, hv1, hlink⟩ := fromSnapshot_ok hnonces
  obtain ⟨hauthorized, hsecondary, hroot⟩ := snapshot_bits _ rfl
  rw [decodeNonceSnapshot_mask hdecoded] at hpermitBit hlinkBit hcontroller
  obtain ⟨hcontroller', hepoch, haction, hmanifestHash, hschedule, hv1', hlink'⟩ :=
    decodeNonceSnapshot_ok (hroot (require_ok.mp hcontroller)) (hsecondary hlinkBit) hdecoded
  have hpermits : (w.tokens manifest.feeToken).permits = true := by
    have hanswer := mapError_ok.mp hpermit
    unfold chainAt at hanswer
    dsimp only at hanswer
    split at hanswer
    · assumption
    · cases hanswer
  exact
    { gateway := rfl
      named := hnamed
      registry := rfl
      feeToken := rfl
      chainId := hchain
      now := narrow_some (fits_ok.mp (mapError_ok.mp hnow))
      manifestHash := rfl
      authorized := hauthorized hpermitBit
      configHash := hconfig
      permits := hpermits
      controller := hcontroller'
      epoch := hepoch
      actionNonce := haction
      snapshotManifest := hmanifestHash
      schedule := hschedule
      v1Nonce := hv1.trans hv1'
      linkNonce := hlink.trans hlink' }

end

/-! ## A reading -/

theorem feeTokenConfigHash_decode {cfg : FeeTokenConfig} {capability : TokenCapability}
    (h : decodeFeeTokenConfig cfg = some capability) :
    feeTokenConfigHash capability = FeeTokenRegistry.hashConfig cfg := by
  obtain ⟨chainId, hchain, h⟩ := Option.bind_eq_some_iff.mp h
  obtain ⟨capabilityMask, hmask, h⟩ := Option.bind_eq_some_iff.mp h
  cases h
  unfold feeTokenConfigHash FeeTokenRegistry.hashConfig
  rw [← keccak256_words]
  cases cfg.active with
  | false =>
      simp [List.append_assoc, narrow_some hchain, narrow_some hmask, feeTokenConfigTypehashStr,
        feeTokenConfigTypehash]
  | true =>
      simp [List.append_assoc, narrow_some hchain, narrow_some hmask, feeTokenConfigTypehashStr,
        feeTokenConfigTypehash]

/-- The signer of a sample's signature is its `r`. -/
def sampleCurve : Curve := ⟨fun _ _ r _ => some (Fin.ofNat _ r.val)⟩

def sampleManifest : DeploymentManifest where
  chainId := 1
  enrollmentRegistry := 21
  feeToken := 27
  feeTokenRegistry := 22
  walletSponsorshipRegistry := 23
  goatRelayGateway := 20
  feeSafe := 25
  quoteSigner := 8

def sampleSite : RelaySite := ⟨sampleRelayConfig, sampleCurve.openZeppelin⟩

/-- The block 100 is read for the root 5 and the wallet 7, which is not enrolled. -/
def sampleState : LivePreflightState where
  liveToken :=
    { queriedToken := 27
      liveChainId := 1
      observedCodeHash := 77
      capability := ⟨1, 27, 77, 0, 15, 18, 0, 0, 0, 1, true⟩
      feeTokenConfigHash := FeeTokenRegistry.hashConfig (sampleFeeConfig 27 18)
      block := 100 }
  liveNonces := ⟨0, 0, 100, FeeTokenRegistry.hashConfig (sampleFeeConfig 27 18)⟩
  snapshot :=
    ⟨100, 0, 0, 0, 0, 0, 0, 5, 0, 0, 511, 50,
      FeeTokenRegistry.hashConfig (sampleFeeConfig 27 18), 70⟩
  activeManifestHash := 50
  chainNow := 10
  feeTokenPermitNonce := 0
  block := 100
  gateway := 20
  registry := 22
  queriedRoot := 5
  queriedSecondary := 7
  queriedFeeToken := 27

theorem sampleCode_ne : ¬ ((77 : Bytes32) = 0 ∨ (77 : Bytes32) = keccak256 []) := by
  rw [keccak256_eval]
  decide +kernel

theorem sampleAuthorized : (27 : Address) ≠ 0
    ∧ sampleUnenrolled.fees.IsAuthorized sampleUnenrolled.site 27 capEip2612 := by
  decide

theorem sampleSnapshot : decodeNonceSnapshot
    (sampleGateway.secondaryEnrollmentNonceSnapshot sampleRelayConfig sampleUnenrolled 100 5 7 27)
      = some sampleState.snapshot := by
  have hhash : sampleUnenrolled.fees.tokenConfigHashes 27 = FeeTokenRegistry.hashConfig
    (sampleFeeConfig 27 18) :=
    sampleFees_hash
  have hsnapshot :
    sampleGateway.secondaryEnrollmentNonceSnapshot sampleRelayConfig sampleUnenrolled 100 5 7 27
      = ⟨100, 0, 0, 0, 0, 0, 0, 5, 0, 0, 511, 50,
        FeeTokenRegistry.hashConfig (sampleFeeConfig 27 18), 70⟩ := by
    unfold GoatRelayGateway.secondaryEnrollmentNonceSnapshot GoatRelayGateway.snapshot
    simp only [if_pos sampleAuthorized]
    rw [hhash]
    rfl
  rw [hsnapshot]
  rfl

theorem sampleLiveToken :
    readLiveTokenState (chainAt sampleSite sampleGateway sampleUnenrolled 100) 22 27 100
    = .ok sampleState.liveToken := by
  have hhash : sampleUnenrolled.fees.tokenConfigHashes 27 = FeeTokenRegistry.hashConfig
    (sampleFeeConfig 27 18) :=
    sampleFees_hash
  have hconfig :
    decodeFeeTokenConfig (sampleFeeConfig 27 18) = some sampleState.liveToken.capability := rfl
  have hstored : sampleUnenrolled.fees.tokenConfigs 27 = sampleFeeConfig 27 18 := rfl
  refine bind_ok₄.mpr ⟨1, rfl, 77, mapError_ok.mpr (if_neg sampleCode_ne),
    sampleState.liveToken.capability,
    mapError_ok.mpr ?_, FeeTokenRegistry.hashConfig (sampleFeeConfig 27 18), mapError_ok.mpr ?_,
    bind_ok₃.mpr ⟨_,
    require_of (feeTokenConfigHash_decode hconfig), _, require_of rfl, _, require_of rfl, rfl⟩⟩
  · show located 22 22 (fits (decodeFeeTokenConfig (sampleUnenrolled.fees.tokenConfigs 27))) = _
    rw [hstored, hconfig]
    rfl
  · show located 22 22 (.ok (sampleUnenrolled.fees.tokenConfigHashes 27)) = _
    rw [hhash]
    rfl

theorem sampleRead :
    readLivePreflightState (chainAt sampleSite sampleGateway sampleUnenrolled 100)
    sampleManifest 5 7 = .ok sampleState := by
  refine bind_ok₄.mpr ⟨100, rfl, _, sampleLiveToken, _, require_of rfl, 50, mapError_ok.mpr rfl,
    bind_ok₄.mpr ⟨sampleState.snapshot, mapError_ok.mpr ?_, sampleState.liveNonces, rfl, _,
    require_of (by decide), _, require_of (by decide),
    bind_ok₄.mpr ⟨_, require_of rfl, 0, mapError_ok.mpr rfl,
    _, require_of rfl, 10, mapError_ok.mpr rfl, bind_ok.mpr ⟨_, require_of (by decide), rfl⟩⟩⟩⟩
  show located 20 20 (fits (decodeNonceSnapshot
    (sampleGateway.secondaryEnrollmentNonceSnapshot sampleRelayConfig sampleUnenrolled
      100 5 7 27))) = _
  rw [sampleSnapshot]
  rfl

end GoatCoin.StreamG.Preflight
