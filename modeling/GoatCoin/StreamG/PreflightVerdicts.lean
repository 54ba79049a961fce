/-
# `GoatCoin.StreamG.PreflightVerdicts` — what the preflight says, and what the gateway does

The same call, the same state, checked twice.  A digest of the relayer is the digest of the
contract, so

    an alarm           the gateway reverts: what would have gone through raises none
    no error           the gateway may still revert: some checks are made by nobody but the chain
-/
import GoatCoin.Contracts.EnrollmentLanding
import GoatCoin.StreamG.ChainReading

namespace GoatCoin.StreamG.Preflight

open Evm Attestor StreamGCommon StreamGEnroll

/-- The manifest names the registries that the gateway was deployed with. -/
structure Names (manifest : DeploymentManifest) (cfg : GoatRelayGateway.Config) : Prop where
  enrollmentRegistry : manifest.enrollmentRegistry = cfg.enrollmentRegistry
  walletSponsorshipRegistry : manifest.walletSponsorshipRegistry = cfg.sponsorship

section
variable {c : Curve} {d : RelaySite} {g : GoatRelayGateway} {w : World}
  {manifest : DeploymentManifest} {state : LivePreflightState} {call : SponsoredEnrollmentCall}
  {x : EnrollmentCall} {sender : Address}

/-! ## The digests -/

theorem enrollDigest_sent (hm : Mirrors d g w manifest state) (hn : Names manifest d.config)
    (hs : Sends call x) :
    enrollDigest call.v1Enrollment.wallet call.v1Enrollment.nonce call.v1Enrollment.deadline
        state.liveToken.liveChainId manifest.enrollmentRegistry
      = v1EnrollDigest (g.ctx d.config w) w x.v1Enrollment := by
  unfold enrollDigest v1EnrollDigest v1Domain enrollStructHash
  rw [eip712DomainSeparator_eq hm.chainId, hn.enrollmentRegistry, hs.v1Enrollment, eip712Digest_eq,
    ← keccak256_words]
  simp [List.append_assoc, V1Enrollment.abi, widen, enrollTypehash]
  rfl

theorem linkDigest_sent (hm : Mirrors d g w manifest state) (hn : Names manifest d.config)
    (hs : Sends call x) :
    linkSecondaryDigest call.link state.liveToken.liveChainId manifest.walletSponsorshipRegistry
      = linkDigest (g.ctx d.config w) w x.link := by
  unfold linkSecondaryDigest linkDigest walletsDomain
  rw [eip712DomainSeparator_eq hm.chainId, hn.walletSponsorshipRegistry,
    linkSecondaryStructHash_abi hs.link]
  rfl

theorem feeQuoteDigest_sent (hm : Mirrors d g w manifest state) (hs : Sends call x) :
    feeQuoteDigest call.quote state.liveToken.liveChainId manifest.goatRelayGateway
      = digest (g.ctx d.config w) (StreamG.feeQuoteStructHash x.quote) := by
  unfold feeQuoteDigest
  rw [eip712DomainSeparator_eq hm.chainId, hm.named, feeQuoteStructHash_abi hs.quote]
  rfl

theorem sponsorEnrollmentDigest_sent (hm : Mirrors d g w manifest state) (hs : Sends call x) :
    sponsorEnrollmentDigest call.intent state.liveToken.liveChainId manifest.goatRelayGateway
      = digest (g.ctx d.config w) (StreamG.sponsorEnrollmentStructHash x.intent) := by
  unfold sponsorEnrollmentDigest
  rw [eip712DomainSeparator_eq hm.chainId, hm.named, sponsorEnrollmentStructHash_abi hs.intent]
  rfl

/-! ## What the preflight checks -/

/-- What the checks 2 to 10 are for. -/
structure SubjectPassed (call : SponsoredEnrollmentCall) (state : LivePreflightState)
    (manifest : DeploymentManifest) : Prop where
  addresses : state.gateway = manifest.goatRelayGateway ∧ state.registry = manifest.feeTokenRegistry
  deadline : state.chainNow < call.intent.deadline
  nonzero : call.intent.secondary ≠ 0 ∧ call.intent.root ≠ 0
  root : state.queriedRoot = call.intent.root
  secondary : state.queriedSecondary = call.intent.secondary
  linked : call.intent.secondary = call.link.secondary ∧ call.intent.root = call.link.root
  wallet : call.v1Enrollment.wallet = call.intent.secondary
  controlled : state.snapshot.controller ≠ 0
  controller : call.intent.controller = state.snapshot.controller
  epoch : fromU64 call.intent.controllerEpoch = state.snapshot.controllerEpoch

variable {u : Unit}

theorem checkSubject_ok : checkSubject call state manifest = .ok u
    ↔ SubjectPassed call state manifest := by
  constructor
  · intro h
    obtain ⟨_, haddresses, _, hdeadline, _, hnonzero, _, hroot, h⟩ := bind_ok₄.mp h
    obtain ⟨_, hsecondary, _, hlinked, _, hwallet, h⟩ := bind_ok₃.mp h
    obtain ⟨_, hcontrolled, _, hcontroller, hepoch⟩ := bind_ok₂.mp h
    exact ⟨require_ok.mp haddresses, require_ok.mp hdeadline, require_ok.mp hnonzero,
      require_ok.mp hroot,
      require_ok.mp hsecondary, require_ok.mp hlinked, require_ok.mp hwallet,
      require_ok.mp hcontrolled, require_ok.mp hcontroller, require_ok.mp hepoch⟩
  · intro h
    exact bind_ok₄.mpr ⟨_, require_of h.addresses, _, require_of h.deadline, _,
      require_of h.nonzero, _,
      require_of h.root,
      bind_ok₃.mpr ⟨_, require_of h.secondary, _, require_of h.linked, _, require_of h.wallet,
      bind_ok₂.mpr ⟨_, require_of h.controlled, _, require_of h.controller, require_of h.epoch⟩⟩⟩

/-- What the checks 11 to 16 are for. -/
structure BearersPassed (c : Curve) (call : SponsoredEnrollmentCall) (state : LivePreflightState)
    (manifest : DeploymentManifest) : Prop where
  enrollDigest :
    enrollDigest call.v1Enrollment.wallet call.v1Enrollment.nonce call.v1Enrollment.deadline
    state.liveToken.liveChainId manifest.enrollmentRegistry = call.intent.enrollDigest
  enrollSigner :
    recoversTo c (Preflight.enrollDigest call.v1Enrollment.wallet call.v1Enrollment.nonce
    call.v1Enrollment.deadline state.liveToken.liveChainId manifest.enrollmentRegistry)
      call.v1Enrollment.signatureHex
    call.intent.secondary = true
  linkDigest :
    linkSecondaryDigest call.link state.liveToken.liveChainId manifest.walletSponsorshipRegistry
    = call.intent.linkDigest
  linkSigner : recoversTo c (linkSecondaryDigest call.link state.liveToken.liveChainId
    manifest.walletSponsorshipRegistry) call.linkSignatureHex call.intent.secondary = true
  noRootDigest : call.intent.rootAuthorizationDigest = 0
  noRoot : call.rootAuthorization.IsAllZero
    ∧ signatureEmpty call.rootAuthorizationSignatureHex = true

theorem checkBearers_ok :
    checkBearers c call state manifest = .ok u ↔ BearersPassed c call state manifest := by
  constructor
  · intro h
    obtain ⟨_, henroll, _, henrollSigner, _, hlink, h⟩ := bind_ok₃.mp h
    obtain ⟨_, hlinkSigner, _, hdigest, hroot⟩ := bind_ok₂.mp h
    exact ⟨require_ok.mp henroll, require_ok.mp henrollSigner, require_ok.mp hlink,
      require_ok.mp hlinkSigner, require_ok.mp hdigest, require_ok.mp hroot⟩
  · intro h
    exact bind_ok₃.mpr ⟨_, require_of h.enrollDigest, _, require_of h.enrollSigner, _,
      require_of h.linkDigest,
      bind_ok₂.mpr ⟨_, require_of h.linkSigner, _, require_of h.noRootDigest, require_of h.noRoot⟩⟩

/-- What the quote is checked for. -/
structure QuotePassed (c : Curve) (call : SponsoredEnrollmentCall) (state : LivePreflightState)
    (manifest : DeploymentManifest) : Prop where
  signer : manifest.quoteSigner ≠ 0
  id : call.quote.quoteId ≠ 0
  action : call.quote.actionType = actionSponsoredEnrollment
  payer : call.quote.payer = call.intent.controller
  recipient : call.quote.feeRecipient = manifest.feeSafe
  token : call.quote.feeToken = call.intent.feeToken ∧ call.quote.feeToken ≠ 0
  queried : call.quote.feeToken = state.queriedFeeToken
  amount : call.quote.feeAmount ≠ 0 ∧ call.quote.feeAmount ≤ call.intent.maxFee
  window : call.quote.validAfter ≤ state.chainNow ∧ state.chainNow < call.quote.validUntil
  manifests : state.activeManifestHash = state.snapshot.deploymentManifestHash
  manifestHash : call.intent.deploymentManifestHash = state.activeManifestHash
    ∧ call.quote.deploymentManifestHash = state.activeManifestHash
  schedule : state.snapshot.feeScheduleHash ≠ 0
    ∧ call.quote.feeScheduleHash = state.snapshot.feeScheduleHash
  authorized : assertTokenAuthorized state.liveToken capEip2612.val = .ok ()
  config : state.liveToken.feeTokenConfigHash ≠ 0
    ∧ call.intent.feeTokenConfigHash = state.liveToken.feeTokenConfigHash
    ∧ call.quote.feeTokenConfigHash = state.liveToken.feeTokenConfigHash
  core : call.quote.actionCoreHash = sponsorEnrollmentCoreHash call.intent
  signature :
    recoversTo c (feeQuoteDigest call.quote state.liveToken.liveChainId manifest.goatRelayGateway)
    call.quoteSignatureHex manifest.quoteSigner = true

theorem preflightQuote_ok :
    preflightQuote c call state manifest = .ok u ↔ QuotePassed c call state manifest := by
  constructor
  · intro h
    obtain ⟨_, hsigner, _, hid, _, haction, _, hpayer, h⟩ := bind_ok₄.mp h
    obtain ⟨_, hrecipient, _, htoken, _, hqueried, _, hamount, h⟩ := bind_ok₄.mp h
    obtain ⟨_, hmax, _, hwindow, _, hmanifests, _, hmanifest, h⟩ := bind_ok₄.mp h
    obtain ⟨_, hschedule, _, hauthorized, _, hconfig, _, hcore, hsignature⟩ := bind_ok₄.mp h
    exact ⟨require_ok.mp hsigner, require_ok.mp hid, require_ok.mp haction, require_ok.mp hpayer,
      require_ok.mp hrecipient, require_ok.mp htoken, require_ok.mp hqueried,
      ⟨require_ok.mp hamount, require_ok.mp hmax⟩, require_ok.mp hwindow, require_ok.mp hmanifests,
      require_ok.mp hmanifest, require_ok.mp hschedule, hauthorized, require_ok.mp hconfig,
      require_ok.mp hcore, require_ok.mp hsignature⟩
  · intro h
    exact bind_ok₄.mpr ⟨_, require_of h.signer, _, require_of h.id, _, require_of h.action, _,
      require_of h.payer, bind_ok₄.mpr ⟨_, require_of h.recipient, _, require_of h.token, _,
      require_of h.queried, _, require_of h.amount.1, bind_ok₄.mpr ⟨_, require_of h.amount.2, _,
      require_of h.window, _, require_of h.manifests, _, require_of h.manifestHash, bind_ok₄.mpr ⟨_,
      require_of h.schedule, _, h.authorized, _, require_of h.config, _, require_of h.core,
      require_of h.signature⟩⟩⟩⟩

/-- What the sponsored branch is checked for. -/
structure BranchPassed (c : Curve) (call : SponsoredEnrollmentCall) (state : LivePreflightState)
    (manifest : DeploymentManifest) : Prop where
  quote : QuotePassed c call state manifest
  hash : call.intent.feeQuoteHash
    = feeQuoteDigest call.quote state.liveToken.liveChainId manifest.goatRelayGateway
  mode : call.intent.feeAuthorizationMode = 1

theorem checkBranch_ok (hdirect : ¬ IsDirectEthEnrollment call.intent) :
    checkBranch c call state manifest = .ok u ↔ BranchPassed c call state manifest := by
  rw [checkBranch, if_neg hdirect]
  constructor
  · intro h
    obtain ⟨_, hquote, _, hhash, hmode⟩ := bind_ok₂.mp h
    exact ⟨preflightQuote_ok.mp hquote, require_ok.mp hhash, require_ok.mp hmode⟩
  · intro h
    exact bind_ok₂.mpr ⟨(), preflightQuote_ok.mpr h.quote, _, require_of h.hash, require_of h.mode⟩

/-- What the marks, the enrollment and the link are checked for. -/
structure EffectsPassed (c : Curve) (call : SponsoredEnrollmentCall) (state : LivePreflightState)
    (manifest : DeploymentManifest) : Prop where
  sponsor :
    recoversTo c
    (sponsorEnrollmentDigest call.intent state.liveToken.liveChainId manifest.goatRelayGateway)
    call.sponsorSignatureHex call.intent.controller = true
  id : call.intent.intentId ≠ 0
  nonce : fromU64 call.intent.nonce = state.snapshot.actionNonce
  v1Nonce : state.liveNonces.v1EnrollNonce = call.v1Enrollment.nonce
    ∨ state.liveNonces.v1EnrollNonce.val = min (call.v1Enrollment.nonce.val + 1) (2 ^ 64 - 1)
  distinct : call.link.secondary ≠ call.link.root
  deadline : state.chainNow < call.link.deadline
  linkNonce : call.link.nonce = state.liveNonces.linkNonce

theorem checkEffects_ok :
    checkEffects c call state manifest = .ok u ↔ EffectsPassed c call state manifest := by
  constructor
  · intro h
    obtain ⟨_, hsponsor, _, hid, _, hnonce, _, hv1, h⟩ := bind_ok₄.mp h
    obtain ⟨_, hdistinct, _, hdeadline, hlink⟩ := bind_ok₂.mp h
    exact ⟨require_ok.mp hsponsor, require_ok.mp hid, require_ok.mp hnonce, require_ok.mp hv1,
      require_ok.mp hdistinct, require_ok.mp hdeadline, require_ok.mp hlink⟩
  · intro h
    exact bind_ok₄.mpr ⟨_, require_of h.sponsor, _, require_of h.id, _, require_of h.nonce, _,
      require_of h.v1Nonce, bind_ok₂.mpr ⟨_, require_of h.distinct, _, require_of h.deadline,
      require_of h.linkNonce⟩⟩

/-- What the fee is checked for. -/
structure FeePassed (call : SponsoredEnrollmentCall) (state : LivePreflightState)
    (manifest : DeploymentManifest) : Prop where
  mode : call.feeAuthorizationMode = 1
  fields : call.feeEip2612Authorization.owner = call.intent.controller
    ∧ call.feeEip2612Authorization.spender = manifest.goatRelayGateway
    ∧ call.quote.feeAmount ≤ call.feeEip2612Authorization.value
  timely : ¬ call.feeEip2612Authorization.deadline < state.chainNow

theorem checkFee_ok (hdirect : ¬ IsDirectEthEnrollment call.intent) :
    checkFee call state manifest = .ok u ↔ FeePassed call state manifest := by
  rw [checkFee, if_neg hdirect]
  constructor
  · intro h
    obtain ⟨_, hmode, _, hfields, htimely⟩ := bind_ok₂.mp h
    exact ⟨require_ok.mp hmode, require_ok.mp hfields, require_ok.mp htimely⟩
  · intro h
    exact bind_ok₂.mpr ⟨_, require_of h.mode, _, require_of h.fields, require_of h.timely⟩

/-- What a sponsored enrollment that passes was checked for. -/
structure Passed (c : Curve) (call : SponsoredEnrollmentCall) (state : LivePreflightState)
    (manifest : DeploymentManifest) : Prop where
  sponsored : ¬ IsDirectEthEnrollment call.intent
  subject : SubjectPassed call state manifest
  bearers : BearersPassed c call state manifest
  branch : BranchPassed c call state manifest
  effects : EffectsPassed c call state manifest
  fee : FeePassed call state manifest

theorem preflight_ok : (∃ report, preflightSponsoredEnrollment c call state manifest = .ok report
      ∧ report.disposition = .relaySponsored)
    ↔ Passed c call state manifest := by
  constructor
  · rintro ⟨report, h, hrelay⟩
    obtain ⟨_, hsubject, _, hbearers, _, hbranch, h⟩ := bind_ok₃.mp h
    obtain ⟨_, heffects, _, hfee, h⟩ := bind_ok₂.mp h
    cases h
    have hsponsored : ¬ IsDirectEthEnrollment call.intent := by
      intro hdirect
      dsimp only at hrelay
      rw [if_pos hdirect] at hrelay
      cases hrelay
    exact ⟨hsponsored, checkSubject_ok.mp hsubject, checkBearers_ok.mp hbearers,
      (checkBranch_ok hsponsored).mp hbranch,
      checkEffects_ok.mp heffects, (checkFee_ok hsponsored).mp hfee⟩
  · intro h
    exact ⟨_,
      bind_ok₃.mpr ⟨(), checkSubject_ok.mpr h.subject, (), checkBearers_ok.mpr h.bearers, (),
      (checkBranch_ok h.sponsored).mpr h.branch,
      bind_ok₂.mpr ⟨(), checkEffects_ok.mpr h.effects, (),
      (checkFee_ok h.sponsored).mpr h.fee, rfl⟩⟩, if_neg h.sponsored⟩

/-! ## No alarm -/

/-- A check that raises no alarm. -/
def Quiet {α : Type} (check : Except PreflightError α) : Prop :=
  ∀ e, check = .error e → e.alarm = false

theorem quiet_bind {α β : Type} {check : Except PreflightError α}
    {next : α → Except PreflightError β}
    (h : Quiet check) (hnext : ∀ a, check = .ok a → Quiet (next a)) : Quiet (check >>= next) := by
  intro e he
  cases hcheck : check with
  | error e' =>
      rw [hcheck] at he
      cases he
      exact h e hcheck
  | ok a =>
      rw [hcheck] at he
      exact hnext a hcheck e he

theorem quiet_require {p : Prop} [Decidable p] {e : PreflightError} (h : e.alarm = false) :
    Quiet (require p e) := by
  intro e' he
  unfold require at he
  split at he
  · cases he
  · cases he
    exact h

theorem quiet_ensure {p : Prop} [Decidable p] {check : Check} (h : p) : Quiet (ensure p check) := by
  intro e he
  rw [ensure, require_of h] at he
  cases he

theorem quiet_ok {α : Type} (a : α) : Quiet (.ok a) := by
  rintro e ⟨⟩

theorem intent_sent (hs : Sends call x) : ∃ deadline, uint48 call.intent.deadline = some deadline
    ∧ x.intent = ⟨call.intent.intentId, call.intent.deploymentManifestHash,
      call.intent.feeTokenConfigHash,
      call.intent.root, call.intent.controller, widen (by decide) call.intent.controllerEpoch,
      call.intent.secondary,
      call.intent.enrollDigest, call.intent.linkDigest, call.intent.rootAuthorizationDigest,
      call.intent.feeToken,
      call.intent.feeAuthorizationMode, call.intent.feeAuthorizationDigest,
      widen (by decide) call.intent.maxFee,
      call.intent.feeQuoteHash, widen (by decide) call.intent.nonce, deadline⟩ := by
  obtain ⟨deadline, hdeadline, h⟩ := Option.bind_eq_some_iff.mp hs.intent
  exact ⟨deadline, hdeadline, (Option.some.inj h).symm⟩

theorem quote_sent (hs : Sends call x) : ∃ validAfter validUntil,
    uint48 call.quote.validAfter = some validAfter
    ∧ uint48 call.quote.validUntil = some validUntil
    ∧ x.quote = ⟨call.quote.quoteId, call.quote.actionType, call.quote.actionCoreHash,
      call.quote.deploymentManifestHash,
      call.quote.feeTokenConfigHash, call.quote.feeScheduleHash, call.quote.payer,
      call.quote.feeToken,
      widen (by decide) call.quote.feeAmount, call.quote.feeRecipient, validAfter, validUntil⟩ := by
  obtain ⟨validAfter, hafter, h⟩ := Option.bind_eq_some_iff.mp hs.quote
  obtain ⟨validUntil, huntil, h⟩ := Option.bind_eq_some_iff.mp h
  exact ⟨validAfter, validUntil, hafter, huntil, (Option.some.inj h).symm⟩

theorem link_sent (hs : Sends call x) : ∃ deadline, uint48 call.link.deadline = some deadline
    ∧ x.link = ⟨call.link.root, call.link.secondary, widen (by decide) call.link.nonce,
      deadline⟩ := by
  obtain ⟨deadline, hdeadline, h⟩ := Option.bind_eq_some_iff.mp hs.link
  exact ⟨deadline, hdeadline, (Option.some.inj h).symm⟩

theorem rootAuthorization_sent (hs : Sends call x) :
    ∃ deadline, uint48 call.rootAuthorization.deadline = some deadline
    ∧ x.rootAuthorization = ⟨call.rootAuthorization.root, call.rootAuthorization.secondary,
      call.rootAuthorization.enrollDigest, call.rootAuthorization.linkDigest,
      widen (by decide) call.rootAuthorization.nonce, deadline⟩ := by
  obtain ⟨deadline, hdeadline, h⟩ := Option.bind_eq_some_iff.mp hs.rootAuthorization
  exact ⟨deadline, hdeadline, (Option.some.inj h).symm⟩

theorem checkSubject_quiet (hm : Mirrors d g w manifest state) (hs : Sends call x)
    (hc : Cleared d.ecdsa (g.ctx d.config w) w g sender x) :
    Quiet (checkSubject call state manifest) := by
  obtain ⟨deadline, hdeadline, hintent⟩ := intent_sent hs
  obtain ⟨_, -, hlink⟩ := link_sent hs
  have hv1 := hs.v1Enrollment
  obtain ⟨htime, hnonzero, hlinked, hwallet, -, -, hcontrolled, hcontroller, hepoch, -⟩ := hc
  rw [hintent] at htime hnonzero hlinked hwallet hcontrolled hcontroller hepoch
  rw [hlink] at hlinked
  rw [hv1] at hwallet
  dsimp only at htime hnonzero hlinked hwallet hcontrolled hcontroller hepoch
  rw [← hm.now, uint48_some hdeadline] at htime
  refine quiet_bind (quiet_require rfl) fun _ _ => ?_
  refine quiet_bind (quiet_ensure htime) fun _ _ => ?_
  refine quiet_bind (quiet_ensure hnonzero) fun _ _ => ?_
  refine quiet_bind (quiet_require rfl) fun _ hroot => ?_
  have hcontroller' := hm.controller
  have hepoch' := hm.epoch
  rw [require_ok.mp hroot] at hcontroller' hepoch'
  refine quiet_bind (quiet_require rfl) fun _ _ => ?_
  refine quiet_bind (quiet_ensure hlinked) fun _ _ => ?_
  refine quiet_bind (quiet_ensure hwallet) fun _ _ => ?_
  refine quiet_bind (quiet_ensure (by rw [hcontroller']; exact hcontrolled)) fun _ _ => ?_
  refine quiet_bind (quiet_ensure (hcontroller.trans hcontroller'.symm)) fun _ _ => ?_
  exact quiet_ensure (Fin.ext (hepoch.trans hepoch'.symm))

theorem widen_eq_zero {n : Nat} (hn : n ≤ 256) (v : Word n) : widen hn v = 0 ↔ v = 0 := by
  rw [Fin.ext_iff, Fin.ext_iff]
  rfl

theorem isDirectEth_sent (hs : Sends call x) : IsDirectEth x.intent
    ↔ IsDirectEthEnrollment call.intent := by
  obtain ⟨deadline, -, hintent⟩ := intent_sent hs
  unfold IsDirectEth IsDirectEthEnrollment
  rw [hintent, widen_eq_zero]
  rfl

theorem rootAuthorization_zero (hs : Sends call x) : x.rootAuthorization = .zero
    ↔ call.rootAuthorization.IsAllZero := by
  obtain ⟨deadline, hdeadline, hroot⟩ := rootAuthorization_sent hs
  have hzero : deadline = 0 ↔ call.rootAuthorization.deadline = 0 := by
    have heq := uint48_some hdeadline
    exact ⟨fun h => Fin.ext (heq.symm.trans (congrArg Fin.val h)),
      fun h => Fin.ext (heq.trans (congrArg Fin.val h))⟩
  rw [hroot, StreamG.RootAuthorization.zero, StreamG.RootAuthorization.mk.injEq,
    widen_eq_zero, hzero]
  rfl

theorem zeroQuote_sent (hs : Sends call x) : x.quote = zeroQuote ↔ call.quote.IsAllZero := by
  obtain ⟨validAfter, validUntil, hafter, huntil, hquote⟩ := quote_sent hs
  have hzero : ∀ {t : Word 64} {u : Word 48}, u.val = t.val → (u = 0 ↔ t = 0) := fun heq =>
    ⟨fun h => Fin.ext (heq.symm.trans (congrArg Fin.val h)),
      fun h => Fin.ext (heq.trans (congrArg Fin.val h))⟩
  rw [hquote, zeroQuote, StreamG.FeeQuote.mk.injEq, widen_eq_zero, hzero (uint48_some hafter),
    hzero (uint48_some huntil)]
  rfl

theorem checkBearers_quiet (hm : Mirrors d g w manifest state) (hn : Names manifest d.config)
    (hecdsa : d.ecdsa = c.openZeppelin) (hs : Sends call x)
    (hc : Cleared d.ecdsa (g.ctx d.config w) w g sender x) :
    Quiet (checkBearers c call state manifest) := by
  obtain ⟨deadline, -, hintent⟩ := intent_sent hs
  have henroll := hc.enrollDigest
  have henrollSigner := hc.enrollSigner
  have hlink := hc.linkDigest
  have hlinkSigner := hc.linkSigner
  have hnoRootDigest := hc.noRootDigest
  rw [hecdsa] at henrollSigner hlinkSigner
  rw [← enrollDigest_sent hm hn hs] at henroll henrollSigner
  rw [← linkDigest_sent hm hn hs] at hlink hlinkSigner
  rw [hintent] at henroll henrollSigner hlink hlinkSigner hnoRootDigest
  refine quiet_bind (quiet_ensure henroll) fun _ _ => ?_
  refine quiet_bind (quiet_ensure (recoversTo_of_recover hs.v1Signature henrollSigner).1)
    fun _ _ => ?_
  refine quiet_bind (quiet_ensure hlink) fun _ _ => ?_
  refine quiet_bind (quiet_ensure (recoversTo_of_recover hs.linkSignature hlinkSigner).1)
    fun _ _ => ?_
  refine quiet_bind (quiet_ensure hnoRootDigest) fun _ _ => ?_
  refine quiet_ensure ⟨(rootAuthorization_zero hs).mp hc.noRoot.1, ?_⟩
  rw [signatureEmpty, hs.rootAuthorizationSignature, List.eq_nil_of_length_eq_zero hc.noRoot.2]
  rfl

theorem assertTokenAuthorized_quiet (reading : LiveTokenReading) (requiredCapability : Nat) :
    Quiet (assertTokenAuthorized reading requiredCapability) := by
  refine quiet_bind (quiet_require rfl) fun _ _ => ?_
  refine quiet_bind (quiet_require rfl) fun _ _ => ?_
  refine quiet_bind (quiet_require rfl) fun _ _ => ?_
  refine quiet_bind (quiet_require rfl) fun _ _ => ?_
  refine quiet_bind (quiet_require rfl) fun _ _ => ?_
  refine quiet_bind (quiet_require rfl) fun _ _ => ?_
  exact quiet_require rfl

theorem preflightQuote_quiet (hm : Mirrors d g w manifest state) (hecdsa : d.ecdsa = c.openZeppelin)
    (hsigner : g.quoteSigner = manifest.quoteSigner) (hsafe : d.config.feeSafe = manifest.feeSafe)
    (hs : Sends call x)
    (hq : Consumed d.ecdsa (g.ctx d.config w) w g (quoteCheck x.intent) x.quote x.quoteSignature) :
    Quiet (preflightQuote c call state manifest) := by
  obtain ⟨deadline, -, hintent⟩ := intent_sent hs
  obtain ⟨validAfter, validUntil, hafter, huntil, hquote⟩ := quote_sent hs
  have hcore := hq.core
  have hsignature := hq.signature
  rw [hecdsa, ← feeQuoteDigest_sent hm hs] at hsignature
  obtain ⟨hset, hid, -, haction, hpayer, hrecipient, htoken, hamount, hvalid, hmanifest, hschedule,
    -, hconfig, -⟩ := hq
  have hcoreHash : (quoteCheck x.intent).actionCoreHash = sponsorEnrollmentCoreHash call.intent :=
    (sponsorEnrollmentCoreHash_abi hs.intent).symm
  rw [hcoreHash] at hcore
  rw [hintent, hquote] at htoken hamount hmanifest hconfig hpayer
  rw [hquote] at hid haction hrecipient hvalid hschedule hcore
  dsimp only [quoteCheck, GoatRelayGateway.ctx]
    at hset hid haction hpayer hrecipient htoken hamount hvalid
  dsimp only [quoteCheck, GoatRelayGateway.ctx] at hmanifest hschedule hconfig hcore hsignature
  rw [hsigner] at hset hsignature
  rw [hsafe] at hrecipient
  rw [← hm.now, uint48_some hafter, uint48_some huntil] at hvalid
  rw [← hm.manifestHash] at hmanifest
  rw [← hm.schedule] at hschedule
  refine quiet_bind (quiet_ensure hset) fun _ _ => ?_
  refine quiet_bind (quiet_ensure hid) fun _ _ => ?_
  refine quiet_bind (quiet_ensure haction) fun _ _ => ?_
  refine quiet_bind (quiet_ensure hpayer) fun _ _ => ?_
  refine quiet_bind (quiet_ensure hrecipient) fun _ _ => ?_
  refine quiet_bind (quiet_ensure htoken) fun _ _ => ?_
  refine quiet_bind (quiet_require rfl) fun _ hqueried => ?_
  have hqueried := require_ok.mp hqueried
  rw [hm.feeToken] at hqueried
  rw [← htoken.1, hqueried, ← hm.configHash] at hconfig
  refine quiet_bind (quiet_ensure fun hzero => hamount.1 ((widen_eq_zero _ _).mpr hzero))
    fun _ _ => ?_
  refine quiet_bind (quiet_ensure hamount.2) fun _ _ => ?_
  refine quiet_bind (quiet_ensure hvalid) fun _ _ => ?_
  refine quiet_bind (quiet_ensure (hm.manifestHash.trans hm.snapshotManifest.symm)) fun _ _ => ?_
  refine quiet_bind (quiet_ensure hmanifest) fun _ _ => ?_
  refine quiet_bind (quiet_ensure hschedule.symm) fun _ _ => ?_
  refine quiet_bind (assertTokenAuthorized_quiet _ _) fun _ _ => ?_
  refine quiet_bind (quiet_ensure hconfig) fun _ _ => ?_
  refine quiet_bind (quiet_ensure hcore) fun _ _ => ?_
  exact quiet_ensure (recoversTo_of_recover hs.quoteSignature hsignature).1

theorem checkBranch_quiet (hm : Mirrors d g w manifest state) (hecdsa : d.ecdsa = c.openZeppelin)
    (hsigner : g.quoteSigner = manifest.quoteSigner) (hsafe : d.config.feeSafe = manifest.feeSafe)
    (hs : Sends call x)
    (hc : Cleared d.ecdsa (g.ctx d.config w) w g sender x) :
    Quiet (checkBranch c call state manifest) := by
  obtain ⟨deadline, -, hintent⟩ := intent_sent hs
  unfold checkBranch
  split
  · rename_i hdirect
    obtain ⟨-, hsignature, hquote, hmode⟩ := hc.quote.direct ((isDirectEth_sent hs).mpr hdirect)
    rw [hs.feeAuthorization] at hmode
    have hempty : signatureEmpty call.quoteSignatureHex = true := by
      rw [signatureEmpty, hs.quoteSignature, List.eq_nil_of_length_eq_zero hsignature]
      rfl
    refine quiet_bind (quiet_ensure hempty) fun _ _ => ?_
    refine quiet_bind (quiet_ensure ((zeroQuote_sent hs).mp hquote)) fun _ _ => ?_
    exact quiet_ensure hmode
  · rename_i hdirect
    obtain ⟨hconsumed, hhash, hmode⟩ :=
      hc.quote.quoted fun h => hdirect ((isDirectEth_sent hs).mp h)
    rw [← feeQuoteDigest_sent hm hs, hintent] at hhash
    rw [hintent] at hmode
    refine quiet_bind (preflightQuote_quiet hm hecdsa hsigner hsafe hs hconsumed) fun _ _ => ?_
    refine quiet_bind (quiet_ensure hhash) fun _ _ => ?_
    exact quiet_ensure hmode

theorem checkEffects_quiet (hm : Mirrors d g w manifest state) (hecdsa : d.ecdsa = c.openZeppelin)
    (hs : Sends call x)
    (hp : SubjectPassed call state manifest) (hc : Cleared d.ecdsa (g.ctx d.config w) w g sender x)
    (he : EntersV1 w x.v1Enrollment) (hl : Links (g.ctx d.config w) w x.link) :
    Quiet (checkEffects c call state manifest) := by
  obtain ⟨_, -, hintent⟩ := intent_sent hs
  obtain ⟨deadline, hdeadline, hlink⟩ := link_sent hs
  have hsponsor := hc.sponsor
  have hid := hc.id
  have hnonce := hc.nonce
  have hturn := he.turn
  rw [hecdsa, ← sponsorEnrollmentDigest_sent hm hs, hintent] at hsponsor
  rw [hintent] at hid hnonce
  have haction := hm.actionNonce hp.controlled
  rw [← hp.controller] at haction
  obtain ⟨-, hdistinct, htime, hlinkNonce, -⟩ := hl
  rw [hlink] at hdistinct htime hlinkNonce
  rw [← hm.now, uint48_some hdeadline] at htime
  have hv1 := hm.v1Nonce
  have hlinked := hm.linkNonce
  rw [hp.secondary] at hv1 hlinked
  rw [hs.v1Enrollment] at hturn
  dsimp only [V1Enrollment.abi, widen] at hturn hdistinct htime hlinkNonce hnonce
  rw [hp.wallet, ← hv1] at hturn
  rw [← hp.linked.1] at hlinkNonce
  refine quiet_bind (quiet_ensure (recoversTo_of_recover hs.sponsorSignature hsponsor).1)
    fun _ _ => ?_
  refine quiet_bind (quiet_ensure hid) fun _ _ => ?_
  refine quiet_bind (quiet_ensure (Fin.ext (hnonce.symm.trans haction.symm))) fun _ _ => ?_
  refine quiet_bind (quiet_ensure ?_) fun _ _ => ?_
  · rcases hturn with ⟨-, hnow, -⟩ | ⟨-, hbefore⟩
    · exact .inl (Fin.ext hnow)
    · have hlt := state.liveNonces.v1EnrollNonce.isLt
      rw [hbefore] at hlt
      exact .inr (hbefore.trans (Nat.min_eq_left (Nat.le_pred_of_lt hlt)).symm)
  refine quiet_bind (quiet_ensure hdistinct) fun _ _ => ?_
  refine quiet_bind (quiet_ensure htime) fun _ _ => ?_
  exact quiet_ensure (Fin.ext (hlinkNonce.trans hlinked.symm))

theorem checkFee_quiet (hm : Mirrors d g w manifest state) (hs : Sends call x)
    (hl : Lands d g w sender x) : Quiet (checkFee call state manifest) := by
  obtain ⟨_, -, hintent⟩ := intent_sent hs
  obtain ⟨_, _, -, -, hquote⟩ := quote_sent hs
  unfold checkFee
  split
  · exact quiet_ok ()
  · rename_i hdirect
    obtain ⟨hmode, hfee⟩ := hl.fee fun h => hdirect ((isDirectEth_sent hs).mp h)
    have hfields := hfee.fields
    have htimely := hfee.timely
    rw [hs.feeAuthorization] at hmode hfields htimely
    rw [hintent, hquote] at hfields
    have hself : (g.ctx d.config w).self = manifest.goatRelayGateway := hm.named.symm
    rw [hself] at hfields
    have hintime : ¬ call.feeEip2612Authorization.deadline < state.chainNow := by
      refine Nat.not_lt.mpr ?_
      rw [hm.now]
      exact htimely
    refine quiet_bind (quiet_ensure hmode) fun _ _ => ?_
    refine quiet_bind (quiet_ensure hfields) fun _ _ => ?_
    intro e he
    rw [require_of hintime] at he
    cases he

theorem preflight_quiet (hm : Mirrors d g w manifest state) (hn : Names manifest d.config)
    (hecdsa : d.ecdsa = c.openZeppelin) (hsigner : g.quoteSigner = manifest.quoteSigner)
    (hsafe : d.config.feeSafe = manifest.feeSafe) (hs : Sends call x) (hl : Lands d g w sender x) :
    Quiet (preflightSponsoredEnrollment c call state manifest) := by
  refine quiet_bind (checkSubject_quiet hm hs hl.cleared) fun _ hsubject => ?_
  refine quiet_bind (checkBearers_quiet hm hn hecdsa hs hl.cleared) fun _ _ => ?_
  refine quiet_bind (checkBranch_quiet hm hecdsa hsigner hsafe hs hl.cleared) fun _ _ => ?_
  refine quiet_bind
    (checkEffects_quiet hm hecdsa hs (checkSubject_ok.mp hsubject) hl.cleared hl.enters hl.links)
    fun _ _ => ?_
  refine quiet_bind (checkFee_quiet hm hs hl) fun _ _ => ?_
  exact quiet_ok _

end

/-- **An alarm is never false: what the preflight says would revert, reverts, whoever sends it.** -/
theorem alarm_reverts (c : Curve) (d : RelaySite) (hecdsa : d.ecdsa = c.openZeppelin)
    (g : GoatRelayGateway) (w : World)
    (block : Word 64) (manifest : DeploymentManifest) (hnames : Names manifest d.config)
    (hsigner : g.quoteSigner = manifest.quoteSigner) (hsafe : d.config.feeSafe = manifest.feeSafe)
    {root secondary : Address} {state : LivePreflightState}
    (hread : readLivePreflightState (chainAt d g w block) manifest root secondary = .ok state)
    {call : SponsoredEnrollmentCall} {x : EnrollmentCall} (hsent : call.onChain = some x)
    {e : PreflightError}
    (hrefused : preflightSponsoredEnrollment c call state manifest = .error e)
    (halarm : e.alarm = true)
    (sender : Address) : ∃ revert, d.execute g w sender (.enrollment x) = .error revert := by
  cases hexecute : d.execute g w sender (.enrollment x) with
  | error revert => exact ⟨revert, rfl⟩
  | ok r =>
      have hlands := (execute_iff_lands d).mp ⟨r, hexecute⟩
      have hquiet :=
        preflight_quiet (mirrors_of_read hread) hnames hecdsa hsigner hsafe
          (onChain_some.mp hsent) hlands
      rw [hquiet e hrefused] at halarm
      cases halarm

/-! The controller 5 sponsors the wallet 7 for a fee of 3 of the token 27. -/

def sampleHex (a : Address) : Text := Hex.encode (sampleSigned a)

def sampleIntent (deadline v1Deadline : Word 64) (feeQuoteHash : Bytes32) : SponsorEnrollment where
  intentId := 90
  deploymentManifestHash := 50
  feeTokenConfigHash := FeeTokenRegistry.hashConfig (sampleFeeConfig 27 18)
  root := 5
  controller := 5
  controllerEpoch := 0
  secondary := 7
  enrollDigest := enrollDigest 7 0 v1Deadline 1 21
  linkDigest := linkSecondaryDigest ⟨5, 7, 0, 500⟩ 1 23
  rootAuthorizationDigest := 0
  feeToken := 27
  feeAuthorizationMode := 1
  feeAuthorizationDigest := 0
  maxFee := 5
  feeQuoteHash
  nonce := 0
  deadline

def sampleFeeQuote (deadline v1Deadline : Word 64) : FeeQuote where
  quoteId := 91
  actionType := actionSponsoredEnrollment
  actionCoreHash := sponsorEnrollmentCoreHash (sampleIntent deadline v1Deadline 0)
  deploymentManifestHash := 50
  feeTokenConfigHash := FeeTokenRegistry.hashConfig (sampleFeeConfig 27 18)
  feeScheduleHash := 70
  payer := 5
  feeToken := 27
  feeAmount := 3
  feeRecipient := 25
  validAfter := 0
  validUntil := 500

def sampleCall (deadline v1Deadline : Word 64) : SponsoredEnrollmentCall where
  intent :=
    sampleIntent deadline v1Deadline (feeQuoteDigest (sampleFeeQuote deadline v1Deadline) 1 20)
  quote := sampleFeeQuote deadline v1Deadline
  v1Enrollment := ⟨7, 0, v1Deadline, sampleHex 7⟩
  link := ⟨5, 7, 0, 500⟩
  rootAuthorization := ⟨0, 0, 0, 0, 0, 0⟩
  feeAuthorizationMode := 1
  feeEip2612Authorization := ⟨5, 20, 3, 500, 27, 5, 0⟩
  sponsorSignatureHex := sampleHex 5
  quoteSignatureHex := sampleHex 8
  linkSignatureHex := sampleHex 7
  rootAuthorizationSignatureHex := []

theorem sampleHex_decodes : decodeHexBytes (sampleHex 5) = some (sampleSigned 5)
    ∧ decodeHexBytes (sampleHex 7) = some (sampleSigned 7)
    ∧ decodeHexBytes (sampleHex 8) = some (sampleSigned 8) := by
  decide +kernel

theorem sampleCall_sent {deadline v1Deadline : Word 64} {until48 : Word 48}
    (h : uint48 deadline = some until48) :
    ∃ x, (sampleCall deadline v1Deadline).onChain = some x := by
  obtain ⟨hfive, hseven, height⟩ := sampleHex_decodes
  unfold SponsoredEnrollmentCall.onChain SponsorEnrollment.abi sampleCall sampleIntent
  dsimp only
  rw [hfive, hseven, height, h]
  exact ⟨_, rfl⟩

/-- The intent has expired, and says so. -/
theorem alarm_reverts_sample : ∃ x revert, (sampleCall 5 500).onChain = some x
    ∧ preflightSponsoredEnrollment sampleCurve (sampleCall 5 500) sampleState sampleManifest
      = .error (.wouldRevert .expiredDeadline)
    ∧ sampleSite.execute sampleGateway sampleUnenrolled 9 (.enrollment x) = .error revert := by
  obtain ⟨x, hx⟩ : ∃ x, (sampleCall 5 500).onChain = some x := sampleCall_sent rfl
  have hrefused :
    preflightSponsoredEnrollment sampleCurve (sampleCall 5 500) sampleState sampleManifest
      = .error (.wouldRevert .expiredDeadline) := by
    have hsubject : checkSubject (sampleCall 5 500) sampleState sampleManifest
      = .error (.wouldRevert .expiredDeadline) := by
      rfl
    unfold preflightSponsoredEnrollment
    rw [hsubject]
    rfl
  obtain ⟨revert, hrevert⟩ :=
    alarm_reverts sampleCurve sampleSite rfl sampleGateway sampleUnenrolled 100 sampleManifest
    ⟨rfl, rfl⟩ rfl rfl sampleRead hx hrefused rfl 9
  exact ⟨x, revert, hx, hrefused, hrevert⟩

end GoatCoin.StreamG.Preflight
