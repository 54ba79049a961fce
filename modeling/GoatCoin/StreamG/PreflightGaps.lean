/-
# `GoatCoin.StreamG.PreflightGaps` — what neither the preflight checks nor its list discloses

A sponsored enrollment passes, and everything holds that `UNVERIFIED_CHECKS` lists (`Disclosed`).
The gateway still reverts unless

    the timestamps fit 48 bits           a `u64` of the relayer is a `uint48` of the contract
    the enrollment is in time            its deadline is the registry's to check, if the wallet is not enrolled
    the signatures are canonical         the contracts take no upper half of `s`, and two values of `v`
    the fee can be moved                 the balance of the controller, the pause and the rules of the token

and this is all (`passing_lands_iff`).
-/
import GoatCoin.StreamG.PreflightVerdicts

namespace GoatCoin.StreamG.Preflight

open Evm Attestor StreamGCommon StreamGEnroll

/-- A deployed gateway, between two transactions. -/
structure Deployed (d : RelaySite) (g : GoatRelayGateway) (w : World) : Prop where
  idle : g.entered = false
  accounts : d.config.self ≠ 0 ∧ d.config.feeSafe ≠ 0
  bound : w.wallets.gateway = d.config.self

/-- `UNVERIFIED_CHECKS`, in its order. -/
structure Disclosed (d : RelaySite) (g : GoatRelayGateway) (w : World)
    (manifest : DeploymentManifest) (call : SponsoredEnrollmentCall) : Prop where
  live : g.activated = true ∧ g.paused = false
  registered : w.wallets.primaryOf call.intent.root = call.intent.root
  running : w.wallets.suspendedClusters call.intent.root = false
  intentFresh : g.intentUsed call.intent.intentId = false
  quoteFresh : g.quoteUsed call.quote.quoteId = false
  quoteSigner : g.quoteSigner = manifest.quoteSigner
  feeSafe : d.config.feeSafe = manifest.feeSafe
  listed : w.v1.blacklisted call.v1Enrollment.wallet = false
  turn : w.v1.enrolled call.v1Enrollment.wallet = false
      ∧ w.v1.nonces call.v1Enrollment.wallet = call.v1Enrollment.nonce.val
    ∨ w.v1.enrolled call.v1Enrollment.wallet = true
      ∧ w.v1.nonces call.v1Enrollment.wallet = call.v1Enrollment.nonce.val + 1
  unlinked : w.wallets.primaryOf call.link.secondary = 0
  free : w.wallets.controlledRootOf call.link.secondary = 0
  permit : d.ecdsa.recoverVrs
    ((w.tokens call.intent.feeToken).permitDigest call.feeEip2612Authorization.abi)
    call.feeEip2612Authorization.v call.feeEip2612Authorization.r call.feeEip2612Authorization.s
    = .ok call.feeEip2612Authorization.owner

/-- The timestamps that the contract reads as `uint48`. -/
def SponsoredEnrollmentCall.timestamps (call : SponsoredEnrollmentCall) : List (Word 64) :=
  [call.intent.deadline, call.link.deadline, call.quote.validAfter, call.quote.validUntil]

/-- The signatures that the gateway recovers. -/
def SponsoredEnrollmentCall.signatures (call : SponsoredEnrollmentCall) : List Text :=
  [call.v1Enrollment.signatureHex, call.linkSignatureHex, call.quoteSignatureHex,
    call.sponsorSignatureHex]

/-- The registry of enrollments when the fee is paid. -/
def registryAtFee (w : World) (call : SponsoredEnrollmentCall) : Registry :=
  (v1After w (call.v1Enrollment.abi [])).registry

/-- What is on neither list. -/
structure Undisclosed (d : RelaySite) (w : World) (call : SponsoredEnrollmentCall) : Prop where
  fits : ∀ t ∈ call.timestamps, t.val < 2 ^ 48
  timely : w.v1.enrolled call.v1Enrollment.wallet = false → w.now ≤ call.v1Enrollment.deadline.val
  canonical : ∀ hex ∈ call.signatures, ∀ signature, decodeHexBytes hex = some signature →
    Canonical signature
  funded : call.quote.feeAmount.val ≤ w.balance call.intent.feeToken call.intent.controller
  distinct : call.intent.controller ≠ d.config.feeSafe
  running : (w.tokens call.intent.feeToken).coin.paused = false
  allowed : (w.tokens call.intent.feeToken).coin.restricted →
    (registryAtFee w call).isTransferAllowed call.intent.controller d.config.feeSafe

section
variable {c : Curve} {d : RelaySite} {g : GoatRelayGateway} {w : World}
  {manifest : DeploymentManifest} {state : LivePreflightState} {call : SponsoredEnrollmentCall}
  {x : EnrollmentCall} {sender : Address}

theorem recoversTo_decodes {digest : Bytes32} {hex : Text} {expected : Address}
    (h : recoversTo c digest hex expected = true) :
    ∃ signature, decodeHexBytes hex = some signature := by
  unfold recoversTo at h
  split at h
  · cases h
  · rename_i signature hdecoded
    exact ⟨signature, hdecoded⟩

theorem uint48_of_lt {t : Word 64} (h : t.val < 2 ^ 48) : ∃ u, uint48 t = some u :=
  ⟨⟨t.val, h⟩, dif_pos h⟩

theorem lt_of_uint48 {t : Word 64} {u : Word 48} (h : uint48 t = some u) : t.val < 2 ^ 48 := by
  rw [← uint48_some h]
  exact u.isLt

theorem onChain_of_passed (hp : Passed c call state manifest)
    (hfits : ∀ t ∈ call.timestamps, t.val < 2 ^ 48) : ∃ x, call.onChain = some x := by
  obtain ⟨sponsorSignature, hsponsor⟩ := recoversTo_decodes hp.effects.sponsor
  obtain ⟨quoteSignature, hquote⟩ := recoversTo_decodes hp.branch.quote.signature
  obtain ⟨linkSignature, hlink⟩ := recoversTo_decodes hp.bearers.linkSigner
  obtain ⟨v1Signature, hv1⟩ := recoversTo_decodes hp.bearers.enrollSigner
  have hroot : decodeHexBytes call.rootAuthorizationSignatureHex = some [] :=
    of_decide_eq_true hp.bearers.noRoot.2
  have hdeadlines : ∀ t ∈ call.timestamps, ∃ u, uint48 t = some u :=
    fun t ht => uint48_of_lt (hfits t ht)
  obtain ⟨deadline, hdeadline⟩ :=
    hdeadlines call.intent.deadline (by simp [SponsoredEnrollmentCall.timestamps])
  obtain ⟨linkDeadline, hlinkDeadline⟩ :=
    hdeadlines call.link.deadline (by simp [SponsoredEnrollmentCall.timestamps])
  obtain ⟨validAfter, hafter⟩ :=
    hdeadlines call.quote.validAfter (by simp [SponsoredEnrollmentCall.timestamps])
  obtain ⟨validUntil, huntil⟩ :=
    hdeadlines call.quote.validUntil (by simp [SponsoredEnrollmentCall.timestamps])
  obtain ⟨rootDeadline, hrootDeadline⟩ : ∃ u, uint48 call.rootAuthorization.deadline = some u := by
    refine uint48_of_lt ?_
    rw [hp.bearers.noRoot.1.2.2.2.2.2]
    decide
  unfold SponsoredEnrollmentCall.onChain SponsorEnrollment.abi FeeQuote.abi LinkSecondary.abi
    RootAuthorization.abi
  rw [hsponsor, hquote, hlink, hv1, hroot, hdeadline, hlinkDeadline, hafter, huntil, hrootDeadline]
  exact ⟨_, rfl⟩

theorem consumed_of_passed (hm : Mirrors d g w manifest state) (hecdsa : d.ecdsa = c.openZeppelin)
    (hs : Sends call x)
    (hq : QuotePassed c call state manifest) (hd : Disclosed d g w manifest call)
    (hu : Undisclosed d w call) :
    Consumed d.ecdsa (g.ctx d.config w) w g (quoteCheck x.intent) x.quote x.quoteSignature := by
  obtain ⟨deadline, -, hintent⟩ := intent_sent hs
  obtain ⟨validAfter, validUntil, hafter, huntil, hquote⟩ := quote_sent hs
  have htoken : call.intent.feeToken = manifest.feeToken := by
    rw [← hq.token.1, hq.queried, hm.feeToken]
  have hcanonical :=
    hu.canonical call.quoteSignatureHex (by simp [SponsoredEnrollmentCall.signatures]) _
    hs.quoteSignature
  have hsignature := recover_of_recoversTo hs.quoteSignature hq.signature hcanonical hq.signer
  rw [← hecdsa, feeQuoteDigest_sent hm hs, ← hd.quoteSigner] at hsignature
  have hcore : x.quote.actionCoreHash = StreamG.sponsorEnrollmentCoreHash x.intent := by
    rw [hquote, ← sponsorEnrollmentCoreHash_abi hs.intent]
    exact hq.core
  have hvalid : x.quote.validAfter.val ≤ w.now ∧ w.now < x.quote.validUntil.val := by
    rw [hquote, ← hm.now, uint48_some hafter, uint48_some huntil]
    exact hq.window
  have hamount : x.quote.feeAmount ≠ 0 ∧ x.quote.feeAmount ≤ x.intent.maxFee := by
    rw [hintent, hquote]
    exact ⟨fun h => hq.amount.1 ((widen_eq_zero (by decide) _).mp h), hq.amount.2⟩
  have hmanifest := hq.manifestHash
  have hschedule := hq.schedule
  have hconfig := hq.config
  rw [hm.manifestHash] at hmanifest
  rw [hm.schedule] at hschedule
  rw [hm.configHash, ← htoken] at hconfig
  have hsigner := hq.signer
  have hrecipient := hq.recipient
  have hauthorized := hm.authorized
  rw [← hd.quoteSigner] at hsigner
  rw [← hd.feeSafe] at hrecipient
  rw [← htoken] at hauthorized
  exact
    { signer := hsigner
      id := by rw [hquote]; exact hq.id
      fresh := by rw [hquote]; exact hd.quoteFresh
      action := by rw [hquote]; exact hq.action
      payer := by rw [hintent, hquote]; exact hq.payer
      recipient := by rw [hquote]; exact hrecipient
      token := by rw [hintent, hquote]; exact hq.token
      amount := hamount
      valid := hvalid
      manifest := by rw [hintent, hquote]; exact hmanifest
      schedule := by rw [hquote]; exact ⟨hschedule.2, hschedule.1⟩
      authorized := by rw [hintent]; exact hauthorized
      config := by rw [hintent, hquote]; exact hconfig
      core := hcore
      signature := hsignature }

theorem cleared_of_passed (hm : Mirrors d g w manifest state) (hn : Names manifest d.config)
    (hecdsa : d.ecdsa = c.openZeppelin) (hs : Sends call x) (hp : Passed c call state manifest)
    (hd : Disclosed d g w manifest call) (hu : Undisclosed d w call) :
    Cleared d.ecdsa (g.ctx d.config w) w g sender x := by
  obtain ⟨deadline, hdeadline, hintent⟩ := intent_sent hs
  obtain ⟨_, -, hlink⟩ := link_sent hs
  have hsubject := hp.subject
  have hcanonical : ∀ hex ∈ call.signatures, ∀ signature, decodeHexBytes hex = some signature →
    Canonical signature :=
    hu.canonical
  simp only [SponsoredEnrollmentCall.signatures, List.forall_mem_cons] at hcanonical
  obtain ⟨hv1, hlinkSignature, -, hsponsor, -⟩ := hcanonical
  have hcontroller := hm.controller
  have hepoch := hm.epoch
  rw [hsubject.root] at hcontroller hepoch
  have hset := hsubject.controlled
  have henroll :=
    recover_of_recoversTo hs.v1Signature hp.bearers.enrollSigner (hv1 _ hs.v1Signature)
      hsubject.nonzero.1
  have hlinkSigner :=
    recover_of_recoversTo hs.linkSignature hp.bearers.linkSigner (hlinkSignature _ hs.linkSignature)
    hsubject.nonzero.1
  have hsponsorSigner :=
    recover_of_recoversTo hs.sponsorSignature hp.effects.sponsor (hsponsor _ hs.sponsorSignature)
    (by rw [hsubject.controller]; exact hset)
  rw [← hecdsa] at henroll hlinkSigner hsponsorSigner
  rw [enrollDigest_sent hm hn hs] at henroll
  rw [linkDigest_sent hm hn hs] at hlinkSigner
  rw [sponsorEnrollmentDigest_sent hm hs] at hsponsorSigner
  have henrollDigest := hp.bearers.enrollDigest
  have hlinkDigest := hp.bearers.linkDigest
  rw [enrollDigest_sent hm hn hs] at henrollDigest
  rw [linkDigest_sent hm hn hs] at hlinkDigest
  have hhash := hp.branch.hash
  rw [feeQuoteDigest_sent hm hs] at hhash
  have hnonce := hm.actionNonce hset
  rw [← hsubject.controller, ← hp.effects.nonce] at hnonce
  have hempty : decodeHexBytes call.rootAuthorizationSignatureHex = some [] :=
    of_decide_eq_true hp.bearers.noRoot.2
  rw [hs.rootAuthorizationSignature] at hempty
  have hsponsored : ¬ IsDirectEth x.intent := fun h => hp.sponsored ((isDirectEth_sent hs).mp h)
  exact
    { deadline := by rw [hintent, ← hm.now, uint48_some hdeadline]; exact hsubject.deadline
      nonzero := by rw [hintent]; exact hsubject.nonzero
      linked := by rw [hintent, hlink]; exact hsubject.linked
      wallet := by rw [hintent, hs.v1Enrollment]; exact hsubject.wallet
      registered := by rw [hintent]; exact hd.registered
      running := by rw [hintent]; exact hd.running
      controlled := by rw [hintent, ← hcontroller]; exact hset
      controller := by rw [hintent, ← hcontroller]; exact hsubject.controller
      epoch := by rw [hintent, ← hepoch, ← hsubject.epoch]; rfl
      enrollDigest := by rw [hintent]; exact henrollDigest
      enrollSigner := by rw [hintent]; exact henroll
      linkDigest := by rw [hintent]; exact hlinkDigest
      linkSigner := by rw [hintent]; exact hlinkSigner
      noRootDigest := by rw [hintent]; exact hp.bearers.noRootDigest
      noRoot :=
    ⟨(rootAuthorization_zero hs).mpr hp.bearers.noRoot.1, by rw [Option.some.inj hempty]; rfl⟩
      quote :=
        { direct := fun hdirect => absurd hdirect hsponsored
          quoted :=
          fun _ => ⟨consumed_of_passed hm hecdsa hs hp.branch.quote hd hu, by
            rw [hintent]; exact hhash, by rw [hintent]; exact hp.branch.mode⟩ }
      sponsor := by rw [hintent] at hsponsorSigner ⊢; exact hsponsorSigner
      id := by rw [hintent]; exact hp.effects.id
      fresh := by rw [hintent]; exact hd.intentFresh
      nonce := by rw [hintent]; exact hnonce.symm
      counts := by
        rw [hintent]
        exact Nat.lt_of_le_of_lt (Nat.succ_le_of_lt call.intent.nonce.isLt) (by decide) }

theorem v1After_sent (hs : Sends call x) :
    (v1After w x.v1Enrollment).registry = registryAtFee w call := by
  rw [hs.v1Enrollment]
  rfl

theorem entersV1_of_passed (hs : Sends call x) (hd : Disclosed d g w manifest call)
    (hu : Undisclosed d w call) : EntersV1 w x.v1Enrollment := by
  rw [hs.v1Enrollment]
  refine ⟨hd.listed, ?_,
    Nat.lt_of_le_of_lt (Nat.succ_le_of_lt call.v1Enrollment.nonce.isLt) (by decide)⟩
  rcases hd.turn with ⟨hout, hnonce⟩ | hin
  · exact .inl ⟨hout, hnonce, hu.timely hout⟩
  · exact .inr hin

theorem links_of_passed (hm : Mirrors d g w manifest state) (hdeployed : Deployed d g w)
    (hs : Sends call x) (hp : Passed c call state manifest) (hd : Disclosed d g w manifest call) :
    Links (g.ctx d.config w) w x.link := by
  obtain ⟨deadline, hdeadline, hlink⟩ := link_sent hs
  have hnonce := hm.linkNonce
  rw [hp.subject.secondary, hp.subject.linked.1, ← hp.effects.linkNonce] at hnonce
  rw [hlink]
  refine ⟨hdeployed.bound.symm, hp.effects.distinct, ?_, hnonce, hd.unlinked, hd.free,
    Nat.lt_of_le_of_lt (Nat.succ_le_of_lt call.link.nonce.isLt) (by decide)⟩
  rw [← hm.now, uint48_some hdeadline]
  exact hp.effects.deadline

theorem feeCollected_of_passed (hm : Mirrors d g w manifest state) (hdeployed : Deployed d g w)
    (hs : Sends call x)
    (hp : Passed c call state manifest) (hd : Disclosed d g w manifest call)
    (hu : Undisclosed d w call) :
    FeeCollected d.ecdsa (g.ctx d.config w) { w with v1 := v1After w x.v1Enrollment }
      x.intent.controller
      x.intent.feeToken x.quote.feeAmount.val x.feeAuthorization.eip2612 := by
  obtain ⟨_, -, hintent⟩ := intent_sent hs
  obtain ⟨_, _, -, -, hquote⟩ := quote_sent hs
  have hquoted := hp.branch.quote
  have htoken : call.intent.feeToken = manifest.feeToken := by
    rw [← hquoted.token.1, hquoted.queried, hm.feeToken]
  obtain ⟨howner, hspender, hvalue⟩ := hp.fee.fields
  rw [hm.named] at hspender
  have htimely := Nat.not_lt.mp hp.fee.timely
  rw [hm.now] at htimely
  have hcontroller : call.intent.controller ≠ 0 := by
    rw [hp.subject.controller]
    exact hp.subject.controlled
  have hallowed := hu.allowed
  rw [← v1After_sent hs] at hallowed
  rw [hintent, hquote, hs.feeAuthorization]
  exact
    { fields := ⟨howner, hspender, hvalue⟩
      permits := by
        show (w.tokens call.intent.feeToken).permits = true
        rw [htoken]
        exact hm.permits
      timely := htimely
      signed := hd.permit
      accounts := ⟨hcontroller, hdeployed.accounts⟩
      allowed := hallowed
      running := hu.running
      funded := hu.funded
      distinct := hu.distinct }

/-- **What passes, is disclosed to hold and is not on the third list, goes through.** -/
theorem lands_of_passed (hm : Mirrors d g w manifest state) (hn : Names manifest d.config)
    (hecdsa : d.ecdsa = c.openZeppelin) (hdeployed : Deployed d g w) (hs : Sends call x)
    (hp : Passed c call state manifest) (hd : Disclosed d g w manifest call)
    (hu : Undisclosed d w call) : Lands d g w sender x where
  live := ⟨hdeployed.idle, hd.live⟩
  cleared := cleared_of_passed hm hn hecdsa hs hp hd hu
  enters := entersV1_of_passed hs hd hu
  links := links_of_passed hm hdeployed hs hp hd
  fee _ :=
    ⟨by rw [hs.feeAuthorization]; exact hp.fee.mode, feeCollected_of_passed hm hdeployed hs hp hd hu⟩

/-- What goes through is on the third list. -/
theorem undisclosed_of_lands (hecdsa : d.ecdsa = c.openZeppelin) (hs : Sends call x)
    (hp : Passed c call state manifest) (hl : Lands d g w sender x) : Undisclosed d w call := by
  obtain ⟨_, hdeadline, hintent⟩ := intent_sent hs
  obtain ⟨_, hlinkDeadline, hlink⟩ := link_sent hs
  obtain ⟨_, _, hafter, huntil, hquote⟩ := quote_sent hs
  have hsponsored : ¬ IsDirectEth x.intent := fun h => hp.sponsored ((isDirectEth_sent hs).mp h)
  obtain ⟨-, hfee⟩ := hl.fee hsponsored
  obtain ⟨hconsumed, -⟩ := hl.cleared.quote.quoted hsponsored
  have hcanonical : ∀ {hex : Text} {sent : EthSignature} {digest : Bytes32} {signer : Address},
      decodeHexBytes hex = some sent → d.ecdsa.recover digest sent = .ok signer →
      ∀ signature, decodeHexBytes hex = some signature → Canonical signature := by
    intro hex sent digest signer hsent hrecover signature hsignature
    rw [hecdsa] at hrecover
    rw [hsent] at hsignature
    cases hsignature
    exact (recoversTo_of_recover hsent hrecover).2.1
  have hfunded := hfee.funded
  have hdistinct := hfee.distinct
  have hrunning := hfee.running
  have hallowed := hfee.allowed
  have htimely := hl.enters.turn
  rw [hintent, hquote] at hfunded
  rw [hintent] at hdistinct hrunning hallowed
  rw [hs.v1Enrollment] at htimely
  refine ⟨?_, ?_, ?_, hfunded, hdistinct, hrunning, ?_⟩
  · simp only [SponsoredEnrollmentCall.timestamps, List.forall_mem_cons]
    exact ⟨lt_of_uint48 hdeadline, lt_of_uint48 hlinkDeadline, lt_of_uint48 hafter,
      lt_of_uint48 huntil, fun _ h => absurd h List.not_mem_nil⟩
  · intro hout
    rcases htimely with ⟨-, -, htimely⟩ | ⟨hin, -⟩
    · exact htimely
    · exact absurd (hout.symm.trans hin) Bool.false_ne_true
  · simp only [SponsoredEnrollmentCall.signatures, List.forall_mem_cons]
    exact ⟨hcanonical hs.v1Signature hl.cleared.enrollSigner,
      hcanonical hs.linkSignature hl.cleared.linkSigner,
      hcanonical hs.quoteSignature hconsumed.signature,
      hcanonical hs.sponsorSignature hl.cleared.sponsor, fun _ h => absurd h List.not_mem_nil⟩
  · rw [← v1After_sent hs]
    exact hallowed

end

/-- **A passing preflight lands exactly if what is on neither list holds.** -/
theorem passing_lands_iff (c : Curve) (d : RelaySite) (hecdsa : d.ecdsa = c.openZeppelin)
    (g : GoatRelayGateway)
    (w : World) (hdeployed : Deployed d g w) (block : Word 64) (manifest : DeploymentManifest)
    (hnames : Names manifest d.config) {root secondary : Address} {state : LivePreflightState}
    (hread : readLivePreflightState (chainAt d g w block) manifest root secondary = .ok state)
    {call : SponsoredEnrollmentCall} {report : PreflightReport}
    (hpassed : preflightSponsoredEnrollment c call state manifest = .ok report)
    (hrelay : report.disposition = .relaySponsored) (hdisclosed : Disclosed d g w manifest call)
    (sender : Address) :
    (∃ x, call.onChain = some x ∧ ∃ r, d.execute g w sender (.enrollment x) = .ok r)
    ↔ Undisclosed d w call := by
  have hmirrors := mirrors_of_read hread
  have hpasses := preflight_ok.mp ⟨report, hpassed, hrelay⟩
  constructor
  · rintro ⟨x, hsent, hexecute⟩
    exact undisclosed_of_lands hecdsa (onChain_some.mp hsent) hpasses
      ((execute_iff_lands d).mp hexecute)
  · intro hundisclosed
    obtain ⟨x, hsent⟩ := onChain_of_passed hpasses hundisclosed.fits
    exact ⟨x, hsent,
      (execute_iff_lands d).mpr
      (lands_of_passed hmirrors hnames hecdsa hdeployed (onChain_some.mp hsent)
      hpasses hdisclosed hundisclosed)⟩

/-! ## An enrollment that has expired -/

theorem sampleHex_recovers {a : Address}
    (hdecoded : decodeHexBytes (sampleHex a) = some (sampleSigned a))
    (hparts : (sampleSigned a).length = 65 ∧ (sampleSigned a).getD 64 0 = 27
      ∧ Fin.ofNat (2 ^ 160) (wordOfBytes ((sampleSigned a).take 32)).val = a) (digest : Bytes32) :
    recoversTo sampleCurve digest (sampleHex a) a = true := by
  obtain ⟨hlength, hv, hr⟩ := hparts
  unfold recoversTo Curve.recoverAddressFromPrehash
  rw [hdecoded]
  dsimp only
  have hodd : Curve.normalizeV (27 : UInt8).toNat = some false := rfl
  rw [hlength, hv, hodd, Option.bind_some]
  show (decide (65 = 65) && decide
    (some (Fin.ofNat (2 ^ 160) (wordOfBytes ((sampleSigned a).take 32)).val) = some a)) = true
  rw [hr]
  simp

theorem sampleHexes_recover {a : Address} (ha : a ∈ [5, 7, 8]) (digest : Bytes32) :
    recoversTo sampleCurve digest (sampleHex a) a = true := by
  obtain ⟨hfive, hseven, height⟩ := sampleHex_decodes
  simp only [List.mem_cons, List.not_mem_nil, or_false] at ha
  obtain rfl | rfl | rfl := ha
  · exact sampleHex_recovers hfive (by decide +kernel) digest
  · exact sampleHex_recovers hseven (by decide +kernel) digest
  · exact sampleHex_recovers height (by decide +kernel) digest

theorem sponsorEnrollmentCoreHash_quoted (i : SponsorEnrollment) (feeQuoteHash : Bytes32) :
    sponsorEnrollmentCoreHash { i with feeQuoteHash } = sponsorEnrollmentCoreHash i := rfl

theorem sampleCall_passed (v1Deadline : Word 64) :
    Passed sampleCurve (sampleCall 500 v1Deadline) sampleState sampleManifest where
  sponsored h := absurd h.1 (by decide : (27 : Address) ≠ 0)
  subject :=
    { addresses := ⟨rfl, rfl⟩
      deadline := (by decide : (10 : Word 64) < 500)
      nonzero := (by decide : (7 : Address) ≠ 0 ∧ (5 : Address) ≠ 0)
      root := rfl
      secondary := rfl
      linked := ⟨rfl, rfl⟩
      wallet := rfl
      controlled := (by decide : (5 : Address) ≠ 0)
      controller := rfl
      epoch := rfl }
  bearers :=
    { enrollDigest := rfl
      enrollSigner := sampleHexes_recover (by decide) _
      linkDigest := rfl
      linkSigner := sampleHexes_recover (by decide) _
      noRootDigest := rfl
      noRoot := ⟨⟨rfl, rfl, rfl, rfl, rfl, rfl⟩, rfl⟩ }
  branch :=
    { quote :=
        { signer := (by decide : (8 : Address) ≠ 0)
          id := (by decide : (91 : Bytes32) ≠ 0)
          action := rfl
          payer := rfl
          recipient := rfl
          token := ⟨rfl, (by decide : (27 : Address) ≠ 0)⟩
          queried := rfl
          amount := (by decide : (3 : Word 128) ≠ 0 ∧ (3 : Word 128) ≤ 5)
          window := (by decide : (0 : Word 64) ≤ 10 ∧ (10 : Word 64) < 500)
          manifests := rfl
          manifestHash := ⟨rfl, rfl⟩
          schedule := ⟨(by decide : (70 : Bytes32) ≠ 0), rfl⟩
          authorized := rfl
          config := ⟨sampleFeeConfig_hash_ne, rfl, rfl⟩
          core := (sponsorEnrollmentCoreHash_quoted (sampleIntent 500 v1Deadline 0) _).symm
          signature := sampleHexes_recover (by decide) _ }
      hash := rfl
      mode := rfl }
  effects :=
    { sponsor := sampleHexes_recover (by decide) _
      id := (by decide : (90 : Bytes32) ≠ 0)
      nonce := rfl
      v1Nonce := .inl rfl
      distinct := (by decide : (7 : Address) ≠ 5)
      deadline := (by decide : (10 : Word 64) < 500)
      linkNonce := rfl }
  fee :=
    { mode := rfl
      fields := ⟨rfl, rfl, (by decide : (3 : Word 128) ≤ 3)⟩
      timely := (by decide : ¬ (500 : Word 64) < 10) }

theorem sampleDisclosed (v1Deadline : Word 64) :
    Disclosed sampleSite sampleGateway sampleUnenrolled sampleManifest
      (sampleCall 500 v1Deadline) where
  live := ⟨rfl, rfl⟩
  registered := rfl
  running := rfl
  intentFresh := rfl
  quoteFresh := rfl
  quoteSigner := rfl
  feeSafe := rfl
  listed := rfl
  turn := .inl ⟨rfl, rfl⟩
  unlinked := rfl
  free := rfl
  permit := rfl

theorem sampleDeployed : Deployed sampleSite sampleGateway sampleUnenrolled where
  idle := rfl
  accounts := (by decide : (20 : Address) ≠ 0 ∧ (25 : Address) ≠ 0)
  bound := rfl

/-- **The enrollment was valid until 5, and it is 10: the preflight passes, and the gateway
reverts.** -/
theorem expired_enrollment_passes :
    readLivePreflightState (chainAt sampleSite sampleGateway sampleUnenrolled 100) sampleManifest 5
      7 = .ok sampleState
      ∧ (∃ report, preflightSponsoredEnrollment sampleCurve (sampleCall 500 5) sampleState
        sampleManifest = .ok report
        ∧ report.disposition = .relaySponsored)
      ∧ Disclosed sampleSite sampleGateway sampleUnenrolled sampleManifest (sampleCall 500 5)
      ∧ (∃ x, (sampleCall 500 5).onChain = some x)
      ∧ ∀ x sender, (sampleCall 500 5).onChain = some x →
        ¬ ∃ r, sampleSite.execute sampleGateway sampleUnenrolled sender (.enrollment x)
        = .ok r := by
  refine ⟨sampleRead, preflight_ok.mpr (sampleCall_passed 5), sampleDisclosed 5,
    sampleCall_sent rfl, ?_⟩
  intro x sender hx hexecute
  have hlands := (execute_iff_lands sampleSite).mp hexecute
  have hundisclosed := undisclosed_of_lands rfl (onChain_some.mp hx) (sampleCall_passed 5) hlands
  have htimely : 10 ≤ 5 := hundisclosed.timely rfl
  omega

/-- An enrollment that is valid until 500 goes through. -/
theorem passing_lands_sample : ∃ x, (sampleCall 500 500).onChain = some x
    ∧ ∃ r, sampleSite.execute sampleGateway sampleUnenrolled 9 (.enrollment x) = .ok r := by
  obtain ⟨report, hpassed, hrelay⟩ := preflight_ok.mpr (sampleCall_passed 500)
  refine (passing_lands_iff sampleCurve sampleSite rfl sampleGateway sampleUnenrolled sampleDeployed
    100 sampleManifest ⟨rfl, rfl⟩ sampleRead hpassed hrelay (sampleDisclosed 500) 9).mpr ?_
  obtain ⟨hfive, hseven, height⟩ := sampleHex_decodes
  have hcanonical : Canonical (sampleSigned 5) ∧ Canonical (sampleSigned 7)
    ∧ Canonical (sampleSigned 8) := by
    refine ⟨⟨?_, ?_⟩, ⟨?_, ?_⟩, ⟨?_, ?_⟩⟩ <;> decide +kernel
  have hdecoded : ∀ {hex : Text} {sent : EthSignature}, decodeHexBytes hex = some sent →
    Canonical sent →
      ∀ signature, decodeHexBytes hex = some signature → Canonical signature := by
    intro hex sent hsent hsigned signature hsignature
    rw [hsent] at hsignature
    cases hsignature
    exact hsigned
  exact
    { fits := by
        have hsmall : (500 : Nat) < 2 ^ 48 ∧ (0 : Nat) < 2 ^ 48 := by norm_num
        simp only [SponsoredEnrollmentCall.timestamps, List.forall_mem_cons]
        exact ⟨hsmall.1, hsmall.1, hsmall.2, hsmall.1, fun _ h => absurd h List.not_mem_nil⟩
      timely := fun _ => (by decide : 10 ≤ 500)
      canonical := by
        simp only [SponsoredEnrollmentCall.signatures, List.forall_mem_cons]
        exact ⟨hdecoded hseven hcanonical.2.1, hdecoded hseven hcanonical.2.1,
          hdecoded height hcanonical.2.2,
          hdecoded hfive hcanonical.1, fun _ h => absurd h List.not_mem_nil⟩
      funded := (by decide : 3 ≤ sampleUnenrolled.balance 27 5)
      distinct := (by decide : (5 : Address) ≠ 25)
      running := rfl
      allowed := fun h => absurd h (by decide) }

end GoatCoin.StreamG.Preflight
