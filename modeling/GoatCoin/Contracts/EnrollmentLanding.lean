/-
# `GoatCoin.Contracts.EnrollmentLanding` — when a sponsored enrollment goes through

The checks of the gateway, of the two registries and of the token, in one list:

    Cleared     the gateway before its first call: the intent, the bearer signatures, the quote, the marks
    EntersV1    the registry of enrollments: submitted, or found submitted
    Links       the registry of wallets
    Fee…        the permit and the transfer of the fee, unless the controller pays in ether

An enrollment goes through exactly if the list holds (`execute_iff_lands`).
-/
import GoatCoin.Contracts.AuthorizationBinding
import GoatCoin.Contracts.EnrollmentFrontRun

namespace GoatCoin

open Function (update update_self)
open Evm StreamG StreamGCommon

namespace StreamGEnroll

/-! ## The gateway -/

/-- The quote, or that there is none. -/
structure QuoteCleared (e : Ecdsa) (ctx : Ctx) (w : World) (g : GoatRelayGateway) (sender : Address)
    (x : EnrollmentCall) : Prop where
  direct : IsDirectEth x.intent → sender = x.intent.controller ∧ x.quoteSignature.length = 0
    ∧ x.quote = zeroQuote ∧ x.feeAuthorization.mode = AuthorizationMode.none.ordinal
  quoted : ¬ IsDirectEth x.intent →
    Consumed e ctx w g (quoteCheck x.intent) x.quote x.quoteSignature
    ∧ x.intent.feeQuoteHash = digest ctx (feeQuoteStructHash x.quote)
    ∧ x.intent.feeAuthorizationMode = AuthorizationMode.eip2612.ordinal

/-- What the gateway checks before it calls anybody. -/
structure Cleared (e : Ecdsa) (ctx : Ctx) (w : World) (g : GoatRelayGateway) (sender : Address)
    (x : EnrollmentCall) : Prop where
  deadline : w.now < x.intent.deadline.val
  nonzero : x.intent.secondary ≠ 0 ∧ x.intent.root ≠ 0
  linked : x.intent.secondary = x.link.secondary ∧ x.intent.root = x.link.root
  wallet : x.v1Enrollment.wallet = x.intent.secondary
  registered : w.wallets.primaryOf x.intent.root = x.intent.root
  running : w.wallets.suspendedClusters x.intent.root = false
  controlled : w.wallets.controllerOf x.intent.root ≠ 0
  controller : x.intent.controller = w.wallets.controllerOf x.intent.root
  epoch : x.intent.controllerEpoch.val = w.wallets.controllerEpoch x.intent.root
  enrollDigest : v1EnrollDigest ctx w x.v1Enrollment = x.intent.enrollDigest
  enrollSigner : e.recover (v1EnrollDigest ctx w x.v1Enrollment) x.v1Enrollment.signature
    = .ok x.intent.secondary
  linkDigest : linkDigest ctx w x.link = x.intent.linkDigest
  linkSigner : e.recover (StreamGEnroll.linkDigest ctx w x.link) x.linkSignature
    = .ok x.intent.secondary
  noRootDigest : x.intent.rootAuthorizationDigest = 0
  noRoot : x.rootAuthorization = .zero ∧ x.rootAuthorizationSignature.length = 0
  quote : QuoteCleared e ctx w g sender x
  sponsor : e.recover (digest ctx (sponsorEnrollmentStructHash x.intent)) x.sponsorSignature
    = .ok x.intent.controller
  id : x.intent.intentId ≠ 0
  fresh : g.intentUsed x.intent.intentId = false
  nonce : g.actionNonces x.intent.controller actionSponsoredEnrollment = x.intent.nonce.val
  counts : x.intent.nonce.val + 1 < 2 ^ 256

section
variable {e : Ecdsa} {ctx : Ctx} {w : World} {g : GoatRelayGateway} {sender : Address}
  {x : EnrollmentCall}

theorem checkQuote_iff :
    (∃ g', checkQuote e ctx w g sender x = .ok g' ∧ g'.intentUsed = g.intentUsed
      ∧ g'.actionNonces = g.actionNonces)
    ↔ QuoteCleared e ctx w g sender x := by
  unfold checkQuote
  constructor
  · rintro ⟨g', h, -, -⟩
    split at h
    · rename_i hdirect
      obtain ⟨_, hsender, _, hsignature, _, hquote, _, hmode, -⟩ := bind_ok₄.mp h
      exact ⟨fun _ => ⟨require_ok.mp hsender, require_ok.mp hsignature, require_ok.mp hquote,
        require_ok.mp hmode⟩, fun hnot => absurd hdirect hnot⟩
    · rename_i hdirect
      obtain ⟨g₁, hconsumed, _, hhash, _, hmode, -⟩ := bind_ok₃.mp h
      exact ⟨fun hyes => absurd hyes hdirect,
        fun _ => ⟨(validateAndConsumeQuote_ok.mp hconsumed).1, require_ok.mp hhash,
          require_ok.mp hmode⟩⟩
  · intro h
    split
    · rename_i hdirect
      obtain ⟨hsender, hsignature, hquote, hmode⟩ := h.direct hdirect
      exact ⟨g,
        bind_ok₄.mpr ⟨_, require_of hsender, _, require_of hsignature, _, require_of hquote, _,
        require_of hmode, rfl⟩, rfl, rfl⟩
    · rename_i hdirect
      obtain ⟨hconsumed, hhash, hmode⟩ := h.quoted hdirect
      exact ⟨_,
        bind_ok₃.mpr ⟨_, validateAndConsumeQuote_ok.mpr ⟨hconsumed, rfl⟩, _, require_of hhash, _,
        require_of hmode, rfl⟩, rfl, rfl⟩

theorem checkQuote_marks {g' : GoatRelayGateway} (h : checkQuote e ctx w g sender x = .ok g') :
    g'.intentUsed = g.intentUsed ∧ g'.actionNonces = g.actionNonces := by
  unfold checkQuote at h
  split at h
  · obtain ⟨_, -, h⟩ := bind_ok.mp h
    obtain ⟨_, -, _, -, _, -, h⟩ := bind_ok₃.mp h
    cases h
    exact ⟨rfl, rfl⟩
  · obtain ⟨g₁, hconsumed, h⟩ := bind_ok.mp h
    obtain ⟨_, -, _, -, h⟩ := bind_ok₂.mp h
    cases h
    obtain ⟨-, rfl⟩ := validateAndConsumeQuote_ok.mp hconsumed
    exact ⟨rfl, rfl⟩

theorem cleared_of_authorize {g' : GoatRelayGateway} (h : authorize e ctx w g sender x = .ok g') :
    Cleared e ctx w g sender x := by
  obtain ⟨_, hdeadline, _, hnonzero, _, hlinked, _, hwallet, h⟩ := bind_ok₄.mp h
  obtain ⟨_, hregistered, _, hrunning, _, hcontrolled, _, hcontroller, h⟩ := bind_ok₄.mp h
  obtain ⟨_, hepoch, _, henrollDigest, enrollSigner, henroll, _, henrollSigner, h⟩ := bind_ok₄.mp h
  obtain ⟨_, hlinkDigest, linkSigner, hlink, _, hlinkSigner, _, hnoRootDigest, h⟩ := bind_ok₄.mp h
  obtain ⟨_, hnoRoot, g₁, hquote, sponsor, hsponsor, _, hsponsorSigner, h⟩ := bind_ok₄.mp h
  obtain ⟨⟨hid, hfresh, hnonce, hcounts⟩, -⟩ := markIntentAndNonce_ok.mp h
  obtain ⟨hused, hnonces⟩ := checkQuote_marks hquote
  have hnonzero := not_or.mp (require_ok.mp hnonzero)
  have hlinked := not_or.mp (require_ok.mp hlinked)
  rw [require_ok.mp henrollSigner] at henroll
  rw [require_ok.mp hlinkSigner] at hlink
  rw [require_ok.mp hsponsorSigner] at hsponsor
  rw [hused] at hfresh
  rw [hnonces] at hnonce
  exact
    { deadline := require_ok.mp hdeadline
      nonzero := hnonzero
      linked := ⟨not_not.mp hlinked.1, not_not.mp hlinked.2⟩
      wallet := require_ok.mp hwallet
      registered := require_ok.mp hregistered
      running := require_ok.mp hrunning
      controlled := require_ok.mp hcontrolled
      controller := require_ok.mp hcontroller
      epoch := require_ok.mp hepoch
      enrollDigest := require_ok.mp henrollDigest
      enrollSigner := henroll
      linkDigest := require_ok.mp hlinkDigest
      linkSigner := hlink
      noRootDigest := require_ok.mp hnoRootDigest
      noRoot := require_ok.mp hnoRoot
      quote := checkQuote_iff.mp ⟨g₁, hquote, hused, hnonces⟩
      sponsor := hsponsor
      id := hid
      fresh := hfresh
      nonce := hnonce
      counts := hcounts }

theorem authorize_of_cleared (h : Cleared e ctx w g sender x) :
    ∃ g', authorize e ctx w g sender x = .ok g' := by
  obtain ⟨g₁, hquote, hused, hnonces⟩ := checkQuote_iff.mpr h.quote
  have hmark :=
    markIntentAndNonce_ok.mpr ⟨⟨h.id, by rw [hused]; exact h.fresh, by rw [hnonces]; exact h.nonce,
    h.counts⟩, rfl⟩
  exact ⟨_, bind_ok₄.mpr ⟨_, require_of h.deadline, _, require_of (not_or.mpr h.nonzero), _,
    require_of (not_or.mpr ⟨not_not.mpr h.linked.1, not_not.mpr h.linked.2⟩), _,
    require_of h.wallet,
    bind_ok₄.mpr ⟨_, require_of h.registered, _, require_of h.running, _,
      require_of h.controlled, _,
    require_of h.controller, bind_ok₄.mpr ⟨_, require_of h.epoch, _, require_of h.enrollDigest, _,
    h.enrollSigner, _, require_of rfl, bind_ok₄.mpr ⟨_, require_of h.linkDigest, _, h.linkSigner, _,
    require_of rfl, _, require_of h.noRootDigest,
    bind_ok₄.mpr ⟨_, require_of h.noRoot, _, hquote, _, h.sponsor, _, require_of rfl, hmark⟩⟩⟩⟩⟩⟩

/-! ## The registries -/

/-- The signature is submitted in time, or was. -/
structure EntersV1 (w : World) (v : V1Enrollment) : Prop where
  listed : w.v1.blacklisted v.wallet = false
  turn : w.v1.enrolled v.wallet = false ∧ w.v1.nonces v.wallet = v.nonce.val
    ∧ w.now ≤ v.deadline.val
    ∨ w.v1.enrolled v.wallet = true ∧ w.v1.nonces v.wallet = v.nonce.val + 1
  counts : v.nonce.val + 1 < 2 ^ 256

/-- The registry after it. -/
def v1After (w : World) (v : V1Enrollment) : EnrollmentRegistry :=
  if w.v1.enrolled v.wallet = true then w.v1 else w.v1.entered v.wallet

theorem v1After_eligible {v : V1Enrollment} (h : EntersV1 w v) :
    (v1After w v).enrolled v.wallet = true ∧ (v1After w v).blacklisted v.wallet = false := by
  unfold v1After
  split
  · rename_i henrolled
    exact ⟨henrolled, h.listed⟩
  · exact ⟨@update_self _ (fun _ => Bool) _ v.wallet true w.v1.enrolled, h.listed⟩

theorem enrollV1_iff {v : V1Enrollment}
    (hsigned : e.recover (v1EnrollDigest ctx w v) v.signature = .ok v.wallet) (hne : v.wallet ≠ 0) :
    enrollV1OrAcceptFrontRun e ctx w v = .ok (v1After w v) ↔ EntersV1 w v := by
  constructor
  · intro h
    obtain ⟨hlisted, hcounts, hturn⟩ := enrollV1OrAcceptFrontRun_ok h
    refine ⟨hlisted, ?_, hcounts⟩
    rcases hturn with ⟨hout, hnonce, -⟩ | ⟨hin, hnonce, -⟩
    · refine .inl ⟨hout, hnonce, ?_⟩
      obtain ⟨_, -, h⟩ := bind_ok.mp h
      rw [if_pos ⟨hout, hnonce⟩] at h
      obtain ⟨_, hdeadline, -⟩ := bind_ok.mp h
      exact require_ok.mp hdeadline
    · exact .inr ⟨hin, hnonce⟩
  · rintro ⟨hlisted, ⟨hout, hnonce, hdeadline⟩ | ⟨hin, hnonce⟩, hcounts⟩
    · have hafter : v1After w v = w.v1.entered v.wallet :=
        if_neg (by rw [hout]; exact Bool.false_ne_true)
      have hdigest : e.recover (hashTypedData (v1Domain ctx w)
          (enrollStructHash v.wallet (w.v1.nonces v.wallet) v.deadline.val)) v.signature
          = .ok v.wallet := by
        rw [hnonce]
        exact hsigned
      refine bind_ok.mpr ⟨_, require_of hlisted, ?_⟩
      rw [if_pos ⟨hout, hnonce⟩, hafter]
      exact bind_ok₄.mpr ⟨_, require_of hdeadline, _, require_of hne, _,
        checked_ok.mpr ⟨by rw [hnonce]; exact hcounts, rfl⟩, _, hdigest,
        bind_ok₃.mpr ⟨_, require_of rfl, _, require_of hlisted, _, require_of hout, rfl⟩⟩
    · have hafter : v1After w v = w.v1 := if_pos hin
      refine bind_ok.mpr ⟨_, require_of hlisted, ?_⟩
      rw [if_neg fun hlive => Bool.false_ne_true (hlive.1.symm.trans hin), if_pos hin, hafter]
      exact bind_ok₄.mpr ⟨_, checked_ok.mpr ⟨hcounts, rfl⟩, _, require_of hnonce, _, hsigned,
        _, require_of rfl, rfl⟩

theorem eq_v1After {v : V1Enrollment} {r : EnrollmentRegistry}
    (h : enrollV1OrAcceptFrontRun e ctx w v = .ok r) : r = v1After w v := by
  obtain ⟨-, -, ⟨hout, -, heq⟩ | ⟨hin, -, heq⟩⟩ := enrollV1OrAcceptFrontRun_ok h
  · rw [heq, v1After, if_neg (by rw [hout]; exact Bool.false_ne_true)]
  · rw [heq, v1After, if_pos hin]

/-- The registry of wallets takes the link. -/
structure Links (ctx : Ctx) (w : World) (link : LinkSecondary) : Prop where
  gateway : ctx.self = w.wallets.gateway
  distinct : link.secondary ≠ link.root
  deadline : w.now < link.deadline.val
  nonce : link.nonce.val = w.wallets.linkNonces link.secondary
  unlinked : w.wallets.primaryOf link.secondary = 0
  free : w.wallets.controlledRootOf link.secondary = 0
  counts : link.nonce.val + 1 < 2 ^ 256

theorem linkSecondary_iff (hcleared : Cleared e ctx w g sender x) {v1 : EnrollmentRegistry}
    (heligible : v1.enrolled x.link.secondary = true ∧ v1.blacklisted x.link.secondary = false) :
    (∃ wallets, w.wallets.linkSecondary e (walletsDomain ctx w) v1 w.now ctx.self x.link
      x.linkSignature .zero []
        = .ok wallets)
      ↔ Links ctx w x.link := by
  have hroot : w.wallets.rootOfLink e (walletsDomain ctx w) v1 w.now x.link .zero []
    = .ok w.wallets := by
    unfold WalletSponsorshipRegistry.rootOfLink
    have hregistered := hcleared.registered
    rw [hcleared.linked.2] at hregistered
    have hne : w.wallets.primaryOf x.link.root ≠ 0 := by
      rw [hregistered, ← hcleared.linked.2]
      exact hcleared.nonzero.2
    rw [if_neg hne]
    exact bind_ok₂.mpr ⟨_, require_of ⟨rfl, rfl⟩, _, require_of hregistered, rfl⟩
  constructor
  · rintro ⟨wallets, h⟩
    obtain ⟨_, hgateway, _, -, _, hdistinct, _, hdeadline, h⟩ := bind_ok₄.mp h
    obtain ⟨_, hnonce, _, hunlinked, _, hfree, _, -, h⟩ := bind_ok₄.mp h
    obtain ⟨_, -, _, -, _, -, h⟩ := bind_ok₃.mp h
    obtain ⟨_, -, _, hcounts, -⟩ := bind_ok₂.mp h
    exact ⟨require_ok.mp hgateway, require_ok.mp hdistinct, require_ok.mp hdeadline,
      require_ok.mp hnonce, require_ok.mp hunlinked, require_ok.mp hfree, (checked_ok.mp hcounts).1⟩
  · intro h
    have hzero : ¬ (x.link.root = 0 ∨ x.link.secondary = 0) := by
      rw [← hcleared.linked.1, ← hcleared.linked.2]
      exact not_or.mpr ⟨hcleared.nonzero.2, hcleared.nonzero.1⟩
    have hrunning := hcleared.running
    have hsigner := hcleared.linkSigner
    rw [hcleared.linked.2] at hrunning
    rw [hcleared.linked.1] at hsigner
    exact ⟨_,
      bind_ok₄.mpr ⟨_, require_of h.gateway, _, require_of hzero, _, require_of h.distinct, _,
      require_of h.deadline,
      bind_ok₄.mpr ⟨_, require_of h.nonce, _, require_of h.unlinked, _, require_of h.free,
      _, require_of heligible,
      bind_ok₄.mpr ⟨_, hroot, _, require_of hrunning, _, hsigner, _, require_of rfl,
      bind_ok.mpr ⟨_, checked_ok.mpr ⟨h.counts, rfl⟩, rfl⟩⟩⟩⟩⟩

end

end StreamGEnroll

/-! ## The fee -/

namespace StreamGCommon

variable {e : Ecdsa} {ctx : Ctx} {w : World} {payer feeToken : Address} {feeAmount : Nat}
  {p : Eip2612Authorization}

/-- What a fee by a permit takes. -/
structure FeeCollected (e : Ecdsa) (ctx : Ctx) (w : World) (payer feeToken : Address)
    (feeAmount : Nat) (p : Eip2612Authorization) : Prop where
  fields : p.owner = payer ∧ p.spender = ctx.self ∧ feeAmount ≤ p.value.val
  permits : (w.tokens feeToken).permits = true
  timely : w.now ≤ p.deadline.val
  signed : e.recoverVrs ((w.tokens feeToken).permitDigest p) p.v p.r p.s = .ok p.owner
  accounts : payer ≠ 0 ∧ ctx.self ≠ 0 ∧ ctx.feeSafe ≠ 0
  allowed : (w.tokens feeToken).coin.restricted → w.v1.registry.isTransferAllowed payer ctx.feeSafe
  running : (w.tokens feeToken).coin.paused = false
  funded : feeAmount ≤ w.balance feeToken payer
  distinct : payer ≠ ctx.feeSafe

/-- The token after a permit. -/
def permitted (t : Token) (p : Eip2612Authorization) : Token :=
  { t with
    coin.token.allowances := update t.coin.token.allowances p.owner
      (update (t.coin.token.allowances p.owner) p.spender p.value.val)
    nonces := update t.nonces p.owner ((t.nonces p.owner + 1) % 2 ^ 256) }

theorem permit_iff {t t' : Token} {now : Nat} : t.permit e now p = .ok t'
    ↔ (t.permits = true ∧ now ≤ p.deadline.val
      ∧ e.recoverVrs (t.permitDigest p) p.v p.r p.s = .ok p.owner
        ∧ p.owner ≠ 0 ∧ p.spender ≠ 0) ∧ t' = permitted t p := by
  constructor
  · intro h
    obtain ⟨_, hpermits, _, htimely, signer, hsigner, h⟩ := bind_ok₃.mp h
    obtain ⟨_, hsame, token, happrove, h⟩ := bind_ok₂.mp h
    obtain ⟨_, howner, _, hspender, happrove⟩ := bind_ok₂.mp happrove
    cases happrove
    cases h
    rw [require_ok.mp hsame] at hsigner
    exact ⟨⟨require_ok.mp hpermits, require_ok.mp htimely, hsigner, require_ok.mp howner,
      require_ok.mp hspender⟩, rfl⟩
  · rintro ⟨⟨hpermits, htimely, hsigned, howner, hspender⟩, rfl⟩
    exact bind_ok₃.mpr ⟨_, require_of hpermits, _, require_of htimely, _, hsigned, bind_ok₂.mpr ⟨_,
      require_of rfl, _, bind_ok₂.mpr ⟨_, require_of howner, _, require_of hspender, rfl⟩, rfl⟩⟩

theorem requireGain_iff {t : Erc20} {src dst : Address} {amount : Nat} (hamount : amount ≠ 0)
    (hle : amount ≤ t.balances src) :
    t.balances dst + amount < 2 ^ 256
    ∧ Erc20.moved t.balances src dst amount dst = t.balances dst + amount
      ↔ src ≠ dst := by
  constructor
  · rintro ⟨-, hmoved⟩ rfl
    rw [Erc20.moved_self hle] at hmoved
    omega
  · intro hne
    refine ⟨?_, Erc20.moved_dst hne⟩
    have hbound := (t.move src dst amount hle).balance_lt dst
    exact (Erc20.moved_dst hne) ▸ hbound

theorem transferFrom_iff {t : Token} (r : Registry) {sender src : Address}
    (dst : Address) {amount : Nat}
    (hsrc : src ≠ 0) (hsender : sender ≠ 0) (hallowed : amount ≤ t.allowance src sender) :
    (∃ t', t.transferFrom r sender src dst amount = .ok t')
      ↔ dst ≠ 0 ∧ (t.coin.restricted → r.isTransferAllowed src dst) ∧ t.coin.paused = false
        ∧ amount ≤ t.balanceOf src := by
  obtain ⟨spent, hspent, hbalances, -⟩ := Erc20.spendAllowance_of_le hsrc hsender hallowed
  constructor
  · rintro ⟨t', h⟩
    obtain ⟨coin, hcoin, -⟩ := bind_ok.mp h
    obtain ⟨token, -, _, hcheck, -⟩ := bind_ok₂.mp hcoin
    obtain ⟨_, -, _, hdst, _, hregistry, hpaused⟩ := bind_ok₃.mp hcheck
    obtain ⟨coin', hcoin', -⟩ := bind_ok.mp h
    exact ⟨require_ok.mp hdst, require_ok.mp hregistry, require_ok.mp hpaused,
      (Goat.transferFrom_ok hcoin').1.le⟩
  · rintro ⟨hdst, hregistry, hpaused, hle⟩
    have hle' : amount ≤ spent.balances src := by
      rw [hbalances]
      exact hle
    exact ⟨_, bind_ok.mpr ⟨_, bind_ok₃.mpr ⟨spent, hspent, (), bind_ok₃.mpr ⟨_, require_of hsrc, _,
      require_of hdst, _, require_of hregistry, require_of hpaused⟩, _,
        Erc20.transfer_of_le hsrc hdst hle', rfl⟩, rfl⟩⟩

theorem permitted_allowance (t : Token) (p : Eip2612Authorization) :
    (permitted t p).allowance p.owner p.spender = p.value.val := by
  show update t.coin.token.allowances p.owner (update (t.coin.token.allowances p.owner) p.spender
    p.value.val) p.owner p.spender = p.value.val
  rw [update_self, update_self]

theorem setToken_self (w : World) (token : Address) (t : Token) :
    (w.setToken token t).tokens token = t := by
  rw [World.tokens_setToken, if_pos rfl]

theorem collectEip2612_iff (hamount : feeAmount ≠ 0) :
    (∃ w', collectEip2612 e ctx w payer feeToken feeAmount p = .ok w')
      ↔ FeeCollected e ctx w payer feeToken feeAmount p := by
  have htoken := setToken_self w feeToken (permitted (w.tokens feeToken) p)
  constructor
  · rintro ⟨w', h⟩
    obtain ⟨_, hfields, h⟩ := bind_ok.mp h
    obtain ⟨howner, hrest⟩ := not_or.mp (require_ok.mp hfields)
    obtain ⟨hspender, hvalue⟩ := not_or.mp hrest
    rw [not_not] at howner hspender
    obtain ⟨w₁, hpermit, h⟩ := bind_ok.mp h
    obtain ⟨t₁, hpermit, hw₁⟩ := bind_ok.mp hpermit
    obtain ⟨⟨hpermits, htimely, hsigned, hpayer, hself⟩, rfl⟩ := permit_iff.mp hpermit
    cases hw₁
    obtain ⟨w₂, htransfer, h⟩ := bind_ok.mp h
    obtain ⟨t₂, hmove, hw₂⟩ := bind_ok.mp htransfer
    cases hw₂
    rw [htoken] at hmove
    have hallowance :
      feeAmount ≤ (permitted (w.tokens feeToken) p).allowance p.owner p.spender := by
      rw [permitted_allowance]
      exact Nat.le_of_not_lt hvalue
    rw [howner, hspender] at hallowance
    rw [howner] at hpayer
    rw [hspender] at hself
    obtain ⟨hsafe, hallowed, hrunning, hfunded⟩ :=
      (transferFrom_iff w.v1.registry ctx.feeSafe hpayer hself hallowance).mp ⟨t₂, hmove⟩
    obtain ⟨_, hgain, -⟩ := bind_ok.mp h
    obtain ⟨after, hafter, hgain⟩ := bind_ok.mp hgain
    obtain ⟨hbound, rfl⟩ := checked_ok.mp hafter
    have hbalance := require_ok.mp hgain
    obtain ⟨coin, hcoin, ht₂⟩ := bind_ok.mp hmove
    cases ht₂
    have hmoved := (Goat.transferFrom_ok hcoin).1.balances_eq
    unfold World.balance at hbalance hbound
    rw [setToken_self] at hbalance
    rw [htoken] at hbalance hbound
    have hdistinct :=
      (requireGain_iff hamount hfunded).mp
        ⟨hbound, (congrFun hmoved ctx.feeSafe).symm.trans hbalance⟩
    exact ⟨⟨howner, hspender, Nat.le_of_not_lt hvalue⟩, hpermits, htimely, hsigned,
      ⟨hpayer, hself, hsafe⟩, hallowed, hrunning, hfunded, hdistinct⟩
  · intro h
    obtain ⟨howner, hspender, hvalue⟩ := h.fields
    obtain ⟨hpayer, hself, hsafe⟩ := h.accounts
    have hpermit :=
      permit_iff.mpr ⟨⟨h.permits, h.timely, h.signed, howner ▸ hpayer, hspender ▸ hself⟩, rfl⟩
    have hallowance :
      feeAmount ≤ (permitted (w.tokens feeToken) p).allowance p.owner p.spender := by
      rw [permitted_allowance]
      exact hvalue
    rw [howner, hspender] at hallowance
    obtain ⟨t₂, hmove⟩ := (transferFrom_iff w.v1.registry ctx.feeSafe hpayer hself hallowance).mpr
      ⟨hsafe, h.allowed, h.running, h.funded⟩
    obtain ⟨hbound, hgain⟩ := (requireGain_iff hamount h.funded).mpr h.distinct
    obtain ⟨coin, hcoin, ht₂⟩ := bind_ok.mp hmove
    have hmoved := congrFun (Goat.transferFrom_ok hcoin).1.balances_eq ctx.feeSafe
    have hfields : ¬ (p.owner ≠ payer ∨ p.spender ≠ ctx.self ∨ p.value.val < feeAmount) :=
      not_or.mpr ⟨not_not.mpr howner, not_or.mpr ⟨not_not.mpr hspender, Nat.not_lt.mpr hvalue⟩⟩
    refine ⟨_,
      bind_ok₄.mpr ⟨_, require_of hfields, _, bind_ok.mpr ⟨_, hpermit, rfl⟩, _, bind_ok.mpr ⟨t₂,
      by rw [htoken]; exact hmove, rfl⟩, (),
      bind_ok.mpr ⟨_, checked_ok.mpr ⟨?_, rfl⟩, require_of ?_⟩, rfl⟩⟩
    · unfold World.balance
      rw [htoken]
      exact hbound
    · unfold World.balance
      rw [setToken_self, htoken]
      cases ht₂
      exact hmoved.trans hgain

theorem FeeCollected.withWallets (h : FeeCollected e ctx w payer feeToken feeAmount p)
    (wallets : WalletSponsorshipRegistry) :
    FeeCollected e ctx { w with wallets } payer feeToken feeAmount p :=
  { h with }

end StreamGCommon

/-! ## The whole call -/

namespace StreamGEnroll

/-- **What an enrollment that goes through takes.** -/
structure Lands (d : RelaySite) (g : GoatRelayGateway) (w : World) (sender : Address)
    (x : EnrollmentCall) : Prop where
  live : g.entered = false ∧ g.activated = true ∧ g.paused = false
  cleared : Cleared d.ecdsa (g.ctx d.config w) w g sender x
  enters : EntersV1 w x.v1Enrollment
  links : Links (g.ctx d.config w) w x.link
  fee : ¬ IsDirectEth x.intent → x.feeAuthorization.mode = AuthorizationMode.eip2612.ordinal
    ∧ FeeCollected d.ecdsa (g.ctx d.config w) { w with v1 := v1After w x.v1Enrollment }
      x.intent.controller x.intent.feeToken x.quote.feeAmount.val x.feeAuthorization.eip2612

section
variable {e : Ecdsa} {ctx : Ctx} {w : World} {g : GoatRelayGateway} {sender : Address}
  {x : EnrollmentCall}

theorem Cleared.withEntered (h : Cleared e ctx w g sender x) (entered : Bool) :
    Cleared e ctx w { g with entered } sender x :=
  { h with
    quote :=
      { direct := h.quote.direct
        quoted := fun hdirect =>
          have hquote := h.quote.quoted hdirect
          ⟨{ hquote.1 with }, hquote.2⟩ } }

theorem settle_iff (hcleared : Cleared e ctx w g sender x) : (∃ w', settle e ctx w x = .ok w')
    ↔ EntersV1 w x.v1Enrollment ∧ Links ctx w x.link
      ∧ (¬ IsDirectEth x.intent → x.feeAuthorization.mode = AuthorizationMode.eip2612.ordinal
        ∧ FeeCollected e ctx { w with v1 := v1After w x.v1Enrollment } x.intent.controller
          x.intent.feeToken
          x.quote.feeAmount.val x.feeAuthorization.eip2612) := by
  have hamount : ¬ IsDirectEth x.intent → x.quote.feeAmount.val ≠ 0 := fun hdirect hzero =>
    (hcleared.quote.quoted hdirect).1.amount.1 (Fin.ext hzero)
  have hsigned : e.recover (v1EnrollDigest ctx w x.v1Enrollment) x.v1Enrollment.signature
      = .ok x.v1Enrollment.wallet := by
    rw [hcleared.wallet]
    exact hcleared.enrollSigner
  have hwallet : x.v1Enrollment.wallet ≠ 0 := by
    rw [hcleared.wallet]
    exact hcleared.nonzero.1
  have hsecondary : x.v1Enrollment.wallet = x.link.secondary :=
    hcleared.wallet.trans hcleared.linked.1
  constructor
  · rintro ⟨w', h⟩
    obtain ⟨v1, henroll, h⟩ := bind_ok.mp h
    obtain rfl := eq_v1After henroll
    have henters := (enrollV1_iff hsigned hwallet).mp henroll
    obtain ⟨wallets, hlink, h⟩ := bind_ok.mp h
    have heligible := v1After_eligible henters
    rw [hsecondary] at heligible
    refine ⟨henters, (linkSecondary_iff hcleared heligible).mp ⟨wallets, hlink⟩, fun hdirect => ?_⟩
    dsimp only at h
    rw [if_neg hdirect] at h
    obtain ⟨_, hmode, h⟩ := bind_ok.mp h
    have hfee := (collectEip2612_iff (hamount hdirect)).mp ⟨w', h⟩
    exact ⟨require_ok.mp hmode, { hfee with }⟩
  · rintro ⟨henters, hlinks, hfee⟩
    have heligible := v1After_eligible henters
    rw [hsecondary] at heligible
    obtain ⟨wallets, hlink⟩ := (linkSecondary_iff hcleared heligible).mpr hlinks
    by_cases hdirect : IsDirectEth x.intent
    · refine ⟨{ w with v1 := v1After w x.v1Enrollment, wallets }, bind_ok₂.mpr ⟨_,
      (enrollV1_iff hsigned hwallet).mpr henters, wallets, hlink, ?_⟩⟩
      exact if_pos hdirect
    · obtain ⟨hmode, hcollected⟩ := hfee hdirect
      obtain ⟨w', hcollect⟩ :=
        (collectEip2612_iff (hamount hdirect)).mpr (hcollected.withWallets wallets)
      refine ⟨w', bind_ok₂.mpr ⟨_, (enrollV1_iff hsigned hwallet).mpr henters, wallets, hlink, ?_⟩⟩
      dsimp only
      rw [if_neg hdirect]
      exact bind_ok.mpr ⟨_, require_of hmode, hcollect⟩

/-- **An enrollment goes through exactly if the list holds.** -/
theorem execute_iff_lands (d : RelaySite) : (∃ r, d.execute g w sender (.enrollment x) = .ok r)
    ↔ Lands d g w sender x := by
  rw [RelaySite.execute_some]
  constructor
  · rintro ⟨⟨g', hopening⟩, hsettle⟩
    obtain ⟨g₁, henter, hauthorize⟩ := bind_ok.mp hopening
    obtain ⟨_, hentered, _, hactivated, _, hpaused, henter⟩ := bind_ok₃.mp henter
    cases henter
    have hcleared : Cleared d.ecdsa (g.ctx d.config w) w g sender x :=
      (cleared_of_authorize hauthorize).withEntered g.entered
    obtain ⟨henters, hlinks, hfee⟩ := (settle_iff hcleared).mp hsettle
    exact ⟨⟨require_ok.mp hentered, require_ok.mp hactivated, require_ok.mp hpaused⟩, hcleared,
      henters, hlinks, hfee⟩
  · rintro ⟨⟨hentered, hactivated, hpaused⟩, hcleared, henters, hlinks, hfee⟩
    obtain ⟨g', hauthorize⟩ := authorize_of_cleared (hcleared.withEntered true)
    exact ⟨⟨g', bind_ok.mpr ⟨_, bind_ok₃.mpr ⟨_, require_of hentered, _, require_of hactivated, _,
      require_of hpaused, rfl⟩, hauthorize⟩⟩, (settle_iff hcleared).mpr ⟨henters, hlinks, hfee⟩⟩

end

end StreamGEnroll

end GoatCoin
