/-
# `GoatCoin.Contracts.AuthorizationBinding` — which authorisation an intent is executed with

An intent carries the digest of the authorisation by which its signer wants to pay, and the relayer
hands in an authorisation.  Nothing compares the two.  So what a relayer can use is decided by the
token, or for a prior allowance by the signature alone:

    EIP2612            the owner's permit to the gateway over the next nonce, not expired
    EIP3009            the owner's transfer to the gateway over an unused nonce, in time
    PRIOR_ALLOWANCE    the owner's consent for this intent, not expired

`Like` relates the worlds after two authorisations: they differ in allowances and nonces, and an
execution that succeeds in the one succeeds in the other.  So any usable authorisation can stand in
for the one that was used.
-/
import GoatCoin.Contracts.SponsoredSale

namespace GoatCoin

open Function (update update_self)
open Evm StreamG StreamGCommon

/-! ## Worlds that differ in allowances -/

namespace World

/-- The same balances, gates and time. -/
structure Like (w w' : World) : Prop where
  now : w'.now = w.now
  registry : w'.v1.registry = w.v1.registry
  balances : w'.balance = w.balance
  gates : ∀ token, (w'.tokens token).coin.restricted = (w.tokens token).coin.restricted
    ∧ (w'.tokens token).coin.paused = (w.tokens token).coin.paused

end World

theorem Erc20.transfer_like {t t₁ t' : Erc20} {src dst : Address} {value : Nat}
    (h : t.transfer src dst value = .ok t₁) (hb : t'.balances = t.balances) :
    ∃ t₁', t'.transfer src dst value = .ok t₁' ∧ t₁'.balances = t₁.balances
      ∧ t₁'.allowances = t'.allowances := by
  obtain ⟨hle, hmoved, -, -⟩ := transfer_ok h
  obtain ⟨_, hsrc, _, hdst, h⟩ := bind_ok₂.mp h
  rw [← hb] at hle
  refine ⟨_, transfer_of_le (require_ok.mp hsrc) (require_ok.mp hdst) hle, ?_, rfl⟩
  rw [hmoved, ← hb]
  rfl

theorem Goat.checkUpdate_like {g g' : Goat} {r : Registry} {src dst : Address} {u : Unit}
    (h : g.checkUpdate r src dst = .ok u) (hrestricted : g'.restricted = g.restricted)
    (hpaused : g'.paused = g.paused) : g'.checkUpdate r src dst = .ok () := by
  obtain ⟨_, hsrc, _, hdst, _, hallowed, h⟩ := bind_ok₃.mp h
  rw [← hrestricted] at hallowed
  rw [← hpaused] at h
  exact bind_ok₃.mpr ⟨_, hsrc, _, hdst, _, hallowed, h⟩

namespace World

variable {w w' w₁ : World}

theorem Like.of_setToken {token : Address} {t t' : Token} (h : w.Like w')
    (hbalances : t'.balanceOf = t.balanceOf)
    (hgates : t'.coin.restricted = t.coin.restricted ∧ t'.coin.paused = t.coin.paused) :
    (w.setToken token t).Like (w'.setToken token t') := by
  refine ⟨h.now, h.registry, funext fun token' => funext fun a => ?_, fun token' => ?_⟩
  · rw [balance, balance, tokens_setToken, tokens_setToken]
    split
    · rw [hbalances]
    · exact congrFun (congrFun h.balances token') a
  · rw [tokens_setToken, tokens_setToken]
    split
    · exact hgates
    · exact h.gates token'

theorem Like.refl (w : World) : w.Like w := ⟨rfl, rfl, rfl, fun _ => ⟨rfl, rfl⟩⟩

theorem Like.coins (h : w.Like w') (token : Address) :
    (w'.tokens token).coin.token.balances = (w.tokens token).coin.token.balances :=
  congrFun h.balances token

theorem Like.requireGain (h : w.Like w') (token a : Address) (before amount : Nat) (e : Revert) :
    w'.requireGain token a before amount e = w.requireGain token a before amount e := by
  rw [World.requireGain, World.requireGain, h.balances]

theorem Like.requireLoss (h : w.Like w') (token a : Address) (before amount : Nat) (e : Revert) :
    w'.requireLoss token a before amount e = w.requireLoss token a before amount e := by
  rw [World.requireLoss, World.requireLoss, h.balances]

theorem Like.transfer {token src dst : Address} {amount : Nat} (hlike : w.Like w')
    (h : w.transfer token src dst amount = .ok w₁) :
    ∃ w₁', w'.transfer token src dst amount = .ok w₁' ∧ w₁.Like w₁' := by
  obtain ⟨t, ht, h⟩ := bind_ok.mp h
  cases h
  obtain ⟨coin, hcoin, ht⟩ := bind_ok.mp ht
  cases ht
  obtain ⟨_, hcheck, coins, hcoins, hcoin⟩ := bind_ok₂.mp hcoin
  cases hcoin
  obtain ⟨hrestricted, hpaused⟩ := hlike.gates token
  obtain ⟨coins', hcoins', hbalances, -⟩ := Erc20.transfer_like hcoins (hlike.coins token)
  have hcheck' := Goat.checkUpdate_like hcheck hrestricted hpaused
  rw [← hlike.registry] at hcheck'
  exact ⟨_,
    bind_ok.mpr ⟨_, bind_ok.mpr ⟨_, bind_ok₂.mpr ⟨_, hcheck', coins', hcoins', rfl⟩, rfl⟩, rfl⟩,
    hlike.of_setToken hbalances ⟨hrestricted, hpaused⟩⟩

theorem Like.transferFrom {token sender src dst : Address} {amount : Nat} (hlike : w.Like w')
    (h : w.transferFrom token sender src dst amount = .ok w₁) (hsender : sender ≠ 0)
    (hallow : amount ≤ (w'.tokens token).allowance src sender) :
    ∃ w₁', w'.transferFrom token sender src dst amount = .ok w₁' ∧ w₁.Like w₁'
      ∧ (w'.tokens token).allowance src sender
        ≤ (w₁'.tokens token).allowance src sender + amount := by
  obtain ⟨t, ht, h⟩ := bind_ok.mp h
  cases h
  obtain ⟨coin, hcoin, ht⟩ := bind_ok.mp ht
  cases ht
  obtain ⟨spent, hspend, _, hcheck, coins, hcoins, hcoin⟩ := bind_ok₃.mp hcoin
  cases hcoin
  obtain ⟨hrestricted, hpaused⟩ := hlike.gates token
  have hsrc : src ≠ 0 := require_ok.mp (bind_ok.mp hcheck).choose_spec.1
  obtain ⟨spent', hspend', hkept, hleft⟩ := Erc20.spendAllowance_of_le hsrc hsender hallow
  have hsame : spent'.balances = spent.balances := by
    rw [hkept, (Erc20.spendAllowance_ok hspend).1]
    exact hlike.coins token
  obtain ⟨coins', hcoins', hbalances, hallowances⟩ := Erc20.transfer_like hcoins hsame
  have hcheck' := Goat.checkUpdate_like hcheck hrestricted hpaused
  rw [← hlike.registry] at hcheck'
  refine ⟨_,
    bind_ok.mpr
    ⟨_, bind_ok.mpr ⟨_, bind_ok₃.mpr ⟨spent', hspend', _, hcheck', coins', hcoins', rfl⟩,
    rfl⟩, rfl⟩, hlike.of_setToken hbalances ⟨hrestricted, hpaused⟩,
    ?_⟩
  rw [tokens_setToken, if_pos rfl]
  show _ ≤ coins'.allowances src sender + amount
  rw [hallowances]
  exact hleft

end World

/-! ## What is usable -/

/-- What an authorisation is for: the mode and the amount are the intent's, and with `exact` no
other amount will do. -/
structure Terms where
  token : Address
  owner : Address
  mode : Word 8
  amount : Nat
  exact : Bool
  intentId : Bytes32
  actionType : Bytes32

def Terms.Fits (terms : Terms) (value : Nat) : Prop :=
  if terms.exact then value = terms.amount else terms.amount ≤ value

/-- A permit that the token takes. -/
structure StreamG.Eip2612Authorization.Usable (p : Eip2612Authorization) (e : Ecdsa)
    (spender : Address) (w : World) (terms : Terms) : Prop where
  owner : p.owner = terms.owner
  spender : p.spender = spender
  value : terms.Fits p.value.val
  deadline : w.now ≤ p.deadline.val
  signature : e.recoverVrs ((w.tokens terms.token).permitDigest p) p.v p.r p.s = .ok terms.owner

/-- A signed transfer that the token takes. -/
structure StreamG.Eip3009Authorization.Usable (a : Eip3009Authorization) (e : Ecdsa) (dst : Address)
    (w : World) (terms : Terms) : Prop where
  src : a.src = terms.owner
  dst : a.dst = dst
  value : a.value.val = terms.amount
  window : a.validAfter.val < w.now ∧ w.now < a.validBefore.val
  fresh : (w.tokens terms.token).authorizationState terms.owner a.nonce = false
  signature : e.recoverVrs ((w.tokens terms.token).authorizationDigest a) a.v a.r a.s
    = .ok terms.owner

/-- A consent for the intent that the gateway takes. -/
structure StreamG.PriorAllowanceAuthorization.Usable (p : PriorAllowanceAuthorization)
    (e : Ecdsa) (ctx : Ctx) (w : World) (terms : Terms) (signature : EthSignature) : Prop where
  intent : p.intentId = terms.intentId ∧ p.actionType = terms.actionType
  owner : p.owner = terms.owner ∧ p.token = terms.token ∧ p.spender = ctx.self
  value : terms.Fits p.value.val
  deadline : w.now < p.deadline.val
  signature : e.recover (digest ctx (priorAllowanceStructHash p)) signature = .ok terms.owner

/-- An authorisation in the mode of the intent that would be taken. -/
def StreamG.TokenAuthorization.Usable (auth : TokenAuthorization) (e : Ecdsa)
    (ctx : Ctx) (w : World) (terms : Terms) : Prop :=
  auth.mode = terms.mode
    ∧ (auth.mode = AuthorizationMode.eip2612.ordinal → auth.eip2612.Usable e ctx.self w terms)
    ∧ (auth.mode = AuthorizationMode.eip3009.ordinal → auth.eip3009.Usable e ctx.self w terms)
    ∧ (auth.mode = AuthorizationMode.priorAllowance.ordinal →
      auth.priorAllowance.Usable e ctx w terms auth.priorAllowanceSignature)

/-- What the owner's signature in an authorisation is over. -/
def StreamG.TokenAuthorization.digest (auth : TokenAuthorization) (t : Token)
    (ctx : Ctx) : Bytes32 :=
  if auth.mode = AuthorizationMode.eip2612.ordinal then t.permitDigest auth.eip2612
  else if auth.mode = AuthorizationMode.eip3009.ordinal then t.authorizationDigest auth.eip3009
  else StreamGCommon.digest ctx (priorAllowanceStructHash auth.priorAllowance)

/-! ## One authorisation for another -/

section
variable {e : Ecdsa} {ctx : Ctx} {w w₁ : World} {terms : Terms}
variable {p q : Eip2612Authorization} {a b : Eip3009Authorization} {signature : EthSignature}

theorem permit_usable (h : w.permit e terms.token p = .ok w₁)
    (howner : p.owner = terms.owner) (hspender : p.spender = ctx.self)
    (hvalue : terms.Fits p.value.val) : p.Usable e ctx.self w terms ∧ ctx.self ≠ 0 := by
  obtain ⟨t, ht, h⟩ := bind_ok.mp h
  obtain ⟨_, -, _, hdeadline, signer, hsigner, ht⟩ := bind_ok₃.mp ht
  obtain ⟨_, hsame, coins, happrove, -⟩ := bind_ok₂.mp ht
  obtain ⟨_, -, _, hself, -⟩ := bind_ok₂.mp happrove
  rw [require_ok.mp hsame, howner] at hsigner
  exact ⟨⟨howner, hspender, hvalue, require_ok.mp hdeadline, hsigner⟩,
    hspender ▸ require_ok.mp hself⟩

theorem permit_swap (h : w.permit e terms.token p = .ok w₁)
    (howner : p.owner = terms.owner) (hspender : p.spender = ctx.self)
    (hq : q.Usable e ctx.self w terms) :
    ∃ w₁', w.permit e terms.token q = .ok w₁' ∧ w₁.Like w₁'
      ∧ (w₁'.tokens terms.token).allowance terms.owner ctx.self = q.value.val := by
  obtain ⟨t, ht, h⟩ := bind_ok.mp h
  cases h
  obtain ⟨_, hpermits, _, -, _, -, ht⟩ := bind_ok₃.mp ht
  obtain ⟨_, -, coins, happrove, ht⟩ := bind_ok₂.mp ht
  cases ht
  obtain ⟨_, hzero, _, hself, happrove⟩ := bind_ok₂.mp happrove
  cases happrove
  rw [howner, ← hq.owner] at hzero
  rw [hspender, ← hq.spender] at hself
  have hsigner := hq.signature
  refine ⟨_,
    bind_ok.mpr
    ⟨_, bind_ok₃.mpr ⟨_, hpermits, _, require_of hq.deadline, _, hsigner, bind_ok₂.mpr ⟨_,
    require_of hq.owner.symm, _, bind_ok₂.mpr ⟨_, hzero, _, hself, rfl⟩, rfl⟩⟩, rfl⟩,
    (World.Like.refl w).of_setToken rfl ⟨rfl, rfl⟩, ?_⟩
  rw [World.tokens_setToken, if_pos rfl]
  show update (w.tokens terms.token).coin.token.allowances q.owner
    (update ((w.tokens terms.token).coin.token.allowances q.owner) q.spender q.value.val)
    terms.owner ctx.self = q.value.val
  rw [hq.owner, hq.spender, update_self, update_self]

theorem receive_usable
    (h : w.receiveWithAuthorization e terms.token a = .ok w₁) (hsrc : a.src = terms.owner)
    (hdst : a.dst = ctx.self) (hvalue : a.value.val = terms.amount) :
    a.Usable e ctx.self w terms := by
  obtain ⟨t, ht, -⟩ := bind_ok.mp h
  obtain ⟨_, -, _, hafter, _, hbefore, _, hfresh, ht⟩ := bind_ok₄.mp ht
  obtain ⟨signer, hsigner, _, hsame, -⟩ := bind_ok₂.mp ht
  rw [require_ok.mp hsame, hsrc] at hsigner
  have hfresh := require_ok.mp hfresh
  rw [hsrc] at hfresh
  exact ⟨hsrc, hdst, hvalue, ⟨require_ok.mp hafter, require_ok.mp hbefore⟩, hfresh, hsigner⟩

theorem receive_swap
    (h : w.receiveWithAuthorization e terms.token a = .ok w₁) (hsrc : a.src = terms.owner)
    (hdst : a.dst = ctx.self) (hvalue : a.value.val = terms.amount)
    (hb : b.Usable e ctx.self w terms) :
    ∃ w₁', w.receiveWithAuthorization e terms.token b = .ok w₁' ∧ w₁.Like w₁' := by
  obtain ⟨t, ht, h⟩ := bind_ok.mp h
  cases h
  obtain ⟨_, hauthorizes, _, -, _, -, _, -, ht⟩ := bind_ok₄.mp ht
  obtain ⟨_, -, _, -, coin, hcoin, ht⟩ := bind_ok₃.mp ht
  cases ht
  have hmove : (w.tokens terms.token).coin.transfer w.v1.registry b.src b.dst b.value.val
    = .ok coin := by
    rw [hb.src, hb.dst, hb.value, ← hsrc, ← hdst, ← hvalue]
    exact hcoin
  have hfresh := hb.fresh
  rw [← hb.src] at hfresh
  exact ⟨_,
    bind_ok.mpr
    ⟨_, bind_ok₄.mpr ⟨_, hauthorizes, _, require_of hb.window.1, _, require_of hb.window.2,
    _, require_of hfresh,
      bind_ok₃.mpr ⟨_, hb.signature, _, require_of hb.src.symm, coin, hmove, rfl⟩⟩, rfl⟩,
    (World.Like.refl w).of_setToken rfl ⟨rfl, rfl⟩⟩

/-! ### Collecting a fee -/

theorem Terms.fits_loose (hloose : terms.exact = false) (value : Nat) :
    terms.Fits value ↔ terms.amount ≤ value := by
  rw [Fits, hloose]
  rfl

theorem collectEip2612_usable (terms : Terms) (hloose : terms.exact = false)
    (h : collectEip2612 e ctx w terms.owner terms.token terms.amount p = .ok w₁) :
    p.Usable e ctx.self w terms := by
  obtain ⟨_, hfields, w₂, hpermit, -⟩ := bind_ok₂.mp h
  obtain ⟨howner, hrest⟩ := not_or.mp (require_ok.mp hfields)
  obtain ⟨hspender, hvalue⟩ := not_or.mp hrest
  exact (permit_usable hpermit (not_not.mp howner) (not_not.mp hspender)
    ((terms.fits_loose hloose _).mpr (Nat.le_of_not_lt hvalue))).1

theorem collectEip2612_swap (terms : Terms) (hloose : terms.exact = false)
    (h : collectEip2612 e ctx w terms.owner terms.token terms.amount p = .ok w₁)
    (hq : q.Usable e ctx.self w terms) :
    ∃ w₁', collectEip2612 e ctx w terms.owner terms.token terms.amount q = .ok w₁' := by
  obtain ⟨_, hfields, w₂, hpermit, w₃, htransfer, _, hgain, -⟩ := bind_ok₄.mp h
  obtain ⟨howner, hrest⟩ := not_or.mp (require_ok.mp hfields)
  obtain ⟨hspender, hvalue⟩ := not_or.mp hrest
  rw [not_not] at howner hspender
  have hfits := (terms.fits_loose hloose _).mp hq.value
  obtain ⟨-, hself⟩ := permit_usable hpermit howner hspender
    ((terms.fits_loose hloose _).mpr (Nat.le_of_not_lt hvalue))
  obtain ⟨w₂', hpermit', hlike, hallow⟩ := permit_swap hpermit howner hspender hq
  obtain ⟨w₃', htransfer', hlike', -⟩ :=
    hlike.transferFrom htransfer hself (by rw [hallow]; exact hfits)
  have hfields' : ¬ (q.owner ≠ terms.owner ∨ q.spender ≠ ctx.self ∨ q.value.val < terms.amount) :=
    not_or.mpr ⟨not_not.mpr hq.owner, not_or.mpr ⟨not_not.mpr hq.spender, Nat.not_lt.mpr hfits⟩⟩
  have hgain' := (hlike'.requireGain terms.token ctx.feeSafe (w₂'.balance terms.token ctx.feeSafe)
    terms.amount .unexpectedBalanceDelta)
  rw [hlike.balances, hgain] at hgain'
  exact ⟨w₃', bind_ok₄.mpr ⟨_, require_of hfields', w₂', hpermit', w₃', htransfer', _,
    by rw [hlike.balances]; exact hgain', rfl⟩⟩

theorem collectEip3009_usable
    (h : collectEip3009 e ctx w terms.owner terms.token terms.amount a = .ok w₁) :
    a.Usable e ctx.self w terms := by
  obtain ⟨_, hfields, _, -, w₂, hreceive, -⟩ := bind_ok₃.mp h
  obtain ⟨hsrc, hrest⟩ := not_or.mp (require_ok.mp hfields)
  obtain ⟨hdst, hvalue⟩ := not_or.mp hrest
  exact receive_usable hreceive (not_not.mp hsrc) (not_not.mp hdst) (not_not.mp hvalue)

theorem collectEip3009_swap
    (h : collectEip3009 e ctx w terms.owner terms.token terms.amount a = .ok w₁)
    (hb : b.Usable e ctx.self w terms) :
    ∃ w₁', collectEip3009 e ctx w terms.owner terms.token terms.amount b = .ok w₁' := by
  obtain ⟨_, hfields, _, -, w₂, hreceive, _, hgained, h⟩ := bind_ok₄.mp h
  obtain ⟨w₃, htransfer, _, hgain, _, hsame, -⟩ := bind_ok₃.mp h
  obtain ⟨hsrc, hrest⟩ := not_or.mp (require_ok.mp hfields)
  obtain ⟨hdst, hvalue⟩ := not_or.mp hrest
  rw [not_not] at hsrc hdst hvalue
  obtain ⟨w₂', hreceive', hlike⟩ := receive_swap hreceive hsrc hdst hvalue hb
  obtain ⟨w₃', htransfer', hlike'⟩ := hlike.transfer htransfer
  have hfields' : ¬ (b.src ≠ terms.owner ∨ b.dst ≠ ctx.self ∨ b.value.val ≠ terms.amount) :=
    not_or.mpr ⟨not_not.mpr hb.src, not_or.mpr ⟨not_not.mpr hb.dst, not_not.mpr hb.value⟩⟩
  have hsame' : w₃'.balance terms.token ctx.self = w.balance terms.token ctx.self := by
    rw [hlike'.balances]
    exact require_ok.mp hsame
  exact ⟨w₃', bind_ok₄.mpr ⟨_, require_of hfields', _, require_of hb.window, w₂', hreceive', _,
    (hlike.requireGain ..).trans hgained,
    bind_ok₃.mpr ⟨w₃', htransfer', _, (hlike'.requireGain ..).trans hgain,
    _, require_of hsame', rfl⟩⟩⟩

theorem collectPriorAllowance_usable (hloose : terms.exact = false)
    {p : PriorAllowanceAuthorization}
    (h : collectPriorAllowance e ctx w terms.owner terms.token terms.amount p
      signature terms.intentId
      terms.actionType = .ok w₁) : p.Usable e ctx w terms signature := by
  obtain ⟨_, hfields, _, hdeadline, signer, hsigner, _, hsame, -⟩ := bind_ok₄.mp h
  rw [require_ok.mp hsame] at hsigner
  have hfields := require_ok.mp hfields
  simp only [not_or, not_not, Nat.not_lt] at hfields
  obtain ⟨hid, haction, howner, htoken, hspender, hvalue⟩ := hfields
  exact ⟨⟨hid, haction⟩, ⟨howner, htoken, hspender⟩, (terms.fits_loose hloose _).mpr hvalue,
    require_ok.mp hdeadline, hsigner⟩

theorem collectPriorAllowance_swap (hloose : terms.exact = false)
    {p q : PriorAllowanceAuthorization} {signature' : EthSignature}
    (h : collectPriorAllowance e ctx w terms.owner terms.token terms.amount p
      signature terms.intentId
      terms.actionType = .ok w₁) (hq : q.Usable e ctx w terms signature') :
    ∃ w₁', collectPriorAllowance e ctx w terms.owner terms.token terms.amount q signature'
      terms.intentId terms.actionType = .ok w₁' := by
  obtain ⟨_, -, _, -, _, -, _, -, h⟩ := bind_ok₄.mp h
  have hfields : ¬ (q.intentId ≠ terms.intentId ∨ q.actionType ≠ terms.actionType
      ∨ q.owner ≠ terms.owner ∨ q.token ≠ terms.token ∨ q.spender ≠ ctx.self
      ∨ q.value.val < terms.amount) := by
    simp only [not_or, not_not, Nat.not_lt]
    exact ⟨hq.intent.1, hq.intent.2, hq.owner.1, hq.owner.2.1, hq.owner.2.2,
      (terms.fits_loose hloose _).mp hq.value⟩
  exact ⟨w₁, bind_ok₄.mpr ⟨_, require_of hfields, _, require_of hq.deadline, _, hq.signature, _,
    require_of rfl, h⟩⟩

/-- One of three, by the mode. -/
def byMode (mode : Word 8) (permit signed prior : Except Revert World) : Except Revert World :=
  if mode = AuthorizationMode.eip2612.ordinal then permit
  else if mode = AuthorizationMode.eip3009.ordinal then signed
  else if mode = AuthorizationMode.priorAllowance.ordinal then prior
  else .error .unsupportedFeeMode

theorem byMode_iff {mode : Word 8}
    {permit signed prior permit' signed' prior' : Except Revert World}
    {P Q R : Prop} (h : byMode mode permit signed prior = .ok w₁)
    (hpermit : ∀ w₁, permit = .ok w₁ → ((∃ w', permit' = .ok w') ↔ P))
    (hsigned : ∀ w₁, signed = .ok w₁ → ((∃ w', signed' = .ok w') ↔ Q))
    (hprior : ∀ w₁, prior = .ok w₁ → ((∃ w', prior' = .ok w') ↔ R)) :
    (∃ w', byMode mode permit' signed' prior' = .ok w')
      ↔ (mode = AuthorizationMode.eip2612.ordinal → P)
      ∧ (mode = AuthorizationMode.eip3009.ordinal → Q)
        ∧ (mode = AuthorizationMode.priorAllowance.ordinal → R) := by
  unfold byMode at h ⊢
  split at h
  · rename_i hmode
    have hno : ¬ mode = AuthorizationMode.eip3009.ordinal := by rw [hmode]; decide
    have hno' : ¬ mode = AuthorizationMode.priorAllowance.ordinal := by rw [hmode]; decide
    rw [if_pos hmode, hpermit w₁ h]
    exact ⟨fun hp => ⟨fun _ => hp, fun hm => absurd hm hno, fun hm => absurd hm hno'⟩,
      fun hall => hall.1 hmode⟩
  · rename_i hno
    split at h
    · rename_i hmode
      have hno' : ¬ mode = AuthorizationMode.priorAllowance.ordinal := by rw [hmode]; decide
      rw [if_neg hno, if_pos hmode, hsigned w₁ h]
      exact ⟨fun hq => ⟨fun hm => absurd hm hno, fun _ => hq, fun hm => absurd hm hno'⟩,
        fun hall => hall.2.1 hmode⟩
    · rename_i hno'
      split at h
      · rename_i hmode
        rw [if_neg hno, if_neg hno', if_pos hmode, hprior w₁ h]
        exact ⟨fun hr => ⟨fun hm => absurd hm hno, fun hm => absurd hm hno', fun _ => hr⟩,
          fun hall => hall.2.2 hmode⟩
      · cases h

/-- **A fee is collected by a usable authorisation, and by any other usable one as well.** -/
theorem collectFee_iff (terms : Terms) (hloose : terms.exact = false)
    {auth auth' : TokenAuthorization}
    (h : collectFee e ctx w terms.owner terms.token terms.amount auth terms.intentId
      terms.actionType
      = .ok w₁) (hmode : auth.mode = terms.mode) (hmode' : auth'.mode = terms.mode) :
    (∃ w₁', collectFee e ctx w terms.owner terms.token terms.amount auth' terms.intentId
      terms.actionType = .ok w₁') ↔ auth'.Usable e ctx w terms := by
  obtain ⟨_, hsome, h⟩ := bind_ok.mp h
  have hcollect : collectFee e ctx w terms.owner terms.token terms.amount auth' terms.intentId
      terms.actionType = byMode auth'.mode
        (collectEip2612 e ctx w terms.owner terms.token terms.amount auth'.eip2612)
        (collectEip3009 e ctx w terms.owner terms.token terms.amount auth'.eip3009)
        (collectPriorAllowance e ctx w terms.owner terms.token terms.amount auth'.priorAllowance
          auth'.priorAllowanceSignature terms.intentId terms.actionType) := by
    rw [collectFee, hsome]
    rfl
  rw [hcollect, TokenAuthorization.Usable, hmode', ← hmode]
  rw [byMode_iff h (fun w₁ hp => ⟨fun ⟨w', hp'⟩ => collectEip2612_usable terms hloose hp',
    collectEip2612_swap terms hloose hp⟩) (fun w₁ hs => ⟨fun ⟨w', hs'⟩ => collectEip3009_usable hs',
    collectEip3009_swap hs⟩)
      (fun w₁ ha => ⟨fun ⟨w', ha'⟩ => collectPriorAllowance_usable hloose ha',
    collectPriorAllowance_swap hloose ha⟩)]
  exact (and_iff_right rfl).symm

/-! ### Transferring a token -/

theorem Terms.fits_exact (hexact : terms.exact = true) (value : Nat) :
    terms.Fits value ↔ value = terms.amount := by
  rw [Fits, hexact]
  rfl

theorem splitFromOwner_like {w' : World} {owner token recipient : Address} {amount feeAmount : Nat}
    (h : StreamGTransfers.splitFromOwner ctx w owner token recipient amount feeAmount = .ok w₁)
    (hlike : w.Like w') (hself : ctx.self ≠ 0)
    (hallow : amount + feeAmount ≤ (w'.tokens token).allowance owner ctx.self) :
    ∃ w₁', StreamGTransfers.splitFromOwner ctx w' owner token recipient amount feeAmount
    = .ok w₁' := by
  obtain ⟨w₂, hamount, w₃, hfee, left, hleft, _, hloss, h⟩ := bind_ok₄.mp h
  obtain ⟨_, hgain, _, hsafe, -⟩ := bind_ok₂.mp h
  obtain ⟨w₂', hamount', hlike₂, hrest⟩ := hlike.transferFrom hamount hself (by omega)
  obtain ⟨w₃', hfee', hlike₃, -⟩ := hlike₂.transferFrom hfee hself (by omega)
  rw [StreamGTransfers.splitFromOwner]
  simp only [hlike.balances]
  exact ⟨w₃',
    bind_ok₄.mpr ⟨w₂', hamount', w₃', hfee', left, hleft, _, (hlike₃.requireLoss ..).trans hloss,
    bind_ok₂.mpr ⟨_, (hlike₃.requireGain ..).trans hgain, _,
      (hlike₃.requireGain ..).trans hsafe, rfl⟩⟩⟩

/-- The terms of a transfer of a token. -/
def usdtTerms (intent : UsdtTransferIntent) (feeAmount : Nat) : Terms where
  token := intent.token
  owner := intent.owner
  mode := intent.authorizationMode
  amount := intent.amount.val + feeAmount
  exact := true
  intentId := intent.intentId
  actionType := actionUsdtTransfer

variable {intent : UsdtTransferIntent} {feeAmount : Nat}

theorem byPermit_iff
    (h : StreamGTransfers.byPermit e ctx w intent p feeAmount (intent.amount.val + feeAmount)
      = .ok w₁) :
    (∃ w', StreamGTransfers.byPermit e ctx w intent q feeAmount (intent.amount.val + feeAmount)
      = .ok w')
      ↔ q.Usable e ctx.self w (usdtTerms intent feeAmount) := by
  have hinv : ∀ {p w₁}, StreamGTransfers.byPermit e ctx w intent p feeAmount
      (intent.amount.val + feeAmount) = .ok w₁ → ∃ w₂, w.permit e intent.token p = .ok w₂
        ∧ p.owner = intent.owner ∧ p.spender = ctx.self
        ∧ (usdtTerms intent feeAmount).Fits p.value.val
        ∧ StreamGTransfers.splitFromOwner ctx w₂ intent.owner intent.token intent.recipient
          intent.amount.val feeAmount = .ok w₁ := by
    intro p w₁ h
    obtain ⟨_, hfields, w₂, hpermit, h⟩ := bind_ok₂.mp h
    have hfields := require_ok.mp hfields
    simp only [not_or, not_not] at hfields
    exact ⟨w₂, hpermit, hfields.1, hfields.2.1, (Terms.fits_exact rfl _).mpr hfields.2.2, h⟩
  obtain ⟨w₂, hpermit, howner, hspender, hfits, hsplit⟩ := hinv h
  constructor
  · rintro ⟨w', h'⟩
    obtain ⟨w₂', hpermit', howner', hspender', hfits', -⟩ := hinv h'
    exact (permit_usable hpermit' howner' hspender' hfits').1
  · intro hq
    obtain ⟨-, hself⟩ := permit_usable hpermit howner hspender hfits
    obtain ⟨w₂', hpermit', hlike, hallow⟩ := permit_swap hpermit howner hspender hq
    have hvalue : q.value.val = intent.amount.val + feeAmount :=
      (Terms.fits_exact rfl _).mp hq.value
    obtain ⟨w₁', hsplit'⟩ := splitFromOwner_like hsplit hlike hself (by
      rw [hvalue] at hallow
      exact hallow.ge)
    have hfields : ¬ (q.owner ≠ intent.owner ∨ q.spender ≠ ctx.self
        ∨ q.value.val ≠ intent.amount.val + feeAmount) := by
      simp only [not_or, not_not]
      exact ⟨hq.owner, hq.spender, hvalue⟩
    exact ⟨w₁', bind_ok₂.mpr ⟨_, require_of hfields, w₂', hpermit', hsplit'⟩⟩

theorem byAuthorization_iff
    (h : StreamGTransfers.byAuthorization e ctx w intent a feeAmount (intent.amount.val + feeAmount)
      = .ok w₁) :
    (∃ w', StreamGTransfers.byAuthorization e ctx w intent b feeAmount
      (intent.amount.val + feeAmount)
      = .ok w') ↔ b.Usable e ctx.self w (usdtTerms intent feeAmount) := by
  constructor
  · rintro ⟨w', h'⟩
    obtain ⟨_, hfields, _, -, w₂, hreceive, -⟩ := bind_ok₃.mp h'
    have hfields := require_ok.mp hfields
    simp only [not_or, not_not] at hfields
    obtain ⟨hsrc, hdst, hvalue⟩ := hfields
    exact receive_usable hreceive hsrc hdst hvalue
  · intro hb
    obtain ⟨_, hfields, _, -, w₂, hreceive, _, hgained, h⟩ := bind_ok₄.mp h
    obtain ⟨w₃, hamount, w₄, hfee, _, hgain, h⟩ := bind_ok₃.mp h
    obtain ⟨_, hsafe, _, hsame, -⟩ := bind_ok₂.mp h
    have hfields := require_ok.mp hfields
    simp only [not_or, not_not] at hfields
    obtain ⟨hsrc, hdst, hvalue⟩ := hfields
    obtain ⟨w₂', hreceive', hlike⟩ :=
      receive_swap hreceive hsrc hdst hvalue hb
    obtain ⟨w₃', hamount', hlike₃⟩ := hlike.transfer hamount
    obtain ⟨w₄', hfee', hlike₄⟩ := hlike₃.transfer hfee
    have hfields' : ¬ (b.src ≠ intent.owner ∨ b.dst ≠ ctx.self
        ∨ b.value.val ≠ intent.amount.val + feeAmount) := by
      simp only [not_or, not_not]
      exact ⟨hb.src, hb.dst, hb.value⟩
    have hsame' : w₄'.balance intent.token ctx.self = w.balance intent.token ctx.self := by
      rw [hlike₄.balances]
      exact require_ok.mp hsame
    refine ⟨w₄', bind_ok₄.mpr ⟨_, require_of hfields', _, require_of hb.window, w₂', hreceive', _,
      (hlike.requireGain ..).trans hgained, ?_⟩⟩
    simp only [hlike.balances]
    exact bind_ok₃.mpr ⟨w₃', hamount', w₄', hfee', _, (hlike₄.requireGain ..).trans hgain,
      bind_ok₂.mpr ⟨_, (hlike₄.requireGain ..).trans hsafe, _, require_of hsame', rfl⟩⟩

theorem byPriorAllowance_iff {p q : PriorAllowanceAuthorization} {signature' : EthSignature}
    (h : StreamGTransfers.byPriorAllowance e ctx w intent p signature feeAmount
      (intent.amount.val + feeAmount) = .ok w₁) :
    (∃ w', StreamGTransfers.byPriorAllowance e ctx w intent q signature' feeAmount
      (intent.amount.val + feeAmount) = .ok w')
      ↔ q.Usable e ctx w (usdtTerms intent feeAmount) signature' := by
  constructor
  · rintro ⟨w', h'⟩
    obtain ⟨_, hfields, _, hdeadline, signer, hsigner, _, hsame, -⟩ := bind_ok₄.mp h'
    rw [require_ok.mp hsame] at hsigner
    have hfields := require_ok.mp hfields
    simp only [not_or, not_not] at hfields
    obtain ⟨hid, haction, howner, htoken, hspender, hvalue⟩ := hfields
    exact ⟨⟨hid, haction⟩, ⟨howner, htoken, hspender⟩, (Terms.fits_exact rfl _).mpr hvalue,
      require_ok.mp hdeadline, hsigner⟩
  · intro hq
    obtain ⟨_, -, _, -, _, -, _, -, h⟩ := bind_ok₄.mp h
    have hfields : ¬ (q.intentId ≠ intent.intentId ∨ q.actionType ≠ actionUsdtTransfer
        ∨ q.owner ≠ intent.owner ∨ q.token ≠ intent.token ∨ q.spender ≠ ctx.self
        ∨ q.value.val ≠ intent.amount.val + feeAmount) := by
      simp only [not_or, not_not]
      exact ⟨hq.intent.1, hq.intent.2, hq.owner.1, hq.owner.2.1, hq.owner.2.2,
        (Terms.fits_exact rfl _).mp hq.value⟩
    exact ⟨w₁, bind_ok₄.mpr ⟨_, require_of hfields, _, require_of hq.deadline, _, hq.signature, _,
      require_of rfl, h⟩⟩

/-- **A token is transferred by a usable authorisation, and by any other usable one as well.** -/
theorem executeUsdtTransferWithAuth_iff {auth auth' : TokenAuthorization}
    (h : StreamGTransfers.executeUsdtTransferWithAuth e ctx w intent auth feeAmount = .ok w₁)
    (hmode : auth.mode = intent.authorizationMode)
    (hmode' : auth'.mode = intent.authorizationMode) :
    (∃ w', StreamGTransfers.executeUsdtTransferWithAuth e ctx w intent auth' feeAmount = .ok w')
      ↔ auth'.Usable e ctx w (usdtTerms intent feeAmount) := by
  obtain ⟨total, htotal, h⟩ := bind_ok.mp h
  have hexecute : StreamGTransfers.executeUsdtTransferWithAuth e ctx w intent auth' feeAmount
      = byMode auth'.mode
        (StreamGTransfers.byPermit e ctx w intent auth'.eip2612 feeAmount total)
        (StreamGTransfers.byAuthorization e ctx w intent auth'.eip3009 feeAmount total)
        (StreamGTransfers.byPriorAllowance e ctx w intent auth'.priorAllowance
          auth'.priorAllowanceSignature feeAmount total) := by
    rw [StreamGTransfers.executeUsdtTransferWithAuth, htotal]
    rfl
  obtain ⟨-, rfl⟩ := checked_ok.mp htotal
  rw [hexecute, TokenAuthorization.Usable, hmode', ← hmode]
  rw [byMode_iff h (fun w₁ hp => byPermit_iff hp) (fun w₁ hs => byAuthorization_iff hs)
    (fun w₁ ha => byPriorAllowance_iff ha)]
  exact (and_iff_right hmode).symm

end

/-! ## The authorisation of an action -/

namespace GatewayAction

/-- The same action with another authorisation. -/
def withAuthorization (auth : TokenAuthorization) : GatewayAction → GatewayAction
  | .enrollment x => .enrollment { x with feeAuthorization := auth }
  | .sell x => .sell x
  | .goatTransfer x => .goatTransfer { x with feeAuthorization := auth }
  | .usdtTransfer x => .usdtTransfer { x with transferAuthorization := auth }

/-- The digest that the signer has committed to. -/
def authorizationDigest : GatewayAction → Bytes32
  | .enrollment x => x.intent.feeAuthorizationDigest
  | .sell _ => 0
  | .goatTransfer x => x.intent.feeAuthorizationDigest
  | .usdtTransfer x => x.intent.transferAuthorizationDigest

/-- What the authorisation of an action is for. -/
def terms : GatewayAction → Terms
  | .enrollment x =>
      ⟨x.intent.feeToken, x.intent.controller, AuthorizationMode.eip2612.ordinal,
        x.quote.feeAmount.val, false, x.intent.intentId, actionSponsoredEnrollment⟩
  | .sell x =>
      ⟨x.quote.feeToken, x.intent.seller, 0, x.quote.feeAmount.val, false, x.intent.intentId,
        actionSponsoredSell⟩
  | .goatTransfer x =>
      ⟨x.intent.feeToken, x.intent.owner, x.intent.feeAuthorizationMode,
        x.quote.feeAmount.val, false, x.intent.intentId, actionGoatTransfer⟩
  | .usdtTransfer x => usdtTerms x.intent x.quote.feeAmount.val

end GatewayAction

namespace RelaySite

/-- The GOAT of a transfer are sent before its fee is collected. -/
def sendGoat (d : RelaySite) (w : World) (x : GoatTransferCall) : Except Revert World := do
  let w ← w.permit d.ecdsa d.config.goat x.goatPermit
  w.transferFrom d.config.goat d.config.self x.intent.owner x.intent.recipient x.intent.amount.val

/-- The world in which the authorisation of an action is used. -/
def beforeAuthorization (d : RelaySite) (w : World) : GatewayAction → World
  | .goatTransfer x =>
      match d.sendGoat w x with
      | .ok w₁ => w₁
      | .error _ => w
  | _ => w

variable {d : RelaySite} {g g' : GoatRelayGateway} {w w' : World} {sender : Address}
  {auth : TokenAuthorization}

theorem execute_some {a : GatewayAction} : (∃ r, d.execute g w sender a = .ok r)
    ↔ (∃ g', d.opening g w sender a = .ok g') ∧ ∃ w', d.settle g w a = .ok w' := by
  constructor
  · rintro ⟨r, h⟩
    obtain ⟨g', hopening, w', hsettle, -⟩ := bind_ok₂.mp h
    exact ⟨⟨g', hopening⟩, w', hsettle⟩
  · rintro ⟨⟨g', hopening⟩, w', hsettle⟩
    exact ⟨_, bind_ok₂.mpr ⟨g', hopening, w', hsettle, rfl⟩⟩

theorem enrollment_opening {x : EnrollmentCall} (hdirect : ¬ StreamGEnroll.IsDirectEth x.intent) :
    d.opening g w sender (.enrollment { x with feeAuthorization := auth })
      = d.opening g w sender (.enrollment x) := by
  have hquote : ∀ g₁, StreamGEnroll.checkQuote d.ecdsa (g₁.ctx d.config w) w g₁ sender
      { x with feeAuthorization := auth }
      = StreamGEnroll.checkQuote d.ecdsa (g₁.ctx d.config w) w g₁ sender x := by
    intro g₁
    simp only [StreamGEnroll.checkQuote, if_neg hdirect]
  have hauthorize : ∀ g₁, StreamGEnroll.authorize d.ecdsa (g₁.ctx d.config w) w g₁ sender
      { x with feeAuthorization := auth }
      = StreamGEnroll.authorize d.ecdsa (g₁.ctx d.config w) w g₁ sender x := by
    intro g₁
    unfold StreamGEnroll.authorize
    rw [hquote]
  simp only [opening, authorize, hauthorize]

theorem goatTransfer_opening {x : GoatTransferCall} (hmode : auth.mode = x.feeAuthorization.mode) :
    d.opening g w sender (.goatTransfer { x with feeAuthorization := auth })
      = d.opening g w sender (.goatTransfer x) := by
  simp only [opening, authorize, StreamGXfer.authorizeGoat, hmode]

theorem usdtTransfer_opening {x : UsdtTransferCall}
    (hmode : auth.mode = x.transferAuthorization.mode) :
    d.opening g w sender (.usdtTransfer { x with transferAuthorization := auth })
      = d.opening g w sender (.usdtTransfer x) := by
  simp only [opening, authorize, StreamGXfer.authorizeUsdt, hmode]

theorem goatTransfer_mode {x : GoatTransferCall}
    (h : d.opening g w sender (.goatTransfer x) = .ok g') :
    x.feeAuthorization.mode = x.intent.feeAuthorizationMode := by
  obtain ⟨g₁, -, _, -, _, -, h⟩ := bind_ok₃.mp h
  obtain ⟨_, -, _, hmode, -⟩ := bind_ok₂.mp h
  exact (require_ok.mp hmode).symm

theorem usdtTransfer_mode {x : UsdtTransferCall}
    (h : d.opening g w sender (.usdtTransfer x) = .ok g') :
    x.transferAuthorization.mode = x.intent.authorizationMode := by
  obtain ⟨g₁, -, _, -, _, -, h⟩ := bind_ok₃.mp h
  obtain ⟨_, -, _, hmode, -⟩ := bind_ok₂.mp h
  exact (require_ok.mp hmode).symm

theorem enrollment_execute_iff {x : EnrollmentCall} (hdirect : ¬ StreamGEnroll.IsDirectEth x.intent)
    (h : ∃ r, d.execute g w sender (.enrollment x) = .ok r) :
    (∃ r, d.execute g w sender (.enrollment { x with feeAuthorization := auth }) = .ok r)
      ↔ auth.Usable d.ecdsa (g.ctx d.config w) w (GatewayAction.enrollment x).terms := by
  obtain ⟨hopening, w₁, hsettle⟩ := execute_some.mp h
  obtain ⟨v1, hv1, wallets, hwallets, hsettle⟩ := bind_ok₂.mp hsettle
  simp only [if_neg hdirect] at hsettle
  obtain ⟨_, hmode, hcollect⟩ := bind_ok.mp hsettle
  rw [execute_some, enrollment_opening hdirect, and_iff_right hopening]
  have hsettle_iff : (∃ w', d.settle g w (.enrollment { x with feeAuthorization := auth }) = .ok w')
      ↔ auth.mode = AuthorizationMode.eip2612.ordinal
        ∧ ∃ w', collectEip2612 d.ecdsa (g.ctx d.config w) { w with v1, wallets } x.intent.controller
          x.intent.feeToken x.quote.feeAmount.val auth.eip2612 = .ok w' := by
    constructor
    · rintro ⟨w', h'⟩
      obtain ⟨v1', hv1', h'⟩ := bind_ok.mp h'
      obtain rfl := Except.ok.inj (hv1.symm.trans hv1')
      obtain ⟨wallets', hwallets', h'⟩ := bind_ok.mp h'
      obtain rfl := Except.ok.inj (hwallets.symm.trans hwallets')
      simp only [if_neg hdirect] at h'
      obtain ⟨_, hmode', h'⟩ := bind_ok.mp h'
      exact ⟨require_ok.mp hmode', w', h'⟩
    · rintro ⟨hmode', w', h'⟩
      refine ⟨w', bind_ok₂.mpr ⟨v1, hv1, wallets, hwallets, ?_⟩⟩
      simp only [if_neg hdirect]
      exact bind_ok.mpr ⟨_, require_of hmode', h'⟩
  rw [hsettle_iff]
  constructor
  · rintro ⟨hmode', w', h'⟩
    have hno : ¬ auth.mode = AuthorizationMode.eip3009.ordinal := by rw [hmode']; decide
    have hno' : ¬ auth.mode = AuthorizationMode.priorAllowance.ordinal := by rw [hmode']; decide
    obtain ⟨howner, hspender, hvalue, hdeadline, hsignature⟩ :=
      collectEip2612_usable (GatewayAction.enrollment x).terms rfl h'
    exact ⟨hmode', fun _ => ⟨howner, hspender, hvalue, hdeadline, hsignature⟩,
      fun hm => absurd hm hno, fun hm => absurd hm hno'⟩
  · rintro ⟨hmode', husable, -⟩
    obtain ⟨howner, hspender, hvalue, hdeadline, hsignature⟩ := husable hmode'
    exact ⟨hmode', collectEip2612_swap (GatewayAction.enrollment x).terms rfl hcollect
      ⟨howner, hspender, hvalue, hdeadline, hsignature⟩⟩

theorem goatTransfer_execute_iff {x : GoatTransferCall}
    (h : ∃ r, d.execute g w sender (.goatTransfer x) = .ok r) :
    (∃ r, d.execute g w sender (.goatTransfer { x with feeAuthorization := auth }) = .ok r)
      ↔ auth.Usable d.ecdsa (g.ctx d.config w) (d.beforeAuthorization w (.goatTransfer x))
        (GatewayAction.goatTransfer x).terms := by
  obtain ⟨⟨g', hopening⟩, w₁, hsettle⟩ := execute_some.mp h
  obtain ⟨wp, hpermit, ws, hsent, _, hloss, _, hgain, hcollect⟩ := bind_ok₄.mp hsettle
  have hmode := goatTransfer_mode hopening
  have hbefore : d.beforeAuthorization w (.goatTransfer x) = ws := by
    have hsend : d.sendGoat w x = .ok ws := bind_ok.mpr ⟨wp, hpermit, hsent⟩
    simp only [beforeAuthorization, hsend]
  have hsettle_iff :
    (∃ w', d.settle g w (.goatTransfer { x with feeAuthorization := auth }) = .ok w')
      ↔ ∃ w', collectFee d.ecdsa (g.ctx d.config w) ws x.intent.owner x.intent.feeToken
        x.quote.feeAmount.val auth x.intent.intentId actionGoatTransfer = .ok w' := by
    constructor
    · rintro ⟨w', h'⟩
      obtain ⟨wp', hpermit', h'⟩ := bind_ok.mp h'
      obtain rfl := Except.ok.inj (hpermit.symm.trans hpermit')
      obtain ⟨ws', hsent', h'⟩ := bind_ok.mp h'
      obtain rfl := Except.ok.inj (hsent.symm.trans hsent')
      obtain ⟨_, -, _, -, h'⟩ := bind_ok₂.mp h'
      exact ⟨w', h'⟩
    · rintro ⟨w', h'⟩
      exact ⟨w', bind_ok₄.mpr ⟨wp, hpermit, ws, hsent, _, hloss, _, hgain, h'⟩⟩
  rw [execute_some, hsettle_iff, hbefore]
  constructor
  · rintro ⟨⟨g'', hopening'⟩, hsettle'⟩
    have hmode' : auth.mode = x.intent.feeAuthorizationMode := goatTransfer_mode hopening'
    exact (collectFee_iff (GatewayAction.goatTransfer x).terms rfl hcollect hmode hmode').mp
      hsettle'
  · intro husable
    have hmode' : auth.mode = x.feeAuthorization.mode := husable.1.trans hmode.symm
    rw [goatTransfer_opening hmode']
    exact ⟨⟨g', hopening⟩, (collectFee_iff (GatewayAction.goatTransfer x).terms rfl hcollect
      hmode husable.1).mpr husable⟩

theorem usdtTransfer_execute_iff {x : UsdtTransferCall}
    (h : ∃ r, d.execute g w sender (.usdtTransfer x) = .ok r) :
    (∃ r, d.execute g w sender (.usdtTransfer { x with transferAuthorization := auth }) = .ok r)
      ↔ auth.Usable d.ecdsa (g.ctx d.config w) w (GatewayAction.usdtTransfer x).terms := by
  obtain ⟨⟨g', hopening⟩, w₁, hsettle⟩ := execute_some.mp h
  have hmode := usdtTransfer_mode hopening
  rw [execute_some]
  constructor
  · rintro ⟨⟨g'', hopening'⟩, hsettle'⟩
    have hmode' : auth.mode = x.intent.authorizationMode := usdtTransfer_mode hopening'
    exact (executeUsdtTransferWithAuth_iff hsettle hmode hmode').mp hsettle'
  · intro husable
    have hmode' : auth.mode = x.transferAuthorization.mode := husable.1.trans hmode.symm
    rw [usdtTransfer_opening hmode']
    exact ⟨⟨g', hopening⟩, (executeUsdtTransferWithAuth_iff hsettle hmode husable.1).mpr husable⟩

/-- **An action is executed with just the authorisations that are usable.** -/
theorem execute_iff {a : GatewayAction} (hfee : a.PaysFee) (h : ∃ r, d.execute g w sender a = .ok r)
    (auth : TokenAuthorization) :
    (∃ r, d.execute g w sender (a.withAuthorization auth) = .ok r)
      ↔ auth.Usable d.ecdsa (g.ctx d.config w) (d.beforeAuthorization w a) a.terms := by
  cases a with
  | enrollment x => exact enrollment_execute_iff hfee h
  | sell x => exact hfee.elim
  | goatTransfer x => exact goatTransfer_execute_iff h
  | usdtTransfer x => exact usdtTransfer_execute_iff h

end RelaySite

/-- **The authorisation is the one that the signer chose just where no other can be used.** Of an
action that succeeds, whatever authorisations the relayer holds: each that it can be executed with
has the digest that the intent commits to, if and only if each usable one has. -/
theorem authorization_bound (d : RelaySite) {g g' : GoatRelayGateway} {w w' : World}
    {sender : Address}
    {a : GatewayAction} (hfee : a.PaysFee) (h : d.execute g w sender a = .ok (g', w'))
    (held : Set TokenAuthorization) :
    (∀ auth ∈ held, (∃ r, d.execute g w sender (a.withAuthorization auth) = .ok r) →
      auth.digest ((d.beforeAuthorization w a).tokens a.terms.token) (g.ctx d.config w)
        = a.authorizationDigest)
    ↔ ∀ auth ∈ held, auth.Usable d.ecdsa (g.ctx d.config w) (d.beforeAuthorization w a) a.terms →
      auth.digest ((d.beforeAuthorization w a).tokens a.terms.token) (g.ctx d.config w)
        = a.authorizationDigest := by
  constructor
  · intro hbound auth hheld husable
    exact hbound auth hheld ((RelaySite.execute_iff hfee ⟨_, h⟩ auth).mpr husable)
  · intro hbound auth hheld hexecute
    exact hbound auth hheld ((RelaySite.execute_iff hfee ⟨_, h⟩ auth).mp hexecute)

/-! ## Two permits -/

theorem eip2612PermitTypehash_eq : eip2612PermitTypehash
    = 0x6e71edae12b1b97f4d1f60370fef10105fa2faae0126114a169c64845d6126c9 := by
  rw [eip2612PermitTypehash, keccakText_ofList, keccak256_eval]
  decide +kernel

theorem samplePermit_digest : (sampleRelayWorld.tokens 27).permitDigest (samplePermit 103 500)
    = 0x6cf0319e61558cec82548c83539f2caf12e52e5d0d054261c3f4aecc885606aa := by
  have hstruct : structHash eip2612PermitTypehash [5, 20, 103, 0, 500]
      = 0x05f3b406aa43777c5671c9c00d9d2e52be32a9df795b0aa52bb46c7c7989c242 := by
    rw [structHash, eip2612PermitTypehash_eq, keccak256_eval]
    decide +kernel
  show hashTypedData 80 (structHash eip2612PermitTypehash [5, 20, 103, 0, 500]) = _
  rw [hstruct, hashTypedData, keccak256_eval]
  decide +kernel

theorem sampleChosen_digest : (sampleRelayWorld.tokens 27).permitDigest (samplePermit 103 600)
    = 0x7fa74a8526fadd7fc5996d06511a3398cf4115bedac37c9f2de14304016fadd3 := by
  have hstruct : structHash eip2612PermitTypehash [5, 20, 103, 0, 600]
      = 0x9f0050aab56f948bbacda80d32adcc0f3ceb0bf5a4a847996c729def6dbcb598 := by
    rw [structHash, eip2612PermitTypehash_eq, keccak256_eval]
    decide +kernel
  show hashTypedData 80 (structHash eip2612PermitTypehash [5, 20, 103, 0, 600]) = _
  rw [hstruct, hashTypedData, keccak256_eval]
  decide +kernel

def sampleChosen : Bytes32 := (sampleRelayWorld.tokens 27).permitDigest (samplePermit 103 600)

/-- The intent commits to the permit that is valid until 600, and the one until 500 is handed in. -/
def sampleMismatch : GatewayAction := .usdtTransfer (sampleUsdtTransfer sampleChosen)

theorem sampleMismatch_executes :
    ∃ r, sampleRelaySite.execute sampleGateway sampleRelayWorld 9 sampleMismatch = .ok r := by
  have hopening :
    ∃ g', sampleRelaySite.opening sampleGateway sampleRelayWorld 9 sampleMismatch = .ok g' :=
    sampleUsdt_opening (sampleEcdsa_eight _) (sampleEcdsa_five _)
  have hsettle :
    ∃ w', sampleRelaySite.settle sampleGateway sampleRelayWorld sampleMismatch = .ok w' :=
    exists_of_isOk (by decide +kernel)
  exact RelaySite.execute_some.mpr ⟨hopening, hsettle⟩

def samplePermitUntil (deadline : Uint256) : TokenAuthorization :=
  { (sampleUsdtTransfer sampleChosen).transferAuthorization with
    eip2612 := samplePermit 103 deadline }

/-- The relayer holds the permit that is handed in and the one that the intent commits to. -/
def sampleHeld : Set TokenAuthorization := {samplePermitUntil 500, samplePermitUntil 600}

theorem authorization_bound_sample :
    (∀ auth ∈ sampleHeld, (∃ r, sampleRelaySite.execute sampleGateway sampleRelayWorld 9
        (sampleMismatch.withAuthorization auth) = .ok r) →
      auth.digest ((sampleRelaySite.beforeAuthorization sampleRelayWorld sampleMismatch).tokens
        sampleMismatch.terms.token) (sampleGateway.ctx sampleRelayConfig sampleRelayWorld)
        = sampleMismatch.authorizationDigest)
    ↔ ∀ auth ∈ sampleHeld, auth.Usable sampleEcdsa
        (sampleGateway.ctx sampleRelayConfig sampleRelayWorld)
        (sampleRelaySite.beforeAuthorization sampleRelayWorld sampleMismatch) sampleMismatch.terms →
      auth.digest ((sampleRelaySite.beforeAuthorization sampleRelayWorld sampleMismatch).tokens
        sampleMismatch.terms.token) (sampleGateway.ctx sampleRelayConfig sampleRelayWorld)
        = sampleMismatch.authorizationDigest := by
  obtain ⟨⟨g', w'⟩, hexecute⟩ := sampleMismatch_executes
  have hfee : sampleMismatch.PaysFee := id
  exact authorization_bound sampleRelaySite hfee hexecute sampleHeld

theorem sampleUsdt_digest (chosen : Bytes32) (t : Token) (ctx : Ctx) :
    (sampleUsdtTransfer chosen).transferAuthorization.digest t ctx
      = t.permitDigest (samplePermit 103 500) := if_pos rfl

/-- The transfer succeeds with a permit that the intent does not commit to. -/
theorem another_permit :
    (∃ r, sampleRelaySite.execute sampleGateway sampleRelayWorld 9
        (.usdtTransfer (sampleUsdtTransfer sampleChosen)) = .ok r)
      ∧ (sampleUsdtTransfer sampleChosen).transferAuthorization.digest (sampleRelayWorld.tokens 27)
          (sampleGateway.ctx sampleRelayConfig sampleRelayWorld)
        ≠ (sampleUsdtTransfer sampleChosen).intent.transferAuthorizationDigest := by
  refine ⟨sampleMismatch_executes, ?_⟩
  have hcommitted :
    ∀ chosen, (sampleUsdtTransfer chosen).intent.transferAuthorizationDigest = chosen :=
    fun _ => rfl
  rw [sampleUsdt_digest, hcommitted, samplePermit_digest, sampleChosen, sampleChosen_digest]
  decide

end GoatCoin
