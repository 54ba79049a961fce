/-
# `GoatCoin.Contracts.SponsoredSale` — what a sale to the desk does

A sale is the only action whose fee the signer does not pay: the desk keeps it back.

    gross   what the desk pays for the GOAT, in its own USDT
    fee     to the fee Safe of the desk, in the same USDT
    net     the rest, to the seller

The quote names a token too, and the gateway checks that a fee may be paid in it, but not that it
is the desk's: `sale_fee_token` says that the fee is the quoted one just where the two are the same.
-/
import GoatCoin.Contracts.GatewaySettlement

namespace GoatCoin

open Evm StreamG StreamGCommon

namespace World

variable {w w' : World}

/-! ## What a sale leaves alone -/

/-- The tokens were touched and nothing else. -/
def OnlyTokens (w w' : World) : Prop := w' = { w with tokens := w'.tokens }

theorem OnlyTokens.trans {w₁ w₂ : World} (h : w.OnlyTokens w₁) (h' : w₁.OnlyTokens w₂) :
    w.OnlyTokens w₂ := by
  rw [OnlyTokens, h', h]

variable {e : Ecdsa} {token : Address} {amount : Nat}

theorem permit_tokens {p : Eip2612Authorization}
    (h : w.permit e token p = .ok w') : w.OnlyTokens w' := by
  obtain ⟨t, -, h⟩ := bind_ok.mp h
  cases h
  rfl

theorem transferFrom_tokens {sender src dst : Address}
    (h : w.transferFrom token sender src dst amount = .ok w') : w.OnlyTokens w' := by
  obtain ⟨t, -, h⟩ := bind_ok.mp h
  cases h
  rfl

theorem pay_tokens {k : SponsoredBuyDesk} {self dst : Address}
    (h : k.pay self w dst amount = .ok w') : w.OnlyTokens w' := by
  unfold SponsoredBuyDesk.pay at h
  split at h
  · exact transferFrom_tokens h
  · cases h
    rfl

theorem permit_balance {p : Eip2612Authorization}
    (h : w.permit e token p = .ok w') : w'.balance = w.balance := by
  obtain ⟨t, hpermit, h⟩ := bind_ok.mp h
  cases h
  obtain ⟨_, -, _, -, _, -, hpermit⟩ := bind_ok₃.mp hpermit
  obtain ⟨_, -, coins, happrove, hpermit⟩ := bind_ok₂.mp hpermit
  obtain ⟨hbalances, -, -⟩ := Erc20.approve_ok happrove
  cases hpermit
  funext token' a
  rw [balance, tokens_setToken]
  split
  · rename_i htoken
    rw [htoken]
    exact congrFun hbalances a
  · rfl

theorem requireGain_ok {a : Address} {before : Nat} {e : Revert} {u : Unit}
    (h : w.requireGain token a before amount e = .ok u) : w.balance token a = before + amount := by
  obtain ⟨after, hafter, h⟩ := bind_ok.mp h
  obtain ⟨-, rfl⟩ := checked_ok.mp hafter
  exact require_ok.mp h

/-- What a sale to a desk does. -/
structure Sold (w w' : World) (desk seller : Address)
    (goatAmount feeAmount gross : Nat) : Prop where
  root : w.wallets.primaryOf seller ≠ 0
  session : ((w.desks desk).currentSession w.now).1 ≠ 0
  sessionCap : (w.desks desk).soldInSession ((w.desks desk).currentSession w.now).1
      (w.wallets.primaryOf seller) + goatAmount ≤ ((w.desks desk).currentSession w.now).2
  dailyCap : (w.desks desk).soldPerUtcDay (w.now / 86400) (w.wallets.primaryOf seller) + goatAmount
      ≤ (w.desks desk).dailyRootCapGoat.val
  gross_eq : gross = goatAmount * (w.desks desk).bid.val / 10 ^ 18
  fee_le : feeAmount ≤ gross
  rest : w' = { w with
    tokens := w'.tokens
    desks := Function.update w.desks desk { w.desks desk with
      soldInSession := Function.update (w.desks desk).soldInSession
        ((w.desks desk).currentSession w.now).1
        (Function.update ((w.desks desk).soldInSession ((w.desks desk).currentSession w.now).1)
          (w.wallets.primaryOf seller)
          ((w.desks desk).soldInSession ((w.desks desk).currentSession w.now).1
            (w.wallets.primaryOf seller) + goatAmount))
      soldPerUtcDay := Function.update (w.desks desk).soldPerUtcDay (w.now / 86400)
        (Function.update ((w.desks desk).soldPerUtcDay (w.now / 86400)) (w.wallets.primaryOf seller)
          ((w.desks desk).soldPerUtcDay (w.now / 86400) (w.wallets.primaryOf seller)
            + goatAmount)) } }
  seller : w'.balance (w.desks desk).usdt seller
    = w.balance (w.desks desk).usdt seller + (gross - feeAmount)
  safe : w'.balance (w.desks desk).usdt (w.desks desk).feeSafe
    = w.balance (w.desks desk).usdt (w.desks desk).feeSafe + feeAmount

theorem sellFor_ok {self sender seller expectedRoot root : Address}
    {goatAmount minNetUsdtOut feeAmount gross net : Nat} {goatPermit : Eip2612Authorization}
    (h : w.sellFor e self sender seller expectedRoot goatAmount minNetUsdtOut feeAmount goatPermit
      = .ok (w', root, gross, net)) : w.Sold w' self seller goatAmount feeAmount gross := by
  obtain ⟨_, -, _, -, _, -, _, -, h⟩ := bind_ok₄.mp h
  obtain ⟨_, hroot, _, -, _, hsession, sessionSold, hsold, h⟩ := bind_ok₄.mp h
  obtain ⟨-, rfl⟩ := checked_ok.mp hsold
  obtain ⟨_, hcap, daySold, hday, h⟩ := bind_ok₂.mp h
  obtain ⟨-, rfl⟩ := checked_ok.mp hday
  obtain ⟨_, hdaily, _, -, w₁, hpermit, gross', hgross, h⟩ := bind_ok₄.mp h
  obtain ⟨_, -, _, hfee, _, -, w₂, hgoat, h⟩ := bind_ok₄.mp h
  obtain ⟨w₃, hnet, w₄, hkept, _, -, _, -, h⟩ := bind_ok₄.mp h
  obtain ⟨_, -, _, hseller, _, hsafe, h⟩ := bind_ok₃.mp h
  cases h
  obtain ⟨product, hproduct, hgross⟩ := bind_ok.mp hgross
  obtain ⟨-, rfl⟩ := checked_ok.mp hproduct
  cases hgross
  have hbalance := permit_balance hpermit
  have hseller := requireGain_ok hseller
  have hsafe := requireGain_ok hsafe
  have htokens := (transferFrom_tokens hgoat).trans ((pay_tokens hnet).trans (pay_tokens hkept))
  have hbefore := permit_tokens hpermit
  refine ⟨fun hzero => (not_or.mp (require_ok.mp hroot)).1 hzero, require_ok.mp hsession,
    require_ok.mp hcap, require_ok.mp hdaily, rfl, require_ok.mp hfee, ?_, ?_, ?_⟩
  · refine Eq.trans htokens ?_
    rw [hbefore]
    rfl
  · rw [hseller]
    show w₁.balance _ _ + _ = _
    rw [hbalance]
  · rw [hsafe]
    show w₁.balance _ _ + _ = _
    rw [hbalance]

end World

/-! ## The fee of a sale -/

/-- The fee Safe of the desk got the quoted fee in the quoted token, and the seller what the desk
pays less a fee in USDT. -/
structure SellCall.FeeAsQuoted (x : SellCall) (w w' : World) : Prop where
  charged : w'.balance x.quote.feeToken (w.desks x.intent.desk).feeSafe
    = w.balance x.quote.feeToken (w.desks x.intent.desk).feeSafe + x.quote.feeAmount.val
  paid : w'.balance (w.desks x.intent.desk).usdt x.intent.seller
    = w.balance (w.desks x.intent.desk).usdt x.intent.seller
      + (x.intent.goatAmount.val * (w.desks x.intent.desk).bid.val / 10 ^ 18
        - if x.quote.feeToken = (w.desks x.intent.desk).usdt then x.quote.feeAmount.val else 0)

theorem RelaySite.sell_sold {d : RelaySite} {g g' : GoatRelayGateway} {w w' : World}
    {sender : Address} {x : SellCall} (h : d.execute g w sender (.sell x) = .ok (g', w')) :
    x.quote.feeAmount.val ≠ 0
      ∧ w.Sold w' x.intent.desk x.intent.seller x.intent.goatAmount.val x.quote.feeAmount.val
        (x.intent.goatAmount.val * (w.desks x.intent.desk).bid.val / 10 ^ 18) := by
  obtain ⟨g₁, hopening, w₁, hsettle, h⟩ := bind_ok₂.mp h
  cases h
  obtain ⟨-, hsome, -⟩ := ((RelaySite.opening_ok hopening).2.1.quoted id).fee
  obtain ⟨⟨w₂, root, gross, net⟩, hsell, hsettle⟩ := bind_ok.mp hsettle
  obtain ⟨_, -, hsettle⟩ := bind_ok.mp hsettle
  cases hsettle
  have hsold := World.sellFor_ok hsell
  have hgross := hsold.gross_eq
  subst hgross
  exact ⟨hsome, hsold⟩

/-- **The fee of a sale is the quoted one just where the quote is in the token of the desk.** -/
theorem sale_fee_token (d : RelaySite) {g g' : GoatRelayGateway} {w w' : World} {sender : Address}
    {x : SellCall} (h : d.execute g w sender (.sell x) = .ok (g', w')) :
    x.FeeAsQuoted w w' ↔ x.quote.feeToken = (w.desks x.intent.desk).usdt := by
  obtain ⟨hsome, hsold⟩ := RelaySite.sell_sold h
  constructor
  · intro hquoted
    by_contra hother
    have hpaid := hquoted.paid
    have hreally := hsold.seller
    have hfee := hsold.fee_le
    rw [if_neg hother] at hpaid
    omega
  · intro htoken
    refine ⟨?_, ?_⟩
    · rw [htoken]
      exact hsold.safe
    · rw [if_pos htoken]
      exact hsold.seller

/-- 100 GOAT are to be sold to the desk 30. -/
def sampleSellIntent (feeQuoteHash : Bytes32) : SellIntent where
  intentId := 90
  deploymentManifestHash := 50
  feeTokenConfigHash := FeeTokenRegistry.hashConfig (sampleFeeConfig 27 18)
  seller := 5
  expectedRoot := 5
  desk := 30
  goatAmount := 100
  minNetUsdtOut := 0
  goatPermitDigest := 0
  maxFee := 5
  feeQuoteHash
  nonce := 0
  deadline := 500

/-- The fee is quoted in the token 27, and the desk pays in the token 26. -/
def sampleSellQuote : FeeQuote :=
  sampleQuote actionSponsoredSell (sellCoreHash (sampleSellIntent 0))

def sampleSellQuoteHash : Bytes32 :=
  hashTypedData sampleRelayDomain (feeQuoteStructHash sampleSellQuote)

def sampleSell : SellCall where
  intent := sampleSellIntent sampleSellQuoteHash
  quote := sampleSellQuote
  goatPermit := ⟨5, 30, 100, 500, 27, 5, 0⟩
  intentSignature := sampleSigned 5
  quoteSignature := sampleSigned 8

theorem sampleSell_core (quoteHash : Bytes32) :
    sellCoreHash (sampleSellIntent 0) = sellCoreHash (sampleSellIntent quoteHash) := rfl

theorem sampleSell_opening :
    ∃ g', sampleRelaySite.opening sampleGateway sampleRelayWorld 9 (.sell sampleSell) = .ok g' := by
  have hconsumed := validateAndConsumeQuote_ok.mpr ⟨@sampleQuote_consumed sampleEcdsa
    (StreamGSell.quoteCheck (sampleSellIntent sampleSellQuoteHash) sampleSellQuote) _
    ⟨rfl, rfl, rfl, rfl⟩ rfl (sampleSell_core _)
    (by decide : sampleFees.IsAuthorized sampleRelayWorld.site 27 capSellSplit) _
    (sampleEcdsa_eight sampleSellQuoteHash), rfl⟩
  have hpermit : ∀ w : World, GoatPermitMatches w 24 ⟨5, 30, 100, 500, 27, 5, 0⟩ 5 30 100 0 :=
    fun w => ⟨⟨rfl, rfl, rfl⟩, fun h => h.1 rfl⟩
  exact ⟨_, bind_ok₄.mpr ⟨sampleEntered, rfl, _, require_of (by decide : 10 < 500), _, require_of
      (by decide : ¬ ((5 : Address) = 0 ∨ (5 : Address) = 0 ∨ (30 : Address) = 0)), _,
        require_of (by decide : (30 : Address) ≠ 0),
        bind_ok₄.mpr ⟨_, require_of rfl, _, require_of rfl, (), rfl,
        _, hconsumed, bind_ok₄.mpr ⟨_, require_of rfl, _, require_of (hpermit sampleRelayWorld), 5,
        sampleEcdsa_five _, _, require_of rfl, markIntentAndNonce_ok.mpr
      ⟨⟨(by decide : (90 : Bytes32) ≠ 0), rfl, rfl, (by decide : 0 + 1 < 2 ^ 256)⟩, rfl⟩⟩⟩⟩⟩

theorem sampleSell_executes : ∃ r,
    sampleRelaySite.execute sampleGateway sampleRelayWorld 9 (.sell sampleSell) = .ok r := by
  obtain ⟨g₁, hopening⟩ := sampleSell_opening
  obtain ⟨w', hsettle⟩ : ∃ w', sampleRelaySite.settle sampleGateway sampleRelayWorld
      (.sell sampleSell) = .ok w' := exists_of_isOk (by decide +kernel)
  exact ⟨_, bind_ok₂.mpr ⟨g₁, hopening, w', hsettle, rfl⟩⟩

theorem sale_fee_token_sample : ∃ g' w',
    sampleRelaySite.execute sampleGateway sampleRelayWorld 9 (.sell sampleSell) = .ok (g', w')
      ∧ (sampleSell.FeeAsQuoted sampleRelayWorld w'
        ↔ sampleSell.quote.feeToken = (sampleRelayWorld.desks 30).usdt) := by
  obtain ⟨⟨g', w'⟩, hexecute⟩ := sampleSell_executes
  exact ⟨g', w', hexecute, sale_fee_token sampleRelaySite hexecute⟩

/-- The sale that is quoted in the token 27: nothing of it is charged, and the seller gets 197 of
the 200 that the desk pays. -/
theorem fee_in_another_token : ∃ g' w',
    sampleRelaySite.execute sampleGateway sampleRelayWorld 9 (.sell sampleSell) = .ok (g', w')
      ∧ w'.balance 26 5 = 197 ∧ w'.balance 26 25 = 3
      ∧ ¬ sampleSell.FeeAsQuoted sampleRelayWorld w' := by
  obtain ⟨⟨g', w'⟩, hexecute⟩ := sampleSell_executes
  obtain ⟨-, hsold⟩ := RelaySite.sell_sold hexecute
  have hseller : w'.balance 26 5 = 197 := hsold.seller
  refine ⟨g', w', hexecute, hseller, hsold.safe, fun hquoted => ?_⟩
  have hpaid : w'.balance 26 5 = 200 := hquoted.paid
  omega

end GoatCoin
