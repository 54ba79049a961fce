/-
# `GoatCoin.Contracts.GatewaySettlement` — who pays what in an action

What a settlement does to the balances is a list of payments out of one account:

    enrolment       fee → fee Safe
    transfer        amount → recipient, fee → fee Safe

A permit pays nothing, a `transferFrom` is one payment, and what goes through the gateway goes out
of it again: `Pays.through` makes of the two halves one payment of the owner.  So every mode comes
to the same list, and all that is said of the balances is read off the list.
-/
import GoatCoin.Contracts.GatewayReplay

namespace GoatCoin

open Evm StreamG StreamGCommon

/-! ## Payments -/

structure Payment where
  token : Address
  dst : Address
  amount : Nat

namespace Payment

/-- What an account gets of a token. -/
def received (ps : List Payment) (token a : Address) : Nat :=
  (ps.map fun p => if p.token = token ∧ p.dst = a then p.amount else 0).sum

/-- What is paid of a token. -/
def spent (ps : List Payment) (token : Address) : Nat :=
  (ps.map fun p => if p.token = token then p.amount else 0).sum

@[simp] theorem received_nil (token a : Address) : received [] token a = 0 := rfl

@[simp] theorem received_cons (p : Payment) (ps : List Payment) (token a : Address) :
    received (p :: ps) token a
      = (if p.token = token ∧ p.dst = a then p.amount else 0) + received ps token a := rfl

@[simp] theorem received_append (ps qs : List Payment) (token a : Address) :
    received (ps ++ qs) token a = received ps token a + received qs token a := by
  simp [received]

@[simp] theorem spent_nil (token : Address) : spent [] token = 0 := rfl

@[simp] theorem spent_cons (p : Payment) (ps : List Payment) (token : Address) :
    spent (p :: ps) token = (if p.token = token then p.amount else 0) + spent ps token := rfl

@[simp] theorem spent_append (ps qs : List Payment) (token : Address) :
    spent (ps ++ qs) token = spent ps token + spent qs token := by
  simp [spent]

theorem received_of_ne {ps : List Payment} {a : Address} (h : ∀ p ∈ ps, p.dst ≠ a)
    (token : Address) : received ps token a = 0 := by
  induction ps with
  | nil => rfl
  | cons p ps ih =>
      rw [received_cons, if_neg fun hp => h p List.mem_cons_self hp.2,
        ih fun q hq => h q (List.mem_cons_of_mem p hq)]

end Payment

open Payment

/-- The owner made the payments and nothing else happened to the balances, nor to what the
gateway allows others. -/
structure World.Pays (w w' : World) (gateway owner : Address) (ps : List Payment) : Prop where
  gains : ∀ token a, a ≠ owner → w'.balance token a = w.balance token a + received ps token a
  losses : ∀ token, w'.balance token owner + spent ps token = w.balance token owner
  grants : ∀ token, (w'.tokens token).allowance gateway = (w.tokens token).allowance gateway

namespace World

variable {w w₁ w' : World} {gateway owner : Address} {ps qs : List Payment}

theorem Pays.of_tokens (h : w'.tokens = w.tokens) : w.Pays w' gateway owner [] := by
  refine ⟨fun token a _ => ?_, fun token => ?_, fun token => ?_⟩
  · rw [balance, h, received_nil]
    rfl
  · rw [balance, h, spent_nil]
    rfl
  · rw [h]

theorem Pays.trans (h : w.Pays w₁ gateway owner ps) (h' : w₁.Pays w' gateway owner qs) :
    w.Pays w' gateway owner (ps ++ qs) := by
  refine ⟨fun token a ha => ?_, fun token => ?_, fun token => ?_⟩
  · rw [h'.gains token a ha, h.gains token a ha, received_append, Nat.add_assoc]
  · have hfirst := h.losses token
    have hsecond := h'.losses token
    rw [spent_append]
    omega
  · rw [h'.grants, h.grants]

theorem Pays.through (h : w.Pays w₁ gateway owner ps) (h' : w₁.Pays w' gateway gateway qs)
    (howner : owner ≠ gateway) (hin : ∀ p ∈ ps, p.dst = gateway)
    (hspent : ∀ token, spent ps token = spent qs token)
    (hout : ∀ q ∈ qs, q.dst ≠ gateway ∧ q.dst ≠ owner) : w.Pays w' gateway owner qs := by
  have hall : ∀ token, received ps token gateway = spent ps token := by
    intro token
    clear h hspent
    induction ps with
    | nil => rfl
    | cons p ps ih =>
        rw [received_cons, spent_cons, ih fun q hq => hin q (List.mem_cons_of_mem p hq)]
        simp [hin p List.mem_cons_self]
  refine ⟨fun token a ha => ?_, fun token => ?_, fun token => ?_⟩
  · rcases eq_or_ne a gateway with rfl | hself
    · have hgain := h.gains token a ha
      have hloss := h'.losses token
      rw [hall, hspent] at hgain
      rw [received_of_ne fun q hq => (hout q hq).1]
      omega
    · rw [h'.gains token a hself, h.gains token a ha,
        received_of_ne fun p hp heq => hself (heq.symm.trans (hin p hp))]
      rfl
  · have hloss := h.losses token
    have hkept := h'.gains token owner howner
    rw [received_of_ne fun q hq => (hout q hq).2] at hkept
    rw [← hspent]
    omega
  · rw [h'.grants, h.grants]

theorem tokens_setToken (w : World) (token : Address) (t : Token) (token' : Address) :
    (w.setToken token t).tokens token' = if token' = token then t else w.tokens token' :=
  Function.update_apply w.tokens token t token'

variable {dst src token : Address} {amount : Nat}

theorem Pays.of_moved {t : Token} (hne : dst ≠ src)
    (hle : amount ≤ w.balance token src)
    (hmoved : t.balanceOf = Erc20.moved (w.tokens token).balanceOf src dst amount)
    (hgrants : t.allowance gateway = (w.tokens token).allowance gateway) :
    w.Pays (w.setToken token t) gateway src [⟨token, dst, amount⟩] := by
  refine ⟨fun token' a ha => ?_, fun token' => ?_, fun token' => ?_⟩
  · rw [balance, tokens_setToken]
    split
    · rename_i htoken
      rw [htoken, hmoved, Erc20.moved_ne_src ha]
      simp [balance, eq_comm]
    · rename_i htoken
      simp [balance, Ne.symm htoken]
  · rw [balance, tokens_setToken]
    split
    · rename_i htoken
      rw [htoken, hmoved, Erc20.moved_src hne.symm]
      have hle' : amount ≤ (w.tokens token).balanceOf src := hle
      simp only [balance, spent_cons, spent_nil, if_true]
      omega
    · rename_i htoken
      simp [balance, Ne.symm htoken]
  · rw [tokens_setToken]
    split
    · rename_i htoken
      rw [htoken, hgrants]
    · rfl

theorem Pays.of_kept {t : Token} (hkept : t.balanceOf = (w.tokens token).balanceOf)
    (hgrants : t.allowance gateway = (w.tokens token).allowance gateway) :
    w.Pays (w.setToken token t) gateway owner [] := by
  have hsame : ∀ token' a, (w.setToken token t).balance token' a = w.balance token' a := by
    intro token' a
    rw [balance, tokens_setToken]
    split
    · rename_i htoken
      rw [htoken, hkept]
      rfl
    · rfl
  refine ⟨fun token' a _ => hsame token' a, fun token' => hsame token' owner, fun token' => ?_⟩
  rw [tokens_setToken]
  split
  · rename_i htoken
    rw [htoken, hgrants]
  · rfl

/-! ## What the calls of a token do -/

theorem spendAllowance_other {t t' : Erc20} {spender : Address}
    (h : t.spendAllowance src spender amount = .ok t') {o : Address} (ho : o ≠ src) :
    t'.allowances o = t.allowances o := by
  unfold Erc20.spendAllowance at h
  split at h
  · cases h
    rfl
  · obtain ⟨_, -, h⟩ := bind_ok.mp h
    exact (Erc20.approve_ok h).2.2 o ho

theorem permit_pays {e : Ecdsa} {p : Eip2612Authorization}
    (h : w.permit e token p = .ok w') (hne : gateway ≠ p.owner) : w.Pays w' gateway owner [] := by
  obtain ⟨t, hpermit, h⟩ := bind_ok.mp h
  cases h
  obtain ⟨_, -, _, -, _, -, hpermit⟩ := bind_ok₃.mp hpermit
  obtain ⟨_, -, coins, happrove, hpermit⟩ := bind_ok₂.mp hpermit
  obtain ⟨hbalances, -, hothers⟩ := Erc20.approve_ok happrove
  cases hpermit
  exact Pays.of_kept hbalances (hothers gateway hne)

theorem transferFrom_pays
    (h : w.transferFrom token gateway src dst amount = .ok w') (hsrc : src ≠ gateway)
    (hdst : dst ≠ src) : w.Pays w' gateway src [⟨token, dst, amount⟩] := by
  obtain ⟨t, htransfer, h⟩ := bind_ok.mp h
  cases h
  obtain ⟨coin, hcoin, htransfer⟩ := bind_ok.mp htransfer
  cases htransfer
  obtain ⟨hmoved, -⟩ := Goat.transferFrom_ok hcoin
  refine Pays.of_moved hdst hmoved.le hmoved.balances_eq ?_
  obtain ⟨t₁, hspend, -, -, t₂, hmove, hcoin⟩ := bind_ok₃.mp hcoin
  cases hcoin
  obtain ⟨-, -, hallowances, -⟩ := Erc20.transfer_ok hmove
  show t₂.allowances gateway = _
  rw [hallowances]
  exact spendAllowance_other hspend hsrc.symm

theorem transfer_pays (gateway : Address)
    (h : w.transfer token src dst amount = .ok w') (hdst : dst ≠ src) :
    w.Pays w' gateway src [⟨token, dst, amount⟩] := by
  obtain ⟨t, htransfer, h⟩ := bind_ok.mp h
  cases h
  obtain ⟨coin, hcoin, htransfer⟩ := bind_ok.mp htransfer
  cases htransfer
  obtain ⟨hmoved, hallowances⟩ := Goat.transfer_ok hcoin
  exact Pays.of_moved hdst hmoved.le hmoved.balances_eq (congrFun hallowances gateway)

theorem receiveWithAuthorization_pays (gateway : Address) {e : Ecdsa}
    {a : Eip3009Authorization} (h : w.receiveWithAuthorization e token a = .ok w')
    (hdst : a.dst ≠ a.src) : w.Pays w' gateway a.src [⟨token, a.dst, a.value.val⟩] := by
  obtain ⟨t, hreceive, h⟩ := bind_ok.mp h
  cases h
  obtain ⟨_, -, _, -, _, -, _, -, hreceive⟩ := bind_ok₄.mp hreceive
  obtain ⟨_, -, _, -, coin, hcoin, hreceive⟩ := bind_ok₃.mp hreceive
  cases hreceive
  obtain ⟨hmoved, hallowances⟩ := Goat.transfer_ok hcoin
  exact Pays.of_moved hdst hmoved.le hmoved.balances_eq (congrFun hallowances gateway)

end World

/-! ## What the libraries do -/

section
variable {e : Ecdsa} {ctx : Ctx} {w w' : World}
variable {payer feeToken : Address} {feeAmount : Nat}

theorem collectEip2612_pays {p : Eip2612Authorization}
    (h : collectEip2612 e ctx w payer feeToken feeAmount p = .ok w') (hpayer : payer ≠ ctx.self)
    (hsafe : ctx.feeSafe ≠ payer) :
    w.Pays w' ctx.self payer [⟨feeToken, ctx.feeSafe, feeAmount⟩] := by
  obtain ⟨_, hfields, w₁, hpermit, w₂, htransfer, _, -, h⟩ := bind_ok₄.mp h
  cases h
  have howner : p.owner = payer := not_not.mp (not_or.mp (require_ok.mp hfields)).1
  exact (World.permit_pays hpermit (howner ▸ hpayer.symm)).trans
    (World.transferFrom_pays htransfer hpayer hsafe)

theorem collectEip3009_pays {a : Eip3009Authorization}
    (h : collectEip3009 e ctx w payer feeToken feeAmount a = .ok w') (hpayer : payer ≠ ctx.self)
    (hsafe : ctx.feeSafe ≠ payer) (hself : ctx.feeSafe ≠ ctx.self) :
    w.Pays w' ctx.self payer [⟨feeToken, ctx.feeSafe, feeAmount⟩] := by
  obtain ⟨_, hfields, _, -, w₁, hreceive, _, -, h⟩ := bind_ok₄.mp h
  obtain ⟨w₂, htransfer, _, -, _, -, h⟩ := bind_ok₃.mp h
  cases h
  obtain ⟨hsrc, hrest⟩ := not_or.mp (require_ok.mp hfields)
  obtain ⟨hdst, hvalue⟩ := not_or.mp hrest
  rw [not_not] at hsrc hdst hvalue
  have hin := World.receiveWithAuthorization_pays ctx.self hreceive
    (by rw [hsrc, hdst]; exact hpayer.symm)
  rw [hsrc, hdst, hvalue] at hin
  exact hin.through (World.transfer_pays ctx.self htransfer hself) hpayer (by simp) (by simp)
    (by simp [hself, hsafe])

theorem collectPriorAllowance_pays
    {p : PriorAllowanceAuthorization} {signature : EthSignature} {intentId actionType : Bytes32}
    (h : collectPriorAllowance e ctx w payer feeToken feeAmount p signature intentId actionType
      = .ok w')
    (hpayer : payer ≠ ctx.self) (hsafe : ctx.feeSafe ≠ payer) :
    w.Pays w' ctx.self payer [⟨feeToken, ctx.feeSafe, feeAmount⟩] := by
  obtain ⟨_, -, _, -, _, -, _, -, h⟩ := bind_ok₄.mp h
  obtain ⟨_, -, w₁, htransfer, _, -, h⟩ := bind_ok₃.mp h
  cases h
  exact World.transferFrom_pays htransfer hpayer hsafe

/-- **The fee, whatever the mode.** -/
theorem collectFee_pays {auth : TokenAuthorization}
    {intentId actionType : Bytes32}
    (h : collectFee e ctx w payer feeToken feeAmount auth intentId actionType = .ok w')
    (hpayer : payer ≠ ctx.self) (hsafe : ctx.feeSafe ≠ payer) (hself : ctx.feeSafe ≠ ctx.self) :
    w.Pays w' ctx.self payer [⟨feeToken, ctx.feeSafe, feeAmount⟩] := by
  obtain ⟨_, -, h⟩ := bind_ok.mp h
  split at h
  · exact collectEip2612_pays h hpayer hsafe
  · split at h
    · exact collectEip3009_pays h hpayer hsafe hself
    · split at h
      · exact collectPriorAllowance_pays h hpayer hsafe
      · cases h

theorem splitFromOwner_pays {owner token recipient : Address} {amount : Nat}
    (h : StreamGTransfers.splitFromOwner ctx w owner token recipient amount feeAmount = .ok w')
    (howner : owner ≠ ctx.self) (hsafe : ctx.feeSafe ≠ owner) (hrecipient : recipient ≠ owner) :
    w.Pays w' ctx.self owner [⟨token, recipient, amount⟩, ⟨token, ctx.feeSafe, feeAmount⟩] := by
  obtain ⟨w₁, hamount, w₂, hfee, _, -, _, -, h⟩ := bind_ok₄.mp h
  obtain ⟨_, -, _, -, h⟩ := bind_ok₂.mp h
  cases h
  exact (World.transferFrom_pays hamount howner hrecipient).trans
    (World.transferFrom_pays hfee howner hsafe)

theorem byAuthorization_pays {intent : UsdtTransferIntent} {a : Eip3009Authorization}
    (h : StreamGTransfers.byAuthorization e ctx w intent a feeAmount (intent.amount.val + feeAmount)
      = .ok w') (howner : intent.owner ≠ ctx.self) (hsafe : ctx.feeSafe ≠ intent.owner)
    (hself : ctx.feeSafe ≠ ctx.self) (hrecipient : intent.recipient ≠ intent.owner)
    (hrecipient' : intent.recipient ≠ ctx.self) :
    w.Pays w' ctx.self intent.owner
      [⟨intent.token, intent.recipient, intent.amount.val⟩,
        ⟨intent.token, ctx.feeSafe, feeAmount⟩] := by
  obtain ⟨_, hfields, _, -, w₁, hreceive, _, -, h⟩ := bind_ok₄.mp h
  obtain ⟨w₂, hamount, w₃, hfee, _, -, h⟩ := bind_ok₃.mp h
  obtain ⟨_, -, _, -, h⟩ := bind_ok₂.mp h
  cases h
  obtain ⟨hsrc, hrest⟩ := not_or.mp (require_ok.mp hfields)
  obtain ⟨hdst, hvalue⟩ := not_or.mp hrest
  rw [not_not] at hsrc hdst hvalue
  have hin := World.receiveWithAuthorization_pays ctx.self hreceive
    (by rw [hsrc, hdst]; exact howner.symm)
  rw [hsrc, hdst, hvalue] at hin
  have hout := (World.transfer_pays ctx.self hamount hrecipient').trans
    (World.transfer_pays ctx.self hfee hself)
  refine hin.through hout howner (by simp) (fun token => ?_)
    (by simp [hself, hsafe, hrecipient, hrecipient'])
  simp only [spent_cons, spent_nil]
  split
  · omega
  · rfl

/-- **A transfer of a token, whatever the mode.** -/
theorem executeUsdtTransferWithAuth_pays {intent : UsdtTransferIntent} {auth : TokenAuthorization}
    (h : StreamGTransfers.executeUsdtTransferWithAuth e ctx w intent auth feeAmount = .ok w')
    (howner : intent.owner ≠ ctx.self) (hsafe : ctx.feeSafe ≠ intent.owner)
    (hself : ctx.feeSafe ≠ ctx.self) (hrecipient : intent.recipient ≠ intent.owner)
    (hrecipient' : intent.recipient ≠ ctx.self) :
    w.Pays w' ctx.self intent.owner
      [⟨intent.token, intent.recipient, intent.amount.val⟩,
        ⟨intent.token, ctx.feeSafe, feeAmount⟩] := by
  obtain ⟨total, htotal, h⟩ := bind_ok.mp h
  obtain ⟨-, rfl⟩ := checked_ok.mp htotal
  split at h
  · obtain ⟨_, hfields, h⟩ := bind_ok.mp h
    obtain ⟨w₁, hpermit, h⟩ := bind_ok.mp h
    have hsigner : auth.eip2612.owner = intent.owner :=
      not_not.mp (not_or.mp (require_ok.mp hfields)).1
    exact (World.permit_pays hpermit (hsigner ▸ howner.symm)).trans
      (splitFromOwner_pays h howner hsafe hrecipient)
  · split at h
    · exact byAuthorization_pays h howner hsafe hself hrecipient hrecipient'
    · split at h
      · obtain ⟨_, -, h⟩ := bind_ok.mp h
        obtain ⟨_, -, _, -, _, -, _, -, h⟩ := bind_ok₄.mp h
        exact splitFromOwner_pays h howner hsafe hrecipient
      · cases h

end

/-! ## Exact settlement -/

namespace GatewayAction

/-- What is sent besides the fee, from the signer. -/
def payment? (cfg : GoatRelayGateway.Config) : GatewayAction → Option Payment
  | .goatTransfer x => some ⟨cfg.goat, x.intent.recipient, x.intent.amount.val⟩
  | .usdtTransfer x => some ⟨x.intent.token, x.intent.recipient, x.intent.amount.val⟩
  | _ => none

/-- The fee of the quote. -/
def fee (cfg : GoatRelayGateway.Config) (a : GatewayAction) : Payment :=
  ⟨a.quote.feeToken, cfg.feeSafe, a.quote.feeAmount.val⟩

/-- An action whose fee the signer pays out of a token. -/
def PaysFee : GatewayAction → Prop
  | .sell _ => False
  | a => ¬ a.Direct

/-- Everything that the signer pays. -/
def payments (cfg : GoatRelayGateway.Config) (a : GatewayAction) : List Payment :=
  (a.payment? cfg).toList ++ [a.fee cfg]

section
variable {cfg : GoatRelayGateway.Config} {a : GatewayAction}

theorem received_payments_none (h : a.payment? cfg = none) (token other : Address) :
    received (a.payments cfg) token other
      = if a.quote.feeToken = token ∧ cfg.feeSafe = other then a.quote.feeAmount.val else 0 := by
  rw [payments, h]
  rfl

theorem received_payments_some {p : Payment} (h : a.payment? cfg = some p) (token other : Address) :
    received (a.payments cfg) token other
      = (if p.token = token ∧ p.dst = other then p.amount else 0)
        + if a.quote.feeToken = token ∧ cfg.feeSafe = other then a.quote.feeAmount.val else 0 := by
  rw [payments, h]
  rfl

theorem spent_payments (cfg : GoatRelayGateway.Config) (a : GatewayAction) (token : Address) :
    spent (a.payments cfg) token
      = (if token = a.quote.feeToken then a.quote.feeAmount.val else 0)
        + match a.payment? cfg with
          | some p => if token = p.token then p.amount else 0
          | none => 0 := by
  rw [payments]
  cases a.payment? cfg with
  | none => simp [fee, eq_comm]
  | some p =>
      simp only [Option.toList_some, fee, spent_append, spent_cons, spent_nil, eq_comm (a := token),
        Nat.add_zero]
      rw [Nat.add_comm]

end

end GatewayAction

/-- The fee Safe, the signer, the gateway and whoever else is paid are different accounts. -/
structure RelaySite.Parties (d : RelaySite) (a : GatewayAction) : Prop where
  signer : a.signer ≠ d.config.self
  safe : d.config.feeSafe ≠ a.signer ∧ d.config.feeSafe ≠ d.config.self
  recipient : ∀ p ∈ a.payment? d.config,
    p.dst ≠ d.config.feeSafe ∧ p.dst ≠ a.signer ∧ p.dst ≠ d.config.self

namespace RelaySite

variable {d : RelaySite} {g g' : GoatRelayGateway} {w w' : World} {sender : Address}
  {a : GatewayAction}

theorem opening_permit {x : GoatTransferCall}
    (h : d.opening g w sender (.goatTransfer x) = .ok g') :
    x.goatPermit.owner = x.intent.owner := by
  obtain ⟨g₁, -, _, -, _, -, _, -, h⟩ := bind_ok₄.mp h
  obtain ⟨_, -, _, -, _, -, _, -, h⟩ := bind_ok₄.mp h
  obtain ⟨_, -, _, hpermit, -⟩ := bind_ok₂.mp h
  exact (require_ok.mp hpermit).1.1

/-- **Every action settles by the payments it says.** -/
theorem settle_pays (hfee : a.PaysFee) (hparties : d.Parties a)
    (htoken : a.quote.feeToken = a.feeToken)
    (hopening : d.opening g w sender a = .ok g') (h : d.settle g w a = .ok w') :
    w.Pays w' d.config.self a.signer (a.payments d.config) := by
  obtain ⟨hsigner, ⟨hsafe, hself⟩, hrecipient⟩ := hparties
  have hpaid : ∀ p, a.payment? d.config = some p →
      p.dst ≠ d.config.feeSafe ∧ p.dst ≠ a.signer ∧ p.dst ≠ d.config.self :=
    fun p hp => hrecipient p hp
  rw [GatewayAction.payments, GatewayAction.fee, htoken]
  cases a with
  | sell x => exact hfee.elim
  | enrollment x =>
      obtain ⟨v1, -, wallets, -, h⟩ := bind_ok₂.mp h
      have hfee : ¬ StreamGEnroll.IsDirectEth x.intent := hfee
      simp only [if_neg hfee] at h
      obtain ⟨_, -, h⟩ := bind_ok.mp h
      have hlinked : w.Pays { w with v1, wallets } d.config.self x.intent.controller [] :=
        World.Pays.of_tokens rfl
      exact hlinked.trans (collectEip2612_pays h hsigner hsafe)
  | goatTransfer x =>
      obtain ⟨-, hrecipient, -⟩ := hpaid _ rfl
      obtain ⟨w₁, hpermit, w₂, htransfer, _, -, _, -, h⟩ := bind_ok₄.mp h
      have hallowed : w.Pays w₁ d.config.self x.intent.owner [] :=
        World.permit_pays hpermit (opening_permit hopening ▸ hsigner.symm)
      have hsent := hallowed.trans (World.transferFrom_pays htransfer hsigner hrecipient)
      exact hsent.trans (collectFee_pays h hsigner hsafe hself)
  | usdtTransfer x =>
      obtain ⟨-, hrecipient, hrecipient'⟩ := hpaid _ rfl
      exact executeUsdtTransferWithAuth_pays h hsigner hsafe hself hrecipient hrecipient'

end RelaySite

/-- **Exact settlement.** Where an action succeeds whose fee is paid out of a token, the fee Safe
has gained the quoted fee, which is within the limit of the intent, the recipient the amount, the
signer has lost the two, and no other balance has changed, nor what the gateway allows anyone. -/
theorem exact_settlement (d : RelaySite) {g g' : GoatRelayGateway} {w w' : World} {sender : Address}
    {a : GatewayAction} (h : d.execute g w sender a = .ok (g', w')) (hfee : a.PaysFee)
    (hparties : d.Parties a) :
    a.quote.feeAmount.val ≤ a.maxFee
      ∧ w'.balance a.quote.feeToken d.config.feeSafe
        = w.balance a.quote.feeToken d.config.feeSafe + a.quote.feeAmount.val
      ∧ (∀ p, a.payment? d.config = some p →
        w'.balance p.token p.dst = w.balance p.token p.dst + p.amount)
      ∧ (∀ token, w'.balance token a.signer
          + ((if token = a.quote.feeToken then a.quote.feeAmount.val else 0)
            + match a.payment? d.config with
              | some p => if token = p.token then p.amount else 0
              | none => 0)
        = w.balance token a.signer)
      ∧ (∀ token other, other ≠ a.signer →
        ¬ (token = a.quote.feeToken ∧ other = d.config.feeSafe) →
        (∀ p, a.payment? d.config = some p → ¬ (token = p.token ∧ other = p.dst)) →
        w'.balance token other = w.balance token other)
      ∧ (∀ token, w'.balance token d.config.self = w.balance token d.config.self
        ∧ (w'.tokens token).allowance d.config.self
          = (w.tokens token).allowance d.config.self) := by
  obtain ⟨g₁, hopening, w₁, hsettle, h⟩ := bind_ok₂.mp h
  cases h
  have hdirect : ¬ a.Direct := by
    cases a with
    | enrollment x => exact hfee
    | sell x => exact id
    | goatTransfer x => exact id
    | usdtTransfer x => exact id
  obtain ⟨htoken, -, hmax⟩ := ((RelaySite.opening_ok hopening).2.1.quoted hdirect).fee
  have hpays := RelaySite.settle_pays hfee hparties htoken hopening hsettle
  obtain ⟨hsigner, ⟨hsafe, hself⟩, hrecipient⟩ := hparties
  have hother : ∀ token other, other ≠ a.signer →
      ¬ (token = a.quote.feeToken ∧ other = d.config.feeSafe) →
      (∀ p, a.payment? d.config = some p → ¬ (token = p.token ∧ other = p.dst)) →
      w'.balance token other = w.balance token other := by
    intro token other hne hfee hnone
    rw [hpays.gains token other hne]
    have hnofee : ¬ (a.quote.feeToken = token ∧ d.config.feeSafe = other) :=
      fun h => hfee ⟨h.1.symm, h.2.symm⟩
    cases hp : a.payment? d.config with
    | none => rw [GatewayAction.received_payments_none hp, if_neg hnofee, Nat.add_zero]
    | some p =>
        have hnop : ¬ (p.token = token ∧ p.dst = other) := fun h => hnone p hp ⟨h.1.symm, h.2.symm⟩
        rw [GatewayAction.received_payments_some hp, if_neg hnop, if_neg hnofee, Nat.add_zero]
  refine ⟨hmax, ?_, ?_, ?_, hother, fun token => ⟨?_, hpays.grants token⟩⟩
  · rw [hpays.gains _ _ hsafe]
    cases hp : a.payment? d.config with
    | none => rw [GatewayAction.received_payments_none hp, if_pos ⟨rfl, rfl⟩]
    | some p =>
        have hnop : ¬ (p.token = a.quote.feeToken ∧ p.dst = d.config.feeSafe) :=
          fun h => (hrecipient p hp).1 h.2
        rw [GatewayAction.received_payments_some hp, if_neg hnop, if_pos ⟨rfl, rfl⟩, Nat.zero_add]
  · intro p hp
    obtain ⟨hp₁, hp₂, -⟩ := hrecipient p hp
    have hnofee : ¬ (a.quote.feeToken = p.token ∧ d.config.feeSafe = p.dst) := fun h => hp₁ h.2.symm
    rw [hpays.gains _ _ hp₂, GatewayAction.received_payments_some hp,
      if_pos ⟨rfl, rfl⟩, if_neg hnofee, Nat.add_zero]
  · intro token
    rw [← hpays.losses token, GatewayAction.spent_payments]
  · refine hother token d.config.self hsigner.symm (fun h => hself h.2.symm) fun p hp h => ?_
    exact (hrecipient p hp).2.2 h.2.symm

theorem sampleEcdsa_eight (digest : Bytes32) :
    sampleEcdsa.recover digest (sampleSigned 8) = .ok 8 := by
  rw [recover_eight]
  rfl

theorem sampleEcdsa_five (digest : Bytes32) :
    sampleEcdsa.recover digest (sampleSigned 5) = .ok 5 := by
  rw [recover_five]
  rfl

def sampleRelaySite : RelaySite := ⟨sampleRelayConfig, sampleEcdsa⟩

theorem exact_settlement_sample : ∃ g' w',
    sampleRelaySite.execute sampleGateway sampleRelayWorld 9 (.usdtTransfer (sampleUsdtTransfer 0))
        = .ok (g', w')
      ∧ w'.balance 27 25 = 3 ∧ w'.balance 27 7 = 100 ∧ w'.balance 27 5 + 103 = 1000 := by
  obtain ⟨g₁, hopening⟩ := sampleUsdt_opening (sampleEcdsa_eight _)
    (sampleEcdsa_five (hashTypedData sampleRelayDomain (usdtTransferIntentStructHash
      (sampleUsdtIntent 0 sampleUsdtQuoteHash))))
  obtain ⟨w', hsettle⟩ : ∃ w', sampleRelaySite.settle sampleGateway sampleRelayWorld
      (.usdtTransfer (sampleUsdtTransfer 0)) = .ok w' := exists_of_isOk (by decide +kernel)
  have hexecute : sampleRelaySite.execute sampleGateway sampleRelayWorld 9
      (.usdtTransfer (sampleUsdtTransfer 0)) = .ok ({ g₁ with entered := false }, w') :=
    bind_ok₂.mpr ⟨g₁, hopening, w', hsettle, rfl⟩
  have hparties : sampleRelaySite.Parties (.usdtTransfer (sampleUsdtTransfer 0)) := by
    refine ⟨(by decide : (5 : Address) ≠ 20),
      (by decide : (25 : Address) ≠ 5 ∧ (25 : Address) ≠ 20), ?_⟩
    rintro p ⟨⟩
    exact (by decide : (7 : Address) ≠ 25 ∧ (7 : Address) ≠ 5 ∧ (7 : Address) ≠ 20)
  obtain ⟨-, hsafe, hrecipient, howner, -⟩ := exact_settlement sampleRelaySite hexecute id hparties
  exact ⟨_, w', hexecute, hsafe, hrecipient _ rfl, howner 27⟩

end GoatCoin
