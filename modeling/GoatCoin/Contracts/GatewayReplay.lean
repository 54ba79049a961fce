/-
# `GoatCoin.Contracts.GatewayReplay` — what is relayed is relayed once

The gateway keeps three marks, and every action sets all of them that it has:

    intentUsed[intentId]               one for each intent, whichever action it is for
    quoteUsed[quoteId]                 one for each quote; a direct enrolment has none
    actionNonces[signer][action]       counted up by one

They are set before anything is called that could call back.  So here an action is its first half,
and then control is with the others: the tokens, the desk, the registries may do what they like
with the world, call the gateway again, and fail or return.

    act      an action is relayed; the call stays open
    done     the open action is over, and the gateway can be entered again
    admin    the policy Safe changes the gateway
    world    anything happens to everything else

What a signature says is taken from the curve by two assumptions: where a signature that is shown
recovers to an account, that account has signed the digest, and nothing else that it has signed has
the same digest.
-/
import GoatCoin.Contracts.Gateway
import GoatCoin.Lib.Reentry

namespace GoatCoin

open Function (update update_self update_of_ne)
open Evm StreamG StreamGCommon

/-! ## What is signed -/

/-- A struct that is signed for the gateway. -/
inductive SignedMessage where
  | quote (q : FeeQuote)
  | enrollment (intent : SponsorEnrollment)
  | sell (intent : SellIntent)
  | goatTransfer (intent : GoatTransferIntent)
  | usdtTransfer (intent : UsdtTransferIntent)

namespace SignedMessage

def typehash : SignedMessage → Bytes32
  | .quote _ => feeQuoteTypehash
  | .enrollment _ => sponsorEnrollmentTypehash
  | .sell _ => sellIntentTypehash
  | .goatTransfer _ => goatTransferIntentTypehash
  | .usdtTransfer _ => usdtTransferIntentTypehash

def fields : SignedMessage → List Nat
  | .quote q => feeQuoteFields q
  | .enrollment intent => sponsorEnrollmentFields intent
  | .sell intent => sellIntentFields intent
  | .goatTransfer intent => goatTransferIntentFields intent
  | .usdtTransfer intent => usdtTransferIntentFields intent

/-- What is hashed to the struct hash. -/
def encoded (m : SignedMessage) : List UInt8 := abiEncode (m.typehash.val :: m.fields)

def structHash (m : SignedMessage) : Bytes32 := keccak256 m.encoded

theorem encoded_eq (m : SignedMessage) :
    m.encoded = abiWord m.typehash.val ++ abiEncode m.fields := rfl

theorem fields_lt (m : SignedMessage) : ∀ n ∈ m.fields, n < 2 ^ 256 := by
  cases m <;> simp only [fields, feeQuoteFields, sponsorEnrollmentFields, sellIntentFields,
    goatTransferIntentFields, usdtTransferIntentFields] <;>
  repeat' first
    | exact List.forall_mem_nil _
    | refine List.forall_mem_cons.mpr ⟨word_lt (by decide) _, ?_⟩

/-- The number of the fields says which struct it is, and the fields say the rest. -/
theorem fields_inj {m m' : SignedMessage} (h : m.fields = m'.fields) : m = m' := by
  have hlength := congrArg List.length h
  cases m with
  | quote q =>
      cases m' with
      | quote q' =>
          cases q
          cases q'
          simpa [fields, feeQuoteFields, Fin.val_inj] using h
      | enrollment => exact nomatch hlength
      | sell => exact nomatch hlength
      | goatTransfer => exact nomatch hlength
      | usdtTransfer => exact nomatch hlength
  | enrollment intent =>
      cases m' with
      | enrollment intent' =>
          cases intent
          cases intent'
          simpa [fields, sponsorEnrollmentFields, Fin.val_inj] using h
      | quote => exact nomatch hlength
      | sell => exact nomatch hlength
      | goatTransfer => exact nomatch hlength
      | usdtTransfer => exact nomatch hlength
  | sell intent =>
      cases m' with
      | sell intent' =>
          cases intent
          cases intent'
          simpa [fields, sellIntentFields, Fin.val_inj] using h
      | quote => exact nomatch hlength
      | enrollment => exact nomatch hlength
      | goatTransfer => exact nomatch hlength
      | usdtTransfer => exact nomatch hlength
  | goatTransfer intent =>
      cases m' with
      | goatTransfer intent' =>
          cases intent
          cases intent'
          simpa [fields, goatTransferIntentFields, Fin.val_inj] using h
      | quote => exact nomatch hlength
      | enrollment => exact nomatch hlength
      | sell => exact nomatch hlength
      | usdtTransfer => exact nomatch hlength
  | usdtTransfer intent =>
      cases m' with
      | usdtTransfer intent' =>
          cases intent
          cases intent'
          simpa [fields, usdtTransferIntentFields, Fin.val_inj] using h
      | quote => exact nomatch hlength
      | enrollment => exact nomatch hlength
      | sell => exact nomatch hlength
      | goatTransfer => exact nomatch hlength

theorem encoded_inj {m m' : SignedMessage} (h : m.encoded = m'.encoded) : m = m' := by
  have hwords : ∀ m : SignedMessage, ∀ n ∈ m.typehash.val :: m.fields, n < 2 ^ 256 := fun m =>
    List.forall_mem_cons.mpr ⟨m.typehash.isLt, m.fields_lt⟩
  exact fields_inj (List.cons.inj (abiEncode_inj (hwords m) (hwords m') h)).2

end SignedMessage

/-- What an account signs: for a domain one of the gateway's structs or one of another type, or
bytes that are neither. -/
inductive EthSignable where
  | typed (domain : Bytes32) (m : SignedMessage)
  | foreign (domain typehash : Bytes32) (h : ∀ m : SignedMessage, typehash ≠ m.typehash)
      (data : List UInt8)
  | untyped (bytes : List UInt8) (h : ¬ [0x19, 0x01] <+: bytes)

namespace EthSignable

/-- The encoding of a struct. -/
def struct? : EthSignable → Option (List UInt8)
  | .typed _ m => some m.encoded
  | .foreign _ typehash _ data => some (abiWord typehash.val ++ data)
  | .untyped _ _ => none

/-- What is hashed to the digest. -/
def encoded : EthSignable → List UInt8
  | .typed domain m => 0x19 :: 0x01 :: abiWord domain.val ++ abiWord m.structHash.val
  | .foreign domain typehash _ data =>
      0x19 :: 0x01 :: abiWord domain.val ++ abiWord (keccak256 (abiWord typehash.val ++ data)).val
  | .untyped bytes _ => bytes

/-- `keccak256` has no collision on these, neither on their structs nor on the whole. -/
structure NoCollision (messages : Set EthSignable) : Prop where
  structs : Set.InjOn keccak256 {bytes | ∃ x ∈ messages, x.struct? = some bytes}
  digests : Set.InjOn keccak256 {bytes | ∃ x ∈ messages, x.encoded = bytes}

theorem words_inj {a b a' b' : Bytes32}
    (h : (0x19 :: 0x01 :: abiWord a.val ++ abiWord b.val : List UInt8)
      = 0x19 :: 0x01 :: abiWord a'.val ++ abiWord b'.val) : a = a' ∧ b = b' := by
  have htail := (List.cons.inj (List.cons.inj h).2).2
  obtain ⟨ha, hb⟩ := List.append_inj htail (by rw [length_abiWord, length_abiWord])
  exact ⟨Fin.ext (abiWord_inj a.isLt a'.isLt ha), Fin.ext (abiWord_inj b.isLt b'.isLt hb)⟩

theorem tagged (domain : Bytes32) (m : SignedMessage) :
    [0x19, 0x01] <+: (typed domain m).encoded := by
  rw [encoded, List.cons_append, List.cons_append, List.cons_prefix_cons, List.cons_prefix_cons]
  exact ⟨rfl, rfl, List.nil_prefix⟩

/-- **Of what was signed and what is shown, a digest of the gateway's fits only what is shown.** -/
theorem typed_of_digest {messages : Set EthSignable} (hfree : NoCollision messages)
    {domain : Bytes32}
    {m : SignedMessage} {x : EthSignable} (hshown : .typed domain m ∈ messages) (hx : x ∈ messages)
    (h : keccak256 x.encoded = hashTypedData domain m.structHash) : x = .typed domain m := by
  have hencoded : x.encoded = (typed domain m).encoded :=
    hfree.digests ⟨x, hx, rfl⟩ ⟨_, hshown, rfl⟩ h
  cases x with
  | typed domain' m' =>
      obtain ⟨rfl, hhash⟩ := words_inj hencoded
      have hstruct : m'.encoded = m.encoded := hfree.structs ⟨_, hx, rfl⟩ ⟨_, hshown, rfl⟩ hhash
      rw [SignedMessage.encoded_inj hstruct]
  | foreign domain' typehash hforeign data =>
      obtain ⟨-, hhash⟩ := words_inj hencoded
      have hstruct : abiWord typehash.val ++ data = m.encoded :=
        hfree.structs ⟨_, hx, rfl⟩ ⟨_, hshown, rfl⟩ hhash
      rw [m.encoded_eq] at hstruct
      have hword := (List.append_inj hstruct (by rw [length_abiWord, length_abiWord])).1
      exact absurd (Fin.ext (abiWord_inj typehash.isLt m.typehash.isLt hword)) (hforeign m)
  | untyped bytes hbytes =>
      have htagged := tagged domain m
      rw [← hencoded] at htagged
      exact absurd htagged hbytes

end EthSignable

namespace GatewayAction

def signer : GatewayAction → Address
  | .enrollment x => x.intent.controller
  | .sell x => x.intent.seller
  | .goatTransfer x => x.intent.owner
  | .usdtTransfer x => x.intent.owner

def actionType : GatewayAction → Bytes32
  | .enrollment _ => actionSponsoredEnrollment
  | .sell _ => actionSponsoredSell
  | .goatTransfer _ => actionGoatTransfer
  | .usdtTransfer _ => actionUsdtTransfer

def intentId : GatewayAction → Bytes32
  | .enrollment x => x.intent.intentId
  | .sell x => x.intent.intentId
  | .goatTransfer x => x.intent.intentId
  | .usdtTransfer x => x.intent.intentId

def nonce : GatewayAction → Nat
  | .enrollment x => x.intent.nonce.val
  | .sell x => x.intent.nonce.val
  | .goatTransfer x => x.intent.nonce.val
  | .usdtTransfer x => x.intent.nonce.val

def deadline : GatewayAction → Nat
  | .enrollment x => x.intent.deadline.val
  | .sell x => x.intent.deadline.val
  | .goatTransfer x => x.intent.deadline.val
  | .usdtTransfer x => x.intent.deadline.val

def coreHash : GatewayAction → Bytes32
  | .enrollment x => sponsorEnrollmentCoreHash x.intent
  | .sell x => sellCoreHash x.intent
  | .goatTransfer x => goatTransferCoreHash x.intent
  | .usdtTransfer x => usdtTransferCoreHash x.intent

def quote : GatewayAction → FeeQuote
  | .enrollment x => x.quote
  | .sell x => x.quote
  | .goatTransfer x => x.quote
  | .usdtTransfer x => x.quote

/-- The token of the fee; a sale names none but the quote's. -/
def feeToken : GatewayAction → Address
  | .enrollment x => x.intent.feeToken
  | .sell x => x.quote.feeToken
  | .goatTransfer x => x.intent.feeToken
  | .usdtTransfer x => x.intent.token

def maxFee : GatewayAction → Nat
  | .enrollment x => x.intent.maxFee.val
  | .sell x => x.intent.maxFee.val
  | .goatTransfer x => x.intent.maxFee.val
  | .usdtTransfer x => x.intent.maxFee.val

def message : GatewayAction → SignedMessage
  | .enrollment x => .enrollment x.intent
  | .sell x => .sell x.intent
  | .goatTransfer x => .goatTransfer x.intent
  | .usdtTransfer x => .usdtTransfer x.intent

def intentSignature : GatewayAction → EthSignature
  | .enrollment x => x.sponsorSignature
  | .sell x => x.intentSignature
  | .goatTransfer x => x.intentSignature
  | .usdtTransfer x => x.intentSignature

def quoteSignature : GatewayAction → EthSignature
  | .enrollment x => x.quoteSignature
  | .sell x => x.quoteSignature
  | .goatTransfer x => x.quoteSignature
  | .usdtTransfer x => x.quoteSignature

/-- An enrolment without a fee. -/
def Direct : GatewayAction → Prop
  | .enrollment x => StreamGEnroll.IsDirectEth x.intent
  | _ => False

instance (a : GatewayAction) : Decidable a.Direct :=
  match a with
  | .enrollment x => inferInstanceAs (Decidable (StreamGEnroll.IsDirectEth x.intent))
  | .sell _ => inferInstanceAs (Decidable False)
  | .goatTransfer _ => inferInstanceAs (Decidable False)
  | .usdtTransfer _ => inferInstanceAs (Decidable False)

/-- The quote that an action uses up. -/
def quoteId? (a : GatewayAction) : Option Bytes32 := if a.Direct then none else some a.quote.quoteId

end GatewayAction

/-! ## What an action checks -/

/-- A quote for an action: signed by whoever signs quotes, in time, and for this action. -/
structure RelaySite.Quoted (d : RelaySite) (g : GoatRelayGateway) (w : World) (a : GatewayAction) :
    Prop where
  signature : d.ecdsa.recover
    (hashTypedData (GoatRelayGateway.domain d.config w) (feeQuoteStructHash a.quote))
    a.quoteSignature = .ok g.quoteSigner
  valid : a.quote.validAfter.val ≤ w.now ∧ w.now < a.quote.validUntil.val
  core : a.quote.actionCoreHash = a.coreHash
  fee : a.quote.feeToken = a.feeToken ∧ a.quote.feeAmount.val ≠ 0 ∧ a.quote.feeAmount.val ≤ a.maxFee
  fresh : g.quoteUsed a.quote.quoteId = false

/-- What an action has when it is marked. -/
structure RelaySite.Cleared (d : RelaySite) (g : GoatRelayGateway) (w : World) (sender : Address)
    (a : GatewayAction) : Prop where
  signature : d.ecdsa.recover
    (hashTypedData (GoatRelayGateway.domain d.config w) a.message.structHash) a.intentSignature
      = .ok a.signer
  unexpired : w.now < a.deadline
  quoted : ¬ a.Direct → d.Quoted g w a
  direct : a.Direct → sender = a.signer
  unused : g.intentUsed a.intentId = false
  nonce : g.actionNonces a.signer a.actionType = a.nonce

/-- The marks that an action leaves. -/
def GoatRelayGateway.marked (g : GoatRelayGateway) (a : GatewayAction) : GoatRelayGateway :=
  { g with
    quoteUsed := if a.Direct then g.quoteUsed else update g.quoteUsed a.quote.quoteId true
    intentUsed := update g.intentUsed a.intentId true
    actionNonces := update g.actionNonces a.signer
      (update (g.actionNonces a.signer) a.actionType (a.nonce + 1)) }

namespace RelaySite

variable {d : RelaySite} {g g₁ g' : GoatRelayGateway} {w : World} {sender : Address}

theorem cleared_of {a : GatewayAction} {qc : QuoteCheck}
    (hdirect : ¬ a.Direct) (hcore : qc.actionCoreHash = a.coreHash)
    (hfee : qc.feeToken = a.feeToken ∧ qc.maxFee.val = a.maxFee)
    (hquote : validateAndConsumeQuote d.ecdsa (g.ctx d.config w) w g qc a.quote a.quoteSignature
      = .ok g₁)
    (hdeadline : w.now < a.deadline)
    (hsigner : d.ecdsa.recover (hashTypedData (GoatRelayGateway.domain d.config w)
      a.message.structHash) a.intentSignature = .ok a.signer)
    (hmark : markIntentAndNonce g₁ a.intentId a.signer a.actionType a.nonce = .ok g') :
    d.Cleared g w sender a ∧ g' = g.marked a := by
  obtain ⟨⟨-, hunused, hnonce, -⟩, hg'⟩ := markIntentAndNonce_ok.mp hmark
  obtain ⟨hconsumed, rfl⟩ := validateAndConsumeQuote_ok.mp hquote
  refine ⟨⟨hsigner, hdeadline, fun _ => ?_, fun h => absurd h hdirect, hunused, hnonce⟩, ?_⟩
  · have hsome : a.quote.feeAmount.val ≠ 0 := fun hzero => hconsumed.amount.1 (Fin.ext hzero)
    have hmax : a.quote.feeAmount.val ≤ a.maxFee := by
      rw [← hfee.2]
      exact hconsumed.amount.2
    exact ⟨hconsumed.signature, hconsumed.valid, hconsumed.core.trans hcore,
      ⟨hconsumed.token.1.trans hfee.1, hsome, hmax⟩, hconsumed.fresh⟩
  · rw [hg', GoatRelayGateway.marked, if_neg hdirect]

theorem enrollment_ok {x : EnrollmentCall}
    (h : StreamGEnroll.authorize d.ecdsa (g.ctx d.config w) w g sender x = .ok g') :
    d.Cleared g w sender (.enrollment x) ∧ g' = g.marked (.enrollment x) := by
  obtain ⟨_, hdeadline, _, -, _, -, _, -, h⟩ := bind_ok₄.mp h
  obtain ⟨_, -, _, -, _, -, _, -, h⟩ := bind_ok₄.mp h
  obtain ⟨_, -, _, -, _, -, _, -, h⟩ := bind_ok₄.mp h
  obtain ⟨_, -, _, -, _, -, _, -, h⟩ := bind_ok₄.mp h
  obtain ⟨_, -, g₁, hquote, sponsor, hsponsor, _, hsame, h⟩ := bind_ok₄.mp h
  rw [require_ok.mp hsame] at hsponsor
  unfold StreamGEnroll.checkQuote at hquote
  split at hquote
  · rename_i hdirect
    obtain ⟨_, hcontroller, _, -, _, -, _, -, hquote⟩ := bind_ok₄.mp hquote
    cases hquote
    obtain ⟨⟨-, hunused, hnonce, -⟩, hg'⟩ := markIntentAndNonce_ok.mp h
    have hdirect' : (GatewayAction.enrollment x).Direct := hdirect
    refine ⟨⟨hsponsor, require_ok.mp hdeadline, fun hno => absurd hdirect' hno,
      fun _ => require_ok.mp hcontroller, hunused, hnonce⟩, ?_⟩
    rw [hg', GoatRelayGateway.marked, if_pos hdirect']
    rfl
  · rename_i hdirect
    obtain ⟨g₂, hquote, _, -, _, -, hrest⟩ := bind_ok₃.mp hquote
    cases hrest
    exact cleared_of (a := .enrollment x) hdirect rfl ⟨rfl, rfl⟩ hquote
      (require_ok.mp hdeadline) hsponsor h

theorem sell_ok {x : SellCall}
    (h : StreamGSell.authorize d.ecdsa (g.ctx d.config w) w g x = .ok g') :
    d.Cleared g w sender (.sell x) ∧ g' = g.marked (.sell x) := by
  obtain ⟨_, hdeadline, _, -, _, -, _, -, h⟩ := bind_ok₄.mp h
  obtain ⟨_, -, _, -, g₁, hquote, _, -, h⟩ := bind_ok₄.mp h
  obtain ⟨_, -, signer, hsigner, _, hsame, h⟩ := bind_ok₃.mp h
  rw [require_ok.mp hsame] at hsigner
  exact cleared_of (a := .sell x) id rfl ⟨rfl, rfl⟩ hquote
    (require_ok.mp hdeadline) hsigner h

theorem goatTransfer_ok {x : GoatTransferCall}
    (h : StreamGXfer.authorizeGoat d.ecdsa (g.ctx d.config w) w g x = .ok g') :
    d.Cleared g w sender (.goatTransfer x) ∧ g' = g.marked (.goatTransfer x) := by
  obtain ⟨_, hdeadline, _, -, _, -, _, -, h⟩ := bind_ok₄.mp h
  obtain ⟨cap, -, g₁, hquote, _, -, _, -, h⟩ := bind_ok₄.mp h
  obtain ⟨_, -, signer, hsigner, _, hsame, h⟩ := bind_ok₃.mp h
  rw [require_ok.mp hsame] at hsigner
  exact cleared_of (a := .goatTransfer x) id rfl ⟨rfl, rfl⟩ hquote
    (require_ok.mp hdeadline) hsigner h

theorem usdtTransfer_ok {x : UsdtTransferCall}
    (h : StreamGXfer.authorizeUsdt d.ecdsa (g.ctx d.config w) w g x = .ok g') :
    d.Cleared g w sender (.usdtTransfer x) ∧ g' = g.marked (.usdtTransfer x) := by
  obtain ⟨_, hdeadline, _, -, _, -, _, -, h⟩ := bind_ok₄.mp h
  obtain ⟨cap, -, g₁, hquote, _, -, _, -, h⟩ := bind_ok₄.mp h
  obtain ⟨signer, hsigner, _, hsame, h⟩ := bind_ok₂.mp h
  rw [require_ok.mp hsame] at hsigner
  exact cleared_of (a := .usdtTransfer x) id rfl ⟨rfl, rfl⟩ hquote
    (require_ok.mp hdeadline) hsigner h

/-- **What an action needs, and what it marks.** -/
theorem authorize_ok {a : GatewayAction} (h : d.authorize g w sender a = .ok g') :
    d.Cleared g w sender a ∧ g' = g.marked a := by
  cases a with
  | enrollment x => exact enrollment_ok h
  | sell x => exact sell_ok h
  | goatTransfer x => exact goatTransfer_ok h
  | usdtTransfer x => exact usdtTransfer_ok h

theorem opening_ok {a : GatewayAction} (h : d.opening g w sender a = .ok g') :
    g.entered = false ∧ d.Cleared g w sender a
      ∧ g' = ({ g with entered := true } : GoatRelayGateway).marked a := by
  obtain ⟨g₁, henter, h⟩ := bind_ok.mp h
  obtain ⟨_, hout, _, -, _, -, henter⟩ := bind_ok₃.mp henter
  cases henter
  obtain ⟨hcleared, hg'⟩ := authorize_ok h
  refine ⟨require_ok.mp hout, ⟨hcleared.signature, hcleared.unexpired, fun hdirect => ?_,
    hcleared.direct, hcleared.unused, hcleared.nonce⟩, hg'⟩
  obtain ⟨hsignature, hvalid, hcore, hfee, hfresh⟩ := hcleared.quoted hdirect
  exact ⟨hsignature, hvalid, hcore, hfee, hfresh⟩

end RelaySite

/-! ## The gateway among others -/

inductive RelayCall where
  | act (sender : Address) (a : GatewayAction)
  | done
  | admin (sender : Address) (k : GatewayAdmin)
  | world (w : World)

/-- An action that has been opened hands over. -/
def RelayCall.yields : RelayCall → Bool
  | .act _ _ => true
  | _ => false

/-- The gateway in its world. -/
structure Relay where
  gateway : GoatRelayGateway
  world : World

namespace RelayCall

def intentId? : RelayCall → Option Bytes32
  | .act _ a => some a.intentId
  | _ => none

def quoteId? : RelayCall → Option Bytes32
  | .act _ a => a.quoteId?
  | _ => none

/-- The nonce that a call uses up of a signer and an action. -/
def nonce? (signer : Address) (actionType : Bytes32) : RelayCall → Option Nat
  | .act _ a => if a.signer = signer ∧ a.actionType = actionType then some a.nonce else none
  | _ => none

end RelayCall

namespace RelaySite

variable (d : RelaySite)

def act (s : Relay) : RelayCall → Except Revert Relay
  | .act sender a => do
      let gateway ← d.opening s.gateway s.world sender a
      .ok { s with gateway }
  | .done => do
      require (s.gateway.entered = true) .badArg
      .ok { s with gateway := { s.gateway with entered := false } }
  | .admin sender k => do
      let gateway ← s.gateway.admin d.config s.world sender k
      .ok { s with gateway }
  | .world w => .ok { s with world := w }

/-- A call, and whether it hands over. -/
def step (s : Relay) (k : RelayCall) : Except Revert (Relay × Bool) := do
  let s' ← d.act s k
  .ok (s', k.yields)

/-- The state after the calls that were made and not undone. -/
def run (s : Relay) (ks : List RelayCall) : Relay := ks.foldl (attempt d.act) s

theorem run_snoc (s : Relay) (ks : List RelayCall) (k : RelayCall) :
    d.run s (ks ++ [k]) = attempt d.act (d.run s ks) k := Runs.foldl_snoc ks k s

variable {d}

theorem admin_marks {g g' : GoatRelayGateway} {cfg : GoatRelayGateway.Config} {w : World}
    {sender : Address} {k : GatewayAdmin} (h : g.admin cfg w sender k = .ok g') :
    g'.intentUsed = g.intentUsed ∧ g'.quoteUsed = g.quoteUsed
    ∧ g'.actionNonces = g.actionNonces := by
  cases k with
  | setFeeScheduleHash feeScheduleHash =>
      obtain ⟨_, -, h⟩ := bind_ok.mp h
      cases h
      exact ⟨rfl, rfl, rfl⟩
  | setPaused paused =>
      obtain ⟨_, -, h⟩ := bind_ok.mp h
      cases h
      exact ⟨rfl, rfl, rfl⟩
  | setQuoteSigner quoteSigner =>
      obtain ⟨_, -, _, -, h⟩ := bind_ok₂.mp h
      cases h
      exact ⟨rfl, rfl, rfl⟩
  | setSponsoredBuyDesk desk =>
      obtain ⟨_, -, _, -, _, -, _, -, h⟩ := bind_ok₄.mp h
      cases h
      exact ⟨rfl, rfl, rfl⟩
  | activate =>
      obtain ⟨_, -, _, -, _, -, h⟩ := bind_ok₃.mp h
      obtain ⟨_, -, _, -, h⟩ := bind_ok₂.mp h
      cases h
      exact ⟨rfl, rfl, rfl⟩

theorem act_cases {s s' : Relay} {k : RelayCall} (h : d.act s k = .ok s') :
    (∃ sender a, k = .act sender a ∧ d.Cleared s.gateway s.world sender a
      ∧ s'.gateway = ({ s.gateway with entered := true } : GoatRelayGateway).marked a)
    ∨ ((∀ sender a, k ≠ .act sender a) ∧ s'.gateway.intentUsed = s.gateway.intentUsed
      ∧ s'.gateway.quoteUsed = s.gateway.quoteUsed
      ∧ s'.gateway.actionNonces = s.gateway.actionNonces) := by
  cases k with
  | act sender a =>
      obtain ⟨g', hopening, h⟩ := bind_ok.mp h
      cases h
      obtain ⟨-, hcleared, hmarked⟩ := opening_ok hopening
      exact .inl ⟨sender, a, rfl, hcleared, hmarked⟩
  | done =>
      have hother : ∀ sender a, RelayCall.done ≠ .act sender a := fun _ _ h => by cases h
      obtain ⟨_, -, h⟩ := bind_ok.mp h
      cases h
      exact .inr ⟨hother, rfl, rfl, rfl⟩
  | admin sender k =>
      have hother : ∀ sender' a, RelayCall.admin sender k ≠ .act sender' a :=
        fun _ _ h => by cases h
      obtain ⟨g', hadmin, h⟩ := bind_ok.mp h
      cases h
      exact .inr ⟨hother, admin_marks hadmin⟩
  | world w =>
      have hother : ∀ sender a, RelayCall.world w ≠ .act sender a := fun _ _ h => by cases h
      cases h
      exact .inr ⟨hother, rfl, rfl, rfl⟩

end RelaySite

/-! ## The marks are the history -/

/-- A list of keys without repetition, and the set of marks that it leaves. -/
structure Marks (keys : List Bytes32) (used : Bytes32 → Bool) : Prop where
  nodup : keys.Nodup
  mem_iff : ∀ key, used key = true ↔ key ∈ keys

namespace Marks

variable {keys : List Bytes32} {used : Bytes32 → Bool}

theorem snoc (h : Marks keys used) {key : Bytes32} (hfresh : used key = false) :
    Marks (keys ++ [key]) (update used key true) := by
  have hnew : key ∉ keys := by
    intro hmem
    rw [(h.mem_iff key).mpr hmem] at hfresh
    cases hfresh
  refine ⟨List.nodup_append.mpr ⟨h.nodup, List.nodup_singleton key, ?_⟩, fun other => ?_⟩
  · rintro x hx y hy rfl
    rw [List.mem_singleton] at hy
    subst hy
    exact hnew hx
  · rw [List.mem_append, List.mem_singleton]
    rcases eq_or_ne other key with rfl | hne
    · rw [update_self]
      exact ⟨fun _ => .inr rfl, fun _ => rfl⟩
    · rw [update_of_ne hne, h.mem_iff other]
      exact ⟨.inl, fun hmem => hmem.resolve_right hne⟩

end Marks

/-- What is known of the calls in effect: the state is their run, each was made in the state before
it, and they are what has been marked. -/
structure RelaySite.Books (d : RelaySite) (start : Relay) (ks : List RelayCall)
    (s : Relay) : Prop where
  run_eq : s = d.run start ks
  effective : ∀ before k, before ++ [k] <+: ks → ∃ s', d.act (d.run start before) k = .ok s'
  intents : Marks (ks.filterMap RelayCall.intentId?) s.gateway.intentUsed
  quotes : Marks (ks.filterMap RelayCall.quoteId?) s.gateway.quoteUsed
  nonces : ∀ signer actionType, ks.filterMap (RelayCall.nonce? signer actionType)
    = List.range (s.gateway.actionNonces signer actionType)

namespace RelaySite

variable {d : RelaySite} {start : Relay}

theorem books_new (hnew : GoatRelayGateway.new d.config = .ok start.gateway) :
    d.Books start [] start := by
  obtain ⟨_, -, hnew⟩ := bind_ok.mp hnew
  have hgateway := (Except.ok.inj hnew).symm
  refine ⟨rfl, fun before k hk => ?_, ?_, ?_, fun signer actionType => ?_⟩
  · have hnil := List.prefix_nil.mp hk
    exact absurd hnil (List.append_ne_nil_of_right_ne_nil before (List.cons_ne_nil k []))
  · rw [hgateway]
    exact ⟨List.nodup_nil, fun key => ⟨nofun, nofun⟩⟩
  · rw [hgateway]
    exact ⟨List.nodup_nil, fun key => ⟨nofun, nofun⟩⟩
  · rw [hgateway]
    rfl

theorem Books.marked {ks : List RelayCall} {s : Relay} (h : d.Books start ks s) {sender : Address}
    {a : GatewayAction} {g' : GoatRelayGateway} (hcleared : d.Cleared s.gateway s.world sender a)
    (hg' : g' = ({ s.gateway with entered := true } : GoatRelayGateway).marked a) :
    Marks ((ks ++ [RelayCall.act sender a]).filterMap RelayCall.intentId?) g'.intentUsed
      ∧ Marks ((ks ++ [RelayCall.act sender a]).filterMap RelayCall.quoteId?) g'.quoteUsed
      ∧ ∀ signer actionType,
        (ks ++ [RelayCall.act sender a]).filterMap (RelayCall.nonce? signer actionType)
        = List.range (g'.actionNonces signer actionType) := by
  subst hg'
  refine ⟨?_, ?_, fun signer actionType => ?_⟩
  · rw [List.filterMap_append]
    exact h.intents.snoc hcleared.unused
  · rw [List.filterMap_append]
    show Marks _ (if a.Direct then s.gateway.quoteUsed
      else update s.gateway.quoteUsed a.quote.quoteId true)
    by_cases hdirect : a.Direct
    · have hnone : [RelayCall.act sender a].filterMap RelayCall.quoteId? = [] := by
        simp [RelayCall.quoteId?, GatewayAction.quoteId?, hdirect]
      rw [hnone, List.append_nil, if_pos hdirect]
      exact h.quotes
    · have hone : [RelayCall.act sender a].filterMap RelayCall.quoteId? = [a.quote.quoteId] := by
        simp [RelayCall.quoteId?, GatewayAction.quoteId?, hdirect]
      rw [hone, if_neg hdirect]
      exact h.quotes.snoc (hcleared.quoted hdirect).fresh
  · rw [List.filterMap_append, h.nonces signer actionType]
    show _ = List.range (update s.gateway.actionNonces a.signer
      (update (s.gateway.actionNonces a.signer) a.actionType (a.nonce + 1)) signer actionType)
    by_cases hsame : a.signer = signer ∧ a.actionType = actionType
    · have hone : [RelayCall.act sender a].filterMap (RelayCall.nonce? signer actionType)
          = [a.nonce] := by
        simp [RelayCall.nonce?, hsame]
      obtain ⟨rfl, rfl⟩ := hsame
      rw [hone, update_self, update_self, hcleared.nonce, List.range_succ]
    · have hnone :
        [RelayCall.act sender a].filterMap (RelayCall.nonce? signer actionType) = [] := by
        simp [RelayCall.nonce?, hsame]
      rw [hnone, List.append_nil]
      rcases eq_or_ne signer a.signer with rfl | hsigner
      · have haction : actionType ≠ a.actionType := fun heq => hsame ⟨rfl, heq.symm⟩
        rw [update_self, update_of_ne haction]
      · rw [update_of_ne hsigner]

theorem Books.step {ks : List RelayCall} {s s' : Relay} {k : RelayCall} (h : d.Books start ks s)
    (hact : d.act s k = .ok s') : d.Books start (ks ++ [k]) s' := by
  have hrun : s' = d.run start (ks ++ [k]) := by
    rw [d.run_snoc, ← h.run_eq, attempt_of_ok hact]
  have heffective : ∀ before k', before ++ [k'] <+: ks ++ [k] →
      ∃ s', d.act (d.run start before) k' = .ok s' := by
    intro before k' hk'
    rcases List.prefix_concat_iff.mp hk' with heq | hbefore
    · obtain ⟨rfl, hk⟩ := List.append_inj' heq rfl
      cases hk
      rw [← h.run_eq]
      exact ⟨s', hact⟩
    · exact h.effective before k' hbefore
  rcases act_cases hact with ⟨sender, a, rfl, hcleared, hmarked⟩ | ⟨hother, hi, hq, hn⟩
  · obtain ⟨hintents, hquotes, hnonces⟩ := h.marked hcleared hmarked
    exact ⟨hrun, heffective, hintents, hquotes, hnonces⟩
  · have hkeep : k.intentId? = none ∧ k.quoteId? = none
        ∧ ∀ signer actionType, k.nonce? signer actionType = none := by
      cases k with
      | act sender a => exact absurd rfl (hother sender a)
      | done => exact ⟨rfl, rfl, fun _ _ => rfl⟩
      | admin sender k => exact ⟨rfl, rfl, fun _ _ => rfl⟩
      | world w => exact ⟨rfl, rfl, fun _ _ => rfl⟩
    refine ⟨hrun, heffective, ?_, ?_, fun signer actionType => ?_⟩
    · rw [List.filterMap_append, List.filterMap_cons_none hkeep.1, List.filterMap_nil,
        List.append_nil, hi]
      exact h.intents
    · rw [List.filterMap_append, List.filterMap_cons_none hkeep.2.1, List.filterMap_nil,
        List.append_nil, hq]
      exact h.quotes
    · rw [List.filterMap_append, List.filterMap_cons_none (hkeep.2.2 signer actionType),
        List.filterMap_nil, List.append_nil, hn]
      exact h.nonces signer actionType

theorem step_ok {s s' : Relay} {k : RelayCall} {handover : Bool}
    (h : d.step s k = .ok (s', handover)) : d.act s k = .ok s' ∧ handover = k.yields := by
  obtain ⟨s₁, hact, h⟩ := bind_ok.mp h
  cases h
  exact ⟨hact, rfl⟩

end RelaySite

/-! ## What is relayed was signed -/

/-- What an action shows in the name of an account, and the signature that it shows for it. -/
def RelaySite.Shows (d : RelaySite) (s : Relay) (a : GatewayAction) (account : Address)
    (x : EthSignable) (signature : EthSignature) : Prop :=
  (account = a.signer ∧ x = .typed (GoatRelayGateway.domain d.config s.world) a.message
      ∧ signature = a.intentSignature)
    ∨ (account = s.gateway.quoteSigner
      ∧ x = .typed (GoatRelayGateway.domain d.config s.world) (.quote a.quote)
      ∧ signature = a.quoteSignature)

/-- What the calls in effect showed in the name of an account. -/
def RelaySite.Shown (d : RelaySite) (start : Relay) (ks : List RelayCall) (account : Address)
    (x : EthSignable) (signature : EthSignature) : Prop :=
  ∃ before sender a, before ++ [.act sender a] <+: ks
    ∧ d.Shows (d.run start before) a account x signature

/-- Where a signature that is shown recovers to an account, the account has signed that digest. -/
def RelaySite.Unforgeable (d : RelaySite) (signed : Address → EthSignable → Prop) (start : Relay)
    (ks : List RelayCall) : Prop :=
  ∀ account x signature, d.Shown start ks account x signature →
    d.ecdsa.recover (keccak256 x.encoded) signature = .ok account →
      ∃ y, signed account y ∧ keccak256 y.encoded = keccak256 x.encoded

/-- What an account has signed, and what the calls in effect showed in its name. -/
def RelaySite.signedOrShown (d : RelaySite) (signed : Address → EthSignable → Prop) (start : Relay)
    (ks : List RelayCall) (account : Address) : Set EthSignable :=
  {x | signed account x ∨ ∃ signature, d.Shown start ks account x signature}

/-- What an action of the gateway rests on. -/
structure RelaySite.Warranted (d : RelaySite) (signed : Address → EthSignable → Prop) (s : Relay)
    (sender : Address) (a : GatewayAction) : Prop where
  intent : signed a.signer (.typed (GoatRelayGateway.domain d.config s.world) a.message)
  unexpired : s.world.now < a.deadline
  quote : (a.Direct ∧ sender = a.signer)
    ∨ (signed s.gateway.quoteSigner
        (.typed (GoatRelayGateway.domain d.config s.world) (.quote a.quote))
      ∧ (a.quote.validAfter.val ≤ s.world.now ∧ s.world.now < a.quote.validUntil.val)
      ∧ a.quote.actionCoreHash = a.coreHash)

namespace RelaySite

variable {d : RelaySite} {start : Relay} {signed : Address → EthSignable → Prop}

theorem signed_of_recover {ks : List RelayCall} (hunforgeable : d.Unforgeable signed start ks)
    {account : Address} (hfree : EthSignable.NoCollision (d.signedOrShown signed start ks account))
    {domain : Bytes32} {m : SignedMessage} {signature : EthSignature}
    (hshown : d.Shown start ks account (.typed domain m) signature)
    (h : d.ecdsa.recover (hashTypedData domain m.structHash) signature = .ok account) :
    signed account (.typed domain m) := by
  obtain ⟨x, hx, hdigest⟩ := hunforgeable account _ signature hshown h
  rw [← EthSignable.typed_of_digest hfree (.inr ⟨signature, hshown⟩) (.inl hx) hdigest]
  exact hx

theorem Cleared.warranted {before ks : List RelayCall} {sender : Address} {a : GatewayAction}
    (hbefore : before ++ [.act sender a] <+: ks)
    (hcleared : d.Cleared (d.run start before).gateway (d.run start before).world sender a)
    (hunforgeable : d.Unforgeable signed start ks)
    (hfree : ∀ account, EthSignable.NoCollision (d.signedOrShown signed start ks account)) :
    d.Warranted signed (d.run start before) sender a := by
  have hintent := signed_of_recover hunforgeable (hfree a.signer)
    ⟨before, sender, a, hbefore, .inl ⟨rfl, rfl, rfl⟩⟩ hcleared.signature
  refine ⟨hintent, hcleared.unexpired, ?_⟩
  by_cases hdirect : a.Direct
  · exact .inl ⟨hdirect, hcleared.direct hdirect⟩
  · obtain ⟨hquote, hvalid, hcore, -⟩ := hcleared.quoted hdirect
    have hsigner := signed_of_recover hunforgeable (hfree _) (m := .quote a.quote)
      ⟨before, sender, a, hbefore, .inr ⟨rfl, rfl, rfl⟩⟩ hquote
    exact .inr ⟨hsigner, hvalid, hcore⟩

/-- A whole action, with tokens that do not call back, is one way for the calls to go. -/
theorem execute_events {g g' : GoatRelayGateway} {w w' : World} {sender : Address}
    {a : GatewayAction} (h : d.execute g w sender a = .ok (g', w')) :
    Reentry.exec d.step id ⟨g, w⟩
        [.call (.act sender a), .call (.world w'), .call .done, .leave true]
      = ⟨⟨g', w'⟩, [.act sender a, .world w', .done], []⟩ := by
  obtain ⟨g₁, hopening, w₁, -, h⟩ := bind_ok₂.mp h
  cases h
  have hentered : g₁.entered = true := by
    obtain ⟨-, -, hg₁⟩ := opening_ok hopening
    rw [hg₁]
    rfl
  have hact : d.step ⟨g, w⟩ (.act sender a) = .ok (⟨g₁, w⟩, true) := by
    simp only [step, act, hopening]
    rfl
  have hdone : d.step ⟨g₁, w'⟩ .done = .ok (⟨{ g₁ with entered := false }, w'⟩, false) := by
    simp only [step, act, require, hentered]
    rfl
  rw [Reentry.exec, List.foldl_cons, Reentry.next_ok hact, List.foldl_cons,
    Reentry.next_ok (r := (⟨g₁, w'⟩, false)) rfl, List.foldl_cons, Reentry.next_ok hdone]
  rfl

end RelaySite

/-- **What is relayed is relayed once, and as it was signed.**  Whoever calls, in whatever order and
however deep, of the calls in effect no two share an intent or a quote, the nonces of a signer for
an action are counted up from zero, and each was signed as it is, in time, and quoted; and a call
that fails, at once or after it handed over, leaves everything as it was. -/
theorem gateway_replay (d : RelaySite) {start : Relay}
    (hnew : GoatRelayGateway.new d.config = .ok start.gateway)
    {signed : Address → EthSignable → Prop} (events : List (Reentry.Event RelayCall))
    {x : Reentry.Exec Relay RelayCall} (hx : x = Reentry.exec d.step id start events)
    (hunforgeable : d.Unforgeable signed start x.history)
    (hfree : ∀ account, EthSignable.NoCollision (d.signedOrShown signed start x.history account)) :
    x.state = d.run start x.history
      ∧ (x.history.filterMap RelayCall.intentId?).Nodup
      ∧ (x.history.filterMap RelayCall.quoteId?).Nodup
      ∧ (∀ signer actionType, x.history.filterMap (RelayCall.nonce? signer actionType)
        = List.range (x.state.gateway.actionNonces signer actionType))
      ∧ (∀ before sender a, before ++ [.act sender a] <+: x.history →
        d.Warranted signed (d.run start before) sender a)
      ∧ (∀ k e, d.step x.state k = .error e → Reentry.next d.step id x (.call k) = x)
      ∧ ∀ k s inner, d.step x.state k = .ok (s, true) →
        (∀ before, before <+: inner → x.frames.length
          < (before.foldl (Reentry.next d.step id)
            (Reentry.next d.step id x (.call k))).frames.length) →
        (inner.foldl (Reentry.next d.step id) (Reentry.next d.step id x (.call k))).frames.length
          = x.frames.length + 1 →
        Reentry.next d.step id
          (inner.foldl (Reentry.next d.step id) (Reentry.next d.step id x (.call k))) (.leave false)
          = x := by
  have hbooks : d.Books start x.history x.state := by
    rw [hx]
    exact (Reentry.invariant (RelaySite.books_new hnew)
      (fun ks s k s' _ h hstep => h.step (RelaySite.step_ok hstep).1) events).1
  refine ⟨hbooks.run_eq, hbooks.intents.nodup, hbooks.quotes.nodup, hbooks.nonces, ?_,
    fun k e => Reentry.next_error, fun k s inner hcall hopen hclosed =>
      Reentry.failed_call hcall rfl hopen hclosed⟩
  intro before sender a hbefore
  obtain ⟨s', hact⟩ := hbooks.effective before (.act sender a) hbefore
  rcases RelaySite.act_cases hact with ⟨sender', a', heq, hcleared, -⟩ | ⟨hother, -⟩
  · cases heq
    exact hcleared.warranted hbefore hunforgeable hfree
  · exact absurd rfl (hother sender a)

/-! ## A transfer that is relayed -/

def sampleRelayConfig : GoatRelayGateway.Config where
  self := 20
  enrollmentRegistry := 21
  feeTokenRegistry := 22
  sponsorship := 23
  goat := 24
  policySafe := 4
  feeSafe := 25

def sampleFeeConfig (token : Address) (decimals : Word 8) : FeeTokenConfig where
  chainId := 1
  token
  runtimeCodeHash := 77
  proxyIdentityHash := 0
  capabilityMask := 15
  decimals
  domainNameHash := 0
  domainVersionHash := 0
  builtInModeId := 0
  configVersion := 1
  active := true

/-- The tokens 26 and 27 may be paid with. -/
def sampleFees : FeeTokenRegistry :=
  let empty : FeeTokenRegistry :=
    ⟨50, fun _ => ⟨0, 0⟩, fun _ => ⟨0, 0, 0, 0, 0, 0, 0, 0, 0, 0, false⟩, fun _ => 0⟩
  (empty.store (sampleFeeConfig 26 6)).store (sampleFeeConfig 27 18)

def sampleTokenOf (holder : Address) (allowances : Address → Address → Nat) : Token where
  coin :=
    { token :=
        { balances := update (fun _ => 0) holder 1000
          allowances
          totalSupply := 1000
          sum_balances := sum_single holder 1000
          supply_lt := by decide }
      isMinter := fun _ => false
      restricted := false
      paused := false }
  nonces := fun _ => 0
  authorizationState := fun _ _ => false
  domain := 80
  permits := true
  authorizes := true

/-- The account 5 is a root and has GOAT and the token 27; the desk 30 buys for the token 26. -/
def sampleRelayWorld : World where
  site := ⟨10, 1, fun _ => 77⟩
  v1 := ⟨fun _ => true, fun _ => false, fun _ => false, fun _ => 0⟩
  fees := sampleFees
  wallets :=
    { sampleWalletChain.wallets with
      gateway := 20
      gatewayBound := true
      primaryOf := update (fun _ => 0) 5 5
      controllerOf := update (fun _ => 0) 5 5
      controlledRootOf := update (fun _ => 0) 5 5 }
  tokens := fun token =>
    if token = 26 then
      sampleTokenOf 6 (update (fun _ _ => 0) 6 (update (fun _ => 0) 30 1000))
    else sampleTokenOf 5 fun _ _ => 0
  desks := fun _ =>
    { owner := 6
      usdt := 26
      goat := 24
      feeSafe := 25
      dailyRootCapGoat := 1000
      gateway := 20
      gatewayBound := true
      bid := 2 * 10 ^ 18
      sessionCount := 1
      sessions := fun _ => ⟨0, 100, 1000, false⟩
      soldInSession := fun _ _ => 0
      soldPerUtcDay := fun _ _ => 0 }

/-- The policy Safe has set the gateway up; the account 8 signs quotes. -/
def sampleGateway : GoatRelayGateway where
  activated := true
  paused := false
  feeScheduleHash := 70
  quoteSigner := 8
  sponsoredBuyDesk := 30
  sponsoredBuyDeskCodeHash := 77
  actionNonces := fun _ _ => 0
  intentUsed := fun _ => false
  quoteUsed := fun _ => false
  entered := false

def sampleEntered : GoatRelayGateway := { sampleGateway with entered := true }

def sampleRelayDomain : Bytes32 := GoatRelayGateway.domain sampleRelayConfig sampleRelayWorld

/-- What the account 5 wants: 100 of the token 27 to the account 7, for a fee of at most 5. -/
def sampleUsdtIntent (transferAuthorizationDigest feeQuoteHash : Bytes32) : UsdtTransferIntent where
  intentId := 90
  deploymentManifestHash := 50
  feeTokenConfigHash := FeeTokenRegistry.hashConfig (sampleFeeConfig 27 18)
  owner := 5
  expectedRoot := 5
  token := 27
  recipient := 7
  amount := 100
  authorizationMode := 1
  transferAuthorizationDigest
  maxFee := 5
  feeQuoteHash
  nonce := 0
  deadline := 500

/-- A quote of 3 of the token 27. -/
def sampleQuote (actionType actionCoreHash : Bytes32) : FeeQuote where
  quoteId := 91
  actionType
  actionCoreHash
  deploymentManifestHash := 50
  feeTokenConfigHash := FeeTokenRegistry.hashConfig (sampleFeeConfig 27 18)
  feeScheduleHash := 70
  payer := 5
  feeToken := 27
  feeAmount := 3
  feeRecipient := 25
  validAfter := 0
  validUntil := 500

/-- What is quoted for a transfer does not depend on the digests. -/
def sampleUsdtQuote : FeeQuote :=
  sampleQuote actionUsdtTransfer (usdtTransferCoreHash (sampleUsdtIntent 0 0))

def sampleUsdtQuoteHash : Bytes32 :=
  hashTypedData sampleRelayDomain (feeQuoteStructHash sampleUsdtQuote)

def samplePermit (value deadline : Uint256) : Eip2612Authorization :=
  ⟨5, 20, value, deadline, 27, 5, 0⟩

/-- The transfer by a permit, with what the intent says of the permit. -/
def sampleUsdtTransfer (transferAuthorizationDigest : Bytes32) : UsdtTransferCall where
  intent := sampleUsdtIntent transferAuthorizationDigest sampleUsdtQuoteHash
  quote := sampleUsdtQuote
  transferAuthorization :=
    { mode := 1
      eip2612 := samplePermit 103 500
      eip3009 := ⟨0, 0, 0, 0, 0, 0, 0, 0, 0⟩
      priorAllowance := ⟨0, 0, 0, 0, 0, 0, 0, 0⟩
      priorAllowanceSignature := [] }
  intentSignature := sampleSigned 5
  quoteSignature := sampleSigned 8

theorem feeTokenConfigTypehash_eq : feeTokenConfigTypehash
    = 0xdf3f4881a773320188104db0a63dab7043eb60cac6c8e7eea34993ccf6e77b36 := by
  rw [feeTokenConfigTypehash, keccakText_ofList, keccak256_eval]
  decide +kernel

theorem sampleFees_hash : sampleRelayWorld.fees.tokenConfigHashes 27
    = FeeTokenRegistry.hashConfig (sampleFeeConfig 27 18) :=
  FeeTokenRegistry.tokenConfigHashes_store _ (sampleFeeConfig 27 18)

theorem sampleFeeConfig_hash_ne : FeeTokenRegistry.hashConfig (sampleFeeConfig 27 18) ≠ 0 := by
  rw [FeeTokenRegistry.hashConfig, feeTokenConfigTypehash_eq, structHash,
    keccak256_eval]
  decide +kernel

theorem sampleQuote_consumed {e : Ecdsa} {qc : QuoteCheck} {actionCoreHash : Bytes32}
    (hpayer : qc.payer = 5 ∧ qc.feeToken = 27 ∧ qc.deploymentManifestHash = 50 ∧ qc.maxFee = 5)
    (hconfig : qc.feeTokenConfigHash = FeeTokenRegistry.hashConfig (sampleFeeConfig 27 18))
    (hcore : actionCoreHash = qc.actionCoreHash)
    (hcap : sampleFees.IsAuthorized sampleRelayWorld.site 27 qc.requiredCapability)
    {signature : EthSignature}
    (hsignature : e.recover (hashTypedData sampleRelayDomain
      (feeQuoteStructHash (sampleQuote qc.actionType actionCoreHash))) signature = .ok 8) :
    Consumed e (sampleEntered.ctx sampleRelayConfig sampleRelayWorld) sampleRelayWorld
      sampleEntered qc (sampleQuote qc.actionType actionCoreHash) signature := by
  obtain ⟨hpayer, htoken, hmanifest, hmax⟩ := hpayer
  refine
    { signer := (by decide : (8 : Address) ≠ 0)
      id := (by decide : (91 : Bytes32) ≠ 0)
      fresh := rfl
      action := rfl
      payer := hpayer.symm
      recipient := rfl
      token := ⟨htoken.symm, (by decide : (27 : Address) ≠ 0)⟩
      amount := ⟨(by decide : (3 : Uint256) ≠ 0), ?_⟩
      valid := (by decide : 0 ≤ 10 ∧ 10 < 500)
      manifest := ⟨hmanifest, rfl⟩
      schedule := ⟨rfl, (by decide : (70 : Bytes32) ≠ 0)⟩
      authorized := ?_
      config := ?_
      core := hcore
      signature := hsignature }
  · rw [hmax]
    exact (by decide : (3 : Uint256) ≤ 5)
  · rw [htoken]
    exact hcap
  · rw [htoken, sampleFees_hash, hconfig]
    exact ⟨sampleFeeConfig_hash_ne, rfl, rfl⟩

theorem sampleUsdt_core (authorization quoteHash : Bytes32) :
    usdtTransferCoreHash (sampleUsdtIntent 0 0)
      = usdtTransferCoreHash (sampleUsdtIntent authorization quoteHash) := rfl

theorem sampleUsdt_opening {e : Ecdsa} {transferAuthorizationDigest : Bytes32}
    (hquote : e.recover sampleUsdtQuoteHash (sampleSigned 8) = .ok 8)
    (hintent : e.recover (hashTypedData sampleRelayDomain (usdtTransferIntentStructHash
      (sampleUsdtIntent transferAuthorizationDigest sampleUsdtQuoteHash)))
        (sampleSigned 5) = .ok 5) :
    ∃ g', RelaySite.opening ⟨sampleRelayConfig, e⟩ sampleGateway sampleRelayWorld 9
        (.usdtTransfer (sampleUsdtTransfer transferAuthorizationDigest)) = .ok g' := by
  have hconsumed := validateAndConsumeQuote_ok.mpr ⟨@sampleQuote_consumed e
    (StreamGXfer.usdtQuoteCheck (sampleUsdtIntent transferAuthorizationDigest sampleUsdtQuoteHash)
      capEip2612) _
    ⟨rfl, rfl, rfl, rfl⟩ rfl (sampleUsdt_core _ _)
    (by decide : sampleFees.IsAuthorized sampleRelayWorld.site 27 capEip2612) _ hquote, rfl⟩
  exact ⟨_, bind_ok₄.mpr ⟨sampleEntered, rfl, _, require_of (by decide : 10 < 500), _, require_of
      (by decide : ¬ ((5 : Address) = 0 ∨ (5 : Address) = 0 ∨ (7 : Address) = 0 ∨ (27 : Address) = 0)),
        (), rfl,
        bind_ok₄.mpr ⟨_, require_of rfl, capEip2612, rfl, _, hconsumed, _, require_of rfl,
          bind_ok₃.mpr ⟨_, require_of rfl, 5, hintent, _, require_of rfl, markIntentAndNonce_ok.mpr
      ⟨⟨(by decide : (90 : Bytes32) ≠ 0), rfl, rfl, (by decide : 0 + 1 < 2 ^ 256)⟩, rfl⟩⟩⟩⟩⟩

theorem recover_five (e : Ecdsa) (digest : Bytes32) :
    e.recover digest (sampleSigned 5) = e.recoverVrs digest 27 5 0 := by
  have hparts : (sampleSigned 5).length = 65 ∧ (sampleSigned 5).getD 64 0 = 27
      ∧ wordOfBytes ((sampleSigned 5).take 32) = 5
      ∧ wordOfBytes (((sampleSigned 5).drop 32).take 32) = 0 := by decide +kernel
  obtain ⟨hlength, hv, hr, hs⟩ := hparts
  rw [Ecdsa.recover, require_of hlength, hv, hr, hs]
  rfl

theorem recover_eight (e : Ecdsa) (digest : Bytes32) :
    e.recover digest (sampleSigned 8) = e.recoverVrs digest 27 8 0 := by
  have hparts : (sampleSigned 8).length = 65 ∧ (sampleSigned 8).getD 64 0 = 27
      ∧ wordOfBytes ((sampleSigned 8).take 32) = 8
      ∧ wordOfBytes (((sampleSigned 8).drop 32).take 32) = 0 := by decide +kernel
  obtain ⟨hlength, hv, hr, hs⟩ := hparts
  rw [Ecdsa.recover, require_of hlength, hv, hr, hs]
  rfl

/-- The account 8 has signed one digest, and the account 5 another. -/
def twoSigned (quote intent : Bytes32) : Ecdsa := ⟨fun digest _ r _ =>
  if r = 8 ∧ digest = quote then some 8
  else if r = 5 ∧ digest = intent then some 5
  else none⟩

section
variable (quote intent : Bytes32)

theorem twoSigned_quote : (twoSigned quote intent).recover quote (sampleSigned 8) = .ok 8 := by
  have htry : (twoSigned quote intent).tryRecover quote 27 8 0 = some 8 := if_pos ⟨rfl, rfl⟩
  rw [recover_eight, Ecdsa.recoverVrs, htry]

theorem twoSigned_intent : (twoSigned quote intent).recover intent (sampleSigned 5) = .ok 5 := by
  have hother : ¬ ((5 : Bytes32) = 8 ∧ intent = quote) := fun h => absurd h.1 (by decide)
  have htry : (twoSigned quote intent).tryRecover intent 27 5 0 = some 5 := by
    show (if (5 : Bytes32) = 8 ∧ intent = quote then some 8
      else if (5 : Bytes32) = 5 ∧ intent = intent then some 5 else none) = some 5
    rw [if_neg hother, if_pos ⟨rfl, rfl⟩]
  rw [recover_five, Ecdsa.recoverVrs, htry]

variable {quote intent}

theorem twoSigned_ok {digest : Bytes32} {signature : EthSignature} {account : Address}
    (h : (twoSigned quote intent).recover digest signature = .ok account) :
    (account = 8 ∧ digest = quote) ∨ (account = 5 ∧ digest = intent) := by
  obtain ⟨_, -, h⟩ := bind_ok.mp h
  unfold Ecdsa.recoverVrs at h
  split at h
  · rename_i signer hsigner
    cases h
    simp only [twoSigned] at hsigner
    split at hsigner
    · rename_i hquote
      cases hsigner
      exact .inl ⟨rfl, hquote.2⟩
    · split at hsigner
      · rename_i hintent
        cases hsigner
        exact .inr ⟨rfl, hintent.2⟩
      · cases hsigner
  · cases h

end

/-- Nothing is signed but the quote and the intent. -/
def sampleRelaySigned (account : Address) (x : EthSignable) : Prop :=
  (account = 8 ∧ x = .typed sampleRelayDomain (.quote sampleUsdtQuote))
    ∨ (account = 5 ∧ x = .typed sampleRelayDomain
      (.usdtTransfer (sampleUsdtIntent 0 sampleUsdtQuoteHash)))

def sampleUsdtDigest : Bytes32 :=
  hashTypedData sampleRelayDomain
    (usdtTransferIntentStructHash (sampleUsdtIntent 0 sampleUsdtQuoteHash))

def sampleRelay : RelaySite := ⟨sampleRelayConfig, twoSigned sampleUsdtQuoteHash sampleUsdtDigest⟩

def sampleRelayStart : Relay where
  gateway :=
    { activated := false
      paused := true
      feeScheduleHash := 0
      quoteSigner := 0
      sponsoredBuyDesk := 0
      sponsoredBuyDeskCodeHash := 0
      actionNonces := fun _ _ => 0
      intentUsed := fun _ => false
      quoteUsed := fun _ => false
      entered := false }
  world := sampleRelayWorld

/-- The policy Safe sets the gateway up. -/
def sampleSetup : List RelayCall :=
  [.admin 4 (.setFeeScheduleHash 70), .admin 4 (.setPaused false), .admin 4 (.setQuoteSigner 8),
   .admin 4 (.setSponsoredBuyDesk 30), .admin 4 .activate]

theorem sampleSetup_run :
    sampleRelay.run sampleRelayStart sampleSetup = ⟨sampleGateway, sampleRelayWorld⟩ :=
  rfl

theorem sampleSetup_exec :
    Reentry.exec sampleRelay.step id sampleRelayStart (sampleSetup.map .call)
      = ⟨⟨sampleGateway, sampleRelayWorld⟩, sampleSetup, []⟩ := rfl

theorem sampleRelay_unforgeable (ks : List RelayCall) :
    sampleRelay.Unforgeable sampleRelaySigned sampleRelayStart ks := by
  intro account x signature _ h
  rcases twoSigned_ok h with ⟨rfl, hdigest⟩ | ⟨rfl, hdigest⟩
  · exact ⟨_, .inl ⟨rfl, rfl⟩, hdigest.symm⟩
  · exact ⟨_, .inr ⟨rfl, rfl⟩, hdigest.symm⟩

theorem EthSignable.NoCollision.of_subsingleton {messages : Set EthSignable}
    (h : messages.Subsingleton) : NoCollision messages := by
  constructor
  · rintro _ ⟨x, hx, hb⟩ _ ⟨y, hy, hc⟩ -
    rw [h hx hy] at hb
    exact Option.some.inj (hb.symm.trans hc)
  · rintro _ ⟨x, hx, rfl⟩ _ ⟨y, hy, rfl⟩ -
    rw [h hx hy]

def sampleRelayEvents : List (Reentry.Event RelayCall) :=
  (sampleSetup ++ [RelayCall.act 9 (.usdtTransfer (sampleUsdtTransfer 0))]).map .call

theorem sampleRelay_shown (account : Address) : ∀ x, x ∈ sampleRelay.signedOrShown sampleRelaySigned
    sampleRelayStart (sampleSetup ++ [.act 9 (.usdtTransfer (sampleUsdtTransfer 0))]) account →
    sampleRelaySigned account x := by
  rintro x (hx | ⟨signature, before, sender, a, hbefore, hshows⟩)
  · exact hx
  · rcases List.prefix_concat_iff.mp hbefore with heq | hbefore
    · obtain ⟨rfl, hcall⟩ := List.append_inj' heq rfl
      cases hcall
      rw [sampleSetup_run] at hshows
      rcases hshows with ⟨rfl, rfl, -⟩ | ⟨rfl, rfl, -⟩
      · exact .inr ⟨rfl, rfl⟩
      · exact .inl ⟨rfl, rfl⟩
    · have hmem := hbefore.subset (List.mem_append_right before (List.mem_singleton_self _))
      simp [sampleSetup] at hmem

theorem gateway_replay_sample :
    (Reentry.exec sampleRelay.step id sampleRelayStart sampleRelayEvents).history.filterMap
        RelayCall.intentId? = [90]
      ∧ sampleRelay.Warranted sampleRelaySigned (sampleRelay.run sampleRelayStart sampleSetup) 9
        (.usdtTransfer (sampleUsdtTransfer 0)) := by
  obtain ⟨g', hopening⟩ := sampleUsdt_opening (twoSigned_quote sampleUsdtQuoteHash sampleUsdtDigest)
    (twoSigned_intent sampleUsdtQuoteHash sampleUsdtDigest)
  have hstep : sampleRelay.step ⟨sampleGateway, sampleRelayWorld⟩
      (.act 9 (.usdtTransfer (sampleUsdtTransfer 0))) = .ok (⟨g', sampleRelayWorld⟩, true) :=
    bind_ok.mpr ⟨_, bind_ok.mpr ⟨g', hopening, rfl⟩, rfl⟩
  have hexec : Reentry.exec sampleRelay.step id sampleRelayStart sampleRelayEvents
      = ⟨⟨g', sampleRelayWorld⟩, sampleSetup ++ [.act 9 (.usdtTransfer (sampleUsdtTransfer 0))],
        [(⟨sampleGateway, sampleRelayWorld⟩, sampleSetup)]⟩ := by
    rw [Reentry.exec, sampleRelayEvents, List.map_append, List.foldl_append, ← Reentry.exec,
      sampleSetup_exec, List.map_cons, List.map_nil, List.foldl_cons, List.foldl_nil,
      Reentry.next_ok (x := (⟨⟨sampleGateway, sampleRelayWorld⟩, sampleSetup, []⟩
        : Reentry.Exec Relay RelayCall)) hstep]
    rfl
  have hnew : GoatRelayGateway.new sampleRelay.config = .ok sampleRelayStart.gateway := rfl
  obtain ⟨-, -, -, -, hwarranted, -⟩ := gateway_replay sampleRelay hnew sampleRelayEvents hexec.symm
    (sampleRelay_unforgeable _) fun account =>
      EthSignable.NoCollision.of_subsingleton fun x hx y hy => by
        have hx := sampleRelay_shown account x hx
        have hy := sampleRelay_shown account y hy
        rcases hx with ⟨rfl, rfl⟩ | ⟨rfl, rfl⟩
        · exact (hy.resolve_right fun h => absurd h.1 (by decide)).2.symm
        · exact (hy.resolve_left fun h => absurd h.1 (by decide)).2.symm
  rw [hexec]
  exact ⟨rfl, hwarranted sampleSetup 9 _ (List.prefix_refl _)⟩

end GoatCoin
