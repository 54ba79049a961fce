/-
# `GoatCoin.Contracts.Erc20` — the token ledger of `ERC20.sol`

    transfer(to, v)             balances[msg.sender] ≥ v
    transferFrom(from, to, v)   allowance ≥ v (or infinite), then as above
    approve(spender, v)
    _mint(to, v)                totalSupply + v < 2^256

A ledger carries the two facts that the `unchecked` blocks of `_update` rest on:
the balances add up to the supply, and the supply is a word.  So no balance
overflows (`Erc20.balance_lt`), and the additions here are those of natural
numbers.

`Revert` lists the errors of the modelled contracts by their signature, which is
all that the ABI distinguishes; `panic` is an arithmetic check of the compiler.
-/
import GoatCoin.Lib.Evm

namespace GoatCoin

open Function (update update_self update_of_ne update_eq_self update_apply update_idem)
open Evm

/-- Why a call reverts. -/
inductive Revert where
  | panic
  -- ERC20, Pausable
  | erc20InvalidSender
  | erc20InvalidReceiver
  | erc20InvalidApprover
  | erc20InvalidSpender
  | erc20InsufficientBalance
  | erc20InsufficientAllowance
  | enforcedPause
  | expectedPause
  -- GoatCoin, and what several contracts share
  | notSafe
  | notMinter
  | transferRestricted
  | badArg
  | notEnrolled
  -- HoldbackEscrow
  | notVault
  | vaultAlreadySet
  | alreadyReleased
  | deadlineNotReached
  | insufficientHoldback
  | nothingCredited
  -- EpochSettlement
  | notResolver
  | notWatcher
  | wrongStatus
  | windowOpen
  | windowClosed
  | notConfirmed
  | bondMismatch
  | notBound
  | badProof
  | transferFailed
  -- WorkMinter, JobVault
  | jobExists
  | jobUnknown
  | jobClosed
  | invalidHoldback
  | invalidUnitReward
  | founderAcceptRequired
  | rehearsalRequired
  | lengthMismatch
  | holdbackOpen
  | manifestReplayed
  | mintExceedsEscrow
  -- RedemptionDesk
  | noActiveWindow
  | capExceeded
  | zeroPayout
  | beneficiaryCannotRedeem
  -- ProxyRevenueSettlement
  | notFunder
  | notPublisher
  | notGateway
  | notReserveSink
  | zeroAddress
  | zeroAmount
  | epochNotInProxySpace
  | backingExceedsInflow
  | backingBelowReferenceRate
  | rootAlreadyPublished
  | rootMissing
  | badStatus
  | badBond
  | alreadyClaimed
  | poolWouldBeOverdrawn
  | operatorShareExceeded
  | grossExceedsFunding
  | nothingToWithdraw
  | bondWithdrawalFailed
  -- ProxyConsumerRegistry
  | zeroRef
  | notOnAllowlist
  | alreadyEnrolled
  | refTaken
  | notAConsumer
  | unstakeAlreadyRequested
  | noUnstakeRequested
  | unstakeNotReady
  | amountExceedsStake
  -- EnrollmentRegistry
  | blacklisted
  | expiredSignature
  | badSignature
  -- ECDSA, ERC20Permit, EIP-3009
  | ecdsaInvalidSignature
  | ecdsaInvalidSignatureLength
  | erc2612ExpiredSignature
  | erc2612InvalidSigner
  | authorizationUsed
  | authorizationExpired
  | authorizationNotYetValid
  | invalidSigner
  | noSuchFunction
  -- FeeTokenRegistry
  | notPolicySafe
  | zeroToken
  | proxyIdentityUnsupported
  | tokenNotAuthorized
  | unknownRole
  | tokenNotConfigured
  -- WalletSponsorshipRegistry
  | notRecoverySafe
  | gatewayAlreadyBound
  | gatewayCodeMismatch
  | badIssuerSignature
  | badSecondarySignature
  | badRotationSignature
  | invalidRootAuthorization
  | rootAlreadyRegistered
  | rootNotRegistered
  | secondaryAlreadyLinked
  | secondaryIsRootController
  | notV1Eligible
  | clusterSuspended
  | invalidControllerRotation
  | controllerAlreadyAssigned
  | recoveryNotReady
  | recoveryMismatch
  | recoveryUnknown
  | recoveryAlreadyExecuted
  -- SponsoredBuyDesk
  | notOwner
  | noActiveSession
  | sessionCapExceeded
  | dailyCapExceeded
  | ownerCannotSell
  | invalidGoatPermit
  | feeExceedsGross
  | minNetNotMet
  | rootMismatch
  | invalidSession
  -- GoatRelayGateway and its libraries
  | alreadyActivated
  | notActivated
  | paused
  | reentrantCall
  | zeroIntentId
  | intentAlreadyUsed
  | badActionNonce
  | expiredDeadline
  | invalidQuote
  | quoteAlreadyUsed
  | feeExceedsMax
  | configHashMismatch
  | badQuoteSignature
  | invalidFeeFields
  | unsupportedFeeMode
  | unexpectedBalanceDelta
  | badPriorAllowance
  | invalidV1Enrollment
  | controllerMismatch
  | epochMismatch
  | badV1Signature
  | badLinkSignature
  | badSponsorSignature
  | notController
  | invalidTransferAuth
  | badGoatPermit
  | badIntentSignature
  | deskNotConfigured
  | deskMismatch
  | deskCodeHashMismatch
  | deskAlreadySet
  -- an account that has code acts through it
  | notAnAccount
deriving DecidableEq

/-- What an account can ask of a token; `issue` stands for whoever may create more of it. -/
inductive TokenCall where
  | transfer (dst : Address) (amount : Uint256)
  | transferFrom (src dst : Address) (amount : Uint256)
  | approve (spender : Address) (amount : Uint256)
  | issue (dst : Address) (amount : Uint256)

/-- What a call brings to someone. -/
def TokenCall.brings (a : Address) : TokenCall → Nat
  | .transfer dst amount => if a = dst then amount.val else 0
  | .transferFrom _ dst amount => if a = dst then amount.val else 0
  | .approve _ _ => 0
  | .issue dst amount => if a = dst then amount.val else 0

structure Erc20 where
  balances : Address → Nat
  allowances : Address → Address → Nat
  totalSupply : Nat
  sum_balances : ∑ a, balances a = totalSupply
  supply_lt : totalSupply < 2 ^ 256

namespace Erc20

def new : Erc20 where
  balances _ := 0
  allowances _ _ := 0
  totalSupply := 0
  sum_balances := Finset.sum_const_zero
  supply_lt := by decide

theorem balance_le (t : Erc20) (a : Address) : t.balances a ≤ t.totalSupply := by
  rw [← t.sum_balances]
  exact le_sum t.balances a

theorem balance_lt (t : Erc20) (a : Address) : t.balances a < 2 ^ 256 :=
  Nat.lt_of_le_of_lt (t.balance_le a) t.supply_lt

/-! ## `_update` -/

/-- The balances after `value` went from one account to another. -/
def moved (balances : Address → Nat) (src dst : Address) (value : Nat) : Address → Nat :=
  let taken := update balances src (balances src - value)
  update taken dst (taken dst + value)

variable {balances : Address → Nat} {a dst src owner sender spender : Address} {value : Nat}
  {t t' : Erc20}

theorem sum_moved
    (h : value ≤ balances src) (dst : Address) :
    ∑ a, moved balances src dst value a = ∑ a, balances a := by
  have htaken := sum_update id balances src (balances src - value)
  have hgiven := sum_update id (update balances src (balances src - value)) dst
    (update balances src (balances src - value) dst + value)
  simp only [id] at htaken hgiven
  unfold moved
  omega

theorem moved_other (hsrc : a ≠ src)
    (hdst : a ≠ dst) : moved balances src dst value a = balances a := by
  rw [moved, update_of_ne hdst, update_of_ne hsrc]

theorem moved_src (h : src ≠ dst) :
    moved balances src dst value src = balances src - value := by
  rw [moved, update_of_ne h, update_self]

theorem moved_dst (h : src ≠ dst) :
    moved balances src dst value dst = balances dst + value := by
  rw [moved, update_self, update_of_ne h.symm]

theorem moved_ne_src (h : a ≠ src) (dst : Address)
    (value : Nat) :
    moved balances src dst value a = balances a + if a = dst then value else 0 := by
  split
  · rename_i hdst
    subst hdst
    exact moved_dst h.symm
  · rename_i hdst
    exact moved_other h hdst

theorem moved_self
    (h : value ≤ balances src) : moved balances src src value = balances := by
  have hback : balances src - value + value = balances src := Nat.sub_add_cancel h
  unfold moved
  dsimp only
  rw [update_self, hback, update_idem, update_eq_self]

def move (t : Erc20) (src dst : Address) (value : Nat) (h : value ≤ t.balances src) : Erc20 :=
  { t with
    balances := moved t.balances src dst value
    sum_balances := (sum_moved h dst).trans t.sum_balances }

/-- `_transfer`, between two accounts. -/
def transfer (t : Erc20) (src dst : Address) (value : Nat) : Except Revert Erc20 := do
  require (src ≠ 0) .erc20InvalidSender
  require (dst ≠ 0) .erc20InvalidReceiver
  if h : value ≤ t.balances src then .ok (t.move src dst value h)
  else .error .erc20InsufficientBalance

/-- `_mint`. -/
def mint (t : Erc20) (dst : Address) (value : Nat) : Except Revert Erc20 := do
  require (dst ≠ 0) .erc20InvalidReceiver
  if h : t.totalSupply + value < 2 ^ 256 then
    .ok { t with
      balances := update t.balances dst (t.balances dst + value)
      totalSupply := t.totalSupply + value
      sum_balances := by
        have hsum := sum_update id t.balances dst (t.balances dst + value)
        have hold := t.sum_balances
        simp only [id] at hsum
        omega
      supply_lt := h }
  else .error .panic

/-- `_approve`. -/
def approve (t : Erc20) (owner spender : Address) (value : Nat) : Except Revert Erc20 := do
  require (owner ≠ 0) .erc20InvalidApprover
  require (spender ≠ 0) .erc20InvalidSpender
  .ok { t with
    allowances := update t.allowances owner
      (update (t.allowances owner) spender value) }

/-- `_spendAllowance`: an infinite allowance is not used up. -/
def spendAllowance (t : Erc20) (owner spender : Address) (value : Nat) : Except Revert Erc20 :=
  if t.allowances owner spender = maxUint256 then .ok t
  else do
    require (value ≤ t.allowances owner spender) .erc20InsufficientAllowance
    t.approve owner spender (t.allowances owner spender - value)

def transferFrom (t : Erc20) (sender src dst : Address) (value : Nat) : Except Revert Erc20 := do
  let t ← t.spendAllowance src sender value
  t.transfer src dst value

def call (t : Erc20) (sender : Address) : TokenCall → Except Revert Erc20
  | .transfer dst amount => t.transfer sender dst amount.val
  | .transferFrom src dst amount => t.transferFrom sender src dst amount.val
  | .approve spender amount => t.approve sender spender amount.val
  | .issue dst amount => t.mint dst amount.val

/-! ## What a successful call did -/

theorem transfer_ok
    (h : t.transfer src dst value = .ok t') :
    value ≤ t.balances src ∧ t'.balances = moved t.balances src dst value
      ∧ t'.allowances = t.allowances ∧ t'.totalSupply = t.totalSupply := by
  obtain ⟨-, -, -, -, h⟩ := bind_ok₂.mp h
  split at h
  · rename_i hle
    cases h
    exact ⟨hle, rfl, rfl, rfl⟩
  · cases h

theorem transfer_of_le (hsrc : src ≠ 0) (hdst : dst ≠ 0)
    (h : value ≤ t.balances src) : t.transfer src dst value = .ok (t.move src dst value h) := by
  rw [transfer, require_of hsrc, require_of hdst]
  exact dif_pos h

theorem transfer_src
    (h : t.transfer src dst value = .ok t') :
    t'.balances src + value = t.balances src + if dst = src then value else 0 := by
  obtain ⟨hle, hb, -, -⟩ := transfer_ok h
  rw [hb]
  split
  · rename_i heq
    rw [heq, moved_self hle]
  · rename_i hne
    rw [moved_src (Ne.symm hne)]
    omega

theorem mint_ok (h : t.mint dst value = .ok t') :
    t'.balances = update t.balances dst (t.balances dst + value)
      ∧ t'.allowances = t.allowances ∧ t'.totalSupply = t.totalSupply + value := by
  obtain ⟨-, -, h⟩ := bind_ok.mp h
  split at h
  · cases h
    exact ⟨rfl, rfl, rfl⟩
  · cases h

theorem approve_ok
    (h : t.approve owner spender value = .ok t') :
    t'.balances = t.balances ∧ t'.totalSupply = t.totalSupply
      ∧ ∀ o, o ≠ owner → t'.allowances o = t.allowances o := by
  obtain ⟨-, -, -, -, h⟩ := bind_ok₂.mp h
  cases h
  exact ⟨rfl, rfl, fun o ho => update_of_ne ho _ _⟩

theorem approve_of_ne (value : Nat) (howner : owner ≠ 0)
    (hspender : spender ≠ 0) : t.approve owner spender value = .ok { t with
      allowances := update t.allowances owner (update (t.allowances owner) spender value) } :=
  bind_ok₂.mpr ⟨(), require_of howner, (), require_of hspender, rfl⟩

theorem spendAllowance_of_le
    (howner : owner ≠ 0) (hspender : spender ≠ 0) (h : value ≤ t.allowances owner spender) :
    ∃ t', t.spendAllowance owner spender value = .ok t' ∧ t'.balances = t.balances
      ∧ t.allowances owner spender ≤ t'.allowances owner spender + value := by
  unfold spendAllowance
  split
  · exact ⟨t, rfl, rfl, Nat.le_add_right _ _⟩
  · refine ⟨_, bind_ok.mpr ⟨_, require_of h, approve_of_ne _ howner hspender⟩, rfl, ?_⟩
    show _ ≤ update t.allowances owner (update (t.allowances owner) spender
      (t.allowances owner spender - value)) owner spender + value
    rw [update_self, update_self]
    omega

theorem spendAllowance_ok
    (h : t.spendAllowance owner spender value = .ok t') :
    t'.balances = t.balances ∧ t'.totalSupply = t.totalSupply
      ∧ (t.allowances owner spender = maxUint256 ∨ value ≤ t.allowances owner spender) := by
  unfold spendAllowance at h
  split at h
  · rename_i hmax
    cases h
    exact ⟨rfl, rfl, .inl hmax⟩
  · obtain ⟨_, hle, h⟩ := bind_ok.mp h
    obtain ⟨hb, hs, -⟩ := approve_ok h
    exact ⟨hb, hs, .inr (require_ok.mp hle)⟩

theorem approve_allowance
    (h : t.approve owner spender value = .ok t') :
    t'.allowances = update t.allowances owner
      (update (t.allowances owner) spender value) := by
  obtain ⟨-, -, -, -, h⟩ := bind_ok₂.mp h
  cases h
  rfl

theorem spendAllowance_le
    (h : t.spendAllowance owner spender value = .ok t') (o p : Address) :
    t'.allowances o p ≤ t.allowances o p := by
  unfold spendAllowance at h
  split at h
  · cases h
    exact le_rfl
  · obtain ⟨_, _, h⟩ := bind_ok.mp h
    rw [approve_allowance h]
    rcases eq_or_ne o owner with rfl | ho
    · rw [update_self]
      rcases eq_or_ne p spender with rfl | hp
      · rw [update_self]
        exact Nat.sub_le _ _
      · rw [update_of_ne hp]
    · rw [update_of_ne ho]

theorem transferFrom_ok
    (h : t.transferFrom sender src dst value = .ok t') :
    value ≤ t.balances src ∧ t'.balances = moved t.balances src dst value
      ∧ t'.totalSupply = t.totalSupply
      ∧ (∀ o p, t'.allowances o p ≤ t.allowances o p)
      ∧ (t.allowances src sender = maxUint256 ∨ value ≤ t.allowances src sender) := by
  obtain ⟨t₁, hspend, htransfer⟩ := bind_ok.mp h
  obtain ⟨hb, hs, hallow⟩ := spendAllowance_ok hspend
  obtain ⟨hle, hb', ha', hs'⟩ := transfer_ok htransfer
  rw [hb] at hle hb'
  refine ⟨hle, hb', hs'.trans hs, fun o p => ?_, hallow⟩
  rw [ha']
  exact spendAllowance_le hspend o p

theorem transferFrom_kept
    (hnone : t.allowances a sender = 0) (h : t.transferFrom sender src dst value = .ok t') :
    t'.balances a = t.balances a + if a = dst then value else 0 := by
  obtain ⟨hle, hb, -, -, hallow⟩ := transferFrom_ok h
  rw [hb]
  rcases eq_or_ne a src with rfl | hne
  · have hzero : value = 0 := by
      rw [hnone] at hallow
      rcases hallow with hmax | hle
      · exact absurd hmax (by decide)
      · exact Nat.le_zero.mp hle
    subst hzero
    rcases eq_or_ne a dst with rfl | hdst
    · rw [moved_self hle, if_pos rfl, Nat.add_zero]
    · rw [moved_src hdst, if_neg hdst, Nat.sub_zero, Nat.add_zero]
  · exact moved_ne_src hne dst value

theorem transferFrom_src_ne_zero
    (h : t.transferFrom sender src dst value = .ok t') : src ≠ 0 := by
  obtain ⟨t₁, -, _, hsrc, -⟩ := bind_ok₂.mp h
  exact require_ok.mp hsrc

/-- **Who allowed nobody anything loses nothing by the calls of others.** -/
theorem call_kept {call : TokenCall} (hne : a ≠ sender)
    (hnone : t.allowances a sender = 0) (h : t.call sender call = .ok t') :
    t'.balances a = t.balances a + call.brings a
      ∧ ∀ spender, t'.allowances a spender ≤ t.allowances a spender := by
  cases call with
  | transfer dst amount =>
      obtain ⟨-, hb, ha, -⟩ := transfer_ok h
      refine ⟨?_, fun spender => (congrFun (congrFun ha a) spender).le⟩
      rw [hb]
      exact moved_ne_src hne dst amount.val
  | transferFrom src dst amount =>
      exact ⟨transferFrom_kept hnone h, (transferFrom_ok h).2.2.2.1 a⟩
  | approve spender amount =>
      obtain ⟨hb, -, ha⟩ := approve_ok h
      exact ⟨congrFun hb a, fun spender => (congrFun (ha a hne) spender).le⟩
  | issue dst amount =>
      obtain ⟨hb, ha, -⟩ := mint_ok h
      refine ⟨?_, fun spender => (congrFun (congrFun ha a) spender).le⟩
      rw [hb, update_apply]
      show _ = _ + if a = dst then _ else 0
      split
      · rename_i heq
        rw [heq]
      · rfl

end Erc20

/-- One account has a hundred coins, and lets another take them. -/
def sampleCoins : Erc20 where
  balances := update (fun _ => 0) 7 100
  allowances := update (fun _ _ => 0) 7 (update (fun _ => 0) 20 100)
  totalSupply := 100
  sum_balances := sum_single 7 100
  supply_lt := by decide

end GoatCoin
