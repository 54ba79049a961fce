/-
# `GoatCoin.Contracts.ProxyPool` — what the pool holds

The pool of `ProxyRevenue` with its token and its ether, open to everyone:

    ProxyCall    advance        the next block
                 enrol          the registry changes its answers
                 goat           an account calls the token
                 pool           an account calls the pool

`Booking` says what a successful call does to the counters and to the token.  From it,

    balanceOf(pool)   =   Σ (goatFunded - goatClaimed - reserveHeld of the epoch) + reserveHeld

as long as nobody sends the pool coins, itself included (`Quiet`), and every epoch pays
out of its own funding.  The counter `totalClaimed` misses what `releaseReserve` pays,
so `totalFunded - totalClaimed` is the balance exactly until the first release.

A withdrawal of a bond calls the account that withdraws, but only after the last write,
so what that account calls from there it may as well call afterwards.
-/
import GoatCoin.Contracts.ProxyRevenue
import GoatCoin.Lib.Runs

namespace GoatCoin

open Function (update update_self update_of_ne update_eq_self)
open Evm ProxyRevenueSettlement

structure ProxySite where
  self : Address
  config : ProxyRevenueSettlement.Config

structure ProxyChain where
  now : Uint256
  enrolled : Address → Bool
  goat : Erc20
  pool : ProxyRevenueSettlement
  ether : Nat

inductive PoolCall where
  | setFunder (funder : Address)
  | recordUsdtInflow (epochId amount : Uint256)
  | fundEpoch (epochId goatAmount backedUsdt : Uint256)
  | proposeBatch (value epochId : Uint256) (root evidenceRef : Bytes32) (grossGoatWei : Uint256)
  | challengeBatch (value epochId : Uint256)
  | resolveChallenge (epochId : Uint256) (proposerWon : Bool)
  | timeoutChallenge (epochId : Uint256)
  | resetBatch (epochId : Uint256)
  | withdrawBond (accepted : Bool)
  | finalizeBatch (epochId : Uint256)
  | claim (epochId : Uint256) (operator : Address) (totalBytes payoutGoatWei : Uint256)
      (proof : List Bytes32)
  | releaseReserve (dst : Address) (amount : Uint256)
  | sweepUnclaimed (epochId : Uint256) (dst : Address)
  | setWindows (challengeWindow claimWindow resolveWindow : Word 64)
  | setBonds (proposerBond challengerBond : Uint256)
  | setReferenceRate (rate : Uint256)
  | receive (value : Uint256)

/-- The calls that change a counter. -/
def PoolCall.books : PoolCall → Bool
  | .fundEpoch _ _ _ => true
  | .finalizeBatch _ => true
  | .claim _ _ _ _ _ => true
  | .releaseReserve _ _ => true
  | .sweepUnclaimed _ _ => true
  | .recordUsdtInflow _ _ => true
  | _ => false

inductive ProxyCall where
  | advance (now : Uint256)
  | enrol (enrolled : Address → Bool)
  | goat (sender : Address) (call : TokenCall)
  | pool (sender : Address) (call : PoolCall)

namespace ProxySite

variable (d : ProxySite)

def IsAccount (a : Address) : Prop := a ≠ 0 ∧ a ≠ d.self

instance (a : Address) : Decidable (d.IsAccount a) := inferInstanceAs (Decidable (_ ∧ _))

/-- The ether after some came in: there is no more of it than fits in a word. -/
def takeEther (c : ProxyChain) (value : Uint256) : Except Revert Nat :=
  checked 256 (c.ether + value.val) .transferFailed

def poolCall (c : ProxyChain) (sender : Address) : PoolCall → Except Revert ProxyChain
  | .setFunder funder => do
      let pool ← c.pool.setFunder d.config sender funder
      .ok { c with pool }
  | .recordUsdtInflow epochId amount => do
      let pool ← c.pool.recordUsdtInflow d.config sender epochId amount.val
      .ok { c with pool }
  | .fundEpoch epochId goatAmount backedUsdt => do
      let (pool, goat) ← c.pool.fundEpoch d.self c.goat sender epochId goatAmount.val backedUsdt.val
      .ok { c with pool, goat }
  | .proposeBatch value epochId root evidenceRef grossGoatWei => do
      let ether ← takeEther c value
      let pool ← c.pool.proposeBatch d.config c.now.val sender value.val epochId root evidenceRef
        grossGoatWei.val
      .ok { c with pool, ether }
  | .challengeBatch value epochId => do
      let ether ← takeEther c value
      let pool ← c.pool.challengeBatch c.now.val sender value.val epochId
      .ok { c with pool, ether }
  | .resolveChallenge epochId proposerWon => do
      let pool ← c.pool.resolveChallenge d.config sender epochId proposerWon
      .ok { c with pool }
  | .timeoutChallenge epochId => do
      let pool ← c.pool.timeoutChallenge d.config c.now.val epochId
      .ok { c with pool }
  | .resetBatch epochId => do
      let pool ← c.pool.resetBatch d.config sender epochId
      .ok { c with pool }
  | .withdrawBond accepted => do
      let (pool, amount) ← c.pool.withdrawBond sender accepted
      let ether ← checkedSub c.ether amount .bondWithdrawalFailed
      .ok { c with pool, ether }
  | .finalizeBatch epochId => do
      let (pool, goat) ← c.pool.finalizeBatch d.self d.config c.goat c.now.val sender epochId
      .ok { c with pool, goat }
  | .claim epochId operator totalBytes payoutGoatWei proof => do
      let (pool, goat) ← c.pool.claim d.self c.goat c.enrolled c.now.val epochId operator totalBytes
        payoutGoatWei proof
      .ok { c with pool, goat }
  | .releaseReserve dst amount => do
      let (pool, goat) ← c.pool.releaseReserve d.self d.config c.goat sender dst amount.val
      .ok { c with pool, goat }
  | .sweepUnclaimed epochId dst => do
      let (pool, goat) ← c.pool.sweepUnclaimed d.self d.config c.goat c.now.val sender epochId dst
      .ok { c with pool, goat }
  | .setWindows challengeWindow claimWindow resolveWindow => do
      let pool ← c.pool.setWindows d.config sender challengeWindow claimWindow resolveWindow
      .ok { c with pool }
  | .setBonds proposerBond challengerBond => do
      let pool ← c.pool.setBonds d.config sender proposerBond.val challengerBond.val
      .ok { c with pool }
  | .setReferenceRate rate => do
      let pool ← c.pool.setReferenceRate d.config sender rate.val
      .ok { c with pool }
  | .receive value => do
      let ether ← takeEther c value
      .ok { c with ether }

def act (c : ProxyChain) : ProxyCall → Except Revert ProxyChain
  | .advance now => do
      require (c.now ≤ now) .badArg
      .ok { c with now }
  | .enrol enrolled => .ok { c with enrolled }
  | .goat sender call => do
      require (d.IsAccount sender) .notAnAccount
      let goat ← c.goat.call sender call
      .ok { c with goat }
  | .pool sender call => do
      require (d.IsAccount sender) .notAnAccount
      d.poolCall c sender call

/-- The state after a list of calls. -/
def run (c : ProxyChain) (ks : List ProxyCall) : ProxyChain := ks.foldl (attempt d.act) c

end ProxySite

/-- The state after the deployment; the pool has approved nobody, and holds no coins. -/
structure ProxyChain.Fresh (d : ProxySite) (c : ProxyChain) : Prop where
  pool_new : ProxyRevenueSettlement.new d.config = .ok c.pool
  unlent : ∀ spender, c.goat.allowances d.self spender = 0
  balance : c.goat.balances d.self = 0
  ether_lt : c.ether < 2 ^ 256

/-! ## The accounts of the pool -/

/-- The counters of the pool. -/
structure Accounts where
  fundingOf : Uint256 → Funding
  totalFunded : Nat
  totalClaimed : Nat
  reserveHeld : Nat

def ProxyRevenueSettlement.accounts (p : ProxyRevenueSettlement) : Accounts :=
  ⟨p.fundingOf, p.totalFunded, p.totalClaimed, p.reserveHeld⟩

namespace Accounts

def setFunding (a : Accounts) (epochId : Uint256) (f : Funding) : Accounts :=
  { a with fundingOf := update a.fundingOf epochId f }

def fund (a : Accounts) (epochId : Uint256) (amount backed : Nat) : Accounts :=
  { a.setFunding epochId
      { a.fundingOf epochId with
        usdtBacked := (a.fundingOf epochId).usdtBacked + backed
        goatFunded := (a.fundingOf epochId).goatFunded + amount } with
    totalFunded := a.totalFunded + amount }

/-- `sent` is paid out, and `kept` goes to the reserve. -/
def spend (a : Accounts) (epochId : Uint256) (sent kept : Nat) : Accounts :=
  { a.setFunding epochId
      { a.fundingOf epochId with
        goatClaimed := (a.fundingOf epochId).goatClaimed + sent
        reserveHeld := (a.fundingOf epochId).reserveHeld + kept } with
    totalClaimed := a.totalClaimed + sent
    reserveHeld := a.reserveHeld + kept }

end Accounts

/-- What a call that succeeds does to the counters and to the token. -/
inductive Booking (d : ProxySite) (rate : Nat) (a : Accounts) (t : Erc20) (sender : Address) :
    PoolCall → Accounts → Erc20 → Prop
  | still {call : PoolCall} : call.books = false → Booking d rate a t sender call a t
  | inflow {epochId amount : Uint256} :
      Booking d rate a t sender (.recordUsdtInflow epochId amount)
        (a.setFunding epochId { a.fundingOf epochId with
          usdtInflow := (a.fundingOf epochId).usdtInflow + amount.val }) t
  | fund {epochId amount backed : Uint256} {t' : Erc20} :
      IsProxyEpoch epochId →
      (a.fundingOf epochId).usdtBacked + backed.val ≤ (a.fundingOf epochId).usdtInflow →
      amount.val * rate ≤ backed.val * 10 ^ 18 → a.totalFunded + amount.val < 2 ^ 256 →
      t.transferFrom d.self sender d.self amount.val = .ok t' →
      Booking d rate a t sender (.fundEpoch epochId amount backed)
        (a.fund epochId amount.val backed.val) t'
  | take {epochId : Uint256} {x : Take} {t₁ t' : Erc20} :
      (a.fundingOf epochId).goatClaimed + (x.toTreasury + x.toAttestor)
        + ((a.fundingOf epochId).reserveHeld + x.toReserve) ≤ (a.fundingOf epochId).goatFunded →
      t.transfer d.self d.config.treasury x.toTreasury = .ok t₁ →
      t₁.transfer d.self d.config.attestorSafe x.toAttestor = .ok t' →
      Booking d rate a t sender (.finalizeBatch epochId)
        (a.spend epochId (x.toTreasury + x.toAttestor) x.toReserve) t'
  | claim {epochId : Uint256} {operator : Address} {totalBytes amount : Uint256}
      {proof : List Bytes32} {t' : Erc20} :
      (a.fundingOf epochId).goatClaimed + amount.val + (a.fundingOf epochId).reserveHeld
        ≤ (a.fundingOf epochId).goatFunded →
      t.transfer d.self operator amount.val = .ok t' →
      Booking d rate a t sender (.claim epochId operator totalBytes amount proof)
        (a.spend epochId amount.val 0) t'
  | sweep {epochId : Uint256} {dst : Address} {amount : Nat} {t' : Erc20} :
      (a.fundingOf epochId).goatClaimed + amount + (a.fundingOf epochId).reserveHeld
        ≤ (a.fundingOf epochId).goatFunded →
      t.transfer d.self dst amount = .ok t' →
      Booking d rate a t sender (.sweepUnclaimed epochId dst) (a.spend epochId amount 0) t'
  | release {amount : Uint256} {t' : Erc20} :
      sender = d.config.safe → amount.val ≠ 0 → amount.val ≤ a.reserveHeld →
      t.transfer d.self d.config.reserveSink amount.val = .ok t' →
      Booking d rate a t sender (.releaseReserve d.config.reserveSink amount)
        { a with reserveHeld := a.reserveHeld - amount.val } t'

namespace ProxySite

variable {d : ProxySite} {c c' : ProxyChain} {sender : Address}

theorem act_pool {call : PoolCall} (hsender : d.IsAccount sender)
    (h : d.poolCall c sender call = .ok c') : d.act c (.pool sender call) = .ok c' :=
  bind_ok.mpr ⟨(), require_of hsender, h⟩

variable {p p' : ProxyRevenueSettlement} {self : Address} {amount : Nat}

theorem creditBond_accounts {who : Address}
    (h : p.creditBond who amount = .ok p') : p'.accounts = p.accounts := by
  obtain ⟨credit, -, h⟩ := bind_ok.mp h
  cases h
  rfl

theorem settleBonds_accounts {cfg : Config} {epochId : Uint256}
    {status : Status} {who : Address} {own other : Nat}
    (h : p.settleBonds cfg epochId status who own other = .ok p') : p'.accounts = p.accounts := by
  obtain ⟨p₁, hown, p₂, hother, h⟩ := bind_ok₂.mp h
  cases h
  exact (creditBond_accounts hother).trans (creditBond_accounts hown)

theorem bookTake_ok {epochId : Uint256} {x : Take}
    (h : p.bookTake epochId x = .ok p') :
    (p.fundingOf epochId).goatClaimed + (x.toTreasury + x.toAttestor)
        + ((p.fundingOf epochId).reserveHeld + x.toReserve) ≤ (p.fundingOf epochId).goatFunded
      ∧ p'.accounts = p.accounts.spend epochId (x.toTreasury + x.toAttestor) x.toReserve
      ∧ p'.batchOf = p.batchOf ∧ p'.bondCredit = p.bondCredit ∧ p'.isFunder = p.isFunder
      ∧ p'.claimed = p.claimed := by
  obtain ⟨reserveOfEpoch, hreserve, h⟩ := bind_ok.mp h
  obtain ⟨-, rfl⟩ := checked_ok.mp hreserve
  obtain ⟨sent, hsent, h⟩ := bind_ok.mp h
  obtain ⟨-, rfl⟩ := checked_ok.mp hsent
  obtain ⟨goatClaimed, hclaimed, h⟩ := bind_ok.mp h
  obtain ⟨-, rfl⟩ := checked_ok.mp hclaimed
  obtain ⟨reserveHeld, hheld, h⟩ := bind_ok.mp h
  obtain ⟨-, rfl⟩ := checked_ok.mp hheld
  obtain ⟨totalClaimed, htotal, h⟩ := bind_ok.mp h
  obtain ⟨-, rfl⟩ := checked_ok.mp htotal
  obtain ⟨epochSum, hsum, h⟩ := bind_ok.mp h
  obtain ⟨-, rfl⟩ := checked_ok.mp hsum
  obtain ⟨_, hle, sum, -, -, -, h⟩ := bind_ok₃.mp h
  cases h
  exact ⟨require_ok.mp hle, rfl, rfl, rfl, rfl, rfl⟩

theorem bookPayout_ok {epochId : Uint256}
    (h : p.bookPayout epochId amount = .ok p') :
    p'.accounts = p.accounts.spend epochId amount 0 ∧ p'.batchOf = p.batchOf
      ∧ p'.bondCredit = p.bondCredit ∧ p'.isFunder = p.isFunder ∧ p'.claimed = p.claimed := by
  obtain ⟨goatClaimed, hclaimed, h⟩ := bind_ok.mp h
  obtain ⟨-, rfl⟩ := checked_ok.mp hclaimed
  obtain ⟨totalClaimed, htotal, h⟩ := bind_ok.mp h
  obtain ⟨-, rfl⟩ := checked_ok.mp htotal
  cases h
  exact ⟨rfl, rfl, rfl, rfl, rfl⟩

theorem fundEpoch_ok {t t' : Erc20}
    {epochId : Uint256} {backed : Nat}
    (h : p.fundEpoch self t sender epochId amount backed = .ok (p', t')) :
    IsProxyEpoch epochId
      ∧ (p.fundingOf epochId).usdtBacked + backed ≤ (p.fundingOf epochId).usdtInflow
      ∧ amount * p.referenceRateUsdtPerGoat ≤ backed * 10 ^ 18 ∧ p.totalFunded + amount < 2 ^ 256
      ∧ t.transferFrom self sender self amount = .ok t'
      ∧ p'.accounts = p.accounts.fund epochId amount backed
      ∧ p'.batchOf = p.batchOf ∧ p'.bondCredit = p.bondCredit ∧ p'.isFunder = p.isFunder
      ∧ p'.claimed = p.claimed := by
  obtain ⟨_, hepoch, -, -, -, -, usdtBacked, hbacked, h⟩ := bind_ok₄.mp h
  obtain ⟨-, rfl⟩ := checked_ok.mp hbacked
  obtain ⟨_, hinflow, asked, hasked, h⟩ := bind_ok₂.mp h
  obtain ⟨-, rfl⟩ := checked_ok.mp hasked
  obtain ⟨backing, hbacking, h⟩ := bind_ok.mp h
  obtain ⟨-, rfl⟩ := checked_ok.mp hbacking
  obtain ⟨_, hrate, goatFunded, hfunded, h⟩ := bind_ok₂.mp h
  obtain ⟨-, rfl⟩ := checked_ok.mp hfunded
  obtain ⟨totalFunded, htotal, h⟩ := bind_ok.mp h
  obtain ⟨hlt, rfl⟩ := checked_ok.mp htotal
  obtain ⟨t₁, hpaid, h⟩ := bind_ok.mp h
  cases h
  exact ⟨require_ok.mp hepoch, require_ok.mp hinflow, require_ok.mp hrate, hlt, hpaid, rfl,
    rfl, rfl, rfl, rfl⟩

theorem checkPayout_ok {epochId : Uint256} {u : Unit}
    (h : p.checkPayout epochId amount = .ok u) :
    (p.fundingOf epochId).goatClaimed + amount + (p.fundingOf epochId).reserveHeld
      ≤ (p.fundingOf epochId).goatFunded := by
  obtain ⟨goatClaimed, hclaimed, h⟩ := bind_ok.mp h
  obtain ⟨-, rfl⟩ := checked_ok.mp hclaimed
  obtain ⟨payable, hpayable, h⟩ := bind_ok.mp h
  obtain ⟨hle, rfl⟩ := checkedSub_ok.mp hpayable
  obtain ⟨_, hwithin, -⟩ := bind_ok.mp h
  have hwithin := require_ok.mp hwithin
  omega

/-- What a claim that succeeds has passed, and what it writes. -/
structure Claims (p p' : ProxyRevenueSettlement) (pool : Address) (t t' : Erc20) (now : Nat)
    (epochId : Uint256)
    (operator : Address) (totalBytes payoutGoatWei : Uint256) (proof : List Bytes32) : Prop where
  finalized : (p.batchOf epochId).status = .finalized
  inTime : now ≤ (p.batchOf epochId).proposedAt.val + (p.batchOf epochId).challengeWindowSnap.val
    + (p.batchOf epochId).claimWindowSnap.val
  rooted : (p.batchOf epochId).root ≠ 0
  unclaimed : p.claimed epochId operator = false
  proved : MerkleProof.verify proof (p.batchOf epochId).root
    (leafOf operator epochId totalBytes payoutGoatWei)
  checked : p.checkPayout epochId payoutGoatWei.val = .ok ()
  paid : t.transfer pool operator payoutGoatWei.val = .ok t'
  booked : ∃ p₁, p.bookPayout epochId payoutGoatWei.val = .ok p₁
    ∧ p' = { p₁ with
        batchOf := update p₁.batchOf epochId { p.batchOf epochId with
          claimedGoatWei := (p.batchOf epochId).claimedGoatWei + payoutGoatWei.val }
        claimed := update p₁.claimed epochId (update (p₁.claimed epochId) operator true) }

theorem claim_ok {t t' : Erc20} {enrolled : Address → Bool}
    {now : Nat} {epochId : Uint256} {operator : Address} {totalBytes payoutGoatWei : Uint256}
    {proof : List Bytes32}
    (h : p.claim self t enrolled now epochId operator totalBytes payoutGoatWei proof
      = .ok (p', t')) :
    Claims p p' self t t' now epochId operator totalBytes payoutGoatWei proof := by
  obtain ⟨-, -, _, hstatus, _, hopen, _, hroot, h⟩ := bind_ok₄.mp h
  obtain ⟨_, hclaimed, -, -, -, -, _, hproof, h⟩ := bind_ok₄.mp h
  obtain ⟨_, hcheck, p₁, hbook, t₁, hpaid, h⟩ := bind_ok₃.mp h
  cases h
  exact ⟨require_ok.mp hstatus, require_ok.mp hopen, require_ok.mp hroot, require_ok.mp hclaimed,
    require_ok.mp hproof, hcheck, hpaid, p₁, hbook, rfl⟩

/-- What a sweep that succeeds has passed: it books and pays all that is left. -/
theorem sweepUnclaimed_ok {cfg : Config} {t t' : Erc20} {now : Nat}
    {epochId : Uint256} {dst : Address}
    (h : p.sweepUnclaimed self cfg t now sender epochId dst = .ok (p', t')) :
    (p.batchOf epochId).status = .finalized
      ∧ (p.batchOf epochId).proposedAt.val + (p.batchOf epochId).challengeWindowSnap.val
        + (p.batchOf epochId).claimWindowSnap.val < now
      ∧ ∃ amount, (p.fundingOf epochId).goatClaimed + amount + (p.fundingOf epochId).reserveHeld
          ≤ (p.fundingOf epochId).goatFunded
        ∧ t.transfer self dst amount = .ok t' ∧ p.bookPayout epochId amount = .ok p' := by
  obtain ⟨-, -, -, -, -, -, _, hstatus, h⟩ := bind_ok₄.mp h
  obtain ⟨_, hclosed, unclaimed, hunclaimed, h⟩ := bind_ok₂.mp h
  obtain ⟨hclaimed, rfl⟩ := checkedSub_ok.mp hunclaimed
  obtain ⟨amount, hamount, h⟩ := bind_ok.mp h
  obtain ⟨hreserve, rfl⟩ := checkedSub_ok.mp hamount
  obtain ⟨-, -, p₁, hbook, t₁, hpaid, h⟩ := bind_ok₃.mp h
  cases h
  exact ⟨require_ok.mp hstatus, require_ok.mp hclosed, _, by omega, hpaid, hbook⟩

/-- **What a call that succeeds does to the counters and to the token.** -/
theorem poolCall_booking {call : PoolCall} (h : d.poolCall c sender call = .ok c') :
    Booking d c.pool.referenceRateUsdtPerGoat c.pool.accounts c.goat sender call c'.pool.accounts
      c'.goat := by
  have hstill : ∀ {call : PoolCall} {c' : ProxyChain}, call.books = false →
      c'.pool.accounts = c.pool.accounts → c'.goat = c.goat →
      Booking d c.pool.referenceRateUsdtPerGoat c.pool.accounts c.goat sender call c'.pool.accounts
        c'.goat := by
    intro call c' hcall haccounts hgoat
    rw [haccounts, hgoat]
    exact .still hcall
  cases call with
  | setFunder funder =>
      obtain ⟨p, hp, h⟩ := bind_ok.mp h
      obtain ⟨-, -, -, -, hp⟩ := bind_ok₂.mp hp
      cases hp
      cases h
      exact hstill rfl rfl rfl
  | recordUsdtInflow epochId amount =>
      obtain ⟨p, hp, h⟩ := bind_ok.mp h
      obtain ⟨-, -, -, -, -, -, usdtInflow, hinflow, hp⟩ := bind_ok₄.mp hp
      obtain ⟨-, rfl⟩ := checked_ok.mp hinflow
      cases hp
      cases h
      exact .inflow
  | fundEpoch epochId goatAmount backedUsdt =>
      obtain ⟨⟨p, t⟩, hp, h⟩ := bind_ok.mp h
      cases h
      obtain ⟨hepoch, hbacked, hrate, hlt, hpaid, haccounts, -⟩ := fundEpoch_ok hp
      dsimp only
      rw [haccounts]
      exact .fund hepoch hbacked hrate hlt hpaid
  | proposeBatch value epochId root evidenceRef grossGoatWei =>
      obtain ⟨ether, -, p, hp, h⟩ := bind_ok₂.mp h
      obtain ⟨-, -, -, -, -, -, hp⟩ := bind_ok₃.mp hp
      obtain ⟨-, -, -, -, hp⟩ := bind_ok₂.mp hp
      cases hp
      cases h
      exact hstill rfl rfl rfl
  | challengeBatch value epochId =>
      obtain ⟨ether, -, p, hp, h⟩ := bind_ok₂.mp h
      obtain ⟨-, -, -, -, deadline, -, hp⟩ := bind_ok₃.mp hp
      obtain ⟨-, -, -, -, hp⟩ := bind_ok₂.mp hp
      cases hp
      cases h
      exact hstill rfl rfl rfl
  | resolveChallenge epochId proposerWon =>
      obtain ⟨p, hp, h⟩ := bind_ok.mp h
      obtain ⟨-, -, -, -, -, -, hp⟩ := bind_ok₃.mp hp
      cases h
      split at hp
      · exact hstill rfl (settleBonds_accounts hp) rfl
      · exact hstill rfl (settleBonds_accounts hp) rfl
  | timeoutChallenge epochId =>
      obtain ⟨p, hp, h⟩ := bind_ok.mp h
      obtain ⟨-, -, -, -, -, -, hp⟩ := bind_ok₃.mp hp
      cases h
      exact hstill rfl (settleBonds_accounts hp) rfl
  | resetBatch epochId =>
      obtain ⟨p, hp, h⟩ := bind_ok.mp h
      obtain ⟨-, -, -, -, -, -, hp⟩ := bind_ok₃.mp hp
      cases hp
      cases h
      exact hstill rfl rfl rfl
  | withdrawBond accepted =>
      obtain ⟨⟨p, amount⟩, hp, h⟩ := bind_ok.mp h
      obtain ⟨ether, -, h⟩ := bind_ok.mp h
      cases h
      obtain ⟨-, -, -, -, hp⟩ := bind_ok₂.mp hp
      cases hp
      exact hstill rfl rfl rfl
  | finalizeBatch epochId =>
      obtain ⟨⟨p, t⟩, hp, h⟩ := bind_ok.mp h
      cases h
      obtain ⟨-, -, -, -, -, -, -, -, hp⟩ := bind_ok₄.mp hp
      obtain ⟨x, -, p₁, hbook, p₂, hcredit, hp⟩ := bind_ok₃.mp hp
      obtain ⟨t₁, htreasury, t₂, hattestor, hp⟩ := bind_ok₂.mp hp
      cases hp
      obtain ⟨hle, haccounts, -⟩ := bookTake_ok hbook
      show Booking d _ _ _ sender _ p₂.accounts t
      rw [creditBond_accounts hcredit, haccounts]
      exact .take hle htreasury hattestor
  | claim epochId operator totalBytes payoutGoatWei proof =>
      obtain ⟨⟨p, t⟩, hp, h⟩ := bind_ok.mp h
      cases h
      have hclaims := claim_ok hp
      obtain ⟨p₁, hbook, rfl⟩ := hclaims.booked
      show Booking d _ _ _ sender _ p₁.accounts t
      rw [(bookPayout_ok hbook).1]
      exact .claim (checkPayout_ok hclaims.checked) hclaims.paid
  | releaseReserve dst amount =>
      obtain ⟨⟨p, t⟩, hp, h⟩ := bind_ok.mp h
      cases h
      obtain ⟨_, hsafe, _, hsink, _, hamount, t₁, hpaid, hp⟩ := bind_ok₄.mp hp
      cases hp
      obtain ⟨hzero, hle⟩ := not_or.mp (require_ok.mp hamount)
      obtain rfl := require_ok.mp hsink
      exact .release (require_ok.mp hsafe) hzero (Nat.not_lt.mp hle) hpaid
  | sweepUnclaimed epochId dst =>
      obtain ⟨⟨p, t⟩, hp, h⟩ := bind_ok.mp h
      cases h
      obtain ⟨-, -, amount, hwithin, hpaid, hbook⟩ := sweepUnclaimed_ok hp
      dsimp only
      rw [(bookPayout_ok hbook).1]
      exact .sweep hwithin hpaid
  | setWindows challengeWindow claimWindow resolveWindow =>
      obtain ⟨p, hp, h⟩ := bind_ok.mp h
      obtain ⟨-, -, hp⟩ := bind_ok.mp hp
      cases hp
      cases h
      exact hstill rfl rfl rfl
  | setBonds proposerBond challengerBond =>
      obtain ⟨p, hp, h⟩ := bind_ok.mp h
      obtain ⟨-, -, hp⟩ := bind_ok.mp hp
      cases hp
      cases h
      exact hstill rfl rfl rfl
  | setReferenceRate rate =>
      obtain ⟨p, hp, h⟩ := bind_ok.mp h
      obtain ⟨-, -, hp⟩ := bind_ok.mp hp
      cases hp
      cases h
      exact hstill rfl rfl rfl
  | receive value =>
      obtain ⟨ether, -, h⟩ := bind_ok.mp h
      cases h
      exact hstill rfl rfl rfl

end ProxySite

/-! ## What the counters always say -/

namespace Accounts

/-- What is left of an epoch's funding. -/
def left (f : Funding) : Nat := f.goatFunded - f.goatClaimed - f.reserveHeld

/-- What the pool owes: what is left of every epoch, and the reserve. -/
def held (a : Accounts) : Nat := ∑ epochId, left (a.fundingOf epochId) + a.reserveHeld

structure Sound (a : Accounts) : Prop where
  covered : ∀ epochId, (a.fundingOf epochId).goatClaimed + (a.fundingOf epochId).reserveHeld
    ≤ (a.fundingOf epochId).goatFunded
  funded_sum : ∑ epochId, (a.fundingOf epochId).goatFunded = a.totalFunded
  claimed_sum : ∑ epochId, (a.fundingOf epochId).goatClaimed = a.totalClaimed
  reserve_le : a.reserveHeld ≤ ∑ epochId, (a.fundingOf epochId).reserveHeld
  funded_lt : a.totalFunded < 2 ^ 256
  inSpace : ∀ epochId, (a.fundingOf epochId).goatFunded ≠ 0 → IsProxyEpoch epochId
  backed_le : ∀ epochId, (a.fundingOf epochId).usdtBacked ≤ (a.fundingOf epochId).usdtInflow

variable {a a' : Accounts} {epochId : Uint256} {f : Funding}

theorem setFunding_self (a : Accounts) (epochId : Uint256) (f : Funding) :
    (a.setFunding epochId f).fundingOf epochId = f := update_self ..

theorem sum_setFunding (v : Funding → Nat) (a : Accounts) (epochId : Uint256) (f : Funding) :
    ∑ i, v ((a.setFunding epochId f).fundingOf i) + v (a.fundingOf epochId)
      = ∑ i, v (a.fundingOf i) + v f :=
  sum_update v a.fundingOf epochId f

theorem sum_setFunding_same (v : Funding → Nat) (h : v f = v (a.fundingOf epochId)) :
    ∑ i, v ((a.setFunding epochId f).fundingOf i) = ∑ i, v (a.fundingOf i) := by
  have hsum := sum_setFunding v a epochId f
  omega

theorem sum_setFunding_add (v : Funding → Nat) {n : Nat} (h : v f = v (a.fundingOf epochId) + n) :
    ∑ i, v ((a.setFunding epochId f).fundingOf i) = ∑ i, v (a.fundingOf i) + n := by
  have hsum := sum_setFunding v a epochId f
  omega

theorem forall_setFunding {P : Uint256 → Funding → Prop} (h : ∀ i, P i (a.fundingOf i))
    (hf : P epochId f) (i : Uint256) : P i ((a.setFunding epochId f).fundingOf i) := by
  rcases eq_or_ne i epochId with rfl | hne
  · rw [setFunding_self]
    exact hf
  · show P i (update a.fundingOf epochId f i)
    rw [update_of_ne hne]
    exact h i

theorem Sound.inflow (h : a.Sound) (amount : Nat) :
    (a.setFunding epochId { a.fundingOf epochId with
      usdtInflow := (a.fundingOf epochId).usdtInflow + amount }).Sound where
  covered := forall_setFunding (P := fun _ f => f.goatClaimed + f.reserveHeld ≤ f.goatFunded)
    h.covered (h.covered epochId)
  funded_sum := (sum_setFunding_same Funding.goatFunded (by rfl)).trans h.funded_sum
  claimed_sum := (sum_setFunding_same Funding.goatClaimed (by rfl)).trans h.claimed_sum
  reserve_le := h.reserve_le.trans (sum_setFunding_same Funding.reserveHeld (by rfl)).ge
  funded_lt := h.funded_lt
  inSpace := forall_setFunding (P := fun i f => f.goatFunded ≠ 0 → IsProxyEpoch i)
    h.inSpace (h.inSpace epochId)
  backed_le := forall_setFunding (P := fun _ f => f.usdtBacked ≤ f.usdtInflow) h.backed_le
    ((h.backed_le epochId).trans (Nat.le_add_right _ _))

theorem Sound.fund {amount backed : Nat} (h : a.Sound) (hepoch : IsProxyEpoch epochId)
    (hbacked : (a.fundingOf epochId).usdtBacked + backed ≤ (a.fundingOf epochId).usdtInflow)
    (hlt : a.totalFunded + amount < 2 ^ 256) : (a.fund epochId amount backed).Sound where
  covered := forall_setFunding (P := fun _ f => f.goatClaimed + f.reserveHeld ≤ f.goatFunded)
    h.covered ((h.covered epochId).trans (Nat.le_add_right _ _))
  funded_sum := (sum_setFunding_add Funding.goatFunded (by rfl)).trans
    (congrArg (· + amount) h.funded_sum)
  claimed_sum := (sum_setFunding_same Funding.goatClaimed (by rfl)).trans h.claimed_sum
  reserve_le := h.reserve_le.trans (sum_setFunding_same Funding.reserveHeld (by rfl)).ge
  funded_lt := hlt
  inSpace := forall_setFunding (P := fun i f => f.goatFunded ≠ 0 → IsProxyEpoch i)
    h.inSpace fun _ => hepoch
  backed_le := forall_setFunding (P := fun _ f => f.usdtBacked ≤ f.usdtInflow) h.backed_le hbacked

theorem Sound.spend (sent kept : Nat) (h : a.Sound)
    (hwithin : (a.fundingOf epochId).goatClaimed + sent + ((a.fundingOf epochId).reserveHeld + kept)
      ≤ (a.fundingOf epochId).goatFunded) : (a.spend epochId sent kept).Sound where
  covered := forall_setFunding (P := fun _ f => f.goatClaimed + f.reserveHeld ≤ f.goatFunded)
    h.covered hwithin
  funded_sum := (sum_setFunding_same Funding.goatFunded (by rfl)).trans h.funded_sum
  claimed_sum := (sum_setFunding_add Funding.goatClaimed (by rfl)).trans
    (congrArg (· + sent) h.claimed_sum)
  reserve_le := (Nat.add_le_add_right h.reserve_le kept).trans
    (sum_setFunding_add Funding.reserveHeld (by rfl)).ge
  funded_lt := h.funded_lt
  inSpace := forall_setFunding (P := fun i f => f.goatFunded ≠ 0 → IsProxyEpoch i)
    h.inSpace (h.inSpace epochId)
  backed_le := forall_setFunding (P := fun _ f => f.usdtBacked ≤ f.usdtInflow) h.backed_le
    (h.backed_le epochId)

theorem Sound.release (h : a.Sound) (amount : Nat) :
    ({ a with reserveHeld := a.reserveHeld - amount } : Accounts).Sound where
  covered := h.covered
  funded_sum := h.funded_sum
  claimed_sum := h.claimed_sum
  reserve_le := (Nat.sub_le _ _).trans h.reserve_le
  funded_lt := h.funded_lt
  inSpace := h.inSpace
  backed_le := h.backed_le

theorem sound_empty (hfunding : ∀ epochId, a.fundingOf epochId = .empty)
    (hfunded : a.totalFunded = 0)
    (hclaimed : a.totalClaimed = 0) (hreserve : a.reserveHeld = 0) : a.Sound where
  covered epochId := by
    rw [hfunding]
    exact le_rfl
  funded_sum := by
    rw [hfunded]
    refine Finset.sum_eq_zero fun epochId _ => ?_
    rw [hfunding]
    rfl
  claimed_sum := by
    rw [hclaimed]
    refine Finset.sum_eq_zero fun epochId _ => ?_
    rw [hfunding]
    rfl
  reserve_le := by
    rw [hreserve]
    exact Nat.zero_le _
  funded_lt := by
    rw [hfunded]
    decide
  inSpace epochId hne := by
    rw [hfunding] at hne
    exact absurd rfl hne
  backed_le epochId := by
    rw [hfunding]
    exact le_rfl

/-! ### What each booking does to what the pool owes -/

theorem held_empty (hfunding : ∀ epochId, a.fundingOf epochId = .empty)
    (hreserve : a.reserveHeld = 0) : a.held = 0 := by
  unfold held
  rw [hreserve, Nat.add_zero]
  refine Finset.sum_eq_zero fun epochId _ => ?_
  rw [hfunding]
  rfl

theorem held_inflow (amount : Nat) :
    (a.setFunding epochId { a.fundingOf epochId with
      usdtInflow := (a.fundingOf epochId).usdtInflow + amount }).held = a.held := by
  exact congrArg (· + a.reserveHeld) (sum_setFunding_same left (by rfl))

theorem held_fund {amount backed : Nat} (h : a.Sound) :
    (a.fund epochId amount backed).held = a.held + amount := by
  have hleft : left { a.fundingOf epochId with
      usdtBacked := (a.fundingOf epochId).usdtBacked + backed
      goatFunded := (a.fundingOf epochId).goatFunded + amount }
      = left (a.fundingOf epochId) + amount := by
    have hcovered := h.covered epochId
    simp only [left]
    omega
  have hsum := sum_setFunding_add left hleft
  unfold held
  show ∑ i, left ((a.setFunding epochId _).fundingOf i) + a.reserveHeld = _
  rw [hsum]
  omega

theorem held_spend (sent kept : Nat)
    (hwithin : (a.fundingOf epochId).goatClaimed + sent + ((a.fundingOf epochId).reserveHeld + kept)
      ≤ (a.fundingOf epochId).goatFunded) : (a.spend epochId sent kept).held + sent = a.held := by
  have hleft : left (a.fundingOf epochId) = left { a.fundingOf epochId with
      goatClaimed := (a.fundingOf epochId).goatClaimed + sent
      reserveHeld := (a.fundingOf epochId).reserveHeld + kept } + (sent + kept) := by
    simp only [left]
    omega
  have hsum := sum_setFunding left a epochId
    { a.fundingOf epochId with
      goatClaimed := (a.fundingOf epochId).goatClaimed + sent
      reserveHeld := (a.fundingOf epochId).reserveHeld + kept }
  rw [hleft] at hsum
  unfold held
  show ∑ i, left ((a.setFunding epochId _).fundingOf i) + (a.reserveHeld + kept) + sent = _
  omega

theorem held_release {amount : Nat} (hle : amount ≤ a.reserveHeld) :
    ({ a with reserveHeld := a.reserveHeld - amount } : Accounts).held + amount = a.held := by
  unfold held
  rw [Nat.add_assoc, Nat.sub_add_cancel hle]

end Accounts

/-! ## One step -/

/-- The pool is none of those it pays, and not called by itself. -/
structure ProxySite.Apart (d : ProxySite) : Prop where
  self_ne_zero : d.self ≠ 0
  safe_ne : d.config.safe ≠ d.self
  treasury_ne : d.config.treasury ≠ d.self
  attestorSafe_ne : d.config.attestorSafe ≠ d.self
  reserveSink_ne : d.config.reserveSink ≠ d.self

/-- The pool is sent no coins but those that fund an epoch. -/
def ProxySite.Quiet (d : ProxySite) : ProxyCall → Prop
  | .goat _ call => call.brings d.self = 0
  | .pool _ (.claim _ operator _ _ _) => operator ≠ d.self
  | .pool _ (.sweepUnclaimed _ dst) => dst ≠ d.self
  | _ => True

namespace Booking

variable {d : ProxySite} {rate : Nat} {a a' : Accounts} {t t' : Erc20} {sender : Address}
  {call : PoolCall}

theorem sound (h : Booking d rate a t sender call a' t') (hs : a.Sound) : a'.Sound := by
  cases h with
  | still _ => exact hs
  | inflow => exact hs.inflow _
  | fund hepoch hbacked _ hlt _ => exact hs.fund hepoch hbacked hlt
  | take hwithin _ _ => exact hs.spend _ _ hwithin
  | claim hwithin _ => exact hs.spend _ 0 hwithin
  | sweep hwithin _ => exact hs.spend _ 0 hwithin
  | release _ _ _ _ => exact hs.release _

theorem allowances_le (h : Booking d rate a t sender call a' t') (o p : Address) :
    t'.allowances o p ≤ t.allowances o p := by
  have htransfer : ∀ {t t' : Erc20} {dst : Address} {amount : Nat},
      t.transfer d.self dst amount = .ok t' → t'.allowances o p ≤ t.allowances o p := by
    intro t t' dst amount h
    obtain ⟨-, -, ha, -⟩ := Erc20.transfer_ok h
    exact (congrFun (congrFun ha o) p).le
  cases h with
  | still _ => exact le_rfl
  | inflow => exact le_rfl
  | fund _ _ _ _ hpaid => exact (Erc20.transferFrom_ok hpaid).2.2.2.1 o p
  | take _ hfirst hsecond => exact (htransfer hsecond).trans (htransfer hfirst)
  | claim _ hpaid => exact htransfer hpaid
  | sweep _ hpaid => exact htransfer hpaid
  | release _ _ _ hpaid => exact htransfer hpaid

theorem paid_out {b b' owed owed' amount extra : Nat} (hpaid : b' + amount = b + extra)
    (howed : owed' + amount = owed) : b' + owed = b + owed' + extra := by
  omega

theorem paid_out₂ {b b₁ b' owed owed' first second x y : Nat} (hfirst : b₁ + first = b + x)
    (hsecond : b' + second = b₁ + y) (howed : owed' + (first + second) = owed) :
    b' + owed = b + owed' + (x + y) := by
  omega

theorem balance (h : Booking d rate a t sender call a' t') (hs : a.Sound)
    (hnone : t.allowances d.self d.self = 0) :
    ∃ extra, t'.balances d.self + a.held = t.balances d.self + a'.held + extra
      ∧ (d.Apart → d.Quiet (.pool sender call) → extra = 0) := by
  cases h with
  | still _ => exact ⟨0, (Nat.add_zero _).symm, fun _ _ => rfl⟩
  | inflow =>
      refine ⟨0, ?_, fun _ _ => rfl⟩
      rw [Accounts.held_inflow, Nat.add_zero]
  | fund _ _ _ _ hpaid =>
      have hin := Erc20.transferFrom_kept hnone hpaid
      rw [if_pos rfl] at hin
      refine ⟨0, ?_, fun _ _ => rfl⟩
      rw [Accounts.held_fund hs, hin, Nat.add_zero, Nat.add_assoc, Nat.add_comm a.held]
  | @take epochId x t₁ t' hwithin hfirst hsecond =>
      refine ⟨(if d.config.treasury = d.self then x.toTreasury else 0)
        + (if d.config.attestorSafe = d.self then x.toAttestor else 0), ?_, fun hd _ => ?_⟩
      · exact paid_out₂ (Erc20.transfer_src hfirst) (Erc20.transfer_src hsecond)
          (Accounts.held_spend _ _ hwithin)
      · rw [if_neg hd.treasury_ne, if_neg hd.attestorSafe_ne]
  | @claim epochId operator totalBytes amount proof t' hwithin hpaid =>
      exact ⟨if operator = d.self then amount.val else 0,
        paid_out (Erc20.transfer_src hpaid) (Accounts.held_spend _ 0 hwithin),
        fun _ hquiet => if_neg hquiet⟩
  | @sweep epochId dst amount t' hwithin hpaid =>
      exact ⟨if dst = d.self then amount else 0,
        paid_out (Erc20.transfer_src hpaid) (Accounts.held_spend _ 0 hwithin),
        fun _ hquiet => if_neg hquiet⟩
  | @release amount t' _ _ hle hpaid =>
      exact ⟨if d.config.reserveSink = d.self then amount.val else 0,
        paid_out (Erc20.transfer_src hpaid) (Accounts.held_release hle),
        fun hd _ => if_neg hd.reserveSink_ne⟩

end Booking

/-- What always holds of the pool: its counters are in order, nobody may spend its coins, and it
has the coins that it owes. -/
structure ProxyChain.Solvent (d : ProxySite) (c : ProxyChain) : Prop where
  sound : c.pool.accounts.Sound
  unlent : ∀ spender, c.goat.allowances d.self spender = 0
  covered : c.pool.accounts.held ≤ c.goat.balances d.self

namespace ProxyChain

variable {d : ProxySite} {c c' : ProxyChain} {k : ProxyCall}

/-- **One step**: the counters stay in order, and the balance of the pool moves with what it owes,
up to what it is sent besides. -/
theorem solvent_act (h : c.Solvent d) (hok : d.act c k = .ok c') :
    c'.pool.accounts.Sound ∧ (∀ spender, c'.goat.allowances d.self spender = 0)
      ∧ ∃ extra, c'.goat.balances d.self + c.pool.accounts.held
          = c.goat.balances d.self + c'.pool.accounts.held + extra
        ∧ (d.Apart → d.Quiet k → extra = 0) := by
  cases k with
  | advance now =>
      obtain ⟨-, -, hok⟩ := bind_ok.mp hok
      cases hok
      exact ⟨h.sound, h.unlent, 0, (Nat.add_zero _).symm, fun _ _ => rfl⟩
  | enrol enrolled =>
      cases hok
      exact ⟨h.sound, h.unlent, 0, (Nat.add_zero _).symm, fun _ _ => rfl⟩
  | goat sender call =>
      obtain ⟨_, hsender, t, hcall, hok⟩ := bind_ok₂.mp hok
      cases hok
      obtain ⟨hbalance, hallow⟩ :=
        Erc20.call_kept (require_ok.mp hsender).2.symm (h.unlent sender) hcall
      refine ⟨h.sound, fun spender => ?_, call.brings d.self, ?_, fun _ hquiet => hquiet⟩
      · exact Nat.le_zero.mp ((hallow spender).trans (h.unlent spender).le)
      · show t.balances d.self + _ = _
        rw [hbalance]
        exact Nat.add_right_comm _ _ _
  | pool sender call =>
      obtain ⟨-, -, hok⟩ := bind_ok.mp hok
      have hbook := ProxySite.poolCall_booking hok
      refine ⟨hbook.sound h.sound, fun spender => ?_, hbook.balance h.sound (h.unlent d.self)⟩
      exact Nat.le_zero.mp ((hbook.allowances_le d.self spender).trans (h.unlent spender).le)

theorem solvent_step (h : c.Solvent d) (hok : d.act c k = .ok c') : c'.Solvent d := by
  obtain ⟨hsound, hunlent, extra, hbalance, -⟩ := solvent_act h hok
  refine ⟨hsound, hunlent, ?_⟩
  have hcovered := h.covered
  generalize c.pool.accounts.held = owed at hbalance hcovered
  generalize c'.pool.accounts.held = owed' at hbalance ⊢
  omega

theorem exact_step (hd : d.Apart) (hquiet : d.Quiet k) (h : c.Solvent d)
    (hexact : c.goat.balances d.self = c.pool.accounts.held) (hok : d.act c k = .ok c') :
    c'.goat.balances d.self = c'.pool.accounts.held := by
  obtain ⟨-, -, extra, hbalance, hextra⟩ := solvent_act h hok
  rw [hextra hd hquiet, hexact, Nat.add_zero, Nat.add_comm] at hbalance
  exact Nat.add_left_cancel hbalance

theorem Fresh.counters (h : c.Fresh d) : (∀ epochId, c.pool.accounts.fundingOf epochId = .empty)
    ∧ c.pool.accounts.totalFunded = 0 ∧ c.pool.accounts.totalClaimed = 0
    ∧ c.pool.accounts.reserveHeld = 0 := by
  obtain ⟨-, -, hnew⟩ := bind_ok.mp h.pool_new
  rw [← Except.ok.inj hnew]
  exact ⟨fun _ => rfl, rfl, rfl, rfl⟩

theorem Fresh.held_eq (h : c.Fresh d) : c.pool.accounts.held = 0 := by
  obtain ⟨hfunding, -, -, hreserve⟩ := h.counters
  exact Accounts.held_empty hfunding hreserve

theorem Fresh.solvent (h : c.Fresh d) : c.Solvent d := by
  obtain ⟨hfunding, hfunded, hclaimed, hreserve⟩ := h.counters
  refine ⟨Accounts.sound_empty hfunding hfunded hclaimed hreserve, h.unlent, ?_⟩
  rw [h.held_eq]
  exact Nat.zero_le _

theorem solvent_run (h : c.Fresh d) (ks : List ProxyCall) : (d.run c ks).Solvent d := by
  refine Runs.invariant (I := fun c => c.Solvent d) (fun s k hs => ?_) ks c h.solvent
  exact attempt_preserves (I := fun c => c.Solvent d)
    (fun _ _ _ hs hok => solvent_step hs hok) s k hs

theorem exact_run (hd : d.Apart) (h : c.Fresh d) (ks : List ProxyCall)
    (hquiet : ∀ k ∈ ks, d.Quiet k) :
    (d.run c ks).goat.balances d.self = (d.run c ks).pool.accounts.held := by
  induction ks using List.reverseRecOn with
  | nil => exact h.balance.trans h.held_eq.symm
  | append_singleton ks k ih =>
      have hbefore := ih fun k' hk' => hquiet k' (List.mem_append_left _ hk')
      have hlast := hquiet k (List.mem_append_right _ (List.mem_singleton_self k))
      have hrun : d.run c (ks ++ [k]) = attempt d.act (d.run c ks) k := Runs.foldl_snoc ks k c
      rw [hrun]
      rcases attempt_cases d.act (d.run c ks) k with ⟨hsame, -⟩ | hok
      · rw [hsame]
        exact hbefore
      · exact exact_step hd hlast (solvent_run h ks) hbefore hok

end ProxyChain

/-! ## Every epoch pays out of its own funding -/

/-- The epoch whose coins a call moves. -/
def ProxyCall.account : ProxyCall → Option Uint256
  | .pool _ (.fundEpoch epochId _ _) => some epochId
  | .pool _ (.finalizeBatch epochId) => some epochId
  | .pool _ (.claim epochId _ _ _ _) => some epochId
  | .pool _ (.sweepUnclaimed epochId _) => some epochId
  | _ => none

/-- A run with the coins that came in and went out for each epoch. -/
structure EpochBooks where
  chain : ProxyChain
  paidIn : Uint256 → Nat
  paidOut : Uint256 → Nat

namespace EpochBooks

def next (d : ProxySite) (b : EpochBooks) (k : ProxyCall) : EpochBooks :=
  let chain := attempt d.act b.chain k
  match k.account with
  | none => { b with chain }
  | some epochId =>
      { chain
        paidIn := update b.paidIn epochId
          (b.paidIn epochId + (chain.goat.balances d.self - b.chain.goat.balances d.self))
        paidOut := update b.paidOut epochId
          (b.paidOut epochId + (b.chain.goat.balances d.self - chain.goat.balances d.self)) }

def run (d : ProxySite) (c : ProxyChain) (ks : List ProxyCall) : EpochBooks :=
  ks.foldl (next d) ⟨c, fun _ => 0, fun _ => 0⟩

variable {d : ProxySite} {b : EpochBooks} {k : ProxyCall}

theorem next_chain : (b.next d k).chain = attempt d.act b.chain k := by
  unfold next
  split
  · rfl
  · rfl

/-- The counters of the epochs say the same. -/
structure Agree (b : EpochBooks) : Prop where
  paidIn_eq : ∀ epochId, b.paidIn epochId = (b.chain.pool.fundingOf epochId).goatFunded
  paidOut_eq : ∀ epochId, b.paidOut epochId = (b.chain.pool.fundingOf epochId).goatClaimed

/-- What a call does to the epoch it is for: `paid` coins come in and are funding, `sent` coins go
out and are claimed. -/
theorem Agree.write (h : b.Agree) {c : ProxyChain} {epochId : Uint256} {f : Funding}
    {paid sent : Nat} (hfunding : c.pool.fundingOf = update b.chain.pool.fundingOf epochId f)
    (hfunded : f.goatFunded = (b.chain.pool.fundingOf epochId).goatFunded + paid)
    (hclaimed : f.goatClaimed = (b.chain.pool.fundingOf epochId).goatClaimed + sent) :
    Agree ⟨c, update b.paidIn epochId (b.paidIn epochId + paid),
      update b.paidOut epochId (b.paidOut epochId + sent)⟩ := by
  refine ⟨fun i => ?_, fun i => ?_⟩
  · dsimp only
    rw [hfunding]
    rcases eq_or_ne i epochId with rfl | hne
    · rw [update_self, update_self, hfunded, h.paidIn_eq]
    · rw [update_of_ne hne, update_of_ne hne, h.paidIn_eq]
  · dsimp only
    rw [hfunding]
    rcases eq_or_ne i epochId with rfl | hne
    · rw [update_self, update_self, hclaimed, h.paidOut_eq]
    · rw [update_of_ne hne, update_of_ne hne, h.paidOut_eq]

theorem Agree.frame (h : b.Agree) {c : ProxyChain}
    (hsame : ∀ epochId, (c.pool.fundingOf epochId).goatFunded
        = (b.chain.pool.fundingOf epochId).goatFunded
      ∧ (c.pool.fundingOf epochId).goatClaimed = (b.chain.pool.fundingOf epochId).goatClaimed) :
    Agree { b with chain := c } :=
  ⟨fun i => (h.paidIn_eq i).trans (hsame i).1.symm,
    fun i => (h.paidOut_eq i).trans (hsame i).2.symm⟩

theorem next_none (hk : k.account = none) :
    b.next d k = { b with chain := attempt d.act b.chain k } := by
  unfold next
  rw [hk]

theorem next_some {epochId : Uint256} {paid sent : Nat} (hk : k.account = some epochId)
    (hpaid : (attempt d.act b.chain k).goat.balances d.self - b.chain.goat.balances d.self = paid)
    (hsent : b.chain.goat.balances d.self - (attempt d.act b.chain k).goat.balances d.self = sent) :
    b.next d k = ⟨attempt d.act b.chain k,
      update b.paidIn epochId (b.paidIn epochId + paid),
      update b.paidOut epochId (b.paidOut epochId + sent)⟩ := by
  unfold next
  rw [hk]
  dsimp only
  rw [hpaid, hsent]

theorem agree_booking {sender : Address} {call : PoolCall} {c : ProxyChain} (hd : d.Apart)
    (hquiet : d.Quiet (.pool sender call)) (hs : b.chain.Solvent d) (h : b.Agree)
    (hc : attempt d.act b.chain (.pool sender call) = c)
    (hbook : Booking d b.chain.pool.referenceRateUsdtPerGoat b.chain.pool.accounts b.chain.goat
      sender call c.pool.accounts c.goat) : (b.next d (.pool sender call)).Agree := by
  obtain ⟨a', ha⟩ : ∃ a', c.pool.accounts = a' := ⟨_, rfl⟩
  obtain ⟨t', ht⟩ : ∃ t', c.goat = t' := ⟨_, rfl⟩
  have hfunding : c.pool.fundingOf = a'.fundingOf := congrArg Accounts.fundingOf ha
  have hout : ∀ {epochId : Uint256} {sent kept : Nat},
      (ProxyCall.pool sender call).account = some epochId →
      a' = b.chain.pool.accounts.spend epochId sent kept →
      t'.balances d.self + sent = b.chain.goat.balances d.self →
      (b.next d (.pool sender call)).Agree := by
    intro epochId sent kept haccount hspend hbalance
    have hpaid : c.goat.balances d.self - b.chain.goat.balances d.self = 0 := by
      rw [ht]
      omega
    have hsent : b.chain.goat.balances d.self - c.goat.balances d.self = sent := by
      rw [ht]
      omega
    have hwrite : c.pool.fundingOf = update b.chain.pool.fundingOf epochId
        { b.chain.pool.fundingOf epochId with
          goatClaimed := (b.chain.pool.fundingOf epochId).goatClaimed + sent
          reserveHeld := (b.chain.pool.fundingOf epochId).reserveHeld + kept } := by
      rw [hfunding, hspend]
      rfl
    rw [next_some haccount (hc ▸ hpaid) (hc ▸ hsent), hc]
    exact h.write hwrite (Nat.add_zero _).symm rfl
  rw [ha, ht] at hbook
  cases hbook with
  | still hcall =>
      have haccount : (ProxyCall.pool sender call).account = none := by
        cases call with
        | fundEpoch _ _ _ => cases hcall
        | finalizeBatch _ => cases hcall
        | claim _ _ _ _ _ => cases hcall
        | sweepUnclaimed _ _ => cases hcall
        | _ => rfl
      rw [next_none haccount, hc]
      refine h.frame fun epochId => ?_
      rw [hfunding]
      exact ⟨rfl, rfl⟩
  | @inflow epochId amount =>
      rw [next_none rfl, hc]
      refine h.frame fun i => ?_
      rw [hfunding]
      refine Accounts.forall_setFunding
        (P := fun i f => f.goatFunded = (b.chain.pool.fundingOf i).goatFunded
          ∧ f.goatClaimed = (b.chain.pool.fundingOf i).goatClaimed) (fun j => ?_) ?_ i
      · exact ⟨rfl, rfl⟩
      · exact ⟨rfl, rfl⟩
  | @fund epochId amount backed t' _ _ _ _ hpaid =>
      have hin := Erc20.transferFrom_kept (hs.unlent d.self) hpaid
      rw [if_pos rfl] at hin
      have hpaid : c.goat.balances d.self - b.chain.goat.balances d.self = amount.val := by
        rw [ht, hin, Nat.add_sub_cancel_left]
      have hsent : b.chain.goat.balances d.self - c.goat.balances d.self = 0 := by
        rw [ht, hin]
        exact Nat.sub_eq_zero_of_le (Nat.le_add_right _ _)
      rw [next_some rfl (hc ▸ hpaid) (hc ▸ hsent), hc]
      exact h.write hfunding rfl (Nat.add_zero _).symm
  | take _ hfirst hsecond =>
      have h₁ := Erc20.transfer_src hfirst
      have h₂ := Erc20.transfer_src hsecond
      rw [if_neg hd.treasury_ne] at h₁
      rw [if_neg hd.attestorSafe_ne] at h₂
      exact hout rfl rfl (by omega)
  | claim _ hpaid =>
      have hbalance := Erc20.transfer_src hpaid
      rw [if_neg hquiet] at hbalance
      exact hout rfl rfl hbalance
  | sweep _ hpaid =>
      have hbalance := Erc20.transfer_src hpaid
      rw [if_neg hquiet] at hbalance
      exact hout rfl rfl hbalance
  | release _ _ _ _ =>
      rw [next_none rfl, hc]
      refine h.frame fun epochId => ?_
      rw [hfunding]
      exact ⟨rfl, rfl⟩

theorem agree_next (hd : d.Apart) (hquiet : d.Quiet k) (hs : b.chain.Solvent d) (h : b.Agree) :
    (b.next d k).Agree := by
  rcases attempt_cases d.act b.chain k with ⟨hsame, -⟩ | hok
  · -- a call that reverts moves nothing
    unfold next
    rw [hsame]
    split
    · exact h
    · refine ⟨fun i => ?_, fun i => ?_⟩
      · dsimp only
        rw [Nat.sub_self, Nat.add_zero, update_eq_self]
        exact h.paidIn_eq i
      · dsimp only
        rw [Nat.sub_self, Nat.add_zero, update_eq_self]
        exact h.paidOut_eq i
  generalize hc : attempt d.act b.chain k = c at hok
  cases k with
  | advance now =>
      obtain ⟨-, -, hok⟩ := bind_ok.mp hok
      cases hok
      rw [next_none rfl, hc]
      exact h.frame fun _ => ⟨rfl, rfl⟩
  | enrol enrolled =>
      cases hok
      rw [next_none rfl, hc]
      exact h.frame fun _ => ⟨rfl, rfl⟩
  | goat sender call =>
      obtain ⟨-, -, t, -, hok⟩ := bind_ok₂.mp hok
      cases hok
      rw [next_none rfl, hc]
      exact h.frame fun _ => ⟨rfl, rfl⟩
  | pool sender call =>
      obtain ⟨-, -, hok⟩ := bind_ok.mp hok
      exact agree_booking hd hquiet hs h hc (ProxySite.poolCall_booking hok)

theorem run_agree {c : ProxyChain} (hd : d.Apart) (hfresh : c.Fresh d) (ks : List ProxyCall)
    (hquiet : ∀ k ∈ ks, d.Quiet k) : (run d c ks).chain = d.run c ks ∧ (run d c ks).Agree := by
  induction ks using List.reverseRecOn with
  | nil =>
      obtain ⟨hfunding, -⟩ := hfresh.counters
      refine ⟨rfl, fun i => ?_, fun i => ?_⟩
      · exact (congrArg Funding.goatFunded (hfunding i)).symm
      · exact (congrArg Funding.goatClaimed (hfunding i)).symm
  | append_singleton ks k ih =>
      obtain ⟨hchain, hagree⟩ := ih fun k' hk' => hquiet k' (List.mem_append_left _ hk')
      have hlast := hquiet k (List.mem_append_right _ (List.mem_singleton_self k))
      have hrun : d.run c (ks ++ [k]) = attempt d.act (d.run c ks) k := Runs.foldl_snoc ks k c
      have hbooks : run d c (ks ++ [k]) = (run d c ks).next d k := Runs.foldl_snoc ks k _
      rw [hrun, hbooks, next_chain, hchain]
      exact ⟨rfl, agree_next hd hlast (hchain ▸ ProxyChain.solvent_run hfresh ks) hagree⟩

end EpochBooks

/-! ## What an epoch is funded with was paid for -/

theorem Booking.rated {d : ProxySite} {rate : Nat} {a a' : Accounts} {t t' : Erc20}
    {sender : Address} {call : PoolCall} (h : Booking d rate a t sender call a' t')
    (hrated : ∀ i, (a.fundingOf i).goatFunded * rate ≤ (a.fundingOf i).usdtBacked * 10 ^ 18) :
    ∀ i, (a'.fundingOf i).goatFunded * rate ≤ (a'.fundingOf i).usdtBacked * 10 ^ 18 := by
  have hwrite : ∀ {epochId : Uint256} {f : Funding},
      f.goatFunded * rate ≤ f.usdtBacked * 10 ^ 18 →
      ∀ i, ((a.setFunding epochId f).fundingOf i).goatFunded * rate
        ≤ ((a.setFunding epochId f).fundingOf i).usdtBacked * 10 ^ 18 := by
    intro epochId f hf
    exact Accounts.forall_setFunding
      (P := fun _ f => f.goatFunded * rate ≤ f.usdtBacked * 10 ^ 18) hrated hf
  cases h with
  | still _ => exact hrated
  | @inflow epochId amount => exact hwrite (hrated epochId)
  | @fund epochId amount backed t' _ _ hrate _ _ =>
      refine hwrite ?_
      have hold := hrated epochId
      dsimp only
      rw [Nat.add_mul, Nat.add_mul]
      exact Nat.add_le_add hold hrate
  | @take epochId x t₁ t' _ _ _ => exact hwrite (hrated epochId)
  | @claim epochId operator totalBytes amount proof t' _ _ => exact hwrite (hrated epochId)
  | @sweep epochId dst amount t' _ _ => exact hwrite (hrated epochId)
  | release _ _ _ _ => exact hrated

theorem ProxyChain.rated_run {d : ProxySite} {c : ProxyChain} (hfresh : c.Fresh d) {rate : Nat}
    (ks : List ProxyCall)
    (hrate : Runs.Throughout (attempt d.act) (fun c => c.pool.referenceRateUsdtPerGoat = rate) c ks)
    (epochId : Uint256) :
    ((d.run c ks).pool.fundingOf epochId).goatFunded * rate
      ≤ ((d.run c ks).pool.fundingOf epochId).usdtBacked * 10 ^ 18 := by
  induction ks using List.reverseRecOn generalizing epochId with
  | nil =>
      obtain ⟨hfunding, -⟩ := hfresh.counters
      have hnone : (c.pool.fundingOf epochId).goatFunded = 0 :=
        congrArg Funding.goatFunded (hfunding epochId)
      show (c.pool.fundingOf epochId).goatFunded * rate ≤ _
      rw [hnone, Nat.zero_mul]
      exact Nat.zero_le _
  | append_singleton ks k ih =>
      have hbefore := ih fun before hbefore => hrate before (hbefore.trans (List.prefix_append _ _))
      have hnow : (d.run c ks).pool.referenceRateUsdtPerGoat = rate :=
        hrate ks (List.prefix_append _ _)
      have hrun : d.run c (ks ++ [k]) = attempt d.act (d.run c ks) k := Runs.foldl_snoc ks k c
      rw [hrun]
      rcases attempt_cases d.act (d.run c ks) k with ⟨hsame, -⟩ | hok
      · rw [hsame]
        exact hbefore epochId
      generalize attempt d.act (d.run c ks) k = c' at hok
      cases k with
      | advance now =>
          obtain ⟨-, -, hok⟩ := bind_ok.mp hok
          cases hok
          exact hbefore epochId
      | enrol enrolled =>
          cases hok
          exact hbefore epochId
      | goat sender call =>
          obtain ⟨-, -, t, -, hok⟩ := bind_ok₂.mp hok
          cases hok
          exact hbefore epochId
      | pool sender call =>
          obtain ⟨-, -, hok⟩ := bind_ok.mp hok
          have hbook := ProxySite.poolCall_booking hok
          rw [hnow] at hbook
          exact hbook.rated hbefore epochId

/-- **The pool holds what is left of every epoch and the reserve, every epoch pays out of its own
funding, and the funding was paid for.** -/
theorem proxy_pool_solvency (d : ProxySite) (hd : d.Apart) {start : ProxyChain}
    (hfresh : start.Fresh d) (ks : List ProxyCall) (hquiet : ∀ k ∈ ks, d.Quiet k) :
    (d.run start ks).goat.balances d.self
        = ∑ epochId, (((d.run start ks).pool.fundingOf epochId).goatFunded
            - ((d.run start ks).pool.fundingOf epochId).goatClaimed
            - ((d.run start ks).pool.fundingOf epochId).reserveHeld)
          + (d.run start ks).pool.reserveHeld
      ∧ (∀ epochId, ((d.run start ks).pool.fundingOf epochId).goatClaimed
            + ((d.run start ks).pool.fundingOf epochId).reserveHeld
          ≤ ((d.run start ks).pool.fundingOf epochId).goatFunded)
      ∧ (d.run start ks).pool.reserveHeld
          ≤ ∑ epochId, ((d.run start ks).pool.fundingOf epochId).reserveHeld
      ∧ (∀ epochId, (EpochBooks.run d start ks).paidIn epochId
            = ((d.run start ks).pool.fundingOf epochId).goatFunded
          ∧ (EpochBooks.run d start ks).paidOut epochId
            = ((d.run start ks).pool.fundingOf epochId).goatClaimed
          ∧ (EpochBooks.run d start ks).paidOut epochId
              + ((d.run start ks).pool.fundingOf epochId).reserveHeld
            ≤ (EpochBooks.run d start ks).paidIn epochId)
      ∧ ∀ rate,
        Runs.Throughout (attempt d.act) (fun c => c.pool.referenceRateUsdtPerGoat = rate) start ks →
          ∀ epochId, ((d.run start ks).pool.fundingOf epochId).goatFunded * rate
            ≤ ((d.run start ks).pool.fundingOf epochId).usdtInflow * 10 ^ 18 := by
  have hs := ProxyChain.solvent_run hfresh ks
  obtain ⟨hchain, hagree⟩ := EpochBooks.run_agree hd hfresh ks hquiet
  refine ⟨ProxyChain.exact_run hd hfresh ks hquiet, hs.sound.covered, hs.sound.reserve_le,
    fun epochId => ?_, fun rate hrate epochId => ?_⟩
  · have hin := hagree.paidIn_eq epochId
    have hout := hagree.paidOut_eq epochId
    rw [hchain] at hin hout
    refine ⟨hin, hout, ?_⟩
    rw [hin, hout]
    exact hs.sound.covered epochId
  · exact (ProxyChain.rated_run hfresh ks hrate epochId).trans
      (Nat.mul_le_mul_right _ (hs.sound.backed_le epochId))

/-! ## What the totals say, and until when -/

namespace Accounts

/-- The reserve is all that the epochs put aside. -/
def Whole (a : Accounts) : Prop := a.reserveHeld = ∑ epochId, (a.fundingOf epochId).reserveHeld

variable {a : Accounts}

theorem Sound.sum_left (h : a.Sound) :
    ∑ epochId, left (a.fundingOf epochId) + a.totalClaimed
      + ∑ epochId, (a.fundingOf epochId).reserveHeld = a.totalFunded := by
  rw [← h.claimed_sum, ← h.funded_sum, ← Finset.sum_add_distrib, ← Finset.sum_add_distrib]
  refine Finset.sum_congr rfl fun epochId _ => ?_
  have hcovered := h.covered epochId
  unfold left
  omega

theorem Sound.held_eq_iff (h : a.Sound) : a.held = a.totalFunded - a.totalClaimed ↔ a.Whole := by
  have hsum := h.sum_left
  unfold held Whole
  generalize ∑ epochId, left (a.fundingOf epochId) = rest at hsum ⊢
  generalize ∑ epochId, (a.fundingOf epochId).reserveHeld = reserves at hsum ⊢
  omega

end Accounts

/-- The Safe releases some of the reserve, and there is that much of it. -/
def ProxySite.Releases (d : ProxySite) (c : ProxyChain) (k : ProxyCall) : Prop :=
  ∃ amount : Uint256, k = .pool d.config.safe (.releaseReserve d.config.reserveSink amount)
    ∧ amount.val ≠ 0 ∧ amount.val ≤ c.pool.reserveHeld

theorem Booking.whole_iff {d : ProxySite} {rate : Nat} {a a' : Accounts} {t t' : Erc20}
    {sender : Address} {call : PoolCall} (h : Booking d rate a t sender call a' t') (hs : a.Sound) :
    a'.Whole ↔ a.Whole ∧ ∀ dst amount, call ≠ .releaseReserve dst amount := by
  have hspend : ∀ {epochId : Uint256} {sent kept : Nat},
      (a.spend epochId sent kept).Whole ↔ a.Whole := by
    intro epochId sent kept
    have hsum : ∑ i, ((a.spend epochId sent kept).fundingOf i).reserveHeld
        = ∑ i, (a.fundingOf i).reserveHeld + kept :=
      Accounts.sum_setFunding_add Funding.reserveHeld (by rfl)
    unfold Accounts.Whole
    rw [hsum]
    exact Nat.add_right_cancel_iff
  cases h with
  | still hcall =>
      refine ⟨fun h => ⟨h, fun dst amount heq => ?_⟩, fun h => h.1⟩
      rw [heq] at hcall
      cases hcall
  | @inflow epochId amount =>
      have hsum := Accounts.sum_setFunding_same Funding.reserveHeld
        (show Funding.reserveHeld { a.fundingOf epochId with
          usdtInflow := (a.fundingOf epochId).usdtInflow + amount.val }
            = (a.fundingOf epochId).reserveHeld from rfl)
      refine ⟨fun h => ⟨h.trans hsum, nofun⟩, fun h => h.1.trans hsum.symm⟩
  | @fund epochId amount backed t' _ _ _ _ _ =>
      have hsum := Accounts.sum_setFunding_same Funding.reserveHeld
        (show Funding.reserveHeld { a.fundingOf epochId with
          usdtBacked := (a.fundingOf epochId).usdtBacked + backed.val
          goatFunded := (a.fundingOf epochId).goatFunded + amount.val }
            = (a.fundingOf epochId).reserveHeld from rfl)
      refine ⟨fun h => ⟨h.trans hsum, nofun⟩, fun h => h.1.trans hsum.symm⟩
  | take _ _ _ => exact ⟨fun h => ⟨hspend.mp h, nofun⟩, fun h => hspend.mpr h.1⟩
  | claim _ _ => exact ⟨fun h => ⟨hspend.mp h, nofun⟩, fun h => hspend.mpr h.1⟩
  | sweep _ _ => exact ⟨fun h => ⟨hspend.mp h, nofun⟩, fun h => hspend.mpr h.1⟩
  | @release amount t' _ hne hle _ =>
      constructor
      · intro hwhole
        -- the counter is below the reserves of the epochs for good
        have hbelow : a.reserveHeld - amount.val < a.reserveHeld := by omega
        exact absurd hwhole (Nat.ne_of_lt (Nat.lt_of_lt_of_le hbelow hs.reserve_le))
      · intro h
        exact absurd rfl (h.2 _ _)

namespace ProxyChain

variable {d : ProxySite} {c c' : ProxyChain} {k : ProxyCall}

theorem Fresh.roles (h : c.Fresh d) : d.config.safe ≠ 0 ∧ d.config.treasury ≠ 0
    ∧ d.config.attestorSafe ≠ 0 ∧ d.config.reserveSink ≠ 0 ∧ d.config.funder ≠ 0
    ∧ d.config.resolver ≠ 0 := by
  obtain ⟨_, hroles, -⟩ := bind_ok.mp h.pool_new
  have hroles := require_ok.mp hroles
  simp only [not_or] at hroles
  obtain ⟨hsafe, -, -, htreasury, hattestor, hsink, hfunder, -, -, -, hresolver, -⟩ := hroles
  exact ⟨hsafe, htreasury, hattestor, hsink, hfunder, hresolver⟩

theorem release_acts (hd : d.Apart) (hsafe : d.config.safe ≠ 0) (hsink : d.config.reserveSink ≠ 0)
    (hs : c.Solvent d) (hk : d.Releases c k) : ∃ c', d.act c k = .ok c' := by
  obtain ⟨amount, rfl, hne, hle⟩ := hk
  have hbalance : amount.val ≤ c.goat.balances d.self := by
    have hheld : c.pool.reserveHeld ≤ c.pool.accounts.held := Nat.le_add_left _ _
    exact hle.trans (hheld.trans hs.covered)
  have haccount : d.IsAccount d.config.safe := ⟨hsafe, hd.safe_ne⟩
  have hamount : ¬ (amount.val = 0 ∨ c.pool.reserveHeld < amount.val) :=
    fun h => h.elim hne (Nat.not_lt.mpr hle)
  have hrelease : c.pool.releaseReserve d.self d.config c.goat d.config.safe d.config.reserveSink
      amount.val = .ok ({ c.pool with reserveHeld := c.pool.reserveHeld - amount.val },
        c.goat.move d.self d.config.reserveSink amount.val hbalance) := by
    rw [releaseReserve, require_of rfl, require_of rfl, require_of hamount,
      Erc20.transfer_of_le hd.self_ne_zero hsink hbalance]
    rfl
  exact ⟨_, ProxySite.act_pool haccount (bind_ok.mpr ⟨_, hrelease, rfl⟩)⟩

theorem whole_step (hs : c.Solvent d) (hok : d.act c k = .ok c') :
    c'.pool.accounts.Whole ↔ c.pool.accounts.Whole ∧ ¬ d.Releases c k := by
  have hother : (∀ sender call, k ≠ .pool sender call) → c'.pool = c.pool →
      (c'.pool.accounts.Whole ↔ c.pool.accounts.Whole ∧ ¬ d.Releases c k) := by
    intro hk hpool
    rw [hpool]
    refine ⟨fun h => ⟨h, ?_⟩, fun h => h.1⟩
    rintro ⟨amount, heq, -⟩
    exact hk _ _ heq
  cases k with
  | advance now =>
      obtain ⟨-, -, hok⟩ := bind_ok.mp hok
      cases hok
      exact hother nofun rfl
  | enrol enrolled =>
      cases hok
      exact hother nofun rfl
  | goat sender call =>
      obtain ⟨-, -, t, -, hok⟩ := bind_ok₂.mp hok
      cases hok
      exact hother nofun rfl
  | pool sender call =>
      obtain ⟨-, -, hok⟩ := bind_ok.mp hok
      have hbook := ProxySite.poolCall_booking hok
      rw [hbook.whole_iff hs.sound]
      refine and_congr_right fun _ => ?_
      constructor
      · rintro hcall ⟨amount, heq, -⟩
        cases heq
        exact hcall _ _ rfl
      · intro hnot dst amount hcall
        -- a release that succeeded was one of the Safe, within the reserve
        rw [hcall] at hbook
        generalize c'.pool.accounts = a' at hbook
        generalize c'.goat = t' at hbook
        cases hbook with
        | still hbooks => cases hbooks
        | release hsafe hne hle _ =>
            rw [hsafe, hcall] at hnot
            exact hnot ⟨amount, rfl, hne, hle⟩

theorem whole_run (hd : d.Apart) (hfresh : c.Fresh d) (ks : List ProxyCall) :
    (d.run c ks).pool.accounts.Whole
      ↔ Runs.Guarded (attempt d.act) (fun c k => ¬ d.Releases c k) c ks := by
  induction ks using List.reverseRecOn with
  | nil =>
      refine ⟨fun _ => Runs.guarded_nil, fun _ => ?_⟩
      obtain ⟨hfunding, -, -, hreserve⟩ := hfresh.counters
      refine hreserve.trans (Finset.sum_eq_zero fun epochId _ => ?_).symm
      exact congrArg Funding.reserveHeld (hfunding epochId)
  | append_singleton ks k ih =>
      have hs := solvent_run hfresh ks
      have hrun : d.run c (ks ++ [k]) = attempt d.act (d.run c ks) k := Runs.foldl_snoc ks k c
      rw [Runs.guarded_snoc, ← ih, hrun]
      rcases attempt_cases d.act (d.run c ks) k with ⟨hsame, e, herror⟩ | hok
      · -- a release does not revert
        rw [hsame]
        refine ⟨fun h => ⟨h, fun hrelease => ?_⟩, fun h => h.1⟩
        obtain ⟨hsafe, -, -, hsink, -, -⟩ := hfresh.roles
        obtain ⟨c', hok⟩ := release_acts hd hsafe hsink hs hrelease
        have hclash := hok.symm.trans herror
        cases hclash
      · exact whole_step hs hok

end ProxyChain

/-- **The balance is what the totals say exactly as long as no reserve was released.** -/
theorem pool_law_iff (d : ProxySite) (hd : d.Apart) {start : ProxyChain} (hfresh : start.Fresh d)
    (ks : List ProxyCall) (hquiet : ∀ k ∈ ks, d.Quiet k) :
    (d.run start ks).goat.balances d.self
        = (d.run start ks).pool.totalFunded - (d.run start ks).pool.totalClaimed
      ↔ Runs.Guarded (attempt d.act) (fun c k => ¬ d.Releases c k) start ks := by
  have hs := ProxyChain.solvent_run hfresh ks
  rw [ProxyChain.exact_run hd hfresh ks hquiet, ← ProxyChain.whole_run hd hfresh ks]
  exact hs.sound.held_eq_iff

/-! ### A batch whose reserve is released -/

def sampleSite : ProxySite where
  self := 20
  config :=
    { safe := 1, goat := 2, registry := 3, treasury := 4, attestorSafe := 5, reserveSink := 6
      funder := 7, publisher := 8, gateway := 9, usdtTreasury := 10, resolver := 11, watcher := 12
      challengeWindow := 0, claimWindow := 0, resolveWindow := 0, proposerBond := 0
      challengerBond := 0, referenceRateUsdtPerGoat := 5 }

def samplePool : ProxyRevenueSettlement where
  isFunder := update (fun _ => false) 7 true
  challengeWindow := 0
  claimWindow := 0
  resolveWindow := 0
  proposerBond := 0
  challengerBond := 0
  referenceRateUsdtPerGoat := 5
  totalFunded := 0
  totalClaimed := 0
  reserveHeld := 0
  fundingOf _ := .empty
  batchOf _ := .empty
  claimed _ _ := false
  bondCredit _ := 0

def sampleProxy : ProxyChain := ⟨0, fun _ => true, .new, samplePool, 0⟩

def sampleFunded : List ProxyCall :=
  [.goat 7 (.issue 7 100),
   .goat 7 (.approve 20 100),
   .pool 9 (.recordUsdtInflow 8000000000000 1),
   .pool 7 (.fundEpoch 8000000000000 100 1),
   .pool 8 (.proposeBatch 0 8000000000000 0 0 100),
   .advance 1,
   .pool 8 (.finalizeBatch 8000000000000)]

theorem sampleProxy_fresh : sampleProxy.Fresh sampleSite :=
  ⟨rfl, fun _ => rfl, rfl, by decide⟩

theorem sampleSite_apart : sampleSite.Apart :=
  ⟨by decide, by decide, by decide, by decide, by decide⟩

theorem sampleFunded_quiet : ∀ k ∈ sampleFunded, sampleSite.Quiet k := by
  intro k hk
  simp only [sampleFunded, List.mem_cons, List.not_mem_nil, or_false] at hk
  rcases hk with rfl | rfl | rfl | rfl | rfl | rfl | rfl
  · show (if (20 : Address) = 7 then (100 : Uint256).val else 0) = 0
    decide
  · rfl
  all_goals trivial

theorem proxy_pool_solvency_sample :
    (EpochBooks.run sampleSite sampleProxy sampleFunded).paidIn 8000000000000 = 100
      ∧ (EpochBooks.run sampleSite sampleProxy sampleFunded).paidOut 8000000000000 = 8
      ∧ (EpochBooks.run sampleSite sampleProxy sampleFunded).paidOut 8000000000000
          + ((sampleSite.run sampleProxy sampleFunded).pool.fundingOf 8000000000000).reserveHeld
        ≤ (EpochBooks.run sampleSite sampleProxy sampleFunded).paidIn 8000000000000 :=
  ⟨rfl, rfl, ((proxy_pool_solvency sampleSite sampleSite_apart sampleProxy_fresh sampleFunded
    sampleFunded_quiet).2.2.2.1 8000000000000).2.2⟩

/-- As long as nothing is released, the balance is what the totals say. -/
theorem pool_law_iff_sample :
    (sampleSite.run sampleProxy sampleFunded).goat.balances sampleSite.self
        = (sampleSite.run sampleProxy sampleFunded).pool.totalFunded
          - (sampleSite.run sampleProxy sampleFunded).pool.totalClaimed := by
  refine (pool_law_iff sampleSite sampleSite_apart sampleProxy_fresh _ sampleFunded_quiet).mpr ?_
  intro before k hk hrelease
  obtain ⟨amount, rfl, -⟩ := hrelease
  have hmem := hk.subset (List.mem_append_right _ (List.mem_singleton_self _))
  simp [sampleFunded] at hmem

/-- The reserve of two is released: the totals still count it. -/
theorem released_reserve_counted : sampleProxy.Fresh sampleSite
    ∧ (∀ k ∈ sampleFunded ++ [.pool 1 (.releaseReserve 6 2)], sampleSite.Quiet k)
    ∧ (sampleSite.run sampleProxy (sampleFunded ++ [.pool 1 (.releaseReserve 6 2)])).goat.balances
      20 = 90
    ∧ (sampleSite.run sampleProxy
      (sampleFunded ++ [.pool 1 (.releaseReserve 6 2)])).pool.totalFunded
        - (sampleSite.run sampleProxy
          (sampleFunded ++ [.pool 1 (.releaseReserve 6 2)])).pool.totalClaimed
      = 92 := by
  refine ⟨sampleProxy_fresh, fun k hk => ?_, rfl, rfl⟩
  rcases List.mem_append.mp hk with hk | hk
  · exact sampleFunded_quiet k hk
  · rw [List.mem_singleton.mp hk]
    trivial

end GoatCoin
