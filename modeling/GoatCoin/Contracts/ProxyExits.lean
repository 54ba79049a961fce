/-
# `GoatCoin.Contracts.ProxyExits` — which funding can leave the pool

An epoch is emptied by a sweep, and only an epoch with a final batch is swept.  What
the parties can do until then depends on the status of the batch:

    none              propose a batch of one coin, finalize it, sweep
    challengerWon     reset it, and on as above
    challenged        decide for the challenger, and on as above
    proposed          challenge it while the window is open, and on as above
    finalized         wait for the end of the claim window, sweep

What is left are the batches that nobody can challenge any more (`Sealed`).  They can
only become final, as they are: if their gross exceeds what the epoch is ever funded
with, or their amounts or deadlines do not fit in a word, the funding stays.
-/
import GoatCoin.Contracts.ProxyBonds
import GoatCoin.Contracts.ProxyClaims

namespace GoatCoin

open Evm ProxyRevenueSettlement

/-- Nothing that the epoch was funded with is left. -/
def ProxyChain.Emptied (c : ProxyChain) (epochId : Uint256) : Prop :=
  (c.pool.fundingOf epochId).goatFunded
    = (c.pool.fundingOf epochId).goatClaimed + (c.pool.fundingOf epochId).reserveHeld

namespace ProxyRevenueSettlement.Batch

/-- The batch can be challenged no more, and has not been decided against. -/
def Sealed (b : Batch) (now : Nat) : Prop :=
  b.status = .proposerWon
    ∨ b.status = .proposed ∧ (2 ^ 64 ≤ b.challengeEnd ∨ b.challengeEnd < now)

/-- The sums of `finalizeBatch` stay within their words. -/
def Fits (b : Batch) : Prop :=
  b.grossGoatWei * takeBps < 2 ^ 256 ∧ (b.status = .proposed → b.challengeEnd < 2 ^ 64)

variable {b : Batch} {now now' : Nat}

theorem Sealed.later (h : b.Sealed now) (hle : now ≤ now') : b.Sealed now' := by
  rcases h with hwon | ⟨hs, hend | hend⟩
  · exact .inl hwon
  · exact .inr ⟨hs, .inl hend⟩
  · exact .inr ⟨hs, .inr (hend.trans_le hle)⟩

theorem Sealed.unfinal (h : b.Sealed now) : b.status ≠ .finalized := by
  intro hfinal
  rcases h with hwon | ⟨hs, -⟩
  · cases hwon.symm.trans hfinal
  · cases hs.symm.trans hfinal

end ProxyRevenueSettlement.Batch

namespace ProxySite

variable (d : ProxySite)

/-- The Safe, the publisher, the resolver, the watcher and the funders. -/
def IsParty (c : ProxyChain) (a : Address) : Prop :=
  a = d.config.safe ∨ a = d.config.publisher ∨ a = d.config.resolver ∨ a = d.config.watcher
    ∨ c.pool.isFunder a = true

/-- The calls of the parties, and time passing; none of them creates coins. -/
def ByParty (c : ProxyChain) : ProxyCall → Prop
  | .advance _ => True
  | .enrol _ => False
  | .goat sender call => d.IsParty c sender ∧ ∀ dst amount, call ≠ .issue dst amount
  | .pool sender _ => d.IsParty c sender

/-- The parties can empty the epoch. -/
def Escapes (c : ProxyChain) (epochId : Uint256) : Prop :=
  ∃ ks, Runs.Guarded (attempt d.act) d.ByParty c ks ∧ (d.run c ks).Emptied epochId

/-- The parties can bring the funding of the epoch up to the gross of its batch, out of what they
hold (`fundable_of_balance`) or of what other epochs still pay them. -/
def Fundable (c : ProxyChain) (epochId : Uint256) : Prop :=
  ∃ ks, Runs.Guarded (attempt d.act) d.ByParty c ks
    ∧ (c.pool.batchOf epochId).grossGoatWei ≤ ((d.run c ks).pool.fundingOf epochId).goatFunded

end ProxySite

/-! ## A sealed batch can only become final -/

theorem EpochStep.sealed {c : ProxyChain} {epochId : Uint256} {v v' : EpochView} {k : ProxyCall}
    (h : EpochStep c epochId v k v') (hs : v.batch.Sealed c.now.val) :
    v'.batch = v.batch
      ∨ v.batch.grossGoatWei ≤ v.funding.goatFunded ∧ v.batch.Fits
      ∧ v'.batch.status = .finalized := by
  have hnot : ∀ {status : Status}, v.batch.status = status → status ≠ .proposerWon →
      status ≠ .proposed → False := by
    intro status hstatus hwon hproposed
    rcases hs with h | ⟨h, -⟩
    · exact hwon (hstatus.symm.trans h)
    · exact hproposed (hstatus.symm.trans h)
  cases h with
  | same _ => exact .inl rfl
  | inflow => exact .inl rfl
  | fund => exact .inl rfl
  | propose hstatus => exact (hnot hstatus nofun nofun).elim
  | challenge hstatus hfits hopen =>
      -- the window is closed, or never ends in 64 bits
      rcases hs with hwon | ⟨-, hend | hend⟩
      · cases hwon.symm.trans hstatus
      · exact absurd hfits (Nat.not_lt.mpr hend)
      · exact absurd hopen (Nat.not_le.mpr hend)
  | resolve _ hstatus => exact (hnot hstatus nofun nofun).elim
  | timeout hstatus _ => exact (hnot hstatus nofun nofun).elim
  | reset hstatus => exact (hnot hstatus nofun nofun).elim
  | finalize hripe hfunded hx =>
      refine .inr ⟨hfunded, ⟨(takeOf_ok hx).1, fun hproposed => ?_⟩, rfl⟩
      cases hripe with
      | unchallenged _ hlt _ => exact hlt
      | proposerWon hwon => cases hwon.symm.trans hproposed
  | claim hstatus _ _ _ => exact (hnot hstatus nofun nofun).elim
  | sweep hstatus _ => exact (hnot hstatus nofun nofun).elim

theorem EpochStep.funded_le {c : ProxyChain} {epochId : Uint256} {v v' : EpochView} {k : ProxyCall}
    (h : EpochStep c epochId v k v') : v.funding.goatFunded ≤ v'.funding.goatFunded := by
  cases h with
  | fund => exact Nat.le_add_right _ _
  | same _ => exact le_rfl
  | inflow => exact le_rfl
  | propose _ => exact le_rfl
  | challenge _ _ _ => exact le_rfl
  | resolve _ _ => exact le_rfl
  | timeout _ _ => exact le_rfl
  | reset _ => exact le_rfl
  | finalize _ _ _ => exact le_rfl
  | claim _ _ _ _ => exact le_rfl
  | sweep _ _ => exact le_rfl

namespace ProxyChain

variable {d : ProxySite} {c c' : ProxyChain} {epochId : Uint256}

theorem funded_run (epochId : Uint256) (ks : List ProxyCall) : c.now ≤ (d.run c ks).now
    ∧ (c.pool.fundingOf epochId).goatFunded ≤ ((d.run c ks).pool.fundingOf epochId).goatFunded := by
  refine Runs.invariant (I := fun s : ProxyChain => c.now ≤ s.now
    ∧ (c.pool.fundingOf epochId).goatFunded ≤ (s.pool.fundingOf epochId).goatFunded)
    (fun s k hs => ?_) ks c ⟨le_rfl, le_rfl⟩
  rcases attempt_cases d.act s k with ⟨hsame, -⟩ | hok
  · rw [hsame]
    exact hs
  · obtain ⟨hstep, hlater⟩ := ProxySite.act_epoch hok epochId
    exact ⟨hs.1.trans hlater, hs.2.trans hstep.funded_le⟩

/-- Along every run a sealed batch stays as it is, until it is covered by the funding and becomes
final. -/
theorem sealed_run (hs : (c.pool.batchOf epochId).Sealed c.now.val) (ks : List ProxyCall) :
    (d.run c ks).pool.batchOf epochId = c.pool.batchOf epochId
      ∨ ((d.run c ks).pool.batchOf epochId).status = .finalized
        ∧ (c.pool.batchOf epochId).Fits ∧ ∃ before, before <+: ks
          ∧ (c.pool.batchOf epochId).grossGoatWei
            ≤ ((d.run c before).pool.fundingOf epochId).goatFunded := by
  induction ks using List.reverseRecOn with
  | nil => exact .inl rfl
  | append_singleton ks k ih =>
      have hrun : d.run c (ks ++ [k]) = attempt d.act (d.run c ks) k := Runs.foldl_snoc ks k c
      rw [hrun]
      rcases attempt_cases d.act (d.run c ks) k with ⟨hsame, -⟩ | hok
      · rw [hsame]
        refine ih.imp_right ?_
        rintro ⟨hfinal, hfits, before, hpre, hcovered⟩
        exact ⟨hfinal, hfits, before, hpre.trans (List.prefix_append _ _), hcovered⟩
      · have hstep := (ProxySite.act_epoch hok epochId).1
        rcases ih with hbatch | ⟨hfinal, hfits, before, hpre, hcovered⟩
        · have hview : ((d.run c ks).view epochId).batch = c.pool.batchOf epochId := hbatch
          have hstill : ((d.run c ks).view epochId).batch.Sealed (d.run c ks).now.val := by
            rw [hview]
            exact hs.later (funded_run epochId ks).1
          rcases hstep.sealed hstill with hkept | ⟨hcovered, hfits, hfinal⟩
          · exact .inl (hkept.trans hbatch)
          · rw [hview] at hcovered hfits
            exact .inr ⟨hfinal, hfits, ks, List.prefix_append _ _, hcovered⟩
        · have hstatus := congrArg Batch.status (hstep.final hfinal)
          exact .inr ⟨hstatus.trans hfinal, hfits, before, hpre.trans (List.prefix_append _ _),
            hcovered⟩

end ProxyChain

/-! ## What holds in every state -/

/-- What the exits rest on: the pool is solvent, its epochs are in order, and its ether covers the
bonds. -/
structure ProxyChain.Orderly (d : ProxySite) (c : ProxyChain) : Prop where
  solvent : c.Solvent d
  epochs : ∀ epochId, (c.view epochId).Sound c.now.val
  tidy : c.docket.Tidy
  ether_lt : c.ether < 2 ^ 256
  owed_le : c.docket.owed ≤ c.ether

namespace ProxyChain

variable {d : ProxySite} {c c' : ProxyChain} {epochId : Uint256} {k : ProxyCall}

theorem orderly_run {start : ProxyChain} (hfresh : start.Fresh d) (ks : List ProxyCall) :
    (d.run start ks).Orderly d := by
  have hbonds := BondLedger.sound_run hfresh ks
  have hether := hbonds.ether_eq
  have htidy := hbonds.tidy
  have hlt := hbonds.ether_lt
  rw [BondLedger.run_chain] at hether htidy hlt
  refine ⟨solvent_run hfresh ks, view_sound_run hfresh ks, htidy, hlt, ?_⟩
  rw [hether]
  exact Nat.le_add_left _ _

theorem Orderly.step (hsink : d.config.reserveSink ≠ 0) (h : c.Orderly d)
    (hok : d.act c k = .ok c') : c'.Orderly d := by
  have hepochs : ∀ epochId, (c'.view epochId).Sound c'.now.val := by
    intro epochId
    obtain ⟨hstep, hnow⟩ := ProxySite.act_epoch hok epochId
    exact ((h.epochs epochId).step hstep).later hnow
  have hsolvent := solvent_step h.solvent hok
  have hsame : c'.docket = c.docket → c'.Orderly d := by
    intro hdocket
    refine ⟨hsolvent, hepochs, hdocket ▸ h.tidy, ?_, ?_⟩
    · exact (congrArg Docket.ether hdocket).trans_lt h.ether_lt
    · rw [hdocket]
      exact h.owed_le.trans (congrArg Docket.ether hdocket).ge
  cases k with
  | advance now =>
      obtain ⟨-, -, hok⟩ := bind_ok.mp hok
      cases hok
      exact hsame rfl
  | enrol enrolled =>
      cases hok
      exact hsame rfl
  | goat sender call =>
      obtain ⟨-, -, t, -, hok⟩ := bind_ok₂.mp hok
      cases hok
      exact hsame rfl
  | pool sender call =>
      obtain ⟨_, hsender, hok⟩ := bind_ok.mp hok
      have hfiling := ProxySite.poolCall_filing hok
      refine ⟨hsolvent, hepochs, hfiling.tidy h.tidy (require_ok.mp hsender).1 hsink,
        hfiling.ether_lt h.ether_lt, ?_⟩
      have hturn := hfiling.ether_eq h.tidy
      have howed := h.owed_le
      have hether : c'.docket.ether = c'.ether := rfl
      generalize c.docket.owed = owed at hturn howed
      generalize c'.docket.owed = owed' at hturn ⊢
      omega

theorem Orderly.credit_lt (h : c.Orderly d) (who : Address) (epochId : Uint256) :
    c.pool.bondCredit who + (c.pool.batchOf epochId).stake < 2 ^ 256 := by
  have hcredit := le_sum c.pool.bondCredit who
  have hstake := le_sum (fun epochId => (c.pool.batchOf epochId).stake) epochId
  have howed : ∑ who, c.pool.bondCredit who + ∑ epochId, (c.pool.batchOf epochId).stake ≤ c.ether :=
    h.owed_le
  have hlt := h.ether_lt
  generalize ∑ who, c.pool.bondCredit who = credits at hcredit howed
  generalize ∑ epochId, (c.pool.batchOf epochId).stake = stakes at hstake howed
  omega

end ProxyChain

/-! ## What the parties can do -/

/-- The last moment there is. -/
def lastMoment : Uint256 := ⟨2 ^ 256 - 1, by decide⟩

namespace ProxySite

variable {d : ProxySite} {c c' : ProxyChain} {epochId : Uint256} {k : ProxyCall}

/-- The roles that the exits use are not the pool's own. -/
structure Manned (d : ProxySite) : Prop where
  self_ne_zero : d.self ≠ 0
  safe_account : d.IsAccount d.config.safe
  resolver_account : d.IsAccount d.config.resolver
  treasury_ne_zero : d.config.treasury ≠ 0
  attestorSafe_ne_zero : d.config.attestorSafe ≠ 0
  reserveSink_ne_zero : d.config.reserveSink ≠ 0
  funder_ne_zero : d.config.funder ≠ 0

theorem byParty_safe {call : PoolCall} : d.ByParty c (.pool d.config.safe call) := .inl rfl

theorem byParty_resolver {call : PoolCall} : d.ByParty c (.pool d.config.resolver call) :=
  .inr (.inr (.inl rfl))

theorem Escapes.now (h : c.Emptied epochId) : d.Escapes c epochId := ⟨[], Runs.guarded_nil, h⟩

theorem Escapes.after (hk : d.ByParty c k) (hok : d.act c k = .ok c') (h : d.Escapes c' epochId) :
    d.Escapes c epochId := by
  obtain ⟨ks, hks, hempty⟩ := h
  have hnext : attempt d.act c k = c' := attempt_of_ok hok
  refine ⟨k :: ks, Runs.guarded_cons hk (hnext.symm ▸ hks), ?_⟩
  show (ks.foldl (attempt d.act) (attempt d.act c k)).Emptied epochId
  rw [hnext]
  exact hempty

theorem Escapes.afterAll {ks : List ProxyCall} (hks : Runs.Guarded (attempt d.act) d.ByParty c ks)
    (h : d.Escapes (d.run c ks) epochId) : d.Escapes c epochId := by
  obtain ⟨ls, hls, hempty⟩ := h
  refine ⟨ks ++ ls, Runs.guarded_append hks hls, ?_⟩
  unfold run at hempty ⊢
  rw [List.foldl_append]
  exact hempty

theorem act_advance (c : ProxyChain) :
    d.act c (.advance lastMoment) = .ok { c with now := lastMoment } := by
  have hlast : c.now ≤ lastMoment := by
    have hlt := c.now.isLt
    rw [Fin.le_def]
    show c.now.val ≤ 2 ^ 256 - 1
    omega
  exact bind_ok.mpr ⟨_, require_of hlast, rfl⟩

theorem act_setFunder (hd : d.Manned) (c : ProxyChain) {a : Address} (ha : a ≠ 0) :
    d.act c (.pool d.config.safe (.setFunder a))
      = .ok { c with pool := { c.pool with isFunder := Function.update c.pool.isFunder a true } } :=
  act_pool hd.safe_account
    (bind_ok.mpr ⟨_, bind_ok₂.mpr ⟨_, require_of rfl, _, require_of ha, rfl⟩, rfl⟩)

theorem act_setWindows (hd : d.Manned) (c : ProxyChain) :
    d.act c (.pool d.config.safe (.setWindows 0 0 0))
      = .ok { c with
              pool := { c.pool with
                        challengeWindow := 0, claimWindow := 0, resolveWindow := 0 } } :=
  act_pool hd.safe_account (bind_ok.mpr ⟨_, bind_ok.mpr ⟨_, require_of rfl, rfl⟩, rfl⟩)

theorem act_setBonds (hd : d.Manned) (c : ProxyChain) :
    d.act c (.pool d.config.safe (.setBonds 0 0))
      = .ok { c with pool := { c.pool with proposerBond := 0, challengerBond := 0 } } :=
  act_pool hd.safe_account (bind_ok.mpr ⟨_, bind_ok.mpr ⟨_, require_of rfl, rfl⟩, rfl⟩)

theorem act_setReferenceRate (hd : d.Manned) (c : ProxyChain) :
    d.act c (.pool d.config.safe (.setReferenceRate 0))
      = .ok { c with pool := { c.pool with referenceRateUsdtPerGoat := 0 } } :=
  act_pool hd.safe_account (bind_ok.mpr ⟨_, bind_ok.mpr ⟨_, require_of rfl, rfl⟩, rfl⟩)

theorem fundEpoch_of_le {p : ProxyRevenueSettlement} {t : Erc20} {self a : Address} {amount : Nat}
    (hself : self ≠ 0) (ha : a ≠ 0) (hepoch : IsProxyEpoch epochId) (hfunder : p.isFunder a = true)
    (hrate : p.referenceRateUsdtPerGoat = 0) (hsome : amount ≠ 0)
    (hbacked : (p.fundingOf epochId).usdtBacked < 2 ^ 256)
    (hinflow : (p.fundingOf epochId).usdtBacked ≤ (p.fundingOf epochId).usdtInflow)
    (hfunded : (p.fundingOf epochId).goatFunded ≤ p.totalFunded)
    (hroom : p.totalFunded + amount < 2 ^ 256) (hallowed : amount ≤ t.allowances a self)
    (hheld : amount ≤ t.balances a) :
    ∃ p' t', p.fundEpoch self t a epochId amount 0 = .ok (p', t') ∧ p'.batchOf = p.batchOf
      ∧ (p'.fundingOf epochId).goatFunded = (p.fundingOf epochId).goatFunded + amount := by
  obtain ⟨spent, hspent, hbalances, -⟩ := Erc20.spendAllowance_of_le ha hself hallowed
  rw [← hbalances] at hheld
  have hpaid : t.transferFrom self a self amount = .ok _ :=
    bind_ok.mpr ⟨spent, hspent, Erc20.transfer_of_le ha hself hheld⟩
  have hasked : amount * p.referenceRateUsdtPerGoat = 0 := by rw [hrate, Nat.mul_zero]
  refine ⟨_, _, bind_ok₄.mpr ⟨_, require_of hepoch, _, require_of hfunder, _, require_of hsome, _,
    checked_ok.mpr ⟨hbacked, rfl⟩, bind_ok₄.mpr ⟨_, require_of hinflow, _,
    checked_ok.mpr ⟨hasked.trans_lt (by decide), rfl⟩, _, checked_ok.mpr ⟨by decide, rfl⟩, _,
    require_of (hasked.trans_le (Nat.zero_le _)),
    bind_ok₃.mpr ⟨_, checked_ok.mpr ⟨by omega, rfl⟩, _,
    checked_ok.mpr ⟨hroom, rfl⟩, _, hpaid, rfl⟩⟩⟩, rfl, ?_⟩
  show (Function.update p.fundingOf epochId _ epochId).goatFunded = _
  rw [Function.update_self]

theorem Fundable.now
    (h : (c.pool.batchOf epochId).grossGoatWei ≤ (c.pool.fundingOf epochId).goatFunded) :
    d.Fundable c epochId := ⟨[], Runs.guarded_nil, h⟩

theorem Fundable.after (hk : d.ByParty c k) (hok : d.act c k = .ok c')
    (hgross : (c'.pool.batchOf epochId).grossGoatWei = (c.pool.batchOf epochId).grossGoatWei)
    (h : d.Fundable c' epochId) : d.Fundable c epochId := by
  obtain ⟨ks, hks, hfunded⟩ := h
  have hnext : attempt d.act c k = c' := attempt_of_ok hok
  refine ⟨k :: ks, Runs.guarded_cons hk (hnext.symm ▸ hks), ?_⟩
  show _ ≤ ((ks.foldl (attempt d.act) (attempt d.act c k)).pool.fundingOf epochId).goatFunded
  rw [hnext, ← hgross]
  exact hfunded

/-- **An account that holds what is missing can bring it in**: the Safe makes it a funder and sets
no rate. -/
theorem fundable_of_balance (hd : d.Manned) (h : c.Orderly d) (hepoch : IsProxyEpoch epochId)
    {a : Address} (ha : d.IsAccount a) (hbacked : (c.pool.fundingOf epochId).usdtBacked < 2 ^ 256)
    (hroom : c.pool.totalFunded + c.goat.balances a < 2 ^ 256)
    (hgross : (c.pool.batchOf epochId).grossGoatWei
      ≤ (c.pool.fundingOf epochId).goatFunded + c.goat.balances a) : d.Fundable c epochId := by
  by_cases henough : (c.pool.batchOf epochId).grossGoatWei ≤ (c.pool.fundingOf epochId).goatFunded
  · exact .now henough
  have hfunded : (c.pool.fundingOf epochId).goatFunded ≤ c.pool.totalFunded := by
    have hsum := h.solvent.sound.funded_sum
    have hle := le_sum (fun epochId => (c.pool.fundingOf epochId).goatFunded) epochId
    exact hle.trans hsum.le
  have hword : (c.pool.batchOf epochId).grossGoatWei - (c.pool.fundingOf epochId).goatFunded
      < 2 ^ 256 := by omega
  obtain ⟨amount, hamount⟩ : ∃ amount : Uint256, amount.val
      = (c.pool.batchOf epochId).grossGoatWei - (c.pool.fundingOf epochId).goatFunded :=
    ⟨⟨_, hword⟩, rfl⟩
  refine .after byParty_safe (act_setReferenceRate hd c) rfl ?_
  refine .after byParty_safe (act_setFunder hd _ ha.1) rfl ?_
  have hparty : Function.update c.pool.isFunder a true a = true := Function.update_self ..
  obtain ⟨allowances, hallowances⟩ : ∃ allowances, Function.update c.goat.allowances a
      (Function.update (c.goat.allowances a) d.self amount.val) = allowances := ⟨_, rfl⟩
  have hallowed : amount.val ≤ allowances a d.self := by
    rw [← hallowances, Function.update_self, Function.update_self]
  have happroved := Erc20.approve_of_ne (t := c.goat) amount.val ha.1 hd.self_ne_zero
  rw [hallowances] at happroved
  refine .after (k := .goat a (.approve d.self amount))
    ⟨.inr (.inr (.inr (.inr hparty))), fun _ _ h => by cases h⟩
    (bind_ok₂.mpr ⟨(), require_of ha, _, happroved, rfl⟩) rfl ?_
  have hsome : amount.val ≠ 0 := by omega
  have hheld : amount.val ≤ c.goat.balances a := by omega
  have hroom : c.pool.totalFunded + amount.val < 2 ^ 256 := by omega
  obtain ⟨p, t, hfund, hbatch, hdone⟩ := fundEpoch_of_le (t := { c.goat with allowances })
    (p := { c.pool with
      referenceRateUsdtPerGoat := 0, isFunder := Function.update c.pool.isFunder a true })
    hd.self_ne_zero ha.1 hepoch hparty rfl hsome hbacked
      (h.solvent.sound.backed_le epochId) hfunded hroom
    hallowed hheld
  have hsame : (p.batchOf epochId).grossGoatWei = (c.pool.batchOf epochId).grossGoatWei := by
    rw [hbatch]
  refine .after (k := .pool a (.fundEpoch epochId amount 0)) (.inr (.inr (.inr (.inr hparty))))
    (act_pool ha (bind_ok.mpr ⟨_, hfund, rfl⟩)) hsame (.now ?_)
  show (p.batchOf epochId).grossGoatWei ≤ (p.fundingOf epochId).goatFunded
  rw [hdone, hsame, hamount]
  show _ ≤ (c.pool.fundingOf epochId).goatFunded + _
  omega

theorem sweep_empties (hd : d.Manned) (h : c.Orderly d)
    (hfinal : (c.pool.batchOf epochId).status = .finalized)
    (hclosed : (c.pool.batchOf epochId).claimEnd < c.now.val)
    (hfunder : c.pool.isFunder d.config.funder = true) (hrest : ¬ c.Emptied epochId) :
    ∃ c', d.act c (.pool d.config.safe (.sweepUnclaimed epochId d.config.funder)) = .ok c'
      ∧ c'.Emptied epochId := by
  have hcovered : (c.pool.fundingOf epochId).goatClaimed + (c.pool.fundingOf epochId).reserveHeld
      ≤ (c.pool.fundingOf epochId).goatFunded := h.solvent.sound.covered epochId
  have hrest : (c.pool.fundingOf epochId).goatFunded
      ≠ (c.pool.fundingOf epochId).goatClaimed + (c.pool.fundingOf epochId).reserveHeld := hrest
  have hepoch : IsProxyEpoch epochId := by
    refine h.solvent.sound.inSpace epochId fun hzero => hrest ?_
    have hzero : (c.pool.fundingOf epochId).goatFunded = 0 := hzero
    omega
  obtain ⟨amount, hamount⟩ : ∃ amount, (c.pool.fundingOf epochId).goatFunded
      - (c.pool.fundingOf epochId).goatClaimed - (c.pool.fundingOf epochId).reserveHeld = amount :=
    ⟨_, rfl⟩
  have hleft : (c.pool.fundingOf epochId).goatClaimed + amount
      + (c.pool.fundingOf epochId).reserveHeld ≤ (c.pool.fundingOf epochId).goatFunded := by omega
  have hbalance : amount ≤ c.goat.balances d.self :=
    (h.solvent.sound.within hleft).2.trans h.solvent.covered
  obtain ⟨p, hbook⟩ := ProxyChain.bookPayout_of_le h.solvent.sound hleft
  have hcall :
    c.pool.sweepUnclaimed d.self d.config c.goat c.now.val d.config.safe epochId d.config.funder
      = .ok (p, c.goat.move d.self d.config.funder amount hbalance) :=
    bind_ok₄.mpr ⟨_, require_of rfl, _, require_of hepoch, _, require_of hfunder, _,
      require_of hfinal,
      bind_ok₄.mpr ⟨_, require_of hclosed, _, checkedSub_ok.mpr ⟨by omega, rfl⟩, _,
        checkedSub_ok.mpr ⟨by omega,
      hamount⟩, _, require_of (by omega), bind_ok₂.mpr ⟨_, hbook, _,
      Erc20.transfer_of_le hd.self_ne_zero hd.funder_ne_zero hbalance, rfl⟩⟩⟩
  refine ⟨_, act_pool hd.safe_account (bind_ok.mpr ⟨_, hcall, rfl⟩), ?_⟩
  have hfunding : p.fundingOf epochId = { c.pool.fundingOf epochId with
      goatClaimed := (c.pool.fundingOf epochId).goatClaimed + amount
      reserveHeld := (c.pool.fundingOf epochId).reserveHeld + 0 } := by
    have haccounts := congrArg Accounts.fundingOf (bookPayout_ok hbook).1
    exact (congrFun haccounts epochId).trans (Accounts.setFunding_self _ _ _)
  show (p.fundingOf epochId).goatFunded
    = (p.fundingOf epochId).goatClaimed + (p.fundingOf epochId).reserveHeld
  rw [hfunding]
  show (c.pool.fundingOf epochId).goatFunded = (c.pool.fundingOf epochId).goatClaimed + amount
    + ((c.pool.fundingOf epochId).reserveHeld + 0)
  omega

theorem bookTake_of_le {p : ProxyRevenueSettlement} {x : Take} (hs : p.accounts.Sound)
    (hnone : (p.fundingOf epochId).goatClaimed = 0 ∧ (p.fundingOf epochId).reserveHeld = 0)
    (htake : x.toTreasury + x.toAttestor + x.toReserve ≤ (p.fundingOf epochId).goatFunded) :
    ∃ p', p.bookTake epochId x = .ok p' := by
  have hleft : (p.fundingOf epochId).goatClaimed + (x.toTreasury + x.toAttestor + x.toReserve)
      + (p.fundingOf epochId).reserveHeld ≤ (p.fundingOf epochId).goatFunded := by omega
  obtain ⟨hall, -⟩ := hs.within hleft
  have hall : p.totalClaimed + (x.toTreasury + x.toAttestor + x.toReserve) + p.reserveHeld
      ≤ p.totalFunded := hall
  have htotal : p.totalFunded < 2 ^ 256 := hs.funded_lt
  exact ⟨_, bind_ok₄.mpr ⟨_, checked_ok.mpr ⟨by omega, rfl⟩, _, checked_ok.mpr ⟨by omega, rfl⟩, _,
    checked_ok.mpr ⟨by omega, rfl⟩, _, checked_ok.mpr ⟨by omega, rfl⟩,
    bind_ok₃.mpr ⟨_, checked_ok.mpr ⟨by omega,
    rfl⟩, _, checked_ok.mpr ⟨by omega, rfl⟩, _, require_of (by omega),
    bind_ok₂.mpr ⟨_, checked_ok.mpr ⟨by omega, rfl⟩, _, require_of (by omega), rfl⟩⟩⟩⟩

theorem finalize_acts (hd : d.Manned) (h : c.Orderly d) (hepoch : IsProxyEpoch epochId)
    (hripe : (c.pool.batchOf epochId).Ripe c.now.val)
    (hfits : (c.pool.batchOf epochId).grossGoatWei * takeBps < 2 ^ 256)
    (hfunded : (c.pool.batchOf epochId).grossGoatWei ≤ (c.pool.fundingOf epochId).goatFunded) :
    ∃ c', d.act c (.pool d.config.safe (.finalizeBatch epochId)) = .ok c' := by
  obtain ⟨x, hx⟩ := takeOf_of_lt hfits
  obtain ⟨-, -, hsum⟩ := takeOf_ok hx
  have htake :
    x.toTreasury + x.toAttestor + x.toReserve ≤ (c.pool.fundingOf epochId).goatFunded := by
    rw [hsum]
    exact ((Nat.le_add_right _ _).trans (take_add_share_le _)).trans hfunded
  obtain ⟨hout, hreserve, -, -⟩ := (h.epochs epochId).untouched hripe.unfinal
  have hout : (c.pool.fundingOf epochId).goatClaimed = 0 := hout
  have hreserve : (c.pool.fundingOf epochId).reserveHeld = 0 := hreserve
  obtain ⟨p, hbook⟩ := bookTake_of_le h.solvent.sound ⟨hout, hreserve⟩ htake
  obtain ⟨-, -, -, hbond, -⟩ := bookTake_ok hbook
  have hcredit : p.bondCredit (c.pool.batchOf epochId).proposer
      + (c.pool.batchOf epochId).proposerBondPosted < 2 ^ 256 := by
    rw [hbond]
    have hlt := h.credit_lt (c.pool.batchOf epochId).proposer epochId
    exact Nat.lt_of_le_of_lt (Nat.add_le_add_left (Nat.le_add_right _ _) _) hlt
  have hbalance : x.toTreasury + x.toAttestor ≤ c.goat.balances d.self := by
    have hleft : (c.pool.fundingOf epochId).goatClaimed + (x.toTreasury + x.toAttestor)
        + (c.pool.fundingOf epochId).reserveHeld ≤ (c.pool.fundingOf epochId).goatFunded := by omega
    exact (h.solvent.sound.within hleft).2.trans h.solvent.covered
  have hfirst := Erc20.transfer_of_le hd.self_ne_zero hd.treasury_ne_zero
    ((Nat.le_add_right _ _).trans hbalance)
  have hsecond : x.toAttestor ≤ (c.goat.move d.self d.config.treasury x.toTreasury
      ((Nat.le_add_right _ _).trans hbalance)).balances d.self := by
    have hsrc := Erc20.transfer_src hfirst
    omega
  have hcall :
    c.pool.finalizeBatch d.self d.config c.goat c.now.val d.config.safe epochId = .ok _ :=
    bind_ok₄.mpr ⟨(), require_of (not_and_or.mpr (.inr (not_not.mpr rfl))), (),
      require_of hepoch, (),
      (checkFinal_ok.mpr hripe).choose_spec, (), require_of hfunded,
      bind_ok₃.mpr ⟨x, hx, p, hbook, _, creditBond_of_lt hcredit, bind_ok₂.mpr ⟨_, hfirst, _,
      Erc20.transfer_of_le hd.self_ne_zero hd.attestorSafe_ne_zero hsecond, rfl⟩⟩⟩
  exact ⟨_, act_pool hd.safe_account (bind_ok.mpr ⟨_, hcall, rfl⟩)⟩

theorem resolve_acts (hd : d.Manned) (h : c.Orderly d) (hepoch : IsProxyEpoch epochId)
    (hs : (c.pool.batchOf epochId).status = .challenged) :
    ∃ c', d.act c (.pool d.config.resolver (.resolveChallenge epochId false)) = .ok c' := by
  have hown : c.pool.bondCredit (c.pool.batchOf epochId).challenger
      + (c.pool.batchOf epochId).challengerBondPosted < 2 ^ 256 := by
    have hlt := h.credit_lt (c.pool.batchOf epochId).challenger epochId
    exact Nat.lt_of_le_of_lt (Nat.add_le_add_left (Nat.le_add_left _ _) _) hlt
  have hother : Function.update c.pool.bondCredit (c.pool.batchOf epochId).challenger
        (c.pool.bondCredit (c.pool.batchOf epochId).challenger
          + (c.pool.batchOf epochId).challengerBondPosted) d.config.reserveSink
      + (c.pool.batchOf epochId).proposerBondPosted < 2 ^ 256 := by
    have hlt := h.credit_lt d.config.reserveSink epochId
    have hstake : (c.pool.batchOf epochId).stake = (c.pool.batchOf epochId).proposerBondPosted
      + (c.pool.batchOf epochId).challengerBondPosted := rfl
    rcases eq_or_ne d.config.reserveSink (c.pool.batchOf epochId).challenger with heq | hne
    · rw [← heq, Function.update_self]
      omega
    · rw [Function.update_of_ne hne]
      omega
  have hcall : c.pool.resolveChallenge d.config d.config.resolver epochId false = .ok _ :=
    bind_ok₃.mpr ⟨(), require_of hepoch, (), require_of rfl, (), require_of hs, bind_ok₂.mpr ⟨_,
      creditBond_of_lt hown, _, creditBond_of_lt hother, rfl⟩⟩
  exact ⟨_, act_pool hd.resolver_account (bind_ok.mpr ⟨_, hcall, rfl⟩)⟩

theorem reset_acts (hd : d.Manned) (hepoch : IsProxyEpoch epochId)
    (hs : (c.pool.batchOf epochId).status = .challengerWon) :
    ∃ c', d.act c (.pool d.config.safe (.resetBatch epochId)) = .ok c' :=
  ⟨_, act_pool hd.safe_account
    (bind_ok.mpr ⟨_, bind_ok₃.mpr ⟨_, require_of rfl, _, require_of hepoch, _,
    require_of hs, rfl⟩, rfl⟩)⟩

theorem challenge_acts (hd : d.Manned) (h : c.Orderly d) (hepoch : IsProxyEpoch epochId)
    (hs : (c.pool.batchOf epochId).status = .proposed)
    (hfits : (c.pool.batchOf epochId).challengeEnd < 2 ^ 64)
    (hopen : c.now.val ≤ (c.pool.batchOf epochId).challengeEnd)
    (hbond : c.pool.challengerBond = 0) :
    ∃ c', d.act c (.pool d.config.safe (.challengeBatch 0 epochId)) = .ok c' :=
  ⟨_, act_pool hd.safe_account
    (bind_ok₂.mpr ⟨_, checked_ok.mpr ⟨h.ether_lt, rfl⟩, _, bind_ok₃.mpr ⟨_,
    require_of hepoch, _, require_of hs, _, checked_ok.mpr ⟨hfits, rfl⟩,
    bind_ok₂.mpr ⟨_, require_of hopen, _, require_of hbond.symm, rfl⟩⟩, rfl⟩)⟩

theorem propose_acts (hd : d.Manned) (h : c.Orderly d) (hepoch : IsProxyEpoch epochId)
    (hs : (c.pool.batchOf epochId).status = .none) (hbond : c.pool.proposerBond = 0) :
    ∃ c', d.act c (.pool d.config.safe (.proposeBatch 0 epochId 0 0 1)) = .ok c' :=
  ⟨_, act_pool hd.safe_account
    (bind_ok₂.mpr ⟨_, checked_ok.mpr ⟨h.ether_lt, rfl⟩, _, bind_ok₃.mpr ⟨_,
    require_of (not_and_or.mpr (.inr (not_not.mpr rfl))), _, require_of hepoch, _,
    require_of hbond.symm,
    bind_ok₂.mpr ⟨_, require_of Nat.one_ne_zero, _, require_of hs, rfl⟩⟩, rfl⟩)⟩

/-! ## The exits -/

theorem inSpace_of_funded (h : c.Orderly d) (hfunded : (c.pool.fundingOf epochId).goatFunded ≠ 0) :
    IsProxyEpoch epochId := h.solvent.sound.inSpace epochId hfunded

theorem view_of_ok (epochId : Uint256) (hok : d.act c k = .ok c') :
    ∃ v, c'.view epochId = v ∧ EpochStep c epochId (c.view epochId) k v :=
  ⟨_, rfl, (act_epoch hok epochId).1⟩

theorem finalized_escapes (hd : d.Manned) (h : c.Orderly d)
    (hfinal : (c.pool.batchOf epochId).status = .finalized) : d.Escapes c epochId := by
  by_cases hempty : c.Emptied epochId
  · exact .now hempty
  · refine .after (k := .advance lastMoment) trivial (act_advance c) ?_
    refine .after byParty_safe (act_setFunder hd _ hd.funder_ne_zero) ?_
    have horder := (h.step hd.reserveSink_ne_zero (act_advance c)).step hd.reserveSink_ne_zero
      (act_setFunder hd _ hd.funder_ne_zero)
    have hclosed : (c.pool.batchOf epochId).claimEnd < 2 ^ 256 - 1 := by
      have hproposed := (c.pool.batchOf epochId).proposedAt.isLt
      have hchallenge := (c.pool.batchOf epochId).challengeWindowSnap.isLt
      have hclaim := (c.pool.batchOf epochId).claimWindowSnap.isLt
      unfold Batch.claimEnd
      omega
    obtain ⟨c', hok, hdone⟩ :=
      sweep_empties hd horder hfinal hclosed (Function.update_self ..) hempty
    exact .after byParty_safe hok (.now hdone)

theorem ripe_escapes (hd : d.Manned) (h : c.Orderly d)
    (hripe : (c.pool.batchOf epochId).Ripe c.now.val)
    (hfits : (c.pool.batchOf epochId).grossGoatWei * takeBps < 2 ^ 256)
    (hgross : (c.pool.batchOf epochId).grossGoatWei ≤ (c.pool.fundingOf epochId).goatFunded)
    (hfunded : (c.pool.fundingOf epochId).goatFunded ≠ 0) : d.Escapes c epochId := by
  obtain ⟨c', hok⟩ := finalize_acts hd h (inSpace_of_funded h hfunded) hripe hfits hgross
  obtain ⟨-, hfinal, -⟩ := ProxyChain.finalized_view (h.epochs epochId) hok
  exact .after byParty_safe hok (finalized_escapes hd (h.step hd.reserveSink_ne_zero hok) hfinal)

theorem none_escapes (hd : d.Manned) (h : c.Orderly d)
    (hs : (c.pool.batchOf epochId).status = .none)
    (hfunded : (c.pool.fundingOf epochId).goatFunded ≠ 0) : d.Escapes c epochId := by
  refine .after byParty_safe (act_setWindows hd c) (.after byParty_safe (act_setBonds hd _) ?_)
  have hwindows := h.step hd.reserveSink_ne_zero (act_setWindows hd c)
  have hbonds := hwindows.step hd.reserveSink_ne_zero (act_setBonds hd _)
  obtain ⟨c', hok⟩ := propose_acts hd hbonds (inSpace_of_funded h hfunded) hs rfl
  have hproposed := hbonds.step hd.reserveSink_ne_zero hok
  refine .after byParty_safe hok (.after (k := .advance lastMoment) trivial (act_advance c') ?_)
  have horder := hproposed.step hd.reserveSink_ne_zero (act_advance c')
  obtain ⟨v, hv, hstep⟩ := view_of_ok epochId hok
  have hbatch : c'.pool.batchOf epochId = v.batch := congrArg EpochView.batch hv
  have hfunding : c'.pool.fundingOf epochId = v.funding := congrArg EpochView.funding hv
  cases hstep with
  | same hne => exact absurd rfl hne
  | propose _ =>
      have hend : (c'.pool.batchOf epochId).challengeEnd < 2 ^ 64 := by
        rw [hbatch]
        show (Fin.ofNat (2 ^ 64) c.now.val).val + 0 < 2 ^ 64
        rw [Nat.add_zero]
        exact (Fin.ofNat (2 ^ 64) c.now.val).isLt
      refine ripe_escapes hd horder ?_ ?_ ?_ ?_
      · refine .unchallenged (congrArg Batch.status hbatch) hend ?_
        show (c'.pool.batchOf epochId).challengeEnd < 2 ^ 256 - 1
        omega
      · show (c'.pool.batchOf epochId).grossGoatWei * takeBps < 2 ^ 256
        rw [hbatch]
        show 1 * takeBps < 2 ^ 256
        decide
      · show (c'.pool.batchOf epochId).grossGoatWei ≤ (c'.pool.fundingOf epochId).goatFunded
        rw [hbatch, hfunding]
        exact Nat.one_le_iff_ne_zero.mpr hfunded
      · show (c'.pool.fundingOf epochId).goatFunded ≠ 0
        rw [hfunding]
        exact hfunded

theorem challengerWon_escapes (hd : d.Manned) (h : c.Orderly d)
    (hs : (c.pool.batchOf epochId).status = .challengerWon)
    (hfunded : (c.pool.fundingOf epochId).goatFunded ≠ 0) : d.Escapes c epochId := by
  obtain ⟨c', hok⟩ := reset_acts hd (inSpace_of_funded h hfunded) hs
  have horder := h.step hd.reserveSink_ne_zero hok
  obtain ⟨v, hv, hstep⟩ := view_of_ok epochId hok
  have hbatch : c'.pool.batchOf epochId = v.batch := congrArg EpochView.batch hv
  have hfunding : c'.pool.fundingOf epochId = v.funding := congrArg EpochView.funding hv
  refine .after byParty_safe hok ?_
  cases hstep with
  | same hne => exact absurd rfl hne
  | reset _ =>
      refine none_escapes hd horder (congrArg Batch.status hbatch) ?_
      rw [hfunding]
      exact hfunded

theorem challenged_escapes (hd : d.Manned) (h : c.Orderly d)
    (hs : (c.pool.batchOf epochId).status = .challenged)
    (hfunded : (c.pool.fundingOf epochId).goatFunded ≠ 0) : d.Escapes c epochId := by
  obtain ⟨c', hok⟩ := resolve_acts hd h (inSpace_of_funded h hfunded) hs
  have horder := h.step hd.reserveSink_ne_zero hok
  obtain ⟨v, hv, hstep⟩ := view_of_ok epochId hok
  have hbatch : c'.pool.batchOf epochId = v.batch := congrArg EpochView.batch hv
  have hfunding : c'.pool.fundingOf epochId = v.funding := congrArg EpochView.funding hv
  refine .after byParty_resolver hok ?_
  cases hstep with
  | same hne => exact absurd rfl hne
  | resolve _ _ =>
      refine challengerWon_escapes hd horder (congrArg Batch.status hbatch) ?_
      rw [hfunding]
      exact hfunded

theorem open_escapes (hd : d.Manned) (h : c.Orderly d)
    (hs : (c.pool.batchOf epochId).status = .proposed)
    (hfits : (c.pool.batchOf epochId).challengeEnd < 2 ^ 64)
    (hopen : c.now.val ≤ (c.pool.batchOf epochId).challengeEnd)
    (hfunded : (c.pool.fundingOf epochId).goatFunded ≠ 0) : d.Escapes c epochId := by
  refine .after byParty_safe (act_setBonds hd c) ?_
  have hbonds := h.step hd.reserveSink_ne_zero (act_setBonds hd c)
  obtain ⟨c', hok⟩ := challenge_acts hd hbonds (inSpace_of_funded h hfunded) hs hfits hopen rfl
  have horder := hbonds.step hd.reserveSink_ne_zero hok
  obtain ⟨v, hv, hstep⟩ := view_of_ok epochId hok
  have hbatch : c'.pool.batchOf epochId = v.batch := congrArg EpochView.batch hv
  have hfunding : c'.pool.fundingOf epochId = v.funding := congrArg EpochView.funding hv
  refine .after byParty_safe hok ?_
  cases hstep with
  | same hne => exact absurd rfl hne
  | challenge _ _ _ =>
      refine challenged_escapes hd horder (congrArg Batch.status hbatch) ?_
      rw [hfunding]
      exact hfunded

theorem unsealed_escapes (hd : d.Manned) (h : c.Orderly d)
    (hfunded : (c.pool.fundingOf epochId).goatFunded ≠ 0)
    (hs : ¬ (c.pool.batchOf epochId).Sealed c.now.val) : d.Escapes c epochId := by
  obtain ⟨status, hstatus⟩ : ∃ status, (c.pool.batchOf epochId).status = status := ⟨_, rfl⟩
  cases status with
  | none => exact none_escapes hd h hstatus hfunded
  | proposed =>
      unfold Batch.Sealed at hs
      obtain ⟨-, hopen⟩ := not_or.mp hs
      obtain ⟨hfits, hopen⟩ := not_or.mp (not_and.mp hopen hstatus)
      exact open_escapes hd h hstatus (Nat.not_le.mp hfits) (Nat.not_lt.mp hopen) hfunded
  | challenged => exact challenged_escapes hd h hstatus hfunded
  | proposerWon => exact absurd (.inl hstatus) hs
  | challengerWon => exact challengerWon_escapes hd h hstatus hfunded
  | finalized => exact finalized_escapes hd h hstatus

/-- A sealed batch that fits and is covered becomes final, as soon as it is late enough. -/
theorem sealed_escapes (hd : d.Manned) (h : c.Orderly d)
    (hs : (c.pool.batchOf epochId).Sealed c.now.val) (hfits : (c.pool.batchOf epochId).Fits)
    (hgross : (c.pool.batchOf epochId).grossGoatWei ≤ (c.pool.fundingOf epochId).goatFunded)
    (hfunded : (c.pool.fundingOf epochId).goatFunded ≠ 0) : d.Escapes c epochId := by
  refine .after (k := .advance lastMoment) trivial (act_advance c) ?_
  have horder := h.step hd.reserveSink_ne_zero (act_advance c)
  refine ripe_escapes hd horder ?_ hfits.1 hgross hfunded
  rcases hs with hwon | ⟨hproposed, -⟩
  · exact .proposerWon hwon
  · refine .unchallenged hproposed (hfits.2 hproposed) ?_
    have hend := hfits.2 hproposed
    show (c.pool.batchOf epochId).challengeEnd < 2 ^ 256 - 1
    omega

end ProxySite

theorem ProxyChain.Orderly.funded {d : ProxySite} {c : ProxyChain} {epochId : Uint256}
    (h : c.Orderly d)
    (hempty : ¬ c.Emptied epochId) : (c.pool.fundingOf epochId).goatFunded ≠ 0 := by
  intro hzero
  have hcovered : (c.pool.fundingOf epochId).goatClaimed + (c.pool.fundingOf epochId).reserveHeld
      ≤ (c.pool.fundingOf epochId).goatFunded := h.solvent.sound.covered epochId
  refine hempty ?_
  unfold ProxyChain.Emptied
  omega

theorem ProxyChain.orderly_on {d : ProxySite} {start c : ProxyChain} (hfresh : start.Fresh d)
    {ks : List ProxyCall} (hc : d.run start ks = c) (ls : List ProxyCall) :
    (d.run c ls).Orderly d := by
  have hrun : d.run start (ks ++ ls) = d.run c ls := by
    rw [← hc]
    exact List.foldl_append
  rw [← hrun]
  exact ProxyChain.orderly_run hfresh _

theorem ProxySite.Escapes.sealed {d : ProxySite} {start c : ProxyChain} {epochId : Uint256}
    (hfresh : start.Fresh d) {ks : List ProxyCall} (hc : d.run start ks = c)
    (hempty : ¬ c.Emptied epochId) (hs : (c.pool.batchOf epochId).Sealed c.now.val)
    (h : d.Escapes c epochId) : (c.pool.batchOf epochId).Fits ∧ d.Fundable c epochId := by
  obtain ⟨ls, hls, hdone⟩ := h
  have hafter := ProxyChain.orderly_on hfresh hc ls
  have hbefore : c.Orderly d := ProxyChain.orderly_on hfresh hc []
  rcases ProxyChain.sealed_run (d := d) hs ls with hbatch | ⟨-, hfits, before, hpre, hcovered⟩
  · -- nothing has left an epoch whose batch is not final
    have hunfinal : ((d.run c ls).pool.batchOf epochId).status ≠ .finalized := by
      rw [hbatch]
      exact hs.unfinal
    obtain ⟨hout, hreserve, -, -⟩ := (hafter.epochs epochId).untouched hunfinal
    have hmore := (ProxyChain.funded_run (d := d) (c := c) epochId ls).2
    have hdone : ((d.run c ls).pool.fundingOf epochId).goatFunded
        = ((d.run c ls).pool.fundingOf epochId).goatClaimed
          + ((d.run c ls).pool.fundingOf epochId).reserveHeld := hdone
    have hfunded := hbefore.funded hempty
    change ((d.run c ls).pool.fundingOf epochId).goatClaimed = 0 at hout
    change ((d.run c ls).pool.fundingOf epochId).reserveHeld = 0 at hreserve
    omega
  · exact ⟨hfits, before, hls.before hpre, hcovered⟩

/-- **The parties can empty an epoch exactly if it is empty, its batch is not sealed, or the batch
fits in its words and the epoch can be funded up to its gross.** -/
theorem epoch_exit_iff (d : ProxySite) (hself : d.self ≠ 0) (hsafe : d.config.safe ≠ d.self)
    (hresolver : d.config.resolver ≠ d.self) {start : ProxyChain} (hfresh : start.Fresh d)
    (ks : List ProxyCall) {c : ProxyChain} (hc : d.run start ks = c) (epochId : Uint256) :
    d.Escapes c epochId
      ↔ c.Emptied epochId ∨ ¬ (c.pool.batchOf epochId).Sealed c.now.val
        ∨ (c.pool.batchOf epochId).Fits ∧ d.Fundable c epochId := by
  obtain ⟨hsafe₀, htreasury, hattestor, hsink, hfunder, hresolver₀⟩ := hfresh.roles
  have hd : d.Manned :=
    ⟨hself, ⟨hsafe₀, hsafe⟩, ⟨hresolver₀, hresolver⟩, htreasury, hattestor, hsink, hfunder⟩
  have h : c.Orderly d := ProxyChain.orderly_on hfresh hc []
  constructor
  · intro hescapes
    by_cases hempty : c.Emptied epochId
    · exact .inl hempty
    by_cases hs : (c.pool.batchOf epochId).Sealed c.now.val
    · exact .inr (.inr (hescapes.sealed hfresh hc hempty hs))
    · exact .inr (.inl hs)
  · intro hcases
    by_cases hempty : c.Emptied epochId
    · exact .now hempty
    have hfunded := h.funded hempty
    by_cases hs : (c.pool.batchOf epochId).Sealed c.now.val
    · obtain ⟨hfits, ls, hls, hgross⟩ := (hcases.resolve_left hempty).resolve_left (not_not.mpr hs)
      refine .afterAll hls ?_
      have hafter := ProxyChain.orderly_on hfresh hc ls
      have hmore : ((d.run c ls).pool.fundingOf epochId).goatFunded ≠ 0 := by
        have hle := (ProxyChain.funded_run (d := d) (c := c) epochId ls).2
        omega
      by_cases hs' : ((d.run c ls).pool.batchOf epochId).Sealed (d.run c ls).now.val
      · rcases ProxyChain.sealed_run (d := d) hs ls with hbatch | ⟨hfinal, -⟩
        · rw [← hbatch] at hfits hgross
          exact ProxySite.sealed_escapes hd hafter hs' hfits hgross hmore
        · exact absurd hfinal hs'.unfinal
      · exact ProxySite.unsealed_escapes hd hafter hmore hs'
    · exact ProxySite.unsealed_escapes hd h hfunded hs

/-! ### A gross that nobody can fund -/

def sampleFunding : List ProxyCall := [.pool 7 (.fundEpoch 8000000000000 100 0)]

theorem epoch_exit_iff_sample : ¬ ((sampleTimed 20).run (sampleTimedChain 20) sampleFunding).Emptied
      8000000000000
    ∧ (sampleTimed 20).Escapes ((sampleTimed 20).run (sampleTimedChain 20) sampleFunding)
      8000000000000 := by
  have hstatus : (((sampleTimed 20).run (sampleTimedChain 20) sampleFunding).pool.batchOf
      8000000000000).status = .none := by decide +kernel
  refine ⟨?_, ?_⟩
  · unfold ProxyChain.Emptied
    decide +kernel
  · refine (epoch_exit_iff (sampleTimed 20) (by decide) (by decide) (by decide)
      (sampleTimedChain_fresh 20) sampleFunding rfl 8000000000000).mpr (.inr (.inl ?_))
    rintro (hwon | ⟨hproposed, -⟩)
    · cases hstatus.symm.trans hwon
    · cases hstatus.symm.trans hproposed

/-- The publisher commits the largest gross there is, and nobody challenges it in time. -/
def sampleOvercommitted : List ProxyCall :=
  [.pool 7 (.fundEpoch 8000000000000 100 0),
   .pool 8 (.proposeBatch 0 8000000000000 sampleRoot 0 (2 ^ 256 - 1)),
   .advance 11]

def sampleLocked : ProxyChain := (sampleTimed 20).run (sampleTimedChain 20) sampleOvercommitted

/-- The hundred coins of the epoch are there, and no call of the parties ever gets them out. -/
theorem locked_epoch : (sampleTimedChain 20).Fresh (sampleTimed 20)
    ∧ (sampleLocked.pool.fundingOf 8000000000000).goatFunded = 100
    ∧ (sampleLocked.pool.batchOf 8000000000000).status = .proposed
    ∧ ∀ ks, Runs.Guarded (attempt (sampleTimed 20).act) (sampleTimed 20).ByParty sampleLocked ks →
        ¬ ((sampleTimed 20).run sampleLocked ks).Emptied 8000000000000 := by
  have hstatus : (sampleLocked.pool.batchOf 8000000000000).status = .proposed := by decide +kernel
  refine ⟨sampleTimedChain_fresh 20, by decide +kernel, hstatus, fun ks hks hdone => ?_⟩
  have hempty : ¬ sampleLocked.Emptied 8000000000000 := by
    unfold ProxyChain.Emptied
    decide +kernel
  have hsealed : (sampleLocked.pool.batchOf 8000000000000).Sealed sampleLocked.now.val :=
    .inr ⟨hstatus, .inr (by decide +kernel)⟩
  have hrun : (sampleTimed 20).run (sampleTimedChain 20) sampleOvercommitted = sampleLocked := by
    rw [sampleLocked]
  have hfits := (ProxySite.Escapes.sealed (sampleTimedChain_fresh 20) hrun hempty hsealed
    ⟨ks, hks, hdone⟩).1.1
  have hhuge : ¬ (sampleLocked.pool.batchOf 8000000000000).grossGoatWei * takeBps < 2 ^ 256 := by
    decide +kernel
  exact hhuge hfits

end GoatCoin
