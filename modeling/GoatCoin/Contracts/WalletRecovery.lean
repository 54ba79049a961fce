/-
# `GoatCoin.Contracts.WalletRecovery` — a recovery is late, fresh and made once

A recovery remembers the rotation nonce that its root had when it was scheduled, and every change
of a controller counts that nonce up:

    scheduleRecovery     expectedRotationNonce := rotationNonces[root]
    executeRecovery      expectedRotationNonce  = rotationNonces[root], then counted up
    rotateController                              rotationNonces[root]        counted up

So two states of a run in which the nonce of a root is the same have the same controller, and once
the controller has changed the recovery is stale, whoever the controller is later.
-/
import GoatCoin.Contracts.Wallets

namespace GoatCoin

open Function (update update_self update_of_ne)
open Evm StreamG

namespace WalletSponsorshipRegistry

variable {w w' : WalletSponsorshipRegistry} {cfg : Config} {now : Nat} {sender : Address}
  {call : WalletAct}

theorem Step.controllerOf (h : Step cfg now w sender call w') {r : Address}
    (hr : w.primaryOf r = r) :
    w'.controllerOf r = w.controllerOf r ∨ w.rotationNonces r < w'.rotationNonces r := by
  have hchanged : ∀ root newController : Address,
      update w.controllerOf root newController r = w.controllerOf r
        ∨ w.rotationNonces r < update w.rotationNonces root (w.rotationNonces root + 1) r := by
    intro root newController
    rcases eq_or_ne r root with rfl | hne
    · rw [update_self, update_self]
      exact .inr (Nat.lt_succ_self _)
    · rw [update_of_ne hne]
      exact .inl rfl
  -- the root that is entered was no root before
  have hentered : ∀ root : Address, root ≠ 0 → w.primaryOf root = 0 →
      update w.controllerOf root root r = w.controllerOf r := by
    intro root hroot hnone
    refine update_of_ne ?_ _ _
    rintro rfl
    exact hroot (hr.symm.trans hnone)
  cases h with
  | still => exact .inl rfl
  | root hroot hnone _ => exact .inl (hentered _ hroot hnone)
  | link hroot _ _ _ _ hrooted =>
      cases hrooted with
      | here => exact .inl rfl
      | entered hnone _ => exact .inl (hentered _ hroot hnone)
  | rotate => exact hchanged _ _
  | schedule => exact .inl rfl
  | recover => exact hchanged _ _

theorem Step.recoverySchedules (h : Step cfg now w sender call w') {id : Bytes32}
    (hknown : (w.recoverySchedules id).known = true) :
    w'.recoverySchedules id = w.recoverySchedules id
      ∨ w'.recoverySchedules id = { w.recoverySchedules id with executed := true } := by
  cases h with
  | still => exact .inl rfl
  | root => exact .inl rfl
  | link _ _ _ _ _ hrooted =>
      cases hrooted with
      | here => exact .inl rfl
      | entered => exact .inl rfl
  | rotate => exact .inl rfl
  | @schedule _ _ _ _ _ id' _ _ _ _ _ _ hnew =>
      refine .inl (update_of_ne ?_ _ _)
      rintro rfl
      rw [hnew] at hknown
      cases hknown
  | @recover id' s hs =>
      show update w.recoverySchedules id' _ id = _
        ∨ update w.recoverySchedules id' _ id = _
      rcases eq_or_ne id id' with rfl | hne
      · rw [update_self, hs]
        exact .inr rfl
      · rw [update_of_ne hne]
        exact .inl rfl

/-- A recovery becomes known when it is scheduled. -/
theorem Step.scheduled (h : Step cfg now w sender call w') {id : Bytes32}
    (hunknown : (w.recoverySchedules id).known = false)
    (hknown : (w'.recoverySchedules id).known = true) :
    ∃ root newController rotationNonce epoch reasonHash,
      call = .scheduleRecovery root newController rotationNonce epoch reasonHash
        ∧ id = scheduleId root newController rotationNonce.val epoch.val reasonHash now
        ∧ w.primaryOf root = root ∧ w.rotationNonces root = rotationNonce.val
        ∧ w'.recoverySchedules id = ⟨root, newController, rotationNonce.val, epoch.val,
          (now + cfg.recoveryTimelock.val) % 2 ^ 64, false, true⟩ := by
  have hsame : w'.recoverySchedules = w.recoverySchedules → False := by
    intro heq
    rw [heq, hunknown] at hknown
    cases hknown
  cases h with
  | still => exact (hsame rfl).elim
  | root => exact (hsame rfl).elim
  | link _ _ _ _ _ hrooted =>
      cases hrooted with
      | here => exact (hsame rfl).elim
      | entered => exact (hsame rfl).elim
  | rotate => exact (hsame rfl).elim
  | @schedule root newController rotationNonce epoch reasonHash id' _ _ hfree hnonce _ hid _ =>
      change (update w.recoverySchedules id' _ id).known = true at hknown
      rcases eq_or_ne id id' with rfl | hne
      · exact ⟨root, newController, rotationNonce, epoch, reasonHash, rfl, hid, hfree.registered,
          hnonce.symm, update_self _ _ _⟩
      · rw [update_of_ne hne, hunknown] at hknown
        cases hknown
  | @recover id' s hs hs' =>
      change (update w.recoverySchedules id' _ id).known = true at hknown
      rcases eq_or_ne id id' with rfl | hne
      · rw [hs, hunknown] at hs'
        cases hs'
      · rw [update_of_ne hne, hunknown] at hknown
        cases hknown

end WalletSponsorshipRegistry

namespace WalletSite

variable {d : WalletSite} {start : WalletChain} {id : Bytes32}

/-- What a recovery is scheduled with. -/
structure Recovery where
  by_ : Address
  root : Address
  newController : Address
  rotationNonce : Uint256
  epoch : Uint256
  reasonHash : Bytes32

/-- The call that schedules it. -/
def Recovery.schedule (r : Recovery) : WalletCall :=
  .wallets r.by_ (.scheduleRecovery r.root r.newController r.rotationNonce r.epoch r.reasonHash)

variable (d) in
/-- A recovery was scheduled in a run, under the given id, and between the two parts of it. -/
structure ScheduledBy (start : WalletChain) (ks : List WalletCall) (id : Bytes32) (r : Recovery)
    (before after : List WalletCall) : Prop where
  split : ks = before ++ r.schedule :: after
  succeeds : d.act (d.run start before) r.schedule = .ok (d.run start (before ++ [r.schedule]))
  id_eq : id = WalletSponsorshipRegistry.scheduleId r.root r.newController r.rotationNonce.val
    r.epoch.val r.reasonHash (d.run start before).site.now.val

theorem wallets_now_le {c c' : WalletChain} {k : WalletCall} (h : d.act c k = .ok c') :
    c.site.now ≤ c'.site.now := by
  cases k with
  | advance now =>
      obtain ⟨_, hle, h⟩ := bind_ok.mp h
      cases h
      exact require_ok.mp hle
  | world chainId codehash v1 fees =>
      cases h
      exact le_rfl
  | wallets sender call =>
      obtain ⟨_, -, h⟩ := bind_ok.mp h
      cases h
      exact le_rfl

theorem now_le_run (c : WalletChain) (ks : List WalletCall) :
    c.site.now ≤ (d.run c ks).site.now := by
  refine Runs.invariant (I := fun s => c.site.now ≤ s.site.now) (fun s k hs => ?_) ks c le_rfl
  refine attempt_preserves (I := fun s => c.site.now ≤ s.site.now) (fun s k s' hs h => ?_) s k hs
  exact hs.trans (wallets_now_le h)

theorem registered_run (hfresh : start.Fresh d) (ks later : List WalletCall) {r : Address}
    (hr : (d.run start ks).wallets.primaryOf r = r) :
    (d.run start (ks ++ later)).wallets.primaryOf r = r := by
  rcases eq_or_ne r 0 with rfl | hne
  · exact (topology_run hfresh (ks ++ later)).2.zero.1
  · rw [d.run_append]
    have hkept := (grows_run (d := d) (d.run start ks) later).primaryOf r (by rw [hr]; exact hne)
    exact hkept.trans hr

/-- **While the nonce of a root is the same, its controller is.** -/
theorem controller_run (hfresh : start.Fresh d) (ks : List WalletCall) {r : Address}
    (hr : (d.run start ks).wallets.primaryOf r = r) (later : List WalletCall)
    (hnonce : (d.run start (ks ++ later)).wallets.rotationNonces r
      = (d.run start ks).wallets.rotationNonces r) :
    (d.run start (ks ++ later)).wallets.controllerOf r
    = (d.run start ks).wallets.controllerOf r := by
  induction later using List.reverseRecOn with
  | nil => rw [List.append_nil]
  | append_singleton later k ih =>
      have hle : (d.run start ks).wallets.rotationNonces r
          ≤ (d.run start (ks ++ later)).wallets.rotationNonces r := by
        rw [d.run_append]
        exact (grows_run _ later).rotationNonces r
      have hroot := registered_run hfresh ks later hr
      rw [← List.append_assoc, d.run_snoc] at hnonce ⊢
      rcases attempt_cases d.act (d.run start (ks ++ later)) k with ⟨hsame, -⟩ | hact
      · rw [hsame] at hnonce ⊢
        exact ih hnonce
      rcases act_wallets hact with heq | ⟨sender, call, rfl, -, hstep⟩
      · rw [heq] at hnonce ⊢
        exact ih hnonce
      have hcount := hstep.grows.rotationNonces r
      rcases hstep.controllerOf hroot with hcontroller | hlt
      · rw [hcontroller]
        exact ih (Nat.le_antisymm (hcount.trans hnonce.le) hle)
      · exact absurd (hlt.trans_le hnonce.le) (Nat.not_lt.mpr hle)

/-- A recovery that is known stays known, for the same change, and executed if it was. -/
theorem known_run (c : WalletChain) (ks : List WalletCall)
    (hknown : (c.wallets.recoverySchedules id).known = true) :
    (d.run c ks).wallets.recoverySchedules id
        = { c.wallets.recoverySchedules id with
            executed := ((d.run c ks).wallets.recoverySchedules id).executed }
      ∧ ((c.wallets.recoverySchedules id).executed = true →
          ((d.run c ks).wallets.recoverySchedules id).executed = true) := by
  induction ks using List.reverseRecOn with
  | nil => exact ⟨rfl, fun h => h⟩
  | append_singleton ks k ih =>
      obtain ⟨hsame, hexecuted⟩ := ih
      rw [d.run_snoc]
      rcases attempt_cases d.act (d.run c ks) k with ⟨heq, -⟩ | hact
      · rw [heq]
        exact ⟨hsame, hexecuted⟩
      rcases act_wallets hact with heq | ⟨sender, call, rfl, -, hstep⟩
      · rw [heq]
        exact ⟨hsame, hexecuted⟩
      have hknown' : ((d.run c ks).wallets.recoverySchedules id).known = true := by
        rw [hsame]
        exact hknown
      rcases hstep.recoverySchedules hknown' with heq | heq
      · rw [heq]
        exact ⟨hsame, hexecuted⟩
      · rw [heq]
        exact ⟨by rw [hsame], fun _ => rfl⟩

/-- **What is known was scheduled**, for a root whose nonce it remembers. -/
theorem scheduled_run (hfresh : start.Fresh d) (ks : List WalletCall)
    (hknown : ((d.run start ks).wallets.recoverySchedules id).known = true) :
    ∃ r before after, d.ScheduledBy start ks id r before after
      ∧ (d.run start before).wallets.primaryOf r.root = r.root
      ∧ (d.run start before).wallets.rotationNonces r.root = r.rotationNonce.val
      ∧ (d.run start ks).wallets.recoverySchedules id
        = ⟨r.root, r.newController, r.rotationNonce.val, r.epoch.val,
          ((d.run start before).site.now.val + d.config.recoveryTimelock.val) % 2 ^ 64,
          ((d.run start ks).wallets.recoverySchedules id).executed, true⟩ := by
  induction ks using List.reverseRecOn with
  | nil =>
      change (start.wallets.recoverySchedules id).known = true at hknown
      rw [hfresh.wallets_eq] at hknown
      cases hknown
  | append_singleton ks k ih =>
      rcases Bool.eq_false_or_eq_true ((d.run start ks).wallets.recoverySchedules id).known
        with hbefore | hbefore
      · obtain ⟨r, before, after, hscheduled, hroot, hnonce, hfields⟩ := ih hbefore
        have hkept := (known_run (d := d) (d.run start ks) [k] hbefore).1
        rw [← d.run_append] at hkept
        refine ⟨r, before, after ++ [k], ⟨?_, hscheduled.succeeds, hscheduled.id_eq⟩,
          hroot, hnonce, ?_⟩
        · rw [hscheduled.split, List.append_assoc]
          rfl
        · rw [hkept, hfields]
      · rw [d.run_snoc] at hknown
        have hact : d.act (d.run start ks) k = .ok (attempt d.act (d.run start ks) k) := by
          rcases attempt_cases d.act (d.run start ks) k with ⟨heq, -⟩ | hact
          · rw [heq, hbefore] at hknown
            cases hknown
          · exact hact
        rcases act_wallets hact with heq | ⟨sender, call, rfl, -, hstep⟩
        · rw [heq, hbefore] at hknown
          cases hknown
        obtain ⟨root, newController, rotationNonce, epoch, reasonHash, rfl, hid, hroot, hnonce,
          hfields⟩ := hstep.scheduled hbefore hknown
        refine ⟨⟨sender, root, newController, rotationNonce, epoch, reasonHash⟩, ks, [],
          ⟨rfl, ?_, hid⟩, hroot, hnonce, ?_⟩
        · rw [d.run_snoc]
          exact hact
        · rw [d.run_snoc, hfields]

/-- What an execution checks, and what it changes. -/
theorem execute_passed {c c' : WalletChain} {sender : Address}
    (h : d.act c (.wallets sender (.executeRecovery id)) = .ok c') :
    (c.wallets.recoverySchedules id).known = true
      ∧ (c.wallets.recoverySchedules id).executed = false
      ∧ (c.wallets.recoverySchedules id).readyAt ≤ c.site.now.val
      ∧ c.wallets.rotationNonces (c.wallets.recoverySchedules id).root
        = (c.wallets.recoverySchedules id).expectedRotationNonce
      ∧ c'.wallets.controllerOf (c.wallets.recoverySchedules id).root
        = (c.wallets.recoverySchedules id).newController
      ∧ c'.wallets.recoverySchedules id
        = { c.wallets.recoverySchedules id with executed := true } := by
  obtain ⟨w', hcall, h⟩ := bind_ok.mp h
  cases h
  have hstep := walletAct_step hcall
  cases hstep with
  | still _ _ _ _ hplain => cases hplain
  | recover hs hknown hexecuted hready hnonce _ _ =>
      subst hs
      exact ⟨hknown, hexecuted, hready, hnonce, update_self _ _ _, update_self _ _ _⟩

/-- The nonce that a recovery remembers is not ahead of its root's. -/
theorem stale_or_fresh (hfresh : start.Fresh d) (ks : List WalletCall)
    (hknown : ((d.run start ks).wallets.recoverySchedules id).known = true) :
    (d.run start ks).wallets.primaryOf ((d.run start ks).wallets.recoverySchedules id).root
        = ((d.run start ks).wallets.recoverySchedules id).root
      ∧ ((d.run start ks).wallets.recoverySchedules id).expectedRotationNonce
        ≤ (d.run start ks).wallets.rotationNonces
          ((d.run start ks).wallets.recoverySchedules id).root := by
  obtain ⟨r, before, after, hscheduled, hroot, hnonce, hfields⟩ := scheduled_run hfresh ks hknown
  have hreg := registered_run hfresh before (r.schedule :: after) hroot
  have hle := (grows_run (d := d) (d.run start before) (r.schedule :: after)).rotationNonces r.root
  rw [← d.run_append, ← hscheduled.split, hnonce] at hle
  rw [← hscheduled.split] at hreg
  rw [hfields]
  exact ⟨hreg, hle⟩

end WalletSite

/-- **A recovery is late, fresh and made once.**  Whenever a recovery is executed it was scheduled,
for that root and that controller and a timelock or more before; the root had one controller from
the scheduling to the execution; and it is not executed again.  And once the controller of a root
has changed, no recovery of it that was scheduled before is executed, whatever happens. -/
theorem recovery_timelocked (d : WalletSite) {start : WalletChain} (hfresh : start.Fresh d)
    (ks : List WalletCall)
    (htime : (d.run start ks).site.now.val + d.config.recoveryTimelock.val < 2 ^ 64) :
    (∀ sender id c', d.act (d.run start ks) (.wallets sender (.executeRecovery id)) = .ok c' →
        ∃ r before after, d.ScheduledBy start ks id r before after
          ∧ c'.wallets.controllerOf r.root = r.newController
          ∧ (d.run start before).site.now.val + d.config.recoveryTimelock.val
            ≤ (d.run start ks).site.now.val
          ∧ (∀ mid, mid <+: r.schedule :: after →
              (d.run start (before ++ mid)).wallets.controllerOf r.root
                = (d.run start before).wallets.controllerOf r.root)
          ∧ ∀ later sender' c'',
              d.act (d.run c' later) (.wallets sender' (.executeRecovery id)) ≠ .ok c'')
      ∧ ∀ id, ((d.run start ks).wallets.recoverySchedules id).known = true → ∀ mid,
          (d.run start (ks ++ mid)).wallets.controllerOf
              ((d.run start ks).wallets.recoverySchedules id).root
            ≠ (d.run start ks).wallets.controllerOf
              ((d.run start ks).wallets.recoverySchedules id).root →
          ∀ later sender c',
            d.act (d.run start (ks ++ mid ++ later)) (.wallets sender (.executeRecovery id))
            ≠ .ok c' := by
  refine ⟨fun sender id c' hact => ?_, fun id hknown mid hchanged later sender c' hact => ?_⟩
  · obtain ⟨hknown, -, hready, hexpected, hcontroller, hexecuted⟩ := WalletSite.execute_passed hact
    obtain ⟨r, before, after, hscheduled, hroot, hnonce, hfields⟩ :=
      WalletSite.scheduled_run hfresh ks hknown
    have hnow : (d.run start before).site.now.val ≤ (d.run start ks).site.now.val := by
      rw [hscheduled.split, d.run_append]
      exact WalletSite.now_le_run _ _
    rw [hfields] at hready hexpected hcontroller
    refine ⟨r, before, after, hscheduled, hcontroller, ?_, fun mid hmid => ?_,
      fun later sender' c'' hagain => ?_⟩
    · rw [Nat.mod_eq_of_lt (Nat.lt_of_le_of_lt (Nat.add_le_add_right hnow _) htime)] at hready
      exact hready
    · -- the nonce lies between that of the scheduling and that of the execution, which are the same
      obtain ⟨rest, hrest⟩ := hmid
      refine WalletSite.controller_run hfresh before hroot mid (Nat.le_antisymm ?_ ?_)
      · have hle :=
          (WalletSite.grows_run (d := d) (d.run start (before ++ mid)) rest).rotationNonces r.root
        rw [← d.run_append, List.append_assoc, hrest, ← hscheduled.split, hexpected] at hle
        rw [hnonce]
        exact hle
      · rw [d.run_append]
        exact (WalletSite.grows_run _ mid).rotationNonces r.root
    · have hknown' : (c'.wallets.recoverySchedules id).known = true := by
        rw [hexecuted]
        exact hknown
      have hstays := (WalletSite.known_run (d := d) c' later hknown').2 (by rw [hexecuted])
      have hopen := (WalletSite.execute_passed hagain).2.1
      rw [hstays] at hopen
      cases hopen
  · obtain ⟨hroot, hold⟩ := WalletSite.stale_or_fresh hfresh ks hknown
    have hkept := (WalletSite.known_run (d := d) (d.run start ks) (mid ++ later) hknown).1
    obtain ⟨-, -, -, hexpected, -, -⟩ := WalletSite.execute_passed hact
    rw [← d.run_append, ← List.append_assoc] at hkept
    rw [hkept] at hexpected
    have hlow : (d.run start ks).wallets.rotationNonces
        ((d.run start ks).wallets.recoverySchedules id).root
        ≤ (d.run start (ks ++ mid)).wallets.rotationNonces
          ((d.run start ks).wallets.recoverySchedules id).root := by
      rw [d.run_append]
      exact (WalletSite.grows_run _ mid).rotationNonces _
    have hhigh := (WalletSite.grows_run (d := d) (d.run start (ks ++ mid)) later).rotationNonces
      ((d.run start ks).wallets.recoverySchedules id).root
    rw [← d.run_append, hexpected] at hhigh
    exact hchanged (WalletSite.controller_run hfresh ks hroot mid
      (Nat.le_antisymm (hhigh.trans hold) hlow))

/-- A root is registered. -/
def sampleRooted : List WalletCall :=
  [.wallets 1 (.setProfileIssuer 6 true),
   .wallets 9 (.registerPrimary ⟨5, 0, 1, 0, 0, 500⟩ (sampleSigned 6))]

/-- A recovery of it to another controller. -/
def sampleRecovery : WalletSite.Recovery := ⟨4, 5, 8, 0, 0, 0⟩

def sampleRecoveryId : Bytes32 := 0x2f63c650c5076ad7373dbdbcd1ad55be041f72e42bc59980c021ce148809a891

theorem sampleRecoveryId_eq :
    WalletSponsorshipRegistry.scheduleId 5 8 0 0 0 10 = sampleRecoveryId := by
  rw [WalletSponsorshipRegistry.scheduleId,
    keccak256_eval]
  decide +kernel

/-- The state after the recovery is scheduled. -/
def samplePending : WalletChain :=
  { sampleWallets.run sampleWalletChain sampleRooted with
    wallets := { (sampleWallets.run sampleWalletChain sampleRooted).wallets with
      recoverySchedules := update
        (sampleWallets.run sampleWalletChain sampleRooted).wallets.recoverySchedules
          sampleRecoveryId
        ⟨5, 8, 0, 0, 110, false, true⟩ } }

theorem sampleRecovery_acts : sampleWallets.act (sampleWallets.run sampleWalletChain sampleRooted)
    sampleRecovery.schedule = .ok samplePending := by
  have hnow : (sampleWallets.run sampleWalletChain sampleRooted).site.now.val = 10 := by
    decide +kernel
  have hcall : (sampleWallets.run sampleWalletChain sampleRooted).wallets.scheduleRecovery
      sampleWallets.config 10 4 5 8 0 0 0 = .ok samplePending.wallets := by
    refine bind_ok₄.mpr ⟨_, require_of rfl, _, require_of (by decide +kernel), _,
      require_of (by decide), _,
      require_of (by decide +kernel), bind_ok₄.mpr ⟨_, require_of (by decide +kernel), _,
      require_of (by decide +kernel), _, require_of (by decide +kernel), _,
      require_of (by decide +kernel), bind_ok₂.mpr ⟨(), ?_, 110, by decide +kernel, ?_⟩⟩⟩
    · rw [sampleRecoveryId_eq]
      exact require_of (by decide +kernel)
    · rw [sampleRecoveryId_eq]
      rfl
  rw [← hnow] at hcall
  exact bind_ok.mpr ⟨_, hcall, rfl⟩

theorem recovery_timelocked_sample : ∃ r before after,
    sampleWallets.ScheduledBy sampleWalletChain
        (sampleRooted ++ [sampleRecovery.schedule] ++ [.advance 110])
          sampleRecoveryId r before after
      ∧ (sampleWallets.run sampleWalletChain before).site.now.val + 100
        ≤ (sampleWallets.run sampleWalletChain
          (sampleRooted ++ [sampleRecovery.schedule] ++ [.advance 110])).site.now.val := by
  have hrun : sampleWallets.run sampleWalletChain
      (sampleRooted ++ [sampleRecovery.schedule] ++ [.advance 110])
      = attempt sampleWallets.act samplePending (.advance 110) := by
    rw [sampleWallets.run_snoc, sampleWallets.run_snoc, attempt_of_ok sampleRecovery_acts]
  have hact : sampleWallets.act (attempt sampleWallets.act samplePending (.advance 110))
      (.wallets 4 (.executeRecovery sampleRecoveryId)) = .ok _ :=
    ok_of_isOk sampleWallets.act (by decide +kernel)
  rw [← hrun] at hact
  have htime : (sampleWallets.run sampleWalletChain
      (sampleRooted ++ [sampleRecovery.schedule] ++ [.advance 110])).site.now.val
      + sampleWallets.config.recoveryTimelock.val < 2 ^ 64 := by
    rw [hrun]
    decide +kernel
  obtain ⟨r, before, after, hscheduled, -, hlate, -⟩ :=
    (recovery_timelocked sampleWallets sampleWalletChain_fresh _ htime).1 4 sampleRecoveryId _ hact
  exact ⟨r, before, after, hscheduled, hlate⟩

end GoatCoin
