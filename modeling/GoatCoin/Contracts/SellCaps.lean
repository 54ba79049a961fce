/-
# `GoatCoin.Contracts.SellCaps` — how much a cluster of wallets sells

The desk counts what it buys by the root of the seller, which it looks up at each sale:

    soldInSession[id][root]       at most the cap that the session was opened with
    soldPerUtcDay[day][root]      at most `dailyRootCapGoat`

Between two sales wallets are linked, sessions opened and closed, and anything may happen to the
tokens.  A wallet that has a root keeps it, so what a counter holds is what all the wallets that
resolve to the root now have sold, and it does not matter how a sale is split among them.
-/
import GoatCoin.Contracts.SponsoredSale

namespace GoatCoin

open Function (update update_self update_of_ne)
open Evm StreamG

/-! ## The desk among wallets -/

/-- The constructor. -/
def SponsoredBuyDesk.new (owner usdt goat registry sponsorship feeSafe : Address)
    (dailyRootCapGoat : Uint256) : Except Revert SponsoredBuyDesk := do
  require (¬ (owner = 0 ∨ usdt = 0 ∨ goat = 0 ∨ registry = 0 ∨ sponsorship = 0 ∨ feeSafe = 0))
    .zeroAddress
  .ok
    { owner, usdt, goat, feeSafe, dailyRootCapGoat
      gateway := 0
      gatewayBound := false
      bid := 10000
      sessionCount := 0
      sessions := fun _ => ⟨0, 0, 0, false⟩
      soldInSession := fun _ _ => 0
      soldPerUtcDay := fun _ _ => 0 }

/-- What the owner of the desk does. -/
inductive DeskAdmin where
  | bindGatewayOnce (gateway : Address)
  | setBid (bid : Uint256)
  | openSession (start stop : Word 64) (rootSessionCapGoat : Uint256)
  | closeSession

def SponsoredBuyDesk.admin (k : SponsoredBuyDesk) (now : Nat) (sender : Address) :
    DeskAdmin → Except Revert SponsoredBuyDesk
  | .bindGatewayOnce gateway => k.bindGatewayOnce sender gateway
  | .setBid bid => k.setBid sender bid
  | .openSession start stop rootSessionCapGoat =>
      k.openSession now sender start stop rootSessionCapGoat
  | .closeSession => k.closeSession sender

/-- The arguments of `sellFor`, and who calls it. -/
structure DeskSale where
  sender : Address
  seller : Address
  expectedRoot : Address
  goatAmount : Uint256
  minNetUsdtOut : Uint256
  feeAmount : Uint256
  goatPermit : Eip2612Authorization

inductive SaleCall where
  | sell (x : DeskSale)
  | admin (sender : Address) (k : DeskAdmin)
  | wallets (call : WalletCall)
  | tokens (tokens : Address → Token)

/-- Where the desk is deployed. -/
structure DeskSite where
  wallets : WalletSite
  desk : Address

namespace DeskSite

variable (d : DeskSite)

/-- A sale at the desk. -/
def sellFor (w : World) (x : DeskSale) : Except Revert (World × Address × Nat × Nat) :=
  w.sellFor d.wallets.ecdsa d.desk x.sender x.seller x.expectedRoot x.goatAmount.val
    x.minNetUsdtOut.val x.feeAmount.val x.goatPermit

def act (w : World) : SaleCall → Except Revert World
  | .sell x => do
      let r ← d.sellFor w x
      .ok r.1
  | .admin sender k => do
      let desk ← (w.desks d.desk).admin w.now sender k
      .ok { w with desks := update w.desks d.desk desk }
  | .wallets call => do
      let c ← d.wallets.act ⟨w.site, w.v1, w.fees, w.wallets⟩ call
      .ok { w with site := c.site, v1 := c.v1, fees := c.fees, wallets := c.wallets }
  | .tokens tokens => .ok { w with tokens }

def run (w : World) (ks : List SaleCall) : World := ks.foldl (attempt d.act) w

theorem run_append (w : World) (ks ls : List SaleCall) :
    d.run w (ks ++ ls) = d.run (d.run w ks) ls := List.foldl_append

end DeskSite

/-! ## What was sold -/

/-- A sale that was made: in which session and on which day, and the root of the seller then. -/
structure Sale where
  seller : Address
  root : Address
  amount : Nat
  session : Nat
  day : Nat

/-- What was sold by the sales of a kind. -/
def Sale.total (p : Sale → Prop) [DecidablePred p] (sales : List Sale) : Nat :=
  (sales.map fun s => if p s then s.amount else 0).sum

namespace DeskSite

variable (d : DeskSite)

/-- The sale that a call makes. -/
def sale? (w : World) : SaleCall → Option Sale
  | .sell x =>
      if (d.sellFor w x).isOk then
        some ⟨x.seller, w.wallets.primaryOf x.seller, x.goatAmount.val,
          ((w.desks d.desk).currentSession w.now).1, w.now / 86400⟩
      else none
  | _ => none

/-- The sales of a run. -/
def sales (w : World) : List SaleCall → List Sale
  | [] => []
  | k :: ks => (d.sale? w k).toList ++ sales (attempt d.act w k) ks

end DeskSite

namespace Sale

variable (p : Sale → Prop) [DecidablePred p]

theorem total_append (ss ts : List Sale) : total p (ss ++ ts) = total p ss + total p ts := by
  rw [total, List.map_append, List.sum_append]
  rfl

theorem total_mono {p q : Sale → Prop} [DecidablePred p] [DecidablePred q] (h : ∀ s, p s → q s)
    (ss : List Sale) : total p ss ≤ total q ss := by
  induction ss with
  | nil => exact le_rfl
  | cons s ss ih =>
      rw [total, total, List.map_cons, List.map_cons, List.sum_cons, List.sum_cons]
      refine Nat.add_le_add ?_ ih
      split
      · rename_i hs
        rw [if_pos (h s hs)]
      · exact Nat.zero_le _

theorem total_congr {p q : Sale → Prop} [DecidablePred p] [DecidablePred q] {ss : List Sale}
    (h : ∀ s ∈ ss, p s ↔ q s) : total p ss = total q ss := by
  refine congrArg List.sum (List.map_congr_left fun s hs => ?_)
  simp only [h s hs]

end Sale

/-! ## One call -/

/-- What a call does to the desk: the sales are counted, and caps that are set stay. -/
structure SponsoredBuyDesk.Counts (k k' : SponsoredBuyDesk) (sales : List Sale) : Prop where
  session : ∀ id root, k'.soldInSession id root
    = k.soldInSession id root + Sale.total (fun s => s.session = id ∧ s.root = root) sales
  day : ∀ day root, k'.soldPerUtcDay day root
    = k.soldPerUtcDay day root + Sale.total (fun s => s.day = day ∧ s.root = root) sales
  caps : ∀ id, id ≤ k.sessionCount →
    (k'.sessions id).rootSessionCapGoat = (k.sessions id).rootSessionCapGoat
  sessionCount : k.sessionCount ≤ k'.sessionCount
  daily : k'.dailyRootCapGoat = k.dailyRootCapGoat

/-- The counters are within the caps, and there are none beyond the sessions. -/
structure SponsoredBuyDesk.Capped (k : SponsoredBuyDesk) : Prop where
  session : ∀ id root, k.soldInSession id root ≤ (k.sessions id).rootSessionCapGoat.val
  later : ∀ id root, k.sessionCount < id → k.soldInSession id root = 0
  day : ∀ day root, k.soldPerUtcDay day root ≤ k.dailyRootCapGoat.val

namespace SponsoredBuyDesk

variable {k k' : SponsoredBuyDesk}

theorem Counts.refl (k : SponsoredBuyDesk) : k.Counts k [] :=
  ⟨fun _ _ => rfl, fun _ _ => rfl, fun _ _ => rfl, le_rfl, rfl⟩

theorem Counts.trans {k₁ k₂ : SponsoredBuyDesk} {ss ts : List Sale} (h : k.Counts k₁ ss)
    (h' : k₁.Counts k₂ ts) : k.Counts k₂ (ss ++ ts) := by
  refine ⟨fun id root => ?_, fun day root => ?_, fun id hid => ?_,
    h.sessionCount.trans h'.sessionCount, h'.daily.trans h.daily⟩
  · rw [h'.session, h.session, Sale.total_append, Nat.add_assoc]
  · rw [h'.day, h.day, Sale.total_append, Nat.add_assoc]
  · rw [h'.caps id (hid.trans h.sessionCount), h.caps id hid]

theorem admin_counts {now : Nat} {sender : Address} {call : DeskAdmin}
    (h : k.admin now sender call = .ok k') : k.Counts k' [] ∧ (k.Capped → k'.Capped) := by
  cases call with
  | bindGatewayOnce gateway =>
      obtain ⟨_, -, _, -, _, -, h⟩ := bind_ok₃.mp h
      cases h
      exact ⟨⟨fun _ _ => rfl, fun _ _ => rfl, fun _ _ => rfl, le_rfl, rfl⟩,
        fun hk => ⟨hk.1, hk.2, hk.3⟩⟩
  | setBid bid =>
      obtain ⟨_, -, h⟩ := bind_ok.mp h
      cases h
      exact ⟨⟨fun _ _ => rfl, fun _ _ => rfl, fun _ _ => rfl, le_rfl, rfl⟩,
        fun hk => ⟨hk.1, hk.2, hk.3⟩⟩
  | openSession start stop rootSessionCapGoat =>
      obtain ⟨_, -, _, -, _, -, id, hid, h⟩ := bind_ok₄.mp h
      obtain ⟨-, rfl⟩ := checked_ok.mp hid
      cases h
      refine ⟨⟨fun _ _ => rfl, fun _ _ => rfl, fun id hid => ?_, Nat.le_succ _, rfl⟩, fun hk =>
        ⟨fun id root => ?_, fun id root hid => hk.later id root (Nat.lt_of_succ_lt hid), hk.day⟩⟩
      · have hne : id ≠ k.sessionCount + 1 := by omega
        show (update k.sessions (k.sessionCount + 1) _ id).rootSessionCapGoat = _
        rw [update_of_ne hne]
      · show k.soldInSession id root
          ≤ (update k.sessions (k.sessionCount + 1) _ id).rootSessionCapGoat.val
        rcases eq_or_ne id (k.sessionCount + 1) with rfl | hne
        · rw [hk.later _ root (Nat.lt_succ_self _)]
          exact Nat.zero_le _
        · rw [update_of_ne hne]
          exact hk.session id root
  | closeSession =>
      obtain ⟨_, -, h⟩ := bind_ok.mp h
      split at h
      · cases h
        exact ⟨.refl k, id⟩
      · cases h
        have hcaps : ∀ id, (update k.sessions k.sessionCount
            { k.sessions k.sessionCount with closed := true } id).rootSessionCapGoat
            = (k.sessions id).rootSessionCapGoat := by
          intro id
          rcases eq_or_ne id k.sessionCount with rfl | hne
          · rw [update_self]
          · rw [update_of_ne hne]
        refine ⟨⟨fun _ _ => rfl, fun _ _ => rfl, fun id _ => hcaps id, le_rfl, rfl⟩, fun hk =>
          ⟨fun id root => ?_, hk.later, hk.day⟩⟩
        show k.soldInSession id root ≤ (update k.sessions k.sessionCount
          { k.sessions k.sessionCount with closed := true } id).rootSessionCapGoat.val
        rw [hcaps]
        exact hk.session id root

theorem currentSession_some {now : Nat} (h : (k.currentSession now).1 ≠ 0) :
    (k.currentSession now).1 = k.sessionCount
      ∧ (k.currentSession now).2 = (k.sessions k.sessionCount).rootSessionCapGoat.val := by
  simp only [currentSession] at h ⊢
  split
  · rename_i hnone
    rw [if_pos hnone] at h
    exact absurd rfl h
  · exact ⟨rfl, rfl⟩

/-- The two checks of `sellFor` against the caps. -/
def Admits (k : SponsoredBuyDesk) (now : Nat) (root : Address) (goatAmount : Nat) : Prop :=
  k.soldInSession (k.currentSession now).1 root + goatAmount ≤ (k.currentSession now).2
    ∧ k.soldPerUtcDay (now / 86400) root + goatAmount ≤ k.dailyRootCapGoat.val

/-- The desk after a sale. -/
def sold (k : SponsoredBuyDesk) (id day : Nat) (root : Address) (goatAmount : Nat) :
    SponsoredBuyDesk :=
  { k with
    soldInSession := update k.soldInSession id
      (update (k.soldInSession id) root (k.soldInSession id root + goatAmount))
    soldPerUtcDay := update k.soldPerUtcDay day
      (update (k.soldPerUtcDay day) root (k.soldPerUtcDay day root + goatAmount)) }

theorem update_count (f : Nat → Address → Nat) (i : Nat) (root : Address)
    (n j : Nat) (r : Address) :
    update f i (update (f i) root (f i root + n)) j r
      = f j r + if i = j ∧ root = r then n else 0 := by
  rcases eq_or_ne j i with rfl | hj
  · rw [update_self]
    rcases eq_or_ne r root with rfl | hr
    · rw [update_self, if_pos ⟨rfl, rfl⟩]
    · rw [update_of_ne hr, if_neg fun h => hr h.2.symm, Nat.add_zero]
  · rw [update_of_ne hj, if_neg fun h => hj h.1.symm, Nat.add_zero]

theorem sold_counts (k : SponsoredBuyDesk) (s : Sale) :
    k.Counts (k.sold s.session s.day s.root s.amount) [s] :=
  ⟨fun id root => update_count k.soldInSession s.session s.root s.amount id root,
    fun day root => update_count k.soldPerUtcDay s.day s.root s.amount day root,
    fun _ _ => rfl, le_rfl, rfl⟩

theorem sold_capped {now : Nat} {root : Address} {goatAmount : Nat} (hk : k.Capped)
    (hopen : (k.currentSession now).1 ≠ 0) (hadmits : k.Admits now root goatAmount) :
    (k.sold (k.currentSession now).1 (now / 86400) root goatAmount).Capped := by
  obtain ⟨hid, hcap⟩ := currentSession_some hopen
  obtain ⟨hsession, hday⟩ := hadmits
  rw [hcap] at hsession
  rw [hid] at hsession ⊢
  refine ⟨fun id r => ?_, fun id r hlater => ?_, fun day r => ?_⟩
  · refine le_of_eq_of_le (update_count k.soldInSession k.sessionCount root goatAmount id r) ?_
    split
    · rename_i heq
      rw [← heq.1, ← heq.2]
      exact hsession
    · exact hk.session id r
  · refine (update_count k.soldInSession k.sessionCount root goatAmount id r).trans ?_
    rw [if_neg fun heq => (Nat.ne_of_lt hlater) heq.1]
    exact hk.later id r hlater
  · refine le_of_eq_of_le (update_count k.soldPerUtcDay (now / 86400) root goatAmount day r) ?_
    split
    · rename_i heq
      rw [← heq.1, ← heq.2]
      exact hday
    · exact hk.day day r

end SponsoredBuyDesk

namespace DeskSite

variable {d : DeskSite} {w w' : World} {k : SaleCall}

/-- What a call keeps: the desk counts its sale, and wallets stay with their roots. -/
structure Kept (d : DeskSite) (w w' : World) (sales : List Sale) : Prop where
  counts : (w.desks d.desk).Counts (w'.desks d.desk) sales
  capped : (w.desks d.desk).Capped → (w'.desks d.desk).Capped
  grows : w.wallets.Grows w'.wallets
  rooted : ∀ s ∈ sales, s.root ≠ 0 ∧ w'.wallets.primaryOf s.seller = s.root

theorem Kept.refl (d : DeskSite) (w : World) : d.Kept w w [] :=
  ⟨.refl _, id, .refl _, fun _ h => absurd h List.not_mem_nil⟩

theorem Kept.trans {w₁ w₂ : World} {ss ts : List Sale} (h : d.Kept w w₁ ss) (h' : d.Kept w₁ w₂ ts) :
    d.Kept w w₂ (ss ++ ts) := by
  refine ⟨h.counts.trans h'.counts, h'.capped ∘ h.capped, h.grows.trans h'.grows, fun s hs => ?_⟩
  rcases List.mem_append.mp hs with hs | hs
  · obtain ⟨hne, hroot⟩ := h.rooted s hs
    refine ⟨hne, ?_⟩
    rw [h'.grows.primaryOf s.seller (hroot ▸ hne), hroot]
  · exact h'.rooted s hs

theorem sell_kept {x : DeskSale} {r : World × Address × Nat × Nat} (h : d.sellFor w x = .ok r) :
    d.Kept w r.1 [⟨x.seller, w.wallets.primaryOf x.seller, x.goatAmount.val,
      ((w.desks d.desk).currentSession w.now).1, w.now / 86400⟩] := by
  obtain ⟨w', root, gross, net⟩ := r
  have hsold := World.sellFor_ok h
  have hdesk : w'.desks d.desk = (w.desks d.desk).sold ((w.desks d.desk).currentSession w.now).1
      (w.now / 86400) (w.wallets.primaryOf x.seller) x.goatAmount.val := by
    rw [hsold.rest]
    exact update_self d.desk _ w.desks
  have hwallets : w'.wallets = w.wallets := by rw [hsold.rest]
  refine ⟨?_, fun hk => ?_, ?_, fun s hs => ?_⟩
  · rw [hdesk]
    exact SponsoredBuyDesk.sold_counts _
      ⟨x.seller, w.wallets.primaryOf x.seller, x.goatAmount.val, _, w.now / 86400⟩
  · rw [hdesk]
    exact SponsoredBuyDesk.sold_capped hk hsold.session ⟨hsold.sessionCap, hsold.dailyCap⟩
  · rw [hwallets]
    exact .refl _
  · rw [List.mem_singleton.mp hs, hwallets]
    exact ⟨hsold.root, rfl⟩

theorem act_kept (d : DeskSite) (w : World) (k : SaleCall) :
    d.Kept w (attempt d.act w k) (d.sale? w k).toList := by
  cases k with
  | sell x =>
      cases hsell : d.sellFor w x with
      | error e =>
          have hact : attempt d.act w (.sell x) = w := by
            rw [attempt, act, hsell]
            rfl
          rw [hact, sale?, hsell]
          exact .refl d w
      | ok r =>
          have hact : attempt d.act w (.sell x) = r.1 := by
            rw [attempt, act, hsell]
            rfl
          rw [hact, sale?, hsell]
          exact sell_kept hsell
  | admin sender call =>
      rcases attempt_cases d.act w (.admin sender call) with ⟨h, -⟩ | h
      · rw [h]
        exact .refl d w
      · obtain ⟨desk, hdesk, h⟩ := bind_ok.mp h
        rw [← Except.ok.inj h]
        obtain ⟨hcounts, hcapped⟩ := SponsoredBuyDesk.admin_counts hdesk
        have hself := update_self d.desk desk w.desks
        refine ⟨?_, ?_, .refl _, fun _ h => absurd h List.not_mem_nil⟩
        · show (w.desks d.desk).Counts (update w.desks d.desk desk d.desk) []
          rw [hself]
          exact hcounts
        · show (w.desks d.desk).Capped → (update w.desks d.desk desk d.desk).Capped
          rw [hself]
          exact hcapped
  | wallets call =>
      rcases attempt_cases d.act w (.wallets call) with ⟨h, -⟩ | h
      · rw [h]
        exact .refl d w
      · obtain ⟨c, hc, h⟩ := bind_ok.mp h
        rw [← Except.ok.inj h]
        exact ⟨.refl _, id, WalletSite.act_grows hc, fun _ h => absurd h List.not_mem_nil⟩
  | tokens tokens => exact ⟨.refl _, id, .refl _, fun _ h => absurd h List.not_mem_nil⟩

/-! ## Every run -/

theorem run_kept (d : DeskSite) (ks : List SaleCall) (w : World) :
    d.Kept w (d.run w ks) (d.sales w ks) := by
  induction ks generalizing w with
  | nil => exact .refl d w
  | cons k ks ih => exact (act_kept d w k).trans (ih (attempt d.act w k))

end DeskSite

theorem SponsoredBuyDesk.new_capped {owner usdt goat registry sponsorship feeSafe : Address}
    {dailyRootCapGoat : Uint256} {k : SponsoredBuyDesk}
    (h : new owner usdt goat registry sponsorship feeSafe dailyRootCapGoat = .ok k) :
    k.Capped ∧ (∀ id root, k.soldInSession id root = 0) ∧ (∀ day root, k.soldPerUtcDay day root = 0)
      ∧ k.dailyRootCapGoat = dailyRootCapGoat := by
  obtain ⟨_, -, h⟩ := bind_ok.mp h
  cases h
  exact ⟨⟨fun _ _ => Nat.zero_le _, fun _ _ _ => rfl, fun _ _ => Nat.zero_le _⟩, fun _ _ => rfl,
    fun _ _ => rfl, rfl⟩

/-- In every run from a new desk, all the wallets that have a root by now sold together at most the
daily cap on a day, and at most its cap in a session; and from any moment on they sell together, in
the session and on the day of that moment, no more than one of them could have sold at once. -/
theorem sell_caps (d : DeskSite) {start : World}
    {owner usdt goat registry sponsorship feeSafe : Address} {dailyRootCapGoat : Uint256}
    (hnew : SponsoredBuyDesk.new owner usdt goat registry sponsorship feeSafe dailyRootCapGoat
      = .ok (start.desks d.desk)) (ks : List SaleCall) (root : Address) :
    (∀ day, Sale.total (fun s => s.day = day ∧ (d.run start ks).wallets.primaryOf s.seller = root)
        (d.sales start ks) ≤ dailyRootCapGoat.val)
      ∧ (∀ id, Sale.total
          (fun s => s.session = id ∧ (d.run start ks).wallets.primaryOf s.seller = root)
          (d.sales start ks)
        ≤ (((d.run start ks).desks d.desk).sessions id).rootSessionCapGoat.val)
      ∧ ∀ later, (((d.run start ks).desks d.desk).currentSession (d.run start ks).now).1 ≠ 0 →
        ((d.run start ks).desks d.desk).Admits (d.run start ks).now root
          (Sale.total (fun s =>
              s.session = (((d.run start ks).desks d.desk).currentSession (d.run start ks).now).1
                ∧ s.day = (d.run start ks).now / 86400
                ∧ (d.run start (ks ++ later)).wallets.primaryOf s.seller = root)
            (d.sales (d.run start ks) later)) := by
  obtain ⟨hcapped, hsession, hday, hdaily⟩ := SponsoredBuyDesk.new_capped hnew
  have hks := d.run_kept ks start
  have hnow := hks.capped hcapped
  refine ⟨fun day => ?_, fun id => ?_, fun later hopen => ?_⟩
  · calc Sale.total (fun s => s.day = day ∧ (d.run start ks).wallets.primaryOf s.seller = root)
          (d.sales start ks)
        = Sale.total (fun s => s.day = day ∧ s.root = root) (d.sales start ks) :=
          Sale.total_congr fun s hs => by rw [(hks.rooted s hs).2]
      _ = ((d.run start ks).desks d.desk).soldPerUtcDay day root := by
          rw [hks.counts.day, hday, Nat.zero_add]
      _ ≤ dailyRootCapGoat.val := by
          rw [← hdaily, ← hks.counts.daily]
          exact hnow.day day root
  · calc Sale.total (fun s => s.session = id ∧ (d.run start ks).wallets.primaryOf s.seller = root)
          (d.sales start ks)
        = Sale.total (fun s => s.session = id ∧ s.root = root) (d.sales start ks) :=
          Sale.total_congr fun s hs => by rw [(hks.rooted s hs).2]
      _ = ((d.run start ks).desks d.desk).soldInSession id root := by
          rw [hks.counts.session, hsession, Nat.zero_add]
      _ ≤ (((d.run start ks).desks d.desk).sessions id).rootSessionCapGoat.val :=
        hnow.session id root
  · rw [d.run_append]
    have hlater := d.run_kept later (d.run start ks)
    have hend := hlater.capped hnow
    obtain ⟨hid, hcap⟩ := SponsoredBuyDesk.currentSession_some hopen
    have htotal : Sale.total (fun s =>
          s.session = (((d.run start ks).desks d.desk).currentSession (d.run start ks).now).1
            ∧ s.day = (d.run start ks).now / 86400
            ∧ (d.run (d.run start ks) later).wallets.primaryOf s.seller = root)
          (d.sales (d.run start ks) later)
        = Sale.total (fun s => s.session = ((d.run start ks).desks d.desk).sessionCount
            ∧ s.day = (d.run start ks).now / 86400 ∧ s.root = root)
          (d.sales (d.run start ks) later) :=
      Sale.total_congr fun s hs => by rw [(hlater.rooted s hs).2, hid]
    rw [htotal]
    constructor
    · have hle := hend.session ((d.run start ks).desks d.desk).sessionCount root
      rw [hlater.counts.session, hlater.counts.caps _ le_rfl] at hle
      rw [hcap, hid]
      exact le_trans (Nat.add_le_add_left (Sale.total_mono (fun s h => ⟨h.1, h.2.2⟩) _) _) hle
    · have hle := hend.day ((d.run start ks).now / 86400) root
      rw [hlater.counts.day, hlater.counts.daily] at hle
      exact le_trans (Nat.add_le_add_left (Sale.total_mono (fun s h => ⟨h.2.1, h.2.2⟩) _) _) hle

/-! A new desk opens a session, and the account 7 is linked to the root 5 between two sales. -/

def sampleDesk : SponsoredBuyDesk where
  owner := 6
  usdt := 26
  goat := 24
  feeSafe := 25
  dailyRootCapGoat := 150
  gateway := 0
  gatewayBound := false
  bid := 10000
  sessionCount := 0
  sessions := fun _ => ⟨0, 0, 0, false⟩
  soldInSession := fun _ _ => 0
  soldPerUtcDay := fun _ _ => 0

def sampleDeskWorld : World := { sampleRelayWorld with desks := fun _ => sampleDesk }

def sampleDeskSite : DeskSite := ⟨sampleWallets, 30⟩

def sampleDeskSale (seller : Address) : SaleCall :=
  .sell ⟨20, seller, 5, 60, 0, 0, ⟨seller, 30, 60, 500, 27, Fin.ofNat _ seller.val, 0⟩⟩

def sampleDeskRun : List SaleCall :=
  [.admin 6 (.bindGatewayOnce 20), .admin 6 (.setBid (2 * 10 ^ 18)),
    .admin 6 (.openSession 0 100 140),
   sampleDeskSale 5,
   .wallets (.wallets 20 (.linkSecondary ⟨5, 7, 0, 500⟩ (sampleSigned 7) .zero [])),
   .tokens fun token => if token = 24 then sampleTokenOf 7 fun _ _ =>
   0 else sampleDeskWorld.tokens token, sampleDeskSale 7, sampleDeskSale 7]

theorem sell_caps_sample :
    (sampleDeskSite.sales sampleDeskWorld sampleDeskRun).map (fun s => (s.seller, s.amount))
        = [(5, 60), (7, 60)]
      ∧ Sale.total (fun s => s.day = 0
          ∧ (sampleDeskSite.run sampleDeskWorld sampleDeskRun).wallets.primaryOf s.seller = 5)
        (sampleDeskSite.sales sampleDeskWorld sampleDeskRun) ≤ 150 :=
  have hnew : SponsoredBuyDesk.new 6 26 24 21 23 25 150 = .ok (sampleDeskWorld.desks 30) := rfl
  ⟨by decide +kernel, (sell_caps sampleDeskSite hnew sampleDeskRun 5).1 0⟩

end GoatCoin
