/-
# `GoatCoin.Worker.Throttle` — `caps.rs`: the token bucket, and the rate it holds to

A debit that finds too few tokens takes them all and hands out a wait for the rest:

    refill   min (tokens + rate · elapsed) capacity
    take     bytes ≤ tokens     tokens - bytes, no wait
             bytes > tokens     0, and a wait for bytes - tokens

The rest is nowhere kept.  The next refill counts all of the time since, the wait as well, so that
what was waited for is credited a second time.  The rate is held to where it is not: nothing was
owed, or the bucket would have been full again with the wait left out.
-/
import Mathlib.Algebra.Order.Floor.Div
import Mathlib.Tactic.Ring
import Mathlib.GroupTheory.GroupAction.Ring
import GoatCoin.Worker.Ledger

namespace GoatCoin.Worker

/-! ## The bucket -/

/-- The throttle's half that is kept in memory. -/
structure BucketState where
  tokens : Nat
  lastRefillUnix : Nat

/-- The tokens after a refill, by arithmetic that saturates. -/
def TokenBucket.refilled (bucket : TokenBucket) (state : BucketState) (nowUnix : Nat) : Nat :=
  let lastRefillUnix := if state.lastRefillUnix = 0 then nowUnix else state.lastRefillUnix
  let elapsed := nowUnix - lastRefillUnix
  min (min (state.tokens + min (elapsed * bucket.rateBytesPerSec) (2 ^ 64 - 1)) (2 ^ 64 - 1))
    bucket.capacityBytes

/-- `charge_bucket`: the state after, and the wait in milliseconds. -/
def TokenBucket.chargeBucket (bucket : TokenBucket) (state : BucketState)
    (bytes nowUnix : Nat) : BucketState × Nat :=
  if bucket.rateBytesPerSec = 0 then (state, 0)
  else
    let tokens := bucket.refilled state nowUnix
    if bytes ≤ tokens then ({ tokens := tokens - bytes, lastRefillUnix := nowUnix }, 0)
    else
      let deficit := bytes - tokens
      let millis := min (deficit * 1000) (2 ^ 64 - 1) ⌈/⌉ bucket.rateBytesPerSec
      ({ tokens := 0, lastRefillUnix := nowUnix }, millis)

/-- A ledger with its throttle. -/
structure ThrottledLedger where
  ledger : EgressLedger
  bucket : TokenBucket
  state : BucketState

namespace ThrottledLedger

def new (file : LedgerFile) (ceilingBytes : Nat) (bucket : TokenBucket) : ThrottledLedger where
  ledger := .new file ceilingBytes
  bucket := bucket
  state := { tokens := bucket.capacityBytes, lastRefillUnix := 0 }

/-- `spend`: the debit, and the bucket after one that succeeded. -/
def spend (l : ThrottledLedger) (bytes nowUnix : Nat) (saveError : Option String) :
    ThrottledLedger × Except CapError Nat :=
  match l.ledger.spend bytes nowUnix saveError with
  | (ledger, .error e) => ({ l with ledger := ledger }, .error e)
  | (ledger, .ok ()) =>
      let (state, wait) := l.bucket.chargeBucket l.state bytes nowUnix
      ({ l with ledger := ledger, state := state }, .ok wait)

/-- The tokens that a debit finds. -/
def available (l : ThrottledLedger) (nowUnix : Nat) : Nat := l.bucket.refilled l.state nowUnix

/-- What a debit takes that is not there. -/
def owed (l : ThrottledLedger) (bytes nowUnix : Nat) : Nat := bytes - l.available nowUnix

end ThrottledLedger

/-! ## Runs -/

/-- A debit that succeeded, with what was owed after it and the wait it returned. -/
structure Spend where
  bytes : Nat
  nowUnix : Nat
  owed : Nat
  wait : Nat

/-- The debits of a run that succeeded. -/
inductive Spends : ThrottledLedger → List Spend → Prop
  | nil {l : ThrottledLedger} : Spends l []
  | spent {l l' : ThrottledLedger} {bytes nowUnix wait : Nat} {saveError : Option String}
    {spends : List Spend} :
      l.spend bytes nowUnix saveError = (l', .ok wait) → Spends l' spends →
      Spends l (⟨bytes, nowUnix, l.owed bytes nowUnix, wait⟩ :: spends)
  | refused {l l' : ThrottledLedger} {bytes nowUnix : Nat} {e : CapError}
    {saveError : Option String}
      {spends : List Spend} : l.spend bytes nowUnix saveError = (l', .error e) →
      Spends l' spends → Spends l spends

/-- The caller waits as it is told to, in whole seconds. -/
def Paced (spends : List Spend) : Prop :=
  spends.IsChain fun a b => a.nowUnix + a.wait ⌈/⌉ 1000 ≤ b.nowUnix

/-- Nothing is owed, or the bucket is full again without the time that was waited for it. -/
def Repaid (bucket : TokenBucket) (spends : List Spend) : Prop :=
  spends.IsChain fun a b =>
    a.owed = 0 ∨ bucket.capacityBytes + a.owed ≤ bucket.rateBytesPerSec * (b.nowUnix - a.nowUnix)

/-- What was moved up to the last debit is within the burst and the rate. -/
def RateBound (bucket : TokenBucket) (first : Spend) (rest : List Spend) : Prop :=
  let last := (first :: rest).getLast (List.cons_ne_nil first rest)
  ((first :: rest).map (·.bytes)).sum
    ≤ bucket.capacityBytes + bucket.rateBytesPerSec * (last.nowUnix - first.nowUnix) + last.bytes

/-! ## One debit -/

section
variable {bucket : TokenBucket} {state : BucketState} {bytes nowUnix : Nat}

theorem refilled_le_capacity : bucket.refilled state nowUnix ≤ bucket.capacityBytes :=
  Nat.min_le_right _ _

theorem refilled_le_rate (h : state.lastRefillUnix ≠ 0) :
    bucket.refilled state nowUnix
      ≤ state.tokens + bucket.rateBytesPerSec * (nowUnix - state.lastRefillUnix) := by
  unfold TokenBucket.refilled
  dsimp only
  rw [if_neg h, Nat.mul_comm bucket.rateBytesPerSec]
  exact (Nat.min_le_left _ _).trans
    ((Nat.min_le_left _ _).trans (Nat.add_le_add_left (Nat.min_le_left _ _) _))

/-- **What a charge leaves**: the bytes come from the tokens that are there, and the rest is
owed. -/
theorem chargeBucket_spec (hrate : bucket.rateBytesPerSec ≠ 0) :
    bytes + (bucket.chargeBucket state bytes nowUnix).1.tokens
        = bucket.refilled state nowUnix + (bytes - bucket.refilled state nowUnix)
      ∧ (bucket.chargeBucket state bytes nowUnix).1.lastRefillUnix = nowUnix
      ∧ (bucket.chargeBucket state bytes nowUnix).2
        = min ((bytes - bucket.refilled state nowUnix) * 1000) (2 ^ 64 - 1)
        ⌈/⌉ bucket.rateBytesPerSec := by
  unfold TokenBucket.chargeBucket
  rw [if_neg hrate]
  dsimp only
  by_cases h : bytes ≤ bucket.refilled state nowUnix
  · rw [if_pos h, Nat.sub_eq_zero_of_le h]
    refine ⟨?_, rfl, ?_⟩
    · dsimp only
      omega
    · rw [Nat.zero_mul, Nat.zero_min]
      exact (zero_ceilDiv _).symm
  · rw [if_neg h]
    refine ⟨?_, rfl, rfl⟩
    dsimp only
    omega

end

theorem owed_le_rate {rate owed seconds : Nat} (hrate : 0 < rate)
    (hsmall : owed * 1000 ≤ 2 ^ 64 - 1)
    (h : (min (owed * 1000) (2 ^ 64 - 1) ⌈/⌉ rate) ⌈/⌉ 1000 ≤ seconds) : owed ≤ rate * seconds := by
  rw [Nat.min_eq_left hsmall, ceilDiv_le_iff_le_mul (by decide), ceilDiv_le_iff_le_mul hrate] at h
  have hmul : rate * (1000 * seconds) = rate * seconds * 1000 := by ring
  rw [hmul] at h
  exact Nat.le_of_mul_le_mul_right h (by decide)

theorem bytes_le_of_spend {l l' : EgressLedger} {bytes nowUnix : Nat} {saveError : Option String}
    (h : l.spend bytes nowUnix saveError = (l', .ok ())) : bytes ≤ maxDailyByteCap := by
  unfold EgressLedger.spend at h
  split at h
  · cases h
  · dsimp only at h
    split at h
    · split at h
      · cases h
      · cases h
    · rename_i spent _ hle
      have hcap := l.band.2
      rw [min_gt_ceiling_iff] at hle
      omega

namespace ThrottledLedger

variable {l l' : ThrottledLedger} {bytes nowUnix wait : Nat} {saveError : Option String}

/-- **A debit that succeeded**: the bucket was charged. -/
theorem spend_ok (h : l.spend bytes nowUnix saveError = (l', .ok wait)) :
    bytes ≤ maxDailyByteCap ∧ l'.bucket = l.bucket
      ∧ (l'.state, wait) = l.bucket.chargeBucket l.state bytes nowUnix := by
  unfold spend at h
  split at h
  · cases h
  · rename_i ledger hdebit
    obtain ⟨rfl, hwait⟩ := Prod.mk.inj h
    cases hwait
    exact ⟨bytes_le_of_spend hdebit, rfl, rfl⟩

theorem spend_error {e : CapError} (h : l.spend bytes nowUnix saveError = (l', .error e)) :
    l'.bucket = l.bucket ∧ l'.state = l.state := by
  unfold spend at h
  split at h
  · obtain ⟨rfl, -⟩ := Prod.mk.inj h
    exact ⟨rfl, rfl⟩
  · cases h

end ThrottledLedger

/-! ## A whole run -/

theorem owed_small {bytes available : Nat} (h : bytes ≤ maxDailyByteCap) :
    (bytes - available) * 1000 ≤ 2 ^ 64 - 1 := by
  unfold maxDailyByteCap at h
  omega

/-- A debit that follows one that was charged in time finds no more than the rate brought, less what
was owed. -/
theorem available_after {l l' : ThrottledLedger} {bytes nowUnix later wait : Nat}
    {saveError : Option String} (hrate : l.bucket.rateBytesPerSec ≠ 0) (hstart : 0 < nowUnix)
    (h : l.spend bytes nowUnix saveError = (l', .ok wait))
    (hrepaid : l.owed bytes nowUnix = 0 ∨ l.bucket.capacityBytes + l.owed bytes nowUnix
      ≤ l.bucket.rateBytesPerSec * (later - nowUnix)) :
    bytes + l'.available later
      ≤ l.available nowUnix + l.bucket.rateBytesPerSec * (later - nowUnix) := by
  obtain ⟨-, hbucket, hcharge⟩ := ThrottledLedger.spend_ok h
  obtain ⟨htaken, hlast, -⟩ := @chargeBucket_spec l.bucket l.state bytes nowUnix hrate
  rw [← hcharge] at htaken hlast
  dsimp only at htaken hlast
  have hcapacity : l'.available later ≤ l.bucket.capacityBytes := by
    rw [← hbucket]
    exact refilled_le_capacity
  have hgain : l'.available later
      ≤ l'.state.tokens + l.bucket.rateBytesPerSec * (later - nowUnix) := by
    have hcharged : l'.state.lastRefillUnix ≠ 0 := by
      rw [hlast]
      exact Nat.pos_iff_ne_zero.mp hstart
    unfold ThrottledLedger.available
    rw [← hbucket, ← hlast]
    exact refilled_le_rate hcharged
  unfold ThrottledLedger.owed ThrottledLedger.available at hrepaid
  unfold ThrottledLedger.available at hcapacity hgain ⊢
  omega

theorem owed_le_of_paced {l l' : ThrottledLedger} {bytes nowUnix later wait : Nat}
    {saveError : Option String}
    (hrate : l.bucket.rateBytesPerSec ≠ 0) (h : l.spend bytes nowUnix saveError = (l', .ok wait))
    (hpaced : nowUnix + wait ⌈/⌉ 1000 ≤ later) :
    l.owed bytes nowUnix ≤ l.bucket.rateBytesPerSec * (later - nowUnix) := by
  obtain ⟨hcap, -, hcharge⟩ := ThrottledLedger.spend_ok h
  obtain ⟨-, -, hwait⟩ := @chargeBucket_spec l.bucket l.state bytes nowUnix hrate
  rw [← hcharge] at hwait
  have hpos : 0 < l.bucket.rateBytesPerSec := Nat.pos_of_ne_zero hrate
  have hsmall : l.owed bytes nowUnix * 1000 ≤ 2 ^ 64 - 1 := owed_small hcap
  have howed : wait = min (l.owed bytes nowUnix * 1000) (2 ^ 64 - 1) ⌈/⌉ l.bucket.rateBytesPerSec :=
    hwait
  rw [howed] at hpaced
  exact owed_le_rate hpos hsmall (Nat.le_sub_of_add_le' hpaced)

theorem nowUnix_le_last {rest : List Spend} : ∀ {first : Spend}, Paced (first :: rest) →
    first.nowUnix ≤ ((first :: rest).getLast (List.cons_ne_nil first rest)).nowUnix := by
  induction rest with
  | nil =>
      intro first _
      exact le_rfl
  | cons second rest ih =>
      intro first hpaced
      obtain ⟨hnext, hrest⟩ := List.isChain_cons_cons.mp hpaced
      rw [List.getLast_cons_cons]
      exact (Nat.le_add_right _ _).trans (hnext.trans (ih hrest))

/-- **The bound from any state**: the tokens that are there take the place of the burst. -/
theorem sum_le_of_repaid {bucket : TokenBucket} (hrate : bucket.rateBytesPerSec ≠ 0)
    {l : ThrottledLedger}
    {spends : List Spend} (h : Spends l spends) : ∀ {first : Spend} {rest : List Spend},
    spends = first :: rest →
      l.bucket = bucket → 0 < first.nowUnix → Paced (first :: rest) →
      Repaid bucket (first :: rest).dropLast →
      ((first :: rest).map (·.bytes)).sum ≤ l.available first.nowUnix
        + bucket.rateBytesPerSec
          * (((first :: rest).getLast (List.cons_ne_nil first rest)).nowUnix - first.nowUnix)
        + ((first :: rest).getLast (List.cons_ne_nil first rest)).bytes := by
  induction h with
  | nil =>
      intro first rest hspends
      cases hspends
  | refused hspend _ ih =>
      intro first rest hspends hbucket hstart hpaced hrepaid
      obtain ⟨hsame, hstate⟩ := ThrottledLedger.spend_error hspend
      have hbound := ih hspends (hsame.trans hbucket) hstart hpaced hrepaid
      unfold ThrottledLedger.available at hbound ⊢
      rwa [hsame, hstate] at hbound
  | @spent l l' bytes nowUnix wait saveError spends hspend _ ih =>
      rintro first rest heq rfl hstart hpaced hrepaid
      obtain ⟨rfl, hrest⟩ := List.cons.inj heq
      subst hrest
      obtain ⟨-, hsame, -⟩ := ThrottledLedger.spend_ok hspend
      cases spends with
      | nil =>
          rw [List.map_singleton, List.sum_singleton]
          exact Nat.le_add_left _ _
      | cons second rest =>
          obtain ⟨hnext, hlater⟩ := List.isChain_cons_cons.mp hpaced
          have hmonotone : nowUnix ≤ second.nowUnix := (Nat.le_add_right _ _).trans hnext
          have hsecond := ih rfl hsame (hstart.trans_le hmonotone) hlater
          rw [List.map_cons, List.sum_cons, List.getLast_cons_cons]
          cases rest with
          | nil =>
              -- the last debit is not in the bound, and what was owed before it has been waited for
              have howed := owed_le_of_paced hrate hspend hnext
              unfold ThrottledLedger.owed at howed
              rw [List.map_singleton, List.sum_singleton]
              dsimp only [List.getLast_singleton]
              omega
          | cons third rest =>
              obtain ⟨hfirst, hothers⟩ := List.isChain_cons_cons.mp hrepaid
              have havailable := available_after hrate hstart hspend hfirst
              dsimp only at havailable
              have hbound := hsecond hothers
              have hlast := nowUnix_le_last hlater
              have hsplit : l.bucket.rateBytesPerSec
                  * (((second :: third :: rest).getLast (List.cons_ne_nil _ _)).nowUnix - nowUnix)
                  = l.bucket.rateBytesPerSec * (second.nowUnix - nowUnix) + l.bucket.rateBytesPerSec
                    * (((second :: third :: rest).getLast (List.cons_ne_nil _ _)).nowUnix
                      - second.nowUnix) := by
                rw [← Nat.mul_add]
                congr 1
                omega
              dsimp only
              omega

/-- **The rate is held to in a run that credits no wait twice.** -/
theorem rate_bound_of_repaid (file : LedgerFile) (ceilingBytes : Nat)
    (bucket : TokenBucket) (first : Spend) (rest : List Spend) (hrate : 0 < bucket.rateBytesPerSec)
    (h : Spends (.new file ceilingBytes bucket) (first :: rest)) (hstart : 0 < first.nowUnix)
    (hpaced : Paced (first :: rest)) (hrepaid : Repaid bucket (first :: rest).dropLast) :
    RateBound bucket first rest := by
  have hne : bucket.rateBytesPerSec ≠ 0 :=
    fun hzero => absurd hrate (by rw [hzero]; exact lt_irrefl _)
  have hbound := sum_le_of_repaid hne h rfl rfl hstart hpaced hrepaid
  have hfull : (ThrottledLedger.new file ceilingBytes bucket).available first.nowUnix
      ≤ bucket.capacityBytes := refilled_le_capacity
  unfold RateBound
  dsimp only
  omega

/-- Eight thousand bytes a second, and as many in a burst. -/
def sampleBucket : TokenBucket := ⟨8000, 8000⟩

theorem debit {l l' : ThrottledLedger} {bytes nowUnix wait : Nat} {spends : List Spend}
    (h : l.spend bytes nowUnix none = (l', .ok wait)) (hrest : Spends l' spends) :
    Spends l (⟨bytes, nowUnix, l.owed bytes nowUnix, wait⟩ :: spends) :=
  .spent h hrest

/-- Debits that each owe as much as a second brings, two seconds apart and one. -/
def sampleRepaid : List Spend :=
  [⟨16000, 100, 8000, 1000⟩, ⟨8000, 102, 0, 0⟩, ⟨16000, 103, 8000, 1000⟩]

theorem rate_bound_sample : RateBound sampleBucket ⟨16000, 100, 8000, 1000⟩ sampleRepaid.tail := by
  have hrun : Spends (.new .absent 10000000000 sampleBucket) sampleRepaid :=
    debit rfl (debit rfl (debit rfl .nil))
  refine rate_bound_of_repaid .absent 10000000000 sampleBucket _ sampleRepaid.tail (by decide) hrun
    (by decide) ?_ ?_
  · unfold Paced
    decide
  · unfold Repaid
    decide

/-- Debits of twice the burst, each after the wait of the one before. -/
def sampleTwice : List Spend := [⟨16000, 100, 8000, 1000⟩, ⟨16000, 101, 8000, 1000⟩, ⟨1, 102, 0, 0⟩]

/-- The second of the wait is paid in full by the wait, and brings the burst back. -/
theorem wait_credited_twice :
    Spends (.new .absent 10000000000 sampleBucket) sampleTwice ∧ Paced sampleTwice
      ∧ ¬ RateBound sampleBucket ⟨16000, 100, 8000, 1000⟩ sampleTwice.tail := by
  refine ⟨?_, ?_, ?_⟩
  · exact debit rfl (debit rfl (debit rfl .nil))
  · unfold Paced
    decide
  · unfold RateBound
    decide

end GoatCoin.Worker
