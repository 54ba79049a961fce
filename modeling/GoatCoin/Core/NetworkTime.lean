/-
# `GoatCoin.Core.NetworkTime` — the laws of the network clock

Logical time is the local clock moved by the clamped median offset and floored at
genesis.  Each of the three layers keeps two laws, and so does their composition:

    local time  →  saturating add or sub  →  max with the floor
    monotone       monotone                  monotone
    1-Lipschitz    1-Lipschitz               1-Lipschitz

The first keeps an honest cookie out of the future, the second out of the past, so
that the freshness window never shrinks (`honest_cookie_accepted`).

The median is where a strict majority of the samples lies, and the ring never holds
an address twice: a known address is updated in place and only an absent one is
pushed (`Ring.nodup_push`).
-/
import GoatCoin.Lib.Ranking
import GoatCoin.Core.CookieWindow

namespace GoatCoin

open Wire

/-! ## Saturating arithmetic -/

theorem toNat_saturatingAdd (a : UInt64) (b : Nat) :
    (saturatingAdd a b).toNat = min (a.toNat + b) (2 ^ 64 - 1) := by
  rw [saturatingAdd, UInt64.toNat_ofNat']
  omega

theorem toNat_saturatingSub (a : UInt64) (b : Nat) : (saturatingSub a b).toNat = a.toNat - b := by
  have ha := a.toNat_lt
  rw [saturatingSub, UInt64.toNat_ofNat']
  omega

theorem toNat_max (a b : UInt64) : (max a b).toNat = max a.toNat b.toNat := by
  show (if a ≤ b then b else a).toNat = max a.toNat b.toNat
  split
  · rename_i h
    rw [UInt64.le_iff_toNat_le] at h
    omega
  · rename_i h
    rw [UInt64.le_iff_toNat_le] at h
    omega

namespace NetworkClock

/-! ## Logical time -/

theorem toNat_logicalNow (clock : NetworkClock) (localTime : UInt64) :
    (clock.logicalNow localTime).toNat
      = max (if 0 ≤ clock.offset then min (localTime.toNat + clock.offset.toNat) (2 ^ 64 - 1)
          else localTime.toNat - clock.offset.natAbs) clock.genesisFloor.toNat := by
  unfold logicalNow
  rw [toNat_max]
  split
  · rw [toNat_saturatingAdd]
  · rw [toNat_saturatingSub]

/-- **Logical time is monotone** in local time. -/
theorem logicalNow_mono (clock : NetworkClock) {s t : UInt64} (h : s ≤ t) :
    clock.logicalNow s ≤ clock.logicalNow t := by
  rw [UInt64.le_iff_toNat_le] at h ⊢
  rw [toNat_logicalNow, toNat_logicalNow]
  split <;> omega

/-- **Logical time advances no faster than local time.** -/
theorem logicalNow_lipschitz (clock : NetworkClock) {s t : UInt64} (h : s ≤ t) :
    (clock.logicalNow t).toNat - (clock.logicalNow s).toNat ≤ t.toNat - s.toNat := by
  rw [UInt64.le_iff_toNat_le] at h
  rw [toNat_logicalNow, toNat_logicalNow]
  split <;> omega

end NetworkClock

/-! ## Honest cookies -/

theorem cookieExpired_eq_false {s t maxCookieAge : UInt64} (hst : s ≤ t)
    (hage : t.toNat - s.toNat ≤ maxCookieAge.toNat) : cookieExpired s t maxCookieAge = false := by
  rw [UInt64.le_iff_toNat_le] at hst
  have hs := s.toNat_lt
  rw [cookieExpired, Bool.or_eq_false_iff, decide_eq_false_iff_not, decide_eq_false_iff_not,
    UInt64.not_lt, UInt64.not_lt, UInt64.le_iff_toNat_le, UInt64.le_iff_toNat_le,
    toNat_saturatingAdd, toNat_saturatingSub]
  omega

/-- What the initiator returns: the challenge as it came, with its initiation. -/
def CookieChallenge.echo (challenge : CookieChallenge) (initiation : HandshakeInitiation) :
    HandshakeCookieEcho where
  cookie := challenge.cookie
  timestamp := challenge.timestamp
  initiation := initiation

/-- **An honest cookie is accepted** within its age, whatever the clock, unless the
ring still holds it; for logical time neither runs backwards nor faster than the
local clock. -/
theorem honest_cookie_accepted {N : Nat} (nodeSecret : Bytes 32) (peerAddr : PeerAddr)
    (clock : NetworkClock) (initiation : HandshakeInitiation) (cache : CookieCache N)
    {t t' maxCookieAge : UInt64} (ht : t ≤ t') (hage : t'.toNat ≤ t.toNat + maxCookieAge.toNat) :
    verifyCookieEcho ((issueCookie nodeSecret peerAddr clock t).echo initiation) nodeSecret peerAddr
        clock t' maxCookieAge cache
      = (if cache.contains (issueCookie nodeSecret peerAddr clock t).cookie then
          .error .cookieReplayed cache
        else .ok () (cache.insert (issueCookie nodeSecret peerAddr clock t).cookie))
    ∧ ∀ (clock : NetworkClock) (s s' : UInt64), s ≤ s' →
        clock.logicalNow s ≤ clock.logicalNow s' ∧
        (clock.logicalNow s').toNat - (clock.logicalNow s).toNat ≤ s'.toNat - s.toNat := by
  constructor
  · have hlip := clock.logicalNow_lipschitz ht
    have hfresh : cookieExpired (clock.logicalNow t) (clock.logicalNow t') maxCookieAge = false :=
      cookieExpired_eq_false (clock.logicalNow_mono ht) (by omega)
    have hmac : ctEq32 (cookieMac nodeSecret peerAddr (clock.logicalNow t))
        (cookieMac nodeSecret peerAddr (clock.logicalNow t)) = true := ctEq32_iff.mpr rfl
    simp only [verifyCookieEcho, CookieChallenge.echo, issueCookie, hfresh, hmac, Bool.and_false,
      Bool.not_true, Bool.false_eq_true, if_false]
    rfl
  · intro clock s s' h
    exact ⟨clock.logicalNow_mono h, clock.logicalNow_lipschitz h⟩

/-- The clock of three peers that are 10, 20 and 30 seconds ahead. -/
def steadyClock : NetworkClock :=
  (((NetworkClock.withGenesisAnchor 1000).recordPeerTime (.replicate 16 1) 5010 5000).recordPeerTime
    (.replicate 16 2) 5020 5000).recordPeerTime (.replicate 16 3) 5030 5000

/-- At local time `u64::MAX` a cookie that may not age at all is accepted at once. -/
theorem cookie_accepted_at_the_end :
    verifyCookieEcho ((issueCookie sampleSecret sampleAddr steadyClock (-1)).echo sampleInitiation)
        sampleSecret sampleAddr steadyClock (-1) 0 (CookieCache.new : CookieCache 4)
      = .ok () ((CookieCache.new : CookieCache 4).insert
          (issueCookie sampleSecret sampleAddr steadyClock (-1)).cookie) :=
  (honest_cookie_accepted _ _ _ _ _ (by decide) (by decide)).1

/-! ## The median -/

namespace NetworkClock

/-- The offsets of the occupied slots. -/
def held (clock : NetworkClock) : List Int := clock.offsets.toList.take clock.filled

theorem length_held (clock : NetworkClock) : clock.held.length = clock.filled := by
  have hle := clock.filled_le
  rw [held, List.length_take, Vector.length_toList]
  omega

/-- **The clamped median lies where a strict majority of the samples lies**, provided
that this is within the clamp. -/
theorem offset_of_majority (clock : NetworkClock) {a b : Int} (ha : -maxClockSkewSecs ≤ a)
    (hb : b ≤ maxClockSkewSecs)
    (hmaj : clock.filled < 2 * clock.held.countP (fun o => a ≤ o ∧ o ≤ b)) :
    a ≤ clock.offset ∧ clock.offset ≤ b := by
  have hperm : (clock.held.mergeSort (· ≤ ·)).Perm clock.held := List.mergeSort_perm _ _
  have hsorted : (clock.held.mergeSort (· ≤ ·)).Pairwise (· ≤ ·) := by
    have hle := @List.pairwise_mergeSort Int (fun a b => decide (a ≤ b))
      (fun a b c hab hbc =>
        decide_eq_true (le_trans (of_decide_eq_true hab) (of_decide_eq_true hbc)))
      (fun a b => by simpa using le_total a b) clock.held
    exact hle.imp of_decide_eq_true
  have hlen : (clock.held.mergeSort (· ≤ ·)).length = clock.filled := by
    rw [List.length_mergeSort, length_held]
  have hcount := List.countP_le_length (p := fun o => decide (a ≤ o ∧ o ≤ b)) (l := clock.held)
  rw [length_held] at hcount
  have hk : (clock.held.mergeSort (· ≤ ·)).length / 2 < (clock.held.mergeSort (· ≤ ·)).length := by
    omega
  have hmid := Ranking.middle_of_majority hsorted (by rw [hperm.countP_eq, hlen]; exact hmaj) hk
  have hmedian : clock.offset = max (-maxClockSkewSecs)
      (min (clock.held.mergeSort (· ≤ ·))[(clock.held.mergeSort (· ≤ ·)).length / 2]
        maxClockSkewSecs) := by
    rw [offset, if_neg (by omega), ← held, ← hlen]
    dsimp only
    rw [List.getD_eq_getElem?_getD, List.getElem?_eq_getElem hk, Option.getD_some]
  rw [hmedian]
  omega

/-! ## One sample per address -/

/-- The addresses of the occupied slots, oldest first. -/
def queue (clock : NetworkClock) : List PeerAddr := clock.view clock.addrs

theorem queue_recordPeerTime (clock : NetworkClock) (peerAddr : PeerAddr)
    (peerTime localTime : UInt64) :
    (clock.recordPeerTime peerAddr peerTime localTime).queue = clock.queue ∨
    peerAddr ∉ clock.queue ∧ (clock.recordPeerTime peerAddr peerTime localTime).queue
      = Ring.push networkTimeWindow clock.queue peerAddr := by
  unfold recordPeerTime
  split
  · exact .inl rfl
  · rename_i hnone
    refine .inr ⟨?_, clock.view_step clock.addrs peerAddr (clock.next_lt (by decide))⟩
    intro hmem
    rw [queue, (clock.view_perm clock.addrs).mem_iff, List.mem_take_iff_getElem] at hmem
    obtain ⟨i, hi, rfl⟩ := hmem
    have hi' : i < clock.filled := by omega
    have habsent := List.find?_eq_none.mp hnone i (List.mem_range.mpr hi')
    exact habsent (by simp)

/-- The states of a clock: as it is anchored, and after any further sample. -/
inductive Reachable : NetworkClock → Prop
  | anchored (genesisFloor : UInt64) : Reachable (withGenesisAnchor genesisFloor)
  | recorded {clock : NetworkClock} (peerAddr : PeerAddr) (peerTime localTime : UInt64) :
      Reachable clock → Reachable (clock.recordPeerTime peerAddr peerTime localTime)

theorem Reachable.nodup_queue {clock : NetworkClock} (h : clock.Reachable) : clock.queue.Nodup := by
  induction h with
  | anchored genesisFloor => exact List.nodup_nil
  | @recorded clock peerAddr peerTime localTime _ ih =>
      rcases clock.queue_recordPeerTime peerAddr peerTime localTime with heq | ⟨habsent, heq⟩
      · rw [heq]
        exact ih
      · rw [heq]
        exact Ring.nodup_push ih habsent

theorem Reachable.addrs_nodup {clock : NetworkClock} (h : clock.Reachable) :
    (clock.addrs.toList.take clock.filled).Nodup :=
  (clock.view_perm clock.addrs).nodup_iff.mp h.nodup_queue

/-- **Median robustness.**  A strict majority of the samples confines the offset, and
no address has more than one sample to contribute. -/
theorem median_robust :
    (∀ (clock : NetworkClock) (a b : Int), -300 ≤ a → a ≤ b → b ≤ 300 →
      clock.samples < 2 * (clock.offsets.toList.take clock.samples).countP
        (fun o => a ≤ o ∧ o ≤ b) →
      a ≤ clock.offset ∧ clock.offset ≤ b) ∧
    (∀ clock : NetworkClock, clock.Reachable →
      (∀ i j, i < clock.samples → j < clock.samples → clock.addrs[i]? = clock.addrs[j]? → i = j) ∧
      ∀ peerAddr, (clock.addrs.toList.take clock.samples).count peerAddr ≤ 1) := by
  constructor
  · intro clock a b ha _ hb hmaj
    exact clock.offset_of_majority ha hb hmaj
  · intro clock hclock
    have hnodup := hclock.addrs_nodup
    have hle := clock.filled_le
    refine ⟨fun i j (hi : i < clock.filled) (hj : j < clock.filled) heq => ?_,
      fun peerAddr => List.nodup_iff_count_le_one.mp hnodup peerAddr⟩
    have hi' : i < (clock.addrs.toList.take clock.filled).length := by
      rw [List.length_take, Vector.length_toList]
      exact Nat.lt_min.mpr ⟨hi, Nat.lt_of_lt_of_le hi hle⟩
    refine (List.getElem?_inj hi' hnodup).mp ?_
    rw [List.getElem?_take_of_lt hi, List.getElem?_take_of_lt hj]
    simpa using heq

theorem steadyClock_reachable : steadyClock.Reachable :=
  .recorded _ _ _ (.recorded _ _ _ (.recorded _ _ _ (.anchored _)))

/-- Two samples out of three within `[10, 20]` put the offset there. -/
theorem steadyClock_offset :
    (10 ≤ steadyClock.offset ∧ steadyClock.offset ≤ 20) ∧
      (steadyClock.addrs.toList.take steadyClock.samples).count (.replicate 16 2) ≤ 1 :=
  ⟨median_robust.1 steadyClock 10 20 (by decide) (by decide) (by decide) (by decide),
    (median_robust.2 steadyClock steadyClock_reachable).2 _⟩

end NetworkClock

end GoatCoin
