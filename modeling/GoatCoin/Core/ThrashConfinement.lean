/-
# `GoatCoin.Core.ThrashConfinement` — what a flood of one origin costs the others

The cache is a quota queue (`MessageCache.queue_insert`), so both halves of the
confinement are read off the queue:

    the quota   no origin holds more than `per_identity_cap` slots, in any state
    the flood   every slot that the others lose is one that the origin gains, and it
                has `per_identity_cap - count_for` left to gain

The second bound does not need the ring position: an insertion over one of the
origin's own slots, or into a free one, costs the others nothing.
-/
import GoatCoin.Lib.Runs
import GoatCoin.Core.Gossip

namespace GoatCoin

open QuotaQueue

namespace MessageCache
variable {N : Nat}

/-- The cache after a sequence of insertions of `(hash, origin)`. -/
def insertAll (c : MessageCache N) (entries : List (Bytes 32 × Bytes 32)) : MessageCache N :=
  entries.foldl (fun c e => c.insert e.1 e.2) c

/-- The states of a cache are those that insertions lead to from the empty one. -/
def reached (entries : List (Bytes 32 × Bytes 32)) : MessageCache N := new.insertAll entries

/-- The digests that are recorded for origins other than this. -/
def digestsOfOthers (c : MessageCache N) (origin : Bytes 32) : List (Bytes 32) :=
  keys (others c.queue origin)

theorem queue_insertAll (hN : 0 < N) (entries : List (Bytes 32 × Bytes 32)) :
    ∀ c : MessageCache N, (c.insertAll entries).queue
      = entries.foldl (enqueue N (max (N / cacheIdentityDivisor) 1)) c.queue := by
  induction entries with
  | nil => intro c; rfl
  | cons e entries ih =>
      intro c
      exact (ih (c.insert e.1 e.2)).trans (by rw [c.queue_insert hN]; rfl)

theorem insertAll_of_zero (h : N = 0) (entries : List (Bytes 32 × Bytes 32)) (c : MessageCache N) :
    c.insertAll entries = c := by
  unfold insertAll
  exact Runs.invariant (I := fun c' => c' = c)
    (fun c' e hc' => by rw [insert, dif_neg (by omega), hc']) entries c rfl

theorem countFor_reached_le (entries : List (Bytes 32 × Bytes 32)) (origin : Bytes 32) :
    (reached entries : MessageCache N).countFor origin ≤ (new : MessageCache N).perIdentityCap := by
  rw [countFor_eq_held, reached]
  rcases Nat.eq_zero_or_pos N with hzero | hN
  · rw [insertAll_of_zero hzero]
    exact Nat.zero_le _
  · rw [queue_insertAll hN]
    refine Runs.invariant
      (I := fun q : List (Bytes 32 × Bytes 32) => ∀ o, held q o ≤ max (N / cacheIdentityDivisor) 1)
      (fun _ _ hq o => held_enqueue_le hq o) entries (new : MessageCache N).queue
        (fun _ => Nat.zero_le _) origin

theorem insertAll_reached (entries flood : List (Bytes 32 × Bytes 32)) :
    (reached entries : MessageCache N).insertAll flood = reached (entries ++ flood) := by
  rw [reached, reached, insertAll, insertAll, insertAll, List.foldl_append]

/-- What the others still hold after a flood is all but the oldest of theirs. -/
theorem others_insertAll (c : MessageCache N) {origin : Bytes 32}
    {flood : List (Bytes 32 × Bytes 32)} (hflood : ∀ e ∈ flood, e.2 = origin) :
    ∃ m, m + c.countFor origin ≤ (c.insertAll flood).countFor origin ∧
      others (c.insertAll flood).queue origin = (others c.queue origin).drop m := by
  rw [countFor_eq_held, countFor_eq_held]
  rcases Nat.eq_zero_or_pos N with hzero | hN
  · rw [insertAll_of_zero hzero]
    exact ⟨0, by rw [Nat.zero_add], by rw [List.drop_zero]⟩
  · rw [queue_insertAll hN]
    exact others_foldl_enqueue hN flood c.length_queue_le hflood

theorem lost_le {c c' : MessageCache N} {origin : Bytes 32} {m : Nat}
    (h : others c'.queue origin = (others c.queue origin).drop m) :
    (c.digestsOfOthers origin).countP (fun hash => !c'.contains hash) ≤ m := by
  have hkept : ∀ hash ∈ (c.digestsOfOthers origin).drop m, ¬ (!c'.contains hash) = true := by
    intro hash hmem
    rw [digestsOfOthers, keys, ← List.map_drop, ← h] at hmem
    have hin : hash ∈ keys c'.queue := (List.filter_sublist.map Prod.fst).mem hmem
    rw [c'.contains_iff.mpr hin]
    decide
  have hsplit : (c.digestsOfOthers origin).countP (fun hash => !c'.contains hash)
      = ((c.digestsOfOthers origin).take m).countP (fun hash => !c'.contains hash) := by
    conv_lhs => rw [← List.take_append_drop m (c.digestsOfOthers origin)]
    rw [List.countP_append, List.countP_eq_zero.mpr hkept, Nat.add_zero]
  have htake := List.countP_le_length (p := fun hash => !c'.contains hash)
    (l := (c.digestsOfOthers origin).take m)
  rw [List.length_take] at htake
  omega

/-- **Thrash confinement.**  In every state no origin has more slots than its quota;
and a flood of one origin drives out at most as many digests of the others as that
origin was below it. -/
theorem flood_confined (entries : List (Bytes 32 × Bytes 32)) :
    (∀ origin, (reached entries : MessageCache N).countFor origin
      ≤ (reached entries : MessageCache N).perIdentityCap) ∧
    ∀ (origin : Bytes 32) (flood : List (Bytes 32 × Bytes 32)), (∀ e ∈ flood, e.2 = origin) →
      ((reached entries : MessageCache N).digestsOfOthers origin).countP
          (fun hash => !((reached entries : MessageCache N).insertAll flood).contains hash)
        ≤ (reached entries : MessageCache N).perIdentityCap
          - (reached entries : MessageCache N).countFor origin := by
  refine ⟨countFor_reached_le entries, fun origin flood hflood => ?_⟩
  obtain ⟨m, hm, hothers⟩ := others_insertAll (reached entries : MessageCache N) hflood
  have hquota : ((reached entries : MessageCache N).insertAll flood).countFor origin
      ≤ (reached entries : MessageCache N).perIdentityCap := by
    rw [insertAll_reached]
    exact countFor_reached_le (entries ++ flood) origin
  have hlost := lost_le hothers
  omega

end MessageCache

end GoatCoin
