/-
# `GoatCoin.Attestor.Concentration` — how exact the cap on a pair is

`check_pair_concentration` compares whole basis points.  With `B` bytes of a cluster in the `T`
bytes of a consumer,

    refused      (cap + 1) · T  ≤  10000 · B
    over         cap · T        <  10000 · B

so a cluster that is over by less than a basis point is let through, unless another one is refused.
Nothing that is within the cap is refused.  Sums and the product saturate at `2 ^ 128 - 1`.
-/
import GoatCoin.Attestor.EpochBatch

namespace GoatCoin.Attestor

open Evm

section
variable (sessions : List SessionTotal) (consumerOf : Bytes32 → Bytes32)
  (rootOf : Address → Option Address)

/-- The bytes of a consumer. -/
def consumerBytes (consumer : Bytes32) : Nat :=
  ((sessions.filter (consumerOf ·.sessionId = consumer)).map (·.totalBytes.val)).sum

/-- The bytes of a consumer that a cluster served. -/
def clusterBytes (consumer : Bytes32) (root : Address) : Nat :=
  ((sessions.filter fun u => consumerOf u.sessionId = consumer
    ∧ clusterOf rootOf u.operator = root).map (·.totalBytes.val)).sum

/-- A cluster has more than its share. -/
def Exceeded (capBps : Word 32) : Prop :=
  ∃ consumer root, capBps.val * consumerBytes sessions consumerOf consumer
    < clusterBytes sessions consumerOf rootOf consumer root * bpsDenom

/-- A cluster has a whole basis point more, by sums and a product that saturate. -/
def ExceededByPoint (capBps : Word 32) : Prop :=
  ∃ consumer root, let total := saturated (consumerBytes sessions consumerOf consumer)
    total ≠ 0 ∧ (capBps.val + 1) * total.val
      ≤ min ((saturated (clusterBytes sessions consumerOf rootOf consumer root)).val * bpsDenom)
        (2 ^ 128 - 1)

/-- What is accepted is within the cap, and where something is refused a cluster is not. -/
def ExactCap (capBps : Word 32) : Prop :=
  (checkPairConcentration sessions consumerOf rootOf capBps = .ok () →
      ∀ consumer root, clusterBytes sessions consumerOf rootOf consumer root * bpsDenom
        ≤ capBps.val * consumerBytes sessions consumerOf consumer)
    ∧ ((∃ e, checkPairConcentration sessions consumerOf rootOf capBps = .error e) →
      ∃ consumer root, capBps.val * consumerBytes sessions consumerOf consumer
        < clusterBytes sessions consumerOf rootOf consumer root * bpsDenom)

end

variable {sessions : List SessionTotal} {consumerOf : Bytes32 → Bytes32}
  {rootOf : Address → Option Address}

theorem clusterBytes_le (consumer : Bytes32) (root : Address) :
    clusterBytes sessions consumerOf rootOf consumer root
    ≤ consumerBytes sessions consumerOf consumer := by
  have hsub : (sessions.filter fun u => consumerOf u.sessionId = consumer
      ∧ clusterOf rootOf u.operator = root).Sublist
        (sessions.filter (consumerOf ·.sessionId = consumer)) := by
    refine List.monotone_filter_right _ fun u hu => ?_
    exact decide_eq_true (of_decide_eq_true hu).1
  exact (hsub.map _).sum_le_sum fun _ _ => Nat.zero_le _

/-- A share is past the cap when it is a whole basis point past it. -/
theorem shareBps_lt_iff {bytes total : Word 128} (hle : bytes ≤ total) (hpos : total ≠ 0)
    (capBps : Word 32) :
    capBps.val < shareBps bytes total
      ↔ (capBps.val + 1) * total.val ≤ min (bytes.val * bpsDenom) (2 ^ 128 - 1) := by
  have htotal : 0 < total.val := Nat.pos_of_ne_zero fun h => hpos (Fin.ext h)
  have hshare : min (bytes.val * bpsDenom) (2 ^ 128 - 1) / total.val ≤ bpsDenom := by
    refine Nat.div_le_of_le_mul ((Nat.min_le_left _ _).trans ?_)
    exact Nat.mul_le_mul_right _ hle
  have hsmall : min (bytes.val * bpsDenom) (2 ^ 128 - 1) / total.val < 2 ^ 32 :=
    lt_of_le_of_lt hshare (by decide)
  unfold shareBps
  dsimp only
  rw [if_pos hsmall, ← Nat.succ_le_iff, Nat.le_div_iff_mul_le htotal]

/-- **What the check refuses.** -/
theorem check_refused_iff (capBps : Word 32) :
    (∃ e, checkPairConcentration sessions consumerOf rootOf capBps = .error e)
      ↔ ExceededByPoint sessions consumerOf rootOf capBps := by
  have hle : ∀ consumer root, saturated (clusterBytes sessions consumerOf rootOf consumer root)
      ≤ saturated (consumerBytes sessions consumerOf consumer) := by
    intro consumer root
    exact min_le_min_right _ (clusterBytes_le consumer root)
  have hrefused : (∃ e, checkPairConcentration sessions consumerOf rootOf capBps = .error e)
      ↔ ¬ checkPairConcentration sessions consumerOf rootOf capBps = .ok () := by
    cases checkPairConcentration sessions consumerOf rootOf capBps with
    | ok u => simp
    | error e => simp
  rw [hrefused, checkPairConcentration_ok]
  constructor
  · intro h
    simp only [not_forall, not_or, not_le] at h
    obtain ⟨consumer, root, hpos, hshare⟩ := h
    exact ⟨consumer, root, hpos, (shareBps_lt_iff (hle consumer root) hpos capBps).mp hshare⟩
  · rintro ⟨consumer, root, hpos, hover⟩ h
    have hshare := (shareBps_lt_iff (hle consumer root) hpos capBps).mpr hover
    exact (h consumer root).elim hpos (Nat.not_le.mpr hshare)

theorem exceeded_of_byPoint {capBps : Word 32}
    (h : ExceededByPoint sessions consumerOf rootOf capBps) :
    Exceeded sessions consumerOf rootOf capBps := by
  obtain ⟨consumer, root, hpos, hover⟩ := h
  refine ⟨consumer, root, ?_⟩
  generalize consumerBytes sessions consumerOf consumer = total at hpos hover ⊢
  generalize clusterBytes sessions consumerOf rootOf consumer root = bytes at hover ⊢
  have htotal : 0 < (saturated total).val := Nat.pos_of_ne_zero fun hzero => hpos (Fin.ext hzero)
  obtain ⟨hproduct, hmax⟩ := le_min_iff.mp hover
  have hbytes : (saturated bytes).val * bpsDenom ≤ bytes * bpsDenom :=
    Nat.mul_le_mul_right _ (Nat.min_le_left _ _)
  have hstep : capBps.val * (saturated total).val < (capBps.val + 1) * (saturated total).val :=
    Nat.mul_lt_mul_of_pos_right (Nat.lt_succ_self _) htotal
  by_cases hfits : total ≤ 2 ^ 128 - 1
  · have hsame : (saturated total).val = total := Nat.min_eq_left hfits
    rw [hsame] at hstep hproduct
    exact lt_of_lt_of_le hstep (hproduct.trans hbytes)
  · -- a total that saturates is passed by a cap of zero alone
    have hsame : (saturated total).val = 2 ^ 128 - 1 := Nat.min_eq_right (Nat.le_of_not_le hfits)
    rw [hsame] at hstep hproduct hmax
    have hcap : capBps.val = 0 := by omega
    rw [hcap] at hproduct ⊢
    omega

/-- **The cap is exact unless a cluster is over by less than a basis point, and none by more.** -/
theorem exact_cap_iff (sessions : List SessionTotal) (consumerOf : Bytes32 → Bytes32)
    (rootOf : Address → Option Address) (capBps : Word 32) :
    ExactCap sessions consumerOf rootOf capBps
      ↔ (Exceeded sessions consumerOf rootOf capBps →
        ExceededByPoint sessions consumerOf rootOf capBps) := by
  have hrefused := @check_refused_iff sessions consumerOf rootOf capBps
  constructor
  · rintro ⟨haccepted, -⟩ ⟨consumer, root, hover⟩
    refine hrefused.mp ?_
    cases hcheck : checkPairConcentration sessions consumerOf rootOf capBps with
    | ok u => exact absurd (haccepted hcheck consumer root) (Nat.not_le.mpr hover)
    | error e => exact ⟨e, rfl⟩
  · intro h
    refine ⟨fun hcheck consumer root => ?_, fun herror => exceeded_of_byPoint (hrefused.mp herror)⟩
    refine Nat.le_of_not_lt fun hover => ?_
    obtain ⟨e, herror⟩ := hrefused.mpr (h ⟨consumer, root, hover⟩)
    rw [hcheck] at herror
    cases herror

/-- Three operators serve a byte each. -/
def sampleThirds : List SessionTotal := [⟨1, 1, 1, 1⟩, ⟨2, 2, 1, 1⟩, ⟨3, 3, 1, 1⟩]

/-- A third is over 3333 basis points, and is let through. -/
theorem third_let_through :
    checkPairConcentration sampleThirds (fun _ => 9) (fun _ => none) 3333 = .ok ()
      ∧ (3333 : Word 32).val * consumerBytes sampleThirds (fun _ => 9) 9
        < clusterBytes sampleThirds (fun _ => 9) (fun _ => none) 9 1 * bpsDenom
      ∧ ¬ ExactCap sampleThirds (fun _ => 9) (fun _ => none) 3333 := by
  have hcheck : checkPairConcentration sampleThirds (fun _ => 9) (fun _ => none) 3333
    = .ok () := by rfl
  have hover : (3333 : Word 32).val * consumerBytes sampleThirds (fun _ => 9) 9
      < clusterBytes sampleThirds (fun _ => 9) (fun _ => none) 9 1 * bpsDenom := by decide
  exact ⟨hcheck, hover, fun hexact => absurd (hexact.1 hcheck 9 1) (Nat.not_le.mpr hover)⟩

end GoatCoin.Attestor
