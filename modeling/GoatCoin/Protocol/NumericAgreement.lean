/-
# `GoatCoin.Protocol.NumericAgreement` — `verification.rs`: vectors compared in machine words

The entries of a result's vector are the executor's, and they are compared in `i64` and `f64`:

    x - y     out of range     a debug build panics, a release build wraps
    abs       of i64::MIN      likewise
    as f64                     rounds to 53 bits
    bound + EPS                rounds to 53 bits

The doubles do no harm: below `2 ^ 53` an integer is within the bound and `EPS` exactly when it is
within the bound. The words do: entries that are `2 ^ 64 - 1` apart are 1 apart after they wrap.
-/
import GoatCoin.Lib.Binary64
import GoatCoin.Protocol.Provenance
import Mathlib.Data.List.Forall2

namespace GoatCoin.Protocol

/-! ## Words -/

/-- How arithmetic was compiled. -/
inductive Build where
  | debug
  | release
deriving DecidableEq

/-- What is left of an exact value in an `i64`; `none` is a panic. -/
def Build.i64 (build : Build) (exact : Int) : Option Int :=
  if -2 ^ 63 ≤ exact ∧ exact < 2 ^ 63 then some exact
  else match build with
    | .debug => none
    | .release => some (exact.bmod (2 ^ 64))

/-- `(x - y).abs()`. -/
def Build.distance (build : Build) (x y : Int64) : Option Int := do
  let d ← build.i64 (x.toInt - y.toInt)
  build.i64 |d|

/-- `l_inf`, where `⊤` is infinite. -/
def Build.lInf (build : Build) (a b : List Int64) : Option (WithTop ℚ) :=
  if a.length ≠ b.length then some ⊤
  else do
    let distances ← (a.zip b).mapM fun p => build.distance p.1 p.2
    some ((Binary64.round (distances.max?.getD 0 : Int) : ℚ) : WithTop ℚ)

/-- `EPS`. -/
def eps : ℚ := Binary64.round agreeEps

/-- `vec_ok` in `agree`. -/
def Build.vecOk (build : Build) (a b : List Int64) (bound : ℚ) : Option Bool :=
  (build.lInf a b).map fun d => decide (d ≤ ((Binary64.round (bound + eps) : ℚ) : WithTop ℚ))

/-! ## Exact comparison -/

/-- Vectors of one length, with entries that are within `k`. -/
def Within (k : Nat) (a b : List Int64) : Prop :=
  List.Forall₂ (fun x y => |x.toInt - y.toInt| ≤ (k : Int)) a b

/-- Every build answers, and accepts what is within the tolerance. -/
def ExactAgreement (a b : List Int64) (k : Nat) : Prop :=
  ∀ build : Build, ∃ ok, build.vecOk a b k = some ok ∧ (ok = true ↔ Within k a b)

/-- The entries are less than `2 ^ 63` apart. -/
def NoOverflow (a b : List Int64) : Prop :=
  List.Forall₂ (fun x y => |x.toInt - y.toInt| < 2 ^ 63) a b

theorem eps_nonneg : 0 ≤ eps := Binary64.round_nonneg (by unfold agreeEps; norm_num)

theorem eps_lt_half : eps < 1 / 2 := by
  have hscale : Binary64.scale agreeEps ≤ 1 - 53 := by
    refine Binary64.scale_le (by decide) ?_
    unfold agreeEps
    norm_num
  have herror := (abs_le.mp (Binary64.abs_round_sub_le agreeEps)).2
  have hplace : (2 : ℚ) ^ Binary64.scale agreeEps ≤ 2 ^ (1 - 53 : ℤ) :=
    zpow_le_zpow_right₀ one_le_two hscale
  have hsmall : agreeEps + (2 : ℚ) ^ (1 - 53 : ℤ) / 2 < 1 / 2 := by
    unfold agreeEps
    norm_num
  calc eps ≤ agreeEps + (2 : ℚ) ^ Binary64.scale agreeEps / 2 := by
        unfold eps
        linarith only [herror]
    _ ≤ agreeEps + (2 : ℚ) ^ (1 - 53 : ℤ) / 2 :=
      add_le_add le_rfl (div_le_div_of_nonneg_right hplace zero_le_two)
    _ < 1 / 2 := hsmall

theorem distance_of_lt (build : Build) {x y : Int64} (h : |x.toInt - y.toInt| < 2 ^ 63) :
    build.distance x y = some |x.toInt - y.toInt| := by
  obtain ⟨hlow, hhigh⟩ := abs_lt.mp h
  have hsub : build.i64 (x.toInt - y.toInt) = some (x.toInt - y.toInt) := if_pos ⟨hlow.le, hhigh⟩
  have habs : build.i64 |x.toInt - y.toInt| = some |x.toInt - y.toInt| :=
    if_pos ⟨by have := abs_nonneg (x.toInt - y.toInt); omega, h⟩
  unfold Build.distance
  rw [hsub]
  exact habs

/-- A debug build panics on the others. -/
theorem lt_of_distance {x y : Int64} {d : Int} (h : Build.debug.distance x y = some d) :
    |x.toInt - y.toInt| < 2 ^ 63 := by
  unfold Build.distance Build.i64 at h
  split_ifs at h with hsub
  · simp only [Option.bind_eq_bind, Option.bind_some] at h
    split_ifs at h with habs
    exact habs.2
  · cases h

variable {a b : List Int64}

theorem mapM_distance (build : Build) (h : NoOverflow a b) :
    (a.zip b).mapM (fun p => build.distance p.1 p.2)
      = some (List.zipWith (fun x y => |x.toInt - y.toInt|) a b) := by
  induction h with
  | nil => rfl
  | cons hxy hrest ih =>
      rw [List.zip_cons_cons, List.mapM_cons, distance_of_lt build hxy, ih]
      rfl

theorem noOverflow_of_mapM (hlength : a.length = b.length) : ∀ {distances : List Int},
    (a.zip b).mapM (fun p => Build.debug.distance p.1 p.2) = some distances → NoOverflow a b := by
  induction a generalizing b with
  | nil =>
      intro distances h
      rw [List.length_eq_zero_iff.mp hlength.symm]
      exact .nil
  | cons x a ih =>
      intro distances h
      obtain - | ⟨y, b⟩ := b
      · cases hlength
      · rw [List.zip_cons_cons, List.mapM_cons] at h
        obtain ⟨d, hd, h⟩ := Option.bind_eq_some_iff.mp h
        obtain ⟨rest, hrest, -⟩ := Option.bind_eq_some_iff.mp h
        exact .cons (lt_of_distance hd) (ih (Nat.succ.inj hlength) hrest)

theorem max?_getD_natCast (l : List Nat) :
    ((l.max?.getD 0 : Nat) : Int) = ((l.map Nat.cast).max?.getD 0 : Int) := by
  cases l with
  | nil => rfl
  | cons n l =>
      rw [List.map_cons, List.max?_cons', List.max?_cons', Option.getD_some,
        Option.getD_some, List.foldl_map]
      exact (List.foldl_hom Nat.cast fun x y => (Nat.cast_max x y).symm).symm

/-- **The machine's distance** is the exact one, rounded. -/
theorem lInf_eq_round (build : Build) (h : NoOverflow a b) :
    ∃ d, lInf (a.map Int64.toInt) (b.map Int64.toInt) = some d
    ∧ build.lInf a b = some ((Binary64.round d : ℚ) : WithTop ℚ) := by
  have hlength : ¬ a.length ≠ b.length := not_not.mpr h.length_eq
  refine ⟨(List.zipWith (fun x y => (x.toInt - y.toInt).natAbs) a b).max?.getD 0, ?_, ?_⟩
  · unfold lInf
    rw [List.length_map, List.length_map, if_neg hlength, List.zipWith_map]
  · unfold Build.lInf
    rw [if_neg hlength, mapM_distance build h]
    have hmap : List.zipWith (fun x y => |x.toInt - y.toInt|) a b
        = (List.zipWith (fun x y => (x.toInt - y.toInt).natAbs) a b).map Nat.cast := by
      rw [List.map_zipWith]
      congr 1
      funext x y
      exact Int.abs_eq_natAbs _
    rw [hmap, Option.bind_eq_bind, Option.bind_some, ← max?_getD_natCast, Int.cast_natCast]

/-- The entries of a result's vector, in words. -/
def words (v : List Int) : List Int64 := v.map Int64.ofInt

theorem map_toInt_words {v : List Int} (h : ∀ x ∈ v, -2 ^ 63 ≤ x ∧ x < 2 ^ 63) :
    (words v).map Int64.toInt = v := by
  rw [words, List.map_map]
  exact (List.map_congr_left fun x hx => Int64.toInt_ofInt_of_le (h x hx).1 (h x hx).2).trans
    (List.map_id v)

/-- Vectors of two lengths, or with opposite entries that are less than `2 ^ 63` apart. -/
def Comparable (a b : List Int) : Prop := a.length = b.length → NoOverflow (words a) (words b)

/-- What `l_inf` is to find. -/
def roundedLInf (a b : List Int) : WithTop ℚ :=
  match lInf a b with
  | none => ⊤
  | some d => (Binary64.round d : ℚ)

/-- **Every build finds the distance of vectors that can be compared**, and does not panic. -/
theorem lInf_words (build : Build) {a b : List Int} (ha : ∀ x ∈ a, -2 ^ 63 ≤ x ∧ x < 2 ^ 63)
    (hb : ∀ x ∈ b, -2 ^ 63 ≤ x ∧ x < 2 ^ 63) (h : Comparable a b) :
    build.lInf (words a) (words b) = some (roundedLInf a b) := by
  by_cases hlength : a.length = b.length
  · obtain ⟨d, hd, hmachine⟩ := lInf_eq_round build (h hlength)
    rw [map_toInt_words ha, map_toInt_words hb] at hd
    rw [hmachine, roundedLInf, hd]
  · have hwords : (words a).length ≠ (words b).length := by
      rw [words, words, List.length_map, List.length_map]
      exact hlength
    rw [Build.lInf, if_pos hwords, roundedLInf, lInf, if_pos hlength]

theorem lInf_le_iff {d k : Nat} (h : lInf (a.map Int64.toInt) (b.map Int64.toInt) = some d) :
    d ≤ k ↔ Within k a b := by
  unfold lInf at h
  split_ifs at h with hlength
  rw [List.length_map, List.length_map, not_not] at hlength
  obtain rfl := Option.some.inj h
  have hmax : ∀ l : List Nat, l.max?.getD 0 ≤ k ↔ ∀ n ∈ l, n ≤ k := by
    intro l
    cases hl : l.max? with
    | none =>
        rw [List.max?_eq_none_iff] at hl
        simp [hl]
    | some n => exact List.max?_le_iff hl
  unfold Within
  rw [hmax, List.zipWith_map, List.forall₂_iff_zip, ← List.map_uncurry_zip_eq_zipWith,
    List.forall_mem_map]
  constructor
  · intro hall
    refine ⟨hlength, fun {x y} hxy => ?_⟩
    have hle := hall _ hxy
    rw [Int.abs_eq_natAbs]
    exact_mod_cast hle
  · rintro ⟨-, hall⟩ ⟨x, y⟩ hxy
    have hle := hall hxy
    rw [Int.abs_eq_natAbs] at hle
    exact_mod_cast hle

/-- **When the comparison is exact**: vectors of two lengths, or entries whose differences an `i64`
holds with either sign. -/
theorem exact_agreement_iff (a b : List Int64) (k : Nat) (hk : k < 2 ^ 53) :
    ExactAgreement a b k ↔ a.length ≠ b.length ∨ NoOverflow a b := by
  by_cases hlength : a.length = b.length
  · constructor
    · intro h
      obtain ⟨ok, hok, -⟩ := h .debug
      obtain ⟨d, hd, -⟩ := Option.map_eq_some_iff.mp hok
      unfold Build.lInf at hd
      rw [if_neg (not_not.mpr hlength)] at hd
      obtain ⟨distances, hdistances, -⟩ := Option.bind_eq_some_iff.mp hd
      exact .inr (noOverflow_of_mapM hlength hdistances)
    · intro h build
      obtain ⟨d, hexact, hmachine⟩ := lInf_eq_round build (h.resolve_left (not_not.mpr hlength))
      refine ⟨_, congrArg (Option.map _) hmachine, ?_⟩
      rw [decide_eq_true_iff, WithTop.coe_le_coe,
        Binary64.round_le_round_add_iff hk eps_nonneg eps_lt_half]
      exact lInf_le_iff hexact
  · refine iff_of_true (fun build => ⟨false, ?_, ?_⟩) (.inl hlength)
    · unfold Build.vecOk Build.lInf
      rw [if_pos hlength]
      simp
    · exact iff_of_false Bool.false_ne_true fun h => hlength h.length_eq

theorem exact_agreement_sample : NoOverflow [5, -3] [4, -1] ∧ ExactAgreement [5, -3] [4, -1] 2 := by
  have hclose : NoOverflow [5, -3] [4, -1] := .cons (by decide) (.cons (by decide) .nil)
  exact ⟨hclose, (exact_agreement_iff _ _ 2 (by decide)).mpr (.inr hclose)⟩

/-- The two ends of the range are accepted as 1 apart, where arithmetic wraps, and stop the program
where it does not. -/
theorem extremes_agree : Build.release.vecOk [Int64.maxValue] [Int64.minValue] (1 : Nat) = some true
    ∧ Build.debug.vecOk [Int64.maxValue] [Int64.minValue] (1 : Nat) = none
    ∧ ¬ ExactAgreement [Int64.maxValue] [Int64.minValue] 1 := by
  have hrelease : Build.release.vecOk [Int64.maxValue] [Int64.minValue] (1 : Nat) = some true := by
    have hdistance : Build.release.distance Int64.maxValue Int64.minValue = some 1 := by decide
    have hlInf : Build.release.lInf [Int64.maxValue] [Int64.minValue]
        = some ((Binary64.round ((1 : Nat) : ℚ) : ℚ) : WithTop ℚ) := by
      unfold Build.lInf
      rw [if_neg (by decide), List.zip_cons_cons, List.mapM_cons, hdistance]
      rfl
    have hle :
      ((Binary64.round ((1 : Nat) : ℚ) : ℚ) : WithTop ℚ) ≤ (Binary64.round ((1 : Nat) + eps) : ℚ) :=
      WithTop.coe_le_coe.mpr
        ((Binary64.round_le_round_add_iff (by decide) eps_nonneg eps_lt_half).mpr le_rfl)
    unfold Build.vecOk
    rw [hlInf, Option.map_some, decide_eq_true hle]
  have hdebug : Build.debug.vecOk [Int64.maxValue] [Int64.minValue] (1 : Nat) = none := by
    have hdistance : Build.debug.distance Int64.maxValue Int64.minValue = none := by decide
    unfold Build.vecOk Build.lInf
    rw [if_neg (by decide), List.zip_cons_cons, List.mapM_cons, hdistance]
    rfl
  refine ⟨hrelease, hdebug, fun h => ?_⟩
  obtain ⟨ok, hok, -⟩ := h .debug
  rw [hdebug] at hok
  cases hok

end GoatCoin.Protocol
