/-
# `GoatCoin.Core.Sha3Eval` — evaluating the digest on closed inputs

The definitions of `Sha3` are written for reading: lanes are `UInt64`, a state is
a `Vector`.  Reducing them on a closed message is slow, since nothing forces a
lane to a numeral before it is used again.  Here the whole state is one numeral,
its lane `i` the 64 bits from `64 i` on, and a step of the round is a few
operations on such numerals, each forced before its second use:

    Packs p s  →  Packs (permN p) (keccakF s)

so that facts about concrete digests (two of them differ) are decided by
evaluating `permN`.
-/
import Mathlib.Tactic.IntervalCases
import GoatCoin.Core.Sha3

namespace GoatCoin.Sha3Eval

open Wire

/-! ## Forcing -/

/-- `k x`, with `x` brought to a numeral first. -/
noncomputable def forceNat {β : Type} (x : Nat) (k : Nat → β) : β :=
  Nat.rec (k 0) (fun n _ => k n.succ) x

theorem forceNat_eq {β : Type} (x : Nat) (k : Nat → β) : forceNat x k = k x := by
  cases x with
  | zero => rfl
  | succ n => rfl

/-! ## Lanes of a numeral -/

def lane (p i : Nat) : Nat := Nat.mod (Nat.shiftRight p (Nat.mul 64 i)) 0x10000000000000000

theorem testBit_lane (p i b : Nat) :
    (lane p i).testBit b = (decide (b < 64) && p.testBit (64 * i + b)) := by
  show ((p >>> (64 * i)) % 2 ^ 64).testBit b = _
  rw [Nat.testBit_mod_two_pow, Nat.testBit_shiftRight]

theorem lane_lt (p i : Nat) : lane p i < 2 ^ 64 := Nat.mod_lt _ (by decide)

theorem lane_xor (p q i : Nat) : lane (p ^^^ q) i = lane p i ^^^ lane q i := by
  refine Nat.eq_of_testBit_eq fun b => ?_
  rw [testBit_lane, Nat.testBit_xor, Nat.testBit_xor, testBit_lane, testBit_lane]
  cases decide (b < 64) with
  | true => simp
  | false => simp

theorem lane_and (p q i : Nat) : lane (p &&& q) i = lane p i &&& lane q i := by
  refine Nat.eq_of_testBit_eq fun b => ?_
  rw [testBit_lane, Nat.testBit_and, Nat.testBit_and, testBit_lane, testBit_lane]
  cases decide (b < 64) with
  | true => simp
  | false => simp

theorem lane_or (p q i : Nat) : lane (p ||| q) i = lane p i ||| lane q i := by
  refine Nat.eq_of_testBit_eq fun b => ?_
  rw [testBit_lane, Nat.testBit_or, Nat.testBit_or, testBit_lane, testBit_lane]
  cases decide (b < 64) with
  | true => simp
  | false => simp

theorem lane_shiftRight (p k i : Nat) : lane (p >>> (64 * k)) i = lane p (i + k) := by
  refine Nat.eq_of_testBit_eq fun b => ?_
  rw [testBit_lane, testBit_lane, Nat.testBit_shiftRight]
  congr 2
  ring

theorem lane_shiftLeft (p k i : Nat) :
    lane (p <<< (64 * k)) i = if i < k then 0 else lane p (i - k) := by
  refine Nat.eq_of_testBit_eq fun b => ?_
  rw [testBit_lane, Nat.testBit_shiftLeft]
  by_cases hb : b < 64
  · by_cases hi : i < k
    · have hlow : ¬ 64 * k ≤ 64 * i + b := by omega
      rw [if_pos hi, decide_eq_false hlow, Bool.false_and, Bool.and_false, Nat.zero_testBit]
    · have hhigh : 64 * k ≤ 64 * i + b := by omega
      have hsub : 64 * i + b - 64 * k = 64 * (i - k) + b := by omega
      rw [if_neg hi, decide_eq_true hhigh, Bool.true_and, testBit_lane, hsub]
  · rw [decide_eq_false hb, Bool.false_and]
    split
    · exact (Nat.zero_testBit b).symm
    · rw [testBit_lane, decide_eq_false hb, Bool.false_and]

/-- The numeral with the given lanes. -/
def pack : List Nat → Nat
  | [] => 0
  | x :: xs => Nat.lor x (Nat.shiftLeft (pack xs) 64)

theorem lane_zero (i : Nat) : lane 0 i = 0 := by
  refine Nat.eq_of_testBit_eq fun b => ?_
  rw [testBit_lane, Nat.zero_testBit, Nat.zero_testBit, Bool.and_false]

theorem lane_word {x : Nat} (h : x < 2 ^ 64) (i : Nat) : lane x i = if i = 0 then x else 0 := by
  show (x >>> (64 * i)) % 2 ^ 64 = _
  by_cases hi : i = 0
  · subst hi
    exact Nat.mod_eq_of_lt h
  · rw [if_neg hi, Nat.shiftRight_eq_div_pow, Nat.div_eq_of_lt, Nat.zero_mod]
    exact lt_of_lt_of_le h (Nat.pow_le_pow_right (by decide) (by omega))

theorem lane_pack {l : List Nat} (h : ∀ x ∈ l, x < 2 ^ 64) (i : Nat) :
    lane (pack l) i = l.getD i 0 := by
  induction l generalizing i with
  | nil => exact lane_zero i
  | cons x xs ih =>
      have hx := h x List.mem_cons_self
      have hrest := ih fun y hy => h y (List.mem_cons_of_mem _ hy)
      show lane (x ||| pack xs <<< (64 * 1)) i = _
      rw [lane_or, lane_word hx, lane_shiftLeft]
      cases i with
      | zero => exact Nat.or_zero x
      | succ i =>
          rw [if_neg (Nat.succ_ne_zero i), if_neg (by omega), Nat.add_sub_cancel, hrest,
            List.getD_cons_succ]
          exact Nat.zero_or _

/-! ## One round on numerals -/

/-- A numeral holds the lanes of a state. -/
def Packs (p : Nat) (s : Lanes) : Prop := ∀ i (h : i < 25), lane p i = s[i].toNat

def rotN (x r : Nat) : Nat :=
  Nat.lor (Nat.mod (Nat.shiftLeft x r) 0x10000000000000000) (Nat.shiftRight x (Nat.sub 64 r))

theorem rotN_lt {x : Nat} (h : x < 2 ^ 64) (r : Nat) : rotN x r < 2 ^ 64 := by
  refine Nat.or_lt_two_pow (Nat.mod_lt _ (by decide)) ?_
  exact lt_of_le_of_lt (Nat.shiftRight_le x _) h

theorem xor_rotN_lt (c i j r : Nat) : lane c i ^^^ rotN (lane c j) r < 2 ^ 64 :=
  Nat.xor_lt_two_pow (lane_lt c i) (rotN_lt (lane_lt c j) r)

/-- The word of every column, once. -/
def columnsN (c : Nat) : Nat :=
  pack [Nat.xor (lane c 4) (rotN (lane c 1) 1), Nat.xor (lane c 0) (rotN (lane c 2) 1),
    Nat.xor (lane c 1) (rotN (lane c 3) 1), Nat.xor (lane c 2) (rotN (lane c 4) 1),
    Nat.xor (lane c 3) (rotN (lane c 0) 1)]

/-- The lanes `0`–`4` of the sum are the parities. -/
noncomputable def thetaN (p : Nat) : Nat :=
  forceNat (Nat.xor
    (Nat.xor (Nat.xor (Nat.xor p (Nat.shiftRight p 320)) (Nat.shiftRight p 640))
    (Nat.shiftRight p 960)) (Nat.shiftRight p 1280)) fun c =>
  forceNat (columnsN c) fun d =>
  forceNat (Nat.lor d (Nat.shiftLeft d 320)) fun e =>
  Nat.xor p (Nat.lor (Nat.lor e (Nat.shiftLeft e 640)) (Nat.shiftLeft d 1280))

def rhoPiN (p : Nat) : Nat :=
  pack [lane p 0, rotN (lane p 6) 44, rotN (lane p 12) 43, rotN (lane p 18) 21, rotN (lane p 24) 14,
    rotN (lane p 3) 28, rotN (lane p 9) 20, rotN (lane p 10) 3, rotN (lane p 16) 45,
    rotN (lane p 22) 61,
    rotN (lane p 1) 1, rotN (lane p 7) 6, rotN (lane p 13) 25, rotN (lane p 19) 8,
    rotN (lane p 20) 18,
    rotN (lane p 4) 27, rotN (lane p 5) 36, rotN (lane p 11) 10, rotN (lane p 17) 15,
    rotN (lane p 23) 56,
    rotN (lane p 2) 62, rotN (lane p 8) 55, rotN (lane p 14) 39, rotN (lane p 15) 41,
    rotN (lane p 21) 2]

/-- The lanes whose place `x` in their row is allowed. -/
def rowMask (allowed : Nat → Bool) : Nat :=
  pack ((List.range 25).map fun i => if allowed (i % 5) then 0xffffffffffffffff else 0)

def next1 : Nat := rowMask (· < 4)
def wrap1 : Nat := rowMask (4 ≤ ·)
def next2 : Nat := rowMask (· < 3)
def wrap2 : Nat := rowMask (3 ≤ ·)
def ones : Nat := rowMask fun _ => true

/-- The row turned by one lane, complemented, and the row turned by two. -/
def chiN (p : Nat) : Nat :=
  Nat.xor p (Nat.land
    (Nat.xor (Nat.lor (Nat.land (Nat.shiftRight p 64) next1) (Nat.land (Nat.shiftLeft p 256) wrap1))
      ones)
    (Nat.lor (Nat.land (Nat.shiftRight p 128) next2) (Nat.land (Nat.shiftLeft p 192) wrap2)))

noncomputable def roundN (p rc : Nat) : Nat :=
  forceNat p fun p => forceNat (thetaN p) fun p => forceNat (rhoPiN p) fun p => Nat.xor (chiN p) rc

def roundConstants : List Nat := keccakRc.map UInt64.toNat

noncomputable def permN (p : Nat) : Nat := roundConstants.foldl roundN p

/-! ## Correctness of one round -/

theorem toNat_rotateLeft (x : UInt64) {r : Nat} (hr : r < 64) :
    (rotateLeft x r).toNat = rotN x.toNat r := by
  show (x.toBitVec.rotateLeft r).toNat = _
  rw [BitVec.toNat_rotateLeft, Nat.mod_eq_of_lt hr]
  rfl

theorem toNat_chi (a b c : UInt64) :
    (a ^^^ (~~~ b &&& c)).toNat = a.toNat ^^^ ((b.toNat ^^^ 0xffffffffffffffff) &&& c.toNat) := by
  have hnot : ~~~ b = b ^^^ 0xffffffffffffffff := by
    apply UInt64.toBitVec_inj.mp
    show ~~~ b.toBitVec = b.toBitVec ^^^ BitVec.allOnes 64
    rw [BitVec.xor_allOnes]
  rw [hnot, UInt64.toNat_xor, UInt64.toNat_and, UInt64.toNat_xor]
  rfl

variable {p : Nat} {s : Lanes}

theorem lane_columnsN (c x : Nat) :
    lane (columnsN c) x = if x < 5 then lane c ((x + 4) % 5) ^^^ rotN (lane c ((x + 1) % 5)) 1
    else 0 := by
  have hwords :
    ∀ y ∈ [lane c 4 ^^^ rotN (lane c 1) 1, lane c 0 ^^^ rotN (lane c 2) 1,
    lane c 1 ^^^ rotN (lane c 3) 1,
      lane c 2 ^^^ rotN (lane c 4) 1, lane c 3 ^^^ rotN (lane c 0) 1], y < 2 ^ 64 := by
    simp only [List.forall_mem_cons]
    exact ⟨xor_rotN_lt _ _ _ _, xor_rotN_lt _ _ _ _, xor_rotN_lt _ _ _ _, xor_rotN_lt _ _ _ _,
      xor_rotN_lt _ _ _ _, nofun⟩
  unfold columnsN
  refine (lane_pack hwords x).trans ?_
  by_cases hx : x < 5
  · rw [if_pos hx]
    interval_cases x <;> rfl
  · rw [if_neg hx]
    have hnone :=
      List.getElem?_eq_none (l := [lane c 4 ^^^ rotN (lane c 1) 1, lane c 0 ^^^ rotN (lane c 2) 1,
      lane c 1 ^^^ rotN (lane c 3) 1, lane c 2 ^^^ rotN (lane c 4) 1,
        lane c 3 ^^^ rotN (lane c 0) 1]) (Nat.not_lt.mp hx)
    exact congrArg (·.getD 0) hnone

theorem lane_repeat {d : Nat} (hd : ∀ x, 5 ≤ x → lane d x = 0) {i : Nat} (hi : i < 25) :
    lane ((d ||| d <<< 320) ||| (d ||| d <<< 320) <<< 640 ||| d <<< 1280) i = lane d (i % 5) := by
  have h5 : ∀ q i, lane (q <<< 320) i = if i < 5 then 0 else lane q (i - 5) :=
    fun q i => lane_shiftLeft q 5 i
  have h10 : ∀ q i, lane (q <<< 640) i = if i < 10 then 0 else lane q (i - 10) :=
    fun q i => lane_shiftLeft q 10 i
  have h20 : ∀ q i, lane (q <<< 1280) i = if i < 20 then 0 else lane q (i - 20) :=
    fun q i => lane_shiftLeft q 20 i
  simp only [lane_or, h5, h10, h20]
  interval_cases i <;> simp [hd]

theorem Packs.theta (h : Packs p s) : Packs (thetaN p) (theta s) := by
  have h5 : ∀ i, lane (p >>> 320) i = lane p (i + 5) := fun i => lane_shiftRight p 5 i
  have h10 : ∀ i, lane (p >>> 640) i = lane p (i + 10) := fun i => lane_shiftRight p 10 i
  have h15 : ∀ i, lane (p >>> 960) i = lane p (i + 15) := fun i => lane_shiftRight p 15 i
  have h20 : ∀ i, lane (p >>> 1280) i = lane p (i + 20) := fun i => lane_shiftRight p 20 i
  obtain ⟨c, hc⟩ : ∃ c, p ^^^ p >>> 320 ^^^ p >>> 640 ^^^ p >>> 960 ^^^ p >>> 1280 = c := ⟨_, rfl⟩
  have hparity : ∀ x, lane c x = lane p x ^^^ lane p (x + 5) ^^^ lane p (x + 10) ^^^ lane p (x + 15)
    ^^^ lane p (x + 20) := by
    intro x
    rw [← hc, lane_xor, lane_xor, lane_xor, lane_xor, h5, h10, h15, h20]
  have htheta : thetaN p = p ^^^ ((columnsN c ||| columnsN c <<< 320)
      ||| (columnsN c ||| columnsN c <<< 320) <<< 640 ||| columnsN c <<< 1280) := by
    unfold thetaN
    rw [forceNat_eq, forceNat_eq, forceNat_eq, ← hc]
    rfl
  intro i hi
  have hcolumn : i % 5 < 5 := Nat.mod_lt _ (by decide)
  rw [htheta, lane_xor,
    lane_repeat (fun x hx => by rw [lane_columnsN, if_neg (Nat.not_lt.mpr hx)]) hi, lane_columnsN,
    if_pos hcolumn, hparity, hparity]
  simp only [GoatCoin.theta, Vector.getElem_ofFn, UInt64.toNat_xor,
    toNat_rotateLeft _ (show 1 < 64 by decide)]
  rw [h i hi, h _ (by omega), h _ (by omega), h _ (by omega), h _ (by omega),
    h _ (by omega), h _ (by omega), h _ (by omega), h _ (by omega), h _ (by omega), h _ (by omega)]

theorem packs_pack (s : Lanes) : Packs (pack (lanes s)) s := by
  intro i hi
  rw [lane_pack]
  · simp [lanes, hi]
  · intro x hx
    obtain ⟨w, -, rfl⟩ := List.mem_map.mp hx
    exact w.toNat_lt

theorem Packs.rhoPi (h : Packs p s) : Packs (rhoPiN p) (rhoPi s) := by
  have hlane : ∀ i (hi : i < 25), lane p i = s[i].toNat := h
  have hpack : rhoPiN p = pack (lanes (GoatCoin.rhoPi s)) := by
    rw [lanes_eq]
    simp [rhoPiN, GoatCoin.rhoPi, keccakPi, keccakRho, toNat_rotateLeft, hlane]
  rw [hpack]
  exact packs_pack _

theorem lane_rowMask (allowed : Nat → Bool) {i : Nat} (hi : i < 25) :
    lane (rowMask allowed) i = if allowed (i % 5) then 0xffffffffffffffff else 0 := by
  unfold rowMask
  rw [lane_pack]
  · simp [List.getD_eq_getElem?_getD, List.getElem?_map, List.getElem?_range hi]
  · intro x hx
    obtain ⟨j, -, rfl⟩ := List.mem_map.mp hx
    split
    · decide
    · decide

theorem lane_and_ones (q i : Nat) : lane q i &&& 0xffffffffffffffff = lane q i :=
  (Nat.and_two_pow_sub_one_eq_mod _ 64).trans (Nat.mod_eq_of_lt (lane_lt q i))

theorem lane_turn (p : Nat) {k : Nat} (hk : k < 5) {i : Nat} (hi : i < 25) :
    lane ((p >>> (64 * k) &&& rowMask (· < 5 - k))
      ||| (p <<< (64 * (5 - k)) &&& rowMask (5 - k ≤ ·))) i
      = lane p (5 * (i / 5) + (i % 5 + k) % 5) := by
  rw [lane_or, lane_and, lane_and, lane_shiftRight, lane_shiftLeft, lane_rowMask _ hi,
    lane_rowMask _ hi]
  by_cases hnext : i % 5 < 5 - k
  · have hwrap : ¬ 5 - k ≤ i % 5 := Nat.not_le.mpr hnext
    have hplace : i + k = 5 * (i / 5) + (i % 5 + k) % 5 := by omega
    simp only [decide_eq_true hnext, decide_eq_false hwrap, if_true, Bool.false_eq_true,
      if_false, lane_and_ones, Nat.and_zero, Nat.or_zero, hplace]
  · have hplace : i - (5 - k) = 5 * (i / 5) + (i % 5 + k) % 5 := by omega
    have hwrap : 5 - k ≤ i % 5 := Nat.not_lt.mp hnext
    have hfar : ¬ i < 5 - k := by omega
    simp only [decide_eq_false hnext, decide_eq_true hwrap, hfar, if_true, Bool.false_eq_true,
      if_false, lane_and_ones, Nat.and_zero, Nat.zero_or, hplace]

theorem Packs.chi (h : Packs p s) : Packs (chiN p) (chi s) := by
  intro i hi
  have hone := lane_turn p (show 1 < 5 by decide) hi
  have htwo := lane_turn p (show 2 < 5 by decide) hi
  show lane
    (p ^^^ ((((p >>> (64 * 1) &&& rowMask (· < 5 - 1))
    ||| (p <<< (64 * (5 - 1)) &&& rowMask (5 - 1 ≤ ·))) ^^^ ones)
    &&& ((p >>> (64 * 2) &&& rowMask (· < 5 - 2))
      ||| (p <<< (64 * (5 - 2)) &&& rowMask (5 - 2 ≤ ·))))) i = _
  rw [lane_xor, lane_and, lane_xor, hone, htwo, ones, lane_rowMask _ hi, if_pos rfl, h i hi,
    h _ (by omega), h _ (by omega)]
  unfold GoatCoin.chi
  rw [Vector.getElem_ofFn, toNat_chi]

theorem Packs.iota (h : Packs p s) (rc : UInt64) : Packs (Nat.xor p rc.toNat) (iota s rc) := by
  intro i hi
  show lane (p ^^^ rc.toNat) i = _
  rw [lane_xor, lane_word rc.toNat_lt, h i hi]
  unfold GoatCoin.iota
  rw [Vector.getElem_set]
  by_cases hzero : i = 0
  · subst hzero
    rw [if_pos rfl, if_pos rfl, UInt64.toNat_xor]
  · rw [if_neg hzero, if_neg (Ne.symm hzero), Nat.xor_zero]

theorem Packs.round (h : Packs p s) (rc : UInt64) :
    Packs (roundN p rc.toNat) (keccakRound s rc) := by
  unfold roundN
  rw [forceNat_eq, forceNat_eq, forceNat_eq]
  exact h.theta.rhoPi.chi.iota rc

theorem Packs.perm (h : Packs p s) : Packs (permN p) (keccakF s) := by
  show Packs ((keccakRc.map UInt64.toNat).foldl roundN p) (keccakRc.foldl keccakRound s)
  generalize keccakRc = rcs
  induction rcs generalizing p s with
  | nil => exact h
  | cons rc rcs ih =>
      rw [List.map_cons, List.foldl_cons, List.foldl_cons]
      exact ih (h.round rc)

/-! ## The sponge on numerals -/

noncomputable def absorbN (p : Nat) (block : List UInt8) : Nat :=
  permN (Nat.xor p (ofLE (block.take sha3Rate)))

noncomputable def absorbBlocksN : Nat → Nat → List UInt8 → Nat
  | 0, p, _ => p
  | n + 1, p, rest =>
      forceNat (absorbN p (rest.take sha3Rate)) fun p => absorbBlocksN n p (rest.drop sha3Rate)

theorem ofLE_drop (k : Nat) (bs : List UInt8) : ofLE (bs.drop k) = ofLE bs / 256 ^ k := by
  induction k generalizing bs with
  | zero => rw [List.drop_zero, Nat.pow_zero, Nat.div_one]
  | succ k ih =>
      cases bs with
      | nil => rw [List.drop_nil, ofLE, Nat.zero_div]
      | cons b bs =>
          have hb := b.toNat_lt
          have htail : (b.toNat + 256 * ofLE bs) / 256 = ofLE bs := by omega
          rw [List.drop_succ_cons, ih, ofLE, Nat.pow_succ', ← Nat.div_div_eq_div_mul, htail]

theorem ofLE_take (k : Nat) (bs : List UInt8) : ofLE (bs.take k) = ofLE bs % 256 ^ k := by
  induction k generalizing bs with
  | zero => rw [List.take_zero, Nat.pow_zero, Nat.mod_one, ofLE]
  | succ k ih =>
      cases bs with
      | nil => rw [List.take_nil, ofLE, Nat.zero_mod]
      | cons b bs =>
          have hb := b.toNat_lt
          have htail : (b.toNat + 256 * ofLE bs) / 256 = ofLE bs := by omega
          have hhead : (b.toNat + 256 * ofLE bs) % 256 = b.toNat := by omega
          rw [List.take_succ_cons, ofLE, ih, ofLE, Nat.pow_succ', Nat.mod_mul, htail, hhead]

theorem lane_ofLE (bs : List UInt8) (i : Nat) :
    lane (ofLE bs) i = ofLE ((bs.drop (i * 8)).take 8) := by
  have hpow : 2 ^ (64 * i) = 256 ^ (i * 8) := by
    rw [show 256 = 2 ^ 8 from rfl, ← Nat.pow_mul]
    congr 1
    omega
  rw [ofLE_take, ofLE_drop, ← hpow, ← Nat.shiftRight_eq_div_pow]
  rfl

theorem toNat_blockWord (block : List UInt8) (i : Nat) :
    (blockWord block i).toNat = ofLE ((block.drop (i * 8)).take 8) := by
  have hlt := ofLE_lt ((block.drop (i * 8)).take 8)
  have hlen : ((block.drop (i * 8)).take 8).length ≤ 8 := List.length_take_le _ _
  have hpow : 256 ^ ((block.drop (i * 8)).take 8).length ≤ 256 ^ 8 :=
    Nat.pow_le_pow_right (by decide) hlen
  rw [blockWord, UInt64.toNat_ofNat_of_lt' (Nat.lt_of_lt_of_le hlt hpow)]

theorem Packs.absorb (h : Packs p s) (block : List UInt8) :
    Packs (absorbN p block) (keccakAbsorb s block) := by
  refine Packs.perm fun i hi => ?_
  show lane (p ^^^ ofLE (block.take sha3Rate)) i = _
  rw [lane_xor, lane_ofLE, List.drop_take, h i hi, Vector.getElem_ofFn]
  by_cases hrate : i < 17
  · have hwhole : min 8 (sha3Rate - i * 8) = 8 := by
      show min 8 (136 - i * 8) = 8
      omega
    rw [if_pos hrate, UInt64.toNat_xor, toNat_blockWord, List.take_take, hwhole]
  · have hpast : sha3Rate - i * 8 = 0 := by
      show 136 - i * 8 = 0
      omega
    rw [if_neg hrate, hpast, List.take_zero, List.take_nil]
    exact Nat.xor_zero _

theorem Packs.absorbBlocks (h : Packs p s) (n : Nat) (rest : List UInt8) :
    Packs (absorbBlocksN n p rest) (absorbBlocks n s rest).1 := by
  induction n generalizing p s rest with
  | zero => exact h
  | succ n ih =>
      rw [absorbBlocksN, forceNat_eq]
      exact ih (h.absorb _) _

theorem packs_zero : Packs 0 (Vector.replicate 25 0) := by
  intro i hi
  rw [lane_zero, Vector.getElem_replicate]
  rfl

/-! ## A message as one numeral -/

theorem ofLE_append_zeros (bs : List UInt8) (k : Nat) :
    ofLE (bs ++ List.replicate k 0) = ofLE bs := by
  induction bs with
  | nil =>
      rw [List.nil_append]
      induction k with
      | zero => rfl
      | succ k ih =>
          show (0 : UInt8).toNat + 256 * ofLE (List.replicate k 0) = _
          rw [ih]
          rfl
  | cons b bs ih => rw [List.cons_append, ofLE, ih, ofLE]

theorem ofLE_modify_or (v : UInt8) {bs : List UInt8} {i : Nat} (hi : i < bs.length) :
    ofLE (bs.modify i (· ||| v)) = ofLE bs ||| v.toNat <<< (8 * i) := by
  have hcons : ∀ (b : UInt8) (x : Nat), b.toNat + 256 * x = x <<< 8 ||| b.toNat := by
    intro b x
    rw [← Nat.shiftLeft_add_eq_or_of_lt b.toNat_lt, Nat.shiftLeft_eq, Nat.add_comm, Nat.mul_comm]
  induction bs generalizing i with
  | nil => exact absurd hi (Nat.not_lt_zero i)
  | cons b bs ih =>
      cases i with
      | zero =>
          rw [List.modify_zero_cons, ofLE, ofLE, hcons, hcons, UInt8.toNat_or, Nat.or_assoc]
          rfl
      | succ i =>
          rw [List.modify_succ_cons, ofLE, ofLE, hcons, hcons, ih (Nat.lt_of_succ_lt_succ hi),
            Nat.shiftLeft_or_distrib,
            ← Nat.shiftLeft_add, Nat.mul_succ, Nat.or_assoc, Nat.or_assoc, Nat.or_comm b.toNat]

/-- The sponge over `n + 1` blocks that are one numeral. -/
noncomputable def spongeN : Nat → Nat → Nat → Nat
  | 0, p, m => permN (Nat.xor p m)
  | n + 1, p, m =>
      forceNat (permN (Nat.xor p (Nat.mod m (256 ^ sha3Rate)))) fun p =>
        forceNat (Nat.div m (256 ^ sha3Rate)) fun m => spongeN n p m

theorem spongeN_ofLE (n p : Nat) {bs : List UInt8} (hlen : bs.length = (n + 1) * sha3Rate) :
    spongeN n p (ofLE bs) = absorbN (absorbBlocksN n p (bs.take (n * sha3Rate)))
      (bs.drop (n * sha3Rate)) := by
  induction n generalizing p bs with
  | zero =>
      have hall : bs.take sha3Rate = bs :=
        List.take_of_length_le (by rw [hlen]; exact Nat.le_refl _)
      rw [spongeN, Nat.zero_mul, List.take_zero, List.drop_zero, absorbBlocksN, absorbN, hall]
  | succ n ih =>
      have hblock : Nat.mod (ofLE bs) (256 ^ sha3Rate) = ofLE (bs.take sha3Rate) :=
        (ofLE_take sha3Rate bs).symm
      have hrest : Nat.div (ofLE bs) (256 ^ sha3Rate) = ofLE (bs.drop sha3Rate) :=
        (ofLE_drop sha3Rate bs).symm
      have hfirst : (bs.take ((n + 1) * sha3Rate)).take sha3Rate = bs.take sha3Rate := by
        rw [List.take_take, Nat.min_eq_left (Nat.le_mul_of_pos_left _ n.succ_pos)]
      have hlater :
        (bs.take ((n + 1) * sha3Rate)).drop sha3Rate = (bs.drop sha3Rate).take (n * sha3Rate) := by
        rw [List.drop_take, Nat.succ_mul, Nat.add_sub_cancel]
      have hlast : bs.drop ((n + 1) * sha3Rate) = (bs.drop sha3Rate).drop (n * sha3Rate) := by
        rw [List.drop_drop, Nat.succ_mul, Nat.add_comm]
      have hstep : absorbN p (bs.take sha3Rate) = permN (Nat.xor p (ofLE (bs.take sha3Rate))) := by
        rw [absorbN, List.take_take, Nat.min_self]
      rw [spongeN, forceNat_eq, forceNat_eq, hblock, hrest, absorbBlocksN, forceNat_eq, hfirst,
        hlater, hlast, hstep,
        ih _ (by rw [List.length_drop, hlen, Nat.succ_mul (n + 1), Nat.add_sub_cancel])]

/-! ## Digests -/

/-- The first four lanes. -/
def squeezeN (p : Nat) : List UInt8 := [lane p 0, lane p 1, lane p 2, lane p 3].flatMap (toLE 8)

theorem Packs.squeeze (h : Packs p s) : (squeeze32 s).toList = squeezeN p := by
  unfold squeezeN
  rw [h 0 (by decide), h 1 (by decide), h 2 (by decide), h 3 (by decide)]
  simp [squeeze32]

/-- The digest of `pre ‖ t`, from the state after the whole blocks of `pre`. -/
noncomputable def digestN (p : Nat) (t : List UInt8) : List UInt8 :=
  forceNat (absorbN p (padBlock t)) squeezeN

theorem absorbBlocks_append (n : Nat) (s : Lanes) {pre : List UInt8} (t : List UInt8)
    (hpre : pre.length = n * sha3Rate) :
    absorbBlocks n s (pre ++ t) = ((absorbBlocks n s pre).1, t) := by
  induction n generalizing s pre with
  | zero =>
      have : pre = [] := List.length_eq_zero_iff.mp (by simpa using hpre)
      rw [this]
      rfl
  | succ n ih =>
      have hle : sha3Rate ≤ pre.length := by rw [hpre, Nat.succ_mul]; exact Nat.le_add_left _ _
      rw [absorbBlocks, absorbBlocks, List.take_append_of_le_length hle,
        List.drop_append_of_le_length hle, ih]
      rw [List.length_drop, hpre, Nat.succ_mul, Nat.add_sub_cancel]

/-- The state after the whole blocks of `pre`. -/
noncomputable def absorbed (n : Nat) (pre : List UInt8) : Nat := absorbBlocksN n 0 pre

theorem packs_absorbed (n : Nat) (pre : List UInt8) :
    Packs (absorbed n pre) (absorbBlocks n (Vector.replicate 25 0) pre).1 :=
  packs_zero.absorbBlocks n pre

theorem sha3_256_eq_digestN {n : Nat} {pre t : List UInt8} (hpre : pre.length = n * sha3Rate)
    (ht : t.length < sha3Rate) :
    (sha3_256 (pre ++ t)).toList = digestN (absorbed n pre) t := by
  have hn : (pre ++ t).length / sha3Rate = n := by
    rw [List.length_append, hpre, Nat.add_comm, Nat.add_mul_div_right _ _ (by decide),
      Nat.div_eq_of_lt ht, Nat.zero_add]
  rw [sha3_256, hn, absorbBlocks_append n _ t hpre, digestN, forceNat_eq]
  exact ((packs_absorbed n pre).absorb (padBlock t)).squeeze

/-- Digests with a common prefix of whole blocks, the prefix absorbed once. -/
noncomputable def digestsN (n : Nat) (pre : List UInt8) (tails : List (List UInt8)) :
    List (List UInt8) :=
  forceNat (absorbed n pre) fun p => tails.map (digestN p)

theorem digestsN_eq {n : Nat} {pre : List UInt8} {tails : List (List UInt8)}
    (hpre : pre.length = n * sha3Rate) (htails : ∀ t ∈ tails, t.length < sha3Rate) :
    tails.map (fun t => (sha3_256 (pre ++ t)).toList) = digestsN n pre tails := by
  rw [digestsN, forceNat_eq]
  exact List.map_congr_left fun t ht => sha3_256_eq_digestN hpre (htails t ht)

end GoatCoin.Sha3Eval
